import Mathlib.Analysis.SpecialFunctions.Trigonometric.Basic
import GpsDeniedDrone.ElementTree
import GpsDeniedDrone.RotationAction
import GpsDeniedDrone.StateTfPublisher

/-!
world_markers.py: the boxes of the simulated world, read from its SDF file, as markers
for RViz. The picture is right if each marker covers the points its box covers.
-/
namespace WorldMarkers
open ElementTree FrameTransforms

class FloatTrig (K : Type) where
  cos : K → K
  sin : K → K

noncomputable instance : FloatTrig ℝ := ⟨Real.cos, Real.sin⟩

structure ColorRGBA (K : Type) where
  r : K
  g : K
  b : K
  a : K

structure Marker (K : Type) where
  frameId : String
  ns : String
  id : Nat
  type : Nat
  action : Nat
  position : Vec3 K
  orientation : Quat K
  scale : Vec3 K
  color : ColorRGBA K

def cube : Nat := 1

def add : Nat := 0

inductive Crash where
  | attributeError | valueError | osError | lookupError
  deriving DecidableEq, Repr

/-- What `ET.parse` raises: there is no such file, the system does not let it be read (a
    directory, no permission), it is not XML, or Python does not know the encoding it
    declares or cannot parse it in that. -/
inductive FileError where
  | fileNotFoundError | osError | parseError | lookupError | valueError
  deriving DecidableEq, Repr

/-- The `except` of `__init__`: what it lets pass. -/
def FileError.uncaught : FileError → Option Crash
  | .fileNotFoundError | .parseError => none
  | .osError => some .osError
  | .lookupError => some .lookupError
  | .valueError => some .valueError

/-- Python's `str.isspace` on one character. -/
def isSpace (c : Char) : Bool :=
  c.toNat ∈ [9, 10, 11, 12, 13, 28, 29, 30, 31, 32, 133, 160, 5760, 8232, 8233, 8239, 8287,
    12288] ||
    (8192 ≤ c.toNat && c.toNat ≤ 8202)

/-- Python's `str.split()`. -/
def split (s : String) : List String :=
  ((s.toList.splitOnP isSpace).filter fun word => word ≠ []).map String.ofList

def boxSizePath : List String := ["link", "visual", "geometry", "box", "size"]

def diffusePath : List String := ["link", "visual", "material", "diffuse"]

section Build
variable {K : Type} [Field K] [FloatTrig K]

/-- `_euler_to_quat`, with the scalar part first. -/
def eulerToQuat (roll pitch yaw : K) : Quat K :=
  let cr := FloatTrig.cos (roll / (2 : ℕ))
  let sr := FloatTrig.sin (roll / (2 : ℕ))
  let cp := FloatTrig.cos (pitch / (2 : ℕ))
  let sp := FloatTrig.sin (pitch / (2 : ℕ))
  let cy := FloatTrig.cos (yaw / (2 : ℕ))
  let sy := FloatTrig.sin (yaw / (2 : ℕ))
  { w := cr * cp * cy + sr * sp * sy
    x := sr * cp * cy - cr * sp * sy
    y := cr * sp * cy + sr * cp * sy
    z := cr * cp * sy - sr * sp * cy }

/-- `float` reads one word; every failure of it is a ValueError. -/
def floats (float : String → Option K) (e : Element) : Except Crash (List K) :=
  match e.text with
  | none => .error .attributeError
  | some text =>
    match (split text).mapM float with
    | none => .error .valueError
    | some xs => .ok xs

/-- `r, g, b, *rest`, opaque unless a fourth number says otherwise. -/
def diffuse (float : String → Option K) : Option Element → Except Crash (ColorRGBA K)
  | none => .ok ⟨(6 : ℕ) / (10 : ℕ), (6 : ℕ) / (10 : ℕ), (6 : ℕ) / (10 : ℕ), 1⟩
  | some material =>
    match floats float material with
    | .error crash => .error crash
    | .ok (r :: g :: b :: rest) => .ok ⟨r, g, b, rest.head?.getD 1⟩
    | .ok _ => .error .valueError

/-- The body of the loop of `_build_markers`; `none` where it continues with the next model. -/
def buildMarker (float : String → Option K) (markerId : Nat) (model : Element) :
    Except Crash (Option (Marker K)) :=
  if model.get "name" = some "ground_plane" then .ok none
  else
    match model.find boxSizePath, model.find ["pose"] with
    | some boxSize, some pose =>
      match floats float boxSize with
      | .error crash => .error crash
      | .ok [sx, sy, sz] =>
        match floats float pose with
        | .error crash => .error crash
        | .ok [x, y, z, roll, pitch, yaw] =>
          match diffuse float (model.find diffusePath) with
          | .error crash => .error crash
          | .ok color => .ok (some
            { frameId := "odom"
              ns := "world_props"
              id := markerId
              type := cube
              action := add
              position := ⟨x, y, z⟩
              orientation := eulerToQuat roll pitch yaw
              scale := ⟨sx, sy, sz⟩
              color := color })
        | .ok _ => .error .valueError
      | .ok _ => .error .valueError
    | _, _ => .ok none

def buildFrom (float : String → Option K) : Nat → List Element → Except Crash (List (Marker K))
  | _, [] => .ok []
  | markerId, model :: rest => do
    let marker ← buildMarker float markerId model
    let markers ← buildFrom float (markerId + 1) rest
    return marker.toList ++ markers

def buildMarkers (float : String → Option K) (root : Element) : Except Crash (List (Marker K)) :=
  buildFrom float 0 (root.iter "model")

def published (float : String → Option K) :
    Except FileError Element → Except Crash (List (Marker K))
  | .error error =>
    match error.uncaught with
    | none => .ok []
    | some crash => .error crash
  | .ok root => buildMarkers float root

end Build

/- What the file says. -/

/-- A box of the world: its pose by SDF's convention, angles about fixed axes, and its size. -/
structure Box (K : Type) where
  position : Vec3 K
  roll : K
  pitch : K
  yaw : K
  size : Vec3 K

section Reading
variable {K : Type}

def Numbers (float : String → Option K) (e : Element) (xs : List K) : Prop :=
  ∃ text, e.text = some text ∧ (split text).mapM float = some xs

section Floats
variable {float : String → Option K} {e : Element} {xs ys : List K}

theorem numbers_unique (first : Numbers float e xs) (second : Numbers float e ys) : xs = ys := by
  obtain ⟨text, here, read⟩ := first
  obtain ⟨text', here', read'⟩ := second
  rw [here, Option.some.injEq] at here'
  subst here'
  exact Option.some.inj (read.symm.trans read')

theorem floats_ok (ok : floats float e = .ok xs) : Numbers float e xs := by
  unfold floats at ok
  split at ok
  · cases ok
  · rename_i text here
    split at ok
    · cases ok
    · rename_i ys read
      cases ok
      exact ⟨text, here, read⟩

theorem floats_error {crash : Crash} (failed : floats float e = .error crash) :
    ¬ Numbers float e xs := by
  intro numbers
  obtain ⟨text, here, read⟩ := numbers
  simp [floats, here, read] at failed

end Floats

structure Describes (float : String → Option K) (model : Element) (b : Box K) : Prop where
  size : ∃ e, model.find boxSizePath = some e ∧
    Numbers float e [b.size.x, b.size.y, b.size.z]
  pose : ∃ e, model.find ["pose"] = some e ∧
    Numbers float e [b.position.x, b.position.y, b.position.z, b.roll, b.pitch, b.yaw]

/-- A prop of the world: not the ground, with a box to see and a place. -/
def IsProp (model : Element) : Prop :=
  model.get "name" ≠ some "ground_plane" ∧ (model.find boxSizePath).isSome = true ∧
    (model.find ["pose"]).isSome = true

instance (model : Element) : Decidable (IsProp model) := inferInstanceAs (Decidable (_ ∧ _ ∧ _))

variable [Field K]

def Coloured (float : String → Option K) (model : Element) (c : ColorRGBA K) : Prop :=
  (model.find diffusePath = none ∧
      c = ⟨(6 : ℕ) / (10 : ℕ), (6 : ℕ) / (10 : ℕ), (6 : ℕ) / (10 : ℕ), 1⟩) ∨
    ∃ e rest, model.find diffusePath = some e ∧ Numbers float e (c.r :: c.g :: c.b :: rest) ∧
      c.a = rest.head?.getD 1

def Readable (float : String → Option K) (model : Element) : Prop :=
  (∃ b, Describes float model b) ∧ ∃ c, Coloured float model c

variable {float : String → Option K} {model : Element}

theorem diffuse_ok {c : ColorRGBA K} (ok : diffuse float (model.find diffusePath) = .ok c) :
    Coloured float model c := by
  unfold diffuse at ok
  split at ok
  · rename_i plain
    cases ok
    exact Or.inl ⟨plain, rfl⟩
  · rename_i material found
    split at ok
    · cases ok
    · rename_i r g b rest read
      cases ok
      exact Or.inr ⟨material, rest, found, floats_ok read, rfl⟩
    · cases ok

theorem diffuse_error {crash : Crash} {c : ColorRGBA K}
    (failed : diffuse float (model.find diffusePath) = .error crash) :
    ¬ Coloured float model c := by
  intro coloured
  rcases coloured with ⟨plain, _⟩ | ⟨material, rest, found, numbers, _⟩
  · simp [diffuse, plain] at failed
  · rw [found] at failed
    unfold diffuse at failed
    dsimp only at failed
    split at failed
    · rename_i unread
      exact floats_error unread numbers
    · cases failed
    · rename_i few read
      exact few _ _ _ _ (numbers_unique (floats_ok read) numbers)

theorem unreadable_size {boxSize : Element} (found : model.find boxSizePath = some boxSize)
    (unread : ∀ sx sy sz, ¬ Numbers float boxSize [sx, sy, sz]) : ¬ Readable float model := by
  intro readable
  obtain ⟨⟨b, ⟨e, same, numbers⟩, _⟩, _⟩ := readable
  rw [found, Option.some.injEq] at same
  exact unread _ _ _ (same ▸ numbers)

theorem unreadable_pose {pose : Element} (placed : model.find ["pose"] = some pose)
    (unread : ∀ x y z roll pitch yaw, ¬ Numbers float pose [x, y, z, roll, pitch, yaw]) :
    ¬ Readable float model := by
  intro readable
  obtain ⟨⟨b, _, ⟨e, same, numbers⟩⟩, _⟩ := readable
  rw [placed, Option.some.injEq] at same
  exact unread _ _ _ _ _ _ (same ▸ numbers)

theorem unreadable_diffuse {crash : Crash}
    (failed : diffuse float (model.find diffusePath) = .error crash) : ¬ Readable float model := by
  intro readable
  obtain ⟨_, c, coloured⟩ := readable
  exact diffuse_error failed coloured

variable [FloatTrig K]

def markerOf (markerId : Nat) (b : Box K) (c : ColorRGBA K) : Marker K :=
  ⟨"odom", "world_props", markerId, cube, add, b.position, eulerToQuat b.roll b.pitch b.yaw,
    b.size, c⟩

inductive Built (float : String → Option K) (markerId : Nat) (model : Element) :
    Except Crash (Option (Marker K)) → Prop where
  | skipped (other : ¬ IsProp model) : Built float markerId model (.ok none)
  | shown (prop : IsProp model) (b : Box K) (c : ColorRGBA K) (read : Describes float model b)
      (coloured : Coloured float model c) :
      Built float markerId model (.ok (some (markerOf markerId b c)))
  | unreadable (crash : Crash) (prop : IsProp model) (unread : ¬ Readable float model) :
      Built float markerId model (.error crash)

theorem buildMarker_built (float : String → Option K) (markerId : Nat) (model : Element) :
    Built float markerId model (buildMarker float markerId model) := by
  unfold buildMarker
  split
  · rename_i ground
    exact Built.skipped fun prop => prop.1 ground
  · rename_i named
    split
    · rename_i boxSize pose found placed
      have prop : IsProp model := ⟨named, by rw [found]; rfl, by rw [placed]; rfl⟩
      split
      · rename_i crash unread
        exact Built.unreadable crash prop (unreadable_size found fun _ _ _ => floats_error unread)
      · rename_i sx sy sz sizes
        split
        · rename_i crash unread
          exact Built.unreadable crash prop
            (unreadable_pose placed fun _ _ _ _ _ _ => floats_error unread)
        · rename_i x y z roll pitch yaw numbers
          have read : Describes float model ⟨⟨x, y, z⟩, roll, pitch, yaw, ⟨sx, sy, sz⟩⟩ :=
            ⟨⟨boxSize, found, floats_ok sizes⟩, ⟨pose, placed, floats_ok numbers⟩⟩
          split
          · rename_i crash unread
            exact Built.unreadable crash prop (unreadable_diffuse unread)
          · rename_i color coloured
            exact Built.shown prop _ color read (diffuse_ok coloured)
        · rename_i wrong read
          refine Built.unreadable _ prop (unreadable_pose placed fun _ _ _ _ _ _ numbers => ?_)
          exact wrong _ _ _ _ _ _ (numbers_unique (floats_ok read) numbers)
      · rename_i wrong read
        refine Built.unreadable _ prop (unreadable_size found fun _ _ _ numbers => ?_)
        exact wrong _ _ _ (numbers_unique (floats_ok read) numbers)
    · rename_i missing
      refine Built.skipped fun prop => ?_
      obtain ⟨boxSize, found⟩ := Option.isSome_iff_exists.mp prop.2.1
      obtain ⟨pose, placed⟩ := Option.isSome_iff_exists.mp prop.2.2
      exact missing boxSize pose found placed

end Reading

/- The two pictures of a box. -/

section Geometry

noncomputable def rotX (a : ℝ) (v : Vec3 ℝ) : Vec3 ℝ :=
  ⟨v.x, Real.cos a * v.y - Real.sin a * v.z, Real.sin a * v.y + Real.cos a * v.z⟩

noncomputable def rotY (a : ℝ) (v : Vec3 ℝ) : Vec3 ℝ :=
  ⟨Real.cos a * v.x + Real.sin a * v.z, v.y, Real.cos a * v.z - Real.sin a * v.x⟩

noncomputable def rotZ (a : ℝ) (v : Vec3 ℝ) : Vec3 ℝ :=
  ⟨Real.cos a * v.x - Real.sin a * v.y, Real.sin a * v.x + Real.cos a * v.y, v.z⟩

def cuboid (size : Vec3 ℝ) : Set (Vec3 ℝ) :=
  { u | |u.x| ≤ size.x / (2 : ℕ) ∧ |u.y| ≤ size.y / (2 : ℕ) ∧ |u.z| ≤ size.z / (2 : ℕ) }

/-- The points of the box: rolled about x, pitched about y, yawed about z, then moved. -/
def Box.points (b : Box ℝ) : Set (Vec3 ℝ) :=
  (fun u => b.position + rotZ b.yaw (rotY b.pitch (rotX b.roll u))) '' cuboid b.size

def Marker.points (m : Marker ℝ) : Set (Vec3 ℝ) :=
  (fun u => m.position + quatRotateVector m.orientation u) '' cuboid m.scale

noncomputable def aboutX (a : ℝ) : Quat ℝ :=
  ⟨Real.cos (a / (2 : ℕ)), Real.sin (a / (2 : ℕ)), 0, 0⟩

noncomputable def aboutY (a : ℝ) : Quat ℝ :=
  ⟨Real.cos (a / (2 : ℕ)), 0, Real.sin (a / (2 : ℕ)), 0⟩

noncomputable def aboutZ (a : ℝ) : Quat ℝ :=
  ⟨Real.cos (a / (2 : ℕ)), 0, 0, Real.sin (a / (2 : ℕ))⟩

theorem aboutX_unit (a : ℝ) : (aboutX a).normSq = 1 := by
  have one := Real.cos_sq_add_sin_sq (a / (2 : ℕ))
  simp only [aboutX, Quat.normSq]
  linarith

theorem aboutY_unit (a : ℝ) : (aboutY a).normSq = 1 := by
  have one := Real.cos_sq_add_sin_sq (a / (2 : ℕ))
  simp only [aboutY, Quat.normSq]
  linarith

theorem aboutZ_unit (a : ℝ) : (aboutZ a).normSq = 1 := by
  have one := Real.cos_sq_add_sin_sq (a / (2 : ℕ))
  simp only [aboutZ, Quat.normSq]
  linarith

theorem half_angle (a : ℝ) :
    Real.cos a = 1 - 2 * Real.sin (a / (2 : ℕ)) ^ 2 ∧
      Real.sin a = 2 * Real.sin (a / (2 : ℕ)) * Real.cos (a / (2 : ℕ)) := by
  have whole : a = 2 * (a / (2 : ℕ)) := by
    push_cast
    ring
  have one := Real.cos_sq_add_sin_sq (a / (2 : ℕ))
  have cosine := Real.cos_two_mul (a / (2 : ℕ))
  have sine := Real.sin_two_mul (a / (2 : ℕ))
  rw [← whole] at cosine sine
  exact ⟨by linarith, sine⟩

theorem rotate_aboutX (a : ℝ) (v : Vec3 ℝ) : quatRotateVector (aboutX a) v = rotX a v := by
  obtain ⟨cosine, sine⟩ := half_angle a
  apply vec3_ext
  · simp only [quatRotateVector, aboutX, rotX]
    ring
  · simp only [quatRotateVector, aboutX, rotX, cosine, sine]
    ring
  · simp only [quatRotateVector, aboutX, rotX, cosine, sine]
    ring

theorem rotate_aboutY (a : ℝ) (v : Vec3 ℝ) : quatRotateVector (aboutY a) v = rotY a v := by
  obtain ⟨cosine, sine⟩ := half_angle a
  apply vec3_ext
  · simp only [quatRotateVector, aboutY, rotY, cosine, sine]
    ring
  · simp only [quatRotateVector, aboutY, rotY]
    ring
  · simp only [quatRotateVector, aboutY, rotY, cosine, sine]
    ring

theorem rotate_aboutZ (a : ℝ) (v : Vec3 ℝ) : quatRotateVector (aboutZ a) v = rotZ a v := by
  obtain ⟨cosine, sine⟩ := half_angle a
  apply vec3_ext
  · simp only [quatRotateVector, aboutZ, rotZ, cosine, sine]
    ring
  · simp only [quatRotateVector, aboutZ, rotZ, cosine, sine]
    ring
  · simp only [quatRotateVector, aboutZ, rotZ]
    ring

/-- The yaw is applied last, so it stands first. -/
theorem eulerToQuat_product (roll pitch yaw : ℝ) :
    eulerToQuat roll pitch yaw = quatMul (aboutZ yaw) (quatMul (aboutY pitch) (aboutX roll)) := by
  apply quat_ext <;>
  · simp only [eulerToQuat, FloatTrig.cos, FloatTrig.sin, quatMul, aboutX, aboutY, aboutZ]
    ring

theorem eulerToQuat_unit (roll pitch yaw : ℝ) : (eulerToQuat roll pitch yaw).normSq = 1 := by
  rw [eulerToQuat_product, normSq_quatMul, normSq_quatMul, aboutX_unit, aboutY_unit, aboutZ_unit,
    one_mul, one_mul]

theorem eulerToQuat_rotates (roll pitch yaw : ℝ) (v : Vec3 ℝ) :
    quatRotateVector (eulerToQuat roll pitch yaw) v = rotZ yaw (rotY pitch (rotX roll v)) := by
  have inner : (quatMul (aboutY pitch) (aboutX roll)).normSq = 1 := by
    rw [normSq_quatMul, aboutX_unit, aboutY_unit, one_mul]
  rw [eulerToQuat_product, quatRotateVector_quatMul ⟨_, aboutZ_unit yaw⟩ ⟨_, inner⟩,
    quatRotateVector_quatMul ⟨_, aboutY_unit pitch⟩ ⟨_, aboutX_unit roll⟩, rotate_aboutX,
    rotate_aboutY, rotate_aboutZ]

end Geometry

/- The whole world. -/

def props (markerId : Nat) (models : List Element) : List (Element × Nat) :=
  (models.zipIdx markerId).filter fun model => IsProp model.1

/-- A marker that is right for a prop: it covers the points of the box the file describes. -/
structure Pictures (float : String → Option ℝ) (prop : Element × Nat) (m : Marker ℝ) : Prop where
  id : m.id = prop.2
  frame : m.frameId = StateTfPublisher.odomFrame
  points : ∃ b, Describes float prop.1 b ∧ m.points = b.points
  unit : m.orientation.normSq = 1
  color : Coloured float prop.1 m.color

section World
variable {float : String → Option ℝ}

theorem markerOf_points (markerId : Nat) (b : Box ℝ) (c : ColorRGBA ℝ) :
    (markerOf markerId b c).points = b.points := by
  change (fun u => b.position + quatRotateVector (eulerToQuat b.roll b.pitch b.yaw) u) ''
    cuboid b.size = b.points
  simp only [eulerToQuat_rotates]
  rfl

theorem props_cons_prop {markerId : Nat} {model : Element} {rest : List Element}
    (prop : IsProp model) :
    props markerId (model :: rest) = (model, markerId) :: props (markerId + 1) rest := by
  simp [props, prop]

theorem props_cons_other {markerId : Nat} {model : Element} {rest : List Element}
    (other : ¬ IsProp model) : props markerId (model :: rest) = props (markerId + 1) rest := by
  simp [props, other]

theorem props_increasing (markerId : Nat) (models : List Element) :
    ((props markerId models).map Prod.snd).Pairwise (· < ·) ∧
      ∀ model ∈ props markerId models, markerId ≤ model.2 := by
  induction models generalizing markerId with
  | nil => exact ⟨List.Pairwise.nil, fun model mem => nomatch mem⟩
  | cons model rest ih =>
    obtain ⟨increasing, above⟩ := ih (markerId + 1)
    by_cases prop : IsProp model
    · rw [props_cons_prop prop]
      refine ⟨List.pairwise_cons.mpr ⟨fun number mem => ?_, increasing⟩, fun other mem => ?_⟩
      · obtain ⟨later, found, rfl⟩ := List.mem_map.mp mem
        exact above later found
      · rcases List.mem_cons.mp mem with rfl | found
        · exact Nat.le_refl _
        · exact Nat.le_of_succ_le (above other found)
    · rw [props_cons_other prop]
      exact ⟨increasing, fun other mem => Nat.le_of_succ_le (above other mem)⟩

theorem mem_props (markerId : Nat) {models : List Element} {model : Element}
    (mem : model ∈ models) (prop : IsProp model) :
    ∃ number, (model, number) ∈ props markerId models := by
  induction models generalizing markerId with
  | nil => cases mem
  | cons first rest ih =>
    rcases List.mem_cons.mp mem with rfl | later
    · exact ⟨markerId, by simp [props_cons_prop prop]⟩
    · obtain ⟨number, found⟩ := ih (markerId + 1) later
      by_cases shown : IsProp first
      · exact ⟨number, by simp [props_cons_prop shown, found]⟩
      · exact ⟨number, by simpa [props_cons_other shown] using found⟩

theorem partner {found : List (Element × Nat)} {markers : List (Marker ℝ)}
    (pictures : List.Forall₂ (Pictures float) found markers) {prop : Element × Nat}
    (mem : prop ∈ found) : ∃ m ∈ markers, Pictures float prop m := by
  induction pictures with
  | nil => cases mem
  | cons picture _ ih =>
    rcases List.mem_cons.mp mem with rfl | later
    · exact ⟨_, List.mem_cons_self, picture⟩
    · obtain ⟨m, shown, right⟩ := ih later
      exact ⟨m, List.mem_cons_of_mem _ shown, right⟩

theorem pictures_ids {found : List (Element × Nat)} {markers : List (Marker ℝ)}
    (pictures : List.Forall₂ (Pictures float) found markers) :
    markers.map Marker.id = found.map Prod.snd := by
  induction pictures with
  | nil => rfl
  | cons picture _ ih => rw [List.map_cons, List.map_cons, picture.id, ih]

theorem buildFrom_error {markerId : Nat} {model : Element} {rest : List Element} {crash : Crash}
    (failed : buildMarker float markerId model = .error crash) :
    buildFrom float markerId (model :: rest) = .error crash := by
  rw [buildFrom, failed]
  rfl

theorem buildFrom_ok {markerId : Nat} {model : Element} {rest : List Element}
    {marker : Option (Marker ℝ)} (built : buildMarker float markerId model = .ok marker) :
    buildFrom float markerId (model :: rest) =
      (buildFrom float (markerId + 1) rest).map (marker.toList ++ ·) := by
  rw [buildFrom, built]
  cases buildFrom float (markerId + 1) rest <;> rfl

def LoopLaw (float : String → Option ℝ) (markerId : Nat) (models : List Element) :
    Except Crash (List (Marker ℝ)) → Prop
  | .ok markers => List.Forall₂ (Pictures float) (props markerId models) markers
  | .error _ => ∃ model ∈ models, IsProp model ∧ ¬ Readable float model

theorem buildFrom_law (float : String → Option ℝ) (markerId : Nat) (models : List Element) :
    LoopLaw float markerId models (buildFrom float markerId models) := by
  induction models generalizing markerId with
  | nil => exact List.Forall₂.nil
  | cons model rest ih =>
    have later := ih (markerId + 1)
    have here := buildMarker_built float markerId model
    generalize made : buildMarker float markerId model = built at here
    cases here with
    | unreadable crash prop unread =>
      rw [buildFrom_error made]
      exact ⟨model, List.mem_cons_self, prop, unread⟩
    | skipped other =>
      rw [buildFrom_ok made]
      cases rest_built : buildFrom float (markerId + 1) rest with
      | ok markers =>
        rw [rest_built] at later
        change List.Forall₂ _ (props markerId (model :: rest)) markers
        rw [props_cons_other other]
        exact later
      | error crash =>
        rw [rest_built] at later
        obtain ⟨bad, mem, why⟩ := later
        exact ⟨bad, List.mem_cons_of_mem model mem, why⟩
    | shown prop b c read coloured =>
      rw [buildFrom_ok made]
      cases rest_built : buildFrom float (markerId + 1) rest with
      | ok markers =>
        rw [rest_built] at later
        have picture : Pictures float (model, markerId) (markerOf markerId b c) :=
          ⟨rfl, rfl, ⟨b, read, markerOf_points markerId b c⟩, eulerToQuat_unit _ _ _, coloured⟩
        change List.Forall₂ _ (props markerId (model :: rest)) (markerOf markerId b c :: markers)
        rw [props_cons_prop prop]
        exact List.Forall₂.cons picture later
      | error crash =>
        rw [rest_built] at later
        obtain ⟨bad, mem, why⟩ := later
        exact ⟨bad, List.mem_cons_of_mem model mem, why⟩

end World

def WorldLaw (float : String → Option ℝ) :
    Except FileError Element → Except Crash (List (Marker ℝ)) → Prop
  | .error .fileNotFoundError, made => made = .ok []
  | .error .parseError, made => made = .ok []
  | .error .osError, made => made = .error .osError
  | .error .lookupError, made => made = .error .lookupError
  | .error .valueError, made => made = .error .valueError
  | .ok root, .ok markers =>
    List.Forall₂ (Pictures float) (props 0 (root.iter "model")) markers ∧
      (markers.map Marker.id).Pairwise (· < ·) ∧
      ∀ model, Inside model root → model.tag = "model" → IsProp model →
        ∃ m ∈ markers, ∃ b, Describes float model b ∧ m.points = b.points
  | .ok root, .error _ => ∃ model, Inside model root ∧ model.tag = "model" ∧ IsProp model ∧
      ¬ Readable float model

/-- RViz shows the world as it is: whatever the tree, however deep its models, each prop
    has one marker, in the order of the document and numbered by its model, which covers
    the very points of the box; or some prop cannot be read. A file that is missing or
    malformed gives no markers, any other failure to read it is a crash. -/
theorem markers_show_the_world (float : String → Option ℝ) (file : Except FileError Element) :
    WorldLaw float file (published float file) := by
  cases file with
  | error error => cases error <;> rfl
  | ok root =>
    have loop : LoopLaw float 0 (root.iter "model") (published float (.ok root)) :=
      buildFrom_law float 0 (root.iter "model")
    cases built : published float (.ok root) with
    | error crash =>
      rw [built] at loop
      obtain ⟨model, mem, prop, unread⟩ := loop
      obtain ⟨inside, tag⟩ := (mem_iter root).mp mem
      exact ⟨model, inside, tag, prop, unread⟩
    | ok markers =>
      rw [built] at loop
      have pictures : List.Forall₂ (Pictures float) (props 0 (root.iter "model")) markers := loop
      refine ⟨pictures, ?_, ?_⟩
      · rw [pictures_ids pictures]
        exact (props_increasing 0 _).1
      · intro model inside tag prop
        obtain ⟨number, found⟩ := mem_props 0 ((mem_iter root).mpr ⟨inside, tag⟩) prop
        obtain ⟨m, mem, picture⟩ := partner pictures found
        exact ⟨m, mem, picture.points⟩

end WorldMarkers
