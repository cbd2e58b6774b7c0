import GpsDeniedDrone.LocalizationSwitch

/-!
Several switches in a row, on a PX4 that keeps its parameters between them.
-/
namespace SetLocalizationSource
open PythonFloat PastTime RegisterLink

/-- A call that returns True leaves `final` where PX4 held `start`. -/
def Succeeds (source : String) (start final : String → BitVec 32) : Prop :=
  ∃ arm run, ((switch source arm start).after run).call.phase = .returned true ∧
    ((switch source arm start).after run).link.store = final

inductive Switches (start : String → BitVec 32) : List String → (String → BitVec 32) → Prop where
  | none : Switches start [] start
  | call {earlier : List String} {before final : String → BitVec 32} (source : String)
      (history : Switches start earlier before) (success : Succeeds source before final) :
      Switches start (source :: earlier) final

def fusionKeys : List String := ["EKF2_GPS_CTRL", "EKF2_EV_CTRL", "EKF2_NOAID_TOUT"]

theorem step_returned {s : System} {ok : Bool} (a : Action)
    (returned : s.call.phase = .returned ok) : (step s a).1.call.phase = .returned ok := by
  cases a with
  | heartbeat | proceed | receive | timeout => simp [step, returned]
  | serve name word =>
    by_cases mem : (name, word) ∈ s.link.requests <;> simp [step, mem, returned]
  | report => exact returned

theorem source_of_success {source : String} {start final : String → BitVec 32}
    (success : Succeeds source start final) : ∃ ints, sources.lookup source = some ints := by
  obtain ⟨arm, run, returned, _⟩ := success
  cases known : sources.lookup source with
  | some ints => exact ⟨ints, rfl⟩
  | none =>
    have refused : ((switch source arm start).after run).call.phase = .returned false := by
      apply (switch source arm start).invariant (fun _ s => s.call.phase = .returned false)
      · simp [switch, setLocalizationSource, known]
      · exact fun _ a before => step_returned a before
    rw [refused] at returned
    cases returned

theorem store_of_success {source : String} {ints : List (String × Int)}
    {start final : String → BitVec 32} (known : sources.lookup source = some ints)
    (success : Succeeds source start final) :
    (∀ p ∈ ints, unpackInt (final p.1) = p.2) ∧
      ∀ name, (∀ arm, name ∉ (profile source ints (leverArmFrd arm)).map Param.name) →
        final name = start name := by
  obtain ⟨arm, run, returned, rfl⟩ := success
  have sound := after_sound known arm start run
  constructor
  · intro p mem
    have param : (⟨p.1, .int p.2⟩ : Param) ∈ profile source ints (leverArmFrd arm) :=
      List.mem_append_left _ (List.mem_map_of_mem mem)
    exact held_of_true sound returned param trivial
  · intro name other
    rcases sound.faithful.stored name with same | written
    · exact same
    · have requested := requested_of_mem written
      rw [← List.mem_reverse, (all_sent sound returned).2] at requested
      exact absurd requested (other arm)

theorem word_of_int {w w' : BitVec 32} {v : Int} (one : unpackInt w = v) (two : unpackInt w' = v) :
    w = w' := BitVec.toInt_inj.mp (one.trans two.symm)

/-- GPS mode does not name the no-aiding timeout: the latest vision switch decides. -/
theorem timeout_after {start final : String → BitVec 32} {history : List String}
    (switches : Switches start history final) :
    final "EKF2_NOAID_TOUT" =
      if "vision" ∈ history then BitVec.ofInt 32 10000000 else start "EKF2_NOAID_TOUT" := by
  induction switches with
  | none => rfl
  | call source _ success ih =>
    obtain ⟨ints, known⟩ := source_of_success success
    obtain ⟨stored, kept⟩ := store_of_success known success
    rcases source_cases known with ⟨rfl, rfl⟩ | ⟨rfl, rfl⟩
    · have same := kept "EKF2_NOAID_TOUT" (by
        intro arm
        show "EKF2_NOAID_TOUT" ∉ ["EKF2_GPS_CTRL", "EKF2_EV_CTRL"]
        decide +kernel)
      rw [same, ih]
      simp
    · rw [if_pos List.mem_cons_self]
      exact word_of_int (stored ("EKF2_NOAID_TOUT", 10000000) (by decide +kernel))
        (by decide +kernel)

theorem ints_agree {source : String} {ints : List (String × Int)}
    {start start' final final' : String → BitVec 32} (known : sources.lookup source = some ints)
    (success : Succeeds source start final) (success' : Succeeds source start' final') :
    ∀ p ∈ ints, final p.1 = final' p.1 := fun p mem =>
  word_of_int ((store_of_success known success).1 p mem) ((store_of_success known success').1 p mem)

theorem timeout_forgotten_iff {start final single : String → BitVec 32} {earlier : List String}
    (switches : Switches start ("gps" :: earlier) final) (once : Succeeds "gps" start single) :
    final "EKF2_NOAID_TOUT" = single "EKF2_NOAID_TOUT" ↔
      "vision" ∉ earlier ∨ unpackInt (start "EKF2_NOAID_TOUT") = 10000000 := by
  have maximum : unpackInt (BitVec.ofInt 32 10000000) = 10000000 := by decide +kernel
  have once_same : single "EKF2_NOAID_TOUT" = start "EKF2_NOAID_TOUT" := by
    simpa using timeout_after (Switches.call "gps" Switches.none once)
  rw [once_same, timeout_after switches]
  by_cases touched : "vision" ∈ earlier
  · rw [if_pos (List.mem_cons_of_mem _ touched)]
    constructor
    · intro same
      exact Or.inr (same ▸ maximum)
    · intro cause
      rcases cause with untouched | already
      · exact absurd touched untouched
      · exact word_of_int maximum already
  · have untouched : "vision" ∉ "gps" :: earlier := by simpa using touched
    rw [if_neg untouched]
    exact iff_of_true rfl (Or.inl touched)

theorem switches_forget_iff {start final single : String → BitVec 32} {source : String}
    {earlier : List String} (switches : Switches start (source :: earlier) final)
    (once : Succeeds source start single) :
    (∀ key ∈ fusionKeys, final key = single key) ↔
      source = "vision" ∨ "vision" ∉ earlier ∨
        unpackInt (start "EKF2_NOAID_TOUT") = 10000000 := by
  obtain ⟨ints, known⟩ := source_of_success once
  have same : ∀ p ∈ ints, final p.1 = single p.1 := by
    cases switches with
    | call _ _ success => exact ints_agree known success once
  rcases source_cases known with ⟨rfl, rfl⟩ | ⟨rfl, rfl⟩
  · have gps := same ("EKF2_GPS_CTRL", 7) (by decide +kernel)
    have vision := same ("EKF2_EV_CTRL", 0) (by decide +kernel)
    have other : "gps" ≠ "vision" := by decide +kernel
    simpa [fusionKeys, gps, vision, other] using timeout_forgotten_iff switches once
  · refine iff_of_true ?_ (Or.inl rfl)
    simpa [fusionKeys] using same

/-- PX4's own five seconds, before any switch. -/
def bootParams (name : String) : BitVec 32 :=
  if name = "EKF2_NOAID_TOUT" then BitVec.ofInt 32 5000000 else 0

def gpsSwitch : List Action :=
  .proceed :: exchanges (profile "gps" [("EKF2_GPS_CTRL", 7), ("EKF2_EV_CTRL", 0)] []) ++
    [.heartbeat true]

def afterVision : String → BitVec 32 :=
  ((switch "vision" none bootParams).after promptSwitch).link.store

def afterGps : String → BitVec 32 :=
  ((switch "gps" none bootParams).after gpsSwitch).link.store

def afterBoth : String → BitVec 32 :=
  ((switch "gps" none afterVision).after gpsSwitch).link.store

theorem vision_succeeds : Succeeds "vision" bootParams afterVision :=
  ⟨none, promptSwitch, by decide +kernel, rfl⟩

theorem gps_succeeds : Succeeds "gps" bootParams afterGps :=
  ⟨none, gpsSwitch, by decide +kernel, rfl⟩

theorem both_succeed : Switches bootParams ["gps", "vision"] afterBoth :=
  .call "gps" (.call "vision" .none vision_succeeds) ⟨none, gpsSwitch, by decide +kernel, rfl⟩

theorem switches_forget_iff_twice :
    (∀ key ∈ fusionKeys, afterBoth key = afterGps key) ↔
      "gps" = "vision" ∨ "vision" ∉ ["vision"] ∨
        unpackInt (bootParams "EKF2_NOAID_TOUT") = 10000000 :=
  switches_forget_iff both_succeed gps_succeeds

theorem vision_remembered : ¬ ∀ (start final single : String → BitVec 32) (source : String)
    (earlier : List String), Switches start (source :: earlier) final →
      Succeeds source start single → ∀ key ∈ fusionKeys, final key = single key := by
  intro all
  have same := all bootParams afterBoth afterGps "gps" ["vision"] both_succeed gps_succeeds
    "EKF2_NOAID_TOUT" (by decide +kernel)
  exact absurd same (by decide +kernel)

end SetLocalizationSource
