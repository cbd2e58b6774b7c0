import Mathlib.Algebra.Order.Floor.Semiring
import Mathlib.Algebra.Order.Ring.Abs
import Mathlib.Order.Monotone.Basic
import Mathlib.Tactic.Ring
import Mathlib.Tactic.Linarith

/-!
Magnitudes of a binary floating-point format with `f` fraction bits, counted in units
of its smallest subnormal. A code is the exponent field followed by the fraction field,
read as one number; codes are in the order of the magnitudes they stand for.
-/
namespace FloatCodes

/-- Exponent field 0 is subnormal; otherwise the fraction has a hidden bit. -/
def units (f code : Nat) : Nat :=
  if code < 2 ^ f then code else (2 ^ f + code % 2 ^ f) * 2 ^ (code / 2 ^ f - 1)

theorem units_subnormal {f code : Nat} (small : code < 2 ^ f) : units f code = code :=
  if_pos small

theorem units_normal (f e : Nat) {r : Nat} (fraction : r < 2 ^ f) :
    units f ((e + 1) * 2 ^ f + r) = (2 ^ f + r) * 2 ^ e := by
  have positive : 0 < 2 ^ f := Nat.two_pow_pos f
  have large : ¬ (e + 1) * 2 ^ f + r < 2 ^ f := by
    rw [Nat.succ_mul]
    omega
  have field : ((e + 1) * 2 ^ f + r) / 2 ^ f = e + 1 := by
    rw [Nat.add_comm, Nat.add_mul_div_right _ _ positive, Nat.div_eq_of_lt fraction, Nat.zero_add]
  have rest : ((e + 1) * 2 ^ f + r) % 2 ^ f = r := by
    rw [Nat.add_comm, Nat.add_mul_mod_self_right, Nat.mod_eq_of_lt fraction]
  rw [units, if_neg large, field, rest, Nat.add_sub_cancel]

theorem units_exponent (f e : Nat) : units f ((e + 1) * 2 ^ f) = 2 ^ f * 2 ^ e :=
  units_normal f e (Nat.two_pow_pos f)

theorem code_cases (f code : Nat) :
    code < 2 ^ f ∨ ∃ e r, r < 2 ^ f ∧ code = (e + 1) * 2 ^ f + r := by
  by_cases small : code < 2 ^ f
  · exact Or.inl small
  · have positive : 0 < 2 ^ f := Nat.two_pow_pos f
    have field : 0 < code / 2 ^ f := Nat.div_pos (Nat.le_of_not_lt small) positive
    refine Or.inr ⟨code / 2 ^ f - 1, code % 2 ^ f, Nat.mod_lt _ positive, ?_⟩
    rw [Nat.sub_add_cancel field, Nat.mul_comm]
    exact (Nat.div_add_mod code (2 ^ f)).symm

theorem units_lt_succ (f code : Nat) : units f code < units f (code + 1) := by
  have positive : 0 < 2 ^ f := Nat.two_pow_pos f
  rcases code_cases f code with small | ⟨e, r, fraction, rfl⟩
  · rw [units_subnormal small]
    by_cases last : code + 1 < 2 ^ f
    · rw [units_subnormal last]
      omega
    · have boundary : code + 1 = (0 + 1) * 2 ^ f + 0 := by omega
      rw [boundary, units_normal f 0 positive]
      omega
  · rw [units_normal f e fraction]
    by_cases last : r + 1 < 2 ^ f
    · rw [Nat.add_assoc, units_normal f e last]
      exact Nat.mul_lt_mul_of_pos_right (by omega) (Nat.two_pow_pos e)
    · have boundary : (e + 1) * 2 ^ f + r + 1 = (e + 1 + 1) * 2 ^ f + 0 := by
        rw [Nat.succ_mul (e + 1)]
        omega
      rw [boundary, units_normal f (e + 1) positive, Nat.pow_succ, Nat.mul_comm (2 ^ e),
        ← Nat.mul_assoc]
      exact Nat.mul_lt_mul_of_pos_right (by omega) (Nat.two_pow_pos e)

theorem units_strictMono (f : Nat) : StrictMono (units f) :=
  strictMono_nat_of_lt_succ (units_lt_succ f)

def floorCode (f u : Nat) : Nat :=
  if u < 2 ^ f then u
  else (u.log2 - f + 1) * 2 ^ f + (u / 2 ^ (u.log2 - f) - 2 ^ f)

theorem floorCode_normal {f u : Nat} (large : 2 ^ f ≤ u) :
    ∃ shift, 2 ^ f ≤ u / 2 ^ shift ∧ u / 2 ^ shift < 2 * 2 ^ f ∧
      floorCode f u = (shift + 1) * 2 ^ f + (u / 2 ^ shift - 2 ^ f) := by
  have nonzero : u ≠ 0 := by
    have positive := Nat.two_pow_pos f
    omega
  have top : 2 ^ u.log2 ≤ u := Nat.log2_self_le nonzero
  have bound : u < 2 ^ (u.log2 + 1) := Nat.lt_log2_self
  have long : f ≤ u.log2 := (Nat.le_log2 nonzero).mpr large
  obtain ⟨shift, log⟩ := Nat.exists_eq_add_of_le long
  have scale : 0 < 2 ^ shift := Nat.two_pow_pos shift
  refine ⟨shift, ?_, ?_, ?_⟩
  · rwa [Nat.le_div_iff_mul_le scale, ← Nat.pow_add, ← log]
  · rw [Nat.div_lt_iff_lt_mul scale, Nat.mul_assoc, ← Nat.pow_add, ← log, Nat.mul_comm]
    exact bound
  · have cut : u.log2 - f = shift := by omega
    rw [floorCode, if_neg (Nat.not_lt.mpr large), cut]

/-- The units of a normal code, given by its f + 1 bits `m`. At the last of them the
    exponent field carries. -/
theorem units_leading {f m : Nat} (shift : Nat) (least : 2 ^ f ≤ m) (most : m ≤ 2 * 2 ^ f) :
    units f ((shift + 1) * 2 ^ f + (m - 2 ^ f)) = m * 2 ^ shift := by
  by_cases fraction : m - 2 ^ f < 2 ^ f
  · rw [units_normal f shift fraction, Nat.add_sub_cancel' least]
  · have whole : m = 2 * 2 ^ f := by omega
    have carry : (shift + 1) * 2 ^ f + (m - 2 ^ f) = (shift + 1 + 1) * 2 ^ f + 0 := by
      rw [Nat.succ_mul (shift + 1)]
      omega
    rw [carry, units_normal f (shift + 1) (Nat.two_pow_pos f), whole, Nat.pow_succ]
    ring

theorem floorCode_bounds (f u : Nat) :
    units f (floorCode f u) ≤ u ∧ u < units f (floorCode f u + 1) := by
  by_cases small : u < 2 ^ f
  · rw [floorCode, if_pos small]
    have next := units_lt_succ f u
    rw [units_subnormal small] at next ⊢
    exact ⟨le_refl u, next⟩
  · obtain ⟨shift, least, most, found⟩ := floorCode_normal (Nat.le_of_not_lt small)
    have next : floorCode f u + 1 = (shift + 1) * 2 ^ f + (u / 2 ^ shift + 1 - 2 ^ f) := by
      omega
    rw [next, found, units_leading shift least (Nat.le_of_lt most),
      units_leading shift (Nat.le_succ_of_le least) most]
    have scale : 0 < 2 ^ shift := Nat.two_pow_pos shift
    exact ⟨Nat.div_mul_le_self u _, Nat.lt_mul_of_div_lt (Nat.lt_succ_self _) scale⟩

theorem units_floorCode_short {f m : Nat} (shift : Nat) (short : m < 2 ^ (f + 1)) :
    units f (floorCode f (m * 2 ^ shift)) = m * 2 ^ shift := by
  by_cases small : m * 2 ^ shift < 2 ^ f
  · rw [floorCode, if_pos small, units_subnormal small]
  · obtain ⟨cut, least, most, found⟩ := floorCode_normal (Nat.le_of_not_lt small)
    have inside : cut ≤ shift := by
      by_contra beyond
      have lost : m * 2 ^ shift < 2 ^ f * 2 ^ cut := by
        calc m * 2 ^ shift < 2 ^ (f + 1) * 2 ^ shift :=
              Nat.mul_lt_mul_of_pos_right short (Nat.two_pow_pos shift)
          _ = 2 ^ f * 2 ^ (shift + 1) := by ring
          _ ≤ 2 ^ f * 2 ^ cut := Nat.mul_le_mul_left _ (Nat.pow_le_pow_right (by decide) (by omega))
      rw [Nat.le_div_iff_mul_le (Nat.two_pow_pos cut)] at least
      omega
    rw [found, units_leading cut least (Nat.le_of_lt most)]
    exact Nat.div_mul_cancel (Dvd.dvd.mul_left (Nat.pow_dvd_pow 2 inside) m)

section Rounding
variable {K : Type} [Field K] [LinearOrder K] [FloorSemiring K]

def roundCode (f : Nat) (x : K) : Nat :=
  let code := floorCode f ⌊x⌋₊
  let below := x - units f code
  let above := units f (code + 1) - x
  if below < above then code
  else if above < below then code + 1
  else if code % 2 = 0 then code else code + 1

theorem roundCode_cases (f : Nat) (x : K) :
    let code := floorCode f ⌊x⌋₊
    roundCode f x = code ∧ x - units f code ≤ units f (code + 1) - x ∨
      roundCode f x = code + 1 ∧ units f (code + 1) - x ≤ x - units f code := by
  intro code
  have unfolded : roundCode f x =
      if x - units f code < units f (code + 1) - x then code
      else if units f (code + 1) - x < x - units f code then code + 1
      else if code % 2 = 0 then code else code + 1 := rfl
  rw [unfolded]
  split_ifs with below above even
  · exact Or.inl ⟨rfl, below.le⟩
  · exact Or.inr ⟨rfl, above.le⟩
  · exact Or.inl ⟨rfl, not_lt.mp above⟩
  · exact Or.inr ⟨rfl, not_lt.mp below⟩

variable [IsStrictOrderedRing K]

theorem roundCode_nearest (f : Nat) {x : K} (nonneg : 0 ≤ x) (code : Nat) :
    |(units f (roundCode f x) : K) - x| ≤ |(units f code : K) - x| := by
  obtain ⟨floor_le, lt_next⟩ := floorCode_bounds f ⌊x⌋₊
  have lower : (units f (floorCode f ⌊x⌋₊) : K) ≤ x := (Nat.le_floor_iff nonneg).mp floor_le
  have upper : x < units f (floorCode f ⌊x⌋₊ + 1) := (Nat.floor_lt nonneg).mp lt_next
  have outside : (units f code : K) ≤ units f (floorCode f ⌊x⌋₊) ∨
      (units f (floorCode f ⌊x⌋₊ + 1) : K) ≤ units f code := by
    rcases Nat.lt_or_ge (floorCode f ⌊x⌋₊) code with above | below
    · exact Or.inr (Nat.cast_le.mpr ((units_strictMono f).monotone above))
    · exact Or.inl (Nat.cast_le.mpr ((units_strictMono f).monotone below))
  rcases roundCode_cases f x with ⟨chosen, nearer⟩ | ⟨chosen, nearer⟩
  · rw [chosen, abs_of_nonpos (sub_nonpos.mpr lower)]
    rcases outside with far | far
    · rw [abs_of_nonpos (sub_nonpos.mpr (far.trans lower))]
      linarith
    · rw [abs_of_nonneg (sub_nonneg.mpr (upper.le.trans far))]
      linarith
  · rw [chosen, abs_of_nonneg (sub_nonneg.mpr upper.le)]
    rcases outside with far | far
    · rw [abs_of_nonpos (sub_nonpos.mpr (far.trans lower))]
      linarith
    · rw [abs_of_nonneg (sub_nonneg.mpr (upper.le.trans far))]
      linarith

theorem roundCode_units (f code : Nat) : roundCode f (units f code : K) = code := by
  have nearest := roundCode_nearest f (Nat.cast_nonneg (α := K) (units f code)) code
  rw [sub_self, abs_zero, abs_nonpos_iff, sub_eq_zero, Nat.cast_inj] at nearest
  exact (units_strictMono f).injective nearest

/-- If the codes came the other way round, both arguments would lie midway between them. -/
theorem roundCode_mono (f : Nat) {x y : K} (nonneg : 0 ≤ x) (le : x ≤ y) :
    roundCode f x ≤ roundCode f y := by
  by_contra backwards
  have below : (units f (roundCode f y) : K) < units f (roundCode f x) :=
    Nat.cast_lt.mpr (units_strictMono f (Nat.lt_of_not_le backwards))
  have near_x := sq_le_sq.mpr (roundCode_nearest f nonneg (roundCode f y))
  have near_y := sq_le_sq.mpr (roundCode_nearest f (nonneg.trans le) (roundCode f x))
  have after : (units f (roundCode f x) : K) + units f (roundCode f y) ≤ 2 * x := by nlinarith
  have before : 2 * y ≤ units f (roundCode f x) + units f (roundCode f y) := by nlinarith
  have same : x = y := by linarith
  rw [same] at backwards
  exact backwards (Nat.le_refl _)

theorem roundCode_between (f : Nat) {x : K} {a b : Nat} (low : (units f a : K) ≤ x)
    (high : x ≤ units f b) : units f a ≤ units f (roundCode f x) ∧
      units f (roundCode f x) ≤ units f b := by
  have nonneg : (0 : K) ≤ units f a := Nat.cast_nonneg _
  have above := roundCode_mono f nonneg low
  have below := roundCode_mono f (nonneg.trans low) high
  rw [roundCode_units] at above below
  exact ⟨(units_strictMono f).monotone above, (units_strictMono f).monotone below⟩

end Rounding
end FloatCodes
