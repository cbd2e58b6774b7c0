import Mathlib.Data.Rat.Floor
import Mathlib.Tactic.FieldSimp
import GpsDeniedDrone.FloatCodes

/-!
Comparisons of computed values. A value that is rounded once and compared with a number of
the format compares as the exact one, unless it is rounded onto that very number.
-/
namespace Rounding
open FloatCodes

/-- Rounding onto the numbers of a format, which is the same for both signs. -/
structure Format (K : Type) [Ring K] [LinearOrder K] where
  round : K → K
  mono : Monotone round
  idem : ∀ x, round (round x) = round x
  odd : ∀ x, round (-x) = -round x

section Comparisons
variable {K : Type} [Ring K] [LinearOrder K] {r : Format K}

def Format.Has (r : Format K) (x : K) : Prop := r.round x = x

instance (x : K) : Decidable (r.Has x) := inferInstanceAs (Decidable (_ = _))

theorem has_zero [IsOrderedRing K] : r.Has 0 := by
  have odd := r.odd 0
  rw [neg_zero] at odd
  exact self_eq_neg.mp odd

theorem has_neg {x : K} (has : r.Has x) : r.Has (-x) := by
  have odd := r.odd x
  rwa [has] at odd

variable {c e : K}

theorem le_round (c_has : r.Has c) (le : c ≤ e) : c ≤ r.round e := by
  have up := r.mono le
  rwa [c_has] at up

theorem round_le (c_has : r.Has c) (le : e ≤ c) : r.round e ≤ c := by
  have down := r.mono le
  rwa [c_has] at down

/-- A threshold is reached by the rounded value if by the exact one, where a number of the
    format lies between it and all smaller values. -/
theorem reached_iff {d : K} (c_has : r.Has c) (d_has : r.Has d) (gap : d < c)
    (smaller : e < c → e ≤ d) : c ≤ r.round e ↔ c ≤ e := by
  constructor
  · intro reached
    by_contra short
    have rounded := round_le d_has (smaller (not_le.mp short))
    exact absurd (reached.trans rounded) (not_le.mpr gap)
  · exact le_round c_has

/-- Below a bound is below the rounded bound, or on it if that was rounded down. -/
theorem below_iff (c_has : r.Has c) : c < e ↔ c < r.round e ∨ c < e ∧ c = r.round e := by
  constructor
  · intro below
    rcases (le_round c_has below.le).lt_or_eq with still | onto
    · exact Or.inl still
    · exact Or.inr ⟨below, onto⟩
  · rintro (below | ⟨below, _⟩)
    · exact lt_of_not_ge fun le => absurd (round_le c_has le) (not_le.mpr below)
    · exact below

theorem above_iff (c_has : r.Has c) : e < c ↔ r.round e < c ∨ e < c ∧ c = r.round e := by
  constructor
  · intro above
    rcases (round_le c_has above.le).lt_or_eq with still | onto
    · exact Or.inl still
    · exact Or.inr ⟨above, onto.symm⟩
  · rintro (above | ⟨above, _⟩)
    · exact lt_of_not_ge fun le => absurd (le_round c_has le) (not_le.mpr above)
    · exact above

end Comparisons

/- Binary formats: `scale` units of the smallest subnormal to 1. -/

section Binary
variable (f scale : Nat)

def magnitude (x : ℚ) : ℚ := units f (roundCode f (x * scale)) / scale

def nearest (x : ℚ) : ℚ := if x < 0 then -magnitude f scale (-x) else magnitude f scale x

variable {f scale}

theorem magnitude_nonneg (x : ℚ) : 0 ≤ magnitude f scale x :=
  div_nonneg (Nat.cast_nonneg _) (Nat.cast_nonneg _)

theorem magnitude_mono {x y : ℚ} (nonneg : 0 ≤ x) (le : x ≤ y) :
    magnitude f scale x ≤ magnitude f scale y := by
  have scaled : (0 : ℚ) ≤ scale := Nat.cast_nonneg _
  apply div_le_div_of_nonneg_right _ scaled
  apply Nat.cast_le.mpr
  apply (units_strictMono f).monotone
  exact roundCode_mono f (mul_nonneg nonneg scaled) (mul_le_mul_of_nonneg_right le scaled)

theorem magnitude_idem (positive : 0 < scale) (x : ℚ) :
    magnitude f scale (magnitude f scale x) = magnitude f scale x := by
  have nonzero : (scale : ℚ) ≠ 0 := Nat.cast_ne_zero.mpr positive.ne'
  have whole : magnitude f scale x * scale = units f (roundCode f (x * scale)) :=
    div_mul_cancel₀ _ nonzero
  rw [magnitude, whole, roundCode_units, magnitude]

theorem magnitude_zero : magnitude f scale 0 = 0 := by
  have code : roundCode f ((units f 0 : Nat) : ℚ) = 0 := roundCode_units f 0
  have none : units f 0 = 0 := units_subnormal (Nat.two_pow_pos f)
  rw [none] at code
  rw [magnitude, zero_mul, ← Nat.cast_zero, code, none, Nat.cast_zero, zero_div]

theorem nearest_of_nonneg {x : ℚ} (nonneg : 0 ≤ x) : nearest f scale x = magnitude f scale x :=
  if_neg (not_lt.mpr nonneg)

theorem nearest_of_neg {x : ℚ} (negative : x < 0) :
    nearest f scale x = -magnitude f scale (-x) := if_pos negative

theorem nearest_odd (x : ℚ) : nearest f scale (-x) = -nearest f scale x := by
  rcases lt_trichotomy x 0 with negative | rfl | positive
  · rw [nearest_of_nonneg (neg_nonneg.mpr negative.le), nearest_of_neg negative, neg_neg]
  · rw [neg_zero, nearest_of_nonneg le_rfl, magnitude_zero, neg_zero]
  · rw [nearest_of_neg (neg_neg_of_pos positive), neg_neg, nearest_of_nonneg positive.le]

theorem nearest_mono : Monotone (nearest f scale) := by
  intro x y le
  rcases lt_or_ge x 0 with negative | nonneg
  · rcases lt_or_ge y 0 with below | above
    · rw [nearest_of_neg negative, nearest_of_neg below, neg_le_neg_iff]
      exact magnitude_mono (neg_nonneg.mpr below.le) (neg_le_neg le)
    · rw [nearest_of_neg negative, nearest_of_nonneg above]
      exact (neg_nonpos.mpr (magnitude_nonneg _)).trans (magnitude_nonneg _)
  · rw [nearest_of_nonneg nonneg, nearest_of_nonneg (nonneg.trans le)]
    exact magnitude_mono nonneg le

theorem nearest_idem (positive : 0 < scale) (x : ℚ) :
    nearest f scale (nearest f scale x) = nearest f scale x := by
  have folded (y : ℚ) :
      nearest f scale (magnitude f scale y) = magnitude f scale y := by
    rw [nearest_of_nonneg (magnitude_nonneg y), magnitude_idem positive]
  rcases lt_or_ge x 0 with negative | nonneg
  · rw [nearest_of_neg negative, nearest_odd, folded]
  · rw [nearest_of_nonneg nonneg, folded]

/-- The format with `f` fraction bits and `shift` binary places, exponents unbounded. -/
def binary (f shift : Nat) : Format ℚ where
  round := nearest f (2 ^ shift)
  mono := nearest_mono
  idem := nearest_idem (Nat.two_pow_pos shift)
  odd := nearest_odd

theorem has_short {f shift places m : Nat} (short : m < 2 ^ (f + 1)) (within : places ≤ shift) :
    (binary f shift).Has (m / 2 ^ places) := by
  have split : (2 : ℚ) ^ shift = 2 ^ places * 2 ^ (shift - places) := by
    rw [← pow_add, Nat.add_sub_cancel' within]
  have scaled : (m / 2 ^ places : ℚ) * (2 ^ shift : ℕ) = (m * 2 ^ (shift - places) : ℕ) := by
    push_cast
    rw [split]
    field_simp
  have code : roundCode f ((m * 2 ^ (shift - places) : ℕ) : ℚ) =
      floorCode f (m * 2 ^ (shift - places)) := by
    have same := roundCode_units (K := ℚ) f (floorCode f (m * 2 ^ (shift - places)))
    rwa [units_floorCode_short _ short] at same
  show nearest f (2 ^ shift) _ = _
  rw [nearest_of_nonneg (by positivity), magnitude, scaled, code, units_floorCode_short _ short,
    ← scaled]
  exact mul_div_cancel_right₀ _ (Nat.cast_ne_zero.mpr (Nat.two_pow_pos shift).ne')

end Binary
end Rounding
