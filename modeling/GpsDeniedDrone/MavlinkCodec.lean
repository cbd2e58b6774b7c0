import Mathlib.Tactic.NormNum
import GpsDeniedDrone.ParamConfirmation

/-!
An integer parameter in a float's slot: its bits read as a float32, carried by Python as
a float64 and narrowed again. The trip loses the signalling bit of a NaN and nothing else.
-/
namespace PythonFloat
open FloatCodes

/-- Exponent all ones, top fraction bit 0, fraction not zero. -/
def Signalling (w : BitVec 32) : Prop :=
  w.toNat / 2 ^ 23 % 2 ^ 8 = 255 ∧ w.toNat / 2 ^ 22 % 2 = 0 ∧ w.toNat % 2 ^ 23 ≠ 0

instance (w : BitVec 32) : Decidable (Signalling w) :=
  inferInstanceAs (Decidable
    (w.toNat / 2 ^ 23 % 2 ^ 8 = 255 ∧ w.toNat / 2 ^ 22 % 2 = 0 ∧ w.toNat % 2 ^ 23 ≠ 0))

theorem signalling_iff (w : BitVec 32) :
    Signalling w ↔ infCode < codeOf w ∧ codeOf w < quietCode := by
  have half : quietCode = infCode + 2 ^ 22 := rfl
  have whole : infCode = 255 * 2 ^ 23 := rfl
  rw [half, whole]
  unfold Signalling codeOf
  omega

theorem quieted_eq_self_iff (w : BitVec 32) : quieted w = w ↔ ¬ Signalling w := by
  rw [signalling_iff]
  constructor
  · intro same signalling
    have moved : codeOf (quieted w) = codeOf w + 2 ^ 22 := by
      rw [quieted, if_pos signalling]
      apply codeOf_wordOf
      have top : quietCode + 2 ^ 22 = 2 ^ 31 := by decide
      omega
    rw [same] at moved
    omega
  · intro plain
    rw [quieted, if_neg plain]

/-- One unit of a float64 code is 2^-1074. -/
def wideUnitsPerOne : ℕ := 2 ^ 149 * 2 ^ 925

/-- One of Python's floats: a finite one has a float64 code. -/
def PyFloat.Binary64 : PyFloat → Prop
  | .finite _ magnitude => ∃ code < 2047 * 2 ^ 52, magnitude = units 52 code / wideUnitsPerOne
  | .inf _ | .nan _ _ => True

theorem units_significand (code : Nat) : ∃ m shift, m < 2 ^ 24 ∧ units 23 code = m * 2 ^ shift := by
  rcases code_cases 23 code with small | ⟨e, r, fraction, rfl⟩
  · exact ⟨code, 0, by omega, by rw [units_subnormal small, Nat.pow_zero, Nat.mul_one]⟩
  · exact ⟨2 ^ 23 + r, e, by omega, units_normal 23 e fraction⟩

theorem shifted_lt {u : Nat} (a b c d e : Nat) (sums : a + b + c ≤ d + e)
    (below : u < 2 ^ a * 2 ^ b) : u * 2 ^ c < 2 ^ d * 2 ^ e := by
  calc u * 2 ^ c
      < 2 ^ a * 2 ^ b * 2 ^ c := Nat.mul_lt_mul_of_pos_right below (Nat.two_pow_pos c)
    _ ≤ 2 ^ d * 2 ^ e := by
      rw [← Nat.pow_add, ← Nat.pow_add, ← Nat.pow_add]
      exact Nat.pow_le_pow_right (by decide) sums

/-- Widening is exact: no finite float32 falls between the float64s. -/
theorem unpackFloat_binary64 (w : BitVec 32) : (unpackFloat w).Binary64 := by
  unfold unpackFloat
  split_ifs with finite infinite
  · obtain ⟨m, shift, short, significand⟩ := units_significand (codeOf w)
    have wide : units 52 (floorCode 52 (units 23 (codeOf w) * 2 ^ 925)) =
        units 23 (codeOf w) * 2 ^ 925 := by
      rw [significand, Nat.mul_assoc, ← Nat.pow_add]
      exact units_floorCode_short (f := 52) _ (short.trans (by decide))
    refine ⟨floorCode 52 (units 23 (codeOf w) * 2 ^ 925), ?_, ?_⟩
    · have top : units 23 infCode = 2 ^ 23 * 2 ^ 254 := units_exponent 23 254
      have limit : units 52 (2047 * 2 ^ 52) = 2 ^ 52 * 2 ^ 2046 := units_exponent 52 2046
      have below := units_strictMono 23 finite
      rw [top] at below
      rw [← (units_strictMono 52).lt_iff_lt, wide, limit]
      exact shifted_lt 23 254 925 52 2046 (by decide) below
    · have nonzero (n : Nat) : ((2 ^ n : ℕ) : ℚ≥0) ≠ 0 :=
        Nat.cast_ne_zero.mpr (Nat.two_pow_pos n).ne'
      rw [wide, unitsPerOne, wideUnitsPerOne, Nat.cast_mul, Nat.cast_mul, mul_div_mul_right]
      exact nonzero 925
  · trivial
  · trivial

end PythonFloat

namespace SetLocalizationSource
open PythonFloat

/-- `_mavlink_float_to_int32(_int32_to_mavlink_float(v))`. -/
def roundTrip (v : Int) : Option Int := (int32ToMavlinkFloat v).bind mavlinkFloatToInt32

section Range
variable {v : Int} (least : -2 ^ 31 ≤ v) (most : v < 2 ^ 31)
include least most

theorem int32ToMavlinkFloat_word :
    int32ToMavlinkFloat v = some (unpackFloat (BitVec.ofInt 32 v)) := by
  rw [int32ToMavlinkFloat, packInt, if_pos ⟨least, most⟩, Option.map_some]

theorem roundTrip_iff : roundTrip v = some v ↔ ¬ Signalling (BitVec.ofInt 32 v) := by
  have bits : unpackInt (BitVec.ofInt 32 v) = v := BitVec.toInt_ofInt_eq_self (by decide) least most
  rw [roundTrip, int32ToMavlinkFloat_word least most, Option.bind_some, decoded,
    Option.some.injEq, ← quieted_eq_self_iff]
  constructor
  · intro same
    exact BitVec.eq_of_toInt_eq (same.trans bits.symm)
  · intro same
    rw [same, bits]

end Range

theorem not_signalling_small {v : Int} (nonneg : 0 ≤ v) (small : v < 2139095041) :
    ¬ Signalling (BitVec.ofInt 32 v) := by
  obtain ⟨n, rfl⟩ := Int.eq_ofNat_of_zero_le nonneg
  have code : codeOf (BitVec.ofInt 32 n) = n := by
    rw [codeOf, BitVec.ofInt_natCast, BitVec.toNat_ofNat]
    omega
  rw [signalling_iff, code, infCode]
  omega

/-- Exactly the signalling patterns are lost, none of them below 2139095041, where the
    wire values of distinct integers are distinct; what Python holds is always a float64. -/
theorem int32_codec :
    (∀ v : Int, -2 ^ 31 ≤ v → v < 2 ^ 31 →
      (roundTrip v = some v ↔ ¬ Signalling (BitVec.ofInt 32 v))) ∧
    (∀ v : Int, -2 ^ 31 ≤ v → v < 2 ^ 31 → ∃ x, int32ToMavlinkFloat v = some x ∧ x.Binary64) ∧
    (∀ v : Int, 0 ≤ v → v < 2139095041 → roundTrip v = some v) ∧
    ∀ v w : Int, 0 ≤ v → v < 2139095041 → 0 ≤ w → w < 2139095041 → v ≠ w →
      int32ToMavlinkFloat v ≠ int32ToMavlinkFloat w := by
  have back (v : Int) (nonneg : 0 ≤ v) (small : v < 2139095041) : roundTrip v = some v :=
    (roundTrip_iff (by omega) (by omega)).mpr (not_signalling_small nonneg small)
  refine ⟨fun v least most => roundTrip_iff least most, fun v least most =>
    ⟨_, int32ToMavlinkFloat_word least most, unpackFloat_binary64 _⟩, back, ?_⟩
  intro v w v_nonneg v_small w_nonneg w_small differ same
  have equal : roundTrip v = roundTrip w := by rw [roundTrip, same, roundTrip]
  rw [back v v_nonneg v_small, back w w_nonneg w_small] at equal
  exact differ (Option.some.inj equal)

/- A bitmask whose float is subnormal, and the first of the patterns that come back changed. -/
theorem int32_codec_bounds :
    roundTrip 7 = some 7 ∧ roundTrip 2139095041 ≠ some 2139095041 :=
  ⟨int32_codec.2.2.1 7 (by decide) (by decide), fun same =>
    (int32_codec.1 2139095041 (by decide) (by decide)).mp same (by decide +kernel)⟩

end SetLocalizationSource
