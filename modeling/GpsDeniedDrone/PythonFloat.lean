import Mathlib.Data.NNRat.Lemmas
import Mathlib.Data.Rat.Floor
import Mathlib.Algebra.Order.Field.Basic
import GpsDeniedDrone.FloatCodes

/-!
Python's float, and the four-byte formats '<f' and '<i' of its struct module as 32-bit
words. Finite numbers are kept exactly, with a sign that zero has too: arithmetic on them
is not rounded, packing into '<f' is. The NaNs are the quiet ones.
-/
namespace PythonFloat
open FloatCodes

inductive PyFloat where
  | finite (negative : Bool) (magnitude : ℚ≥0)
  | inf (negative : Bool)
  | nan (negative : Bool) (payload : BitVec 51)
  deriving DecidableEq

def signed (negative : Bool) (x : ℚ) : ℚ := if negative then -x else x

def PyFloat.number : PyFloat → Option ℚ
  | .finite negative magnitude => some (signed negative magnitude)
  | _ => none

/-- A decimal literal, with its digits after the point. -/
def decimal (negative : Bool) (digits places : Nat) : PyFloat :=
  .finite negative (digits / (10 ^ places : ℕ))

def PyFloat.ofRat (x : ℚ) : PyFloat := .finite (decide (x < 0)) x.nnabs

/-- `abs(x - y)`. -/
def absDiff : PyFloat → PyFloat → PyFloat
  | .nan _ payload, _ | _, .nan _ payload => .nan false payload
  | .inf n, .inf m => if n = m then .nan false 0 else .inf false
  | .inf _, .finite _ _ | .finite _ _, .inf _ => .inf false
  | .finite n x, .finite m y => .ofRat |signed n x - signed m y|

/-- `x > bound`, for a finite bound. Every comparison with a NaN is false. -/
def exceeds : PyFloat → ℚ → Bool
  | .finite n x, bound => decide (bound < signed n x)
  | .inf negative, _ => !negative
  | .nan _ _, _ => false

/- Words: a sign bit and a code. -/

/-- One unit of the code is 2^-149. -/
def unitsPerOne : ℕ := 2 ^ 149

def infCode : Nat := 255 * 2 ^ 23

def quietCode : Nat := infCode + 2 ^ 22

def negativeWord (w : BitVec 32) : Bool := decide (2 ^ 31 ≤ w.toNat)

def codeOf (w : BitVec 32) : Nat := w.toNat % 2 ^ 31

def wordOf (negative : Bool) (code : Nat) : BitVec 32 :=
  BitVec.ofNat 32 (if negative then 2 ^ 31 + code else code)

/-- `struct.unpack('<f', w)`. A signalling NaN comes out quiet. -/
def unpackFloat (w : BitVec 32) : PyFloat :=
  if codeOf w < infCode then .finite (negativeWord w) (units 23 (codeOf w) / unitsPerOne)
  else if codeOf w = infCode then .inf (negativeWord w)
  else .nan (negativeWord w) (BitVec.ofNat 51 ((codeOf w - infCode) % 2 ^ 22 * 2 ^ 29))

/-- `struct.pack('<f', x)`; `none` is the OverflowError of a finite float too large. -/
def packFloat : PyFloat → Option (BitVec 32)
  | .finite negative magnitude =>
    let code := roundCode 23 ((magnitude : ℚ) * unitsPerOne)
    if code < infCode then some (wordOf negative code) else none
  | .inf negative => some (wordOf negative infCode)
  | .nan negative payload => some (wordOf negative (quietCode + payload.toNat / 2 ^ 29))

/-- `struct.pack('<i', v)`; `none` is the error of a value out of range. -/
def packInt (v : Int) : Option (BitVec 32) :=
  if -2 ^ 31 ≤ v ∧ v < 2 ^ 31 then some (BitVec.ofInt 32 v) else none

/-- `struct.unpack('<i', w)`. -/
def unpackInt (w : BitVec 32) : Int := w.toInt

/-- What a word becomes in Python's hands: a signalling NaN becomes the quiet one. -/
def quieted (w : BitVec 32) : BitVec 32 :=
  if infCode < codeOf w ∧ codeOf w < quietCode then wordOf (negativeWord w) (codeOf w + 2 ^ 22)
  else w

theorem codeOf_lt (w : BitVec 32) : codeOf w < 2 ^ 31 := Nat.mod_lt _ (by decide)

theorem toNat_wordOf (negative : Bool) {code : Nat} (bound : code < 2 ^ 31) :
    (wordOf negative code).toNat = if negative then 2 ^ 31 + code else code := by
  rw [wordOf, BitVec.toNat_ofNat]
  apply Nat.mod_eq_of_lt
  cases negative <;> simp only [Bool.false_eq_true, if_false, if_true] <;> omega

theorem codeOf_wordOf (negative : Bool) {code : Nat} (bound : code < 2 ^ 31) :
    codeOf (wordOf negative code) = code := by
  rw [codeOf, toNat_wordOf negative bound]
  cases negative <;> simp only [Bool.false_eq_true, if_false, if_true] <;> omega

theorem negativeWord_wordOf (negative : Bool) {code : Nat} (bound : code < 2 ^ 31) :
    negativeWord (wordOf negative code) = negative := by
  rw [negativeWord, toNat_wordOf negative bound]
  cases negative with
  | false => exact decide_eq_false (Nat.not_le.mpr bound)
  | true => exact decide_eq_true (Nat.le_add_right _ _)

@[simp] theorem wordOf_codeOf (w : BitVec 32) : wordOf (negativeWord w) (codeOf w) = w := by
  apply BitVec.eq_of_toNat_eq
  rw [toNat_wordOf _ (codeOf_lt w), negativeWord, codeOf]
  have bound := w.isLt
  by_cases negative : 2 ^ 31 ≤ w.toNat
  · simp only [negative, decide_true, if_true]
    omega
  · simp only [negative, decide_false, Bool.false_eq_true, if_false]
    omega

theorem quieted_self {w : BitVec 32} (number : codeOf w ≤ infCode) : quieted w = w :=
  if_neg fun signalling => absurd signalling.1 (Nat.not_lt.mpr number)

theorem codeOf_quieted (w : BitVec 32) : codeOf (quieted w) ≤ infCode ↔ codeOf w ≤ infCode := by
  unfold quieted
  split_ifs with signalling
  · have bound : codeOf w + 2 ^ 22 < 2 ^ 31 := by
      have top : quietCode + 2 ^ 22 = 2 ^ 31 := by decide
      omega
    rw [codeOf_wordOf _ bound]
    omega
  · rfl

/-- Narrowing undoes widening, but for the signalling bit. -/
theorem pack_unpackFloat (w : BitVec 32) : packFloat (unpackFloat w) = some (quieted w) := by
  unfold unpackFloat
  split_ifs with number infinite
  · have exact : roundCode 23 (((units 23 (codeOf w) / unitsPerOne : ℚ≥0) : ℚ) * unitsPerOne) =
        codeOf w := by
      rw [NNRat.cast_div]
      simp [unitsPerOne, roundCode_units]
    simp only [packFloat, exact, number, if_true, wordOf_codeOf]
    rw [quieted_self number.le]
  · rw [packFloat, quieted_self infinite.le, ← infinite, wordOf_codeOf]
  · have top : quietCode + 2 ^ 22 = 2 ^ 31 := by decide
    have half : quietCode = infCode + 2 ^ 22 := rfl
    have bound := codeOf_lt w
    have small : (codeOf w - infCode) % 2 ^ 22 * 2 ^ 29 < 2 ^ 51 := by omega
    have kept : (codeOf w - infCode) % 2 ^ 22 * 2 ^ 29 / 2 ^ 29 = (codeOf w - infCode) % 2 ^ 22 :=
      Nat.mul_div_cancel _ (by decide)
    rw [packFloat, BitVec.toNat_ofNat, Nat.mod_eq_of_lt small, kept, quieted]
    by_cases signalling : codeOf w < quietCode
    · have code : quietCode + (codeOf w - infCode) % 2 ^ 22 = codeOf w + 2 ^ 22 := by omega
      rw [if_pos ⟨by omega, signalling⟩, code]
    · have code : quietCode + (codeOf w - infCode) % 2 ^ 22 = codeOf w := by omega
      rw [if_neg fun both => signalling both.2, code, wordOf_codeOf]

theorem packInt_some {v : Int} {w : BitVec 32} (pack : packInt v = some w) :
    w = BitVec.ofInt 32 v ∧ unpackInt w = v := by
  unfold packInt at pack
  split_ifs at pack with range
  have bits := (Option.some.inj pack).symm
  apply And.intro bits
  rw [bits, unpackInt]
  exact BitVec.toInt_ofInt_eq_self (by decide) range.1 range.2

theorem number_unpackFloat {w : BitVec 32} {x : ℚ} :
    (unpackFloat w).number = some x ↔ codeOf w < infCode ∧
      x = signed (negativeWord w) ((units 23 (codeOf w) : ℚ) / unitsPerOne) := by
  unfold unpackFloat
  split_ifs with number infinite
  · simp [PyFloat.number, number, unitsPerOne, eq_comm]
  · simp [PyFloat.number, number]
  · simp [PyFloat.number, number]

theorem signed_sub (n : Bool) (x y : ℚ) : |signed n x - signed n y| = |x - y| := by
  cases n with
  | false => rfl
  | true =>
    have flip : signed true x - signed true y = -(x - y) := by
      simp only [signed, if_true]
      ring
    rw [flip, abs_neg]

theorem abs_sub_le_signed (n m : Bool) {x y : ℚ} (x_nonneg : 0 ≤ x) (y_nonneg : 0 ≤ y) :
    |x - y| ≤ |signed n x - signed m y| := by
  have apart : |x - y| ≤ |x + y| := by
    rw [abs_of_nonneg (add_nonneg x_nonneg y_nonneg), abs_le]
    constructor <;> linarith
  have mirrored : signed true x - signed false y = -(x + y) := by
    simp only [signed, if_true, Bool.false_eq_true, if_false]
    ring
  have facing : signed false x - signed true y = x + y := by
    simp [signed]
  cases n <;> cases m
  · exact (signed_sub false x y).ge
  · rwa [facing]
  · rwa [mirrored, abs_neg]
  · exact (signed_sub true x y).ge

theorem number_of_pack {x : PyFloat} {w : BitVec 32} {number : ℚ}
    (stands : x.number = some number) (pack : packFloat x = some w) :
    ∃ negative, ∃ magnitude : ℚ≥0, x = .finite negative magnitude ∧
      number = signed negative magnitude ∧
      (unpackFloat w).number = some (signed negative
        ((units 23 (roundCode 23 ((magnitude : ℚ) * unitsPerOne)) : ℚ) / unitsPerOne)) := by
  cases x with
  | inf | nan => cases stands
  | finite negative magnitude =>
    refine ⟨negative, magnitude, rfl, (Option.some.inj stands).symm, ?_⟩
    simp only [packFloat] at pack
    split_ifs at pack with small
    have bound : roundCode 23 ((magnitude : ℚ) * unitsPerOne) < 2 ^ 31 :=
      small.trans (by decide)
    rw [← Option.some.inj pack, number_unpackFloat, codeOf_wordOf negative bound,
      negativeWord_wordOf negative bound]
    exact ⟨small, rfl⟩

theorem pack_nearest {x : PyFloat} {w w' : BitVec 32} {number packed other : ℚ}
    (stands : x.number = some number) (pack : packFloat x = some w)
    (here : (unpackFloat w).number = some packed)
    (there : (unpackFloat w').number = some other) :
    |packed - number| ≤ |other - number| := by
  obtain ⟨negative, magnitude, _, value, stored⟩ := number_of_pack stands pack
  obtain ⟨_, other_value⟩ := number_unpackFloat.mp there
  have same := Option.some.inj (here.symm.trans stored)
  have positive : (0 : ℚ) < unitsPerOne := Nat.cast_pos.mpr (Nat.two_pow_pos 149)
  have nonneg : (0 : ℚ) ≤ magnitude := NNRat.cast_nonneg magnitude
  have scale (code : Nat) : |(units 23 code : ℚ) / unitsPerOne - magnitude| =
      |(units 23 code : ℚ) - magnitude * unitsPerOne| / unitsPerOne := by
    rw [div_sub' positive.ne', abs_div, abs_of_pos positive, mul_comm (unitsPerOne : ℚ)]
  have nearest := roundCode_nearest 23 (mul_nonneg nonneg positive.le) (codeOf w')
  rw [same, value, other_value, signed_sub, scale]
  calc |(units 23 (roundCode 23 ((magnitude : ℚ) * unitsPerOne)) : ℚ) - magnitude * unitsPerOne|
        / unitsPerOne
      ≤ |(units 23 (codeOf w') : ℚ) - magnitude * unitsPerOne| / unitsPerOne :=
        div_le_div_of_nonneg_right nearest positive.le
    _ = |(units 23 (codeOf w') : ℚ) / unitsPerOne - magnitude| := (scale _).symm
    _ ≤ |signed (negativeWord w') ((units 23 (codeOf w') : ℚ) / unitsPerOne) -
          signed negative magnitude| :=
        abs_sub_le_signed _ _ (div_nonneg (Nat.cast_nonneg _) positive.le) nonneg

end PythonFloat
