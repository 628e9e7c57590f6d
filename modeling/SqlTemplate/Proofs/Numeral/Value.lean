import Mathlib.Algebra.Order.Floor.Ring
import Mathlib.Data.Rat.Floor
import Mathlib.Tactic.FieldSimp
import Mathlib.Tactic.Positivity
import Mathlib.Tactic.Ring
import SqlTemplate.Argument
import SqlTemplate.Proofs.Numeral.Canonical

/-!
# Rational values

Every finite number stands for a rational number: a decimal number for its coefficient times a power
of ten, a binary number for what its exponent and its fraction say, an integer for itself. Without
its fraction, a value is the next integer on the way to zero, and the truncations of the library
give exactly this one.
-/
namespace SqlTemplate

namespace Numeral

/-- The factor that a sign stands for. -/
def sign (negative : Bool) : ℚ :=
  if negative then -1 else 1

/-- A rational number without its fraction. -/
def towardZero (q : ℚ) : ℤ :=
  if 0 ≤ q then ⌊q⌋ else ⌈q⌉

@[simp] theorem towardZero_intCast (n : ℤ) : towardZero n = n := by
  simp [towardZero]

/-- A quotient without its fraction is the quotient of natural numbers. -/
theorem towardZero_sign_mul (negative : Bool) (n d : ℕ) :
    towardZero (sign negative * (n / d)) = signed negative (n / d) := by
  have hfloor : ⌊(n / d : ℚ)⌋ = ((n / d : ℕ) : ℤ) := by
    exact_mod_cast Rat.floor_natCast_div_natCast n d
  have hnonneg : (0 : ℚ) ≤ n / d := by positivity
  cases negative with
  | false => simp [towardZero, sign, signed, hnonneg, hfloor]
  | true =>
    unfold towardZero
    split_ifs with h
    · have hzero : (n / d : ℚ) = 0 := by
        simp only [sign, if_true] at h
        linarith
      rw [hzero, Int.floor_zero] at hfloor
      simp [hzero, signed, ← hfloor]
    · simp [sign, signed, Int.ceil_neg, hfloor]

/-- A multiple of a power of ten as a quotient of natural numbers. -/
theorem natCast_mul_zpow (c : ℕ) (e : ℤ) :
    (c * 10 ^ e : ℚ) = ((c * 10 ^ e.toNat : ℕ) : ℚ) / ((10 ^ (-e).toNat : ℕ) : ℚ) := by
  obtain he | he := le_total 0 e
  · obtain ⟨k, rfl⟩ := Int.eq_ofNat_of_zero_le he
    simp
  · obtain ⟨k, hk⟩ := Int.eq_ofNat_of_zero_le (neg_nonneg.mpr he)
    obtain rfl : e = -(k : ℤ) := by omega
    simp [div_eq_mul_inv]

theorem natCast_mul_zpow_lt (c : ℕ) (e : ℤ) : (c * 10 ^ e : ℚ) < 10 ^ (length c + e) := by
  have hc : (c : ℚ) < 10 ^ length c := by exact_mod_cast lt_pow_length c
  rw [zpow_add₀ (by norm_num), zpow_natCast]
  exact mul_lt_mul_of_pos_right hc (zpow_pos (by norm_num) e)

theorem le_natCast_mul_zpow {c : ℕ} (hc : c ≠ 0) (e : ℤ) :
    (10 : ℚ) ^ (length c + e - 1) ≤ c * 10 ^ e := by
  have hlength := length_pos c
  have hexponent : (length c + e - 1 : ℤ) = ((length c - 1 : ℕ) : ℤ) + e := by omega
  have hc : (10 : ℚ) ^ (length c - 1) ≤ c := by exact_mod_cast pow_pred_length_le hc
  rw [hexponent, zpow_add₀ (by norm_num), zpow_natCast]
  exact mul_le_mul_of_nonneg_right hc (zpow_pos (by norm_num) e).le

/-- How many digits a multiple of a power of ten has in front of the point. -/
theorem quotient_lt_pow_iff {c : ℕ} (hc : c ≠ 0) (e : ℤ) (k : ℕ) :
    c * 10 ^ e.toNat / 10 ^ (-e).toNat < 10 ^ k ↔ e + length c ≤ k := by
  have hlength := length_pos c
  rw [Nat.div_lt_iff_lt_mul (by positivity), ← pow_add]
  constructor
  · intro h
    have hpow : 10 ^ (length c - 1 + e.toNat) < 10 ^ (k + (-e).toNat) :=
      calc 10 ^ (length c - 1 + e.toNat) ≤ c * 10 ^ e.toNat := by
            rw [pow_add]
            exact Nat.mul_le_mul_right _ (pow_pred_length_le hc)
        _ < 10 ^ (k + (-e).toNat) := h
    have := (Nat.pow_lt_pow_iff_right (by decide)).mp hpow
    omega
  · intro h
    calc c * 10 ^ e.toNat < 10 ^ (length c + e.toNat) := by
          rw [pow_add]
          exact Nat.mul_lt_mul_of_pos_right (lt_pow_length c) (by positivity)
      _ ≤ 10 ^ (k + (-e).toNat) := Nat.pow_le_pow_right (by decide) (by omega)

@[simp] theorem natAbs_signed (negative : Bool) (n : ℕ) : (signed negative n).natAbs = n := by
  cases negative <;> simp [signed]

@[simp] theorem signed_zero (negative : Bool) : signed negative 0 = 0 := by
  cases negative <;> rfl

theorem isShort_signed (negative : Bool) (n : ℕ) :
    isShort (signed negative n) = decide (n < 10 ^ digitLimit) := by
  rw [isShort, natAbs_signed, Nat.pow_eq]

end Numeral

namespace Decimal

open Numeral

/-- The value of a finite decimal number. -/
def toRat? : Decimal → Option ℚ
  | finite negative coefficient e => some (sign negative * (coefficient * 10 ^ e))
  | _ => none

/-- A finite decimal number is truncated exactly, unless the integer is too long to be written. -/
theorem truncated?_eq (negative : Bool) (coefficient : ℕ) (e : ℤ) :
    truncated? negative coefficient e =
      let n := towardZero (sign negative * (coefficient * 10 ^ e))
      if isShort n then some n else none := by
  have hquotient : (if 0 ≤ e then coefficient * 10 ^ e.toNat else coefficient / 10 ^ (-e).toNat) =
      coefficient * 10 ^ e.toNat / 10 ^ (-e).toNat := by
    split_ifs with he
    · rw [Int.toNat_of_nonpos (by omega : -e ≤ 0), pow_zero, Nat.div_one]
    · rw [Int.toNat_of_nonpos (by omega : e ≤ 0), pow_zero, Nat.mul_one]
  rw [natCast_mul_zpow, towardZero_sign_mul]
  simp only [isShort_signed, decide_eq_true_eq, truncated?, Nat.pow_eq, hquotient]
  by_cases hc : coefficient = 0
  · simp [hc]
  simp only [quotient_lt_pow_iff hc, hc, false_or]
  by_cases hwhole : e + length coefficient ≤ 0
  · have hzero := (quotient_lt_pow_iff hc e 0).mpr (by omega)
    rw [pow_zero, Nat.lt_one_iff] at hzero
    rw [if_pos hwhole, if_pos (by omega), hzero, signed_zero]
  · rw [if_neg hwhole]
    by_cases hlong : (digitLimit : ℤ) < e + length coefficient
    · rw [if_pos hlong, if_neg (by omega)]
    · rw [if_neg hlong, if_pos (by omega)]

/-- A finite decimal number is too large for the memory if the integer that is left of it has more
digits than the memory holds, and than can be written. -/
theorem exhausts_iff (memory coefficient : ℕ) (negative : Bool) (e : ℤ) :
    exhausts memory coefficient e = true ↔
      max digitLimit memory <
        (Nat.digits 10 (towardZero (sign negative * (coefficient * 10 ^ e))).natAbs).length := by
  rw [natCast_mul_zpow, towardZero_sign_mul, natAbs_signed]
  by_cases hc : coefficient = 0
  · simp [exhausts, hc]
  · have hfits := quotient_lt_pow_iff hc e (max digitLimit memory)
    rw [← Nat.digits_length_le_iff (by decide)] at hfits
    rw [exhausts, decide_eq_true hc, Bool.true_and, decide_eq_true_iff, ← not_le, ← not_le, hfits]

end Decimal

namespace Binary64

open Numeral

/-- The magnitude with a finite code: the low 52 bits are a fraction, the bits above them an
exponent, and there is a leading one unless the exponent is zero. -/
def magnitude (code : ℕ) : ℚ :=
  let exponent := code / stepsPerPower
  let fraction : ℚ := (code % stepsPerPower : ℕ) / 2 ^ 52
  if exponent = 0 then fraction * 2 ^ (-1022 : ℤ)
  else (1 + fraction) * 2 ^ ((exponent : ℤ) - 1023)

/-- The value of a finite binary number. -/
def toRat (x : Binary64) : ℚ :=
  sign x.negative * magnitude x.code

/-- The exponent is left open here, for the power is too large to be worked out. -/
theorem unitsPerOne_eq {k : ℕ} (h : 1074 = k) : unitsPerOne = 2 ^ k := by
  unfold unitsPerOne
  rw [h]
  rfl

theorem unitsPerOne_pos : 0 < unitsPerOne := by
  obtain ⟨k, hk⟩ : ∃ k, 1074 = k := ⟨_, rfl⟩
  rw [unitsPerOne_eq hk]
  positivity

theorem zpow_mul_unitsPerOne {e : ℤ} {k : ℕ} (h : e + 1074 = k) :
    (2 : ℚ) ^ e * unitsPerOne = 2 ^ k := by
  obtain ⟨u, hu⟩ : ∃ u, 1074 = u := ⟨_, rfl⟩
  have hexponent : e + u = k := by omega
  rw [unitsPerOne_eq hu]
  push_cast
  rw [← zpow_natCast, ← zpow_natCast, ← zpow_add₀ two_ne_zero, hexponent]

theorem magnitude_eq (code : ℕ) : magnitude code = units code / unitsPerOne := by
  have hsteps : (stepsPerPower : ℚ) = 2 ^ 52 := by norm_num [stepsPerPower]
  rw [eq_div_iff (Nat.cast_ne_zero.mpr unitsPerOne_pos.ne'), magnitude, units]
  by_cases hcode : code < stepsPerPower
  · rw [if_pos hcode, Nat.div_eq_of_lt hcode, if_pos rfl, Nat.mod_eq_of_lt hcode, mul_assoc,
      zpow_mul_unitsPerOne (k := 52) (by norm_num), div_mul_cancel₀ _ (by positivity)]
  · obtain ⟨k, hk⟩ : ∃ k, code / stepsPerPower = k + 1 :=
      Nat.exists_eq_succ_of_ne_zero (Nat.div_pos (not_lt.mp hcode) (by decide)).ne'
    rw [if_neg hcode, hk, if_neg k.succ_ne_zero, Nat.add_sub_cancel, Nat.pow_eq, mul_assoc,
      zpow_mul_unitsPerOne (k := k + 52) (by push_cast; ring)]
    push_cast
    rw [hsteps]
    field_simp
    ring

/-- A binary number is truncated exactly. -/
theorem truncated_eq (x : Binary64) : x.truncated = towardZero x.toRat := by
  rw [toRat, magnitude_eq, towardZero_sign_mul]
  rfl

end Binary64

/-- The value of a finite number. -/
def Number.toRat? : Number → Option ℚ
  | binary x => if x.isFinite then some x.toRat else none
  | decimal d => d.toRat?

namespace Argument

/-- The values that are numbers of some kind, finite or not. -/
def IsNumber : Argument → Prop
  | bool _ | int _ | binary _ | decimal _ => True
  | _ => False

/-- The rational number that a value is. -/
def toRat? : Argument → Option ℚ
  | bool b => some (if b then 1 else 0)
  | int n => some n
  | binary x => (Number.binary x).toRat?
  | decimal d => (Number.decimal d).toRat?
  | _ => none

end Argument
end SqlTemplate
