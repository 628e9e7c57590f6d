import Mathlib.Data.Nat.Digits.Lemmas
import SqlTemplate.Numeral
import SqlTemplate.Proofs.Numeral.Literal

/-!
# Canonical integers

An integer has one canonical text: the digits of its magnitude without superfluous zeros in front,
behind a minus sign if it is negative. The number of these digits tells between which powers of ten
the magnitude lies, and so whether the integer is short enough to be written.
-/
namespace SqlTemplate.Numeral

/-- Digits of an integer without superfluous zeros, behind a minus sign if it is negative, and only
then. -/
inductive IsCanonical (n : ℤ) : Text → Prop
  | mk {digits : Text} (hdigits : IsDigits digits) (hvalue : valueOf digits = n.natAbs)
      (hzero : digits.head? = some '0' → digits = ['0']) :
      IsCanonical n (minus (decide (n < 0)) ++ digits)

@[simp] theorem valueOf_ofNat (n : ℕ) : valueOf (ofNat n) = n :=
  Nat.ofDigitChars_toDigits (by decide) (by decide)

/-- Only zero begins with a zero. -/
theorem ofNat_of_head?_eq_zero {n : ℕ} (h : (ofNat n).head? = some '0') : ofNat n = ['0'] := by
  induction n using Nat.strong_induction_on with
  | h n ih =>
    obtain hn | hn := Nat.lt_or_ge n 10
    · rw [ofNat, Nat.toDigits_of_lt_base hn] at h ⊢
      simpa using h
    · -- The digit in front is that of a tenth, which is not zero.
      have hsplit : ofNat n = ofNat (n / 10) ++ [(n % 10).digitChar] :=
        Nat.toDigits_of_base_le (by decide) hn
      rw [hsplit, List.head?_append_of_ne_nil _ (isDigits_ofNat (n / 10)).1] at h
      have htenth := congrArg valueOf (ih (n / 10) (by omega) h)
      rw [valueOf_ofNat] at htenth
      have hzero : valueOf ['0'] = 0 := rfl
      omega

theorem valueOf_append_digitChar (t : Text) {d : ℕ} (h : d < 10) :
    valueOf (t ++ [Text.digitChar d]) = 10 * valueOf t + d := by
  simp [valueOf, Text.toNat_digitChar h]

/-- Without superfluous zeros in front, digits are those that their value is written with. -/
theorem ofNat_valueOf {digits : Text} (h : IsDigits digits)
    (hzero : digits.head? = some '0' → digits = ['0']) : ofNat (valueOf digits) = digits := by
  induction digits using List.reverseRecOn with
  | nil => exact absurd rfl h.1
  | append_singleton front c ih =>
    obtain ⟨hfront, hc⟩ := List.forall_mem_append.mp h.2
    obtain ⟨d, hd, rfl⟩ := Text.exists_digitChar (hc c (List.mem_singleton_self c))
    have hchar : d.digitChar = Text.digitChar d :=
      (by decide : ∀ d < 10, d.digitChar = Text.digitChar d) d hd
    rw [valueOf_append_digitChar front hd]
    by_cases hnil : front = []
    · subst hnil
      rw [valueOf, List.foldl_nil, Nat.mul_zero, Nat.zero_add, ofNat,
        Nat.toDigits_of_lt_base hd, hchar]
      rfl
    · -- What stands in front of the last digit has no zero in front either, not even alone.
      have hhead : front.head? ≠ some '0' := by
        intro hhead
        rw [← List.head?_append_of_ne_nil _ hnil] at hhead
        have hlength := congrArg List.length (hzero hhead)
        rw [List.length_append, List.length_singleton, List.length_singleton] at hlength
        exact hnil (List.length_eq_zero_iff.mp (by omega))
      have hread := ih ⟨hnil, hfront⟩ fun hfirst => absurd hfirst hhead
      have hpos : valueOf front ≠ 0 := by
        intro hvalue
        rw [hvalue] at hread
        exact hhead (hread ▸ rfl)
      have hlast : (10 * valueOf front + d) % 10 = d := by omega
      have htenth : (10 * valueOf front + d) / 10 = valueOf front := by omega
      rw [ofNat, Nat.toDigits_of_base_le (by decide) (by omega), hlast, htenth, hchar]
      exact congrArg (· ++ [Text.digitChar d]) hread

theorem ofInt_eq (n : ℤ) : ofInt n = minus (decide (n < 0)) ++ ofNat n.natAbs := by
  cases n with
  | ofNat n => rfl
  | negSucc n =>
    rw [decide_eq_true (Int.negSucc_lt_zero n)]
    rfl

theorem isCanonical_ofInt (n : ℤ) : IsCanonical n (ofInt n) := by
  rw [ofInt_eq]
  exact .mk (isDigits_ofNat _) (valueOf_ofNat _) ofNat_of_head?_eq_zero

/-- An integer has no other canonical text. -/
theorem isCanonical_iff {n : ℤ} {t : Text} : IsCanonical n t ↔ t = ofInt n := by
  constructor
  · rintro ⟨hdigits, hvalue, hzero⟩
    rw [ofInt_eq, ← hvalue, ofNat_valueOf hdigits hzero]
  · rintro rfl
    exact isCanonical_ofInt n

theorem length_pos (n : ℕ) : 0 < length n :=
  Nat.length_toDigits_pos

theorem length_le_iff {n k : ℕ} (hk : 0 < k) : length n ≤ k ↔ n < 10 ^ k :=
  Nat.length_toDigits_le_iff (by decide) hk

theorem lt_pow_length (n : ℕ) : n < 10 ^ length n :=
  (length_le_iff (length_pos n)).mp le_rfl

theorem pow_pred_length_le {n : ℕ} (hn : n ≠ 0) : 10 ^ (length n - 1) ≤ n := by
  by_contra h
  have hlength := length_pos n
  obtain hone | hmore := Nat.eq_zero_or_pos (length n - 1)
  · rw [hone, pow_zero] at h
    omega
  · have := (length_le_iff hmore).mpr (not_le.mp h)
    omega

/-- An integer is short enough if it has no more digits than the limit. -/
theorem isShort_iff {n : ℤ} :
    isShort n = true ↔ (Nat.digits 10 n.natAbs).length ≤ digitLimit := by
  rw [isShort, decide_eq_true_iff, Nat.pow_eq, Nat.digits_length_le_iff (by decide)]

end SqlTemplate.Numeral
