import SqlTemplate.Decimal
import SqlTemplate.Proofs.Numeral.Reading

/-!
# Decimal numbers read back

A finite decimal number is read back from its text, with the same sign, coefficient and power of
ten, in all four layouts: with the point in front of the digits, behind them, between them, and with
a power. An integer of any script, however long, is read as the decimal number without a power.
-/
namespace SqlTemplate

namespace Numeral

/-- Where there are no low lines and no digits but the ASCII ones, numerals are read as they are. -/
theorem plain?_eq_self {t : Text} (h : t.IsPlain) : plain? t = some t := by
  have hascii : Text.asciiDigits t = t := by
    rw [Text.asciiDigits]
    conv_rhs => rw [← List.map_id t]
    refine List.map_congr_left fun c hc => ?_
    cases hvalue : Text.digitValue? c with
    | none => rfl
    | some d => exact Text.digitChar_of_digitValue? (h.ascii c hc (by rw [hvalue]; rfl)) hvalue
  have hlines {u : Text} (hu : '_' ∉ u) (afterDigit : Bool) :
      withoutLowLines? afterDigit u = some u := by
    induction u generalizing afterDigit with
    | nil => rfl
    | cons c rest ih =>
      obtain ⟨hc, hrest⟩ := not_or.mp (mt List.mem_cons.mpr hu)
      rw [withoutLowLines?, if_neg (Ne.symm hc), ih hrest]
      · rfl
      · exact fun _ _ hline => absurd hline.symm hc
  rw [plain?, hascii, hlines h.unlined]

theorem splitSign_cases (t : Text) :
    t = (splitSign t).2 ∨ t = '-' :: (splitSign t).2 ∨ t = '+' :: (splitSign t).2 := by
  unfold splitSign
  split <;> simp

theorem splitSign_suffix (t : Text) : (splitSign t).2 <:+ t := by
  obtain h | h | h := splitSign_cases t
  · exact ⟨[], h.symm⟩
  · exact ⟨['-'], h.symm⟩
  · exact ⟨['+'], h.symm⟩

theorem isDigits_of_natural? {t : Text} {n : ℕ} (h : natural? t = some n) :
    IsDigits t ∧ valueOf t = n := by
  unfold natural? at h
  split at h
  · rename_i hdigits
    simp only [Bool.and_eq_true, Bool.not_eq_true', List.isEmpty_eq_false_iff,
      List.all_eq_true] at hdigits
    exact ⟨hdigits, Option.some.inj h⟩
  · cases h

/-- What is read as an integer is a sign and digits. -/
theorem plain?_of_integer? {t : Text} {n : ℤ} (h : integer? t = some n) :
    ∃ p negative digits, plain? t = some p ∧ p.IsPlain ∧ splitSign p = (negative, digits) ∧
      IsDigits digits ∧ signed negative (valueOf digits) = n := by
  obtain ⟨p, hplain, h⟩ := Option.bind_eq_some_iff.mp h
  cases hsign : splitSign p with
  | mk negative digits =>
    simp only [hsign] at h
    split at h
    · obtain ⟨c, hc, rfl⟩ := Option.map_eq_some_iff.mp h
      obtain ⟨hdigits, rfl⟩ := isDigits_of_natural? hc
      refine ⟨p, negative, digits, hplain, ?_, hsign, hdigits, rfl⟩
      have hmem : digits ⊆ Text.numberChars :=
        fun c hc => Text.mem_numberChars_of_isDigit (hdigits.2 c hc)
      have hcases := splitSign_cases p
      rw [hsign] at hcases
      apply Text.isPlain_of_subset
      obtain rfl | rfl | rfl := hcases
      · exact hmem
      · exact List.cons_subset.mpr ⟨by decide, hmem⟩
      · exact List.cons_subset.mpr ⟨by decide, hmem⟩
    · cases h

end Numeral

namespace Decimal

open Numeral

/-- A fractional numeral is read as a decimal number. No name of a number that is not finite stands
in its way. -/
theorem ofNumeral?_of_fractional? {t p magnitude : Text} {negative : Bool} {coefficient : ℕ} {e : ℤ}
    (hplain : plain? t = some p) (hp : p.IsPlain) (hsign : splitSign p = (negative, magnitude))
    (h : fractional? magnitude = some (coefficient, e)) :
    ofNumeral? t = some (finite negative coefficient e) := by
  have hsuffix : magnitude <:+ p := by
    have := splitSign_suffix p
    rwa [hsign] at this
  have hname {part name : Text} (hpart : part <:+: name) (habsent : ¬part <:+: p.map Char.toLower) :
      magnitude.map Char.toLower ≠ name := by
    rintro rfl
    exact habsent (hpart.trans (hsuffix.isInfix.map Char.toLower))
  have hinf : ¬(magnitude.map Char.toLower = "inf".toList ∨
      magnitude.map Char.toLower = "infinity".toList) :=
    not_or.mpr ⟨hname List.infix_rfl hp.notInfinity,
      hname (by decide : "inf".toList <:+: "infinity".toList) hp.notInfinity⟩
  have hnan := hname List.infix_rfl hp.notNaN
  simp only [ofNumeral?, hplain, hsign, h, hinf, hnan, Option.bind_eq_bind, Option.bind_some,
    if_false]
  rfl

/-- The digits of an integer make a decimal number without a power, however many they are. -/
theorem ofNumeral?_of_isInteger {t : Text} {negative : Bool} {ds : List ℕ}
    (h : IsInteger t negative ds) : ofNumeral? t = some (finite negative (ofValues ds) 0) := by
  obtain ⟨p, hplain, hp, hsign⟩ := h.plain?
  obtain ⟨u, hu⟩ := h.exists_isRun
  have hread := fractional?_whole_nil hu.isDigits
  rw [hu.valueOf_eq] at hread
  exact ofNumeral?_of_fractional? hplain hp hsign hread

/-- What is read as an integer makes the same number where fractions are read. -/
theorem ofNumeral?_of_integer? {t : Text} {n : ℤ} (h : integer? t = some n) :
    ∃ negative c, ofNumeral? t = some (finite negative c 0) ∧ signed negative c = n := by
  obtain ⟨p, negative, digits, hplain, hp, hsign, hdigits, hvalue⟩ := plain?_of_integer? h
  exact ⟨negative, valueOf digits,
    ofNumeral?_of_fractional? hplain hp hsign (fractional?_whole_nil hdigits), hvalue⟩

theorem fractional?_magnitudeText (coefficient : ℕ) (e : ℤ) :
    fractional? (magnitudeText coefficient e) = some (coefficient, e) := by
  have hdigits := isDigits_ofNat coefficient
  unfold magnitudeText
  dsimp only
  split_ifs with hpositional
  · rw [fractional?_positional hdigits (by omega), valueOf_ofNat]
    congr 2
    omega
  · rw [fractional?_leading hdigits (by simp), power?_exponent (.inr rfl), valueOf_ofNat, Option.map_some]
    congr 2
    omega

theorem splitSign_toText (negative : Bool) (coefficient : ℕ) (e : ℤ) :
    splitSign (toText (finite negative coefficient e)) =
      (negative, magnitudeText coefficient e) :=
  splitSign_minus_append negative (isMagnitude_magnitudeText coefficient e)

/-- A finite decimal number is read back from its text. -/
theorem ofNumeral?_toText (negative : Bool) (coefficient : ℕ) (e : ℤ) :
    ofNumeral? (toText (finite negative coefficient e)) =
      some (finite negative coefficient e) := by
  have hplain : (toText (finite negative coefficient e)).IsPlain :=
    (isLiteral_toText (d := finite negative coefficient e) rfl).isPlain
  exact ofNumeral?_of_fractional? (plain?_eq_self hplain) hplain
    (splitSign_toText negative coefficient e) (fractional?_magnitudeText coefficient e)

/-- What has a point or a power of ten is not read as an integer. -/
theorem integer?_toText_eq_none {negative : Bool} {coefficient : ℕ} {e : ℤ}
    (h : '.' ∈ toText (finite negative coefficient e) ∨
      'E' ∈ toText (finite negative coefficient e)) :
    integer? (toText (finite negative coefficient e)) = none := by
  have hminus : '.' ∉ Numeral.minus negative ∧ 'E' ∉ Numeral.minus negative := by
    cases negative <;> decide
  obtain ⟨c, hmagnitude, hdigit⟩ : ∃ c ∈ magnitudeText coefficient e, c.isDigit = false := by
    obtain hpoint | hpower := h
    · exact ⟨'.', (List.mem_append.mp hpoint).resolve_left hminus.1, rfl⟩
    · exact ⟨'E', (List.mem_append.mp hpower).resolve_left hminus.2, rfl⟩
  have hplain := plain?_eq_self
    (isLiteral_toText (d := finite negative coefficient e) rfl).isPlain
  simp only [integer?, hplain, splitSign_toText, natural?_eq_none hmagnitude hdigit,
    Option.bind_eq_bind, Option.bind_some, Option.map_none, ite_self]

end Decimal
end SqlTemplate
