import SqlTemplate.Proofs.Builder.Numeric
import SqlTemplate.Proofs.Numeral.Denotation
import SqlTemplate.Proofs.Numeral.Value

/-!
# Exact numbers

Numbers that are not rounded: the integers that the rule for integers leaves of them, and the
literals of the bare rule.

## Numbers as integers

The rule for integers takes truth values, integers and finite numbers of either kind for the
rational numbers they are, and writes them without their fraction. Numbers that are not finite, and
integers with too many digits, are refused with a format error that knows the tag.
-/
namespace SqlTemplate

/-- A value is, without its fraction, an integer with no more digits than can be written. -/
def Argument.TruncatesTo (value : Argument) (n : ℤ) : Prop :=
  ∃ q, value.toRat? = some q ∧ Numeral.towardZero q = n ∧
    (Nat.digits 10 n.natAbs).length ≤ Numeral.digitLimit

/-- A value is a decimal number that has, without its fraction, more digits than the memory holds,
and than can be written. -/
def Argument.Exhausts (memory : ℕ) (value : Argument) : Prop :=
  ∃ d q, value = .decimal d ∧ d.toRat? = some q ∧
    max Numeral.digitLimit memory < (Nat.digits 10 (Numeral.towardZero q).natAbs).length

namespace Argument

variable {memory : ℕ} {value : Argument}

theorem exhausts_iff : value.exhausts memory = true ↔ value.Exhausts memory := by
  constructor
  · intro h
    cases value with
    | decimal d =>
      cases d with
      | finite negative coefficient e =>
        exact ⟨_, _, rfl, rfl, (Decimal.exhausts_iff memory coefficient negative e).mp h⟩
      | infinity | nan => cases h
    | _ => cases h
  · rintro ⟨d, q, rfl, hq, hdigits⟩
    cases d with
    | finite negative coefficient e =>
      cases hq
      exact (Decimal.exhausts_iff memory coefficient negative e).mpr hdigits
    | infinity | nan => cases hq

/-- There is room for all that can be written. -/
theorem TruncatesTo.not_exhausts {n : ℤ} (h : value.TruncatesTo n) : ¬value.Exhausts memory := by
  rintro ⟨d, q, rfl, hq, hlong⟩
  obtain ⟨q', hq', rfl, hshort⟩ := h
  obtain rfl : q = q' := Option.some.inj (hq.symm.trans hq')
  exact absurd (lt_of_le_of_lt (le_max_left _ _) hlong) (not_lt.mpr hshort)

/-- A decimal number that can be written as an integer has few enough digits in front of the
point. -/
theorem TruncatesTo.size_le {negative : Bool} {coefficient : ℕ} {e n : ℤ}
    (hc : coefficient ≠ 0)
    (h : (Argument.decimal (.finite negative coefficient e)).TruncatesTo n) :
    e + Numeral.length coefficient ≤ Numeral.digitLimit := by
  obtain ⟨q, hq, rfl, hdigits⟩ := h
  cases hq
  have hshort := Numeral.isShort_iff.mpr hdigits
  rw [Numeral.natCast_mul_zpow, Numeral.towardZero_sign_mul, Numeral.isShort_signed,
    decide_eq_true_iff] at hshort
  exact (Numeral.quotient_lt_pow_iff hc e _).mp hshort

end Argument

namespace Builder

theorem integerText_of_isShort {n : ℤ} (h : Numeral.isShort n = true) :
    integerText n = .ok (Numeral.ofInt n) :=
  if_pos h

theorem integerText_of_not_isShort {n : ℤ} (h : ¬Numeral.isShort n = true) :
    integerText n = refusal .longInteger (some "int".toList) :=
  if_neg h

theorem boolText_eq (v : Bool) : Except.ok (boolText v) = integerText (if v then 1 else 0) := by
  have hshort : Numeral.isShort (if v then 1 else 0) = true := by
    rw [Numeral.isShort_iff]
    cases v <;> simp [Numeral.digitLimit]
  rw [integerText_of_isShort hshort]
  cases v <;> rfl

/-- A finite binary number is written like the integer that is left of it. -/
theorem truncatedText_binary (memory : ℕ) {x : Binary64} (h : x.isFinite = true) :
    truncatedText memory (.binary x) = integerText (Numeral.towardZero x.toRat) := by
  rw [truncatedText, if_pos h, Binary64.truncated_eq]

/-- So is a finite decimal number, if there is room for the integer. -/
theorem truncatedText_decimal {memory coefficient : ℕ} {e : ℤ}
    (h : ¬Decimal.exhausts memory coefficient e = true) (negative : Bool) :
    truncatedText memory (.decimal (.finite negative coefficient e)) =
      integerText (Numeral.towardZero (Numeral.sign negative * (coefficient * 10 ^ e))) := by
  rw [truncatedText, if_neg h, Decimal.truncated?_eq]
  dsimp only
  split_ifs with hshort
  · rfl
  · rw [integerText_of_not_isShort hshort]

/-- A number that is not finite is refused. -/
theorem truncatedText_of_toRat?_eq_none (memory : ℕ) {x : Number} (h : x.toRat? = none) :
    truncatedText memory x = refusal (.notTruncatable x.quoted) none (some Tag.integer.text) := by
  cases x with
  | binary x =>
    have hfinite : x.isFinite = false := by simpa [Number.toRat?] using h
    rw [truncatedText, hfinite]
    rfl
  | decimal d =>
    cases d with
    | finite => cases h
    | infinity | nan => rfl

theorem renderInteger_of_toRat? {b : Builder} {value : Argument} {q : ℚ}
    (h : value.toRat? = some q) (hroom : ¬value.Exhausts b.memory) :
    b.renderInteger value = integerText (Numeral.towardZero q) := by
  cases value with
  | bool v =>
    obtain rfl : ((if v then 1 else 0 : ℤ) : ℚ) = q := by
      simpa [Argument.toRat?] using h
    rw [Numeral.towardZero_intCast, ← boolText_eq]
    rfl
  | int n =>
    cases h
    rw [Numeral.towardZero_intCast]
    rfl
  | binary x =>
    obtain ⟨hfinite, rfl⟩ : x.isFinite = true ∧ x.toRat = q := by
      simpa [Argument.toRat?, Number.toRat?] using h
    exact truncatedText_binary b.memory hfinite
  | decimal d =>
    cases d with
    | finite negative coefficient e =>
      cases h
      exact truncatedText_decimal (fun hlarge => hroom (Argument.exhausts_iff.mp hlarge)) negative
    | infinity | nan => cases h
  | _ => cases h

theorem renderInteger_of_toRat?_eq_none (b : Builder) {value : Argument}
    (hnumber : value.IsNumber) (h : value.toRat? = none) :
    ∃ problem, b.renderInteger value = refusal problem none (some Tag.integer.text) := by
  cases value with
  | bool | int => cases h
  | binary x => exact ⟨_, truncatedText_of_toRat?_eq_none b.memory (x := .binary x) h⟩
  | decimal d => exact ⟨_, truncatedText_of_toRat?_eq_none b.memory (x := .decimal d) h⟩
  | _ => cases hnumber

/-- Rendering by the rule for integers, with the tag filled in. -/
theorem render_integer (b : Builder) (value : Argument) :
    b.render value Tag.integer.text =
      (b.renderInteger value).mapError (·.annotate (some Tag.integer.text) none) :=
  b.render_rule value .integer

/-- A number that is too large for the memory is asked for as an integer, and nothing makes a format
error of that. -/
theorem render_of_exhausts {b : Builder} {value : Argument} (h : value.Exhausts b.memory) :
    b.render value Tag.integer.text = .error .outOfMemory :=
  b.render_of_defeats (.tooLarge (Argument.exhausts_iff.mpr h))

/-- A number that can be written as an integer is written as that. -/
theorem render_of_truncatesTo (b : Builder) {value : Argument} {n : ℤ} (h : value.TruncatesTo n) :
    b.render value Tag.integer.text = .ok (Numeral.ofInt n) := by
  have hroom : ¬value.Exhausts b.memory := h.not_exhausts
  obtain ⟨q, hq, rfl, hdigits⟩ := h
  rw [render_integer, renderInteger_of_toRat? hq hroom,
    integerText_of_isShort (Numeral.isShort_iff.mpr hdigits)]
  rfl

/-- A number that cannot be written as an integer, and that the memory has room for, is refused. -/
theorem render_of_not_truncatesTo {b : Builder} {value : Argument} (hnumber : value.IsNumber)
    (hnone : ∀ n, ¬value.TruncatesTo n) (hroom : ¬value.Exhausts b.memory) :
    ∃ e, b.render value Tag.integer.text = .error (.format e) ∧
      e.tag = some Tag.integer.text := by
  rw [render_integer]
  cases hq : value.toRat? with
  | none =>
    obtain ⟨problem, hrefused⟩ := b.renderInteger_of_toRat?_eq_none hnumber hq
    rw [hrefused]
    exact ⟨_, rfl, rfl⟩
  | some q =>
    have hlong : ¬Numeral.isShort (Numeral.towardZero q) = true := fun hshort =>
      hnone _ ⟨q, hq, rfl, Numeral.isShort_iff.mp hshort⟩
    rw [renderInteger_of_toRat? hq hroom, integerText_of_not_isShort hlong]
    exact ⟨_, rfl, rfl⟩

/-- The rule for integers truncates toward zero, and exactly. A truth value, an integer, a binary or
a decimal number that is finite, and that has without its fraction no more digits than can be
written, becomes the canonical text of the integer that is left. Every other number is refused with
a format error that knows the tag, with one exception: a decimal number that has without its
fraction more digits than the memory holds. There the memory runs out before anything is refused. -/
theorem render_truncates (b : Builder) {value : Argument} (hnumber : value.IsNumber) :
    (∀ n, value.TruncatesTo n →
        ∃ out, b.render value Tag.integer.text = .ok out ∧ Numeral.IsCanonical n out) ∧
      ((∀ n, ¬value.TruncatesTo n) → ¬value.Exhausts b.memory →
        ∃ e, b.render value Tag.integer.text = .error (.format e) ∧
          e.tag = some Tag.integer.text) ∧
      (b.render value Tag.integer.text = .error .outOfMemory ↔ value.Exhausts b.memory) := by
  refine ⟨fun n h => ⟨_, b.render_of_truncatesTo h, Numeral.isCanonical_ofInt n⟩,
    fun hnone hroom => render_of_not_truncatesTo hnumber hnone hroom, ?_, render_of_exhausts⟩
  intro hrender
  by_contra hroom
  by_cases hwritten : ∃ n, value.TruncatesTo n
  · obtain ⟨n, hn⟩ := hwritten
    rw [b.render_of_truncatesTo hn] at hrender
    cases hrender
  · rw [not_exists] at hwritten
    obtain ⟨e, he, -⟩ := render_of_not_truncatesTo hnumber hwritten hroom
    rw [he] at hrender
    cases hrender

/-- Ninety-nine hundredths below zero are left out together with their sign. One digit more than the
limit is refused, though the number is finite; many more, and the memory runs out. -/
theorem render_truncates_limit :
    let b : Builder := ⟨⟨.mysql, none⟩, .default, Decimal.mostDigits⟩
    let small : Argument := .decimal (.finite true 99 (-2))
    let long : Argument := .decimal (.finite false 1 Numeral.digitLimit)
    let huge : Argument := .decimal (.finite false 1 999999999999999999)
    (small.IsNumber ∧ small.TruncatesTo 0 ∧
      ∃ out, b.render small Tag.integer.text = .ok out ∧ Numeral.IsCanonical 0 out) ∧
    (long.IsNumber ∧ (∀ n, ¬long.TruncatesTo n) ∧ ¬long.Exhausts b.memory ∧
      ∃ e, b.render long Tag.integer.text = .error (.format e) ∧
        e.tag = some Tag.integer.text) ∧
    huge.IsNumber ∧ huge.Exhausts b.memory ∧
      b.render huge Tag.integer.text = .error .outOfMemory := by
  intro b small long huge
  have hsmall : small.TruncatesTo 0 := by
    refine ⟨_, rfl, ?_, by simp⟩
    rw [Numeral.natCast_mul_zpow, Numeral.towardZero_sign_mul]
    rfl
  have hlong : ∀ n, ¬long.TruncatesTo n := by
    intro n h
    have hsize := h.size_le one_ne_zero
    have hone : Numeral.length 1 = 1 := rfl
    omega
  have hroom : ¬long.Exhausts b.memory := by
    rw [← Argument.exhausts_iff]
    decide
  have hhuge : huge.Exhausts b.memory := Argument.exhausts_iff.mp (by decide)
  have hsmallNumber : small.IsNumber := trivial
  have hlongNumber : long.IsNumber := trivial
  have hhugeNumber : huge.IsNumber := trivial
  exact ⟨⟨hsmallNumber, hsmall, (render_truncates b hsmallNumber).1 0 hsmall⟩,
    ⟨hlongNumber, hlong, hroom, (render_truncates b hlongNumber).2.1 hlong hroom⟩,
    hhugeNumber, hhuge, (render_truncates b hhugeNumber).2.2.mpr hhuge⟩

/-- A finite decimal number that cannot be written, and the failure is no format error: on no host
is there memory for the integer. -/
theorem render_huge_decimal :
    let value : Argument := .decimal (.finite false 1 999999999999999999)
    value.IsNumber ∧ (∀ n, ¬value.TruncatesTo n) ∧
      ∀ memory ≤ Decimal.mostDigits,
        let b : Builder := ⟨⟨.mysql, none⟩, .default, memory⟩
        b.render value Tag.integer.text = .error .outOfMemory ∧
          ¬∃ e, b.render value Tag.integer.text = .error (.format e) := by
  intro value
  have hone : Numeral.length 1 = 1 := rfl
  refine ⟨trivial, fun n h => ?_, fun memory hmemory => ?_⟩
  · have hsize := h.size_le one_ne_zero
    rw [hone, Numeral.digitLimit] at hsize
    omega
  · have hlarge : value.exhausts memory = true := by
      rw [Decimal.mostDigits] at hmemory
      simp only [value, Argument.exhausts, Decimal.exhausts, hone, Numeral.digitLimit]
      simp
      omega
    have hrender := Builder.render_of_exhausts (b := ⟨⟨.mysql, none⟩, .default, memory⟩)
      (Argument.exhausts_iff.mp hlarge)
    refine ⟨hrender, ?_⟩
    rintro ⟨e, he⟩
    rw [hrender] at he
    cases he

/-!
## Exact numbers by the bare rule

Integers and decimal numbers are exact, and the bare rule keeps them so: the literal it writes
denotes the very number, whatever its sign, its size and its power of ten. Only what has no literal
is refused: an integer with too many digits, an infinity, a NaN.
-/

open Numeral

/-- A number that is not finite is refused under the name of its kind. -/
theorem numberText_of_not_isFinite {x : Number} (h : x.isFinite = false) :
    numberText x = refusal (.noLiteral x.quoted) (some x.kindName) := by
  rw [numberText, h]
  rfl

theorem numberText_of_isFinite {x : Number} (h : x.isFinite = true) :
    numberText x = .ok x.toText := by
  rw [numberText, if_pos h]

/-- The bare rule keeps the value of exact numbers. An integer that is not too long and a finite
decimal number are written as literals that denote this number and no other. An integer that is too
long and a decimal number that is not finite are refused, with a format error that names the kind.
-/
theorem renderBare_exact (b : Builder) :
    (∀ n : ℤ, (Nat.digits 10 n.natAbs).length ≤ digitLimit →
      ∃ out, b.renderBare (.int n) = .ok out ∧ ∀ q, Denotes out q ↔ q = n) ∧
    (∀ (negative : Bool) (coefficient : ℕ) (e : ℤ),
      ∃ out, b.renderBare (.decimal (.finite negative coefficient e)) = .ok out ∧
        ∀ q, Denotes out q ↔ q = sign negative * (coefficient * 10 ^ e)) ∧
    (∀ n : ℤ, digitLimit < (Nat.digits 10 n.natAbs).length →
      ∃ e, b.renderBare (.int n) = .error (.format e) ∧
        e.kind = some (Argument.int n).kindName) ∧
    ∀ d : Decimal, d.isFinite = false →
      ∃ e, b.renderBare (.decimal d) = .error (.format e) ∧
        e.kind = some (Argument.decimal d).kindName := by
  have hint (n : ℤ) : b.renderBare (.int n) = integerText n := rfl
  have hdecimal (d : Decimal) : b.renderBare (.decimal d) = numberText (.decimal d) := rfl
  refine ⟨fun n hn => ?_, fun negative coefficient e => ?_, fun n hn => ?_, fun d hd => ?_⟩
  · refine ⟨ofInt n, ?_, denotes_ofInt_iff n⟩
    rw [hint, integerText_of_isShort (isShort_iff.mpr hn)]
  · have hvalue : (Decimal.finite negative coefficient e).toRat? =
        some (sign negative * (coefficient * 10 ^ e)) := rfl
    refine ⟨_, ?_, Decimal.denotes_toText_iff hvalue⟩
    rw [hdecimal]
    exact numberText_of_isFinite rfl
  · have hlong : ¬isShort n = true := by
      rw [isShort_iff]
      omega
    rw [hint, integerText_of_not_isShort hlong]
    exact ⟨_, rfl, rfl⟩
  · rw [hdecimal, numberText_of_not_isFinite (x := .decimal d) hd]
    exact ⟨_, rfl, rfl⟩

/-- A zero with a sign and a power of ten, and the least integer that is too long. -/
theorem renderBare_exact_border :
    let b : Builder := ⟨⟨.mysql, none⟩, .default, Decimal.mostDigits⟩
    let zero : Decimal := .finite true 0 (-7)
    let long : ℤ := 10 ^ digitLimit
    (b.renderBare (.decimal zero) = .ok "-0E-7".toList ∧
      ∀ q, Denotes "-0E-7".toList q ↔ q = sign true * ((0 : ℕ) * 10 ^ (-7 : ℤ))) ∧
    (digitLimit < (Nat.digits 10 long.natAbs).length ∧
      ∃ e, b.renderBare (.int long) = .error (.format e) ∧ e.kind = some "int".toList) ∧
    (Nat.digits 10 (-12 : ℤ).natAbs).length ≤ digitLimit ∧
      ∃ out, b.renderBare (.int (-12)) = .ok out ∧ ∀ q, Denotes out q ↔ q = (-12 : ℤ) := by
  intro b zero long
  obtain ⟨hshort, hfinite, hlong, -⟩ := renderBare_exact b
  obtain ⟨out, hout, hdenotes⟩ := hfinite true 0 (-7)
  have hzero : b.renderBare (.decimal zero) = .ok "-0E-7".toList := by decide +kernel
  obtain rfl : out = "-0E-7".toList := Except.ok.inj (hout.symm.trans hzero)
  have hdigits : digitLimit < (Nat.digits 10 long.natAbs).length := by
    have hten : (10 : ℤ).natAbs = 10 := rfl
    rw [Nat.lt_digits_length_iff (by decide), Int.natAbs_pow, hten]
  have htwelve : (Nat.digits 10 (-12 : ℤ).natAbs).length ≤ digitLimit := by
    norm_num [digitLimit]
  exact ⟨⟨hzero, hdenotes⟩, ⟨hdigits, hlong long hdigits⟩, htwelve, hshort (-12) htwelve⟩

end Builder
end SqlTemplate
