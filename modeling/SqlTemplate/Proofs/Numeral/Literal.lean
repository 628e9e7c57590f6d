import Mathlib.Tactic.SplitIfs
import SqlTemplate.Argument
import SqlTemplate.Text

/-!
# Numeric literals

The numbers that a query can hold without quotes: an optional minus sign, digits, an optional
fraction and an optional power of ten. Integers, finite decimal numbers and finite binary numbers
are all written like this, whether in positions or with a power. Such a text has no character that
could end it early or make something else of it.
-/
namespace SqlTemplate

namespace Numeral

/-- A run of ASCII digits, at least one. -/
def IsDigits (t : Text) : Prop :=
  t ≠ [] ∧ ∀ c ∈ t, c.isDigit = true

/-- Digits, and perhaps a point and more digits. -/
inductive IsMantissa : Text → Prop
  | whole {digits : Text} (h : IsDigits digits) : IsMantissa digits
  | fraction {digits more : Text} (h : IsDigits digits) (hmore : IsDigits more) :
      IsMantissa (digits ++ '.' :: more)

/-- Nothing, or a power of ten, which may have a sign. -/
inductive IsPower : Text → Prop
  | absent : IsPower []
  | given {letter : Char} {sign digits : Text} (hletter : letter = 'e' ∨ letter = 'E')
      (hsign : sign = [] ∨ sign = ['+'] ∨ sign = ['-']) (h : IsDigits digits) :
      IsPower (letter :: sign ++ digits)

/-- A number without a sign. -/
inductive IsMagnitude : Text → Prop
  | mk {mantissa power : Text} (hmantissa : IsMantissa mantissa) (hpower : IsPower power) :
      IsMagnitude (mantissa ++ power)

/-- A number as a query holds it. -/
inductive IsLiteral : Text → Prop
  | mk {sign magnitude : Text} (hsign : sign = [] ∨ sign = ['-'])
      (hmagnitude : IsMagnitude magnitude) : IsLiteral (sign ++ magnitude)

theorem IsDigits.append {t u : Text} (ht : IsDigits t) (hu : ∀ c ∈ u, c.isDigit = true) :
    IsDigits (t ++ u) :=
  ⟨List.append_ne_nil_of_left_ne_nil ht.1 u, List.forall_mem_append.mpr ⟨ht.2, hu⟩⟩

theorem IsDigits.append_left {t u : Text} (ht : ∀ c ∈ t, c.isDigit = true) (hu : IsDigits u) :
    IsDigits (t ++ u) :=
  ⟨List.append_ne_nil_of_right_ne_nil t hu.1, List.forall_mem_append.mpr ⟨ht, hu.2⟩⟩

theorem IsDigits.take {t : Text} (h : IsDigits t) {k : Nat} (hk : k ≠ 0) : IsDigits (t.take k) := by
  refine ⟨?_, fun c hc => h.2 c (List.mem_of_mem_take hc)⟩
  rw [ne_eq, List.take_eq_nil_iff, not_or]
  exact ⟨hk, h.1⟩

theorem isDigits_zero : IsDigits ['0'] := by
  simp [IsDigits]

theorem isDigit_of_mem_zeros {n : Nat} : ∀ c ∈ zeros n, c.isDigit = true := by
  intro c hc
  rw [List.eq_of_mem_replicate hc]
  rfl

theorem isDigits_ofNat (n : Nat) : IsDigits (ofNat n) :=
  ⟨Nat.toDigits_ne_nil, fun _ hc => Nat.isDigit_of_mem_toDigits (by decide) (by decide) hc⟩

theorem IsMantissa.isMagnitude {t : Text} (h : IsMantissa t) : IsMagnitude t := by
  have := IsMagnitude.mk h .absent
  rwa [List.append_nil] at this

theorem minus_cases (negative : Bool) : minus negative = [] ∨ minus negative = ['-'] := by
  cases negative
  · exact .inl rfl
  · exact .inr rfl

theorem isLiteral_ofInt (n : Int) : IsLiteral (ofInt n) := by
  cases n with
  | ofNat n => exact .mk (.inl rfl) (IsMantissa.whole (isDigits_ofNat n)).isMagnitude
  | negSucc n => exact .mk (.inr rfl) (IsMantissa.whole (isDigits_ofNat (n + 1))).isMagnitude

/-- Digits in front of the point are filled up with zeros. -/
theorem isDigits_positional {digits : Text} (h : IsDigits digits) {point : Int}
    (hpoint : digits.length ≤ point) : IsDigits (positional digits point) := by
  have hlength := List.length_pos_iff.mpr h.1
  rw [positional, if_neg (by omega), if_pos hpoint]
  exact h.append isDigit_of_mem_zeros

/-- A point inside the digits, or in front of them behind a zero, has digits on both sides. -/
theorem isMantissa_positional {digits : Text} (h : IsDigits digits) (point : Int) :
    IsMantissa (positional digits point) := by
  unfold positional
  split_ifs with hleft hright
  · exact .fraction isDigits_zero (h.append_left isDigit_of_mem_zeros)
  · exact .whole (h.append isDigit_of_mem_zeros)
  · refine .fraction (h.take (by omega)) ⟨?_, fun c hc => h.2 c (List.mem_of_mem_drop hc)⟩
    rw [ne_eq, List.drop_eq_nil_iff]
    omega

theorem isMantissa_leading {digits : Text} (h : IsDigits digits) : IsMantissa (leading digits) := by
  obtain ⟨hne, hdigits⟩ := h
  match digits with
  | [] => exact absurd rfl hne
  | [d] => exact .whole ⟨hne, hdigits⟩
  | d :: e :: rest =>
    rw [List.forall_mem_cons] at hdigits
    have hfirst : IsDigits [d] := ⟨List.cons_ne_nil d [], by simpa using hdigits.1⟩
    exact .fraction hfirst ⟨List.cons_ne_nil e rest, hdigits.2⟩

theorem isPower_exponent {letter : Char} (hletter : letter = 'e' ∨ letter = 'E') (width : Nat)
    (e : Int) : IsPower (letter :: exponent width e) := by
  have hdigits : IsDigits (zeros (width - (ofNat e.natAbs).length) ++ ofNat e.natAbs) :=
    (isDigits_ofNat _).append_left isDigit_of_mem_zeros
  unfold exponent
  split_ifs
  · exact @IsPower.given letter ['-'] _ hletter (.inr (.inr rfl)) hdigits
  · exact @IsPower.given letter ['+'] _ hletter (.inr (.inl rfl)) hdigits

theorem IsMagnitude.forall_mem {P : Char → Prop} {t : Text} (h : IsMagnitude t)
    (hdigit : ∀ c, c.isDigit = true → P c) (hmark : ∀ c ∈ ['-', '+', '.', 'e', 'E'], P c) :
    ∀ c ∈ t, P c := by
  have hdigits {u : Text} (hu : IsDigits u) : ∀ c ∈ u, P c := fun c hc => hdigit c (hu.2 c hc)
  obtain ⟨hmantissa, hpower⟩ := h
  rw [List.forall_mem_append]
  constructor
  · cases hmantissa with
    | whole h => exact hdigits h
    | fraction h hmore =>
      rw [List.forall_mem_append, List.forall_mem_cons]
      exact ⟨hdigits h, hmark '.' (by decide), hdigits hmore⟩
  · cases hpower with
    | absent => simp
    | given hletter hsign h =>
      rw [List.forall_mem_append, List.forall_mem_cons]
      refine ⟨⟨?_, ?_⟩, hdigits h⟩
      · obtain rfl | rfl := hletter <;> exact hmark _ (by decide)
      · obtain rfl | rfl | rfl := hsign
        · simp
        · simpa using hmark '+' (by decide)
        · simpa using hmark '-' (by decide)

/-- A literal has no characters but digits and the marks between them. -/
theorem IsLiteral.forall_mem {P : Char → Prop} {t : Text} (h : IsLiteral t)
    (hdigit : ∀ c, c.isDigit = true → P c) (hmark : ∀ c ∈ ['-', '+', '.', 'e', 'E'], P c) :
    ∀ c ∈ t, P c := by
  obtain ⟨hsign, hmagnitude⟩ := h
  rw [List.forall_mem_append]
  refine ⟨?_, hmagnitude.forall_mem hdigit hmark⟩
  obtain rfl | rfl := hsign
  · simp
  · simpa using hmark '-' (by decide)

theorem IsLiteral.ne_nil {t : Text} (h : IsLiteral t) : t ≠ [] := by
  obtain ⟨hsign, hmantissa, hpower⟩ := h
  have hne : ∀ {u : Text}, IsMantissa u → u ≠ [] := by
    rintro _ (⟨hdigits⟩ | ⟨hdigits, -⟩)
    · exact hdigits.1
    · simp
  simp [hne hmantissa]

end Numeral

namespace Text

/-- The characters of numbers and of the word for null. -/
def numberChars : Text := "0123456789-+.eENUL".toList

theorem subset_numberChars {t : Text} (h : t.all numberChars.contains = true) : t ⊆ numberChars :=
  fun c hc => List.contains_iff_mem.mp (List.all_eq_true.mp h c hc)

theorem mem_numberChars_of_isDigit {c : Char} (h : c.isDigit = true) : c ∈ numberChars := by
  obtain ⟨d, hd, rfl⟩ := exists_digitChar h
  exact (by decide : ∀ d < 10, digitChar d ∈ numberChars) d hd

/-- Text that is no more than a number or a word where it stands without quotes: no quotes, no
blanks, no low lines, no digits but the ASCII ones, and no name of a number that is not finite. -/
structure IsPlain (t : Text) : Prop where
  unquoted : ∀ c ∈ t, c ≠ singleQuote ∧ c ≠ doubleQuote ∧ c ≠ '\x60'
  unspaced : ∀ c ∈ t, isBlank c = false
  unlined : '_' ∉ t
  ascii : ∀ c ∈ t, (digitValue? c).isSome = true → c.isDigit = true
  notNaN : ¬"nan".toList <:+: t.map Char.toLower
  notInfinity : ¬"inf".toList <:+: t.map Char.toLower

theorem isPlain_of_subset {t : Text} (h : t ⊆ numberChars) : t.IsPlain := by
  have hall {p : Char → Bool} (hp : numberChars.all p = true) : ∀ c ∈ t, p c = true :=
    fun c hc => List.all_eq_true.mp hp c (h hc)
  -- No name of a number that is not finite can be spelled without one of these letters.
  have hletters := hall (p := fun c => c.toLower != 'a' && c.toLower != 'f') (by decide)
  have habsent {name : Text} {letter : Char} (hletter : letter ∈ name)
      (hne : ∀ c ∈ t, c.toLower ≠ letter) : ¬name <:+: t.map Char.toLower := by
    intro hname
    obtain ⟨c, hc, hlower⟩ := List.mem_map.mp (hname.subset hletter)
    exact hne c hc hlower
  exact
    { unquoted := by
        simpa [and_assoc] using
          hall (p := fun c => c != singleQuote && c != doubleQuote && c != '\x60') (by decide)
      unspaced := by simpa using hall (p := fun c => !isBlank c) (by decide)
      unlined := fun hc => absurd (h hc) (by decide)
      ascii := by
        intro c hc hdigit
        have := hall (p := fun c => !(digitValue? c).isSome || c.isDigit) (by decide) c hc
        rwa [hdigit, Bool.not_true, Bool.false_or] at this
      notNaN := habsent (by decide : 'a' ∈ "nan".toList) fun c hc => by
        simpa using (Bool.and_eq_true_iff.mp (hletters c hc)).1
      notInfinity := habsent (by decide : 'f' ∈ "inf".toList) fun c hc => by
        simpa using (Bool.and_eq_true_iff.mp (hletters c hc)).2 }

end Text

theorem Numeral.IsLiteral.isPlain {t : Text} (h : IsLiteral t) : t.IsPlain := by
  have hmarks : ['-', '+', '.', 'e', 'E'] ⊆ Text.numberChars := Text.subset_numberChars (by decide)
  refine Text.isPlain_of_subset (h.forall_mem (fun c hc => ?_) hmarks)
  exact Text.mem_numberChars_of_isDigit hc

namespace Decimal

open Numeral

theorem isMagnitude_magnitudeText (coefficient : Nat) (e : Int) :
    IsMagnitude (magnitudeText coefficient e) := by
  have hdigits := isDigits_ofNat coefficient
  unfold magnitudeText
  dsimp only
  split_ifs
  · exact (isMantissa_positional hdigits _).isMagnitude
  · exact .mk (isMantissa_leading hdigits) (isPower_exponent (.inr rfl) _ _)

/-- A finite decimal number is written as a literal. -/
theorem isLiteral_toText {d : Decimal} (h : d.isFinite = true) : IsLiteral d.toText := by
  cases d with
  | finite negative coefficient e =>
    exact .mk (minus_cases negative) (isMagnitude_magnitudeText coefficient e)
  | infinity | nan => cases h

end Decimal

namespace Binary64

open Numeral

theorem isDigits_withoutTrailingZeros {digits : Text} (h : IsDigits digits) :
    IsDigits (withoutTrailingZeros digits) := by
  unfold withoutTrailingZeros
  split
  · exact isDigits_zero
  · rename_i hne
    refine ⟨hne, fun c hc => h.2 c ?_⟩
    rw [List.mem_reverse] at hc
    exact List.mem_reverse.mp ((List.dropWhile_sublist _).subset hc)

/-- A magnitude is written with the point in its place, and then with a fraction always, or as a
leading digit and a power. -/
theorem isMagnitude_magnitudeText (code : Nat) : IsMagnitude (magnitudeText code) := by
  unfold magnitudeText
  split_ifs with hzero
  · exact (IsMantissa.fraction isDigits_zero isDigits_zero).isMagnitude
  · obtain ⟨t, e⟩ := shortest code
    have hdigits := isDigits_withoutTrailingZeros (isDigits_ofNat t)
    dsimp only
    split_ifs with hpositional hwhole
    · exact (IsMantissa.fraction (isDigits_positional hdigits hwhole) isDigits_zero).isMagnitude
    · exact .mk (isMantissa_positional hdigits _) .absent
    · exact .mk (isMantissa_leading hdigits) (isPower_exponent (.inl rfl) _ _)

/-- A finite binary number is written as a literal. -/
theorem isLiteral_toText {x : Binary64} (h : x.isFinite = true) : IsLiteral x.toText := by
  have hnan : x.isNaN = false := by
    simp only [isFinite, isNaN, decide_eq_true_eq, decide_eq_false_iff_not] at h ⊢
    omega
  rw [toText, hnan, h, if_neg Bool.false_ne_true, if_pos rfl]
  exact .mk (minus_cases _) (isMagnitude_magnitudeText x.code)

end Binary64

/-- A finite number of either kind is written as a literal. -/
theorem Number.isLiteral_toText {x : Number} (h : x.isFinite = true) :
    Numeral.IsLiteral x.toText := by
  cases x with
  | binary x => exact Binary64.isLiteral_toText h
  | decimal d => exact Decimal.isLiteral_toText h

end SqlTemplate
