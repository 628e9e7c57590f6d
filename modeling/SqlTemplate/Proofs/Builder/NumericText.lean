import SqlTemplate.Proofs.Binary64.Integral
import SqlTemplate.Proofs.Builder.ExactNumber
import SqlTemplate.Proofs.Decimal.Reading

/-!
# Texts as integers

The rule for integers reads a text as an integer, or else as the binary number that is nearest to
the number it denotes. An integer is therefore exact up to the limit of digits, zeros in front
included, and past it only as far as binary numbers go. What has a fraction or a power of ten is
rounded before it is truncated, so that it is written like the same decimal number as long as
rounding does not change its integer part.
-/
namespace SqlTemplate

/-- The number that a text is read as, as a value of its own. -/
def Reading.toArgument : Reading → Argument
  | integer n => .int n
  | binary x => .binary x

namespace Builder

open Numeral

/-- Binary numbers are all short enough to be written as integers. -/
theorem render_binary (b : Builder) {x : Binary64} (hfinite : x.isFinite = true) :
    b.render (.binary x) Tag.integer.text = .ok (ofInt (towardZero x.toRat)) := by
  have hshort := Binary64.isShort_truncated hfinite
  rw [Binary64.truncated_eq] at hshort
  exact b.render_of_truncatesTo ⟨x.toRat, if_pos hfinite, rfl, isShort_iff.mp hshort⟩

theorem render_binary_infinite (b : Builder) {x : Binary64} (hfinite : x.isFinite = false) :
    ∃ e, b.render (.binary x) Tag.integer.text = .error (.format e) ∧
      e.tag = some Tag.integer.text := by
  have hvalue : (Argument.binary x).toRat? = none := if_neg (Bool.eq_false_iff.mp hfinite)
  have hnumber : (Argument.binary x).IsNumber := trivial
  obtain ⟨problem, hrefused⟩ := b.renderInteger_of_toRat?_eq_none hnumber hvalue
  rw [render_integer, hrefused]
  exact ⟨_, rfl, rfl⟩

/-- A text is written like the number that it is read as. -/
theorem render_text_of_ofText? (b : Builder) {s : Text} {r : Reading}
    (h : Reading.ofText? s = some r) :
    b.render (.text s) Tag.integer.text = b.render r.toArgument Tag.integer.text := by
  have hbind (f : Reading → Except Failure Text) : (Except.ok r >>= f) = f r := rfl
  have hrule : b.renderInteger (.text s) = b.renderInteger r.toArgument := by
    rw [renderInteger]
    simp only [Argument.shape?, readNumber, h, hbind]
    cases r <;> simp only [Reading.toArgument, renderInteger, Argument.shape?]
  rw [render_integer, render_integer, hrule]

theorem ofText?_of_ofNumeral? {s : Text} {negative : Bool} {coefficient : ℕ} {e : ℤ}
    (hinteger : integer? (Text.strip s) = none)
    (h : Decimal.ofNumeral? (Text.strip s) = some (.finite negative coefficient e)) :
    Reading.ofText? s = some (.binary ⟨negative, Binary64.codeOfDecimal coefficient e⟩) := by
  simp only [Reading.ofText?, hinteger, h]
  rfl

/-- A text that is not an integer is written like the nearest binary number. -/
theorem render_text_of_ofNumeral? (b : Builder) {s : Text} {negative : Bool} {coefficient : ℕ}
    {e : ℤ} (hinteger : integer? (Text.strip s) = none)
    (h : Decimal.ofNumeral? (Text.strip s) = some (.finite negative coefficient e)) :
    ∃ x : Binary64, x.negative = negative ∧ Binary64.RoundsTo (coefficient * 10 ^ e) x.code ∧
      b.render (.text s) Tag.integer.text = b.render (.binary x) Tag.integer.text :=
  ⟨⟨negative, Binary64.codeOfDecimal coefficient e⟩, rfl,
    Binary64.roundsTo_codeOfDecimal coefficient e,
    render_text_of_ofText? b (ofText?_of_ofNumeral? hinteger h)⟩

/-! ### Integers -/

section Integers

variable (b : Builder) {s : Text} {negative : Bool} {ds : List ℕ}

theorem render_text_of_length_le (h : IsInteger (Text.strip s) negative ds)
    (hlength : ds.length ≤ digitLimit) :
    b.render (.text s) Tag.integer.text = .ok (ofInt (signed negative (ofValues ds))) := by
  obtain ⟨u, hu⟩ := h.exists_isRun
  have hread : Reading.ofText? s = some (.integer (signed negative (ofValues ds))) := by
    rw [Reading.ofText?, h.integer?_eq, if_pos hlength]
  have hshort : isShort (signed negative (ofValues ds)) = true := by
    rw [isShort_signed, decide_eq_true_iff]
    exact (ofValues_lt hu.forall_lt).trans_le (Nat.pow_le_pow_right (by decide) hlength)
  rw [render_text_of_ofText? b hread]
  exact b.render_of_truncatesTo ⟨_, rfl, towardZero_intCast _, isShort_iff.mp hshort⟩

theorem render_text_of_lt_length (h : IsInteger (Text.strip s) negative ds)
    (hlength : digitLimit < ds.length) :
    ∃ x : Binary64, x.negative = negative ∧ Binary64.RoundsTo (ofValues ds) x.code ∧
      b.render (.text s) Tag.integer.text = b.render (.binary x) Tag.integer.text := by
  have hinteger : integer? (Text.strip s) = none := by
    rw [h.integer?_eq, if_neg (not_le.mpr hlength)]
  have hnearest := render_text_of_ofNumeral? b hinteger (Decimal.ofNumeral?_of_isInteger h)
  rwa [zpow_zero, mul_one] at hnearest

/-- Behind as many zeros as the limit allows digits, an integer is read as a binary number. -/
theorem ofText?_zeros_append {digits : Text} (h : IsDigits digits) {k : ℕ} (hk : digitLimit ≤ k) :
    (∃ ds, IsInteger (Text.strip (zeros k ++ digits)) false ds ∧ ofValues ds = valueOf digits) ∧
      Reading.ofText? (zeros k ++ digits) =
        some (.binary ⟨false, Binary64.codeOfDecimal (valueOf digits) 0⟩) := by
  have hdigits : IsDigits (zeros k ++ digits) := h.append_left isDigit_of_mem_zeros
  have hplain : (zeros k ++ digits).IsPlain :=
    Text.isPlain_of_subset fun c hc => Text.mem_numberChars_of_isDigit (hdigits.2 c hc)
  have hstrip := Text.strip_eq_self hplain.unspaced
  obtain ⟨ds, hrun, hmap⟩ := hdigits.exists_isRun
  have hvalue : ofValues ds = valueOf digits := by
    rw [← hrun.valueOf_eq, hmap, valueOf_zeros_append]
  have hlength : digitLimit < ds.length := by
    have hpos := List.length_pos_iff.mpr h.1
    rw [← List.length_map Text.digitChar, hmap, List.length_append, zeros, List.length_replicate]
    omega
  have hinteger : IsInteger (Text.strip (zeros k ++ digits)) false ds := hstrip.symm ▸ .bare hrun
  refine ⟨⟨ds, hinteger, hvalue⟩, hvalue ▸ ofText?_of_ofNumeral? ?_ ?_⟩
  · rw [hinteger.integer?_eq, if_neg (not_le.mpr hlength)]
  · exact Decimal.ofNumeral?_of_isInteger hinteger

/-- A text that is an integer, in the digits of any script, is written as exactly this integer if it
has no more digits than the limit, zeros in front included, or if the integer is a binary number.
It is refused if it has more digits and is too large for a binary number. In the remaining cases
another integer is written, namely the nearest one that is a binary number. -/
theorem render_integer_text (h : IsInteger (Text.strip s) negative ds) :
    let n := ofValues ds
    let answer := b.render (.text s) Tag.integer.text
    ((∃ out, answer = .ok out ∧ IsCanonical (signed negative n) out) ↔
      ds.length ≤ digitLimit ∨ ∃ code < Binary64.infinityCode, Binary64.magnitude code = n) ∧
    ((∃ e, answer = .error (.format e)) ↔
      digitLimit < ds.length ∧ Binary64.overflowBound ≤ n) ∧
    (digitLimit < ds.length → n < Binary64.overflowBound →
      ∃ code, ∃ m : ℕ, Binary64.RoundsTo n code ∧ Binary64.magnitude code = m ∧
        ∃ out, answer = .ok out ∧ IsCanonical (signed negative m) out) := by
  intro n answer
  by_cases hlength : ds.length ≤ digitLimit
  · have hanswer : answer = .ok (ofInt (signed negative n)) :=
      render_text_of_length_le b h hlength
    rw [hanswer]
    exact ⟨iff_of_true ⟨_, rfl, isCanonical_ofInt _⟩ (.inl hlength),
      iff_of_false nofun fun hlong => absurd hlength (not_le.mpr hlong.1),
      fun hlong => absurd hlength (not_le.mpr hlong)⟩
  · obtain ⟨x, rfl, hround, hanswer⟩ := render_text_of_lt_length b h (not_le.mp hlength)
    by_cases hbound : (n : ℚ) < Binary64.overflowBound
    · have hfinite := hround.finite hbound
      obtain ⟨m, hm⟩ := hround.exists_natCast hfinite
      have hwritten : answer = .ok (ofInt (signed x.negative m)) := by
        rw [← Binary64.towardZero_toRat hm, ← render_binary b (decide_eq_true hfinite)]
        exact hanswer
      rw [hwritten, ← hround.eq_iff hfinite hm, or_iff_right hlength]
      refine ⟨⟨?_, ?_⟩, iff_of_false nofun fun hover => absurd hbound (not_lt.mpr hover.2),
        fun _ _ => ⟨x.code, m, hround, hm, _, rfl, isCanonical_ofInt _⟩⟩
      · rintro ⟨_, ⟨⟩, hcanonical⟩
        have hsame := congrArg Int.natAbs (ofInt_injective (isCanonical_iff.mp hcanonical))
        rwa [natAbs_signed, natAbs_signed] at hsame
      · rintro rfl
        exact ⟨_, rfl, isCanonical_ofInt _⟩
    · have hinfinite : x.isFinite = false :=
        decide_eq_false (not_lt.mpr (hround.overflow (not_lt.mp hbound)).ge)
      obtain ⟨e, hrefused, -⟩ := render_binary_infinite b hinfinite
      have hwritten : answer = .error (.format e) := hanswer.trans hrefused
      rw [hwritten, or_iff_right hlength]
      refine ⟨iff_of_false nofun ?_, iff_of_true ⟨e, rfl⟩ ⟨not_le.mp hlength, not_lt.mp hbound⟩,
        fun _ hsmall => absurd hsmall hbound⟩
      rintro ⟨code, hcode, hvalue⟩
      exact hbound (hvalue ▸ Binary64.magnitude_lt_overflowBound hcode)

/-- Few digits with blanks around them, in another script and with a low line between them. -/
theorem render_integer_text_spaced :
    let b : Builder := ⟨⟨.mysql, none⟩, .default, Decimal.mostDigits⟩
    let s : Text := "\u2003-\u0661_\u0662\n".toList
    IsInteger (Text.strip s) true [1, 2] ∧
      ∃ out, b.render (.text s) Tag.integer.text = .ok out ∧ IsCanonical (-12) out := by
  intro b s
  have hinteger : IsInteger (Text.strip s) true [1, 2] :=
    .minus (.spaced (by decide) (.single (by decide)))
  exact ⟨hinteger, (render_integer_text b hinteger).1.mpr (.inl (by decide))⟩

/-- Behind as many zeros as the limit allows digits, an odd number that is too large to be a binary
number is written as its even neighbour. -/
theorem render_text_padded :
    let b : Builder := ⟨⟨.mysql, none⟩, .default, Decimal.mostDigits⟩
    let s : Text := zeros digitLimit ++ "9007199254740993".toList
    (∃ ds, IsInteger (Text.strip s) false ds ∧ ofValues ds = 9007199254740993) ∧
      b.render (.text s) Tag.integer.text = .ok "9007199254740992".toList ∧
      ¬IsCanonical 9007199254740993 "9007199254740992".toList := by
  intro b s
  have hdigits : IsDigits "9007199254740993".toList :=
    ⟨by decide, List.all_eq_true.mp (by decide)⟩
  obtain ⟨hinteger, hread⟩ := ofText?_zeros_append hdigits le_rfl
  refine ⟨hinteger, ?_, ?_⟩
  · rw [render_text_of_ofText? b hread]
    decide +kernel
  · rw [isCanonical_iff]
    decide

end Integers

/-! ### Decimal numbers -/

/-- Which integer a finite number is written as. -/
theorem render_eq_ok_ofInt_iff (b : Builder) {value : Argument} {q : ℚ} {n : ℤ}
    (h : value.toRat? = some q) :
    b.render value Tag.integer.text = .ok (ofInt n) ↔
      towardZero q = n ∧ isShort n = true := by
  constructor
  · intro hok
    have hroom : ¬value.Exhausts b.memory := by
      intro hlarge
      rw [render_of_exhausts hlarge] at hok
      cases hok
    rw [render_integer, renderInteger_of_toRat? h hroom] at hok
    by_cases hshort : isShort (towardZero q) = true
    · rw [integerText_of_isShort hshort] at hok
      have hsame := ofInt_injective (Except.ok.inj hok)
      exact ⟨hsame, hsame ▸ hshort⟩
    · rw [integerText_of_not_isShort hshort] at hok
      cases hok
  · rintro ⟨rfl, hshort⟩
    exact b.render_of_truncatesTo ⟨q, h, rfl, isShort_iff.mp hshort⟩

/-- The text of a decimal number that has a point or a power is written like the nearest binary
number. It is refused if that is an infinity. Otherwise it becomes the same text as the decimal
number itself exactly if the two numbers have the same integer part, and therefore whenever the
decimal number is a binary number. -/
theorem render_decimal_text (b : Builder) {negative : Bool} {coefficient : ℕ} {e : ℤ}
    (hmark : '.' ∈ (Decimal.finite negative coefficient e).toText ∨
      'E' ∈ (Decimal.finite negative coefficient e).toText) :
    let d := Decimal.finite negative coefficient e
    let answer := b.render (.text d.toText) Tag.integer.text
    let exact := b.render (.decimal d) Tag.integer.text
    ∃ x : Binary64, x.negative = negative ∧ Binary64.RoundsTo (coefficient * 10 ^ e) x.code ∧
      (x.isFinite = false → ∃ problem, answer = .error (.format problem)) ∧
      (x.isFinite = true →
        (∃ out, answer = .ok out ∧ IsCanonical (towardZero x.toRat) out) ∧
        (answer = exact ↔
          towardZero x.toRat = towardZero (sign negative * (coefficient * 10 ^ e)))) ∧
      ((∃ code < Binary64.infinityCode, Binary64.magnitude code = coefficient * 10 ^ e) →
        answer = exact) := by
  intro d answer exact
  have hplain : d.toText.IsPlain := (Decimal.isLiteral_toText (d := d) rfl).isPlain
  have hstrip := Text.strip_eq_self hplain.unspaced
  obtain ⟨x, rfl, hround, hanswer⟩ := render_text_of_ofNumeral? b
    (hstrip.symm ▸ Decimal.integer?_toText_eq_none hmark)
    (hstrip.symm ▸ Decimal.ofNumeral?_toText negative coefficient e)
  have hagree (hfinite : x.isFinite = true) : answer = exact ↔
      towardZero x.toRat = towardZero (sign x.negative * (coefficient * 10 ^ e)) := by
    have hshort := Binary64.isShort_truncated hfinite
    rw [Binary64.truncated_eq] at hshort
    have hvalue : (Argument.decimal d).toRat? = some (sign x.negative * (coefficient * 10 ^ e)) :=
      rfl
    have hwritten : answer = .ok (ofInt (towardZero x.toRat)) :=
      hanswer.trans (render_binary b hfinite)
    rw [hwritten, eq_comm, render_eq_ok_ofInt_iff b hvalue, and_iff_left hshort, eq_comm]
  refine ⟨x, rfl, hround, fun hinfinite => ?_, fun hfinite => ⟨?_, hagree hfinite⟩, ?_⟩
  · obtain ⟨problem, hrefused, -⟩ := render_binary_infinite b hinfinite
    exact ⟨problem, hanswer.trans hrefused⟩
  · exact ⟨_, hanswer.trans (render_binary b hfinite), isCanonical_ofInt _⟩
  · rintro ⟨code, hcode, hvalue⟩
    rw [← hvalue] at hround
    have hfinite : x.code < Binary64.infinityCode := hround.eq_of_magnitude hcode ▸ hcode
    rw [hagree (decide_eq_true hfinite), Binary64.toRat, hround.eq_of_magnitude hcode, hvalue]

/-- Seven and a half is a binary number. -/
theorem render_decimal_text_half :
    let b : Builder := ⟨⟨.mysql, none⟩, .default, Decimal.mostDigits⟩
    let d := Decimal.finite false 75 (-1)
    ('.' ∈ d.toText ∨ 'E' ∈ d.toText) ∧
      b.render (.text d.toText) Tag.integer.text = b.render (.decimal d) Tag.integer.text := by
  intro b d
  have hmark : '.' ∈ d.toText ∨ 'E' ∈ d.toText := by decide
  have hvalue : Binary64.magnitude 0x401e000000000000 = (75 : ℕ) * 10 ^ (-1 : ℤ) := by
    norm_num [Binary64.magnitude, Binary64.stepsPerPower]
  obtain ⟨x, -, -, -, -, hbinary⟩ := render_decimal_text b hmark
  exact ⟨hmark, hbinary ⟨0x401e000000000000, by decide, hvalue⟩⟩

/-- Too little below one for a binary number to tell: the text becomes one, and the number zero. -/
theorem render_decimal_text_ne :
    let b : Builder := ⟨⟨.mysql, none⟩, .default, Decimal.mostDigits⟩
    let d := Decimal.finite false 99999999999999999999 (-20)
    ('.' ∈ d.toText ∨ 'E' ∈ d.toText) ∧
      b.render (.text d.toText) Tag.integer.text = .ok ['1'] ∧
      b.render (.decimal d) Tag.integer.text = .ok ['0'] ∧
      ¬((∃ problem, b.render (.text d.toText) Tag.integer.text = .error (.format problem)) ∨
        b.render (.text d.toText) Tag.integer.text = b.render (.decimal d) Tag.integer.text) := by
  intro b d
  have htext : b.render (.text d.toText) Tag.integer.text = .ok ['1'] := by decide +kernel
  have hdecimal : b.render (.decimal d) Tag.integer.text = .ok ['0'] := by decide +kernel
  rw [htext, hdecimal]
  exact ⟨by decide, rfl, rfl, by rintro (⟨_, ⟨⟩⟩ | ⟨⟨⟩⟩)⟩

end Builder
end SqlTemplate
