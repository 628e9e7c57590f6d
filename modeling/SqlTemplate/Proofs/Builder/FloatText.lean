import SqlTemplate.Proofs.Binary64.Shortest
import SqlTemplate.Proofs.Builder.ExactNumber

/-!
# Integer texts as floats

The rule for floats tries to read a text as an integer first, and only then as a fractional numeral.
For the texts of integers the way makes no difference: an integer is rounded to the binary number
that its text is read as, and is too large for one exactly where its text is read as an infinity.
-/
namespace SqlTemplate

/-- The binary number that a text is read as where integers are not tried first. -/
def Binary64.ofText? (t : Text) : Option Binary64 :=
  (Decimal.ofNumeral? (Text.strip t)).bind ofDecimal?

namespace Builder

open Numeral

/-- The text of an integer is read as the binary number that the integer is rounded to, with the
sign that the text has. -/
theorem ofText?_of_integer? {s : Text} {n : ℤ} (h : integer? (Text.strip s) = some n) :
    ∃ negative c code, n = signed negative c ∧ Binary64.RoundsTo c code ∧
      Binary64.ofText? s = some ⟨negative, code⟩ := by
  obtain ⟨negative, c, hnumeral, hvalue⟩ := Decimal.ofNumeral?_of_integer? h
  refine ⟨negative, c, Binary64.codeOfDecimal c 0, hvalue.symm, ?_, ?_⟩
  · simpa using Binary64.roundsTo_codeOfDecimal c 0
  · rw [Binary64.ofText?, hnumeral]
    rfl

/-- The sign of an integer is the sign that it was given, unless it is zero. -/
theorem sign_signed_mul {negative : Bool} {c : ℕ} {m : ℚ} (hzero : c = 0 → m = 0) :
    sign (decide (signed negative c < 0)) * m = sign negative * m := by
  by_cases hc : c = 0
  · rw [hzero hc, mul_zero, mul_zero]
  · have hnegative : decide (signed negative c < 0) = negative := by
      cases negative with
      | false => simp [signed]
      | true => simpa [signed] using Nat.pos_of_ne_zero hc
    rw [hnegative]

/-- The text of an integer is written like the integer. -/
theorem renderFloat_of_integer? {s : Text} {n : ℤ} (h : integer? (Text.strip s) = some n) :
    renderFloat (.text s) = floatOfIntText n := by
  have hread : Reading.ofText? s = some (.integer n) := by
    rw [Reading.ofText?, h]
  have hbind (f : Reading → Except Failure Text) :
      (Except.ok (.integer n) >>= f) = f (.integer n) := rfl
  rw [renderFloat]
  simp only [Argument.shape?, readNumber, hread, hbind]

/-- An integer is written like its binary number, unless it is too large for one. -/
theorem floatOfIntText_of_roundsTo {n : ℤ} {code : ℕ} (h : Binary64.RoundsTo n.natAbs code) :
    floatOfIntText n =
      if code < Binary64.infinityCode then .ok (Binary64.toText ⟨decide (n < 0), code⟩)
      else refusal .outOfRange none (some Tag.float.text) := by
  rw [floatOfIntText_eq]
  dsimp only
  rw [Binary64.ofInt?_of_roundsTo h]
  split_ifs with hcode
  · exact numberText_of_isFinite (x := .binary ⟨_, code⟩) (decide_eq_true hcode)
  · rfl

/-- Integers are tried first, but that changes no number. The text of an integer is also read as a
binary number, the one that the integer is rounded to. This is an infinity exactly if the integer
has no binary number, and then both are refused with a format error. Otherwise both are written, as
literals that denote the same number, and this one is rounded to the binary number as well. -/
theorem render_float_text (b : Builder) {s : Text} {n : ℤ}
    (h : integer? (Text.strip s) = some n) :
    ∃ x : Binary64, Binary64.ofText? s = some x ∧ Binary64.RoundsTo |(n : ℚ)| x.code ∧
      (Binary64.ofInt? n = none ↔ Binary64.overflowBound ≤ |(n : ℚ)|) ∧
      (x.isFinite = false ↔ Binary64.overflowBound ≤ |(n : ℚ)|) ∧
      let answer := b.render (.text s) Tag.float.text
      let direct := b.render (.binary x) Tag.float.text
      (x.isFinite = false →
        (∃ e, answer = .error (.format e)) ∧ ∃ e, direct = .error (.format e)) ∧
      (x.isFinite = true →
        ∃ out out' m, answer = .ok out ∧ direct = .ok out' ∧
          0 ≤ m ∧ Binary64.RoundsTo m x.code ∧
          ∀ r, (Denotes out r ↔ r = sign x.negative * m) ∧
            (Denotes out' r ↔ r = sign x.negative * m)) := by
  obtain ⟨negative, c, code, rfl, hround, htext⟩ := ofText?_of_integer? h
  have habs : |((signed negative c : ℤ) : ℚ)| = c := by
    cases negative <;> simp [signed]
  have hnat : Binary64.RoundsTo (signed negative c).natAbs code := by
    rwa [natAbs_signed]
  have hoverflow : ¬code < Binary64.infinityCode ↔ Binary64.overflowBound ≤ c := by
    rw [hround.lt_infinityCode_iff, not_lt]
  have hfinite : (⟨negative, code⟩ : Binary64).isFinite = decide (code < Binary64.infinityCode) :=
    rfl
  have hanswer : b.renderBy (.text s) .float = _ :=
    (renderFloat_of_integer? h).trans (floatOfIntText_of_roundsTo hnat)
  have hdirect : b.renderBy (.binary ⟨negative, code⟩) .float =
      numberText (.binary ⟨negative, code⟩) := rfl
  refine ⟨⟨negative, code⟩, htext, by rwa [habs], ?_, ?_, fun hinfinite => ?_, fun hnumber => ?_⟩
  · rw [Binary64.ofInt?_of_roundsTo hnat, habs, ← hoverflow]
    split_ifs with hcode <;> simp [hcode]
  · rw [hfinite, decide_eq_false_iff_not, habs, hoverflow]
  · have hcode : ¬code < Binary64.infinityCode := of_decide_eq_false hinfinite
    rw [render_rule, render_rule, hanswer, hdirect, if_neg hcode,
      numberText_of_not_isFinite (x := .binary ⟨negative, code⟩) hinfinite]
    exact ⟨⟨_, rfl⟩, ⟨_, rfl⟩⟩
  · have hcode : code < Binary64.infinityCode := of_decide_eq_true hnumber
    obtain ⟨m, hm, hrounds, hnull, hdenotes⟩ := Binary64.exists_denotes_toText hcode
    -- The two texts differ in their sign only if the integer is zero.
    have hzero : c = 0 → m = 0 := by
      rintro rfl
      rw [Nat.cast_zero, ← Binary64.magnitude_zero] at hround
      exact hnull (hround.eq_of_magnitude (by decide))
    rw [render_rule, render_rule, hanswer, hdirect, if_pos hcode,
      numberText_of_isFinite (x := .binary ⟨negative, code⟩) hnumber]
    refine ⟨_, _, m, rfl, rfl, hm, hrounds, fun r => ⟨?_, hdenotes negative r⟩⟩
    rw [hdenotes, sign_signed_mul hzero]

/-- A zero below zero, in the digits of another script: the sign is lost on one way only. And an
integer that no binary number is equal to: either way it is rounded. -/
theorem render_float_text_edges :
    let b : Builder := ⟨⟨.mysql, none⟩, .default, Decimal.mostDigits⟩
    let zero : Text := "\u2003-\u0660\n".toList
    let odd : Text := "-9007199254740993".toList
    let rounded : Binary64 := ⟨true, 0x4340000000000000⟩
    (integer? (Text.strip zero) = some 0 ∧ Binary64.ofText? zero = some ⟨true, 0⟩ ∧
      b.render (.text zero) Tag.float.text = .ok "0.0".toList ∧
      b.render (.binary ⟨true, 0⟩) Tag.float.text = .ok "-0.0".toList ∧
      ∀ r, Denotes "0.0".toList r ↔ Denotes "-0.0".toList r) ∧
    integer? (Text.strip odd) = some (-9007199254740993) ∧
      Binary64.ofText? odd = some rounded ∧
      Binary64.RoundsTo |((-9007199254740993 : ℤ) : ℚ)| rounded.code ∧
      b.render (.text odd) Tag.float.text = .ok "-9007199254740992.0".toList ∧
      b.render (.binary rounded) Tag.float.text = .ok "-9007199254740992.0".toList := by
  intro b zero odd rounded
  have hinteger : integer? (Text.strip zero) = some 0 := by decide +kernel
  have hanswer : b.render (.text zero) Tag.float.text = .ok "0.0".toList := by decide +kernel
  have hdirect : b.render (.binary ⟨true, 0⟩) Tag.float.text = .ok "-0.0".toList := by
    decide +kernel
  have hzero : Binary64.ofText? zero = some ⟨true, 0⟩ := by decide +kernel
  have hodd : integer? (Text.strip odd) = some (-9007199254740993) := by decide +kernel
  have hrounded : Binary64.ofText? odd = some rounded := by decide +kernel
  obtain ⟨x, hx, -, -, -, -, hwritten⟩ := render_float_text b hinteger
  obtain rfl : x = ⟨true, 0⟩ := Option.some.inj (hx.symm.trans hzero)
  obtain ⟨out, out', m, hout, hout', -, -, hsame⟩ := hwritten rfl
  obtain rfl : out = "0.0".toList := Except.ok.inj (hout.symm.trans hanswer)
  obtain rfl : out' = "-0.0".toList := Except.ok.inj (hout'.symm.trans hdirect)
  obtain ⟨x, hx, hrounds, -⟩ := render_float_text b hodd
  obtain rfl : x = rounded := Option.some.inj (hx.symm.trans hrounded)
  refine ⟨⟨hinteger, hzero, hanswer, hdirect, fun r => (hsame r).1.trans (hsame r).2.symm⟩,
    hodd, hrounded, hrounds, ?_, ?_⟩
  · decide +kernel
  · decide +kernel

end Builder
end SqlTemplate
