import Mathlib.Control.Monad.Basic
import SqlTemplate.Proofs.Builder.Refusal
import SqlTemplate.Proofs.Numeral.Literal

/-!
# Values without quotes

The rules for integers and floats, and the bare rule for all values but strings, put their text into
a query without quotes. Whatever the value is, this text is a numeric literal or the word for null:
strings are read as numbers first, and numbers that are not finite are refused.
-/
namespace SqlTemplate

/-- What a computation gives has a property, if it gives anything. -/
def Yields {α : Type} (P : α → Prop) (x : Except Failure α) : Prop :=
  ∀ a, x = .ok a → P a

namespace Yields

variable {α β : Type} {P : α → Prop} {Q : β → Prop}

theorem ok {a : α} (h : P a) : Yields P (.ok a) := by
  rintro _ ⟨⟩
  exact h

theorem error (failure : Failure) : Yields P (.error failure) := nofun

theorem bind {x : Except Failure α} {f : α → Except Failure β} (hf : ∀ a, Yields Q (f a)) :
    Yields Q (x >>= f) := by
  intro b hb
  obtain ⟨a, -, ha⟩ := bind_eq_ok.mp hb
  exact hf a b ha

end Yields

theorem Argument.eq_text_of_shape? {value : Argument} {t : Text}
    (h : value.shape? = some (.text t)) : value = .text t := by
  cases value with
  | text => cases h; rfl
  | mapping kind entries => rw [shape?] at h; split at h <;> cases h
  | _ => cases h

namespace Builder

/-- The word for null, or a numeric literal. -/
def IsNumeric (t : Text) : Prop :=
  t = nullText ∨ Numeral.IsLiteral t

theorem isNumeric_null : IsNumeric nullText := .inl rfl

theorem isNumeric_boolText (b : Bool) : IsNumeric (boolText b) := by
  have hdigits : Numeral.IsDigits (boolText b) := by cases b <;> simp [Numeral.IsDigits, boolText]
  exact .inr (.mk (.inl rfl) (Numeral.IsMantissa.whole hdigits).isMagnitude)

theorem IsNumeric.isPlain {t : Text} (h : IsNumeric t) : t.IsPlain := by
  obtain rfl | h := h
  · exact Text.isPlain_of_subset (Text.subset_numberChars (by decide))
  · exact h.isPlain

theorem yields_refusal {P : Text → Prop} (problem : FormatProblem) (kind tag : Option Text) :
    Yields P (refusal problem kind tag) :=
  .error _

theorem yields_integerText (n : Int) : Yields IsNumeric (integerText n) := by
  unfold integerText
  split
  · exact .ok (.inr (Numeral.isLiteral_ofInt n))
  · exact yields_refusal _ _ _

theorem yields_numberText (x : Number) : Yields IsNumeric (numberText x) := by
  unfold numberText
  split
  · rename_i hfinite
    exact .ok (.inr (Number.isLiteral_toText hfinite))
  · exact yields_refusal _ _ _

theorem yields_truncatedText (memory : Nat) (x : Number) :
    Yields IsNumeric (truncatedText memory x) := by
  unfold truncatedText
  split
  · split
    · exact yields_integerText _
    · exact yields_refusal _ _ _
  · split
    · exact .error _
    · split
      · exact yields_integerText _
      · exact yields_refusal _ _ _
  · exact yields_refusal _ _ _

theorem yields_floatText (x : Number) : Yields IsNumeric (floatText x) := by
  unfold floatText
  split
  · exact yields_numberText _
  · exact .error _

theorem yields_floatOfIntText (n : Int) : Yields IsNumeric (floatOfIntText n) := by
  rw [floatOfIntText_eq]
  dsimp only
  cases Binary64.ofInt? n with
  | some x => exact yields_numberText _
  | none => exact yields_refusal _ _ _

/-- The bare rule puts strings into quotes, and nothing else. -/
theorem yields_renderBare (b : Builder) {value : Argument} (h : ∀ t, value ≠ .text t) :
    Yields IsNumeric (b.renderBare value) := by
  unfold renderBare
  split
  · exact .ok isNumeric_null
  · exact .ok (isNumeric_boolText _)
  · exact yields_integerText _
  · exact yields_numberText _
  · rename_i t hshape
    exact absurd (Argument.eq_text_of_shape? hshape) (h t)
  · exact yields_refusal _ _ _

theorem yields_renderInteger (b : Builder) (value : Argument) :
    Yields IsNumeric (b.renderInteger value) := by
  unfold renderInteger
  split
  · exact yields_refusal _ _ _
  · exact .ok isNumeric_null
  · exact .ok (isNumeric_boolText _)
  · exact yields_integerText _
  · exact yields_truncatedText _ _
  · refine .bind fun r => ?_
    cases r with
    | integer n => exact yields_integerText n
    | binary x => exact yields_truncatedText _ _
  · exact yields_refusal _ _ _

theorem yields_renderFloat (value : Argument) : Yields IsNumeric (renderFloat value) := by
  unfold renderFloat
  split
  · exact yields_refusal _ _ _
  · exact .ok isNumeric_null
  · exact yields_floatOfIntText _
  · exact yields_floatOfIntText _
  · exact yields_floatText _
  · refine .bind fun r => ?_
    cases r with
    | integer n => exact yields_floatOfIntText n
    | binary x => exact yields_floatText _
  · exact yields_refusal _ _ _

/-- Rendering follows the rule of the tag and fills in the tag. -/
theorem render_rule (b : Builder) (value : Argument) (rule : Tag) :
    b.render value rule.text =
      (b.renderBy value rule).mapError (·.annotate (some rule.text) none) := by
  rw [render, Tag.ofText?_text]

/-- Rendering gives what the rule of the tag gives. -/
theorem render_text_eq_ok_iff {b : Builder} {value : Argument} {rule : Tag} {out : Text} :
    b.render value rule.text = .ok out ↔ b.renderBy value rule = .ok out := by
  rw [render_rule]
  exact mapError_eq_ok

/-- In the place of a number there is never anything but a number. For any value as an integer or as
a float, and any value but a string by the bare rule, in any dialect and with any escaper: a text
that is rendered is the word for null or a numeric literal, and holds nothing that could end it or
be taken for something else. -/
theorem render_isNumeric {b : Builder} {value : Argument} {rule : Tag} {out : Text}
    (hrule : rule = .integer ∨ rule = .float ∨ rule = .bare ∧ ∀ t, value ≠ .text t)
    (h : b.render value rule.text = .ok out) : IsNumeric out ∧ out.IsPlain := by
  rw [render_text_eq_ok_iff] at h
  have hnumeric : IsNumeric out := by
    obtain rfl | rfl | ⟨rfl, hvalue⟩ := hrule
    · exact yields_renderInteger b value out h
    · exact yields_renderFloat value out h
    · exact yields_renderBare b hvalue out h
  exact ⟨hnumeric, hnumeric.isPlain⟩

/-- A string in the digits of another script, with blanks around it and a low line inside, a string
with a power of ten, and an exact number. -/
theorem render_isNumeric_hostile :
    let b : Builder := ⟨⟨.mysql, none⟩, .default, Decimal.mostDigits⟩
    let digits : Argument := .text "\u2003-\u0661_\u0662\n".toList
    let power : Argument := .text "1_0E+0_0".toList
    let number : Argument := .decimal (.finite true 15 (-9))
    b.render digits Tag.integer.text = .ok "-12".toList ∧
      b.render power Tag.float.text = .ok "10.0".toList ∧
      (∀ t, number ≠ .text t) ∧ b.render number Tag.bare.text = .ok "-1.5E-8".toList ∧
      ∀ out ∈ ["-12".toList, "10.0".toList, "-1.5E-8".toList], IsNumeric out ∧ Text.IsPlain out := by
  intro b digits power number
  have hdigits : b.render digits Tag.integer.text = .ok "-12".toList := by decide +kernel
  have hpower : b.render power Tag.float.text = .ok "10.0".toList := by decide +kernel
  have hnumber : b.render number Tag.bare.text = .ok "-1.5E-8".toList := by decide +kernel
  have hvalue : ∀ t, number ≠ .text t := nofun
  refine ⟨hdigits, hpower, hvalue, hnumber, ?_⟩
  simp only [List.forall_mem_cons, List.not_mem_nil, false_implies, implies_true, and_true]
  exact ⟨render_isNumeric (.inl rfl) hdigits, render_isNumeric (.inr (.inl rfl)) hpower,
    render_isNumeric (.inr (.inr ⟨rfl, hvalue⟩)) hnumber⟩

end Builder
end SqlTemplate
