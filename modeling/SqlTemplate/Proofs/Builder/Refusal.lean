import SqlTemplate.Proofs.Builder.Outcome

/-!
# What rendering can raise

Every rule for rendering refuses with a format error that has no position and names no tag but its
own. Apart from that a failure comes from the escaper, from the dialect's way to quote names, or
from a number: a signaling NaN on its way to a binary number, or a decimal number on its way to an
integer that is too large for the memory. Each of the two ways belongs to one rule only.
-/
namespace SqlTemplate

/-- Every failure of a computation has a property. -/
def FailsOnly {α : Type} (P : Failure → Prop) (x : Except Failure α) : Prop :=
  ∀ failure, x = .error failure → P failure

namespace FailsOnly

variable {α β : Type} {P Q : Failure → Prop}

@[simp] theorem ok (a : α) : FailsOnly P (.ok a) := nofun

@[simp] theorem error_iff (failure : Failure) :
    FailsOnly P (.error failure : Except Failure α) ↔ P failure :=
  ⟨fun h => h failure rfl, fun h _ he => Except.error.inj he ▸ h⟩

theorem mono {x : Except Failure α} (h : FailsOnly P x) (hPQ : ∀ failure, P failure → Q failure) :
    FailsOnly Q x :=
  fun failure he => hPQ failure (h failure he)

theorem bind {x : Except Failure α} {f : α → Except Failure β} (hx : FailsOnly P x)
    (hf : ∀ a, x = .ok a → FailsOnly P (f a)) : FailsOnly P (x >>= f) := by
  intro failure h
  obtain h | ⟨a, ha, h⟩ := bind_eq_error.mp h
  · exact hx failure h
  · exact hf a ha failure h

theorem map {x : Except Failure α} (hx : FailsOnly P x) (f : α → β) : FailsOnly P (x.map f) := by
  intro failure h
  exact hx failure (map_eq_error.mp h)

theorem mapError {x : Except Failure α} (hx : FailsOnly P x) {g : Failure → Failure}
    (hg : ∀ failure, P failure → Q (g failure)) : FailsOnly Q (x.mapError g) := by
  intro failure h
  obtain ⟨raised, hraised, rfl⟩ := mapError_eq_error.mp h
  exact hg raised (hx raised hraised)

theorem mapM {f : α → Except Failure β} (hf : ∀ a, FailsOnly P (f a)) (l : List α) :
    FailsOnly P (l.mapM f) := by
  intro failure h
  obtain ⟨a, -, ha⟩ := exists_of_mapM_eq_error h
  exact hf a failure ha

end FailsOnly

/-- A format error without a position that names the given tag or none. -/
def Failure.IsRefusal (tag : Text) : Failure → Prop
  | .format e => e.position = none ∧ (e.tag = none ∨ e.tag = some tag)
  | _ => False

namespace Escaping

/-- An escaper that comes with the library, whatever the function of the client is. -/
def IsOwn (escape : Escaper) : Prop :=
  (∃ escapeString, escape = backslashing escapeString) ∨ escape = doubling

theorem IsOwn.failsOnly {escape : Escaper} (h : IsOwn escape) (tag t : Text) :
    FailsOnly (Failure.IsRefusal tag) (escape t) := by
  obtain ⟨escapeString, rfl⟩ | rfl := h
  · exact .ok _
  · unfold doubling
    split
    · exact (FailsOnly.error_iff _).mpr ⟨rfl, .inl rfl⟩
    · exact .ok _

end Escaping

/-- A dialect that can quote every name. -/
def Dialect.Quotes (d : Dialect) : Prop :=
  ∀ name, ∃ t, d.quote name = .ok t

namespace Argument

/-- Whether a value is a signaling NaN. -/
def isSignaling : Argument → Bool
  | decimal (.nan _ signaling _) => signaling
  | _ => false

/-- Whether a value is a decimal number with more digits in front of the point than the memory has
room for. -/
def exhausts (memory : Nat) : Argument → Bool
  | decimal (.finite _ coefficient e) => Decimal.exhausts memory coefficient e
  | _ => false

/-- The failures of the numbers themselves, of which nothing makes a format error: a signaling NaN
that is asked for as a float, and a number that is asked for as an integer and too large for the
memory. -/
inductive Defeats (memory : Nat) (value : Argument) : Tag → Failure → Prop
  | signaling (h : value.isSignaling = true) : Defeats memory value .float .signalingNaN
  | tooLarge (h : value.exhausts memory = true) : Defeats memory value .integer .outOfMemory

/-- The values with the shape of a number are the numbers. -/
theorem eq_of_shape?_eq_number {value : Argument} {x : Number}
    (h : value.shape? = some (.number x)) :
    (∃ b, value = .binary b ∧ x = .binary b) ∨ ∃ d, value = .decimal d ∧ x = .decimal d := by
  cases value with
  | binary b =>
    cases h
    exact .inl ⟨b, rfl, rfl⟩
  | decimal d =>
    cases h
    exact .inr ⟨d, rfl, rfl⟩
  | mapping kind entries =>
    rw [shape?] at h
    split at h <;> cases h
  | _ => cases h

end Argument

theorem Tag.eq_text_of_ofText? {t : Text} {tag : Tag} (h : ofText? t = some tag) :
    t = tag.text := by
  unfold ofText? at h
  split at h <;> cases h <;> rfl

namespace Builder

variable {b : Builder} {tag : Text} {α : Type}

theorem failsOnly_refusal (problem : FormatProblem) (kind : Option Text) :
    FailsOnly (Failure.IsRefusal tag) (refusal problem kind : Except Failure α) :=
  (FailsOnly.error_iff _).mpr ⟨rfl, .inl rfl⟩

theorem failsOnly_refusal_tag (problem : FormatProblem) (kind : Option Text) :
    FailsOnly (Failure.IsRefusal tag) (refusal problem kind (some tag) : Except Failure α) :=
  (FailsOnly.error_iff _).mpr ⟨rfl, .inr rfl⟩

theorem failsOnly_integerText (n : Int) : FailsOnly (Failure.IsRefusal tag) (integerText n) := by
  unfold integerText
  split
  · exact .ok _
  · exact failsOnly_refusal _ _

theorem failsOnly_numberText (x : Number) : FailsOnly (Failure.IsRefusal tag) (numberText x) := by
  unfold numberText
  split
  · exact .ok _
  · exact failsOnly_refusal _ _

theorem failsOnly_truncatedText_binary (memory : Nat) (x : Binary64) :
    FailsOnly (Failure.IsRefusal Tag.integer.text) (truncatedText memory (.binary x)) := by
  rw [truncatedText]
  split
  · exact failsOnly_integerText _
  · exact failsOnly_refusal_tag _ _

theorem failsOnly_truncatedText_decimal (memory : Nat) (d : Decimal) :
    FailsOnly (fun failure => failure.IsRefusal Tag.integer.text ∨
        (Argument.decimal d).Defeats memory .integer failure)
      (truncatedText memory (.decimal d)) := by
  cases d with
  | finite negative coefficient e =>
    rw [truncatedText]
    by_cases hroom : Decimal.exhausts memory coefficient e = true
    · rw [if_pos hroom, FailsOnly.error_iff]
      exact .inr (.tooLarge hroom)
    · rw [if_neg hroom]
      split
      · exact (failsOnly_integerText _).mono fun _ => .inl
      · exact (failsOnly_refusal _ _).mono fun _ => .inl
  | infinity | nan => exact (failsOnly_refusal_tag _ _).mono fun _ => .inl

/-- An equation between functions, because to unfold the rule at an integer is to round the
integer. -/
theorem floatOfIntText_eq :
    floatOfIntText = fun n =>
      match Binary64.ofInt? n with
      | some x => numberText (.binary x)
      | none => refusal .outOfRange none (some Tag.float.text) := by
  delta floatOfIntText
  rfl

theorem failsOnly_floatOfIntText (n : Int) :
    FailsOnly (Failure.IsRefusal Tag.float.text) (floatOfIntText n) := by
  rw [floatOfIntText_eq]
  dsimp only
  cases Binary64.ofInt? n with
  | some x => exact failsOnly_numberText _
  | none => exact failsOnly_refusal_tag _ _

theorem failsOnly_readNumber (t : Text) (rule : Tag) :
    FailsOnly (Failure.IsRefusal rule.text) (readNumber t rule) := by
  unfold readNumber
  split
  · exact .ok _
  · exact failsOnly_refusal_tag _ _

theorem failsOnly_renderInteger (value : Argument) :
    FailsOnly (fun failure => failure.IsRefusal Tag.integer.text ∨
        value.Defeats b.memory .integer failure) (b.renderInteger value) := by
  have weaken {x : Except Failure Text} (h : FailsOnly (Failure.IsRefusal Tag.integer.text) x) :
      FailsOnly (fun failure => failure.IsRefusal Tag.integer.text ∨
        value.Defeats b.memory .integer failure) x := h.mono fun _ => .inl
  unfold renderInteger
  split
  · exact weaken (failsOnly_refusal _ _)
  · exact .ok _
  · exact .ok _
  · exact weaken (failsOnly_integerText _)
  · rename_i x hshape
    obtain ⟨x, rfl, rfl⟩ | ⟨d, rfl, rfl⟩ := Argument.eq_of_shape?_eq_number hshape
    · exact weaken (failsOnly_truncatedText_binary _ x)
    · exact failsOnly_truncatedText_decimal _ d
  · refine weaken ((failsOnly_readNumber _ _).bind fun r _ => ?_)
    -- The binary number that a text denotes is no decimal any more.
    cases r with
    | integer n => exact failsOnly_integerText n
    | binary x => exact failsOnly_truncatedText_binary _ x
  · exact weaken (failsOnly_refusal_tag _ _)

/-- A decimal number fails on its way to a binary number only if it is a signaling NaN. -/
theorem signaling_of_ofDecimal? {d : Decimal} (h : Binary64.ofDecimal? d = none) :
    (Argument.decimal d).isSignaling = true := by
  rcases d with _ | _ | ⟨_, _ | _, _⟩
  case nan.true => rfl
  all_goals cases h

theorem failsOnly_renderFloat (memory : Nat) (value : Argument) :
    FailsOnly (fun failure => failure.IsRefusal Tag.float.text ∨
      value.Defeats memory .float failure) (renderFloat value) := by
  have weaken {x : Except Failure Text} (h : FailsOnly (Failure.IsRefusal Tag.float.text) x) :
      FailsOnly (fun failure => failure.IsRefusal Tag.float.text ∨
        value.Defeats memory .float failure) x := h.mono fun _ => .inl
  unfold renderFloat
  split
  · exact weaken (failsOnly_refusal _ _)
  · exact .ok _
  · exact weaken (failsOnly_floatOfIntText _)
  · exact weaken (failsOnly_floatOfIntText _)
  · rename_i x hshape
    obtain ⟨x, rfl, rfl⟩ | ⟨d, rfl, rfl⟩ := Argument.eq_of_shape?_eq_number hshape
    · exact weaken (failsOnly_numberText _)
    · unfold floatText
      split
      · exact weaken (failsOnly_numberText _)
      · rename_i hnone
        exact (FailsOnly.error_iff _).mpr (.inr (.signaling (signaling_of_ofDecimal? hnone)))
  · refine weaken ((failsOnly_readNumber _ _).bind fun r _ => ?_)
    -- The binary number that a text denotes is no decimal any more.
    cases r with
    | integer n => exact failsOnly_floatOfIntText n
    | binary x => exact failsOnly_numberText _
  · exact weaken (failsOnly_refusal_tag _ _)

/-- What the rules that ask the compiler raise: a refusal, or what the compiler raises where it
escapes a string or quotes a name. -/
def Raises (b : Builder) (tag : Text) (failure : Failure) : Prop :=
  failure.IsRefusal tag ∨ (∃ t, b.compiler.escape t = .error failure) ∨
    ∃ name, b.compiler.quoteIdentifier name = .error failure

theorem raises_of_isRefusal {x : Except Failure α} (h : FailsOnly (Failure.IsRefusal tag) x) :
    FailsOnly (b.Raises tag) x :=
  h.mono fun _ => .inl

theorem failsOnly_quoteIdentifier (name : Text) :
    FailsOnly (b.Raises tag) (b.compiler.quoteIdentifier name) :=
  fun _ hfailure => .inr (.inr ⟨name, hfailure⟩)

theorem failsOnly_quoteName (name : Argument) : FailsOnly (b.Raises tag) (b.quoteName name) := by
  unfold quoteName
  split
  · exact failsOnly_quoteIdentifier _
  · exact (raises_of_isRefusal (failsOnly_integerText _)).bind fun _ _ =>
      failsOnly_quoteIdentifier _
  · exact raises_of_isRefusal (failsOnly_refusal _ _)

theorem failsOnly_renderIdentifier (value : Argument) :
    FailsOnly (b.Raises tag) (b.renderIdentifier value) := by
  unfold renderIdentifier
  split
  · exact raises_of_isRefusal (failsOnly_refusal _ _)
  · exact (FailsOnly.mapM failsOnly_quoteName _).map _
  · exact failsOnly_quoteName value

theorem failsOnly_renderBare (value : Argument) :
    FailsOnly (b.Raises tag) (b.renderBare value) := by
  unfold renderBare
  split
  · exact .ok _
  · exact .ok _
  · exact raises_of_isRefusal (failsOnly_integerText _)
  · exact raises_of_isRefusal (failsOnly_numberText _)
  · rename_i t _
    have hescape : FailsOnly (b.Raises tag) (b.compiler.escape t) :=
      fun _ hfailure => .inr (.inl ⟨t, hfailure⟩)
    exact hescape.map _
  · exact raises_of_isRefusal (failsOnly_refusal _ _)

theorem failsOnly_renderEntry (entry : Argument × Argument) :
    FailsOnly (b.Raises tag) (b.renderEntry entry) :=
  (failsOnly_quoteName _).bind fun _ _ => (failsOnly_renderBare _).bind fun _ _ => .ok _

theorem failsOnly_renderArray (value : Argument) :
    FailsOnly (b.Raises Tag.array.text) (b.renderArray value) := by
  unfold renderArray
  split
  · exact raises_of_isRefusal (failsOnly_refusal _ _)
  · split
    · exact raises_of_isRefusal (failsOnly_refusal_tag _ _)
    · exact (FailsOnly.mapM failsOnly_renderBare _).map _
  · exact (FailsOnly.mapM failsOnly_renderEntry _).map _
  · exact raises_of_isRefusal (failsOnly_refusal_tag _ _)

/-- Whatever the tag and the value are, rendering fails with a refusal or what the compiler raises,
unless the value is a number that fails itself. -/
theorem failsOnly_renderBy (value : Argument) (rule : Tag) :
    FailsOnly (fun failure => b.Raises rule.text failure ∨ value.Defeats b.memory rule failure)
      (b.renderBy value rule) := by
  cases rule with
  | bare => exact (failsOnly_renderBare value).mono fun _ => .inl
  | integer => exact (failsOnly_renderInteger value).mono fun _ => Or.imp_left .inl
  | float => exact (failsOnly_renderFloat b.memory value).mono fun _ => Or.imp_left .inl
  | array => exact (failsOnly_renderArray value).mono fun _ => .inl
  | identifier => exact (failsOnly_renderIdentifier value).mono fun _ => .inl

/-- Rendering fails with what its rule raises, after the tag has been filled in. -/
theorem failsOnly_render_annotated (value : Argument) (tag : Text) :
    FailsOnly (fun failure => ∃ raised : Failure, failure = raised.annotate (some tag) none ∧
        (b.Raises tag raised ∨ ∃ rule, tag = rule.text ∧ value.Defeats b.memory rule raised))
      (b.render value tag) := by
  unfold render
  split
  · exact (FailsOnly.error_iff _).mpr
      ⟨.format ⟨.unknownTag tag, some tag, none, none⟩, rfl, .inl (.inl ⟨rfl, .inr rfl⟩)⟩
  · rename_i rule hrule
    obtain rfl := Tag.eq_text_of_ofText? hrule
    refine (failsOnly_renderBy value rule).mapError ?_
    rintro raised (hraises | hdefeats)
    · exact ⟨raised, rfl, .inl hraises⟩
    · exact ⟨raised, rfl, .inr ⟨rule, rfl, hdefeats⟩⟩

theorem annotate_of_isRefusal {failure : Failure} (h : failure.IsRefusal tag) :
    ∃ e, failure.annotate (some tag) none = .format e ∧ e.position = none ∧ e.tag = some tag := by
  cases failure with
  | format e =>
    obtain ⟨hposition, htag⟩ := h
    refine ⟨_, rfl, by simp [FormatError.annotate, hposition], ?_⟩
    obtain htag | htag := htag <;> simp [FormatError.annotate, htag]
  | _ => exact h.elim

/-- The failures of numbers stay as they are. -/
theorem annotate_of_defeats {memory : Nat} {value : Argument} {rule : Tag} {failure : Failure}
    (h : value.Defeats memory rule failure) (tag : Option Text) (position : Option Int) :
    failure.annotate tag position = failure := by
  cases h <;> rfl

/-- With an escaper of the library and a dialect that can quote every name, rendering fails with a
format error that names the tag and no position, or with a number that fails itself. -/
theorem failsOnly_render (hescape : Escaping.IsOwn b.compiler.escape)
    (hquotes : b.compiler.dialect.Quotes) (value : Argument) (tag : Text) :
    FailsOnly (fun failure => (∃ e, failure = .format e ∧ e.position = none ∧ e.tag = some tag) ∨
        ∃ rule, tag = rule.text ∧ value.Defeats b.memory rule failure)
      (b.render value tag) := by
  refine (failsOnly_render_annotated value tag).mono ?_
  rintro _ ⟨raised, rfl, (hrefusal | ⟨t, ht⟩ | ⟨name, hname⟩) | ⟨rule, htag, hdefeats⟩⟩
  · exact .inl (annotate_of_isRefusal hrefusal)
  · exact .inl (annotate_of_isRefusal (hescape.failsOnly _ t raised ht))
  · obtain ⟨t, ht⟩ := hquotes name
    rw [Compiler.quoteIdentifier, ht] at hname
    cases hname
  · rw [annotate_of_defeats hdefeats]
    exact .inr ⟨rule, htag, hdefeats⟩

/-- A number that fails itself has no text. -/
theorem render_of_defeats (b : Builder) {value : Argument} {rule : Tag} {failure : Failure}
    (h : value.Defeats b.memory rule failure) :
    b.render value rule.text = .error failure := by
  cases h with
  | signaling h =>
    cases value with
    | decimal d =>
      rcases d with _ | _ | ⟨negative, signaling, payload⟩
      case nan =>
        cases h
        rfl
      all_goals cases h
    | _ => cases h
  | tooLarge h =>
    cases value with
    | decimal d =>
      cases d with
      | finite negative coefficient e =>
        have hfails : b.renderInteger (.decimal (.finite negative coefficient e)) =
            .error .outOfMemory := if_pos h
        rw [render, Tag.ofText?_text]
        simp only [renderBy, hfails]
        rfl
      | infinity | nan => cases h
    | _ => cases h

end Builder
end SqlTemplate
