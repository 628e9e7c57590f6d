import SqlTemplate.Proofs.Builder.Collection
import SqlTemplate.Proofs.Builder.Concatenation
import SqlTemplate.Proofs.Dialect.Grammar
import SqlTemplate.Proofs.Fragment.FlatText
import SqlTemplate.Proofs.Numeral.Minus
import SqlTemplate.Proofs.Token.Place

/-!
# Numbers and comments

A number is put into a query as it is written, sign and all. It holds no comment and ends in a
digit, but a minus sign in front of it meets whatever the template has there. So a query of numbers
has a comment that its template has not exactly where a number with a minus sign is bound right
behind a minus sign.
-/
namespace SqlTemplate

theorem Tag.text_injective : Function.Injective Tag.text := by
  intro rule rule' h
  rw [← Option.some_inj, ← ofText?_text rule, h, ofText?_text]

namespace Argument

/-- Null, a truth value or a number of any kind. -/
def isNumber : Argument → Bool
  | null | bool _ | int _ | binary _ | decimal _ => true
  | _ => false

/-- Whether a value is written with a minus sign, by the rule of a tag. As an integer it has no
fraction any more, so that it may be zero by then; names stand in quotes. -/
def writesMinus (rule : Tag) : Argument → Bool
  | int n => rule != .identifier && decide (n < 0)
  | binary x => if rule = .integer then (Number.binary x).truncatesBelowZero else x.negative
  | decimal d =>
    if rule = .integer then (Number.decimal d).truncatesBelowZero else (Number.decimal d).hasMinus
  | _ => false

end Argument

namespace Builder

theorem meets_null : Text.Meets false nullText where
  ne_nil := by decide
  isUncommented := (Text.isUncommented_iff _).mpr (by decide)
  getLast?_ne := by decide
  head?_eq_iff := by decide

theorem meets_boolText (v : Bool) : Text.Meets false (boolText v) := by
  have hdigits : Numeral.IsDigits (boolText v) := by cases v <;> simp [Numeral.IsDigits, boolText]
  exact (Numeral.IsMantissa.whole hdigits).isMagnitude.meets false

theorem yields_meets_integerText (n : ℤ) :
    Yields (Text.Meets (decide (n < 0))) (integerText n) := by
  unfold integerText
  split
  · exact .ok (Numeral.meets_ofInt n)
  · exact .error _

theorem yields_meets_numberText (x : Number) :
    Yields (Text.Meets x.hasMinus) (numberText x) := by
  unfold numberText
  split
  · rename_i hfinite
    exact .ok (Number.meets_toText hfinite)
  · exact .error _

theorem yields_meets_truncatedText (memory : ℕ) (x : Number) :
    Yields (Text.Meets x.truncatesBelowZero) (truncatedText memory x) := by
  unfold truncatedText
  split
  · split
    · exact yields_meets_integerText _
    · exact .error _
  · split
    · exact .error _
    · split
      · rename_i n hn
        simpa [Number.truncatesBelowZero, hn] using yields_meets_integerText n
      · exact .error _
  · exact .error _

theorem yields_meets_floatText (x : Number) :
    Yields (Text.Meets x.hasMinus) (floatText x) := by
  unfold floatText
  split
  · rename_i y hy
    rw [← Number.negative_toBinary64? hy]
    exact yields_meets_numberText (.binary y)
  · exact .error _

theorem yields_meets_floatOfIntText (n : ℤ) :
    Yields (Text.Meets (decide (n < 0))) (floatOfIntText n) := by
  rw [floatOfIntText_eq]
  dsimp only
  cases hx : Binary64.ofInt? n with
  | none => exact .error _
  | some x =>
    have hnegative : x.negative = decide (n < 0) := negative_ofInt? hx
    rw [← hnegative]
    exact yields_meets_numberText (.binary x)

theorem yields_meets_renderBare (b : Builder) {value : Argument} (h : value.isNumber = true) :
    Yields (Text.Meets (value.writesMinus .bare)) (b.renderBare value) := by
  cases value with
  | null => exact .ok meets_null
  | bool v => exact .ok (meets_boolText v)
  | int n => exact yields_meets_integerText n
  | binary x => exact yields_meets_numberText (.binary x)
  | decimal d => exact yields_meets_numberText (.decimal d)
  | _ => cases h

theorem yields_meets_renderInteger (b : Builder) {value : Argument} (h : value.isNumber = true) :
    Yields (Text.Meets (value.writesMinus .integer)) (b.renderInteger value) := by
  cases value with
  | null => exact .ok meets_null
  | bool v => exact .ok (meets_boolText v)
  | int n => exact yields_meets_integerText n
  | binary x => exact yields_meets_truncatedText b.memory (.binary x)
  | decimal d => exact yields_meets_truncatedText b.memory (.decimal d)
  | _ => cases h

theorem yields_meets_renderFloat {value : Argument} (h : value.isNumber = true) :
    Yields (Text.Meets (value.writesMinus .float)) (renderFloat value) := by
  cases value with
  | null => exact .ok meets_null
  | bool v =>
    have hsign : decide ((if v then (1 : ℤ) else 0) < 0) = false := by cases v <;> rfl
    have hyields := yields_meets_floatOfIntText (if v then 1 else 0)
    rwa [hsign] at hyields
  | int n => exact yields_meets_floatOfIntText n
  | binary x => exact yields_meets_floatText (.binary x)
  | decimal d => exact yields_meets_floatText (.decimal d)
  | _ => cases h

/-- The quote of a name keeps a minus sign inside from what stands in front of it. -/
theorem meets_quoteIdentifier {b : Builder} {g : Grammar} (hg : g.FitsNames b.compiler.dialect)
    (n : ℤ) {out : Text} (h : b.compiler.quoteIdentifier (Numeral.ofInt n) = .ok out) :
    Text.Meets false out := by
  have hquote : g.quote ≠ '-' := by
    intro hminus
    exact hg.numberless (-1) (by rw [hminus]; decide)
  have hplain : Text.IsUncommented [g.quote] :=
    Text.isUncommented_of_not_mem (by simpa using hquote.symm)
  have hnumber := (Numeral.meets_ofInt n).isUncommented
  have hfront : Text.IsUncommented ([g.quote] ++ Numeral.ofInt n) :=
    hplain.append hnumber (.inl (by simpa using hquote))
  rw [quoteIdentifier_eq hg] at h
  cases h
  exact {
    ne_nil := by simp
    isUncommented := hfront.append hplain (.inr (by simpa using hquote))
    getLast?_ne := by
      rw [List.getLast?_append_of_ne_nil _ (by simp)]
      simpa using hquote
    head?_eq_iff := by simpa using hquote }

theorem yields_meets_renderIdentifier {b : Builder} {g : Grammar}
    (hg : g.FitsNames b.compiler.dialect) {value : Argument} (h : value.isNumber = true) :
    Yields (Text.Meets (value.writesMinus .identifier)) (b.renderIdentifier value) := by
  cases value with
  | int n =>
    intro out hout
    have hname : b.quoteName (.int n) = .ok out := hout
    exact meets_quoteIdentifier hg n (quoteName_int_eq_ok_iff.mp hname).2
  | null | bool | binary | decimal => exact .error _
  | _ => cases h

/-- A number is written without a comment, by every rule, and tells by its sign what it meets the
text in front of it with. -/
theorem meets_render {b : Builder} {escapeString : Text → Text}
    (hdialect : b.compiler.dialect ∈ Dialect.builtIn escapeString)
    {value : Argument} (hnumber : value.isNumber = true) {rule : Tag} {out : Text}
    (h : b.render value rule.text = .ok out) : Text.Meets (value.writesMinus rule) out := by
  rw [← Grammar.map_fst_builtIn, List.mem_map] at hdialect
  obtain ⟨⟨d, g⟩, hmem, hd⟩ := hdialect
  have hg : g.FitsNames b.compiler.dialect := hd ▸ Grammar.fitsNames_of_mem hmem
  rw [render_text_eq_ok_iff] at h
  cases rule with
  | bare => exact yields_meets_renderBare b hnumber out h
  | integer => exact yields_meets_renderInteger b hnumber out h
  | float => exact yields_meets_renderFloat hnumber out h
  | identifier => exact yields_meets_renderIdentifier hg hnumber out h
  | array =>
    -- A number is no collection.
    cases value with
    | null | bool | int | binary | decimal => cases h
    | _ => cases hnumber

theorem isNumber_getD {args : List Argument} (h : ∀ a ∈ args, a.isNumber = true) (index : ℕ) :
    (args.getD index .null).isNumber = true := by
  rw [List.getD_eq_getElem?_getD]
  cases hget : args[index]? with
  | none => rfl
  | some a => exact h a (List.mem_of_getElem? hget)

/-- A number that stands for a placeholder is rendered by a rule. -/
theorem exists_rule_of_bindAt {b : Builder} {args : List Argument} {tag : Text} {index offset : ℕ}
    {u : Token} (hnumbers : ∀ a ∈ args, a.isNumber = true)
    (h : b.bindAt args (.placeholder tag index offset) = .ok u) :
    ∃ (rule : Tag) (out : Text), tag = rule.text ∧ u = .rendered out ∧
      b.render (args.getD index .null) rule.text = .ok out := by
  have hskip : ¬(args.getD index .null).isSkip = true := fun hskip =>
    Bool.false_ne_true (hnumbers .skip (mem_of_isSkip_getD hskip))
  rw [bindAt_placeholder, if_neg hskip] at h
  cases hrender : b.renderAt args tag index with
  | error failure => rw [hrender] at h; cases h
  | ok out =>
    rw [hrender] at h
    obtain ⟨rule, rfl⟩ : ∃ rule : Tag, tag = rule.text := by
      rw [renderAt, render] at hrender
      split at hrender
      · cases hrender
      · exact ⟨_, Tag.eq_text_of_ofText? ‹_›⟩
    exact ⟨rule, out, rfl, (Except.ok.inj h).symm, hrender⟩

/-- What stands in a template without braces and comments, and what stands for it in a query of
numbers: a literal run, for itself, or a placeholder, and its number. -/
theorem placed_of_mem_read {b : Builder} {template : Text} {args : List Argument}
    {escapeString : Text → Text} (hdialect : b.compiler.dialect ∈ Dialect.builtIn escapeString)
    (hplain : Text.IsUncommented template) (hnumbers : ∀ a ∈ args, a.isNumber = true) {t : Token}
    (ht : t ∈ Token.read template) (hbrace : t.isBrace = false)
    (hbind : b.bindAt args t = .ok (b.placed args t)) :
    (∃ x, t = .literal x ∧ b.placed args t = t ∧ x ≠ [] ∧ Text.IsUncommented x) ∨
      ∃ (rule : Tag) (index offset : ℕ), t = .placeholder rule.text index offset ∧
        Text.Meets ((args.getD index .null).writesMinus rule) (b.placed args t).text := by
  have hread := Token.isRead_readFrom true 0 0 template t ht
  cases t with
  | literal x =>
    refine .inl ⟨x, rfl, rfl, hread.1, ?_⟩
    have hrun : x <:+: template := by
      rw [← Token.concat_read template true]
      exact List.infix_of_mem_flatten (List.mem_map_of_mem ht)
    exact List.IsChain.infix hplain hrun
  | placeholder tag index offset =>
    obtain ⟨rule, out, rfl, hplaced, hrender⟩ := exists_rule_of_bindAt hnumbers hbind
    refine .inr ⟨rule, index, offset, rfl, ?_⟩
    rw [hplaced]
    exact meets_render hdialect (isNumber_getD hnumbers index) hrender
  | openBrace | closeBrace => cases hbrace
  | rendered | skipMark => exact hread.elim

/-- Without braces, a query is put together from what stands for the tokens of its template. -/
theorem eq_flatMap_of_build {b : Builder} {template out : Text} {args : List Argument}
    (hbraces : '{' ∉ template ∧ '}' ∉ template)
    (h : (b.build template args).outcome = .ok out) :
    (∀ t ∈ Token.read template, b.bindAt args t = .ok (b.placed args t)) ∧
      out = (Token.read template).flatMap fun t => (b.placed args t).text := by
  obtain ⟨-, substituted, hs, rfl⟩ := outcome_build_eq_ok_iff.mp h
  obtain ⟨hbind, rfl⟩ := eq_placed_of_substitute hs
  have hplaced : ∀ u ∈ (Token.read template).map (b.placed args), u.isBrace = false := by
    intro u hu
    obtain ⟨t, ht, rfl⟩ := List.mem_map.mp hu
    obtain ⟨hopens, hcloses⟩ := b.braces_placed args t
    rw [Token.isBrace_eq, hopens, hcloses, ← Token.isBrace_eq]
    exact Token.isBrace_eq_false_of_mem_read hbraces t ht
  refine ⟨hbind, ?_⟩
  rw [Fragment.resolve_run _ _ hplaced, Token.concat, List.flatMap_map]

/-- A query of numbers has a comment that its template has not, where a number with a minus sign
stands right behind a minus sign, and only there. Nothing keeps the two apart: neither blanks nor
quotes come with a number. -/
theorem build_comment_iff {b : Builder} {template out : Text} {args : List Argument}
    {escapeString : Text → Text} (hdialect : b.compiler.dialect ∈ Dialect.builtIn escapeString)
    (hbraces : '{' ∉ template ∧ '}' ∉ template)
    (hplain : ¬Text.commentMark <:+: template) (hnumbers : ∀ a ∈ args, a.isNumber = true)
    (h : (b.build template args).outcome = .ok out) :
    Text.commentMark <:+: out ↔
      ∃ (rule : Tag) (index offset : ℕ), .placeholder rule.text index offset ∈ Token.read template ∧
        (template.take offset).getLast? = some '-' ∧
        (args.getD index .null).writesMinus rule = true := by
  obtain ⟨hbind, rfl⟩ := eq_flatMap_of_build hbraces h
  have hcases : ∀ t ∈ Token.read template, _ := fun t ht =>
    placed_of_mem_read hdialect ((Text.isUncommented_iff _).mpr hplain) hnumbers ht
      (Token.isBrace_eq_false_of_mem_read hbraces t ht) (hbind t ht)
  have hpieces : ∀ t ∈ Token.read template,
      (b.placed args t).text ≠ [] ∧ Text.IsUncommented (b.placed args t).text := by
    intro t ht
    obtain ⟨x, rfl, hplaced, hx⟩ | ⟨_, _, _, rfl, hmeets⟩ := hcases t ht
    · rwa [hplaced]
    · exact ⟨hmeets.ne_nil, hmeets.isUncommented⟩
  rw [Text.commentMark_infix_flatMap_iff (fun t ht => (hpieces t ht).1)
    fun t ht => (hpieces t ht).2]
  constructor
  · rintro ⟨front, t, u, back, hread, hlast, hhead⟩
    have ht : t ∈ Token.read template := by simp [hread]
    have hu : u ∈ Token.read template := by simp [hread]
    -- Only a literal run ends with a minus sign, and no other one stands behind it.
    obtain ⟨x, rfl, hplaced, -⟩ | ⟨_, _, _, -, hmeets⟩ := hcases t ht
    swap
    · exact absurd hlast hmeets.getLast?_ne
    obtain ⟨y, rfl, -⟩ | ⟨rule, index, offset, rfl, hmeets⟩ := hcases u hu
    · obtain hfalse | hfalse := Token.apart_of_read_eq hread <;> cases hfalse
    refine ⟨rule, index, offset, hu, ?_, hmeets.head?_eq_iff.mp hhead⟩
    rw [Token.getLast?_take_of_read_eq hread, ← hplaced, hlast]
  · rintro ⟨rule, index, offset, hmem, hlast, hminus⟩
    obtain ⟨front, t, back, hread, htlast⟩ := Token.exists_of_getLast?_take hmem hlast
    refine ⟨front, t, _, back, hread, ?_, ?_⟩
    · obtain ⟨x, rfl, hplaced, -⟩ | ⟨tag, _, _, rfl, -⟩ := hcases t (by simp [hread])
      · rwa [hplaced]
      · cases tag <;> cases htlast
    · obtain ⟨x, hfalse, -⟩ | ⟨rule', _, _, heq, hmeets⟩ := hcases _ hmem
      · cases hfalse
      · obtain ⟨htag, rfl, rfl⟩ := Token.placeholder.inj heq
        obtain rfl := Tag.text_injective htag
        exact hmeets.head?_eq_iff.mpr hminus

/-- Minus a half is zero as an integer, and keeps its sign as it is. -/
theorem build_comment_iff_half :
    let b : Builder := ⟨⟨.sqlite, none⟩, .forTarget "sqlite".toList, Decimal.mostDigits⟩
    let args : List Argument := [.decimal (.finite true 5 (-1))]
    (∀ a ∈ args, a.isNumber = true) ∧
      (b.build "5-?d".toList args).outcome = .ok "5-0".toList ∧
      ¬Text.commentMark <:+: "5-0".toList ∧
      (b.build "5-?".toList args).outcome = .ok "5--0.5".toList ∧
      Text.commentMark <:+: "5--0.5".toList := by
  intro b args
  have hnumbers : ∀ a ∈ args, a.isNumber = true := by decide
  have hinteger : (b.build "5-?d".toList args).outcome = .ok "5-0".toList := by decide +kernel
  have hbare : (b.build "5-?".toList args).outcome = .ok "5--0.5".toList := by decide +kernel
  have hdialect : b.compiler.dialect ∈ Dialect.builtIn := by simp [b, Dialect.builtIn]
  refine ⟨hnumbers, hinteger, ?_, hbare, ?_⟩
  · have hiff := build_comment_iff hdialect (by decide) (by decide) hnumbers hinteger
    rw [hiff]
    rintro ⟨rule, index, offset, hmem, -, hminus⟩
    have hread : Token.read "5-?d".toList = [.literal "5-".toList, .placeholder ['d'] 0 2] := by
      decide
    rw [hread] at hmem
    have hplace : rule.text = ['d'] ∧ index = 0 ∧ offset = 2 := by simpa using hmem
    obtain ⟨htext, rfl, rfl⟩ := hplace
    obtain rfl : rule = .integer := Tag.text_injective htext
    exact absurd hminus (by decide +kernel)
  · exact (build_comment_iff hdialect (by decide) (by decide) hnumbers hbare).mpr
      ⟨.bare, 0, 2, by decide, by decide, by decide⟩

/-- Minus one taken away: what follows it on the line is gone. -/
theorem build_comment_negative :
    let b : Builder := ⟨⟨.postgres, none⟩, .forTarget "postgres".toList, Decimal.mostDigits⟩
    let template := "WHERE n = 5-? AND owner = 1".toList
    b.profile.strict = false ∧ ('{' ∉ template ∧ '}' ∉ template) ∧
      ¬Text.commentMark <:+: template ∧
      (b.build template [.int (-1)]).outcome = .ok "WHERE n = 5--1 AND owner = 1".toList ∧
      Text.commentMark <:+: "WHERE n = 5--1 AND owner = 1".toList := by
  intro b template
  exact ⟨rfl, by decide, by decide, by decide +kernel, by decide⟩

end Builder
end SqlTemplate
