import SqlTemplate.Proofs.Builder.Skeleton
import SqlTemplate.Proofs.Fragment.FlatText

/-!
# Queries side by side

Substitution goes on where it stopped, so that tokens side by side take arguments side by side. In a
template with a fragment the text before it, the fragment and the text after it are therefore built
as they are built alone.
-/
namespace SqlTemplate

/-- A fragment is skipped by one of its arguments, or by a literal run with the marker in it. -/
def Fragment.IsSkipped (marker inner : Text) (args : List Argument) : Prop :=
  .skip ∈ args ∨ ∃ t, .literal t ∈ Token.read inner ∧ marker <:+: t

namespace Builder

/-- The same placeholder further to the right. -/
def Refused.shift (index offset : ℕ) (r : Refused) : Refused :=
  { r with index := index + r.index, offset := offset + r.offset }

theorem bind_shift (b : Builder) (tag : Text) (index offset i o : ℕ) (value : Argument) :
    b.bind tag (index + i) (offset + o) value =
      (b.bind tag i o value).mapError (Refused.shift index offset) := by
  unfold bind
  split
  · rfl
  · split <;> rfl

/-- Where tokens stand matters to the failures on them only. -/
theorem substitute_map_shift (b : Builder) (index offset : ℕ) (tokens : List Token)
    (args : List Argument) :
    b.substitute (tokens.map (Token.shift index offset)) args =
      (b.substitute tokens args).mapError (Refused.shift index offset) := by
  induction tokens generalizing args with
  | nil => rfl
  | cons t rest ih =>
    cases t with
    | placeholder tag i o =>
      simp only [List.map_cons, Token.shift, substitute, bind_shift, ih]
      cases b.bind tag i o (args.headD .null) with
      | error refused => rfl
      | ok t => cases b.substitute rest args.tail <;> rfl
    | _ =>
      simp only [List.map_cons, Token.shift, substitute, ih]
      cases b.substitute rest args <;> rfl

/-- Tokens side by side take as many arguments as they have placeholders, and those behind them take
the others. -/
theorem substitute_append (b : Builder) (front back : List Token) (args more : List Argument)
    (h : args.length = Token.placeholderCount front) :
    b.substitute (front ++ back) (args ++ more) =
      b.substitute front args >>= fun first => (b.substitute back more).map (first ++ ·) := by
  induction front generalizing args with
  | nil =>
    obtain rfl := List.length_eq_zero_iff.mp h
    cases hback : b.substitute back more <;> simp [substitute, hback] <;> rfl
  | cons t front ih =>
    rw [Token.placeholderCount_cons] at h
    cases t with
    | placeholder tag i o =>
      cases args with
      | nil => simp only [Token.isPlaceholder, List.length_nil, if_true] at h; omega
      | cons value args =>
        have hcount : args.length = Token.placeholderCount front := by
          simpa [Token.isPlaceholder, Nat.add_comm 1] using h
        simp only [List.cons_append, substitute, List.headD_cons, List.tail_cons, ih args hcount]
        cases b.bind tag i o value with
        | error refused => rfl
        | ok t =>
          cases b.substitute front args with
          | error refused => rfl
          | ok first => cases b.substitute back more <;> rfl
    | _ =>
      have hcount : args.length = Token.placeholderCount front := by
        simpa [Token.isPlaceholder] using h
      rw [List.cons_append, substitute_cons _ _ _ _ rfl, substitute_cons _ _ _ _ rfl,
        ih args hcount]
      cases b.substitute front args with
      | error refused => rfl
      | ok first => cases b.substitute back more <;> rfl

/-- Braces stay where they are when placeholders give way. -/
theorem braces_map_placed (b : Builder) (args : List Argument) (tokens : List Token) :
    Token.braces (tokens.map (b.placed args)) = Token.braces tokens := by
  induction tokens with
  | nil => rfl
  | cons t rest ih =>
    cases t with
    | placeholder tag index offset =>
      obtain hu | ⟨u, hu⟩ := b.placed_placeholder args tag index offset
      · rw [List.map_cons, hu, Token.braces_cons rfl, ih, Token.braces_placeholder]
      · rw [List.map_cons, hu, Token.braces_cons rfl, ih, Token.braces_placeholder]
    | openBrace | closeBrace => exact congrArg (_ :: ·) ih
    | _ => exact ih

theorem mem_of_isSkip_getD {args : List Argument} {index : ℕ}
    (h : (args.getD index .null).isSkip = true) : .skip ∈ args := by
  rw [List.getD_eq_getElem?_getD] at h
  cases hget : args[index]? with
  | none => simp [hget, Argument.isSkip] at h
  | some value =>
    have hmem : value ∈ args := List.mem_of_getElem? hget
    rw [hget, Option.getD_some] at h
    cases value with
    | skip => exact hmem
    | _ => cases h

/-- What stands for a template without braces is dropped by an argument that skips or by a literal
run. -/
theorem isDropped_map_placed (b : Builder) {inner : Text} {args : List Argument}
    (h : args.length = Token.placeholderCount (Token.read inner)) :
    Fragment.isDropped b.profile.marker ((Token.read inner).map (b.placed args)) = true ↔
      Fragment.IsSkipped b.profile.marker inner args := by
  rw [Fragment.isDropped, Fragment.drops_eq_decides, List.any_map, List.any_eq_true]
  constructor
  · rintro ⟨t, ht, hdecides⟩
    rw [Function.comp_apply, decides_placed b args ht] at hdecides
    have hread := Token.isRead_readFrom true 0 0 inner t ht
    cases t with
    | literal t => exact .inr ⟨t, ht, of_decide_eq_true hdecides⟩
    | placeholder tag index offset =>
      have hskip := (mem_skippedIndexes args ht).mp (of_decide_eq_true hdecides)
      exact .inl (mem_of_isSkip_getD hskip)
    | openBrace | closeBrace => cases hdecides
    | rendered | skipMark => exact hread.elim
  · rintro (hskip | ⟨t, ht, hmarker⟩)
    · obtain ⟨index, hlt, hget⟩ := List.mem_iff_getElem.mp hskip
      have hindex : index ∈ Token.indexes (Token.read inner) := by
        rw [Token.indexes_read, List.mem_range, ← h]
        exact hlt
      obtain ⟨t, ht, hplaceholder⟩ := List.mem_filterMap.mp hindex
      refine ⟨t, ht, ?_⟩
      rw [Function.comp_apply, decides_placed b args ht]
      cases t with
      | placeholder tag number offset =>
        cases hplaceholder
        refine decide_eq_true ((mem_skippedIndexes args ht).mpr ?_)
        rw [List.getD_eq_getElem?_getD, List.getElem?_eq_getElem hlt, hget]
        rfl
      | _ => cases hplaceholder
    · refine ⟨_, ht, ?_⟩
      rw [Function.comp_apply, decides_placed b args ht]
      exact decide_eq_true hmarker

/-- The parts of a template around a fragment are substituted as they are alone. -/
theorem substitute_fragment {b : Builder} {before inner after : Text} {A F B : List Argument}
    {xs ys zs : List Token} (hA : A.length = Token.placeholderCount (Token.read before))
    (hF : F.length = Token.placeholderCount (Token.read inner))
    (hxs : b.substitute (Token.read before) A = .ok xs)
    (hys : b.substitute (Token.read inner) F = .ok ys)
    (hzs : b.substitute (Token.read after) B = .ok zs) :
    b.substitute (Token.read (before ++ '{' :: (inner ++ '}' :: after))) (A ++ F ++ B) =
      .ok (xs ++ .openBrace ['{'] :: (ys ++ .closeBrace ['}'] :: zs)) := by
  have hinner (i o : ℕ) : b.substitute ((Token.read inner).map (Token.shift i o)) F = .ok ys := by
    rw [substitute_map_shift, hys]
    rfl
  have hafter (i o : ℕ) : b.substitute (.closeBrace ['}'] ::
      (Token.read after).map (Token.shift i o)) B = .ok (.closeBrace ['}'] :: zs) := by
    rw [substitute_cons _ _ _ _ rfl, substitute_map_shift, hzs]
    rfl
  have hcount (i o : ℕ) :
      F.length = Token.placeholderCount ((Token.read inner).map (Token.shift i o)) := by
    rw [← Token.readFrom_eq_map_shift, Token.placeholderCount_readFrom, hF]
  rw [Token.read_fragment, List.append_assoc, substitute_append _ _ _ _ _ hA, hxs,
    substitute_cons _ _ _ _ rfl, substitute_append _ _ _ _ _ (hcount _ _), hinner, hafter]
  rfl

/-- A fragment in any context. The text before it leaves no fragment open, and each part of the
template has its own arguments. Then the whole is built of what the parts are built to alone; only
the fragment may be dropped, by one of its arguments or by its own text, and even then it uses up
its arguments. -/
theorem build_fragment {b : Builder} {before inner after x y z : Text} {A F B : List Argument}
    (hstrict : b.profile.strict = false) (hinner : '{' ∉ inner ∧ '}' ∉ inner)
    (hbefore : (before.filter Token.isBraceChar).getLast? ≠ some '{')
    (hA : A.length = Token.placeholderCount (Token.read before))
    (hF : F.length = Token.placeholderCount (Token.read inner))
    (hx : (b.build before A).outcome = .ok x) (hy : (b.build inner F).outcome = .ok y)
    (hz : (b.build after B).outcome = .ok z) :
    ∃ middle, (Fragment.IsSkipped b.profile.marker inner F → middle = []) ∧
      (¬Fragment.IsSkipped b.profile.marker inner F → middle = y) ∧
      (b.build (before ++ '{' :: (inner ++ '}' :: after)) (A ++ F ++ B)).outcome =
        .ok (x ++ middle ++ z) := by
  obtain ⟨-, xs, hxs, rfl⟩ := outcome_build_eq_ok_iff.mp hx
  obtain ⟨-, ys, hys, rfl⟩ := outcome_build_eq_ok_iff.mp hy
  obtain ⟨-, zs, hzs, rfl⟩ := outcome_build_eq_ok_iff.mp hz
  have hsubstitute := substitute_fragment hA hF hxs hys hzs
  have hplaced : ys = (Token.read inner).map (b.placed F) := (eq_placed_of_substitute hys).2
  have hrun : ∀ t ∈ ys, t.isBrace = false := by
    apply Token.isBrace_eq_false_of_braces_eq_nil
    rw [hplaced, braces_map_placed, Token.read, Token.braces_readFrom, List.filter_eq_nil_iff]
    intro c hc
    simp only [Token.isBraceChar, Bool.or_eq_true, decide_eq_true_eq]
    rintro (rfl | rfl)
    · exact hinner.1 hc
    · exact hinner.2 hc
  have hclosed : Fragment.lastBrace? none xs ≠ some '{' := by
    rw [Fragment.lastBrace?, (eq_placed_of_substitute hxs).2, braces_map_placed, Token.read,
      Token.braces_readFrom]
    simpa using hbefore
  have hdropped := isDropped_map_placed b hF
  rw [← hplaced] at hdropped
  refine ⟨if Fragment.isDropped b.profile.marker ys then [] else Token.concat ys, ?_, ?_, ?_⟩
  · intro hskipped
    rw [if_pos (hdropped.mpr hskipped)]
  · intro hkept
    rw [if_neg (fun hdrop => hkept (hdropped.mp hdrop)), Fragment.resolve_run _ _ hrun]
  · refine outcome_build_eq_ok_iff.mpr ⟨countFits_of_lenient hstrict _ _, _, hsubstitute, ?_⟩
    rw [Fragment.resolve, Fragment.resolveFrom_append _ _ _ _ hclosed,
      Fragment.Resolution.text_append, Fragment.resolve_fragment _ _ _ _ _ hrun, List.append_assoc]
    rfl

/-- A question mark and a type letter with a fragment between them, a stray brace on either side.
The fragment falls, and what stands behind it has its own argument all the same. -/
theorem build_fragment_dropped :
    let b : Builder := ⟨⟨.mysql, none⟩, .default, Decimal.mostDigits⟩
    let before : Text := "a\x7d?".toList
    let inner : Text := "?, ? /*".toList
    let after : Text := "d?#\x7b".toList
    let F : List Argument := [.skip, .bool true]
    b.profile.strict = false ∧ ('{' ∉ inner ∧ '}' ∉ inner) ∧
      (before.filter Token.isBraceChar).getLast? ≠ some '{' ∧
      [Argument.bool false].length = Token.placeholderCount (Token.read before) ∧
      F.length = Token.placeholderCount (Token.read inner) ∧
      (b.build before [.bool false]).outcome = .ok "a\x7d0".toList ∧
      (b.build inner F).outcome = .ok "/*skip*/, 1 /*".toList ∧
      (b.build after [.text "t".toList]).outcome = .ok "d\x60t\x60\x7b".toList ∧
      Fragment.IsSkipped b.profile.marker inner F ∧
      (b.build (before ++ '{' :: (inner ++ '}' :: after))
        ([.bool false] ++ F ++ [.text "t".toList])).outcome =
          .ok "a\x7d0d\x60t\x60\x7b".toList := by
  intro b before inner after F
  have hinner : '{' ∉ inner ∧ '}' ∉ inner := by decide
  have hbefore : (before.filter Token.isBraceChar).getLast? ≠ some '{' := by decide
  have hx : (b.build before [.bool false]).outcome = .ok "a\x7d0".toList := rfl
  have hy : (b.build inner F).outcome = .ok "/*skip*/, 1 /*".toList := rfl
  have hz : (b.build after [.text "t".toList]).outcome = .ok "d\x60t\x60\x7b".toList := rfl
  have hskipped : Fragment.IsSkipped b.profile.marker inner F := .inl (.head _)
  obtain ⟨middle, hdropped, -, hbuild⟩ :=
    build_fragment rfl hinner hbefore rfl rfl hx hy hz
  rw [hdropped hskipped] at hbuild
  exact ⟨rfl, hinner, hbefore, rfl, rfl, hx, hy, hz, hskipped, hbuild⟩

end Builder
end SqlTemplate
