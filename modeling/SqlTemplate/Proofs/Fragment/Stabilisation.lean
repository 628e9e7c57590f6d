import Mathlib.Logic.Function.Iterate
import SqlTemplate.Proofs.Fragment.Span

/-!
# Resolving again and again

Resolution of flat text takes an open and a close brace away for each span and no other braces. What
is left can hold new spans, of braces that had others between them. As every pass with a span to
resolve takes open braces away, there are no more such passes than open braces; then every close
brace stands in front of all open ones.
-/
namespace SqlTemplate.Fragment

/-- Somewhere the next brace behind an open brace is a close brace. -/
def HasPair (t : Text) : Prop :=
  ∃ front inside back, t = front ++ '{' :: inside ++ '}' :: back ∧ '{' ∉ inside ∧ '}' ∉ inside

/-- The number of places at which a span begins. -/
def spanCount (t : Text) : ℕ :=
  t.tails.countP fun rest => (spanAt? rest).isSome

@[simp] theorem spanCount_nil : spanCount [] = 0 := rfl

theorem spanCount_cons (c : Char) (t : Text) :
    spanCount (c :: t) = spanCount t + if (spanAt? (c :: t)).isSome then 1 else 0 := by
  rw [spanCount, List.tails_cons, List.countP_cons]
  rfl

theorem spanAt?_cons_of_ne {c : Char} (h : c ≠ '{') (t : Text) : spanAt? (c :: t) = none := by
  rw [Option.eq_none_iff_forall_ne_some]
  rintro ⟨inside, after⟩ hspan
  exact h (List.cons.inj (spanAt?_eq_some_iff.mp hspan).1).1

/-- Without open braces no span begins. -/
theorem spanCount_append {front : Text} (h : '{' ∉ front) (rest : Text) :
    spanCount (front ++ rest) = spanCount rest := by
  induction front with
  | nil => rfl
  | cons c front ih =>
    rw [List.mem_cons, not_or] at h
    rw [List.cons_append, spanCount_cons, spanAt?_cons_of_ne (Ne.symm h.1), ih h.2]
    rfl

/-- Inside a span no other begins. -/
theorem spanCount_span {inside : Text} (hopen : '{' ∉ inside) (hclose : '}' ∉ inside)
    (after : Text) : spanCount ('{' :: inside ++ '}' :: after) = spanCount after + 1 := by
  have hspan : spanAt? ('{' :: inside ++ '}' :: after) = some (inside, after) :=
    spanAt?_eq_some_iff.mpr ⟨rfl, hopen, hclose⟩
  have hbrace : '{' ∉ ['}'] := by decide
  have hafter : spanCount ('}' :: after) = spanCount after := spanCount_append hbrace after
  rw [List.cons_append] at hspan ⊢
  rw [spanCount_cons, hspan, spanCount_append hopen, hafter]
  rfl

theorem hasPair_iff {t : Text} : HasPair t ↔ spanCount t ≠ 0 := by
  rw [spanCount, ← Nat.pos_iff_ne_zero, List.countP_pos_iff]
  constructor
  · rintro ⟨front, inside, back, rfl, hopen, hclose⟩
    refine ⟨'{' :: inside ++ '}' :: back, ?_, ?_⟩
    · rw [List.mem_tails, List.append_assoc]
      exact List.suffix_append front _
    · rw [spanAt?_eq_some_iff.mpr ⟨rfl, hopen, hclose⟩]
      rfl
  · rintro ⟨rest, hrest, hspan⟩
    obtain ⟨front, rfl⟩ := (List.mem_tails _ _).mp hrest
    obtain ⟨⟨inside, back⟩, hspan⟩ := Option.isSome_iff_exists.mp hspan
    obtain ⟨rfl, hopen, hclose⟩ := spanAt?_eq_some_iff.mp hspan
    exact ⟨front, inside, back, by rw [List.append_assoc], hopen, hclose⟩

/-- A brace is taken away for each span, of either kind. -/
theorem count_replaceSpans (marker t : Text) {brace : Char} (hbrace : brace = '{' ∨ brace = '}') :
    (replaceSpans marker t).count brace + spanCount t = t.count brace := by
  fun_induction replaceSpans marker t with
  | case1 => rfl
  | case2 c rest inside after hspan ih =>
    obtain ⟨htext, hopen, hclose⟩ := spanAt?_eq_some_iff.mp hspan
    have hinside : inside.count brace = 0 := by
      obtain rfl | rfl := hbrace
      · exact List.count_eq_zero.mpr hopen
      · exact List.count_eq_zero.mpr hclose
    have hkept : (if Text.occursIn marker inside then [] else inside).count brace = 0 := by
      split_ifs
      · rfl
      · exact hinside
    have hspan : ('{' :: inside ++ '}' :: after).count brace = after.count brace + 1 := by
      obtain rfl | rfl := hbrace <;> simp [hinside]
    rw [htext, hspan, spanCount_span hopen hclose, List.count_append, hkept, ← ih]
    omega
  | case3 c rest hspan ih =>
    rw [spanCount_cons, hspan, List.count_cons, List.count_cons, ← ih]
    simp only [Option.isSome_none, Bool.false_eq_true, if_false]
    omega

/-- Two characters at least are taken away for each span. -/
theorem length_replaceSpans_le (marker t : Text) :
    (replaceSpans marker t).length + 2 * spanCount t ≤ t.length := by
  fun_induction replaceSpans marker t with
  | case1 => exact le_rfl
  | case2 c rest inside after hspan ih =>
    obtain ⟨htext, hopen, hclose⟩ := spanAt?_eq_some_iff.mp hspan
    have hkept : (if Text.occursIn marker inside then [] else inside).length ≤ inside.length := by
      split_ifs
      · exact Nat.zero_le _
      · exact le_rfl
    rw [htext, spanCount_span hopen hclose]
    simp only [List.length_append, List.length_cons]
    omega
  | case3 c rest hspan ih =>
    rw [spanCount_cons, hspan]
    simp only [Option.isSome_none, Bool.false_eq_true, if_false, List.length_cons]
    omega

/-- Without spans there is nothing to replace. -/
theorem replaceSpans_eq_self {marker t : Text} (h : spanCount t = 0) :
    replaceSpans marker t = t := by
  fun_induction replaceSpans marker t with
  | case1 => rfl
  | case2 c rest inside after hspan =>
    rw [spanCount_cons, hspan] at h
    cases h
  | case3 c rest hspan ih =>
    rw [spanCount_cons, hspan] at h
    rw [ih h]

/-- As long as there are spans, a pass makes a text shorter. -/
theorem replaceSpans_eq_self_iff {marker t : Text} : replaceSpans marker t = t ↔ ¬HasPair t := by
  rw [hasPair_iff, not_not]
  constructor
  · intro h
    have hlength := length_replaceSpans_le marker t
    rw [h] at hlength
    omega
  · exact replaceSpans_eq_self

/-- After as many passes as there are open braces no span is left. -/
theorem not_hasPair_iterate (marker : Text) {n : ℕ} {t : Text} (h : t.count '{' ≤ n) :
    ¬HasPair ((replaceSpans marker)^[n] t) := by
  induction n generalizing t with
  | zero =>
    have hcount := count_replaceSpans marker t (.inl rfl)
    rw [Function.iterate_zero_apply, hasPair_iff]
    omega
  | succ n ih =>
    rw [Function.iterate_succ_apply]
    by_cases hpair : HasPair t
    · have hcount := count_replaceSpans marker t (.inl rfl)
      have hspans := hasPair_iff.mp hpair
      exact ih (by omega)
    · have hfixed : replaceSpans marker t = t := replaceSpans_eq_self_iff.mpr hpair
      rwa [hfixed, Function.iterate_fixed hfixed]

/-- Where no span is left, no close brace stands behind an open one. -/
theorem close_not_mem_of_not_hasPair {front back : Text} (h : ¬HasPair (front ++ '{' :: back)) :
    '}' ∉ back := by
  intro hmem
  obtain ⟨between, after, rfl, hclose⟩ := List.eq_append_cons_of_mem hmem
  -- The last open brace in front of the first close brace begins a span.
  obtain ⟨inside, before, hsplit, hopen⟩ :=
    List.eq_append_cons_of_mem (List.mem_reverse.mpr (List.mem_cons_self (a := '{') (l := between)))
  have hbetween : '{' :: between = before.reverse ++ '{' :: inside.reverse := by
    simpa using congrArg List.reverse hsplit
  have hinside : '}' ∉ inside.reverse := by
    intro hin
    have hmem' : '}' ∈ '{' :: between := by
      rw [hbetween]
      exact List.mem_append_right _ (.tail _ hin)
    exact hclose (List.mem_of_ne_of_mem (by decide) hmem')
  refine h ⟨front ++ before.reverse, inside.reverse, after, ?_, by simpa using hopen, hinside⟩
  rw [← List.cons_append, hbetween]
  simp

/-- Where the braces open and close by turns, every open brace begins a span. -/
theorem spanCount_of_filter_eq {n : ℕ} {t : Text}
    (h : t.filter Token.isBraceChar = (List.replicate n ['{', '}']).flatten) :
    spanCount t = n := by
  induction n generalizing t with
  | zero =>
    have hopen : '{' ∉ t := by
      intro hmem
      have hfilter : '{' ∈ t.filter Token.isBraceChar := List.mem_filter.mpr ⟨hmem, rfl⟩
      rw [h] at hfilter
      cases hfilter
    simpa using spanCount_append hopen []
  | succ n ih =>
    rw [List.replicate_succ, List.flatten_cons, List.cons_append, List.cons_append,
      List.nil_append] at h
    obtain ⟨front, rest, rfl, hfront, -, hrest⟩ := List.filter_eq_cons_iff.mp h
    obtain ⟨inside, after, rfl, hinside, -, hafter⟩ := List.filter_eq_cons_iff.mp hrest
    have hfrontOpen : '{' ∉ front := fun hmem => hfront _ hmem rfl
    have hopen : '{' ∉ inside := fun hmem => hinside _ hmem rfl
    have hclose : '}' ∉ inside := fun hmem => hinside _ hmem rfl
    rw [spanCount_append hfrontOpen, ← List.cons_append, spanCount_span hopen hclose, ih hafter]

theorem count_of_filter_eq {n : ℕ} {t : Text} {brace : Char} (hbrace : brace = '{' ∨ brace = '}')
    (h : t.filter Token.isBraceChar = (List.replicate n ['{', '}']).flatten) :
    t.count brace = n := by
  have hchar : Token.isBraceChar brace = true := by obtain rfl | rfl := hbrace <;> rfl
  have hpair : ['{', '}'].count brace = 1 := by obtain rfl | rfl := hbrace <;> rfl
  rw [← List.count_filter hchar, h, List.count_flatten, List.map_replicate, hpair,
    List.sum_replicate_nat, Nat.mul_one]

/-- Passes over flat text come to rest. A pass takes away an open and a close brace for each span;
it changes nothing exactly if no open brace has a close brace as the next one, and otherwise it
takes away characters and open braces. So after as many passes as there are open braces nothing
changes any more, and no close brace stands behind an open one. Where the braces open and close by
turns, one pass takes all of them away, and a second pass changes nothing. -/
theorem resolveText_comes_to_rest (marker text : Text) :
    let resolved (t : Text) : Text := (resolveText marker t).text
    (∀ brace, brace = '{' ∨ brace = '}' →
      (resolved text).count brace + spanCount text = text.count brace) ∧
    (resolved text = text ↔ ¬HasPair text) ∧
    (HasPair text → (resolved text).length < text.length ∧
      (resolved text).count '{' < text.count '{') ∧
    (let last := resolved^[text.count '{'] text;
      resolved last = last ∧ ∀ front back, last = front ++ '{' :: back → '}' ∉ back) ∧
    ∀ n, text.filter Token.isBraceChar = (List.replicate n ['{', '}']).flatten →
      '{' ∉ resolved text ∧ '}' ∉ resolved text ∧ resolved (resolved text) = resolved text := by
  intro resolved
  have hresolved : resolved = replaceSpans marker :=
    funext fun t => resolve_readFrom marker t 0 0
  rw [hresolved]
  refine ⟨fun brace => count_replaceSpans marker text, replaceSpans_eq_self_iff, ?_, ?_, ?_⟩
  · intro hpair
    have hspans := hasPair_iff.mp hpair
    have hlength := length_replaceSpans_le marker text
    have hcount := count_replaceSpans marker text (.inl rfl)
    omega
  · have hrest := not_hasPair_iterate marker (t := text) le_rfl
    refine ⟨replaceSpans_eq_self_iff.mpr hrest, fun front back hsplit => ?_⟩
    rw [hsplit] at hrest
    exact close_not_mem_of_not_hasPair hrest
  · intro n halternate
    have hspans := spanCount_of_filter_eq halternate
    have hgone (brace : Char) (hbrace : brace = '{' ∨ brace = '}') :
        brace ∉ replaceSpans marker text := by
      have hcount := count_replaceSpans marker text hbrace
      rw [count_of_filter_eq hbrace halternate, hspans] at hcount
      rw [← List.count_eq_zero]
      omega
    have hopen := hgone '{' (.inl rfl)
    refine ⟨hopen, hgone '}' (.inr rfl), replaceSpans_eq_self ?_⟩
    simpa using spanCount_append hopen []

/-- Nested braces, a stray one on either side, and a marker that counts in the second pass only; and
braces that open and close by turns. -/
theorem resolveText_comes_to_rest_nested :
    let resolved (t : Text) : Text := (resolveText ['!'] t).text
    let nested := "\x7d\x7ba\x7bb\x7d!\x7d\x7b".toList
    let paired := "\x7ba!\x7db\x7bc\x7d".toList
    HasPair nested ∧ resolved nested = "\x7d\x7bab!\x7d\x7b".toList ∧
      (resolved nested).count '{' < nested.count '{' ∧
      resolved (resolved^[3] nested) = resolved^[3] nested ∧
      resolved^[3] nested = ['}', '{'] ∧
      paired.filter Token.isBraceChar = (List.replicate 2 ['{', '}']).flatten ∧
      resolved paired = "bc".toList ∧ resolved (resolved paired) = resolved paired := by
  intro resolved nested paired
  have hpair : HasPair nested :=
    ⟨"\x7d\x7ba".toList, ['b'], "!\x7d\x7b".toList, rfl, by decide, by decide⟩
  have halternate : paired.filter Token.isBraceChar = (List.replicate 2 ['{', '}']).flatten := rfl
  obtain ⟨-, -, hshorter, ⟨hrest, -⟩, -⟩ := resolveText_comes_to_rest ['!'] nested
  obtain ⟨-, -, -, -, hpaired⟩ := resolveText_comes_to_rest ['!'] paired
  exact ⟨hpair, rfl, (hshorter hpair).2, hrest, rfl, halternate, rfl, (hpaired 2 halternate).2.2⟩

end SqlTemplate.Fragment
