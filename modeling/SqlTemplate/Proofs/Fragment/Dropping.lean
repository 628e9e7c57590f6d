import Mathlib.Tactic.SplitIfs
import SqlTemplate.Proofs.Fragment.Matching

/-!
# How many fragments are dropped

Resolution counts the fragments that it drops. Position by position, these are the matched pairs of
braces with a token between them that has the pair dropped, each counted at its open brace.
-/
namespace SqlTemplate.Fragment

/-- At the position an open brace is matched, and some token between the pair has it dropped. -/
def Site.opensDropped (drops : Token → Bool) (s : Site) : Bool :=
  s.token.opens && s.aheadOfClose && (s.after.takeWhile (!·.isBrace)).any drops

/-- The number of matched pairs that are dropped. -/
def droppedPairs (drops : Token → Bool) (tokens : List Token) : Nat :=
  (sitesFrom [] tokens).countP (Site.opensDropped drops)

/-- Whether the pair of an open brace is dropped is told by what comes after it. -/
theorem countP_sitesFrom (drops : Token → Bool) (before tokens : List Token) :
    (sitesFrom before tokens).countP (Site.opensDropped drops) = droppedPairs drops tokens := by
  suffices h : ∀ other, (sitesFrom before tokens).countP (Site.opensDropped drops) =
      (sitesFrom other tokens).countP (Site.opensDropped drops) from h []
  induction tokens generalizing before with
  | nil => exact fun _ => rfl
  | cons t after ih =>
    intro other
    rw [sitesFrom, sitesFrom, List.countP_cons, List.countP_cons, ih (t :: before) (t :: other)]
    rfl

theorem droppedPairs_cons (drops : Token → Bool) (t : Token) (after : List Token) :
    droppedPairs drops (t :: after) =
      droppedPairs drops after + if Site.opensDropped drops ⟨[], t, after⟩ then 1 else 0 := by
  rw [droppedPairs, sitesFrom, List.countP_cons, countP_sitesFrom]

theorem droppedPairs_cons_of_not_opens (drops : Token → Bool) {t : Token} (h : t.opens = false)
    (after : List Token) : droppedPairs drops (t :: after) = droppedPairs drops after := by
  rw [droppedPairs_cons, Site.opensDropped, h]
  rfl

/-- Replacing tokens drops the same pairs, as long as braces stay braces and the same tokens have
the pair around them dropped. -/
theorem droppedPairs_map {f : Token → Token} {drops drops' : Token → Bool} {tokens : List Token}
    (hopens : ∀ t, (f t).opens = t.opens) (hcloses : ∀ t, (f t).closes = t.closes)
    (hdrops : ∀ t ∈ tokens, drops' (f t) = drops t) :
    droppedPairs drops' (tokens.map f) = droppedPairs drops tokens := by
  have hbrace : ∀ t, (f t).isBrace = t.isBrace := by
    simp [Token.isBrace_eq, hopens, hcloses]
  induction tokens with
  | nil => rfl
  | cons t after ih =>
    have hafter := (List.forall_mem_cons.mp hdrops).2
    have hany : ((after.map f).takeWhile (!·.isBrace)).any drops' =
        (after.takeWhile (!·.isBrace)).any drops := by
      rw [List.takeWhile_map, List.any_map, Bool.eq_iff_iff]
      simp only [Function.comp_def, hbrace, List.any_eq_true]
      refine exists_congr fun u => and_congr_right fun hu => ?_
      rw [hafter u (List.takeWhile_subset _ hu)]
    have hsite : Site.opensDropped drops' ⟨[], f t, after.map f⟩ =
        Site.opensDropped drops ⟨[], t, after⟩ := by
      simp only [Site.opensDropped, Site.aheadOfClose, hany, hopens, List.find?_map, Option.any_map,
        Function.comp_def, hbrace, hcloses]
    rw [List.map_cons, droppedPairs_cons, droppedPairs_cons, hsite, ih hafter]

/-- A pending fragment is dropped by what it holds and by what comes after it. -/
def pendingDrop (drops : Token → Bool) : Option (List Token) → List Token → Nat
  | none, _ => 0
  | some fragment, tokens =>
    if Site.opensDropped drops ⟨[], .openBrace ['{'], fragment ++ tokens⟩ then 1 else 0

/-- Tokens without braces, or nothing, are pending. -/
def IsPending (pending : Option (List Token)) : Prop :=
  ∀ fragment ∈ pending, ∀ t ∈ fragment, t.isBrace = false

theorem isPending_none : IsPending none := nofun

theorem isPending_nil : IsPending (some []) := by
  simp [IsPending]

theorem pendingDrop_openBrace (drops : Token → Bool) {pending : Option (List Token)}
    (h : IsPending pending) (x : Text) (rest : List Token) :
    pendingDrop drops pending (.openBrace x :: rest) = 0 := by
  cases pending with
  | none => rfl
  | some fragment =>
    have hfind : fragment.find? Token.isBrace = none := by simpa using h fragment rfl
    simp [pendingDrop, Site.opensDropped, Site.aheadOfClose, hfind, List.find?_cons]

theorem pendingDrop_closeBrace (drops : Token → Bool) {fragment : List Token}
    (h : IsPending (some fragment)) (x : Text) (rest : List Token) :
    pendingDrop drops (some fragment) (.closeBrace x :: rest) =
      if fragment.any drops then 1 else 0 := by
  have hnone : ∀ t ∈ fragment, t.isBrace = false := h fragment rfl
  have hfind : fragment.find? Token.isBrace = none := by simpa using hnone
  have htake : (fragment ++ .closeBrace x :: rest).takeWhile (!·.isBrace) = fragment := by
    rw [List.takeWhile_append_of_pos (by simpa using hnone)]
    simp
  simp [pendingDrop, Site.opensDropped, Site.aheadOfClose, hfind, htake, List.find?_cons]

/-- The pass counts the pairs that it still meets, and the pending fragment if that is dropped. -/
theorem dropped_resolveFrom (marker : Text) {pending : Option (List Token)}
    (h : IsPending pending) (tokens : List Token) :
    (resolveFrom marker pending tokens).dropped =
      pendingDrop (drops marker) pending tokens + droppedPairs (drops marker) tokens := by
  induction tokens generalizing pending with
  | nil =>
    cases pending with
    | none => rfl
    | some fragment =>
      have hfind : fragment.find? Token.isBrace = none := by simpa using h fragment rfl
      simp [resolveFrom, pendingDrop, Site.opensDropped, Site.aheadOfClose, hfind, droppedPairs,
        sitesFrom]
  | cons t rest ih =>
    obtain ⟨x, rfl⟩ | ⟨x, rfl⟩ | ht := t.brace_cases
    · have hrest := ih isPending_nil
      rw [resolveFrom, Resolution.dropped_prepend, hrest, pendingDrop_openBrace _ h,
        droppedPairs_cons, Nat.zero_add, Nat.add_comm]
      rfl
    · have hrest : (resolveFrom marker none rest).dropped = droppedPairs (drops marker) rest := by
        simpa [pendingDrop] using ih isPending_none
      rw [droppedPairs_cons_of_not_opens _ rfl]
      cases pending with
      | none => rw [resolveFrom, Resolution.dropped_prepend, hrest, pendingDrop, Nat.zero_add]
      | some fragment =>
        rw [pendingDrop_closeBrace _ h, resolveFrom, isDropped]
        split_ifs
        · rw [Resolution.dropped_countDropped, hrest, Nat.add_comm]
        · rw [Resolution.dropped_prepend, hrest, Nat.zero_add]
    · have hopens : t.opens = false := by simp_all [Token.isBrace_eq]
      rw [droppedPairs_cons_of_not_opens _ hopens]
      cases pending with
      | none =>
        rw [resolveFrom_none_cons _ _ _ ht, Resolution.dropped_prepend]
        exact ih h
      | some fragment =>
        have hpending : IsPending (some (fragment ++ [t])) := by
          simpa [IsPending, or_imp, forall_and, ht] using h
        rw [resolveFrom_some_cons _ _ _ _ ht, ih hpending, pendingDrop, pendingDrop,
          List.append_assoc, List.singleton_append]

/-- Resolution drops the matched pairs that hold a token which has them dropped. -/
theorem dropped_resolve (marker : Text) (tokens : List Token) :
    (resolve marker tokens).dropped = droppedPairs (decides marker) tokens := by
  rw [resolve, dropped_resolveFrom marker (by simp [IsPending]), drops_eq_decides, pendingDrop,
    Nat.zero_add]

end SqlTemplate.Fragment
