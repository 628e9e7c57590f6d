import SqlTemplate.Proofs.Builder.Skeleton
import SqlTemplate.Proofs.Fragment.FlatText
import SqlTemplate.Proofs.Token.Form

/-!
# Queries from flat text

A query can also be had by writing out all tokens after substitution and resolving the text. The two
ways agree if no value is empty, holds a brace or has a character of the marker: a marker in the
text is then one that was put there for a skipped placeholder, or it lies within one literal run,
because between two literal runs there is always a value.
-/
namespace SqlTemplate

/-- A value that resolution of flat text cannot take for anything else. -/
def Text.IsInert (t marker : Text) : Prop :=
  t ≠ [] ∧ '{' ∉ t ∧ '}' ∉ t ∧ ∀ c ∈ t, c ∉ marker

theorem Text.IsInert.not_occurs {t marker : Text} (h : t.IsInert marker) (hmarker : marker ≠ []) :
    ¬marker <:+: t := by
  intro hoccurs
  obtain ⟨c, hc⟩ := List.exists_mem_of_ne_nil marker hmarker
  exact h.2.2.2 c (hoccurs.subset hc) hc

namespace Fragment

theorem infix_of_isLiteral {marker : Text} {t : Token} (h : t.isLiteral = true)
    (hdrops : drops marker t = false) : ¬marker <:+: t.text := by
  cases t with
  | literal x => rwa [drops, ← Bool.not_eq_true, Text.occursIn_iff] at hdrops
  | _ => cases h

/-- Where a value stands between any two literal runs, and values have nothing in common with the
marker, the marker is in the text of a run only if one of the tokens has the fragment dropped. -/
theorem isDropped_of_infix_concat {marker : Text} {run : List Token} (hmarker : marker ≠ [])
    (hchain : run.IsChain Token.Apart)
    (hinert : ∀ t ∈ run, t.isLiteral = false → drops marker t = false → t.text.IsInert marker)
    (h : marker <:+: Token.concat run) : isDropped marker run = true := by
  induction run with
  | nil => exact absurd (List.infix_nil.mp h) hmarker
  | cons t run ih =>
    rw [List.forall_mem_cons] at hinert
    obtain ⟨hhead, htail⟩ := hinert
    rw [isDropped, List.any_cons, Bool.or_eq_true]
    by_cases hdrops : drops marker t = true
    · exact .inl hdrops
    rw [Bool.not_eq_true] at hdrops
    right
    rw [Token.concat_cons, List.infix_append_iff_ne_nil] at h
    obtain hin | hin | ⟨first, last, hfirst, hlast, rfl, hsuffix, hfront⟩ := h
    · cases hliteral : t.isLiteral with
      | true => exact absurd hin (infix_of_isLiteral hliteral hdrops)
      | false => exact absurd hin ((hhead hliteral hdrops).not_occurs hmarker)
    · exact ih hchain.tail htail hin
    · -- The marker would begin in `t` and end behind it.
      cases hliteral : t.isLiteral with
      | false =>
        obtain ⟨c, hc⟩ := List.exists_mem_of_ne_nil first hfirst
        exact absurd (List.mem_append_left _ hc)
          ((hhead hliteral hdrops).2.2.2 c (hsuffix.subset hc))
      | true =>
        cases run with
        | nil => exact absurd (List.prefix_nil.mp hfront) hlast
        | cons u rest =>
          have hu : u.isLiteral = false := by
            have happart := hchain.rel_head? (y := u) rfl
            simpa [Token.Apart, hliteral] using happart
          rw [List.any_cons, Bool.or_eq_true]
          by_cases hdropsNext : drops (first ++ last) u = true
          · exact .inl hdropsNext
          rw [Bool.not_eq_true] at hdropsNext
          obtain ⟨hne, -, -, hdisjoint⟩ := htail u (.head _) hu hdropsNext
          obtain ⟨c, last, rfl⟩ := List.exists_cons_of_ne_nil hlast
          obtain ⟨d, text, htext⟩ := List.exists_cons_of_ne_nil hne
          rw [Token.concat_cons, htext, List.cons_append, List.cons_prefix_cons] at hfront
          exact absurd (by simp [hfront.1]) (hdisjoint d (by simp [htext]))

end Fragment

namespace Builder

/-- What can stand in the place of a token of a template. -/
theorem placed_cases (b : Builder) {template : Text} (args : List Argument) {t : Token}
    (h : t ∈ Token.read template) :
    (∃ x, b.placed args t = .literal x ∧ '{' ∉ x ∧ '}' ∉ x) ∨
      b.placed args t = .openBrace ['{'] ∨ b.placed args t = .closeBrace ['}'] ∨
      b.placed args t = .skipMark b.profile.marker ∨ ∃ x, b.placed args t = .rendered x := by
  have hread := Token.isRead_readFrom true 0 0 template t h
  cases t with
  | literal x => exact .inl ⟨x, rfl, hread.2.1, hread.2.2.1⟩
  | placeholder tag index offset =>
    exact .inr (.inr (.inr (b.placed_placeholder args tag index offset)))
  | openBrace x => exact .inr (.inl (congrArg Token.openBrace hread))
  | closeBrace x => exact .inr (.inr (.inl (congrArg Token.closeBrace hread)))
  | rendered | skipMark => exact hread.elim

theorem isLiteral_placed (b : Builder) (args : List Argument) (t : Token) :
    (b.placed args t).isLiteral = t.isLiteral := by
  cases t with
  | placeholder tag index offset =>
    obtain ht | ⟨x, ht⟩ := b.placed_placeholder args tag index offset <;> rw [ht] <;> rfl
  | _ => rfl

/-- What has a fragment dropped shows the marker. -/
theorem occurs_of_drops_placed (b : Builder) {template : Text} (args : List Argument) {t : Token}
    (h : t ∈ Token.read template)
    (hdrops : Fragment.drops b.profile.marker (b.placed args t) = true) :
    b.profile.marker <:+: (b.placed args t).text := by
  obtain ⟨x, hx, -⟩ | hx | hx | hx | ⟨x, hx⟩ := b.placed_cases args h
  · rw [hx] at hdrops ⊢
    exact (Text.occursIn_iff _ _).mp hdrops
  · rw [hx] at hdrops
    cases hdrops
  · rw [hx] at hdrops
    cases hdrops
  · rw [hx]
    exact List.infix_rfl
  · rw [hx] at hdrops
    cases hdrops

section Inert

variable {b : Builder} {template : Text} {args : List Argument}
  (hinert : ∀ t, .rendered t ∈ (Token.read template).map (b.placed args) →
    t.IsInert b.profile.marker)

include hinert

theorem isFlat_of_mem_map_placed :
    ∀ u ∈ (Token.read template).map (b.placed args), u.IsFlat := by
  intro u hu
  obtain ⟨t, ht, rfl⟩ := List.mem_map.mp hu
  obtain ⟨x, hx, hopen, hclose⟩ | hx | hx | hx | ⟨x, hx⟩ := b.placed_cases args ht
  · rw [hx]
    exact ⟨hopen, hclose⟩
  · rw [hx]
    rfl
  · rw [hx]
    rfl
  · obtain ⟨-, -, hopen, hclose⟩ :=
      (markerProblem?_eq_none_iff b.profile.marker).mp b.profile.marker_fit
    rw [hx]
    exact ⟨hopen, hclose⟩
  · rw [hx] at hu ⊢
    exact ⟨(hinert x hu).2.1, (hinert x hu).2.2.1⟩

/-- What is neither a brace nor a literal run and has no fragment dropped is a value. -/
theorem isInert_placed {t : Token} (ht : t ∈ Token.read template)
    (hbrace : (b.placed args t).isBrace = false) (hliteral : (b.placed args t).isLiteral = false)
    (hdrops : Fragment.drops b.profile.marker (b.placed args t) = false) :
    (b.placed args t).text.IsInert b.profile.marker := by
  have hmem := List.mem_map_of_mem (f := b.placed args) ht
  obtain ⟨x, hx, -⟩ | hx | hx | hx | ⟨x, hx⟩ := b.placed_cases args ht
  · rw [hx] at hliteral
    cases hliteral
  · rw [hx] at hbrace
    cases hbrace
  · rw [hx] at hbrace
    cases hbrace
  · rw [hx] at hdrops
    cases hdrops
  · rw [hx] at hmem ⊢
    exact hinert x hmem

/-- After substitution the marker is in the text of a run for no other reason than that it is in a
literal run, or stands for a skipped placeholder. -/
theorem showsMarker_map_placed :
    Fragment.ShowsMarker b.profile.marker ((Token.read template).map (b.placed args)) := by
  have hmarker := ((markerProblem?_eq_none_iff b.profile.marker).mp b.profile.marker_fit).1
  have hchain : ((Token.read template).map (b.placed args)).IsChain Token.Apart := by
    rw [List.isChain_map]
    refine (Token.isChain_readFrom true 0 0 template).imp fun t u happart => ?_
    rwa [Token.Apart, isLiteral_placed, isLiteral_placed]
  intro run hrun hbrace
  have happart : run.IsChain Token.Apart := List.IsChain.infix hchain hrun
  constructor
  · refine Fragment.isDropped_of_infix_concat hmarker happart fun u hu hliteral hdrops => ?_
    obtain ⟨t, ht, rfl⟩ := List.mem_map.mp (hrun.subset hu)
    exact isInert_placed hinert ht (hbrace _ hu) hliteral hdrops
  · intro hdropped
    obtain ⟨u, hu, hdrops⟩ := List.any_eq_true.mp hdropped
    obtain ⟨t, ht, rfl⟩ := List.mem_map.mp (hrun.subset hu)
    have htext : (b.placed args t).text <:+: Token.concat run :=
      List.infix_of_mem_flatten (List.mem_map_of_mem hu)
    exact (b.occurs_of_drops_placed args ht hdrops).trans htext

end Inert

/-- A query that is built is also what resolution leaves of the flat text of its tokens, if all its
values are inert. -/
theorem build_eq_resolveText {b : Builder} {template out : Text} {args : List Argument}
    (h : (b.build template args).outcome = .ok out) :
    ∃ tokens, b.substitute (Token.read template) args = .ok tokens ∧
      ((∀ t, .rendered t ∈ tokens → t.IsInert b.profile.marker) →
        (Fragment.resolveText b.profile.marker (Token.concat tokens)).text = out) := by
  obtain ⟨-, tokens, htokens, rfl⟩ := outcome_build_eq_ok_iff.mp h
  refine ⟨tokens, htokens, fun hinert => ?_⟩
  obtain ⟨-, rfl⟩ := eq_placed_of_substitute htokens
  rw [Fragment.resolveText_concat (isFlat_of_mem_map_placed hinert) (showsMarker_map_placed hinert)]

/-- Three fragments, of which one is skipped, a stray brace and a question mark in a value. -/
theorem build_eq_resolveText_fragments :
    let b : Builder := ⟨⟨.mysql, none⟩, .default, Decimal.mostDigits⟩
    let template : Text := "x\x7b = ?\x7d\x7b IN ?a\x7d\x7b ?\x7d\x7d".toList
    let args : List Argument := [.text "q?".toList, .skip, .bool true]
    let tokens : List Token := [.literal ['x'], .openBrace ['{'], .literal " = ".toList,
      .rendered "'q?'".toList, .closeBrace ['}'], .openBrace ['{'], .literal " IN ".toList,
      .skipMark defaultMarker, .closeBrace ['}'], .openBrace ['{'], .literal [' '], .rendered ['1'],
      .closeBrace ['}'], .closeBrace ['}']]
    (b.build template args).outcome = .ok "x = 'q?' 1\x7d".toList ∧
      b.substitute (Token.read template) args = .ok tokens ∧
      (∀ t, .rendered t ∈ tokens → t.IsInert b.profile.marker) ∧
      (Fragment.resolveText b.profile.marker
        "x\x7b = 'q?'\x7d\x7b IN /*skip*/\x7d\x7b 1\x7d\x7d".toList).text =
          "x = 'q?' 1\x7d".toList := by
  intro b template args tokens
  have hbuild : (b.build template args).outcome = .ok "x = 'q?' 1\x7d".toList := rfl
  have hsubstitute : b.substitute (Token.read template) args = .ok tokens := rfl
  have hinert : ∀ t, .rendered t ∈ tokens → t.IsInert b.profile.marker := by
    intro t ht
    have hvalue : t = "'q?'".toList ∨ t = ['1'] := by simpa [tokens] using ht
    have hmarker : b.profile.marker = ['/', '*', 's', 'k', 'i', 'p', '*', '/'] := rfl
    rw [hmarker]
    obtain rfl | rfl := hvalue
    · simp [Text.IsInert]
    · simp [Text.IsInert]
  obtain ⟨tokens', hsubstitute', hflat⟩ := build_eq_resolveText hbuild
  obtain rfl : tokens = tokens' := Except.ok.inj (hsubstitute.symm.trans hsubstitute')
  exact ⟨hbuild, hsubstitute, hinert, hflat hinert⟩

end Builder
end SqlTemplate
