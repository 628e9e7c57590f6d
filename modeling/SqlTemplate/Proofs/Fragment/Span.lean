import SqlTemplate.Proofs.Fragment.FlatText

/-!
# Fragments as spans of text

In flat text a fragment is a span: an open brace, text without braces, and a close brace. Resolution
replaces every span by its inside, or by nothing, in one pass from left to right. All else is
copied, braces that belong to no span among it, and what has been put in is not looked at again.
-/
namespace SqlTemplate.Fragment

/-- The inside of the span that a text begins with, and the text behind that span. -/
def spanAt? : Text → Option (Text × Text)
  | '{' :: rest =>
    match rest.dropWhile (!Token.isBraceChar ·) with
    | '}' :: after => some (rest.takeWhile (!Token.isBraceChar ·), after)
    | _ => none
  | _ => none

/-- Text in front of a brace, or of the end, is where the search for a brace stops. -/
theorem takeWhile_dropWhile_of_beginsBare {inside rest : Text} (hopen : '{' ∉ inside)
    (hclose : '}' ∉ inside) (hrest : Token.BeginsBare rest) :
    (inside ++ rest).takeWhile (!Token.isBraceChar ·) = inside ∧
      (inside ++ rest).dropWhile (!Token.isBraceChar ·) = rest := by
  have hinside : ∀ c ∈ inside, (!Token.isBraceChar c) = true := by
    intro c hc
    have hneOpen : c ≠ '{' := fun h => hopen (h ▸ hc)
    have hneClose : c ≠ '}' := fun h => hclose (h ▸ hc)
    simp [Token.isBraceChar, hneOpen, hneClose]
  rw [List.takeWhile_append_of_pos hinside, List.dropWhile_append_of_pos hinside]
  cases rest with
  | nil => simp
  | cons c rest =>
    have hbrace : Token.isBraceChar c = true := by simpa [Token.isBraceChar] using hrest c rfl
    simp [hbrace]

/-- What stands in front of the next brace has no brace, and then a brace comes or the text ends. -/
theorem exists_beginsBare (t : Text) :
    ∃ inside rest, t = inside ++ rest ∧ '{' ∉ inside ∧ '}' ∉ inside ∧ Token.BeginsBare rest := by
  refine ⟨t.takeWhile (!Token.isBraceChar ·), t.dropWhile (!Token.isBraceChar ·),
    List.takeWhile_append_dropWhile.symm, fun h => ?_, fun h => ?_, fun c hc => ?_⟩
  · simpa [Token.isBraceChar] using List.all_eq_true.mp List.all_takeWhile _ h
  · simpa [Token.isBraceChar] using List.all_eq_true.mp List.all_takeWhile _ h
  · have hstop := List.head?_dropWhile_not (!Token.isBraceChar ·) t
    rw [Option.mem_def.mp hc] at hstop
    have hbrace : Token.isBraceChar c = true := by simpa using hstop
    simpa [Token.isBraceChar] using hbrace

/-- A text begins with a span exactly if it is an open brace, text without braces, a close brace and
what follows. -/
theorem spanAt?_eq_some_iff {t inside after : Text} :
    spanAt? t = some (inside, after) ↔
      t = '{' :: inside ++ '}' :: after ∧ '{' ∉ inside ∧ '}' ∉ inside := by
  constructor
  · intro h
    unfold spanAt? at h
    split at h
    · rename_i rest
      obtain ⟨front, back, rfl, hopen, hclose, hback⟩ := exists_beginsBare rest
      obtain ⟨htake, hdrop⟩ := takeWhile_dropWhile_of_beginsBare hopen hclose hback
      rw [htake, hdrop] at h
      split at h
      · cases h
        exact ⟨rfl, hopen, hclose⟩
      · cases h
    · cases h
  · rintro ⟨rfl, hopen, hclose⟩
    have hafter : Token.BeginsBare ('}' :: after) := by simp [Token.BeginsBare]
    obtain ⟨htake, hdrop⟩ := takeWhile_dropWhile_of_beginsBare hopen hclose hafter
    rw [List.cons_append, spanAt?, hdrop, htake]
    rfl

/-- A text with its spans replaced: a span with the marker inside by nothing, another by its
inside. -/
def replaceSpans (marker : Text) : Text → Text
  | [] => []
  | c :: rest =>
    match _hspan : spanAt? (c :: rest) with
    | some (inside, after) =>
      (if Text.occursIn marker inside then [] else inside) ++ replaceSpans marker after
    | none => c :: replaceSpans marker rest
termination_by t => t.length
decreasing_by
  · have hlength := congrArg List.length (spanAt?_eq_some_iff.mp _hspan).1
    simp only [List.length_append, List.length_cons] at hlength ⊢
    omega
  · simp

/-- The inside of a span is one literal, and it is dropped if the marker stands in it. An empty
inside has no literal, but then there is nothing to drop. -/
theorem text_of_solid (marker inside : Text) :
    (if isDropped marker (Token.solid inside) then [] else Token.concat (Token.solid inside)) =
      if Text.occursIn marker inside then [] else inside := by
  cases inside with
  | nil => simp [isDropped, Token.solid]
  | cons c t => simp [isDropped, Token.solid, drops, Token.text]

/-- Outside of a fragment a character of a literal run is copied. -/
theorem resolveFrom_consLiteral (marker : Text) (c : Char) (tokens : List Token) :
    (resolveFrom marker none (Token.consLiteral c tokens)).text =
      c :: (resolveFrom marker none tokens).text := by
  obtain ⟨t, rest, rfl, hcons⟩ | ⟨-, hcons⟩ := Token.consLiteral_cases c tokens
  · rw [hcons]
    rfl
  · rw [hcons]
    rfl

/-- A span is resolved to its inside or to nothing, and what follows it on its own. -/
theorem resolve_span (marker : Text) {inside : Text} (hopen : '{' ∉ inside) (hclose : '}' ∉ inside)
    (after : Text) (index offset : ℕ) :
    ∃ i o,
      (resolve marker (Token.readFrom false index offset ('{' :: inside ++ '}' :: after))).text =
        (if Text.occursIn marker inside then [] else inside) ++
          (resolve marker (Token.readFrom false i o after)).text := by
  have hafter : Token.BeginsBare ('}' :: after) := by simp [Token.BeginsBare]
  rw [List.cons_append, Token.readFrom_openBrace, Token.readFrom_append _ _ _ _ hafter,
    Token.readFrom_solid hopen hclose, Token.readFrom_closeBrace,
    resolve_fragment _ _ _ _ _ (Token.isBrace_of_mem_solid inside), text_of_solid]
  exact ⟨_, _, rfl⟩

/-- An open brace that begins no span is text, and what follows it is resolved as if it were not
there: the next brace opens a fragment of its own, or there is none. -/
theorem resolve_openBrace (marker : Text) {rest : Text} (h : spanAt? ('{' :: rest) = none)
    (index offset : ℕ) :
    (resolve marker (Token.readFrom false index offset ('{' :: rest))).text =
      '{' :: (resolve marker (Token.readFrom false index (offset + 1) rest)).text := by
  obtain ⟨inside, back, rfl, hopen, hclose, hback⟩ := exists_beginsBare rest
  have hsolid := Token.isBrace_of_mem_solid inside
  rw [Token.readFrom_openBrace, Token.readFrom_append _ _ _ _ hback,
    Token.readFrom_solid hopen hclose]
  simp only [resolve, resolveFrom, unclosed, resolveFrom_none_append _ _ _ hsolid,
    resolveFrom_some_append _ _ _ _ hsolid]
  cases back with
  | nil => simp [resolveFrom, unclosed]
  | cons c back =>
    obtain rfl | rfl := hback c rfl
    · simp [resolveFrom, unclosed]
    · have hspan : spanAt? ('{' :: inside ++ '}' :: back) = some (inside, back) :=
        spanAt?_eq_some_iff.mpr ⟨rfl, hopen, hclose⟩
      rw [List.cons_append, h] at hspan
      cases hspan

theorem resolve_readFrom (marker text : Text) (index offset : ℕ) :
    (resolve marker (Token.readFrom false index offset text)).text = replaceSpans marker text := by
  fun_induction replaceSpans marker text generalizing index offset with
  | case1 => rfl
  | case2 c rest inside after hspan ih =>
    obtain ⟨htext, hopen, hclose⟩ := spanAt?_eq_some_iff.mp hspan
    obtain ⟨i, o, hresolve⟩ := resolve_span marker hopen hclose after index offset
    rw [htext, hresolve, ih]
  | case3 c rest hspan ih =>
    by_cases hopen : c = '{'
    · subst hopen
      rw [resolve_openBrace marker hspan, ih]
    by_cases hclose : c = '}'
    · subst hclose
      rw [Token.readFrom_closeBrace, ← ih index (offset + 1)]
      rfl
    · rw [Token.readFrom_literal hopen hclose (by simp), resolve, resolveFrom_consLiteral]
      exact congrArg _ (ih index (offset + 1))

/-- Resolution of flat text is one substitution: its spans are replaced from left to right, by
nothing where the marker stands inside and by their inside elsewhere, and the rest is copied. This
holds for every marker, of which an empty one stands in every span, and one with a brace in none. -/
theorem resolveText_eq_replaceSpans (marker text : Text) :
    (resolveText marker text).text = replaceSpans marker text :=
  resolve_readFrom marker text 0 0

end SqlTemplate.Fragment
