import SqlTemplate.Proofs.Token.Canonical

/-!
# Templates cut anywhere

Where a template is cut in two, a literal run may be cut as well, and a type may come off its
question mark. Only the second makes a difference to the tokens: otherwise they are those of the two
parts side by side, with one literal run in place of the two that meet. This follows from there
being just one canonical token list for a text.
-/
namespace SqlTemplate.Token

/-- A token in front of others. A literal run joins the one behind it. -/
def consToken : Token → List Token → List Token
  | literal t, literal u :: rest => literal (t ++ u) :: rest
  | t, tokens => t :: tokens

/-- Tokens side by side, where literal runs that meet are one. -/
def join (front back : List Token) : List Token :=
  front.foldr consToken back

@[simp] theorem join_cons (t : Token) (front back : List Token) :
    join (t :: front) back = consToken t (join front back) := rfl

theorem consToken_cases (t : Token) (tokens : List Token) :
    (∃ x y rest, t = literal x ∧ tokens = literal y :: rest ∧
      consToken t tokens = literal (x ++ y) :: rest) ∨
      (∀ u ∈ tokens.head?, Apart t u) ∧ consToken t tokens = t :: tokens := by
  cases t with
  | literal x =>
    rcases tokens with _ | ⟨y | _ | _ | _ | _ | _, rest⟩
    case cons.literal => exact .inl ⟨x, y, rest, rfl, rfl, rfl⟩
    all_goals exact .inr ⟨by simp [Apart, isLiteral], rfl⟩
  | _ => exact .inr ⟨fun _ _ => .inl rfl, rfl⟩

theorem consToken_of_apart {t : Token} {tokens : List Token}
    (h : ∀ u ∈ tokens.head?, Apart t u) : consToken t tokens = t :: tokens := by
  obtain ⟨x, y, rest, rfl, rfl, -⟩ | ⟨-, hcons⟩ := consToken_cases t tokens
  · obtain hx | hy := h _ rfl
    · cases hx
    · cases hy
  · exact hcons

@[simp] theorem concat_consToken (t : Token) (tokens : List Token) :
    concat (consToken t tokens) = t.text ++ concat tokens := by
  obtain ⟨x, y, rest, rfl, rfl, hcons⟩ | ⟨-, hcons⟩ := consToken_cases t tokens
  · rw [hcons, concat_cons, concat_cons, ← List.append_assoc]
    rfl
  · rw [hcons, concat_cons]

@[simp] theorem concat_join (front back : List Token) :
    concat (join front back) = concat front ++ concat back := by
  induction front with
  | nil => rfl
  | cons t front ih => rw [join_cons, concat_consToken, ih, concat_cons, List.append_assoc]

/-- A longer literal run begins like the shorter one. -/
theorem settled_head_consToken {s t : Token} {placeholders : Bool} (h : Settled s t)
    (ht : t.IsRead placeholders) (tokens : List Token) :
    ∀ u ∈ (consToken t tokens).head?, Settled s u := by
  obtain ⟨x, y, rest, rfl, rfl, hcons⟩ | ⟨-, hcons⟩ := consToken_cases t tokens
  · obtain ⟨c, x, rfl⟩ := List.exists_cons_of_ne_nil ht.1
    rw [hcons]
    rintro _ ⟨⟩
    cases s with
    | placeholder tag i o =>
      cases tag with
      | nil => exact h
      | cons => trivial
    | _ => trivial
  · rw [hcons]
    rintro _ ⟨⟩
    exact h

theorem isRead_literal_append {placeholders : Bool} {x y : Text}
    (hx : (literal x).IsRead placeholders) (hy : (literal y).IsRead placeholders) :
    (literal (x ++ y)).IsRead placeholders := by
  obtain ⟨hne, hopen, hclose, hplain⟩ := hx
  obtain ⟨-, hopen', hclose', hplain'⟩ := hy
  exact ⟨List.append_ne_nil_of_left_ne_nil hne y,
    List.not_mem_append hopen hopen', List.not_mem_append hclose hclose',
    fun hp => List.not_mem_append (hplain hp) (hplain' hp)⟩

/-- A token of the right form and number in front of canonical tokens gives canonical tokens. -/
theorem CanonicalFrom.consToken {placeholders : Bool} {index offset : ℕ} {t : Token}
    {tokens : List Token} (hread : t.IsRead placeholders)
    (hplace : ∀ tag i o, t = placeholder tag i o → i = index ∧ o = offset)
    (hsettled : ∀ u ∈ tokens.head?, Settled t u)
    (h : CanonicalFrom placeholders (index + if t.isPlaceholder then 1 else 0)
      (offset + t.text.length) tokens) :
    CanonicalFrom placeholders index offset (consToken t tokens) := by
  obtain ⟨x, y, rest, rfl, rfl, hcons⟩ | ⟨hapart, hcons⟩ := consToken_cases t tokens
  · have hform := List.forall_mem_cons.mp h.form
    rw [hcons]
    exact
      { form := List.forall_mem_cons.mpr ⟨isRead_literal_append hread hform.1, hform.2⟩
        apart := h.apart.tail.cons h.apart.rel_head?
        settled := h.settled.tail.cons fun _ _ => settled_of_ne (by simp)
        counts := by
          have hrest := countsFrom_literal.mp h.counts
          rw [countsFrom_literal, List.length_append, ← Nat.add_assoc]
          exact hrest }
  · rw [hcons]
    exact
      { form := List.forall_mem_cons.mpr ⟨hread, h.form⟩
        apart := h.apart.cons hapart
        settled := h.settled.cons hsettled
        counts := countsFrom_cons.mpr ⟨hplace, h.counts⟩ }

/-- Canonical tokens side by side are canonical where they meet without giving a type to a question
mark. -/
theorem CanonicalFrom.join {placeholders : Bool} {index offset : ℕ} {front back : List Token}
    (hfront : CanonicalFrom placeholders index offset front)
    (hback : CanonicalFrom placeholders (index + placeholderCount front)
      (offset + (concat front).length) back)
    (hmeet : ∀ t ∈ front.getLast?, ∀ u ∈ back.head?, Settled t u) :
    CanonicalFrom placeholders index offset (join front back) := by
  induction front generalizing index offset with
  | nil => exact hback
  | cons t front ih =>
    have hread := hfront.form t (.head _)
    rw [placeholderCount_cons, concat_cons, List.length_append, ← Nat.add_assoc,
      ← Nat.add_assoc] at hback
    rw [join_cons]
    refine .consToken hread (countsFrom_cons.mp hfront.counts).1 ?_ (ih hfront.tail hback ?_)
    · cases front with
      | nil => exact hmeet t rfl
      | cons u front =>
        exact settled_head_consToken (hfront.settled.rel_head? rfl)
          (hfront.form u (.tail _ (.head _))) _
    · intro u hu
      refine hmeet u ?_
      rw [List.getLast?_cons, Option.mem_def.mp hu]
      rfl

/-- Away from the types of placeholders, a template may be cut anywhere: the second part is read as
if the first part had been counted. -/
theorem readFrom_join {placeholders : Bool} (index offset : ℕ) {front back : Text}
    (hcut : ¬(placeholders = true ∧ front.getLast? = some '?' ∧
      ∃ c ∈ back.head?, isTypeLetter c = true)) :
    readFrom placeholders index offset (front ++ back) =
      join (readFrom placeholders index offset front)
        (readFrom placeholders
          (index + placeholderCount (readFrom placeholders index offset front))
          (offset + front.length) back) := by
  have hfront := canonicalFrom_readFrom placeholders index offset front
  have hback := canonicalFrom_readFrom placeholders
    (index + placeholderCount (readFrom placeholders index offset front))
    (offset + front.length) back
  have hmeet : ∀ t ∈ (readFrom placeholders index offset front).getLast?,
      ∀ u ∈ (readFrom placeholders
        (index + placeholderCount (readFrom placeholders index offset front))
        (offset + front.length) back).head?, Settled t u := by
    intro t ht u hu
    rcases t with _ | ⟨_ | _, i, o⟩ | _ | _ | _ | _
    case placeholder.nil =>
      rcases u with ⟨_ | ⟨c, x⟩⟩ | _ | _ | _ | _ | _
      case literal.cons =>
        obtain ⟨before, hbefore⟩ := List.getLast?_eq_some_iff.mp ht
        obtain ⟨after, hafter⟩ := List.head?_eq_some_iff.mp hu
        have hplaceholders : placeholders = true :=
          (hfront.form _ (List.mem_of_getLast? ht)).1
        have hlast : front.getLast? = some '?' := by
          rw [← concat_readFrom placeholders index offset front, hbefore]
          simp [text]
        have hfirst : back.head? = some c := by
          rw [← concat_readFrom placeholders _ _ back, hafter]
          rfl
        exact Bool.eq_false_iff.mpr fun hc => hcut ⟨hplaceholders, hlast, c, hfirst, hc⟩
      all_goals trivial
    all_goals trivial
  have hread := (hfront.join (by rwa [concat_readFrom]) hmeet).readFrom_concat
  rwa [concat_join, concat_readFrom, concat_readFrom] at hread

/-- Where the tokens in front are apart, either nothing becomes one at the juncture, or one literal
run in front of it and one behind it do. -/
theorem join_cases {front : List Token} (h : front.IsChain Apart) (back : List Token) :
    join front back = front ++ back ∨
      ∃ before t u after, front = before ++ [literal t] ∧ back = literal u :: after ∧
        join front back = before ++ literal (t ++ u) :: after := by
  induction front with
  | nil => exact .inl rfl
  | cons s front ih =>
    obtain hjoin | ⟨before, t, u, after, rfl, rfl, hjoin⟩ := ih h.tail
    · cases front with
      | nil =>
        obtain ⟨x, y, rest, rfl, rfl, hcons⟩ | ⟨-, hcons⟩ := consToken_cases s back
        · exact .inr ⟨[], x, y, rest, rfl, rfl, hcons⟩
        · exact .inl hcons
      | cons v front =>
        rw [join_cons, hjoin]
        exact .inl (consToken_of_apart fun u hu => h.rel_head? hu)
    · refine .inr ⟨s :: before, t, u, after, rfl, rfl, ?_⟩
      rw [join_cons, hjoin]
      refine consToken_of_apart fun v hv => ?_
      cases before with
      | nil =>
        cases hv
        exact .inl ((h.rel_head? rfl).resolve_right Bool.noConfusion)
      | cons w before => exact h.rel_head? hv

/-- Where no literal run stands behind the juncture, nothing becomes one. -/
theorem join_eq_append {front back : List Token} (h : front.IsChain Apart)
    (hback : ∀ u ∈ back.head?, u.isLiteral = false) : join front back = front ++ back := by
  obtain hjoin | ⟨-, -, u, after, -, rfl, -⟩ := join_cases h back
  · exact hjoin
  · cases hback _ rfl

end SqlTemplate.Token
