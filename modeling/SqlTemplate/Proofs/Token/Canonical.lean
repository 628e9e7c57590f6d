import SqlTemplate.Proofs.Token.Form

/-!
# Canonical tokens

Many token lists have the text of a template, but only one of them is canonical: it has the form of
what is read, its literal runs and its types are as long as they can be, and its placeholders count
what stands before them. Reading gives this list. So nothing of a template is lost in its tokens,
and nothing of canonical tokens in their text.
-/
namespace SqlTemplate.Token

/-- A placeholder without a type does not stand in front of a literal run that begins with one. -/
def Settled : Token → Token → Prop
  | placeholder [] _ _, literal (c :: _) => isTypeLetter c = false
  | _, _ => True

/-- Every placeholder knows the number of placeholders and of code points before it, where the given
numbers of them stand before the first token. -/
def CountsFrom (index offset : ℕ) (tokens : List Token) : Prop :=
  ∀ front tag i o back, tokens = front ++ placeholder tag i o :: back →
    i = index + placeholderCount front ∧ o = offset + (concat front).length

/-- The one way to write the rest of a template as tokens. -/
structure CanonicalFrom (placeholders : Bool) (index offset : ℕ) (tokens : List Token) : Prop where
  form : ∀ t ∈ tokens, t.IsRead placeholders
  apart : tokens.IsChain Apart
  settled : tokens.IsChain Settled
  counts : CountsFrom index offset tokens

/-- The one way to write a template as tokens. -/
def IsCanonical (placeholders : Bool) (tokens : List Token) : Prop :=
  CanonicalFrom placeholders 0 0 tokens

theorem countsFrom_nil (index offset : ℕ) : CountsFrom index offset [] := by
  intro front tag i o back h
  simp at h

theorem countsFrom_cons {index offset : ℕ} {t : Token} {rest : List Token} :
    CountsFrom index offset (t :: rest) ↔
      (∀ tag i o, t = placeholder tag i o → i = index ∧ o = offset) ∧
        CountsFrom (index + if t.isPlaceholder then 1 else 0) (offset + t.text.length) rest := by
  constructor
  · intro h
    refine ⟨fun tag i o ht => ?_, fun front tag i o back hrest => ?_⟩
    · simpa [placeholderCount] using h [] tag i o rest (by rw [ht, List.nil_append])
    · obtain ⟨hi, ho⟩ := h (t :: front) tag i o back (by rw [hrest, List.cons_append])
      rw [placeholderCount_cons] at hi
      rw [concat_cons, List.length_append] at ho
      exact ⟨by rw [hi, Nat.add_assoc], by rw [ho, Nat.add_assoc]⟩
  · rintro ⟨hhead, htail⟩ front tag i o back h
    cases front with
    | nil =>
      obtain ⟨rfl, -⟩ := List.cons.inj h
      simpa [placeholderCount] using hhead tag i o rfl
    | cons u front =>
      obtain ⟨rfl, hrest⟩ := List.cons.inj h
      obtain ⟨hi, ho⟩ := htail front tag i o back hrest
      rw [placeholderCount_cons, concat_cons, List.length_append, hi, ho]
      exact ⟨Nat.add_assoc _ _ _, Nat.add_assoc _ _ _⟩

theorem countsFrom_literal {index offset : ℕ} {t : Text} {rest : List Token} :
    CountsFrom index offset (literal t :: rest) ↔ CountsFrom index (offset + t.length) rest := by
  rw [countsFrom_cons]
  simp [isPlaceholder, text]

theorem countsFrom_placeholder {index offset i o : ℕ} {tag : Text} {rest : List Token} :
    CountsFrom index offset (placeholder tag i o :: rest) ↔
      (i = index ∧ o = offset) ∧ CountsFrom (index + 1) (offset + 1 + tag.length) rest := by
  rw [countsFrom_cons]
  simp [isPlaceholder, text, Nat.add_assoc, Nat.add_comm tag.length]

theorem countsFrom_consLiteral (c : Char) {index offset : ℕ} {tokens : List Token}
    (h : CountsFrom index (offset + 1) tokens) :
    CountsFrom index offset (consLiteral c tokens) := by
  obtain ⟨t, rest, rfl, hcons⟩ | ⟨-, hcons⟩ := consLiteral_cases c tokens
  · rw [countsFrom_literal] at h
    rw [hcons, countsFrom_literal, List.length_cons, Nat.add_comm t.length, ← Nat.add_assoc]
    exact h
  · rw [hcons, countsFrom_literal]
    exact h

theorem countsFrom_consPlaceholder {index offset : ℕ} {tokens : List Token}
    (h : CountsFrom (index + 1) (offset + 1) tokens) :
    CountsFrom index offset (consPlaceholder index offset tokens) := by
  obtain ⟨c, t, rest, -, rfl, hcons⟩ | hcons := consPlaceholder_cases index offset tokens
  · rw [hcons, countsFrom_placeholder]
    refine ⟨⟨rfl, rfl⟩, ?_⟩
    rw [countsFrom_literal] at h
    cases t with
    | nil => exact h
    | cons d t =>
      rw [if_neg (by simp), countsFrom_literal, List.length_singleton, Nat.add_assoc _ 1,
        Nat.add_comm 1]
      exact h
  · rw [hcons, countsFrom_placeholder]
    exact ⟨⟨rfl, rfl⟩, h⟩

/-- What is read counts the placeholders and the code points. -/
theorem countsFrom_readFrom (placeholders : Bool) (index offset : ℕ) (template : Text) :
    CountsFrom index offset (readFrom placeholders index offset template) := by
  fun_induction readFrom placeholders index offset template with
  | case1 => exact countsFrom_nil _ _
  | case2 index offset rest ih => exact countsFrom_cons.mpr ⟨by simp, ih⟩
  | case3 index offset rest _ ih => exact countsFrom_cons.mpr ⟨by simp, ih⟩
  | case4 index offset c rest _ _ _ ih => exact countsFrom_consPlaceholder ih
  | case5 index offset c rest _ _ _ ih => exact countsFrom_consLiteral c ih

theorem settled_of_ne {t u : Token} (h : ∀ i o, t ≠ placeholder [] i o) : Settled t u := by
  cases t with
  | placeholder tag i o =>
    cases tag with
    | nil => exact absurd rfl (h i o)
    | cons => trivial
  | _ => trivial

theorem settled_consLiteral (c : Char) {tokens : List Token} (h : tokens.IsChain Settled) :
    (consLiteral c tokens).IsChain Settled := by
  obtain ⟨t, rest, rfl, hcons⟩ | ⟨-, hcons⟩ := consLiteral_cases c tokens
  · rw [hcons]
    exact h.tail.cons fun _ _ => settled_of_ne (by simp)
  · rw [hcons]
    exact h.cons fun _ _ => settled_of_ne (by simp)

theorem settled_consPlaceholder (index offset : ℕ) {tokens : List Token}
    (h : tokens.IsChain Settled) : (consPlaceholder index offset tokens).IsChain Settled := by
  unfold consPlaceholder
  split
  · rename_i c t rest
    split
    · have htail : (if t.isEmpty then rest else literal t :: rest).IsChain Settled := by
        split
        · exact h.tail
        · exact h.tail.cons fun _ _ => settled_of_ne (by simp)
      exact htail.cons fun _ _ => settled_of_ne (by simp)
    · rename_i hc
      refine h.cons fun u hu => ?_
      cases hu
      exact Bool.eq_false_iff.mpr hc
  · rename_i hhead
    refine h.cons fun u hu => ?_
    rcases u with ⟨_ | ⟨c, t⟩⟩ | _ | _ | _ | _ | _
    case literal.cons =>
      obtain ⟨rest, rfl⟩ := List.head?_eq_some_iff.mp hu
      exact absurd rfl (hhead c t rest)
    all_goals trivial

/-- A placeholder without a type is read only where none follows. -/
theorem settled_readFrom (placeholders : Bool) (index offset : ℕ) (template : Text) :
    (readFrom placeholders index offset template).IsChain Settled := by
  fun_induction readFrom placeholders index offset template with
  | case1 => exact .nil
  | case2 _ _ _ ih => exact ih.cons fun _ _ => settled_of_ne (by simp)
  | case3 _ _ _ _ ih => exact ih.cons fun _ _ => settled_of_ne (by simp)
  | case4 index offset _ _ _ _ _ ih => exact settled_consPlaceholder index offset ih
  | case5 _ _ c _ _ _ _ ih => exact settled_consLiteral c ih

/-- What is read is canonical. -/
theorem canonicalFrom_readFrom (placeholders : Bool) (index offset : ℕ) (template : Text) :
    CanonicalFrom placeholders index offset (readFrom placeholders index offset template) where
  form := isRead_readFrom placeholders index offset template
  apart := isChain_readFrom placeholders index offset template
  settled := settled_readFrom placeholders index offset template
  counts := countsFrom_readFrom placeholders index offset template

theorem CanonicalFrom.tail {placeholders : Bool} {index offset : ℕ} {t : Token}
    {rest : List Token} (h : CanonicalFrom placeholders index offset (t :: rest)) :
    CanonicalFrom placeholders (index + if t.isPlaceholder then 1 else 0) (offset + t.text.length)
      rest where
  form := (List.forall_mem_cons.mp h.form).2
  apart := h.apart.tail
  settled := h.settled.tail
  counts := (countsFrom_cons.mp h.counts).2

/-- A literal run puts its characters one after the other in front of what is read behind it. -/
theorem readFrom_run_append {placeholders : Bool} {t : Text}
    (h : (literal t).IsRead placeholders) (index offset : ℕ) (rest : Text) :
    readFrom placeholders index offset (t ++ rest) =
      t.foldr consLiteral (readFrom placeholders index (offset + t.length) rest) := by
  obtain ⟨-, hopen, hclose, hplain⟩ := h
  induction t generalizing offset with
  | nil => rfl
  | cons c t ih =>
    rw [List.mem_cons, not_or] at hopen hclose
    have hc : ¬(placeholders = true ∧ c = '?') := by
      rintro ⟨hp, rfl⟩
      exact hplain hp (.head _)
    rw [List.cons_append, readFrom_literal (Ne.symm hopen.1) (Ne.symm hclose.1) hc,
      ih (offset + 1) hopen.2 hclose.2 fun hp => List.not_mem_of_not_mem_cons (hplain hp),
      List.foldr_cons, List.length_cons, Nat.add_assoc, Nat.add_comm 1]

/-- In front of anything but a literal run, characters make a literal run. -/
theorem foldr_consLiteral {t : Text} (ht : t ≠ []) {tokens : List Token}
    (h : ∀ u ∈ tokens.head?, u.isLiteral = false) :
    t.foldr consLiteral tokens = literal t :: tokens := by
  induction t with
  | nil => exact absurd rfl ht
  | cons c t ih =>
    cases t with
    | nil =>
      obtain ⟨t, rest, rfl, -⟩ | ⟨-, hcons⟩ := consLiteral_cases c tokens
      · cases h (literal t) rfl
      · exact hcons
    | cons d t =>
      rw [List.foldr_cons, ih (List.cons_ne_nil d t)]
      rfl

/-- Behind a bare question mark, settled tokens stay as they are. -/
theorem consPlaceholder_of_settled {index offset : ℕ} {tokens : List Token}
    (h : ∀ u ∈ tokens.head?, Settled (placeholder [] index offset) u) :
    consPlaceholder index offset tokens = placeholder [] index offset :: tokens := by
  obtain ⟨c, t, rest, hc, rfl, -⟩ | hcons := consPlaceholder_cases index offset tokens
  · have hsettled : isTypeLetter c = false := h _ rfl
    rw [hc] at hsettled
    cases hsettled
  · exact hcons

/-- A question mark takes a type letter and nothing of the literal run behind it. -/
theorem consPlaceholder_consLiteral {index offset : ℕ} {c : Char} (hc : isTypeLetter c = true)
    {tokens : List Token} (h : literal [] ∉ tokens) :
    consPlaceholder index offset (consLiteral c tokens) =
      placeholder [c] index offset :: tokens := by
  obtain ⟨t, rest, rfl, hcons⟩ | ⟨-, hcons⟩ := consLiteral_cases c tokens
  · cases t with
    | nil => exact absurd (.head _) h
    | cons d t =>
      rw [hcons]
      simp [consPlaceholder, hc]
  · rw [hcons]
    simp [consPlaceholder, hc]

/-- A type letter has no other meaning. -/
theorem ne_of_isTypeLetter {c : Char} (h : isTypeLetter c = true) : c ≠ '{' ∧ c ≠ '}' ∧ c ≠ '?' := by
  refine ⟨?_, ?_, ?_⟩ <;> rintro rfl <;> exact absurd h (by decide)

/-- Canonical tokens are read back from their text. -/
theorem CanonicalFrom.readFrom_concat {placeholders : Bool} {index offset : ℕ}
    {tokens : List Token} (h : CanonicalFrom placeholders index offset tokens) :
    readFrom placeholders index offset (concat tokens) = tokens := by
  induction tokens generalizing index offset with
  | nil => rfl
  | cons t rest ih =>
    have hrest := ih h.tail
    have hread := h.form t (.head _)
    rw [concat_cons]
    cases t with
    | literal t =>
      have hapart : ∀ u ∈ rest.head?, u.isLiteral = false := fun u hu =>
        (h.apart.rel_head? hu).resolve_left Bool.noConfusion
      have hback : readFrom placeholders index (offset + t.length) (concat rest) = rest := hrest
      rw [text, readFrom_run_append hread, hback, foldr_consLiteral hread.1 hapart]
    | openBrace x =>
      obtain rfl : x = ['{'] := hread
      exact congrArg (_ :: ·) hrest
    | closeBrace x =>
      obtain rfl : x = ['}'] := hread
      exact congrArg (_ :: ·) hrest
    | placeholder tag i o =>
      obtain ⟨rfl, htag⟩ := hread
      obtain ⟨⟨rfl, rfl⟩, -⟩ := countsFrom_placeholder.mp h.counts
      obtain rfl | ⟨c, hc, rfl⟩ := htag
      · have hsettled : ∀ u ∈ rest.head?, Settled (placeholder [] i o) u :=
          fun u hu => h.settled.rel_head? hu
        have hback : readFrom true (i + 1) (o + 1) (concat rest) = rest := hrest
        rw [text, List.cons_append, List.nil_append, readFrom_placeholder, hback,
          consPlaceholder_of_settled hsettled]
      · obtain ⟨hopen, hclose, hplain⟩ := ne_of_isTypeLetter hc
        have hempty : literal [] ∉ rest := fun hmem => (h.form _ (.tail _ hmem)).1 rfl
        have hback : readFrom true (i + 1) (o + 1 + 1) (concat rest) = rest := hrest
        rw [text, List.cons_append, List.cons_append, List.nil_append, readFrom_placeholder,
          readFrom_literal hopen hclose (by simp [hplain]), hback,
          consPlaceholder_consLiteral hc hempty]
    | rendered | skipMark => exact hread.elim

/-- Reading is a lossless parser onto the canonical token lists, with placeholders and without: the
tokens read from a template are the ones that are canonical and have its text. -/
theorem read_eq_iff_isCanonical (placeholders : Bool) (template : Text) (tokens : List Token) :
    read template placeholders = tokens ↔
      IsCanonical placeholders tokens ∧ concat tokens = template := by
  constructor
  · rintro rfl
    exact ⟨canonicalFrom_readFrom placeholders 0 0 template, concat_read template placeholders⟩
  · rintro ⟨hcanonical, rfl⟩
    exact hcanonical.readFrom_concat

end SqlTemplate.Token
