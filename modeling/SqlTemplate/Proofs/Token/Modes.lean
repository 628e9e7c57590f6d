import SqlTemplate.Proofs.Fragment.FlatText

/-!
# Reading with and without placeholders

A template is read in two ways: with placeholders before substitution, and without them where a
question mark has no meaning. The second way gives the tokens of the first, after the placeholders
have become text and literal runs that meet have become one. Braces are not touched by this, so that
they pair up alike in both ways.
-/
namespace SqlTemplate.Token

/-- A token where question marks have no meaning. -/
def plain : Token → Token
  | placeholder tag _ _ => literal ('?' :: tag)
  | t => t

/-- Tokens with one literal run in place of those that stand side by side. -/
def merged (tokens : List Token) : List Token :=
  join tokens []

@[simp] theorem text_plain (t : Token) : t.plain.text = t.text := by
  cases t <;> rfl

theorem concat_map_plain (tokens : List Token) : concat (tokens.map plain) = concat tokens := by
  simp [concat, List.flatMap_map]

/-- What is read holds no brace but a brace. -/
theorem IsRead.isFlat {placeholders : Bool} {t : Token} (h : t.IsRead placeholders) :
    t.IsFlat := by
  cases t with
  | literal t => exact ⟨h.2.1, h.2.2.1⟩
  | placeholder tag index offset =>
    obtain ⟨-, rfl | ⟨c, hc, rfl⟩⟩ := h
    · exact ⟨by simp [text], by simp [text]⟩
    · obtain ⟨hopen, hclose, -⟩ := ne_of_isTypeLetter hc
      exact ⟨by simpa [text] using hopen.symm, by simpa [text] using hclose.symm⟩
  | openBrace | closeBrace => exact h
  | rendered | skipMark => exact h.elim

/-- A placeholder is text as well, if question marks have no meaning. -/
theorem IsRead.plain {t : Token} (h : t.IsRead true) :
    t.plain.IsRead false ∧ t.plain.isPlaceholder = false := by
  cases t with
  | literal t =>
    obtain ⟨hne, hopen, hclose, -⟩ := h
    exact ⟨⟨hne, hopen, hclose, nofun⟩, rfl⟩
  | placeholder tag index offset =>
    obtain ⟨hopen, hclose⟩ := h.isFlat
    exact ⟨⟨by simp, hopen, hclose, nofun⟩, rfl⟩
  | openBrace | closeBrace => exact ⟨h, rfl⟩
  | rendered | skipMark => exact h.elim

/-- Without placeholders, merged tokens are the one way to write their text. -/
theorem canonicalFrom_merged_plain {tokens : List Token} (h : ∀ t ∈ tokens, t.IsRead true)
    (offset : ℕ) : CanonicalFrom false 0 offset (merged (tokens.map plain)) := by
  induction tokens generalizing offset with
  | nil => exact ⟨by simp [merged, join], .nil, .nil, countsFrom_nil _ _⟩
  | cons t rest ih =>
    rw [List.forall_mem_cons] at h
    obtain ⟨hread, hplain⟩ := h.1.plain
    have hno (tag : Text) (i o : ℕ) : t.plain ≠ placeholder tag i o := by
      intro ht
      rw [ht] at hplain
      cases hplain
    refine .consToken hread (fun tag i o ht => absurd ht (hno tag i o))
      (fun u _ => settled_of_ne (hno [])) ?_
    rw [hplain]
    exact ih h.2 _

/-- A brace that opens and the next brace, which closes, where so many code points stand before the
one and the other. -/
def Pairs (tokens : List Token) (i j : ℕ) : Prop :=
  ∃ front x inside y back, tokens = front ++ openBrace x :: (inside ++ closeBrace y :: back) ∧
    (∀ t ∈ inside, t.isBrace = false) ∧
    i = (concat front).length ∧ j = i + x.length + (concat inside).length

/-- The pairs of tokens are those of the template's characters, however it is read. -/
theorem pairs_read_iff {placeholders : Bool} {template : Text} {i j : ℕ} :
    Pairs (read template placeholders) i j ↔
      ∃ front inside back, template = front ++ '{' :: (inside ++ '}' :: back) ∧
        '{' ∉ inside ∧ '}' ∉ inside ∧ i = front.length ∧ j = i + 1 + inside.length := by
  have hread := isRead_readFrom placeholders 0 0 template
  constructor
  · rintro ⟨front, x, inside, y, back, htokens, hinside, rfl, rfl⟩
    rw [show readFrom placeholders 0 0 template = read template placeholders from rfl, htokens,
      List.forall_mem_append, List.forall_mem_cons, List.forall_mem_append,
      List.forall_mem_cons] at hread
    obtain ⟨-, hx, hrun, hy, -⟩ := hread
    obtain rfl : x = ['{'] := hx
    obtain rfl : y = ['}'] := hy
    obtain ⟨hopen, hclose⟩ := not_mem_concat (fun t ht => (hrun t ht).isFlat) hinside
    refine ⟨concat front, concat inside, concat back, ?_, hopen, hclose, rfl, rfl⟩
    rw [← concat_read template placeholders, htokens]
    simp [text]
  · rintro ⟨front, inside, back, rfl, hopen, hclose, rfl, rfl⟩
    have hbareOpen : BeginsBare ('{' :: (inside ++ '}' :: back)) := by simp [BeginsBare]
    have hbareClose : BeginsBare ('}' :: back) := by simp [BeginsBare]
    rw [read, readFrom_append _ _ _ _ hbareOpen, readFrom_openBrace,
      readFrom_append _ _ _ _ hbareClose, readFrom_closeBrace]
    refine ⟨_, _, _, _, _, rfl, isBrace_eq_false_of_braces_eq_nil ?_, ?_, ?_⟩
    · rw [braces_readFrom, List.filter_eq_nil_iff]
      intro c hc
      have hneOpen : c ≠ '{' := fun h => hopen (h ▸ hc)
      have hneClose : c ≠ '}' := fun h => hclose (h ▸ hc)
      simp [isBraceChar, hneOpen, hneClose]
    · rw [concat_readFrom]
    · rw [concat_readFrom]
      rfl

/-- Both ways of reading see the same braces. Without placeholders a template is read as the tokens
that are read with them, each placeholder as a literal of its text, and literals that stand side by
side as one; and in both ways the same braces pair up. -/
theorem read_plain_eq_merged (template : Text) :
    read template false = merged ((read template).map plain) ∧
      ∀ i j, Pairs (read template false) i j ↔ Pairs (read template) i j := by
  constructor
  · have hcanonical := canonicalFrom_merged_plain (isRead_readFrom true 0 0 template) 0
    have hback := hcanonical.readFrom_concat
    rw [merged, concat_join, concat_map_plain, concat_readFrom, concat_nil, List.append_nil]
      at hback
    exact hback
  · intro i j
    rw [pairs_read_iff, pairs_read_iff]

/-- A placeholder with a tag and two without one, between text and braces, read both ways. -/
example :
    read "a?db\x7b?\x7d?".toList =
        [literal ['a'], placeholder ['d'] 0 1, literal ['b'], openBrace ['{'], placeholder [] 1 5,
          closeBrace ['}'], placeholder [] 2 7] ∧
      read "a?db\x7b?\x7d?".toList false =
        [literal "a?db".toList, openBrace ['{'], literal ['?'], closeBrace ['}'],
          literal ['?']] := by
  decide

end SqlTemplate.Token
