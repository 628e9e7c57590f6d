import Mathlib.Data.List.Chain
import Mathlib.Data.Nat.Notation
import SqlTemplate.Token

/-!
# The form of what is read

The numbers of the placeholders that reading gives, and the runs between them.

## Numbering of placeholders

The lexer numbers the placeholders of a template from zero, in order and without gaps, so that the
argument of a placeholder can be found by its number.
-/
namespace SqlTemplate.Token

/-- The number of a placeholder. -/
def index? : Token → Option ℕ
  | placeholder _ index _ => some index
  | _ => none

/-- The numbers of the placeholders among some tokens. -/
def indexes (tokens : List Token) : List ℕ :=
  tokens.filterMap index?

@[simp] theorem indexes_nil : indexes [] = [] := rfl

@[simp] theorem indexes_cons (t : Token) (rest : List Token) :
    indexes (t :: rest) = t.index?.toList ++ indexes rest := by
  unfold indexes
  cases h : t.index? <;> simp [h]

@[simp] theorem index?_placeholder (tag : Text) (index offset : ℕ) :
    (placeholder tag index offset).index? = some index := rfl

theorem length_index? (t : Token) : t.index?.toList.length = if t.isPlaceholder then 1 else 0 := by
  cases t <;> rfl

theorem length_indexes (tokens : List Token) :
    (indexes tokens).length = placeholderCount tokens := by
  induction tokens with
  | nil => rfl
  | cons t rest ih =>
    rw [placeholderCount] at ih ⊢
    rw [indexes_cons, List.length_append, length_index?, ih, List.countP_cons, Nat.add_comm]

theorem placeholderCount_cons (t : Token) (rest : List Token) :
    placeholderCount (t :: rest) = (if t.isPlaceholder then 1 else 0) + placeholderCount rest := by
  rw [placeholderCount, List.countP_cons, Nat.add_comm]
  rfl

theorem mem_indexes_of_mem {tokens : List Token} {tag : Text} {index offset : ℕ}
    (h : placeholder tag index offset ∈ tokens) : index ∈ indexes tokens :=
  List.mem_filterMap.mpr ⟨_, h, rfl⟩

@[simp] theorem indexes_consLiteral (c : Char) (tokens : List Token) :
    indexes (consLiteral c tokens) = indexes tokens := by
  unfold consLiteral
  split <;> simp [index?]

@[simp] theorem indexes_consPlaceholder (index offset : ℕ) (tokens : List Token) :
    indexes (consPlaceholder index offset tokens) = index :: indexes tokens := by
  unfold consPlaceholder
  split
  · rename_i c t rest
    by_cases hc : isTypeLetter c = true <;> cases t <;> simp [hc, index?]
  · simp

/-- Reading numbers the placeholders from the given number on. -/
theorem indexes_readFrom (placeholders : Bool) (index offset : ℕ) (template : Text) :
    ∃ n, indexes (readFrom placeholders index offset template) = List.range' index n := by
  fun_induction readFrom placeholders index offset template with
  | case1 => exact ⟨0, rfl⟩
  | case2 => simpa [index?]
  | case3 => simpa [index?]
  | case4 index offset c rest _ _ _ ih =>
    obtain ⟨n, hn⟩ := ih
    exact ⟨n + 1, by rw [indexes_consPlaceholder, hn, List.range'_succ]⟩
  | case5 => simpa

/-- The placeholders of a template are numbered from zero on. -/
theorem indexes_read (template : Text) (placeholders : Bool) :
    indexes (read template placeholders) =
      List.range (placeholderCount (read template placeholders)) := by
  obtain ⟨n, hn⟩ := indexes_readFrom placeholders 0 0 template
  have hlen := congrArg List.length hn
  rw [length_indexes, List.length_range'] at hlen
  unfold read
  rw [hn, hlen, List.range_eq_range']

theorem index_lt_of_mem_read {template tag : Text} {placeholders : Bool} {index offset : ℕ}
    (h : placeholder tag index offset ∈ read template placeholders) :
    index < placeholderCount (read template placeholders) := by
  have hmem := mem_indexes_of_mem h
  rw [indexes_read] at hmem
  exact List.mem_range.mp hmem

/-- A placeholder in front of another has a smaller number. -/
theorem index_lt_of_read_eq {template tag tag' : Text} {index index' offset offset' : ℕ}
    {front back : List Token} (h : read template = front ++ placeholder tag index offset :: back)
    (h' : placeholder tag' index' offset' ∈ front) : index' < index := by
  have hsorted : (indexes (read template)).Pairwise (· < ·) := by
    rw [indexes_read]
    exact List.pairwise_lt_range
  rw [h, indexes, List.filterMap_append, List.pairwise_append] at hsorted
  exact hsorted.2.2 index' (mem_indexes_of_mem h') index (by simp [index?])

/-!
## Literal runs

Reading gives literal runs, plain braces and, where they have a meaning, placeholders; it gives no
rendered values and no skip marks. Literal runs are as long as they can be: none is empty, none
holds a character with a meaning, and no two stand side by side.
-/

@[simp] theorem readFrom_nil (placeholders : Bool) (index offset : ℕ) :
    readFrom placeholders index offset [] = [] := rfl

@[simp] theorem readFrom_openBrace (placeholders : Bool) (index offset : ℕ) (rest : Text) :
    readFrom placeholders index offset ('{' :: rest) =
      openBrace ['{'] :: readFrom placeholders index (offset + 1) rest := rfl

@[simp] theorem readFrom_closeBrace (placeholders : Bool) (index offset : ℕ) (rest : Text) :
    readFrom placeholders index offset ('}' :: rest) =
      closeBrace ['}'] :: readFrom placeholders index (offset + 1) rest := rfl

@[simp] theorem readFrom_placeholder (index offset : ℕ) (rest : Text) :
    readFrom true index offset ('?' :: rest) =
      consPlaceholder index offset (readFrom true (index + 1) (offset + 1) rest) := rfl

theorem readFrom_literal {placeholders : Bool} {c : Char} (hopen : c ≠ '{') (hclose : c ≠ '}')
    (hplain : ¬(placeholders = true ∧ c = '?')) (index offset : ℕ) (rest : Text) :
    readFrom placeholders index offset (c :: rest) =
      consLiteral c (readFrom placeholders index (offset + 1) rest) := by
  rw [readFrom, if_neg hopen, if_neg hclose, if_neg hplain]

/-- A character begins a literal run or joins the one behind it. -/
theorem consLiteral_cases (c : Char) (tokens : List Token) :
    (∃ t rest, tokens = literal t :: rest ∧ consLiteral c tokens = literal (c :: t) :: rest) ∨
      (∀ t ∈ tokens.head?, ∀ x, t ≠ literal x) ∧ consLiteral c tokens = literal [c] :: tokens := by
  rcases tokens with _ | ⟨t | _ | _ | _ | _ | _, rest⟩
  case cons.literal => exact .inl ⟨t, rest, rfl, rfl⟩
  all_goals exact .inr ⟨by simp, rfl⟩

/-- A placeholder takes a type letter from the literal run behind it, or nothing. -/
theorem consPlaceholder_cases (index offset : ℕ) (tokens : List Token) :
    (∃ c t rest, isTypeLetter c = true ∧ tokens = literal (c :: t) :: rest ∧
      consPlaceholder index offset tokens =
        placeholder [c] index offset :: if t.isEmpty then rest else literal t :: rest) ∨
      consPlaceholder index offset tokens = placeholder [] index offset :: tokens := by
  unfold consPlaceholder
  split
  · rename_i c t rest
    by_cases hc : isTypeLetter c = true
    · exact .inl ⟨c, t, rest, hc, rfl, if_pos hc⟩
    · exact .inr (if_neg hc)
  · exact .inr rfl

/-- The tokens that reading gives. -/
def IsRead (placeholders : Bool) : Token → Prop
  | literal t => t ≠ [] ∧ '{' ∉ t ∧ '}' ∉ t ∧ (placeholders = true → '?' ∉ t)
  | placeholder tag _ _ => placeholders = true ∧ (tag = [] ∨ ∃ c, isTypeLetter c = true ∧ tag = [c])
  | openBrace t => t = ['{']
  | closeBrace t => t = ['}']
  | rendered _ | skipMark _ => False

theorem IsRead.text_ne_nil {placeholders : Bool} {t : Token} (h : t.IsRead placeholders) :
    t.text ≠ [] := by
  cases t with
  | literal => exact h.1
  | placeholder => simp [text]
  | openBrace | closeBrace => cases h; simp [text]
  | rendered | skipMark => exact h.elim

theorem isRead_consLiteral {placeholders : Bool} {c : Char} {tokens : List Token} (hopen : c ≠ '{')
    (hclose : c ≠ '}') (hplain : ¬(placeholders = true ∧ c = '?'))
    (h : ∀ t ∈ tokens, t.IsRead placeholders) :
    ∀ t ∈ consLiteral c tokens, t.IsRead placeholders := by
  have hquestion : placeholders = true → '?' ≠ c := fun hp hc => hplain ⟨hp, hc.symm⟩
  obtain ⟨t, rest, rfl, hcons⟩ | ⟨-, hcons⟩ := consLiteral_cases c tokens
  · rw [List.forall_mem_cons] at h
    obtain ⟨⟨-, hnoOpen, hnoClose, hnoQuestion⟩, hrest⟩ := h
    rw [hcons, List.forall_mem_cons]
    refine ⟨⟨by simp, ?_, ?_, fun hp => ?_⟩, hrest⟩
    · exact List.not_mem_cons_of_ne_of_not_mem hopen.symm hnoOpen
    · exact List.not_mem_cons_of_ne_of_not_mem hclose.symm hnoClose
    · exact List.not_mem_cons_of_ne_of_not_mem (hquestion hp) (hnoQuestion hp)
  · rw [hcons, List.forall_mem_cons]
    refine ⟨⟨by simp, ?_, ?_, by simpa using hquestion⟩, h⟩
    · simpa using hopen.symm
    · simpa using hclose.symm

theorem isRead_consPlaceholder (index offset : ℕ) {tokens : List Token}
    (h : ∀ t ∈ tokens, t.IsRead true) :
    ∀ t ∈ consPlaceholder index offset tokens, t.IsRead true := by
  obtain ⟨c, t, rest, hc, rfl, hcons⟩ | hcons := consPlaceholder_cases index offset tokens
  · rw [List.forall_mem_cons] at h
    have htail : ∀ u ∈ (if t.isEmpty then rest else literal t :: rest), u.IsRead true := by
      cases t with
      | nil => exact h.2
      | cons d t =>
        obtain ⟨⟨-, hnoOpen, hnoClose, hnoQuestion⟩, hrest⟩ := h
        refine List.forall_mem_cons.mpr ⟨⟨by simp, ?_, ?_, fun hp => ?_⟩, hrest⟩
        · exact List.not_mem_of_not_mem_cons hnoOpen
        · exact List.not_mem_of_not_mem_cons hnoClose
        · exact List.not_mem_of_not_mem_cons (hnoQuestion hp)
    rw [hcons]
    exact List.forall_mem_cons.mpr ⟨⟨rfl, .inr ⟨c, hc, rfl⟩⟩, htail⟩
  · rw [hcons]
    exact List.forall_mem_cons.mpr ⟨⟨rfl, .inl rfl⟩, h⟩

/-- Every token that is read has the form of one. -/
theorem isRead_readFrom (placeholders : Bool) (index offset : ℕ) (template : Text) :
    ∀ t ∈ readFrom placeholders index offset template, t.IsRead placeholders := by
  fun_induction readFrom placeholders index offset template with
  | case1 => simp
  | case2 _ _ _ ih => exact List.forall_mem_cons.mpr ⟨rfl, ih⟩
  | case3 _ _ _ _ ih => exact List.forall_mem_cons.mpr ⟨rfl, ih⟩
  | case4 index offset _ _ _ _ hplaceholder ih =>
    obtain ⟨rfl, -⟩ := hplaceholder
    exact isRead_consPlaceholder index offset ih
  | case5 _ _ _ _ hopen hclose hplain ih => exact isRead_consLiteral hopen hclose hplain ih

def isLiteral : Token → Bool
  | literal _ => true
  | _ => false

/-- Not both of two tokens are literal runs. -/
def Apart (t u : Token) : Prop :=
  t.isLiteral = false ∨ u.isLiteral = false

theorem isChain_consLiteral (c : Char) {tokens : List Token} (h : tokens.IsChain Apart) :
    (consLiteral c tokens).IsChain Apart := by
  obtain ⟨t, rest, rfl, hcons⟩ | ⟨hhead, hcons⟩ := consLiteral_cases c tokens
  · rw [hcons]
    exact h.tail.cons h.rel_head?
  · rw [hcons]
    refine h.cons fun t ht => .inr ?_
    have hne := hhead t ht
    cases t <;> simp_all [isLiteral]

theorem isChain_consPlaceholder (index offset : ℕ) {tokens : List Token}
    (h : tokens.IsChain Apart) : (consPlaceholder index offset tokens).IsChain Apart := by
  obtain ⟨c, t, rest, -, rfl, hcons⟩ | hcons := consPlaceholder_cases index offset tokens
  · have htail : (if t.isEmpty then rest else literal t :: rest).IsChain Apart := by
      split
      · exact h.tail
      · exact h.tail.cons h.rel_head?
    rw [hcons]
    exact htail.cons fun _ _ => .inl rfl
  · rw [hcons]
    exact h.cons fun _ _ => .inl rfl

/-- No two literal runs are read side by side. -/
theorem isChain_readFrom (placeholders : Bool) (index offset : ℕ) (template : Text) :
    (readFrom placeholders index offset template).IsChain Apart := by
  fun_induction readFrom placeholders index offset template with
  | case1 => exact .nil
  | case2 _ _ _ ih => exact ih.cons fun _ _ => .inl rfl
  | case3 _ _ _ _ ih => exact ih.cons fun _ _ => .inl rfl
  | case4 index offset _ _ _ _ _ ih => exact isChain_consPlaceholder index offset ih
  | case5 _ _ c _ _ _ _ ih => exact isChain_consLiteral c ih

theorem apart_of_read_eq {template : Text} {front back : List Token} {t u : Token}
    (h : read template = front ++ t :: u :: back) : t.Apart u :=
  List.isChain_iff_forall_rel_of_append_cons_cons.mp (isChain_readFrom true 0 0 template) h

end SqlTemplate.Token
