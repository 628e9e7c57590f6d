import SqlTemplate.Proofs.Token.Juncture

/-!
# Templates side by side

A brace is never part of a literal run or of a placeholder, so a template may be cut in front of it.
What is read from the whole is what is read from both parts, where the placeholders of the second
part stand further to the right.
-/
namespace SqlTemplate.Token

/-- A token with that many more placeholders and code points before it. -/
def shift (index offset : ℕ) : Token → Token
  | placeholder tag i o => placeholder tag (index + i) (offset + o)
  | t => t

theorem map_shift_consLiteral (index offset : ℕ) (c : Char) (tokens : List Token) :
    (consLiteral c tokens).map (shift index offset) =
      consLiteral c (tokens.map (shift index offset)) := by
  rcases tokens with _ | ⟨_ | _ | _ | _ | _ | _, rest⟩ <;> rfl

theorem map_shift_consPlaceholder (index offset i o : ℕ) (tokens : List Token) :
    (consPlaceholder i o tokens).map (shift index offset) =
      consPlaceholder (index + i) (offset + o) (tokens.map (shift index offset)) := by
  rcases tokens with _ | ⟨⟨_ | ⟨c, t⟩⟩ | _ | _ | _ | _ | _, rest⟩
  case cons.literal.cons =>
    by_cases hc : isTypeLetter c = true <;> cases t <;> simp [consPlaceholder, shift, hc]
  all_goals rfl

/-- What stands before a template moves its tokens and changes nothing else. -/
theorem readFrom_add (placeholders : Bool) (index offset i o : ℕ) (template : Text) :
    readFrom placeholders (index + i) (offset + o) template =
      (readFrom placeholders i o template).map (shift index offset) := by
  fun_induction readFrom placeholders i o template with
  | case1 => rfl
  | case2 i o rest ih => simp [Nat.add_assoc, ih, shift]
  | case3 i o rest _ ih => simp [Nat.add_assoc, ih, shift]
  | case4 i o c rest _ _ hplaceholder ih =>
    obtain ⟨rfl, rfl⟩ := hplaceholder
    rw [readFrom_placeholder, map_shift_consPlaceholder, ← ih]
    rfl
  | case5 i o c rest hopen hclose hplain ih =>
    rw [readFrom_literal hopen hclose hplain, map_shift_consLiteral, ← ih]
    rfl

/-- A text that begins with a brace, or with nothing. -/
def BeginsBare (rest : Text) : Prop :=
  ∀ c ∈ rest.head?, c = '{' ∨ c = '}'

/-- What begins with a brace is not read as a literal run. -/
theorem BeginsBare.isLiteral_eq_false {rest : Text} (h : BeginsBare rest) (placeholders : Bool)
    (index offset : ℕ) :
    ∀ t ∈ (readFrom placeholders index offset rest).head?, t.isLiteral = false := by
  cases rest with
  | nil => simp
  | cons c rest =>
    obtain rfl | rfl := h c rfl
    · rintro _ ⟨⟩
      rfl
    · rintro _ ⟨⟩
      rfl

/-- In front of a brace a template may be cut: the second part is read as if the first part had been
counted, and no literal run is cut. -/
theorem readFrom_append (placeholders : Bool) (index offset : ℕ) (front : Text) {rest : Text}
    (h : BeginsBare rest) :
    readFrom placeholders index offset (front ++ rest) =
      readFrom placeholders index offset front ++
        readFrom placeholders
          (index + placeholderCount (readFrom placeholders index offset front))
          (offset + front.length) rest := by
  have hcut : ¬(placeholders = true ∧ front.getLast? = some '?' ∧
      ∃ c ∈ rest.head?, isTypeLetter c = true) := by
    rintro ⟨-, -, c, hc, hletter⟩
    obtain ⟨hopen, hclose, -⟩ := ne_of_isTypeLetter hletter
    obtain hbrace | hbrace := h c hc
    · exact hopen hbrace
    · exact hclose hbrace
  rw [readFrom_join index offset hcut, join_eq_append (isChain_readFrom _ _ _ _)]
  exact h.isLiteral_eq_false _ _ _

@[simp] theorem isPlaceholder_shift (index offset : ℕ) (t : Token) :
    (t.shift index offset).isPlaceholder = t.isPlaceholder := by
  cases t <;> rfl

theorem readFrom_eq_map_shift (placeholders : Bool) (index offset : ℕ) (template : Text) :
    readFrom placeholders index offset template =
      (read template placeholders).map (shift index offset) :=
  readFrom_add placeholders index offset 0 0 template

/-- Away from the types of placeholders, the tokens of a template are those of its two parts, with
one literal run where two of them meet. -/
theorem read_append {front back : Text}
    (hcut : ¬(front.getLast? = some '?' ∧ ∃ c ∈ back.head?, isTypeLetter c = true)) :
    read (front ++ back) =
      join (read front)
        ((read back).map (shift (placeholderCount (read front)) front.length)) := by
  rw [read, readFrom_join 0 0 fun h => hcut h.2, readFrom_eq_map_shift _ _ _ back, Nat.zero_add,
    Nat.zero_add]
  rfl

theorem placeholderCount_readFrom (placeholders : Bool) (index offset : ℕ) (template : Text) :
    placeholderCount (readFrom placeholders index offset template) =
      placeholderCount (read template placeholders) := by
  rw [readFrom_eq_map_shift, placeholderCount, List.countP_map]
  simp only [Function.comp_def, isPlaceholder_shift]
  rfl

/-- A template with a pair of braces in it is read in three parts. -/
theorem read_fragment (before inner after : Text) :
    read (before ++ '{' :: (inner ++ '}' :: after)) =
      read before ++ openBrace ['{'] ::
        ((read inner).map (shift (placeholderCount (read before)) (before.length + 1)) ++
          closeBrace ['}'] :: (read after).map
            (shift (placeholderCount (read before) + placeholderCount (read inner))
              (before.length + 1 + inner.length + 1))) := by
  have hopen : BeginsBare ('{' :: (inner ++ '}' :: after)) := by simp [BeginsBare]
  have hclose : BeginsBare ('}' :: after) := by simp [BeginsBare]
  rw [read, readFrom_append _ _ _ _ hopen, readFrom_openBrace, readFrom_append _ _ _ _ hclose,
    readFrom_closeBrace, placeholderCount_readFrom, placeholderCount_readFrom, Nat.zero_add,
    Nat.zero_add, readFrom_eq_map_shift _ _ _ inner, readFrom_eq_map_shift _ _ _ after]
  rfl

/-- The character of a brace. -/
def brace? : Token → Option Char
  | openBrace _ => some '{'
  | closeBrace _ => some '}'
  | _ => none

/-- The braces among some tokens, in order. -/
def braces (tokens : List Token) : List Char :=
  tokens.filterMap brace?

@[simp] theorem braces_openBrace (x : Text) (rest : List Token) :
    braces (openBrace x :: rest) = '{' :: braces rest := rfl

@[simp] theorem braces_closeBrace (x : Text) (rest : List Token) :
    braces (closeBrace x :: rest) = '}' :: braces rest := rfl

@[simp] theorem braces_literal (x : Text) (rest : List Token) :
    braces (literal x :: rest) = braces rest := rfl

@[simp] theorem braces_placeholder (tag : Text) (index offset : ℕ) (rest : List Token) :
    braces (placeholder tag index offset :: rest) = braces rest := rfl

theorem braces_cons {t : Token} (h : t.isBrace = false) (rest : List Token) :
    braces (t :: rest) = braces rest := by
  cases t with
  | openBrace | closeBrace => cases h
  | _ => rfl

def isBraceChar (c : Char) : Bool :=
  c = '{' || c = '}'

theorem isBrace_eq_false_of_braces_eq_nil {tokens : List Token} (h : braces tokens = []) :
    ∀ t ∈ tokens, t.isBrace = false := by
  intro t ht
  have hnone := List.filterMap_eq_nil_iff.mp h t ht
  cases t with
  | openBrace | closeBrace => cases hnone
  | _ => rfl

theorem braces_consLiteral (c : Char) (tokens : List Token) :
    braces (consLiteral c tokens) = braces tokens := by
  obtain ⟨t, rest, rfl, hcons⟩ | ⟨-, hcons⟩ := consLiteral_cases c tokens
  · rw [hcons, braces_literal, braces_literal]
  · rw [hcons, braces_literal]

theorem braces_consPlaceholder (index offset : ℕ) (tokens : List Token) :
    braces (consPlaceholder index offset tokens) = braces tokens := by
  obtain ⟨c, t, rest, -, rfl, hcons⟩ | hcons := consPlaceholder_cases index offset tokens
  · rw [hcons, braces_placeholder, braces_literal]
    split
    · rfl
    · rw [braces_literal]
  · rw [hcons, braces_placeholder]

/-- The braces read from a template are the ones that it holds. -/
theorem braces_readFrom (placeholders : Bool) (index offset : ℕ) (template : Text) :
    braces (readFrom placeholders index offset template) = template.filter isBraceChar := by
  fun_induction readFrom placeholders index offset template with
  | case1 => rfl
  | case2 index offset rest ih => exact congrArg _ ih
  | case3 index offset rest _ ih => exact congrArg _ ih
  | case4 index offset c rest hopen hclose _ ih =>
    rw [braces_consPlaceholder, ih, List.filter_cons_of_neg (by simp [isBraceChar, hopen, hclose])]
  | case5 index offset c rest hopen hclose _ ih =>
    rw [braces_consLiteral, ih, List.filter_cons_of_neg (by simp [isBraceChar, hopen, hclose])]

theorem isBrace_eq_false_of_mem_read {template : Text} (h : '{' ∉ template ∧ '}' ∉ template) :
    ∀ t ∈ read template, t.isBrace = false := by
  refine isBrace_eq_false_of_braces_eq_nil ?_
  rw [read, braces_readFrom, List.filter_eq_nil_iff]
  intro c hc hbrace
  simp only [isBraceChar, Bool.or_eq_true, decide_eq_true_eq] at hbrace
  obtain rfl | rfl := hbrace
  · exact h.1 hc
  · exact h.2 hc

end SqlTemplate.Token
