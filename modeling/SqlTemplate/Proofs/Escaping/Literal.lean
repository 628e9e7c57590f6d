import Mathlib.Tactic.SplitIfs
import SqlTemplate.Dialect

/-!
# Reading string literals back

A scanner for literals in single quotes, of both kinds: those in which a backslash takes the next
character along, and those in which it is a character like any other. What a dialect writes for a
text is read as that text and ends where it was meant to end, whatever stands behind it, unless that
is one more single quote.
-/
namespace SqlTemplate

/-- What is documented of the client's function: it goes through a text character by character, and
seven of the characters get a backslash. -/
def Escaping.IsBackslashing (escapeString : Text → Text) : Prop :=
  ∀ t, escapeString t = t.flatMap backslashed

theorem Escaping.isBackslashing_withBackslashes : IsBackslashing withBackslashes :=
  fun _ => rfl

namespace Literal

/-- The text that a literal stands for, and what follows the literal. -/
structure Scanned where
  value : Text
  rest : Text
  deriving DecidableEq, Repr

/-- One more character in front of the text. -/
def Scanned.cons (c : Char) (s : Scanned) : Scanned :=
  { s with value := c :: s.value }

/-- What a character behind a backslash stands for. Others than these do not follow a backslash. -/
def unescaped? (c : Char) : Option Char :=
  if c = '0' then some Escaping.nul
  else if c = 'n' then some '\n'
  else if c = 'r' then some '\r'
  else if c = 'Z' then some Escaping.substitute
  else if c = '\\' || c = Text.singleQuote || c = Text.doubleQuote then some c
  else none

/-- Scans a literal from behind its opening quote. Two single quotes stand for one, and one alone is
the closing quote. Whether backslashes escape is up to the kind of literal. -/
def scan (escapes : Bool) : Text → Option Scanned
  | [] => none
  | [c] => if c = Text.singleQuote then some ⟨[], []⟩ else none
  | c :: d :: rest =>
    if c = Text.singleQuote then
      if d = Text.singleQuote then (scan escapes rest).map (Scanned.cons d)
      else some ⟨[], d :: rest⟩
    else if escapes && c = '\\' then
      (unescaped? d).bind fun e => (scan escapes rest).map (Scanned.cons e)
    else (scan escapes (d :: rest)).map (Scanned.cons c)

/-- Scans a literal from its opening quote on. -/
def read (escapes : Bool) : Text → Option Scanned
  | [] => none
  | c :: rest => if c = Text.singleQuote then scan escapes rest else none

theorem scan_closing (escapes : Bool) {k : Text} (hk : k.head? ≠ some Text.singleQuote) :
    scan escapes (Text.singleQuote :: k) = some ⟨[], k⟩ := by
  cases k with
  | nil => simp [scan]
  | cons d k =>
    have hd : d ≠ Text.singleQuote := by simpa using hk
    simp [scan, hd]

theorem scan_pair (escapes : Bool) (rest : Text) :
    scan escapes (Text.singleQuote :: Text.singleQuote :: rest) =
      (scan escapes rest).map (Scanned.cons Text.singleQuote) := by
  simp [scan]

theorem scan_escape {c d : Char} (h : unescaped? d = some c) (rest : Text) :
    scan true ('\\' :: d :: rest) = (scan true rest).map (Scanned.cons c) := by
  have hne : '\\' ≠ Text.singleQuote := by decide
  simp [scan, hne, h]

theorem scan_plain (escapes : Bool) {c : Char} (hquote : c ≠ Text.singleQuote)
    (hescape : (escapes && c = '\\') = false) (rest : Text) :
    scan escapes (c :: rest) = (scan escapes rest).map (Scanned.cons c) := by
  cases rest <;> simp [scan, hquote, hescape]

/-- A character with a backslash where it needs one is read as itself. -/
theorem scan_backslashed (c : Char) (rest : Text) :
    scan true (Escaping.backslashed c ++ rest) = (scan true rest).map (Scanned.cons c) := by
  unfold Escaping.backslashed
  split_ifs with hnul hline hreturn hsubstitute hself
  · subst hnul
    exact scan_escape rfl rest
  · subst hline
    exact scan_escape rfl rest
  · subst hreturn
    exact scan_escape rfl rest
  · subst hsubstitute
    exact scan_escape rfl rest
  · have hread : unescaped? c = some c := by
      simp only [Bool.or_eq_true, decide_eq_true_eq] at hself
      rcases hself with (rfl | rfl) | rfl <;> rfl
    exact scan_escape hread rest
  · simp only [Bool.or_eq_true, decide_eq_true_eq, not_or] at hself
    exact scan_plain true hself.1.2 (by simp [hself.1.1]) rest

/-- A single quote that is doubled is read as one, and other characters as themselves. -/
theorem scan_doubled (c : Char) (rest : Text) :
    scan false (Escaping.doubled c ++ rest) = (scan false rest).map (Scanned.cons c) := by
  unfold Escaping.doubled
  split_ifs with hquote
  · subst hquote
    exact scan_pair false rest
  · exact scan_plain false hquote (by simp) rest

/-- If every character is written so that it is read as itself whatever follows, a text that is
written character by character is read up to the closing quote. -/
theorem scan_flatMap {escapes : Bool} {write : Char → Text}
    (hwrite : ∀ c rest, scan escapes (write c ++ rest) = (scan escapes rest).map (Scanned.cons c))
    (s : Text) {k : Text} (hk : k.head? ≠ some Text.singleQuote) :
    scan escapes (s.flatMap write ++ Text.singleQuote :: k) = some ⟨s, k⟩ := by
  induction s with
  | nil => exact scan_closing escapes hk
  | cons c s ih =>
    rw [List.flatMap_cons, List.append_assoc, hwrite, ih]
    rfl

theorem read_flatMap {escapes : Bool} {write : Char → Text}
    (hwrite : ∀ c rest, scan escapes (write c ++ rest) = (scan escapes rest).map (Scanned.cons c))
    (s : Text) {k : Text} (hk : k.head? ≠ some Text.singleQuote) :
    read escapes (Text.singleQuote :: s.flatMap write ++ [Text.singleQuote] ++ k) =
      some ⟨s, k⟩ := by
  have h := scan_flatMap hwrite s hk
  simpa [read] using h

/-- Every text has a literal with backslashes, and the literal is read as the text and ends where it
ends, whatever stands behind it but a single quote. -/
theorem mysql_literal_reads_back {escapeString : Text → Text}
    (hclient : Escaping.IsBackslashing escapeString) (s : Text) :
    ∃ literal, (⟨.mysql escapeString, none⟩ : Compiler).quoteString s = .ok literal ∧
      ∀ k : Text, k.head? ≠ some Text.singleQuote → read true (literal ++ k) = some ⟨s, k⟩ := by
  refine ⟨Text.singleQuote :: escapeString s ++ [Text.singleQuote], rfl, fun k hk => ?_⟩
  rw [hclient s]
  exact read_flatMap scan_backslashed s hk

/-- A text that begins with a quote and ends with a backslash, in front of another literal. -/
theorem mysql_literal_reads_back_backslash :
    Escaping.IsBackslashing Escaping.withBackslashes ∧
      (", 'x'".toList).head? ≠ some Text.singleQuote ∧
      (⟨.mysql, none⟩ : Compiler).quoteString "'a\\".toList = .ok "'\\'a\\\\'".toList ∧
      read true ("'\\'a\\\\'".toList ++ ", 'x'".toList) = some ⟨"'a\\".toList, ", 'x'".toList⟩ := by
  have hk : (", 'x'".toList).head? ≠ some Text.singleQuote := by decide
  have hclient := Escaping.isBackslashing_withBackslashes
  obtain ⟨literal, hliteral, hread⟩ := mysql_literal_reads_back hclient "'a\\".toList
  have hquoted : (⟨.mysql, none⟩ : Compiler).quoteString "'a\\".toList =
      .ok "'\\'a\\\\'".toList := rfl
  rw [hquoted] at hliteral
  cases hliteral
  exact ⟨hclient, hk, hquoted, hread _ hk⟩

theorem quoteString_of_nul {d : Dialect} (hd : d.escaper = Escaping.doubling) {s : Text}
    (h : Escaping.nul ∈ s) : (⟨d, none⟩ : Compiler).quoteString s =
      .error (.format ⟨.nulCharacter, none, none, some "str".toList⟩) := by
  simp [Compiler.quoteString, Compiler.escape, hd, Escaping.doubling, h, Except.map]

theorem quoteString_of_not_nul {d : Dialect} (hd : d.escaper = Escaping.doubling) {s : Text}
    (h : Escaping.nul ∉ s) : (⟨d, none⟩ : Compiler).quoteString s =
      .ok (Text.singleQuote :: s.flatMap Escaping.doubled ++ [Text.singleQuote]) := by
  simp [Compiler.quoteString, Compiler.escape, hd, Escaping.doubling, h, Except.map]

/-- A text has a literal with doubled quotes unless it holds the NUL character, which is refused.
The literal is read as the text and ends where it ends, whatever stands behind it but a single
quote. -/
theorem standard_literal_reads_back (d : Dialect) (hd : d = .postgres ∨ d = .sqlite) (s : Text) :
    ((∃ e, (⟨d, none⟩ : Compiler).quoteString s = .error (.format e)) ↔ Escaping.nul ∈ s) ∧
      (Escaping.nul ∉ s → ∃ literal, (⟨d, none⟩ : Compiler).quoteString s = .ok literal ∧
        ∀ k : Text, k.head? ≠ some Text.singleQuote → read false (literal ++ k) = some ⟨s, k⟩) := by
  have hescaper : d.escaper = Escaping.doubling := by rcases hd with rfl | rfl <;> rfl
  by_cases hnul : Escaping.nul ∈ s
  · rw [quoteString_of_nul hescaper hnul]
    exact ⟨iff_of_true ⟨_, rfl⟩ hnul, fun habsent => absurd hnul habsent⟩
  · rw [quoteString_of_not_nul hescaper hnul]
    exact ⟨iff_of_false (fun ⟨_, he⟩ => nomatch he) hnul, fun _ =>
      ⟨_, rfl, fun _ hk => read_flatMap scan_doubled s hk⟩⟩

/-- A text of quotes and backslashes with a quote at either end, in front of a closing bracket. -/
theorem standard_literal_reads_back_quotes :
    (Dialect.postgres = .postgres ∨ Dialect.postgres = .sqlite) ∧
      Escaping.nul ∉ "''\\'".toList ∧ (")".toList).head? ≠ some Text.singleQuote ∧
      (⟨.postgres, none⟩ : Compiler).quoteString "''\\'".toList = .ok "'''''\\'''".toList ∧
      read false ("'''''\\'''".toList ++ ")".toList) = some ⟨"''\\'".toList, ")".toList⟩ := by
  have hnul : Escaping.nul ∉ "''\\'".toList := by decide
  have hk : (")".toList).head? ≠ some Text.singleQuote := by decide
  obtain ⟨-, hreads⟩ := standard_literal_reads_back .postgres (.inl rfl) "''\\'".toList
  obtain ⟨literal, hliteral, hread⟩ := hreads hnul
  have hquoted : (⟨.postgres, none⟩ : Compiler).quoteString "''\\'".toList =
      .ok "'''''\\'''".toList := rfl
  rw [hquoted] at hliteral
  cases hliteral
  exact ⟨.inl rfl, hnul, hk, hquoted, hread _ hk⟩

end Literal
end SqlTemplate
