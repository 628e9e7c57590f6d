import SqlTemplate.Proofs.Builder.Numeric
import SqlTemplate.Proofs.Escaping.Literal
import SqlTemplate.Proofs.Text.Reader

/-!
# Grammars of dialects

How a server reads values and lists of values, and that the dialects are read so.

## Separators outside of literals

The values of a list are cut at the separators between them. What looks like a separator inside a
string literal is none: literals are passed over as their scanner reads them, and only what stands
between them is looked at.
-/
namespace SqlTemplate

namespace Literal

/-- A scan leaves the end of what it scans. -/
theorem scan_suffix {escapes : Bool} {t : Text} {s : Scanned} (h : scan escapes t = some s) :
    s.rest <:+ t := by
  fun_induction scan escapes t generalizing s with
  | case1 => cases h
  | case2 =>
    cases h
    exact List.nil_suffix
  | case3 => cases h
  | case4 rest ih =>
    obtain ⟨inner, hinner, rfl⟩ := Option.map_eq_some_iff.mp h
    exact (ih hinner).trans ((List.suffix_cons _ rest).trans (List.suffix_cons _ _))
  | case5 d rest =>
    cases h
    exact List.suffix_cons _ _
  | case6 c d rest hquote hescape ih =>
    obtain ⟨e, -, h⟩ := Option.bind_eq_some_iff.mp h
    obtain ⟨inner, hinner, rfl⟩ := Option.map_eq_some_iff.mp h
    exact (ih hinner).trans ((List.suffix_cons d rest).trans (List.suffix_cons c _))
  | case7 c d rest hquote hescape ih =>
    obtain ⟨inner, hinner, rfl⟩ := Option.map_eq_some_iff.mp h
    exact (ih hinner).trans (List.suffix_cons c _)

/-- A text from its first separator outside of literals on; nothing is left if it has none. -/
def fromSeparator (escapes : Bool) : Text → Text
  | [] => []
  | c :: rest =>
    if c = ',' ∧ rest.head? = some ' ' then c :: rest
    else if c = Text.singleQuote then
      match _hscan : scan escapes rest with
      | some s => fromSeparator escapes s.rest
      | none => []
    else fromSeparator escapes rest
termination_by t => t.length
decreasing_by
  · have hle := (scan_suffix _hscan).length_le
    simp only [List.length_cons]
    omega
  · simp

theorem fromSeparator_suffix (escapes : Bool) (t : Text) : fromSeparator escapes t <:+ t := by
  fun_induction fromSeparator escapes t with
  | case1 => exact List.suffix_rfl
  | case2 => exact List.suffix_rfl
  | case3 rest s hscan _ ih =>
    exact (ih.trans (scan_suffix hscan)).trans (List.suffix_cons _ rest)
  | case4 => exact List.nil_suffix
  | case5 c rest _ _ ih => exact ih.trans (List.suffix_cons c rest)

theorem fromSeparator_of_isBehind {escapes : Bool} {k : Text} (h : Reader.IsBehind k) :
    fromSeparator escapes k = k := by
  obtain rfl | ⟨rest, rfl⟩ := h
  · rw [fromSeparator]
  · rw [fromSeparator, if_pos (by simp)]

/-- Text with neither a comma nor a quote in it is passed over. -/
theorem fromSeparator_plain {escapes : Bool} {t : Text}
    (h : ∀ c ∈ t, c ≠ ',' ∧ c ≠ Text.singleQuote) (k : Text) :
    fromSeparator escapes (t ++ k) = fromSeparator escapes k := by
  induction t with
  | nil => rfl
  | cons c t ih =>
    obtain ⟨⟨hcomma, hquote⟩, hrest⟩ := List.forall_mem_cons.mp h
    rw [List.cons_append, fromSeparator, if_neg (by simp [hcomma]), if_neg hquote, ih hrest]

/-- A literal is passed over, whatever it holds. -/
theorem fromSeparator_literal {escapes : Bool} {inside value k : Text}
    (h : scan escapes (inside ++ Text.singleQuote :: k) = some ⟨value, k⟩) :
    fromSeparator escapes (Text.singleQuote :: inside ++ [Text.singleQuote] ++ k) =
      fromSeparator escapes k := by
  have hcomma : Text.singleQuote ≠ ',' := by decide
  have hliteral : Text.singleQuote :: inside ++ [Text.singleQuote] ++ k =
      Text.singleQuote :: (inside ++ Text.singleQuote :: k) := by simp
  rw [hliteral, fromSeparator, if_neg (by simp [hcomma]), if_pos rfl, h]

end Literal

/-- The text of a value: all in front of the first separator outside of literals. -/
def Reader.value (escapes : Bool) : Reader Text where
  read t :=
    let k := Literal.fromSeparator escapes t
    some (t.take (t.length - k.length), k)
  suffix := by
    rintro t rest a ⟨⟩
    exact Literal.fromSeparator_suffix escapes t

/-- A text that is passed over up to its end is read as a value. -/
theorem Reader.reads_value {escapes : Bool} {t : Text}
    (h : ∀ k, IsBehind k →
      Literal.fromSeparator escapes (t ++ k) = Literal.fromSeparator escapes k) :
    (value escapes).Reads t t := by
  intro k hk
  have hfrom : Literal.fromSeparator escapes (t ++ k) = k := by
    rw [h k hk, Literal.fromSeparator_of_isBehind hk]
  simp [value, hfrom]

/-!
## What the dialects write

A server reads what a dialect writes by its own rules: whether a backslash escapes inside a string
literal, and which quotes stand around a name. The dialects that are there from the start write so
that by these rules every value is read whole, with nothing lost and nothing taken from behind it.
-/

/-- Whether backslashes escape in string literals, and the quote on both sides of a name. -/
structure Grammar where
  escapes : Bool
  quote : Char

namespace Grammar

/-- Backslashes escape, and names stand in backticks. -/
def backslashed : Grammar := ⟨true, '\x60'⟩

/-- Backslashes are ordinary characters, and names stand in double quotes. -/
def standard : Grammar := ⟨false, Text.doubleQuote⟩

/-- The dialects that are there from the start, with their grammars. -/
def builtIn (escapeString : Text → Text := Escaping.withBackslashes) : List (Dialect × Grammar) :=
  [(.mysql escapeString, backslashed), (.postgres, standard), (.sqlite, standard)]

/-- No dialect is left out. -/
theorem map_fst_builtIn (escapeString : Text → Text) :
    (builtIn escapeString).map Prod.fst = Dialect.builtIn escapeString := rfl

theorem mem_builtIn {escapeString : Text → Text} {d : Dialect} {g : Grammar} :
    (d, g) ∈ builtIn escapeString ↔
      d = .mysql escapeString ∧ g = backslashed ∨ d = .postgres ∧ g = standard ∨
        d = .sqlite ∧ g = standard := by
  simp [builtIn]

/-- One entry of an assignment list: a name, an equals sign and a value. -/
def entry (g : Grammar) : Reader (Text × Text) :=
  (Reader.name g.quote).pair " = ".toList (Reader.value g.escapes)

/-- Names are quoted as a grammar has it. -/
structure FitsNames (g : Grammar) (d : Dialect) : Prop where
  quotes : ∀ name, d.quote name = .ok (g.quote :: name ++ [g.quote])
  numberless : ∀ n : Int, g.quote ∉ Numeral.ofInt n

/-- What a dialect writes is read by a grammar. -/
structure Fits (g : Grammar) (d : Dialect) : Prop extends FitsNames g d where
  literal : ∀ {s inside : Text}, d.escaper s = .ok inside → ∀ {k : Text},
    k.head? ≠ some Text.singleQuote →
      Literal.scan g.escapes (inside ++ Text.singleQuote :: k) = some ⟨s, k⟩

theorem quote_not_mem_ofInt {quote : Char} (h : quote = Text.doubleQuote ∨ quote = '\x60')
    (n : Int) : quote ∉ Numeral.ofInt n := by
  intro hmem
  have hunquoted := (Numeral.isLiteral_ofInt n).isPlain.unquoted quote hmem
  obtain rfl | rfl := h
  · exact hunquoted.2.1 rfl
  · exact hunquoted.2.2 rfl

theorem fitsNames_of_mem {escapeString : Text → Text} {d : Dialect} {g : Grammar}
    (h : (d, g) ∈ builtIn escapeString) : g.FitsNames d := by
  obtain ⟨rfl, rfl⟩ | ⟨rfl, rfl⟩ | ⟨rfl, rfl⟩ := mem_builtIn.mp h
  · exact ⟨fun _ => rfl, quote_not_mem_ofInt (.inr rfl)⟩
  · exact ⟨fun _ => rfl, quote_not_mem_ofInt (.inl rfl)⟩
  · exact ⟨fun _ => rfl, quote_not_mem_ofInt (.inl rfl)⟩

theorem scan_backslashing {escapeString : Text → Text}
    (hclient : Escaping.IsBackslashing escapeString) {s inside : Text}
    (h : Escaping.backslashing escapeString s = .ok inside) {k : Text}
    (hk : k.head? ≠ some Text.singleQuote) :
    Literal.scan true (inside ++ Text.singleQuote :: k) = some ⟨s, k⟩ := by
  cases h
  rw [hclient s]
  exact Literal.scan_flatMap Literal.scan_backslashed s hk

theorem scan_doubling {s inside : Text} (h : Escaping.doubling s = .ok inside) {k : Text}
    (hk : k.head? ≠ some Text.singleQuote) :
    Literal.scan false (inside ++ Text.singleQuote :: k) = some ⟨s, k⟩ := by
  rw [Escaping.doubling] at h
  split at h
  · cases h
  · cases h
    exact Literal.scan_flatMap Literal.scan_doubled s hk

theorem fits_of_mem {escapeString : Text → Text} (hclient : Escaping.IsBackslashing escapeString)
    {d : Dialect} {g : Grammar} (h : (d, g) ∈ builtIn escapeString) : g.Fits d := by
  have hnames := fitsNames_of_mem h
  obtain ⟨rfl, rfl⟩ | ⟨rfl, rfl⟩ | ⟨rfl, rfl⟩ := mem_builtIn.mp h
  · exact { hnames with literal := fun h _ hk => scan_backslashing hclient h hk }
  · exact { hnames with literal := fun h _ hk => scan_doubling h hk }
  · exact { hnames with literal := fun h _ hk => scan_doubling h hk }

end Grammar
end SqlTemplate
