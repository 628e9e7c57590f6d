import SqlTemplate.Escaping

/-!
# Dialects and compilers

A dialect says how identifiers are quoted and how strings are escaped. A compiler is a dialect with
an escaper that may take the place of the dialect's own.
-/
namespace SqlTemplate

/-- A dialect of SQL. Its way to quote a name may be any, and may fail. -/
structure Dialect where
  name : Text
  quote : Text → Except Failure Text
  escaper : Escaper

namespace Dialect

/-- A name between two quotes. Quotes inside the name stay as they are. -/
def wrapped (left right name : Text) : Except Failure Text :=
  .ok (left ++ name ++ right)

/-- The dialect whose strings a function of the client escapes. -/
def mysql (escapeString : Text → Text := Escaping.withBackslashes) : Dialect :=
  ⟨"mysql".toList, wrapped ['\x60'] ['\x60'], Escaping.backslashing escapeString⟩

def postgres : Dialect :=
  ⟨"postgres".toList, wrapped [Text.doubleQuote] [Text.doubleQuote], Escaping.doubling⟩

def sqlite : Dialect :=
  ⟨"sqlite".toList, wrapped [Text.doubleQuote] [Text.doubleQuote], Escaping.doubling⟩

/-- The dialects that are there from the start. -/
def builtIn (escapeString : Text → Text := Escaping.withBackslashes) : List Dialect :=
  [mysql escapeString, postgres, sqlite]

theorem mem_builtIn {escapeString : Text → Text} {d : Dialect} :
    d ∈ builtIn escapeString ↔ d = mysql escapeString ∨ d = postgres ∨ d = sqlite := by
  simp [builtIn]

end Dialect

/-- A dialect, with an escaper in place of its own if there is one. -/
structure Compiler where
  dialect : Dialect
  injected : Option Escaper := none

namespace Compiler

/-- A name in identifier quotes. -/
def quoteIdentifier (c : Compiler) (name : Text) : Except Failure Text :=
  c.dialect.quote name

/-- The inside of the string literal of a text. -/
def escape (c : Compiler) (t : Text) : Except Failure Text :=
  c.injected.getD c.dialect.escaper t

/-- The string literal of a text. -/
def quoteString (c : Compiler) (t : Text) : Except Failure Text :=
  (c.escape t).map fun inside => Text.singleQuote :: inside ++ [Text.singleQuote]

end Compiler
end SqlTemplate
