import SqlTemplate.Builder.Query
import SqlTemplate.Dialect
import SqlTemplate.Escaping
import SqlTemplate.Profile.Fields

/-!
# The registry of dialects

A registry finds dialects by name. It is kept in the order of the names, by code point, so that its
listing is sorted; a name that is registered again has the dialect registered last.
-/
namespace SqlTemplate

/-- What the library finds where it runs and is not its own: the function of the client that escapes
strings, the library that validates fields, and the memory, which is counted in the digits of an
integer. -/
structure Host where
  escapeString : Text → Text
  validation : Validation
  memory : Nat

/-- A host with a client that escapes with backslashes, with a library that coerces values, and with
all the memory that there can be. -/
def Host.usual : Host :=
  ⟨Escaping.withBackslashes, .coercing, Decimal.mostDigits⟩

/-- Dialects under names, in the order of the names. -/
structure Registry where
  entries : List (Text × Dialect)

namespace Registry

/-- Puts a dialect under a name into entries in the order of their names. -/
def insertInto (name : Text) (dialect : Dialect) :
    List (Text × Dialect) → List (Text × Dialect)
  | [] => [(name, dialect)]
  | (key, d) :: rest =>
    if name < key then (name, dialect) :: (key, d) :: rest
    else if name = key then (name, dialect) :: rest
    else (key, d) :: insertInto name dialect rest

/-- The registry after a dialect is registered under a name. -/
def register (r : Registry) (name : Text) (dialect : Dialect) : Registry :=
  ⟨insertInto name dialect r.entries⟩

/-- What a registrar for a name does: it registers the dialect it is given, and gives it back. -/
def registrar (name : Text) (dialect : Dialect) : StateM Registry Dialect := do
  modify (·.register name dialect)
  return dialect

/-- The dialect under a name. -/
def find? (r : Registry) (name : Text) : Option Dialect :=
  r.entries.lookup name

theorem lookup_insertInto_self (name : Text) (dialect : Dialect)
    (entries : List (Text × Dialect)) :
    (insertInto name dialect entries).lookup name = some dialect := by
  induction entries with
  | nil => simp [insertInto]
  | cons entry rest ih =>
    obtain ⟨key, d⟩ := entry
    unfold insertInto
    split
    · simp
    · split
      · simp
      · next h => rw [List.lookup_cons, beq_eq_false_iff_ne.2 h]; exact ih

theorem lookup_insertInto_of_ne {name key : Text} (h : key ≠ name) (dialect : Dialect)
    (entries : List (Text × Dialect)) :
    (insertInto name dialect entries).lookup key = entries.lookup key := by
  have miss : (key == name) = false := beq_eq_false_iff_ne.2 h
  induction entries with
  | nil => simp [insertInto, List.lookup_cons, miss]
  | cons entry rest ih =>
    obtain ⟨other, d⟩ := entry
    unfold insertInto
    split
    · rw [List.lookup_cons, miss]
    · split
      · next same => subst same; rw [List.lookup_cons, List.lookup_cons, miss]
      · rw [List.lookup_cons, List.lookup_cons, ih]

@[simp] theorem find?_register_self (r : Registry) (name : Text) (dialect : Dialect) :
    (r.register name dialect).find? name = some dialect :=
  lookup_insertInto_self name dialect r.entries

/-- Other names keep their dialects. -/
theorem find?_register_of_ne (r : Registry) {name key : Text} (h : key ≠ name)
    (dialect : Dialect) : (r.register name dialect).find? key = r.find? key :=
  lookup_insertInto_of_ne h dialect r.entries

/-- The registered names in their order. -/
def targets (r : Registry) : List Text :=
  r.entries.map Prod.fst

/-- The registry at the start. -/
def builtIn (escapeString : Text → Text := Escaping.withBackslashes) : Registry :=
  (Dialect.builtIn escapeString).foldl (fun r d => r.register d.name d) ⟨[]⟩

/-- A compiler for the dialect under a name. -/
def create (r : Registry) (name : Text) (injected : Option Escaper) : Except Failure Compiler :=
  match r.find? name with
  | some dialect => .ok ⟨dialect, injected⟩
  | none => .error (.compilation (.unsupportedTarget name r.targets) (some name))

/-!
## Queries by a registry

A registry, a profile and an escaper make a builder, which then builds a query, renders a value or
quotes an identifier. Of several faults the first in this order is told: the profile, the escaper,
the name of the dialect, the arguments.
-/

/-- A builder for the dialect that the profile asks for. -/
def builderFor (r : Registry) (profile : Profile) (injected : Option Escaper)
    (host : Host := .usual) : Except Failure Builder :=
  (r.create profile.target injected).map (⟨·, profile, host.memory⟩)

/-- A builder for what a caller gives, with the default profile if no fields are given. -/
def builder (r : Registry) (profile : Option Fields) (escaper : EscaperSource)
    (host : Host := .usual) : Except Failure Builder := do
  let profile ← Profile.given host.validation profile
  let injected ← escaper.escaper?
  r.builderFor (profile.getD Profile.default) injected host

/-- Builds a query. -/
def query (r : Registry) (template : Text) (args : Argument) (profile : Option Fields)
    (escaper : EscaperSource) (host : Host := .usual) : Report :=
  match r.builder profile escaper host with
  | .ok b => b.buildFrom template args
  | .error failure => ⟨.error failure, []⟩

/-- Renders one value for a placeholder with the given tag. -/
def formatValue (r : Registry) (value : Argument) (tag : Text) (profile : Option Fields)
    (escaper : EscaperSource) (host : Host := .usual) : Except Failure Text := do
  (← r.builder profile escaper host).render value tag

/-- Quotes an identifier, or a list of them. -/
def quoteIdentifier (r : Registry) (value : Argument) (dialect : Text) (host : Host := .usual) :
    Except Failure Text := do
  (← r.builderFor (Profile.forTarget dialect) none host).renderIdentifier value

end Registry
end SqlTemplate
