import SqlTemplate.Failure
import SqlTemplate.Log
import SqlTemplate.Text.Uppercase

/-!
# Where records go

The loggers form a tree by their names, with dots between the parts. The library sets up the root of
its own loggers only: a level and one handler, which takes the records of all loggers below.
-/
namespace SqlTemplate

/-- Where a handler writes: to a stream of the caller, to the standard error stream, or nowhere. A
handler writes every record that it is given: it has no level and no filter of its own. -/
inductive Sink where
  | stream
  | standardError
  | nowhere
  deriving DecidableEq, Repr

/-- The state of the root logger. Its level alone decides which records its handlers are given. -/
structure Setup where
  level : Level
  handlers : List Sink
  propagates : Bool
  deriving DecidableEq, Repr

namespace Setup

/-- The root logger of a host that has turned the log off: only the gravest records are taken, and
these are written nowhere. -/
def silent : Setup := ⟨.critical, [.nowhere], false⟩

/-- Why a name in capitals that is no level's name gives none. -/
def levelProblem (name : Text) : LevelProblem :=
  if name = "BASIC_FORMAT".toList then .layout
  else if name = "_STYLES".toList then .layouts
  else .unknown name

/-- The level that a name gives, in either case of its letters. -/
def levelNamed (name : Text) : Except Failure Level :=
  let upper := Text.uppercase name
  match Level.ofName? upper with
  | some level => .ok level
  | none => .error (.level (levelProblem upper))

def withLevel (s : Setup) (level : Level) : Setup := { s with level }

def withoutHandlers (s : Setup) : Setup := { s with handlers := [] }

def withHandler (s : Setup) (sink : Sink) : Setup := { s with handlers := s.handlers ++ [sink] }

/-- Sets the level, replaces all handlers by one, and keeps records from going further up. An
unknown level changes nothing. -/
def configure (s : Setup) (level : Text) (sink : Sink) : Except Failure Setup := do
  let level ← levelNamed level
  return { (s.withLevel level).withoutHandlers.withHandler sink with propagates := false }

/-- The default level of a setup. -/
def defaultLevel : Text := "INFO".toList

end Setup

namespace Logger

/-- The name of the logger that the library gives out for a name. Names that do not start with the
root's name are put below the root. -/
def nameFor : Option Text → Text
  | none => root
  | some name => if root.isPrefixOf name then name else root ++ '.' :: name

/-- Whether the root is above a logger, whose name is given backwards. The parent of a logger is the
nearest logger made before whose name is the part in front of a dot, but of two dots in a row the
search for it sees the right one only. -/
def isBelowRoot (made : List Text) : Text → Bool
  | '.' :: c :: rest =>
    if (c :: rest).reverse = root then true
    else if (c :: rest).reverse ∈ made then isBelowRoot made (c :: rest)
    else isBelowRoot made rest
  | _ :: rest => isBelowRoot made rest
  | [] => false

/-- Whether records of a logger come to the root. -/
def reachesRoot (made : List Text) (name : Text) : Bool :=
  name = root || isBelowRoot made name.reverse

end Logger
end SqlTemplate
