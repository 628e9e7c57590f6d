import SqlTemplate.Numeral

/-!
# Log records

The library reports what a build does as events. An event becomes a record with a level, the name of
a logger and a message; levels are ordered by rank.
-/
namespace SqlTemplate

/-- The levels of records and loggers. A logger that is not set has the level of its parent. -/
inductive Level where
  | notSet
  | debug
  | info
  | warning
  | error
  | critical
  deriving DecidableEq, Repr

namespace Level

def rank : Level → Nat
  | notSet => 0
  | debug => 10
  | info => 20
  | warning => 30
  | error => 40
  | critical => 50

def name : Level → Text
  | notSet => "NOTSET".toList
  | debug => "DEBUG".toList
  | info => "INFO".toList
  | warning => "WARNING".toList
  | error => "ERROR".toList
  | critical => "CRITICAL".toList

def all : List Level :=
  [notSet, debug, info, warning, error, critical]

/-- The level of a name. Two levels have a second name. -/
def ofName? (t : Text) : Option Level :=
  if t = "WARN".toList then some warning
  else if t = "FATAL".toList then some critical
  else all.find? (·.name = t)

/-- The level that a logger has without one of its own. -/
def inherited : Level := warning

/-- The level from which on a logger with the given level takes records. -/
def threshold (level : Level) : Level :=
  if level = notSet then inherited else level

/-- Whether a logger with its own level takes records of a level. -/
def takes (own level : Level) : Bool :=
  own.threshold.rank ≤ level.rank

@[simp] theorem takes_notSet (level : Level) : notSet.takes level = warning.takes level := rfl

/-- A record without a level is never taken. -/
@[simp] theorem takes_of_notSet (own : Level) : own.takes notSet = false := by
  cases own <;> rfl

end Level

/-- A record as it is written. -/
structure Record where
  level : Level
  logger : Text
  message : Text
  deriving DecidableEq, Repr

namespace Record

/-- The text of a record. -/
def text (r : Record) : Text :=
  r.level.name ++ '|' :: r.logger ++ '|' :: r.message

/-- The lines of a record, of which there are several if a line feed stands in its text. No other
character ends a line. -/
def lines (r : Record) : List Text :=
  r.text.splitOn '\n'

/-- The lines hold all of the text. -/
theorem intercalate_lines (r : Record) : ['\n'].intercalate r.lines = r.text :=
  List.intercalate_splitOn '\n'

end Record

namespace Logger

/-- The logger that all of the library's loggers are below. -/
def root : Text := "stitchql".toList

/-- The logger of what happens to placeholders. -/
def builder : Text := root ++ ".compile.builder".toList

/-- The logger of what happens to fragments. -/
def conditional : Text := root ++ ".compile.conditional".toList

end Logger

/-- What a build reports. -/
inductive Event where
  | missingArguments (placeholders arguments : Nat)
  | extraArguments (count : Nat)
  | compiling (placeholders arguments : Nat)
  | placeholderFailed (text : Text) (index offset : Nat) (message : Text)
  | fragmentsDropped (count : Nat)
  deriving DecidableEq, Repr

namespace Event

def level : Event → Level
  | missingArguments .. => .warning
  | _ => .debug

def logger : Event → Text
  | fragmentsDropped _ => Logger.conditional
  | _ => Logger.builder

def message : Event → Text
  | missingArguments placeholders arguments =>
    "Template has ".toList ++ Numeral.ofNat placeholders ++ " placeholder(s) but only ".toList ++
      Numeral.ofNat arguments ++ " argument(s); missing values render as NULL".toList
  | extraArguments count =>
    "Ignoring ".toList ++ Numeral.ofNat count ++ " extra argument(s)".toList
  | compiling placeholders arguments =>
    "Compiling template with ".toList ++ Numeral.ofNat placeholders ++ " placeholder(s) and ".toList ++
      Numeral.ofNat arguments ++ " argument(s)".toList
  | placeholderFailed text index offset message =>
    "Placeholder ".toList ++ text ++ " #".toList ++ Numeral.ofNat index ++ " at offset ".toList ++
      Numeral.ofNat offset ++ " failed: ".toList ++ message
  | fragmentsDropped count =>
    "Dropped ".toList ++ Numeral.ofNat count ++ " conditional fragment(s)".toList

/-- The record of an event. -/
def record (e : Event) : Record :=
  ⟨e.level, e.logger, e.message⟩

/-- The records of some events that a logger with the given level takes. -/
def recordsFrom (level : Level) (events : List Event) : List Record :=
  (events.map record).filter (level.takes ·.level)

end Event
end SqlTemplate
