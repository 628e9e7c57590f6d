import SqlTemplate.Log.Setup
import SqlTemplate.Registry

/-!
# Sessions

A session runs steps that share a registry of dialects, builders under names, and the set-up of the
log. A step that fails leaves all of these as they were; what it logged on the way stays logged.
-/
namespace SqlTemplate

/-- The state that the steps of a session share: where it runs, the dialects, the builders, the root
logger, the names of the loggers made so far, and the records written to the stream. -/
structure Session where
  host : Host
  registry : Registry
  builders : List (Text × Builder)
  setup : Setup
  loggers : List Text
  stream : List Record

/-- A step of a session. Escapers and profiles are given as what they are made from. -/
inductive Step where
  | register (name : Text) (dialect : Dialect)
  | targets
  | create (name : Text) (escaper : EscaperSource) (identifier text : Text)
  | builder (id target : Text) (profile : Option Fields) (escaper : EscaperSource)
  | run (id template : Text) (args : Argument)
  | format (id : Text) (value : Argument) (tag : Text)
  | build (template : Text) (args : Argument) (profile : Option Fields) (escaper : EscaperSource)
  | identifier (value : Argument) (dialect : Text)
  | configure (level : Option Text) (sink : Sink)
  | setup
  | takeLines
  | log (logger : Option Text) (level : Level) (message : Text)
  | loggerName (name : Option Text)

/-- What a step answers. -/
inductive Answer where
  | registered
  | names (names : List Text)
  | compiler (dialect identifier escaped quoted : Text)
  | profile (profile : Profile)
  | text (text : Text)
  | setup (setup : Setup)
  | logged

namespace Session

/-- The session at the start, with the log turned off. -/
def start (host : Host := .usual) : Session :=
  ⟨host, Registry.builtIn host.escapeString, [], Setup.silent,
    [Logger.builder, Logger.conditional], []⟩

/-- Writes a record to the stream of each handler that has it, if it comes so far. -/
def write (s : Session) (record : Record) : Session :=
  if Logger.reachesRoot s.loggers record.logger && s.setup.level.takes record.level then
    let streams := s.setup.handlers.filter (· == .stream)
    { s with stream := s.stream ++ streams.map fun _ => record }
  else s

/-- Writes the records of some events. -/
def writeEvents (s : Session) (events : List Event) : Session :=
  (events.map Event.record).foldl write s

/-- Remembers that a logger was made. -/
def withLogger (s : Session) (name : Text) : Session :=
  { s with loggers := name :: s.loggers }

/-- The builder under a name. -/
def find? (s : Session) (id : Text) : Except Failure Builder :=
  match s.builders.lookup id with
  | some b => .ok b
  | none => .error (.unknownBuilder id)

/-- The answer to a report, after its events are written. -/
def answerReport (s : Session) (report : Report) : Session × Except Failure Answer :=
  (s.writeEvents report.events, report.outcome.map .text)

/-- What a new compiler shows of itself. -/
def describe (c : Compiler) (identifier text : Text) : Except Failure Answer := do
  let identifier ← c.quoteIdentifier identifier
  let escaped ← c.escape text
  let quoted ← c.quoteString text
  return .compiler c.dialect.name identifier escaped quoted

/-- The builder that a step asks for. Without a profile it has the default profile for the dialect's
own name. -/
def namedBuilder (s : Session) (target : Text) (profile : Option Fields)
    (escaper : EscaperSource) : Except Failure Builder := do
  let compiler ← s.registry.create target (← escaper.escaper?)
  let profile ← Profile.given s.host.validation profile
  return ⟨compiler, profile.getD (Profile.forTarget compiler.dialect.name), s.host.memory⟩

/-- The session after a step, and the answer to it. -/
def step (s : Session) : Step → Session × Except Failure Answer
  | .register name dialect =>
    ({ s with registry := s.registry.register name dialect }, .ok .registered)
  | .targets => (s, .ok (.names s.registry.targets))
  | .create name escaper identifier text =>
    (s, do
      let compiler ← s.registry.create name (← escaper.escaper?)
      describe compiler identifier text)
  | .builder id target profile escaper =>
    match s.namedBuilder target profile escaper with
    | .ok b => ({ s with builders := (id, b) :: s.builders }, .ok (.profile b.profile))
    | .error failure => (s, .error failure)
  | .run id template args =>
    match s.find? id with
    | .ok b => s.answerReport (b.buildFrom template args)
    | .error failure => (s, .error failure)
  | .format id value tag => (s, do return .text (← (← s.find? id).render value tag))
  | .build template args profile escaper =>
    s.answerReport (s.registry.query template args profile escaper s.host)
  | .identifier value dialect => (s, (s.registry.quoteIdentifier value dialect s.host).map .text)
  | .configure level sink =>
    match s.setup.configure (level.getD Setup.defaultLevel) sink with
    | .ok setup => ({ s with setup }, .ok (.setup setup))
    | .error failure => (s, .error failure)
  | .setup => (s, .ok (.setup s.setup))
  | .takeLines => ({ s with stream := [] }, .ok (.names (s.stream.flatMap Record.lines)))
  | .log logger level message =>
    let name := Logger.nameFor logger
    ((s.withLogger name).write ⟨level, name, message⟩, .ok .logged)
  | .loggerName name =>
    let name := Logger.nameFor name
    (s.withLogger name, .ok (.text name))

/-- The session after some steps, and the answers to them. -/
def run (s : Session) : List Step → Session × List (Except Failure Answer)
  | [] => (s, [])
  | first :: rest =>
    let after := s.step first
    let others := run after.1 rest
    (others.1, after.2 :: others.2)

end Session
end SqlTemplate
