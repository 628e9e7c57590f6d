import Mathlib.Data.List.Basic
import SqlTemplate.Proofs.Log.Delivery
import SqlTemplate.Proofs.Session.Insulation

/-!
# Which handler gets which records

A session shows of a handler only where it writes. Here the handlers are told apart, whatever they
are, and a session that gives the stream to one of them shows what comes to this one. What has to
come is told by a journal: of the records of each build, in order, those that the level named last
takes, with the handler that was named together with it.
-/
namespace SqlTemplate

/-- Whether a step neither sets up the log, nor writes to it or reads from it by hand. -/
def Step.leavesLog : Step → Bool
  | .configure .. | .log .. | .takeLines => false
  | _ => true

namespace Logger

/-- Whatever loggers are made, those that builds report to lead up to the root. -/
theorem reachesRoot_event (made : List Text) (e : Event) :
    reachesRoot made e.record.logger = true := by
  have hown : e.record.logger = builder ∨ e.record.logger = conditional := by
    cases e <;> simp [Event.record, Event.logger]
  have hreaches (name : Text) (hroot : root <+: name) (hdots : dots name = 1) :
      reachesRoot made name = true := by
    refine (reachesRoot_iff hroot ?_).mpr (.inr (by rw [hdots]))
    intro k hk hlt
    omega
  obtain h | h := hown
  · rw [h]
    exact hreaches _ (List.prefix_append _ _) (by decide)
  · rw [h]
    exact hreaches _ (List.prefix_append _ _) (by decide)

end Logger

namespace Session

/-- The events that a step reports, which are those of its build. -/
def reports (s : Session) : Step → List Event
  | .run id template args =>
    match s.find? id with
    | .ok b => (b.buildFrom template args).events
    | .error _ => []
  | .build template args profile escaper =>
    (s.registry.query template args profile escaper s.host).events
  | _ => []

theorem stream_write_event {s : Session} {own : Level} {sink : Sink}
    (hsetup : s.setup = .single own sink) (e : Event) :
    (s.write e.record).stream =
      s.stream ++ if sink = .stream then Event.recordsFrom own [e] else [] := by
  unfold write
  rw [Logger.reachesRoot_event, hsetup]
  cases htakes : own.takes e.record.level <;> cases sink <;>
    simp [Setup.single, Event.recordsFrom, htakes]

/-- A handler that is alone gets the records that the level takes, each of them once, in order. -/
theorem stream_writeEvents {s : Session} {own : Level} {sink : Sink}
    (hsetup : s.setup = .single own sink) (events : List Event) :
    (s.writeEvents events).stream =
      s.stream ++ if sink = .stream then Event.recordsFrom own events else [] := by
  induction events generalizing s with
  | nil => simp [writeEvents, Event.recordsFrom]
  | cons e events ih =>
    have hrest : (s.writeEvents (e :: events)).stream =
        (s.write e.record).stream ++ if sink = .stream then Event.recordsFrom own events else [] :=
      ih (by rw [setup_write, hsetup])
    have hcons : Event.recordsFrom own (e :: events) =
        Event.recordsFrom own [e] ++ Event.recordsFrom own events :=
      List.filter_append [e.record] (events.map Event.record)
    rw [hrest, stream_write_event hsetup, hcons, List.append_assoc]
    split_ifs <;> rfl

theorem stream_step_of_leavesLog (s : Session) {step : Step} (h : step.leavesLog = true) :
    (s.step step).1.stream = (s.writeEvents (s.reports step)).stream := by
  cases step with
  | configure | log | takeLines => cases h
  | run id template args =>
    simp only [Session.step, reports]
    cases s.find? id <;> rfl
  | builder id target profile escaper =>
    simp only [Session.step]
    cases s.namedBuilder target profile escaper <;> rfl
  | _ => rfl

theorem builders_step_of_ne {s : Session} {step : Step}
    (h : ∀ id target profile escaper, step ≠ .builder id target profile escaper) :
    (s.step step).1.builders = s.builders := by
  obtain ⟨id, target, profile, escaper, b, hstep, -⟩ | ⟨-, hbuilders, -⟩ := s.step_cases step
  · exact absurd hstep (h id target profile escaper)
  · exact hbuilders

/-- A call in a session whose handlers are told apart. It sets up the log with a handler, or it
leaves the log to the builds. -/
inductive Call (Handler : Type) where
  | configure (level : Option Text) (handler : Handler)
  | other (step : Step) (leavesLog : step.leavesLog = true)

variable {Handler : Type}

namespace Call

/-- The step of a call, if it is known where each handler writes. -/
def step (sink : Handler → Sink) : Call Handler → Step
  | configure level handler => .configure level (sink handler)
  | other step _ => step

/-- The level and the handler that a call sets, if it names a level. -/
def installed? : Call Handler → Option (Level × Handler)
  | configure level handler =>
    (Level.ofName? (Text.uppercase (level.getD Setup.defaultLevel))).map fun l => (l, handler)
  | other .. => none

theorem installed?_step (sink : Handler → Sink) (call : Call Handler) :
    (call.step sink).installed? = call.installed?.map fun c => (c.1, sink c.2) := by
  cases call with
  | configure level handler =>
    simp only [step, Step.installed?, Setup.levelNamed, installed?]
    cases Level.ofName? (Text.uppercase (level.getD Setup.defaultLevel)) <;> rfl
  | other step leavesLog =>
    cases step with
    | configure => cases leavesLog
    | _ => rfl

end Call

/-- Two sessions in the same place that have the same dialects and builders. -/
structure SameBuilders (s t : Session) : Prop where
  host : s.host = t.host
  registry : s.registry = t.registry
  builders : s.builders = t.builders

namespace SameBuilders

theorem reports_eq {s t : Session} (h : s.SameBuilders t) (sink other : Handler → Sink)
    (call : Call Handler) : s.reports (call.step sink) = t.reports (call.step other) := by
  cases call with
  | configure => rfl
  | other step =>
    cases step <;> simp only [Call.step, reports, find?, h.host, h.registry, h.builders]

/-- Where the handlers write makes no difference to the builders. -/
theorem step {s t : Session} (h : s.SameBuilders t) (sink other : Handler → Sink)
    (call : Call Handler) :
    (s.step (call.step sink)).1.SameBuilders (t.step (call.step other)).1 := by
  cases call with
  | configure level handler =>
    refine ⟨by rw [host_step, host_step, h.host], ?_, ?_⟩
    · rw [registry_step, registry_step, h.registry]
      rfl
    · rw [builders_step_of_ne (by simp [Call.step]), builders_step_of_ne (by simp [Call.step]),
        h.builders]
  | other step leavesLog =>
    refine ⟨by rw [host_step, host_step, h.host],
      by simp only [Call.step, registry_step, h.registry], ?_⟩
    cases step with
    | builder id target profile escaper =>
      have hnamed : s.namedBuilder target profile escaper =
          t.namedBuilder target profile escaper := by
        rw [namedBuilder, namedBuilder, h.registry, h.host]
      simp only [Call.step, Session.step, hnamed]
      cases t.namedBuilder target profile escaper <;> simp [h.builders]
    | _ =>
      rw [builders_step_of_ne (by simp [Call.step]), builders_step_of_ne (by simp [Call.step]),
        h.builders]

end SameBuilders

/-- The session after some calls, if it is known where each handler writes. -/
def after (s : Session) (sink : Handler → Sink) (calls : List (Call Handler)) : Session :=
  (s.run (calls.map (Call.step sink))).1

theorem after_singleton (s : Session) (sink : Handler → Sink) (call : Call Handler) :
    s.after sink [call] = (s.step (call.step sink)).1 := rfl

theorem after_append (s : Session) (sink : Handler → Sink) (before calls : List (Call Handler)) :
    s.after sink (before ++ calls) = (s.after sink before).after sink calls := by
  induction before generalizing s with
  | nil => rfl
  | cons call before ih => exact ih _

theorem sameBuilders_after {s t : Session} (h : s.SameBuilders t) (sink other : Handler → Sink)
    (calls : List (Call Handler)) : (s.after sink calls).SameBuilders (t.after other calls) := by
  induction calls generalizing s t with
  | nil => exact h
  | cons call calls ih => exact ih (h.step sink other call)

/-- The level and the handler of the last call that names a level. -/
def lastInstalled? (calls : List (Call Handler)) : Option (Level × Handler) :=
  (calls.filterMap Call.installed?).getLast?

theorem lastInstalled?_append (before calls : List (Call Handler)) :
    lastInstalled? (before ++ calls) = (lastInstalled? calls).or (lastInstalled? before) := by
  rw [lastInstalled?, List.filterMap_append, List.getLast?_append]
  rfl

/-- The last call that names a level leaves its level and its handler. -/
theorem setup_after {s : Session} {before : List (Call Handler)} {level : Level}
    {handler : Handler} (h : lastInstalled? before = some (level, handler))
    (sink : Handler → Sink) : (s.after sink before).setup = .single level (sink handler) := by
  have hinstalled : (before.map (Call.step sink)).filterMap Step.installed? =
      (before.filterMap Call.installed?).map fun c => (c.1, sink c.2) := by
    rw [List.filterMap_map, List.map_filterMap]
    exact List.filterMap_congr fun call _ => Call.installed?_step sink call
  have hlast : (before.filterMap Call.installed?).getLast? = some (level, handler) := h
  rw [after, setup_run, hinstalled, List.getLast?_map, hlast]
  rfl

/-- What a call reports after some others. It is the same wherever the handlers write, so they may
as well write nowhere. -/
def reported (s : Session) (before : List (Call Handler)) (call : Call Handler) : List Event :=
  (s.after (fun _ => .nowhere) before).reports (call.step fun _ => .nowhere)

theorem reports_after (s : Session) (sink : Handler → Sink) (before : List (Call Handler))
    (call : Call Handler) :
    (s.after sink before).reports (call.step sink) = s.reported before call :=
  (sameBuilders_after ⟨rfl, rfl, rfl⟩ _ _ before).reports_eq _ _ call

/-- The records of a call after some others, as far as the level in force takes them, each with the
handler in force. -/
def due (s : Session) (before : List (Call Handler)) (call : Call Handler) :
    List (Handler × Record) :=
  match lastInstalled? before with
  | some (level, handler) =>
    (Event.recordsFrom level (s.reported before call)).map fun r => (handler, r)
  | none => []

/-- What is due at some calls after others, call by call. -/
def journal (s : Session) (before : List (Call Handler)) :
    List (Call Handler) → List (Handler × Record)
  | [] => []
  | call :: calls => s.due before call ++ s.journal (before ++ [call]) calls

/-- What a journal has for the handlers that write to the stream. -/
def streamPart (sink : Handler → Sink) (journal : List (Handler × Record)) : List Record :=
  (journal.filter fun entry => sink entry.1 = .stream).map Prod.snd

theorem streamPart_append (sink : Handler → Sink) (journal more : List (Handler × Record)) :
    streamPart sink (journal ++ more) = streamPart sink journal ++ streamPart sink more := by
  rw [streamPart, List.filter_append, List.map_append]
  rfl

theorem streamPart_map (sink : Handler → Sink) (handler : Handler) (records : List Record) :
    streamPart sink (records.map fun r => (handler, r)) =
      if sink handler = .stream then records else [] := by
  by_cases hsink : sink handler = .stream <;>
    simp [streamPart, List.filter_map, Function.comp_def, hsink]

theorem stream_step_call {s : Session} {own : Level} {current : Sink}
    (hsetup : s.setup = .single own current) (sink : Handler → Sink) (call : Call Handler) :
    (s.step (call.step sink)).1.stream =
      s.stream ++
        if current = .stream then Event.recordsFrom own (s.reports (call.step sink)) else [] := by
  cases call with
  | configure level handler =>
    have hkept : (s.step (.configure level (sink handler))).1.stream = s.stream := by
      simp only [Session.step]
      split <;> rfl
    rw [Call.step, hkept]
    simp [reports, Event.recordsFrom]
  | other step leavesLog =>
    rw [Call.step, stream_step_of_leavesLog s leavesLog, stream_writeEvents hsetup]

/-- What one more call writes to the stream is what is due at it. -/
theorem stream_after_call {s : Session} {before : List (Call Handler)}
    (h : (lastInstalled? before).isSome) (sink : Handler → Sink) (call : Call Handler) :
    (s.after sink (before ++ [call])).stream =
      (s.after sink before).stream ++ streamPart sink (s.due before call) := by
  obtain ⟨⟨level, handler⟩, hlast⟩ := Option.isSome_iff_exists.mp h
  rw [after_append, after_singleton, stream_step_call (setup_after hlast sink), reports_after, due,
    hlast]
  dsimp only
  rw [streamPart_map]

theorem stream_after_append {s : Session} {before : List (Call Handler)}
    (h : (lastInstalled? before).isSome) (sink : Handler → Sink) (calls : List (Call Handler)) :
    (s.after sink (before ++ calls)).stream =
      (s.after sink before).stream ++ streamPart sink (s.journal before calls) := by
  induction calls generalizing before with
  | nil => simp [journal, streamPart]
  | cons call calls ih =>
    -- Whatever the call is, a level has been named before it, so one has been named after it.
    have hmore : (lastInstalled? (before ++ [call])).isSome := by
      rw [lastInstalled?_append, Option.isSome_or, h, Bool.or_true]
    calc (s.after sink (before ++ call :: calls)).stream
        = (s.after sink (before ++ [call] ++ calls)).stream := by rw [List.append_assoc]; rfl
      _ = (s.after sink before).stream ++ streamPart sink (s.due before call) ++
            streamPart sink (s.journal (before ++ [call]) calls) := by
          rw [ih hmore, stream_after_call h]
      _ = (s.after sink before).stream ++ streamPart sink (s.journal before (call :: calls)) := by
          rw [journal, streamPart_append, List.append_assoc]

/-- Setting up the log again and again duplicates, loses and half-applies nothing. A call that names
a level replaces the set-up as a whole, and one that does not is refused and changes nothing. So
after any calls the root has the level and the handler of the last call that named a level, no other
handler, and no way further up. And of all that is built from the first such call on, each record
that the level in force takes is written once and in order, to the handler in force: wherever the
handlers write, the stream gets what the journal has for those on it. -/
theorem log_keeps_journal (s : Session) (sink : Handler → Sink) :
    (∀ (name : Option Text) (handler : Handler) (level : Level),
      Level.ofName? (Text.uppercase (name.getD Setup.defaultLevel)) = some level →
        let setup : Setup := ⟨level, [sink handler], false⟩
        s.step ((Call.configure name handler).step sink) = ({ s with setup }, .ok (.setup setup))) ∧
    (∀ (name : Option Text) (handler : Handler),
      Level.ofName? (Text.uppercase (name.getD Setup.defaultLevel)) = none →
        ∃ problem, s.step ((Call.configure name handler).step sink) =
          (s, .error (.level problem))) ∧
    ∀ (before : List (Call Handler)) (level : Level) (handler : Handler),
      lastInstalled? before = some (level, handler) →
        (s.after sink before).setup = ⟨level, [sink handler], false⟩ ∧
        ∀ calls, (s.after sink (before ++ calls)).stream =
          (s.after sink before).stream ++ streamPart sink (s.journal before calls) := by
  refine ⟨?_, ?_, ?_⟩
  · intro name handler level hname setup
    simp only [Call.step, Session.step, Setup.configure_eq, Setup.levelNamed, hname]
    rfl
  · intro name handler hname
    refine ⟨Setup.levelProblem (Text.uppercase (name.getD Setup.defaultLevel)), ?_⟩
    simp only [Call.step, Session.step, Setup.configure_eq, Setup.levelNamed, hname]
    rfl
  · intro before level handler hlast
    refine ⟨setup_after hlast sink, ?_⟩
    exact stream_after_append (by rw [hlast]; rfl) sink

/-- The second of three handlers gives way to the third, which takes only warnings since it comes
without a level of its own. The calls that name no level come to nothing. -/
theorem log_keeps_journal_turns :
    let onStream (shown handler : Fin 3) : Sink := if handler = shown then .stream else .nowhere
    let build (template : Text) (args : List Argument) : Call (Fin 3) :=
      .other (.build template (.sequence .list args) none .absent) rfl
    let before : List (Call (Fin 3)) := [.configure (some "loud".toList) 0,
      .configure (some "Debug".toList) 1, .other (.loggerName (some "stitchql.compile".toList)) rfl,
      .configure (some "_styles".toList) 2]
    let calls : List (Call (Fin 3)) := [build "?d\x7b, ?d\x7d".toList [.bool true, .skip],
      .configure (some "notset".toList) 2, build "?d".toList [], .configure (some []) 0,
      build "?d".toList [.text ['x']]]
    Level.ofName? (Text.uppercase "Debug".toList) = some .debug ∧
      (start.step (.configure (some "Debug".toList) .stream)).1.setup =
        ⟨.debug, [.stream], false⟩ ∧
      Level.ofName? (Text.uppercase "loud".toList) = none ∧
      (∃ problem, start.step (.configure (some "loud".toList) .stream) =
        (start, .error (.level problem))) ∧
      lastInstalled? before = some (.debug, 1) ∧
      (∀ shown, (start.after (onStream shown) before).setup = ⟨.debug, [onStream shown 1], false⟩) ∧
      (start.after (onStream 0) (before ++ calls)).stream = [] ∧
      (start.after (onStream 1) (before ++ calls)).stream =
        [⟨.debug, Logger.builder,
          "Compiling template with 2 placeholder(s) and 2 argument(s)".toList⟩,
         ⟨.debug, Logger.conditional, "Dropped 1 conditional fragment(s)".toList⟩] ∧
      (start.after (onStream 2) (before ++ calls)).stream =
        [⟨.warning, Logger.builder, ("Template has 1 placeholder(s) but only 0 argument(s); " ++
          "missing values render as NULL").toList⟩] := by
  intro onStream build before calls
  have hdebug : Level.ofName? (Text.uppercase "Debug".toList) = some .debug := by decide
  have hloud : Level.ofName? (Text.uppercase "loud".toList) = none := by decide
  have hlast : lastInstalled? before = some (.debug, 1) := by decide
  obtain ⟨hset, hrefused, -⟩ := log_keeps_journal start (onStream 0)
  have hkept (shown : Fin 3) := (log_keeps_journal start (onStream shown)).2.2 before .debug 1 hlast
  refine ⟨hdebug, congrArg (fun done => done.1.setup) (hset (some _) 0 .debug hdebug), hloud,
    hrefused (some _) 0 hloud, hlast, fun shown => (hkept shown).1, ?_, ?_, ?_⟩
  · exact ((hkept 0).2 calls).trans (by decide +kernel)
  · exact ((hkept 1).2 calls).trans (by decide +kernel)
  · exact ((hkept 2).2 calls).trans (by decide +kernel)

end Session
end SqlTemplate
