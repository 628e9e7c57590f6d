import Mathlib.Tactic.Tauto
import SqlTemplate.Proofs.Text.Quoted
import SqlTemplate.Session

/-!
# Histories of registrations

After any registrations the registry lists each name once and in order, and finds under it the
dialect that was registered last. Nothing else is found. Of what a session does only registrations
change the registry.
-/
namespace SqlTemplate

namespace Registry

/-- The registry after some registrations, one after the other. -/
def registerAll (r : Registry) (history : List (Text × Dialect)) : Registry :=
  history.foldl (fun r entry => r.register entry.1 entry.2) r

@[simp] theorem registerAll_nil (r : Registry) : r.registerAll [] = r := rfl

@[simp] theorem registerAll_cons (r : Registry) (entry : Text × Dialect)
    (history : List (Text × Dialect)) :
    r.registerAll (entry :: history) = (r.register entry.1 entry.2).registerAll history := rfl

theorem registerAll_append (r : Registry) (first second : List (Text × Dialect)) :
    r.registerAll (first ++ second) = (r.registerAll first).registerAll second :=
  List.foldl_append

/-- The registrations at the start: every dialect that is there under its own name. -/
def startUp (escapeString : Text → Text) : List (Text × Dialect) :=
  (Dialect.builtIn escapeString).map fun d => (d.name, d)

theorem builtIn_eq_registerAll (escapeString : Text → Text) :
    builtIn escapeString = registerAll ⟨[]⟩ (startUp escapeString) := rfl

/-- The dialect that a history registers last under a name. -/
def IsLatest (history : List (Text × Dialect)) (name : Text) (d : Dialect) : Prop :=
  ∃ before after, history = before ++ (name, d) :: after ∧ name ∉ after.map Prod.fst

theorem isLatest_iff {history : List (Text × Dialect)} {name : Text} {d : Dialect} :
    IsLatest history name d ↔ history.reverse.lookup name = some d := by
  rw [List.lookup_eq_some_iff]
  constructor
  · rintro ⟨before, after, rfl, habsent⟩
    refine ⟨after.reverse, before.reverse, by simp, ?_⟩
    intro entry hentry
    have hne : name ≠ entry.1 := by
      rintro rfl
      exact habsent (List.mem_map_of_mem (List.mem_reverse.mp hentry))
    simpa using hne
  · rintro ⟨after, before, hreverse, habsent⟩
    refine ⟨before.reverse, after.reverse, ?_, ?_⟩
    · have hhistory := congrArg List.reverse hreverse
      simpa using hhistory
    · intro hmem
      obtain ⟨entry, hentry, rfl⟩ := List.mem_map.mp hmem
      simpa using habsent entry (List.mem_reverse.mp hentry)

/-- A registration is found under its name, and under other names what was there before. -/
theorem find?_registerAll (r : Registry) (history : List (Text × Dialect)) (name : Text) :
    (r.registerAll history).find? name = (history.reverse.lookup name).or (r.find? name) := by
  induction history generalizing r with
  | nil => rfl
  | cons entry history ih =>
    obtain ⟨key, d⟩ := entry
    rw [registerAll_cons, ih, List.reverse_cons, List.lookup_append, Option.or_assoc]
    by_cases hname : name = key
    · subst hname
      simp
    · rw [find?_register_of_ne r hname]
      simp [List.lookup_cons, beq_eq_false_iff_ne.mpr hname]

theorem find?_eq_some_iff_isLatest {history : List (Text × Dialect)} {name : Text} {d : Dialect} :
    (registerAll ⟨[]⟩ history).find? name = some d ↔ IsLatest history name d := by
  rw [find?_registerAll, isLatest_iff]
  simp [find?]

theorem find?_eq_none_iff {r : Registry} {name : Text} :
    r.find? name = none ↔ name ∉ r.targets := by
  rw [find?, List.lookup_eq_none_iff, targets, List.mem_map]
  constructor
  · rintro hall ⟨entry, hentry, rfl⟩
    simpa using hall entry hentry
  · intro habsent entry hentry
    have hne : name ≠ entry.1 := by
      rintro rfl
      exact habsent ⟨entry, hentry, rfl⟩
    simpa using hne

theorem mem_targets_register {r : Registry} {name key : Text} {d : Dialect} :
    key ∈ (r.register name d).targets ↔ key = name ∨ key ∈ r.targets := by
  by_cases hkey : key = name
  · subst hkey
    have hfound : (r.register key d).find? key ≠ none := by simp
    rw [ne_eq, find?_eq_none_iff, not_not] at hfound
    simp [hfound]
  · rw [or_iff_right hkey, ← not_iff_not, ← find?_eq_none_iff, ← find?_eq_none_iff,
      find?_register_of_ne r hkey]

theorem mem_targets_registerAll {r : Registry} {history : List (Text × Dialect)} {key : Text} :
    key ∈ (r.registerAll history).targets ↔ key ∈ r.targets ∨ key ∈ history.map Prod.fst := by
  induction history generalizing r with
  | nil => simp
  | cons entry history ih =>
    rw [registerAll_cons, ih, mem_targets_register, List.map_cons, List.mem_cons]
    tauto

theorem mem_keys_insertInto {name key : Text} {d : Dialect} {entries : List (Text × Dialect)} :
    key ∈ (insertInto name d entries).map Prod.fst ↔ key = name ∨ key ∈ entries.map Prod.fst :=
  mem_targets_register (r := ⟨entries⟩)

/-- A name is put in front of the first greater one, so the names stay in order. -/
theorem pairwise_insertInto (name : Text) (d : Dialect) {entries : List (Text × Dialect)}
    (h : (entries.map Prod.fst).Pairwise (· < ·)) :
    ((insertInto name d entries).map Prod.fst).Pairwise (· < ·) := by
  induction entries with
  | nil => simp [insertInto]
  | cons entry rest ih =>
    obtain ⟨key, old⟩ := entry
    obtain ⟨hkey, hrest⟩ := List.pairwise_cons.mp h
    unfold insertInto
    split
    next hlt =>
      apply List.Pairwise.cons _ h
      intro other hother
      obtain rfl | hmem := List.mem_cons.mp hother
      · exact hlt
      · exact List.lt_trans hlt (hkey other hmem)
    next hnot =>
      split
      next heq =>
        subst heq
        exact h
      next hne =>
        -- The rest may now begin with the new name, but that is greater than `key` as well.
        have hgt : key < name :=
          ((Std.lt_trichotomy name key).resolve_left hnot).resolve_left hne
        apply List.Pairwise.cons _ (ih hrest)
        intro other hother
        obtain rfl | hmem := mem_keys_insertInto.mp hother
        · exact hgt
        · exact hkey other hmem

theorem pairwise_targets_registerAll {r : Registry} (h : r.targets.Pairwise (· < ·))
    (history : List (Text × Dialect)) : (r.registerAll history).targets.Pairwise (· < ·) := by
  induction history generalizing r with
  | nil => exact h
  | cons entry history ih => exact ih (pairwise_insertInto entry.1 entry.2 h)

theorem create_of_find? {r : Registry} {name : Text} {d : Dialect} (h : r.find? name = some d)
    (injected : Option Escaper) : r.create name injected = .ok ⟨d, injected⟩ := by
  simp only [create, h]

theorem builderFor_of_find? {r : Registry} {profile : Profile} {d : Dialect}
    (h : r.find? profile.target = some d) (injected : Option Escaper) (host : Host) :
    r.builderFor profile injected host = .ok ⟨⟨d, injected⟩, profile, host.memory⟩ := by
  rw [builderFor, create_of_find? h]
  rfl

/-- A name in the listing has its latest dialect, and creation for it cannot fail. -/
theorem create_of_mem {history : List (Text × Dialect)} {name : Text}
    (h : name ∈ (registerAll ⟨[]⟩ history).targets) (injected : Option Escaper) :
    ∃ d, IsLatest history name d ∧
      (registerAll ⟨[]⟩ history).create name injected = .ok ⟨d, injected⟩ := by
  cases hfind : (registerAll ⟨[]⟩ history).find? name with
  | none => exact absurd h (find?_eq_none_iff.mp hfind)
  | some d => exact ⟨d, find?_eq_some_iff_isLatest.mp hfind, create_of_find? hfind injected⟩

theorem create_of_not_mem {r : Registry} {name : Text} (h : name ∉ r.targets)
    (injected : Option Escaper) :
    r.create name injected =
      .error (.compilation (.unsupportedTarget name r.targets) (some name)) := by
  simp only [create, find?_eq_none_iff.mpr h]

/-- The message of a refusal lists the names that there are, in quotes and in their order. -/
theorem message_unsupportedTarget (name : Text) (registered : List Text) :
    ∃ shown, Reader.quoted.list shown = some registered ∧
      (CompilationProblem.unsupportedTarget name registered).message =
        "Unsupported dialect target: '".toList ++ name ++ "'. Registered targets: [".toList ++
          shown ++ "].".toList := by
  have hmessage : (CompilationProblem.unsupportedTarget name registered).message =
      "Unsupported dialect target: '".toList ++ name ++ "'. Registered targets: ".toList ++
        Text.quotedList registered ++ ".".toList := rfl
  have hopening : "'. Registered targets: [".toList =
      "'. Registered targets: ".toList ++ ['['] := by
    decide
  refine ⟨Text.commaSeparated (registered.map Text.quoted), Reader.list_quoted registered, ?_⟩
  rw [hmessage, hopening, Text.quotedList]
  simp

/-- A registration of a dialect under a name, at once or by the registrar for the name. -/
structure Registration where
  name : Text
  dialect : Dialect
  byRegistrar : Bool

namespace Registration

/-- What is registered, however it is registered. -/
def entry (call : Registration) : Text × Dialect :=
  (call.name, call.dialect)

/-- The registry after a registration. -/
def apply (r : Registry) (call : Registration) : Registry :=
  if call.byRegistrar then ((registrar call.name call.dialect).run r).2
  else r.register call.name call.dialect

theorem apply_eq_register (r : Registry) (call : Registration) :
    call.apply r = r.register call.name call.dialect := by
  unfold apply
  split <;> rfl

theorem foldl_apply (r : Registry) (calls : List Registration) :
    calls.foldl apply r = r.registerAll (calls.map entry) := by
  induction calls generalizing r with
  | nil => rfl
  | cons call calls ih =>
    rw [List.foldl_cons, ih, List.map_cons, registerAll_cons, apply_eq_register]
    rfl

end Registration

end Registry

/-!
## Sessions
-/

/-- What a step registers. -/
def Step.registrations : Step → List (Text × Dialect)
  | .register name dialect => [(name, dialect)]
  | _ => []

namespace Session

@[simp] theorem host_write (s : Session) (record : Record) : (s.write record).host = s.host := by
  unfold write
  split <;> rfl

@[simp] theorem builders_write (s : Session) (record : Record) :
    (s.write record).builders = s.builders := by
  unfold write
  split <;> rfl

@[simp] theorem registry_write (s : Session) (record : Record) :
    (s.write record).registry = s.registry := by
  unfold write
  split <;> rfl

theorem foldl_write (s : Session) (records : List Record) :
    (records.foldl write s).host = s.host ∧
      (records.foldl write s).builders = s.builders ∧
      (records.foldl write s).registry = s.registry := by
  induction records generalizing s with
  | nil => simp
  | cons record records ih =>
    have hrest := ih (s.write record)
    simpa using hrest

@[simp] theorem host_writeEvents (s : Session) (events : List Event) :
    (s.writeEvents events).host = s.host :=
  (foldl_write s _).1

@[simp] theorem builders_writeEvents (s : Session) (events : List Event) :
    (s.writeEvents events).builders = s.builders :=
  (foldl_write s _).2.1

@[simp] theorem registry_writeEvents (s : Session) (events : List Event) :
    (s.writeEvents events).registry = s.registry :=
  (foldl_write s _).2.2

/-- A step makes a builder and changes no more, or it leaves the builders and the host alone and
changes the registry by what it registers. -/
theorem step_cases (s : Session) (step : Step) :
    (∃ id target profile escaper b, step = .builder id target profile escaper ∧
      s.namedBuilder target profile escaper = .ok b ∧
      s.step step = ({ s with builders := (id, b) :: s.builders }, .ok (.profile b.profile))) ∨
    (s.step step).1.host = s.host ∧ (s.step step).1.builders = s.builders ∧
      (s.step step).1.registry = s.registry.registerAll step.registrations := by
  cases step with
  | builder id target profile escaper =>
    cases hmade : s.namedBuilder target profile escaper with
    | ok b =>
      left
      refine ⟨id, target, profile, escaper, b, rfl, hmade, ?_⟩
      simp only [Session.step, hmade]
    | error failure =>
      right
      simp [Session.step, hmade, Step.registrations]
  | run id template args =>
    right
    cases hfind : s.find? id <;>
      simp [Session.step, hfind, answerReport, Step.registrations]
  | configure level sink =>
    right
    simp only [Session.step]
    split <;> simp [Step.registrations]
  | _ =>
    right
    simp [Session.step, answerReport, withLogger, Step.registrations]

/-- Where a session runs stays the same. -/
theorem host_step (s : Session) (step : Step) : (s.step step).1.host = s.host := by
  obtain ⟨id, target, profile, escaper, b, rfl, -, hstep⟩ | ⟨hhost, -⟩ := s.step_cases step
  · rw [hstep]
  · exact hhost

theorem host_run (s : Session) (steps : List Step) : (s.run steps).1.host = s.host := by
  induction steps generalizing s with
  | nil => rfl
  | cons first rest ih => exact (ih (s.step first).1).trans (s.host_step first)

/-- Only registrations change the registry. -/
theorem registry_step (s : Session) (step : Step) :
    (s.step step).1.registry = s.registry.registerAll step.registrations := by
  obtain ⟨id, target, profile, escaper, b, rfl, -, hstep⟩ | ⟨-, -, hregistry⟩ := s.step_cases step
  · rw [hstep]
    rfl
  · exact hregistry

theorem registry_run (s : Session) (steps : List Step) :
    (s.run steps).1.registry = s.registry.registerAll (steps.flatMap Step.registrations) := by
  induction steps generalizing s with
  | nil => rfl
  | cons first rest ih =>
    rw [List.flatMap_cons, Registry.registerAll_append, ← registry_step]
    exact ih (s.step first).1

end Session

namespace Registry

/-- The registry is a map in which the last registration under a name counts, and its listing is
faithful: in order, with the names of the start and those registered since. Creation succeeds for
the names in the listing, with the dialect registered last and the escaper that is given. It refuses
all others with a message that lists the registered names, in quotes and in their order. Whatever
else a session does, creation that is refused included, makes no difference to its registry. -/
theorem registry_finds_latest (escapeString : Text → Text) (calls : List Registration) :
    let r := calls.foldl Registration.apply (builtIn escapeString)
    r.targets.Pairwise (· < ·) ∧
      (∀ name, name ∈ r.targets ↔
        name ∈ (Dialect.builtIn escapeString).map Dialect.name ∨
          name ∈ calls.map Registration.name) ∧
      (∀ name injected,
        (name ∈ r.targets ∧
          ∃ d, IsLatest (startUp escapeString ++ calls.map Registration.entry) name d ∧
            r.create name injected = .ok ⟨d, injected⟩) ∨
        (name ∉ r.targets ∧ ∃ problem shown,
          r.create name injected = .error (.compilation problem (some name)) ∧
          problem = .unsupportedTarget name r.targets ∧
          Reader.quoted.list shown = some r.targets ∧
          problem.message =
            "Unsupported dialect target: '".toList ++ name ++ "'. Registered targets: [".toList ++
              shown ++ "].".toList)) ∧
      ∀ (host : Host) (steps : List Step), host.escapeString = escapeString →
        steps.flatMap Step.registrations = calls.map Registration.entry →
          ((Session.start host).run steps).1.registry = r := by
  intro r
  have hcalls : r = (builtIn escapeString).registerAll (calls.map Registration.entry) :=
    Registration.foldl_apply (builtIn escapeString) calls
  have hr : r = registerAll ⟨[]⟩ (startUp escapeString ++ calls.map Registration.entry) := by
    rw [registerAll_append, ← builtIn_eq_registerAll]
    exact hcalls
  refine ⟨?_, ?_, ?_, ?_⟩
  · rw [hr]
    exact pairwise_targets_registerAll .nil _
  · intro name
    rw [hr, mem_targets_registerAll]
    simp [targets, startUp, Registration.entry]
  · intro name injected
    by_cases hname : name ∈ r.targets
    · left
      rw [hr] at hname ⊢
      exact ⟨hname, create_of_mem hname injected⟩
    · right
      obtain ⟨shown, hshown, hmessage⟩ := message_unsupportedTarget name r.targets
      exact ⟨hname, _, shown, create_of_not_mem hname injected, rfl, hshown, hmessage⟩
  · rintro host steps rfl hsteps
    rw [hcalls, ← hsteps]
    exact Session.registry_run (Session.start host) steps

/-- Two new names, one of them empty and the other with a quote in it, and a name that is there from
the start, in a session that asks for a dialect that is not there. -/
theorem registry_finds_latest_quotes :
    let calls : List Registration :=
      [⟨[], .sqlite, true⟩, ⟨"it's".toList, .postgres, false⟩, ⟨"mysql".toList, .sqlite, false⟩]
    let r := calls.foldl Registration.apply (builtIn Escaping.withBackslashes)
    let steps : List Step :=
      [.register [] .sqlite, .create "oracle".toList .absent [] [],
        .register "it's".toList .postgres, .register "mysql".toList .sqlite]
    r.targets =
        [[], "it's".toList, "mysql".toList, "postgres".toList, "sqlite".toList] ∧
      r.create "mysql".toList none = .ok ⟨.sqlite, none⟩ ∧
      (∃ problem, r.create "oracle".toList none =
          .error (.compilation problem (some "oracle".toList)) ∧
        problem.message =
          ("Unsupported dialect target: 'oracle'. Registered targets: " ++
            "['', \"it's\", 'mysql', 'postgres', 'sqlite'].").toList) ∧
      ((Session.start Host.usual).run steps).1.registry = r := by
  intro calls r steps
  obtain ⟨-, -, hcreate, hsession⟩ := registry_finds_latest Escaping.withBackslashes calls
  have htargets : r.targets =
      [[], "it's".toList, "mysql".toList, "postgres".toList, "sqlite".toList] := by decide
  refine ⟨htargets, ?_, ?_, hsession Host.usual steps rfl rfl⟩
  · rfl
  · obtain ⟨hmem, -⟩ | ⟨-, problem, -, hrefused, hproblem, -⟩ := hcreate "oracle".toList none
    · exact absurd hmem (by rw [htargets]; decide)
    · refine ⟨problem, hrefused, ?_⟩
      rw [hproblem, htargets]
      decide +kernel

end Registry
end SqlTemplate
