import Mathlib.Data.List.Induction
import Mathlib.Data.Nat.Init
import SqlTemplate.Session

/-!
# The set-up of the log and its records

Which calls decide where records go, and which records go there.

## How the log comes to its set-up

A call that names a level replaces the set-up as a whole, whatever it was: its own level, its own
handler and no other, and no way further up. Any other call, and any other step, leaves the set-up
as it is. So the last call that names a level decides.
-/
namespace SqlTemplate

namespace Setup

/-- A level and one handler, and no way further up. -/
def single (level : Level) (sink : Sink) : Setup :=
  ⟨level, [sink], false⟩

theorem configure_eq (s : Setup) (level : Text) (sink : Sink) :
    s.configure level sink = (levelNamed level).map fun l => single l sink := by
  rw [configure]
  cases levelNamed level <;> rfl

end Setup

/-- The level and the handler that a step sets, if it names a level. -/
def Step.installed? : Step → Option (Level × Sink)
  | .configure level sink =>
    (Setup.levelNamed (level.getD Setup.defaultLevel)).toOption.map fun l => (l, sink)
  | _ => none

namespace Session

@[simp] theorem setup_write (s : Session) (record : Record) : (s.write record).setup = s.setup := by
  unfold write
  split <;> rfl

@[simp] theorem setup_writeEvents (s : Session) (events : List Event) :
    (s.writeEvents events).setup = s.setup := by
  rw [writeEvents]
  induction events.map Event.record generalizing s with
  | nil => rfl
  | cons record records ih => rw [List.foldl_cons, ih, setup_write]

theorem setup_step (s : Session) (step : Step) :
    (s.step step).1.setup = (step.installed?.map fun c => Setup.single c.1 c.2).getD s.setup := by
  cases step with
  | configure level sink =>
    simp only [Session.step, Setup.configure_eq, Step.installed?]
    cases Setup.levelNamed (level.getD Setup.defaultLevel) <;> rfl
  | builder id target profile escaper =>
    simp only [Session.step, Step.installed?]
    cases s.namedBuilder target profile escaper <;> rfl
  | run id template args =>
    simp only [Session.step, Step.installed?]
    cases s.find? id with
    | ok b => exact setup_writeEvents s _
    | error failure => rfl
  | build template args profile escaper => exact setup_writeEvents s _
  | log logger level message => exact setup_write _ _
  | _ => rfl

/-- The last step that names a level leaves its set-up, and so does the start if there is none. -/
theorem setup_run (s : Session) (steps : List Step) :
    (s.run steps).1.setup =
      ((steps.filterMap Step.installed?).getLast?.map fun c => Setup.single c.1 c.2).getD
        s.setup := by
  induction steps generalizing s with
  | nil => rfl
  | cons step steps ih =>
    rw [run, ih, setup_step, List.filterMap_cons]
    cases step.installed? with
    | none => rfl
    | some c =>
      rw [List.getLast?_cons]
      cases (steps.filterMap Step.installed?).getLast? <;> rfl

end Session

/-!
## Which records come to the handler

A logger is below the root if the root's name and a dot begin its name. Names that begin with the
root's name are taken as they are, so a name that goes on with anything but a dot gives a logger
outside, whose records are lost. Of the loggers inside, those whose records come to the root's
handler are told by the dots right behind the root's name: an odd number of them leads up to the
root, an even one past it.
-/

namespace Logger

/-- The root or a logger below it. -/
def IsNamespaced (name : Text) : Prop :=
  name = root ∨ root ++ ['.'] <+: name

/-- The number of dots right behind the root's name. -/
def dots (name : Text) : ℕ :=
  ((name.drop root.length).takeWhile (· == '.')).length

theorem dots_append_replicate (k : ℕ) : dots (root ++ List.replicate k '.') = k := by
  simp [dots]

/-- The root's name, the dots behind it, and a rest that begins otherwise. -/
theorem exists_of_root_prefix {name : Text} (h : root <+: name) :
    ∃ rest, rest.head? ≠ some '.' ∧ name = root ++ (List.replicate (dots name) '.' ++ rest) := by
  obtain ⟨behind, rfl⟩ := h
  refine ⟨behind.dropWhile (· == '.'), ?_, ?_⟩
  · intro hhead
    have hnot := List.head?_dropWhile_not (· == '.') behind
    rw [hhead] at hnot
    exact absurd hnot (by decide)
  · have hdots : behind.takeWhile (· == '.') = List.replicate (dots (root ++ behind)) '.' := by
      rw [dots, List.drop_left, List.eq_replicate_iff]
      have hall : (behind.takeWhile (· == '.')).all (· == '.') = true := List.all_takeWhile
      exact ⟨rfl, fun c hc => by simpa using List.all_eq_true.mp hall c hc⟩
    rw [← hdots, List.takeWhile_append_dropWhile]

theorem root_prefix_nameFor (name : Option Text) : root <+: nameFor name := by
  cases name with
  | none => exact List.prefix_rfl
  | some name =>
    rw [nameFor]
    split
    · exact List.isPrefixOf_iff_prefix.mp ‹_›
    · exact List.prefix_append _ _

/-- Every name gives a logger of the library, unless it goes on behind the root's name with
anything but a dot. -/
theorem isNamespaced_nameFor_iff (name : Option Text) :
    IsNamespaced (nameFor name) ↔ ¬∃ c rest, name = some (root ++ c :: rest) ∧ c ≠ '.' := by
  have hoff (c : Char) (rest : Text) : IsNamespaced (root ++ c :: rest) ↔ c = '.' := by
    simp [IsNamespaced, List.prefix_append_right_inj, List.cons_prefix_cons, eq_comm]
  cases name with
  | none => simp [nameFor, IsNamespaced]
  | some name =>
    rw [nameFor]
    split
    · rename_i hprefix
      obtain ⟨behind, rfl⟩ := List.isPrefixOf_iff_prefix.mp hprefix
      cases behind with
      | nil => simp [IsNamespaced]
      | cons c rest => simp [hoff]
    · rename_i hprefix
      rw [hoff]
      simp only [Option.some.injEq, not_exists, not_and, true_iff]
      rintro c rest rfl
      exact absurd (List.isPrefixOf_iff_prefix.mpr (List.prefix_append _ _)) hprefix

theorem isBelowRoot_cons_of_ne (made : List Text) {c : Char} (hc : c ≠ '.') (rest : Text) :
    isBelowRoot made (c :: rest) = isBelowRoot made rest := by
  rw [isBelowRoot]
  rintro _ _ rfl
  exact absurd rfl hc

/-- The search for the root passes what does not begin with a dot, whatever was made. -/
theorem isBelowRoot_append (made : List Text) {front : Text} (hfront : root.length ≤ front.length)
    (rest : Text) (hrest : rest.getLast? ≠ some '.') :
    isBelowRoot made (rest ++ front) = isBelowRoot made front := by
  induction rest using List.twoStepInduction with
  | nil => rfl
  | singleton c => exact isBelowRoot_cons_of_ne made (by simpa using hrest) front
  | cons_cons d c rest ih ihcons =>
    rw [List.getLast?_cons_cons] at hrest
    have hcons := ihcons c hrest
    by_cases hd : d = '.'
    · subst hd
      have hroot : (c :: (rest ++ front)).reverse ≠ root := by
        intro heq
        have hlength := congrArg List.length heq
        simp only [List.length_reverse, List.length_cons, List.length_append] at hlength
        omega
      have hskip : isBelowRoot made (rest ++ front) = isBelowRoot made front := by
        refine ih fun hlast => hrest ?_
        rw [List.getLast?_cons, hlast]
        rfl
      rw [List.cons_append, List.cons_append, isBelowRoot, if_neg hroot, ← List.cons_append, hcons,
        hskip, ite_self]
    · rw [List.cons_append, isBelowRoot_cons_of_ne made hd, hcons]

/-- Of the dots behind the root's name the search takes two at a time, unless a logger was made in
between. -/
theorem isBelowRoot_replicate {made : List Text} (k : ℕ)
    (hmade : ∀ j, 0 < j → j < k → root ++ List.replicate j '.' ∉ made) :
    isBelowRoot made (List.replicate k '.' ++ root.reverse) = decide (k % 2 = 1) := by
  induction k using Nat.twoStepInduction with
  | zero => rfl
  | one => rfl
  | more k ih _ =>
    have hback : ('.' :: (List.replicate k '.' ++ root.reverse)).reverse =
        root ++ List.replicate (k + 1) '.' := by
      simp [List.replicate_succ']
    have hroot : root ++ List.replicate (k + 1) '.' ≠ root := by simp
    have hstep := ih fun j hj hjk => hmade j hj (by omega)
    rw [List.replicate_succ, List.replicate_succ, List.cons_append, List.cons_append, isBelowRoot,
      hback, if_neg hroot, if_neg (hmade (k + 1) (by omega) (by omega)), hstep, Nat.add_mod_right]

/-- Records come to the root from itself and from below an odd number of dots. -/
theorem reachesRoot_iff {made : List Text} {name : Text} (hroot : root <+: name)
    (hmade : ∀ k, 0 < k → k < dots name → root ++ List.replicate k '.' ∉ made) :
    reachesRoot made name = true ↔ name = root ∨ dots name % 2 = 1 := by
  obtain ⟨rest, hrest, hname⟩ := exists_of_root_prefix hroot
  have hreverse : name.reverse = rest.reverse ++ (List.replicate (dots name) '.' ++ root.reverse) := by
    simpa using congrArg List.reverse hname
  rw [reachesRoot, Bool.or_eq_true, decide_eq_true_eq, hreverse,
    isBelowRoot_append made (by simp) _ (by simpa using hrest), isBelowRoot_replicate _ hmade,
    decide_eq_true_eq]

end Logger

namespace Session

/-- A record that the handler's level takes is written once, to the stream that is the handler's
alone, if its logger leads up to the root. -/
theorem stream_write {s : Session} {own : Level} (hsetup : s.setup = .single own .stream)
    {record : Record} (htakes : own.takes record.level = true) :
    (s.write record).stream =
      s.stream ++ if Logger.reachesRoot s.loggers record.logger then [record] else [] := by
  unfold write
  simp only [hsetup, Setup.single, htakes, Bool.and_true]
  split <;> simp

/-- Where the records of a logger go. Every name gives a logger of the library, unless it goes on
behind the root's name with anything but a dot. And when, of all steps so far, the last one that
named a level made a stream the handler, then a record that is grave enough is written to that
stream, once, by the root and by any logger below an odd number of dots; from other loggers nothing
comes through. More dots than one count only as long as no logger was made between them. -/
theorem stream_step_log (name : Option Text) :
    (Logger.IsNamespaced (Logger.nameFor name) ↔
      ¬∃ c rest, name = some (Logger.root ++ c :: rest) ∧ c ≠ '.') ∧
    ∀ (s : Session) (steps : List Step) (own level : Level) (message : Text),
      (steps.filterMap Step.installed?).getLast? = some (own, .stream) → own.takes level = true →
      (∀ k, 0 < k → k < Logger.dots (Logger.nameFor name) →
        Logger.root ++ List.replicate k '.' ∉ (s.run steps).1.loggers) →
      ((s.run steps).1.step (.log name level message)).1.stream =
        (s.run steps).1.stream ++
          if Logger.nameFor name = Logger.root ∨ Logger.dots (Logger.nameFor name) % 2 = 1 then
            [⟨level, Logger.nameFor name, message⟩]
          else [] := by
  refine ⟨Logger.isNamespaced_nameFor_iff name, ?_⟩
  intro s steps own level message hlast htakes hmade
  have hsetup : (s.run steps).1.setup = .single own .stream := by
    rw [setup_run, hlast]
    rfl
  have hmade' : ∀ k, 0 < k → k < Logger.dots (Logger.nameFor name) →
      Logger.root ++ List.replicate k '.' ∉ Logger.nameFor name :: (s.run steps).1.loggers := by
    intro k hk hdots
    -- The logger of the record itself has too many dots to stand between them.
    have hself : Logger.root ++ List.replicate k '.' ≠ Logger.nameFor name := by
      intro heq
      rw [← heq, Logger.dots_append_replicate] at hdots
      exact absurd hdots (Nat.lt_irrefl k)
    exact List.not_mem_cons_of_ne_of_not_mem hself (hmade k hk hdots)
  have hreaches := Logger.reachesRoot_iff (Logger.root_prefix_nameFor name) hmade'
  simp only [← hreaches]
  exact stream_write (s := (s.run steps).1.withLogger (Logger.nameFor name)) hsetup htakes

/-- A call that fails comes last. One logger is put below the root, and another one is there by its
name, behind three dots. -/
theorem stream_step_log_custom :
    let steps : List Step := [.configure (some "debug".toList) .standardError,
      .configure (some "warn".toList) .stream, .configure (some "loud".toList) .nowhere]
    let done := (start.run steps).1
    (steps.filterMap Step.installed?).getLast? = some (.warning, .stream) ∧
      Level.warning.takes .error = true ∧
      Logger.dots "stitchql.custom".toList = 1 ∧
      (done.step (.log (some "custom".toList) .error "gone".toList)).1.stream =
        [⟨.error, "stitchql.custom".toList, "gone".toList⟩] ∧
      Logger.dots "stitchql...x".toList = 3 ∧
      (done.step (.log (some "stitchql...x".toList) .error "gone".toList)).1.stream =
        [⟨.error, "stitchql...x".toList, "gone".toList⟩] := by
  intro steps done
  have hlast : (steps.filterMap Step.installed?).getLast? = some (.warning, .stream) := by decide
  have htakes : Level.warning.takes .error = true := by decide
  have hone : Logger.dots "stitchql.custom".toList = 1 := by decide
  have hthree : Logger.dots "stitchql...x".toList = 3 := by decide
  refine ⟨hlast, htakes, hone, ?_, hthree, ?_⟩
  · refine ((stream_step_log (some "custom".toList)).2 start steps .warning .error "gone".toList
      hlast htakes ?_).trans (by decide)
    intro k hk hlt
    have hlt' : k < 1 := hone ▸ hlt
    omega
  · refine ((stream_step_log (some "stitchql...x".toList)).2 start steps .warning .error
      "gone".toList hlast htakes ?_).trans (by decide)
    intro k hk hlt
    have hlt' : k < 3 := hthree ▸ hlt
    obtain rfl | rfl : k = 1 ∨ k = 2 := by omega
    · decide
    · decide

/-- A logger beside the root, and one below two dots: nothing comes through. -/
theorem stream_step_log_lost :
    let done := (start.run [.configure (some "DEBUG".toList) .stream]).1
    ¬Logger.IsNamespaced (Logger.nameFor (some "stitchqlx".toList)) ∧
      (done.step (.log (some "stitchqlx".toList) .error "gone".toList)).1.stream = [] ∧
      Logger.IsNamespaced (Logger.nameFor (some "stitchql..x".toList)) ∧
      (done.step (.log (some "stitchql..x".toList) .error "gone".toList)).1.stream = [] := by
  intro done
  refine ⟨?_, by decide, ?_, by decide⟩
  · rw [Logger.isNamespaced_nameFor_iff, not_not]
    exact ⟨'x', [], rfl, by decide⟩
  · exact .inr (List.isPrefixOf_iff_prefix.mp (by decide))

end Session
end SqlTemplate
