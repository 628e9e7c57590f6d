import SqlTemplate.Proofs.Builder.Outcome
import SqlTemplate.Proofs.Registry.History

/-!
# What later steps do to builders

A builder has its dialect from the moment it is made. Whatever is registered after that, and
whatever else a session does, it answers as it would have at once. What goes by the name of a
dialect, on the other hand, has the dialect registered last at that moment.
-/
namespace SqlTemplate

namespace Session

/-- A step makes a builder under a name: it asks for one there, and it succeeds. -/
def Creates (s : Session) (id : Text) (step : Step) : Prop :=
  (∃ target profile escaper, step = .builder id target profile escaper) ∧
    ∃ answer, (s.step step).2 = .ok answer

/-- No step of a run makes a builder under a name. -/
def CreatesNone (s : Session) (id : Text) (steps : List Step) : Prop :=
  ∀ front step back, steps = front ++ step :: back → ¬(s.run front).1.Creates id step

theorem creates_iff {s : Session} {id target : Text} {profile : Option Fields}
    {escaper : EscaperSource} :
    s.Creates id (.builder id target profile escaper) ↔
      ∃ b, s.namedBuilder target profile escaper = .ok b := by
  cases hmade : s.namedBuilder target profile escaper <;> simp [Creates, Session.step, hmade]

theorem find?_step_builder {s : Session} {id target : Text} {profile : Option Fields}
    {escaper : EscaperSource} {b : Builder} (h : s.namedBuilder target profile escaper = .ok b) :
    (s.step (.builder id target profile escaper)).1.find? id = .ok b := by
  simp [Session.step, h, find?]

/-- A step that makes no builder under a name leaves the builder there. -/
theorem find?_step {s : Session} {id : Text} {step : Step} (h : ¬s.Creates id step) :
    (s.step step).1.find? id = s.find? id := by
  obtain ⟨other, target, profile, escaper, b, rfl, hmade, hstep⟩ | ⟨-, hbuilders, -⟩ :=
    s.step_cases step
  · -- A builder was made, but under another name, so that the lookup passes it.
    have hne : id ≠ other := by
      rintro rfl
      exact h (creates_iff.mpr ⟨b, hmade⟩)
    rw [hstep]
    simp [find?, List.lookup_cons, beq_eq_false_iff_ne.mpr hne]
  · simp only [find?, hbuilders]

@[simp] theorem createsNone_nil (s : Session) (id : Text) : s.CreatesNone id [] := by
  intro front step back hsplit
  simp at hsplit

theorem createsNone_cons {s : Session} {id : Text} {first : Step} {rest : List Step} :
    s.CreatesNone id (first :: rest) ↔
      ¬s.Creates id first ∧ (s.step first).1.CreatesNone id rest := by
  constructor
  · intro h
    refine ⟨h [] first rest rfl, ?_⟩
    intro front step back hrest
    exact h (first :: front) step back (by rw [hrest, List.cons_append])
  · rintro ⟨hfirst, hrest⟩ front step back hsplit
    cases front with
    | nil =>
      obtain ⟨rfl, -⟩ := List.cons.inj hsplit
      exact hfirst
    | cons other front =>
      obtain ⟨rfl, htail⟩ := List.cons.inj hsplit
      exact hrest front step back htail

/-- The builder under a name stays there until another is made. -/
theorem find?_run {s : Session} {id : Text} {steps : List Step} (h : s.CreatesNone id steps) :
    (s.run steps).1.find? id = s.find? id := by
  induction steps generalizing s with
  | nil => rfl
  | cons first rest ih =>
    obtain ⟨hfirst, hrest⟩ := createsNone_cons.mp h
    calc (s.run (first :: rest)).1.find? id
        = ((s.step first).1.run rest).1.find? id := rfl
      _ = (s.step first).1.find? id := ih hrest
      _ = s.find? id := find?_step hfirst

/-- A run of a builder answers by nothing in the session but this builder. -/
theorem answer_run {s : Session} {id : Text} {b : Builder} (h : s.find? id = .ok b)
    (template : Text) (args : Argument) :
    (s.step (.run id template args)).2 = (b.buildFrom template args).outcome.map .text := by
  simp only [Session.step, h, answerReport]

theorem answer_format {s : Session} {id : Text} {b : Builder} (h : s.find? id = .ok b)
    (value : Argument) (tag : Text) :
    (s.step (.format id value tag)).2 = (b.render value tag).map .text := by
  simp only [Session.step, h]
  rfl

/-- Under a name the registry has what was registered last, at the start or by a step since. -/
theorem find?_registry_start_run {host : Host} {steps : List Step} {name : Text} {d : Dialect} :
    ((start host).run steps).1.registry.find? name = some d ↔
      Registry.IsLatest (Registry.startUp host.escapeString ++ steps.flatMap Step.registrations)
        name d := by
  rw [← Registry.find?_eq_some_iff_isLatest, Registry.registerAll_append,
    ← Registry.builtIn_eq_registerAll, registry_run]
  rfl

/-- A new builder has the dialect that is under the name at this moment. -/
theorem registry_find?_of_namedBuilder {s : Session} {target : Text} {profile : Option Fields}
    {escaper : EscaperSource} {b : Builder} (h : s.namedBuilder target profile escaper = .ok b) :
    s.registry.find? target = some b.compiler.dialect := by
  obtain ⟨injected, -, h⟩ := bind_eq_ok.mp h
  obtain ⟨compiler, hcreate, h⟩ := bind_eq_ok.mp h
  obtain ⟨chosen, -, h⟩ := bind_eq_ok.mp h
  cases h
  unfold Registry.create at hcreate
  split at hcreate
  next hfind =>
    cases hcreate
    exact hfind
  next => cases hcreate

/-- A build that names a dialect has the one under the name at this moment. -/
theorem answer_build {s : Session} {d : Dialect} {profile : Option Fields}
    {escaper : EscaperSource} {chosen : Option Profile} {injected : Option Escaper}
    (hprofile : Profile.given s.host.validation profile = .ok chosen)
    (hescaper : escaper.escaper? = .ok injected)
    (hfind : s.registry.find? (chosen.getD Profile.default).target = some d) (template : Text)
    (args : Argument) :
    (s.step (.build template args profile escaper)).2 =
      ((⟨⟨d, injected⟩, chosen.getD Profile.default, s.host.memory⟩ : Builder).buildFrom
        template args).outcome.map .text := by
  have hbuilder : s.registry.builder profile escaper s.host =
      .ok ⟨⟨d, injected⟩, chosen.getD Profile.default, s.host.memory⟩ := by
    rw [Registry.builder, hprofile, hescaper]
    exact Registry.builderFor_of_find? hfind injected s.host
  simp only [Session.step, answerReport, Registry.query, hbuilder]

theorem answer_identifier {s : Session} {name : Text} {d : Dialect}
    (hfind : s.registry.find? name = some d) (value : Argument) :
    (s.step (.identifier value name)).2 =
      ((⟨⟨d, none⟩, Profile.forTarget name, s.host.memory⟩ : Builder).renderIdentifier
        value).map .text := by
  have hbuilder : s.registry.builderFor (Profile.forTarget name) none s.host =
      .ok ⟨⟨d, none⟩, Profile.forTarget name, s.host.memory⟩ :=
    Registry.builderFor_of_find? hfind none s.host
  simp only [Session.step, Registry.quoteIdentifier, hbuilder]
  rfl

/-- Builders are insulated from what comes after them. In any session, a builder under a name
answers as the last one made there answered at once: with the dialect that was registered last when
it was made, whatever has been registered, built or refused since. A build or an identifier that
names a dialect is answered with the one that is registered last when it is asked for. -/
theorem answers_insulated (host : Host) :
    (∀ (before between : List Step) (id target : Text) (profile : Option Fields)
      (escaper : EscaperSource),
      let found := ((start host).run before).1
      let created := (found.step (.builder id target profile escaper)).1
      let now := (created.run between).1
      found.Creates id (.builder id target profile escaper) → created.CreatesNone id between →
        (∀ template args, (now.step (.run id template args)).2 =
          (created.step (.run id template args)).2) ∧
        (∀ value tag, (now.step (.format id value tag)).2 =
          (created.step (.format id value tag)).2) ∧
        ∃ b : Builder,
          Registry.IsLatest
            (Registry.startUp host.escapeString ++ before.flatMap Step.registrations) target
            b.compiler.dialect ∧
          (∀ template args, (created.step (.run id template args)).2 =
            (b.buildFrom template args).outcome.map .text) ∧
          ∀ value tag, (created.step (.format id value tag)).2 =
            (b.render value tag).map .text) ∧
    ∀ (steps : List Step) (name : Text) (d : Dialect),
      let now := ((start host).run steps).1
      Registry.IsLatest (Registry.startUp host.escapeString ++ steps.flatMap Step.registrations)
        name d →
        (∀ template args profile escaper chosen injected,
          Profile.given host.validation profile = .ok chosen → escaper.escaper? = .ok injected →
          (chosen.getD Profile.default).target = name →
            (now.step (.build template args profile escaper)).2 =
              ((⟨⟨d, injected⟩, chosen.getD Profile.default, host.memory⟩ : Builder).buildFrom
                template args).outcome.map .text) ∧
        ∀ value, (now.step (.identifier value name)).2 =
          ((⟨⟨d, none⟩, Profile.forTarget name, host.memory⟩ : Builder).renderIdentifier
            value).map .text := by
  constructor
  · intro before between id target profile escaper found created now hcreates hnone
    obtain ⟨b, hmade⟩ := creates_iff.mp hcreates
    have hcreated : created.find? id = .ok b := find?_step_builder hmade
    -- The builder found now is still the one that was made, and an answer depends on no more.
    have hnow : now.find? id = .ok b := (find?_run hnone).trans hcreated
    refine ⟨?_, ?_, b, ?_, answer_run hcreated, answer_format hcreated⟩
    · intro template args
      rw [answer_run hnow, answer_run hcreated]
    · intro value tag
      rw [answer_format hnow, answer_format hcreated]
    · exact find?_registry_start_run.mp (registry_find?_of_namedBuilder hmade)
  · intro steps name d now hlatest
    have hfind := find?_registry_start_run.mpr hlatest
    have hhost : now.host = host := host_run (start host) steps
    constructor
    · rintro template args profile escaper chosen injected hprofile hescaper rfl
      rw [← hhost] at hprofile ⊢
      exact answer_build hprofile hescaper hfind template args
    · intro value
      rw [← hhost]
      exact answer_identifier hfind value

/-- A dialect with brackets around names takes the name of one that is there from the start. The
builder that is there keeps its backticks, whatever fails in between. -/
theorem answers_insulated_rebound :
    let name := "mysql".toList
    let bracketed : Dialect := ⟨"mssql".toList, Dialect.wrapped ['['] [']'], Escaping.doubling⟩
    let start := Session.start .usual
    let created := (start.step (.builder ['b'] name none .absent)).1
    let between : List Step :=
      [.register name bracketed, .builder ['b'] "oracle".toList none .absent,
        .builder ['c'] name none .absent, .configure none .stream]
    let now := (created.run between).1
    start.Creates ['b'] (.builder ['b'] name none .absent) ∧ created.CreatesNone ['b'] between ∧
      (now.step (.format ['b'] (.text ['x']) ['#'])).2 = .ok (.text ['\x60', 'x', '\x60']) ∧
      (now.step (.run ['b'] ['?', '#'] (.sequence .list [.text ['x']]))).2 =
        .ok (.text ['\x60', 'x', '\x60']) ∧
      (now.step (.identifier (.text ['x']) name)).2 = .ok (.text ['[', 'x', ']']) ∧
      (now.step (.build ['?', '#'] (.sequence .list [.text ['x']]) none .absent)).2 =
        .ok (.text ['[', 'x', ']']) := by
  intro name bracketed start created between now
  have hcreates : start.Creates ['b'] (.builder ['b'] name none .absent) :=
    creates_iff.mpr ⟨_, rfl⟩
  have hnone : created.CreatesNone ['b'] between := by
    rw [createsNone_cons, createsNone_cons, createsNone_cons, createsNone_cons]
    refine ⟨by simp [Creates], ?_, by simp [Creates], by simp [Creates], createsNone_nil _ _⟩
    rintro ⟨-, answer, hanswer⟩
    cases hanswer
  have hlatest : Registry.IsLatest (Registry.startUp Host.usual.escapeString ++
      (Step.builder ['b'] name none .absent :: between).flatMap Step.registrations) name bracketed :=
    ⟨Registry.startUp Host.usual.escapeString, [], rfl, by simp⟩
  obtain ⟨hinsulated, hnamed⟩ := answers_insulated .usual
  obtain ⟨hrun, hformat, -⟩ := hinsulated [] between ['b'] name none .absent hcreates hnone
  obtain ⟨hbuild, hidentifier⟩ :=
    hnamed (.builder ['b'] name none .absent :: between) name bracketed hlatest
  refine ⟨hcreates, hnone, (hformat _ _).trans ?_, (hrun _ _).trans ?_, (hidentifier _).trans ?_,
    (hbuild _ _ _ _ none none rfl rfl rfl).trans ?_⟩
  · rfl
  · rfl
  · rfl
  · rfl

end Session
end SqlTemplate
