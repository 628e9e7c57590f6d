import Mathlib.Data.Nat.Notation
import SqlTemplate.Proofs.Profile.Validation

/-!
# What a draft makes

The choices of a draft are the marker set last and whether the other two choices were ever made. So
the making of a profile, which changes no choice, depends neither on earlier ones nor on the order
of the choices, but for that of the markers. It refuses the markers that are refused as fields, for
the same reasons, with any library for validation that does what is documented.
-/
namespace SqlTemplate

/-- Texts that cannot be markers. -/
def IsUnfitMarker (marker : Text) : Prop :=
  marker = [] ∨ '{' ∈ marker ∨ '}' ∈ marker ∨ '?' ∈ marker

theorem isUnfitMarker_iff {marker : Text} :
    IsUnfitMarker marker ↔ markerProblem? marker ≠ none := by
  rw [ne_eq, markerProblem?_eq_none_iff, IsUnfitMarker]
  grind

namespace Draft

/-- The marker that a call sets. -/
def Call.marker? : Call → Option Text
  | .marker t => some t
  | _ => none

/-- The marker that is set last, or else the one there is from the start. -/
def latestMarker (calls : List Call) : Text :=
  (calls.filterMap Call.marker?).getLastD defaultMarker

variable {v : Validation}

/-- The draft after some calls. -/
def after (v : Validation) (d : Draft) (calls : List Call) : Draft :=
  calls.foldl (fun d c => (d.call v c).1) d

/-- Of the calls before, a draft shows which marker was last and which other choices there were. -/
theorem after_eq (d : Draft) (calls : List Call) :
    d.after v calls =
      ⟨d.target, (calls.filterMap Call.marker?).getLastD d.marker,
        d.strict || decide (.strict ∈ calls), d.allowEmpty && decide (.forbidEmpty ∉ calls)⟩ := by
  induction calls generalizing d with
  | nil => simp [after]
  | cons c rest ih =>
    have hstep : d.after v (c :: rest) = (d.call v c).1.after v rest := rfl
    rw [hstep, ih]
    cases c with
    | marker t =>
      have hmarkers : (Call.marker t :: rest).filterMap Call.marker? =
          t :: rest.filterMap Call.marker? := rfl
      rw [hmarkers, List.getLastD_cons]
      simp [call]
    | _ => simp [call, Call.marker?]

theorem run_append (d : Draft) (calls more : List Call) :
    d.run v (calls ++ more) = d.run v calls ++ (d.after v calls).run v more := by
  induction calls generalizing d with
  | nil => rfl
  | cons c rest ih =>
    rw [List.cons_append, run, ih, run, List.cons_append]
    rfl

@[simp] theorem length_run (d : Draft) (calls : List Call) :
    (d.run v calls).length = calls.length := by
  induction calls generalizing d with
  | nil => rfl
  | cons c rest ih => rw [run, List.length_cons, ih, List.length_cons]

/-- A choice answers with the draft. -/
theorem run_of_build_not_mem (d : Draft) {calls : List Call} (h : .build ∉ calls) :
    d.run v calls = List.replicate calls.length (.ok .draft) := by
  induction calls generalizing d with
  | nil => rfl
  | cons c rest ih =>
    rw [List.mem_cons, not_or] at h
    have hreply : (d.call v c).2 = .ok .draft := by
      cases c with
      | build => exact absurd rfl h.1
      | _ => rfl
    rw [run, hreply, ih _ h.2]
    rfl

/-- The same choices in another order, but for the markers. -/
structure Shuffles (calls calls' : List Call) : Prop where
  perm : calls.Perm calls'
  markers : calls.filterMap Call.marker? = calls'.filterMap Call.marker?
  choices : .build ∉ calls

/-- The same calls, with choices in another order between one making of a profile and the next. -/
inductive Reorders : List Call → List Call → Prop
  | choices {calls calls' : List Call} (h : Shuffles calls calls') : Reorders calls calls'
  | build {calls calls' rest rest' : List Call} (h : Shuffles calls calls')
      (hrest : Reorders rest rest') :
      Reorders (calls ++ .build :: rest) (calls' ++ .build :: rest')

theorem Shuffles.run_eq {calls calls' : List Call} (h : Shuffles calls calls') (d : Draft) :
    d.run v calls' = d.run v calls ∧ d.after v calls' = d.after v calls := by
  constructor
  · have hchoices : .build ∉ calls' := fun hmem => h.choices (h.perm.mem_iff.mpr hmem)
    rw [run_of_build_not_mem d h.choices, run_of_build_not_mem d hchoices, h.perm.length_eq]
  · simp only [after_eq, h.markers, h.perm.mem_iff]

theorem Reorders.run_eq {calls calls' : List Call} (h : Reorders calls calls') (d : Draft) :
    d.run v calls' = d.run v calls := by
  induction h generalizing d with
  | choices h => exact (h.run_eq d).1
  | build h _ ih =>
    obtain ⟨hrun, hafter⟩ := h.run_eq d
    rw [run_append, run_append, hrun, hafter, run, run, ih]

/-- A draft with an unfit marker makes no profile. -/
theorem build_of_unfit {d : Draft} {problem : MarkerProblem}
    (h : markerProblem? d.marker = some problem) :
    d.build v = .error (.profile (.marker problem) (some Profile.markerField)) := by
  simp only [build, h]

/-- A draft with a fit marker makes the profile with its choices as fields. -/
theorem build_of_fit {d : Draft} (h : markerProblem? d.marker = none) :
    d.build v = (Profile.ofFields v
      (Profile.fieldsOf d.target d.marker d.strict d.allowEmpty)).mapError .validation := by
  simp only [build, h]

end Draft

namespace Profile

variable {v : Validation} {marker : Text}

theorem nodup_declarations : (declarations.map Declaration.name).Nodup := by
  decide

theorem markerCheck_of_unfit {problem : MarkerProblem}
    (h : markerProblem? marker = some problem) : markerCheck marker = some problem.message := by
  rw [markerCheck, h, Option.map_some]

theorem ofFields_fieldsOf (hv : v.Documented) (h : markerProblem? marker = none) (target : Text)
    (strict allowEmpty : Bool) :
    ofFields v (fieldsOf target marker strict allowEmpty) =
      .ok ⟨target, marker, strict, allowEmpty, h⟩ := by
  let choice : Choice declarations :=
    .give target (.give marker (.give strict (.give allowEmpty .nil)))
  have hfields : choice.fields = fieldsOf target marker strict allowEmpty := rfl
  have hmakes : choice.Makes _ :=
    .give rfl (.give (markerCheck_eq_none_iff.mpr h) (.give rfl (.give rfl .nil)))
  rw [ofFields, ← hfields, hv.accepts nodup_declarations hmakes]
  rfl

/-- The choice of a marker and no more. -/
def markerChoice (marker : Text) : Choice declarations :=
  .leave (.give marker (.leave (.leave .nil)))

theorem fields_markerChoice (marker : Text) :
    (markerChoice marker).fields = [(markerField, .text marker)] := rfl

theorem ofFields_marker_of_fit (hv : v.Documented) (h : markerProblem? marker = none) :
    ofFields v [(markerField, .text marker)] =
      .ok ⟨default.target, marker, default.strict, default.allowEmpty, h⟩ := by
  have hmakes : (markerChoice marker).Makes _ :=
    .leave (.give (markerCheck_eq_none_iff.mpr h) (.leave (.leave .nil)))
  rw [ofFields, ← fields_markerChoice, hv.accepts nodup_declarations hmakes]
  rfl

/-- As a field, an unfit marker is refused by what its check tells. -/
theorem ofFields_marker_of_unfit (hv : v.Documented) {problem : MarkerProblem}
    (h : markerProblem? marker = some problem) :
    ofFields v [(markerField, .text marker)] =
      .error [Choice.violation markerField problem.message] := by
  have hviolations : (markerChoice marker).violations =
      [Choice.violation markerField problem.message] := by
    show (markerCheck marker).toList.map (Choice.violation markerField) ++ [] = _
    rw [markerCheck_of_unfit h]
    rfl
  rw [ofFields, ← fields_markerChoice, hv.refuses nodup_declarations (by simp [hviolations]),
    hviolations]
  rfl

end Profile

namespace Draft

variable {v : Validation}

/-- What the making of a profile answers after some calls. -/
def answer (v : Validation) (target : Text) (calls : List Call) : Except Failure Reply :=
  (((start target).after v calls).call v .build).2

/-- The making of a profile answers by the choices before it. It can be left out, and all other
answers are the same. -/
theorem run_build (target : Text) (before later : List Call) :
    (start target).run v (before ++ .build :: later) =
        (start target).run v before ++
          answer v target before :: ((start target).after v before).run v later ∧
      (start target).run v (before ++ later) =
        (start target).run v before ++ ((start target).after v before).run v later := by
  rw [run_append, run_append]
  exact ⟨rfl, rfl⟩

theorem after_start (target : Text) (calls : List Call) :
    (start target).after v calls =
      ⟨target, latestMarker calls, decide (.strict ∈ calls), decide (.forbidEmpty ∉ calls)⟩ := by
  rw [after_eq]
  simp [start, latestMarker, Profile.default]

theorem answer_of_unfit {target : Text} {calls : List Call} {problem : MarkerProblem}
    (h : markerProblem? (latestMarker calls) = some problem) :
    answer v target calls = .error (.profile (.marker problem) (some Profile.markerField)) := by
  rw [answer, after_start, call, build_of_unfit h]
  rfl

theorem answer_of_fit (hv : v.Documented) {target : Text} {calls : List Call}
    (h : markerProblem? (latestMarker calls) = none) :
    answer v target calls = .ok (.profile ⟨target, latestMarker calls, decide (.strict ∈ calls),
      decide (.forbidEmpty ∉ calls), h⟩) := by
  rw [answer, after_start, call, build_of_fit h, Profile.ofFields_fieldsOf hv h]
  rfl

/-- A draft and the fields of a profile agree, with any library for validation that does what is
documented. Whatever was called before, the making of a profile refuses the marker exactly if the
one set last is unfit, and tells so as the field does; otherwise it makes the profile of the choices
so far, the one that the fields with these values make. Whether it refuses or not, the calls after
it answer as they would without it. And no answer depends on the order of the choices between one
making and the next, but for that of the markers. -/
theorem draft_agrees_with_fields (hv : v.Documented) (target : Text) (before later : List Call) :
    let marker := latestMarker before
    let strict := decide (.strict ∈ before)
    let allowEmpty := decide (.forbidEmpty ∉ before)
    (∃ first reply rest,
      (start target).run v (before ++ .build :: later) = first ++ reply :: rest ∧
      (start target).run v (before ++ later) = first ++ rest ∧ first.length = before.length ∧
      ((∃ problem, reply = .error (.profile problem (some Profile.markerField))) ↔
        IsUnfitMarker marker) ∧
      (¬IsUnfitMarker marker → ∃ p : Profile, reply = .ok (.profile p) ∧
        p.target = target ∧ p.marker = marker ∧ p.strict = strict ∧ p.allowEmpty = allowEmpty ∧
        Profile.ofFields v (Profile.fieldsOf target marker strict allowEmpty) = .ok p) ∧
      ∀ message, (∃ failure, reply = .error failure ∧ failure.message = message) ↔
        Profile.ofFields v [(Profile.markerField, .text marker)] =
          .error [⟨Profile.markerField, "value_error".toList,
            "Value error, ".toList ++ message⟩]) ∧
    ∀ calls, Reorders (before ++ .build :: later) calls →
      (start target).run v calls = (start target).run v (before ++ .build :: later) := by
  intro marker strict allowEmpty
  refine ⟨⟨(start target).run v before, answer v target before,
    ((start target).after v before).run v later, (run_build target before later).1,
    (run_build target before later).2, length_run _ _, ?_⟩, fun calls h => h.run_eq _⟩
  rw [isUnfitMarker_iff]
  cases hproblem : markerProblem? marker with
  | none =>
    rw [answer_of_fit hv hproblem]
    refine ⟨by simp, fun _ => ⟨_, rfl, rfl, rfl, rfl, rfl, ?_⟩, fun message => ?_⟩
    · exact Profile.ofFields_fieldsOf hv hproblem target strict allowEmpty
    · rw [Profile.ofFields_marker_of_fit hv hproblem]
      simp
  | some problem =>
    rw [answer_of_unfit hproblem]
    refine ⟨by simp, fun h => absurd (Option.some_ne_none problem) h, fun message => ?_⟩
    rw [Profile.ofFields_marker_of_unfit hv hproblem]
    constructor
    · rintro ⟨failure, hfailure, rfl⟩
      cases hfailure
      rfl
    · intro htold
      have hmessages := congrArg Violation.message (List.singleton_inj.mp (Except.error.inj htold))
      exact ⟨_, rfl, List.append_cancel_left hmessages⟩

/-- A refused marker in the middle, and a fit one after it; and the choices on both sides of the
refusal the other way round. The refused marker as a field is refused in the same words. -/
theorem draft_agrees_with_fields_recovered :
    let v : Validation := .coercing
    let target := "sqlite".toList
    let before : List Call := [.marker ['a', '?'], .strict, .build, .forbidEmpty, .marker ['!']]
    let reordered : List Call :=
      [.strict, .marker ['a', '?'], .build, .marker ['!'], .forbidEmpty, .build]
    let made : Profile := ⟨target, ['!'], true, false, by decide⟩
    let message := "skip_marker must not contain template syntax characters ['?'].".toList
    v.Documented ∧ ¬IsUnfitMarker (latestMarker before) ∧
      Reorders (before ++ [.build]) reordered ∧
      (start target).run v (before ++ [.build]) =
        [.ok .draft, .ok .draft,
          .error (.profile (.marker (.reserved ['?'])) (some Profile.markerField)),
          .ok .draft, .ok .draft, .ok (.profile made)] ∧
      (start target).run v reordered = (start target).run v (before ++ [.build]) ∧
      (∃ p, Profile.ofFields v (Profile.fieldsOf target ['!'] true false) = .ok p) ∧
      (MarkerProblem.reserved ['?']).message = message ∧
      Profile.ofFields v [(Profile.markerField, .text ['a', '?'])] =
        .error [⟨Profile.markerField, "value_error".toList,
          "Value error, ".toList ++ message⟩] := by
  intro v target before reordered made message
  have hv : v.Documented := Validation.documented_coercing
  have hfit : ¬IsUnfitMarker (latestMarker before) := by
    rw [isUnfitMarker_iff]
    decide
  have hreorders : Reorders (before ++ [.build]) reordered := by
    have hfirst : Shuffles [.marker ['a', '?'], .strict] [.strict, .marker ['a', '?']] :=
      ⟨.swap _ _ _, rfl, by simp⟩
    have hsecond : Shuffles [.forbidEmpty, .marker ['!']] [.marker ['!'], .forbidEmpty] :=
      ⟨.swap _ _ _, rfl, by simp⟩
    exact .build hfirst (.build hsecond (.choices ⟨.nil, rfl, by simp⟩))
  have hmessage : (MarkerProblem.reserved ['?']).message = message := by decide
  obtain ⟨⟨_, _, _, -, -, -, -, hmakes, -⟩, hreordered⟩ :=
    draft_agrees_with_fields hv target before []
  obtain ⟨p, -, -, -, -, -, hfields⟩ := hmakes hfit
  refine ⟨hv, hfit, hreorders, rfl, hreordered _ hreorders, ⟨p, hfields⟩, hmessage, ?_⟩
  have hunfit : markerProblem? ['a', '?'] = some (.reserved ['?']) := by decide
  rw [← hmessage]
  exact Profile.ofFields_marker_of_unfit hv hunfit

end Draft
end SqlTemplate
