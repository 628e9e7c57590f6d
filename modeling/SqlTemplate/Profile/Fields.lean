import SqlTemplate.Profile.Validation

/-!
# Making profiles

A profile is made from fields with names, which the validation library checks by what the profile
declares of them.
-/
namespace SqlTemplate

namespace Profile

def targetField : Text := "target".toList

def markerField : Text := "skip_marker".toList

def strictField : Text := "strict_arguments".toList

def allowEmptyField : Text := "allow_empty_arrays".toList

/-- What is wrong with a marker, as it is told. -/
def markerCheck (marker : Text) : Option Text :=
  (markerProblem? marker).map MarkerProblem.message

theorem markerCheck_eq_none_iff {marker : Text} :
    markerCheck marker = none ↔ markerProblem? marker = none :=
  Option.map_eq_none_iff

/-- The fields that a profile has. -/
def declarations : List Declaration :=
  [{ name := targetField, kind := .text, default := default.target },
    { name := markerField, kind := .text, check := markerCheck, default := default.marker,
      default_fit := markerCheck_eq_none_iff.mpr default.marker_fit },
    { name := strictField, kind := .truth, default := default.strict },
    { name := allowEmptyField, kind := .truth, default := default.allowEmpty }]

/-- The profile with the values of its fields. -/
def ofValues (r : FieldValues declarations) : Profile :=
  ⟨r.head, r.tail.head, r.tail.tail.head, r.tail.tail.tail.head,
    markerCheck_eq_none_iff.mp r.tail.head.property⟩

/-- The profile with the given fields. -/
def ofFields (v : Validation) (fields : Fields) : Except (List Violation) Profile :=
  (v.construct declarations fields).map ofValues

/-- The profile with the given fields, if fields are given. -/
def given (v : Validation) : Option Fields → Except Failure (Option Profile)
  | none => .ok none
  | some fields => ((ofFields v fields).map some).mapError .validation

/-- A profile stays as it was made: whatever field is assigned, known or not, refuses. -/
def assign (v : Validation) (_ : Profile) (name : Text) (_ : Argument) :
    Except (List Violation) Profile :=
  .error (v.frozen name)

/-- The fields of a profile with the given choices. -/
def fieldsOf (target marker : Text) (strict allowEmpty : Bool) : Fields :=
  [(targetField, .text target), (markerField, .text marker), (strictField, .bool strict),
    (allowEmptyField, .bool allowEmpty)]

end Profile

/-!
## Drafts of profiles

A draft gathers the choices of a profile one by one and makes the profile at the end. A marker that
is unfit is found then; the draft can go on and make another.
-/

/-- The choices made so far. The marker may be unfit. -/
structure Draft where
  target : Text
  marker : Text
  strict : Bool
  allowEmpty : Bool
  deriving DecidableEq, Repr

namespace Draft

/-- A draft with nothing chosen but the dialect. -/
def start (target : Text) : Draft :=
  ⟨target, Profile.default.marker, Profile.default.strict, Profile.default.allowEmpty⟩

/-- One choice, or the making of the profile. -/
inductive Call where
  | strict
  | forbidEmpty
  | marker (text : Text)
  | build
  deriving DecidableEq, Repr

/-- The profile of a draft. An unfit marker is told without asking for the profile. -/
def build (v : Validation) (d : Draft) : Except Failure Profile :=
  match markerProblem? d.marker with
  | some problem => .error (.profile (.marker problem) (some Profile.markerField))
  | none =>
    (Profile.ofFields v (Profile.fieldsOf d.target d.marker d.strict d.allowEmpty)).mapError
      .validation

/-- What a call answers: a choice gives back the draft, the making a profile. -/
inductive Reply where
  | draft
  | profile (profile : Profile)
  deriving DecidableEq, Repr

/-- The draft after a call, and the answer. -/
def call (v : Validation) (d : Draft) : Call → Draft × Except Failure Reply
  | .strict => ({ d with strict := true }, .ok .draft)
  | .forbidEmpty => ({ d with allowEmpty := false }, .ok .draft)
  | .marker text => ({ d with marker := text }, .ok .draft)
  | .build => (d, (d.build v).map .profile)

/-- The answers to several calls on one draft. -/
def run (v : Validation) (d : Draft) : List Call → List (Except Failure Reply)
  | [] => []
  | c :: rest => (d.call v c).2 :: run v (d.call v c).1 rest

end Draft
end SqlTemplate
