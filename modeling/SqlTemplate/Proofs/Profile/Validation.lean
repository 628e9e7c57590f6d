import SqlTemplate.Profile.Fields

/-!
# What is documented of validation

Of a library that validates fields this is documented, and no more is asked of it: it takes the
values that have the kinds of their fields and pass the checks, with the defaults for fields that
are not given; and where checks fail it tells so of each of these fields in their order, in the
words of the check behind a fixed opening. The library that coerces values does so.
-/
namespace SqlTemplate

/-- Values for some of the declared fields, each of the kind of its field. -/
inductive Choice : List Declaration → Type where
  | nil : Choice []
  | leave {d : Declaration} {declared : List Declaration} (rest : Choice declared) :
      Choice (d :: declared)
  | give {d : Declaration} {declared : List Declaration} (value : d.kind.Value)
      (rest : Choice declared) : Choice (d :: declared)

namespace Choice

/-- The fields with the values. -/
def fields : {declared : List Declaration} → Choice declared → Fields
  | _, nil => []
  | _, leave rest => rest.fields
  | _, @give d _ value rest => (d.name, d.kind.argument value) :: rest.fields

/-- What a field tells whose check fails. -/
def violation (name problem : Text) : Violation :=
  ⟨name, "value_error".toList, "Value error, ".toList ++ problem⟩

/-- What the checks have against the values. -/
def violations : {declared : List Declaration} → Choice declared → List Violation
  | _, nil => []
  | _, leave rest => rest.violations
  | _, @give d _ value rest => (d.check value).toList.map (violation d.name) ++ rest.violations

/-- The values of all fields, which are the defaults where none are given. -/
inductive Makes :
    {declared : List Declaration} → Choice declared → FieldValues declared → Prop where
  | nil : Makes nil .nil
  | leave {d : Declaration} {declared : List Declaration} {rest : Choice declared}
      {values : FieldValues declared} (h : rest.Makes values) :
      Makes (.leave rest) (.cons ⟨d.default, d.default_fit⟩ values)
  | give {d : Declaration} {declared : List Declaration} {value : d.kind.Value}
      {rest : Choice declared} {values : FieldValues declared} (hcheck : d.check value = none)
      (h : rest.Makes values) : Makes (.give value rest) (.cons ⟨value, hcheck⟩ values)

end Choice

/-- What is documented of validation. -/
structure Validation.Documented (v : Validation) : Prop where
  accepts : ∀ {declared : List Declaration} {choice : Choice declared}
    {values : FieldValues declared}, (declared.map Declaration.name).Nodup → choice.Makes values →
      v.construct declared choice.fields = .ok values
  refuses : ∀ {declared : List Declaration} {choice : Choice declared},
    (declared.map Declaration.name).Nodup → choice.violations ≠ [] →
      v.construct declared choice.fields = .error choice.violations

/-!
## Coercing values
-/

namespace Choice

variable {d : Declaration} {declared : List Declaration} {fields other : Fields}

/-- A choice stands in some fields: they have its values, and none for the fields that it leaves
out. -/
def StandsIn (fields : Fields) : {declared : List Declaration} → Choice declared → Prop
  | _, nil => True
  | _, @leave d _ rest => Validation.valueOf? fields d.name = none ∧ rest.StandsIn fields
  | _, @give d _ value rest =>
    Validation.valueOf? fields d.name = some (d.kind.argument value) ∧ rest.StandsIn fields

theorem StandsIn.congr {choice : Choice declared} (h : choice.StandsIn fields)
    (hsame : ∀ d ∈ declared, Validation.valueOf? other d.name = Validation.valueOf? fields d.name) :
    choice.StandsIn other := by
  induction choice with
  | nil => trivial
  | leave rest ih =>
    obtain ⟨hfirst, hrest⟩ := List.forall_mem_cons.mp hsame
    exact ⟨hfirst.trans h.1, ih h.2 hrest⟩
  | give value rest ih =>
    obtain ⟨hfirst, hrest⟩ := List.forall_mem_cons.mp hsame
    exact ⟨hfirst.trans h.1, ih h.2 hrest⟩

theorem names_fields_subset (choice : Choice declared) :
    choice.fields.map Prod.fst ⊆ declared.map Declaration.name := by
  induction choice with
  | nil => exact List.Subset.refl _
  | leave rest ih => exact List.subset_cons_of_subset _ ih
  | give value rest ih => exact List.cons_subset_cons _ ih

theorem valueOf?_eq_none {name : Text} (h : name ∉ fields.map Prod.fst) :
    Validation.valueOf? fields name = none := by
  rw [Validation.valueOf?, List.lookup_eq_none_iff]
  intro entry hentry
  have hne : name ≠ entry.1 := by
    rintro rfl
    exact h (List.mem_map_of_mem (List.mem_reverse.mp hentry))
  simpa using hne

theorem valueOf?_cons (key name : Text) (a : Argument) (fields : Fields) :
    Validation.valueOf? ((key, a) :: fields) name =
      (Validation.valueOf? fields name).or (if name = key then some a else none) := by
  rw [Validation.valueOf?, List.reverse_cons, List.lookup_append]
  by_cases hname : name = key
  · simp [hname, Validation.valueOf?]
  · simp [hname, Validation.valueOf?, List.lookup_cons, beq_eq_false_iff_ne.mpr hname]

/-- A choice stands in its own fields. -/
theorem standsIn_fields (choice : Choice declared)
    (hnodup : (declared.map Declaration.name).Nodup) : choice.StandsIn choice.fields := by
  induction choice with
  | nil => trivial
  | @leave d declared rest ih =>
    obtain ⟨hname, hrest⟩ := List.nodup_cons.mp hnodup
    have habsent : d.name ∉ rest.fields.map Prod.fst := fun hmem =>
      hname (rest.names_fields_subset hmem)
    exact ⟨valueOf?_eq_none habsent, ih hrest⟩
  | @give d declared value rest ih =>
    obtain ⟨hname, hrest⟩ := List.nodup_cons.mp hnodup
    have habsent : d.name ∉ rest.fields.map Prod.fst := fun hmem =>
      hname (rest.names_fields_subset hmem)
    refine ⟨?_, (ih hrest).congr fun d' hd' => ?_⟩
    · rw [fields, valueOf?_cons, valueOf?_eq_none habsent]
      simp
    · have hne : d'.name ≠ d.name := by
        intro heq
        exact hname (heq ▸ List.mem_map_of_mem hd')
      rw [fields, valueOf?_cons, if_neg hne, Option.or_none]

end Choice

namespace Validation

variable {d : Declaration} {declared : List Declaration} {fields : Fields}

@[simp] theorem valueOfKind_argument (kind : FieldKind) (value : kind.Value) :
    valueOfKind kind (kind.argument value) = .ok value := by
  cases kind <;> rfl

theorem checked_of_fit {value : d.kind.Value} (h : d.check value = none) :
    checked d value = .ok ⟨value, h⟩ := by
  unfold checked
  split
  · rfl
  · rename_i hproblem
    rw [h] at hproblem
    cases hproblem

theorem checked_of_unfit {value : d.kind.Value} {problem : Text}
    (h : d.check value = some problem) : checked d value = .error (.checkFailed problem) := by
  unfold checked
  split
  · rename_i hfit
    rw [h] at hfit
    cases hfit
  · rename_i other hother
    rw [h] at hother
    cases hother
    rfl

theorem readField_of_none (h : valueOf? fields d.name = none) :
    readField fields d = .ok ⟨d.default, d.default_fit⟩ := by
  simp only [readField, h]

theorem readField_of_some {value : d.kind.Value}
    (h : valueOf? fields d.name = some (d.kind.argument value)) :
    readField fields d = (checked d value).mapError fun rule => [rule.violation d.name] := by
  simp only [readField, h, valueOfKind_argument]
  rfl

theorem violationsIn_readFields_cons :
    violationsIn (readFields fields (d :: declared)) =
      violationsIn (readField fields d) ++ violationsIn (readFields fields declared) := by
  rw [readFields]
  cases readField fields d <;> cases readFields fields declared <;> rfl

/-- The violations that are told are those of the checks. -/
theorem violationsIn_readFields {choice : Choice declared} (h : choice.StandsIn fields) :
    violationsIn (readFields fields declared) = choice.violations := by
  induction choice with
  | nil => rfl
  | leave rest ih =>
    rw [violationsIn_readFields_cons, readField_of_none h.1, ih h.2]
    rfl
  | @give d declared value rest ih =>
    rw [violationsIn_readFields_cons, readField_of_some h.1, ih h.2, Choice.violations]
    cases hcheck : d.check value with
    | none =>
      rw [checked_of_fit hcheck]
      rfl
    | some problem =>
      rw [checked_of_unfit hcheck]
      rfl

theorem readFields_of_makes {choice : Choice declared} {values : FieldValues declared}
    (hmakes : choice.Makes values) (h : choice.StandsIn fields) :
    readFields fields declared = .ok values := by
  induction hmakes with
  | nil => rfl
  | leave _ ih => rw [readFields, readField_of_none h.1, ih h.2]
  | give hcheck _ ih =>
    rw [readFields, readField_of_some h.1, checked_of_fit hcheck, ih h.2]
    rfl

theorem unknownFields_fields (choice : Choice declared) :
    unknownFields declared choice.fields = [] := by
  rw [unknownFields, List.filter_eq_nil_iff]
  intro name hname
  have hmem := choice.names_fields_subset (List.mem_eraseDups.mp hname)
  simpa using hmem

/-- The library that coerces values does what is documented of validation. -/
theorem documented_coercing : coercing.Documented where
  accepts hnodup hmakes := by
    rename_i declared choice values
    have hvalues := readFields_of_makes hmakes (choice.standsIn_fields hnodup)
    simp only [coercing, hvalues, unknownFields_fields]
  refuses hnodup hviolations := by
    rename_i declared choice
    have htold := violationsIn_readFields (choice.standsIn_fields hnodup)
    simp only [coercing, unknownFields_fields]
    cases hread : readFields choice.fields declared with
    | ok values =>
      rw [hread] at htold
      exact absurd htold.symm hviolations
    | error told =>
      rw [hread] at htold
      simpa using htold

end Validation
end SqlTemplate
