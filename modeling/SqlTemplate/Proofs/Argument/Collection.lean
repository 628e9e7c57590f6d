import Mathlib.Data.List.Basic
import SqlTemplate.Argument

/-!
# Lists and keyed collections

A collection is a list if it is a sequence, or a mapping from the integers `0`, `1`, ... in this
order. Every other mapping is keyed. The shape of a value tells which of the two it is.
-/
namespace SqlTemplate.Argument

/-- The keys of some entries are the integers from `start` on, in order. -/
def HasPositions (start : ℕ) (entries : List (Argument × Argument)) : Prop :=
  entries.map Prod.fst = (List.range' start entries.length).map fun n => int n

/-- A value is a list of items. -/
inductive IsListOf : Argument → List Argument → Prop
  | sequence (kind : CollectionKind) (items : List Argument) : IsListOf (.sequence kind items) items
  | mapping (kind : CollectionKind) {entries : List (Argument × Argument)}
      (h : HasPositions 0 entries) : IsListOf (.mapping kind entries) (entries.map Prod.snd)

/-- A value is a mapping with entries, and no list. -/
inductive IsKeyed : Argument → List (Argument × Argument) → Prop
  | mapping (kind : CollectionKind) {entries : List (Argument × Argument)}
      (h : ¬HasPositions 0 entries) : IsKeyed (.mapping kind entries) entries

theorem isCounted_iff (start : ℕ) (entries : List (Argument × Argument)) :
    isCounted start entries = true ↔ HasPositions start entries := by
  unfold HasPositions
  induction entries generalizing start with
  | nil => simp [isCounted]
  | cons entry rest ih =>
    obtain ⟨key, value⟩ := entry
    cases key <;> simp [isCounted, List.range'_succ, ih]

theorem shape?_eq_sequence_iff {value : Argument} {items : List Argument} :
    value.shape? = some (.sequence items) ↔ value.IsListOf items := by
  constructor
  · intro h
    cases value with
    | sequence kind =>
      cases h
      exact .sequence kind items
    | mapping kind entries =>
      rw [shape?] at h
      split at h
      · rename_i hcounted
        cases h
        exact .mapping kind ((isCounted_iff 0 entries).mp hcounted)
      · cases h
    | _ => cases h
  · intro h
    cases h with
    | sequence => rfl
    | mapping kind hpositions => rw [shape?, if_pos ((isCounted_iff 0 _).mpr hpositions)]

theorem shape?_eq_mapping_iff {value : Argument} {entries : List (Argument × Argument)} :
    value.shape? = some (.mapping entries) ↔ value.IsKeyed entries := by
  constructor
  · intro h
    cases value with
    | mapping kind =>
      rw [shape?] at h
      split at h
      · cases h
      · rename_i hcounted
        cases h
        exact .mapping kind fun hpositions => hcounted ((isCounted_iff 0 _).mpr hpositions)
    | _ => cases h
  · intro h
    cases h with
    | mapping kind hpositions =>
      rw [shape?, if_neg fun hcounted => hpositions ((isCounted_iff 0 _).mp hcounted)]

end SqlTemplate.Argument
