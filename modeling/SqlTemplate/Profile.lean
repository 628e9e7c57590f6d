import SqlTemplate.Fragment
import SqlTemplate.Text.Quoted

/-!
# Profiles

A profile chooses the dialect and the policies of a builder. Its skip marker is a text that a
template can hold as a literal: it is not empty and has no character with a meaning of its own.
-/
namespace SqlTemplate

/-- What makes a text unfit as a skip marker. -/
inductive MarkerProblem where
  | empty
  | reserved (characters : List Char)
  deriving DecidableEq, Repr

namespace MarkerProblem

/-- The characters that a template gives a meaning to, by code point. -/
def reservedCharacters : List Char := ['?', '{', '}']

def message : MarkerProblem → Text
  | empty => "skip_marker must not be empty.".toList
  | reserved characters =>
    "skip_marker must not contain template syntax characters ".toList ++
      Text.quotedList (characters.map fun c => [c]) ++ ".".toList

end MarkerProblem

/-- What is wrong with a marker, if anything is. -/
def markerProblem? (marker : Text) : Option MarkerProblem :=
  if marker.isEmpty then some .empty
  else
    match MarkerProblem.reservedCharacters.filter marker.contains with
    | [] => none
    | characters => some (.reserved characters)

theorem markerProblem?_eq_none_iff (marker : Text) :
    markerProblem? marker = none ↔
      marker ≠ [] ∧ '?' ∉ marker ∧ '{' ∉ marker ∧ '}' ∉ marker := by
  unfold markerProblem?
  cases marker with
  | nil => simp
  | cons c rest =>
    simp only [List.isEmpty_cons, Bool.false_eq_true, if_false]
    split
    · rename_i h
      simp only [MarkerProblem.reservedCharacters, List.filter_eq_nil_iff] at h
      simpa using h
    · rename_i h
      simp only [reduceCtorEq, ne_eq, not_false_eq_true, true_and, false_iff]
      intro absent
      exact h (by
        simp only [MarkerProblem.reservedCharacters, List.filter_eq_nil_iff]
        simpa using absent)

/-- The choices of a builder: the dialect by name, the text that stands for a skipped placeholder,
whether arguments and placeholders must pair up, and whether collections may be empty. -/
structure Profile where
  target : Text := "mysql".toList
  marker : Text := defaultMarker
  strict : Bool := false
  allowEmpty : Bool := true
  marker_fit : markerProblem? marker = none := by decide
  deriving DecidableEq, Repr

namespace Profile

/-- The profile that is used if none is given. -/
def default : Profile := {}

/-- The default profile for a dialect. -/
def forTarget (target : Text) : Profile := { target }

end Profile
end SqlTemplate
