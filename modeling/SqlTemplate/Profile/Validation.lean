import SqlTemplate.Argument
import SqlTemplate.Failure

/-!
# Validation of fields

A record declares its fields, each with the kind of its values, a default and a check. Another
library takes the values that are given for the fields by name, or tells all that is wrong with
them. That library is no part of this one: it is a structure of functions, and what is documented of
it is asked for where it is needed. The instance below stands for it where queries are built.
-/
namespace SqlTemplate

/-- Names with values. A name that is given again has its last value, at its first place. -/
abbrev Fields := List (Text × Argument)

/-- The kinds of values that fields are declared with. -/
inductive FieldKind where
  | text
  | truth
  deriving DecidableEq, Repr

namespace FieldKind

/-- The values of a kind. -/
abbrev Value : FieldKind → Type
  | text => Text
  | truth => Bool

/-- A value of a kind as an argument. -/
def argument : (kind : FieldKind) → kind.Value → Argument
  | text, t => .text t
  | truth, b => .bool b

end FieldKind

/-- A field that is declared. Its check tells what is wrong with a value of the kind, if anything
is; nothing is wrong with the default. -/
structure Declaration where
  name : Text
  kind : FieldKind
  check : kind.Value → Option Text := fun _ => none
  default : kind.Value
  default_fit : check default = none := by rfl

/-- The values that pass the check of a field. -/
abbrev Declaration.Value (d : Declaration) : Type :=
  { value : d.kind.Value // d.check value = none }

/-- Values for all fields that are declared, in their order. -/
inductive FieldValues : List Declaration → Type where
  | nil : FieldValues []
  | cons {d : Declaration} {declared : List Declaration} (value : d.Value)
      (rest : FieldValues declared) : FieldValues (d :: declared)

namespace FieldValues

variable {d : Declaration} {declared : List Declaration}

/-- The value of the field declared first. -/
def head : FieldValues (d :: declared) → d.Value
  | cons value _ => value

/-- The values of the other fields. -/
def tail : FieldValues (d :: declared) → FieldValues declared
  | cons _ rest => rest

end FieldValues

/-- A library that finds the values of declared fields. Of a record that is not to change, it tells
what it has against an assignment to the field of a name. -/
structure Validation where
  construct : (declared : List Declaration) → Fields →
    Except (List Violation) (FieldValues declared)
  frozen : Text → List Violation

/-!
## Coercing values

Text fields take texts only; truth fields take truth values, the numbers 0 and 1, and some words.
Bytes stand for the text that they are in UTF-8. All violations are told at once, those of the
declared fields first and in their order.
-/

/-- The rules that a field can break. -/
inductive FieldRule where
  | textExpected
  | textUnreadable
  | truthUnreadable
  | truthExpected
  | checkFailed (problem : Text)
  | unknownField
  | frozenField
  deriving DecidableEq, Repr

namespace FieldRule

/-- The name of a rule. -/
def name : FieldRule → Text
  | textExpected => "string_type".toList
  | textUnreadable => "string_unicode".toList
  | truthUnreadable => "bool_parsing".toList
  | truthExpected => "bool_type".toList
  | checkFailed _ => "value_error".toList
  | unknownField => "extra_forbidden".toList
  | frozenField => "frozen_instance".toList

def message : FieldRule → Text
  | textExpected => "Input should be a valid string".toList
  | textUnreadable =>
    "Input should be a valid string, unable to parse raw data as a unicode string".toList
  | truthUnreadable => "Input should be a valid boolean, unable to interpret input".toList
  | truthExpected => "Input should be a valid boolean".toList
  | checkFailed problem => "Value error, ".toList ++ problem
  | unknownField => "Extra inputs are not permitted".toList
  | frozenField => "Instance is frozen".toList

/-- The rule broken by a field. -/
def violation (rule : FieldRule) (field : Text) : Violation :=
  ⟨field, rule.name, rule.message⟩

end FieldRule

namespace Validation

/-- The value of a field that is given. -/
def valueOf? (fields : Fields) (name : Text) : Option Argument :=
  fields.reverse.lookup name

/-- The words for a truth value. -/
def truthWords : Bool → List Text
  | false => ["0", "off", "f", "false", "n", "no"].map String.toList
  | true => ["1", "on", "t", "true", "y", "yes"].map String.toList

/-- The first integer that is too large for a word of 64 bits with a sign. -/
def wordBound : Int := 0x8000000000000000

/-- The truth value of an integer, which has to be 0 or 1. Integers that do not fit a word of 64
bits are no truth values at all. -/
def truthOfInt (n : Int) : Except FieldRule Bool :=
  if n = 0 then .ok false
  else if n = 1 then .ok true
  else if -wordBound ≤ n ∧ n < wordBound then .error .truthUnreadable
  else .error .truthExpected

/-- The truth value of a binary number, which has to be one of an integer. Here the least integer of
64 bits does not fit any more. -/
def truthOfBinary (x : Binary64) : Except FieldRule Bool :=
  if x.isFinite ∧ Binary64.units x.code % Binary64.unitsPerOne = 0 ∧ -wordBound < x.truncated then
    truthOfInt x.truncated
  else .error .truthExpected

/-- The truth value of a word, in either case of its letters. -/
def truthOfWord (t : Text) : Except FieldRule Bool :=
  let word := t.map Char.toLower
  if (truthWords false).contains word then .ok false
  else if (truthWords true).contains word then .ok true
  else .error .truthUnreadable

/-- The truth value of a field's value. -/
def truthOf : Argument → Except FieldRule Bool
  | .bool b => .ok b
  | .int n => truthOfInt n
  | .binary x => truthOfBinary x
  | .decimal d =>
    match Binary64.ofDecimal? d with
    | some x => truthOfBinary x
    | none => .error .truthExpected
  | .text t => truthOfWord t
  | .bytes bs =>
    match Encoding.utf8Text? bs with
    | some t => truthOfWord t
    | none => .error .truthUnreadable
  | _ => .error .truthExpected

/-- The text of a field's value. -/
def textOf : Argument → Except FieldRule Text
  | .text t => .ok t
  | .bytes bs =>
    match Encoding.utf8Text? bs with
    | some t => .ok t
    | none => .error .textUnreadable
  | _ => .error .textExpected

/-- The value of a kind that a field's value stands for. -/
def valueOfKind : (kind : FieldKind) → Argument → Except FieldRule kind.Value
  | .text, a => textOf a
  | .truth, a => truthOf a

/-- A value that passes the check of its field. -/
def checked (d : Declaration) (value : d.kind.Value) : Except FieldRule d.Value :=
  match h : d.check value with
  | none => .ok ⟨value, h⟩
  | some problem => .error (.checkFailed problem)

/-- The value of a declared field, which is the default if none is given. -/
def readField (fields : Fields) (d : Declaration) : Except (List Violation) d.Value :=
  match valueOf? fields d.name with
  | none => .ok ⟨d.default, d.default_fit⟩
  | some a => (valueOfKind d.kind a >>= checked d).mapError fun rule => [rule.violation d.name]

/-- What is wrong, if anything is. -/
def violationsIn {α : Type} : Except (List Violation) α → List Violation
  | .ok _ => []
  | .error violations => violations

/-- The values of all declared fields. -/
def readFields (fields : Fields) :
    (declared : List Declaration) → Except (List Violation) (FieldValues declared)
  | [] => .ok .nil
  | d :: declared =>
    match readField fields d, readFields fields declared with
    | .ok value, .ok rest => .ok (.cons value rest)
    | value, rest => .error (violationsIn value ++ violationsIn rest)

/-- The fields that are given but not declared, each once. -/
def unknownFields (declared : List Declaration) (fields : Fields) : List Text :=
  (fields.map Prod.fst).eraseDups.filter (!(declared.map Declaration.name).contains ·)

/-- The library that coerces values. -/
def coercing : Validation where
  construct declared fields :=
    match readFields fields declared, unknownFields declared fields with
    | .ok values, [] => .ok values
    | values, unknown =>
      .error (violationsIn values ++ unknown.map FieldRule.unknownField.violation)
  frozen name := [FieldRule.frozenField.violation name]

end Validation
end SqlTemplate
