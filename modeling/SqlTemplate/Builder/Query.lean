import SqlTemplate.Builder
import SqlTemplate.Log

/-!
# Building a query

A build reads the template, binds the arguments to the placeholders in order, renders them, and
resolves the fragments. Whatever comes out, the report tells the events on the way.
-/
namespace SqlTemplate

/-- The outcome of a build and what happened on the way. -/
structure Report where
  outcome : Except Failure Text
  events : List Event

namespace Builder

/-- A placeholder on which rendering failed. -/
structure Refused where
  tag : Text
  index : Nat
  offset : Nat
  failure : Failure

namespace Refused

/-- The failure with the placeholder that it belongs to. -/
def annotated (r : Refused) : Failure :=
  r.failure.annotate (some r.tag) (some r.index)

/-- Only format errors are reported. -/
def events (r : Refused) : List Event :=
  match r.failure with
  | .format e =>
    [.placeholderFailed (Token.placeholder r.tag r.index r.offset).text r.index r.offset e.message]
  | _ => []

end Refused

/-- The token that replaces a placeholder. -/
def bind (b : Builder) (tag : Text) (index offset : Nat) (value : Argument) :
    Except Refused Token :=
  match value with
  | .skip => .ok (.skipMark b.profile.marker)
  | _ =>
    match b.render value tag with
    | .ok t => .ok (.rendered t)
    | .error failure => .error ⟨tag, index, offset, failure⟩

/-- Replaces the placeholders by the arguments in order. Missing arguments are null, arguments that
are left over are not used. -/
def substitute (b : Builder) : List Token → List Argument → Except Refused (List Token)
  | [], _ => .ok []
  | .placeholder tag index offset :: rest, args => do
    let token ← b.bind tag index offset (args.headD .null)
    let tokens ← substitute b rest args.tail
    return token :: tokens
  | t :: rest, args => do
    let tokens ← substitute b rest args
    return t :: tokens

/-- What is reported about the number of arguments. -/
def countEvents (placeholders arguments : Nat) : List Event :=
  if arguments < placeholders then [.missingArguments placeholders arguments]
  else if placeholders < arguments then [.extraArguments (arguments - placeholders)]
  else []

/-- What is reported about the fragments. -/
def dropEvents (dropped : Nat) : List Event :=
  if dropped = 0 then [] else [.fragmentsDropped dropped]

/-- Builds the query of a template and its arguments. -/
def build (b : Builder) (template : Text) (args : List Argument) : Report :=
  let tokens := Token.read template
  let placeholders := Token.placeholderCount tokens
  if b.profile.strict && placeholders != args.length then
    ⟨refusal (.argumentCount placeholders args.length), []⟩
  else
    let events := countEvents placeholders args.length ++ [.compiling placeholders args.length]
    match b.substitute tokens args with
    | .error refused => ⟨.error refused.annotated, events ++ refused.events⟩
    | .ok substituted =>
      let resolution := Fragment.resolve b.profile.marker substituted
      ⟨.ok resolution.text, events ++ dropEvents resolution.dropped⟩

/-- Builds the query of a template and of what a value holds. -/
def buildFrom (b : Builder) (template : Text) (args : Argument) : Report :=
  match args.elements? with
  | some elements => b.build template elements
  | none => ⟨.error (.notIterable args.longKindName), []⟩

end Builder
end SqlTemplate
