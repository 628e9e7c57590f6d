import SqlTemplate.Numeral
import SqlTemplate.Profile
import SqlTemplate.Text.Encoding

/-!
# Failures

A failure is a cause, and its message follows from the cause. A format error also knows the
placeholder that it belongs to, as far as the place that found the error knew it; places further out
fill in what is missing and change nothing that is known.
-/
namespace SqlTemplate

/-- Why an argument has no text for a placeholder. -/
inductive FormatProblem where
  | unknownTag (tag : Text)
  | unfitValue
  | longInteger
  | notNumeral (text tag : Text)
  | notIdentifier (kind : Text)
  | emptyCollection
  | notCollection
  | notNumber (tag : Text)
  | outOfRange
  | notTruncatable (shown : Text)
  | noLiteral (shown : Text)
  | nulCharacter
  | argumentCount (expected received : Int)
  | told (message : Text)
  deriving DecidableEq, Repr

def FormatProblem.message : FormatProblem → Text
  | unknownTag tag => "Unknown placeholder tag: ?".toList ++ tag
  | unfitValue => "Invalid type for placeholder".toList
  | longInteger => "Integer is too large to render as a SQL literal".toList
  | notNumeral text tag =>
    "Cannot convert ".toList ++ Text.quoted text ++ " to a number for ?".toList ++ tag
  | notIdentifier kind => "Identifier must be a string, got ".toList ++ kind
  | emptyCollection => "Empty collection given for ?a".toList
  | notCollection => "Expected a sequence or mapping for ?a".toList
  | notNumber tag => "Expected a number for ?".toList ++ tag
  | outOfRange => "Number out of float range for ?f".toList
  | notTruncatable shown => "Cannot convert ".toList ++ shown ++ " to an integer for ?d".toList
  | noLiteral shown => shown ++ " has no SQL literal form".toList
  | nulCharacter => "NUL character cannot be embedded in a string literal".toList
  | argumentCount expected received =>
    "Template has ".toList ++ Numeral.ofInt expected ++ " placeholder(s) but ".toList ++
      Numeral.ofInt received ++ " argument(s) were given.".toList
  | told message => message

/-- A problem with the placeholder's tag and index and with the name of the value's kind, as far as
they are known. -/
structure FormatError where
  problem : FormatProblem
  tag : Option Text := none
  position : Option Int := none
  kind : Option Text := none
  deriving DecidableEq, Repr

/-- What an error report tells beside the message. -/
inductive Details where
  | count (expected received : Int)
  | context (placeholder : Option Text) (position : Option Int) (kind : Option Text)
  deriving DecidableEq, Repr

namespace FormatError

def message (e : FormatError) : Text :=
  e.problem.message

/-- Fills in the tag and the position where they are missing. -/
def annotate (e : FormatError) (tag : Option Text) (position : Option Int) : FormatError :=
  { e with tag := e.tag.or tag, position := e.position.or position }

@[simp] theorem problem_annotate (e : FormatError) (tag : Option Text) (position : Option Int) :
    (e.annotate tag position).problem = e.problem := rfl

@[simp] theorem kind_annotate (e : FormatError) (tag : Option Text) (position : Option Int) :
    (e.annotate tag position).kind = e.kind := rfl

@[simp] theorem message_annotate (e : FormatError) (tag : Option Text) (position : Option Int) :
    (e.annotate tag position).message = e.message := rfl

/-- The code of an error in reports. -/
def code (e : FormatError) : Text :=
  match e.problem with
  | .argumentCount _ _ => "ARGUMENT_COUNT".toList
  | _ => "FORMAT_ERROR".toList

def details (e : FormatError) : Details :=
  match e.problem with
  | .argumentCount expected received => .count expected received
  | _ => .context (e.tag.map ('?' :: ·)) e.position e.kind

end FormatError

/-- Why no compiler is found. -/
inductive CompilationProblem where
  | unsupportedTarget (name : Text) (registered : List Text)
  | told (message : Text)
  deriving DecidableEq, Repr

def CompilationProblem.message : CompilationProblem → Text
  | unsupportedTarget name registered =>
    "Unsupported dialect target: '".toList ++ name ++ "'. Registered targets: ".toList ++
      Text.quotedList registered ++ ".".toList
  | told message => message

/-- Why a profile is not made. -/
inductive ProfileProblem where
  | marker (problem : MarkerProblem)
  | told (message : Text)
  deriving DecidableEq, Repr

def ProfileProblem.message : ProfileProblem → Text
  | marker problem => problem.message
  | told message => message

/-- A field with the rule that its value breaks, by name, and what is told of it. -/
structure Violation where
  field : Text
  rule : Text
  message : Text
  deriving DecidableEq, Repr

/-- Why a name in capitals gives no level. Two such names stand for something else: one for the
usual layout of lines, the other for the table of all layouts. -/
inductive LevelProblem where
  | unknown (name : Text)
  | layout
  | layouts
  deriving DecidableEq, Repr

namespace LevelProblem

/-- The usual layout of lines. -/
def usualLayout : Text := "%(levelname)s:%(name)s:%(message)s".toList

/-- The table of all layouts, as messages show it. -/
def shownLayouts : Text :=
  "\x7b'%': (<class 'logging.PercentStyle'>, '%(levelname)s:%(name)s:%(message)s'), ".toList ++
    "'\x7b': (<class 'logging.StrFormatStyle'>, ".toList ++
    "'\x7blevelname\x7d:\x7bname\x7d:\x7bmessage\x7d'), ".toList ++
    "'$': (<class 'logging.StringTemplateStyle'>, ".toList ++
    "'$\x7blevelname\x7d:$\x7bname\x7d:$\x7bmessage\x7d')\x7d".toList

def message : LevelProblem → Text
  | unknown name => "module 'logging' has no attribute '".toList ++ name ++ "'".toList
  | layout => "Unknown level: ".toList ++ Text.quoted usualLayout
  | layouts => "Level not an integer or a valid string: ".toList ++ shownLayouts

end LevelProblem

/-- All that can go wrong. The failures after `general` are not the library's own: they come from
numbers, connections and escapers that it calls on, from arguments that it goes through, or from the
memory that is left. -/
inductive Failure where
  | format (error : FormatError)
  | compilation (problem : CompilationProblem) (target : Option Text)
  | profile (problem : ProfileProblem) (field : Option Text)
  | general (message : Text)
  | validation (violations : List Violation)
  | signalingNaN
  | outOfMemory
  | notIterable (kind : Text)
  | noEscapeMethod (kind : Text)
  | unfitReply (kind : Text)
  | undecodable (encoding : Encoding) (byte : UInt8) (position : Nat)
  | unknownEncoding (name : Text)
  | level (problem : LevelProblem)
  | unknownBuilder (id : Text)
  | raised (kind message : Text)
  deriving DecidableEq, Repr

namespace Failure

def message : Failure → Text
  | format e => e.message
  | compilation problem _ => problem.message
  | profile problem _ => problem.message
  | general message => message
  | validation violations => "; ".toList.intercalate (violations.map (·.message))
  | signalingNaN => "cannot convert signaling NaN to float".toList
  | outOfMemory => []
  | notIterable kind => '\x27' :: kind ++ "' object is not iterable".toList
  | noEscapeMethod kind =>
    kind ++ " does not provide escape_string(); pass an explicit escape callable instead.".toList
  | unfitReply kind =>
    "escape_string() returned ".toList ++ kind ++ ", expected str or bytes".toList
  | undecodable encoding byte position =>
    '\x27' :: encoding.name ++ "' codec can't decode byte 0x".toList ++
      Text.hexadecimal 2 byte.toNat ++ " in position ".toList ++ Numeral.ofNat position ++
      (match encoding with
        | .ascii => ": ordinal not in range(128)".toList
        | .utf8 | .latin1 => ": invalid byte".toList)
  | unknownEncoding name => "unknown encoding: ".toList ++ name
  | level problem => problem.message
  | unknownBuilder id => Text.quoted id
  | raised _ message => message

/-- Fills in the placeholder of a format error; other failures stay. -/
def annotate (f : Failure) (tag : Option Text) (position : Option Int) : Failure :=
  match f with
  | format e => format (e.annotate tag position)
  | other => other

@[simp] theorem message_annotate (f : Failure) (tag : Option Text) (position : Option Int) :
    (f.annotate tag position).message = f.message := by
  cases f <;> rfl

end Failure
end SqlTemplate
