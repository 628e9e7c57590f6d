import SqlTemplate.Argument
import SqlTemplate.Dialect
import SqlTemplate.Profile
import SqlTemplate.Text

/-!
# Rendering one argument

A builder renders arguments for placeholders. The tag of the placeholder chooses the rule: the bare
rule takes null, truth values, numbers and strings; the others take integers, floats, collections
and identifiers. Elements of collections follow the bare rule, so collections do not nest.
-/
namespace SqlTemplate

/-- A compiler for the dialect and a profile for the policies, and the memory that there is: the
number of digits that an integer made from a decimal number may have. -/
structure Builder where
  compiler : Compiler
  profile : Profile
  memory : Nat

/-- The rules for rendering an argument. -/
inductive Tag where
  | bare
  | integer
  | float
  | array
  | identifier
  deriving DecidableEq, Repr

namespace Tag

/-- The text of a tag, which follows the question mark. -/
def text : Tag → Text
  | bare => []
  | integer => ['d']
  | float => ['f']
  | array => ['a']
  | identifier => ['#']

/-- The tag with a text. -/
def ofText? : Text → Option Tag
  | [] => some bare
  | ['d'] => some integer
  | ['f'] => some float
  | ['a'] => some array
  | ['#'] => some identifier
  | _ => none

@[simp] theorem ofText?_text (tag : Tag) : ofText? tag.text = some tag := by
  cases tag <;> rfl

end Tag

/-- What the text of a number is read as: an integer if it is one, or the nearest binary number. -/
inductive Reading where
  | integer (value : Int)
  | binary (value : Binary64)
  deriving DecidableEq, Repr

/-- Reads a number from a text, apart from the blanks around it. -/
def Reading.ofText? (t : Text) : Option Reading :=
  let inner := Text.strip t
  match Numeral.integer? inner with
  | some n => some (.integer n)
  | none => ((Decimal.ofNumeral? inner).bind Binary64.ofDecimal?).map .binary

namespace Builder

def nullText : Text := "NULL".toList

/-- A format error that knows its cause and the kind of value. -/
def refusal {α : Type} (problem : FormatProblem) (kind : Option Text := none)
    (tag : Option Text := none) : Except Failure α :=
  .error (.format ⟨problem, tag, none, kind⟩)

/-- A truth value as a number. -/
def boolText (b : Bool) : Text :=
  if b then ['1'] else ['0']

/-- The text of an integer that is short enough. -/
def integerText (n : Int) : Except Failure Text :=
  if Numeral.isShort n then .ok (Numeral.ofInt n)
  else refusal .longInteger (some "int".toList)

/-- The text of a finite number. -/
def numberText (x : Number) : Except Failure Text :=
  if x.isFinite then .ok x.toText
  else refusal (.noLiteral x.quoted) (some x.kindName)

/-- The text of a finite number without its fraction. The integer is made first, whether it can be
written or not. -/
def truncatedText (memory : Nat) (x : Number) : Except Failure Text :=
  match x with
  | .binary b =>
    if b.isFinite then integerText b.truncated
    else refusal (.notTruncatable x.quoted) none (some Tag.integer.text)
  | .decimal (.finite negative coefficient e) =>
    if Decimal.exhausts memory coefficient e then .error .outOfMemory
    else
      match Decimal.truncated? negative coefficient e with
      | some n => integerText n
      | none => refusal .longInteger (some "int".toList)
  | .decimal _ => refusal (.notTruncatable x.quoted) none (some Tag.integer.text)

/-- The text of a number as the nearest binary number. -/
def floatText (x : Number) : Except Failure Text :=
  match x.toBinary64? with
  | some b => numberText (.binary b)
  | none => .error .signalingNaN

/-- The text of an integer as the nearest binary number, which must be finite. -/
def floatOfIntText (n : Int) : Except Failure Text :=
  match Binary64.ofInt? n with
  | some b => numberText (.binary b)
  | none => refusal .outOfRange none (some Tag.float.text)

/-- The number that a string denotes, for a tag that asks for one. -/
def readNumber (t : Text) (tag : Tag) : Except Failure Reading :=
  match Reading.ofText? t with
  | some r => .ok r
  | none => refusal (.notNumeral t tag.text) (some "str".toList) (some tag.text)

/-- Renders a value by the bare rule. -/
def renderBare (b : Builder) (value : Argument) : Except Failure Text :=
  match value.shape? with
  | some .null => .ok nullText
  | some (.bool v) => .ok (boolText v)
  | some (.int n) => integerText n
  | some (.number x) => numberText x
  | some (.text t) => b.compiler.quoteString t
  | _ => refusal .unfitValue (some value.kindName)

/-- Renders a value as an integer. -/
def renderInteger (b : Builder) (value : Argument) : Except Failure Text :=
  match value.shape? with
  | none => refusal .unfitValue (some value.kindName)
  | some .null => .ok nullText
  | some (.bool v) => .ok (boolText v)
  | some (.int n) => integerText n
  | some (.number x) => truncatedText b.memory x
  | some (.text t) => do
    match ← readNumber t .integer with
    | .integer n => integerText n
    | .binary x => truncatedText b.memory (.binary x)
  | some _ => refusal (.notNumber Tag.integer.text) (some value.kindName) (some Tag.integer.text)

/-- Renders a value as a float. -/
def renderFloat (value : Argument) : Except Failure Text :=
  match value.shape? with
  | none => refusal .unfitValue (some value.kindName)
  | some .null => .ok nullText
  | some (.bool v) => floatOfIntText (if v then 1 else 0)
  | some (.int n) => floatOfIntText n
  | some (.number x) => floatText x
  | some (.text t) => do
    match ← readNumber t .float with
    | .integer n => floatOfIntText n
    | .binary x => floatText (.binary x)
  | some _ => refusal (.notNumber Tag.float.text) (some value.kindName) (some Tag.float.text)

/-- Quotes one name, which is a string or an integer. -/
def quoteName (b : Builder) (name : Argument) : Except Failure Text :=
  match name with
  | .text t => b.compiler.quoteIdentifier t
  | .int n => integerText n >>= b.compiler.quoteIdentifier
  | _ => refusal (.notIdentifier name.kindName) (some name.kindName)

/-- Renders a value as an identifier, or as a list of them. -/
def renderIdentifier (b : Builder) (value : Argument) : Except Failure Text :=
  match value.shape? with
  | none => refusal .unfitValue (some value.kindName)
  | some (.sequence items) => (items.mapM b.quoteName).map Text.commaSeparated
  | some _ => b.quoteName value

/-- Renders an entry of a mapping as an assignment. -/
def renderEntry (b : Builder) (entry : Argument × Argument) : Except Failure Text := do
  let key ← b.quoteName entry.1
  let value ← b.renderBare entry.2
  return key ++ " = ".toList ++ value

/-- Renders a collection: the elements of a sequence, the entries of a mapping. -/
def renderArray (b : Builder) (value : Argument) : Except Failure Text :=
  match value.shape? with
  | none => refusal .unfitValue (some value.kindName)
  | some (.sequence items) =>
    if items.isEmpty && !b.profile.allowEmpty then
      refusal .emptyCollection (some value.kindName) (some Tag.array.text)
    else (items.mapM b.renderBare).map Text.commaSeparated
  | some (.mapping entries) => (entries.mapM b.renderEntry).map Text.commaSeparated
  | some _ => refusal .notCollection (some value.kindName) (some Tag.array.text)

/-- Renders a value by the rule of a tag. -/
def renderBy (b : Builder) (value : Argument) : Tag → Except Failure Text
  | .bare => b.renderBare value
  | .integer => b.renderInteger value
  | .float => renderFloat value
  | .array => b.renderArray value
  | .identifier => b.renderIdentifier value

/-- Renders a value for a placeholder with the given tag. Errors know the tag afterwards. -/
def render (b : Builder) (value : Argument) (tag : Text) : Except Failure Text :=
  match Tag.ofText? tag with
  | none => refusal (.unknownTag tag) none (some tag)
  | some t => (b.renderBy value t).mapError (·.annotate (some tag) none)

end Builder
end SqlTemplate
