import SqlTemplate.Binary64
import SqlTemplate.Text.Quoted

/-!
# Arguments

An argument is a value of any kind that a caller may bind to a placeholder. Its kind has a name,
which error reports give.
-/
namespace SqlTemplate

/-- The kind of a sequence or of a mapping. Kinds differ in name only, and any name may be one: that
of a built-in kind, or of one that is made from it. -/
structure CollectionKind where
  name : Text
  deriving DecidableEq, Repr

namespace CollectionKind

def list : CollectionKind := ⟨"list".toList⟩

def tuple : CollectionKind := ⟨"tuple".toList⟩

def plain : CollectionKind := ⟨"dict".toList⟩

def ordered : CollectionKind := ⟨"OrderedDict".toList⟩

def readOnly : CollectionKind := ⟨"mappingproxy".toList⟩

end CollectionKind

/-- A value bound to a placeholder. Mappings keep the order of their entries; foreign values are
known by the name of their kind and by the values they hold, if they can be gone through. Integers,
binary and decimal numbers and texts are of the kinds themselves: a kind that is made from one of
these and shows its values by texts of its own is not among the arguments. -/
inductive Argument where
  | null
  | bool (value : Bool)
  | int (value : Int)
  | binary (value : Binary64)
  | decimal (value : Decimal)
  | text (value : Text)
  | sequence (kind : CollectionKind) (items : List Argument)
  | mapping (kind : CollectionKind) (entries : List (Argument × Argument))
  | skip
  | bytes (value : List UInt8)
  | foreign (kind : Text) (held : Option (List Argument))
  deriving Inhabited, Repr

namespace Argument

/-- The name of a value's kind. -/
def kindName : Argument → Text
  | null => "NoneType".toList
  | bool _ => "bool".toList
  | int _ => "int".toList
  | binary _ => "float".toList
  | decimal _ => "Decimal".toList
  | text _ => "str".toList
  | sequence kind _ => kind.name
  | mapping kind _ => kind.name
  | skip => "Skip".toList
  | bytes _ => "bytes".toList
  | foreign kind _ => kind

/-- The kind's name with the module it comes from, where that is part of it. -/
def longKindName : Argument → Text
  | decimal _ => "decimal.Decimal".toList
  | a => a.kindName

def isSkip : Argument → Bool
  | skip => true
  | _ => false

/-- How messages show the value that skips a fragment. -/
def skipText : Text := "SKIP".toList

/-- The values that a value holds one after the other: the items of a sequence, the keys of a
mapping, the characters of a text, the numbers of bytes. Other values of the library's own kinds
hold none to go through. -/
def elements? : Argument → Option (List Argument)
  | sequence _ items => some items
  | mapping _ entries => some (entries.map Prod.fst)
  | text t => some (t.map fun c => text [c])
  | bytes bs => some (bs.map fun b => int b.toNat)
  | foreign _ held => held
  | _ => none

end Argument

/-!
## Shapes of arguments

What can be rendered falls into a closed set of shapes. A mapping whose keys are the integers `0`,
`1`, ... in this order has the shape of a sequence, and so has every empty collection.
-/

/-- A number that may have a fraction. -/
inductive Number where
  | binary (value : Binary64)
  | decimal (value : Decimal)
  deriving DecidableEq, Repr

namespace Number

def isFinite : Number → Bool
  | binary x => x.isFinite
  | decimal d => d.isFinite

/-- The text of a number. -/
def toText : Number → Text
  | binary x => x.toText
  | decimal d => d.toText

/-- How messages show a number. -/
def quoted : Number → Text
  | binary x => x.toText
  | decimal d => d.quoted

def kindName : Number → Text
  | binary _ => "float".toList
  | decimal _ => "Decimal".toList

/-- The nearest binary number. A signaling NaN has none. -/
def toBinary64? : Number → Option Binary64
  | binary x => some x
  | decimal d => Binary64.ofDecimal? d

end Number

/-- The shape of an argument that can be rendered. -/
inductive Shape where
  | null
  | bool (value : Bool)
  | int (value : Int)
  | number (value : Number)
  | text (value : Text)
  | sequence (items : List Argument)
  | mapping (entries : List (Argument × Argument))
  | skip
  deriving Repr

namespace Argument

/-- Whether the keys of some entries are the integers from `start` on, in order. -/
def isCounted (start : Nat) : List (Argument × Argument) → Bool
  | [] => true
  | (int key, _) :: rest => key == start && isCounted (start + 1) rest
  | _ :: _ => false

/-- The shape of a value; bytes and foreign values have none. -/
def shape? : Argument → Option Shape
  | null => some .null
  | bool b => some (.bool b)
  | int n => some (.int n)
  | binary x => some (.number (.binary x))
  | decimal d => some (.number (.decimal d))
  | text t => some (.text t)
  | sequence _ items => some (.sequence items)
  | mapping _ entries =>
    if isCounted 0 entries then some (.sequence (entries.map Prod.snd)) else some (.mapping entries)
  | skip => some .skip
  | bytes _ => none
  | foreign .. => none

end Argument
end SqlTemplate
