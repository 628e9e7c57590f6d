import SqlTemplate.Text

/-!
# Encodings of texts as bytes

Texts come from elsewhere as bytes in one of three encodings. Decoding either reads all bytes or
tells the position of the first one that no character can start with or go on with.
-/
namespace SqlTemplate

inductive Encoding where
  | utf8
  | latin1
  | ascii
  deriving DecidableEq, Repr

namespace Encoding

def name : Encoding → Text
  | utf8 => "utf-8".toList
  | latin1 => "latin-1".toList
  | ascii => "ascii".toList

/-- The encoding of a name; UTF-8 has two. -/
def ofName? (t : Text) : Option Encoding :=
  if t = "utf-8".toList ∨ t = "utf8".toList then some utf8
  else if t = "latin-1".toList then some latin1
  else if t = "ascii".toList then some ascii
  else none

/-- The bytes of a text in UTF-8. -/
def utf8Bytes (t : Text) : List UInt8 :=
  t.flatMap String.utf8EncodeChar

/-- The text with the given bytes in UTF-8, if they are one. -/
def utf8Text? (bytes : List UInt8) : Option Text :=
  bytes.toByteArray.utf8Decode?.map Array.toList

@[simp] theorem utf8Text?_utf8Bytes (t : Text) : utf8Text? (utf8Bytes t) = some t := by
  have := List.utf8Decode?_utf8Encode (l := t)
  simp only [List.utf8Encode] at this
  simp [utf8Text?, utf8Bytes, this]

/-- Bytes as the characters with their numbers. -/
def charactersOf (bytes : List UInt8) : Text :=
  bytes.map fun b => Char.ofNat b.toNat

/-- The text of some bytes, or the position of the first byte that cannot be decoded. -/
def decode (bytes : List UInt8) : Encoding → Except Nat Text
  | latin1 => .ok (charactersOf bytes)
  | ascii =>
    match bytes.findIdx? fun b => 128 ≤ b with
    | none => .ok (charactersOf bytes)
    | some position => .error position
  | utf8 =>
    match utf8Text? bytes with
    | some t => .ok t
    | none =>
      let readable (n : Nat) := (utf8Text? (bytes.take n)).isSome
      .error (((List.range bytes.length).filter readable).getLastD 0)

end Encoding
end SqlTemplate
