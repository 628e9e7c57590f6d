import SqlTemplate.Failure

/-!
# Escaping for string literals

An escaper turns a text into the inside of a literal in single quotes. One of the two escapers here
calls a function that comes with the server's client and never fails; the other doubles single
quotes and refuses the NUL character, which the literal could not hold at all.
-/
namespace SqlTemplate

/-- Turns a text into the inside of a string literal, or fails. -/
abbrev Escaper := Text → Except Failure Text

namespace Escaping

def nul : Char := '\x00'

def substitute : Char := '\x1a'

/-- A character behind a backslash, where it needs one. -/
def backslashed (c : Char) : Text :=
  if c = nul then ['\\', '0']
  else if c = '\n' then ['\\', 'n']
  else if c = '\r' then ['\\', 'r']
  else if c = substitute then ['\\', 'Z']
  else if c = '\\' || c = Text.singleQuote || c = Text.doubleQuote then ['\\', c]
  else [c]

/-- A text with a backslash in front of what a literal could not hold. -/
def withBackslashes (t : Text) : Text :=
  t.flatMap backslashed

/-- A character, twice if it is a single quote. -/
def doubled (c : Char) : Text :=
  if c = Text.singleQuote then [c, c] else [c]

/-- Escapes by the function of the client. -/
def backslashing (escapeString : Text → Text := withBackslashes) : Escaper := fun t =>
  .ok (escapeString t)

/-- Escapes by doubling single quotes. -/
def doubling : Escaper := fun t =>
  if t.contains nul then .error (.format ⟨.nulCharacter, none, none, some "str".toList⟩)
  else .ok (t.flatMap doubled)

end Escaping

/-!
## Escapers from connections

An open connection may know better than the library how its server escapes. Its method replies with
a text, or with bytes in the encoding of the connection, which is UTF-8 unless it names another.
-/

/-- What the escape method of a connection replies. -/
inductive Reply where
  | text (text : Text)
  | bytes (bytes : List UInt8)
  | foreign (kind : Text)
  deriving DecidableEq, Repr

/-- A connection with the name of its kind, its escape method if it has one that can be called, and
the name of its encoding. -/
structure Connection where
  kind : Text
  escape? : Option (Text → Reply)
  encoding : Option Text

namespace Connection

/-- The name of the encoding that the connection's bytes are in. An empty name is none. -/
def encodingName (c : Connection) : Text :=
  match c.encoding with
  | none | some [] => Encoding.utf8.name
  | some name => name

/-- The text of some bytes in an encoding. -/
def decode (encoding : Encoding) (bytes : List UInt8) : Except Failure Text :=
  match encoding.decode bytes with
  | .ok t => .ok t
  | .error position => .error (.undecodable encoding (bytes.getD position 0) position)

/-- The text that a reply stands for. -/
def textOfReply (c : Connection) : Reply → Except Failure Text
  | .text t => .ok t
  | .bytes bytes =>
    match Encoding.ofName? c.encodingName with
    | none => .error (.unknownEncoding c.encodingName)
    | some encoding => decode encoding bytes
  | .foreign kind => .error (.unfitReply kind)

/-- The escaper that asks the connection, which must have the method. -/
def escaper (c : Connection) : Except Failure Escaper :=
  match c.escape? with
  | none => .error (.noEscapeMethod c.kind)
  | some method => .ok fun t => c.textOfReply (method t)

end Connection

/-- Where an escaper comes from: nowhere, from the caller, or from a connection. -/
inductive EscaperSource where
  | absent
  | function (escaper : Escaper)
  | connection (connection : Connection)

/-- The escaper of a source, if there is one. -/
def EscaperSource.escaper? : EscaperSource → Except Failure (Option Escaper)
  | absent => .ok none
  | function escaper => .ok (some escaper)
  | connection c => c.escaper.map some

end SqlTemplate
