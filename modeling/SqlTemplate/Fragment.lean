import SqlTemplate.Token

/-!
# Conditional fragments

A fragment is a brace pair with no other brace inside. It is dropped, braces included, when a skip
mark or a literal with the marker in it stands inside; otherwise it stays and loses its braces.
Braces that pair with none stay as text. Rendered values never decide anything, whatever they hold.
-/
namespace SqlTemplate

/-- The marker that stands for a skipped placeholder unless another is chosen. -/
def defaultMarker : Text := "/*skip*/".toList

namespace Fragment

/-- Whether a token inside a fragment has the fragment dropped. -/
def drops (marker : Text) : Token → Bool
  | .skipMark _ => true
  | .literal t => Text.occursIn marker t
  | _ => false

/-- Whether the fragment with these tokens is dropped. -/
def isDropped (marker : Text) (fragment : List Token) : Bool :=
  fragment.any (drops marker)

/-- What is left of a token sequence, and the number of fragments that were dropped. -/
structure Resolution where
  text : Text
  dropped : Nat
  deriving DecidableEq, Repr

namespace Resolution

/-- Text in front of what is left. -/
def prepend (front : Text) (r : Resolution) : Resolution :=
  { r with text := front ++ r.text }

/-- One more dropped fragment in front of what is left. -/
def countDropped (r : Resolution) : Resolution :=
  { r with dropped := r.dropped + 1 }

@[simp] theorem text_prepend (front : Text) (r : Resolution) :
    (r.prepend front).text = front ++ r.text := rfl

@[simp] theorem dropped_prepend (front : Text) (r : Resolution) :
    (r.prepend front).dropped = r.dropped := rfl

@[simp] theorem text_countDropped (r : Resolution) : r.countDropped.text = r.text := rfl

@[simp] theorem dropped_countDropped (r : Resolution) :
    r.countDropped.dropped = r.dropped + 1 := rfl

end Resolution

/-- A fragment that was opened and never closed: its brace is text after all. -/
def unclosed : Option (List Token) → Text
  | none => []
  | some fragment => '{' :: Token.concat fragment

/-- Resolves tokens from left to right. The tokens after an open brace wait as the pending fragment
until the next brace tells what they are. -/
def resolveFrom (marker : Text) : Option (List Token) → List Token → Resolution
  | pending, [] => ⟨unclosed pending, 0⟩
  | pending, .openBrace _ :: rest => (resolveFrom marker (some []) rest).prepend (unclosed pending)
  | none, .closeBrace t :: rest => (resolveFrom marker none rest).prepend t
  | some fragment, .closeBrace _ :: rest =>
    if isDropped marker fragment then (resolveFrom marker none rest).countDropped
    else (resolveFrom marker none rest).prepend (Token.concat fragment)
  | none, t :: rest => (resolveFrom marker none rest).prepend t.text
  | some fragment, t :: rest => resolveFrom marker (some (fragment ++ [t])) rest

/-- Resolves every fragment of a token sequence. -/
def resolve (marker : Text) (tokens : List Token) : Resolution :=
  resolveFrom marker none tokens

/-- Resolves the fragments of text in which a question mark has no meaning. -/
def resolveText (marker : Text) (text : Text) : Resolution :=
  resolve marker (Token.read text false)

end Fragment
end SqlTemplate
