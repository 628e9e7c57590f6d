import SqlTemplate.Text

/-!
# Tokens of a template

A template is a sequence of literal runs, placeholders and braces. Substitution replaces each
placeholder by a rendered value or by a skip mark, so that all stages share one type of tokens.
-/
namespace SqlTemplate

/-- A token. The tag of a placeholder is the text after its question mark; its index counts the
placeholders before it, its offset the code points before it. -/
inductive Token where
  | literal (text : Text)
  | placeholder (tag : Text) (index offset : Nat)
  | openBrace (text : Text)
  | closeBrace (text : Text)
  | rendered (text : Text)
  | skipMark (text : Text)
  deriving DecidableEq, Repr

namespace Token

/-- The text that a token stands for. -/
def text : Token → Text
  | literal t | openBrace t | closeBrace t | rendered t | skipMark t => t
  | placeholder tag _ _ => '?' :: tag

/-- The texts of some tokens, one after the other. -/
def concat (tokens : List Token) : Text :=
  tokens.flatMap text

@[simp] theorem concat_nil : concat [] = [] := rfl

@[simp] theorem concat_cons (t : Token) (ts : List Token) :
    concat (t :: ts) = t.text ++ concat ts := rfl

@[simp] theorem concat_append (ts us : List Token) :
    concat (ts ++ us) = concat ts ++ concat us := by
  simp [concat]

def isPlaceholder : Token → Bool
  | placeholder .. => true
  | _ => false

def isBrace : Token → Bool
  | openBrace _ | closeBrace _ => true
  | _ => false

/-- The number of placeholders among some tokens. -/
def placeholderCount (tokens : List Token) : Nat :=
  tokens.countP isPlaceholder

/-!
## Reading tokens from a template

One pass from left to right. Braces are tokens of one character, a question mark takes the type
letter after it, if there is one, and all else gathers in maximal literal runs. Text that has been
substituted already is read with placeholders off: there a question mark is an ordinary character.

The tokens read lose nothing: their texts, one after the other, are the template.
-/

/-- The characters that a question mark takes as a type. -/
def isTypeLetter (c : Char) : Bool :=
  c = 'd' || c = 'f' || c = 'a' || c = '#'

/-- Puts a character in front of a literal run, which it starts where there is none. -/
def consLiteral (c : Char) : List Token → List Token
  | literal t :: rest => literal (c :: t) :: rest
  | tokens => literal [c] :: tokens

@[simp] theorem concat_consLiteral (c : Char) (tokens : List Token) :
    concat (consLiteral c tokens) = c :: concat tokens := by
  unfold consLiteral
  split <;> rfl

/-- Puts a placeholder in front of the tokens after its question mark. It takes its type letter from
the literal run that follows, if that starts with one. -/
def consPlaceholder (index offset : Nat) : List Token → List Token
  | literal (c :: t) :: rest =>
    if isTypeLetter c then
      placeholder [c] index offset :: (if t.isEmpty then rest else literal t :: rest)
    else placeholder [] index offset :: literal (c :: t) :: rest
  | tokens => placeholder [] index offset :: tokens

@[simp] theorem concat_consPlaceholder (index offset : Nat) (tokens : List Token) :
    concat (consPlaceholder index offset tokens) = '?' :: concat tokens := by
  unfold consPlaceholder
  split
  · rename_i c t rest
    cases t <;> by_cases h : isTypeLetter c = true <;> simp [h, text]
  · rfl

/-- Reads the rest of a template before which `index` placeholders and `offset` code points
stand. -/
def readFrom (placeholders : Bool) (index offset : Nat) : Text → List Token
  | [] => []
  | c :: rest =>
    if c = '{' then openBrace [c] :: readFrom placeholders index (offset + 1) rest
    else if c = '}' then closeBrace [c] :: readFrom placeholders index (offset + 1) rest
    else if placeholders ∧ c = '?' then
      consPlaceholder index offset (readFrom placeholders (index + 1) (offset + 1) rest)
    else consLiteral c (readFrom placeholders index (offset + 1) rest)

/-- The tokens of a template. -/
def read (template : Text) (placeholders : Bool := true) : List Token :=
  readFrom placeholders 0 0 template

theorem concat_readFrom (placeholders : Bool) (index offset : Nat) (template : Text) :
    concat (readFrom placeholders index offset template) = template := by
  fun_induction readFrom placeholders index offset template <;> simp_all [text]

@[simp] theorem concat_read (template : Text) (placeholders : Bool) :
    concat (read template placeholders) = template :=
  concat_readFrom placeholders 0 0 template

end Token
end SqlTemplate
