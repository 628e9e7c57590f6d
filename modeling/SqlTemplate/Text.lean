/-!
# Texts

Everything the library reads and writes is a sequence of code points, so a text is the list of its
characters: lengths, offsets and the order of texts count code points.
-/
namespace SqlTemplate

/-- A text is the list of its code points. -/
abbrev Text := List Char

namespace Text

/-- Whether `part` stands somewhere in a text without gaps. The empty text stands in every text. -/
def occursIn (part : Text) : Text → Bool
  | [] => part.isEmpty
  | c :: rest => part.isPrefixOf (c :: rest) || occursIn part rest

theorem occursIn_iff (part whole : Text) : occursIn part whole = true ↔ part <:+: whole := by
  induction whole with
  | nil => simp [occursIn]
  | cons c rest ih => simp [occursIn, ih, List.infix_cons_iff]

/-- Several texts as one, with a comma and a blank between neighbours. -/
def commaSeparated (parts : List Text) : Text :=
  [',', ' '].intercalate parts

@[simp] theorem commaSeparated_nil : commaSeparated [] = [] := rfl

@[simp] theorem commaSeparated_singleton (t : Text) : commaSeparated [t] = t :=
  List.intercalate_singleton

theorem commaSeparated_cons_cons (t u : Text) (parts : List Text) :
    commaSeparated (t :: u :: parts) = t ++ ',' :: ' ' :: commaSeparated (u :: parts) := by
  simp [commaSeparated, List.intercalate_cons_cons]

theorem commaSeparated_eq_nil_iff {parts : List Text} (h : ∀ t ∈ parts, t ≠ []) :
    commaSeparated parts = [] ↔ parts = [] := by
  cases parts with
  | nil => simp
  | cons t rest =>
    cases rest with
    | nil => simpa using h t
    | cons u rest => simp [commaSeparated_cons_cons]

/-!
## Blanks

The characters that surround a number without belonging to it: those with the Unicode property
White_Space, and the four separators U+001C to U+001F.
-/

def isBlank (c : Char) : Bool :=
  let n := c.toNat
  (0x9 ≤ n && n ≤ 0xd) || (0x1c ≤ n && n ≤ 0x20) || n == 0x85 || n == 0xa0 || n == 0x1680 ||
    (0x2000 ≤ n && n ≤ 0x200a) || n == 0x2028 || n == 0x2029 || n == 0x202f || n == 0x205f ||
    n == 0x3000

/-- A text without the blanks at its two ends. -/
def strip (t : Text) : Text :=
  ((t.dropWhile isBlank).reverse.dropWhile isBlank).reverse

end Text
end SqlTemplate
