import SqlTemplate.Text

/-!
# Decimal numerals

Numbers are written with the ASCII digits, without superfluous zeros. A numeral of digits and a
place for the decimal point is laid out with the point in place, as in `0.05`, `1.5` and `500`.
-/
namespace SqlTemplate.Numeral

/-- Integers with more digits than this are neither read nor written. -/
def digitLimit : Nat := 4300

/-- The digits of a natural number. -/
def ofNat (n : Nat) : Text :=
  Nat.toDigits 10 n

/-- An integer, with a minus sign if it is negative. -/
def ofInt : Int → Text
  | .ofNat n => ofNat n
  | .negSucc n => '-' :: ofNat (n + 1)

/-- The number of digits that a natural number is written with. -/
def length (n : Nat) : Nat :=
  (ofNat n).length

/-- Whether an integer has few enough digits to be written. -/
def isShort (n : Int) : Bool :=
  n.natAbs < Nat.pow 10 digitLimit

def minus (negative : Bool) : Text :=
  if negative then ['-'] else []

def zeros (n : Nat) : Text :=
  List.replicate n '0'

/-- Digits with the decimal point behind the first `point` of them, where zeros fill the gap if the
point lies outside the digits. There is no point behind the last digit. -/
def positional (digits : Text) (point : Int) : Text :=
  if point ≤ 0 then '0' :: '.' :: zeros (-point).toNat ++ digits
  else if digits.length ≤ point then digits ++ zeros (point - digits.length).toNat
  else digits.take point.toNat ++ '.' :: digits.drop point.toNat

/-- Digits with the decimal point behind the first of them, if there are more. -/
def leading : Text → Text
  | [] => []
  | [d] => [d]
  | d :: rest => d :: '.' :: rest

/-- An exponent with its sign, which is written always, and at least `width` digits. -/
def exponent (width : Nat) (e : Int) : Text :=
  let digits := ofNat e.natAbs
  (if e < 0 then '-' else '+') :: zeros (width - digits.length) ++ digits

end SqlTemplate.Numeral

/-!
## Decimal digits

The decimal digits of Unicode 14 (general category Nd) stand in runs of ten consecutive code points,
from the zero to the nine of one script or style.
-/

namespace SqlTemplate.Text

/-- The code points of the zeros. -/
def digitZeros : List Nat :=
  [0x30, 0x660, 0x6f0, 0x7c0, 0x966, 0x9e6, 0xa66, 0xae6, 0xb66, 0xbe6, 0xc66, 0xce6, 0xd66,
   0xde6, 0xe50, 0xed0, 0xf20, 0x1040, 0x1090, 0x17e0, 0x1810, 0x1946, 0x19d0, 0x1a80, 0x1a90,
   0x1b50, 0x1bb0, 0x1c40, 0x1c50, 0xa620, 0xa8d0, 0xa900, 0xa9d0, 0xa9f0, 0xaa50, 0xabf0, 0xff10,
   0x104a0, 0x10d30, 0x11066, 0x110f0, 0x11136, 0x111d0, 0x112f0, 0x11450, 0x114d0, 0x11650,
   0x116c0, 0x11730, 0x118e0, 0x11950, 0x11c50, 0x11d50, 0x11da0, 0x16a60, 0x16ac0, 0x16b50,
   0x1d7ce, 0x1d7d8, 0x1d7e2, 0x1d7ec, 0x1d7f6, 0x1e140, 0x1e2f0, 0x1e950, 0x1fbf0]

/-- The value of a decimal digit of any script. -/
def digitValue? (c : Char) : Option Nat :=
  (digitZeros.find? fun start => start ≤ c.toNat && c.toNat < start + 10).map (c.toNat - ·)

theorem digitValue?_lt {c : Char} {d : Nat} (h : digitValue? c = some d) : d < 10 := by
  obtain ⟨start, found, rfl⟩ := Option.map_eq_some_iff.1 h
  have := List.find?_some found
  simp only [Bool.and_eq_true, decide_eq_true_eq] at this
  omega

/-- The ASCII digit of a value below ten. -/
def digitChar (d : Nat) : Char :=
  Char.ofNat ('0'.toNat + d)

theorem isDigit_digitChar {d : Nat} (h : d < 10) : (digitChar d).isDigit = true :=
  (by decide : ∀ d < 10, (digitChar d).isDigit = true) d h

theorem toNat_digitChar {d : Nat} (h : d < 10) : (digitChar d).toNat = '0'.toNat + d :=
  (by decide : ∀ d < 10, (digitChar d).toNat = '0'.toNat + d) d h

theorem digitValue?_digitChar {d : Nat} (h : d < 10) : digitValue? (digitChar d) = some d :=
  (by decide : ∀ d < 10, digitValue? (digitChar d) = some d) d h

/-- Every ASCII digit is that of a value. -/
theorem exists_digitChar {c : Char} (h : c.isDigit = true) : ∃ d < 10, digitChar d = c := by
  simp only [Char.isDigit, Bool.and_eq_true, decide_eq_true_eq] at h
  have hlow : '0'.toNat ≤ c.toNat := h.1
  have hhigh : c.toNat ≤ '9'.toNat := h.2
  refine ⟨c.toNat - '0'.toNat, ?_, ?_⟩
  · have : '9'.toNat < '0'.toNat + 10 := by decide
    omega
  · rw [digitChar, Nat.add_sub_cancel' hlow, Char.ofNat_toNat]

/-- A text with every decimal digit written in ASCII; other characters stay. -/
def asciiDigits (t : Text) : Text :=
  t.map fun c => ((digitValue? c).map digitChar).getD c

end SqlTemplate.Text

/-!
## Reading numerals

A numeral may use the decimal digits of any script, and single low lines between digits. An integer
is a sign and digits, no more than the limit. A fractional numeral has digits on either side of an
optional point and an optional power of ten.
-/

namespace SqlTemplate.Numeral

/-- A text without the low lines between its digits, if none stands elsewhere and no two stand
together. The flag tells whether a digit stands in front. -/
def withoutLowLines? : Bool → Text → Option Text
  | _, [] => some []
  | afterDigit, '_' :: c :: rest =>
    if afterDigit && c.isDigit then (withoutLowLines? true rest).map (c :: ·) else none
  | _, c :: rest => if c = '_' then none else (withoutLowLines? c.isDigit rest).map (c :: ·)

/-- A numeral in ASCII digits and without low lines. -/
def plain? (t : Text) : Option Text :=
  withoutLowLines? false (Text.asciiDigits t)

/-- An optional sign in front of a numeral, and what follows it. The flag is true for a minus
sign. -/
def splitSign : Text → Bool × Text
  | '-' :: rest => (true, rest)
  | '+' :: rest => (false, rest)
  | t => (false, t)

/-- The number that ASCII digits denote, most significant digit first. -/
def valueOf (digits : Text) : Nat :=
  digits.foldl (fun n c => 10 * n + (c.toNat - '0'.toNat)) 0

/-- The number that a text denotes if it holds ASCII digits only, and at least one. -/
def natural? (t : Text) : Option Nat :=
  if !t.isEmpty && t.all Char.isDigit then some (valueOf t) else none

/-- An integer with its sign. -/
def signed (negative : Bool) (n : Nat) : Int :=
  if negative then -n else n

/-- The integer that a text denotes, unless it has too many digits. Zeros in front count. -/
def integer? (t : Text) : Option Int := do
  let (negative, digits) := splitSign (← plain? t)
  if digits.length ≤ digitLimit then (natural? digits).map (signed negative) else none

/-- The power of ten at the end of a numeral: nothing, or a letter and an integer. -/
def power? : Text → Option Int
  | [] => some 0
  | c :: rest =>
    if c = 'e' || c = 'E' then
      let (negative, digits) := splitSign rest
      (natural? digits).map (signed negative)
    else none

/-- The coefficient and the power of ten of a fractional numeral without sign, in ASCII. -/
def fractional? (t : Text) : Option (Nat × Int) := do
  let whole := t.takeWhile Char.isDigit
  let rest := t.dropWhile Char.isDigit
  let (fraction, rest) := match rest with
    | '.' :: after => (after.takeWhile Char.isDigit, after.dropWhile Char.isDigit)
    | _ => ([], rest)
  let coefficient ← natural? (whole ++ fraction)
  return (coefficient, (← power? rest) - fraction.length)

end SqlTemplate.Numeral
