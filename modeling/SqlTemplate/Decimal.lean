import SqlTemplate.Numeral

/-!
# Exact decimal numbers

A decimal number is a sign, a coefficient and a power of ten, so that `1.5` and `1.50` differ;
beside them there are the infinities and the quiet and signaling NaNs. Its text is the scientific
string of the decimal arithmetic standard.
-/
namespace SqlTemplate

/-- A decimal number: `coefficient * 10 ^ exponent` with a sign, an infinity, or a NaN, which may be
signaling and may carry a number of its own. -/
inductive Decimal where
  | finite (negative : Bool) (coefficient : Nat) (exponent : Int)
  | infinity (negative : Bool)
  | nan (negative signaling : Bool) (payload : Nat)
  deriving DecidableEq, Repr

namespace Decimal

def isFinite : Decimal → Bool
  | finite .. => true
  | _ => false

/-- The text of an unsigned finite number. It is positional unless the exponent is positive or more
than five zeros would follow the point. -/
def magnitudeText (coefficient : Nat) (e : Int) : Text :=
  let digits := Numeral.ofNat coefficient
  let point := e + digits.length
  if e ≤ 0 ∧ -6 < point then Numeral.positional digits point
  else Numeral.leading digits ++ 'E' :: Numeral.exponent 1 (point - 1)

/-- The text of a decimal number. -/
def toText : Decimal → Text
  | finite negative coefficient e => Numeral.minus negative ++ magnitudeText coefficient e
  | infinity negative => Numeral.minus negative ++ "Infinity".toList
  | nan negative signaling payload =>
    Numeral.minus negative ++ (if signaling then ['s'] else []) ++ "NaN".toList ++
      (if payload = 0 then [] else Numeral.ofNat payload)

/-- How messages show a decimal number. -/
def quoted (d : Decimal) : Text :=
  "Decimal('".toList ++ d.toText ++ "')".toList

/-- The NaN with the given digits behind its name. -/
def nanWith? (negative signaling : Bool) (digits : Text) : Option Decimal :=
  if digits.isEmpty then some (nan negative signaling 0)
  else (Numeral.natural? digits).map (nan negative signaling)

/-- The decimal number that a text denotes. -/
def ofText? (t : Text) : Option Decimal :=
  let (negative, magnitude) := Numeral.splitSign t
  match magnitude with
  | 'N' :: 'a' :: 'N' :: digits => nanWith? negative false digits
  | 's' :: 'N' :: 'a' :: 'N' :: digits => nanWith? negative true digits
  | _ =>
    if magnitude = "Infinity".toList then some (infinity negative)
    else (Numeral.fractional? magnitude).map fun (coefficient, e) => finite negative coefficient e

/-- The number that a text denotes where binary numbers are read: a fractional numeral in the digits
of any script, or an infinity or NaN by name, in either case of its letters. -/
def ofNumeral? (t : Text) : Option Decimal := do
  let (negative, magnitude) := Numeral.splitSign (← Numeral.plain? t)
  let name := magnitude.map Char.toLower
  if name = "inf".toList ∨ name = "infinity".toList then return infinity negative
  else if name = "nan".toList then return nan negative false 0
  else
    let (coefficient, e) ← Numeral.fractional? magnitude
    return finite negative coefficient e

/-- With more digits than this no integer is made from a decimal number, whatever the memory. -/
def mostDigits : Nat := 2711437152599294

/-- Whether a finite decimal number has too many digits in front of the point for the memory, which
is counted in digits. There is room for whatever can be written. -/
def exhausts (memory coefficient : Nat) (e : Int) : Bool :=
  coefficient ≠ 0 && max Numeral.digitLimit memory < e + Numeral.length coefficient

/-- A finite decimal number without its fraction, unless that has too many digits to be written. The
number of digits in front of the point tells this, and that nothing is left, without the power of
ten. -/
def truncated? (negative : Bool) (coefficient : Nat) (e : Int) : Option Int :=
  let whole := e + Numeral.length coefficient
  if coefficient = 0 ∨ whole ≤ 0 then some 0
  else if Numeral.digitLimit < whole then none
  else
    some (Numeral.signed negative
      (if 0 ≤ e then coefficient * Nat.pow 10 e.toNat
        else coefficient / Nat.pow 10 (-e).toNat))

end Decimal
end SqlTemplate
