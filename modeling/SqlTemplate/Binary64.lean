import SqlTemplate.Decimal

/-!
# Binary numbers of 64 bits

A binary64 number is a sign and a magnitude code, the low 63 bits of its word. Codes grow with the
magnitudes they stand for. A finite magnitude is a whole number of units of `2 ^ -1074`, so that all
comparisons and roundings below are exact arithmetic on naturals.
-/
namespace SqlTemplate

/-- A binary64 number. Every code above that of the infinities is a NaN. -/
structure Binary64 where
  negative : Bool
  code : Nat
  deriving DecidableEq, Repr

namespace Binary64

def infinityCode : Nat := 0x7ff0000000000000

/-- The bit of a word that tells the sign. -/
def signBit : Nat := 0x8000000000000000

/-- The number of codes between two powers of two. -/
def stepsPerPower : Nat := 0x10000000000000

/-- The quiet NaN that carries nothing. -/
def nan : Binary64 := ⟨false, 0x7ff8000000000000⟩

/-- The number with the given word. -/
def ofWord (word : Nat) : Binary64 :=
  ⟨signBit ≤ word, word % signBit⟩

/-- The word of a number. -/
def toWord (x : Binary64) : Nat :=
  if x.negative then signBit + x.code else x.code

def isFinite (x : Binary64) : Bool :=
  x.code < infinityCode

def isNaN (x : Binary64) : Bool :=
  infinityCode < x.code

/-- The units of `2 ^ -1074` in the magnitude with a finite code. -/
def units (code : Nat) : Nat :=
  if code < stepsPerPower then code
  else (stepsPerPower + code % stepsPerPower) * Nat.pow 2 (code / stepsPerPower - 1)

/-- The number of units in one. -/
def unitsPerOne : Nat := Nat.pow 2 1074

/-- A quotient rounded to the nearest natural number, a half to the even neighbour. -/
def roundedQuotient (n d : Nat) : Nat :=
  let q := n / d
  let twice := 2 * (n % d)
  if twice < d then q
  else if d < twice then q + 1
  else q + q % 2

/-- The code of the magnitude nearest to a quotient, a tie going to the even code. Quotients of at
least `2 ^ 1024` less half the last step have the code of the infinity. -/
def codeOfQuotient (n d : Nat) : Nat :=
  let scaled := n * unitsPerOne
  let shift := (scaled / d).log2 - 52
  min infinityCode (shift * stepsPerPower + roundedQuotient scaled (d * Nat.pow 2 shift))

/-- The nearest number to an integer, unless that is an infinity. -/
def ofInt? (n : Int) : Option Binary64 :=
  let code := codeOfQuotient n.natAbs 1
  if code < infinityCode then some ⟨decide (n < 0), code⟩ else none

/-- The code of the magnitude nearest to `coefficient * 10 ^ e`. Far outside the range of magnitudes
the power of ten is not needed. -/
def codeOfDecimal (coefficient : Nat) (e : Int) : Nat :=
  let size := Numeral.length coefficient + e
  if coefficient = 0 ∨ size < -330 then 0
  else if 310 < size then infinityCode
  else if 0 ≤ e then codeOfQuotient (coefficient * Nat.pow 10 e.toNat) 1
  else codeOfQuotient coefficient (Nat.pow 10 (-e).toNat)

/-- The nearest number to a decimal number. A signaling NaN has none. -/
def ofDecimal? : Decimal → Option Binary64
  | .finite negative coefficient e => some ⟨negative, codeOfDecimal coefficient e⟩
  | .infinity negative => some ⟨negative, infinityCode⟩
  | .nan _ false _ => some nan
  | .nan _ true _ => none

/-- A finite number without its fraction. -/
def truncated (x : Binary64) : Int :=
  Numeral.signed x.negative (units x.code / unitsPerOne)

/-!
## The shortest text of a binary number

A finite number is written with the fewest digits that read back as the same number and, among
those, with the ones nearest to it. From `1e-4` up to `1e16` the point stands in its place, with a
zero behind it if no digit is; beyond, an exponent of at least two digits follows.
-/

/-- The place of the decimal point of a magnitude, counted from its first digit: the magnitude is
below that power of ten and not below the one before. -/
def pointOf (code : Nat) : Int :=
  let u := units code
  if unitsPerOne ≤ u then Numeral.length (u / unitsPerOne)
  else 1 - Numeral.length (unitsPerOne / u)

/-- The larger neighbour of a magnitude is farther from it than the smaller one, `t`, on the grid of
the multiples of `10 ^ e`; or it is as far and odd. -/
def lowerIsNearer (code t : Nat) (e : Int) : Bool :=
  let above := (2 * t + 1) * unitsPerOne * Nat.pow 10 e.toNat
  let twice := 2 * units code * Nat.pow 10 (-e).toNat
  twice < above || (twice == above && t % 2 == 0)

/-- The multiple of `10 ^ e` that reads back as a magnitude, if one of its two neighbours on that
grid does: the nearer if both do. -/
def onGrid? (code : Nat) (e : Int) : Option Nat :=
  let t := units code * Nat.pow 10 (-e).toNat / (unitsPerOne * Nat.pow 10 e.toNat)
  let readsBack (t : Nat) := codeOfDecimal t e == code
  match readsBack t, readsBack (t + 1) with
  | true, true => some (if lowerIsNearer code t e then t else t + 1)
  | true, false => some t
  | false, true => some (t + 1)
  | false, false => none

/-- The digits of a magnitude and the power of ten of the last of them: the first of the grids with
one, two, up to seventeen digits that has a multiple which reads back. -/
def shortest (code : Nat) : Nat × Int :=
  let point := pointOf code
  ((List.range 17).findSome? fun (n : Nat) =>
    let e := point - (n + 1)
    (onGrid? code e).map (·, e)).getD (0, 0)

/-- A numeral without the zeros at its end, but with one digit at least. -/
def withoutTrailingZeros (digits : Text) : Text :=
  match (digits.reverse.dropWhile (· = '0')).reverse with
  | [] => ['0']
  | kept => kept

/-- The text of a finite magnitude. -/
def magnitudeText (code : Nat) : Text :=
  if code = 0 then ['0', '.', '0']
  else
    let (t, e) := shortest code
    let all := Numeral.ofNat t
    let digits := withoutTrailingZeros all
    let point := e + all.length
    if -4 < point ∧ point ≤ 16 then
      Numeral.positional digits point ++ (if digits.length ≤ point then ['.', '0'] else [])
    else Numeral.leading digits ++ 'e' :: Numeral.exponent 2 (point - 1)

/-- The text of a number. -/
def toText (x : Binary64) : Text :=
  if x.isNaN then "nan".toList
  else Numeral.minus x.negative ++
    (if x.isFinite then magnitudeText x.code else "inf".toList)

end Binary64
end SqlTemplate
