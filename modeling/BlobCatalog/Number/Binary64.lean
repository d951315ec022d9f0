import BlobCatalog.Text.Integer

/-!
# Exact content of binary64 numbers

A `Float` is read through its bits into `Parts`: not a number, an infinity, or a sign with
`mantissa * 2 ^ exponent`. Truncation, the test for a whole number and the comparison with an
integer are then exact integer arithmetic, and a decimal text is rounded to the nearest number.
-/

namespace BlobCatalog.Binary64

/-- What a binary64 number holds. -/
inductive Parts where
  | notANumber
  | infinite (negative : Bool)
  | finite (negative : Bool) (mantissa : Nat) (exponent : Int)
deriving DecidableEq, Repr

/-- The parts of a number, read off its bits. -/
def parts (x : Float) : Parts :=
  let bits := x.toBits.toNat
  let negative := bits / Nat.pow 2 63 == 1
  let exponent : Nat := bits / Nat.pow 2 52 % Nat.pow 2 11
  let fraction : Nat := bits % Nat.pow 2 52
  if exponent = 2047 then
    if fraction = 0 then .infinite negative else .notANumber
  else if exponent = 0 then .finite negative fraction (-1074)
  else .finite negative (Nat.pow 2 52 + fraction) ((exponent : Int) - 1075)

/-- The whole part of `mantissa * 2 ^ exponent`. -/
def wholePart (mantissa : Nat) : Int → Nat
  | .ofNat up => mantissa * Nat.pow 2 up
  | .negSucc down => mantissa / Nat.pow 2 (down + 1)

/-- `mantissa * 2 ^ exponent` is a whole number. -/
def isWhole (mantissa : Nat) : Int → Bool
  | .ofNat _ => true
  | .negSucc down => mantissa % Nat.pow 2 (down + 1) == 0

/-- The integer next to a finite number in the direction of zero. -/
def truncated? (x : Float) : Option Int :=
  match parts x with
  | .finite negative mantissa exponent => some (Text.signed negative (wholePart mantissa exponent))
  | _ => none

/-- The integer that a number is equal to, if there is one. -/
def whole? (x : Float) : Option Int :=
  match parts x with
  | .finite negative mantissa exponent =>
    if isWhole mantissa exponent then some (Text.signed negative (wholePart mantissa exponent))
    else none
  | _ => none

/-- The number is not a number. -/
def isNaN (x : Float) : Bool :=
  match parts x with
  | .notANumber => true
  | _ => false

/-- The number is one of the two zeros. -/
def isZero (x : Float) : Bool :=
  match parts x with
  | .finite _ mantissa _ => mantissa == 0
  | _ => false

/-- Equality of numbers: the zeros are equal and nothing is equal to what is not a number. -/
def same (x y : Float) : Bool :=
  !isNaN x && !isNaN y && (parts x == parts y || (isZero x && isZero y))

/-! ## Reading decimals -/

/-- A decimal number as written: its sign, the digits as one number and the power of ten, and
whether a point or an exponent was written. -/
structure Decimal where
  negative : Bool
  coefficient : Nat
  scale : Int
  fractional : Bool

/-- An exponent mark with its digits, read from the front of a text. Without a digit after the mark
nothing is read. -/
def takeExponent (text : List Char) : Option Int × List Char :=
  match text with
  | mark :: rest =>
    if mark = 'e' ∨ mark = 'E' then
      let (negative, body) := Text.splitSign rest
      let digits := body.takeWhile Char.isDigit
      if digits.isEmpty then (none, text)
      else
        let magnitude := Text.ofDigits 10 (digits.filterMap Text.asciiDigit?)
        (some (Text.signed negative magnitude), body.dropWhile Char.isDigit)
    else (none, text)
  | [] => (none, [])

/-- A decimal read from the front of a text, with the rest: a sign, digits with at most one point
among or around them, an exponent. -/
def takeDecimal? (text : List Char) : Option (Decimal × List Char) :=
  let (negative, body) := Text.splitSign text
  let whole := body.takeWhile Char.isDigit
  let afterWhole := body.dropWhile Char.isDigit
  let (pointed, afterPoint) := match afterWhole with
    | '.' :: rest => (true, rest)
    | rest => (false, rest)
  let fraction := if pointed then afterPoint.takeWhile Char.isDigit else []
  let afterFraction := if pointed then afterPoint.dropWhile Char.isDigit else afterPoint
  if whole.isEmpty && fraction.isEmpty then none
  else
    let coefficient := Text.ofDigits 10 ((whole ++ fraction).filterMap Text.asciiDigit?)
    let (exponent, rest) := takeExponent afterFraction
    let decimal : Decimal :=
      { negative, coefficient
        scale := exponent.getD 0 - fraction.length
        fractional := pointed || exponent.isSome }
    some (decimal, rest)

/-- The number nearest to a decimal. Powers of ten far outside the range give an infinity or zero
at once. -/
def ofDecimal (decimal : Decimal) : Float :=
  let magnitude :=
    if decimal.coefficient = 0 then 0.0
    else
      let size : Int := (Text.digitsOf 10 decimal.coefficient).length + decimal.scale
      if size > 400 then Float.ofScientific 1 false 400
      else if size < -400 then 0.0
      else
        match decimal.scale with
        | .ofNat up => Float.ofScientific decimal.coefficient false up
        | .negSucc down => Float.ofScientific decimal.coefficient true (down + 1)
  if decimal.negative then -magnitude else magnitude

/-- The infinity of the given sign. -/
def infinity (negative : Bool) : Float :=
  if negative then Float.ofBits 0xFFF0000000000000 else Float.ofBits 0x7FF0000000000000

/-- The number that a text names: a decimal, `inf`, `-inf` or `nan`. -/
def ofText? (text : String) : Option Float :=
  let (negative, body) := Text.splitSign text.toList
  if body = "inf".toList then some (infinity negative)
  else if body = "nan".toList then some (Float.ofBits 0x7FF8000000000000)
  else
    match takeDecimal? text.toList with
    | some (decimal, []) => some (ofDecimal decimal)
    | _ => none

end BlobCatalog.Binary64
