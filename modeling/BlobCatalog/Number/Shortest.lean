import BlobCatalog.Number.Binary64

/-!
# Decimal text of binary64 numbers

The shortest decimal that reads back as a given number, and the decimal with a fixed number of
significant digits, found in exact integer arithmetic. A number's neighbours on the grid of
`k`-digit decimals are tested for `k = 1, 2, …`; the first grid with a neighbour inside the interval
that rounds to the number wins. A `Layout` says how digits and power of ten are written down;
`plainLayout` is that of a value shown to a person, `columnLayout` that of a number put into a text
column.
-/

namespace BlobCatalog.Binary64

/-- A positive number `mantissa * 2 ^ exponent` as a fraction. -/
def asFraction (mantissa : Nat) : Int → Nat × Nat
  | .ofNat up => (mantissa * Nat.pow 2 up, 1)
  | .negSucc down => (mantissa, Nat.pow 2 (down + 1))

/-- A power of ten as a fraction. -/
def tenPower : Int → Nat × Nat
  | .ofNat up => (Nat.pow 10 up, 1)
  | .negSucc down => (1, Nat.pow 10 (down + 1))

/-- The least number of tenfold steps that brings a fraction to one or above, up to a limit. -/
def stepsToOne : Nat → Nat → Nat → Nat
  | 0, _, _ => 0
  | limit + 1, num, den => if den ≤ num then 0 else stepsToOne limit (10 * num) den + 1

/-- The power of ten of the leading digit of a positive fraction. -/
def leadingPower (num den : Nat) : Int :=
  if den ≤ num then (Text.digitsOf 10 (num / den)).length - 1
  else -(stepsToOne 400 num den : Int)

/-- The quotient of a fraction by a power of ten, rounded down, with the new fraction. -/
def inUnits (num den : Nat) (power : Int) : Nat × Nat × Nat :=
  let (up, down) := tenPower power
  (num * down / (den * up), num * down, den * up)

/-- A decimal `digits * 10 ^ power`. -/
structure Scaled where
  digits : Nat
  power : Int
deriving DecidableEq, Repr

/-- The decimals that round to `mantissa * 2 ^ exponent`, ends included when the mantissa is even.
Below a power of two the lower end is twice as near. -/
def roundsTo (mantissa : Nat) (exponent : Int) (candidate : Scaled) : Bool :=
  let (num, den) := asFraction mantissa exponent
  let (up, down) := tenPower candidate.power
  let value := 4 * candidate.digits * up * den * mantissa
  let unit := num * down
  let gap := if mantissa = Nat.pow 2 52 ∧ exponent > -1074 then 1 else 2
  let low := (4 * mantissa - gap) * unit
  let high := (4 * mantissa + 2) * unit
  if mantissa % 2 = 0 then low ≤ value && value ≤ high else low < value && value < high

/-- The neighbour on the grid of `count`-digit decimals that rounds to the number, the nearer one
if both do and the even one of two that are equally near. -/
def onGrid? (mantissa : Nat) (exponent : Int) (count : Nat) : Option Scaled :=
  let (num, den) := asFraction mantissa exponent
  let power := leadingPower num den - (count - 1 : Nat)
  let (below, top, bottom) := inUnits num den power
  let lower : Scaled := ⟨below, power⟩
  let upper : Scaled := ⟨below + 1, power⟩
  let lowerFits := below > 0 && roundsTo mantissa exponent lower
  let upperFits := roundsTo mantissa exponent upper
  if lowerFits && upperFits then
    let twice := 2 * (top - below * bottom)
    if twice < bottom then some lower
    else if bottom < twice then some upper
    else if below % 2 = 0 then some lower else some upper
  else if lowerFits then some lower
  else if upperFits then some upper
  else none

/-- The shortest decimal that reads back as `mantissa * 2 ^ exponent`. -/
def shortest (mantissa : Nat) (exponent : Int) : Scaled :=
  let counts := (List.range 17).map (· + 1)
  match counts.findSome? (onGrid? mantissa exponent) with
  | some scaled => scaled
  | none => ⟨0, 0⟩

/-- The decimal with `count` significant digits nearest to `mantissa * 2 ^ exponent`; a half goes
up. -/
def rounded (count mantissa : Nat) (exponent : Int) : Scaled :=
  let (num, den) := asFraction mantissa exponent
  let power := leadingPower num den - (count - 1 : Nat)
  let (below, top, bottom) := inUnits num den power
  if 2 * (top - below * bottom) < bottom then ⟨below, power⟩ else ⟨below + 1, power⟩

/-! ## Layouts -/

/-- How a decimal is written: the powers of the leading digit that are written positionally,
whether a point is kept before an exponent, whether zero shows its sign, and the words for what is
not finite. -/
structure Layout where
  leastPower : Int
  greatestPower : Int
  pointBeforeExponent : Bool
  signedZero : Bool
  infinite : String
  notANumber : String

/-- A value shown to a person. -/
def plainLayout : Layout := ⟨-4, 15, false, true, "inf", "nan"⟩

/-- A number put into a text column. -/
def columnLayout : Layout := ⟨-4, 14, true, false, "Inf", ""⟩

/-- Digits without the zeros at their end. -/
def dropTrailingZeros (digits : List Char) : List Char :=
  Text.trimEnd (· == '0') digits

/-- The power of ten of an exponent, with its sign and at least two digits. -/
def exponentChars (power : Int) : List Char :=
  let digits := Text.decimalChars power.natAbs
  let wide := if digits.length < 2 then '0' :: digits else digits
  (if power < 0 then '-' else '+') :: wide

/-- Digits written positionally, `leading` being the power of ten of the first one. -/
def positional (digits : List Char) (leading : Int) : List Char :=
  match leading with
  | .negSucc down => '0' :: '.' :: (List.replicate down '0' ++ digits)
  | .ofNat up =>
    let whole := digits.take (up + 1)
    let fraction := digits.drop (up + 1)
    whole ++ List.replicate (up + 1 - whole.length) '0' ++ '.' ::
      (if fraction.isEmpty then ['0'] else fraction)

/-- Digits written with an exponent. -/
def scientific (layout : Layout) (digits : List Char) (leading : Int) : List Char :=
  let point := match digits.drop 1 with
    | [] => if layout.pointBeforeExponent then ['.', '0'] else []
    | fraction => '.' :: fraction
  digits.take 1 ++ point ++ 'e' :: exponentChars leading

/-- A decimal written in a layout. -/
def Scaled.chars (layout : Layout) (scaled : Scaled) : List Char :=
  let all := Text.decimalChars scaled.digits
  let leading := scaled.power + (all.length - 1 : Nat)
  let digits := dropTrailingZeros all
  if layout.leastPower ≤ leading ∧ leading ≤ layout.greatestPower then positional digits leading
  else scientific layout digits leading

/-- A number written in a layout, its digits chosen by `choose`. -/
def render (layout : Layout) (choose : Nat → Int → Scaled) (x : Float) : String :=
  let sign := fun (negative : Bool) => if negative then "-" else ""
  match parts x with
  | .notANumber => layout.notANumber
  | .infinite negative => sign negative ++ layout.infinite
  | .finite negative mantissa exponent =>
    if mantissa = 0 then sign (negative && layout.signedZero) ++ "0.0"
    else sign negative ++ String.ofList ((choose mantissa exponent).chars layout)

/-- The shortest text that reads back as the number. -/
def text (x : Float) : String := render plainLayout shortest x

/-- The text of a number in a text column: fifteen significant digits. -/
def columnText (x : Float) : String := render columnLayout (rounded 15) x

end BlobCatalog.Binary64
