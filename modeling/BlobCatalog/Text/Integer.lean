import BlobCatalog.Text.Blank
import BlobCatalog.Text.Digit

/-!
# Integers in text

Three readings of a number and one way to write it. `readDecimal?` is the liberal reading of a
person's decimal (surrounding blanks, a sign, digits of any script, single underscores between
digits); `readHex?` is the same for base sixteen with an optional `0x`; `readPlain?` is the reading
of a record field (ASCII digits, a tail of zeros after a point). `decimalText` writes a natural
number in base ten, and `padded` widens it with zeros.
-/

namespace BlobCatalog.Text

/-- The number with the given digits, most significant first. -/
def ofDigits (base : Nat) (digits : List Nat) : Nat :=
  digits.foldl (fun value digit => base * value + digit) 0

/-- The digits of a text in which single underscores may stand between digits. -/
def groupedDigits? (digit? : Char → Option Nat) : List Char → Option (List Nat)
  | [] => none
  | [c] => (digit? c).map fun digit => [digit]
  | c :: '_' :: rest => do
    let digit ← digit? c
    let digits ← groupedDigits? digit? rest
    return digit :: digits
  | c :: rest => do
    let digit ← digit? c
    let digits ← groupedDigits? digit? rest
    return digit :: digits

/-- The longest decimal that is read as a number or written as one. -/
def digitLimit : Nat := 4300

/-- A number with its sign. -/
def signed (negative : Bool) (magnitude : Nat) : Int :=
  if negative then -(magnitude : Int) else magnitude

/-- A text split into its sign, negative or not, and the rest. -/
def splitSign : List Char → Bool × List Char
  | '-' :: rest => (true, rest)
  | '+' :: rest => (false, rest)
  | rest => (false, rest)

/-- The integer that a decimal text stands for, read liberally. -/
def readDecimal? (text : List Char) : Option Int := do
  let (negative, body) := splitSign (trim isBlank text)
  let digits ← groupedDigits? decimalValue? body
  if digits.length > digitLimit then none
  else return signed negative (ofDigits 10 digits)

/-- A text without the mark of base sixteen, a zero of any script and an `x`, and without the
underscore that may follow it. -/
def dropHexMark : List Char → List Char
  | first :: mark :: rest =>
    if decimalValue? first = some 0 ∧ (mark = 'x' ∨ mark = 'X') then
      match rest with
      | '_' :: digits => digits
      | digits => digits
    else first :: mark :: rest
  | text => text

/-- The natural number that a text in base sixteen stands for, read liberally. -/
def readHex? (text : List Char) : Option Nat := do
  let body := match trim isBlank text with
    | '+' :: rest => rest
    | rest => rest
  let digits ← groupedDigits? hexValue? (dropHexMark body)
  return ofDigits 16 digits

/-- The integer that the text of a record field stands for. The digits are ASCII, a negative
number has no leading zero, and a point may follow with zeros only. -/
def readPlain? (text : List Char) : Option Int := do
  let (negative, body) := splitSign (trim isBlank text)
  let whole := body.takeWhile (· != '.')
  let tail := (body.dropWhile (· != '.')).drop 1
  if tail.any (· != '0') then none
  else
    let digits ← groupedDigits? asciiDigit? whole
    if negative && digits.length > 1 && digits.head? == some 0 then none
    else return signed negative (ofDigits 10 digits)

/-! ## Writing -/

/-- The digits of a number in a base, most significant first; at least one. -/
def digitsOf (base number : Nat) : List Nat :=
  if _stop : base ≤ 1 ∨ number < base then [number]
  else digitsOf base (number / base) ++ [number % base]
termination_by number
decreasing_by
  have positive : 0 < number := by omega
  exact Nat.div_lt_self positive (by omega)

/-- The decimal text of a natural number. -/
def decimalChars (number : Nat) : List Char :=
  (digitsOf 10 number).map hexDigit

/-- The decimal text of a natural number. -/
def decimalText (number : Nat) : String :=
  String.ofList (decimalChars number)

/-- The decimal text of an integer. -/
def integerText : Int → String
  | .ofNat number => decimalText number
  | .negSucc number => "-" ++ decimalText (number + 1)

/-- The integer has no more digits than are written. -/
def isWritable (number : Int) : Bool := number.natAbs < Nat.pow 10 digitLimit

/-- The last `width` digits of a number in a base, with leading zeros. -/
def fixedDigits (base : Nat) : Nat → Nat → List Nat
  | 0, _ => []
  | width + 1, number => fixedDigits base width (number / base) ++ [number % base]

/-- A number written with exactly `width` decimal digits. -/
def padded (width number : Nat) : List Char :=
  (fixedDigits 10 width number).map hexDigit

/-- A number written with exactly `width` hexadecimal digits. -/
def paddedHex (width number : Nat) : List Char :=
  (fixedDigits 16 width number).map hexDigit

@[simp] theorem length_fixedDigits (base width number : Nat) :
    (fixedDigits base width number).length = width := by
  induction width generalizing number with
  | zero => rfl
  | succ width ih => simp [fixedDigits, ih]

/-- Fixed-width digits stand for the number they were written for. -/
theorem ofDigits_fixedDigits (base width number : Nat) (small : number < Nat.pow base width) :
    ofDigits base (fixedDigits base width number) = number := by
  induction width generalizing number with
  | zero =>
    have none_left : number = 0 := Nat.lt_one_iff.mp small
    simp [fixedDigits, ofDigits, none_left]
  | succ width ih =>
    have smaller : number / base < Nat.pow base width := by
      apply Nat.div_lt_of_lt_mul
      have step : number < Nat.pow base width * base := small
      rwa [Nat.mul_comm] at step
    have head := ih (number / base) smaller
    unfold ofDigits at head
    simp only [fixedDigits, ofDigits, List.foldl_append, List.foldl_cons, List.foldl_nil, head]
    exact Nat.div_add_mod number base

end BlobCatalog.Text
