import NameRoles.Text.Split

/-!
# The range of JSON numbers

A number is in range if it can be kept as a binary floating-point number of 64 bits. It is judged by
its leading digits, as many as a whole number of 64 bits holds, and a power of ten; both are
rounded to 53 bits before they are multiplied.
-/

namespace NameRoles.Json

open Text

/-- The least number that is rounded to infinity. -/
def rangeEnd : Nat := Nat.pow 2 1024 - Nat.pow 2 970

/-- The nearest number of 53 bits; a half goes to the even neighbour. -/
def roundToBinary (n : Nat) : Nat :=
  let unit := Nat.pow 2 (n.log2 - 52)
  let quotient := n / unit
  let twice := 2 * (n % unit)
  (if unit < twice || (twice = unit && quotient % 2 = 1) then quotient + 1 else quotient) * unit

/-- A number as its leading digits and a power of ten. -/
structure Scaled where
  digits : Nat := 0
  exponent : Int := 0
  /-- A digit did not fit. -/
  full : Bool := false
deriving Repr

namespace Scaled

/-- The number with one more digit, if it fits into 64 bits. -/
def push? (s : Scaled) (digit : Char) : Option Scaled :=
  let digits := 10 * s.digits + decimalNumber [digit]
  if digits < UInt64.size then some { s with digits } else none

/-- Takes in a digit in front of the point. Once one does not fit, each counts as a power of ten. -/
def pushInteger (s : Scaled) (digit : Char) : Scaled :=
  match if s.full then none else s.push? digit with
  | some s => s
  | none => { s with exponent := s.exponent + 1, full := true }

/-- Takes in a digit behind the point. Once one does not fit, all are passed over. -/
def pushFraction (s : Scaled) (digit : Char) : Scaled :=
  match if s.full then none else s.push? digit with
  | some s => { s with exponent := s.exponent - 1 }
  | none => { s with full := true }

/-- The number with the given digits in front of its point and behind it. -/
def ofDigits (integer fraction : List Char) : Scaled :=
  fraction.foldl pushFraction { integer.foldl pushInteger {} with full := false }

/-- The number is in range when it is multiplied with one more power of ten. -/
def isFinite (s : Scaled) (exponent : Int) : Bool :=
  let exponent := s.exponent + exponent
  s.digits = 0 || exponent < 0 || (exponent ≤ 308 &&
    roundToBinary s.digits * roundToBinary (Nat.pow 10 exponent.toNat) < rangeEnd)

end Scaled

/-- The exponent that is written behind a number, with its sign. One of more than 31 bits, whatever
stands in front, counts as beyond all others. -/
def exponentOf (cs : List Char) : Option Int :=
  match cs with
  | '-' :: digits => some (-(decimalNumber digits : Int))
  | digits =>
    let n := decimalNumber (digits.filter Char.isDigit)
    if n < 2147483648 then some n else none

/-- A literal stands for a number that is in range. -/
def isFinite (literal : String) : Bool :=
  let isExponentMark (c : Char) : Bool := c = 'e' || c = 'E'
  let mantissa := literal.toList.takeWhile fun c => !isExponentMark c
  let s := Scaled.ofDigits ((mantissa.takeWhile (· ≠ '.')).filter Char.isDigit)
    ((mantissa.dropWhile (· ≠ '.')).drop 1)
  match exponentOf ((literal.toList.dropWhile fun c => !isExponentMark c).drop 1) with
  | some exponent => s.isFinite exponent
  | none => s.digits = 0

end NameRoles.Json
