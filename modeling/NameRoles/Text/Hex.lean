/-!
# Hexadecimal digits

Digits are read in either case and written in the case that the format asks for.
-/

namespace NameRoles.Text

/-- The digit of a number; of larger numbers, the last one. -/
def hexDigit (n : Nat) : Fin 16 := Fin.ofNat 16 n

/-- The value of a hexadecimal digit of either case. -/
def hexValue? (c : Char) : Option (Fin 16) :=
  let n := c.toNat
  if 48 ≤ n ∧ n ≤ 57 then some (hexDigit (n - 48))
  else if 97 ≤ n ∧ n ≤ 102 then some (hexDigit (n - 87))
  else if 65 ≤ n ∧ n ≤ 70 then some (hexDigit (n - 55))
  else none

/-- The lower-case digit of a value. -/
def hexChar (d : Fin 16) : Char := Char.ofNat (if d.val < 10 then 48 + d.val else 87 + d.val)

/-- The upper-case digit of a value. -/
def upperHexChar (d : Fin 16) : Char := Char.ofNat (if d.val < 10 then 48 + d.val else 55 + d.val)

/-- The number that digits spell, most significant first. -/
def hexNumber (digits : List (Fin 16)) : Nat := digits.foldl (fun n d => 16 * n + d.val) 0

/-- The number that the characters spell, if all of them are digits. -/
def hexNumber? (cs : List Char) : Option Nat := (cs.mapM hexValue?).map hexNumber

/-- The two digits of a byte. -/
def byteDigits (byte : UInt8) : List (Fin 16) :=
  [hexDigit (byte.toNat / 16), hexDigit byte.toNat]

/-- The bytes that digits spell two by two; a single last digit spells none. -/
def bytesOfDigits : List (Fin 16) → List UInt8
  | high :: low :: digits => UInt8.ofNat (16 * high.val + low.val) :: bytesOfDigits digits
  | _ => []

@[simp] theorem hexValue?_hexChar (d : Fin 16) : hexValue? (hexChar d) = some d := by
  revert d; decide

end NameRoles.Text
