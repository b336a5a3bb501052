import NameRoles.Json.Written
import NameRoles.Text.Hex

/-!
# Reading JSON

Reading is strict: nothing but blanks may stand around the value. What is found in a text is kept up
to the place where the text stops being JSON.
-/

namespace NameRoles.Json

open Text

def isSpace (c : Char) : Bool := c = ' ' || c = '\n' || c = '\t' || c = '\r'

def skipSpace (cs : List Char) : List Char := cs.dropWhile isSpace

/-- The character that a one-letter escape stands for. -/
def unescape? : Char → Option Char
  | '"' => some '"'
  | '\\' => some '\\'
  | '/' => some '/'
  | 'b' => some '\x08'
  | 'f' => some '\x0c'
  | 'n' => some '\n'
  | 'r' => some '\r'
  | 't' => some '\t'
  | _ => none

/-- What stands for a character in a string: itself, or a unit of 16 bits that an escape gives by
its number. -/
inductive Piece where
  | char (c : Char)
  | unit (n : Nat)
deriving Repr

/-- Reads the rest of a string, up to its closing quote. -/
def readPieces? : List Char → Option (List Piece × List Char)
  | [] => none
  | '"' :: rest => some ([], rest)
  | '\\' :: 'u' :: a :: b :: c :: d :: rest => do
    let unit ← hexNumber? [a, b, c, d]
    let (pieces, rest) ← readPieces? rest
    some (.unit unit :: pieces, rest)
  | '\\' :: c :: rest => do
    let c ← unescape? c
    let (pieces, rest) ← readPieces? rest
    some (.char c :: pieces, rest)
  | c :: rest =>
    if c.toNat < 0x20 ∨ c = '\\' then none
    else do
      let (pieces, rest) ← readPieces? rest
      some (.char c :: pieces, rest)

def isHighSurrogate (unit : Nat) : Bool := 0xD800 ≤ unit && unit < 0xDC00
def isLowSurrogate (unit : Nat) : Bool := 0xDC00 ≤ unit && unit < 0xE000

/-- The character of a pair of surrogates. -/
def joinSurrogates (high low : Nat) : Char :=
  Char.ofNat (0x10000 + (high - 0xD800) * 0x400 + (low - 0xDC00))

/-- The characters that pieces spell; a surrogate must be one of a pair. -/
def spell? : List Piece → Option (List Char)
  | [] => some []
  | .char c :: pieces => (spell? pieces).map (c :: ·)
  | .unit high :: .unit low :: pieces =>
    if isHighSurrogate high then
      if isLowSurrogate low then (spell? pieces).map (joinSurrogates high low :: ·) else none
    else if isLowSurrogate high then none
    else (spell? (.unit low :: pieces)).map (Char.ofNat high :: ·)
  | .unit unit :: pieces =>
    if isHighSurrogate unit || isLowSurrogate unit then none
    else (spell? pieces).map (Char.ofNat unit :: ·)

/-- Reads the rest of a string, whose pieces may spell no text. -/
def readString? (cs : List Char) : Option (Option String × List Char) :=
  (readPieces? cs).map fun (pieces, rest) => ((spell? pieces).map String.ofList, rest)

/-- A run of at least one digit. -/
def readDigits? (cs : List Char) : Option (List Char × List Char) :=
  let digits := cs.takeWhile Char.isDigit
  if digits.isEmpty then none else some (digits, cs.dropWhile Char.isDigit)

/-- The integer part of a number; a zero in front of other digits is refused. -/
def readInteger? (cs : List Char) : Option (List Char × List Char) := do
  let (digits, rest) ← readDigits? cs
  if digits.head? = some '0' ∧ digits.length ≠ 1 then none else some (digits, rest)

/-- The part of a number behind the point, if it has one. -/
def readFraction? : List Char → Option (List Char × List Char)
  | '.' :: cs => do
    let (digits, rest) ← readDigits? cs
    some ('.' :: digits, rest)
  | cs => some ([], cs)

/-- The exponent of a number, if it has one. -/
def readExponent? (cs : List Char) : Option (List Char × List Char) :=
  match cs with
  | [] => some ([], [])
  | c :: rest =>
    if c = 'e' ∨ c = 'E' then do
      let sign := rest.take 1 |>.filter fun c => c = '+' ∨ c = '-'
      let (digits, rest) ← readDigits? (rest.drop sign.length)
      some (c :: sign ++ digits, rest)
    else some ([], cs)

/-- A number, as it is written. -/
def readNumber? (cs : List Char) : Option (List Char × List Char) := do
  let sign := cs.take 1 |>.filter (· = '-')
  let (integer, rest) ← readInteger? (cs.drop sign.length)
  let (fraction, rest) ← readFraction? rest
  let (exponent, rest) ← readExponent? rest
  some (sign ++ integer ++ fraction ++ exponent, rest)

/-- A value that is written as a word. -/
def readWord? (cs : List Char) : Option (Written × List Char) :=
  [("null", Written.null), ("true", .bool true), ("false", .bool false)].findSome?
    fun (word, value) =>
      if word.toList.isPrefixOf cs then some (value, cs.drop word.length) else none

mutual

/-- Reads the value at the front of a text, and gives what follows it if it is whole. -/
def readValue : Nat → List Char → Written × Option (List Char)
  | 0, _ => (.cut, none)
  | fuel + 1, cs =>
    match cs with
    | '"' :: cs => match readString? cs with
      | some (text, rest) => (.string text, some rest)
      | none => (.cut, none)
    | '[' :: cs => match skipSpace cs with
      | ']' :: rest => (.array [] true, some rest)
      | cs =>
        let (items, rest) := readItems fuel cs
        (.array items rest.isSome, rest)
    | '{' :: cs => match skipSpace cs with
      | '}' :: rest => (.object [] true, some rest)
      | cs =>
        let (members, rest) := readMembers fuel cs
        (.object members rest.isSome, rest)
    | cs => match readWord? cs with
      | some (value, rest) => (value, some rest)
      | none => match readNumber? cs with
        | some (literal, rest) => (.number (String.ofList literal), some rest)
        | none => (.cut, none)

/-- Reads the items of an array, of which there is at least one, up to the closing bracket. -/
def readItems : Nat → List Char → List Written × Option (List Char)
  | 0, _ => ([], none)
  | fuel + 1, cs =>
    match readValue fuel cs with
    | (item, none) => ([item], none)
    | (item, some rest) => match skipSpace rest with
      | ']' :: rest => ([item], some rest)
      | ',' :: rest =>
        let (items, rest) := readItems fuel (skipSpace rest)
        (item :: items, rest)
      | _ => ([item], none)

/-- Reads the members of an object, of which there is at least one, up to the closing brace. -/
def readMembers : Nat → List Char → List (Option String × Written) × Option (List Char)
  | 0, _ => ([], none)
  | fuel + 1, cs =>
    match cs with
    | '"' :: cs => match readString? cs with
      | none => ([], none)
      | some (name, rest) => match skipSpace rest with
        | ':' :: rest => match readValue fuel (skipSpace rest) with
          | (value, none) => ([(name, value)], none)
          | (value, some rest) => match skipSpace rest with
            | '}' :: rest => ([(name, value)], some rest)
            | ',' :: rest =>
              let (members, rest) := readMembers fuel (skipSpace rest)
              ((name, value) :: members, rest)
            | _ => ([(name, value)], none)
        | _ => ([(name, .cut)], none)
    | _ => ([], none)

end

/-- Reads what is written in a text, and whether nothing but blanks follows it. -/
def readWritten (text : String) : Written × Bool :=
  let cs := skipSpace text.toList
  let (value, rest) := readValue (2 * cs.length + 2) cs
  (value, (rest.map fun rest => (skipSpace rest).isEmpty).getD false)

/-- The value that a text holds. -/
def read? (text : String) : Option Json :=
  let (value, isLast) := readWritten text
  if isLast then value.toJson? else none

end NameRoles.Json
