import NameRoles.Json.Basic
import NameRoles.Text.Hex

/-!
# Writing JSON

`write` leaves no space between the parts of a value; `writeIndented` puts each item on a line
of its own, two spaces deeper than what it belongs to.
-/

namespace NameRoles.Json

open Text

/-- The written form of a character inside a string. -/
def escape (c : Char) : List Char :=
  if c = '"' then ['\\', '"']
  else if c = '\\' then ['\\', '\\']
  else if c = '\n' then ['\\', 'n']
  else if c = '\r' then ['\\', 'r']
  else if c = '\t' then ['\\', 't']
  else if c = '\x08' then ['\\', 'b']
  else if c = '\x0c' then ['\\', 'f']
  else if c.toNat < 0x20 then
    ['\\', 'u', '0', '0', hexChar (hexDigit (c.toNat / 16)), hexChar (hexDigit c.toNat)]
  else [c]

/-- A string between its quotes. -/
def writeString (text : String) : List Char := '"' :: text.toList.flatMap escape ++ ['"']

mutual

def writeChars : Json → List Char
  | .null => "null".toList
  | .bool true => "true".toList
  | .bool false => "false".toList
  | .number literal => literal.toList
  | .string text => writeString text
  | .array items => '[' :: writeItems items ++ [']']
  | .object members => '{' :: writeMembers members ++ ['}']

/-- The items of an array, with commas between them. -/
def writeItems : List Json → List Char
  | [] => []
  | [item] => writeChars item
  | item :: items => writeChars item ++ ',' :: writeItems items

/-- The members of an object, with commas between them. -/
def writeMembers : List (String × Json) → List Char
  | [] => []
  | [(name, value)] => writeString name ++ ':' :: writeChars value
  | (name, value) :: members => writeString name ++ ':' :: writeChars value ++
      ',' :: writeMembers members

end

/-- The text of a value. -/
def write (value : Json) : String := String.ofList (writeChars value)

/-- A new line at a depth of indentation. -/
def newLine (depth : Nat) : List Char := '\n' :: List.replicate (2 * depth) ' '

mutual

/-- The text of a value that stands at a depth of indentation. -/
def indentedChars (depth : Nat) : Json → List Char
  | .array items =>
    if items.isEmpty then ['[', ']']
    else '[' :: indentedItems (depth + 1) items ++ newLine depth ++ [']']
  | .object members =>
    if members.isEmpty then ['{', '}']
    else '{' :: indentedMembers (depth + 1) members ++ newLine depth ++ ['}']
  | value => writeChars value

def indentedItems (depth : Nat) : List Json → List Char
  | [] => []
  | [item] => newLine depth ++ indentedChars depth item
  | item :: items => newLine depth ++ indentedChars depth item ++ ',' :: indentedItems depth items

def indentedMembers (depth : Nat) : List (String × Json) → List Char
  | [] => []
  | [(name, value)] =>
    newLine depth ++ writeString name ++ ':' :: ' ' :: indentedChars depth value
  | (name, value) :: members =>
    newLine depth ++ writeString name ++ ':' :: ' ' :: indentedChars depth value ++
      ',' :: indentedMembers depth members

end

/-- The text of a value on several lines. -/
def writeIndented (value : Json) : String := String.ofList (indentedChars 0 value)

end NameRoles.Json
