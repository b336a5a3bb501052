import NameRoles.Text.Hex
import NameRoles.Uuid.Sha1

/-!
# Identifiers of rules and roles

A `Uuid` has 32 hexadecimal digits. It is written in five groups with lower-case digits and read
in four forms. `Uuid.ofName` derives the identifier of a name, the same on every reading.
-/

namespace NameRoles

open Text

/-- An identifier of 128 bits, kept as its digits. -/
structure Uuid where
  digits : List (Fin 16)
  length_digits : digits.length = 32
deriving DecidableEq

namespace Uuid

instance : Inhabited Uuid := ⟨⟨List.replicate 32 (hexDigit 0), rfl⟩⟩

instance : Repr Uuid := ⟨fun id _ => repr (id.digits.map hexChar)⟩

/-- The sizes of the groups of digits between hyphens. -/
def groupSizes : List Nat := [8, 4, 4, 4, 12]

/-- Cuts digits into groups and puts hyphens between them. -/
def writeGroups : List Nat → List (Fin 16) → List Char
  | [], _ => []
  | [_], digits => digits.map hexChar
  | size :: sizes, digits =>
    (digits.take size).map hexChar ++ '-' :: writeGroups sizes (digits.drop size)

/-- The digits of groups that hyphens divide. -/
def readGroups : List Nat → List Char → Option (List (Fin 16))
  | [], cs => if cs.isEmpty then some [] else none
  | [size], cs => if cs.length = size then cs.mapM hexValue? else none
  | size :: sizes, cs => do
    let digits ← (cs.take size).mapM hexValue?
    match cs.drop size with
    | '-' :: rest =>
      let more ← readGroups sizes rest
      some (digits ++ more)
    | _ => none

/-- The identifier with the given digits, if there are 32. -/
def ofDigits? (digits : List (Fin 16)) : Option Uuid :=
  if h : digits.length = 32 then some ⟨digits, h⟩ else none

/-- The hyphenated form. -/
def text (id : Uuid) : String := String.ofList (writeGroups groupSizes id.digits)

/-- What marks an identifier as a resource name. -/
def resourceMark : List Char := "urn:uuid:".toList

/-- Reads the hyphenated form, also in braces or behind `urn:uuid:` in letters of either case, and
the form without hyphens. -/
def parse? (text : String) : Option Uuid :=
  let hyphenated (cs : List Char) : Option Uuid := do ofDigits? (← readGroups groupSizes cs)
  match text.toList with
  | '{' :: cs => if cs.length = 37 && cs.getLast? == some '}' then hyphenated cs.dropLast else none
  | cs =>
    if cs.length = 32 then do ofDigits? (← cs.mapM hexValue?)
    else if (cs.take resourceMark.length).map Char.toLower = resourceMark then
      hyphenated (cs.drop resourceMark.length)
    else hyphenated cs

/-- The bytes that the digits spell. -/
def bytes (id : Uuid) : List UInt8 := bytesOfDigits id.digits

/-- The namespace of object identifiers, `6ba7b812-9dad-11d1-80b4-00c04fd430c8`. -/
def objectNamespace : Uuid :=
  ⟨[6, 11, 10, 7, 11, 8, 1, 2, 9, 13, 10, 13, 1, 1, 13, 1,
    8, 0, 11, 4, 0, 0, 12, 0, 4, 15, 13, 4, 3, 0, 12, 8].map hexDigit, rfl⟩

/-- The name-based identifier, version 5, of a name in a namespace: the first digits of the hash of
both, with the digits for version and variant put in. -/
def ofName (space : Uuid) (name : String) : Uuid :=
  let hash := (Sha1.digest (space.bytes ++ name.toUTF8.toList)).flatMap byteDigits
  ⟨List.ofFn fun i : Fin 32 =>
    let digit := hash.getD i.val (hexDigit 0)
    if i.val = 12 then hexDigit 5
    else if i.val = 16 then hexDigit (8 + digit.val % 4)
    else digit,
    by simp⟩

end Uuid

end NameRoles
