import NameRoles.Text.Hex

/-!
# Percent-encoding

Characters that may not stand in a part of a URL are written as their bytes, each by a percent
sign and two digits. What has to be encoded depends on the part.
-/

namespace NameRoles.Url

open Text

/-- A byte in its encoded form. -/
def encodeByte (byte : UInt8) : List Char := '%' :: (byteDigits byte).map upperHexChar

/-- A control character or one outside ASCII. -/
def isControl (c : Char) : Bool := c.toNat < 0x20 || 0x7E < c.toNat

/-- What is encoded in a fragment. -/
def inFragment (c : Char) : Bool := isControl c || [' ', '"', '<', '>', '\x60'].contains c

/-- What is encoded in a path. -/
def inPath (c : Char) : Bool := inFragment c || ['#', '?', '\x7b', '\x7d'].contains c

/-- What is encoded in a user name or password. -/
def inUserInfo (c : Char) : Bool :=
  inPath c || ['/', ':', ';', '=', '@', '[', '\\', ']', '^', '|'].contains c

/-- What is encoded in a query. -/
def inQuery (special : Bool) (c : Char) : Bool :=
  isControl c || [' ', '"', '#', '<', '>'].contains c || (special && c = '\'')

/-- Encodes the characters of a text that are in the set of its part. -/
def encode (inSet : Char → Bool) (cs : List Char) : List Char :=
  cs.flatMap fun c =>
    if inSet c then (String.singleton c).toUTF8.toList.flatMap encodeByte else [c]

/-- The bytes of a text whose encoded bytes have been decoded. -/
def decodedBytes : List Char → List UInt8
  | '%' :: a :: b :: cs =>
    match hexValue? a, hexValue? b with
    | some high, some low =>
      UInt8.ofNat (16 * high.val + low.val) :: decodedBytes cs
    | _, _ => 0x25 :: decodedBytes (a :: b :: cs)
  | c :: cs => (String.singleton c).toUTF8.toList ++ decodedBytes cs
  | [] => []

/-- The text whose encoded bytes have been decoded, if they are a text. -/
def decode? (cs : List Char) : Option (List Char) :=
  (String.fromUTF8? ⟨(decodedBytes cs).toArray⟩).map String.toList

end NameRoles.Url
