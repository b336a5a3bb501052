import NameRoles.Url.Domain

/-!
# Hosts of URLs

A host is a domain name or a numeric address of four bytes or eight pieces. A domain name whose
last part is a number has to be an address.
-/

namespace NameRoles.Url

open Text

/-- Why a text is no URL. -/
inductive Error where
  | noBase
  | opaqueBase
  | emptyHost
  | badDomain
  | badDomainCharacter
  | badPort
  | badAddress4
  | badAddress6
deriving DecidableEq, Repr, Inhabited

def Error.message : Error → String
  | .noBase => "relative URL without a base"
  | .opaqueBase => "relative URL with a cannot-be-a-base base"
  | .emptyHost => "empty host"
  | .badDomain => "invalid international domain name"
  | .badDomainCharacter => "invalid domain character"
  | .badPort => "invalid port number"
  | .badAddress4 => "invalid IPv4 address"
  | .badAddress6 => "invalid IPv6 address"

/-- Where a server is found. -/
inductive Host where
  | domain (name : String)
  | address4 (value : Nat)
  | address6 (pieces : List Nat)
deriving DecidableEq, Repr, Inhabited

/-! ## Addresses of four bytes -/

/-- The number of a part of an address: octal behind a zero, hexadecimal behind `0x`. -/
def addressNumber? (cs : List Char) : Option Nat :=
  let octal (digits : List Char) : Option Nat :=
    if digits.all fun c => '0' ≤ c && c ≤ '7' then
      some (digits.foldl (fun n c => 8 * n + (c.toNat - 48)) 0)
    else none
  match cs with
  | [] => none
  | '0' :: 'x' :: digits | '0' :: 'X' :: digits => hexNumber? digits
  | '0' :: d :: digits => octal (d :: digits)
  | digits => if digits.all Char.isDigit then some (decimalNumber digits) else none

/-- The parts of a name between dots, without an empty last one. -/
def dottedParts (cs : List Char) : List (List Char) :=
  let parts := splitWhere (· = '.') cs
  if parts.getLast? = some [] && parts.length > 1 then parts.dropLast else parts

/-- The last part of a name is a number. -/
def endsInNumber (cs : List Char) : Bool :=
  match (dottedParts cs).getLast? with
  | none | some [] => false
  | some last => last.all Char.isDigit || (addressNumber? last).isSome

/-- The value of an address of up to four parts, of which the last fills the bytes left. -/
def parseAddress4? (cs : List Char) : Option Nat := do
  let numbers ← (dottedParts cs).mapM addressNumber?
  let last ← numbers.getLast?
  let heads := numbers.dropLast
  let lastEnd := Nat.pow 256 (4 - heads.length)
  if heads.length ≤ 3 ∧ heads.all (· ≤ 255) ∧ last < lastEnd then
    some (heads.foldl (fun n b => 256 * n + b) 0 * lastEnd + last)
  else none

def address4Text (value : Nat) : String :=
  ".".intercalate ([16777216, 65536, 256, 1].map fun weight => toString (value / weight % 256))

/-! ## Addresses of eight pieces -/

/-- A byte in decimal digits without a leading zero. -/
def byteNumber? (cs : List Char) : Option Nat :=
  if cs.isEmpty ∨ !cs.all Char.isDigit ∨ (cs.length ≠ 1 ∧ cs.head? = some '0') then none
  else if decimalNumber cs ≤ 255 then some (decimalNumber cs) else none

/-- The pieces that a part between colons stands for: a number of up to four digits, or in the last
part an address of four bytes. -/
def piecesOf? (isLast : Bool) (cs : List Char) : Option (List Nat) :=
  if isLast && cs.contains '.' then do
    match ← (splitWhere (· = '.') cs).mapM byteNumber? with
    | [a, b, c, d] => some [256 * a + b, 256 * c + d]
    | _ => none
  else if cs.isEmpty || cs.length > 4 then none
  else (hexNumber? cs).map fun n => [n]

/-- The pieces of a text without a double colon. -/
def pieceList? (isLast : Bool) (cs : List Char) : Option (List Nat) :=
  if cs.isEmpty then some []
  else
    let parts := splitWhere (· = ':') cs
    let heads := parts.dropLast.mapM (piecesOf? false)
    let last := parts.getLast?.bind (piecesOf? isLast)
    match heads, last with
    | some heads, some last => some (heads.flatten ++ last)
    | _, _ => none

/-- The texts before and behind the first double colon. -/
def splitDoubleColon? : List Char → Option (List Char × List Char)
  | ':' :: ':' :: cs => some ([], cs)
  | c :: cs => (splitDoubleColon? cs).map fun (before, behind) => (c :: before, behind)
  | [] => none

def parseAddress6? (cs : List Char) : Option (List Nat) :=
  match splitDoubleColon? cs with
  | none => do
    let pieces ← pieceList? true cs
    if pieces.length = 8 then some pieces else none
  | some (before, behind) => do
    let left ← pieceList? false before
    let right ← pieceList? true behind
    if left.length + right.length ≤ 7 then
      some (left ++ List.replicate (8 - left.length - right.length) 0 ++ right)
    else none

/-- The length of the run of zeros at the front. -/
def zeroRun (pieces : List Nat) : Nat := (pieces.takeWhile (· = 0)).length

/-- The first of the longest runs of zeros, by its start and length. -/
def longestZeroRun (pieces : List Nat) : Nat × Nat :=
  (List.range pieces.length).foldl (fun best i =>
    let run := zeroRun (pieces.drop i)
    if best.2 < run then (i, run) else best) (0, 0)

/-- The digits of a number below 16⁴, without leading zeros. -/
def pieceText (n : Nat) : List Char := Nat.toDigits 16 n

/-- Pieces in a row; the longest run of at least two zeros is left out. -/
def address6Text (pieces : List Nat) : String :=
  let row (pieces : List Nat) : List Char := [':'].intercalate (pieces.map pieceText)
  let (start, length) := longestZeroRun pieces
  String.ofList <|
    if length < 2 then row pieces
    else row (pieces.take start) ++ [':', ':'] ++ row (pieces.drop (start + length))

/-! ## Hosts -/

namespace Host

def text : Host → String
  | .domain name => name
  | .address4 value => address4Text value
  | .address6 pieces => "[" ++ address6Text pieces ++ "]"

/-- The host of a URL with a special scheme. -/
def parse (cs : List Char) : Except Error Host :=
  match cs with
  | '[' :: cs =>
    if cs.getLast? = some ']' then
      match parseAddress6? cs.dropLast with
      | some pieces => .ok (.address6 pieces)
      | none => .error .badAddress6
    else .error .badAddress6
  | cs => match Domain.toAscii? cs with
    | none => .error .badDomain
    | some [] => .error .emptyHost
    | some name =>
      if endsInNumber name then
        match parseAddress4? name with
        | some value => .ok (.address4 value)
        | none => .error .badAddress4
      else .ok (.domain (String.ofList name))

/-- The host of a URL with any other scheme, which is not interpreted. -/
def parseOpaque (cs : List Char) : Except Error Host :=
  match cs with
  | '[' :: _ => parse cs
  | cs =>
    if cs.any fun c => Domain.isForbidden c && c ≠ '%' && !(isControl c && c ≠ '\x00') then
      .error .badDomainCharacter
    else .ok (.domain (String.ofList (encode isControl cs)))

end Host

end NameRoles.Url
