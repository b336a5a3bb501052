import NameRoles.Text.Hex
import NameRoles.Text.Split
import NameRoles.Yaml.Place

/-!
# Directives

Lines that start with a percent sign may stand in front of a document. They say which version of
YAML the document is written in, and by which handles its tags are abbreviated.
-/

namespace NameRoles.Yaml

open Text

inductive Directive where
  | version (major minor : Nat)
  /-- A handle abbreviates the start of tags. -/
  | handle (name : List Char)
deriving DecidableEq, Repr

namespace Directive

/-- A character of names. -/
def isNameChar (c : Char) : Bool := c.isAlphanum || c = '-' || c = '_'

/-- Reads a number of at most nine digits. -/
def readNumber? (cs : List Char) : Option (Nat × List Char) :=
  let digits := cs.takeWhile Char.isDigit
  if digits.isEmpty || 9 < digits.length then none
  else some (decimalNumber digits, cs.drop digits.length)

/-- Reads a version, two numbers with a dot between them. -/
def readVersion? (cs : List Char) : Option (Directive × List Char) := do
  let (major, rest) ← readNumber? cs
  match rest with
  | '.' :: rest =>
    let (minor, rest) ← readNumber? rest
    some (version major minor, rest)
  | _ => none

/-- Reads a handle, a name between two exclamation marks or a single one. -/
def readHandle? : List Char → Option (List Char × List Char)
  | '!' :: cs =>
    let name := cs.takeWhile isNameChar
    match cs.drop name.length with
    | '!' :: rest => some ('!' :: name ++ ['!'], rest)
    | rest => if name.isEmpty then some (['!'], rest) else none
  | _ => none

/-- Reads an octet, given by a percent sign and two digits. -/
def readOctet? : List Char → Option (Nat × List Char)
  | '%' :: high :: low :: rest => (hexNumber? [high, low]).map (·, rest)
  | _ => none

/-- How many octets of a character in UTF-8 follow its first one. -/
def following? (octet : Nat) : Option Nat :=
  if octet / 0x80 = 0 then some 0
  else if octet / 0x20 = 6 then some 1
  else if octet / 0x10 = 14 then some 2
  else if octet / 8 = 30 then some 3
  else none

/-- Goes over octets that go on a character. -/
def skipFollowing? : Nat → List Char → Option (List Char)
  | 0, cs => some cs
  | count + 1, cs => do
    let (octet, rest) ← readOctet? cs
    if octet / 0x40 = 2 then skipFollowing? count rest else none

/-- A character of tags. -/
def isTagChar (c : Char) : Bool := isNameChar c || ";/?:@&=+$.!~*'(),[]".toList.contains c

/-- Goes over the start of a tag, in which octets may stand for characters. -/
def skipTag? : Nat → List Char → Option (List Char)
  | 0, cs => some cs
  | fuel + 1, cs =>
    match cs with
    | [] => some []
    | c :: rest =>
      if isTagChar c then skipTag? fuel rest
      else if c = '%' then do
        let (octet, rest) ← readOctet? cs
        skipTag? fuel (← skipFollowing? (← following? octet) rest)
      else some cs

/-- Reads a handle and the start of tags that it stands for. -/
def readAbbreviation? (cs : List Char) : Option (Directive × List Char) := do
  let (name, rest) ← readHandle? cs
  let start := rest.dropWhile isSpaceOrTab
  let rest ← if atSpace rest then skipTag? start.length start else none
  if rest.length < start.length && atGap rest then some (handle name, rest) else none

/-- Reads a directive behind its percent sign, and the rest of its line up to a comment. -/
def read? (cs : List Char) : Option (Directive × List Char) := do
  let name := cs.takeWhile isNameChar
  let rest := cs.drop name.length
  let body := rest.dropWhile isSpaceOrTab
  let (directive, rest) ←
    if !atSpace rest then none
    else if name = ['Y', 'A', 'M', 'L'] then readVersion? body
    else if name = ['T', 'A', 'G'] then readAbbreviation? body
    else none
  let rest := rest.dropWhile isSpaceOrTab
  if atLineEnd rest || rest.head? = some '#' then some (directive, rest) else none

/-- A document can be read by these directives: the version is one of two, and nothing is said
twice. -/
def suit (directives : List Directive) : Bool :=
  let versions := directives.filter fun directive => match directive with
    | version _ _ => true
    | handle _ => false
  versions.length ≤ 1 && versions.all [version 1 1, version 1 2].contains && directives.Nodup

end Directive

end NameRoles.Yaml
