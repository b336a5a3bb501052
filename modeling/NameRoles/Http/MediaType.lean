/-!
# Media types

`isJson` tells whether a media type names JSON or a format that is written in JSON.
-/

namespace NameRoles.Http.MediaType

/-- A character of type names and of parameters without quotes. -/
def isTokenChar (c : Char) : Bool :=
  c.isAlphanum ||
    ['!', '#', '$', '%', '&', '\'', '*', '+', '-', '.', '^', '_', '\x60', '|', '~'].contains c

/-- A character that may stand in quotes. -/
def isQuotable (c : Char) : Bool := 31 < c.toNat && c.toNat < 127

/-- How far the parameters behind a media type have been read. -/
inductive Place where
  | between
  | name
  | opening
  | value
  | quoteOpened
  | quoted
  | quoteClosed
deriving DecidableEq, Repr

def Place.step (place : Place) (c : Char) : Option Place :=
  match place with
  | .between => if c = ' ' then some .between else if isTokenChar c then some .name else none
  | .name => if c = '=' then some .opening else if isTokenChar c then some .name else none
  | .opening => if c = '"' then some .quoteOpened else if isTokenChar c then some .value else none
  | .value => if c = ';' then some .between else if isTokenChar c then some .value else none
  | .quoteOpened => if isQuotable c then some .quoted else none
  | .quoted =>
    if c = '"' then some .quoteClosed else if isQuotable c then some .quoted else none
  | .quoteClosed =>
    if c = ';' then some .between else if c = ' ' then some .quoteClosed else none

/-- The parameters may end here. -/
def Place.isFinal : Place → Bool
  | .between | .opening | .value | .quoteClosed => true
  | .name | .quoteOpened | .quoted => false

/-- A text is a list of parameters. -/
def areParameters (cs : List Char) : Bool :=
  (cs.foldlM Place.step Place.between).any Place.isFinal

/-- A subtype is JSON, or has it in front of its last plus sign or behind. A plus sign at the very
front divides nothing. -/
def isJsonSubtype (subtype : List Char) : Bool :=
  let suffix := (subtype.reverse.takeWhile (· ≠ '+')).reverse
  let stem := subtype.take (subtype.length - suffix.length - 1)
  if stem.isEmpty then subtype = "json".toList
  else suffix = "json".toList || stem = "json".toList

/-- A media type is that of an application's data and is JSON or written in JSON. -/
def isJson (text : String) : Bool :=
  let cs := text.toList
  let subtype := (cs.dropWhile (· ≠ '/')).drop 1
  let parameters := subtype.dropWhile (· ≠ ';')
  let subtype := subtype.takeWhile (· ≠ ';')
  (cs.takeWhile (· ≠ '/')).map Char.toLower = "application".toList &&
    subtype.all isTokenChar && isJsonSubtype (subtype.map Char.toLower) &&
    areParameters (parameters.drop 1)

end NameRoles.Http.MediaType
