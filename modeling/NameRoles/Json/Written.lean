import NameRoles.Json.Basic
import NameRoles.Json.Number

/-!
# Values as they are written

A `Written` value is what is found in a text up to the place where the text stops being JSON. A
reader of some shape of value goes through it from the front, so that of several faults the one
that stands first decides. `toJson?` is the value, if there is one, and `ofJson` its inverse.
-/

namespace NameRoles.Json

inductive Written where
  /-- The text is no JSON from here on. -/
  | cut
  | null
  | bool (value : Bool)
  | number (literal : String)
  /-- A string; there is no text if its escapes hold half of a surrogate pair. -/
  | string (text : Option String)
  | array (items : List Written) (closed : Bool)
  | object (members : List (Option String × Written)) (closed : Bool)
deriving Repr, Inhabited

namespace Written

/-- The text is JSON as far as this value goes. -/
def isWhole : Written → Bool
  | .cut => false
  | .array _ closed | .object _ closed => closed
  | _ => true

mutual

/-- The value, which must be whole, hold texts only, and have its numbers in range. -/
def toJson? : Written → Option Json
  | .cut => none
  | .null => some .null
  | .bool value => some (.bool value)
  | .number literal => if isFinite literal then some (.number literal) else none
  | .string text => text.map .string
  | .array items closed => do
    let items ← toItems? items
    if closed then some (.array items) else none
  | .object members closed => do
    let members ← toMembers? members
    if closed then some (.object members) else none

def toItems? : List Written → Option (List Json)
  | [] => some []
  | item :: items => do return (← toJson? item) :: (← toItems? items)

def toMembers? : List (Option String × Written) → Option (List (String × Json))
  | [] => some []
  | (name, value) :: members => do
    return (← name, ← toJson? value) :: (← toMembers? members)

end

mutual

/-- A value as it is written. -/
def ofJson : Json → Written
  | .null => .null
  | .bool value => .bool value
  | .number literal => .number literal
  | .string text => .string (some text)
  | .array items => .array (ofItems items) true
  | .object members => .object (ofMembers members) true

def ofItems : List Json → List Written
  | [] => []
  | item :: items => ofJson item :: ofItems items

def ofMembers : List (String × Json) → List (Option String × Written)
  | [] => []
  | (name, value) :: members => (some name, ofJson value) :: ofMembers members

end

end Written

end NameRoles.Json
