/-!
# JSON values

A value keeps its object members in the order of the text, repeated names included, and its
numbers as they were written.
-/

namespace NameRoles

inductive Json where
  | null
  | bool (value : Bool)
  | number (literal : String)
  | string (text : String)
  | array (items : List Json)
  | object (members : List (String × Json))
deriving Repr, Inhabited

namespace Json

mutual

/-- How many arrays and objects stand in each other. -/
def depth : Json → Nat
  | .array items => depthItems items + 1
  | .object members => depthMembers members + 1
  | _ => 0

def depthItems : List Json → Nat
  | [] => 0
  | item :: items => max (depth item) (depthItems items)

def depthMembers : List (String × Json) → Nat
  | [] => 0
  | (_, value) :: members => max (depth value) (depthMembers members)

end

/-- The text of a string value. -/
def string? : Json → Option String
  | .string text => some text
  | _ => none

end Json

end NameRoles
