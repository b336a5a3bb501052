import NameRoles.Json.Decode
import NameRoles.Json.Writer
import NameRoles.Rule.Conflict

/-!
# Rules in JSON

The written forms of rules, trees and conflicts, and the readers of those that are read. A tree has
to be a value as a whole, what is passed over included, and arrays and objects may nest no more
than `maxDepth` levels around and in it.
-/

namespace NameRoles

open Json

/-- How many arrays and objects may stand in each other around and in a tree. -/
def Json.maxDepth : Nat := 127

def Uuid.toJson (id : Uuid) : Json := .string id.text

def Uuid.decode : Decoder Uuid := decodeText Uuid.parse?

namespace Rule

def toJson (rule : Rule) : Json :=
  .object [("id", rule.id.toJson), ("role_id", rule.roleId.toJson),
    ("role_name", .string rule.roleName), ("root_label", .string rule.rootLabel),
    ("formula", .string rule.formula)]

/-- The fields of a rule. -/
def fields : List Field :=
  [.of "id" Uuid.decode, .of "role_id" Uuid.decode, .of "role_name" decodeString,
    .of "root_label" decodeString, .of "formula" decodeString]

/-- Reads a rule; only the label may be left out. -/
def decode : Decoder Rule := fun value => do
  let found ← decodeFields fields value
  return {
    id := ← found.get "id" Uuid.decode
    roleId := ← found.get "role_id" Uuid.decode
    roleName := ← found.get "role_name" decodeString
    rootLabel := (← found.get? "root_label" decodeString).getD defaultLabel
    formula := ← found.get "formula" decodeString }

def decodeAll : Decoder (List Rule) := decodeList decode

end Rule

def Join.text : Join → String
  | .and => "AND"
  | .or => "OR"

def Join.parse? : String → Option Join
  | "AND" => some .and
  | "OR" => some .or
  | _ => none

def Test.text : Test → String
  | .contains => "Contains"
  | .lacks => "NotContains"

def Test.parse? : String → Option Test
  | "Contains" => some .contains
  | "NotContains" => some .lacks
  | _ => none

/-- Reads a word that stands alone or as the only member's name of an object, whose value is then
null or the empty object. -/
def Json.decodeWord (parse? : String → Option α) : Decoder α
  | .object [(word, .null)] _ | .object [(word, .object [] _)] _ =>
    decodeText parse? (.string word)
  | value => decodeText parse? value

namespace RuleTree

/-- The two kinds of nodes. -/
inductive Kind where
  | group
  | leaf
deriving DecidableEq, Repr

def Kind.text : Kind → String
  | .group => "group"
  | .leaf => "condition"

/-- The kind of a node, by name; below the root its number will do. -/
def Kind.decode (isRoot : Bool) : Decoder Kind
  | .string (some "group") => .ok .group
  | .string (some "condition") => .ok .leaf
  | .number "0" => if isRoot then .error .misfit else .ok .group
  | .number "1" => if isRoot then .error .misfit else .ok .leaf
  | _ => .error .misfit

mutual

def toJson : RuleTree → Json
  | .group join label children =>
    .object [("type", .string Kind.group.text), ("operator", .string join.text),
      ("value", .string label), ("children", .array (toJsons children))]
  | .leaf test text =>
    .object [("type", .string Kind.leaf.text), ("operator", .string test.text),
      ("value", .string text)]

def toJsons : List RuleTree → List Json
  | [] => []
  | tree :: trees => toJson tree :: toJsons trees

end

/-- The kind of a node and what else is written of it. -/
def splitKind (isRoot : Bool) : Decoder (Kind × Written)
  | .object members closed =>
    let (kinds, others) := members.partition (·.1 = some "type")
    match kinds with
    | [(_, kind)] => do return (← Kind.decode isRoot kind, .object others closed)
    | _ => .error .misfit
  | .array (kind :: others) closed => do
    return (← Kind.decode isRoot kind, .array others closed)
  | _ => .error .misfit

/-- Reads a tree of at most `fuel` levels. -/
def decodeWithin (isRoot : Bool) : Nat → Decoder RuleTree
  | 0, _ => .error .misfit
  | fuel + 1, value => do
    let (kind, rest) ← splitKind isRoot value
    match kind with
    | .group =>
      let found ← decodeFields
        [.of "operator" (decodeWord Join.parse?), .of "value" decodeString,
          ⟨"children", Written.pass⟩] rest
      let join ← found.get "operator" (decodeWord Join.parse?)
      let label ← found.get? "value" decodeString
      let children ← found.get? "children" (decodeList (decodeWithin false fuel))
      return .group join (label.getD "") (children.getD [])
    | .leaf =>
      let found ← decodeFields
        [.of "operator" (decodeWord Test.parse?), .of "value" decodeString] rest
      let test ← found.get "operator" (decodeWord Test.parse?)
      let text ← found.get? "value" decodeString
      return .leaf test (text.getD "")

/-- Reads a tree whose text stands in `outside` arrays and objects. -/
def decodeAt (outside : Nat) : Decoder RuleTree := fun value =>
  match value.toJson? with
  | some json =>
    if outside + json.depth ≤ maxDepth then decodeWithin true maxDepth value
    else .error .malformed
  | none => .error .malformed

def decode : Decoder RuleTree := decodeAt 0

end RuleTree

namespace TreeRule

def toJson (rule : TreeRule) : Json :=
  .object [("role_name", .string rule.roleName), ("root_node", rule.root.toJson)]

/-- Reads a tree rule that stands in a list. -/
def decode : Decoder TreeRule := fun value => do
  let found ← decodeFields
    [.of "role_name" decodeString, .of "root_node" (RuleTree.decodeAt 2)] value
  return ⟨← found.get "role_name" decodeString, ← found.get "root_node" (RuleTree.decodeAt 2)⟩

def decodeAll : Decoder (List TreeRule) := decodeList decode

end TreeRule

def RuleName.toJson (name : RuleName) : Json :=
  .object [("rule_id", name.id.toJson), ("role_name", .string name.roleName)]

def Overlap.toJson (overlap : Overlap) : Json :=
  .object [("left", .string overlap.left), ("right", .string overlap.right)]

def RuleConflict.toJson (conflict : RuleConflict) : Json :=
  .object [("first", conflict.first.toJson), ("second", conflict.second.toJson),
    ("overlap", conflict.overlap.toJson)]

def DraftConflict.toJson (conflict : DraftConflict) : Json :=
  .object [("rule", conflict.rule.toJson), ("overlap", conflict.overlap.toJson)]

end NameRoles
