import NameRoles.Rule.Basic
import NameRoles.Rule.Error
import NameRoles.Yaml.Node

/-!
# Rule files

A rule file lists records. A record may leave out its identifiers, which are then derived from
the role's name, and its label. The rules of a file are refused as a whole at the first record
whose identifier or role has occurred before or whose formula is ill-formed.
-/

namespace NameRoles

/-- A rule as a file lists it. -/
structure Record where
  id : Option Uuid
  roleId : Option Uuid
  roleName : String
  label : Option String
  formula : String
deriving DecidableEq, Repr, Inhabited

/-- The identifier of a rule or role, as `kind` says, that is derived from the role's name. -/
def derivedId (kind roleName : String) : Uuid :=
  Uuid.ofName Uuid.objectNamespace s!"rolematch:{kind}:{roleName}"

def Record.toRule (record : Record) : Rule where
  id := record.id.getD (derivedId "rule" record.roleName)
  roleId := record.roleId.getD (derivedId "role" record.roleName)
  roleName := record.roleName
  rootLabel := record.label.getD Rule.defaultLabel
  formula := record.formula

/-- Why the rules of a file are refused. -/
inductive StoreFault where
  | repeatedId (id : Uuid)
  | repeatedRole (roleName : String)
  | illFormed (roleName : String) (cause : Formula.Error)
deriving DecidableEq, Repr

def StoreFault.message : StoreFault → String
  | .repeatedId id => s!"duplicate rule id {id.text}"
  | .repeatedRole roleName => s!"role '{roleName}' has more than one rule"
  | .illFormed roleName cause =>
    s!"rule for role '{roleName}' has an invalid formula: {cause.message}"

/-- Accepts a rule that stands behind others in a file. -/
def Rule.checkBehind (earlier : List Rule) (rule : Rule) : Except StoreFault Unit :=
  if earlier.any (·.id = rule.id) then .error (.repeatedId rule.id)
  else if earlier.any (·.roleId = rule.roleId) then .error (.repeatedRole rule.roleName)
  else match Formula.check rule.formula with
    | .ok () => .ok ()
    | .error cause => .error (.illFormed rule.roleName cause)

/-- Accepts rules that stand behind others in a file. -/
def checkRulesBehind (earlier : List Rule) : List Rule → Except StoreFault Unit
  | [] => .ok ()
  | rule :: rules => do
    rule.checkBehind earlier
    checkRulesBehind (earlier ++ [rule]) rules

/-- The rules of a list of records. -/
def rulesOfRecords (records : List Record) : Except StoreFault (List Rule) := do
  let rules := records.map Record.toRule
  checkRulesBehind [] rules
  return rules

/-- Reads a value that may be null or left out. -/
def Yaml.Node.nullable? (read? : Yaml.Node → Option α) : Option Yaml.Node → Option (Option α)
  | none => some none
  | some node => if node.isNull then some none else (read? node).map some

/-- Reads an identifier. -/
def Yaml.Node.uuid? (node : Yaml.Node) : Option Uuid := node.text?.bind Uuid.parse?

/-- The names of a record's fields. -/
def Record.fieldNames : List String := ["id", "role_id", "role_name", "label", "formula"]

/-- Reads a record. -/
def Record.ofNode? (node : Yaml.Node) : Option Record := do
  let fields ← node.fields? fieldNames
  let id ← Yaml.Node.nullable? Yaml.Node.uuid? (fields.lookup "id")
  let roleId ← Yaml.Node.nullable? Yaml.Node.uuid? (fields.lookup "role_id")
  let roleName ← (← fields.lookup "role_name").text?
  let label ← Yaml.Node.nullable? Yaml.Node.text? (fields.lookup "label")
  let formula ← (← fields.lookup "formula").text?
  some ⟨id, roleId, roleName, label, formula⟩

/-- The records that a file's text lists. -/
def readRecords? (text : String) : Option (List Record) := do
  let fields ← (← Yaml.Node.ofStream? text).fields? ["rules"]
  match fields.lookup "rules" with
  | none => some []
  | some node => (← node.items?).mapM Record.ofNode?

/-- The rules of a file's text. -/
def parseRuleFile (text : String) : Listing (List Rule) :=
  match readRecords? text with
  | none => .error (.yaml "the text is not a rule file")
  | some records => match rulesOfRecords records with
    | .ok rules => .ok rules
    | .error fault => .error (.store fault.message)

/-- The rules of a file that has the given bytes, if it can be read. -/
def loadRuleFile (content : Except FileFault ByteArray) : Listing (List Rule) :=
  match content with
  | .error fault => .error (.io fault.message)
  | .ok bytes => match String.fromUTF8? bytes with
    | none => .error .fileNotText
    | some text => parseRuleFile text

end NameRoles
