import NameRoles.Rule.File

/-!
# Stores of rules

A store lists its rules in an order that does not change between two listings, or says why it
cannot. As trees it lists those rules whose formulas are valid.
-/

namespace NameRoles

inductive RuleStore where
  /-- Rules kept in memory, which are listed as they are. -/
  | memory (rules : List Rule)
  /-- The file with these bytes, or one that cannot be read. It is read anew for each listing. -/
  | file (content : Except FileFault ByteArray)
  /-- A store out of order. -/
  | broken (fault : RuleError)

namespace RuleStore

def list : RuleStore → Listing (List Rule)
  | memory rules => .ok rules
  | file content => loadRuleFile content
  | broken fault => .error fault

def listTrees (store : RuleStore) : Listing (List TreeRule) := store.list.map deriveTrees

/-- The store of a file with this text. -/
def ofText (text : String) : RuleStore := .file (.ok text.toUTF8)

/-- The store of a file that is not there. -/
def absent : RuleStore := .file (.error .missing)

end RuleStore

end NameRoles
