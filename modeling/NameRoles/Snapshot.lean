import NameRoles.Rule.Basic

/-!
# Compiled rule sets

A snapshot is a rule set made ready for classification: each role keeps its first rule, and a
name gets the role of the first rule that holds of it.
-/

namespace NameRoles

open Text

/-- A rule whose tree has been turned into a condition. -/
structure CompiledRule where
  roleName : String
  condition : Expr
deriving Repr, Inhabited

def TreeRule.compile (rule : TreeRule) : CompiledRule := ⟨rule.roleName, rule.root.toExpr⟩

/-- An ordered rule set. -/
structure Snapshot where
  rules : List CompiledRule
deriving Repr, Inhabited

namespace Snapshot

/-- The rules in `kept` and behind them those of further rules whose role is new. -/
def compileBehind (kept : List CompiledRule) : List TreeRule → List CompiledRule
  | [] => kept
  | rule :: rules =>
    if kept.any (·.roleName = rule.roleName) then compileBehind kept rules
    else compileBehind (kept ++ [rule.compile]) rules

/-- The first rule of each role, in the order of the rules. -/
def compile (rules : List TreeRule) : Snapshot := ⟨compileBehind [] rules⟩

/-- The rule of a role. -/
def ruleFor? (snapshot : Snapshot) (roleName : String) : Option CompiledRule :=
  snapshot.rules.find? (·.roleName = roleName)

/-- The role of the first rule that holds of a name. -/
def firstMatch? (snapshot : Snapshot) (name : String) : Option String :=
  let folded := foldChars name.toList
  (snapshot.rules.find? (·.condition.holds folded)).map (·.roleName)

end Snapshot

/-- A name with the role it has been given. -/
structure Classification where
  name : String
  role : Option String
deriving DecidableEq, Repr, Inhabited

/-- The role that a rule set gives to a name; no rule set gives none. -/
def Snapshot.roleOf? (snapshot : Option Snapshot) (name : String) : Option String :=
  snapshot.bind (·.firstMatch? name)

/-- The roles of several names. -/
def Snapshot.classifyAll (snapshot : Option Snapshot) (names : List String) :
    List Classification :=
  names.map fun name => ⟨name, roleOf? snapshot name⟩

end NameRoles
