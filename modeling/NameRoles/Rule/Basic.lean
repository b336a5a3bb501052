import NameRoles.Rule.Tree
import NameRoles.Uuid

/-!
# Rules

A rule gives a role to every name that its formula holds of. Clients that classify names receive
the rules in tree form, without those whose formula is ill-formed.
-/

namespace NameRoles

/-- A rule as an administrator writes it. -/
structure Rule where
  id : Uuid
  roleId : Uuid
  roleName : String
  rootLabel : String
  formula : String
deriving DecidableEq, Repr, Inhabited

/-- A rule in tree form. -/
structure TreeRule where
  roleName : String
  root : RuleTree
deriving Repr, Inhabited

namespace Rule

/-- The label of the root group of a rule that names none. -/
def defaultLabel : String := "Root"

/-- The rule in tree form, or why it has none. -/
def toTree (rule : Rule) : Except Formula.Error TreeRule := do
  let e ← Formula.parse rule.formula
  return ⟨rule.roleName, RuleTree.ofExpr e rule.rootLabel⟩

end Rule

/-- The tree forms of those rules that have one, in the order of the rules. -/
def deriveTrees (rules : List Rule) : List TreeRule :=
  rules.filterMap fun rule => rule.toTree.toOption

end NameRoles
