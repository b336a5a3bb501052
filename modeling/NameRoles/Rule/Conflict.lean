import NameRoles.Rule.Basic

/-!
# Conflicts between rules

Two rules conflict when an operand of one contains an operand of the other, both folded: some
name may then fall under both. Negations and the shape of the formulas are left out of account,
and so the formulas need not be well-formed.
-/

namespace NameRoles

open Text

/-- An operand with its folded form. -/
structure Operand where
  text : String
  folded : List Char
deriving DecidableEq, Repr

def Operand.ofText (text : String) : Operand := ⟨text, foldChars text.toList⟩

/-- One of the operands contains the other. -/
def Operand.overlaps (a b : Operand) : Bool :=
  occursIn b.folded a.folded || occursIn a.folded b.folded

/-- The operands without those whose folded form an earlier one has, behind those in `seen`. -/
def distinctAfter (seen : List Operand) : List Operand → List Operand
  | [] => seen
  | operand :: operands =>
    if seen.any (·.folded = operand.folded) then distinctAfter seen operands
    else distinctAfter (seen ++ [operand]) operands

/-- The operands of a formula, one for each folded form. -/
def operandSet (formula : String) : List Operand :=
  distinctAfter [] ((Formula.operands formula).map Operand.ofText)

/-- The texts of two operands of which one contains the other. -/
structure Overlap where
  left : String
  right : String
deriving DecidableEq, Repr, Inhabited

/-- The first operand on the left that overlaps one on the right, with the first such one. -/
def findOverlap (left right : List Operand) : Option Overlap :=
  left.findSome? fun a => (right.find? a.overlaps).map fun b => ⟨a.text, b.text⟩

/-- A rule as a conflict names it. -/
structure RuleName where
  id : Uuid
  roleName : String
deriving DecidableEq, Repr, Inhabited

def Rule.name (rule : Rule) : RuleName := ⟨rule.id, rule.roleName⟩

/-- Two rules of a set that conflict. -/
structure RuleConflict where
  first : RuleName
  second : RuleName
  overlap : Overlap
deriving DecidableEq, Repr

/-- A rule that a draft formula conflicts with. -/
structure DraftConflict where
  rule : RuleName
  overlap : Overlap
deriving DecidableEq, Repr

/-- The rules but the one with the given identifier. -/
def withoutRule (excluded : Option Uuid) (rules : List Rule) : List Rule :=
  rules.filter fun rule => some rule.id ≠ excluded

/-- The conflicts of each rule with the rules behind it. -/
def pairConflicts : List (Rule × List Operand) → List RuleConflict
  | [] => []
  | (first, operands) :: rules =>
    let found := rules.filterMap fun (second, others) =>
      (findOverlap operands others).map fun overlap => ⟨first.name, second.name, overlap⟩
    found ++ pairConflicts rules

/-- A rule with its operands. -/
def Rule.withOperands (rule : Rule) : Rule × List Operand := (rule, operandSet rule.formula)

/-- The pairs of conflicting rules of a set, the excluded rule left out. -/
def detectConflicts (rules : List Rule) (excluded : Option Uuid) : List RuleConflict :=
  pairConflicts ((withoutRule excluded rules).map Rule.withOperands)

/-- The rules that a draft formula conflicts with, the excluded rule left out. -/
def conflictsWith (formula : String) (rules : List Rule) (excluded : Option Uuid) :
    List DraftConflict :=
  let operands := operandSet formula
  (withoutRule excluded rules).filterMap fun rule =>
    (findOverlap operands (operandSet rule.formula)).map fun overlap => ⟨rule.name, overlap⟩

end NameRoles
