import NameRoles.Formula.Printer

/-!
# Rule trees

A rule tree says a condition without negations above its leaves: groups join what stands below
them, and a leaf tests for one text. `toExpr` gives its meaning; `ofExpr` brings a condition into
this form by pushing each negation down to the leaves.
-/

namespace NameRoles

/-- How a group joins its children. -/
inductive Join where
  | and
  | or
deriving DecidableEq, Repr, Inhabited

/-- What a leaf asks of a name. -/
inductive Test where
  | contains
  | lacks
deriving DecidableEq, Repr, Inhabited

/-- A condition in tree form. The label of a group has no meaning of its own. -/
inductive RuleTree where
  | group (join : Join) (label : String) (children : List RuleTree)
  | leaf (test : Test) (text : String)
deriving Repr, Inhabited

namespace RuleTree

mutual

/-- The condition that a tree stands for. An empty group and an empty leaf hold of no name. -/
def toExpr : RuleTree → Expr
  | .group join _ children =>
    if children.isEmpty then .never
    else match join with
      | .and => Expr.allOf (toExprs children)
      | .or => Expr.anyOf (toExprs children)
  | .leaf test text =>
    if text = "" then .never
    else match test with
      | .contains => .pattern text
      | .lacks => .not (.pattern text)

def toExprs : List RuleTree → List Expr
  | [] => []
  | tree :: trees => toExpr tree :: toExprs trees

end

mutual

/-- The tree of a condition, or of its negation. -/
def lower (negated : Bool) : Expr → RuleTree
  | .pattern text => .leaf (if negated then .lacks else .contains) text
  | .not operand => lower (!negated) operand
  | .and items => .group (if negated then .or else .and) "" (lowerAll negated items)
  | .or items => .group (if negated then .and else .or) "" (lowerAll negated items)
  | .never => .group .and "" []

def lowerAll (negated : Bool) : List Expr → List RuleTree
  | [] => []
  | item :: items => lower negated item :: lowerAll negated items

end

/-- The tree under a root group with a label; a single leaf becomes the only child of one. -/
def withRoot (label : String) : RuleTree → RuleTree
  | .group join _ children => .group join label children
  | .leaf test text => .group .and label [.leaf test text]

/-- The tree of a condition, whose root is a group with the given label. -/
def ofExpr (e : Expr) (label : String) : RuleTree := withRoot label (lower false e)

/-- The formula that spells the tree's condition, if there is one. -/
def formula? (tree : RuleTree) : Option String := Formula.render tree.toExpr

@[simp] theorem toExprs_eq_map {trees : List RuleTree} : toExprs trees = trees.map toExpr := by
  induction trees with
  | nil => rfl
  | cons tree trees ih => simp [toExprs, ih]

@[simp] theorem lowerAll_eq_map {negated : Bool} {items : List Expr} :
    lowerAll negated items = items.map (lower negated) := by
  induction items with
  | nil => rfl
  | cons item items ih => simp [lowerAll, ih]

@[elab_as_elim]
theorem induction {motive : RuleTree → Prop}
    (group : ∀ join label children, (∀ child ∈ children, motive child) →
      motive (.group join label children))
    (leaf : ∀ test text, motive (.leaf test text)) (tree : RuleTree) : motive tree :=
  match tree with
  | .group join label children =>
    group join label children fun child _ => induction group leaf child
  | .leaf test text => leaf test text

end RuleTree

end NameRoles
