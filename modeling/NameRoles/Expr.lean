import NameRoles.Text.Fold

/-!
# Boolean conditions over names

An `Expr` is what a formula and a rule tree mean. `Expr.matchesName` says which names it holds of: a
pattern holds of a name that contains it, both folded.
-/

namespace NameRoles

open Text

/-- A condition over a name. A conjunction or disjunction without items holds of no name. -/
inductive Expr where
  | pattern (text : String)
  | not (operand : Expr)
  | and (items : List Expr)
  | or (items : List Expr)
  | never
deriving Repr, Inhabited

namespace Expr

/-- The conjunction of some conditions; a single one stands for itself. -/
def allOf : List Expr → Expr
  | [item] => item
  | items => .and items

/-- The disjunction of some conditions; a single one stands for itself. -/
def anyOf : List Expr → Expr
  | [item] => item
  | items => .or items

mutual

/-- Tells whether the condition holds of a name whose folded form is `name`. -/
def holds (name : List Char) : Expr → Bool
  | .pattern text => text ≠ "" && occursIn (foldChars text.toList) name
  | .not operand => !holds name operand
  | .and items => !items.isEmpty && holdsAll name items
  | .or items => holdsAny name items
  | .never => false

def holdsAll (name : List Char) : List Expr → Bool
  | [] => true
  | item :: items => holds name item && holdsAll name items

def holdsAny (name : List Char) : List Expr → Bool
  | [] => false
  | item :: items => holds name item || holdsAny name items

end

/-- Tells whether the condition holds of a name. -/
def matchesName (e : Expr) (name : String) : Bool := e.holds (foldChars name.toList)

@[simp] theorem holdsAll_eq {name : List Char} {items : List Expr} :
    holdsAll name items = items.all (holds name) := by
  induction items with
  | nil => rfl
  | cons item items ih => simp [holdsAll, ih]

@[simp] theorem holdsAny_eq {name : List Char} {items : List Expr} :
    holdsAny name items = items.any (holds name) := by
  induction items with
  | nil => rfl
  | cons item items ih => simp [holdsAny, ih]

@[elab_as_elim]
theorem induction {motive : Expr → Prop} (pattern : ∀ text, motive (.pattern text))
    (not : ∀ operand, motive operand → motive (.not operand))
    (and : ∀ items, (∀ e ∈ items, motive e) → motive (.and items))
    (or : ∀ items, (∀ e ∈ items, motive e) → motive (.or items))
    (never : motive .never) (e : Expr) : motive e :=
  match e with
  | .pattern text => pattern text
  | .not operand => not operand (induction pattern not and or never operand)
  | .and items => and items fun item _ => induction pattern not and or never item
  | .or items => or items fun item _ => induction pattern not and or never item
  | .never => never

end Expr

end NameRoles
