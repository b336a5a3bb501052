import NameRoles.Proofs.Formula.Spelling
import NameRoles.Proofs.Rule.Lowering

/-!
# What trees mean

`RuleTree.Holds` says of which names a tree holds, without a condition in between. A tree may be any
that is loaded, with empty groups, groups of one and empty leaves at every depth. The condition that
it stands for holds of the same names, whatever the labels, and so does the formula that spells it,
if this is accepted (`tree_holds_as_condition`).
-/

namespace NameRoles

open Formula Text

namespace RuleTree

/-- What a tree holds of. A leaf compares texts by their folded forms; no rule looks at a label. -/
inductive Holds (name : String) : RuleTree → Prop where
  | all {label : String} {children : List RuleTree} (hne : children ≠ [])
      (h : ∀ child ∈ children, child.Holds name) : Holds name (.group .and label children)
  | any {label : String} {children : List RuleTree} {child : RuleTree} (hmem : child ∈ children)
      (h : child.Holds name) : Holds name (.group .or label children)
  | contains {text : String} (hne : text ≠ "")
      (h : foldChars text.toList <:+: foldChars name.toList) : Holds name (.leaf .contains text)
  | lacks {text : String} (hne : text ≠ "")
      (h : ¬ foldChars text.toList <:+: foldChars name.toList) : Holds name (.leaf .lacks text)

mutual

/-- The tree with all labels left empty. -/
def unlabelled : RuleTree → RuleTree
  | .group join _ children => .group join "" (unlabelledAll children)
  | .leaf test text => .leaf test text

def unlabelledAll : List RuleTree → List RuleTree
  | [] => []
  | tree :: trees => unlabelled tree :: unlabelledAll trees

end

variable {name label text : String} {children : List RuleTree} {tree other : RuleTree}

/-! ## Groups and leaves -/

@[simp] theorem holds_and_iff : (group .and label children).Holds name ↔
    children ≠ [] ∧ ∀ child ∈ children, child.Holds name := by
  constructor
  · rintro (⟨hne, h⟩)
    exact ⟨hne, h⟩
  · rintro ⟨hne, h⟩
    exact .all hne h

@[simp] theorem holds_or_iff : (group .or label children).Holds name ↔
    ∃ child ∈ children, child.Holds name := by
  constructor
  · intro h
    cases h with
    | any hmem h => exact ⟨_, hmem, h⟩
  · rintro ⟨child, hmem, h⟩
    exact .any hmem h

@[simp] theorem holds_contains_iff : (leaf .contains text).Holds name ↔
    text ≠ "" ∧ foldChars text.toList <:+: foldChars name.toList := by
  constructor
  · intro h
    cases h with
    | contains hne h => exact ⟨hne, h⟩
  · rintro ⟨hne, h⟩
    exact .contains hne h

@[simp] theorem holds_lacks_iff : (leaf .lacks text).Holds name ↔
    text ≠ "" ∧ ¬ foldChars text.toList <:+: foldChars name.toList := by
  constructor
  · intro h
    cases h with
    | lacks hne h => exact ⟨hne, h⟩
  · rintro ⟨hne, h⟩
    exact .lacks hne h

/-! ## The condition of a tree -/

theorem matchesName_toExpr_iff : tree.toExpr.matchesName name = true ↔ tree.Holds name := by
  rw [Expr.matchesName]
  induction tree using RuleTree.induction with
  | group join label children ih =>
    cases join with
    | and =>
      rw [holds_toExpr_and, holds_and_iff, Bool.and_eq_true, List.all_eq_true]
      refine and_congr (by simp) (forall₂_congr fun child hchild => ?_)
      exact ih child hchild
    | or =>
      rw [holds_toExpr_or, holds_or_iff, List.any_eq_true]
      refine exists_congr fun child => and_congr_right fun hchild => ?_
      exact ih child hchild
  | leaf test text =>
    cases test with
    | contains => simp
    | lacks => simp [← occursIn_iff]

/-! ## Labels -/

@[simp] theorem unlabelledAll_eq_map (trees : List RuleTree) :
    unlabelledAll trees = trees.map unlabelled := by
  induction trees with
  | nil => rfl
  | cons tree trees ih => rw [unlabelledAll, ih, List.map_cons]

@[simp] theorem toExpr_unlabelled (tree : RuleTree) : tree.unlabelled.toExpr = tree.toExpr := by
  induction tree using RuleTree.induction with
  | group join label children ih =>
    have hchildren : children.map (toExpr ∘ unlabelled) = children.map toExpr :=
      List.map_congr_left ih
    simp [unlabelled, toExpr, hchildren]
  | leaf test text => rfl

/-- Trees that differ in labels alone stand for one condition. -/
theorem toExpr_eq_of_unlabelled (h : other.unlabelled = tree.unlabelled) :
    other.toExpr = tree.toExpr := by
  rw [← toExpr_unlabelled other, h, toExpr_unlabelled]

/-! ## The formula of a tree -/

/-- The formula of a tree loses groups of one, and with them nothing of what the tree holds of. -/
theorem evaluate_of_formula? (h : tree.formula? = some text) (hcheck : check text = .ok ()) :
    evaluate text name = tree.toExpr.matchesName name := by
  have hwritten : Says text tree.toExpr.collapse (nestingAt .whole tree.toExpr) :=
    says_of_render h
  calc evaluate text name
      = tree.toExpr.collapse.matchesName name :=
        hwritten.evaluate_eq (hwritten.check_eq_ok_iff.mp hcheck)
    _ = tree.toExpr.matchesName name := Expr.holds_collapse tree.toExpr

/-- The condition of a tree holds of the names that the tree holds of, and so does its formula if
it has one that is accepted. Trees that differ in labels alone stand for one condition. -/
theorem tree_holds_as_condition (tree : RuleTree) (name : String) :
    (tree.toExpr.matchesName name = true ↔ tree.Holds name) ∧
      (∀ other : RuleTree, other.unlabelled = tree.unlabelled →
        other.toExpr = tree.toExpr ∧ (other.Holds name ↔ tree.Holds name)) ∧
      ∀ text, tree.formula? = some text → check text = .ok () →
        (evaluate text name = true ↔ tree.Holds name) := by
  refine ⟨matchesName_toExpr_iff, fun other hlabels => ?_, fun text htext hcheck => ?_⟩
  · have hexpr := toExpr_eq_of_unlabelled hlabels
    refine ⟨hexpr, ?_⟩
    rw [← matchesName_toExpr_iff, hexpr, matchesName_toExpr_iff]
  · rw [evaluate_of_formula? htext hcheck, matchesName_toExpr_iff]

/-- A tree with a group of one, and another with other labels. -/
theorem tree_holds_as_condition_groupOfOne :
    let tree : RuleTree :=
      .group .and "Root" [.group .or "Doors" [.leaf .contains "Door"], .leaf .lacks "Glass"]
    let other : RuleTree :=
      .group .and "Doors" [.group .or "" [.leaf .contains "Door"], .leaf .lacks "Glass"]
    other.unlabelled = tree.unlabelled ∧ tree.formula? = some "Door AND NOT Glass" ∧
      check "Door AND NOT Glass" = .ok () ∧ tree.Holds "Front door" ∧ other.Holds "Front door" ∧
      ¬ tree.Holds "GLASS DOOR" := by
  intro tree other
  have hlabels : other.unlabelled = tree.unlabelled := rfl
  have hformula : tree.formula? = some "Door AND NOT Glass" := by decide +kernel
  have hcheck : check "Door AND NOT Glass" = .ok () := by decide +kernel
  obtain ⟨-, hother, hfront⟩ := tree_holds_as_condition tree "Front door"
  obtain ⟨hglass, -, -⟩ := tree_holds_as_condition tree "GLASS DOOR"
  have hholds : tree.Holds "Front door" := (hfront _ hformula hcheck).mp (by decide +kernel)
  refine ⟨hlabels, hformula, hcheck, hholds, (hother other hlabels).2.mpr hholds, ?_⟩
  rw [← hglass]
  decide +kernel

end RuleTree

end NameRoles
