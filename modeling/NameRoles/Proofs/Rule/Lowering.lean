import Mathlib.Data.List.Forall2
import NameRoles.Proofs.Formula.Proper
import NameRoles.Rule.Basic

/-!
# Rules keep their meaning as trees

`RuleTree.ofExpr` pushes negations down to the leaves. The tree of a proper condition holds of the
same names as the condition, hence the trees that clients are served classify as the formulas do.
-/

namespace NameRoles

open Text

namespace RuleTree

variable {name : List Char} {label text : String} {children : List RuleTree}

/-! ## What a tree holds of -/

@[simp] theorem holds_toExpr_and : (toExpr (.group .and label children)).holds name =
    (!children.isEmpty && children.all fun tree => tree.toExpr.holds name) := by
  cases children with
  | nil => simp [toExpr, Expr.holds]
  | cons tree trees => simp [toExpr, Function.comp_def]

@[simp] theorem holds_toExpr_or : (toExpr (.group .or label children)).holds name =
    children.any fun tree => tree.toExpr.holds name := by
  cases children with
  | nil => simp [toExpr, Expr.holds]
  | cons tree trees => simp [toExpr, Function.comp_def]

@[simp] theorem holds_toExpr_contains : (toExpr (.leaf .contains text)).holds name =
    (text ≠ "" && occursIn (foldChars text.toList) name) := by
  by_cases h : text = "" <;> simp [toExpr, Expr.holds, h]

@[simp] theorem holds_toExpr_lacks : (toExpr (.leaf .lacks text)).holds name =
    (text ≠ "" && !occursIn (foldChars text.toList) name) := by
  by_cases h : text = "" <;> simp [toExpr, Expr.holds, h]

@[simp] theorem toExpr_withRoot {tree : RuleTree} :
    (withRoot label tree).toExpr = tree.toExpr := by
  cases tree with
  | group join _ children => simp [withRoot, toExpr]
  | leaf test text => simp [withRoot, toExpr, toExprs, Expr.allOf]

/-! ## Negations at the leaves -/

section Lowered

variable {negated : Bool} {items : List Expr}

theorem all_holds_lower
    (h : ∀ e ∈ items, (lower negated e).toExpr.holds name = (negated != e.holds name)) :
    (items.all fun e => (lower negated e).toExpr.holds name) =
      items.all fun e => negated != e.holds name := by
  rw [Bool.eq_iff_iff, List.all_eq_true, List.all_eq_true]
  exact forall₂_congr fun e he => by rw [h e he]

theorem any_holds_lower
    (h : ∀ e ∈ items, (lower negated e).toExpr.holds name = (negated != e.holds name)) :
    (items.any fun e => (lower negated e).toExpr.holds name) =
      items.any fun e => negated != e.holds name := by
  rw [Bool.eq_iff_iff, List.any_eq_true, List.any_eq_true]
  exact exists_congr fun e => and_congr_right fun he => by rw [h e he]

end Lowered

/-- The tree of a proper condition holds of the same names, that of its negation of the others. -/
theorem holds_lower {e : Expr} (h : e.Proper) (negated : Bool) :
    (lower negated e).toExpr.holds name = (negated != e.holds name) := by
  induction h generalizing negated with
  | pattern h => cases negated <;> simp [lower, Expr.holds, h]
  | not _ ih => cases negated <;> simp [lower, ih, Expr.holds]
  | and hne _ ih =>
    have hempty := List.isEmpty_eq_false_iff.mpr hne
    have hall := all_holds_lower fun e he => ih e he negated
    have hany := any_holds_lower fun e he => ih e he negated
    cases negated with
    | false => simp [lower, Function.comp_def, hall, Expr.holds]
    | true =>
      simp [lower, Function.comp_def, hany, Expr.holds, hempty, List.not_all_eq_any_not]
  | or hne _ ih =>
    have hempty := List.isEmpty_eq_false_iff.mpr hne
    have hall := all_holds_lower fun e he => ih e he negated
    have hany := any_holds_lower fun e he => ih e he negated
    cases negated with
    | false => simp [lower, Function.comp_def, hany, Expr.holds]
    | true =>
      simp [lower, Function.comp_def, hall, Expr.holds, hempty, List.not_any_eq_all_not]

/-- The tree form of a proper condition matches what the condition matches. -/
theorem matchesName_ofExpr {e : Expr} (h : e.Proper) (label name : String) :
    (ofExpr e label).toExpr.matchesName name = e.matchesName name := by
  simp [Expr.matchesName, ofExpr, holds_lower h]

theorem exists_ofExpr_eq_group (e : Expr) (label : String) :
    ∃ join children, ofExpr e label = .group join label children := by
  rw [ofExpr]
  cases lower false e with
  | group join _ children => exact ⟨join, children, rfl⟩
  | leaf test text => exact ⟨.and, [.leaf test text], rfl⟩

end RuleTree

/-! ## Served rules -/

/-- A tree rule gives the role of a rule to the names that the rule gives it to, under a root that
bears the rule's label. -/
structure TreeRule.Represents (tree : TreeRule) (rule : Rule) : Prop where
  roleName_eq : tree.roleName = rule.roleName
  root_eq_group : ∃ join children, tree.root = .group join rule.rootLabel children
  matchesName_eq : ∀ name, tree.root.toExpr.matchesName name = Formula.evaluate rule.formula name

theorem Rule.exists_toTree {rule : Rule} (h : Formula.isValid rule.formula = true) :
    ∃ tree, rule.toTree = .ok tree ∧ tree.Represents rule := by
  obtain ⟨e, he⟩ := Formula.isValid_iff_exists_parse.mp h
  refine ⟨⟨rule.roleName, .ofExpr e rule.rootLabel⟩, ?_, rfl,
    RuleTree.exists_ofExpr_eq_group e rule.rootLabel, fun name => ?_⟩
  · rw [toTree, he]
    rfl
  · rw [RuleTree.matchesName_ofExpr (Formula.proper_of_parse he), Formula.evaluate, he]

theorem Rule.toTree_eq_error {rule : Rule} (h : Formula.isValid rule.formula = false) :
    ∃ error, rule.toTree = .error error := by
  cases hp : Formula.parse rule.formula with
  | ok e => simp [Formula.isValid_iff_exists_parse.mpr ⟨e, hp⟩] at h
  | error error =>
    refine ⟨error, ?_⟩
    rw [toTree, hp]
    rfl

theorem deriveTrees_cons_of_ok {rule : Rule} {rules : List Rule} {tree : TreeRule}
    (h : rule.toTree = .ok tree) : deriveTrees (rule :: rules) = tree :: deriveTrees rules := by
  simp [deriveTrees, h, Except.toOption]

theorem deriveTrees_cons_of_error {rule : Rule} {rules : List Rule} {error : Formula.Error}
    (h : rule.toTree = .error error) : deriveTrees (rule :: rules) = deriveTrees rules := by
  simp [deriveTrees, h, Except.toOption]

/-- The trees served to clients are those of the rules with a valid formula, one for each and in
their order, and each of them says what its rule says. -/
theorem deriveTrees_represents (rules : List Rule) :
    List.Forall₂ (fun rule tree => tree.Represents rule)
      (rules.filter fun rule => Formula.isValid rule.formula) (deriveTrees rules) := by
  induction rules with
  | nil => exact .nil
  | cons rule rules ih =>
    cases h : Formula.isValid rule.formula with
    | true =>
      obtain ⟨tree, ht, hrep⟩ := Rule.exists_toTree h
      rw [List.filter_cons_of_pos (by simp [h]), deriveTrees_cons_of_ok ht]
      exact .cons hrep ih
    | false =>
      obtain ⟨error, ht⟩ := Rule.toTree_eq_error h
      rwa [List.filter_cons_of_neg (by simp [h]), deriveTrees_cons_of_error ht]

end NameRoles
