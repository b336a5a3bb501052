import NameRoles.Proofs.Rule.Respelling

/-!
# The form of derived trees

Below the root of a formula's tree no group has a label or less than two children, and no leaf is
empty (`RuleTree.Compact`). The root is a group with the rule's label, and only above a leaf that
stands alone does it have a single child. Nothing of this is lost on the way to the tree's condition
and back: the same tree is derived again (`canonical_tree_of_valid`).
-/

namespace NameRoles

open Formula

namespace RuleTree

/-- No group of the tree has a label or less than two children, and no leaf is empty. -/
inductive Compact : RuleTree → Prop where
  | group {join : Join} {children : List RuleTree} (hlen : 1 < children.length)
      (h : ∀ child ∈ children, child.Compact) : Compact (.group join "" children)
  | leaf {test : Test} {text : String} (hne : text ≠ "") : Compact (.leaf test text)

variable {negated : Bool} {join : Join} {label : String} {children : List RuleTree}
  {items : List Expr} {tree : RuleTree}

/-! ## Trees of conditions -/

theorem Compact.group_lowerAll (hlen : 1 < items.length)
    (h : ∀ e ∈ items, (lower negated e).Compact) :
    (RuleTree.group join "" (lowerAll negated items)).Compact := by
  rw [lowerAll_eq_map]
  refine .group (by rwa [List.length_map]) fun child hchild => ?_
  obtain ⟨e, he, rfl⟩ := List.mem_map.mp hchild
  exact h e he

/-- Pushing the negations of a formula down leaves no group of one behind, and no empty leaf. -/
theorem compact_lower_of_parse {F : String} {e : Expr} (h : parse F = .ok e) (negated : Bool) :
    (lower negated e).Compact := by
  refine parse_induction (P := fun e => ∀ negated, (lower negated e).Compact) h ?_ ?_ ?_ ?_ negated
  · intro text hmem negated
    exact .leaf (ne_empty_of_mem_tokenize hmem)
  · intro _ operand ih negated
    exact ih (!negated)
  -- negated, one kind of group becomes the other, with as many children
  all_goals
    intro items hlen ih negated
    exact .group_lowerAll hlen fun e he => ih e he negated

/-- Above a compact tree the root has a single child only if this is a leaf. -/
theorem Compact.exists_withRoot_eq (h : tree.Compact) (label : String) :
    ∃ join children, withRoot label tree = .group join label children ∧ children ≠ [] ∧
      (∀ child ∈ children, child.Compact) ∧
      (children.length = 1 → join = .and ∧ ∃ test text, children = [.leaf test text]) := by
  cases h with
  | @group join children hlen hchildren =>
    refine ⟨join, children, rfl, ?_, hchildren, ?_⟩
    · exact List.ne_nil_of_length_pos (Nat.lt_of_succ_lt hlen)
    · intro hone
      omega
  | @leaf test text hne =>
    refine ⟨.and, [.leaf test text], rfl, by simp, ?_, fun _ => ⟨rfl, test, text, rfl⟩⟩
    intro child hchild
    rw [List.mem_singleton.mp hchild]
    exact .leaf hne

/-! ## Conditions of trees -/

theorem toExpr_group_of_one_lt (hlen : 1 < children.length) :
    (RuleTree.group join label children).toExpr = match join with
      | .and => .and (children.map toExpr)
      | .or => .or (children.map toExpr) := by
  have hne : children.isEmpty = false := by
    rw [List.isEmpty_eq_false_iff]
    exact List.ne_nil_of_length_pos (Nat.lt_of_succ_lt hlen)
  have hitems : 1 < (children.map toExpr).length := by rwa [List.length_map]
  cases join with
  | and => simp [toExpr, hne, Expr.allOf_of_one_lt hitems]
  | or => simp [toExpr, hne, Expr.anyOf_of_one_lt hitems]

/-- A compact tree is the tree of the condition that it stands for. -/
theorem Compact.lower_toExpr (h : tree.Compact) : lower false tree.toExpr = tree := by
  induction h with
  | @group join children hlen _ ih =>
    have hchildren : lowerAll false (children.map toExpr) = children := by
      rw [lowerAll_eq_map, List.map_map]
      exact (List.map_congr_left ih).trans (List.map_id' children)
    rw [toExpr_group_of_one_lt hlen]
    cases join with
    | and | or => simp only [lower, hchildren, Bool.false_eq_true, if_false]
  | @leaf test text hne => cases test <;> simp [toExpr, hne, lower]

theorem Compact.ofExpr_toExpr_withRoot (h : tree.Compact) (label : String) :
    ofExpr (withRoot label tree).toExpr label = withRoot label tree := by
  simp [ofExpr, h.lower_toExpr]

end RuleTree

namespace Formula

open RuleTree

/-- The tree of a valid formula is a group with the given label above compact trees, which has a
single child only if this is a leaf. The condition of the tree has the same tree again. -/
theorem canonical_tree_of_valid {F : String} (h : check F = .ok ()) (label : String) :
    ∃ e join children, parse F = .ok e ∧ ofExpr e label = .group join label children ∧
      children ≠ [] ∧ (∀ child ∈ children, child.Compact) ∧
      (children.length = 1 → join = .and ∧ ∃ test text, children = [.leaf test text]) ∧
      ofExpr (ofExpr e label).toExpr label = ofExpr e label := by
  obtain ⟨e, he⟩ : ∃ e, parse F = .ok e := exists_parseTokens_iff.mpr h
  have hcompact : (lower false e).Compact := compact_lower_of_parse he false
  obtain ⟨join, children, hroot, hne, hchildren, hone⟩ := hcompact.exists_withRoot_eq label
  exact ⟨e, join, children, he, hroot, hne, hchildren, hone,
    hcompact.ofExpr_toExpr_withRoot label⟩

theorem canonical_tree_of_valid_negated :
    check "NOT (a OR NOT b AND c)" = .ok () ∧
      ∃ e join children, parse "NOT (a OR NOT b AND c)" = .ok e ∧
        ofExpr e "Root" = .group join "Root" children ∧ (∀ child ∈ children, child.Compact) ∧
        (ofExpr e "Root").formula? = some "NOT a AND (b OR NOT c)" ∧
        ofExpr (ofExpr e "Root").toExpr "Root" = ofExpr e "Root" := by
  have hcheck : check "NOT (a OR NOT b AND c)" = .ok () := by decide +kernel
  have hformula : (parse "NOT (a OR NOT b AND c)").map (fun e => (ofExpr e "Root").formula?) =
      .ok (some "NOT a AND (b OR NOT c)") := by decide +kernel
  obtain ⟨e, join, children, he, hroot, -, hchildren, -, hagain⟩ :=
    canonical_tree_of_valid hcheck "Root"
  rw [he] at hformula
  exact ⟨hcheck, e, join, children, he, hroot, hchildren, Except.ok.inj hformula, hagain⟩

end Formula

end NameRoles
