import NameRoles.Proofs.Rule.Lowering
import NameRoles.Proofs.Rule.Wire

/-!
# How deep served trees nest

Each group of a condition puts two levels of JSON around what stands in it.
`depth_deriveTrees_le_iff` says in terms of the formulas when readers of trees go deep enough;
`groupDepth_nestedFormula` gives valid formulas that are deeper.
-/

namespace NameRoles

open Json Text

/-! ## Trees of formulas -/

namespace Expr

mutual

/-- How many conjunctions and disjunctions stand in each other. -/
def groupDepth : Expr → Nat
  | .pattern _ | .never => 0
  | .not operand => groupDepth operand
  | .and items | .or items => groupDepthAll items + 1

def groupDepthAll : List Expr → Nat
  | [] => 0
  | item :: items => max (groupDepth item) (groupDepthAll items)

end

end Expr

namespace RuleTree

theorem depthItems_lower {negated : Bool} {items : List Expr} (hne : items ≠ [])
    (h : ∀ e ∈ items, (lower negated e).toJson.depth = 2 * e.groupDepth + 1) :
    depthItems (items.map fun e => (lower negated e).toJson) =
      2 * Expr.groupDepthAll items + 1 := by
  induction items with
  | nil => exact absurd rfl hne
  | cons item items ih =>
    obtain ⟨hitem, hitems⟩ := List.forall_mem_cons.mp h
    rw [List.map_cons, depthItems, hitem, Expr.groupDepthAll]
    cases items with
    | nil => simp [depthItems, Expr.groupDepthAll]
    | cons next items =>
      rw [ih (by simp) hitems]
      omega

/-- Each group of a condition puts two levels into the written tree, and a leaf one. -/
theorem depth_toJson_lower {e : Expr} (h : e.Proper) (negated : Bool) :
    (lower negated e).toJson.depth = 2 * e.groupDepth + 1 := by
  induction h generalizing negated with
  | pattern h => simp [lower, Expr.groupDepth]
  | not _ ih => rw [lower, ih, Expr.groupDepth]
  | and hne _ ih | or hne _ ih =>
    have hitems := depthItems_lower hne fun e he => ih e he negated
    simp only [lower, depth_toJson_group, lowerAll_eq_map, List.map_map, Function.comp_def, hitems,
      Expr.groupDepth]
    omega

theorem depth_toJson_ofExpr {e : Expr} (h : e.Proper) (label : String) :
    (ofExpr e label).toJson.depth = 2 * max e.groupDepth 1 + 1 := by
  have hdepth := depth_toJson_lower h false
  rw [ofExpr]
  -- a root that is a leaf gets a group above it
  cases hl : lower false e with
  | group join _ children =>
    rw [hl, depth_toJson_group] at hdepth
    rw [withRoot, depth_toJson_group]
    omega
  | leaf test text =>
    rw [hl, depth_toJson_leaf] at hdepth
    simp only [withRoot, depth_toJson_group, List.map_cons, List.map_nil, depthItems,
      depth_toJson_leaf]
    omega

end RuleTree

/-- How many groups of the condition of a formula stand in each other; an ill-formed formula has
none. -/
def Formula.groupDepth (formula : String) : Nat :=
  match Formula.parse formula with
  | .ok e => e.groupDepth
  | .error _ => 0

/-- How many groups may stand in each other in a rule whose tree is read. -/
def TreeRule.maxGroupDepth : Nat := (maxDepth - 3) / 2

theorem Rule.toTree_of_parse_ok {rule : Rule} {e : Expr} (h : Formula.parse rule.formula = .ok e) :
    rule.toTree = .ok ⟨rule.roleName, .ofExpr e rule.rootLabel⟩ := by
  rw [toTree, h]
  rfl

theorem Rule.toTree_of_parse_error {rule : Rule} {error : Formula.Error}
    (h : Formula.parse rule.formula = .error error) : rule.toTree = .error error := by
  rw [toTree, h]
  rfl

theorem TreeRule.depth_lt_maxDepth_iff_groupDepth {e : Expr} (h : e.Proper)
    (roleName label : String) :
    (TreeRule.mk roleName (.ofExpr e label)).toJson.depth < maxDepth ↔
      e.groupDepth ≤ maxGroupDepth := by
  rw [depth_toJson, RuleTree.depth_toJson_ofExpr h, maxGroupDepth, maxDepth]
  omega

/-- The trees of rules nest no deeper than a reader goes just if no formula has too many groups in
each other. -/
theorem depth_deriveTrees_le_iff {rules : List Rule} :
    (Json.array ((deriveTrees rules).map TreeRule.toJson)).depth ≤ maxDepth ↔
      ∀ rule ∈ rules, Formula.groupDepth rule.formula ≤ TreeRule.maxGroupDepth := by
  rw [TreeRule.depth_lt_maxDepth_iff]
  induction rules with
  | nil => simp [deriveTrees]
  | cons rule rules ih =>
    rw [List.forall_mem_cons, ← ih]
    cases h : Formula.parse rule.formula with
    | ok e =>
      rw [deriveTrees_cons_of_ok (Rule.toTree_of_parse_ok h), List.forall_mem_cons,
        TreeRule.depth_lt_maxDepth_iff_groupDepth (Formula.proper_of_parse h), Formula.groupDepth,
        h]
    | error error =>
      -- a rule with an ill-formed formula is not served
      rw [deriveTrees_cons_of_error (Rule.toTree_of_parse_error h), Formula.groupDepth, h]
      exact (and_iff_right (Nat.zero_le _)).symm

/-! ## Valid formulas that are too deep -/

namespace Formula

/-- The text `a OR b AND (`. -/
def alternationStart : List Char :=
  ['a', ' ', 'O', 'R', ' ', 'b', ' ', 'A', 'N', 'D', ' ', '(']

/-- The text `a OR b AND (…)`. -/
def alternationChars (inner : List Char) : List Char := alternationStart ++ (inner ++ [')'])

/-- A formula in which conjunctions and disjunctions stand in each other by turns. -/
def nestedChars : Nat → List Char
  | 0 => alternationChars ['c']
  | n + 1 => alternationChars (nestedChars n)

def nestedFormula (n : Nat) : String := String.ofList (nestedChars n)

/-- A derivation of `a OR b AND (…)`. -/
def alternation (inner : Derivation .or) : Derivation .or :=
  .or (.and (.primary (.pattern "a")) .noFactor)
    (.alternative
      (.and (.primary (.pattern "b")) (.factor (.primary (.group inner)) .noFactor))
      .noAlternative)

def nestedDerivation : Nat → Derivation .or
  | 0 => alternation (.or (.and (.primary (.pattern "c")) .noFactor) .noAlternative)
  | n + 1 => alternation (nestedDerivation n)

theorem nesting_nestedDerivation (n : Nat) : (nestedDerivation n).nesting = n + 1 := by
  induction n with
  | zero => rfl
  | succ n ih => simp [nestedDerivation, alternation, Derivation.nesting, ih]

theorem groupDepth_value_nestedDerivation (n : Nat) :
    (nestedDerivation n).value.groupDepth = 2 * n + 2 := by
  induction n with
  | zero => rfl
  | succ n ih =>
    have hstep : (alternation (nestedDerivation n)).value.groupDepth =
        (nestedDerivation n).value.groupDepth + 2 := by
      simp [alternation, Derivation.value, chain, Expr.groupDepth, Expr.groupDepthAll]
    rw [nestedDerivation, hstep, ih]
    omega

theorem tokensAfter_alternationStart (cs : List Char) : tokensAfter [] (alternationStart ++ cs) =
    [.pattern "a", .or, .pattern "b", .and, .opening] ++ tokensAfter [] cs := by
  have hblank : isBlank ' ' = true := by decide
  have hword : (['a', 'O', 'R', 'b', 'A', 'N', 'D', '('].any isBlank) = false := by decide
  simp only [List.any_cons, Bool.or_eq_false_iff] at hword
  simp [alternationStart, tokensAfter, flush, hblank, hword]
  exact ⟨rfl, rfl, rfl, rfl⟩

theorem tokensAfter_alternationChars {inner cs : List Char} {t : Derivation .or}
    (h : tokensAfter [] (inner ++ ')' :: cs) = t.tokens ++ .closing :: tokensAfter [] cs) :
    tokensAfter [] (alternationChars inner ++ cs) =
      (alternation t).tokens ++ tokensAfter [] cs := by
  rw [alternationChars, List.append_assoc, List.append_assoc, List.singleton_append,
    tokensAfter_alternationStart, h]
  simp [alternation, Derivation.tokens]

theorem tokensAfter_nestedChars (n : Nat) (cs : List Char) : tokensAfter [] (nestedChars n ++ cs) =
    (nestedDerivation n).tokens ++ tokensAfter [] cs := by
  induction n generalizing cs with
  | zero => exact tokensAfter_alternationChars rfl
  | succ n ih => exact tokensAfter_alternationChars (ih (')' :: cs))

theorem parse_nestedFormula {n : Nat} (hn : n < maxNesting) :
    parse (nestedFormula n) = .ok (nestedDerivation n).value := by
  have htokens : tokenize (nestedFormula n) = (nestedDerivation n).tokens ++ [.ending] := by
    have h := tokensAfter_nestedChars n []
    rw [List.append_nil] at h
    rw [tokenize, nestedFormula, String.toList_ofList, h]
    rfl
  rw [parse, htokens]
  refine (nestedDerivation n).parseTokens_eq_ok ?_ ?_
  · rw [nesting_nestedDerivation]
    exact hn
  · rw [body_append_ending, body_eq_self (nestedDerivation n).ending_notMem_tokens]

/-- Valid formulas have many more groups in each other than clients can read. -/
theorem groupDepth_nestedFormula {n : Nat} (hn : n < maxNesting) :
    groupDepth (nestedFormula n) = 2 * n + 2 := by
  rw [groupDepth, parse_nestedFormula hn]
  exact groupDepth_value_nestedDerivation n

end Formula

end NameRoles
