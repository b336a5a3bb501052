import Mathlib.Data.List.Induction
import Mathlib.Data.List.Nodup
import NameRoles.Proofs.Rule.Lowering
import NameRoles.Snapshot

/-!
# What a snapshot keeps

A snapshot keeps the first rule of each role. `rules_compile_concat` says what one more rule at the
end of a list adds to the snapshot; the other laws follow from it by induction from the end.
-/

namespace NameRoles

open Text

/-! ## Roles of served rules -/

/-- The roles of the rules with a valid formula. -/
def validRoles (rules : List Rule) : List String :=
  (rules.filter fun rule => Formula.isValid rule.formula).map (·.roleName)

theorem validRoles_of_valid {rules : List Rule}
    (h : ∀ rule ∈ rules, Formula.isValid rule.formula = true) :
    validRoles rules = rules.map (·.roleName) := by
  rw [validRoles, List.filter_eq_self.mpr h]

@[simp] theorem roleNames_deriveTrees (rules : List Rule) :
    (deriveTrees rules).map (·.roleName) = validRoles rules := by
  induction rules with
  | nil => rfl
  | cons rule rules ih =>
    cases h : Formula.isValid rule.formula with
    | true =>
      obtain ⟨tree, ht, hrep⟩ := Rule.exists_toTree h
      rw [deriveTrees_cons_of_ok ht, List.map_cons, ih, hrep.roleName_eq, validRoles, validRoles,
        List.filter_cons_of_pos (by simp [h]), List.map_cons]
    | false =>
      obtain ⟨error, ht⟩ := Rule.toTree_eq_error h
      rw [deriveTrees_cons_of_error ht, ih, validRoles, validRoles,
        List.filter_cons_of_neg (by simp [h])]

namespace Snapshot

/-- The roles of a snapshot, in the order of its rules. -/
def roleNames (snapshot : Snapshot) : List String := snapshot.rules.map (·.roleName)

variable {trees : List TreeRule} {tree : TreeRule} {name : String}

/-! ## One more rule -/

theorem compileBehind_append (kept : List CompiledRule) (trees others : List TreeRule) :
    compileBehind kept (trees ++ others) = compileBehind (compileBehind kept trees) others := by
  induction trees generalizing kept with
  | nil => rfl
  | cons tree trees ih =>
    simp only [List.cons_append, compileBehind]
    split <;> exact ih _

theorem rules_compile_concat (trees : List TreeRule) (tree : TreeRule) :
    (compile (trees ++ [tree])).rules =
      if tree.roleName ∈ (compile trees).roleNames then (compile trees).rules
      else (compile trees).rules ++ [tree.compile] := by
  simp only [compile, compileBehind_append, compileBehind, roleNames, List.any_eq_true,
    decide_eq_true_eq, List.mem_map]

/-- No role is lost, and none comes from elsewhere. -/
@[simp] theorem mem_roleNames_compile {role : String} :
    role ∈ (compile trees).roleNames ↔ role ∈ trees.map (·.roleName) := by
  induction trees using List.reverseRecOn with
  | nil => simp [compile, compileBehind, roleNames]
  | append_singleton trees tree ih =>
    have hconcat := rules_compile_concat trees tree
    split at hconcat
    next hmem =>
      have : role = tree.roleName → role ∈ trees.map (·.roleName) := fun h => ih.mp (h ▸ hmem)
      simp only [roleNames, hconcat, List.map_append, List.mem_append]
      grind [roleNames]
    next => simp [roleNames, hconcat, TreeRule.compile, ← ih]

theorem compile_concat_of_mem (h : tree.roleName ∈ trees.map (·.roleName)) :
    (compile (trees ++ [tree])).rules = (compile trees).rules := by
  rw [rules_compile_concat, if_pos (mem_roleNames_compile.mpr h)]

theorem compile_concat_of_notMem (h : tree.roleName ∉ trees.map (·.roleName)) :
    (compile (trees ++ [tree])).rules = (compile trees).rules ++ [tree.compile] := by
  rw [rules_compile_concat, if_neg (mt mem_roleNames_compile.mp h)]

/-! ## One rule for each role -/

@[simp] theorem nodup_roleNames_compile (trees : List TreeRule) :
    (compile trees).roleNames.Nodup := by
  induction trees using List.reverseRecOn with
  | nil => simp [compile, compileBehind, roleNames]
  | append_singleton trees tree ih =>
    by_cases h : tree.roleName ∈ trees.map (·.roleName)
    · rwa [roleNames, compile_concat_of_mem h]
    · rw [roleNames, compile_concat_of_notMem h, List.map_append, List.map_singleton]
      exact List.nodup_append'.mpr ⟨ih, List.nodup_singleton _,
        List.disjoint_singleton.mpr (mt mem_roleNames_compile.mp h)⟩

/-- Rules of pairwise distinct roles are all kept. -/
theorem rules_compile_of_nodup (h : (trees.map (·.roleName)).Nodup) :
    (compile trees).rules = trees.map TreeRule.compile := by
  induction trees using List.reverseRecOn with
  | nil => rfl
  | append_singleton trees tree ih =>
    rw [List.map_append, List.map_singleton, List.nodup_append'] at h
    obtain ⟨htrees, -, hnew⟩ := h
    rw [compile_concat_of_notMem (List.disjoint_singleton.mp hnew), ih htrees, List.map_append,
      List.map_singleton]

/-- The roles are those of the rules, place by place, only if these are pairwise distinct. -/
theorem roleNames_compile_eq_iff :
    (compile trees).roleNames = trees.map (·.roleName) ↔ (trees.map (·.roleName)).Nodup := by
  refine ⟨fun h => h ▸ nodup_roleNames_compile trees, fun h => ?_⟩
  rw [roleNames, rules_compile_of_nodup h, List.map_map]
  rfl

/-! ## The first rule that holds -/

theorem firstMatch?_eq (snapshot : Snapshot) (name : String) : snapshot.firstMatch? name =
    (snapshot.rules.find? fun rule => rule.condition.matchesName name).map (·.roleName) := rfl

theorem firstMatch?_compile_concat_of_mem (h : tree.roleName ∈ trees.map (·.roleName)) :
    (compile (trees ++ [tree])).firstMatch? name = (compile trees).firstMatch? name := by
  rw [firstMatch?_eq, firstMatch?_eq, compile_concat_of_mem h]

theorem firstMatch?_compile_concat_of_notMem (h : tree.roleName ∉ trees.map (·.roleName)) :
    (compile (trees ++ [tree])).firstMatch? name = ((compile trees).firstMatch? name).or
      (if tree.root.toExpr.matchesName name then some tree.roleName else none) := by
  rw [firstMatch?_eq, firstMatch?_eq, compile_concat_of_notMem h, List.find?_append, Option.map_or]
  congr 1
  simp only [List.find?_singleton, TreeRule.compile]
  split <;> rfl

/-- A rule behind the others takes no name from them. -/
theorem firstMatch?_compile_concat_of_eq_some {role : String}
    (h : (compile trees).firstMatch? name = some role) :
    (compile (trees ++ [tree])).firstMatch? name = some role := by
  by_cases hmem : tree.roleName ∈ trees.map (·.roleName)
  · rw [firstMatch?_compile_concat_of_mem hmem, h]
  · rw [firstMatch?_compile_concat_of_notMem hmem, h, Option.some_or]

end Snapshot

end NameRoles
