import NameRoles.Proofs.Formula.Lexing
import NameRoles.Rule.Tree

/-!
# Operands are leaves

The operands that the search for conflicts compares are read off the tokens of a formula. They are
the patterns of the formula's condition and the texts of its tree, each in its place
(`operands_are_leaves`), whatever is grouped or negated on the way there. A condition depends on
nothing else: it holds alike of two names that its patterns do not tell apart.
-/

namespace NameRoles

open Formula

/-! ## Conditions -/

namespace Expr

mutual

/-- The texts of the patterns of a condition, from left to right. -/
def leaves : Expr → List String
  | .pattern text => [text]
  | .not operand => leaves operand
  | .and items | .or items => leavesAll items
  | .never => []

def leavesAll : List Expr → List String
  | [] => []
  | item :: items => leaves item ++ leavesAll items

end

/-- The patterns among some texts hold of both names or of neither. -/
def Alike (name name' : List Char) (texts : List String) : Prop :=
  ∀ text ∈ texts, (Expr.pattern text).holds name = (Expr.pattern text).holds name'

variable {name name' : List Char}

mutual

theorem holds_eq_of_alike : (e : Expr) → Alike name name' e.leaves → e.holds name = e.holds name'
  | .pattern _, h => h _ List.mem_cons_self
  | .not operand, h => by rw [holds, holds, holds_eq_of_alike operand h]
  | .and items, h => by rw [holds, holds, (holdsAll_eq_of_alike items h).1]
  | .or items, h => by rw [holds, holds, (holdsAll_eq_of_alike items h).2]
  | .never, _ => rfl

theorem holdsAll_eq_of_alike : (items : List Expr) → Alike name name' (leavesAll items) →
    holdsAll name items = holdsAll name' items ∧ holdsAny name items = holdsAny name' items
  | [], _ => ⟨rfl, rfl⟩
  | item :: items, h => by
    obtain ⟨hitem, hitems⟩ := List.forall_mem_append.mp h
    have hholds := holds_eq_of_alike item hitem
    obtain ⟨hall, hany⟩ := holdsAll_eq_of_alike items hitems
    simp only [holdsAll, holdsAny, hholds, hall, hany, and_self]

end

end Expr

/-! ## Trees -/

namespace RuleTree

mutual

/-- The texts that the leaves of a tree test for, from left to right. -/
def leaves : RuleTree → List String
  | .group _ _ children => leavesAll children
  | .leaf _ text => [text]

def leavesAll : List RuleTree → List String
  | [] => []
  | tree :: trees => leaves tree ++ leavesAll trees

end

mutual

/-- A negation that is pushed down moves no leaf. -/
theorem leaves_lower (negated : Bool) : (e : Expr) → (lower negated e).leaves = e.leaves
  | .pattern _ => rfl
  | .not operand => leaves_lower (!negated) operand
  | .and items | .or items => leavesAll_lowerAll negated items
  | .never => rfl

theorem leavesAll_lowerAll (negated : Bool) : (items : List Expr) →
    leavesAll (lowerAll negated items) = Expr.leavesAll items
  | [] => rfl
  | item :: items => by
    rw [lowerAll, leavesAll, leaves_lower negated item, leavesAll_lowerAll negated items,
      Expr.leavesAll]

end

theorem leaves_withRoot (label : String) (tree : RuleTree) :
    (withRoot label tree).leaves = tree.leaves := by
  cases tree <;> simp [withRoot, leaves, leavesAll]

@[simp] theorem leaves_ofExpr (e : Expr) (label : String) : (ofExpr e label).leaves = e.leaves := by
  rw [ofExpr, leaves_withRoot, leaves_lower]

end RuleTree

/-! ## Formulas -/

namespace Formula

variable {F : String}

/-- The texts of the patterns that a symbol stands for. -/
def Symbol.leaves : (s : Symbol) → s.Value → List String
  | .alternatives, es | .factors, es => Expr.leavesAll es
  | .or, e | .and, e | .not, e | .primary, e => e.leaves

theorem leaves_chain {join : List Expr → Expr}
    (hjoin : ∀ items, (join items).leaves = Expr.leavesAll items) (first : Expr)
    (others : List Expr) :
    (chain join first others).leaves = first.leaves ++ Expr.leavesAll others := by
  cases others with
  | nil => exact (List.append_nil _).symm
  | cons => exact hjoin _

/-- The patterns of a derivation's condition are those among its tokens. -/
theorem Derivation.leaves_value {s : Symbol} (t : Derivation s) :
    s.leaves t.value = t.tokens.filterMap Token.pattern? := by
  induction t with
  | or first others ihf iho =>
    rw [tokens, List.filterMap_append, ← ihf, ← iho]
    exact leaves_chain (fun _ => rfl) _ _
  | and first others ihf iho =>
    rw [tokens, List.filterMap_append, ← ihf, ← iho]
    exact leaves_chain (fun _ => rfl) _ _
  | alternative item others ihi iho | factor item others ihi iho =>
    rw [tokens, List.filterMap_cons_none rfl, List.filterMap_append, ← ihi, ← iho]
    rfl
  | noAlternative | noFactor | pattern => rfl
  | not operand ih => exact ih
  | primary operand ih => exact ih
  | group inner ih =>
    rw [tokens, List.filterMap_cons_none rfl, List.filterMap_append, ← ih]
    exact (List.append_nil _).symm

theorem operands_eq_leaves {e : Expr} (h : parse F = .ok e) : operands F = e.leaves := by
  obtain ⟨t, ht, -, rfl⟩ := exists_derivation_of_parse h
  rw [operands, tokenize_eq_body_append, ← ht, List.filterMap_append, ← t.leaves_value]
  exact List.append_nil _

/-- The operands of a valid formula are the patterns of its condition and the texts of its tree, in
the same order. The formula holds alike of two names if each operand, as a pattern, does. -/
theorem operands_are_leaves (h : check F = .ok ()) :
    ∃ e, parse F = .ok e ∧ operands F = e.leaves ∧
      (∀ label, operands F = (RuleTree.ofExpr e label).leaves) ∧
      ∀ name name' : String,
        (∀ text ∈ operands F,
          (Expr.pattern text).matchesName name = (Expr.pattern text).matchesName name') →
        evaluate F name = evaluate F name' := by
  obtain ⟨e, he⟩ : ∃ e, parse F = .ok e := exists_parseTokens_iff.mpr h
  have hleaves := operands_eq_leaves he
  refine ⟨e, he, hleaves, fun label => ?_, fun name name' halike => ?_⟩
  · rw [RuleTree.leaves_ofExpr, hleaves]
  · rw [hleaves] at halike
    simp only [evaluate, he, Expr.matchesName]
    exact e.holds_eq_of_alike halike

theorem operands_are_leaves_negated :
    check "NOT (Door OR glass) and NOT not Door" = .ok () ∧
      (∃ e, parse "NOT (Door OR glass) and NOT not Door" = .ok e ∧
        (RuleTree.ofExpr e "Root").leaves = ["Door", "glass", "Door"]) ∧
      evaluate "NOT (Door OR glass) and NOT not Door" "Glass wall" =
        evaluate "NOT (Door OR glass) and NOT not Door" "Bottle of GLASS" := by
  have hcheck : check "NOT (Door OR glass) and NOT not Door" = .ok () := by decide +kernel
  have hoperands : operands "NOT (Door OR glass) and NOT not Door" = ["Door", "glass", "Door"] := by
    decide +kernel
  obtain ⟨e, he, -, htree, halike⟩ := operands_are_leaves hcheck
  rw [hoperands] at htree halike
  exact ⟨hcheck, ⟨e, he, (htree "Root").symm⟩, halike _ _ (by decide +kernel)⟩

end Formula

end NameRoles
