import NameRoles.Proofs.Formula.Spelling
import NameRoles.Rule.Tree

/-!
# How high conditions and trees of formulas are

A formula may be long, but its condition is no higher than its nesting allows: each level adds at
most a disjunction and a conjunction, and so does the formula itself (`Derivation.height_value_le`).
Pushing negations down makes nothing higher. A `Recursion` over conditions goes exactly as deep as
the condition is high (`Recursion.runWithin_eq`); evaluation, rendering and the making of trees are
such recursions, so the levels that the check admits bound how deep they go
(`height_of_valid`).
-/

namespace NameRoles

open Text Formula

/-! ## Height -/

namespace Expr

mutual

/-- How many conditions stand in each other, the whole one and the innermost included. -/
def height : Expr → Nat
  | .pattern _ | .never => 1
  | .not operand => height operand + 1
  | .and items | .or items => heightAll items + 1

def heightAll : List Expr → Nat
  | [] => 0
  | item :: items => max (height item) (heightAll items)

end

variable {items : List Expr} {m : Nat}

@[simp] theorem heightAll_le_iff : heightAll items ≤ m ↔ ∀ e ∈ items, e.height ≤ m := by
  induction items with
  | nil => simp [heightAll]
  | cons item items ih => rw [heightAll, Nat.max_le, ih, List.forall_mem_cons]

end Expr

namespace RuleTree

mutual

/-- How many groups stand in each other, with the leaf in the innermost. -/
def height : RuleTree → Nat
  | .group _ _ children => heightAll children + 1
  | .leaf _ _ => 1

def heightAll : List RuleTree → Nat
  | [] => 0
  | tree :: trees => max (height tree) (heightAll trees)

end

mutual

/-- The tree of a condition is no higher, for its negations are gone. -/
theorem height_lower_le (negated : Bool) : (e : Expr) → (lower negated e).height ≤ e.height
  | .pattern _ | .never => Nat.le_refl _
  | .not operand => Nat.le_succ_of_le (height_lower_le (!negated) operand)
  | .and items | .or items => Nat.succ_le_succ (heightAll_lowerAll_le negated items)

theorem heightAll_lowerAll_le (negated : Bool) : (items : List Expr) →
    heightAll (lowerAll negated items) ≤ Expr.heightAll items
  | [] => Nat.le_refl _
  | item :: items => by
    have hitem := height_lower_le negated item
    have hitems := heightAll_lowerAll_le negated items
    simp only [lowerAll, heightAll, Expr.heightAll]
    omega

end

/-- Only above a leaf does the root add a level. -/
theorem height_withRoot_le (label : String) (tree : RuleTree) :
    (withRoot label tree).height ≤ max tree.height 2 := by
  cases tree with
  | group join _ children => exact Nat.le_max_left _ _
  | leaf test text => exact Nat.le_refl _

theorem height_ofExpr_le (e : Expr) (label : String) :
    (ofExpr e label).height ≤ max e.height 2 := by
  have hroot := height_withRoot_le label (lower false e)
  have hlower := height_lower_le false e
  rw [ofExpr]
  omega

end RuleTree

/-! ## Nesting bounds height -/

namespace Formula

variable {F : String} {m : Nat}

/-- What the conditions of a symbol may be higher than two for each level that nests. -/
def Symbol.margin : Symbol → Nat
  | .or => 3
  | .alternatives | .and => 2
  | .factors | .not | .primary => 1

theorem height_chain_le {join : List Expr → Expr} {first : Expr} {others : List Expr}
    (hjoin : ∀ items, (join items).height = Expr.heightAll items + 1) (hf : first.height ≤ m)
    (ho : ∀ e ∈ others, e.height ≤ m) : (chain join first others).height ≤ m + 1 := by
  cases others with
  | nil => exact Nat.le_succ_of_le hf
  | cons second others =>
    rw [chain, hjoin, Nat.succ_le_succ_iff, Expr.heightAll_le_iff]
    · exact List.forall_mem_cons.mpr ⟨hf, ho⟩
    · simp

/-- The conditions of a derivation are at most twice as high as it nests, and a little more. -/
theorem Derivation.height_value_le {s : Symbol} (t : Derivation s) (h : t.nesting ≤ m) :
    s.Holds (fun e => e.height ≤ 2 * m + s.margin) t.value := by
  induction t generalizing m with
  | or first others ihf iho | and first others ihf iho =>
    obtain ⟨hf, ho⟩ := Nat.max_le.mp h
    exact height_chain_le (fun _ => rfl) (ihf hf) (iho ho)
  | alternative item others ihi iho | factor item others ihi iho =>
    obtain ⟨hi, ho⟩ := Nat.max_le.mp h
    exact List.forall_mem_cons.mpr ⟨ihi hi, iho ho⟩
  | noAlternative | noFactor => exact nofun
  | not operand ih =>
    -- a level that nests is worth two: one for the negation, and one that is not used
    have hoperand : operand.value.height ≤ 2 * operand.nesting + 1 := ih (Nat.le_refl _)
    simp only [nesting] at h
    show operand.value.height + 1 ≤ 2 * m + 1
    omega
  | primary operand ih => exact ih h
  | pattern text => exact Nat.le_add_left _ _
  | group inner ih =>
    -- or one for the disjunction in the group, and one for the conjunction
    have hinner : inner.value.height ≤ 2 * inner.nesting + 3 := ih (Nat.le_refl _)
    simp only [nesting] at h
    show inner.value.height ≤ 2 * m + 1
    omega

theorem height_le_of_parse {e : Expr} (h : parse F = .ok e) : e.height ≤ 2 * nesting F + 3 := by
  obtain ⟨t, ht, -, rfl⟩ := exists_derivation_of_parse h
  rw [t.nesting_eq ht]
  exact t.height_value_le (Nat.le_refl _)

end Formula

/-! ## Recursions over conditions -/

/-- What a recursion over conditions makes of each of them, from what it has made of those in it. -/
structure Recursion (α : Type) where
  pattern : String → α
  not : α → α
  and : List α → α
  or : List α → α
  never : α

namespace Recursion

variable {α : Type}

mutual

def run (rec : Recursion α) : Expr → α
  | .pattern text => rec.pattern text
  | .not operand => rec.not (run rec operand)
  | .and items => rec.and (runAll rec items)
  | .or items => rec.or (runAll rec items)
  | .never => rec.never

def runAll (rec : Recursion α) : List Expr → List α
  | [] => []
  | item :: items => run rec item :: runAll rec items

end

/-- The recursion with a stack for so many conditions in each other; on others it gives up. -/
def runWithin (rec : Recursion α) : Nat → Expr → Option α
  | 0, _ => none
  | _ + 1, .pattern text => some (rec.pattern text)
  | depth + 1, .not operand => (runWithin rec depth operand).map rec.not
  | depth + 1, .and items => (items.mapM (runWithin rec depth)).map rec.and
  | depth + 1, .or items => (items.mapM (runWithin rec depth)).map rec.or
  | _ + 1, .never => some rec.never

variable {rec : Recursion α} {depth : Nat}

theorem mapM_runWithin
    (h : ∀ e, rec.runWithin depth e = if e.height ≤ depth then some (rec.run e) else none)
    (items : List Expr) : items.mapM (rec.runWithin depth) =
      if Expr.heightAll items ≤ depth then some (rec.runAll items) else none := by
  induction items with
  | nil => simp [Expr.heightAll, runAll]
  | cons item items ih =>
    rw [List.mapM_cons, h, ih, Expr.heightAll, runAll]
    grind

/-- A recursion needs a stack as deep as the condition is high, and no deeper. -/
theorem runWithin_eq (rec : Recursion α) (depth : Nat) (e : Expr) :
    rec.runWithin depth e = if e.height ≤ depth then some (rec.run e) else none := by
  induction depth generalizing e with
  | zero => cases e <;> simp [runWithin, Expr.height]
  | succ depth ih =>
    cases e with
    | pattern | never => simp [runWithin, Expr.height, run]
    | not operand =>
      rw [runWithin, ih, Expr.height, run]
      grind
    | and items | or items =>
      rw [runWithin, mapM_runWithin ih, Expr.height, run]
      grind

theorem runAll_eq_map {f : Expr → α} {items : List Expr} (h : ∀ e ∈ items, rec.run e = f e) :
    rec.runAll items = items.map f := by
  induction items with
  | nil => rfl
  | cons item items ih =>
    obtain ⟨hitem, hitems⟩ := List.forall_mem_cons.mp h
    rw [runAll, hitem, ih hitems, List.map_cons]

end Recursion

/-! ### Evaluation, rendering and the making of trees -/

/-- The recursion that tells whether a condition holds of a name. -/
def Expr.holding (name : List Char) : Recursion Bool where
  pattern text := text ≠ "" && occursIn (foldChars text.toList) name
  not operand := !operand
  and items := !items.isEmpty && items.all id
  or items := items.any id
  never := false

theorem Expr.run_holding (name : List Char) (e : Expr) :
    (holding name).run e = e.holds name := by
  induction e using Expr.induction with
  | pattern | never => rfl
  | not operand ih => exact congrArg Bool.not ih
  | and items ih =>
    rw [Recursion.run, Recursion.runAll_eq_map ih]
    simp [holds, holding]
  | or items ih =>
    rw [Recursion.run, Recursion.runAll_eq_map ih]
    simp [holds, holding]

/-- The recursion that makes the tree of a condition, or of its negation. -/
def RuleTree.lowering : Recursion (Bool → RuleTree) where
  pattern text negated := .leaf (if negated then .lacks else .contains) text
  not operand negated := operand (!negated)
  and items negated := .group (if negated then .or else .and) "" (items.map (· negated))
  or items negated := .group (if negated then .and else .or) "" (items.map (· negated))
  never _ := .group .and "" []

theorem RuleTree.run_lowering (e : Expr) : lowering.run e = (lower · e) := by
  induction e using Expr.induction with
  | pattern | never => rfl
  | not operand ih =>
    rw [Recursion.run, ih]
    rfl
  | and items ih | or items ih =>
    rw [Recursion.run, Recursion.runAll_eq_map ih]
    funext negated
    simp [lowering, lower]

/-- The recursion that spells a condition at a place. -/
def Formula.spelling : Recursion (Place → Option (List Char)) where
  pattern text _ := if isSpellable text then some text.toList else none
  not operand _ := (operand .factor).map ("NOT ".toList ++ ·)
  and items place :=
    if items.isEmpty then none
    else (items.mapM fun (item : Place → _) => item .factor).map fun texts =>
      let text := " AND ".toList.intercalate texts
      if place = .factor then inParens text else text
  or items place :=
    if items.isEmpty then none
    else (items.mapM fun (item : Place → _) => item .alternative).map fun texts =>
      let text := " OR ".toList.intercalate texts
      if place = .whole then text else inParens text
  never _ := none

theorem Formula.mapM_map_spell (place : Place) (items : List Expr) :
    ((items.map fun e place => spell place e).mapM fun item => item place) =
      spellAll place items := by
  induction items with
  | nil => rfl
  | cons item items ih =>
    rw [List.map_cons, List.mapM_cons, ih, spellAll]
    rfl

theorem Formula.run_spelling (e : Expr) : spelling.run e = (spell · e) := by
  induction e using Expr.induction with
  | pattern | never => rfl
  | not operand ih =>
    rw [Recursion.run, ih]
    rfl
  | and items ih | or items ih =>
    rw [Recursion.run, Recursion.runAll_eq_map ih]
    funext place
    simp only [spelling, spell, mapM_map_spell, List.isEmpty_map]

/-! ## Valid formulas -/

/-- The condition of a valid formula and its tree are at most two higher for each level that nests,
and three besides, however long the formula is. Hence a stack for 515 conditions in each other is
enough to evaluate the condition, to render it and to make its tree. -/
theorem Formula.height_of_valid {F : String} (h : check F = .ok ()) :
    nesting F ≤ 256 ∧ ∃ e, parse F = .ok e ∧
      e.height ≤ 2 * nesting F + 3 ∧ e.height ≤ 515 ∧
      (∀ label, (RuleTree.ofExpr e label).height ≤ 2 * nesting F + 3) ∧
      (∀ name, (Expr.holding name).runWithin 515 e = some (e.holds name)) ∧
      spelling.runWithin 515 e = some (spell · e) ∧
      RuleTree.lowering.runWithin 515 e = some (RuleTree.lower · e) := by
  obtain ⟨e, he⟩ : ∃ e, parse F = .ok e := exists_parseTokens_iff.mpr h
  obtain ⟨-, -, hnesting, -⟩ := exists_says_of_isValid (isValid_iff_exists_parse.mpr ⟨e, he⟩)
  have hn : nesting F ≤ 256 := hnesting
  have hheight := height_le_of_parse he
  have hbound : e.height ≤ 515 := by omega
  refine ⟨hn, e, he, hheight, hbound, fun label => ?_, fun name => ?_, ?_, ?_⟩
  · have htree := RuleTree.height_ofExpr_le e label
    omega
  · rw [Recursion.runWithin_eq, if_pos hbound, Expr.run_holding]
  · rw [Recursion.runWithin_eq, if_pos hbound, run_spelling]
  · rw [Recursion.runWithin_eq, if_pos hbound, RuleTree.run_lowering]

/-- Conjunctions and disjunctions by turns reach the bound. -/
theorem Formula.height_of_valid_alternating :
    check "a OR b AND (c OR d AND e)" = .ok () ∧ nesting "a OR b AND (c OR d AND e)" = 1 ∧
      ∃ e, parse "a OR b AND (c OR d AND e)" = .ok e ∧ e.height = 5 ∧
        ∀ label, (RuleTree.ofExpr e label).height ≤ 5 := by
  have hcheck : check "a OR b AND (c OR d AND e)" = .ok () := by decide +kernel
  have hnesting : nesting "a OR b AND (c OR d AND e)" = 1 := by decide +kernel
  have hhigh : (parse "a OR b AND (c OR d AND e)").map Expr.height = .ok 5 := by decide +kernel
  obtain ⟨-, e, he, -, -, htree, -⟩ := height_of_valid hcheck
  rw [hnesting] at htree
  rw [he] at hhigh
  exact ⟨hcheck, hnesting, e, he, Except.ok.inj hhigh, htree⟩

end NameRoles
