import NameRoles.Proofs.Formula.Composition
import NameRoles.Proofs.Formula.RoundTrip
import NameRoles.Proofs.Formula.Spelling
import NameRoles.Proofs.Rule.Depth

/-!
# Formulas of trees

The tree of a formula can be written as a formula again. Pushing a negation down to the leaves turns
conjunctions into disjunctions and back, which moves the parentheses, and puts a `NOT` in front of
each leaf. What is gained and lost that way adds up to one level at most (`Expr.Spellable.settles`),
so that the new formula says the same unless the old one already stood at the limit
(`tree_formula_of_valid`). There the level more can be too much (`tree_formula_too_deep`).
-/

namespace NameRoles

open Formula

namespace RuleTree

variable {negated : Bool} {items : List Expr} {e : Expr} {label text : String} {tree : RuleTree}

/-! ## Conditions of lowered trees -/

/-- What the tree of a condition, or of its negation, stands for. -/
def lowered (negated : Bool) (e : Expr) : Expr := (lower negated e).toExpr

@[simp] theorem lowered_pattern (h : text ≠ "") : lowered negated (.pattern text) =
    if negated then .not (.pattern text) else .pattern text := by
  cases negated <;> simp [lowered, lower, toExpr, h]

@[simp] theorem lowered_not : lowered negated (.not e) = lowered (!negated) e := rfl

theorem toExpr_comp_lower : toExpr ∘ lower negated = lowered negated := rfl

@[simp] theorem lowered_and (hne : items ≠ []) : lowered negated (.and items) =
    (if negated then Expr.anyOf else Expr.allOf) (items.map (lowered negated)) := by
  cases negated <;> simp [lowered, lower, toExpr, hne, toExpr_comp_lower]

@[simp] theorem lowered_or (hne : items ≠ []) : lowered negated (.or items) =
    (if negated then Expr.allOf else Expr.anyOf) (items.map (lowered negated)) := by
  cases negated <;> simp [lowered, lower, toExpr, hne, toExpr_comp_lower]

theorem toExpr_ofExpr : (ofExpr e label).toExpr = lowered false e := toExpr_withRoot

end RuleTree

namespace Expr

open RuleTree

variable {negated : Bool} {place place' : Place} {items : List Expr} {e : Expr} {n : Nat}
  {f : Expr → Expr}

/-! ## The tree's condition can be written -/

theorem spellable_allOf (hne : items ≠ []) (h : ∀ e ∈ items, e.Spellable) :
    (allOf items).Spellable := by
  match items, hne with
  | [item], _ => exact h item List.mem_cons_self
  | _ :: _ :: _, hne => exact .and hne h

theorem spellable_anyOf (hne : items ≠ []) (h : ∀ e ∈ items, e.Spellable) :
    (anyOf items).Spellable := by
  match items, hne with
  | [item], _ => exact h item List.mem_cons_self
  | _ :: _ :: _, hne => exact .or hne h

theorem Spellable.lowered (h : e.Spellable) (negated : Bool) : (lowered negated e).Spellable := by
  induction h generalizing negated with
  | pattern h =>
    rw [lowered_pattern (isSpellable_iff.mp h).ne_empty]
    cases negated
    · exact .pattern h
    · exact .not (.pattern h)
  | not _ ih => exact ih (!negated)
  | and hne _ ih =>
    have hitems := List.forall_mem_map.mpr fun e he => ih e he negated
    rw [lowered_and hne]
    cases negated
    · exact spellable_allOf (by simpa using hne) hitems
    · exact spellable_anyOf (by simpa using hne) hitems
  | or hne _ ih =>
    have hitems := List.forall_mem_map.mpr fun e he => ih e he negated
    rw [lowered_or hne]
    cases negated
    · exact spellable_anyOf (by simpa using hne) hitems
    · exact spellable_allOf (by simpa using hne) hitems

/-! ## Levels that a tree's condition takes -/

theorem nestingAt_le_factor (e : Expr) : nestingAt place e ≤ nestingAt .factor e := by
  cases place with
  | whole => exact (nestingAt_whole_le e).trans (nestingAt_alternative_le e)
  | alternative => exact nestingAt_alternative_le e
  | factor => exact Nat.le_refl _

theorem nestingAt_allOf_le : nestingAt place (allOf items) ≤ nestingAt place (.and items) := by
  match items with
  | [item] =>
    have hle : nestingAt place item ≤ nestingAt .factor item := nestingAt_le_factor item
    simp only [allOf, nestingAt, nestingEach]
    grind
  | [] | _ :: _ :: _ => exact Nat.le_refl _

theorem nestingAt_anyOf_le : nestingAt place (anyOf items) ≤ nestingAt place (.or items) := by
  match items with
  | [item] =>
    have hwhole := nestingAt_whole_le item
    have hfactor := nestingAt_factor_le item
    simp only [anyOf, nestingAt, nestingEach]
    cases place <;> grind
  | [] | _ :: _ :: _ => exact Nat.le_refl _

theorem nestingEach_map_le (h : ∀ e ∈ items, nestingAt place (f e) ≤ nestingAt place' e + n) :
    nestingEach place (items.map f) ≤ nestingEach place' items + n := by
  induction items with
  | nil => exact Nat.zero_le _
  | cons item items ih =>
    obtain ⟨hitem, hitems⟩ := List.forall_mem_cons.mp h
    have := ih hitems
    simp only [List.map_cons, nestingEach]
    omega

/-- What the tree of a condition takes more than the condition, and what the tree of the negation
takes at places where less or more parentheses are needed. -/
structure Settles (e : Expr) : Prop where
  upright : ∀ place, nestingAt place (lowered false e) ≤ nestingAt place e + 1
  alternative : nestingAt .alternative (lowered true e) ≤ nestingAt .factor e + 1
  factor : nestingAt .factor (lowered true e) ≤ nestingAt .alternative e + 2

theorem Settles.negation_le (h : e.Settles) (place : Place) :
    nestingAt place (RuleTree.lowered true e) ≤ nestingAt .factor e + 2 := by
  have halternative := h.alternative
  have hfactor := h.factor
  have hle := nestingAt_alternative_le e
  cases place with
  | whole =>
    have := nestingAt_whole_le (RuleTree.lowered true e)
    omega
  | alternative => omega
  | factor => omega

/-- Under a negation an `OR` in an `AND` becomes an `AND` in an `OR` and loses its parentheses, and
the other way round they are won. On any path these take turns, and the `NOT` at the leaf comes
once. -/
theorem Spellable.settles (h : e.Spellable) : e.Settles := by
  induction h with
  | pattern h =>
    have hne := (isSpellable_iff.mp h).ne_empty
    constructor <;> simp [hne, nestingAt]
  | @not operand _ ih =>
    have hle := nestingAt_alternative_le operand
    -- negated again, the operand stands upright, and the `NOT` that is gone pays for its level
    have halternative := ih.upright .alternative
    have hfactor := ih.upright .factor
    exact {
      upright := ih.negation_le
      alternative := by
        simp only [lowered_not, Bool.not_true, nestingAt]
        omega
      factor := by
        simp only [lowered_not, Bool.not_true, nestingAt]
        omega }
  | @and items hne _ ih =>
    have hupright : nestingEach .factor (items.map (RuleTree.lowered false)) ≤
        nestingEach .factor items + 1 := nestingEach_map_le fun e he => (ih e he).upright .factor
    have hnegated : nestingEach .alternative (items.map (RuleTree.lowered true)) ≤
        nestingEach .factor items + 1 := nestingEach_map_le fun e he => (ih e he).alternative
    constructor
    · intro place
      rw [lowered_and hne]
      refine nestingAt_allOf_le.trans ?_
      simp only [nestingAt]
      split <;> omega
    -- negated, the items stand in an `OR`
    all_goals
      rw [lowered_and hne]
      refine nestingAt_anyOf_le.trans ?_
      simp only [nestingAt, reduceCtorEq, if_false, if_true]
      omega
  | @or items hne _ ih =>
    have hupright : nestingEach .alternative (items.map (RuleTree.lowered false)) ≤
        nestingEach .alternative items + 1 :=
      nestingEach_map_le fun e he => (ih e he).upright .alternative
    have hnegated : nestingEach .factor (items.map (RuleTree.lowered true)) ≤
        nestingEach .alternative items + 2 := nestingEach_map_le fun e he => (ih e he).factor
    constructor
    · intro place
      rw [lowered_or hne]
      refine nestingAt_anyOf_le.trans ?_
      simp only [nestingAt]
      split <;> omega
    -- negated, the items stand in an `AND`
    all_goals
      rw [lowered_or hne]
      refine nestingAt_allOf_le.trans ?_
      simp only [nestingAt, reduceCtorEq, if_false, if_true]
      omega

end Expr

/-! ## Formulas of the trees of formulas -/

namespace Formula

open RuleTree

variable {F : String} {e : Expr}

theorem nestingAt_whole_le_nesting (h : parse F = .ok e) : nestingAt .whole e ≤ nesting F := by
  obtain ⟨t, ht, -, rfl⟩ := exists_derivation_of_parse h
  rw [t.nesting_eq ht]
  exact t.nestingOf_le

theorem exists_formula?_of_parse (h : parse F = .ok e) (label : String) :
    ∃ text, (ofExpr e label).formula? = some text ∧
      Says text (lowered false e).collapse (nestingAt .whole (lowered false e)) := by
  obtain ⟨text, htext⟩ := exists_render_iff.mpr ((spellable_of_parse h).lowered false)
  refine ⟨text, ?_, says_of_render htext⟩
  rw [formula?, toExpr_ofExpr, htext]

theorem matchesName_lowered (h : parse F = .ok e) (name : String) :
    (lowered false e).matchesName name = e.matchesName name := by
  have hname := matchesName_ofExpr (proper_of_parse h) "" name
  rwa [toExpr_ofExpr] at hname

/-! ### Formulas whose trees take a level more -/

/-- A derivation of `a OR b AND (…)` with `a OR b AND c` inside, so many levels deep. -/
def stairs : Nat → Derivation .or
  | 0 => .or (.and (.primary (.pattern "a")) .noFactor)
    (.alternative (.and (.primary (.pattern "b")) (.factor (.primary (.pattern "c")) .noFactor))
      .noAlternative)
  | n + 1 => alternation (stairs n)

/-- The text of `stairs`. -/
def stairsChars : Nat → List Char
  | 0 => "a OR b AND c".toList
  | n + 1 => alternationChars (stairsChars n)

/-- The text `x AND NOT (…)` around `stairs`. -/
def stairsFormula (n : Nat) : String := "x AND NOT (" ++ String.ofList (stairsChars n) ++ ")"

def stairsExpr (n : Nat) : Expr := .and [.pattern "x", .not (stairs n).value]

theorem lexes_stairsChars (n : Nat) : Lexes (stairsChars n) (stairs n).tokens := by
  induction n with
  | zero =>
    have htokens : tokensAfter [] "a OR b AND c".toList = (stairs 0).tokens ++ [.ending] := by
      decide
    exact htokens
  | succ n ih =>
    have hclosing : EndsWord [')'] := endsWord_cons (by decide)
    have hinner : tokensAfter [] (stairsChars n ++ [')']) =
        (stairs n).tokens ++ .closing :: tokensAfter [] [] := by
      rw [ih.tokensAfter_append hclosing]
      rfl
    have htokens := tokensAfter_alternationChars hinner
    rw [List.append_nil] at htokens
    exact htokens

@[simp] theorem nesting_stairs (n : Nat) : (stairs n).nesting = n := by
  induction n with
  | zero => rfl
  | succ n ih => simp [stairs, alternation, Derivation.nesting, ih]

theorem says_stairsFormula (n : Nat) : Says (stairsFormula n) (stairsExpr n) (n + 2) := by
  have hx : Lexes ['x'] [.pattern "x"] := by
    have htokens : tokensAfter [] ['x'] = [.pattern "x", .ending] := by decide
    exact htokens
  refine ⟨[.pattern "x"] ++ .and :: .not :: enclose (stairs n).tokens, ?_, ?_⟩
  · have htext : (stairsFormula n).toList =
        ['x'] ++ " AND ".toList ++ ("NOT ".toList ++ inParens (stairsChars n)) := by
      simp only [stairsFormula, String.toList_append, String.toList_ofList]
      rfl
    rw [htext]
    exact hx.join separates_and (lexes_stairsChars n).inParens.not
  · have hstairs : Symbol.or.Gives (stairs n).tokens (stairs n).value n :=
      ⟨stairs n, rfl, rfl, nesting_stairs n⟩
    have hboth := gives_both (gives_pattern "x") (gives_not (gives_group hstairs))
    rwa [Nat.zero_max] at hboth

theorem nestingAt_lowered_stairs (n : Nat) :
    nestingAt .alternative (lowered true (stairs n).value) = n + 2 ∧
      nestingAt .factor (lowered true (stairs n).value) = n + 3 := by
  induction n with
  | zero => exact ⟨rfl, rfl⟩
  | succ n ih =>
    have hvalue : (stairs (n + 1)).value =
        .or [.pattern "a", .and [.pattern "b", (stairs n).value]] := rfl
    rw [hvalue, lowered_or (by simp), if_pos rfl]
    simp [Expr.allOf, Expr.anyOf, nestingAt, nestingEach, ih]

/-- The tree of `stairsFormula` takes a level more. -/
theorem nestingAt_lowered_stairsExpr (n : Nat) :
    nestingAt .whole (lowered false (stairsExpr n)) = n + 3 := by
  rw [stairsExpr, lowered_and (by simp)]
  simp [Expr.allOf, nestingAt, nestingEach, nestingAt_lowered_stairs]

/-! ### Valid formulas -/

/-- The tree of a valid formula can be written as a formula, which takes one level more at most. If
it still is not too deep, and so always below the limit, it is valid and holds of the same names. -/
theorem tree_formula_of_valid (h : isValid F = true) (label : String) :
    ∃ e text, parse F = .ok e ∧ (ofExpr e label).formula? = some text ∧
      nesting text ≤ nesting F + 1 ∧
      check text = (if nesting text ≤ 256 then .ok () else .error .tooDeep) ∧
      (check text = .ok () → ∀ name, evaluate text name = evaluate F name) := by
  obtain ⟨e, he⟩ := isValid_iff_exists_parse.mp h
  obtain ⟨text, htext, hwritten⟩ := exists_formula?_of_parse he label
  refine ⟨e, text, he, htext, ?_, ?_, fun hok name => ?_⟩
  · calc nesting text = nestingAt .whole (lowered false e) := hwritten.nesting_eq
      _ ≤ nestingAt .whole e + 1 := (spellable_of_parse he).settles.upright .whole
      _ ≤ nesting F + 1 := Nat.succ_le_succ (nestingAt_whole_le_nesting he)
  · rw [hwritten.check_eq, hwritten.nesting_eq, maxNesting]
  · calc evaluate text name
        = (lowered false e).collapse.matchesName name :=
          hwritten.evaluate_eq (hwritten.check_eq_ok_iff.mp hok)
      _ = (lowered false e).matchesName name := Expr.holds_collapse _
      _ = e.matchesName name := matchesName_lowered he name
      _ = evaluate F name := by rw [evaluate, he]

theorem tree_formula_of_valid_stairs :
    isValid "x AND NOT (a OR b AND c)" = true ∧
      (ofExpr (stairsExpr 0) "Root").formula? = some "x AND (NOT a AND (NOT b OR NOT c))" ∧
      ∀ name, evaluate "x AND (NOT a AND (NOT b OR NOT c))" name =
        evaluate "x AND NOT (a OR b AND c)" name := by
  have hvalid : isValid "x AND NOT (a OR b AND c)" = true := by decide +kernel
  have hparse : parse "x AND NOT (a OR b AND c)" = .ok (stairsExpr 0) :=
    (says_stairsFormula 0).parse_eq
  have hformula : (ofExpr (stairsExpr 0) "Root").formula? =
      some "x AND (NOT a AND (NOT b OR NOT c))" := by decide +kernel
  have hcheck : check "x AND (NOT a AND (NOT b OR NOT c))" = .ok () := by decide +kernel
  obtain ⟨e, text, he, htext, -, -, heval⟩ := tree_formula_of_valid hvalid "Root"
  obtain rfl : stairsExpr 0 = e := Except.ok.inj (hparse.symm.trans he)
  obtain rfl := Option.some.inj (hformula.symm.trans htext)
  exact ⟨hvalid, hformula, heval hcheck⟩

/-- A formula at the limit whose tree is written as a formula beyond it. -/
theorem tree_formula_too_deep :
    isValid (stairsFormula 254) = true ∧
      ∃ e text, parse (stairsFormula 254) = .ok e ∧ (ofExpr e "Root").formula? = some text ∧
        check text = .error .tooDeep := by
  have hparse : parse (stairsFormula 254) = .ok (stairsExpr 254) :=
    (says_stairsFormula 254).parse_eq
  obtain ⟨text, htext, hwritten⟩ := exists_formula?_of_parse hparse "Root"
  refine ⟨isValid_iff_exists_parse.mpr ⟨_, hparse⟩, _, text, hparse, htext, ?_⟩
  rw [hwritten.check_eq, nestingAt_lowered_stairsExpr]
  rfl

end Formula

end NameRoles
