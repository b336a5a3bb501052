import NameRoles.Proofs.Rule.Meaning

/-!
# Trees of any condition

An empty group, an empty pattern and `never` hold of no name, so that their negations hold of all.
A tree has no place for such a negation: it becomes a group or a leaf that holds of no name either.
Hence the tree of a condition holds of no other names than the condition, and the tree of its
negation of none of them (`holds_of_lower`). Where the condition is proper, the tree loses no name
(`tree_is_sound`).
-/

namespace NameRoles

namespace Expr

variable {name : List Char} {items : List Expr}

theorem holds_and_iff : (Expr.and items).holds name = true ↔
    items ≠ [] ∧ ∀ e ∈ items, e.holds name = true := by
  simp [holds]

theorem holds_or_iff : (Expr.or items).holds name = true ↔ ∃ e ∈ items, e.holds name = true := by
  simp [holds]

end Expr

namespace RuleTree

open Text

variable {name : String} {negated : Bool} {items : List Expr}

theorem holds_group_and (h : (group .and "" (lowerAll negated items)).Holds name) :
    items ≠ [] ∧ ∀ e ∈ items, (lower negated e).Holds name := by
  simpa using h

theorem holds_group_or (h : (group .or "" (lowerAll negated items)).Holds name) :
    ∃ e ∈ items, (lower negated e).Holds name := by
  simpa using h

/-- The tree of a condition holds only of names that the condition holds of, and the tree of its
negation only of others. -/
theorem holds_of_lower {e : Expr} {negated : Bool} (h : (lower negated e).Holds name) :
    e.holds (foldChars name.toList) = !negated := by
  induction e using Expr.induction generalizing negated with
  | pattern text =>
    cases negated with
    | false =>
      obtain ⟨hne, hinfix⟩ := holds_contains_iff.mp h
      simp [Expr.holds, hne, hinfix]
    | true =>
      obtain ⟨-, hinfix⟩ := holds_lacks_iff.mp h
      simp [Expr.holds, ← Bool.not_eq_true, hinfix]
  | not operand ih =>
    have hoperand : operand.holds (foldChars name.toList) = !!negated := ih h
    rw [Expr.holds, hoperand, Bool.not_not]
  | and items ih =>
    cases negated with
    | false =>
      obtain ⟨hne, hitems⟩ := holds_group_and h
      exact Expr.holds_and_iff.mpr ⟨hne, fun e he => ih e he (hitems e he)⟩
    | true =>
      -- the tree is a disjunction: one item that does not hold is enough
      obtain ⟨e, he, hitem⟩ := holds_group_or h
      rw [Bool.not_true, Bool.eq_false_iff, Ne, Expr.holds_and_iff]
      rintro ⟨-, hall⟩
      simpa [ih e he hitem] using hall e he
  | or items ih =>
    cases negated with
    | false =>
      obtain ⟨e, he, hitem⟩ := holds_group_or h
      exact Expr.holds_or_iff.mpr ⟨e, he, ih e he hitem⟩
    | true =>
      -- that there are items is not needed: an empty disjunction does not hold either
      obtain ⟨-, hitems⟩ := holds_group_and h
      rw [Bool.not_true, Bool.eq_false_iff, Ne, Expr.holds_or_iff]
      rintro ⟨e, he, hholds⟩
      simp [ih e he (hitems e he)] at hholds
  | never =>
    obtain ⟨hne, -⟩ := holds_and_iff.mp h
    exact absurd rfl hne

/-- The tree of a condition matches no other names than the condition. If the condition is proper,
it matches the same. -/
theorem tree_is_sound (e : Expr) (label name : String) :
    ((ofExpr e label).toExpr.matchesName name = true → e.matchesName name = true) ∧
      (e.Proper → (ofExpr e label).toExpr.matchesName name = e.matchesName name) := by
  refine ⟨fun h => ?_, fun h => matchesName_ofExpr h label name⟩
  have hlower : (lower false e).toExpr.matchesName name = true := by
    simpa [ofExpr] using h
  exact holds_of_lower (matchesName_toExpr_iff.mp hlower)

/-- Of two names that a condition with a negated `never` holds of, its tree loses one. -/
theorem tree_is_sound_of_negatedNever :
    let loose : Expr := .and [.not (.and [.never, .pattern "b"]), .not (.pattern "c")]
    let proper : Expr := .not (.and [.pattern "b", .pattern "c"])
    (ofExpr loose "Root").toExpr.matchesName "a" = true ∧ loose.matchesName "a" = true ∧
      (ofExpr loose "Root").toExpr.matchesName "b" = false ∧ loose.matchesName "b" = true ∧
      proper.Proper ∧ (ofExpr proper "Root").toExpr.matchesName "b" = true := by
  intro loose proper
  have htree : (ofExpr loose "Root").toExpr.matchesName "a" = true := by decide +kernel
  have hproper : proper.Proper := by
    refine .not (.and (by simp) fun e he => ?_)
    obtain rfl | rfl : e = .pattern "b" ∨ e = .pattern "c" := by simpa using he
    · exact .pattern (by decide)
    · exact .pattern (by decide)
  refine ⟨htree, (tree_is_sound loose "Root" "a").1 htree, ?_, ?_, hproper, ?_⟩
  · decide +kernel
  · decide +kernel
  · rw [(tree_is_sound proper "Root" "b").2 hproper]
    decide +kernel

end RuleTree

end NameRoles
