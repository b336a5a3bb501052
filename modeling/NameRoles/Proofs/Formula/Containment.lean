import Mathlib.Data.List.Basic
import NameRoles.Proofs.Formula.Nesting
import NameRoles.Proofs.Text.Fold

/-!
# Names that contain a pattern

A pattern and a name are folded separately, and a capital sigma is folded by what stands next to it.
So a name that contains the text of a pattern may still miss it, but only by a sigma that ends a
word in one of them and not in the other (`containing_names_match`).
-/

namespace NameRoles.Formula

open Text

variable {p name : String}

theorem says_pattern (h : tokenize p = [.pattern p, .ending]) : Says p (.pattern p) 0 :=
  ⟨[.pattern p], h, gives_or_of_and (gives_and_of_not (gives_pattern p))⟩

/-- A formula of one pattern holds of the names whose folded form contains that of the pattern. -/
theorem evaluate_of_pattern (h : tokenize p = [.pattern p, .ending]) :
    evaluate p name = true ↔ foldChars p.toList <:+: foldChars name.toList := by
  have hmem : .pattern p ∈ tokenize p := by simp [h]
  have hne : p ≠ "" := ne_empty_of_mem_tokenize hmem
  rw [(says_pattern h).evaluate_eq (Nat.zero_le _)]
  simp [Expr.matchesName, Expr.holds, hne]

/-- A formula of one pattern holds of a name that contains its text, if each capital sigma in the
text is folded in the name as in the text alone. It holds of all names that contain the text just if
each of these sigmas is settled by what stands next to it in the text. -/
theorem containing_names_match (h : tokenize p = [.pattern p, .ending]) :
    (∀ a b : String,
      (∀ u v, p.toList = u ++ 'Σ' :: v →
        sigmaForm u.reverse v = sigmaForm (u.reverse ++ a.toList.reverse) (v ++ b.toList)) →
      evaluate p (a ++ p ++ b) = true) ∧
    ((∀ a b : String, evaluate p (a ++ p ++ b) = true) ↔
      ∀ u v, p.toList = u ++ 'Σ' :: v → Settled u.reverse v) := by
  constructor
  · intro a b hforms
    rw [evaluate_of_pattern h, String.toList_append, String.toList_append]
    exact foldChars_infix hforms
  · rw [← foldChars_infix_iff_settled]
    simp only [evaluate_of_pattern h, String.toList_append]
    exact ⟨fun hall a b => by simpa using hall (String.ofList a) (String.ofList b),
      fun hall a b => hall a.toList b.toList⟩

theorem containing_names_match_final_sigma :
    tokenize "ΟΔΟΣ-1" = [.pattern "ΟΔΟΣ-1", .ending] ∧
      ∀ a b : String, evaluate "ΟΔΟΣ-1" (a ++ "ΟΔΟΣ-1" ++ b) = true := by
  have htokens : tokenize "ΟΔΟΣ-1" = [.pattern "ΟΔΟΣ-1", .ending] := by decide +kernel
  have hchars : ['Ο', 'Δ', 'Ο'] ++ 'Σ' :: ['-', '1'] = "ΟΔΟΣ-1".toList := by decide +kernel
  have hbefore : firstSolid? ['Ο', 'Δ', 'Ο'] = some 'Ο' := by decide +kernel
  have hafter : (firstSolid? ['-', '1']).isSome = true := by decide +kernel
  refine ⟨htokens, (containing_names_match htokens).2.mpr fun u v h => ?_⟩
  obtain ⟨rfl, -, rfl⟩ :=
    (List.append_cons_inj_of_notMem (by decide) (by decide)).mp (hchars.trans h)
  exact .inr ⟨'Ο', hbefore, .inr hafter⟩

/-- The sigma of the pattern is final, and that of the name is not. -/
theorem containing_name_missed :
    tokenize "ΦΩΣ" = [.pattern "ΦΩΣ", .ending] ∧
      evaluate "ΦΩΣ" ("" ++ "ΦΩΣ" ++ "ΦΟΡΟΣ") = false := by
  decide +kernel

end NameRoles.Formula
