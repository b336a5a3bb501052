import NameRoles.Proofs.Formula.LetterCase
import NameRoles.Proofs.Rule.Conflict

/-!
# Rules in other letter case

Nothing that is done with formulas and names depends on the case of their ASCII letters
(`letter_case_is_disregarded`). For the conflicts between rules this follows from what the formulas
look like when they are lowered: their operands are lowered, and two operands overlap as before
(`detectConflicts_map_lowered`).
-/

namespace NameRoles

open Text Formula

/-! ## Lowered rules -/

/-- The rule with its formula lowered. -/
def Rule.lowered (rule : Rule) : Rule := { rule with formula := rule.formula.toLower }

def Overlap.lowered (overlap : Overlap) : Overlap :=
  ⟨overlap.left.toLower, overlap.right.toLower⟩

def RuleConflict.lowered (conflict : RuleConflict) : RuleConflict :=
  { conflict with overlap := conflict.overlap.lowered }

@[simp] theorem overlaps_ofText_toLower (a b : String) :
    (Operand.ofText a.toLower).overlaps (.ofText b.toLower) =
      (Operand.ofText a).overlaps (.ofText b) := by
  simp [Operand.overlaps, Operand.ofText]

@[simp] theorem findOverlap_toLower (F G : String) :
    findOverlap (operandSet F.toLower) (operandSet G.toLower) =
      (findOverlap (operandSet F) (operandSet G)).map Overlap.lowered := by
  simp only [findOverlap_operandSet, findOverlap_map_ofText, operands_toLower, List.findSome?_map,
    List.find?_map, Function.comp_def, overlaps_ofText_toLower, List.map_findSome?, Option.map_map]
  rfl

@[simp] theorem conflict?_lowered (first second : Rule) :
    first.lowered.conflict? second.lowered = (first.conflict? second).map RuleConflict.lowered := by
  rw [Rule.conflict?, Rule.conflict?, Option.map_map, Rule.lowered, Rule.lowered,
    findOverlap_toLower, Option.map_map]
  rfl

/-- Lowered formulas have the same conflicts, with the operands lowered. -/
@[simp] theorem detectConflicts_map_lowered (rules : List Rule) (excluded : Option Uuid) :
    detectConflicts (rules.map Rule.lowered) excluded =
      (detectConflicts rules excluded).map RuleConflict.lowered := by
  have hkept : withoutRule excluded (rules.map Rule.lowered) =
      (withoutRule excluded rules).map Rule.lowered := List.filter_map
  rw [detectConflicts_eq, detectConflicts_eq, hkept, pairs_map, List.filterMap_map,
    List.map_filterMap]
  simp only [Function.comp_def, Prod.map, conflict?_lowered]

/-! ## Rules and conflicts that differ in letter case -/

/-- The same rule, save that the formula may be in other letter case. -/
structure Rule.CaseVariant (rule rule' : Rule) : Prop where
  formula : Text.CaseVariant rule.formula rule'.formula
  others : rule' = { rule with formula := rule'.formula }

/-- The same two rules, with operands that may be in other letter case. -/
structure RuleConflict.CaseVariant (conflict conflict' : RuleConflict) : Prop where
  first : conflict.first = conflict'.first
  second : conflict.second = conflict'.second
  left : Text.CaseVariant conflict.overlap.left conflict'.overlap.left
  right : Text.CaseVariant conflict.overlap.right conflict'.overlap.right

theorem Rule.CaseVariant.lowered_eq {rule rule' : Rule} (h : rule.CaseVariant rule') :
    rule.lowered = rule'.lowered := by
  obtain ⟨hformula, hothers⟩ := h
  rw [hothers, lowered, lowered, caseVariant_iff.mp hformula]

theorem RuleConflict.caseVariant_of_lowered {conflict conflict' : RuleConflict}
    (h : conflict.lowered = conflict'.lowered) : conflict.CaseVariant conflict' := by
  simp only [lowered, Overlap.lowered, mk.injEq, Overlap.mk.injEq] at h
  obtain ⟨hfirst, hsecond, hleft, hright⟩ := h
  exact ⟨hfirst, hsecond, caseVariant_iff.mpr hleft, caseVariant_iff.mpr hright⟩

theorem map_lowered_eq {rules rules' : List Rule} (h : List.Forall₂ Rule.CaseVariant rules rules') :
    rules.map Rule.lowered = rules'.map Rule.lowered :=
  map_eq_map_iff_forall₂.mpr (h.imp fun _ _ => Rule.CaseVariant.lowered_eq)

theorem forall₂_detectConflicts {rules rules' : List Rule}
    (h : List.Forall₂ Rule.CaseVariant rules rules') (excluded : Option Uuid) :
    List.Forall₂ RuleConflict.CaseVariant (detectConflicts rules excluded)
      (detectConflicts rules' excluded) := by
  have hlowered : (detectConflicts rules excluded).map RuleConflict.lowered =
      (detectConflicts rules' excluded).map RuleConflict.lowered := by
    rw [← detectConflicts_map_lowered, ← detectConflicts_map_lowered, map_lowered_eq h]
  exact (map_eq_map_iff_forall₂.mp hlowered).imp fun _ _ => RuleConflict.caseVariant_of_lowered

/-- Formulas that differ only in the case of ASCII letters are accepted alike, or refused for the
same reason, and hold of the same names, whatever the case of the ASCII letters in these. Sets of
rules whose formulas differ so have the same conflicts. -/
theorem letter_case_is_disregarded {F F' name name' : String} {rules rules' : List Rule}
    (hformula : CaseVariant F F') (hname : CaseVariant name name')
    (hrules : List.Forall₂ Rule.CaseVariant rules rules') (excluded : Option Uuid) :
    (check F = .ok () ↔ check F' = .ok ()) ∧
      (∀ e e', check F = .error e → check F' = .error e' → e.CaseVariant e') ∧
      evaluate F name = evaluate F' name' ∧
      List.Forall₂ RuleConflict.CaseVariant (detectConflicts rules excluded)
        (detectConflicts rules' excluded) := by
  have hcheck : (check F).mapError (Error.mapText String.toLower) =
      (check F').mapError (Error.mapText String.toLower) := by
    simpa using congrArg check (caseVariant_iff.mp hformula)
  refine ⟨?_, fun e e' he he' => ?_, ?_, forall₂_detectConflicts hrules excluded⟩
  · cases hF : check F <;> cases hF' : check F' <;> simp_all [Except.mapError]
  · rw [he, he'] at hcheck
    exact Error.caseVariant_of_mapText (Except.error.inj hcheck)
  · simpa using congrArg₂ evaluate (caseVariant_iff.mp hformula) (caseVariant_iff.mp hname)

/-- A rule that differs from others in its formula alone. -/
def hallsRule (formula : String) : Rule := numberedRule 1 "Halls" formula

/-- The letters stand next to a capital sigma, which is folded by what they are. -/
theorem letter_case_is_disregarded_beside_sigma :
    check "AΣ AND not dOOR" = .ok () ∧ evaluate "AΣ AND not dOOR" "XAΣ" = true ∧
      List.Forall₂ RuleConflict.CaseVariant
        (detectConflicts [hallsRule "aΣ", hallsRule "b OR xaΣ"] none)
        (detectConflicts [hallsRule "AΣ", hallsRule "b or XaΣ"] none) ∧
      (detectConflicts [hallsRule "aΣ", hallsRule "b OR xaΣ"] none).length = 1 := by
  have hformula : CaseVariant "aΣ and NOT Door" "AΣ AND not dOOR" :=
    caseVariant_iff_map.mpr (by decide +kernel)
  have hname : CaseVariant "xaΣ" "XAΣ" := caseVariant_iff_map.mpr (by decide +kernel)
  have hfirst : (hallsRule "aΣ").CaseVariant (hallsRule "AΣ") :=
    ⟨caseVariant_iff_map.mpr (by decide +kernel), rfl⟩
  have hsecond : (hallsRule "b OR xaΣ").CaseVariant (hallsRule "b or XaΣ") :=
    ⟨caseVariant_iff_map.mpr (by decide +kernel), rfl⟩
  obtain ⟨hcheck, -, hevaluate, hconflicts⟩ :=
    letter_case_is_disregarded hformula hname (.cons hfirst (.cons hsecond .nil)) none
  refine ⟨hcheck.mp (by decide +kernel), hevaluate.symm.trans (by decide +kernel), hconflicts, ?_⟩
  decide +kernel

end NameRoles
