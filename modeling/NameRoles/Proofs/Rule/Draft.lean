import NameRoles.Proofs.Rule.Conflict

/-!
# Drafts and saved rules

One loop compares a formula that is still being written with the saved rules, another one compares
each saved rule with the rules behind it. They find the same (`filterMap_conflict?_map`). So a draft
put in front of the rules adds the conflicts that it has with them, and a saved rule taken as a
draft conflicts with those rules that it is paired with (`draft_in_rules`). There the rules in front
of it change sides, and that an overlap is found does not depend on the side.
-/

namespace NameRoles

open Text Formula

variable {rules : List Rule} {rule other : Rule} {excluded : Option Uuid}

/-! ## The two loops -/

/-- The conflict of a formula with a rule, if there is one. -/
def Rule.draftConflict? (formula : String) (rule : Rule) : Option DraftConflict :=
  (findOverlap (operandSet formula) (operandSet rule.formula)).map fun overlap =>
    ⟨rule.name, overlap⟩

theorem conflictsWith_eq (formula : String) (rules : List Rule) (excluded : Option Uuid) :
    conflictsWith formula rules excluded =
      (withoutRule excluded rules).filterMap (Rule.draftConflict? formula) := rfl

/-- What is found for a pair of saved rules is what is found for the first one as a draft, with its
name put in front. -/
theorem conflict?_eq (rule other : Rule) : rule.conflict? other =
    (Rule.draftConflict? rule.formula other).map fun c => ⟨rule.name, c.rule, c.overlap⟩ := by
  rw [Rule.conflict?, Rule.draftConflict?, Option.map_map]
  rfl

/-- The two loops agree: the pairs of a rule with others have the conflicts of its formula with
them. -/
theorem filterMap_conflict?_map (rule : Rule) (rules : List Rule) :
    ((rules.map (rule, ·)).filterMap fun pair => pair.1.conflict? pair.2) =
      (rules.filterMap (Rule.draftConflict? rule.formula)).map
        fun c => ⟨rule.name, c.rule, c.overlap⟩ := by
  rw [List.filterMap_map, List.map_filterMap]
  exact congrArg (List.filterMap · rules) (funext (conflict?_eq rule))

/-! ## Drafts among the rules -/

/-- Two rules of the set, in either order, are a conflicting pair if they overlap. -/
theorem pair_mem_of_overlaps (hpair : (rule, other) ∈ pairs rules) (h : rule.Overlaps other) :
    s(rule.name, other.name) ∈ (detectConflicts rules none).map RuleConflict.pair := by
  obtain ⟨conflict, hconflict⟩ := Option.isSome_iff_exists.mp (isSome_conflict?_iff.mpr h)
  refine List.mem_map.mpr ⟨conflict, mem_detectConflicts_iff.mpr ?_, pair_of_conflict? hconflict⟩
  exact ⟨rule, other, mem_pairs_iff.mp hpair, nofun, nofun, hconflict⟩

/-- Of rules with distinct identifiers exactly the overlapping ones are reported as pairs. -/
theorem pair_mem_detectConflicts_iff (hids : (rules.map (·.id)).Nodup) (hrule : rule ∈ rules)
    (hother : other ∈ rules) :
    s(rule.name, other.name) ∈ (detectConflicts rules none).map RuleConflict.pair ↔
      other.id ≠ rule.id ∧ rule.Overlaps other := by
  have hinj {r r' : Rule} (hr : r ∈ rules) (hr' : r' ∈ rules) (h : r.name = r'.name) : r = r' :=
    List.inj_on_of_nodup_map hids hr hr' (congrArg RuleName.id h)
  constructor
  · intro hmem
    obtain ⟨conflict, hconflict, hpair⟩ := List.mem_map.mp hmem
    obtain ⟨first, second, hsub, -, -, hsome⟩ := mem_detectConflicts_iff.mp hconflict
    have hne : first.id ≠ second.id := by simpa using (hsub.map (·.id)).nodup hids
    have hoverlaps : first.Overlaps second := isSome_conflict?_iff.mp (by rw [hsome]; rfl)
    have hfirst : first ∈ rules := hsub.subset (by simp)
    have hsecond : second ∈ rules := hsub.subset (by simp)
    rw [pair_of_conflict? hsome, Sym2.eq_iff] at hpair
    rcases hpair with ⟨h, h'⟩ | ⟨h, h'⟩
    · obtain rfl := hinj hfirst hrule h
      obtain rfl := hinj hsecond hother h'
      exact ⟨hne.symm, hoverlaps⟩
    · obtain rfl := hinj hfirst hother h
      obtain rfl := hinj hsecond hrule h'
      exact ⟨hne, Rule.overlaps_comm.mp hoverlaps⟩
  · rintro ⟨hne, hoverlaps⟩
    rcases mem_pairs_or_swap hrule hother (fun h => hne (h ▸ rfl)) with hpair | hpair
    · exact pair_mem_of_overlaps hpair hoverlaps
    · rw [Sym2.eq_swap]
      exact pair_mem_of_overlaps hpair (Rule.overlaps_comm.mp hoverlaps)

theorem detectConflicts_cons (h : some rule.id ≠ excluded) :
    detectConflicts (rule :: rules) excluded =
      (conflictsWith rule.formula rules excluded).map
        (fun c => ⟨rule.name, c.rule, c.overlap⟩) ++ detectConflicts rules excluded := by
  have hkept : withoutRule excluded (rule :: rules) = rule :: withoutRule excluded rules :=
    List.filter_cons_of_pos (by simpa using h)
  rw [detectConflicts_eq, hkept, pairs, List.filterMap_append, filterMap_conflict?_map,
    ← conflictsWith_eq, ← detectConflicts_eq]

/-- The rules that a formula conflicts with are the rules compared that overlap it. -/
theorem map_rule_conflictsWith (rule : Rule) (rules : List Rule) (excluded : Option Uuid) :
    (conflictsWith rule.formula rules excluded).map (·.rule) =
      ((withoutRule excluded rules).filter fun other => (rule.conflict? other).isSome).map
        Rule.name := by
  rw [conflictsWith_eq]
  induction withoutRule excluded rules with
  | nil => rfl
  | cons other rules ih =>
    rw [List.filterMap_cons, List.filter_cons, Rule.conflict?, Option.isSome_map,
      Rule.draftConflict?]
    cases findOverlap (operandSet rule.formula) (operandSet other.formula) with
    | none => exact ih
    | some overlap => exact congrArg (other.name :: ·) ih

/-- A draft in front of the rules has the conflicts that it is reported to have with them, and those
of the rules among each other stay. A rule of the set, taken as a draft with itself left out, is
reported to conflict with exactly those rules that the conflicts of the set pair it with. -/
theorem draft_in_rules (rules : List Rule) :
    (∀ (draft : Rule) (excluded : Option Uuid), some draft.id ≠ excluded →
      detectConflicts (draft :: rules) excluded =
        (conflictsWith draft.formula rules excluded).map
          (fun c => ⟨draft.name, c.rule, c.overlap⟩) ++ detectConflicts rules excluded) ∧
    ((rules.map (·.id)).Nodup → ∀ rule ∈ rules,
      (conflictsWith rule.formula rules (some rule.id)).map (·.rule) =
        (rules.map Rule.name).filter fun name =>
          s(rule.name, name) ∈ (detectConflicts rules none).map RuleConflict.pair) := by
  refine ⟨fun draft excluded h => detectConflicts_cons h, fun hids rule hrule => ?_⟩
  rw [map_rule_conflictsWith, withoutRule, List.filter_filter, List.filter_map]
  congr 1
  refine List.filter_congr fun other hother => ?_
  have hpair := pair_mem_detectConflicts_iff hids hrule hother
  rw [Bool.eq_iff_iff, Bool.and_eq_true, isSome_conflict?_iff]
  simp only [Function.comp_apply, decide_eq_true_eq, ne_eq, Option.some.injEq, hpair, and_comm]

/-- The third rule, taken as a draft, conflicts with one rule in front of it and one behind it. -/
theorem draft_in_rules_of_glazedRules :
    detectConflicts (numberedRule 5 "E" "Pane" :: glazedRules) none =
        (conflictsWith "Pane" glazedRules none).map
          (fun c => ⟨(numberedRule 5 "E" "").name, c.rule, c.overlap⟩) ++
        detectConflicts glazedRules none ∧
      ((glazedRules.map Rule.name).filter fun name =>
          s((numberedRule 3 "C" "").name, name) ∈
            (detectConflicts glazedRules none).map RuleConflict.pair) =
        [(numberedRule 1 "A" "").name, (numberedRule 4 "D" "").name] := by
  obtain ⟨hfront, hsaved⟩ := draft_in_rules glazedRules
  have hthird := hsaved (by decide) (numberedRule 3 "C" "DoorFrame OR Glass") (by decide)
  exact ⟨hfront (numberedRule 5 "E" "Pane") none nofun, hthird.symm.trans (by decide +kernel)⟩

end NameRoles
