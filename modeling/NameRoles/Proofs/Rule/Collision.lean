import NameRoles.Proofs.Formula.Proper
import NameRoles.Proofs.Rule.Conflict

/-!
# Operands taken as names

The search for conflicts compares operands and reads no formula as a condition. Yet it misses no
rule without negations that holds of an operand of another rule (`collisions_are_reported`): such a
formula holds of a name only through an operand that the name contains
(`exists_operand_of_evaluate`).
-/

namespace NameRoles

open Text Formula

/-! ## Formulas without negations -/

namespace Formula

variable {formula name text : String}

theorem mem_operands_iff : text ∈ operands formula ↔ .pattern text ∈ tokenize formula := by
  have hpattern (token : Token) : token.pattern? = some text ↔ token = .pattern text := by
    cases token <;> simp [Token.pattern?]
  simp [operands, hpattern]

theorem evaluate_eq_true_iff : evaluate formula name = true ↔
    ∃ e, parse formula = .ok e ∧ e.matchesName name = true := by
  unfold evaluate
  cases parse formula <;> simp

/-- A formula without negations holds of a name only if the name contains one of the formula's
operands. -/
theorem exists_operand_of_evaluate (hnot : .not ∉ tokenize formula)
    (h : evaluate formula name = true) :
    ∃ text ∈ operands formula, foldChars text.toList <:+: foldChars name.toList := by
  obtain ⟨e, he, hholds⟩ := evaluate_eq_true_iff.mp h
  rw [Expr.matchesName] at hholds
  refine parse_induction (P := fun e => e.holds (foldChars name.toList) = true → _) he
    ?pattern ?not ?and ?or hholds
  case pattern =>
    intro text htext hholds
    have hoccurs := (Bool.and_eq_true_iff.mp hholds).2
    exact ⟨text, mem_operands_iff.mpr htext, occursIn_iff.mp hoccurs⟩
  case not => exact fun hmem => absurd hmem hnot
  case and =>
    -- all items hold, so the first one does
    intro items hlen ih hholds
    cases items with
    | nil => simp at hlen
    | cons item items =>
      apply ih item List.mem_cons_self
      simp_all [Expr.holds, Expr.holdsAll]
  case or =>
    intro items _ ih hholds
    rw [Expr.holds, Expr.holdsAny_eq, List.any_eq_true] at hholds
    obtain ⟨item, hitem, hholds⟩ := hholds
    exact ih item hitem hholds

end Formula

/-! ## Reported collisions -/

variable {rules : List Rule} {rule other : Rule} {excluded : Option Uuid} {a : String}

theorem Rule.overlaps_of_evaluate (ha : a ∈ operands rule.formula)
    (hnot : .not ∉ tokenize other.formula) (h : evaluate other.formula a = true) :
    rule.Overlaps other := by
  obtain ⟨b, hb, hinfix⟩ := exists_operand_of_evaluate hnot h
  exact ⟨a, ha, b, hb, .inl hinfix⟩

theorem mem_placePairs_iff {i j : Fin rules.length} : (i, j) ∈ placePairs rules excluded ↔
    i < j ∧ some (rules.get i).id ≠ excluded ∧ some (rules.get j).id ≠ excluded := by
  simp [placePairs, List.mem_filter]

/-- The conflict of two rules that overlap stands at their places, the lower one in front. -/
theorem exists_mem_found_of_overlaps {i j : Fin rules.length} (hlt : i < j)
    (hi : some (rules.get i).id ≠ excluded) (hj : some (rules.get j).id ≠ excluded)
    (h : (rules.get i).Overlaps (rules.get j)) : ∃ conflict, ((i, j), conflict) ∈
      found (fun (i, j) => (rules.get i).conflict? (rules.get j)) (placePairs rules excluded) := by
  obtain ⟨conflict, hconflict⟩ := Option.isSome_iff_exists.mp (isSome_conflict?_iff.mpr h)
  exact ⟨conflict, mem_found_iff.mpr ⟨mem_placePairs_iff.mpr ⟨hlt, hi, hj⟩, hconflict⟩⟩

/-- The reported conflicts have pairwise different places, those of the rules that they name, and
any two rules that are compared have a conflict there if an operand of one is a name of which the
other holds without a negation. An ill-formed formula holds of no name. -/
theorem collisions_are_reported (rules : List Rule) (excluded : Option Uuid) :
    ∃ entries : List ((Fin rules.length × Fin rules.length) × RuleConflict),
      entries.map Prod.snd = detectConflicts rules excluded ∧
      (entries.map Prod.fst).Pairwise (Prod.Lex (· < ·) (· < ·)) ∧
      (∀ i j conflict, ((i, j), conflict) ∈ entries →
        i < j ∧ conflict.first = (rules.get i).name ∧ conflict.second = (rules.get j).name) ∧
      ∀ i j, i ≠ j → some (rules.get i).id ≠ excluded → some (rules.get j).id ≠ excluded →
        ∀ a ∈ operands (rules.get i).formula, .not ∉ tokenize (rules.get j).formula →
          evaluate (rules.get j).formula a = true →
          ∃ conflict, ((min i j, max i j), conflict) ∈ entries := by
  refine ⟨found (fun (i, j) => (rules.get i).conflict? (rules.get j)) (placePairs rules excluded),
    ?_, ?_, fun i j conflict h => ?_, fun i j hne hi hj a ha hnot h => ?_⟩
  · rw [map_snd_found, detectConflicts_eq_filterMap_placePairs]
    rfl
  · rw [map_fst_found]
    exact ((pairwise_pairs (List.pairwise_lt_finRange _)).filter _).filter _
  · obtain ⟨hplace, hconflict⟩ := mem_found_iff.mp h
    obtain ⟨hfirst, hsecond, -⟩ := conflict?_eq_some_iff.mp hconflict
    exact ⟨(mem_placePairs_iff.mp hplace).1, hfirst, hsecond⟩
  · have hoverlaps := Rule.overlaps_of_evaluate ha hnot h
    rcases lt_or_gt_of_ne hne with hlt | hgt
    · rw [min_eq_left hlt.le, max_eq_right hlt.le]
      exact exists_mem_found_of_overlaps hlt hi hj hoverlaps
    · rw [min_eq_right hgt.le, max_eq_left hgt.le]
      exact exists_mem_found_of_overlaps hgt hj hi (Rule.overlaps_comm.mp hoverlaps)

/-- The first rule holds of an operand of the third one, so the two are reported. -/
theorem collisions_are_reported_of_glazedRules :
    evaluate "Door" "DoorFrame" = true ∧
      ∃ conflict ∈ detectConflicts glazedRules none,
        conflict.first = (numberedRule 1 "A" "").name ∧
          conflict.second = (numberedRule 3 "C" "").name := by
  obtain ⟨entries, hentries, -, hnames, hcollisions⟩ := collisions_are_reported glazedRules none
  let first : Fin glazedRules.length := ⟨0, by decide⟩
  let third : Fin glazedRules.length := ⟨2, by decide⟩
  have hholds : evaluate "Door" "DoorFrame" = true := by decide +kernel
  obtain ⟨conflict, hentry⟩ := hcollisions third first (by decide) nofun nofun "DoorFrame"
    (by decide) (by decide) hholds
  obtain ⟨-, hfirst, hthird⟩ := hnames first third conflict hentry
  exact ⟨hholds, conflict, hentries ▸ List.mem_map_of_mem hentry, hfirst, hthird⟩

end NameRoles
