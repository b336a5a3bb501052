import Mathlib.Data.List.FinRange
import Mathlib.Data.Sym.Sym2
import NameRoles.Proofs.Rule.Overlap

/-!
# Which conflicts are reported

The conflicts of a set of rules are those of the pairs of a rule and one behind it, pair by pair
(`detectConflicts_eq`). So what is reported can be said place by place (`detectConflicts_by_place`),
and another order of the rules turns pairs round but neither adds nor drops one
(`conflicts_of_perm`).
-/

namespace NameRoles

open Text Formula

/-! ## Pairs of a list -/

section Pairs

variable {α β : Type} {a b : α} {l l' : List α} {R : α → α → Prop}

/-- The pairs of an item and one behind it, those of the first item in front. -/
def pairs : List α → List (α × α)
  | [] => []
  | a :: l => l.map (a, ·) ++ pairs l

@[simp] theorem pairs_map (f : α → β) (l : List α) :
    pairs (l.map f) = (pairs l).map (Prod.map f f) := by
  induction l with
  | nil => rfl
  | cons a l ih =>
    simp only [List.map_cons, pairs, ih, List.map_append, List.map_map, Function.comp_def, Prod.map]

theorem pairs_filter (p : α → Bool) (l : List α) :
    pairs (l.filter p) = (pairs l).filter fun pair => p pair.1 && p pair.2 := by
  induction l with
  | nil => rfl
  | cons a l ih =>
    rw [List.filter_cons, pairs, List.filter_append, List.filter_map, ← ih]
    cases ha : p a with
    | true => simp [pairs, ha, Function.comp_def]
    | false => simp [ha, Function.comp_def]

theorem mem_pairs_iff : (a, b) ∈ pairs l ↔ [a, b].Sublist l := by
  induction l with
  | nil => simp [pairs]
  | cons c l ih =>
    rw [pairs, List.mem_append, ih, List.cons_sublist_cons', List.singleton_sublist]
    simp only [List.mem_map, Prod.mk.injEq]
    grind

/-- Of two items of a list one stands behind the other. -/
theorem mem_pairs_or_swap (ha : a ∈ l) (hb : b ∈ l) (hne : a ≠ b) :
    (a, b) ∈ pairs l ∨ (b, a) ∈ pairs l := by
  induction l with
  | nil => cases ha
  | cons c l ih =>
    simp only [pairs, List.mem_append, List.mem_map, Prod.mk.injEq]
    grind

/-- The pairs of a list in order are in lexicographic order. -/
theorem pairwise_pairs (h : l.Pairwise R) : (pairs l).Pairwise (Prod.Lex R R) := by
  induction l with
  | nil => exact .nil
  | cons a l ih =>
    obtain ⟨ha, hl⟩ := List.pairwise_cons.mp h
    refine List.pairwise_append.mpr ⟨List.pairwise_map.mpr (hl.imp (.right _)), ih hl, ?_⟩
    rintro x hx ⟨c, d⟩ hcd
    obtain ⟨b, -, rfl⟩ := List.mem_map.mp hx
    have hc : c ∈ l := (mem_pairs_iff.mp hcd).subset List.mem_cons_self
    exact .left _ _ (ha c hc)

@[simp] theorem mem_pairs_finRange_iff {n : Nat} {i j : Fin n} :
    (i, j) ∈ pairs (List.finRange n) ↔ i < j := by
  have hlt {i j : Fin n} (h : (i, j) ∈ pairs (List.finRange n)) : i < j :=
    List.pairwise_iff_forall_sublist.mp (List.pairwise_lt_finRange n) (mem_pairs_iff.mp h)
  refine ⟨hlt, fun h => ?_⟩
  have hswap : (j, i) ∉ pairs (List.finRange n) := fun hji => absurd (hlt hji) (Fin.lt_asymm h)
  exact (mem_pairs_or_swap (List.mem_finRange i) (List.mem_finRange j) h.ne).resolve_right hswap

/-- What does not depend on the order in a pair is found as often in whatever order the list
stands. -/
theorem filterMap_pairs_perm {f : α × α → Option β} (hswap : ∀ a b, f (a, b) = f (b, a))
    (h : l.Perm l') : ((pairs l).filterMap f).Perm ((pairs l').filterMap f) := by
  induction h with
  | nil => exact .nil
  | cons a hl ih =>
    rw [pairs, pairs, List.filterMap_append, List.filterMap_append]
    exact ((hl.map _).filterMap f).append ih
  | swap a b l =>
    simp only [pairs, List.map_cons, List.cons_append, List.filterMap_cons, List.filterMap_append,
      hswap b a]
    cases f (a, b) with
    | none => exact List.perm_append_comm_assoc _ _ _
    | some pair => exact (List.perm_append_comm_assoc _ _ _).cons pair
  | trans _ _ ihl ihr => exact ihl.trans ihr

/-- The items for which something is found, each with what is found. -/
def found (f : α → Option β) (l : List α) : List (α × β) := l.filterMap fun a => (f a).map (a, ·)

@[simp] theorem map_snd_found (f : α → Option β) (l : List α) :
    (found f l).map Prod.snd = l.filterMap f := by
  simp [found, List.map_filterMap, Function.comp_def]

@[simp] theorem map_fst_found (f : α → Option β) (l : List α) :
    (found f l).map Prod.fst = l.filter fun a => (f a).isSome := by
  induction l with
  | nil => rfl
  | cons a l ih =>
    rw [found, List.filterMap_cons, List.filter_cons, ← ih]
    cases f a <;> rfl

@[simp] theorem mem_found_iff {f : α → Option β} {x : β} :
    (a, x) ∈ found f l ↔ a ∈ l ∧ f a = some x := by
  simp [found]

end Pairs

/-! ## Pairs of rules -/

variable {rules : List Rule} {rule other first second : Rule} {excluded : Option Uuid}
  {conflict : RuleConflict}

/-- The conflict of two rules, if there is one. -/
def Rule.conflict? (first second : Rule) : Option RuleConflict :=
  (findOverlap (operandSet first.formula) (operandSet second.formula)).map fun overlap =>
    ⟨first.name, second.name, overlap⟩

theorem pairConflicts_eq (rules : List Rule) : pairConflicts (rules.map Rule.withOperands) =
    (pairs rules).filterMap fun pair => pair.1.conflict? pair.2 := by
  induction rules with
  | nil => rfl
  | cons rule rules ih =>
    rw [List.map_cons, Rule.withOperands, pairConflicts, ih, pairs, List.filterMap_append,
      List.filterMap_map, List.filterMap_map]
    rfl

theorem detectConflicts_eq (rules : List Rule) (excluded : Option Uuid) :
    detectConflicts rules excluded =
      (pairs (withoutRule excluded rules)).filterMap fun pair => pair.1.conflict? pair.2 :=
  pairConflicts_eq _

/-- An operand of one rule overlaps one of the other rule. -/
def Rule.Overlaps (rule other : Rule) : Prop :=
  ∃ a ∈ operands rule.formula, ∃ b ∈ operands other.formula, Overlapping a b

@[simp] theorem isSome_conflict?_iff :
    (rule.conflict? other).isSome = true ↔ rule.Overlaps other := by
  rw [Rule.conflict?, Option.isSome_map, isSome_findOverlap_iff, Rule.Overlaps]

theorem conflict?_eq_some_iff : rule.conflict? other = some conflict ↔
    conflict.first = rule.name ∧ conflict.second = other.name ∧
      IsFirstOverlap (operands rule.formula) (operands other.formula) conflict.overlap := by
  rw [Rule.conflict?, Option.map_eq_some_iff]
  simp only [findOverlap_eq_some_iff]
  constructor
  · rintro ⟨overlap, h, rfl⟩
    exact ⟨rfl, rfl, h⟩
  · rintro ⟨hfirst, hsecond, h⟩
    exact ⟨conflict.overlap, h, by rw [← hfirst, ← hsecond]⟩

/-- A rule whose identifiers are the digit with zeros behind it. -/
def numberedRule (digit : Nat) (roleName formula : String) : Rule :=
  let id : Uuid := ⟨hexDigit digit :: List.replicate 31 (hexDigit 0), rfl⟩
  ⟨id, id, roleName, Rule.defaultLabel, formula⟩

/-- Rules of which the first conflicts with the third, and the second and the third with the
fourth. -/
def glazedRules : List Rule :=
  [numberedRule 1 "A" "Door", numberedRule 2 "B" "Window", numberedRule 3 "C" "DoorFrame OR Glass",
    numberedRule 4 "D" "glass AND WindowPane"]

/-! ## Conflicts by place -/

/-- The pairs of places whose rules are compared. -/
def placePairs (rules : List Rule) (excluded : Option Uuid) :
    List (Fin rules.length × Fin rules.length) :=
  (pairs (List.finRange rules.length)).filter fun (i, j) =>
    some rules[i].id ≠ excluded && some rules[j].id ≠ excluded

theorem detectConflicts_eq_filterMap_placePairs (rules : List Rule) (excluded : Option Uuid) :
    detectConflicts rules excluded =
      (placePairs rules excluded).filterMap fun (i, j) => rules[i].conflict? rules[j] := by
  have hrules : pairs rules =
      (pairs (List.finRange rules.length)).map (Prod.map rules.get rules.get) := by
    rw [← pairs_map, List.map_get_finRange]
  rw [detectConflicts_eq, withoutRule, pairs_filter, hrules, List.filter_map, List.filterMap_map]
  rfl

/-- Each pair of places of the list has one entry if both rules are compared and an operand of the
first rule overlaps one of the second, and else none. The entries stand in the order of these pairs,
and each gives the first overlap between all operands of the two formulas. -/
theorem detectConflicts_by_place (rules : List Rule) (excluded : Option Uuid) :
    ∃ entries : List ((Fin rules.length × Fin rules.length) × RuleConflict),
      entries.map Prod.snd = detectConflicts rules excluded ∧
      (entries.map Prod.fst).Pairwise (Prod.Lex (· < ·) (· < ·)) ∧
      (∀ i j, (i, j) ∈ entries.map Prod.fst ↔
        i < j ∧ some rules[i].id ≠ excluded ∧ some rules[j].id ≠ excluded ∧
          ∃ a ∈ operands rules[i].formula, ∃ b ∈ operands rules[j].formula, Overlapping a b) ∧
      ∀ i j conflict, ((i, j), conflict) ∈ entries →
        conflict.first = rules[i].name ∧ conflict.second = rules[j].name ∧
          IsFirstOverlap (operands rules[i].formula) (operands rules[j].formula)
            conflict.overlap := by
  have hplaces {i j : Fin rules.length} : (i, j) ∈ placePairs rules excluded ↔
      i < j ∧ some rules[i].id ≠ excluded ∧ some rules[j].id ≠ excluded := by
    simp [placePairs, List.mem_filter]
  refine ⟨found (fun (i, j) => rules[i].conflict? rules[j]) (placePairs rules excluded), ?_, ?_,
    fun i j => ?_, fun i j conflict h => ?_⟩
  · rw [map_snd_found, detectConflicts_eq_filterMap_placePairs]
  · rw [map_fst_found]
    exact ((pairwise_pairs (List.pairwise_lt_finRange _)).filter _).filter _
  · rw [map_fst_found, List.mem_filter, hplaces, isSome_conflict?_iff, Rule.Overlaps, and_assoc,
      and_assoc]
  · exact conflict?_eq_some_iff.mp (mem_found_iff.mp h).2

/-- The second rule is left out, and the first rule is compared with the third. -/
theorem detectConflicts_by_place_of_glazedRules :
    ∃ conflict ∈ detectConflicts glazedRules (some (numberedRule 2 "" "").id),
      conflict.first = (numberedRule 1 "A" "").name ∧
        conflict.second = (numberedRule 3 "C" "").name ∧
          IsFirstOverlap ["Door"] ["DoorFrame", "Glass"] conflict.overlap := by
  obtain ⟨entries, hentries, -, hplaces, hconflicts⟩ :=
    detectConflicts_by_place glazedRules (some (numberedRule 2 "" "").id)
  have hdoor : operands "Door" = ["Door"] := by decide
  have hglass : operands "DoorFrame OR Glass" = ["DoorFrame", "Glass"] := by decide
  have hoverlapping : ∃ a ∈ operands "Door", ∃ b ∈ operands "DoorFrame OR Glass",
      Overlapping a b := by
    rw [hdoor, hglass]
    exact ⟨"Door", by simp, "DoorFrame", by simp, Operand.overlaps_ofText.mp (by decide)⟩
  let first : Fin glazedRules.length := ⟨0, by decide⟩
  let third : Fin glazedRules.length := ⟨2, by decide⟩
  have hplace : (first, third) ∈ entries.map Prod.fst :=
    (hplaces first third).mpr ⟨by decide, by decide, by decide, hoverlapping⟩
  obtain ⟨⟨_, conflict⟩, hentry, rfl⟩ := List.mem_map.mp hplace
  obtain ⟨hfirst, hthird, hoverlap⟩ := hconflicts first third conflict hentry
  exact ⟨conflict, hentries ▸ List.mem_map_of_mem hentry, hfirst, hthird,
    hdoor ▸ hglass ▸ hoverlap⟩

/-! ## Rules in another order -/

/-- The two rules of a conflict, whichever comes first. -/
def RuleConflict.pair (conflict : RuleConflict) : Sym2 RuleName :=
  s(conflict.first, conflict.second)

theorem mem_detectConflicts_iff : conflict ∈ detectConflicts rules excluded ↔
    ∃ first second : Rule, [first, second].Sublist rules ∧ some first.id ≠ excluded ∧
      some second.id ≠ excluded ∧ first.conflict? second = some conflict := by
  rw [detectConflicts_eq, withoutRule, pairs_filter]
  simp only [List.mem_filterMap, List.mem_filter, Prod.exists, mem_pairs_iff, Bool.and_eq_true,
    decide_eq_true_eq, and_assoc]

theorem Rule.overlaps_comm : rule.Overlaps other ↔ other.Overlaps rule := by
  rw [← isSome_conflict?_iff, ← isSome_conflict?_iff, conflict?, conflict?, Option.isSome_map,
    Option.isSome_map, isSome_findOverlap_comm]

theorem pair_of_conflict? (h : rule.conflict? other = some conflict) :
    conflict.pair = s(rule.name, other.name) := by
  obtain ⟨hfirst, hsecond, -⟩ := conflict?_eq_some_iff.mp h
  rw [RuleConflict.pair, hfirst, hsecond]

theorem map_pair_conflict?_comm (rule other : Rule) :
    (rule.conflict? other).map RuleConflict.pair =
      (other.conflict? rule).map RuleConflict.pair := by
  have hsome : (rule.conflict? other).isSome = (other.conflict? rule).isSome := by
    rw [Bool.eq_iff_iff, isSome_conflict?_iff, isSome_conflict?_iff, Rule.overlaps_comm]
  cases h : rule.conflict? other with
  | none =>
    have hnone : other.conflict? rule = none := by simpa [h] using hsome
    rw [hnone]
  | some conflict =>
    obtain ⟨turned, hturned⟩ : ∃ turned, other.conflict? rule = some turned := by
      rw [← Option.isSome_iff_exists, ← hsome, h, Option.isSome_some]
    rw [hturned, Option.map_some, Option.map_some, pair_of_conflict? h, pair_of_conflict? hturned,
      Sym2.eq_swap]

theorem map_pair_detectConflicts (rules : List Rule) (excluded : Option Uuid) :
    (detectConflicts rules excluded).map RuleConflict.pair =
      (pairs (withoutRule excluded rules)).filterMap fun pair =>
        (pair.1.conflict? pair.2).map RuleConflict.pair := by
  rw [detectConflicts_eq, List.map_filterMap]

/-- In whatever order the rules stand, the same unordered pairs of rules are reported equally often,
and each reported overlap is one of an operand of the first rule and one of the second. -/
theorem conflicts_of_perm (rules : List Rule) (excluded : Option Uuid) :
    (∀ rules' : List Rule, rules.Perm rules' →
      ((detectConflicts rules excluded).map RuleConflict.pair).Perm
        ((detectConflicts rules' excluded).map RuleConflict.pair)) ∧
    ∀ conflict ∈ detectConflicts rules excluded, ∃ first second : Rule,
      [first, second].Sublist rules ∧ conflict.first = first.name ∧ conflict.second = second.name ∧
        conflict.overlap.left ∈ operands first.formula ∧
        conflict.overlap.right ∈ operands second.formula ∧
        Overlapping conflict.overlap.left conflict.overlap.right := by
  constructor
  · intro rules' h
    rw [map_pair_detectConflicts, map_pair_detectConflicts]
    exact filterMap_pairs_perm map_pair_conflict?_comm (h.filter _)
  · intro conflict hconflict
    obtain ⟨first, second, hsub, -, -, hsome⟩ := mem_detectConflicts_iff.mp hconflict
    obtain ⟨hfirst, hsecond, hoverlap⟩ := conflict?_eq_some_iff.mp hsome
    exact ⟨first, second, hsub, hfirst, hsecond, hoverlap.left_mem, hoverlap.right_mem,
      hoverlap.overlapping⟩

theorem conflicts_of_perm_reversed :
    ((detectConflicts glazedRules none).map RuleConflict.pair).Perm
        ((detectConflicts glazedRules.reverse none).map RuleConflict.pair) ∧
      (detectConflicts glazedRules none).map RuleConflict.overlap =
        [⟨"Door", "DoorFrame"⟩, ⟨"Window", "WindowPane"⟩, ⟨"Glass", "glass"⟩] ∧
      Overlapping "Glass" "glass" := by
  obtain ⟨hperm, hgenuine⟩ := conflicts_of_perm glazedRules none
  have hconflict : ⟨(numberedRule 3 "C" "").name, (numberedRule 4 "D" "").name, "Glass", "glass"⟩ ∈
      detectConflicts glazedRules none := by decide
  obtain ⟨first, second, -, -, -, -, -, hoverlapping⟩ := hgenuine _ hconflict
  exact ⟨hperm _ (List.reverse_perm _).symm, by decide, hoverlapping⟩

end NameRoles
