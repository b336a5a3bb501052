import NameRoles.Proofs.Snapshot
import NameRoles.Rule.File

/-!
# What an accepted rule file says

The rules of a file are accepted when their identifiers, and those of their roles, are pairwise
distinct and their formulas are valid. Snapshots go by the names of roles instead: a file's rules
all reach a snapshot if these are distinct too, as they are where no record chooses the identifier
of its role.
-/

namespace NameRoles

/-! ## Accepted records -/

/-- Neither the identifiers of two rules nor those of their roles are the same. -/
def Rule.Apart (a b : Rule) : Prop := a.id ≠ b.id ∧ a.roleId ≠ b.roleId

variable {earlier rules : List Rule} {rule : Rule} {records : List Record} {fault : StoreFault}
  {text : String}

theorem Formula.isValid_iff {formula : String} :
    isValid formula = true ↔ check formula = .ok () := by
  rw [isValid]
  cases check formula <;> simp [Except.isOk, Except.toBool]

theorem Rule.checkBehind_eq_ok_iff : rule.checkBehind earlier = .ok () ↔
    (∀ other ∈ earlier, other.Apart rule) ∧ Formula.isValid rule.formula = true := by
  simp only [Formula.isValid_iff, checkBehind, Rule.Apart]
  split
  next hid => grind
  next hid =>
    split
    next hrole => grind
    next hrole => cases Formula.check rule.formula <;> grind

theorem checkRulesBehind_cons_of_ok (h : rule.checkBehind earlier = .ok ()) :
    checkRulesBehind earlier (rule :: rules) = checkRulesBehind (earlier ++ [rule]) rules := by
  rw [checkRulesBehind, h]
  rfl

theorem checkRulesBehind_cons_of_error (h : rule.checkBehind earlier = .error fault) :
    checkRulesBehind earlier (rule :: rules) = .error fault := by
  rw [checkRulesBehind, h]
  rfl

theorem checkRulesBehind_eq_ok_iff : checkRulesBehind earlier rules = .ok () ↔
    (∀ other ∈ earlier, ∀ rule ∈ rules, other.Apart rule) ∧ rules.Pairwise Rule.Apart ∧
      ∀ rule ∈ rules, Formula.isValid rule.formula = true := by
  induction rules generalizing earlier with
  | nil => simp [checkRulesBehind]
  | cons rule rules ih =>
    have hstep : checkRulesBehind earlier (rule :: rules) = .ok () ↔
        rule.checkBehind earlier = .ok () ∧
          checkRulesBehind (earlier ++ [rule]) rules = .ok () := by
      cases h : rule.checkBehind earlier with
      | ok => simp [checkRulesBehind_cons_of_ok h]
      | error fault => simp [checkRulesBehind_cons_of_error h]
    rw [hstep, Rule.checkBehind_eq_ok_iff, ih, List.pairwise_cons]
    simp only [List.mem_append, List.mem_cons, List.not_mem_nil, or_false]
    grind

theorem rulesOfRecords_eq_ok_iff : rulesOfRecords records = .ok rules ↔
    rules = records.map Record.toRule ∧ rules.Pairwise Rule.Apart ∧
      ∀ rule ∈ rules, Formula.isValid rule.formula = true := by
  have hcheck := @checkRulesBehind_eq_ok_iff [] (records.map Record.toRule)
  rw [rulesOfRecords]
  cases h : checkRulesBehind [] (records.map Record.toRule) with
  | ok =>
    obtain ⟨-, hapart, hvalid⟩ := hcheck.mp h
    constructor
    · rintro ⟨⟩
      exact ⟨rfl, hapart, hvalid⟩
    · rintro ⟨rfl, -⟩
      rfl
  | error fault =>
    constructor
    · exact nofun
    · rintro ⟨rfl, hrest⟩
      simp [hcheck.mpr ⟨nofun, hrest⟩] at h

/-- What becomes of the records that are read from a file. -/
theorem parseRuleFile_eq (h : readRecords? text = some records) :
    parseRuleFile text = (rulesOfRecords records).mapError fun fault => .store fault.message := by
  simp only [parseRuleFile, h]
  cases rulesOfRecords records <;> rfl

/-! ## From a file to a snapshot -/

theorem forall₂_deriveTrees_of_valid
    (h : ∀ rule ∈ rules, Formula.isValid rule.formula = true) :
    List.Forall₂ (fun rule tree => tree.Represents rule) rules (deriveTrees rules) := by
  induction rules with
  | nil => exact .nil
  | cons rule rules ih =>
    obtain ⟨hrule, hrules⟩ := List.forall_mem_cons.mp h
    obtain ⟨tree, ht, hrep⟩ := Rule.exists_toTree hrule
    rw [deriveTrees_cons_of_ok ht]
    exact .cons hrep (ih hrules)

/-- Trees of pairwise distinct roles classify by the first rule whose formula holds. -/
theorem firstMatch?_compile_of_represents {trees : List TreeRule}
    (h : List.Forall₂ (fun rule tree => TreeRule.Represents tree rule) rules trees)
    (hroles : (trees.map (·.roleName)).Nodup) (name : String) :
    (Snapshot.compile trees).firstMatch? name =
      (rules.find? fun rule => Formula.evaluate rule.formula name).map (·.roleName) := by
  rw [Snapshot.firstMatch?_eq, Snapshot.rules_compile_of_nodup hroles]
  clear hroles
  induction h with
  | nil => rfl
  | @cons rule tree rules trees hrep _ ih =>
    have hmatch : tree.compile.condition.matchesName name = Formula.evaluate rule.formula name :=
      hrep.matchesName_eq name
    rw [List.map_cons, List.find?_cons, List.find?_cons, hmatch]
    cases Formula.evaluate rule.formula name with
    | true => exact congrArg some hrep.roleName_eq
    | false => exact ih

/-- Records that leave out the identifier of their role have distinct names if their rules are
apart. -/
theorem roleNames_ne_of_omitted (h : (records.map Record.toRule).Pairwise Rule.Apart) :
    records.Pairwise fun a b => a.roleId = none → b.roleId = none → a.roleName ≠ b.roleName := by
  refine (List.pairwise_map.mp h).imp fun {a b} hapart ha hb hname => hapart.2 ?_
  simp only [Record.toRule, ha, hb, hname]

/-- Where no record chooses the identifier of its role, distinct roles have distinct names. -/
theorem nodup_roleNames_of_derived (h : (records.map Record.toRule).Pairwise Rule.Apart)
    (hderived : ∀ record ∈ records, record.roleId = none) :
    ((records.map Record.toRule).map (·.roleName)).Nodup := by
  rw [List.map_map, List.nodup_iff_pairwise_ne, List.pairwise_map]
  exact (roleNames_ne_of_omitted h).imp_of_mem fun ha hb hne => hne (hderived _ ha) (hderived _ hb)

/-- No rule of an accepted file is skipped as ill-formed. All of them reach a snapshot, one
compiled rule for each and in their order, if and only if their roles have pairwise distinct names;
then each name is given the role of the first rule whose formula holds of it. Names are distinct
where all identifiers of roles are derived. -/
theorem snapshot_of_records (h : rulesOfRecords records = .ok rules) :
    (deriveTrees rules).map (·.roleName) = records.map (·.roleName) ∧
      ((Snapshot.compile (deriveTrees rules)).roleNames = records.map (·.roleName) ↔
        (records.map (·.roleName)).Nodup) ∧
      ((records.map (·.roleName)).Nodup → ∀ name,
        (Snapshot.compile (deriveTrees rules)).firstMatch? name =
          (rules.find? fun rule => Formula.evaluate rule.formula name).map (·.roleName)) ∧
      ((∀ record ∈ records, record.roleId = none) → (records.map (·.roleName)).Nodup) := by
  obtain ⟨rfl, hapart, hvalid⟩ := rulesOfRecords_eq_ok_iff.mp h
  have hnames : (records.map Record.toRule).map (·.roleName) = records.map (·.roleName) := by
    rw [List.map_map]
    rfl
  have htrees : (deriveTrees (records.map Record.toRule)).map (·.roleName) =
      records.map (·.roleName) := by
    rw [roleNames_deriveTrees, validRoles_of_valid hvalid, hnames]
  refine ⟨htrees, ?_, fun hroles => ?_, fun hderived => ?_⟩
  · rw [← htrees]
    exact Snapshot.roleNames_compile_eq_iff
  · exact firstMatch?_compile_of_represents (forall₂_deriveTrees_of_valid hvalid) (htrees ▸ hroles)
  · exact hnames ▸ nodup_roleNames_of_derived hapart hderived

/-- Two records whose identifiers are all derived. -/
theorem snapshot_of_records_derived :
    let doors : Record := ⟨none, none, "Doors", none, "Door AND NOT Window"⟩
    let windows : Record := ⟨none, none, "Windows", none, "Window"⟩
    let rules := [doors, windows].map Record.toRule
    rulesOfRecords [doors, windows] = .ok rules ∧
      (Snapshot.compile (deriveTrees rules)).roleNames = ["Doors", "Windows"] ∧
      (Snapshot.compile (deriveTrees rules)).firstMatch? "DoorWindow" = some "Windows" := by
  intro doors windows rules
  have hrules : rulesOfRecords [doors, windows] = .ok rules := by decide +kernel
  obtain ⟨-, hkept, hfirst, hderived⟩ := snapshot_of_records hrules
  have hroles := hderived (by decide)
  refine ⟨hrules, hkept.mpr hroles, (hfirst hroles "DoorWindow").trans ?_⟩
  decide +kernel

/-- Two records of one name, of which the second chooses its identifiers, are accepted as two rules.
The second rule is lost on the way to a snapshot, and with it the name that it holds of. -/
theorem namesake_of_role_is_lost :
    let first : Record := ⟨none, none, "Doors", none, "Door"⟩
    let second : Record :=
      ⟨some ⟨List.replicate 32 1, rfl⟩, some ⟨List.replicate 32 2, rfl⟩, "Doors", none, "Gate"⟩
    let rules := [first, second].map Record.toRule
    rulesOfRecords [first, second] = .ok rules ∧
      (rules.find? fun rule => Formula.evaluate rule.formula "Gate").map (·.roleName) =
        some "Doors" ∧
      (Snapshot.compile (deriveTrees rules)).roleNames = ["Doors"] ∧
      (Snapshot.compile (deriveTrees rules)).firstMatch? "Gate" = none := by
  intro first second rules
  refine ⟨?_, ?_, ?_, ?_⟩ <;> decide +kernel

end NameRoles
