import NameRoles.Proofs.Rule.File

/-!
# What is refused of a rule file

A file is loaded as a whole or not at all: it is loaded if its rules are `Loadable`, of which each
record `Gives` one. Else the first record with a fault behind those before it is blamed, for the
first of its faults (`Rule.FaultBehind`). `Rule.checkBehind_eq_error_iff` says so of one record,
`checkRulesBehind_eq_error_iff` of all, and `records_load_or_are_blamed` puts them together.
-/

namespace NameRoles

open Formula

/-- What is asked of the rules of a file. -/
structure Loadable (rules : List Rule) : Prop where
  ids : (rules.map (·.id)).Nodup
  roleIds : (rules.map (·.roleId)).Nodup
  formulas : ∀ rule ∈ rules, check rule.formula = .ok ()

/-- What a rule behind others in a file is blamed for: a fault that comes later in this list only if
the rule has none of those before it. -/
inductive Rule.FaultBehind (earlier : List Rule) (rule : Rule) : StoreFault → Prop where
  | repeatedId (hid : rule.id ∈ earlier.map (·.id)) :
      FaultBehind earlier rule (.repeatedId rule.id)
  | repeatedRole (hid : rule.id ∉ earlier.map (·.id))
      (hrole : rule.roleId ∈ earlier.map (·.roleId)) :
      FaultBehind earlier rule (.repeatedRole rule.roleName)
  | illFormed {cause : Formula.Error} (hid : rule.id ∉ earlier.map (·.id))
      (hrole : rule.roleId ∉ earlier.map (·.roleId)) (hcheck : check rule.formula = .error cause) :
      FaultBehind earlier rule (.illFormed rule.roleName cause)

/-- A record and the rule that is made of it. -/
structure Record.Gives (record : Record) (rule : Rule) : Prop where
  roleName_eq : rule.roleName = record.roleName
  formula_eq : rule.formula = record.formula
  rootLabel_eq : rule.rootLabel = record.label.getD "Root"
  id_eq_of_given : ∀ id, record.id = some id → rule.id = id
  id_eq_of_omitted : record.id = none → rule.id = derivedId "rule" record.roleName
  roleId_eq_of_given : ∀ id, record.roleId = some id → rule.roleId = id
  roleId_eq_of_omitted : record.roleId = none → rule.roleId = derivedId "role" record.roleName

variable {earlier rules : List Rule} {rule : Rule} {records : List Record} {fault : StoreFault}

/-! ## One record -/

theorem Record.gives_toRule (record : Record) : record.Gives record.toRule := by
  constructor
  case roleName_eq | formula_eq | rootLabel_eq => rfl
  all_goals
    intros
    simp_all [Record.toRule]

/-- The fault that a rule is refused for is the first one that it has. -/
theorem Rule.checkBehind_eq_error_iff :
    rule.checkBehind earlier = .error fault ↔ rule.FaultBehind earlier fault := by
  have hids : earlier.any (·.id = rule.id) = true ↔ rule.id ∈ earlier.map (·.id) := by
    simp
  have hroleIds : earlier.any (·.roleId = rule.roleId) = true ↔
      rule.roleId ∈ earlier.map (·.roleId) := by
    simp
  simp only [checkBehind, hids, hroleIds]
  constructor
  · intro h
    split at h
    next hid =>
      obtain rfl := Except.error.inj h
      exact .repeatedId hid
    next hid =>
      split at h
      next hrole =>
        obtain rfl := Except.error.inj h
        exact .repeatedRole hid hrole
      next hrole =>
        split at h
        next hcheck => cases h
        next cause hcheck =>
          obtain rfl := Except.error.inj h
          exact .illFormed hid hrole hcheck
  · intro h
    cases h with
    | repeatedId hid => rw [if_pos hid]
    | repeatedRole hid hrole => rw [if_neg hid, if_pos hrole]
    | illFormed hid hrole hcheck => rw [if_neg hid, if_neg hrole, hcheck]

/-! ## All records -/

theorem loadable_iff : Loadable rules ↔
    rules.Pairwise Rule.Apart ∧ ∀ rule ∈ rules, isValid rule.formula = true := by
  have happart : rules.Pairwise Rule.Apart ↔
      (rules.map (·.id)).Nodup ∧ (rules.map (·.roleId)).Nodup := by
    simp only [List.nodup_iff_pairwise_ne, List.pairwise_map, ← List.pairwise_and_iff]
    rfl
  simp only [happart, isValid_iff]
  constructor
  · rintro ⟨hids, hroleIds, hformulas⟩
    exact ⟨⟨hids, hroleIds⟩, hformulas⟩
  · rintro ⟨⟨hids, hroleIds⟩, hformulas⟩
    exact ⟨hids, hroleIds, hformulas⟩

theorem checkRulesBehind_nil_eq_ok_iff : checkRulesBehind [] rules = .ok () ↔ Loadable rules := by
  rw [checkRulesBehind_eq_ok_iff, loadable_iff]
  simp

/-- The rules are refused at the first of them that has a fault behind those before it. -/
theorem checkRulesBehind_eq_error_iff : checkRulesBehind earlier rules = .error fault ↔
    ∃ before rule after, rules = before ++ rule :: after ∧
      checkRulesBehind earlier before = .ok () ∧ rule.FaultBehind (earlier ++ before) fault := by
  induction rules generalizing earlier with
  | nil => simp [checkRulesBehind]
  | cons first rules ih =>
    simp only [List.cons_eq_append_iff]
    cases hfirst : first.checkBehind earlier with
    | error cause =>
      -- the first rule is blamed, and no front that it stands in is accepted
      rw [checkRulesBehind_cons_of_error hfirst]
      constructor
      · intro h
        refine ⟨[], first, rules, .inl ⟨rfl, rfl⟩, rfl, ?_⟩
        rw [List.append_nil, ← Rule.checkBehind_eq_error_iff, hfirst, h]
      · rintro ⟨before, rule, after, ⟨rfl, h⟩ | ⟨before, rfl, -⟩, hbefore, hfault⟩
        · obtain ⟨rfl, rfl⟩ := List.cons.inj h
          rwa [List.append_nil, ← Rule.checkBehind_eq_error_iff, hfirst] at hfault
        · rw [checkRulesBehind_cons_of_error hfirst] at hbefore
          cases hbefore
    | ok =>
      -- the first rule moves to the front of each split
      rw [checkRulesBehind_cons_of_ok hfirst, ih]
      constructor
      · rintro ⟨before, rule, after, rfl, hbefore, hfault⟩
        refine ⟨first :: before, rule, after, .inr ⟨before, rfl, rfl⟩, ?_, ?_⟩
        · rwa [checkRulesBehind_cons_of_ok hfirst]
        · rwa [List.append_assoc] at hfault
      · rintro ⟨before, rule, after, ⟨rfl, h⟩ | ⟨before, rfl, h⟩, hbefore, hfault⟩
        · obtain ⟨rfl, rfl⟩ := List.cons.inj h
          rw [List.append_nil, ← Rule.checkBehind_eq_error_iff, hfirst] at hfault
          cases hfault
        · rw [checkRulesBehind_cons_of_ok hfirst] at hbefore
          refine ⟨before, rule, after, h, hbefore, ?_⟩
          rwa [List.append_assoc]

theorem rulesOfRecords_eq_error_iff : rulesOfRecords records = .error fault ↔
    ∃ before record after, records = before ++ record :: after ∧
      Loadable (before.map Record.toRule) ∧
      record.toRule.FaultBehind (before.map Record.toRule) fault := by
  have hcheck : rulesOfRecords records = .error fault ↔
      checkRulesBehind [] (records.map Record.toRule) = .error fault := by
    rw [rulesOfRecords]
    cases checkRulesBehind [] (records.map Record.toRule) with
    | ok => simp [bind, Except.bind, pure, Except.pure]
    | error cause => simp [bind, Except.bind]
  rw [hcheck, checkRulesBehind_eq_error_iff]
  constructor
  · rintro ⟨before, rule, after, hsplit, hbefore, hfault⟩
    obtain ⟨before, rest, rfl, rfl, hrest⟩ := List.map_eq_append_iff.mp hsplit
    obtain ⟨record, after, rfl, rfl, rfl⟩ := List.map_eq_cons_iff.mp hrest
    exact ⟨before, record, after, rfl, checkRulesBehind_nil_eq_ok_iff.mp hbefore, hfault⟩
  · rintro ⟨before, record, after, rfl, hbefore, hfault⟩
    exact ⟨_, _, _, List.map_append, checkRulesBehind_nil_eq_ok_iff.mpr hbefore, hfault⟩

/-! ## The file -/

theorem rulesOfRecords_eq_ok_iff_loadable : rulesOfRecords records = .ok rules ↔
    rules = records.map Record.toRule ∧ Loadable (records.map Record.toRule) := by
  rw [rulesOfRecords_eq_ok_iff, ← loadable_iff]
  exact and_congr_right fun heq => by rw [heq]

/-- The records of a file give their rules, one for each and in their order, if these are loadable,
and else the fault of the first record that has one behind those before it. Two records that are
loaded have different names if neither chooses the identifier of its role. -/
theorem records_load_or_are_blamed (records : List Record) :
    (∀ text, readRecords? text = some records → parseRuleFile text =
        (rulesOfRecords records).mapError fun fault => .store fault.message) ∧
      ((∃ rules, rulesOfRecords records = .ok rules) ↔ Loadable (records.map Record.toRule)) ∧
      (∀ rules, rulesOfRecords records = .ok rules →
        List.Forall₂ Record.Gives records rules ∧
        records.Pairwise fun a b => a.roleId = none → b.roleId = none → a.roleName ≠ b.roleName) ∧
      ∀ fault, rulesOfRecords records = .error fault ↔
        ∃ before record after, records = before ++ record :: after ∧
          Loadable (before.map Record.toRule) ∧
          record.toRule.FaultBehind (before.map Record.toRule) fault := by
  refine ⟨fun _ => parseRuleFile_eq, ?_, fun rules hok => ?_, fun fault => ?_⟩
  · simp only [rulesOfRecords_eq_ok_iff_loadable, exists_eq_left]
  · obtain ⟨rfl, hloadable⟩ := rulesOfRecords_eq_ok_iff_loadable.mp hok
    refine ⟨?_, roleNames_ne_of_omitted (loadable_iff.mp hloadable).1⟩
    rw [List.forall₂_map_right_iff]
    exact List.forall₂_same.mpr fun record _ => record.gives_toRule
  · exact rulesOfRecords_eq_error_iff

/-- The first record can be loaded alone. The second one chooses the identifier of its rule, but not
that of its role, and it is for this that it is blamed, not for its formula. -/
theorem records_load_or_are_blamed_namesake :
    let text := "rules:\n- role_name: Doors\n  formula: Door\n" ++
      "- role_name: Doors\n  id: 11111111-1111-1111-1111-111111111111\n  formula: (\n"
    let first : Record := ⟨none, none, "Doors", none, "Door"⟩
    let second : Record := ⟨some ⟨List.replicate 32 1, rfl⟩, none, "Doors", none, "("⟩
    (∃ rules, rulesOfRecords [first] = .ok rules ∧ List.Forall₂ Record.Gives [first] rules) ∧
      readRecords? text = some [first, second] ∧
      ¬ Loadable ([first, second].map Record.toRule) ∧
      parseRuleFile text = .error (.store "role 'Doors' has more than one rule") := by
  intro text first second
  have htext : readRecords? text = some [first, second] := by decide +kernel
  obtain ⟨-, hloads, hgives, -⟩ := records_load_or_are_blamed [first]
  obtain ⟨hfile, hboth, -, hblamed⟩ := records_load_or_are_blamed [first, second]
  have hfirst : Loadable [first.toRule] := by
    constructor
    · exact List.nodup_singleton _
    · exact List.nodup_singleton _
    · rw [List.forall_mem_singleton]
      decide +kernel
  have hfault : second.toRule.FaultBehind [first.toRule] (.repeatedRole "Doors") := by
    refine .repeatedRole ?_ ?_
    · decide +kernel
    · exact List.mem_singleton_self _
  have hrefused : rulesOfRecords [first, second] = .error (.repeatedRole "Doors") :=
    (hblamed _).mpr ⟨[first], second, [], rfl, hfirst, hfault⟩
  obtain ⟨rules, hrules⟩ := hloads.mpr hfirst
  refine ⟨⟨rules, hrules, (hgives rules hrules).1⟩, htext, ?_, ?_⟩
  · rw [← hboth, hrefused]
    exact nofun
  · rw [hfile text htext, hrefused]
    rfl

end NameRoles
