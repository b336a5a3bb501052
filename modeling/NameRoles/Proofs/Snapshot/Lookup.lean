import NameRoles.Proofs.Snapshot

/-!
# Looking up the rules of a snapshot

A snapshot is asked in two ways: for the first rule that holds of a name, and for the rule of a
role. As no two of its rules have one role, the second question finds again what the first one has
found (`IsFirstMatch.ruleFor?_eq`). What a snapshot keeps is `firstOfRoles`, and rules of the same
roles behind the others leave it as it is. `snapshot_answers_alike` puts this together.
-/

namespace NameRoles

open Text

/-- The rules whose role no rule in front of them has. -/
def firstOfRoles (trees : List TreeRule) : List TreeRule :=
  (trees.zipIdx.filter fun item =>
    item.1.roleName ∉ (trees.take item.2).map (·.roleName)).map (·.1)

namespace Snapshot

/-- The rule at place `i` holds of the name, and none in front of it does. -/
structure IsFirstMatch (snapshot : Snapshot) (name : String) (i : Nat) (rule : CompiledRule) :
    Prop where
  atPlace : snapshot.rules[i]? = some rule
  holds : rule.condition.matchesName name = true
  isFirst : ∀ earlier ∈ snapshot.rules.take i, earlier.condition.matchesName name = false

variable {snapshot : Snapshot} {trees more : List TreeRule} {tree : TreeRule} {rule : CompiledRule}
  {name role : String} {i : Nat}

/-! ## What is kept -/

theorem firstOfRoles_concat (trees : List TreeRule) (tree : TreeRule) :
    firstOfRoles (trees ++ [tree]) =
      if tree.roleName ∈ trees.map (·.roleName) then firstOfRoles trees
      else firstOfRoles trees ++ [tree] := by
  -- the places in front of the last one have the same rules in front of them as before
  have hfront : ∀ item ∈ trees.zipIdx, (trees ++ [tree]).take item.2 = trees.take item.2 := by
    intro item hitem
    have hlt := List.snd_lt_add_of_mem_zipIdx hitem
    exact List.take_append_of_le_length (by omega)
  have hkept : (trees.zipIdx.filter fun item =>
      item.1.roleName ∉ ((trees ++ [tree]).take item.2).map (·.roleName)) =
      trees.zipIdx.filter fun item => item.1.roleName ∉ (trees.take item.2).map (·.roleName) := by
    refine List.filter_congr fun item hitem => ?_
    rw [hfront item hitem]
  rw [firstOfRoles, List.zipIdx_append, List.filter_append, hkept, List.map_append, ← firstOfRoles]
  split <;> simp_all

theorem rules_compile (trees : List TreeRule) :
    (compile trees).rules = (firstOfRoles trees).map TreeRule.compile := by
  induction trees using List.reverseRecOn with
  | nil => rfl
  | append_singleton trees tree ih =>
    rw [firstOfRoles_concat]
    split
    next hmem => rw [compile_concat_of_mem hmem, ih]
    next hnew => rw [compile_concat_of_notMem hnew, ih, List.map_append, List.map_singleton]

/-- Rules of roles that are there already make no difference. -/
theorem compile_append_of_mem (h : ∀ tree ∈ more, tree.roleName ∈ trees.map (·.roleName)) :
    compile (trees ++ more) = compile trees := by
  induction more using List.reverseRecOn with
  | nil => rw [List.append_nil]
  | append_singleton more last ih =>
    obtain ⟨hmore, hlast⟩ := List.forall_mem_append.mp h
    have hmem : last.roleName ∈ (trees ++ more).map (·.roleName) := by
      rw [List.map_append]
      exact List.mem_append_left _ (hlast last (List.mem_singleton_self last))
    rw [← List.append_assoc, ← ih hmore, Snapshot.mk.injEq]
    exact compile_concat_of_mem hmem

/-! ## What is found -/

theorem firstMatch?_eq_some_iff : snapshot.firstMatch? name = some role ↔
    ∃ i rule, snapshot.IsFirstMatch name i rule ∧ rule.roleName = role := by
  rw [firstMatch?_eq, Option.map_eq_some_iff]
  constructor
  · rintro ⟨rule, hfind, hrole⟩
    obtain ⟨hholds, i, hi, hat, hfirst⟩ := List.find?_eq_some_iff_getElem.mp hfind
    refine ⟨i, rule, ⟨List.getElem?_eq_some_iff.mpr ⟨hi, hat⟩, hholds, ?_⟩, hrole⟩
    intro earlier hmem
    obtain ⟨j, hj, rfl⟩ := List.mem_take_iff_getElem.mp hmem
    simpa using hfirst j (by omega)
  · rintro ⟨i, rule, ⟨hat, hholds, hfirst⟩, hrole⟩
    obtain ⟨hi, hat⟩ := List.getElem?_eq_some_iff.mp hat
    refine ⟨rule, List.find?_eq_some_iff_getElem.mpr ⟨hholds, i, hi, hat, ?_⟩, hrole⟩
    intro j hj
    simpa using hfirst _ (List.mem_take_iff_getElem.mpr ⟨j, by omega, rfl⟩)

theorem firstMatch?_eq_none_iff : snapshot.firstMatch? name = none ↔
    ∀ rule ∈ snapshot.rules, rule.condition.matchesName name = false := by
  simp [firstMatch?_eq]

/-- Where no role has two rules, a role leads to each rule that has it. -/
theorem ruleFor?_eq_some_iff (h : snapshot.roleNames.Nodup) :
    snapshot.ruleFor? role = some rule ↔ rule ∈ snapshot.rules ∧ rule.roleName = role := by
  constructor
  · intro hfind
    exact ⟨List.mem_of_find?_eq_some hfind, by simpa using List.find?_some hfind⟩
  · rintro ⟨hmem, rfl⟩
    cases hfind : snapshot.ruleFor? rule.roleName with
    | none => simpa using List.find?_eq_none.mp hfind rule hmem
    | some found =>
      have hfound : found ∈ snapshot.rules := List.mem_of_find?_eq_some hfind
      have hrole : found.roleName = rule.roleName := by simpa using List.find?_some hfind
      rw [List.inj_on_of_nodup_map h hfound hmem hrole]

theorem IsFirstMatch.ruleFor?_eq (h : snapshot.IsFirstMatch name i rule)
    (hroles : snapshot.roleNames.Nodup) : snapshot.ruleFor? rule.roleName = some rule :=
  (ruleFor?_eq_some_iff hroles).mpr ⟨List.mem_of_getElem? h.atPlace, rfl⟩

/-! ## The snapshot of a list -/

/-- A snapshot keeps the first rule of each role. A name gets the role of the first of these that
holds of it, and by this role the same rule is found; it gets none if none of them holds of it. More
rules of the same roles do not change the snapshot. -/
theorem snapshot_answers_alike (trees : List TreeRule) :
    let snapshot := compile trees
    snapshot.rules = (firstOfRoles trees).map TreeRule.compile ∧
      snapshot.roleNames.Nodup ∧
      (∀ role, role ∈ snapshot.roleNames ↔ role ∈ trees.map (·.roleName)) ∧
      (∀ name role, snapshot.firstMatch? name = some role ↔
        ∃ i rule, snapshot.IsFirstMatch name i rule ∧ rule.roleName = role) ∧
      (∀ name i rule, snapshot.IsFirstMatch name i rule →
        snapshot.ruleFor? rule.roleName = some rule) ∧
      (∀ name, snapshot.firstMatch? name = none ↔
        ∀ rule ∈ snapshot.rules, rule.condition.matchesName name = false) ∧
      ∀ more : List TreeRule, (∀ tree ∈ more, tree.roleName ∈ trees.map (·.roleName)) →
        compile (trees ++ more) = snapshot := by
  intro snapshot
  have hroles : snapshot.roleNames.Nodup := nodup_roleNames_compile trees
  refine ⟨rules_compile trees, hroles, fun role => mem_roleNames_compile, fun name role => ?_,
    fun name i rule h => h.ruleFor?_eq hroles, fun name => ?_, fun more => compile_append_of_mem⟩
  · exact firstMatch?_eq_some_iff
  · exact firstMatch?_eq_none_iff

/-- The second rule of `Doors` is not kept, so that a gate has no role although a rule in the list
holds of it, and a third one is not kept either. -/
theorem snapshot_answers_alike_beside_namesake :
    let leaf := fun role text => (⟨role, .leaf .contains text⟩ : TreeRule)
    let trees := [leaf "Doors" "Door", leaf "Doors" "Gate", leaf "Openings" "o"]
    (compile trees).firstMatch? "Gate" = none ∧
      (compile trees).firstMatch? "Window" = some "Openings" ∧
      (compile trees).ruleFor? "Openings" = some (leaf "Openings" "o").compile ∧
      compile (trees ++ [leaf "Doors" "Window"]) = compile trees := by
  intro leaf trees
  obtain ⟨-, -, -, hsome, hrule, hnone, hmore⟩ := snapshot_answers_alike trees
  have hwindow : (compile trees).IsFirstMatch "Window" 1 (leaf "Openings" "o").compile :=
    ⟨rfl, by decide +kernel, by decide +kernel⟩
  refine ⟨(hnone _).mpr ?_, (hsome _ _).mpr ⟨1, _, hwindow, rfl⟩, hrule _ _ _ hwindow, hmore _ ?_⟩
  · decide +kernel
  · decide +kernel

end Snapshot

end NameRoles
