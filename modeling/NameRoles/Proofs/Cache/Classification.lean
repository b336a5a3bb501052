import NameRoles.Cache.Session
import NameRoles.Proofs.Snapshot
import NameRoles.Rule.Store

/-!
# Names classified from formulas

`IsRoleOf` says which role a list of rules gives to a name, in terms of the formulas alone. A
classifier over a store of the rules gives this role, although it sees the rules as trees, drops
those with an ill-formed formula and keeps one rule for each role.
-/

namespace NameRoles

/-- The rule at place `i` may give its role to a name: its formula is valid and holds of the name,
and no rule with a valid formula has the same role and stands in front of it. -/
structure StandsFor (rules : List Rule) (name : String) (i : Nat) (rule : Rule) : Prop where
  atPlace : rules[i]? = some rule
  isValid : Formula.isValid rule.formula = true
  holds : Formula.evaluate rule.formula name = true
  isFirst : ∀ j < i, ∀ other, rules[j]? = some other → Formula.isValid other.formula = true →
    other.roleName ≠ rule.roleName

/-- What the rules give to a name is the role of the first rule that may give its own. -/
def IsRoleOf (rules : List Rule) (name : String) : Option String → Prop
  | some role => ∃ i rule, StandsFor rules name i rule ∧ rule.roleName = role ∧
      ∀ j < i, ∀ other, ¬ StandsFor rules name j other
  | none => ∀ i rule, ¬ StandsFor rules name i rule

variable {rules : List Rule} {rule : Rule} {name : String}

/-! ## One more rule -/

theorem mem_validRoles {role : String} : role ∈ validRoles rules ↔
    ∃ (i : Nat) (other : Rule), rules[i]? = some other ∧ Formula.isValid other.formula = true ∧
      other.roleName = role := by
  simp only [validRoles, List.mem_map, List.mem_filter]
  constructor
  · rintro ⟨other, ⟨hmem, hvalid⟩, hrole⟩
    obtain ⟨i, hat⟩ := List.mem_iff_getElem?.mp hmem
    exact ⟨i, other, hat, hvalid, hrole⟩
  · rintro ⟨i, other, hat, hvalid, hrole⟩
    exact ⟨other, ⟨List.mem_of_getElem? hat, hvalid⟩, hrole⟩

theorem StandsFor.lt_length {i : Nat} (h : StandsFor rules name i rule) : i < rules.length :=
  (List.getElem?_eq_some_iff.mp h.atPlace).1

/-- Rules behind the place make no difference. -/
theorem standsFor_concat_iff {last : Rule} {i : Nat} : StandsFor (rules ++ [last]) name i rule ↔
    StandsFor rules name i rule ∨
      i = rules.length ∧ rule = last ∧ Formula.isValid last.formula = true ∧
        Formula.evaluate last.formula name = true ∧ last.roleName ∉ validRoles rules := by
  have hold {j : Nat} (hj : j < rules.length) : (rules ++ [last])[j]? = rules[j]? :=
    List.getElem?_append_left hj
  constructor
  · rintro ⟨hat, hvalid, hholds, hfirst⟩
    by_cases hi : i < rules.length
    · exact .inl ⟨hold hi ▸ hat, hvalid, hholds, fun j hj other ho =>
        hfirst j hj other ((hold (hj.trans hi)).trans ho)⟩
    · obtain ⟨rfl, rfl⟩ : i = rules.length ∧ rule = last := by grind
      refine .inr ⟨rfl, rfl, hvalid, hholds, fun hmem => ?_⟩
      obtain ⟨j, other, hat', hvalid', hrole⟩ := mem_validRoles.mp hmem
      have hj : j < rules.length := (List.getElem?_eq_some_iff.mp hat').1
      exact hfirst j hj other ((hold hj).trans hat') hvalid' hrole
  · rintro (h | ⟨rfl, rfl, hvalid, hholds, hnew⟩)
    · exact ⟨(hold h.lt_length).trans h.atPlace, h.isValid, h.holds, fun j hj other ho =>
        h.isFirst j hj other (hold (hj.trans h.lt_length) ▸ ho)⟩
    · refine ⟨by simp, hvalid, hholds, fun j hj other ho hvalid' hrole => hnew ?_⟩
      exact mem_validRoles.mpr ⟨j, other, hold hj ▸ ho, hvalid', hrole⟩

/-- Only a name without a role may get one from a rule behind the others. -/
theorem IsRoleOf.concat {role : Option String} (h : IsRoleOf rules name role) (last : Rule) :
    IsRoleOf (rules ++ [last]) name (role.or
      (if Formula.isValid last.formula ∧ Formula.evaluate last.formula name ∧
          last.roleName ∉ validRoles rules then some last.roleName else none)) := by
  match role with
  | some role =>
    obtain ⟨i, rule, hrule, hrole, hfirst⟩ := h
    refine ⟨i, rule, standsFor_concat_iff.mpr (.inl hrule), hrole, fun j hj other ho => ?_⟩
    rcases standsFor_concat_iff.mp ho with ho | ⟨rfl, -⟩
    · exact hfirst j hj other ho
    · exact Nat.lt_asymm hj hrule.lt_length
  | none =>
    rw [Option.none_or]
    split
    next hlast =>
      refine ⟨rules.length, last, standsFor_concat_iff.mpr (.inr ⟨rfl, rfl, hlast⟩), rfl,
        fun j hj other ho => ?_⟩
      rcases standsFor_concat_iff.mp ho with ho | ⟨rfl, -⟩
      · exact h j other ho
      · exact Nat.lt_irrefl _ hj
    next hlast =>
      intro i rule hrule
      rcases standsFor_concat_iff.mp hrule with hrule | ⟨-, -, hlast'⟩
      · exact h i rule hrule
      · exact hlast hlast'

/-! ## The snapshot of formulas -/

theorem deriveTrees_concat_of_valid (rules : List Rule) (h : Formula.isValid rule.formula = true) :
    ∃ tree, tree.Represents rule ∧ deriveTrees (rules ++ [rule]) = deriveTrees rules ++ [tree] := by
  obtain ⟨tree, ht, hrep⟩ := Rule.exists_toTree h
  refine ⟨tree, hrep, ?_⟩
  rw [deriveTrees, List.filterMap_append, ← deriveTrees, ← deriveTrees, deriveTrees_cons_of_ok ht]
  rfl

theorem deriveTrees_concat_of_invalid (rules : List Rule)
    (h : Formula.isValid rule.formula = false) :
    deriveTrees (rules ++ [rule]) = deriveTrees rules := by
  obtain ⟨error, he⟩ := Rule.toTree_eq_error h
  rw [deriveTrees, List.filterMap_append, ← deriveTrees, ← deriveTrees,
    deriveTrees_cons_of_error he]
  exact List.append_nil _

/-- The snapshot of the served trees gives the roles that the formulas give. -/
theorem isRoleOf_firstMatch? (rules : List Rule) (name : String) :
    IsRoleOf rules name ((Snapshot.compile (deriveTrees rules)).firstMatch? name) := by
  induction rules using List.reverseRecOn with
  | nil => exact fun i rule h => by simpa using h.atPlace
  | append_singleton rules last ih =>
    have hnext := ih.concat last
    by_cases hvalid : Formula.isValid last.formula = true
    · obtain ⟨tree, hrep, htrees⟩ := deriveTrees_concat_of_valid rules hvalid
      have hmem : tree.roleName ∈ (deriveTrees rules).map (·.roleName) ↔
          last.roleName ∈ validRoles rules := by rw [roleNames_deriveTrees, hrep.roleName_eq]
      rw [htrees]
      by_cases hnew : last.roleName ∈ validRoles rules
      · rw [Snapshot.firstMatch?_compile_concat_of_mem (hmem.mpr hnew)]
        simpa [hnew] using hnext
      · rw [Snapshot.firstMatch?_compile_concat_of_notMem (mt hmem.mp hnew), hrep.matchesName_eq,
          hrep.roleName_eq]
        simpa [hnew, hvalid] using hnext
    · rw [deriveTrees_concat_of_invalid rules (by simpa using hvalid)]
      simpa [hvalid] using hnext

/-! ## Classifiers over a store -/

/-- The source that serves what a store lists as trees. -/
def Source.ofStore (store : RuleStore) : Source :=
  match store.listTrees with
  | .ok rules => { rules }
  | .error fault => { rules := [], fault := some fault }

@[simp] theorem Source.answer_ofStore (store : RuleStore) :
    (Source.ofStore store).answer = store.listTrees := by
  rw [ofStore]
  cases store.listTrees <;> rfl

namespace Session

/-- An empty cache over a store. -/
def fresh (timeToLive : Nat) (store : RuleStore) : Session :=
  ⟨.withTimeToLive timeToLive, .ofStore store⟩

/-- The source serves the given rules, and the cache has none but these. -/
structure Serves (s : Session) (trees : List TreeRule) : Prop where
  answer_eq : s.source.answer = .ok trees
  snapshot_eq : ∀ entry ∈ s.cache.slot, entry.snapshot = Snapshot.compile trees

variable {s : Session} {trees : List TreeRule}

theorem fresh_serves {timeToLive : Nat} {store : RuleStore} (h : store.listTrees = .ok trees) :
    (fresh timeToLive store).Serves trees where
  answer_eq := (Source.answer_ofStore store).trans h
  snapshot_eq _ he := by simp [fresh, Cache.withTimeToLive] at he

/-- Whatever was in the cache, it is asked for a rule set and has that of the source. -/
theorem Serves.ensure (h : s.Serves trees) :
    ∃ entry, (s.cache.ensure s.source.answer).2 = some entry ∧
      (s.cache.ensure s.source.answer).1.slot = some entry ∧
      entry.snapshot = Snapshot.compile trees := by
  unfold Cache.ensure
  split
  next entry hfresh =>
    have hslot : s.cache.slot = some entry := by
      unfold Cache.fresh? at hfresh
      split at hfresh
      · contradiction
      · exact hfresh
    exact ⟨entry, rfl, hslot, h.snapshot_eq entry hslot⟩
  next => exact ⟨_, by rw [h.answer_eq]; rfl, by rw [h.answer_eq]; rfl, rfl⟩

/-- A question leaves the source and its rules in place. -/
theorem Serves.of_ensure (h : s.Serves trees) :
    Serves { s with cache := (s.cache.ensure s.source.answer).1 } trees where
  answer_eq := h.answer_eq
  snapshot_eq entry he := by
    obtain ⟨entry', -, hslot, hsnapshot⟩ := h.ensure
    obtain rfl : entry' = entry := Option.some.inj (hslot.symm.trans he)
    exact hsnapshot

theorem Serves.classify (h : s.Serves trees) (name : String) :
    (s.cache.classify s.source.answer name).2 = (Snapshot.compile trees).firstMatch? name := by
  obtain ⟨entry, hentry, -, hsnapshot⟩ := h.ensure
  simp [Cache.classify, hentry, Snapshot.roleOf?, hsnapshot]

theorem Serves.classifyAll (h : s.Serves trees) (names : List String) :
    (s.cache.classifyAll s.source.answer names).2 =
      names.map fun name => ⟨name, (Snapshot.compile trees).firstMatch? name⟩ := by
  obtain ⟨entry, hentry, -, hsnapshot⟩ := h.ensure
  simp [Cache.classifyAll, hentry, Snapshot.classifyAll, Snapshot.roleOf?, hsnapshot]

theorem Serves.run_classify (h : s.Serves trees) (names : List String) :
    List.Forall₂ (fun name after => after.2 = .role ((Snapshot.compile trees).firstMatch? name))
      names (s.run (names.map .classify)) := by
  induction names generalizing s with
  | nil => exact .nil
  | cons name names ih => exact .cons (congrArg Report.role (h.classify name)) (ih h.of_ensure)

/-- A new classifier over the rules in a memory gives each name, asked one after the other, the
role that the formulas give it. Asked for all at once, it gives each of them the same role. -/
theorem fresh_gives_role_of_formulas (timeToLive : Nat) (rules : List Rule)
    (names : List String) :
    let s := fresh timeToLive (.memory rules)
    List.Forall₂ (fun name after => ∃ role, after.2 = .role role ∧ IsRoleOf rules name role)
        names (s.run (names.map .classify)) ∧
      (s.perform (.classifyAll names)).2 = .results (names.map fun name =>
        ⟨name, (s.cache.classify s.source.answer name).2⟩) := by
  have h : (fresh timeToLive (.memory rules)).Serves (deriveTrees rules) := fresh_serves rfl
  constructor
  · exact (h.run_classify names).imp fun name after hrole =>
      ⟨_, hrole, isRoleOf_firstMatch? rules name⟩
  · simp only [perform, h.classifyAll, h.classify]

end Session

end NameRoles
