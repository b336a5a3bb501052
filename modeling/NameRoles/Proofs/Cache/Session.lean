import NameRoles.Cache.Session

/-!
# What a session comes to

`Session.Step` is one action with the sessions in front of it and behind it. `Step.Lawful` says what
a single step does to the cache and what it brings to light. `steps_agree` follows a new cache
through any number of actions and compares it with the record of the steps: it holds the rules that
were served to the last successful fetch since it was last emptied, and it has fetched as often as
there were steps that had to.
-/

namespace NameRoles

/-! ## Single operations -/

namespace Cache

variable {cache : Cache} {answer : Answer}

@[simp] theorem fetches_refresh : (cache.refresh answer).1.fetches = cache.fetches + 1 := by
  cases answer <;> rfl

@[simp] theorem timeToLive_refresh :
    (cache.refresh answer).1.timeToLive = cache.timeToLive := by
  cases answer <;> rfl

/-- A fetch that fails leaves in the slot what is there. -/
theorem slot_refresh : (cache.refresh answer).1.slot =
    match answer with
    | .ok rules => some ⟨cache.fetches + 1, .compile rules⟩
    | .error _ => cache.slot := by
  cases answer <;> rfl

/-- A cache has to fetch before it can serve if it is empty or nothing stays fresh in it. -/
def hasToFetch (cache : Cache) : Bool := cache.slot.isNone || cache.timeToLive = 0

theorem fresh?_eq_none_iff : cache.fresh? = none ↔ cache.hasToFetch = true := by
  unfold fresh? hasToFetch
  split <;> simp [*]

theorem slot_eq_of_fresh? {entry : Entry} (h : cache.fresh? = some entry) :
    cache.slot = some entry := by
  unfold fresh? at h
  split at h
  · contradiction
  · exact h

/-- A cache that is asked for its rule set fetches if it has to, and gives what is then there. -/
theorem ensure_eq (cache : Cache) (answer : Answer) : cache.ensure answer =
    let cache := if cache.hasToFetch then (cache.refresh answer).1 else cache
    (cache, cache.slot) := by
  unfold ensure
  split
  next entry hfresh =>
    have hnot : cache.hasToFetch = false := by
      rw [Bool.eq_false_iff, ne_eq, ← fresh?_eq_none_iff, hfresh]
      exact nofun
    simp [hnot, slot_eq_of_fresh? hfresh]
  next hstale => simp [fresh?_eq_none_iff.mp hstale]

theorem ensure_snd_eq (cache : Cache) (answer : Answer) :
    (cache.ensure answer).2 = (cache.ensure answer).1.slot := by
  rw [ensure_eq]

end Cache

namespace Session

/-! ## Steps -/

/-- An action with the sessions in front of it and behind it. -/
structure Step where
  before : Session
  action : Action
  after : Session
  report : Report

/-- The step that performs an action. -/
def act (s : Session) (action : Action) : Step :=
  ⟨s, action, (s.perform action).1, (s.perform action).2⟩

/-- The steps of a run. -/
def steps (s : Session) : List Action → List Step
  | [] => []
  | action :: actions => s.act action :: steps (s.perform action).1 actions

theorem run_eq_map_steps (s : Session) (actions : List Action) :
    s.run actions = (s.steps actions).map fun step => (step.after, step.report) := by
  induction actions generalizing s with
  | nil => rfl
  | cons action actions ih => exact congrArg _ (ih _)

/-- The cache is emptied. -/
def Action.isInvalidate : Action → Bool
  | .invalidate => true
  | _ => false

namespace Step

/-- A step fetches if it is a refresh, or asks a cache that has to fetch before it can serve. -/
def fetches (step : Step) : Bool :=
  match step.action with
  | .refresh => true
  | .classify _ | .classifyAll _ | .ensure => step.before.cache.hasToFetch
  | _ => false

/-- The rules that the source served to a fetch of the step. -/
def served? (step : Step) : Option (List TreeRule) :=
  if step.fetches then step.before.source.answer.toOption else none

/-- What the step brings to light, by the rule set that the cache holds behind it. -/
def Answers (step : Step) : Prop :=
  let held := step.after.cache.slot
  match step.action with
  | .classify name =>
    step.report = .role (held.bind fun entry => entry.snapshot.firstMatch? name)
  | .classifyAll names => step.report = .results (names.map fun name =>
      ⟨name, held.bind fun entry => entry.snapshot.firstMatch? name⟩)
  | .ensure | .snapshot => step.report = .entry held
  | .refresh => step.report = match step.before.source.fault with
    | some fault => .fault fault
    | none => .entry held
  | .invalidate | .fail _ | .serve _ => step.report = .nothing
  | .classifyTogether _ => True

/-- What a step does to the cache, and that it answers by what the cache then holds. -/
structure Lawful (step : Step) : Prop where
  timeToLive_eq : step.after.cache.timeToLive = step.before.cache.timeToLive
  fetches_eq : step.after.cache.fetches =
    step.before.cache.fetches + if step.fetches then 1 else 0
  slot_eq : step.after.cache.slot =
    if step.action.isInvalidate then none
    else match step.served? with
      | some rules => some ⟨step.after.cache.fetches, .compile rules⟩
      | none => step.before.cache.slot
  answers : step.Answers

end Step

variable {s : Session} {action : Action} {past : List Step} {step : Step}

theorem roleOf?_map (held : Option Entry) (name : String) :
    Snapshot.roleOf? (held.map (·.snapshot)) name =
      held.bind fun entry => entry.snapshot.firstMatch? name := by
  cases held <;> rfl

/-- A step that fetches does to the cache what a fetch does, whatever else it is for. -/
theorem lawful_of_refresh (hfetches : step.fetches = true)
    (hafter : step.after.cache = (step.before.cache.refresh step.before.source.answer).1)
    (hinvalidate : step.action.isInvalidate = false) (hanswers : step.Answers) : step.Lawful where
  timeToLive_eq := by simp [hafter]
  fetches_eq := by simp [hafter, hfetches]
  slot_eq := by
    rw [hafter, Cache.slot_refresh, Cache.fetches_refresh]
    simp only [Step.served?, hfetches, hinvalidate, if_true, Bool.false_eq_true, if_false]
    cases step.before.source.answer <;> rfl
  answers := hanswers

/-- A step that does not fetch leaves the cache as it is, but for an invalidation. -/
theorem lawful_of_not_fetches (hfetches : step.fetches = false)
    (hafter : step.after.cache = if step.action.isInvalidate then step.before.cache.invalidate
      else step.before.cache) (hanswers : step.Answers) : step.Lawful where
  timeToLive_eq := by rw [hafter]; split <;> rfl
  fetches_eq := by rw [hafter, hfetches]; split <;> rfl
  slot_eq := by
    rw [hafter]
    simp only [Step.served?, hfetches, Bool.false_eq_true, if_false]
    split <;> rfl
  answers := hanswers

/-- A step that asks for a rule set. -/
theorem lawful_of_ensure (hfetches : step.fetches = step.before.cache.hasToFetch)
    (hafter : step.after.cache = (step.before.cache.ensure step.before.source.answer).1)
    (hinvalidate : step.action.isInvalidate = false) (hanswers : step.Answers) : step.Lawful := by
  rw [Cache.ensure_eq] at hafter
  cases hhas : step.before.cache.hasToFetch with
  | true =>
    have hrefresh : step.after.cache = (step.before.cache.refresh step.before.source.answer).1 := by
      simpa [hhas] using hafter
    exact lawful_of_refresh (hfetches.trans hhas) hrefresh hinvalidate hanswers
  | false =>
    have hsame : step.after.cache = step.before.cache := by simpa [hhas] using hafter
    exact lawful_of_not_fetches (hfetches.trans hhas) (by simpa [hinvalidate] using hsame) hanswers

theorem lawful_act (h : ∀ names, action ≠ .classifyTogether names) : (s.act action).Lawful := by
  have hsnd := s.cache.ensure_snd_eq s.source.answer
  cases action with
  | classify name =>
    refine lawful_of_ensure rfl rfl rfl ?_
    show Report.role
      (Snapshot.roleOf? ((s.cache.ensure s.source.answer).2.map (·.snapshot)) name) = _
    rw [roleOf?_map, hsnd]
    rfl
  | classifyAll names =>
    refine lawful_of_ensure rfl rfl rfl ?_
    show Report.results
      (Snapshot.classifyAll ((s.cache.ensure s.source.answer).2.map (·.snapshot)) names) = _
    simp only [Snapshot.classifyAll, roleOf?_map, hsnd]
    rfl
  | classifyTogether names => exact absurd rfl (h names)
  | ensure => exact lawful_of_ensure rfl rfl rfl (congrArg Report.entry hsnd)
  | refresh =>
    obtain ⟨cache, rules, fault⟩ := s
    cases fault <;> exact lawful_of_refresh rfl rfl rfl rfl
  | snapshot | invalidate | fail | serve => exact lawful_of_not_fetches rfl rfl rfl

/-! ## Runs -/

/-- The rules that were served to the last successful fetch since the cache was last emptied. -/
def lastServed? (past : List Step) : Option (List TreeRule) :=
  (past.reverse.takeWhile fun step => !step.action.isInvalidate).findSome? Step.served?

@[simp] theorem lastServed?_concat (past : List Step) (step : Step) : lastServed? (past ++ [step]) =
    if step.action.isInvalidate then none else step.served?.or (lastServed? past) := by
  rw [lastServed?, List.reverse_append, List.reverse_singleton, List.singleton_append]
  cases h : step.action.isInvalidate with
  | true => simp [h]
  | false =>
    rw [List.takeWhile_cons_of_pos (by simp [h]), List.findSome?_cons]
    cases step.served? <;> rfl

/-- A cache is what the record of the steps so far makes it. -/
structure Agrees (timeToLive : Nat) (past : List Step) (cache : Cache) : Prop where
  timeToLive_eq : cache.timeToLive = timeToLive
  slot_eq : cache.slot.map (·.snapshot) = (lastServed? past).map .compile
  fetches_eq : cache.fetches = past.countP Step.fetches

theorem Agrees.concat {timeToLive : Nat} (h : Agrees timeToLive past step.before.cache)
    (hlawful : step.Lawful) : Agrees timeToLive (past ++ [step]) step.after.cache where
  timeToLive_eq := hlawful.timeToLive_eq.trans h.timeToLive_eq
  slot_eq := by
    rw [lastServed?_concat, hlawful.slot_eq]
    split
    · rfl
    · cases step.served? with
      | some rules => rfl
      | none => exact h.slot_eq
  fetches_eq := by
    rw [hlawful.fetches_eq, h.fetches_eq, List.countP_append, List.countP_singleton]

theorem agrees_of_steps {timeToLive : Nat} {actions : List Action} {before later : List Step}
    (h : Agrees timeToLive past s.cache)
    (hactions : ∀ names, Action.classifyTogether names ∉ actions)
    (hsteps : s.steps actions = before ++ step :: later) :
    Agrees timeToLive (past ++ before) step.before.cache ∧ step.Lawful := by
  induction actions generalizing s past before with
  | nil => simp [steps] at hsteps
  | cons action actions ih =>
    have hlawful : (s.act action).Lawful :=
      lawful_act fun names heq => hactions names (heq ▸ List.mem_cons_self)
    cases before with
    | nil =>
      obtain ⟨rfl, -⟩ := List.cons.inj hsteps
      exact ⟨by rwa [List.append_nil], hlawful⟩
    | cons first before =>
      obtain ⟨rfl, hrest⟩ := List.cons.inj hsteps
      rw [← List.singleton_append, ← List.append_assoc]
      exact ih (h.concat hlawful) (fun names hmem => hactions names (List.mem_cons_of_mem _ hmem))
        hrest

theorem Step.Lawful.slot_of_served (h : step.Lawful) {rules : List TreeRule}
    (hserved : step.served? = some rules) :
    step.after.cache.slot = some ⟨step.after.cache.fetches, .compile rules⟩ := by
  have hinvalidate : step.action.isInvalidate = false := by
    obtain ⟨before, action, after, report⟩ := step
    cases action <;> first | rfl | contradiction
  rw [h.slot_eq, hinvalidate, hserved]
  rfl

theorem Step.Lawful.slot_of_fault (h : step.Lawful) {fault : RuleError}
    (hfault : step.before.source.fault = some fault)
    (hinvalidate : step.action.isInvalidate = false) :
    step.after.cache.slot = step.before.cache.slot := by
  have hserved : step.served? = none := by simp [served?, Source.answer, hfault, Except.toOption]
  rw [h.slot_eq, hinvalidate, hserved]
  rfl

/-- Whatever happens to a new cache and its source, one action after the other: the cache holds the
rules that were served to the last successful fetch since it was last emptied, under the number of
that fetch; it has fetched once for each refresh and for each question that found it empty or
without anything fresh; while the source fails, nothing but an invalidation changes what is there;
and every action is answered by what the cache holds behind it, but for a refresh that fails and
reports the source's fault. -/
theorem steps_agree (timeToLive : Nat) (source : Source) (actions : List Action)
    (hactions : ∀ names, Action.classifyTogether names ∉ actions) :
    let s : Session := ⟨.withTimeToLive timeToLive, source⟩
    s.run actions = (s.steps actions).map (fun step => (step.after, step.report)) ∧
    ∀ past step later, s.steps actions = past ++ step :: later →
      step.before.cache.timeToLive = timeToLive ∧
      step.after.cache.slot.map (·.snapshot) = (lastServed? (past ++ [step])).map .compile ∧
      (∀ rules, step.served? = some rules →
        step.after.cache.slot = some ⟨step.after.cache.fetches, .compile rules⟩) ∧
      step.after.cache.fetches = (past ++ [step]).countP Step.fetches ∧
      (∀ fault, step.before.source.fault = some fault → step.action.isInvalidate = false →
        step.after.cache.slot = step.before.cache.slot) ∧
      step.Answers := by
  intro s
  refine ⟨run_eq_map_steps s actions, fun past step later hsteps => ?_⟩
  have hnew : Agrees timeToLive [] s.cache := ⟨rfl, rfl, rfl⟩
  obtain ⟨hbefore, hlawful⟩ := agrees_of_steps hnew hactions hsteps
  have hafter := hbefore.concat hlawful
  exact ⟨hbefore.timeToLive_eq, hafter.slot_eq, fun rules => hlawful.slot_of_served,
    hafter.fetches_eq, fun fault => hlawful.slot_of_fault, hlawful.answers⟩

/-- The source fails from the second action on: a refresh reports it and leaves the first rule set
in place; once that is dropped, a question finds nothing. -/
theorem steps_agree_failing :
    let actions : List Action :=
      [.ensure, .fail (some (.store "down")), .refresh, .invalidate, .classify "Door"]
    (∀ names, Action.classifyTogether names ∉ actions) ∧
      ∃ ensure fail refresh invalidate classify,
        Session.steps ⟨.withTimeToLive 1800, { rules := [] }⟩ actions =
          [ensure, fail, refresh, invalidate, classify] ∧
        refresh.after.cache.slot = ensure.after.cache.slot ∧
        refresh.report = .fault (.store "down") ∧ classify.report = .role none ∧
        classify.after.cache.fetches = 3 := by
  intro actions
  have hactions : ∀ names, Action.classifyTogether names ∉ actions := by simp [actions]
  have hagree := (steps_agree 1800 { rules := [] } actions hactions).2
  have hrefresh := hagree [_, _] _ [_, _] rfl
  have hclassify := hagree [_, _, _, _] _ [] rfl
  exact ⟨hactions, _, _, _, _, _, rfl, hrefresh.2.2.2.2.1 _ rfl rfl, hrefresh.2.2.2.2.2,
    hclassify.2.2.2.2.2, hclassify.2.2.2.1⟩

end Session

end NameRoles
