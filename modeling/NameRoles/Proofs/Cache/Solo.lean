import NameRoles.Proofs.Cache.Callers

/-!
# A caller that is alone

A cache is described twice: by the operations of one caller (`Cache`), and by the steps of many
callers (`Shared`). Where a caller takes all its steps while the others stand still, the two agree:
it leaves with what the operation gives, and leaves behind the cache that the operation does
(`Shared.reaches_attend`). So callers that come one after the other are served as operations are
that are called one after the other (`Shared.run_oneByOne`).
-/

namespace NameRoles

namespace Cache

/-- What an errand comes to for one caller: the cache behind it, and what the caller leaves with. -/
def attend (cache : Cache) (answer : Answer) : Errand → Cache × Outcome
  | .ensure => ((cache.ensure answer).1, .ok (cache.ensure answer).2)
  | .refresh => ((cache.refresh answer).1, (cache.refresh answer).2.map some)
  | .invalidate => (cache.invalidate, .ok none)
  | .snapshot => (cache, .ok cache.slot)

/-- What errands come to, one after the other. -/
def attendAll (cache : Cache) (answer : Answer) : List Errand → Cache × List Outcome
  | [] => (cache, [])
  | errand :: errands =>
    let (next, outcome) := cache.attend answer errand
    let (last, outcomes) := next.attendAll answer errands
    (last, outcome :: outcomes)

/-- What the steps of callers meet outside the cache. -/
def moment (cache : Cache) (answer : Answer) : Moment := ⟨decide (cache.timeToLive = 0), answer⟩

@[simp] theorem timeToLive_attend (cache : Cache) (answer : Answer) (errand : Errand) :
    (cache.attend answer errand).1.timeToLive = cache.timeToLive := by
  cases errand with
  | ensure =>
    simp only [attend, ensure]
    cases cache.fresh? <;> cases answer <;> rfl
  | refresh => cases answer <;> rfl
  | invalidate | snapshot => rfl

@[simp] theorem moment_attend (cache : Cache) (answer : Answer) (errand : Errand) :
    (cache.attend answer errand).1.moment answer = cache.moment answer := by
  simp [moment]

end Cache

namespace Shared

variable {cache : Cache} {answer : Answer} {errand : Errand} {stage stage' : Stage}
  {s t u : Shared} {now : Moment} {i m n : Nat} {event : Event} {before behind : List Caller}
  {gate : Option Nat}

/-! ## Steps of one caller -/

/-- By `n` steps of caller `i` one state turns into another. -/
def Reaches (now : Moment) (i n : Nat) (s t : Shared) : Prop :=
  ∀ order, s.run now (List.replicate n i ++ order) = t.run now order

theorem Reaches.trans (h : Reaches now i m s t) (h' : Reaches now i n t u) :
    Reaches now i (m + n) s u := by
  intro order
  rw [List.replicate_add, List.append_assoc, h, h']

/-- The cache as callers share it, one of whom is looked at. -/
def amid (before behind : List Caller) (cache : Cache) (gate : Option Nat) (caller : Caller) :
    Shared where
  slot := cache.slot
  fetches := cache.fetches
  gate := gate
  callers := before ++ caller :: behind

theorem reaches_of_next (h : Next (amid before behind cache gate ⟨errand, stage⟩) now errand stage
      stage' event) :
    Reaches now before.length 1 (amid before behind cache gate ⟨errand, stage⟩)
      (amid before behind
        { cache with
          slot := event.slotAfter cache.slot
          fetches := event.fetchesAfter cache.fetches }
        (event.gateAfter before.length gate) ⟨errand, stage'⟩) := by
  intro order
  have hcaller : (amid before behind cache gate ⟨errand, stage⟩).callers[before.length]? =
      some ⟨errand, stage⟩ := by
    simp [amid]
  have hafter : (amid before behind cache gate ⟨errand, stage⟩).after before.length
      ⟨errand, stage⟩ stage' event = amid before behind
        { cache with
          slot := event.slotAfter cache.slot
          fetches := event.fetchesAfter cache.fetches }
        (event.gateAfter before.length gate) ⟨errand, stage'⟩ := by
    simp [amid, after]
  rw [List.replicate_one, List.singleton_append, run, step, hcaller, Option.bind_some,
    stepAt_of_next h, hafter]

theorem reaches_done {outcome : Outcome} (n : Nat) :
    Reaches now before.length n (amid before behind cache gate ⟨errand, .done outcome⟩)
      (amid before behind cache gate ⟨errand, .done outcome⟩) := by
  intro order
  induction n with
  | zero => rfl
  | succ n ih =>
    have hstep : (amid before behind cache gate ⟨errand, .done outcome⟩).step now before.length =
        none := by
      simp [step, amid, stepAt]
    rw [List.replicate_succ, List.cons_append, run, hstep, ih]

@[simp] theorem fresh?_amid {caller : Caller} :
    (amid before behind cache gate caller).fresh? (cache.moment answer) = cache.fresh? := by
  simp [fresh?, amid, Cache.moment, Cache.fresh?]

/-- A caller that finds nothing fresh may fetch, since nobody has fetched meanwhile. -/
theorem reaches_cleared (h : cache.fresh? = none) :
    Reaches (cache.moment answer) before.length 5
      (amid before behind cache none ⟨.ensure, .arrived⟩)
      (amid before behind cache (some before.length) ⟨.ensure, .cleared⟩) := by
  have hwaiting : Reaches (cache.moment answer) before.length 2
      (amid before behind cache none ⟨.ensure, .arrived⟩)
      (amid before behind cache none ⟨.ensure, .waiting (some cache.fetches)⟩) :=
    (reaches_of_next (.findStale (fresh?_amid.trans h))).trans (reaches_of_next .count)
  have hstale : Reaches (cache.moment answer) before.length 2
      (amid before behind cache none ⟨.ensure, .waiting (some cache.fetches)⟩)
      (amid before behind cache (some before.length)
        ⟨.ensure, .foundStaleAgain cache.fetches⟩) :=
    (reaches_of_next (.enter rfl)).trans
      (reaches_of_next (.findStaleAgain (fresh?_amid.trans h)))
  exact (hwaiting.trans hstale).trans (reaches_of_next .clear)

/-- A caller that may fetch leaves with what the fetch brings. If it fails, only a refresh tells
so, and others leave with what is in the slot. -/
theorem reaches_fetched (hstage : stage = .cleared ∨ stage = .entered none) :
    let next := (cache.refresh answer).1
    let outcome := if errand = .refresh then (cache.refresh answer).2.map some else .ok next.slot
    Reaches (cache.moment answer) before.length 4
      (amid before behind cache (some before.length) ⟨errand, stage⟩)
      (amid before behind next none ⟨errand, .done outcome⟩) := by
  intro next outcome
  have hstart : Reaches (cache.moment answer) before.length 1
      (amid before behind cache (some before.length) ⟨errand, stage⟩)
      (amid before behind cache (some before.length) ⟨errand, .fetching⟩) := by
    obtain rfl | rfl := hstage
    · exact reaches_of_next .start
    · exact reaches_of_next .startAtOnce
  have hfetched := hstart.trans (reaches_of_next .finish)
  cases answer with
  | ok rules =>
    have houtcome : outcome = .ok next.slot := ite_self _
    rw [houtcome]
    exact (hfetched.trans (reaches_of_next .install)).trans (reaches_of_next .leave)
  | error fault =>
    by_cases herrand : errand = .refresh
    · subst herrand
      exact (hfetched.trans (reaches_of_next .fail)).trans (reaches_done 1)
    · have houtcome : outcome = .ok next.slot := if_neg herrand
      rw [houtcome]
      exact (hfetched.trans (reaches_of_next (.keep herrand))).trans (reaches_of_next .leave)

/-- A caller that takes its steps alone is served as by the operation that it has come for. Nine
steps are the most that it takes. -/
theorem reaches_attend (before behind : List Caller) (cache : Cache) (answer : Answer)
    (errand : Errand) :
    Reaches (cache.moment answer) before.length 9
      (amid before behind cache none ⟨errand, .arrived⟩)
      (amid before behind (cache.attend answer errand).1 none
        ⟨errand, .done (cache.attend answer errand).2⟩) := by
  cases errand with
  | ensure =>
    cases hfresh : cache.fresh? with
    | some entry =>
      have hattend : cache.attend answer .ensure = (cache, .ok (some entry)) := by
        simp [Cache.attend, Cache.ensure, hfresh]
      rw [hattend]
      exact (reaches_of_next (.findFresh (fresh?_amid.trans hfresh))).trans (reaches_done 8)
    | none =>
      have hattend : cache.attend answer .ensure =
          ((cache.refresh answer).1, .ok (cache.refresh answer).1.slot) := by
        simp [Cache.attend, Cache.ensure, hfresh]
      rw [hattend]
      exact (reaches_cleared hfresh).trans (reaches_fetched (.inl rfl))
  | refresh =>
    have hentered : Reaches (cache.moment answer) before.length 1
        (amid before behind cache none ⟨.refresh, .arrived⟩)
        (amid before behind cache (some before.length) ⟨.refresh, .entered none⟩) :=
      reaches_of_next (.enterAtOnce rfl)
    exact (hentered.trans (reaches_fetched (.inr rfl))).trans (reaches_done 4)
  | invalidate => exact (reaches_of_next .drop).trans (reaches_done 8)
  | snapshot => exact (reaches_of_next .look).trans (reaches_done 8)

/-! ## Callers one after the other -/

/-- The order in which each of the callers takes all its steps before the next one arrives, the
first `done` of them having left. -/
def oneByOne (done count : Nat) : List Nat :=
  (List.range' done count).flatMap (List.replicate 9)

/-- The callers that have left, each with its outcome. -/
def departed (errands : List Errand) (outcomes : List Outcome) : List Caller :=
  List.zipWith (fun errand outcome => ⟨errand, .done outcome⟩) errands outcomes

theorem run_oneByOne_behind (before : List Caller) (cache : Cache) (answer : Answer)
    (errands : List Errand) :
    let (last, outcomes) := cache.attendAll answer errands
    (mk cache.slot cache.fetches none
      (before ++ errands.map fun errand => Caller.mk errand .arrived)).run (cache.moment answer)
        (oneByOne before.length errands.length) =
      mk last.slot last.fetches none (before ++ departed errands outcomes) := by
  induction errands generalizing before cache with
  | nil => rfl
  | cons errand errands ih =>
    have hfirst := reaches_attend before (errands.map fun errand => ⟨errand, .arrived⟩) cache
      answer errand
    have hrest := ih (before ++ [⟨errand, .done (cache.attend answer errand).2⟩])
      (cache.attend answer errand).1
    simp only [Cache.moment_attend, List.length_append, List.length_singleton, List.append_assoc,
      List.singleton_append] at hrest
    exact (hfirst (oneByOne (before.length + 1) errands.length)).trans hrest

/-- Callers that come one after the other leave with what the operations of one caller give, one
after the other, and leave behind the same cache. -/
theorem run_oneByOne (cache : Cache) (answer : Answer) (errands : List Errand) :
    let (last, outcomes) := cache.attendAll answer errands
    (arrivals cache.slot cache.fetches errands).run (cache.moment answer)
        (oneByOne 0 errands.length) =
      mk last.slot last.fetches none (departed errands outcomes) :=
  run_oneByOne_behind [] cache answer errands

end Shared

/-- A single name, asked for by a caller of its own, gets the role that it gets of one caller. -/
theorem Cache.classifyTogether_singleton (cache : Cache) (answer : Answer) (name : String) :
    cache.classifyTogether answer [name] =
      ((cache.classify answer name).1, [(cache.classify answer name).2]) := by
  have hrun : (Shared.mk cache.slot cache.fetches none [⟨.ensure, .arrived⟩]).run
      ⟨decide (cache.timeToLive = 0), answer⟩ (Shared.roundRobin 1 9) =
        ⟨(cache.ensure answer).1.slot, (cache.ensure answer).1.fetches, none,
          [⟨.ensure, .done (.ok (cache.ensure answer).2)⟩]⟩ :=
    Shared.run_oneByOne cache answer [.ensure]
  have htime : (cache.ensure answer).1.timeToLive = cache.timeToLive :=
    timeToLive_attend cache answer .ensure
  have hcache : (cache.ensure answer).1 = { cache with
      slot := (cache.ensure answer).1.slot
      fetches := (cache.ensure answer).1.fetches } := by
    rw [← htime]
  simp only [classifyTogether, classify, List.length_singleton, List.map_cons, List.map_nil,
    Nat.mul_one, hrun, List.zip_cons_cons, List.zip_nil_right, Shared.Caller.outcome?, ← hcache]

end NameRoles
