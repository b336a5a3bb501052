import Mathlib.Data.List.Nodup
import NameRoles.Proofs.Cache.Sharing

/-!
# What the slot has held

`Turns` are runs on record: each step is kept with the moment it met, and so with what the fetches
were answered. In every run the slot is empty or holds what one fetch was answered, compiled as a
whole (`Turns.onRecord`), the fetches fill it in the order in which they were started
(`Steps.inOrder`), and a caller that asks for a rule set goes away with what the slot held right
after one of its own steps (`Turns.saw_of_outcome?`).
-/

namespace NameRoles

/-- A step on record: who took it, what it met outside the cache, and what it did. -/
structure Turn where
  caller : Nat
  now : Moment
  event : Event

/-- The step without the moment it met. -/
def Turn.step (turn : Turn) : Nat × Event := (turn.caller, turn.event)

/-- The step ended a fetch whose whole answer makes this rule set. -/
def Turn.Brought (turn : Turn) (entry : Entry) : Prop :=
  turn.event = .endedFetch entry.fetch true ∧
    ∃ rules, turn.now.answer = .ok rules ∧ entry.snapshot = .compile rules

namespace Event

def isInstall : Event → Bool
  | wroteSlot (some _) => true
  | _ => false

/-- The number of the fetch that ends. -/
def ended? : Event → Option Nat
  | endedFetch number _ => some number
  | _ => none

end Event

/-- The callers that have started fetches, in the order in which they did. -/
def starters (trace : List (Nat × Event)) : List Nat := (starts trace).map (·.1)

/-- The callers that have filled the slot, in the order in which they did. -/
def installers (trace : List (Nat × Event)) : List Nat :=
  (trace.filter fun step => step.2.isInstall).map (·.1)

/-- The numbers of the fetches that have ended, in the order in which they did. -/
def endedFetches (trace : List (Nat × Event)) : List Nat :=
  trace.filterMap fun step => step.2.ended?

namespace Shared

/-- A run on record. -/
inductive Turns (s : Shared) : List Turn → Shared → Prop where
  | refl : Turns s [] s
  | step {turns : List Turn} {t u : Shared} {now : Moment} {i : Nat} {event : Event}
      (h : Turns s turns t) (hstep : t.step now i = some (u, event)) :
      Turns s (turns ++ [⟨i, now, event⟩]) u

end Shared

variable {trace : List (Nat × Event)} {turns : List Turn} {i j fetches : Nat}
  {stage stage' : Stage} {event : Event} {s t u : Shared} {now : Moment} {errand : Errand}
  {caller : Caller} {slot : Option Entry} {errands : List Errand} {entry : Entry}
  {outcome : Outcome}

namespace Shared

theorem Turns.steps (h : Turns s turns t) : Steps (fun _ => True) s (turns.map Turn.step) t := by
  induction h with
  | refl => exact .refl
  | step _ hstep ih =>
    rw [List.map_append]
    exact ih.step trivial hstep

end Shared

/-! ## What fetches have brought -/

/-- The end of a caller's fetch is on record as long as its answer is at hand. -/
def Stage.Recorded (turns : List Turn) (i : Nat) : Stage → Prop
  | .fetched number answer => ∃ turn ∈ turns, turn.caller = i ∧
      turn.event = .endedFetch number answer.isOk ∧ turn.now.answer = answer
  | _ => True

/-- Where a caller may stand whose fetch has ended in a failure. -/
def Stage.IsAfterFailure : Stage → Prop
  | .fetched _ (.error _) | .leaving _ | .done _ => True
  | _ => False

theorem Stage.Recorded.concat (h : stage.Recorded turns i) (turn : Turn) :
    stage.Recorded (turns ++ [turn]) i := by
  cases stage with
  | fetched number answer =>
    obtain ⟨other, hmem, hother⟩ := h
    exact ⟨other, List.mem_append_left _ hmem, hother⟩
  | _ => trivial

theorem Next.recorded (hnext : Next s now errand stage stage' event) :
    stage'.Recorded (turns ++ [⟨i, now, event⟩]) i := by
  cases hnext with
  | finish => exact ⟨_, List.mem_append_right _ (List.mem_singleton_self _), rfl, rfl, rfl⟩
  | _ => trivial

theorem Next.isAfterFailure (hnext : Next s now errand stage stage' event)
    (h : stage.IsAfterFailure) : stage'.IsAfterFailure ∧ event.isWrite = false := by
  cases hnext <;> first | exact ⟨trivial, rfl⟩ | contradiction

theorem Next.isAfterFailure_of_event {number : Nat}
    (hnext : Next s now errand stage stage' (.endedFetch number false)) :
    stage'.IsAfterFailure := by
  generalize hevent : Event.endedFetch number false = event at hnext
  cases hnext with
  | finish =>
    cases hanswer : now.answer with
    | ok rules => simp [hanswer, Except.isOk, Except.toBool] at hevent
    | error fault => trivial
  | _ => contradiction

/-- What a step makes of the slot: nothing else, or it drops the rule set, or it fills the slot with
what the caller's fetch has brought. -/
theorem Next.slotAfter_cases (hnext : Next s now errand stage stage' event)
    (h : stage.Recorded turns i) :
    event.slotAfter s.slot = s.slot ∨
      event.slotAfter s.slot = none ∧ errand = .invalidate ∨
      ∃ entry, event.slotAfter s.slot = some entry ∧
        ∃ turn ∈ turns, turn.caller = i ∧ turn.Brought entry := by
  cases hnext with
  | drop => exact .inr (.inl ⟨rfl, rfl⟩)
  | install =>
    obtain ⟨turn, hmem, hcaller, hevent, hanswer⟩ := h
    exact .inr (.inr ⟨_, rfl, turn, hmem, hcaller, hevent, _, hanswer, rfl⟩)
  | _ => exact .inl rfl

theorem Event.slotAfter_of_not_write (h : event.isWrite = false) : event.slotAfter slot = slot := by
  cases event <;> first | rfl | contradiction

namespace Shared

/-- What a run has on record of the fetches that matter to the state it has led to: that of the rule
set in the slot, those whose answer is at hand, and those that have failed. -/
structure OnRecord (turns : List Turn) (t : Shared) : Prop where
  slot : ∀ entry, t.slot = some entry → ∃ turn ∈ turns, turn.Brought entry
  fetched : ∀ (i : Nat) (caller : Caller), t.callers[i]? = some caller →
    caller.stage.Recorded turns i
  failed : ∀ turn ∈ turns, ∀ number, turn.event = .endedFetch number false →
    ∃ caller, t.callers[turn.caller]? = some caller ∧ caller.stage.IsAfterFailure

theorem OnRecord.after (h : t.OnRecord turns) (hi : t.callers[i]? = some caller)
    (hnext : Next t now caller.errand caller.stage stage event) :
    (t.after i caller stage event).OnRecord (turns ++ [⟨i, now, event⟩]) where
  slot entry hentry := by
    have hbrought : ∃ turn ∈ turns, turn.Brought entry := by
      have hentry : event.slotAfter t.slot = some entry := hentry
      rcases hnext.slotAfter_cases (h.fetched i caller hi) with
        hslot | ⟨hslot, -⟩ | ⟨other, hslot, turn, hmem, -, hturn⟩
      · exact h.slot entry (hslot.symm.trans hentry)
      · cases hslot.symm.trans hentry
      · cases hslot.symm.trans hentry
        exact ⟨turn, hmem, hturn⟩
    obtain ⟨turn, hmem, hturn⟩ := hbrought
    exact ⟨turn, List.mem_append_left _ hmem, hturn⟩
  fetched := forall_callers_after h.fetched hi (fun _ => hnext.recorded)
    fun _ _ _ _ hother => hother.concat _
  failed turn hmem number hevent := by
    rcases List.mem_append.mp hmem with hmem | hmem
    · obtain ⟨other, hother, hfailure⟩ := h.failed turn hmem number hevent
      by_cases hturn : i = turn.caller
      · subst hturn
        obtain rfl := Option.some.inj (hi.symm.trans hother)
        exact ⟨_, callers_after_self hi, (hnext.isAfterFailure hfailure).1⟩
      · exact ⟨other, (callers_after_of_ne hturn).trans hother, hfailure⟩
    · obtain rfl := List.mem_singleton.mp hmem
      obtain rfl : event = .endedFetch number false := hevent
      exact ⟨_, callers_after_self hi, hnext.isAfterFailure_of_event⟩

theorem Turns.onRecord (h : Turns (arrivals none fetches errands) turns t) :
    t.OnRecord turns := by
  induction h with
  | refl =>
    refine ⟨nofun, fun i caller hi => ?_, nofun⟩
    rw [(stage_of_arrivals hi).1]
    trivial
  | step _ hstep ih =>
    obtain ⟨caller, stage, hi, hnext, rfl⟩ := next_of_step hstep
    exact ih.after hi hnext

theorem Turns.errand_of_arrivals (h : Turns (arrivals slot fetches errands) turns t)
    (hi : t.callers[i]? = some caller) : errands[i]? = some caller.errand :=
  h.steps.errand_of_arrivals hi

/-- Only an invalidation empties the slot, and only what the caller's own fetch has brought fills
it. -/
theorem Turns.slot_after (h : Turns (arrivals none fetches errands) turns t)
    (hstep : t.step now i = some (u, event)) :
    u.slot = t.slot ∨ u.slot = none ∧ errands[i]? = some .invalidate ∨
      ∃ entry, u.slot = some entry ∧ ∃ turn ∈ turns, turn.caller = i ∧ turn.Brought entry := by
  obtain ⟨caller, stage, hi, hnext, rfl⟩ := next_of_step hstep
  have hrecorded := h.onRecord.fetched i caller hi
  rcases hnext.slotAfter_cases hrecorded with hslot | ⟨hslot, herrand⟩ | hslot
  · exact .inl hslot
  · exact .inr (.inl ⟨hslot, herrand ▸ h.errand_of_arrivals hi⟩)
  · exact .inr (.inr hslot)

/-- Whoever has failed to fetch leaves the slot as it is. -/
theorem Turns.slot_after_failure (h : Turns (arrivals none fetches errands) turns t)
    (hstep : t.step now i = some (u, event)) {turn : Turn} {number : Nat} (hmem : turn ∈ turns)
    (hcaller : turn.caller = i) (hevent : turn.event = .endedFetch number false) :
    u.slot = t.slot := by
  obtain ⟨caller, stage, hi, hnext, rfl⟩ := next_of_step hstep
  obtain ⟨other, hother, hfailure⟩ := h.onRecord.failed turn hmem number hevent
  obtain rfl := Option.some.inj (hi.symm.trans (hcaller ▸ hother))
  exact Event.slotAfter_of_not_write (hnext.isAfterFailure hfailure).2

end Shared

/-! ## The order of fetches -/

/-- Where a caller stands that has not started a fetch. -/
def Stage.IsBeforeFetch : Stage → Prop
  | .arrived | .foundStale | .waiting _ | .entered _ | .foundStaleAgain _ | .cleared => True
  | _ => False

/-- Where a caller stands that has started a fetch and has not yet dealt with its answer. -/
def Stage.IsFetching : Stage → Prop
  | .fetching | .fetched _ _ => True
  | _ => False

theorem Stage.IsFetching.holdsGate (h : stage.IsFetching) : stage.holdsGate = true := by
  cases stage <;> first | rfl | contradiction

theorem Next.of_start (hnext : Next s now errand stage stage' .startedFetch) :
    stage.IsBeforeFetch ∧ stage.holdsGate = true ∧ ¬ stage'.IsBeforeFetch := by
  cases hnext <;> exact ⟨trivial, rfl, id⟩

theorem Next.isBeforeFetch (hnext : Next s now errand stage stage' event)
    (h : stage'.IsBeforeFetch) : stage.IsBeforeFetch ∧ event.isStart = false := by
  cases hnext <;> first | exact ⟨trivial, rfl⟩ | contradiction

theorem Next.isFetching (hnext : Next s now errand stage stage' event) (h : stage'.IsFetching) :
    event = .startedFetch ∨
      stage.IsFetching ∧ event.isStart = false ∧ event.isInstall = false := by
  cases hnext <;> first | exact .inl rfl | exact .inr ⟨trivial, rfl, rfl⟩ | contradiction

/-- In front of the gate nobody starts a fetch or fills the slot. -/
theorem Next.of_outside (hnext : Next s now errand stage stage' event)
    (h : stage.holdsGate = false) : event.isStart = false ∧ event.isInstall = false := by
  cases hnext <;> first | exact ⟨rfl, rfl⟩ | contradiction

theorem Next.isFetching_of_install (hnext : Next s now errand stage stage' event)
    (h : event.isInstall = true) : stage.IsFetching := by
  cases hnext <;> trivial

@[simp] theorem starters_concat (trace : List (Nat × Event)) (i : Nat) (event : Event) :
    starters (trace ++ [(i, event)]) = starters trace ++ if event.isStart then [i] else [] := by
  cases event <;> simp [starters, starts, Event.isStart]

@[simp] theorem installers_concat (trace : List (Nat × Event)) (i : Nat) (event : Event) :
    installers (trace ++ [(i, event)]) =
      installers trace ++ if event.isInstall then [i] else [] := by
  cases h : event.isInstall <;> simp [installers, h]

@[simp] theorem endedFetches_concat (trace : List (Nat × Event)) (i : Nat) (event : Event) :
    endedFetches (trace ++ [(i, event)]) = endedFetches trace ++ event.ended?.toList := by
  cases h : event.ended? <;> simp [endedFetches, h]

namespace Shared

/-- The fetches fill the slot in the order in which they were started, each of them once. -/
structure InOrder (trace : List (Nat × Event)) (t : Shared) : Prop where
  nodup : (starters trace).Nodup
  sublist : (installers trace).Sublist (starters trace)
  before : ∀ (i : Nat) (caller : Caller), t.callers[i]? = some caller →
    caller.stage.IsBeforeFetch → i ∉ starters trace
  last : ∀ (i : Nat) (caller : Caller), t.callers[i]? = some caller → caller.stage.IsFetching →
    ∃ earlier, starters trace = earlier ++ [i] ∧ (installers trace).Sublist earlier

theorem InOrder.after (h : t.InOrder trace) (hgate : t.GateHeld)
    (hi : t.callers[i]? = some caller)
    (hnext : Next t now caller.errand caller.stage stage event) :
    (t.after i caller stage event).InOrder (trace ++ [(i, event)]) where
  nodup := by
    rw [starters_concat]
    split
    next hstart =>
      obtain rfl : event = .startedFetch := by cases event <;> first | rfl | contradiction
      have hnew : i ∉ starters trace := h.before i caller hi hnext.of_start.1
      exact List.nodup_append'.mpr ⟨h.nodup, List.nodup_singleton _,
        List.disjoint_singleton.mpr hnew⟩
    next => simpa using h.nodup
  sublist := by
    rw [starters_concat, installers_concat]
    split
    next hinstall =>
      -- who fills the slot has been the last to start a fetch
      obtain ⟨earlier, hstarters, hsublist⟩ :=
        h.last i caller hi (hnext.isFetching_of_install hinstall)
      rw [hstarters]
      exact (hsublist.append_right [i]).trans (List.sublist_append_left _ _)
    next =>
      rw [List.append_nil]
      exact h.sublist.trans (List.sublist_append_left _ _)
  before := by
    refine forall_callers_after h.before hi (fun hself hbefore => ?_)
      fun j other hij hj hother hbefore => ?_
    · obtain ⟨hstage, hstart⟩ := hnext.isBeforeFetch hbefore
      simpa [hstart] using hself hstage
    · rw [starters_concat, List.mem_append, not_or]
      refine ⟨hother hbefore, fun hmem => hij ?_⟩
      split at hmem
      · exact (List.mem_singleton.mp hmem).symm
      · exact absurd hmem List.not_mem_nil
  last := by
    refine forall_callers_after h.last hi (fun hself hfetching => ?_)
      fun j other hij hj hother hfetching => ?_
    · rcases hnext.isFetching hfetching with rfl | ⟨hstage, hstart, hinstall⟩
      · exact ⟨starters trace, by simp [Event.isStart],
          by simpa [Event.isInstall] using h.sublist⟩
      · simpa [hstart, hinstall] using hself hstage
    · -- the other is behind the gate, and so the caller is not
      have houtside : caller.stage.holdsGate = false := by
        by_contra hholds
        exact hij (hgate.unique ((behind_iff hi).mpr (by simpa using hholds))
          ((behind_iff hj).mpr hfetching.holdsGate))
      obtain ⟨hstart, hinstall⟩ := hnext.of_outside houtside
      simpa [hstart, hinstall] using hother hfetching

theorem Steps.inOrder {allowed : Moment → Prop}
    (h : Steps allowed (arrivals slot fetches errands) trace t) : t.InOrder trace := by
  refine (h.invariant (P := fun trace t => t.GateHeld ∧ t.InOrder trace)
    ⟨gateHeld_arrivals slot fetches errands, .nil, .slnil, fun _ _ _ _ => List.not_mem_nil,
      fun i caller hi hfetching => ?_⟩ ?_).2
  · rw [(stage_of_arrivals hi).1] at hfetching
    contradiction
  · exact fun ih _ hi hnext => ⟨ih.1.after hi hnext, ih.2.after ih.1 hi hnext⟩

/-- Fetches are numbered in the order in which they end. -/
theorem Steps.endedFetches_eq {allowed : Moment → Prop}
    (h : Steps allowed (arrivals slot fetches errands) trace t) :
    fetches ≤ t.fetches ∧ endedFetches trace = List.range' (fetches + 1) (t.fetches - fetches) := by
  refine h.invariant (P := fun trace t => fetches ≤ t.fetches ∧
    endedFetches trace = List.range' (fetches + 1) (t.fetches - fetches)) ?_ ?_
  · simp [arrivals, endedFetches]
  · rintro trace t now i ⟨errand, stage⟩ stage' event ⟨hle, hnumbers⟩ - hi hnext
    rw [endedFetches_concat, hnumbers]
    cases hnext with
    | finish =>
      refine ⟨Nat.le_succ_of_le hle, ?_⟩
      show _ = List.range' (fetches + 1) (t.fetches + 1 - fetches)
      rw [Nat.succ_sub hle, List.range'_concat]
      simp [Event.ended?]
      omega
    | _ => exact ⟨hle, List.append_nil _⟩

end Shared

/-! ## What callers have seen -/

namespace Shared

/-- Right after some step of caller `i` the slot held `found`. -/
def Saw (s : Shared) (turns : List Turn) (t : Shared) (i : Nat) (found : Option Entry) : Prop :=
  ∃ before turn behind m, turns = before ++ turn :: behind ∧ turn.caller = i ∧
    Turns s (before ++ [turn]) m ∧ Turns m behind t ∧ m.slot = found

theorem Saw.step {found : Option Entry} (h : s.Saw turns t i found)
    (hstep : t.step now j = some (u, event)) : s.Saw (turns ++ [⟨j, now, event⟩]) u i found := by
  obtain ⟨before, turn, behind, m, rfl, hturn, hbefore, hbehind, hslot⟩ := h
  exact ⟨before, turn, behind ++ [⟨j, now, event⟩], m, by simp, hturn, hbefore,
    hbehind.step hstep, hslot⟩

theorem Turns.saw (h : Turns s turns t) (hstep : t.step now i = some (u, event)) :
    s.Saw (turns ++ [⟨i, now, event⟩]) u i u.slot :=
  ⟨turns, ⟨i, now, event⟩, [], u, rfl, rfl, h.step hstep, .refl, rfl⟩

end Shared

/-- The outcome that a caller has or is about to have. -/
def Stage.outcome? : Stage → Option Outcome
  | .leaving outcome | .done outcome => some outcome
  | _ => none

/-- A caller that asks for a rule set comes to its outcome by a step behind which the slot holds
it. -/
theorem Next.outcome?_eq (hnext : Next s now .ensure stage stage' event)
    (h : stage'.outcome? = some outcome) :
    stage.outcome? = some outcome ∨ outcome = .ok (event.slotAfter s.slot) := by
  cases hnext with
  | findFresh hfresh | findFreshAgain hfresh =>
    refine .inr ?_
    rw [← Option.some.inj h, ← Shared.slot_eq_of_fresh? hfresh]
    rfl
  | takeShare | keep | install => exact .inr (Option.some.inj h).symm
  | leave => exact .inl h
  | _ => contradiction

namespace Shared

/-- Whatever a caller goes away with that asks for a rule set, the slot has held it right after one
of the caller's own steps. -/
theorem Turns.saw_of_outcome? (h : Turns (arrivals slot fetches errands) turns t) :
    ∀ i caller, t.callers[i]? = some caller → caller.errand = .ensure →
      ∀ outcome, caller.stage.outcome? = some outcome →
        ∃ found, outcome = .ok found ∧ (arrivals slot fetches errands).Saw turns t i found := by
  induction h with
  | refl =>
    intro i caller hi _ outcome houtcome
    rw [(stage_of_arrivals hi).1] at houtcome
    contradiction
  | step hrun hstep ih =>
    obtain ⟨caller, stage, hi, hnext, rfl⟩ := next_of_step hstep
    refine forall_callers_after ih hi (fun hself herrand outcome houtcome => ?_)
      fun j other _ _ hother herrand outcome houtcome => ?_
    · have herrand : caller.errand = .ensure := herrand
      rcases (herrand ▸ hnext).outcome?_eq houtcome with hbefore | hnow
      · obtain ⟨found, hfound, hsaw⟩ := hself herrand outcome hbefore
        exact ⟨found, hfound, hsaw.step hstep⟩
      · exact ⟨_, hnow, hrun.saw hstep⟩
    · obtain ⟨found, hfound, hsaw⟩ := hother herrand outcome houtcome
      exact ⟨found, hfound, hsaw.step hstep⟩

/-- What a caller answers that has asked for a rule set to give roles to names. -/
def Caller.classifyAll (names : List String) (caller : Caller) : Option (List Classification) :=
  match Caller.outcome? caller with
  | some (.ok found) => some (Snapshot.classifyAll (found.map (·.snapshot)) names)
  | _ => none

theorem Caller.classifyAll_eq {found : Option Entry} (names : List String)
    (h : Caller.outcome? caller = some (.ok found)) :
    Caller.classifyAll names caller =
      some (names.map fun name => ⟨name, Snapshot.roleOf? (found.map (·.snapshot)) name⟩) := by
  rw [Caller.classifyAll, h]
  rfl

/-- At a new cache, with whatever callers and a source that may fail at any time:

* the slot is empty or holds all of what one successful fetch has brought, and fetches are told
  apart by their numbers;
* only an invalidation empties the slot, only a caller whose own fetch has succeeded fills it, and
  one whose fetch has failed leaves it as it is;
* the fetches that fill the slot do so in the order in which they were started;
* who asks for a rule set goes away with what the slot held right after one of its own steps, and
  gives all names their roles by that. -/
theorem reads_are_atomic (errands : List Errand) (turns : List Turn) (t : Shared)
    (h : Turns (arrivals none 0 errands) turns t) :
    (∀ entry, t.slot = some entry → ∃ turn ∈ turns, turn.Brought entry) ∧
    endedFetches (turns.map Turn.step) = List.range' 1 t.fetches ∧
    (∀ now i u event, t.step now i = some (u, event) →
      (u.slot = t.slot ∨ u.slot = none ∧ errands[i]? = some .invalidate ∨
        ∃ entry, u.slot = some entry ∧ ∃ turn ∈ turns, turn.caller = i ∧ turn.Brought entry) ∧
      ∀ turn ∈ turns, ∀ number, turn.caller = i → turn.event = .endedFetch number false →
        u.slot = t.slot) ∧
    (starters (turns.map Turn.step)).Nodup ∧
    (installers (turns.map Turn.step)).Sublist (starters (turns.map Turn.step)) ∧
    ∀ i outcome, errands[i]? = some .ensure →
      t.callers[i]?.bind Caller.outcome? = some outcome →
      ∃ before turn behind m, turns = before ++ turn :: behind ∧ turn.caller = i ∧
        Turns (arrivals none 0 errands) (before ++ [turn]) m ∧ Turns m behind t ∧
        outcome = .ok m.slot ∧ ∀ names, t.callers[i]?.bind (Caller.classifyAll names) =
          some (names.map fun name => ⟨name, Snapshot.roleOf? (m.slot.map (·.snapshot)) name⟩) := by
  refine ⟨h.onRecord.slot, by simpa using h.steps.endedFetches_eq.2, ?_, h.steps.inOrder.nodup,
    h.steps.inOrder.sublist, ?_⟩
  · intro now i u event hstep
    exact ⟨h.slot_after hstep, fun turn hmem number hcaller hevent =>
      h.slot_after_failure hstep hmem hcaller hevent⟩
  · intro i outcome herrand houtcome
    obtain ⟨errand, hi⟩ := exists_done_of_outcome? houtcome
    obtain rfl : errand = .ensure :=
      Option.some.inj ((h.errand_of_arrivals hi).symm.trans herrand)
    obtain ⟨_, rfl, before, turn, behind, m, hturns, hcaller, hbefore, hbehind, rfl⟩ :=
      h.saw_of_outcome? i _ hi rfl outcome rfl
    refine ⟨before, turn, behind, m, hturns, hcaller, hbefore, hbehind, rfl, fun names => ?_⟩
    rw [hi]
    have hdone : Caller.outcome? ⟨.ensure, .done (.ok m.slot)⟩ = some (.ok m.slot) := rfl
    exact Caller.classifyAll_eq names hdone

theorem Turns.exists_run (h : Turns s turns t) (now : Moment) (order : List Nat) :
    ∃ turns, Turns s turns (t.run now order) := by
  induction order generalizing t turns with
  | nil => exact ⟨turns, h⟩
  | cons i order ih =>
    rw [run]
    cases hstep : t.step now i with
    | some next => exact ih (h.step hstep)
    | none => exact ih h

/-- A refresh fills the slot; the rules expire, and the slot is emptied while a caller fetches in
vain: it goes away without the rules that were there when it came. -/
theorem reads_are_atomic_under_invalidation :
    let errands : List Errand := [.ensure, .refresh, .invalidate]
    let filled := (arrivals none 0 errands).run ⟨false, .ok []⟩ [1, 1, 1, 1, 1]
    let t := filled.run ⟨true, .error (.store "down")⟩ [0, 0, 0, 0, 0, 0, 2, 0, 0, 0]
    filled.slot = some ⟨1, .compile []⟩ ∧ t.callers[0]?.bind Caller.outcome? = some (.ok none) ∧
      ∃ turns, Turns (arrivals none 0 errands) turns t ∧
        ∃ before turn behind m, turns = before ++ turn :: behind ∧ turn.caller = 0 ∧
          Turns m behind t ∧ m.slot = none := by
  intro errands filled t
  have hfilled : filled = ⟨some ⟨1, .compile []⟩, 1, none, [⟨.ensure, .arrived⟩,
      ⟨.refresh, .done (.ok (some ⟨1, .compile []⟩))⟩, ⟨.invalidate, .arrived⟩]⟩ := rfl
  have hslot : filled.slot = some ⟨1, .compile []⟩ := by rw [hfilled]
  have houtcome : t.callers[0]?.bind Caller.outcome? = some (.ok none) := by
    simp only [t, hfilled]
    rfl
  obtain ⟨_, hrun⟩ : ∃ turns, Turns (arrivals none 0 errands) turns filled :=
    Turns.refl.exists_run _ _
  obtain ⟨turns, hrun⟩ : ∃ turns, Turns (arrivals none 0 errands) turns t := hrun.exists_run _ _
  obtain ⟨-, -, -, -, -, hsaw⟩ := reads_are_atomic errands turns t hrun
  have herrand : errands[0]? = some .ensure := rfl
  obtain ⟨before, turn, behind, m, hturns, hcaller, -, hbehind, hm, -⟩ := hsaw 0 _ herrand houtcome
  exact ⟨hslot, houtcome, turns, hrun, before, turn, behind, m, hturns, hcaller, hbehind,
    (Except.ok.inj hm).symm⟩

end Shared

end NameRoles
