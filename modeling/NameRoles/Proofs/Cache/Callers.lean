import Mathlib.Algebra.BigOperators.Group.List.Basic
import Mathlib.Algebra.GroupWithZero.Nat
import NameRoles.Cache.Callers

/-!
# Runs of the callers of a cache

`Next` states the steps of a caller as rules, and `Steps` are the runs that any number of callers
make in any order. What is shared changes by the event of a step alone (`Shared.after`). In every
run the gate is held by the one caller that is behind it (`Steps.gateHeld`), somebody can go on
until all are done (`GateHeld.exists_step`), and each step leaves less to do
(`Steps.length_add_work_le`).
-/

namespace NameRoles

/-! ## What an event changes -/

namespace Event

def slotAfter (slot : Option Entry) : Event → Option Entry
  | wroteSlot entry => entry
  | _ => slot

def fetchesAfter (fetches : Nat) : Event → Nat
  | endedFetch number _ => number
  | _ => fetches

/-- The holder of the gate behind an event of caller `i`. -/
def gateAfter (i : Nat) (gate : Option Nat) : Event → Option Nat
  | tookGate => some i
  | leftGate => none
  | _ => gate

def isStart : Event → Bool
  | startedFetch => true
  | _ => false

def isEnd : Event → Bool
  | endedFetch _ _ => true
  | _ => false

def isWrite : Event → Bool
  | wroteSlot _ => true
  | _ => false

end Event

/-! ## The rules of the protocol -/

/-- The steps that a caller may take on what is shared, from one stage to the next. -/
inductive Next (s : Shared) (now : Moment) : Errand → Stage → Stage → Event → Prop where
  | findFresh {entry : Entry} (h : s.fresh? now = some entry) :
      Next s now .ensure .arrived (.done (.ok (some entry))) (.readSlot s.slot)
  | findStale (h : s.fresh? now = none) :
      Next s now .ensure .arrived .foundStale (.readSlot s.slot)
  | enterAtOnce (h : s.gate = none) : Next s now .refresh .arrived (.entered none) .tookGate
  | drop : Next s now .invalidate .arrived (.done (.ok none)) (.wroteSlot none)
  | look : Next s now .snapshot .arrived (.done (.ok s.slot)) (.readSlot s.slot)
  | count {errand : Errand} :
      Next s now errand .foundStale (.waiting (some s.fetches)) (.readFetches s.fetches)
  | enter {errand : Errand} {seen : Option Nat} (h : s.gate = none) :
      Next s now errand (.waiting seen) (.entered seen) .tookGate
  | startAtOnce {errand : Errand} : Next s now errand (.entered none) .fetching .startedFetch
  | findFreshAgain {errand : Errand} {seen : Nat} {entry : Entry}
      (h : s.fresh? now = some entry) :
      Next s now errand (.entered (some seen)) (.leaving (.ok (some entry))) (.readSlot s.slot)
  | findStaleAgain {errand : Errand} {seen : Nat} (h : s.fresh? now = none) :
      Next s now errand (.entered (some seen)) (.foundStaleAgain seen) (.readSlot s.slot)
  | clear {errand : Errand} :
      Next s now errand (.foundStaleAgain s.fetches) .cleared (.readFetches s.fetches)
  | share {errand : Errand} {seen : Nat} (h : s.fetches ≠ seen) :
      Next s now errand (.foundStaleAgain seen) .sharing (.readFetches s.fetches)
  | takeShare {errand : Errand} :
      Next s now errand .sharing (.leaving (.ok s.slot)) (.readSlot s.slot)
  | start {errand : Errand} : Next s now errand .cleared .fetching .startedFetch
  | finish {errand : Errand} : Next s now errand .fetching (.fetched (s.fetches + 1) now.answer)
      (.endedFetch (s.fetches + 1) now.answer.isOk)
  | install {errand : Errand} {number : Nat} {rules : List TreeRule} :
      Next s now errand (.fetched number (.ok rules))
        (.leaving (.ok (some ⟨number, Snapshot.compile rules⟩)))
        (.wroteSlot (some ⟨number, Snapshot.compile rules⟩))
  | fail {number : Nat} {fault : RuleError} :
      Next s now .refresh (.fetched number (.error fault)) (.done (.error fault)) .leftGate
  | keep {errand : Errand} {number : Nat} {fault : RuleError} (h : errand ≠ .refresh) :
      Next s now errand (.fetched number (.error fault)) (.leaving (.ok s.slot))
        (.readSlot s.slot)
  | leave {errand : Errand} {outcome : Outcome} :
      Next s now errand (.leaving outcome) (.done outcome) .leftGate

namespace Shared

/-- What is shared, and the callers, when caller `i` has gone on to a stage with an event. -/
def after (s : Shared) (i : Nat) (caller : Caller) (stage : Stage) (event : Event) : Shared where
  slot := event.slotAfter s.slot
  fetches := event.fetchesAfter s.fetches
  gate := event.gateAfter i s.gate
  callers := s.callers.set i { caller with stage }

variable {s t : Shared} {now : Moment} {i j : Nat} {caller : Caller} {stage : Stage}
  {event : Event}

theorem next_of_stepAt (h : s.stepAt now i caller = some (t, event)) :
    ∃ stage, Next s now caller.errand caller.stage stage event ∧
      t = s.after i caller stage event := by
  obtain ⟨errand, stage⟩ := caller
  cases stage with
  | arrived =>
    cases errand with
    | ensure =>
      simp only [stepAt] at h
      split at h <;> cases h
      next hfresh => exact ⟨_, .findFresh hfresh, rfl⟩
      next hstale => exact ⟨_, .findStale hstale, rfl⟩
    | refresh =>
      simp only [stepAt] at h
      split at h <;> cases h
      next hgate => exact ⟨_, .enterAtOnce (by simpa using hgate), rfl⟩
    | invalidate => cases h; exact ⟨_, .drop, rfl⟩
    | snapshot => cases h; exact ⟨_, .look, rfl⟩
  | foundStale => cases h; exact ⟨_, .count, rfl⟩
  | waiting seen =>
    simp only [stepAt] at h
    split at h <;> cases h
    next hgate => exact ⟨_, .enter (by simpa using hgate), rfl⟩
  | entered seen =>
    cases seen with
    | none => cases h; exact ⟨_, .startAtOnce, rfl⟩
    | some seen =>
      simp only [stepAt] at h
      split at h <;> cases h
      next hfresh => exact ⟨_, .findFreshAgain hfresh, rfl⟩
      next hstale => exact ⟨_, .findStaleAgain hstale, rfl⟩
  | foundStaleAgain seen =>
    cases h
    by_cases hseen : s.fetches = seen
    · subst hseen
      exact ⟨_, .clear, by simp only [if_true]; rfl⟩
    · exact ⟨_, .share hseen, by simp only [if_neg hseen]; rfl⟩
  | sharing => cases h; exact ⟨_, .takeShare, rfl⟩
  | cleared => cases h; exact ⟨_, .start, rfl⟩
  | fetching => cases h; exact ⟨_, .finish, rfl⟩
  | fetched number answer =>
    cases answer with
    | ok rules => cases h; exact ⟨_, .install, rfl⟩
    | error fault =>
      simp only [stepAt] at h
      split at h
      next => cases h; exact ⟨_, .fail, rfl⟩
      next herrand => cases h; exact ⟨_, .keep herrand, rfl⟩
  | leaving outcome => cases h; exact ⟨_, .leave, rfl⟩
  | done outcome => cases h

/-- Each rule that applies to a caller is the step that it takes. -/
theorem stepAt_of_next {caller : Caller}
    (h : Next s now caller.errand caller.stage stage event) :
    s.stepAt now i caller = some (s.after i caller stage event, event) := by
  obtain ⟨errand, stage⟩ := caller
  cases h with
  | findFresh h | findStale h | findFreshAgain h | findStaleAgain h =>
    simp only [stepAt, h]
    rfl
  | enterAtOnce h | enter h =>
    simp only [stepAt, h]
    rfl
  | share h =>
    simp only [stepAt, if_neg h]
    rfl
  | clear =>
    simp only [stepAt, if_true]
    rfl
  | keep h =>
    cases errand with
    | refresh => contradiction
    | ensure | invalidate | snapshot => rfl
  | _ => rfl

/-- A step is one of the rules, applied to the caller that takes it. -/
theorem next_of_step (h : s.step now i = some (t, event)) :
    ∃ caller stage, s.callers[i]? = some caller ∧
      Next s now caller.errand caller.stage stage event ∧ t = s.after i caller stage event := by
  obtain ⟨caller, hcaller, hstep⟩ := Option.bind_eq_some_iff.mp h
  obtain ⟨stage, hnext, ht⟩ := next_of_stepAt hstep
  exact ⟨caller, stage, hcaller, hnext, ht⟩

@[simp] theorem callers_after_self (h : s.callers[i]? = some caller) :
    (s.after i caller stage event).callers[i]? = some { caller with stage } :=
  List.getElem?_set_self (List.getElem?_eq_some_iff.mp h).1

@[simp] theorem callers_after_of_ne (h : i ≠ j) :
    (s.after i caller stage event).callers[j]? = s.callers[j]? :=
  List.getElem?_set_ne h

/-- What is known of each caller, before a step and behind it, is known of the one that takes the
step and of the others, who stay where they are. -/
theorem forall_callers_after {P Q : Nat → Caller → Prop}
    (h : ∀ j caller, s.callers[j]? = some caller → P j caller)
    (hi : s.callers[i]? = some caller) (hself : P i caller → Q i { caller with stage })
    (hothers : ∀ j other, i ≠ j → s.callers[j]? = some other → P j other → Q j other) :
    ∀ j other, (s.after i caller stage event).callers[j]? = some other → Q j other := by
  intro j other hj
  by_cases hij : i = j
  · subst hij
    obtain rfl := Option.some.inj ((callers_after_self hi).symm.trans hj)
    exact hself (h i caller hi)
  · rw [callers_after_of_ne hij] at hj
    exact hothers j other hij hj (h j other hj)

theorem slot_eq_of_fresh? {entry : Entry} (h : s.fresh? now = some entry) :
    s.slot = some entry := by
  unfold fresh? at h
  split at h
  · contradiction
  · exact h

theorem exists_done_of_outcome? {outcome : Outcome}
    (h : s.callers[i]?.bind Caller.outcome? = some outcome) :
    ∃ errand, s.callers[i]? = some ⟨errand, .done outcome⟩ := by
  obtain ⟨⟨errand, stage⟩, hi, houtcome⟩ := Option.bind_eq_some_iff.mp h
  cases stage with
  | done found =>
    obtain rfl : found = outcome := Option.some.inj houtcome
    exact ⟨errand, hi⟩
  | _ => contradiction

/-! ## Runs -/

/-- A run through moments of some kind: who took the steps, what they did, and where they led. -/
inductive Steps (allowed : Moment → Prop) (s : Shared) : List (Nat × Event) → Shared → Prop where
  | refl : Steps allowed s [] s
  | step {trace : List (Nat × Event)} {t u : Shared} {now : Moment} {i : Nat} {event : Event}
      (h : Steps allowed s trace t) (hnow : allowed now) (hstep : t.step now i = some (u, event)) :
      Steps allowed s (trace ++ [(i, event)]) u

variable {allowed : Moment → Prop} {trace : List (Nat × Event)}

/-- What holds at the start and is kept by every rule holds after every run. -/
theorem Steps.invariant {P : List (Nat × Event) → Shared → Prop} (h : Steps allowed s trace t)
    (start : P [] s)
    (kept : ∀ {trace t now i caller stage event}, P trace t → allowed now →
      t.callers[i]? = some caller → Next t now caller.errand caller.stage stage event →
      P (trace ++ [(i, event)]) (t.after i caller stage event)) : P trace t := by
  induction h with
  | refl => exact start
  | step _ hnow hstep ih =>
    obtain ⟨caller, stage, hcaller, hnext, rfl⟩ := next_of_step hstep
    exact kept ih hnow hcaller hnext

/-- Every event of a run is a step from where the run had led before it. -/
theorem Steps.exists_step_of_append {before behind : List (Nat × Event)} {last : Nat × Event}
    (h : Steps allowed s trace t) (htrace : trace = before ++ last :: behind) :
    ∃ m u now, Steps allowed s before m ∧ m.step now last.1 = some (u, last.2) := by
  induction h generalizing behind with
  | refl => simp at htrace
  | @step trace t u now i event hrun _ hstep ih =>
    rcases List.eq_nil_or_concat behind with rfl | ⟨behind, next, rfl⟩
    · obtain ⟨rfl, hlast⟩ := List.append_inj' htrace rfl
      obtain rfl : (i, event) = last := by simpa using hlast
      exact ⟨t, u, now, hrun, hstep⟩
    · rw [List.concat_eq_append, ← List.cons_append, ← List.append_assoc] at htrace
      exact ih (List.append_inj' htrace rfl).1

theorem Steps.mono {permitted : Moment → Prop} (h : Steps allowed s trace t)
    (himp : ∀ now, allowed now → permitted now) : Steps permitted s trace t := by
  induction h with
  | refl => exact .refl
  | step _ hnow hstep ih => exact ih.step (himp _ hnow) hstep

/-- Callers who take steps in a given order make one of the runs. -/
theorem Steps.exists_run (h : Steps allowed s trace t) (hnow : allowed now) (order : List Nat) :
    ∃ trace, Steps allowed s trace (t.run now order) := by
  induction order generalizing t trace with
  | nil => exact ⟨trace, h⟩
  | cons i order ih =>
    rw [run]
    cases hstep : t.step now i with
    | some next => exact ih (h.step hnow hstep)
    | none => exact ih h

/-- Callers that have just arrived at a cache. -/
def arrivals (slot : Option Entry) (fetches : Nat) (errands : List Errand) : Shared where
  slot := slot
  fetches := fetches
  callers := errands.map fun errand => { errand }

theorem stage_of_arrivals {slot : Option Entry} {fetches : Nat} {errands : List Errand}
    (h : (arrivals slot fetches errands).callers[i]? = some caller) :
    caller.stage = .arrived ∧ caller.errand ∈ errands := by
  obtain ⟨errand, herrand, rfl⟩ := List.mem_map.mp (List.mem_of_getElem? h)
  exact ⟨rfl, herrand⟩

/-- Callers keep to their errands. -/
theorem Steps.errand_eq (h : Steps allowed s trace t) (i : Nat) :
    (t.callers[i]?).map (·.errand) = (s.callers[i]?).map (·.errand) := by
  refine h.invariant (P := fun _ t => t.callers[i]?.map (·.errand) = s.callers[i]?.map (·.errand))
    rfl fun {trace t now j caller stage event} ih _ hcaller _ => ?_
  by_cases hj : j = i
  · subst hj
    rw [callers_after_self hcaller, ← ih, hcaller]
    rfl
  · rw [callers_after_of_ne hj, ih]

end Shared

/-! ## The gate -/

/-- The stages behind the gate. -/
def Stage.holdsGate : Stage → Bool
  | .entered _ | .foundStaleAgain _ | .sharing | .cleared | .fetching | .fetched _ _
  | .leaving _ => true
  | .arrived | .foundStale | .waiting _ | .done _ => false

section

variable {s : Shared} {now : Moment} {errand : Errand} {stage stage' : Stage} {event : Event}

theorem Next.of_tookGate (h : Next s now errand stage stage' .tookGate) :
    s.gate = none ∧ stage'.holdsGate = true := by
  cases h with
  | enterAtOnce hfree | enter hfree => exact ⟨hfree, rfl⟩

theorem Next.of_leftGate (h : Next s now errand stage stage' .leftGate) :
    stage.holdsGate = true ∧ stage'.holdsGate = false := by
  cases h <;> exact ⟨rfl, rfl⟩

/-- Only taking and leaving the gate lead through it. -/
theorem Next.holdsGate_eq (h : Next s now errand stage stage' event) (htook : event ≠ .tookGate)
    (hleft : event ≠ .leftGate) : stage'.holdsGate = stage.holdsGate := by
  cases h <;> first | rfl | contradiction

end

namespace Shared

/-- Caller `i` is behind the gate. -/
def Behind (s : Shared) (i : Nat) : Prop :=
  ∃ caller, s.callers[i]? = some caller ∧ caller.stage.holdsGate = true

/-- The gate is held by the caller that is behind it. -/
def GateHeld (s : Shared) : Prop := ∀ i, s.gate = some i ↔ s.Behind i

variable {s t : Shared} {now : Moment} {i j : Nat} {caller other : Caller} {stage : Stage}
  {event : Event} {allowed : Moment → Prop} {trace : List (Nat × Event)}

theorem behind_iff (h : s.callers[i]? = some caller) :
    s.Behind i ↔ caller.stage.holdsGate = true := by
  simp [Behind, h]

@[simp] theorem behind_after_self (h : s.callers[i]? = some caller) :
    (s.after i caller stage event).Behind i ↔ stage.holdsGate = true :=
  behind_iff (callers_after_self h)

@[simp] theorem behind_after_of_ne (h : i ≠ j) :
    (s.after i caller stage event).Behind j ↔ s.Behind j := by
  rw [Behind, Behind, callers_after_of_ne h]

theorem gate_after : (s.after i caller stage event).gate = event.gateAfter i s.gate := rfl

theorem GateHeld.unique (h : s.GateHeld) (hi : s.Behind i) (hj : s.Behind j) : i = j :=
  Option.some.inj (((h i).mpr hi).symm.trans ((h j).mpr hj))

theorem GateHeld.after (h : s.GateHeld) (hi : s.callers[i]? = some caller)
    (hnext : Next s now caller.errand caller.stage stage event) :
    (s.after i caller stage event).GateHeld := by
  intro j
  rw [gate_after]
  by_cases hij : i = j
  · subst hij
    rw [behind_after_self hi]
    cases event with
    | tookGate => simp [Event.gateAfter, hnext.of_tookGate.2]
    | leftGate => simp [Event.gateAfter, hnext.of_leftGate.2]
    | _ =>
      rw [hnext.holdsGate_eq nofun nofun, ← behind_iff hi]
      exact h i
  · rw [behind_after_of_ne hij, ← h j]
    cases event with
    | tookGate => simp [Event.gateAfter, hnext.of_tookGate.1, hij]
    | leftGate =>
      have hgate : s.gate = some i := (h i).mpr ((behind_iff hi).mpr hnext.of_leftGate.1)
      simp [Event.gateAfter, hgate, hij]
    | _ => rfl

theorem gateHeld_arrivals (slot : Option Entry) (fetches : Nat) (errands : List Errand) :
    (arrivals slot fetches errands).GateHeld := by
  intro i
  constructor
  · exact nofun
  · rintro ⟨caller, hcaller, hholds⟩
    rw [(stage_of_arrivals hcaller).1] at hholds
    contradiction

/-! ## Progress -/

theorem stepAt_isSome (hdone : Caller.outcome? caller = none)
    (hgate : s.gate = none ∨ caller.stage.holdsGate = true) :
    (s.stepAt now i caller).isSome := by
  obtain ⟨errand, stage⟩ := caller
  cases stage with
  | arrived =>
    cases errand with
    | ensure => simp only [stepAt]; split <;> rfl
    | refresh => simp [stepAt, hgate.resolve_right nofun]
    | invalidate | snapshot => rfl
  | waiting seen => simp [stepAt, hgate.resolve_right nofun]
  | entered seen =>
    cases seen with
    | none => rfl
    | some seen => simp only [stepAt]; split <;> rfl
  | fetched number answer =>
    cases answer with
    | ok rules => rfl
    | error fault => simp only [stepAt]; split <;> rfl
  | done outcome => contradiction
  | foundStale | foundStaleAgain | sharing | cleared | fetching | leaving => rfl

theorem outcome?_of_holdsGate (h : caller.stage.holdsGate = true) :
    Caller.outcome? caller = none := by
  obtain ⟨errand, stage⟩ := caller
  cases stage <;> first | rfl | contradiction

/-- Unless all callers are done, one of them can go on whatever the moment brings. -/
theorem GateHeld.exists_step (h : s.GateHeld)
    (hbusy : ∃ caller ∈ s.callers, Caller.outcome? caller = none) :
    ∃ i, ∀ now, (s.step now i).isSome := by
  have of_caller {i caller} (hi : s.callers[i]? = some caller)
      (hdone : Caller.outcome? caller = none)
      (hgate : s.gate = none ∨ caller.stage.holdsGate = true) (now : Moment) :
      (s.step now i).isSome := by
    rw [step, hi]
    exact stepAt_isSome hdone hgate
  cases hgate : s.gate with
  | none =>
    obtain ⟨caller, hmem, hdone⟩ := hbusy
    obtain ⟨i, hi⟩ := List.mem_iff_getElem?.mp hmem
    exact ⟨i, of_caller hi hdone (.inl hgate)⟩
  | some i =>
    -- whoever holds the gate need not wait for it
    obtain ⟨caller, hi, hholds⟩ := (h i).mp hgate
    exact ⟨i, of_caller hi (outcome?_of_holdsGate hholds) (.inr hholds)⟩

end Shared

/-- How many steps a caller has still to take at most. -/
def Stage.work : Stage → Nat
  | .arrived => 9
  | .foundStale => 8
  | .waiting _ => 7
  | .entered _ => 6
  | .foundStaleAgain _ => 5
  | .cleared => 4
  | .fetching => 3
  | .fetched _ _ | .sharing => 2
  | .leaving _ => 1
  | .done _ => 0

theorem Next.work_lt {s : Shared} {now : Moment} {errand : Errand} {stage stage' : Stage}
    {event : Event} (h : Next s now errand stage stage' event) : stage'.work < stage.work := by
  cases h <;> simp [Stage.work]

theorem sum_map_set {α : Type} (f : α → Nat) {l : List α} {i : Nat} {a : α} (b : α)
    (h : l[i]? = some a) : ((l.set i b).map f).sum + f a = (l.map f).sum + f b := by
  induction l generalizing i with
  | nil => simp at h
  | cons c l ih =>
    cases i with
    | zero =>
      obtain rfl : c = a := by simpa using h
      simp only [List.set_cons_zero, List.map_cons, List.sum_cons]
      omega
    | succ i =>
      have := ih (by simpa using h)
      simp only [List.set_cons_succ, List.map_cons, List.sum_cons]
      omega

namespace Shared

variable {s t : Shared} {allowed : Moment → Prop} {trace : List (Nat × Event)}

/-- How many steps all callers have still to take at most. -/
def work (s : Shared) : Nat := (s.callers.map fun caller => caller.stage.work).sum

theorem Steps.length_add_work_le (h : Steps allowed s trace t) :
    trace.length + t.work ≤ s.work := by
  refine h.invariant (P := fun trace t => trace.length + t.work ≤ s.work) (by simp)
    fun {trace t now i caller stage event} ih _ hcaller hnext => ?_
  have hlt : stage.work < caller.stage.work := hnext.work_lt
  have hsum : (t.after i caller stage event).work + caller.stage.work = t.work + stage.work :=
    sum_map_set (fun caller => caller.stage.work) { caller with stage } hcaller
  rw [List.length_append, List.length_singleton]
  omega

@[simp] theorem work_arrivals (slot : Option Entry) (fetches : Nat) (errands : List Errand) :
    (arrivals slot fetches errands).work = 9 * errands.length := by
  simp [work, arrivals, Function.comp_def, Stage.work, Nat.mul_comm]

theorem Steps.gateHeld {slot : Option Entry} {fetches : Nat} {errands : List Errand}
    (h : Steps allowed (arrivals slot fetches errands) trace t) : t.GateHeld :=
  h.invariant (P := fun _ t => t.GateHeld) (gateHeld_arrivals slot fetches errands)
    fun ih _ hcaller hnext => ih.after hcaller hnext

end Shared

end NameRoles
