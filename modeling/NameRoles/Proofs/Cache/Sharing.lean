import NameRoles.Proofs.Cache.Callers

/-!
# Callers share their fetches

Only the holder of the gate fetches, hence one fetch at most is in flight. A caller that would share
a fetch reads the count of fetches before it waits at the gate; `Stage.Remembers` says how what it
has seen relates to the fetches that have ended since, and from it follows that it starts a fetch of
its own only if none has. `Phase` follows a cache that starts empty through the one fetch that all
of its callers share.
-/

namespace NameRoles

/-- The starts of fetches in a run. -/
def starts (trace : List (Nat × Event)) : List (Nat × Event) :=
  trace.filter fun step => step.2.isStart

/-- What has been written into the slot in a run. -/
def writes (trace : List (Nat × Event)) : List (Nat × Event) :=
  trace.filter fun step => step.2.isWrite

variable {trace : List (Nat × Event)} {i j fetches : Nat} {stage stage' : Stage} {event : Event}
  {s t : Shared} {now : Moment} {errand : Errand} {caller : Caller} {allowed : Moment → Prop}

/-! ## One fetch at a time -/

namespace Shared

/-- A fetch of caller `i` is in flight. -/
def InFlight (s : Shared) (i : Nat) : Prop :=
  ∃ caller, s.callers[i]? = some caller ∧ caller.stage = .fetching

theorem InFlight.behind (h : s.InFlight i) : s.Behind i := by
  obtain ⟨caller, hi, hstage⟩ := h
  exact ⟨caller, hi, by rw [hstage]; rfl⟩

end Shared

/-! ## What callers remember -/

/-- Caller `i` has read the count of fetches, and `count` fetches have ended since its first
reading. -/
def ReadBefore (trace : List (Nat × Event)) (i count : Nat) : Prop :=
  ∃ earlier seen later, trace = earlier ++ (i, .readFetches seen) :: later ∧
    (∀ n, (i, .readFetches n) ∉ earlier) ∧ later.countP (fun step => step.2.isEnd) = count

/-- How the stage of caller `i` relates to a run in which the count of fetches has come to
`fetches`. -/
def Stage.Remembers (trace : List (Nat × Event)) (fetches i : Nat) : Stage → Prop
  | .arrived | .foundStale => ∀ n, (i, .readFetches n) ∉ trace
  | .waiting seen | .entered seen =>
    ∃ n count, seen = some n ∧ ReadBefore trace i count ∧ fetches = n + count
  | .foundStaleAgain n => ∃ count, ReadBefore trace i count ∧ fetches = n + count
  | .cleared => ReadBefore trace i 0
  | _ => True

theorem ReadBefore.concat {count : Nat} (h : ReadBefore trace i count) (j : Nat) (event : Event) :
    ReadBefore (trace ++ [(j, event)]) i (count + if event.isEnd then 1 else 0) := by
  obtain ⟨earlier, seen, later, rfl, hfirst, rfl⟩ := h
  refine ⟨earlier, seen, later ++ [(j, event)], by simp, hfirst, ?_⟩
  rw [List.countP_append, List.countP_singleton]

theorem ReadBefore.concat_of_not_end {count : Nat} (h : ReadBefore trace i count)
    (hend : event.isEnd = false) : ReadBefore (trace ++ [(j, event)]) i count := by
  simpa [hend] using h.concat j event

theorem Next.fetchesAfter_eq (h : Next s now errand stage stage' event) :
    event.fetchesAfter s.fetches = s.fetches + if event.isEnd then 1 else 0 := by
  cases h <;> rfl

/-- Nobody but the holder of the gate ends a fetch. -/
theorem Next.holdsGate_of_isEnd (h : Next s now errand stage stage' event)
    (hend : event.isEnd = true) : stage.holdsGate = true := by
  cases h with
  | finish => rfl
  | _ => contradiction

/-- The steps of others leave a caller's memory right, if no fetch ends while it is cleared to start
one. -/
theorem Stage.Remembers.of_other (h : stage.Remembers trace fetches i) (hij : j ≠ i)
    (hcleared : stage = .cleared → event.isEnd = false) :
    stage.Remembers (trace ++ [(j, event)]) (fetches + if event.isEnd then 1 else 0) i := by
  cases stage with
  | arrived | foundStale =>
    intro n hmem
    rcases List.mem_append.mp hmem with hmem | hmem
    · exact h n hmem
    · exact hij (congrArg Prod.fst (List.mem_singleton.mp hmem)).symm
  | waiting seen | entered seen =>
    obtain ⟨n, count, hseen, hread, rfl⟩ := h
    exact ⟨n, _, hseen, hread.concat j event, by omega⟩
  | foundStaleAgain n =>
    obtain ⟨count, hread, rfl⟩ := h
    exact ⟨_, hread.concat j event, by omega⟩
  | cleared => exact ReadBefore.concat_of_not_end h (hcleared rfl)
  | _ => trivial

/-- A caller's own steps leave its memory right. -/
theorem Stage.Remembers.of_next (h : stage.Remembers trace s.fetches i)
    (hnext : Next s now .ensure stage stage' event) :
    stage'.Remembers (trace ++ [(i, event)]) (event.fetchesAfter s.fetches) i := by
  cases hnext with
  | findStale =>
    intro n hmem
    rcases List.mem_append.mp hmem with hmem | hmem
    · exact h n hmem
    · simp at hmem
  | count => exact ⟨s.fetches, 0, rfl, ⟨trace, s.fetches, [], rfl, h, rfl⟩, rfl⟩
  | enter =>
    obtain ⟨n, count, hseen, hread, heq⟩ := h
    exact ⟨n, count, hseen, hread.concat_of_not_end rfl, heq⟩
  | findStaleAgain =>
    obtain ⟨n, count, hseen, hread, heq⟩ := h
    obtain rfl := Option.some.inj hseen
    exact ⟨count, hread.concat_of_not_end rfl, heq⟩
  | clear =>
    -- the count is as it was, hence no fetch has ended since it was read
    obtain ⟨count, hread, heq⟩ := h
    obtain rfl : count = 0 := by omega
    exact hread.concat_of_not_end rfl
  | _ => trivial

namespace Shared

/-- All callers that would share a fetch remember rightly. -/
def Remember (s : Shared) (trace : List (Nat × Event)) : Prop :=
  ∀ (i : Nat) (caller : Caller), s.callers[i]? = some caller → caller.errand = .ensure →
    caller.stage.Remembers trace s.fetches i

theorem Remember.after (h : s.Remember trace) (hgate : s.GateHeld)
    (hi : s.callers[i]? = some caller)
    (hnext : Next s now caller.errand caller.stage stage event) :
    (s.after i caller stage event).Remember (trace ++ [(i, event)]) := by
  intro j other hj herrand
  by_cases hij : i = j
  · subst hij
    obtain rfl := Option.some.inj ((callers_after_self hi).symm.trans hj)
    have hself : caller.errand = .ensure := herrand
    rw [hself] at hnext
    exact (h i caller hi hself).of_next hnext
  · rw [callers_after_of_ne hij] at hj
    have hcleared (hstage : other.stage = .cleared) : event.isEnd = false := by
      -- who is cleared holds the gate, and so nobody else is behind it
      by_contra hend
      have hi' : s.Behind i := (behind_iff hi).mpr (hnext.holdsGate_of_isEnd (by simpa using hend))
      exact hij (hgate.unique hi' ((behind_iff hj).mpr (by rw [hstage]; rfl)))
    have hkept := (h j other hj herrand).of_other hij hcleared
    rwa [← hnext.fetchesAfter_eq] at hkept

variable {slot : Option Entry} {errands : List Errand}

theorem remember_arrivals : (arrivals slot fetches errands).Remember [] := by
  intro i caller hi _
  rw [(stage_of_arrivals hi).1]
  exact fun n => List.not_mem_nil

theorem Steps.remember (h : Steps allowed (arrivals slot fetches errands) trace t) :
    t.Remember trace := by
  refine (h.invariant (P := fun trace t => t.GateHeld ∧ t.Remember trace)
    ⟨gateHeld_arrivals slot fetches errands, remember_arrivals⟩ ?_).2
  exact fun ih _ hi hnext => ⟨ih.1.after hi hnext, ih.2.after ih.1 hi hnext⟩

theorem Steps.errand_of_arrivals (h : Steps allowed (arrivals slot fetches errands) trace t)
    (hi : t.callers[i]? = some caller) : errands[i]? = some caller.errand := by
  have := h.errand_eq i
  rw [hi] at this
  simpa [arrivals] using this.symm

/-- A caller that would share a fetch starts one only if none has ended since it first read their
count. -/
theorem Steps.readBefore_of_start (h : Steps allowed (arrivals slot fetches errands) trace t)
    {before behind : List (Nat × Event)} (htrace : trace = before ++ (i, .startedFetch) :: behind)
    (herrand : errands[i]? = some .ensure) : ReadBefore before i 0 := by
  obtain ⟨m, u, now, hrun, hstep⟩ := h.exists_step_of_append htrace
  obtain ⟨⟨errand, stage⟩, stage', hi, hnext, -⟩ := next_of_step hstep
  obtain rfl : errand = .ensure := Option.some.inj ((hrun.errand_of_arrivals hi).symm.trans herrand)
  have hmemory := hrun.remember i _ hi rfl
  cases hnext with
  | startAtOnce =>
    obtain ⟨n, count, hseen, -⟩ := hmemory
    contradiction
  | start => exact hmemory

end Shared

/-! ## One fetch for all -/

/-- A moment at which nothing has expired and the source answers with rules. -/
structure Moment.Healthy (now : Moment) : Prop where
  notExpired : now.expired = false
  answered : ∃ rules, now.answer = .ok rules

/-- The stages in front of the gate. -/
def Stage.IsOutside : Stage → Prop
  | .arrived | .foundStale | .waiting (some _) => True
  | _ => False

/-- The stages of a caller while no fetch has been started and their count is `fetches`. -/
def Stage.IsUnserved (fetches : Nat) : Stage → Prop
  | .arrived | .foundStale | .cleared => True
  | .waiting seen | .entered seen => seen = some fetches
  | .foundStaleAgain seen => seen = fetches
  | _ => False

/-- The stage of a caller whose fetch is in flight or has succeeded. -/
def Stage.IsServing : Stage → Prop
  | .fetching | .fetched _ (.ok _) => True
  | _ => False

/-- The stages of a caller when a rule set is in the slot. -/
def Stage.IsServed (entry : Entry) : Stage → Prop
  | .arrived | .foundStale | .waiting (some _) | .entered (some _) => True
  | .leaving outcome | .done outcome => outcome = .ok (some entry)
  | _ => False

/-- How far callers of an empty cache have come together: none has fetched, or one is about to
bring a rule set, or its rule set is there for all. -/
inductive Phase (fetches : Nat) (trace : List (Nat × Event)) (s : Shared) : Prop where
  | unserved (hslot : s.slot = none) (hfetches : s.fetches = fetches)
      (hstarts : starts trace = []) (hwrites : writes trace = [])
      (hstages : ∀ caller ∈ s.callers, caller.stage.IsUnserved fetches)
  | serving (i : Nat) (caller : Caller) (hslot : s.slot = none)
      (hstarts : starts trace = [(i, .startedFetch)]) (hwrites : writes trace = [])
      (hi : s.callers[i]? = some caller) (hstage : caller.stage.IsServing)
      (hothers : ∀ (j : Nat) (other : Caller), i ≠ j → s.callers[j]? = some other →
        other.stage.IsOutside)
  | served (i : Nat) (entry : Entry) (hslot : s.slot = some entry)
      (hstarts : starts trace = [(i, .startedFetch)])
      (hwrites : writes trace = [(i, .wroteSlot (some entry))])
      (hstages : ∀ caller ∈ s.callers, caller.stage.IsServed entry)

theorem starts_concat_of_not (h : event.isStart = false) :
    starts (trace ++ [(i, event)]) = starts trace := by
  simp [starts, h]

theorem writes_concat_of_not (h : event.isWrite = false) :
    writes (trace ++ [(i, event)]) = writes trace := by
  simp [writes, h]

theorem Moment.Healthy.fresh?_eq (h : now.Healthy) : s.fresh? now = s.slot := by
  simp [Shared.fresh?, h.notExpired]

theorem Stage.IsUnserved.isOutside (h : stage.IsUnserved fetches)
    (hgate : stage.holdsGate = false) : stage.IsOutside := by
  cases stage with
  | waiting seen =>
    obtain rfl : seen = some fetches := h
    trivial
  | arrived | foundStale => trivial
  | _ => contradiction

theorem Stage.IsOutside.isServed (h : stage.IsOutside) (entry : Entry) :
    stage.IsServed entry := by
  cases stage with
  | waiting seen =>
    cases seen with
    | none => contradiction
    | some seen => trivial
  | arrived | foundStale => trivial
  | _ => contradiction

theorem Stage.IsServing.holdsGate (h : stage.IsServing) : stage.holdsGate = true := by
  cases stage <;> first | rfl | contradiction

namespace Shared

theorem forall_mem_callers_after {P : Stage → Prop}
    (h : ∀ caller ∈ s.callers, P caller.stage) (hstage : P stage) :
    ∀ other ∈ (s.after i caller stage event).callers, P other.stage := by
  intro other hother
  rcases List.mem_or_eq_of_mem_set hother with hother | rfl
  · exact h other hother
  · exact hstage

end Shared

open Shared

/-- Callers whom no fetch has served leave it so, or one of them starts the fetch. -/
theorem Phase.after_unserved (hgate : s.GateHeld) (hnow : now.Healthy)
    (hi : s.callers[i]? = some caller) (herrand : caller.errand = .ensure)
    (hnext : Next s now caller.errand caller.stage stage event) (hslot : s.slot = none)
    (hfetches : s.fetches = fetches) (hstarts : starts trace = []) (hwrites : writes trace = [])
    (hstages : ∀ caller ∈ s.callers, caller.stage.IsUnserved fetches) :
    Phase fetches (trace ++ [(i, event)]) (s.after i caller stage event) := by
  have hstale : s.fresh? now = none := hnow.fresh?_eq.trans hslot
  have hcaller := hstages caller (List.mem_of_getElem? hi)
  have hholds : caller.stage.holdsGate = true → s.Behind i := (behind_iff hi).mpr
  have goOn (hstart : event.isStart = false) (hend : event.isEnd = false)
      (hwrite : event.isWrite = false) (hslot' : event.slotAfter s.slot = none)
      (hstage : stage.IsUnserved fetches) :
      Phase fetches (trace ++ [(i, event)]) (s.after i caller stage event) :=
    .unserved hslot' (hnext.fetchesAfter_eq.trans (by simp [hend, hfetches]))
      ((starts_concat_of_not hstart).trans hstarts) ((writes_concat_of_not hwrite).trans hwrites)
      (forall_mem_callers_after hstages hstage)
  obtain ⟨errand, before⟩ := caller
  obtain rfl : errand = .ensure := herrand
  cases hnext with
  | findFresh hfresh | findFreshAgain hfresh =>
    rw [hstale] at hfresh
    contradiction
  | findStale => exact goOn rfl rfl rfl hslot trivial
  | count => exact goOn rfl rfl rfl hslot (congrArg some hfetches)
  | enter => exact goOn rfl rfl rfl hslot hcaller
  | findStaleAgain => exact goOn rfl rfl rfl hslot (Option.some.inj hcaller)
  | clear => exact goOn rfl rfl rfl hslot trivial
  | share hseen => exact absurd (hfetches.trans hcaller.symm) hseen
  | start =>
    refine .serving i ⟨.ensure, .fetching⟩ hslot ?_ ((writes_concat_of_not rfl).trans hwrites)
      (callers_after_self hi) trivial fun j other hij hj => ?_
    · rw [starts, List.filter_append, ← starts, hstarts]
      rfl
    · rw [callers_after_of_ne hij] at hj
      -- the gate is taken by the one who starts
      refine (hstages other (List.mem_of_getElem? hj)).isOutside ?_
      by_contra hother
      exact hij (hgate.unique (hholds rfl) ((behind_iff hj).mpr (by simpa using hother)))
  | _ => contradiction

/-- While a caller serves all, the others come no further than the gate. -/
theorem Phase.after_serving {k : Nat} {server : Caller} (hgate : s.GateHeld) (hnow : now.Healthy)
    (hi : s.callers[i]? = some caller) (herrand : caller.errand = .ensure)
    (hnext : Next s now caller.errand caller.stage stage event) (hslot : s.slot = none)
    (hstarts : starts trace = [(k, .startedFetch)]) (hwrites : writes trace = [])
    (hk : s.callers[k]? = some server) (hserver : server.stage.IsServing)
    (hothers : ∀ (j : Nat) (other : Caller), k ≠ j → s.callers[j]? = some other →
      other.stage.IsOutside) :
    Phase fetches (trace ++ [(i, event)]) (s.after i caller stage event) := by
  have hstale : s.fresh? now = none := hnow.fresh?_eq.trans hslot
  have hheld : s.gate = some k := (hgate k).mpr ((behind_iff hk).mpr hserver.holdsGate)
  by_cases hki : k = i
  · subst hki
    obtain rfl : server = caller := Option.some.inj (hk.symm.trans hi)
    have others (j : Nat) (other : Caller) (hkj : k ≠ j)
        (hj : (s.after k server stage event).callers[j]? = some other) : other.stage.IsOutside :=
      hothers j other hkj (callers_after_of_ne hkj ▸ hj)
    obtain ⟨errand, before⟩ := server
    obtain rfl : errand = .ensure := herrand
    cases hnext with
    | finish =>
      obtain ⟨rules, hrules⟩ := hnow.answered
      refine .serving k _ hslot ((starts_concat_of_not rfl).trans hstarts)
        ((writes_concat_of_not rfl).trans hwrites) (callers_after_self hi) ?_ others
      rw [hrules]
      trivial
    | @install _ number rules =>
      refine .served k ⟨number, .compile rules⟩ rfl ((starts_concat_of_not rfl).trans hstarts)
        ?_ fun other hother => ?_
      · rw [writes, List.filter_append, ← writes, hwrites]
        rfl
      · obtain ⟨j, hj⟩ := List.mem_iff_getElem?.mp hother
        by_cases hkj : k = j
        · subst hkj
          obtain rfl := Option.some.inj ((callers_after_self hi).symm.trans hj)
          rfl
        · exact (others j other hkj hj).isServed _
    | _ => contradiction
  · have hcaller := hothers i caller hki hi
    have goOn (hstart : event.isStart = false) (hwrite : event.isWrite = false)
        (hslot' : event.slotAfter s.slot = none) (hstage : stage.IsOutside) :
        Phase fetches (trace ++ [(i, event)]) (s.after i caller stage event) := by
      refine .serving k server hslot' ((starts_concat_of_not hstart).trans hstarts)
        ((writes_concat_of_not hwrite).trans hwrites)
        ((callers_after_of_ne (Ne.symm hki)).trans hk) hserver fun j other hkj hj => ?_
      by_cases hij : i = j
      · subst hij
        obtain rfl := Option.some.inj ((callers_after_self hi).symm.trans hj)
        exact hstage
      · exact hothers j other hkj (callers_after_of_ne hij ▸ hj)
    obtain ⟨errand, before⟩ := caller
    obtain rfl : errand = .ensure := herrand
    cases hnext with
    | findFresh hfresh =>
      rw [hstale] at hfresh
      contradiction
    | findStale => exact goOn rfl rfl hslot trivial
    | count => exact goOn rfl rfl hslot trivial
    | enter hfree =>
      rw [hheld] at hfree
      contradiction
    | _ => contradiction

/-- Once a rule set is there, all that follow find it. -/
theorem Phase.after_served {k : Nat} {entry : Entry} (hnow : now.Healthy)
    (hi : s.callers[i]? = some caller) (herrand : caller.errand = .ensure)
    (hnext : Next s now caller.errand caller.stage stage event) (hslot : s.slot = some entry)
    (hstarts : starts trace = [(k, .startedFetch)])
    (hwrites : writes trace = [(k, .wroteSlot (some entry))])
    (hstages : ∀ caller ∈ s.callers, caller.stage.IsServed entry) :
    Phase fetches (trace ++ [(i, event)]) (s.after i caller stage event) := by
  have hfresh : s.fresh? now = some entry := hnow.fresh?_eq.trans hslot
  have hcaller := hstages caller (List.mem_of_getElem? hi)
  have goOn (hstart : event.isStart = false) (hwrite : event.isWrite = false)
      (hslot' : event.slotAfter s.slot = some entry) (hstage : stage.IsServed entry) :
      Phase fetches (trace ++ [(i, event)]) (s.after i caller stage event) :=
    .served k entry hslot' ((starts_concat_of_not hstart).trans hstarts)
      ((writes_concat_of_not hwrite).trans hwrites) (forall_mem_callers_after hstages hstage)
  obtain ⟨errand, before⟩ := caller
  obtain rfl : errand = .ensure := herrand
  cases hnext with
  | findFresh hfound | findFreshAgain hfound =>
    obtain rfl := Option.some.inj (hfresh.symm.trans hfound)
    exact goOn rfl rfl hslot rfl
  | findStale hstale | findStaleAgain hstale =>
    rw [hfresh] at hstale
    contradiction
  | count => exact goOn rfl rfl hslot trivial
  | @enter _ seen =>
    cases seen with
    | none => contradiction
    | some seen => exact goOn rfl rfl hslot trivial
  | leave => exact goOn rfl rfl hslot hcaller
  | _ => contradiction

theorem Phase.after (h : Phase fetches trace s) (hgate : s.GateHeld) (hnow : now.Healthy)
    (hi : s.callers[i]? = some caller) (herrand : caller.errand = .ensure)
    (hnext : Next s now caller.errand caller.stage stage event) :
    Phase fetches (trace ++ [(i, event)]) (s.after i caller stage event) := by
  cases h with
  | unserved hslot hfetches hstarts hwrites hstages =>
    exact .after_unserved hgate hnow hi herrand hnext hslot hfetches hstarts hwrites hstages
  | serving k server hslot hstarts hwrites hk hserver hothers =>
    exact .after_serving hgate hnow hi herrand hnext hslot hstarts hwrites hk hserver hothers
  | served k entry hslot hstarts hwrites hstages =>
    exact .after_served hnow hi herrand hnext hslot hstarts hwrites hstages

/-- When all callers are done, the rule set of one fetch has served them. -/
theorem Phase.of_done (h : Phase fetches trace s) (hcallers : s.callers ≠ [])
    (hdone : ∀ caller ∈ s.callers, Caller.outcome? caller ≠ none) :
    ∃ i entry, starts trace = [(i, .startedFetch)] ∧
      writes trace = [(i, .wroteSlot (some entry))] ∧ s.slot = some entry ∧
      ∀ caller ∈ s.callers, Caller.outcome? caller = some (.ok (some entry)) := by
  cases h with
  | unserved _ _ _ _ hstages =>
    obtain ⟨⟨errand, stage⟩, hmem⟩ := List.exists_mem_of_ne_nil _ hcallers
    have hstage := hstages _ hmem
    have hdone := hdone _ hmem
    cases stage <;> contradiction
  | serving i caller _ _ _ hi hstage =>
    exact absurd (outcome?_of_holdsGate hstage.holdsGate) (hdone caller (List.mem_of_getElem? hi))
  | served i entry hslot hstarts hwrites hstages =>
    refine ⟨i, entry, hstarts, hwrites, hslot, fun caller hmem => ?_⟩
    obtain ⟨errand, stage⟩ := caller
    have hstage := hstages _ hmem
    have hdone := hdone _ hmem
    cases stage with
    | done outcome => exact congrArg some hstage
    | _ => contradiction

namespace Shared

/-- The callers of a run that would all share a fetch. -/
abbrev sharers (fetches count : Nat) : Shared :=
  arrivals none fetches (List.replicate count .ensure)

theorem Steps.phase {count : Nat} (h : Steps Moment.Healthy (sharers fetches count) trace t) :
    Phase fetches trace t := by
  refine (h.invariant (P := fun trace t => t.GateHeld ∧ Phase fetches trace t ∧
    ∀ caller ∈ t.callers, caller.errand = .ensure) ⟨gateHeld_arrivals _ _ _, ?_, ?_⟩ ?_).2.1
  · exact .unserved rfl rfl rfl rfl fun caller hmem => by
      obtain ⟨i, hi⟩ := List.mem_iff_getElem?.mp hmem
      rw [(stage_of_arrivals hi).1]
      trivial
  · intro caller hmem
    obtain ⟨i, hi⟩ := List.mem_iff_getElem?.mp hmem
    exact List.eq_of_mem_replicate (stage_of_arrivals hi).2
  · intro trace t now i caller stage event ⟨hgate, hphase, herrands⟩ hnow hi hnext
    have herrand := herrands caller (List.mem_of_getElem? hi)
    refine ⟨hgate.after hi hnext, hphase.after hgate hnow hi herrand hnext, fun other hmem => ?_⟩
    rcases List.mem_or_eq_of_mem_set hmem with hmem | rfl
    · exact herrands other hmem
    · exact herrand

theorem Steps.callers_ne_nil {count : Nat} (h : Steps allowed (sharers fetches count) trace t)
    (hcount : 0 < count) : t.callers ≠ [] := by
  rintro hnil
  have := h.errand_eq 0
  simp [hnil, arrivals, hcount] at this

/-- At a cache with whatever callers, one fetch at most is in flight at any time, and a caller that
would share a fetch starts one only if no fetch, successful or not, has ended since it first read
their count. The callers of an empty cache that all would share a fetch, with a source that answers
and rules that do not expire, get all done in whatever order they take their steps; they make one
fetch in all, and each of them leaves with the rule set that it has put into the slot. -/
theorem callers_share_fetches :
    (∀ slot fetches errands trace t,
      Steps (fun _ => True) (arrivals slot fetches errands) trace t →
        (∀ i j, t.InFlight i → t.InFlight j → i = j) ∧
        ∀ i before behind, errands[i]? = some .ensure →
          trace = before ++ (i, .startedFetch) :: behind →
          ∃ earlier seen later, before = earlier ++ (i, .readFetches seen) :: later ∧
            (∀ n, (i, .readFetches n) ∉ earlier) ∧ ∀ step ∈ later, step.2.isEnd = false) ∧
    ∀ fetches count trace t, 0 < count → Steps Moment.Healthy (sharers fetches count) trace t →
      trace.length ≤ 9 * count ∧
      ((∃ caller ∈ t.callers, Caller.outcome? caller = none) →
        ∃ i, ∀ now, (t.step now i).isSome) ∧
      ((∀ caller ∈ t.callers, Caller.outcome? caller ≠ none) →
        ∃ i entry, starts trace = [(i, .startedFetch)] ∧
          writes trace = [(i, .wroteSlot (some entry))] ∧ t.slot = some entry ∧
          ∀ caller ∈ t.callers, Caller.outcome? caller = some (.ok (some entry))) := by
  constructor
  · intro slot fetches errands trace t h
    refine ⟨fun i j hi hj => h.gateHeld.unique hi.behind hj.behind, ?_⟩
    intro i before behind herrand htrace
    obtain ⟨earlier, seen, later, hbefore, hfirst, hnone⟩ := h.readBefore_of_start htrace herrand
    exact ⟨earlier, seen, later, hbefore, hfirst, by simpa using hnone⟩
  · intro fetches count trace t hcount h
    have hlength := h.length_add_work_le
    rw [work_arrivals, List.length_replicate] at hlength
    exact ⟨by omega, h.gateHeld.exists_step, h.phase.of_done (h.callers_ne_nil hcount)⟩

/-- Three callers who take turns: each finds the slot empty, and one of them fetches. -/
theorem callers_share_fetches_in_turns :
    let s := sharers 0 3
    let t := s.run ⟨false, .ok []⟩ (roundRobin 3 27)
    ∃ trace, Steps Moment.Healthy s trace t ∧
      (∀ caller ∈ t.callers, Caller.outcome? caller ≠ none) ∧ (starts trace).length = 1 ∧
      ∃ i before behind, trace = before ++ (i, .startedFetch) :: behind ∧
        ∃ earlier seen later, before = earlier ++ (i, .readFetches seen) :: later ∧
          ∀ step ∈ later, step.2.isEnd = false := by
  intro s t
  have hnow : Moment.Healthy ⟨false, .ok []⟩ := ⟨rfl, [], rfl⟩
  obtain ⟨trace, hrun⟩ := Steps.refl.exists_run (s := s) hnow (roundRobin 3 27)
  have hdone : ∀ caller ∈ t.callers, Caller.outcome? caller ≠ none := by decide +kernel
  obtain ⟨i, entry, hstarts, -⟩ :=
    (callers_share_fetches.2 0 3 trace t (by decide) hrun).2.2 hdone
  have hmem : (i, Event.startedFetch) ∈ starts trace := hstarts ▸ List.mem_singleton_self _
  obtain ⟨before, behind, htrace⟩ := List.append_of_mem (List.mem_filter.mp hmem).1
  obtain ⟨m, u, now, hbefore, hstep⟩ := hrun.exists_step_of_append htrace
  obtain ⟨caller, stage, hi, -⟩ := next_of_step hstep
  have herrand := hbefore.errand_of_arrivals hi
  obtain ⟨earlier, seen, later, hsplit, -, hnone⟩ :=
    (callers_share_fetches.1 none 0 (List.replicate 3 .ensure) trace t
      (hrun.mono fun _ _ => trivial)).2 i before behind
      (herrand.trans (congrArg some (List.eq_of_mem_replicate (List.mem_of_getElem? herrand))))
      htrace
  exact ⟨trace, hrun, hdone, by rw [hstarts]; rfl, i, before, behind, htrace, earlier, seen, later,
    hsplit, hnone⟩

end Shared

end NameRoles
