import NameRoles.Proofs.Cache.Sharing

/-!
# What an invalidation is good for

An invalidation empties the slot and looks neither at the gate nor at the fetches. A fetch that has
begun by then and is yet to bring its rule set puts it into the slot all the same, older than the
invalidation as it is. `invalidation_lasts_iff` says that nothing else undoes an invalidation: if no
fetch is under way, the slot and all that come later have nothing but what later fetches bring.
-/

namespace NameRoles

variable {trace : List (Nat × Event)} {i j k number : Nat} {stage stage' : Stage} {event : Event}
  {s t u : Shared} {now : Moment} {errand : Errand} {caller : Caller} {allowed : Moment → Prop}
  {entry : Entry} {step : Nat × Event}

/-! ## Fetches of a stretch of a run -/

/-- Caller `i` has started a fetch in this stretch of a run, and it has brought rules under the
given number. -/
def FetchedBy (trace : List (Nat × Event)) (i number : Nat) : Prop :=
  ∃ before between behind, trace =
    before ++ (i, .startedFetch) :: (between ++ (i, .endedFetch number true) :: behind)

/-- The fetch of a rule set has been started in this stretch of a run. -/
def FetchedIn (trace : List (Nat × Event)) (entry : Entry) : Prop :=
  ∃ i, FetchedBy trace i entry.fetch

theorem FetchedBy.concat (h : FetchedBy trace i number) (step : Nat × Event) :
    FetchedBy (trace ++ [step]) i number := by
  obtain ⟨before, between, behind, rfl⟩ := h
  exact ⟨before, between, behind ++ [step], by simp⟩

theorem FetchedIn.concat (h : FetchedIn trace entry) (step : Nat × Event) :
    FetchedIn (trace ++ [step]) entry := by
  obtain ⟨i, h⟩ := h
  exact ⟨i, h.concat step⟩

theorem fetchedBy_concat_ended (h : (i, Event.startedFetch) ∈ trace) :
    FetchedBy (trace ++ [(i, .endedFetch number true)]) i number := by
  obtain ⟨before, behind, rfl⟩ := List.append_of_mem h
  exact ⟨before, behind, [], by simp⟩

theorem starts_ne_nil_of_mem (h : (i, Event.startedFetch) ∈ trace) : starts trace ≠ [] :=
  List.ne_nil_of_mem (List.mem_filter.mpr ⟨h, rfl⟩)

theorem FetchedBy.starts_ne_nil (h : FetchedBy trace i number) : starts trace ≠ [] := by
  obtain ⟨before, between, behind, rfl⟩ := h
  exact starts_ne_nil_of_mem (i := i) (by simp)

theorem FetchedIn.starts_ne_nil (h : FetchedIn trace entry) : starts trace ≠ [] :=
  h.elim fun _ h => h.starts_ne_nil

/-! ## Callers since a state -/

/-- The fetch of caller `i`, if it is yet to fill the slot, has been started in this stretch. -/
def Stage.FetchesIn (trace : List (Nat × Event)) (i : Nat) : Stage → Prop
  | .fetching => (i, .startedFetch) ∈ trace
  | .fetched number (.ok _) => FetchedBy trace i number
  | _ => True

/-- The rule set that a caller goes away with, if it has one by now, has been fetched in this
stretch. -/
def Stage.ServedIn (trace : List (Nat × Event)) : Stage → Prop
  | .leaving (.ok (some entry)) | .done (.ok (some entry)) => FetchedIn trace entry
  | _ => True

theorem Stage.FetchesIn.concat (h : stage.FetchesIn trace i) (step : Nat × Event) :
    stage.FetchesIn (trace ++ [step]) i := by
  cases stage with
  | fetching => exact List.mem_append_left _ h
  | fetched number answer =>
    cases answer with
    | ok rules => exact FetchedBy.concat h step
    | error fault => trivial
  | _ => trivial

theorem Stage.ServedIn.concat (h : stage.ServedIn trace) (step : Nat × Event) :
    stage.ServedIn (trace ++ [step]) := by
  cases stage with
  | leaving outcome | done outcome =>
    match outcome with
    | .ok (some entry) => exact FetchedIn.concat h step
    | .ok none | .error fault => trivial
  | _ => trivial

/-- A caller that goes away with the slot has what was fetched in this stretch if the slot has. -/
theorem Stage.servedIn_of_slot {slot : Option Entry}
    (h : ∀ entry, slot = some entry → FetchedIn trace entry) :
    (Stage.leaving (.ok slot)).ServedIn trace ∧ (Stage.done (.ok slot)).ServedIn trace := by
  cases slot with
  | none => exact ⟨trivial, trivial⟩
  | some entry => exact ⟨h entry rfl, h entry rfl⟩

/-- A caller's own steps keep its fetch in the stretch. -/
theorem Next.fetchesIn (hnext : Next s now errand stage stage' event)
    (h : stage.FetchesIn trace i) : stage'.FetchesIn (trace ++ [(i, event)]) i := by
  cases hnext with
  | startAtOnce | start => exact List.mem_append_right _ (List.mem_singleton_self _)
  | finish =>
    cases hanswer : now.answer with
    | ok rules => exact fetchedBy_concat_ended h
    | error fault => trivial
  | _ => trivial

/-- A caller's own steps lead it to a rule set of the stretch only, if the slot has no other. -/
theorem Next.servedIn (hnext : Next s now errand stage stage' event)
    (hslot : ∀ entry, s.slot = some entry → FetchedIn trace entry)
    (hfetch : stage.FetchesIn trace i) (h : stage.ServedIn trace) :
    stage'.ServedIn (trace ++ [(i, event)]) := by
  refine Stage.ServedIn.concat ?_ _
  cases hnext with
  | findFresh hfresh | findFreshAgain hfresh => exact hslot _ (Shared.slot_eq_of_fresh? hfresh)
  | look => exact (Stage.servedIn_of_slot hslot).2
  | takeShare | keep => exact (Stage.servedIn_of_slot hslot).1
  | install => exact ⟨i, hfetch⟩
  | @leave _ outcome =>
    match outcome with
    | .ok (some entry) => exact h
    | .ok none | .error fault => trivial
  | _ => trivial

/-- Only a fetch of the stretch fills the slot. -/
theorem Next.fetchedIn_of_slotAfter (hnext : Next s now errand stage stage' event)
    (hslot : ∀ entry, s.slot = some entry → FetchedIn trace entry)
    (hfetch : stage.FetchesIn trace i) (h : event.slotAfter s.slot = some entry) :
    FetchedIn (trace ++ [(i, event)]) entry := by
  refine FetchedIn.concat ?_ _
  cases hnext with
  | drop => contradiction
  | install =>
    obtain rfl := Option.some.inj h
    exact ⟨i, hfetch⟩
  | _ => exact hslot entry h

/-- Where no fetch is started, a caller that would share one and has not been served goes on so. -/
theorem Next.isUnserved (hnext : Next s now .ensure stage stage' event) (hslot : s.slot = none)
    (hstart : event.isStart = false) (h : stage.IsUnserved s.fetches) :
    stage'.IsUnserved s.fetches := by
  have hstale : s.fresh? now = none := by simp [Shared.fresh?, hslot]
  cases hnext with
  | findFresh hfresh | findFreshAgain hfresh =>
    rw [hstale] at hfresh
    contradiction
  | findStale | clear => trivial
  | count => rfl
  | enter => exact h
  | findStaleAgain => exact Option.some.inj h
  | share hseen => exact absurd h.symm hseen
  | _ => contradiction

namespace Shared

/-- Caller `i` is yet to take its first step. -/
def Arriving (s : Shared) (i : Nat) : Prop := ∃ errand, s.callers[i]? = some { errand }

theorem Arriving.stage_eq (h : s.Arriving i) (hi : s.callers[i]? = some caller) :
    caller.stage = .arrived := by
  obtain ⟨errand, herrand⟩ := h
  obtain rfl := Option.some.inj (herrand.symm.trans hi)
  rfl

/-- Caller `i` has started a fetch whose rule set is yet to come into the slot. -/
def UnderWay (s : Shared) (i : Nat) : Prop :=
  ∃ caller, s.callers[i]? = some caller ∧ caller.stage.IsServing

/-- What is there in the run behind state `u` has been fetched behind it. -/
structure RenewedSince (u : Shared) (trace : List (Nat × Event)) (t : Shared) : Prop where
  slot : ∀ entry, t.slot = some entry → FetchedIn trace entry
  fetches : ∀ (i : Nat) (caller : Caller), t.callers[i]? = some caller →
    caller.stage.FetchesIn trace i
  served : ∀ (i : Nat) (caller : Caller), t.callers[i]? = some caller → u.Arriving i →
    caller.stage.ServedIn trace
  unserved : starts trace = [] → ∀ (i : Nat) (caller : Caller), t.callers[i]? = some caller →
    u.Arriving i ∧ caller.errand = .ensure → caller.stage.IsUnserved t.fetches

theorem renewedSince_refl (hslot : u.slot = none) (hidle : ∀ i, ¬ u.UnderWay i) :
    u.RenewedSince [] u where
  slot entry hentry := by simp [hslot] at hentry
  fetches i caller hi := by
    have hnot : ¬ caller.stage.IsServing := fun h => hidle i ⟨caller, hi, h⟩
    obtain ⟨errand, stage⟩ := caller
    cases stage with
    | fetching => exact absurd trivial hnot
    | fetched number answer =>
      cases answer with
      | ok rules => exact absurd trivial hnot
      | error fault => trivial
    | _ => trivial
  served i caller hi harriving := by
    rw [harriving.stage_eq hi]
    trivial
  unserved _ i caller hi hnew := by
    rw [hnew.1.stage_eq hi]
    trivial

theorem RenewedSince.after (h : u.RenewedSince trace t) (hi : t.callers[i]? = some caller)
    (hnext : Next t now caller.errand caller.stage stage event) :
    u.RenewedSince (trace ++ [(i, event)]) (t.after i caller stage event) where
  slot _ hentry := hnext.fetchedIn_of_slotAfter h.slot (h.fetches i caller hi) hentry
  fetches := forall_callers_after h.fetches hi hnext.fetchesIn
    fun _ _ _ _ hother => hother.concat _
  served := forall_callers_after h.served hi
    (fun hself harriving => hnext.servedIn h.slot (h.fetches i caller hi) (hself harriving))
    fun _ _ _ _ hother harriving => (hother harriving).concat _
  unserved hstarts := by
    -- no fetch has been started before, nor is it now, and so none has ended or filled the slot
    rw [starts, List.filter_append, List.append_eq_nil_iff] at hstarts
    obtain ⟨htrace, hevent⟩ := hstarts
    have hstart : event.isStart = false := by simpa using hevent
    have hslot : t.slot = none := by
      by_contra hne
      obtain ⟨entry, hentry⟩ := Option.ne_none_iff_exists'.mp hne
      exact (h.slot entry hentry).starts_ne_nil htrace
    have hend : event.isEnd = false := by
      have hfetch := h.fetches i caller hi
      generalize caller.errand = errand, caller.stage = before at hnext hfetch
      cases hnext with
      | finish => exact absurd htrace (starts_ne_nil_of_mem hfetch)
      | _ => rfl
    have hfetches : (t.after i caller stage event).fetches = t.fetches :=
      hnext.fetchesAfter_eq.trans (by simp [hend])
    rw [hfetches]
    refine forall_callers_after (h.unserved htrace) hi (fun hself hnew => ?_)
      fun _ _ _ _ hother => hother
    have herrand : caller.errand = .ensure := hnew.2
    exact (herrand ▸ hnext).isUnserved hslot hstart (hself hnew)

theorem Steps.renewedSince (h : Steps allowed u trace t) (hslot : u.slot = none)
    (hidle : ∀ i, ¬ u.UnderWay i) : u.RenewedSince trace t :=
  h.invariant (P := fun trace t => u.RenewedSince trace t) (renewedSince_refl hslot hidle)
    fun ih _ hi hnext => ih.after hi hnext

/-! ## Invalidations that last -/

/-- What a run behind an invalidation owes to it: the slot has what later fetches bring and nothing
else, so have those who come later, and whoever of them would share a fetch finds one started. -/
structure Lasts (u : Shared) (later : List (Nat × Event)) (t : Shared) : Prop where
  slot : ∀ entry, t.slot = some entry → FetchedIn later entry
  served : ∀ (i : Nat) (entry : Entry), u.Arriving i →
    t.callers[i]?.bind Caller.outcome? = some (.ok (some entry)) → FetchedIn later entry
  rests : ∀ (i : Nat) (outcome : Outcome), u.callers[i]? = some { errand := .ensure } →
    t.callers[i]?.bind Caller.outcome? = some outcome → starts later ≠ []

theorem RenewedSince.lasts (h : u.RenewedSince trace t)
    (herrand : ∀ i : Nat, t.callers[i]?.map (·.errand) = u.callers[i]?.map (·.errand)) :
    u.Lasts trace t where
  slot := h.slot
  served i entry harriving houtcome := by
    obtain ⟨errand, hi⟩ := exists_done_of_outcome? houtcome
    exact h.served i _ hi harriving
  rests i outcome harriving houtcome hstarts := by
    obtain ⟨errand, hi⟩ := exists_done_of_outcome? houtcome
    obtain rfl : errand = .ensure := by simpa [hi, harriving] using herrand i
    exact h.unserved hstarts i _ hi ⟨⟨.ensure, harriving⟩, rfl⟩

/-- A fetch that is under way may fill the slot without any fetch being started. -/
theorem UnderWay.exists_steps (h : u.UnderWay i) : ∃ later t entry,
    Steps (fun _ => True) u later t ∧ starts later = [] ∧ t.slot = some entry := by
  obtain ⟨⟨errand, stage⟩, hi, hstage⟩ := h
  have install {s : Shared} {number : Nat} {rules : List TreeRule}
      (hi : s.callers[i]? = some ⟨errand, .fetched number (.ok rules)⟩) :
      ∃ t, s.step ⟨false, .ok []⟩ i = some (t, .wroteSlot (some ⟨number, .compile rules⟩)) ∧
        t.slot = some ⟨number, .compile rules⟩ := by
    rw [step, hi]
    exact ⟨_, rfl, rfl⟩
  cases stage with
  | fetching =>
    have hfinish : u.step ⟨false, .ok []⟩ i = some
        (u.after i ⟨errand, .fetching⟩ (.fetched (u.fetches + 1) (.ok []))
          (.endedFetch (u.fetches + 1) true), .endedFetch (u.fetches + 1) true) := by
      rw [step, hi]
      rfl
    obtain ⟨t, hinstall, hslot⟩ := install (callers_after_self hi)
    exact ⟨_, t, _, (Steps.refl.step trivial hfinish).step trivial hinstall, rfl, hslot⟩
  | fetched number answer =>
    cases answer with
    | ok rules =>
      obtain ⟨t, hinstall, hslot⟩ := install hi
      exact ⟨_, t, _, Steps.refl.step trivial hinstall, rfl, hslot⟩
    | error fault => contradiction
  | _ => contradiction

/-- An invalidation lasts, whatever the callers do behind it and in whatever order, just if no
fetch is under way when it empties the slot. -/
theorem invalidation_lasts_iff (hstep : s.step now k = some (u, .wroteSlot none)) :
    (∀ later t, Steps (fun _ => True) u later t → u.Lasts later t) ↔ ∀ i, ¬ s.UnderWay i := by
  obtain ⟨caller, stage, hk, hnext, rfl⟩ := next_of_step hstep
  have hslot : (s.after k caller stage (.wroteSlot none)).slot = none := rfl
  have hserving : ¬ caller.stage.IsServing ∧ ¬ stage.IsServing := by
    generalize caller.errand = errand, caller.stage = before at hnext
    cases hnext with
    | drop => exact ⟨id, id⟩
  -- the invalidation itself starts no fetch and ends none
  have hunderWay : ∀ i, (s.after k caller stage (.wroteSlot none)).UnderWay i ↔ s.UnderWay i := by
    intro i
    by_cases hki : k = i
    · subst hki
      simp [UnderWay, callers_after_self hk, hk, hserving]
    · rw [UnderWay, UnderWay, callers_after_of_ne hki]
  constructor
  · intro hlasts i hi
    obtain ⟨later, t, entry, hrun, hstarts, hentry⟩ := ((hunderWay i).mpr hi).exists_steps
    exact ((hlasts later t hrun).slot entry hentry).starts_ne_nil hstarts
  · intro hidle later t hrun
    have hidle' := fun i => mt (hunderWay i).mp (hidle i)
    exact (hrun.renewedSince hslot hidle').lasts hrun.errand_eq

/-- A refresh has just filled the slot and is about to leave the gate when an invalidation comes. -/
theorem invalidation_lasts_iff_behind_refresh :
    let now : Moment := ⟨false, .ok []⟩
    let s := (arrivals none 0 [.refresh, .invalidate, .ensure]).run now [0, 0, 0, 0]
    s.step now 1 = some (s.run now [1], .wroteSlot none) ∧ (∀ i, ¬ s.UnderWay i) ∧
      ∀ later t, Steps (fun _ => True) (s.run now [1]) later t → (s.run now [1]).Lasts later t := by
  intro now s
  have hidle : ∀ i, ¬ s.UnderWay i := by
    rintro i ⟨caller, hi, hserving⟩
    match i with
    | 0 | 1 | 2 =>
      obtain rfl := Option.some.inj hi
      exact hserving
    | i + 3 => exact nomatch hi
  have hstep : s.step now 1 = some (s.run now [1], .wroteSlot none) := rfl
  exact ⟨hstep, hidle, (invalidation_lasts_iff hstep).mpr hidle⟩

/-- A refresh starts its fetch, an invalidation empties the slot, and the fetch ends and fills it:
who comes then finds the rules of a fetch that had been started before the invalidation. -/
theorem fetch_under_way_undoes_invalidation :
    let now : Moment := ⟨false, .ok []⟩
    let s := (arrivals none 0 [.refresh, .invalidate, .ensure]).run now [0, 0]
    let u := s.run now [1]
    let t := u.run now [0, 0, 2]
    s.step now 1 = some (u, .wroteSlot none) ∧ u.slot = none ∧
      ∃ later, Steps (fun _ => True) u later t ∧ starts later = [] ∧
        t.slot = some ⟨1, .compile []⟩ ∧
        t.callers[2]?.bind Caller.outcome? = some (.ok (some ⟨1, .compile []⟩)) ∧
        ¬ u.Lasts later t := by
  intro now s u t
  have hfinish : u.step now 0 = some (u.run now [0], .endedFetch 1 true) := rfl
  have hinstall : (u.run now [0]).step now 0 =
      some (u.run now [0, 0], .wroteSlot (some ⟨1, .compile []⟩)) := rfl
  have hfind : (u.run now [0, 0]).step now 2 =
      some (t, .readSlot (some ⟨1, .compile []⟩)) := rfl
  have hrun : Steps (fun _ => True) u _ t :=
    ((Steps.refl.step trivial hfinish).step trivial hinstall).step trivial hfind
  refine ⟨rfl, rfl, _, hrun, rfl, rfl, rfl, fun hlasts => ?_⟩
  exact (hlasts.slot ⟨1, .compile []⟩ rfl).starts_ne_nil rfl

end Shared

end NameRoles
