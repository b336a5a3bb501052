import NameRoles.Cache.Basic

/-!
# The rule cache under many callers

Any number of callers work on one cache, each by steps that no other step can divide: reading or
writing the slot, reading the count of fetches, taking or leaving the gate, starting or ending a
fetch. Only the holder of the gate fetches. Whoever had to wait for the gate looks again whether
the rules are fresh or a fetch has ended meanwhile, and shares that fetch's outcome.

`Shared.step` is one such step. What it depends on besides the shared state, the time and the
answer of the source, is given with it.
-/

namespace NameRoles

/-- What a caller has come for. -/
inductive Errand where
  | ensure
  | refresh
  | invalidate
  | snapshot
deriving DecidableEq, Repr

/-- What a caller leaves with. -/
abbrev Outcome := Listing (Option Entry)

/-- How far a caller has come. -/
inductive Stage where
  | arrived
  /-- The rules were not fresh. -/
  | foundStale
  /-- Waits for the gate, after it has read the count of fetches if it means to share one. -/
  | waiting (seen : Option Nat)
  /-- Has the gate. -/
  | entered (seen : Option Nat)
  /-- Has the gate and has found again that the rules are not fresh. -/
  | foundStaleAgain (seen : Nat)
  /-- Has seen that a fetch ended while it waited. -/
  | sharing
  /-- May start a fetch. -/
  | cleared
  | fetching
  /-- Its fetch, of the given number, has ended. -/
  | fetched (number : Nat) (answer : Answer)
  /-- Has the gate no more use. -/
  | leaving (outcome : Outcome)
  | done (outcome : Outcome)
deriving Repr

structure Caller where
  errand : Errand
  stage : Stage := .arrived
deriving Repr

/-- What the callers share, and the callers. -/
structure Shared where
  slot : Option Entry := none
  /-- How many fetches have ended. -/
  fetches : Nat := 0
  /-- The caller that has the gate. -/
  gate : Option Nat := none
  callers : List Caller := []
deriving Repr

/-- What a step meets outside the cache. -/
structure Moment where
  /-- A rule set in the slot has expired. -/
  expired : Bool
  /-- What a fetch that ends now brings. -/
  answer : Answer

/-- What a step did. -/
inductive Event where
  | readSlot (found : Option Entry)
  | readFetches (count : Nat)
  | tookGate
  | leftGate
  | startedFetch
  | endedFetch (number : Nat) (succeeded : Bool)
  | wroteSlot (entry : Option Entry)
deriving Repr

namespace Shared

/-- The slot's rule set, if it is there and has not expired. -/
def fresh? (s : Shared) (now : Moment) : Option Entry := if now.expired then none else s.slot

/-- Moves a caller on. -/
def move (s : Shared) (i : Nat) (caller : Caller) (stage : Stage) : Shared :=
  { s with callers := s.callers.set i { caller with stage } }

/-- The step of caller `i` at a stage, unless it has to wait or is done. -/
def stepAt (s : Shared) (now : Moment) (i : Nat) (caller : Caller) : Option (Shared × Event) :=
  match caller.stage with
  | .arrived => match caller.errand with
    | .ensure => match s.fresh? now with
      | some entry => some (s.move i caller (.done (.ok (some entry))), .readSlot s.slot)
      | none => some (s.move i caller .foundStale, .readSlot s.slot)
    | .refresh => if s.gate.isSome then none
      else some ({ s.move i caller (.entered none) with gate := some i }, .tookGate)
    | .invalidate =>
      some ({ s.move i caller (.done (.ok none)) with slot := none }, .wroteSlot none)
    | .snapshot => some (s.move i caller (.done (.ok s.slot)), .readSlot s.slot)
  | .foundStale =>
    some (s.move i caller (.waiting (some s.fetches)), .readFetches s.fetches)
  | .waiting seen => if s.gate.isSome then none
    else some ({ s.move i caller (.entered seen) with gate := some i }, .tookGate)
  | .entered none | .cleared => some (s.move i caller .fetching, .startedFetch)
  | .entered (some seen) => match s.fresh? now with
    | some entry => some (s.move i caller (.leaving (.ok (some entry))), .readSlot s.slot)
    | none => some (s.move i caller (.foundStaleAgain seen), .readSlot s.slot)
  | .foundStaleAgain seen =>
    some (s.move i caller (if s.fetches = seen then .cleared else .sharing),
      .readFetches s.fetches)
  | .sharing => some (s.move i caller (.leaving (.ok s.slot)), .readSlot s.slot)
  | .fetching =>
    let number := s.fetches + 1
    some ({ s.move i caller (.fetched number now.answer) with fetches := number },
      .endedFetch number now.answer.isOk)
  | .fetched number (.ok rules) =>
    let entry : Entry := ⟨number, Snapshot.compile rules⟩
    some ({ s.move i caller (.leaving (.ok (some entry))) with slot := some entry },
      .wroteSlot (some entry))
  | .fetched _ (.error fault) => match caller.errand with
    | .refresh => some ({ s.move i caller (.done (.error fault)) with gate := none }, .leftGate)
    | _ => some (s.move i caller (.leaving (.ok s.slot)), .readSlot s.slot)
  | .leaving outcome => some ({ s.move i caller (.done outcome) with gate := none }, .leftGate)
  | .done _ => none

/-- The step of caller `i`, unless it has to wait or is done. -/
def step (s : Shared) (now : Moment) (i : Nat) : Option (Shared × Event) :=
  s.callers[i]?.bind (s.stepAt now i)

/-- Lets callers take steps in a given order; one that has to wait or is done lets its turn
pass. -/
def run (s : Shared) (now : Moment) : List Nat → Shared
  | [] => s
  | i :: order => match s.step now i with
    | some (s, _) => run s now order
    | none => run s now order

/-- What a caller has left with. -/
def Caller.outcome? (caller : Caller) : Option Outcome :=
  match caller.stage with
  | .done outcome => some outcome
  | _ => none

/-- The order in which all of `count` callers take a step again and again, `rounds` times. -/
def roundRobin (count rounds : Nat) : List Nat :=
  (List.replicate rounds (List.range count)).flatten

end Shared

namespace Cache

/-- The roles of several names, each asked for by a caller of its own, all of them at once. The
callers take turns; nine steps are the most that any of them takes. -/
def classifyTogether (cache : Cache) (answer : Answer) (names : List String) :
    Cache × List (Option String) :=
  let s : Shared :=
    { slot := cache.slot, fetches := cache.fetches
      callers := names.map fun _ => { errand := .ensure } }
  let order := Shared.roundRobin names.length (9 * names.length)
  let s := s.run ⟨decide (cache.timeToLive = 0), answer⟩ order
  let roles := (names.zip s.callers).map fun (name, caller) =>
    match Shared.Caller.outcome? caller with
    | some (.ok entry) => Snapshot.roleOf? (entry.map (·.snapshot)) name
    | _ => none
  ({ cache with slot := s.slot, fetches := s.fetches }, roles)

end Cache

end NameRoles
