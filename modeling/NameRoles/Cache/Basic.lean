import NameRoles.Rule.Error
import NameRoles.Snapshot

/-!
# The rule cache of one caller

A cache keeps the rule set fetched last. A fetch that fails leaves it in place, so that old rules
go on to classify names. Each operation is given what the source of the rules would answer to a
fetch now. Time stands still between the operations: a rule set never expires, unless the
time-to-live is zero and it always has.
-/

namespace NameRoles

/-- What a source of tree rules answers to a fetch. -/
abbrev Answer := Listing (List TreeRule)

/-- A fetched rule set, known by the number of the fetch that brought it. -/
structure Entry where
  fetch : Nat
  snapshot : Snapshot
deriving Repr, Inhabited

structure Cache where
  /-- Seconds for which a rule set counts as fresh. -/
  timeToLive : Nat
  slot : Option Entry := none
  /-- How many fetches have ended. -/
  fetches : Nat := 0
deriving Repr

namespace Cache

/-- The time-to-live of a cache for which none is chosen: half an hour. -/
def defaultTimeToLive : Nat := 1800

/-- An empty cache. -/
def withTimeToLive (seconds : Nat) : Cache := { timeToLive := seconds }

/-- The rule set of the cache, if it has not expired. -/
def fresh? (cache : Cache) : Option Entry := if cache.timeToLive = 0 then none else cache.slot

/-- Fetches, and keeps the rule set if the fetch succeeds. -/
def refresh (cache : Cache) (answer : Answer) : Cache × Listing Entry :=
  let fetches := cache.fetches + 1
  match answer with
  | .ok rules =>
    let entry : Entry := ⟨fetches, Snapshot.compile rules⟩
    ({ cache with fetches, slot := some entry }, .ok entry)
  | .error fault => ({ cache with fetches }, .error fault)

/-- Fetches only if there is no fresh rule set, and gives the rule set that is then there. -/
def ensure (cache : Cache) (answer : Answer) : Cache × Option Entry :=
  match cache.fresh? with
  | some entry => (cache, some entry)
  | none =>
    let (cache, _) := cache.refresh answer
    (cache, cache.slot)

/-- Drops the rule set. -/
def invalidate (cache : Cache) : Cache := { cache with slot := none }

/-- The role of a name. -/
def classify (cache : Cache) (answer : Answer) (name : String) : Cache × Option String :=
  let (cache, entry) := cache.ensure answer
  (cache, Snapshot.roleOf? (entry.map (·.snapshot)) name)

/-- The roles of several names, all by the same rule set. -/
def classifyAll (cache : Cache) (answer : Answer) (names : List String) :
    Cache × List Classification :=
  let (cache, entry) := cache.ensure answer
  (cache, Snapshot.classifyAll (entry.map (·.snapshot)) names)

end Cache

end NameRoles
