import NameRoles.Cache.Callers

/-!
# Runs of a cache over a changing source

A session is a cache together with the source it fetches from. The source may start to fail,
recover and be given other rules between the operations on the cache.
-/

namespace NameRoles

/-- A source of tree rules, which fails as long as it has a fault. -/
structure Source where
  rules : List TreeRule
  fault : Option RuleError := none
deriving Repr

def Source.answer (source : Source) : Answer :=
  match source.fault with
  | some fault => .error fault
  | none => .ok source.rules

structure Session where
  cache : Cache
  source : Source
deriving Repr

namespace Session

/-- What may happen in a session. -/
inductive Action where
  | classify (name : String)
  | classifyAll (names : List String)
  | classifyTogether (names : List String)
  | ensure
  | refresh
  | snapshot
  | invalidate
  /-- The source starts to fail, or recovers. -/
  | fail (fault : Option RuleError)
  /-- The source is given other rules. -/
  | serve (rules : List TreeRule)
deriving Repr

/-- What an action brings to light. -/
inductive Report where
  | role (role : Option String)
  | results (results : List Classification)
  | roles (roles : List (Option String))
  | entry (entry : Option Entry)
  | fault (fault : RuleError)
  | nothing
deriving Repr

/-- Performs an action. -/
def perform (s : Session) : Action → Session × Report
  | .classify name =>
    let (cache, role) := s.cache.classify s.source.answer name
    ({ s with cache }, .role role)
  | .classifyAll names =>
    let (cache, results) := s.cache.classifyAll s.source.answer names
    ({ s with cache }, .results results)
  | .classifyTogether names =>
    let (cache, roles) := s.cache.classifyTogether s.source.answer names
    ({ s with cache }, .roles roles)
  | .ensure =>
    let (cache, entry) := s.cache.ensure s.source.answer
    ({ s with cache }, .entry entry)
  | .refresh => match s.cache.refresh s.source.answer with
    | (cache, .ok entry) => ({ s with cache }, .entry (some entry))
    | (cache, .error fault) => ({ s with cache }, .fault fault)
  | .snapshot => (s, .entry s.cache.slot)
  | .invalidate => ({ s with cache := s.cache.invalidate }, .nothing)
  | .fail fault => ({ s with source := { s.source with fault } }, .nothing)
  | .serve rules => ({ s with source := { s.source with rules } }, .nothing)

/-- Performs actions one after the other, and reports on each, with the session behind it. -/
def run (s : Session) : List Action → List (Session × Report)
  | [] => []
  | action :: actions =>
    let (s, report) := s.perform action
    (s, report) :: run s actions

end Session

end NameRoles
