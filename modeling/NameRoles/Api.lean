import NameRoles.Http.Message
import NameRoles.Rule.Error
import NameRoles.Rule.Wire

/-!
# The rule service

The service lists the rules of a store, as formulas and as trees, and checks formulas for those
who maintain the rules. What it replies is a function of the request and of what the store lists
at that moment.
-/

namespace NameRoles.Api

open Http Json

/-- What the service can be asked for. -/
inductive Endpoint where
  | health
  | rules
  | trees
  | validation
  | trial
  | conflicts
deriving DecidableEq, Repr

namespace Endpoint

def path : Endpoint → String
  | health => "/api/health"
  | rules => "/api/rules/active"
  | trees => "/api/rules/active/tree"
  | validation => "/api/rules/validate"
  | trial => "/api/rules/test"
  | conflicts => "/api/rules/conflicts"

/-- The endpoint of a path. -/
def find? (path : String) : Option Endpoint :=
  [health, rules, trees, validation, trial, conflicts].find? (·.path = path)

@[simp] theorem find?_path (endpoint : Endpoint) : find? endpoint.path = some endpoint := by
  cases endpoint <;> decide

/-- An endpoint accepts a method. -/
def accepts (endpoint : Endpoint) (method : String) : Bool :=
  match endpoint with
  | health | rules | trees => method = "GET" || method = "HEAD"
  | validation | trial | conflicts => method = "POST"

end Endpoint

/-- What the service replies. -/
structure Reply where
  status : Nat
  body : Option Json
deriving Repr

namespace Reply

def ok (body : Json) : Reply := ⟨200, some body⟩

/-- A reply that says no more than its status. -/
def bare (status : Nat) : Reply := ⟨status, none⟩

/-- A reply with the text of a fault. -/
def fault (status : Nat) (text : String) : Reply :=
  ⟨status, some (.object [("error", .string text)])⟩

/-- The reply as it is sent. -/
def toResponse (reply : Reply) : Response :=
  ⟨reply.status, (reply.body.map Json.write).getD ""⟩

end Reply

/-- A formula to be tried on names. -/
structure Trial where
  formula : String
  names : List String
deriving DecidableEq, Repr

/-- Which conflicts are asked for: those of a draft, or those between the rules; one rule may be
left out. -/
structure ConflictQuery where
  draft : Option String
  excluded : Option Uuid
deriving DecidableEq, Repr

/-- Reads the formula to be validated. -/
def decodeFormula : Decoder String := fun value => do
  let found ← decodeFields [.of "formula" decodeString] value
  found.get "formula" decodeString

/-- Reads a trial; without names it tries none. -/
def Trial.decode : Decoder Trial := fun value => do
  let found ← decodeFields
    [.of "formula" decodeString, .of "names" (decodeList decodeString)] value
  let formula ← found.get "formula" decodeString
  let names ← found.get? "names" (decodeList decodeString)
  return ⟨formula, names.getD []⟩

def ConflictQuery.decode : Decoder ConflictQuery := fun value => do
  let found ← decodeFields
    [.of "formula" (decodeNullable decodeString),
      .of "exclude_rule_id" (decodeNullable Uuid.decode)] value
  let draft ← found.getNullable? "formula" decodeString
  let excluded ← found.getNullable? "exclude_rule_id" Uuid.decode
  return ⟨draft, excluded⟩

/-- Whether a formula is valid, and why not. -/
def verdict (formula : String) : List (String × Json) :=
  match Formula.check formula with
  | .ok () => [("valid", .bool true)]
  | .error cause => [("valid", .bool false), ("reason", .string cause.message)]

/-- Replies whether a formula is valid. -/
def validationReply (formula : String) : Reply := .ok (.object (verdict formula))

/-- The names of a trial with whether the formula holds of each, if it is valid. -/
def Trial.results (trial : Trial) : List Json :=
  match Formula.parse trial.formula with
  | .ok expr => trial.names.map fun name =>
    .object [("name", .string name), ("matched", .bool (expr.matchesName name))]
  | .error _ => []

/-- Replies to a trial. -/
def Trial.reply (trial : Trial) : Reply :=
  .ok (.object (verdict trial.formula ++ [("results", .array trial.results)]))

/-- Replies to a query for conflicts over given rules. -/
def ConflictQuery.reply (query : ConflictQuery) (rules : List Rule) : Reply :=
  match query.draft with
  | some draft => match Formula.check draft with
    | .error cause => .fault 422 s!"Invalid formula: {cause.message}"
    | .ok () =>
      let conflicts := conflictsWith draft rules query.excluded
      .ok (.object [("conflicts", .array (conflicts.map DraftConflict.toJson))])
  | none =>
    let conflicts := detectConflicts rules query.excluded
    .ok (.object [("conflicts", .array (conflicts.map RuleConflict.toJson))])

/-- How many bytes the body of a request may have. -/
def bodyLimit : Nat := 2097152

/-- Replies to what the body of a request holds. -/
def withBody (request : Request) (decoder : Decoder α) (reply : α → Reply) : Reply :=
  if !request.hasJson then .bare 415
  else if bodyLimit < request.body.utf8ByteSize then .bare 413
  else match Json.decode decoder request.body with
    | .ok value => reply value
    | .error .malformed => .bare 400
    | .error .misfit => .bare 422

/-- Replies by means of the rules of the store. -/
def withRules (store : Listing (List Rule)) (reply : List Rule → Reply) : Reply :=
  match store with
  | .ok rules => reply rules
  | .error fault => .fault 503 fault.message

/-- The reply of an endpoint. -/
def Endpoint.reply (store : Listing (List Rule)) (request : Request) : Endpoint → Reply
  | health => .ok (.object [("status", .string "ok")])
  | rules => withRules store fun rules => .ok (.array (rules.map Rule.toJson))
  | trees => withRules store fun rules => .ok (.array ((deriveTrees rules).map TreeRule.toJson))
  | validation => withBody request decodeFormula validationReply
  | trial => withBody request Trial.decode Trial.reply
  | conflicts => withBody request ConflictQuery.decode fun query => withRules store query.reply

/-- Replies to a request over what the store lists. Whoever asks for the options alone is told that
there are some, and whoever asks for the head alone gets no body. -/
def respond (store : Listing (List Rule)) (request : Request) : Reply :=
  if request.method = "OPTIONS" then .bare 200
  else match Endpoint.find? request.path with
    | none => .bare 404
    | some endpoint =>
      if !endpoint.accepts request.method then .bare 405
      else if request.method = "HEAD" then .bare (endpoint.reply store request).status
      else endpoint.reply store request

theorem respond_of_accepts {request : Request} {endpoint : Endpoint}
    (hpath : request.path = endpoint.path) (haccepts : endpoint.accepts request.method = true)
    (hhead : request.method ≠ "HEAD") (store : Listing (List Rule)) :
    respond store request = endpoint.reply store request := by
  have hoptions : request.method ≠ "OPTIONS" := by
    intro hmethod
    rw [hmethod] at haccepts
    cases endpoint <;> contradiction
  simp [respond, hoptions, hpath, haccepts, hhead]

end NameRoles.Api
