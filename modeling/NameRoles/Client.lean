import NameRoles.Api
import NameRoles.Cache.Basic
import NameRoles.Url.Basic

/-!
# The client of a rule service

A client fetches rules from the service at its base. The network is a parameter: a transport
carries a request to the server of a URL and brings back the response, if there is one.
-/

namespace NameRoles

open Http

/-- Carries requests to the servers of URLs. -/
abbrev Transport := Url → Request → Option Response

/-- A transport over which no server can be reached. -/
def Transport.unreachable : Transport := fun _ _ => none

/-- A transport that always leads to the service over a store. -/
def Transport.toService (store : Listing (List Rule)) : Transport :=
  fun _ request => some (Api.respond store request).toResponse

/-- A client, which knows the directory that its paths start from. -/
structure Client where
  base : Url
deriving DecidableEq, Repr

namespace Client

/-- The client of the service at a URL. -/
def ofText (text : String) : Except RuleError Client :=
  match Url.parse text with
  | .ok url => .ok ⟨url.asDirectory⟩
  | .error cause =>
    .error (.config s!"invalid rule server URL '{text}': {cause.message}")

def rulesPath : String := "api/rules/active"
def treesPath : String := "api/rules/active/tree"

/-- The request for what is at a URL. -/
def request (url : Url) : Request where
  method := "GET"
  target := url.path
  accept := some "application/json"

/-- Reads a response. -/
def read (client : Client) (decoder : Json.Decoder α) (response : Response) : Listing α :=
  if response.isSuccess then
    match Json.decode decoder response.body with
    | .ok value => .ok value
    | .error _ => .error (.http "error decoding response body")
  else
    .error (.api client.base.text s!"{statusText response.status}: {response.text}")

/-- Fetches what is at a path below the base. -/
def fetch (client : Client) (transport : Transport) (decoder : Json.Decoder α) (path : String) :
    Listing α :=
  match client.base.join path with
  | .error cause => .error (.config s!"invalid request path '{path}': {cause.message}")
  | .ok url => match transport url (request url) with
    | some response => client.read decoder response
    | none => .error (.http "error sending request")

/-- Lists the rules of the service. -/
def listRules (client : Client) (transport : Transport) : Listing (List Rule) :=
  client.fetch transport Rule.decodeAll rulesPath

/-- Lists the rules of the service as trees. -/
def listTrees (client : Client) (transport : Transport) : Answer :=
  client.fetch transport TreeRule.decodeAll treesPath

end Client

end NameRoles
