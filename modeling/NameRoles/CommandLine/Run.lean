import NameRoles.Client
import NameRoles.CommandLine.Command
import NameRoles.Json.Writer
import NameRoles.Rule.Store
import NameRoles.Settings.EnvFile

/-!
# Running commands

What a command prints and how it ends is a function of its arguments, the settings and what it
meets in the world: files, servers and free ports.
-/

namespace NameRoles.CommandLine

/-- What a command meets. -/
structure World where
  /-- The bytes of the file at a path, if it can be read. -/
  files : String → Except FileFault ByteArray
  transport : Transport
  /-- Why a port cannot be listened on. -/
  portFault : Nat → Option String

/-- How a command ends. -/
inductive Outcome where
  | exit (code : Nat) (stdout stderr : String)
  /-- It goes on to serve rules on a port. -/
  | serving (store : RuleStore) (port : Nat)

namespace Outcome

/-- The command has printed lines and is done. -/
def done (lines : List String) : Outcome :=
  .exit 0 (String.join (lines.map (· ++ "\n"))) ""

/-- The command has failed. -/
def failed (reason : String) : Outcome := .exit 1 "" s!"Error: {reason}\n"

/-- The program could not get as far as the command. -/
def brokenDown (reason : String) : Outcome := .exit 101 "" s!"{reason}\n"

end Outcome

/-- The name and version of the program. -/
def versionText : String := "rolematch-rs 0.1.0"

def usageText : String := "\n".intercalate [
  "Usage: rolematch COMMAND",
  "",
  "  validate FORMULA",
  "  test -f FORMULA NAME...",
  "  tree [-l LABEL] FORMULA",
  "  conflicts [-r FILE] [--formula FORMULA] [--exclude ID]",
  "  classify [-r FILE | -s URL] NAME...",
  "  serve [-r FILE] [-p PORT]"]

/-- Ends the program where no command is run. -/
def Stop.outcome : Stop → Outcome
  | help => .done [usageText]
  | version => .done [versionText]
  | misuse reason => .exit 2 "" s!"error: {reason}\n\n{usageText}\n"

/-- The fault of a formula that a command needs to be valid. -/
def invalidFormula (cause : Formula.Error) : Outcome :=
  .failed s!"formula is invalid\n\nCaused by:\n    {cause.message}"

/-- The path of the rule file: the one given, or that of the settings. -/
def rulesPath (settings : Settings) (given : Option String) : Except String String :=
  match given.or settings.rulesFile with
  | some path => .ok path
  | none => .error "no rule file: pass --rules or set ROLEMATCH_RULES_FILE"

/-- The store of the rule file. -/
def rulesStore (settings : Settings) (world : World) (given : Option String) :
    Except String RuleStore :=
  (rulesPath settings given).map fun path => .file (world.files path)

/-- The rules of the rule file. -/
def loadRules (settings : Settings) (world : World) (given : Option String) :
    Except String (List Rule) :=
  match rulesStore settings world given with
  | .ok store => match store.list with
    | .ok rules => .ok rules
    | .error fault => .error fault.message
  | .error reason => .error reason

def validate (formula : String) : Outcome :=
  match Formula.check formula with
  | .ok () => .done ["valid"]
  | .error cause => .exit 1 s!"invalid: {cause.message}\n" ""

/-- A name with whether an expression holds of it. -/
def testLine (expr : Expr) (name : String) : String :=
  let answer := if expr.matchesName name then "match" else "no match"
  s!"{name}\t{answer}"

def test (formula : String) (names : List String) : Outcome :=
  match Formula.parse formula with
  | .ok expr => .done (names.map (testLine expr))
  | .error cause => invalidFormula cause

def tree (formula label : String) : Outcome :=
  match Formula.parse formula with
  | .ok expr => .done [(RuleTree.ofExpr expr label).toJson.writeIndented]
  | .error cause => invalidFormula cause

def countLine (conflicts : List α) : String := s!"{conflicts.length} possible conflicts"

def draftConflictLine (c : DraftConflict) : String :=
  s!"draft '{c.overlap.left}' overlaps {c.rule.roleName} ({c.rule.id.text}) on " ++
    s!"'{c.overlap.right}'"

def ruleConflictLine (c : RuleConflict) : String :=
  s!"{c.first.roleName} ('{c.overlap.left}') overlaps {c.second.roleName} ('{c.overlap.right}')"

def conflicts (rules : List Rule) (draft : Option String) (excluded : Option Uuid) : Outcome :=
  match draft with
  | some draft => match Formula.check draft with
    | .error cause => .failed s!"draft formula is invalid: {cause.message}"
    | .ok () =>
      let conflicts := conflictsWith draft rules excluded
      .done (conflicts.map draftConflictLine ++ [countLine conflicts])
  | none =>
    let conflicts := detectConflicts rules excluded
    .done (conflicts.map ruleConflictLine ++ [countLine conflicts])

/-- What the source of rules to classify by answers: a rule file that is given, else a server that
is given or that the settings name, else the rule file that they name. -/
def classifyingSource (settings : Settings) (world : World) (rules server : Option String) :
    Except String Answer :=
  match rules, server.or (settings.serverUrl.map Url.text) with
  | none, some url => match Client.ofText url with
    | .ok client => .ok (client.listTrees world.transport)
    | .error fault => .error fault.message
  | rules, _ => (rulesStore settings world rules).map RuleStore.listTrees

/-- A name with its role, or with a dash if it has none. -/
def roleLine (result : Classification) : String :=
  let role := result.role.getD "-"
  s!"{result.name}\t{role}"

/-- Classifies by a new cache. -/
def classify (settings : Settings) (answer : Answer) (names : List String) : Outcome :=
  let (cache, _) := (Cache.withTimeToLive settings.cacheTimeToLive).ensure answer
  let (_, results) := cache.classifyAll answer names
  .done (results.map roleLine)

/-- Serves a rule file whose rules can be listed. -/
def serve (settings : Settings) (world : World) (rules : Option String) (port : Option Nat) :
    Outcome :=
  match rulesStore settings world rules with
  | .error reason => .failed reason
  | .ok store => match store.list with
    | .error fault => .failed fault.message
    | .ok _ =>
      let port := port.getD settings.port
      match world.portFault port with
      | some fault => .failed fault
      | none => .serving store port

/-- Runs a command. -/
def Command.run (settings : Settings) (world : World) : Command → Outcome
  | .validate formula => CommandLine.validate formula
  | .test formula names => CommandLine.test formula names
  | .tree formula label => CommandLine.tree formula label
  | .conflicts rules draft excluded => match loadRules settings world rules with
    | .ok rules => CommandLine.conflicts rules draft excluded
    | .error reason => .failed reason
  | .classify rules server names =>
    match classifyingSource settings world rules server with
    | .ok answer => CommandLine.classify settings answer names
    | .error reason => .failed reason
  | .serve rules port => CommandLine.serve settings world rules port

/-- Runs the program. The settings are read before the arguments; the file of variables, if there is
one, adds to the variables that are set. -/
def run (lookup : Lookup) (envFile : Option String) (world : World) (arguments : List String) :
    Outcome :=
  match EnvFile.apply lookup (envFile.getD "") with
  | .error fault => .brokenDown fault.message
  | .ok lookup => match Settings.ofLookup lookup with
    | .error fault => .failed (RuleError.config fault.message).message
    | .ok settings => match Command.read arguments with
      | .ok command => command.run settings world
      | .error stop => stop.outcome

end NameRoles.CommandLine
