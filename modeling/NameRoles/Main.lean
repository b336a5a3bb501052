import NameRoles.CommandLine.Run

/-!
# The program

Reads variables and files, runs the command and prints what it says. The program has no network of
its own: servers count as out of reach, and no port can be listened on.
-/

namespace NameRoles.CommandLine

/-- The fault that an error of the system tells of. -/
def faultOf : IO.Error → FileFault
  | .noFileOrDirectory .. => .missing
  | .inappropriateType _ code _ => if code = 20 then .notDirectory else .directory
  | error => .other (toString error)

/-- The bytes of a file, if it can be read. -/
def readBytes (path : String) : IO (Except FileFault ByteArray) := do
  try return .ok (← IO.FS.readBinFile path)
  catch error => return .error (faultOf error)

/-- The words of a text that may name variables. -/
def wordsOf (text : String) : List String :=
  (Text.splitWhere (fun c => !(c.isAlphanum || c = '_' || c = '.')) text.toList).map String.ofList

/-- The values of variables. -/
def readVariables (names : List String) : IO (List (String × String)) :=
  names.filterMapM fun name => do
    return (← IO.getEnv name).map fun value => (name, value)

/-- The rule file that a command may ask for. -/
def ruleFiles (lookup : Lookup) (envFile : Option String) (arguments : List String) :
    List String :=
  let lookup := ((EnvFile.apply lookup (envFile.getD "")).toOption).getD lookup
  let given := match Command.read arguments with
    | .ok (.conflicts rules _ _) | .ok (.classify rules _ _) | .ok (.serve rules _) => rules
    | _ => none
  (given.or (Settings.given? lookup Settings.rulesFileVariable)).toList

/-- Runs the program on what it finds in the environment, and gives its exit code. -/
def runHere (arguments : List String) : IO UInt32 := do
  let envFile := (← readBytes ".env").toOption.bind String.fromUTF8?
  let names := [Settings.rulesFileVariable, Settings.serverUrlVariable,
    Settings.cacheTimeToLiveVariable, Settings.httpTimeoutVariable, Settings.portVariable]
  let values ← readVariables (names ++ wordsOf (envFile.getD ""))
  let lookup : Lookup := fun name => values.lookup name
  let files ← (ruleFiles lookup envFile arguments).mapM fun path => do
    return (path, ← readBytes path)
  let world : World :=
    { files := fun path => (files.lookup path).getD (.error .missing)
      transport := Transport.unreachable
      portFault := fun _ => some "no network" }
  match run lookup envFile world arguments with
  | .exit code stdout stderr =>
    IO.print stdout
    IO.eprint stderr
    return code.toUInt32
  | .serving _ _ => return 0

end NameRoles.CommandLine

def main (arguments : List String) : IO UInt32 := NameRoles.CommandLine.runHere arguments
