import NameRoles.Cache.Basic
import NameRoles.Url.Basic
import NameRoles.Text.Blank

/-!
# Settings

Settings are read from named variables. A variable that is absent or blank leaves the default;
the first one that cannot be read, in the order server, time-to-live, timeout, port, is
reported.
-/

namespace NameRoles

open Text

/-- Looks a variable up by its name. -/
abbrev Lookup := String → Option String

structure Settings where
  rulesFile : Option String := none
  serverUrl : Option Url := none
  /-- Seconds for which fetched rules count as fresh. -/
  cacheTimeToLive : Nat := Cache.defaultTimeToLive
  /-- Seconds after which a request is given up. -/
  httpTimeout : Nat := 10
  port : Nat := 8080
deriving DecidableEq, Repr

/-- Why settings cannot be read. -/
inductive SettingsFault where
  | badUrl (key : String) (cause : Url.Error)
  | badSeconds (key raw : String)
  | badPort (key raw : String)
deriving DecidableEq, Repr

def SettingsFault.message : SettingsFault → String
  | .badUrl key cause => s!"{key} is not a valid URL: {cause.message}"
  | .badSeconds key raw => s!"{key} must be whole seconds, got '{raw}'"
  | .badPort key raw => s!"{key} must be a port number, got '{raw}'"

/-- A whole number below a bound: digits, with or without a plus sign in front. -/
def wholeNumber? (bound : Nat) (cs : List Char) : Option Nat :=
  let digits := match cs with
    | '+' :: digits => digits
    | digits => digits
  if digits.isEmpty || !digits.all Char.isDigit then none
  else if decimalNumber digits < bound then some (decimalNumber digits)
  else none

namespace Settings

def rulesFileVariable : String := "ROLEMATCH_RULES_FILE"
def serverUrlVariable : String := "ROLEMATCH_SERVER_URL"
def cacheTimeToLiveVariable : String := "ROLEMATCH_CACHE_TTL_SECS"
def httpTimeoutVariable : String := "ROLEMATCH_HTTP_TIMEOUT_SECS"
def portVariable : String := "ROLEMATCH_PORT"

/-- The value of a variable that is not blank. -/
def given? (lookup : Lookup) (key : String) : Option String :=
  (lookup key).filter fun raw => !isAllBlank raw

def readUrl (lookup : Lookup) : Except SettingsFault (Option Url) :=
  match given? lookup serverUrlVariable with
  | none => .ok none
  | some raw => match Url.parse (trim raw) with
    | .ok url => .ok (some url)
    | .error cause => .error (.badUrl serverUrlVariable cause)

/-- Reads a whole number below a bound; `fault` says what another text is. -/
def readNumber (bound : Nat) (fault : String → SettingsFault) (lookup : Lookup) (key : String) :
    Except SettingsFault (Option Nat) :=
  match given? lookup key with
  | none => .ok none
  | some raw => match wholeNumber? bound (trim raw).toList with
    | some n => .ok (some n)
    | none => .error (fault raw)

/-- Reads a number of seconds below 2 ^ 64. -/
def readSeconds (lookup : Lookup) (key : String) : Except SettingsFault (Option Nat) :=
  readNumber UInt64.size (.badSeconds key) lookup key

/-- Reads a port number below 2 ^ 16. -/
def readPort (lookup : Lookup) : Except SettingsFault (Option Nat) :=
  readNumber UInt16.size (.badPort portVariable) lookup portVariable

/-- Reads all settings. -/
def ofLookup (lookup : Lookup) : Except SettingsFault Settings := do
  let serverUrl ← readUrl lookup
  let cacheTimeToLive ← readSeconds lookup cacheTimeToLiveVariable
  let httpTimeout ← readSeconds lookup httpTimeoutVariable
  let port ← readPort lookup
  let defaults : Settings := {}
  return {
    rulesFile := given? lookup rulesFileVariable
    serverUrl
    cacheTimeToLive := cacheTimeToLive.getD defaults.cacheTimeToLive
    httpTimeout := httpTimeout.getD defaults.httpTimeout
    port := port.getD defaults.port }

end Settings

end NameRoles
