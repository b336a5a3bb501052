import NameRoles.Formula.Validation

/-!
# Faults around rules

What can go wrong while rules are loaded, fetched or served. Where the fault is found by the
reader of a format or by the system, its text is carried along.
-/

namespace NameRoles

/-- Why rules cannot be had. -/
inductive RuleError where
  | api (source message : String)
  | store (message : String)
  | config (message : String)
  | formula (cause : Formula.Error)
  | io (text : String)
  | json (text : String)
  | yaml (text : String)
  | http (text : String)
  | other (message : String)
deriving DecidableEq, Repr, Inhabited

def RuleError.message : RuleError → String
  | .api source message => s!"API error from {source}: {message}"
  | .store message => s!"Rule store error: {message}"
  | .config message => s!"Configuration error: {message}"
  | .formula cause => s!"Invalid formula: {cause.message}"
  | .io text | .json text | .yaml text | .http text => text
  | .other message => message

/-- What listing the rules of a store gives. -/
abbrev Listing := Except RuleError

/-- Why a file cannot be read. -/
inductive FileFault where
  | missing
  /-- The path leads to a directory. -/
  | directory
  /-- The path goes on behind what is no directory. -/
  | notDirectory
  | nameTooLong
  | other (text : String)
deriving DecidableEq, Repr

def FileFault.message : FileFault → String
  | .missing => "No such file or directory (os error 2)"
  | .directory => "Is a directory (os error 21)"
  | .notDirectory => "Not a directory (os error 20)"
  | .nameTooLong => "File name too long (os error 36)"
  | .other text => text

/-- A file whose bytes are no text. -/
def RuleError.fileNotText : RuleError := .io "stream did not contain valid UTF-8"

end NameRoles
