import NameRoles.CommandLine.Arguments
import NameRoles.Rule.Basic
import NameRoles.Text.Split

/-!
# Commands

The commands of the program, and how they are spelled.
-/

namespace NameRoles.CommandLine

open Text

inductive Command where
  /-- Tells whether a formula is valid. -/
  | validate (formula : String)
  /-- Tells of each name whether a formula holds of it. -/
  | test (formula : String) (names : List String)
  /-- Shows the tree of a formula. -/
  | tree (formula label : String)
  /-- Shows the conflicts between rules, or of a draft with the rules. -/
  | conflicts (rules draft : Option String) (excluded : Option Uuid)
  /-- Shows the roles of names. -/
  | classify (rules server : Option String) (names : List String)
  /-- Serves rules to clients. -/
  | serve (rules : Option String) (port : Option Nat)
deriving DecidableEq, Repr

/-- The port that a text spells: a decimal number with or without a sign. -/
def portNumber? (text : String) : Option Nat :=
  let (isNegative, digits) := match text.toList with
    | '-' :: digits => (true, digits)
    | '+' :: digits => (false, digits)
    | digits => (false, digits)
  let port := decimalNumber digits
  let isTooSmall := isNegative && 0 < port
  if digits.isEmpty || !digits.all Char.isDigit || isTooSmall || UInt16.size ≤ port then none
  else some port

namespace OptionSpec

def rules : OptionSpec := ⟨"rules", some 'r', fun path => path ≠ ""⟩
def formula : OptionSpec := ⟨"formula", some 'f', fun _ => true⟩
def draft : OptionSpec := ⟨"formula", none, fun _ => true⟩
def label : OptionSpec := ⟨"label", some 'l', fun _ => true⟩
def exclude : OptionSpec := ⟨"exclude", none, fun id => (Uuid.parse? id).isSome⟩
def server : OptionSpec := ⟨"server", some 's', fun _ => true⟩
def port : OptionSpec := ⟨"port", some 'p', fun port => (portNumber? port).isSome⟩

end OptionSpec

namespace Command

/-- The single operand of a command. -/
def onlyOperand (a : Arguments) : Except Stop String :=
  match a.operands with
  | [operand] => .ok operand
  | _ => .error (.misuse "a formula is required")

/-- The operands of a command that needs some. -/
def someOperands (a : Arguments) : Except Stop (List String) :=
  if a.operands.isEmpty then .error (.misuse "at least one name is required") else .ok a.operands

def readValidate (arguments : List String) : Except Stop Command := do
  let a ← Arguments.read ⟨[], .one⟩ arguments
  return .validate (← onlyOperand a)

def readTest (arguments : List String) : Except Stop Command := do
  let a ← Arguments.read ⟨[.formula], .several⟩ arguments
  match a.value? "formula" with
  | some formula => return .test formula (← someOperands a)
  | none => throw (.misuse "'--formula' is required")

def readTree (arguments : List String) : Except Stop Command := do
  let a ← Arguments.read ⟨[.label], .one⟩ arguments
  return .tree (← onlyOperand a) ((a.value? "label").getD Rule.defaultLabel)

def readConflicts (arguments : List String) : Except Stop Command := do
  let a ← Arguments.read ⟨[.rules, .draft, .exclude], .none⟩ arguments
  return .conflicts (a.value? "rules") (a.value? "formula")
    ((a.value? "exclude").bind Uuid.parse?)

def readClassify (arguments : List String) : Except Stop Command := do
  let a ← Arguments.read ⟨[.rules, .server], .several⟩ arguments
  if (a.value? "rules").isSome && (a.value? "server").isSome then
    throw (.misuse "'--rules' cannot be used with '--server'")
  return .classify (a.value? "rules") (a.value? "server") (← someOperands a)

def readServe (arguments : List String) : Except Stop Command := do
  let a ← Arguments.read ⟨[.rules, .port], .none⟩ arguments
  return .serve (a.value? "rules") ((a.value? "port").bind portNumber?)

/-- The reader of a command's arguments, by the command's name. -/
def reader? : String → Option (List String → Except Stop Command)
  | "validate" => some readValidate
  | "test" => some readTest
  | "tree" => some readTree
  | "conflicts" => some readConflicts
  | "classify" => some readClassify
  | "serve" => some readServe
  | _ => none

/-- Reads a call for help, which may name a command. -/
def readHelp : List String → Stop
  | [] => .help
  | [name] =>
    if name = "help" || (reader? name).isSome then .help
    else .misuse s!"unrecognized command '{name}'"
  | _ => .misuse "unrecognized command"

/-- Reads the arguments of the program. -/
def read : List String → Except Stop Command
  | [] => .error (.misuse "a command is required")
  | "--help" :: _ => .error .help
  | "--version" :: _ => .error .version
  | "help" :: arguments => .error (readHelp arguments)
  | name :: arguments => match reader? name, name.toList with
    | some read, _ => read arguments
    | none, '-' :: 'h' :: _ => .error .help
    | none, '-' :: 'V' :: _ => .error .version
    | none, _ => .error (.misuse s!"unrecognized command '{name}'")

end Command

end NameRoles.CommandLine
