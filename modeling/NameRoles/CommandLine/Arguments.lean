/-!
# Arguments of a command

A command takes options, each with a value and given at most once, and operands, which may stand
between the options. Two dashes by themselves end the options. Arguments are read from left to
right, and the first that is at fault, or that asks for help, decides.
-/

namespace NameRoles.CommandLine

/-- Why no command is run. -/
inductive Stop where
  /-- Help was asked for. -/
  | help
  /-- The version was asked for. -/
  | version
  | misuse (reason : String)
deriving DecidableEq, Repr

/-- An option of a command. -/
structure OptionSpec where
  name : String
  /-- The letter that may stand for the name. -/
  letter : Option Char
  accepts : String → Bool := fun _ => true

/-- How many operands a command takes. -/
inductive Operands where
  | none
  | one
  | several
deriving DecidableEq, Repr

/-- What a command takes. -/
structure CommandSpec where
  options : List OptionSpec
  operands : Operands

/-- What has been read of the arguments. -/
structure Arguments where
  /-- The values of options, by the options' names. -/
  given : List (String × String) := []
  operands : List String := []
  /-- The option that the next argument is the value of. -/
  pending : Option OptionSpec := none
  /-- Two dashes have ended the options. -/
  onlyOperands : Bool := false

namespace Arguments

def value? (a : Arguments) (name : String) : Option String := a.given.lookup name

def missingValue (option : OptionSpec) : Stop :=
  .misuse s!"a value is required for '--{option.name}'"

/-- Takes in the value of an option. -/
def give (a : Arguments) (option : OptionSpec) (value : String) : Except Stop Arguments :=
  if !option.accepts value then
    .error (.misuse s!"invalid value '{value}' for '--{option.name}'")
  else if (a.value? option.name).isSome then
    .error (.misuse s!"'--{option.name}' cannot be used multiple times")
  else .ok { a with given := a.given ++ [(option.name, value)], pending := .none }

/-- Takes in an option that the argument names, with the value that stands in the same argument, if
there is one. -/
def takeOption (a : Arguments) (option : OptionSpec) (value : Option String) :
    Except Stop Arguments :=
  match a.pending, value with
  | some other, _ => .error (missingValue other)
  | none, some value => a.give option value
  | none, none => .ok { a with pending := some option }

/-- Answers a call for help, unless a value is due. -/
def takeHelp (a : Arguments) : Except Stop Arguments :=
  match a.pending with
  | some option => .error (missingValue option)
  | none => .error .help

/-- Takes in an operand. -/
def takeOperand (a : Arguments) (operands : Operands) (value : String) : Except Stop Arguments :=
  let isWelcome := match operands with
    | .none => false
    | .one => a.operands.isEmpty
    | .several => true
  if isWelcome then .ok { a with operands := a.operands ++ [value] }
  else .error (.misuse s!"unexpected argument '{value}'")

/-- Takes in an argument, given without its two dashes, that names an option in full; a value may
follow an equals sign. -/
def takeNamed (spec : CommandSpec) (a : Arguments) (cs : List Char) : Except Stop Arguments :=
  let name := String.ofList (cs.takeWhile (· ≠ '='))
  let value := match cs.dropWhile (· ≠ '=') with
    | _ :: value => some (String.ofList value)
    | [] => none
  match spec.options.find? (·.name = name) with
  | some option => a.takeOption option value
  | none =>
    if name = "help" && value.isNone then a.takeHelp
    else .error (.misuse s!"unexpected argument '--{name}'")

/-- Takes in an argument, given without its dash, that names an option by its letter; a value may
follow, with or without an equals sign. -/
def takeLettered (spec : CommandSpec) (a : Arguments) (letter : Char) (cs : List Char) :
    Except Stop Arguments :=
  let value := match cs with
    | [] => none
    | '=' :: value => some (String.ofList value)
    | value => some (String.ofList value)
  match spec.options.find? (·.letter = some letter) with
  | some option => a.takeOption option value
  | none =>
    if letter = 'h' then a.takeHelp
    else .error (.misuse s!"unexpected argument '-{letter}'")

/-- Takes in an argument. -/
def take (spec : CommandSpec) (a : Arguments) (argument : String) : Except Stop Arguments :=
  if a.onlyOperands then match a.pending with
    | some option => .error (missingValue option)
    | none => a.takeOperand spec.operands argument
  else match argument.toList with
    | ['-', '-'] => .ok { a with onlyOperands := true }
    | '-' :: '-' :: cs => a.takeNamed spec cs
    | '-' :: letter :: cs => a.takeLettered spec letter cs
    | _ => match a.pending with
      | some option => a.give option argument
      | none => a.takeOperand spec.operands argument

/-- Reads arguments to their end, where no value may be due. -/
def read (spec : CommandSpec) (arguments : List String) : Except Stop Arguments := do
  let a ← arguments.foldlM (take spec) {}
  match a.pending with
  | some option => .error (missingValue option)
  | none => .ok a

end Arguments

end NameRoles.CommandLine
