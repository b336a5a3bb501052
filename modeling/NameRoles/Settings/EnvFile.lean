import NameRoles.Settings.Basic
import NameRoles.Text.Alphanumeric

/-!
# Files of variables

A file of variables has one assignment `NAME=value` a line. A value may be quoted, and may refer
to other variables by a dollar sign. Variables that are set already keep their values; the
assignments from the first faulty line on have no effect. A value that no variable can have is a
fault of the whole file.
-/

namespace NameRoles.EnvFile

open Text

/-- Whether the name of a variable is being read inside a value, and between which marks. -/
inductive Reference where
  | none
  | bare
  | braced
deriving DecidableEq, Repr

/-- How far a value has been read. -/
structure Progress where
  text : List Char := []
  singleQuoted : Bool := false
  doubleQuoted : Bool := false
  escaped : Bool := false
  /-- A space has ended the value. -/
  ended : Bool := false
  reference : Reference := .none
  name : List Char := []
deriving Repr

namespace Progress

/-- Replaces the reference that has been read by the variable's value. -/
def resolve (lookup : Lookup) (p : Progress) : Progress :=
  { p with
    text := p.text ++ ((lookup (String.ofList p.name)).getD "").toList
    name := []
    reference := .none }

def put (p : Progress) (c : Char) : Progress := { p with text := p.text ++ [c] }

/-- Reads a character of a value. -/
def step (lookup : Lookup) (p : Progress) (c : Char) : Option Progress :=
  if p.ended then (if c = ' ' || c = '\t' then some p else none)
  else if p.escaped then
    let p := { p with escaped := false }
    if ['\\', '\'', '"', '$', ' '].contains c then some (p.put c)
    else if c = 'n' then some (p.put '\n')
    else none
  else if p.singleQuoted then some (if c = '\'' then { p with singleQuoted := false } else p.put c)
  else match p.reference with
    | .bare =>
      if isAlphanumeric c then some { p with name := p.name ++ [c] }
      else if c = '\x7b' && p.name.isEmpty then some { p with reference := .braced }
      else
        let p := p.resolve lookup
        some (if c = '$' then { p with reference := .bare } else p.put c)
    | .braced => some (if c = '\x7d' then p.resolve lookup else { p with name := p.name ++ [c] })
    | .none =>
      if c = '$' then some { p with reference := .bare }
      else if c = '\\' then some { p with escaped := true }
      else if c = '"' then some { p with doubleQuoted := !p.doubleQuoted }
      else if p.doubleQuoted then some (p.put c)
      else if c = '\'' then some { p with singleQuoted := true }
      else if c = ' ' || c = '\t' then some { p with ended := true }
      else some (p.put c)

/-- The value, if it may end here. -/
def finish? (lookup : Lookup) (p : Progress) : Option String :=
  if p.reference = .braced || p.singleQuoted || p.doubleQuoted then none
  else some (String.ofList (p.resolve lookup).text)

end Progress

/-- Reads a value up to the end of the line or to a comment behind a space. -/
def readValue (lookup : Lookup) (p : Progress) : List Char → Option String
  | [] => p.finish? lookup
  | c :: cs =>
    if p.ended && c = '#' then p.finish? lookup
    else (p.step lookup c).bind fun p => readValue lookup p cs

/-- The name at the front of a line and what follows it. -/
def readName? (cs : List Char) : Option (String × List Char) :=
  let isPart (c : Char) : Bool := c.isAlphanum || c = '_' || c = '.'
  match cs with
  | [] => none
  | c :: _ =>
    if c.isAlpha || c = '_' then
      some (String.ofList (cs.takeWhile isPart), (cs.dropWhile isPart).dropWhile isBlank)
    else none

/-- The name that a line assigns to and the text behind the equals sign. The word `export` may stand
in front. -/
def readTarget? (cs : List Char) : Option (String × List Char) := do
  match ← readName? cs with
  | (name, '=' :: rest) => some (name, rest)
  | ("export", rest) => match ← readName? rest with
    | (name, '=' :: rest) => some (name, rest)
    | _ => none
  | _ => none

/-- The assignment of a line, or none for a blank line or a comment; a faulty line gives nothing. -/
def readLine (lookup : Lookup) (line : List Char) : Option (Option (String × String)) :=
  let cs := ((line.reverse.dropWhile isBlank).reverse).dropWhile isBlank
  match cs with
  | [] | '#' :: _ => some none
  | cs => do
    let (name, rest) ← readTarget? cs
    match rest.dropWhile isBlank with
    | [] | '#' :: _ => some (some (name, ""))
    | value => some (some (name, ← readValue lookup {} value))

/-- A variable cannot have the value that a file gives it. -/
structure Unsettable where
  name : String
deriving DecidableEq, Repr

def Unsettable.message (fault : Unsettable) : String :=
  s!"the value of {fault.name} holds a NUL character"

/-- Sets a variable that is not set yet. -/
def assign (lookup : Lookup) (name value : String) : Except Unsettable Lookup :=
  if (lookup name).isSome then .ok lookup
  else if value.toList.contains '\x00' then .error ⟨name⟩
  else .ok fun other => if other = name then some value else lookup other

/-- The variables that are set when the lines of a file have been read. -/
def applyLines (lookup : Lookup) : List (List Char) → Except Unsettable Lookup
  | [] => .ok lookup
  | line :: lines => match readLine lookup line with
    | none => .ok lookup
    | some none => applyLines lookup lines
    | some (some (name, value)) => do applyLines (← assign lookup name value) lines

/-- The variables that are set when a file of variables has been read. -/
def apply (lookup : Lookup) (text : String) : Except Unsettable Lookup :=
  applyLines lookup (linesOf text)

end NameRoles.EnvFile
