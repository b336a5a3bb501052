import NameRoles.Formula.Token

/-!
# Well-formed formulas

Tokens are read from left to right while a `Reading` keeps what the rest depends on: whether an
operand is due, which groups are open and how deep the reading stands. The first token that
cannot continue any formula ends the reading with its cause.
-/

namespace NameRoles.Formula

/-- The deepest nesting of groups and negations that a formula may have. -/
def maxNesting : Nat := 256

/-- Why a formula is refused. -/
inductive Error where
  | empty
  | unexpectedOperand (found : Token)
  | missingOperand (found : Token)
  | unmatchedClosing
  | unclosed (count : Nat)
  | danglingOperator
  | tooDeep
deriving DecidableEq, Repr, Inhabited

def Error.message : Error → String
  | .empty => "formula is empty"
  | .unexpectedOperand found => s!"expected AND, OR or ')' but found {found.text}"
  | .missingOperand found => s!"expected a pattern, NOT or '(' but found {found.text}"
  | .unmatchedClosing => "')' without a matching '('"
  | .unclosed count => s!"{count} unclosed '('"
  | .danglingOperator => "formula ends with a dangling operator"
  | .tooDeep => s!"formula nests deeper than {maxNesting} levels"

/-- What is known of a formula after some of its tokens. -/
structure Reading where
  /-- An operand is due next. -/
  expecting : Bool := true
  /-- The negations in front of each open group, innermost group first. -/
  groups : List Nat := []
  /-- Negations that wait for their operand. -/
  nots : Nat := 0
  /-- Levels of the open groups and their negations. -/
  depth : Nat := 0
deriving DecidableEq, Repr

def Reading.start : Reading := {}

/-- Reads one token. -/
def Reading.step (reading : Reading) (token : Token) : Except Error Reading :=
  if token.startsOperand && !reading.expecting then .error (.unexpectedOperand token)
  else match token with
    | .pattern _ => .ok { reading with expecting := false, nots := 0 }
    | .not =>
      if reading.depth + (reading.nots + 1) > maxNesting then .error .tooDeep
      else .ok { reading with nots := reading.nots + 1 }
    | .opening =>
      if reading.depth + (reading.nots + 1) > maxNesting then .error .tooDeep
      else .ok { reading with
        groups := reading.nots :: reading.groups
        nots := 0
        depth := reading.depth + (reading.nots + 1) }
    | .and | .or =>
      if reading.expecting then .error (.missingOperand token)
      else .ok { reading with expecting := true }
    | .closing =>
      if reading.expecting then .error (.missingOperand token)
      else match reading.groups with
        | [] => .error .unmatchedClosing
        | nots :: groups => .ok { reading with groups, depth := reading.depth - (nots + 1) }
    | .ending => .ok reading

/-- Accepts the end of the formula. -/
def Reading.finish (reading : Reading) : Except Error Unit :=
  if reading.expecting then .error .danglingOperator
  else if reading.groups.isEmpty then .ok ()
  else .error (.unclosed reading.groups.length)

/-- The tokens in front of the first `ending`. -/
def body (tokens : List Token) : List Token := tokens.takeWhile (· ≠ .ending)

/-- Accepts the tokens of a well-formed formula. What stands behind the first `ending` is not
read, and a missing one is no fault. -/
def checkTokens (tokens : List Token) : Except Error Unit :=
  match body tokens with
  | [] => .error .empty
  | token :: rest => do ((token :: rest).foldlM Reading.step Reading.start) >>= Reading.finish

def check (formula : String) : Except Error Unit := checkTokens (tokenize formula)

def isValid (formula : String) : Bool := (check formula).isOk

end NameRoles.Formula
