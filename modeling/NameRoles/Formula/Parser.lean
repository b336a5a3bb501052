import NameRoles.Expr
import NameRoles.Formula.Validation

/-!
# From formulas to conditions

`NOT` binds tighter than `AND`, and `AND` tighter than `OR`. Each level has a reader of its own:
it takes what it needs from the front of the tokens and hands the rest on. A reader that succeeds
has taken at least one token, which is why the descent ends; where the tokens are used up, it
meets the end of the formula.
-/

namespace NameRoles.Formula

/-- What a reader has made of the front of some tokens; fewer than `bound` are left. -/
structure Parsed (α : Type) (bound : Nat) where
  value : α
  rest : List Token
  rest_lt : rest.length < bound
deriving Repr

mutual

/-- Reads alternatives with `OR` between them. -/
def parseOr (tokens : List Token) : Except Error (Parsed Expr tokens.length) := do
  let ⟨first, rest, _⟩ ← parseAnd tokens
  let ⟨others, rest, _⟩ ← parseAlternatives rest
  return ⟨Expr.anyOf (first :: others), rest, by omega⟩
termination_by 4 * tokens.length + 3

/-- Reads on while another alternative follows. -/
def parseAlternatives (tokens : List Token) :
    Except Error (Parsed (List Expr) (tokens.length + 1)) :=
  match tokens with
  | .or :: rest => do
    let ⟨item, rest, _⟩ ← parseAnd rest
    let ⟨others, rest, _⟩ ← parseAlternatives rest
    return ⟨item :: others, rest, by simp only [List.length_cons]; omega⟩
  | tokens => .ok ⟨[], tokens, Nat.lt_succ_self _⟩
termination_by 4 * tokens.length

/-- Reads factors with `AND` between them. -/
def parseAnd (tokens : List Token) : Except Error (Parsed Expr tokens.length) := do
  let ⟨first, rest, _⟩ ← parseNot tokens
  let ⟨others, rest, _⟩ ← parseFactors rest
  return ⟨Expr.allOf (first :: others), rest, by omega⟩
termination_by 4 * tokens.length + 2

/-- Reads on while another factor follows. -/
def parseFactors (tokens : List Token) :
    Except Error (Parsed (List Expr) (tokens.length + 1)) :=
  match tokens with
  | .and :: rest => do
    let ⟨item, rest, _⟩ ← parseNot rest
    let ⟨others, rest, _⟩ ← parseFactors rest
    return ⟨item :: others, rest, by simp only [List.length_cons]; omega⟩
  | tokens => .ok ⟨[], tokens, Nat.lt_succ_self _⟩
termination_by 4 * tokens.length

/-- Reads negations and what they stand in front of. -/
def parseNot (tokens : List Token) : Except Error (Parsed Expr tokens.length) :=
  match tokens with
  | .not :: rest => do
    let ⟨operand, rest, _⟩ ← parseNot rest
    return ⟨.not operand, rest, by simp only [List.length_cons]; omega⟩
  | tokens => parsePrimary tokens
termination_by 4 * tokens.length + 1

/-- Reads a pattern or a group in parentheses. -/
def parsePrimary (tokens : List Token) : Except Error (Parsed Expr tokens.length) :=
  match tokens with
  | .pattern text :: rest => .ok ⟨.pattern text, rest, Nat.lt_succ_self _⟩
  | .opening :: rest => do
    match ← parseOr rest with
    | ⟨inner, .closing :: rest, _⟩ =>
      return ⟨inner, rest, by simp_all only [List.length_cons]; omega⟩
    | _ => throw (.unclosed 1)
  | [] | .ending :: _ => .error .danglingOperator
  | token :: _ => .error (.missingOperand token)
termination_by 4 * tokens.length

end

/-- The condition of a well-formed formula, given by its tokens. -/
def parseTokens (tokens : List Token) : Except Error Expr := do
  checkTokens tokens
  let whole ← parseOr tokens
  match whole.rest with
  | [] | .ending :: _ => return whole.value
  | token :: _ => throw (.unexpectedOperand token)

def parse (formula : String) : Except Error Expr := parseTokens (tokenize formula)

/-- Tells whether a formula holds of a name; an ill-formed formula holds of none. -/
def evaluate (formula name : String) : Bool :=
  match parse formula with
  | .ok e => e.matchesName name
  | .error _ => false

end NameRoles.Formula
