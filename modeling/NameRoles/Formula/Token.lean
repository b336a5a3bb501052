import NameRoles.Text.Blank

/-!
# Tokens of a formula

A formula is read as words, parentheses and blanks. `tokenize` gives the tokens of a whole
formula; a `Cursor` draws them one at a time from the text that is left.
-/

namespace NameRoles.Formula

open Text

/-- The smallest parts of a formula; `ending` stands after the last of them. -/
inductive Token where
  | pattern (text : String)
  | and
  | or
  | not
  | opening
  | closing
  | ending
deriving DecidableEq, Repr, Inhabited

/-- The token as an error message names it. -/
def Token.text : Token → String
  | .pattern text => s!"pattern '{text}'"
  | .and => "AND"
  | .or => "OR"
  | .not => "NOT"
  | .opening => "'('"
  | .closing => "')'"
  | .ending => "end of formula"

/-- Tells whether an operand may start with this token. -/
def Token.startsOperand : Token → Bool
  | .pattern _ | .not | .opening => true
  | .and | .or | .closing | .ending => false

/-- The pattern's text, if the token is a pattern. -/
def Token.pattern? : Token → Option String
  | .pattern text => some text
  | _ => none

/-- The token of a whole word: a keyword in any mixture of ASCII cases, else a pattern. -/
def Token.ofWord (word : List Char) : Token :=
  match word.map Char.toLower with
  | ['a', 'n', 'd'] => .and
  | ['o', 'r'] => .or
  | ['n', 'o', 't'] => .not
  | _ => .pattern (String.ofList word)

/-- Puts the token of a word, given last character first, in front of `rest`; an empty word has
none. -/
def flush (word : List Char) (rest : List Token) : List Token :=
  if word.isEmpty then rest else Token.ofWord word.reverse :: rest

/-- The tokens of `cs` when the unfinished word `word`, last character first, precedes it. -/
def tokensAfter (word : List Char) : List Char → List Token
  | [] => flush word [.ending]
  | c :: cs =>
    if isBlank c then flush word (tokensAfter [] cs)
    else if c = '(' then flush word (.opening :: tokensAfter [] cs)
    else if c = ')' then flush word (.closing :: tokensAfter [] cs)
    else tokensAfter (c :: word) cs

/-- The tokens of a formula; the last one is `ending` and no other is. -/
def tokenize (formula : String) : List Token := tokensAfter [] formula.toList

/-- The texts of the patterns of a formula, in order, whether or not the formula is valid. -/
def operands (formula : String) : List String := (tokenize formula).filterMap Token.pattern?

/-- A character that a word may hold. -/
def isWordChar (c : Char) : Bool := !(isBlank c || c == '(' || c == ')')

/-- The first token of `cs` and the text behind it. -/
def firstToken (cs : List Char) : Token × List Char :=
  match cs.dropWhile isBlank with
  | [] => (.ending, [])
  | c :: rest =>
    if c = '(' then (.opening, rest)
    else if c = ')' then (.closing, rest)
    else (Token.ofWord ((c :: rest).takeWhile isWordChar), (c :: rest).dropWhile isWordChar)

/-- A place in a formula from which tokens are drawn. -/
structure Cursor where
  rest : List Char
  finished : Bool
deriving Repr

def Cursor.ofFormula (formula : String) : Cursor := ⟨formula.toList, false⟩

/-- Draws a token; at the end of the text this is `ending`, however often it is asked for. -/
def Cursor.draw (cursor : Cursor) : Token × Cursor :=
  let (token, rest) := firstToken cursor.rest
  (token, { cursor with rest })

/-- Draws the next item of the sequence of tokens, which is over once `ending` has been an item. -/
def Cursor.next? (cursor : Cursor) : Option Token × Cursor :=
  if cursor.finished then (none, cursor)
  else
    let (token, cursor) := cursor.draw
    (some token, { cursor with finished := token = .ending })

/-- The two ways to ask a cursor for a token. -/
inductive Request where
  | next
  | draw
deriving DecidableEq, Repr

def Cursor.answer (cursor : Cursor) : Request → Option Token × Cursor
  | .next => cursor.next?
  | .draw => let (token, cursor) := cursor.draw; (some token, cursor)

/-- The answers to requests made one after the other. -/
def Cursor.answers (cursor : Cursor) : List Request → List (Option Token)
  | [] => []
  | request :: requests =>
    let (answer, cursor) := cursor.answer request
    answer :: cursor.answers requests

end NameRoles.Formula
