import NameRoles.Yaml.Directive
import NameRoles.Yaml.Scalar

/-!
# Tokens of a YAML stream

Indentation is made explicit: a block starts with `sequence` or `mapping` and ends with `close`.
A scalar or flow collection turns out to be a key only when a colon follows it on the same line;
the token `key` is then entered in front of it. Anchors, aliases and tags are refused.
-/

namespace NameRoles.Yaml

inductive Token where
  | directive (directive : Directive)
  | documentStart
  | documentEnd
  /-- A block sequence or mapping starts or ends. -/
  | sequence
  | mapping
  | close
  /-- A flow collection starts or ends. -/
  | flowSequence
  | flowSequenceEnd
  | flowMapping
  | flowMappingEnd
  | comma
  /-- The dash in front of an item. -/
  | item
  | key
  | value
  | scalar (text : String) (plain : Bool)
deriving DecidableEq, Repr

/-- Something that is a key if a colon follows. -/
structure Candidate where
  /-- How many tokens stand in front of it. -/
  before : Nat
  line : Nat
  column : Nat
  /-- How many bytes of the stream stand in front of it. -/
  offset : Nat
  /-- Nothing but a key may stand here. -/
  required : Bool
deriving Repr

/-- How far the stream has been read. -/
structure Scanner where
  place : Place
  /-- The tokens read so far, last one first. -/
  tokens : List Token := []
  /-- The columns of the open blocks, innermost first. -/
  blocks : List Nat := []
  /-- For each open flow collection, and last for the block, what may turn out to be a key. -/
  candidates : List (Option Candidate) := [none]
  /-- A key may start here. -/
  keyAllowed : Bool := true
deriving Repr

namespace Scanner

def inFlow (s : Scanner) : Bool := s.candidates.length > 1

/-- The column of the innermost block. -/
def indent? (s : Scanner) : Option Nat := s.blocks.head?

/-- The least column of what belongs to the innermost block. -/
def innerColumn (s : Scanner) : Nat := (s.indent?.map (· + 1)).getD 0

def push (s : Scanner) (token : Token) : Scanner := { s with tokens := token :: s.tokens }

/-- Enters tokens, given last one first, behind the first `before` ones. -/
def insert (s : Scanner) (before : Nat) (new : List Token) : Scanner :=
  let behind := s.tokens.length - before
  { s with tokens := s.tokens.take behind ++ new ++ s.tokens.drop behind }

/-- The candidate can no longer be a key: it is on an earlier line, or longer than 1024 bytes. -/
def isStale (s : Scanner) (c : Candidate) : Bool :=
  c.line < s.place.line || c.offset + 1024 < s.place.offset

/-- Drops candidates that can no longer be keys; a required one must not be among them. -/
def dropStale (s : Scanner) : Option Scanner := do
  let candidates ← s.candidates.mapM fun candidate =>
    match candidate with
    | some c => if s.isStale c then (if c.required then none else some none) else some (some c)
    | none => some none
  some { s with candidates }

/-- Gives up the innermost candidate, which must not be a required one. -/
def dropCandidate (s : Scanner) : Option Scanner :=
  match s.candidates with
  | some c :: more => if c.required then none else some { s with candidates := none :: more }
  | _ => some s

/-- Notes that a key may start here. -/
def noteCandidate (s : Scanner) : Option Scanner :=
  if !s.keyAllowed then some s
  else do
    let s ← s.dropCandidate
    let candidate : Candidate :=
      { before := s.tokens.length, line := s.place.line, column := s.place.column
        offset := s.place.offset
        required := !s.inFlow && s.indent? = some s.place.column }
    some { s with candidates := some candidate :: s.candidates.drop 1 }

/-- Opens a block at a column unless the innermost one is there already. -/
def openBlock (s : Scanner) (column : Nat) (token : Token) (before : Nat) : Scanner :=
  if s.inFlow || column < s.innerColumn then s
  else { s.insert before [token] with blocks := column :: s.blocks }

/-- Closes the blocks at columns `limit` and deeper. -/
def closeBlocks (s : Scanner) (limit : Nat) : Scanner :=
  if s.inFlow then s
  else
    let closed := s.blocks.takeWhile (limit ≤ ·)
    { s with
      blocks := s.blocks.dropWhile (limit ≤ ·)
      tokens := List.replicate closed.length .close ++ s.tokens }

/-- Goes over spaces, comments and line breaks, and over a byte order mark at the start of a line. A
tab in front of what may be a key stays, since it would blur the indentation. -/
def skipSpace : Nat → Scanner → Scanner
  | 0, s => s
  | fuel + 1, s =>
    let s := { s with place := s.place.skipMark }
    match s.place.rest with
    | [] => s
    | c :: _ =>
      if c = ' ' || (c = '\t' && (s.inFlow || !s.keyAllowed)) then
        skipSpace fuel { s with place := s.place.skip 1 }
      else if c = '#' then skipSpace fuel { s with place := s.place.lineEnd }
      else if atBreak s.place.rest then
        skipSpace fuel { s with place := s.place.nextLine, keyAllowed := s.keyAllowed || !s.inFlow }
      else s

/-- Reads a line with a directive. -/
def readDirective (s : Scanner) : Option Scanner := do
  let s ← (s.closeBlocks 0).dropCandidate
  let (directive, rest) ← Directive.read? (s.place.rest.drop 1)
  let place := (s.place.onLine rest).lineEnd
  let place := if place.rest.isEmpty then place else place.nextLine
  some { s.push (.directive directive) with place, keyAllowed := false }

/-- Reads the marker of a document's start or end. -/
def readMarker (s : Scanner) (token : Token) : Option Scanner := do
  let s ← (s.closeBlocks 0).dropCandidate
  some { s.push token with place := s.place.skip 3, keyAllowed := false }

/-- Reads the bracket that opens a flow collection. -/
def openFlow (s : Scanner) (token : Token) : Option Scanner := do
  let s ← s.noteCandidate
  some { s.push token with
    place := s.place.skip 1, keyAllowed := true, candidates := none :: s.candidates }

/-- Reads the bracket that closes a flow collection. -/
def closeFlow (s : Scanner) (token : Token) : Option Scanner := do
  let s ← s.dropCandidate
  let candidates := if s.inFlow then s.candidates.drop 1 else s.candidates
  some { s.push token with place := s.place.skip 1, keyAllowed := false, candidates }

def readComma (s : Scanner) : Option Scanner := do
  let s ← s.dropCandidate
  some { s.push .comma with place := s.place.skip 1, keyAllowed := true }

/-- Reads the dash in front of an item. -/
def readItem (s : Scanner) : Option Scanner :=
  if !s.inFlow && !s.keyAllowed then none
  else do
    let s ← (s.openBlock s.place.column .sequence s.tokens.length).dropCandidate
    some { s.push .item with place := s.place.skip 1, keyAllowed := true }

/-- Reads the question mark in front of a key. -/
def readKey (s : Scanner) : Option Scanner :=
  if !s.inFlow && !s.keyAllowed then none
  else do
    let s ← (s.openBlock s.place.column .mapping s.tokens.length).dropCandidate
    some { s.push .key with place := s.place.skip 1, keyAllowed := !s.inFlow }

/-- Reads the colon in front of a value. -/
def readValue (s : Scanner) : Option Scanner :=
  match s.candidates with
  | some c :: more =>
    let s := { s.insert c.before [.key] with candidates := none :: more }
    let s := s.openBlock c.column .mapping c.before
    some { s.push .value with place := s.place.skip 1, keyAllowed := false }
  | _ =>
    if s.inFlow then some { s.push .value with place := s.place.skip 1, keyAllowed := false }
    else if !s.keyAllowed then none
    else
      let s := s.openBlock s.place.column .mapping s.tokens.length
      some { s.push .value with place := s.place.skip 1, keyAllowed := true }

/-- Reads a block scalar. -/
def readBlockScalar (s : Scanner) (folded : Bool) : Option Scanner := do
  let s ← s.dropCandidate
  let (text, place) ← readBlock folded s.indent? s.place
  some { s.push (.scalar (String.ofList text) false) with place, keyAllowed := true }

/-- Reads a scalar in quotes. -/
def readQuotedScalar (s : Scanner) (quote : Char) : Option Scanner := do
  let s ← s.noteCandidate
  let (text, place) ← readQuoted quote s.place
  some { s.push (.scalar (String.ofList text) false) with place, keyAllowed := false }

/-- Reads a scalar without quotes. -/
def readPlainScalar (s : Scanner) : Option Scanner := do
  let s ← s.noteCandidate
  let plain ← readPlain s.inFlow s.innerColumn s.place
  some { s.push (.scalar (String.ofList plain.text) true) with
    place := plain.place, keyAllowed := plain.endsLine }

/-- Characters with which no plain scalar starts. -/
def isReserved (c : Char) : Bool :=
  ['\t', '-', '?', ':', ',', '[', ']', '{', '}', '#', '&', '*', '!', '|', '>', '\'', '"', '%', '@',
    '\x60'].contains c

/-- A plain scalar may start with `c` when `cs` follows it. -/
def startsPlain (s : Scanner) (c : Char) (cs : List Char) : Bool :=
  !isReserved c || (c = '-' && !atSpace cs) || (!s.inFlow && (c = '?' || c = ':') && !atGap cs)

/-- Reads the token that starts with `c`, which `cs` follows. -/
def readToken (s : Scanner) (c : Char) (cs : List Char) : Option Scanner :=
  if s.place.column = 0 && c = '%' then s.readDirective
  else if s.place.atDocumentStart then s.readMarker .documentStart
  else if s.place.atDocumentEnd then s.readMarker .documentEnd
  else if c = '[' then s.openFlow .flowSequence
  else if c = '{' then s.openFlow .flowMapping
  else if c = ']' then s.closeFlow .flowSequenceEnd
  else if c = '}' then s.closeFlow .flowMappingEnd
  else if c = ',' then s.readComma
  else if c = '-' && atGap cs then s.readItem
  else if c = '?' && (s.inFlow || atGap cs) then s.readKey
  else if c = ':' && (s.inFlow || atGap cs) then s.readValue
  else if (c = '|' || c = '>') && !s.inFlow then s.readBlockScalar (c = '>')
  else if c = '\'' || c = '"' then s.readQuotedScalar c
  else if s.startsPlain c cs then s.readPlainScalar
  else none

/-- Reads the rest of the stream. -/
def finish : Nat → Scanner → Option Scanner
  | 0, _ => none
  | fuel + 1, s => do
    let s ← (skipSpace (s.place.rest.length + 1) s).dropStale
    match s.place.rest with
    | [] => (s.closeBlocks 0).dropCandidate
    | c :: cs => finish fuel (← (s.closeBlocks (s.place.column + 1)).readToken c cs)

end Scanner

/-- A character that may stand in a stream. -/
def isAllowed (c : Char) : Bool :=
  let n := c.toNat
  n = 0x9 || n = 0xA || n = 0xD || (0x20 ≤ n && n ≤ 0x7E) || n = 0x85 ||
    (0xA0 ≤ n && n ≤ 0xFFFD) || 0x10000 ≤ n

/-- The tokens of a stream. -/
def tokens? (stream : String) : Option (List Token) :=
  let cs := stream.toList
  if cs.all isAllowed then
    (Scanner.finish (cs.length + 1) { place := .start cs }).map fun s => s.tokens.reverse
  else none

end NameRoles.Yaml
