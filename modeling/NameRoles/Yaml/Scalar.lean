import NameRoles.Text.Hex
import NameRoles.Yaml.Place

/-!
# Scalars

The texts of plain, quoted and block scalars. A scalar that goes on over several lines is folded:
a single line break becomes a space, and of several the first is left out.
-/

namespace NameRoles.Yaml

open Text

/-- Spaces and line breaks inside a scalar. -/
structure Gap where
  /-- The spaces in front of the first line break. -/
  spaces : List Char := []
  /-- The meaning of the line breaks. -/
  breaks : List (List Char) := []
  place : Place

/-- What a gap means. -/
def Gap.text (gap : Gap) : List Char :=
  match gap.breaks with
  | [] => gap.spaces
  | first :: more =>
    if first = ['\n'] then (if more.isEmpty then [' '] else more.flatten)
    else first ++ more.flatten

/-- Reads spaces and line breaks. Behind a line break no tab may stand in a column before
`indent`. -/
def readGap (indent : Nat) : Nat → Gap → Option Gap
  | 0, gap => some gap
  | fuel + 1, gap =>
    match gap.place.rest with
    | [] => some gap
    | c :: _ =>
      if isSpaceOrTab c then
        if gap.breaks.isEmpty then
          readGap indent fuel { gap with spaces := gap.spaces ++ [c], place := gap.place.skip 1 }
        else if c = '\t' && gap.place.column < indent then none
        else readGap indent fuel { gap with place := gap.place.skip 1 }
      else if atBreak gap.place.rest then
        readGap indent fuel { gap with
          breaks := gap.breaks ++ [breakText gap.place.rest], place := gap.place.nextLine }
      else some gap

/-- The gap at a place. -/
def gapAt (indent : Nat) (place : Place) : Option Gap :=
  readGap indent place.rest.length { place }

/-! ## Plain scalars -/

def isFlowIndicator (c : Char) : Bool := [',', '[', ']', '{', '}'].contains c

/-- The part of a plain scalar up to the next gap or to what ends the scalar, and what follows. -/
def plainPart (inFlow : Bool) : List Char → Option (List Char × List Char)
  | [] => some ([], [])
  | c :: cs =>
    if atGap (c :: cs) then some ([], c :: cs)
    else if c = ':' && atGap cs then some ([], c :: cs)
    else if inFlow && c = ':' && cs.head?.any (fun d => d = '?' || isFlowIndicator d) then none
    else if inFlow && isFlowIndicator c then some ([], c :: cs)
    else (plainPart inFlow cs).map fun (part, rest) => (c :: part, rest)

/-- A plain scalar, and whether a line break was the last that was read of it. -/
structure Plain where
  text : List Char
  place : Place
  endsLine : Bool

/-- Reads on in a plain scalar, where `text` has been read and then a gap. -/
def plainFrom (inFlow : Bool) (indent : Nat) : Nat → List Char → Gap → Option Plain
  | 0, _, _ => none
  | fuel + 1, text, gap =>
    let stopped : Plain := ⟨text, gap.place, !gap.breaks.isEmpty⟩
    if gap.place.atDocumentMarker || gap.place.rest.head? = some '#' then some stopped
    else do
      let (part, rest) ← plainPart inFlow gap.place.rest
      let place := gap.place.skip part.length
      if part.isEmpty then some stopped
      else
        let text := text ++ gap.text ++ part
        if rest.isEmpty || !atGap rest then some ⟨text, place, false⟩
        else
          let gap ← gapAt indent place
          if !inFlow && gap.place.column < indent then
            some ⟨text, gap.place, !gap.breaks.isEmpty⟩
          else plainFrom inFlow indent fuel text gap

/-- Reads a plain scalar. In a block its lines stand at `indent` or deeper; in a flow collection
only tabs have to. -/
def readPlain (inFlow : Bool) (indent : Nat) (place : Place) : Option Plain :=
  plainFrom inFlow indent (place.rest.length + 1) [] { place }

/-! ## Quoted scalars -/

/-- The character that a one-letter escape stands for. -/
def unescape? : Char → Option Char
  | '0' => some '\x00'
  | 'a' => some '\x07'
  | 'b' => some '\x08'
  | 't' | '\t' => some '\t'
  | 'n' => some '\n'
  | 'v' => some '\x0b'
  | 'f' => some '\x0c'
  | 'r' => some '\r'
  | 'e' => some '\x1b'
  | ' ' => some ' '
  | '"' => some '"'
  | '/' => some '/'
  | '\\' => some '\\'
  | 'N' => some '\x85'
  | '_' => some '\xa0'
  | 'L' => some '\u2028'
  | 'P' => some '\u2029'
  | _ => none

/-- How many digits an escape by number has. -/
def escapeSize? : Char → Option Nat
  | 'x' => some 2
  | 'u' => some 4
  | 'U' => some 8
  | _ => none

/-- Reads an escape, given without its backslash. -/
def readEscape? : List Char → Option (Char × List Char)
  | [] => none
  | c :: cs => match escapeSize? c with
    | none => (unescape? c).map (·, cs)
    | some size => do
      let n ← hexNumber? (cs.take size)
      if (cs.take size).length = size ∧ n.isValidChar then some (Char.ofNat n, cs.drop size)
      else none

/-- The part of a quoted scalar up to the next gap, an escaped line break or the closing quote, and
what follows. -/
def quotedPart (quote : Char) : Nat → List Char → Option (List Char × List Char)
  | 0, cs => some ([], cs)
  | fuel + 1, cs =>
    if atGap cs then some ([], cs)
    else match cs with
      | [] => some ([], [])
      | c :: rest =>
        if c = quote then
          if quote = '\'' && rest.head? = some '\'' then
            (quotedPart quote fuel (rest.drop 1)).map fun (part, rest) => (c :: part, rest)
          else some ([], cs)
        else if c = '\\' && quote = '"' then
          if atBreak rest then some ([], cs)
          else do
            let (c, rest) ← readEscape? rest
            let (part, rest) ← quotedPart quote fuel rest
            some (c :: part, rest)
        else (quotedPart quote fuel rest).map fun (part, rest) => (c :: part, rest)

/-- Reads on in a quoted scalar, behind its opening quote and the text that has been read. -/
def quotedFrom (quote : Char) : Nat → List Char → Place → Option (List Char × Place)
  | 0, _, _ => none
  | fuel + 1, text, place =>
    if place.atDocumentMarker || place.rest.isEmpty then none
    else do
      let (part, rest) ← quotedPart quote place.rest.length place.rest
      let place := place.onLine rest
      let text := text ++ part
      match rest with
      | [] => none
      | c :: rest =>
        if c = quote then some (text, place.skip 1)
        else if c = '\\' && atBreak rest then
          let gap ← readGap 0 rest.length { breaks := [[]], place := (place.skip 1).nextLine }
          quotedFrom quote fuel (text ++ gap.text) gap.place
        else
          let gap ← gapAt 0 place
          quotedFrom quote fuel (text ++ gap.text) gap.place

/-- Reads a quoted scalar, which starts with its quote. -/
def readQuoted (quote : Char) (place : Place) : Option (List Char × Place) :=
  quotedFrom quote (place.rest.length + 1) [] (place.skip 1)

/-! ## Block scalars -/

/-- What happens to the line breaks at the end of a block scalar. -/
inductive Chomping where
  | strip
  | clip
  | keep
deriving DecidableEq, Repr

def Chomping.ofSign? : Char → Option Chomping
  | '-' => some .strip
  | '+' => some .keep
  | _ => none

/-- The first line of a block scalar. -/
structure BlockHeader where
  chomping : Chomping := .clip
  increment : Option Nat := none
  rest : List Char

/-- Reads a chomping sign. -/
def BlockHeader.readSign (header : BlockHeader) : BlockHeader :=
  match header.rest with
  | c :: rest => match Chomping.ofSign? c with
    | some chomping => { header with chomping, rest }
    | none => header
  | [] => header

/-- Reads an indentation digit, which must not be zero. -/
def BlockHeader.readDigit? (header : BlockHeader) : Option BlockHeader :=
  match header.rest with
  | c :: rest =>
    if c = '0' then none
    else if c.isDigit then some { header with increment := some (c.toNat - 48), rest }
    else some header
  | [] => some header

/-- Reads the signs of a block scalar, in either order. -/
def readHeader? (cs : List Char) : Option BlockHeader :=
  match cs with
  | c :: _ =>
    if (Chomping.ofSign? c).isSome then ({ rest := cs } : BlockHeader).readSign.readDigit?
    else (({ rest := cs } : BlockHeader).readDigit?).map fun header =>
      if header.increment.isSome then header.readSign else header
  | [] => some { rest := cs }

/-- Line breaks in front of a line of a block scalar, and the deepest column on the way. -/
structure Margin where
  breaks : List (List Char) := []
  deepest : Nat := 0
  place : Place

/-- Reads indentation and empty lines; a known indentation is not exceeded. -/
def readMargin (indent : Option Nat) : Nat → Margin → Option Margin
  | 0, margin => some margin
  | fuel + 1, margin =>
    let narrow := (indent.map fun n => decide (margin.place.column < n)).getD true
    match margin.place.rest with
    | [] => some { margin with deepest := max margin.deepest margin.place.column }
    | c :: _ =>
      if narrow && c = ' ' then readMargin indent fuel { margin with place := margin.place.skip 1 }
      else
        let margin := { margin with deepest := max margin.deepest margin.place.column }
        if narrow && c = '\t' then none
        else if atBreak margin.place.rest then
          readMargin indent fuel { margin with
            breaks := margin.breaks ++ [breakText margin.place.rest]
            place := margin.place.nextLine }
        else some margin

/-- What has been read of a block scalar: its text, the break behind its last line, whether that
line starts with a space, and the empty lines behind it. -/
structure BlockText where
  text : List Char := []
  lastBreak : List Char := []
  spaced : Bool := false
  empties : List (List Char)
  place : Place

/-- Reads the lines of a block scalar. -/
def readLines (folded : Bool) (indent : Nat) : Nat → BlockText → Option BlockText
  | 0, block => some block
  | fuel + 1, block =>
    if block.place.column ≠ indent || block.place.rest.isEmpty then some block
    else do
      let spaced := atSpace block.place.rest
      let joint :=
        if folded && block.lastBreak = ['\n'] && !block.spaced && !spaced then
          if block.empties.isEmpty then [' '] else []
        else block.lastBreak
      let ending := block.place.lineEnd
      let line := block.place.rest.take (block.place.rest.length - ending.rest.length)
      let lastBreak := if ending.rest.isEmpty then [] else breakText ending.rest
      let next := if ending.rest.isEmpty then ending else ending.nextLine
      let margin ← readMargin (some indent) next.rest.length { place := next }
      readLines folded indent fuel
        { text := block.text ++ joint ++ block.empties.flatten ++ line
          lastBreak, spaced, empties := margin.breaks, place := margin.place }

/-- Reads a block scalar, which starts with its indicator, in a block of the given indentation,
`none` standing for the left margin of the document. -/
def readBlock (folded : Bool) (around : Option Nat) (place : Place) :
    Option (List Char × Place) := do
  let header ← readHeader? (place.rest.drop 1)
  let behind := header.rest.dropWhile isSpaceOrTab
  let place := place.onLine behind
  let place := if behind.head? = some '#' then place.lineEnd else place
  if !atLineEnd place.rest then none
  else
    let place := if place.rest.isEmpty then place else place.nextLine
    let known := header.increment.map fun n => (around.getD 0) + n
    let margin ← readMargin known place.rest.length { place }
    let indent := known.getD (max margin.deepest (max ((around.map (· + 1)).getD 0) 1))
    let block ← readLines folded indent place.rest.length
      { empties := margin.breaks, place := margin.place }
    let last := if header.chomping = .strip then [] else block.lastBreak
    let empties := if header.chomping = .keep then block.empties.flatten else []
    some (block.text ++ last ++ empties, block.place)

end NameRoles.Yaml
