/-!
# Places in a text of lines

A `Place` is the text that is left, with the line and the column at which it starts. Both matter
in a format whose structure is shown by indentation. How many bytes precede a place decides
whether something is too long to be a key.
-/

namespace NameRoles.Yaml

structure Place where
  rest : List Char
  line : Nat
  column : Nat
  /-- How many bytes stand in front. -/
  offset : Nat
deriving Repr, Inhabited

/-- How many bytes characters take in UTF-8. -/
def byteCount (cs : List Char) : Nat := cs.foldl (fun n c => n + c.utf8Size) 0

/-- The length of the line break at the front of a text, zero if there is none. -/
def breakLength : List Char → Nat
  | '\r' :: '\n' :: _ => 2
  | '\r' :: _ | '\n' :: _ | '\x85' :: _ | '\u2028' :: _ | '\u2029' :: _ => 1
  | _ => 0

/-- What a line break means inside a scalar. The two Unicode separators stay as they are. -/
def breakText : List Char → List Char
  | '\u2028' :: _ => ['\u2028']
  | '\u2029' :: _ => ['\u2029']
  | _ => ['\n']

def atBreak (cs : List Char) : Bool := breakLength cs ≠ 0

def isSpaceOrTab (c : Char) : Bool := c = ' ' || c = '\t'

/-- A space or a tab stands at the front of a text. -/
def atSpace (cs : List Char) : Bool := (cs.head?.map isSpaceOrTab).getD false

/-- A space, a tab, a line break or the end stands at the front of a text. -/
def atGap (cs : List Char) : Bool := cs.isEmpty || atSpace cs || atBreak cs

/-- A line break or the end stands at the front of a text. -/
def atLineEnd (cs : List Char) : Bool := cs.isEmpty || atBreak cs

namespace Place

def start (cs : List Char) : Place := ⟨cs, 0, 0, 0⟩

/-- Goes over characters none of which is a line break. -/
def skip (place : Place) (count : Nat) : Place :=
  { place with
    rest := place.rest.drop count
    column := place.column + count
    offset := place.offset + byteCount (place.rest.take count) }

/-- Goes on to a later part of the same line. -/
def onLine (place : Place) (rest : List Char) : Place :=
  place.skip (place.rest.length - rest.length)

/-- Goes over a line break. -/
def nextLine (place : Place) : Place :=
  { place.skip (breakLength place.rest) with line := place.line + 1, column := 0 }

/-- Goes over a byte order mark at the start of a line. -/
def skipMark (place : Place) : Place :=
  if place.column = 0 && place.rest.head? = some '\uFEFF' then place.skip 1 else place

/-- Goes to the end of the line. -/
def lineEnd (place : Place) : Place := place.onLine (go place.rest)
where
  go : List Char → List Char
    | [] => []
    | c :: cs => if atBreak (c :: cs) then c :: cs else go cs

/-- The marker of a document's start or end stands here. -/
def atMarker (place : Place) (marker : List Char) : Bool :=
  place.column = 0 && marker.isPrefixOf place.rest && atGap (place.rest.drop marker.length)

def atDocumentStart (place : Place) : Bool := place.atMarker ['-', '-', '-']

def atDocumentEnd (place : Place) : Bool := place.atMarker ['.', '.', '.']

def atDocumentMarker (place : Place) : Bool := place.atDocumentStart || place.atDocumentEnd

end Place

end NameRoles.Yaml
