import NameRoles.Yaml.Token

/-!
# Documents

A `Node` is a scalar, a sequence or a mapping. A stream may hold at most one document; an empty
stream or document stands for an empty plain scalar.
-/

namespace NameRoles.Yaml

inductive Node where
  | scalar (text : String) (plain : Bool)
  | sequence (items : List Node)
  | mapping (entries : List (Node × Node))
deriving Repr, Inhabited

namespace Node

/-- What stands where a node is left out. -/
def blank : Node := .scalar "" true

/-- A node and the tokens behind it. -/
abbrev Reader := List Token → Option (Node × List Token)

/-- Reads a node unless one of the given tokens shows that it is left out. -/
def blankAt (stops : List Token) (read : Reader) : Reader := fun tokens =>
  match tokens with
  | [] => none
  | token :: _ => if stops.contains token then some (blank, tokens) else read tokens

mutual

/-- Reads a node. Only in a block may a block start; in a mapping, items may stand without a block
of their own. -/
def read (inBlock bareItems : Bool) : Nat → Reader
  | 0, _ => none
  | fuel + 1, tokens =>
    match tokens with
    | .scalar text plain :: rest => some (.scalar text plain, rest)
    | .flowSequence :: rest => do
      let (items, rest) ← readFlowItems true fuel rest
      some (.sequence items, rest)
    | .flowMapping :: rest => do
      let (entries, rest) ← readFlowEntries true fuel rest
      some (.mapping entries, rest)
    | .sequence :: rest => do
      let (items, rest) ← if inBlock then readItems fuel rest else none
      some (.sequence items, rest)
    | .mapping :: rest => do
      let (entries, rest) ← if inBlock then readEntries fuel rest else none
      some (.mapping entries, rest)
    | .item :: _ => do
      let (items, rest) ← if bareItems then readBareItems fuel tokens else none
      some (.sequence items, rest)
    | _ => none

/-- Reads the items of a block sequence. -/
def readItems : Nat → List Token → Option (List Node × List Token)
  | 0, _ => none
  | fuel + 1, tokens =>
    match tokens with
    | .close :: rest => some ([], rest)
    | .item :: rest => do
      let (node, rest) ← blankAt [.item, .close] (read true false fuel) rest
      let (nodes, rest) ← readItems fuel rest
      some (node :: nodes, rest)
    | _ => none

/-- Reads the items of a sequence that is no deeper than the mapping around it. -/
def readBareItems : Nat → List Token → Option (List Node × List Token)
  | 0, _ => none
  | fuel + 1, tokens =>
    match tokens with
    | .item :: rest => do
      let (node, rest) ← blankAt [.item, .key, .value, .close] (read true false fuel) rest
      let (nodes, rest) ← readBareItems fuel rest
      some (node :: nodes, rest)
    | _ => some ([], tokens)

/-- Reads the entries of a block mapping. -/
def readEntries : Nat → List Token → Option (List (Node × Node) × List Token)
  | 0, _ => none
  | fuel + 1, tokens =>
    match tokens with
    | .close :: rest => some ([], rest)
    | .key :: rest => do
      let (key, rest) ← blankAt [.key, .value, .close] (read true true fuel) rest
      let (value, rest) ← match rest with
        | .value :: rest => blankAt [.key, .value, .close] (read true true fuel) rest
        | _ => some (blank, rest)
      let (entries, rest) ← readEntries fuel rest
      some ((key, value) :: entries, rest)
    | _ => none

/-- Reads the items of a flow sequence, of which an entry stands for a mapping of its own. The token
that shows that the key of an entry is left out is passed over with it. -/
def readFlowItems (first : Bool) : Nat → List Token → Option (List Node × List Token)
  | 0, _ => none
  | fuel + 1, tokens =>
    match tokens with
    | .flowSequenceEnd :: rest => some ([], rest)
    | _ => do
      let tokens ← match tokens with
        | .comma :: rest => if first then none else some rest
        | _ => if first then some tokens else none
      match tokens with
      | .flowSequenceEnd :: rest => some ([], rest)
      | .key :: rest => do
        let (key, rest) ← match rest with
          | .value :: rest | .comma :: rest | .flowSequenceEnd :: rest => some (blank, rest)
          | _ => read false false fuel rest
        let (value, rest) ← match rest with
          | .value :: rest => blankAt [.comma, .flowSequenceEnd] (read false false fuel) rest
          | _ => some (blank, rest)
        let (nodes, rest) ← readFlowItems false fuel rest
        some (.mapping [(key, value)] :: nodes, rest)
      | _ => do
        let (node, rest) ← read false false fuel tokens
        let (nodes, rest) ← readFlowItems false fuel rest
        some (node :: nodes, rest)

/-- Reads the entries of a flow mapping; a value may be left out. -/
def readFlowEntries (first : Bool) : Nat → List Token → Option (List (Node × Node) × List Token)
  | 0, _ => none
  | fuel + 1, tokens =>
    match tokens with
    | .flowMappingEnd :: rest => some ([], rest)
    | _ => do
      let tokens ← match tokens with
        | .comma :: rest => if first then none else some rest
        | _ => if first then some tokens else none
      match tokens with
      | .flowMappingEnd :: rest => some ([], rest)
      | .key :: rest => do
        let (key, rest) ← blankAt [.value, .comma, .flowMappingEnd] (read false false fuel) rest
        let (value, rest) ← match rest with
          | .value :: rest => blankAt [.comma, .flowMappingEnd] (read false false fuel) rest
          | _ => some (blank, rest)
        let (entries, rest) ← readFlowEntries false fuel rest
        some ((key, value) :: entries, rest)
      | _ => do
        let (node, rest) ← read false false fuel tokens
        let (entries, rest) ← readFlowEntries false fuel rest
        some ((node, blank) :: entries, rest)

end

/-- Reads the content of a document, whose start was marked or not. -/
def readDocument (marked : Bool) (tokens : List Token) : Option (Node × List Token) :=
  match tokens with
  | [] => some (blank, [])
  | .documentEnd :: _ => if marked then some (blank, tokens) else none
  | _ => read true false (2 * tokens.length + 2) tokens

/-- The directives at the front of a stream, and what follows them. -/
def splitDirectives : List Token → List Directive × List Token
  | .directive directive :: tokens =>
    let (directives, rest) := splitDirectives tokens
    (directive :: directives, rest)
  | tokens => ([], tokens)

/-- The only document of a stream, if the stream can be read. Behind directives its start has to be
marked. -/
def ofStream? (stream : String) : Option Node := do
  let (directives, tokens) := splitDirectives (← tokens? stream)
  let (node, rest) ← match tokens with
    | .documentStart :: tokens =>
      if Directive.suit directives then readDocument true tokens else none
    | _ => if directives.isEmpty then readDocument false tokens else none
  if (rest.dropWhile (· = .documentEnd)).isEmpty then some node else none

/-- The nodes that stand for the named fields of a record, the values of a mapping by their keys.
Other keys are passed over; a field given twice makes no record, and a node left out has no
fields. -/
def fields? (names : List String) : Node → Option (List (String × Node))
  | .mapping entries => do
    let named ← entries.mapM fun entry => match entry.1 with
      | .scalar name _ => some (name, entry.2)
      | _ => none
    let found := named.filter fun entry => names.contains entry.1
    if (found.map Prod.fst).Nodup then some found else none
  | .sequence _ => none
  | .scalar text plain => if text = "" && plain then some [] else none

/-- The items of a sequence; a node left out stands for the empty one. -/
def items? : Node → Option (List Node)
  | .sequence items => some items
  | .scalar text plain => if text = "" && plain then some [] else none
  | .mapping _ => none

/-- The text of a scalar of whatever style. -/
def text? : Node → Option String
  | .scalar text _ => some text
  | _ => none

/-- A plain scalar that stands for the absence of a value. -/
def isNull : Node → Bool
  | .scalar text plain => plain && ["", "~", "null", "Null", "NULL"].contains text
  | _ => false

end Node

end NameRoles.Yaml
