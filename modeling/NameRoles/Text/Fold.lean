import NameRoles.Text.Case

/-!
# Case folding

`fold` lower-cases a text as Unicode asks: character by character, except that a capital sigma
at the end of a word becomes the final sigma. Patterns and names are compared by their folded
forms, and `occursIn` is the comparison.
-/

namespace NameRoles.Text

/-- The lower-case form of a character taken alone. -/
def lowerChar (c : Char) : List Char :=
  if c.toNat < 0x80 then [c.toLower]
  else if c = '\u0130' then ['i', '\u0307']
  else match lowerRuns.find? (·.has c.toNat) with
    | some run => [Char.ofNat (c.toNat + run.shift).toNat]
    | none => [c]

/-- Tells whether the first character that is not ignorable is a cased letter. -/
def startsCased (cs : List Char) : Bool :=
  ((cs.dropWhile isIgnorable).head?.map isCased).getD false

/-- The folded form of the text `cs`, where `before` is what precedes it, last character first.
A capital sigma is final when a cased letter precedes it and none follows. -/
def foldAfter (before : List Char) : List Char → List Char
  | [] => []
  | c :: cs =>
    (if c = 'Σ' then [if startsCased before && !startsCased cs then 'ς' else 'σ']
      else lowerChar c) ++ foldAfter (c :: before) cs

def foldChars (cs : List Char) : List Char := foldAfter [] cs

/-- The form in which a pattern and a name are compared. -/
def fold (text : String) : String := String.ofList (foldChars text.toList)

/-- Tells whether `part` is a contiguous part of a text. -/
def occursIn (part : List Char) : List Char → Bool
  | [] => part.isEmpty
  | c :: cs => part.isPrefixOf (c :: cs) || occursIn part cs

@[simp] theorem occursIn_iff {part text : List Char} :
    occursIn part text = true ↔ part <:+: text := by
  induction text with
  | nil => simp [occursIn, List.isEmpty_iff]
  | cons c cs ih => simp [occursIn, ih, List.infix_cons_iff]

end NameRoles.Text
