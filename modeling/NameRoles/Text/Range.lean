import NameRoles.Text.Hex
import NameRoles.Text.Split

/-!
# Sets of characters given by ranges

A property of characters is kept as the list of the code point ranges that have it. Long lists are
spelled in a text, a word for a range.
-/

namespace NameRoles.Text

/-- Closed ranges of code points, each given by its first and last member. -/
abbrev Ranges := List (Nat × Nat)

/-- Tells whether a code point lies in one of the ranges. -/
def Ranges.has (ranges : Ranges) (c : Char) : Bool :=
  ranges.any fun range => decide (range.1 ≤ c.toNat) && decide (c.toNat ≤ range.2)

theorem Ranges.has_iff {ranges : Ranges} {c : Char} :
    ranges.has c = true ↔ ∃ range ∈ ranges, range.1 ≤ c.toNat ∧ c.toNat ≤ range.2 := by
  simp [Ranges.has]

/-- The words of a text, which spaces and line breaks divide. -/
def words (text : String) : List (List Char) :=
  (splitWhere (fun c => c = ' ' || c = '\n') text.toList).filter fun word => !word.isEmpty

/-- The range that a word spells: its two ends in hexadecimal digits with a dash between them, or
its only member. -/
def rangeOfWord? (word : List Char) : Option (Nat × Nat) :=
  match splitWhere (· = '-') word with
  | [first] => (hexNumber? first).map fun n => (n, n)
  | [first, last] => do return (← hexNumber? first, ← hexNumber? last)
  | _ => none

/-- The ranges that the words of a text spell. -/
def Ranges.ofText (text : String) : Ranges := (words text).filterMap rangeOfWord?

end NameRoles.Text
