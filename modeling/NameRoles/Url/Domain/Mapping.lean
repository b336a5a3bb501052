import NameRoles.Text.Range
import NameRoles.Url.Domain.MappingTable

/-!
# Mapping of characters

Before a domain name is compared or looked up, letters are read in lower case, variants of a
character as that character, and characters without a shape of their own as nothing. Some
characters may not stand in a domain name at all.
-/

namespace NameRoles.Url.Domain

open Text

/-- The characters that stand for themselves. -/
def standing : Ranges := .ofText standingText

/-- Characters `first`, `first + step`, … up to `last`, that are mapped. Several of them are mapped
to characters as far apart. -/
structure MapRun where
  first : Nat
  last : Nat
  step : Nat
  target : List Nat
deriving Repr

namespace MapRun

def has (run : MapRun) (n : Nat) : Bool :=
  decide (run.first ≤ n) && decide (n ≤ run.last) && (n - run.first) % run.step == 0

/-- What a member is mapped to. -/
def apply (run : MapRun) (n : Nat) : List Char :=
  match run.target with
  | [m] => [Char.ofNat (m + (n - run.first))]
  | target => target.map Char.ofNat

/-- The run that a word spells. -/
def ofWord? (word : List Char) : Option MapRun :=
  match splitWhere (· = ':') word with
  | [members, target] => do
    let step := if members.contains '/' then 2 else 1
    let range ← rangeOfWord? (members.takeWhile (· ≠ '/'))
    let target ← if target.isEmpty then some []
      else (splitWhere (· = '.') target).mapM hexNumber?
    return ⟨range.1, range.2, step, target⟩
  | _ => none

end MapRun

/-- The runs of mapped characters. -/
def mapRuns : List MapRun := (words mappedText).filterMap MapRun.ofWord?

/-- What a character is read as, if it may stand in a domain name. -/
def mapChar? (c : Char) : Option (List Char) :=
  if standing.has c then some [c]
  else (mapRuns.find? (·.has c.toNat)).map (·.apply c.toNat)

end NameRoles.Url.Domain
