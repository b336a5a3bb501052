import NameRoles.Url.Domain.Label
import NameRoles.Url.Percent

/-!
# Domain names

A domain name is read in whatever spelling: encoded bytes are decoded, characters are mapped and
composed, and labels in ASCII form stand for what they spell. It is written in ASCII.
-/

namespace NameRoles.Url.Domain

open Text

/-- The labels of a text, each well-formed. -/
def readLabels? (cs : List Char) : Option (List (List Char)) := do
  let mapped ← cs.mapM mapChar?
  let labels ← (splitWhere (· = '.') (compose mapped.flatten)).mapM readLabel?
  if labels.any (·.any isRightToLeft) && !labels.all keepsDirection then none else some labels

/-- A character that no domain name may hold. -/
def isForbidden (c : Char) : Bool :=
  c.toNat ≤ 0x20 || c.toNat = 0x7F || "%#/:<>?@[\\]^|".toList.contains c

/-- The ASCII form of a domain name. -/
def toAscii? (cs : List Char) : Option (List Char) := do
  let labels ← readLabels? (← decode? cs)
  let name := ['.'].intercalate (labels.map writeLabel)
  if name.any isForbidden then none else some name

end NameRoles.Url.Domain
