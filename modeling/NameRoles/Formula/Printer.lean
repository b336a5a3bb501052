import NameRoles.Formula.Parser

/-!
# From conditions to formulas

A condition is written with as few parentheses as its place in the formula needs. Some
conditions have no written form: an empty group, `Expr.never`, and a pattern that does not read
back as itself.
-/

namespace NameRoles.Formula

/-- A pattern that reads back as itself: one word that is no keyword. -/
def isSpellable (text : String) : Bool := tokenize text = [.pattern text, .ending]

/-- The places at which a condition is written: as a whole formula or group, between `OR`s, and
between `AND`s or behind `NOT`. -/
inductive Place where
  | whole
  | alternative
  | factor
deriving DecidableEq, Repr

/-- Puts parentheses around a text. -/
def inParens (text : List Char) : List Char := '(' :: text ++ [')']

mutual

/-- The written form of a condition at a place. -/
def spell (place : Place) : Expr → Option (List Char)
  | .pattern text => if isSpellable text then some text.toList else none
  | .not operand => (spell .factor operand).map ("NOT ".toList ++ ·)
  | .and items =>
    if items.isEmpty then none
    else (spellAll .factor items).map fun texts =>
      let text := " AND ".toList.intercalate texts
      if place = .factor then inParens text else text
  | .or items =>
    if items.isEmpty then none
    else (spellAll .alternative items).map fun texts =>
      let text := " OR ".toList.intercalate texts
      if place = .whole then text else inParens text
  | .never => none

/-- The written forms of several conditions at like places. -/
def spellAll (place : Place) : List Expr → Option (List (List Char))
  | [] => some []
  | item :: items => do
    let text ← spell place item
    let texts ← spellAll place items
    some (text :: texts)

end

/-- The formula that spells a condition, if there is one. -/
def render (e : Expr) : Option String := (spell .whole e).map String.ofList

end NameRoles.Formula
