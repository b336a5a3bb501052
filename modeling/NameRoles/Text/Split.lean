/-!
# Splitting texts

A text is cut at each character of a kind; the pieces are one more than the cuts.
-/

namespace NameRoles.Text

/-- The pieces of a text between the characters that satisfy `cut`. -/
def splitWhere (cut : Char → Bool) : List Char → List (List Char)
  | [] => [[]]
  | c :: cs =>
    if cut c then [] :: splitWhere cut cs
    else match splitWhere cut cs with
      | [] => [[c]]
      | piece :: pieces => (c :: piece) :: pieces

/-- The lines of a text; a break at its end starts no further line. -/
def linesOf (text : String) : List (List Char) :=
  let pieces := splitWhere (· = '\n') text.toList
  let pieces := if pieces.getLast? = some [] then pieces.dropLast else pieces
  pieces.map fun line => if line.getLast? = some '\r' then line.dropLast else line

/-- The number that ASCII digits spell. -/
def decimalNumber (digits : List Char) : Nat :=
  digits.foldl (fun n c => 10 * n + (c.toNat - 48)) 0

end NameRoles.Text
