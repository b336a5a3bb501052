/-!
# Punycode

The ASCII form of a label of a domain name. The ASCII characters stand first; each other
character, in the order of code points, is entered by the distance from the one before it. A
distance is written in digits of varying weight, whose thresholds follow a running bias. `decode?`
reads what `encode` writes.
-/

namespace NameRoles.Url.Punycode

def digit (d : Nat) : Char := Char.ofNat (if d < 26 then 97 + d else 22 + d)

/-- The threshold of the digit in the given position. -/
def threshold (bias position : Nat) : Nat :=
  if position ≤ bias + 1 then 1 else if bias + 26 ≤ position then 26 else position - bias

/-- Divides until the number is small, and counts the digits that this takes. -/
def scaleDown : Nat → Nat → Nat → Nat
  | 0, delta, k => k + 36 * delta / (delta + 38)
  | fuel + 1, delta, k =>
    if 455 < delta then scaleDown fuel (delta / 35) (k + 36) else k + 36 * delta / (delta + 38)

/-- The bias behind a distance, when `count` characters have been entered. -/
def adapt (delta count : Nat) (first : Bool) : Nat :=
  let delta := if first then delta / 700 else delta / 2
  let delta := delta + delta / count
  scaleDown delta delta 0

/-- The digits of a distance, the first of them in the given position. -/
def digits (bias : Nat) : Nat → Nat → Nat → List Char
  | 0, _, _ => []
  | fuel + 1, position, q =>
    let t := threshold bias position
    if q < t then [digit q]
    else digit (t + (q - t) % (36 - t)) :: digits bias fuel (position + 36) ((q - t) / (36 - t))

/-- What is carried along while the characters outside ASCII are entered. -/
structure Progress where
  written : List Char
  /-- All characters below this one have been entered. -/
  next : Nat
  delta : Nat
  bias : Nat
  handled : Nat
  first : Bool

/-- Goes over the label once and enters each occurrence of the character `n`. -/
def enter (n : Nat) (p : Progress) (c : Char) : Progress :=
  if c.toNat < n then { p with delta := p.delta + 1 }
  else if c.toNat = n then
    { p with
      written := p.written ++ digits p.bias (p.delta + 1) 36 p.delta
      delta := 0
      bias := adapt p.delta (p.handled + 1) p.first
      handled := p.handled + 1
      first := false }
  else p

/-- Enters the characters of `points`, which stand in ascending order. -/
def enterAll (label : List Char) (p : Progress) : List Nat → Progress
  | [] => p
  | n :: points =>
    let p := { p with delta := p.delta + (n - p.next) * (p.handled + 1) }
    let p := label.foldl (enter n) p
    enterAll label { p with next := n + 1, delta := p.delta + 1 } points

/-- The encoded form of a label. -/
def encode (label : List Char) : List Char :=
  let basic := label.filter (·.toNat < 0x80)
  let points := ((label.filter (0x80 ≤ ·.toNat)).map Char.toNat).mergeSort.eraseDups
  let start := if basic.isEmpty then [] else basic ++ ['-']
  (enterAll label ⟨start, 0x80, 0, 72, basic.length, true⟩ points).written

/-! ## Decoding -/

/-- The value of a digit, a letter of either case or a decimal digit. -/
def digitValue? (c : Char) : Option Nat :=
  if c.isDigit then some (c.toNat - 22)
  else if c.isAlpha then some (c.toLower.toNat - 97)
  else none

/-- Reads the digits of a distance, of which the next stands in the given position and has the given
weight. -/
def readDistance? (bias position weight distance : Nat) : List Char → Option (Nat × List Char)
  | [] => none
  | c :: cs => do
    let value ← digitValue? c
    let t := threshold bias position
    let distance := distance + value * weight
    if value < t then some (distance, cs)
    else readDistance? bias (position + 36) (weight * (36 - t)) distance cs

/-- What has been decoded of a label. -/
structure Decoded where
  label : List Char
  /-- The character that is entered next, and the place where it may stand first. -/
  next : Nat := 0x80
  place : Nat := 0
  bias : Nat := 72
  first : Bool := true

/-- Enters the next character, given by its distance. -/
def Decoded.enter? (p : Decoded) (distance : Nat) : Option Decoded :=
  let count := p.label.length + 1
  let next := p.next + (p.place + distance) / count
  let place := (p.place + distance) % count
  if next.isValidChar then
    some {
      label := p.label.take place ++ Char.ofNat next :: p.label.drop place
      next
      place := place + 1
      bias := adapt distance count p.first
      first := false }
  else none

/-- Enters the characters whose distances stand in a text. -/
def enterFrom : Nat → Decoded → List Char → Option (List Char)
  | _, p, [] => some p.label
  | 0, _, _ :: _ => none
  | fuel + 1, p, cs => do
    let (distance, rest) ← readDistance? p.bias 36 1 0 cs
    enterFrom fuel (← p.enter? distance) rest

/-- The label with the given encoded form: the last hyphen, unless it stands first, divides the
ASCII characters from the distances. -/
def decode? (cs : List Char) : Option (List Char) :=
  let distances := (cs.reverse.takeWhile (· ≠ '-')).reverse
  let basic := cs.take (cs.length - distances.length - 1)
  if basic.isEmpty then enterFrom cs.length { label := [] } cs
  else if basic.all (·.toNat < 0x80) then enterFrom cs.length { label := basic } distances
  else none

end NameRoles.Url.Punycode
