import Mathlib.Data.List.Basic
import NameRoles.Rule.Conflict

/-!
# Which operands overlap

Two operands overlap if the folded form of one contains that of the other. The search for an
overlap leaves out the operands whose folded form it has met, and yet it finds what a search through
all operands finds (`findOverlap_operandSet`): the first operand of the left formula that overlaps
one of the right formula, with the first such one (`findOverlap_eq_some_iff`). Whether it finds
anything does not depend on which formula is the left one (`isSome_findOverlap_comm`).
-/

namespace NameRoles

open Text Formula

/-- The folded form of one of the texts contains that of the other. -/
def Overlapping (a b : String) : Prop :=
  foldChars b.toList <:+: foldChars a.toList ∨ foldChars a.toList <:+: foldChars b.toList

/-- Of the operands on the left, the first that overlaps one on the right, and the first one on the
right that it overlaps. -/
structure IsFirstOverlap (left right : List String) (overlap : Overlap) : Prop where
  overlapping : Overlapping overlap.left overlap.right
  left_first : ∃ before behind, left = before ++ overlap.left :: behind ∧
    ∀ a ∈ before, ∀ b ∈ right, ¬ Overlapping a b
  right_first : ∃ before behind, right = before ++ overlap.right :: behind ∧
    ∀ b ∈ before, ¬ Overlapping overlap.left b

variable {a b F G : String} {x y : Operand} {left right : List String}
  {overlap : Overlap}

theorem IsFirstOverlap.left_mem (h : IsFirstOverlap left right overlap) : overlap.left ∈ left := by
  obtain ⟨before, behind, hleft, -⟩ := h.left_first
  simp [hleft]

theorem IsFirstOverlap.right_mem (h : IsFirstOverlap left right overlap) :
    overlap.right ∈ right := by
  obtain ⟨before, behind, hright, -⟩ := h.right_first
  simp [hright]

theorem overlapping_comm : Overlapping a b ↔ Overlapping b a := or_comm

theorem Operand.overlaps_iff : x.overlaps y = true ↔
    y.folded <:+: x.folded ∨ x.folded <:+: y.folded := by
  rw [overlaps, Bool.or_eq_true, occursIn_iff, occursIn_iff]

@[simp] theorem Operand.overlaps_ofText : (ofText a).overlaps (ofText b) = true ↔ Overlapping a b :=
  overlaps_iff

/-! ## Operands with the same folded form -/

/-- A search that looks at folded forms alone, to decide whether it stops, stops at the same operand
if those are left out whose folded form an earlier one has. -/
theorem findSome?_distinctAfter {α : Type} {f : Operand → Option α}
    (h : ∀ x y : Operand, x.folded = y.folded → (f x).isSome = (f y).isSome)
    (seen operands : List Operand) :
    (distinctAfter seen operands).findSome? f = (seen ++ operands).findSome? f := by
  fun_induction distinctAfter seen operands with
  | case1 seen => rw [List.append_nil]
  | case2 seen operand operands hseen ih =>
    obtain ⟨x, hx, hfolded⟩ := List.any_eq_true.mp hseen
    rw [ih, List.findSome?_append, List.findSome?_append, List.findSome?_cons]
    cases hf : f operand with
    | none => rfl
    | some found =>
      have hsome : (f x).isSome = true := by
        rw [h x operand (by simpa using hfolded), hf, Option.isSome_some]
      have hstop : (seen.findSome? f).isSome = true :=
        List.findSome?_isSome_iff.mpr ⟨x, hx, hsome⟩
      rw [Option.or_of_isSome hstop, Option.or_of_isSome hstop]
  | case3 seen operand operands hseen ih => rw [ih, List.append_assoc, List.singleton_append]

theorem find?_distinctAfter {p : Operand → Bool}
    (h : ∀ x y : Operand, x.folded = y.folded → p x = p y) (seen operands : List Operand) :
    (distinctAfter seen operands).find? p = (seen ++ operands).find? p := by
  rw [List.find?_eq_findSome?_guard, List.find?_eq_findSome?_guard]
  refine findSome?_distinctAfter (fun x y hxy => ?_) seen operands
  rw [Option.isSome_guard, Option.isSome_guard, h x y hxy]

/-- What is left out of the operands of two formulas changes no overlap between them. -/
theorem findOverlap_operandSet (F G : String) : findOverlap (operandSet F) (operandSet G) =
    findOverlap ((operands F).map Operand.ofText) ((operands G).map Operand.ofText) := by
  have hright (x : Operand) : (operandSet G).find? x.overlaps =
      ((operands G).map Operand.ofText).find? x.overlaps := by
    refine find?_distinctAfter (fun y z hyz => ?_) [] _
    rw [Operand.overlaps, Operand.overlaps, hyz]
  simp only [findOverlap, hright]
  refine findSome?_distinctAfter (fun x y hxy => ?_) [] _
  have hoverlaps : x.overlaps = y.overlaps := by
    funext z
    rw [Operand.overlaps, Operand.overlaps, hxy]
  rw [Option.isSome_map, Option.isSome_map, hoverlaps]

/-! ## The first overlap -/

theorem findOverlap_map_ofText (left right : List String) :
    findOverlap (left.map Operand.ofText) (right.map Operand.ofText) = left.findSome? fun a =>
      (right.find? fun b => (Operand.ofText a).overlaps (.ofText b)).map fun b => ⟨a, b⟩ := by
  simp only [findOverlap, List.findSome?_map, List.find?_map, Option.map_map]
  rfl

theorem find?_overlaps_eq_none_iff :
    (right.find? fun b => (Operand.ofText a).overlaps (.ofText b)) = none ↔
      ∀ b ∈ right, ¬ Overlapping a b := by
  simp only [List.find?_eq_none, Operand.overlaps_ofText]

theorem find?_overlaps_eq_some_iff :
    (right.find? fun b => (Operand.ofText a).overlaps (.ofText b)) = some b ↔
      Overlapping a b ∧ ∃ before behind, right = before ++ b :: behind ∧
        ∀ c ∈ before, ¬ Overlapping a c := by
  simp only [List.find?_eq_some_iff_append, Bool.not_eq_true', ← Bool.not_eq_true,
    Operand.overlaps_ofText]

/-- What is found is the first overlap, and a first overlap is found. -/
theorem findOverlap_eq_some_iff : findOverlap (operandSet F) (operandSet G) = some overlap ↔
    IsFirstOverlap (operands F) (operands G) overlap := by
  rw [findOverlap_operandSet, findOverlap_map_ofText, List.findSome?_eq_some_iff]
  simp only [Option.map_eq_some_iff, Option.map_eq_none_iff, find?_overlaps_eq_some_iff,
    find?_overlaps_eq_none_iff]
  constructor
  · rintro ⟨before, a, behind, hleft, ⟨b, ⟨hoverlap, hright⟩, rfl⟩, hbefore⟩
    exact ⟨hoverlap, ⟨before, behind, hleft, hbefore⟩, hright⟩
  · rintro ⟨hoverlap, ⟨before, behind, hleft, hbefore⟩, hright⟩
    exact ⟨before, overlap.left, behind, hleft, ⟨overlap.right, ⟨hoverlap, hright⟩, rfl⟩, hbefore⟩

/-- An overlap is found just if there is one. -/
@[simp] theorem isSome_findOverlap_iff : (findOverlap (operandSet F) (operandSet G)).isSome = true ↔
    ∃ a ∈ operands F, ∃ b ∈ operands G, Overlapping a b := by
  rw [findOverlap_operandSet, findOverlap_map_ofText, List.findSome?_isSome_iff]
  simp only [Option.isSome_map, List.find?_isSome, Operand.overlaps_ofText]

theorem isSome_findOverlap_comm (F G : String) :
    (findOverlap (operandSet F) (operandSet G)).isSome =
      (findOverlap (operandSet G) (operandSet F)).isSome := by
  rw [Bool.eq_iff_iff, isSome_findOverlap_iff, isSome_findOverlap_iff]
  constructor
  · rintro ⟨a, ha, b, hb, h⟩
    exact ⟨b, hb, a, ha, overlapping_comm.mp h⟩
  · rintro ⟨b, hb, a, ha, h⟩
    exact ⟨a, ha, b, hb, overlapping_comm.mp h⟩

end NameRoles
