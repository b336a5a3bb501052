import Mathlib.Algebra.GroupWithZero.Nat
import NameRoles.Uuid

/-!
# Identifiers are read back from their text

The hyphenated form is none of the other three: it has no brace in front, is longer than the form
without hyphens, and does not start as the mark of a resource name. So it is read by its groups
(`parse?_text`).
-/

namespace NameRoles.Uuid

open Text

theorem mapM_hexValue?_map_hexChar (digits : List (Fin 16)) :
    (digits.map hexChar).mapM hexValue? = some digits := by
  induction digits with
  | nil => rfl
  | cons d digits ih => simp [ih]

/-- Groups of the given sizes are read back if there are as many digits as the sizes say. -/
theorem readGroups_writeGroups {sizes : List Nat} {digits : List (Fin 16)}
    (h : digits.length = sizes.sum) :
    readGroups sizes (writeGroups sizes digits) = some digits := by
  induction sizes generalizing digits with
  | nil =>
    obtain rfl := List.eq_nil_of_length_eq_zero h
    rfl
  | cons size sizes ih =>
    cases sizes with
    | nil =>
      have hsize : (digits.map hexChar).length = size := by simpa using h
      rw [writeGroups, readGroups, if_pos hsize, mapM_hexValue?_map_hexChar]
    | cons next sizes =>
      rw [List.sum_cons] at h
      have hfront : ((digits.take size).map hexChar).length = size := by
        rw [List.length_map, List.length_take]
        omega
      have hrest : (digits.drop size).length = (next :: sizes).sum := by
        rw [List.length_drop]
        omega
      simp only [writeGroups, readGroups, List.take_left' hfront, List.drop_left' hfront,
        mapM_hexValue?_map_hexChar, ih hrest]
      simp

theorem length_writeGroups {size : Nat} {sizes : List Nat} {digits : List (Fin 16)}
    (h : digits.length = (size :: sizes).sum) :
    (writeGroups (size :: sizes) digits).length = digits.length + sizes.length := by
  induction sizes generalizing size digits with
  | nil => simp [writeGroups]
  | cons next sizes ih =>
    rw [List.sum_cons] at h
    have hrest : (digits.drop size).length = (next :: sizes).sum := by
      rw [List.length_drop]
      omega
    simp only [writeGroups, List.length_append, List.length_map, List.length_take,
      List.length_cons, ih hrest, List.length_drop]
    omega

theorem exists_writeGroups_eq_cons (id : Uuid) :
    ∃ d cs, writeGroups groupSizes id.digits = hexChar d :: cs := by
  obtain ⟨digits, h⟩ := id
  cases digits with
  | nil => simp at h
  | cons d digits => exact ⟨d, _, rfl⟩

theorem hexChar_ne_opening (d : Fin 16) : hexChar d ≠ '{' ∧ (hexChar d).toLower ≠ 'u' := by
  revert d
  decide

/-- An identifier is read back from its hyphenated form. -/
@[simp] theorem parse?_text (id : Uuid) : parse? id.text = some id := by
  have hread : readGroups groupSizes (writeGroups groupSizes id.digits) = some id.digits :=
    readGroups_writeGroups id.length_digits
  have hlength : (writeGroups groupSizes id.digits).length = 36 := by
    rw [groupSizes, length_writeGroups id.length_digits, id.length_digits]
    rfl
  obtain ⟨d, cs, hcs⟩ := id.exists_writeGroups_eq_cons
  have hmark : ((writeGroups groupSizes id.digits).take resourceMark.length).map Char.toLower ≠
      resourceMark := by
    rw [hcs]
    intro h
    exact (hexChar_ne_opening d).2 (List.cons.inj h).1
  rw [parse?, text, String.toList_ofList]
  split
  next h => exact absurd (List.cons.inj (hcs.symm.trans h)).1 (hexChar_ne_opening d).1
  next =>
    rw [if_neg (by omega), if_neg hmark]
    simp [hread, ofDigits?, id.length_digits]

end NameRoles.Uuid
