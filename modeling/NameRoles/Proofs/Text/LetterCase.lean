import Mathlib
import NameRoles.Text.Blank
import NameRoles.Text.Fold

/-!
# ASCII letter case

Two texts that differ only in the case of ASCII letters become the same when these letters are
lowered (`caseVariant_iff`). What does not change when a text is lowered is therefore the same for
both. The folded form is such a thing (`foldChars_map_toLower`): the letters next to a capital sigma
are cased letters in either case, so that the sigma is folded alike.
-/

namespace NameRoles.Text

/-- The same character, or the same ASCII letter in either case. -/
def SameLetter (c d : Char) : Prop :=
  c = d ∨ c.isAlpha = true ∧ d.isAlpha = true ∧ c.toLower = d.toLower

/-- The texts differ only in the case of ASCII letters. -/
def CaseVariant (a b : String) : Prop := List.Forall₂ SameLetter a.toList b.toList

variable {c d : Char} {before cs : List Char} {a b : String}

/-! ## Characters -/

theorem isAlpha_iff : c.isAlpha = true ↔
    0x41 ≤ c.toNat ∧ c.toNat ≤ 0x5A ∨ 0x61 ≤ c.toNat ∧ c.toNat ≤ 0x7A := by
  simp [Char.isAlpha, Char.isUpper, Char.isLower, UInt32.le_iff_toNat_le]

theorem toLower_of_not_isAlpha (h : c.isAlpha = false) : c.toLower = c :=
  Char.toLower_eq_of_not_isUpper fun hc => by simp [Char.isAlpha, hc] at h

/-- Lowering turns letters of ASCII into such letters and leaves the other characters, so that what
is the same for all letters is not changed by it. -/
theorem apply_toLower {α : Type*} {f : Char → α} {x : α}
    (h : ∀ c : Char, c.isAlpha = true → f c = x) (c : Char) : f c.toLower = f c := by
  cases hc : c.isAlpha with
  | true => rw [h c.toLower (by rw [Char.isAlpha_toLower_eq_isAlpha, hc]), h c hc]
  | false => rw [toLower_of_not_isAlpha hc]

/-- Ranges that end in front of the letters of ASCII, lie between these or begin behind them have
none of them. -/
theorem Ranges.has_eq_false {ranges : Ranges}
    (h : ∀ range ∈ ranges, range.2 < 0x41 ∨ 0x5A < range.1 ∧ range.2 < 0x61 ∨ 0x7A < range.1)
    (hc : c.isAlpha = true) : ranges.has c = false := by
  rw [isAlpha_iff] at hc
  rw [← Bool.not_eq_true, has_iff]
  rintro ⟨range, hmem, hfirst, hlast⟩
  have hrange := h range hmem
  omega

@[simp] theorem isBlank_toLower (c : Char) : isBlank c.toLower = isBlank c :=
  apply_toLower (fun _ => Ranges.has_eq_false (by decide)) c

@[simp] theorem isIgnorable_toLower (c : Char) : isIgnorable c.toLower = isIgnorable c :=
  apply_toLower (fun _ => Ranges.has_eq_false (by decide +kernel)) c

theorem isCased_of_isAlpha (h : c.isAlpha = true) : isCased c = true := by
  rw [isCased, Ranges.has_iff]
  rcases isAlpha_iff.mp h with h | h
  · exact ⟨(0x41, 0x5A), .head _, h⟩
  · exact ⟨(0x61, 0x7A), .tail _ (.head _), h⟩

@[simp] theorem isCased_toLower (c : Char) : isCased c.toLower = isCased c :=
  apply_toLower (fun _ => isCased_of_isAlpha) c

theorem lowerChar_of_isAlpha (h : c.isAlpha = true) : lowerChar c = [c.toLower] := by
  have hrange := isAlpha_iff.mp h
  rw [lowerChar, if_pos (by omega)]

@[simp] theorem lowerChar_toLower (c : Char) : lowerChar c.toLower = lowerChar c := by
  cases hc : c.isAlpha with
  | true =>
    have hlower : c.toLower.isAlpha = true := by rw [Char.isAlpha_toLower_eq_isAlpha, hc]
    rw [lowerChar_of_isAlpha hlower, lowerChar_of_isAlpha hc, Char.toLower_toLower_eq_toLower]
  | false => rw [toLower_of_not_isAlpha hc]

/-- Lowering makes a character of no other one but of a letter. -/
theorem toLower_eq_iff (hd : d.isAlpha = false) : c.toLower = d ↔ c = d := by
  constructor
  · rintro rfl
    rw [Char.isAlpha_toLower_eq_isAlpha] at hd
    rw [toLower_of_not_isAlpha hd]
  · rintro rfl
    exact toLower_of_not_isAlpha hd

theorem sameLetter_iff : SameLetter c d ↔ c.toLower = d.toLower := by
  constructor
  · rintro (rfl | ⟨-, -, h⟩)
    · rfl
    · exact h
  · intro h
    have halpha : c.isAlpha = d.isAlpha := by
      rw [← Char.isAlpha_toLower_eq_isAlpha c, h, Char.isAlpha_toLower_eq_isAlpha]
    cases hc : c.isAlpha with
    | true => exact .inr ⟨hc, halpha ▸ hc, h⟩
    | false =>
      have hd : d.toLower = c := by rw [← h, toLower_of_not_isAlpha hc]
      exact .inl ((toLower_eq_iff hc).mp hd).symm

/-! ## Texts -/

theorem map_eq_map_iff_forall₂ {α β : Type*} {f : α → β} {l l' : List α} :
    l.map f = l'.map f ↔ List.Forall₂ (fun x y => f x = f y) l l' := by
  rw [← List.forall₂_eq_eq_eq, List.forall₂_map_left_iff, List.forall₂_map_right_iff]

theorem caseVariant_iff_map :
    CaseVariant a b ↔ a.toList.map Char.toLower = b.toList.map Char.toLower := by
  have hsame : SameLetter = fun c d => c.toLower = d.toLower :=
    funext₂ fun _ _ => propext sameLetter_iff
  rw [map_eq_map_iff_forall₂, CaseVariant, hsame]

@[simp] theorem toList_toLower (text : String) :
    text.toLower.toList = text.toList.map Char.toLower :=
  String.toList_map

/-- Texts that differ only in letter case are the same when they are lowered. -/
theorem caseVariant_iff : CaseVariant a b ↔ a.toLower = b.toLower := by
  simp [caseVariant_iff_map, ← String.toList_inj]

@[simp] theorem startsCased_map_toLower (cs : List Char) :
    startsCased (cs.map Char.toLower) = startsCased cs := by
  have hignorable : isIgnorable ∘ Char.toLower = isIgnorable := funext isIgnorable_toLower
  have hcased : isCased ∘ Char.toLower = isCased := funext isCased_toLower
  rw [startsCased, startsCased, List.dropWhile_map, List.head?_map, Option.map_map, hignorable,
    hcased]

@[simp] theorem foldAfter_map_toLower (before cs : List Char) :
    foldAfter (before.map Char.toLower) (cs.map Char.toLower) = foldAfter before cs := by
  induction cs generalizing before with
  | nil => rfl
  | cons c cs ih =>
    have hsigma : c.toLower = 'Σ' ↔ c = 'Σ' := toLower_eq_iff (by decide)
    have hcs : foldAfter (c.toLower :: before.map Char.toLower) (cs.map Char.toLower) =
        foldAfter (c :: before) cs := ih (c :: before)
    simp [foldAfter, hsigma, hcs]

@[simp] theorem foldChars_map_toLower (cs : List Char) :
    foldChars (cs.map Char.toLower) = foldChars cs :=
  foldAfter_map_toLower [] cs

end NameRoles.Text
