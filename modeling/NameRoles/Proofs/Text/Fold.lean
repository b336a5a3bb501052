import Mathlib.Data.List.TakeWhile
import NameRoles.Text.Fold

/-!
# Folding a text in its surroundings

Only capital sigmas are folded by what stands around them. `foldBetween` folds a text between two
others, and `foldChars_append` cuts the folded form of a text along the text. The folded form of a
text is found in that of every text around it just if each of its capital sigmas is `Settled`
(`foldChars_infix_iff_settled`).
-/

namespace NameRoles.Text

variable {before after before' after' cs ds : List Char} {c d : Char}

/-! ## Sigmas -/

/-- The first character that is not ignorable. -/
def firstSolid? (cs : List Char) : Option Char := cs.find? fun c => !isIgnorable c

theorem startsCased_eq (cs : List Char) : startsCased cs = (firstSolid? cs).any isCased := by
  rw [startsCased, firstSolid?, List.find?_not_eq_head?_dropWhile]
  cases (cs.dropWhile isIgnorable).head? <;> rfl

@[simp] theorem firstSolid?_append :
    firstSolid? (cs ++ ds) = (firstSolid? cs).or (firstSolid? ds) :=
  List.find?_append

/-- The folded form of a capital sigma between two texts, the first given last character first. -/
def sigmaForm (before after : List Char) : Char :=
  if startsCased before && !startsCased after then 'ς' else 'σ'

/-- A capital sigma between these two parts has the same form whatever stands around them: a cased
letter follows it, or a character without case precedes it, or both sides are decided. -/
def Settled (before after : List Char) : Prop :=
  startsCased after = true ∨
    ∃ c, firstSolid? before = some c ∧ (isCased c = false ∨ (firstSolid? after).isSome = true)

theorem Settled.sigmaForm_append (h : Settled before after) (x y : List Char) :
    sigmaForm (before ++ x) (after ++ y) = sigmaForm before after := by
  simp only [Settled, sigmaForm, startsCased_eq, firstSolid?_append] at h ⊢
  cases hb : firstSolid? before <;> cases ha : firstSolid? after <;> simp_all

theorem firstSolid?_letter : firstSolid? ['A'] = some 'A' := by decide +kernel

theorem isCased_letter : isCased 'A' = true := by decide

/-- A text in front of a sigma does not make it medial. -/
theorem sigmaForm_of_append_before (h : sigmaForm (before ++ ds) after = 'σ') :
    sigmaForm before after = 'σ' := by
  simp only [sigmaForm, startsCased_eq, firstSolid?_append] at h ⊢
  cases hb : firstSolid? before <;> simp_all

/-- A text behind a sigma does not make it final. -/
theorem sigmaForm_of_append_after (h : sigmaForm before (after ++ ds) = 'ς') :
    sigmaForm before after = 'ς' := by
  simp only [sigmaForm, startsCased_eq, firstSolid?_append] at h ⊢
  cases ha : firstSolid? after <;> simp_all

/-- A letter in front of the text or behind it changes a capital sigma that is not settled. -/
theorem sigmaForm_ne_of_not_settled (h : ¬ Settled before after) :
    sigmaForm before after = 'σ' ∧ sigmaForm (before ++ ['A']) after ≠ 'σ' ∨
      sigmaForm before after = 'ς' ∧ sigmaForm before (after ++ ['A']) ≠ 'ς' := by
  simp only [Settled, sigmaForm, startsCased_eq, firstSolid?_append, firstSolid?_letter] at h ⊢
  cases hb : firstSolid? before <;> cases ha : firstSolid? after <;> simp_all [isCased_letter]

/-! ## Texts -/

/-- The folded form of a character between two texts. -/
def foldCharBetween (before : List Char) (c : Char) (after : List Char) : List Char :=
  if c = 'Σ' then [sigmaForm before after] else lowerChar c

/-- The folded form of a text between two others, the first given last character first. -/
def foldBetween (before : List Char) : List Char → List Char → List Char
  | [], _ => []
  | c :: cs, after => foldCharBetween before c (cs ++ after) ++ foldBetween (c :: before) cs after

theorem foldAfter_append : foldAfter before (cs ++ ds) =
    foldBetween before cs ds ++ foldAfter (cs.reverse ++ before) ds := by
  induction cs generalizing before with
  | nil => rfl
  | cons c cs ih =>
    have hcons : foldAfter before (c :: (cs ++ ds)) =
        foldCharBetween before c (cs ++ ds) ++ foldAfter (c :: before) (cs ++ ds) := rfl
    rw [List.cons_append, hcons, ih, foldBetween]
    simp

theorem foldBetween_append : foldBetween before (cs ++ ds) after =
    foldBetween before cs (ds ++ after) ++ foldBetween (cs.reverse ++ before) ds after := by
  induction cs generalizing before with
  | nil => rfl
  | cons c cs ih => simp [foldBetween, ih]

theorem foldChars_eq (cs : List Char) : foldChars cs = foldBetween [] cs [] := by
  have h : foldAfter [] (cs ++ []) = foldBetween [] cs [] ++ foldAfter (cs.reverse ++ []) [] :=
    foldAfter_append
  simpa only [foldChars, foldAfter, List.append_nil] using h

/-- The folded form of a text consists of those of its parts, each in its surroundings. -/
theorem foldChars_append (a p b : List Char) : foldChars (a ++ p ++ b) =
    foldBetween [] a (p ++ b) ++ foldBetween a.reverse p b ++
      foldBetween (p.reverse ++ a.reverse) b [] := by
  rw [foldChars_eq, foldBetween_append, foldBetween_append]
  simp

/-- A text has the same folded form in surroundings in which its capital sigmas have. -/
theorem foldBetween_congr
    (h : ∀ u v, cs = u ++ 'Σ' :: v →
      sigmaForm (u.reverse ++ before) (v ++ after) =
        sigmaForm (u.reverse ++ before') (v ++ after')) :
    foldBetween before cs after = foldBetween before' cs after' := by
  induction cs generalizing before before' with
  | nil => rfl
  | cons c cs ih =>
    have hc : foldCharBetween before c (cs ++ after) =
        foldCharBetween before' c (cs ++ after') := by
      rw [foldCharBetween, foldCharBetween]
      split
      next hsigma =>
        have hform : sigmaForm before (cs ++ after) = sigmaForm before' (cs ++ after') :=
          h [] cs (by rw [hsigma]; rfl)
        rw [hform]
      next => rfl
    have hcs : foldBetween (c :: before) cs after = foldBetween (c :: before') cs after' :=
      ih fun u v hu => by simpa using h (c :: u) v (by rw [hu, List.cons_append])
    rw [foldBetween, foldBetween, hc, hcs]

/-! ## Counting sigmas -/

/-- Each capital sigma that has this form in the first surroundings has it in the second ones. -/
def KeepsForm (d : Char) (before cs after before' after' : List Char) : Prop :=
  ∀ u v, cs = u ++ 'Σ' :: v → sigmaForm (u.reverse ++ before) (v ++ after) = d →
    sigmaForm (u.reverse ++ before') (v ++ after') = d

theorem KeepsForm.append_left (h : KeepsForm d before (cs ++ ds) after before' after') :
    KeepsForm d before cs (ds ++ after) before' (ds ++ after') := fun u v hu => by
  simpa using h u (v ++ ds) (by simp [hu])

theorem KeepsForm.append_right (h : KeepsForm d before (cs ++ ds) after before' after') :
    KeepsForm d (cs.reverse ++ before) ds after (cs.reverse ++ before') after' := fun u v hu => by
  simpa using h (cs ++ u) v (by simp [hu])

theorem KeepsForm.count_char_le (h : KeepsForm d before [c] after before' after') :
    (foldCharBetween before c after).count d ≤ (foldCharBetween before' c after').count d := by
  rw [foldCharBetween, foldCharBetween]
  split
  next hsigma =>
    have hform : sigmaForm before after = d → sigmaForm before' after' = d :=
      h [] [] (by rw [hsigma]; rfl)
    simp only [List.count_singleton]
    grind
  next => exact Nat.le_refl _

/-- Where no sigma loses a form, the form is not found less often. -/
theorem KeepsForm.count_le (h : KeepsForm d before cs after before' after') :
    (foldBetween before cs after).count d ≤ (foldBetween before' cs after').count d := by
  induction cs generalizing before before' with
  | nil => exact Nat.le_refl _
  | cons c cs ih =>
    have h : KeepsForm d before ([c] ++ cs) after before' after' := h
    rw [foldBetween, foldBetween, List.count_append, List.count_append]
    exact Nat.add_le_add h.append_left.count_char_le (ih h.append_right)

theorem count_foldBetween_sigma : (foldBetween before (cs ++ 'Σ' :: ds) after).count d =
    (foldBetween before cs ('Σ' :: ds ++ after)).count d +
      (if sigmaForm (cs.reverse ++ before) (ds ++ after) = d then 1 else 0) +
      (foldBetween ('Σ' :: (cs.reverse ++ before)) ds after).count d := by
  have hsigma : foldCharBetween (cs.reverse ++ before) 'Σ' (ds ++ after) =
      [sigmaForm (cs.reverse ++ before) (ds ++ after)] := if_pos rfl
  rw [foldBetween_append, foldBetween, hsigma, List.count_append, List.count_append,
    List.count_singleton, Nat.add_assoc]
  simp only [beq_iff_eq]

/-- Where a sigma wins a form and none loses it, the form is found more often. -/
theorem KeepsForm.count_lt (h : KeepsForm d before (cs ++ 'Σ' :: ds) after before' after')
    (hne : sigmaForm (cs.reverse ++ before) (ds ++ after) ≠ d)
    (heq : sigmaForm (cs.reverse ++ before') (ds ++ after') = d) :
    (foldBetween before (cs ++ 'Σ' :: ds) after).count d <
      (foldBetween before' (cs ++ 'Σ' :: ds) after').count d := by
  have hcs := h.append_left.count_le
  have htail : KeepsForm d (cs.reverse ++ before) (['Σ'] ++ ds) after
      (cs.reverse ++ before') after' := h.append_right
  have hds : (foldBetween ('Σ' :: (cs.reverse ++ before)) ds after).count d ≤
      (foldBetween ('Σ' :: (cs.reverse ++ before')) ds after').count d :=
    htail.append_right.count_le
  rw [count_foldBetween_sigma, count_foldBetween_sigma, if_neg hne, if_pos heq]
  omega

/-! ## Texts in texts -/

/-- A text is not found between two others if one of its sigmas loses a form there which no other
one wins and which is not found outside. -/
theorem not_infix_of_keepsForm {a b : List Char}
    (h : KeepsForm d a.reverse (cs ++ 'Σ' :: ds) b [] [])
    (hne : sigmaForm (cs.reverse ++ a.reverse) (ds ++ b) ≠ d) (heq : sigmaForm cs.reverse ds = d)
    (ha : d ∉ foldBetween [] a (cs ++ 'Σ' :: ds ++ b))
    (hb : d ∉ foldBetween ((cs ++ 'Σ' :: ds).reverse ++ a.reverse) b []) :
    ¬ foldChars (cs ++ 'Σ' :: ds) <:+: foldChars (a ++ (cs ++ 'Σ' :: ds) ++ b) := by
  intro hinfix
  -- the folded text has more characters of this form than the other one, though it is a part of it
  have hlt := h.count_lt hne (by simpa using heq)
  have hle := hinfix.sublist.count_le d
  rw [foldChars_append, foldChars_eq, List.count_append, List.count_append,
    List.count_eq_zero.mpr ha, List.count_eq_zero.mpr hb] at hle
  omega

@[simp] theorem foldBetween_letter : foldBetween before ['A'] after = ['a'] := by
  rw [foldBetween, foldBetween, List.append_nil, foldCharBetween, if_neg (by decide)]
  decide +kernel

/-- Behind a letter, a sigma that becomes final there is missed. -/
theorem not_infix_letter_before (heq : sigmaForm cs.reverse ds = 'σ')
    (hne : sigmaForm (cs.reverse ++ ['A']) ds ≠ 'σ') :
    ¬ foldChars (cs ++ 'Σ' :: ds) <:+: foldChars (['A'] ++ (cs ++ 'Σ' :: ds) ++ []) := by
  have hkeeps : KeepsForm 'σ' ['A'] (cs ++ 'Σ' :: ds) [] [] [] := fun u v _ hform => by
    simpa using sigmaForm_of_append_before hform
  refine not_infix_of_keepsForm hkeeps (by simpa using hne) heq ?_ List.not_mem_nil
  rw [foldBetween_letter]
  decide

/-- In front of a letter, a sigma that is no longer final there is missed. -/
theorem not_infix_letter_after (heq : sigmaForm cs.reverse ds = 'ς')
    (hne : sigmaForm cs.reverse (ds ++ ['A']) ≠ 'ς') :
    ¬ foldChars (cs ++ 'Σ' :: ds) <:+: foldChars ([] ++ (cs ++ 'Σ' :: ds) ++ ['A']) := by
  have hkeeps : KeepsForm 'ς' [] (cs ++ 'Σ' :: ds) ['A'] [] [] := fun u v _ hform => by
    simpa using sigmaForm_of_append_after hform
  refine not_infix_of_keepsForm hkeeps (by simpa using hne) heq List.not_mem_nil ?_
  rw [foldBetween_letter]
  decide

/-- The folded form of a text is found in that of a text around it in which its capital sigmas keep
their forms. -/
theorem foldChars_infix {a b : List Char}
    (h : ∀ u v, cs = u ++ 'Σ' :: v →
      sigmaForm u.reverse v = sigmaForm (u.reverse ++ a.reverse) (v ++ b)) :
    foldChars cs <:+: foldChars (a ++ cs ++ b) := by
  have hbetween : foldBetween [] cs [] = foldBetween a.reverse cs b :=
    foldBetween_congr (by simpa only [List.append_nil] using h)
  rw [foldChars_append, foldChars_eq, hbetween]
  exact List.infix_append _ _ _

/-- The folded form of a text is found in that of every text around it just if each capital sigma in
it is settled. -/
theorem foldChars_infix_iff_settled : (∀ a b, foldChars cs <:+: foldChars (a ++ cs ++ b)) ↔
    ∀ u v, cs = u ++ 'Σ' :: v → Settled u.reverse v := by
  constructor
  · rintro h u v rfl
    by_contra hsettled
    rcases sigmaForm_ne_of_not_settled hsettled with ⟨heq, hne⟩ | ⟨heq, hne⟩
    · exact not_infix_letter_before heq hne (h ['A'] [])
    · exact not_infix_letter_after heq hne (h [] ['A'])
  · intro h a b
    exact foldChars_infix fun u v hu => ((h u v hu).sigmaForm_append a.reverse b).symm

end NameRoles.Text
