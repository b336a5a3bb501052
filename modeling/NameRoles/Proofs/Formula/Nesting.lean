import Mathlib.Algebra.GroupWithZero.Nat
import NameRoles.Proofs.Formula.Rendering

/-!
# How deep formulas nest

`levels` says of each pattern of a formula how many `(` and `NOT` it lies under, and `nesting` is
the deepest of them. Both are read off the tokens alone, without the bound that the reading keeps.
A formula `Says` a condition on so many levels if its tokens have a derivation, whether or not these
levels are too many. They alone decide whether it is accepted (`Says.parse_eq`).
-/

namespace NameRoles.Formula

/-- How many `(` and `NOT` each pattern lies under. In front of the tokens some groups are open, of
which `groups` has the levels that each takes with its negations, innermost first, and `nots`
negations wait for their operand. -/
def levelsFrom (groups : List Nat) (nots : Nat) : List Token → List Nat
  | [] => []
  | .pattern _ :: ts => (groups.sum + nots) :: levelsFrom groups 0 ts
  | .not :: ts => levelsFrom groups (nots + 1) ts
  | .opening :: ts => levelsFrom ((nots + 1) :: groups) 0 ts
  | .closing :: ts => levelsFrom groups.tail 0 ts
  | .and :: ts | .or :: ts | .ending :: ts => levelsFrom groups nots ts

/-- How many `(` and `NOT` each pattern of a formula lies under. -/
def levels (formula : String) : List Nat := levelsFrom [] 0 (tokenize formula)

/-- The deepest nesting of `(` and `NOT` in a formula. -/
def nesting (formula : String) : Nat := (levels formula).max?.getD 0

/-- Negations may wait in front of the symbol. -/
def Symbol.followsNot : Symbol → Bool
  | .not | .primary => true
  | .or | .alternatives | .and | .factors => false

variable {s : Symbol} {groups : List Nat} {nots above n : Nat} {rest : List Token}
  {formula : String}

theorem lt_nesting_iff : n < nesting formula ↔ ∃ m ∈ levels formula, n < m := by
  rw [nesting]
  cases h : (levels formula).max? with
  | none => simp [List.max?_eq_none_iff.mp h]
  | some deepest =>
    obtain ⟨hmem, hle⟩ := List.max?_eq_some_iff.mp h
    exact ⟨fun hn => ⟨deepest, hmem, hn⟩, fun ⟨m, hm, hn⟩ => Nat.lt_of_lt_of_le hn (hle m hm)⟩

/-! ## Levels of a derivation -/

namespace Derivation

/-- How many levels each pattern of a derivation lies under, where `above` are around all of it. -/
def levels {s : Symbol} (above : Nat) : Derivation s → List Nat
  | or first others => first.levels above ++ others.levels above
  | alternative item others => item.levels above ++ others.levels above
  | and first others => first.levels above ++ others.levels above
  | factor item others => item.levels above ++ others.levels above
  | noAlternative | noFactor => []
  | not operand => operand.levels (above + 1)
  | primary operand => operand.levels above
  | pattern _ => [above]
  | group inner => inner.levels (above + 1)

/-- The tokens of a derivation leave the open groups as they found them. -/
theorem levelsFrom_tokens (t : Derivation s) (h : s.followsNot = true ∨ nots = 0) :
    levelsFrom groups nots (t.tokens ++ rest) =
      t.levels (groups.sum + nots) ++ levelsFrom groups 0 rest := by
  induction t generalizing groups nots rest with
  | or first others ihf iho | and first others ihf iho =>
    obtain rfl : nots = 0 := by simpa [Symbol.followsNot] using h
    rw [tokens, levels, List.append_assoc, ihf (.inr rfl), iho (.inr rfl), List.append_assoc]
  | alternative item others ihi iho | factor item others ihi iho =>
    obtain rfl : nots = 0 := by simpa [Symbol.followsNot] using h
    rw [tokens, levels, List.cons_append, levelsFrom, List.append_assoc, ihi (.inr rfl),
      iho (.inr rfl), List.append_assoc]
  | noAlternative | noFactor =>
    obtain rfl : nots = 0 := by simpa [Symbol.followsNot] using h
    rfl
  | not operand ih =>
    have hoperand : levelsFrom groups (nots + 1) (operand.tokens ++ rest) =
        operand.levels (groups.sum + (nots + 1)) ++ levelsFrom groups 0 rest := ih (.inl rfl)
    exact hoperand
  | primary operand ih => exact ih (.inl rfl)
  | pattern text => rfl
  | group inner ih =>
    have hsum : (nots + 1) + groups.sum = groups.sum + nots + 1 := by omega
    rw [tokens, levels, List.cons_append, levelsFrom, List.append_assoc, ih (.inr rfl),
      List.sum_cons, Nat.add_zero, hsum]
    rfl

theorem le_of_mem_levels (t : Derivation s) (h : n ∈ t.levels above) : n ≤ above + t.nesting := by
  induction t generalizing above with
  | or _ _ ihf iho | alternative _ _ ihf iho | and _ _ ihf iho | factor _ _ ihf iho =>
    simp only [levels, List.mem_append, nesting] at h ⊢
    grind
  | noAlternative | noFactor => simp [levels] at h
  | not _ ih | group _ ih =>
    have := ih h
    simp only [nesting]
    omega
  | primary _ ih => exact ih h
  | pattern => simp_all [levels, nesting]

theorem tokens_ne_nil_of_nesting_pos (t : Derivation s) (h : 0 < t.nesting) : t.tokens ≠ [] := by
  cases t with
  | noAlternative | noFactor => simp [nesting] at h
  | or | and | not | primary | pattern | group => exact tokens_ne_nil _ (by simp) (by simp)
  | alternative | factor => simp [tokens]

/-- A pattern lies as deep as the derivation nests. -/
theorem mem_levels (t : Derivation s) (h : t.tokens ≠ []) : above + t.nesting ∈ t.levels above := by
  induction t generalizing above with
  | or first others ihf iho | and first others ihf iho =>
    have hf : above + first.nesting ∈ first.levels above :=
      ihf (first.tokens_ne_nil (by simp) (by simp))
    have ho := others.tokens_ne_nil_of_nesting_pos
    simp only [levels, nesting, List.mem_append]
    grind
  | alternative item others ihi iho | factor item others ihi iho =>
    have hi : above + item.nesting ∈ item.levels above :=
      ihi (item.tokens_ne_nil (by simp) (by simp))
    have ho := others.tokens_ne_nil_of_nesting_pos
    simp only [levels, nesting, List.mem_append]
    grind
  | noAlternative | noFactor => simp [tokens] at h
  | not operand ih =>
    have hin : above + 1 + operand.nesting ∈ operand.levels (above + 1) :=
      ih (operand.tokens_ne_nil (by simp) (by simp))
    simp only [levels, nesting]
    grind
  | primary operand ih => exact ih h
  | pattern => simp [levels, nesting]
  | group inner ih =>
    have hin : above + 1 + inner.nesting ∈ inner.levels (above + 1) :=
      ih (inner.tokens_ne_nil (by simp) (by simp))
    simp only [levels, nesting]
    grind

/-- The patterns of a formula lie as deep as those of its derivation. -/
theorem levels_eq (t : Derivation .or) (ht : t.tokens = body (tokenize formula)) :
    Formula.levels formula = t.levels 0 := by
  rw [Formula.levels, tokenize_eq_body_append, ← ht, t.levelsFrom_tokens (.inr rfl)]
  simp [levelsFrom]

/-- A formula nests as deep as its derivation. -/
theorem nesting_eq (t : Derivation .or) (ht : t.tokens = body (tokenize formula)) :
    Formula.nesting formula = t.nesting := by
  have hmax : (t.levels 0).max? = some (0 + t.nesting) :=
    List.max?_eq_some_iff.mpr
      ⟨t.mem_levels (t.tokens_ne_nil (by simp) (by simp)), fun _ => t.le_of_mem_levels⟩
  rw [Formula.nesting, t.levels_eq ht, hmax, Option.getD_some, Nat.zero_add]

end Derivation

/-! ## Too deep derivations -/

namespace Reading

variable {r : Reading} {t : Token} {ts us : List Token} {error : Error}

theorem step_operator (h : t = .or ∨ t = .and) : r.afterOperand.step t = .ok r.afterOperator := by
  obtain rfl | rfl := h
  · exact step_or
  · exact step_and

theorem run_cons_error (h : r.step t = .error error) : r.run (t :: ts) = .error error := by
  rw [run_cons, h]
  rfl

theorem run_append_error (h : r.run ts = .error error) : r.run (ts ++ us) = .error error := by
  rw [run_append, h]
  rfl

theorem checkTokens_eq_error {tokens : List Token} (h : start.run (body tokens) = .error error)
    (hne : body tokens ≠ []) : checkTokens tokens = .error error := by
  rw [checkTokens_of_ne_nil hne, h]
  rfl

end Reading

namespace Derivation

open Reading in
/-- A reading does not get over a derivation that nests deeper than it has levels to spare. -/
theorem run_tokens_tooDeep (t : Derivation s) {r : Reading} (hr : r.expecting = true)
    (h0 : s.followsNot = true ∨ r.nots = 0) (hn : r.spare < t.nesting) :
    (s.entry r).run t.tokens = .error .tooDeep := by
  induction t generalizing r with
  | or first others ihf iho | and first others ihf iho =>
    have h0 : r.nots = 0 := by simpa [Symbol.followsNot] using h0
    by_cases hf : first.nesting ≤ r.spare
    · have ho : r.spare < others.nesting := by
        simp only [nesting] at hn
        omega
      exact (run_append_ok (first.run_tokens hr hf)).trans (iho hr (.inr h0) ho)
    · exact run_append_error (ihf hr (.inr h0) (Nat.lt_of_not_le hf))
  | alternative item others ihi iho | factor item others ihi iho =>
    have h0 : r.nots = 0 := by simpa [Symbol.followsNot] using h0
    -- outside of negations an operator leaves as many levels to spare as it found
    have hspare : r.afterOperator.spare = r.spare := by simp [spare, afterOperator, h0]
    refine (run_cons_ok (step_operator (by simp))).trans ?_
    by_cases hi : item.nesting ≤ r.spare
    · have ho : r.spare < others.nesting := by
        simp only [nesting] at hn
        omega
      have hitem := item.run_tokens (r := r.afterOperator) rfl (by rwa [hspare])
      exact (run_append_ok hitem).trans (iho (r := r) hr (.inr h0) ho)
    · exact run_append_error (ihi (r := r.afterOperator) rfl (.inr rfl) (by omega))
  | noAlternative | noFactor | pattern => simp [nesting] at hn
  | not operand ih =>
    have hstep := step_not hr
    simp only [nesting] at hn
    split at hstep
    · refine (run_cons_ok hstep).trans (ih (r := r.afterNot) hr (.inl rfl) ?_)
      rw [spare_afterNot]
      omega
    · exact run_cons_error hstep
  | primary operand ih => exact ih hr (.inl rfl) hn
  | group inner ih =>
    have hstep := step_opening hr
    simp only [nesting] at hn
    split at hstep
    · have hspare : r.afterOpening.spare < inner.nesting := by
        rw [spare_afterOpening]
        omega
      exact (run_cons_ok hstep).trans
        (run_append_error (ih (r := r.afterOpening) hr (.inr rfl) hspare))
    · exact run_cons_error hstep

theorem checkTokens_eq_tooDeep {tokens : List Token} (t : Derivation .or)
    (hn : maxNesting < t.nesting) (ht : t.tokens = body tokens) :
    checkTokens tokens = .error .tooDeep := by
  have hrun := t.run_tokens_tooDeep (r := Reading.start) rfl (.inr rfl) hn
  refine Reading.checkTokens_eq_error (ht ▸ hrun) ?_
  rw [← ht]
  exact t.tokens_ne_nil (by simp) (by simp)

end Derivation

/-! ## What a formula says -/

/-- The tokens of the formula have a derivation that stands for the condition and nests so deep. -/
def Says (formula : String) (e : Expr) (n : Nat) : Prop :=
  ∃ ts, Lexes formula.toList ts ∧ Symbol.or.Gives ts e n

variable {e : Expr} {name : String}

theorem Says.exists_derivation (h : Says formula e n) :
    ∃ t : Derivation .or, t.tokens = body (tokenize formula) ∧ t.value = e ∧ t.nesting = n := by
  obtain ⟨_, hlexes, t, rfl, hvalue, hnesting⟩ := h
  refine ⟨t, ?_, hvalue, hnesting⟩
  have htokens : tokenize formula = t.tokens ++ [.ending] := hlexes
  rw [htokens, body_append_ending, body_eq_self t.ending_notMem_tokens]

theorem Says.nesting_eq (h : Says formula e n) : nesting formula = n := by
  obtain ⟨t, ht, -, hnesting⟩ := h.exists_derivation
  rw [t.nesting_eq ht, hnesting]

/-- Of the formulas that say something exactly those are accepted that do not nest too deep. -/
theorem Says.check_eq (h : Says formula e n) :
    check formula = if n ≤ maxNesting then .ok () else .error .tooDeep := by
  obtain ⟨t, ht, -, rfl⟩ := h.exists_derivation
  rw [check]
  split
  next hn => exact t.checkTokens_eq_ok hn ht
  next hn => exact t.checkTokens_eq_tooDeep (Nat.lt_of_not_le hn) ht

theorem Says.check_eq_ok_iff (h : Says formula e n) : check formula = .ok () ↔ n ≤ maxNesting := by
  rw [h.check_eq]
  split <;> simp_all

theorem Says.parse_eq (h : Says formula e n) :
    parse formula = if n ≤ maxNesting then .ok e else .error .tooDeep := by
  obtain ⟨t, ht, rfl, rfl⟩ := h.exists_derivation
  rw [parse]
  split
  next hn => exact t.parseTokens_eq_ok hn ht
  next hn =>
    exact parseTokens_of_checkTokens_error (t.checkTokens_eq_tooDeep (Nat.lt_of_not_le hn) ht)

/-- A formula that is not too deep holds of the names that its condition holds of. -/
theorem Says.evaluate_eq (h : Says formula e n) (hn : n ≤ maxNesting) :
    evaluate formula name = e.matchesName name := by
  rw [evaluate, h.parse_eq, if_pos hn]

theorem exists_says_of_isValid (h : isValid formula = true) :
    ∃ e, Says formula e (nesting formula) ∧ nesting formula ≤ maxNesting ∧
      parse formula = .ok e := by
  obtain ⟨e, he⟩ := isValid_iff_exists_parse.mp h
  obtain ⟨t, ht, hn, rfl⟩ := exists_derivation_of_parse he
  rw [t.nesting_eq ht]
  refine ⟨t.value, ⟨t.tokens, ?_, t, rfl, rfl, rfl⟩, hn, he⟩
  rw [ht]
  exact tokenize_eq_body_append formula

end NameRoles.Formula
