import Mathlib.Data.List.TakeWhile
import NameRoles.Proofs.Formula.Grammar

/-!
# The reading recognises the grammar

A reading gets over the tokens of a derivation if it has as many levels to spare as the derivation
nests (`Derivation.run_tokens`). Conversely the tokens that complete a formula begin with those of
a derivation which does not nest deeper than that (`Reading.front_or`). Together they say which
token lists are accepted (`checkTokens_eq_ok_iff_derives`).
-/

namespace NameRoles.Formula

namespace Reading

/-- Reads tokens one after the other. -/
def run (r : Reading) (ts : List Token) : Except Error Reading := ts.foldlM step r

/-- The tokens complete a formula. -/
def Accepts (r : Reading) (ts : List Token) : Prop := r.run ts >>= finish = .ok ()

/-- The reading behind an operand. -/
def afterOperand (r : Reading) : Reading := { r with expecting := false, nots := 0 }

/-- The reading behind an operator. -/
def afterOperator (r : Reading) : Reading := { r with expecting := true, nots := 0 }

/-- The reading behind a negation. -/
def afterNot (r : Reading) : Reading := { r with nots := r.nots + 1 }

/-- The reading behind an opening parenthesis. -/
def afterOpening (r : Reading) : Reading :=
  { r with groups := r.nots :: r.groups, nots := 0, depth := r.depth + (r.nots + 1) }

/-- The levels that may still nest. -/
def spare (r : Reading) : Nat := maxNesting - (r.depth + r.nots)

variable {r : Reading} {t : Token} {ts us : List Token}

@[simp] theorem run_nil : r.run [] = .ok r := rfl

theorem run_cons : r.run (t :: ts) = r.step t >>= fun r => r.run ts := by
  simp [run]

theorem run_append : r.run (ts ++ us) = r.run ts >>= fun r => r.run us := by
  simp [run, List.foldlM_append]

@[simp] theorem spare_afterNot : r.afterNot.spare = r.spare - 1 := by
  simp only [spare, afterNot]
  omega

@[simp] theorem spare_afterOpening : r.afterOpening.spare = r.spare - 1 := by
  simp only [spare, afterOpening]
  omega

theorem spare_le_afterOperator : r.spare ≤ r.afterOperator.spare := by
  simp only [spare, afterOperator]
  omega

/-! ## Single steps -/

theorem step_pattern {text : String} (h : r.expecting = true) :
    r.step (.pattern text) = .ok r.afterOperand := by
  simp [step, Token.startsOperand, h, afterOperand]

theorem step_not (h : r.expecting = true) :
    r.step .not = if 0 < r.spare then .ok r.afterNot else .error .tooDeep := by
  simp only [step, Token.startsOperand, h, spare, afterNot]
  grind

theorem step_opening (h : r.expecting = true) :
    r.step .opening = if 0 < r.spare then .ok r.afterOpening else .error .tooDeep := by
  simp only [step, Token.startsOperand, h, spare, afterOpening]
  grind

@[simp] theorem step_or : r.afterOperand.step .or = .ok r.afterOperator := by
  simp [step, Token.startsOperand, afterOperand, afterOperator]

@[simp] theorem step_and : r.afterOperand.step .and = .ok r.afterOperator := by
  simp [step, Token.startsOperand, afterOperand, afterOperator]

/-- A closing parenthesis gives back the levels that its group has taken. -/
@[simp] theorem step_closing : r.afterOpening.afterOperand.step .closing = .ok r.afterOperand := by
  simp [step, Token.startsOperand, afterOpening, afterOperand]

theorem step_startsOperand (h : t.startsOperand = true) (hr : r.expecting = false) :
    r.step t = .error (.unexpectedOperand t) := by
  simp [step, h, hr]

theorem step_missingOperand (h : t.startsOperand = false) (ht : t ≠ .ending)
    (hr : r.expecting = true) : r.step t = .error (.missingOperand t) := by
  cases t <;> simp_all [step, Token.startsOperand]

theorem run_cons_ok {next : Reading} (h : r.step t = .ok next) : r.run (t :: ts) = next.run ts := by
  rw [run_cons, h]
  rfl

theorem run_append_ok {next : Reading} (h : r.run ts = .ok next) :
    r.run (ts ++ us) = next.run us := by
  rw [run_append, h]
  rfl

end Reading

/-! ## From derivations to readings -/

/-- Where the reading stands when a symbol is met. -/
def Symbol.entry (r : Reading) : Symbol → Reading
  | .alternatives | .factors => r.afterOperand
  | .or | .and | .not | .primary => r

open Reading in
/-- A reading with enough levels to spare gets over what a derivation spells. -/
theorem Derivation.run_tokens {s : Symbol} (t : Derivation s) {r : Reading}
    (hr : r.expecting = true) (hn : t.nesting ≤ r.spare) :
    (s.entry r).run t.tokens = .ok r.afterOperand := by
  induction t generalizing r with
  | or _ _ ihf iho | and _ _ ihf iho =>
    obtain ⟨hf, ho⟩ := Nat.max_le.mp hn
    exact (run_append_ok (ihf hr hf)).trans (iho hr ho)
  | noAlternative | noFactor => rfl
  | alternative item others ihi iho =>
    obtain ⟨hi, ho⟩ := Nat.max_le.mp hn
    have hitem := ihi (r := r.afterOperator) rfl (Nat.le_trans hi spare_le_afterOperator)
    calc r.afterOperand.run (.or :: (item.tokens ++ others.tokens))
        = r.afterOperator.run (item.tokens ++ others.tokens) := run_cons_ok step_or
      _ = r.afterOperand.run others.tokens := run_append_ok hitem
      _ = .ok r.afterOperand := iho hr ho
  | factor item others ihi iho =>
    obtain ⟨hi, ho⟩ := Nat.max_le.mp hn
    have hitem := ihi (r := r.afterOperator) rfl (Nat.le_trans hi spare_le_afterOperator)
    calc r.afterOperand.run (.and :: (item.tokens ++ others.tokens))
        = r.afterOperator.run (item.tokens ++ others.tokens) := run_cons_ok step_and
      _ = r.afterOperand.run others.tokens := run_append_ok hitem
      _ = .ok r.afterOperand := iho hr ho
  | not _ ih =>
    have hpos : 0 < r.spare := Nat.lt_of_lt_of_le (Nat.succ_pos _) hn
    have hstep : r.step .not = .ok r.afterNot := by rw [step_not hr, if_pos hpos]
    refine (run_cons_ok hstep).trans (ih (r := r.afterNot) hr ?_)
    rw [spare_afterNot]
    exact Nat.le_sub_one_of_lt hn
  | primary _ ih => exact ih hr hn
  | pattern text => exact run_cons_ok (step_pattern hr)
  | group inner ih =>
    have hpos : 0 < r.spare := Nat.lt_of_lt_of_le (Nat.succ_pos _) hn
    have hstep : r.step .opening = .ok r.afterOpening := by rw [step_opening hr, if_pos hpos]
    have hinner : r.afterOpening.run inner.tokens = .ok r.afterOpening.afterOperand := by
      refine ih (r := r.afterOpening) hr ?_
      rw [spare_afterOpening]
      exact Nat.le_sub_one_of_lt hn
    calc r.run (.opening :: (inner.tokens ++ [.closing]))
        = r.afterOpening.run (inner.tokens ++ [.closing]) := run_cons_ok hstep
      _ = r.afterOpening.afterOperand.run [.closing] := run_append_ok hinner
      _ = .ok r.afterOperand := run_cons_ok step_closing

/-! ## From readings to derivations -/

namespace Reading

variable {r next : Reading} {t : Token} {ts us : List Token}

@[simp] theorem accepts_nil : r.Accepts [] ↔ r.expecting = false ∧ r.groups = [] := by
  simp only [Accepts, run_nil]
  show r.finish = .ok () ↔ _
  simp only [finish]
  grind

theorem accepts_cons_ok (h : r.step t = .ok next) : r.Accepts (t :: ts) ↔ next.Accepts ts := by
  rw [Accepts, run_cons_ok h, Accepts]

theorem not_accepts_of_error {e : Error} (h : r.step t = .error e) : ¬ r.Accepts (t :: ts) := by
  rw [Accepts, run_cons, h]
  exact nofun

/-- The tokens begin with those of a derivation that the reading has levels enough for, no operator
carries it on, and what stands behind it completes the formula. -/
def Front (r : Reading) (s : Symbol) (ts : List Token) : Prop :=
  ∃ (t : Derivation s) (rest : List Token),
    ts = t.tokens ++ rest ∧ t.nesting ≤ r.spare ∧ r.afterOperand.Accepts rest ∧ s.EndsBefore rest

/-- A negation that is accepted has had a level to take. -/
theorem Accepts.of_not (h : r.Accepts (.not :: ts)) (hr : r.expecting = true) :
    0 < r.spare ∧ r.afterNot.Accepts ts := by
  have hstep := step_not hr
  split at hstep
  next hpos => exact ⟨hpos, (accepts_cons_ok hstep).mp h⟩
  next => exact absurd h (not_accepts_of_error hstep)

/-- An opening parenthesis that is accepted has had a level to take. -/
theorem Accepts.of_opening (h : r.Accepts (.opening :: ts)) (hr : r.expecting = true) :
    0 < r.spare ∧ r.afterOpening.Accepts ts := by
  have hstep := step_opening hr
  split at hstep
  next hpos => exact ⟨hpos, (accepts_cons_ok hstep).mp h⟩
  next => exact absurd h (not_accepts_of_error hstep)

/-- Behind an operand that no operator carries on, a group can only be closed. -/
theorem Accepts.eq_nil_or_closing (h : r.afterOperand.Accepts ts) (hend : Symbol.or.EndsBefore ts)
    (he : .ending ∉ ts) : ts = [] ∨ ∃ rest, ts = .closing :: rest := by
  cases ts with
  | nil => exact .inl rfl
  | cons t rest =>
    cases t with
    | closing => exact .inr ⟨rest, rfl⟩
    | ending => simp at he
    | or | and => simp [Symbol.EndsBefore, Symbol.goesOn] at hend
    | pattern | not | opening =>
      exact absurd h (not_accepts_of_error (step_startsOperand rfl rfl))

/-- Behind a whole group its closing parenthesis stands. -/
theorem Accepts.exists_closing (h : r.afterOpening.afterOperand.Accepts ts)
    (hend : Symbol.or.EndsBefore ts) (he : .ending ∉ ts) :
    ∃ rest, ts = .closing :: rest ∧ r.afterOperand.Accepts rest := by
  obtain rfl | ⟨rest, rfl⟩ := h.eq_nil_or_closing hend he
  · simp [afterOpening, afterOperand] at h
  · exact ⟨rest, rfl, (accepts_cons_ok step_closing).mp h⟩

/-- Behind a whole formula nothing stands. -/
theorem Accepts.eq_nil (h : start.afterOperand.Accepts ts) (hend : Symbol.or.EndsBefore ts)
    (he : .ending ∉ ts) : ts = [] := by
  obtain rfl | ⟨rest, rfl⟩ := h.eq_nil_or_closing hend he
  · rfl
  · exact absurd h (not_accepts_of_error (e := .unmatchedClosing) rfl)

-- The recursion follows the grammar; it ends because a group or the first item of a chain has taken
-- tokens away when the same symbol is asked for again.
mutual

/-- Where an operand is due outside of negations, the tokens begin with a disjunction. -/
theorem front_or {r : Reading} {ts : List Token} (h : r.Accepts ts) (hr : r.expecting = true)
    (h0 : r.nots = 0) (he : .ending ∉ ts) : r.Front .or ts := by
  obtain ⟨first, rest, rfl, hf, hrest, hend⟩ := front_and h hr h0 he
  have hlt : rest.length < (first.tokens ++ rest).length := first.length_rest_lt nofun nofun
  obtain ⟨others, rest, rfl, ho, hrest, hend⟩ :=
    front_alternatives hrest h0 hend (fun hm => he (List.mem_append_right _ hm))
  exact ⟨.or first others, rest, (List.append_assoc ..).symm, Nat.max_le.mpr ⟨hf, ho⟩, hrest, hend⟩
termination_by 4 * ts.length + 2

theorem front_alternatives {r : Reading} {ts : List Token} (h : r.afterOperand.Accepts ts)
    (h0 : r.nots = 0) (hend : Symbol.and.EndsBefore ts) (he : .ending ∉ ts) :
    r.Front .alternatives ts := by
  have hspare : r.afterOperator.spare = r.spare := by simp [spare, afterOperator, h0]
  by_cases hor : ts.head? = some .or
  · obtain ⟨ts, rfl⟩ := List.head?_eq_some_iff.mp hor
    have h := (accepts_cons_ok step_or).mp h
    obtain ⟨item, rest, rfl, hi, hrest, hend⟩ :=
      front_and h rfl rfl (fun hm => he (List.mem_cons_of_mem _ hm))
    have hlt : rest.length < (item.tokens ++ rest).length := item.length_rest_lt nofun nofun
    obtain ⟨others, rest, rfl, ho, hrest, hend⟩ :=
      front_alternatives (r := r) hrest h0 hend (by simp_all)
    refine ⟨.alternative item others, rest, by simp [Derivation.tokens], ?_, hrest, hend⟩
    exact Nat.max_le.mpr ⟨hspare ▸ hi, ho⟩
  · refine ⟨.noAlternative, ts, rfl, Nat.zero_le _, h, fun t ht => ?_⟩
    have hand := hend t ht
    simp_all [Symbol.goesOn]
termination_by 4 * ts.length

/-- Where an operand is due outside of negations, the tokens begin with a conjunction. -/
theorem front_and {r : Reading} {ts : List Token} (h : r.Accepts ts) (hr : r.expecting = true)
    (h0 : r.nots = 0) (he : .ending ∉ ts) : r.Front .and ts := by
  obtain ⟨first, rest, rfl, hf, hrest, -⟩ := front_not h hr he
  have hlt : rest.length < (first.tokens ++ rest).length := first.length_rest_lt nofun nofun
  obtain ⟨others, rest, rfl, ho, hrest, hend⟩ :=
    front_factors hrest h0 (fun hm => he (List.mem_append_right _ hm))
  exact ⟨.and first others, rest, (List.append_assoc ..).symm, Nat.max_le.mpr ⟨hf, ho⟩, hrest, hend⟩
termination_by 4 * ts.length + 1

theorem front_factors {r : Reading} {ts : List Token} (h : r.afterOperand.Accepts ts)
    (h0 : r.nots = 0) (he : .ending ∉ ts) : r.Front .factors ts := by
  have hspare : r.afterOperator.spare = r.spare := by simp [spare, afterOperator, h0]
  by_cases hand : ts.head? = some .and
  · obtain ⟨ts, rfl⟩ := List.head?_eq_some_iff.mp hand
    have h := (accepts_cons_ok step_and).mp h
    obtain ⟨item, rest, rfl, hi, hrest, -⟩ :=
      front_not h rfl (fun hm => he (List.mem_cons_of_mem _ hm))
    have hlt : rest.length < (item.tokens ++ rest).length := item.length_rest_lt nofun nofun
    obtain ⟨others, rest, rfl, ho, hrest, hend⟩ :=
      front_factors (r := r) hrest h0 (by simp_all)
    refine ⟨.factor item others, rest, by simp [Derivation.tokens], ?_, hrest, hend⟩
    exact Nat.max_le.mpr ⟨hspare ▸ hi, ho⟩
  · refine ⟨.noFactor, ts, rfl, Nat.zero_le _, h, fun t ht => ?_⟩
    simp_all [Symbol.goesOn]
termination_by 4 * ts.length

/-- Where an operand is due, the tokens begin with one, under any negations. -/
theorem front_not {r : Reading} {ts : List Token} (h : r.Accepts ts) (hr : r.expecting = true)
    (he : .ending ∉ ts) : r.Front .not ts := by
  cases ts with
  | nil => simp [hr] at h
  | cons t ts =>
    have hts : .ending ∉ ts := fun hm => he (List.mem_cons_of_mem _ hm)
    cases t with
    | pattern text =>
      exact ⟨.primary (.pattern text), ts, rfl, Nat.zero_le _,
        (accepts_cons_ok (step_pattern hr)).mp h, fun _ _ => rfl⟩
    | not =>
      obtain ⟨hpos, h⟩ := h.of_not hr
      obtain ⟨operand, rest, rfl, hn, hrest, -⟩ := front_not h hr hts
      rw [spare_afterNot] at hn
      exact ⟨.not operand, rest, rfl, Nat.add_le_of_le_sub hpos hn, hrest, fun _ _ => rfl⟩
    | opening =>
      obtain ⟨hpos, h⟩ := h.of_opening hr
      obtain ⟨inner, rest, rfl, hn, hrest, hend⟩ := front_or h hr rfl hts
      rw [spare_afterOpening] at hn
      obtain ⟨rest, rfl, hclosed⟩ :=
        hrest.exists_closing hend (fun hm => hts (List.mem_append_right _ hm))
      exact ⟨.primary (.group inner), rest, by simp [Derivation.tokens],
        Nat.add_le_of_le_sub hpos hn, hclosed, fun _ _ => rfl⟩
    | ending => simp at he
    | or | and | closing =>
      exact absurd h (not_accepts_of_error (step_missingOperand rfl nofun hr))
termination_by 4 * ts.length

end

end Reading

/-! ## Whole formulas -/

theorem ending_notMem_body {tokens : List Token} : .ending ∉ body tokens :=
  fun h => by simpa using List.mem_takeWhile_imp h

theorem body_eq_self {ts : List Token} (h : .ending ∉ ts) : body ts = ts := by
  rw [body, List.takeWhile_eq_self_iff]
  exact fun t ht => by simpa using ne_of_mem_of_not_mem ht h

theorem checkTokens_of_ne_nil {tokens : List Token} (h : body tokens ≠ []) :
    checkTokens tokens = Reading.start.run (body tokens) >>= Reading.finish := by
  rw [checkTokens]
  split
  next hbody => contradiction
  next hbody =>
    rw [hbody]
    rfl

theorem checkTokens_eq_ok_iff_accepts {tokens : List Token} :
    checkTokens tokens = .ok () ↔ Reading.start.Accepts (body tokens) := by
  rw [checkTokens]
  split
  next h => simp [h, Reading.start]
  next h => rw [h]; rfl

/-- The tokens of a derivation that does not nest too deep are accepted. -/
theorem Derivation.checkTokens_eq_ok {tokens : List Token} (t : Derivation .or)
    (hn : t.nesting ≤ maxNesting) (ht : t.tokens = body tokens) : checkTokens tokens = .ok () := by
  have hrun : Reading.start.run t.tokens = .ok Reading.start.afterOperand :=
    t.run_tokens (r := Reading.start) rfl hn
  rw [checkTokens_eq_ok_iff_accepts, ← ht, Reading.Accepts, hrun]
  rfl

/-- Accepted tokens are those of a derivation that does not nest too deep. -/
theorem exists_derivation_of_checkTokens {tokens : List Token} (h : checkTokens tokens = .ok ()) :
    ∃ t : Derivation .or, t.tokens = body tokens ∧ t.nesting ≤ maxNesting := by
  have he : .ending ∉ body tokens := ending_notMem_body
  obtain ⟨t, rest, hbody, hn, hrest, hend⟩ :=
    Reading.front_or (checkTokens_eq_ok_iff_accepts.mp h) rfl rfl he
  have hnil := hrest.eq_nil hend (fun hm => he (hbody ▸ List.mem_append_right _ hm))
  exact ⟨t, by rw [hbody, hnil, List.append_nil], hn⟩

/-- The checker accepts exactly what the grammar derives with at most 256 levels from the tokens
in front of the first `ending`. -/
theorem checkTokens_eq_ok_iff_derives (tokens : List Token) :
    checkTokens tokens = .ok () ↔ Derives 256 .or (tokens.takeWhile (· ≠ .ending)) := by
  rw [derives_iff]
  constructor
  · exact exists_derivation_of_checkTokens
  · rintro ⟨t, ht, hn⟩
    exact t.checkTokens_eq_ok hn ht

example : checkTokens (.replicate 256 .not ++ [.pattern "a"]) = .ok () := by decide +kernel

example : checkTokens (.replicate 257 .not ++ [.pattern "a"]) = .error .tooDeep := by
  decide +kernel

end NameRoles.Formula
