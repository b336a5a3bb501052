import NameRoles.Proofs.Formula.Nesting

/-!
# How tokens may go on

A reading that has met no fault can be completed: by an operand, if one is due, and a closing
parenthesis for each open group (`Reading.accepts_completion`). Hence the check refuses tokens as
soon as no formula goes on with them, and what follows does not change the error
(`faults_are_final`). Where only parentheses are missing, the error tells their number.
-/

namespace NameRoles.Formula

/-- The error is the fault of a token that has been read, and not of the end of the formula. -/
def Error.blamesToken : Error → Bool
  | .unexpectedOperand _ | .missingOperand _ | .unmatchedClosing | .tooDeep => true
  | .empty | .unclosed _ | .danglingOperator => false

variable {p q ts : List Token} {t : Token} {e : Error} {k n : Nat}

/-! ## Faults of tokens and of the end -/

namespace Reading

variable {r : Reading}

theorem blamesToken_of_step (h : r.step t = .error e) : e.blamesToken = true := by
  unfold step at h
  grind [Error.blamesToken]

theorem blamesToken_of_run (h : r.run ts = .error e) : e.blamesToken = true := by
  induction ts generalizing r with
  | nil => cases h
  | cons t ts ih =>
    rw [run_cons] at h
    cases hstep : r.step t with
    | ok next =>
      rw [hstep] at h
      exact ih h
    | error found =>
      rw [hstep] at h
      obtain rfl : found = e := Except.error.inj h
      exact blamesToken_of_step hstep

theorem not_blamesToken_of_finish (h : r.finish = .error e) : e.blamesToken = false := by
  unfold finish at h
  grind [Error.blamesToken]

theorem of_finish_unclosed (h : r.finish = .error (.unclosed n)) :
    r.expecting = false ∧ r.groups ≠ [] ∧ r.groups.length = n := by
  unfold finish at h
  grind

end Reading

theorem body_append (h : .ending ∉ p) : body (p ++ q) = p ++ body q :=
  List.takeWhile_append_of_pos fun t ht => by simpa using ne_of_mem_of_not_mem ht h

/-- The check finds fault with a token where the reading does. -/
theorem checkTokens_eq_error_iff (he : e.blamesToken = true) :
    checkTokens ts = .error e ↔ Reading.start.run (body ts) = .error e := by
  by_cases hbody : body ts = []
  · have hempty : .empty ≠ e := by
      rintro rfl
      cases he
    simp [checkTokens, hbody, hempty]
  · rw [checkTokens_of_ne_nil hbody]
    cases Reading.start.run (body ts) with
    | error found => simp [bind, Except.bind]
    | ok r =>
      refine iff_of_false (fun hfinish => ?_) (by simp)
      simp [Reading.not_blamesToken_of_finish hfinish] at he

/-! ## Completions -/

namespace Reading

variable {r next : Reading}

/-- What completes the formula: an operand, if it is due, and the closing parentheses. -/
def completion (r : Reading) : List Token :=
  (if r.expecting then [.pattern "a"] else []) ++ .replicate r.groups.length .closing

theorem ending_notMem_completion : .ending ∉ r.completion := by
  unfold completion
  split <;> simp

theorem accepts_append_iff (h : r.run ts = .ok next) : r.Accepts (ts ++ q) ↔ next.Accepts q := by
  rw [Accepts, run_append_ok h, Accepts]

theorem exists_step_closing {nots : Nat} {groups : List Nat} (h : r.expecting = false)
    (hgroups : r.groups = nots :: groups) :
    ∃ next, r.step .closing = .ok next ∧ next.expecting = false ∧ next.groups = groups := by
  refine ⟨{ r with groups, depth := r.depth - (nots + 1) }, ?_, h, rfl⟩
  simp [step, Token.startsOperand, h, hgroups]

/-- Behind an operand closing parentheses complete the formula just if they are as many as the
groups that are open. -/
theorem accepts_replicate_closing_iff (h : r.expecting = false) :
    r.Accepts (.replicate k .closing) ↔ k = r.groups.length := by
  induction k generalizing r with
  | zero =>
    rw [List.replicate_zero, accepts_nil, eq_comm (a := 0), List.length_eq_zero_iff]
    exact and_iff_right h
  | succ k ih =>
    rw [List.replicate_succ]
    cases hgroups : r.groups with
    | nil =>
      have hstep : r.step .closing = .error .unmatchedClosing := by
        simp [step, Token.startsOperand, h, hgroups]
      exact iff_of_false (not_accepts_of_error hstep) (by simp)
    | cons nots groups =>
      obtain ⟨next, hstep, hexpecting, rfl⟩ := exists_step_closing h hgroups
      rw [accepts_cons_ok hstep, ih hexpecting, List.length_cons, Nat.succ_inj]

/-- Even where no level is left for another negation or group, a pattern completes the operand. -/
theorem accepts_completion (r : Reading) : r.Accepts r.completion := by
  unfold completion
  cases h : r.expecting with
  | false => exact (accepts_replicate_closing_iff h).mpr rfl
  | true =>
    have hclosed : r.afterOperand.Accepts (.replicate r.groups.length .closing) :=
      (accepts_replicate_closing_iff rfl).mpr rfl
    exact (accepts_cons_ok (step_pattern h)).mpr hclosed

end Reading

theorem checkTokens_append_eq_ok_iff {r : Reading} (hp : .ending ∉ p)
    (hrun : Reading.start.run p = .ok r) : checkTokens (p ++ q) = .ok () ↔ r.Accepts (body q) := by
  rw [checkTokens_eq_ok_iff_accepts, body_append hp, Reading.accepts_append_iff hrun]

/-- The tokens in front of missing parentheses have been read to the end of an operand. -/
theorem exists_run_of_unclosed (hp : .ending ∉ p) (h : checkTokens p = .error (.unclosed n)) :
    ∃ r, Reading.start.run p = .ok r ∧ r.expecting = false ∧ r.groups.length = n ∧ 1 ≤ n := by
  by_cases hbody : body p = []
  · simp [checkTokens, hbody] at h
  · rw [checkTokens_of_ne_nil hbody, body_eq_self hp] at h
    cases hrun : Reading.start.run p with
    | error e =>
      rw [hrun] at h
      obtain rfl : e = .unclosed n := Except.error.inj h
      cases Reading.blamesToken_of_run hrun
    | ok r =>
      rw [hrun] at h
      obtain ⟨hexpecting, hgroups, rfl⟩ := Reading.of_finish_unclosed h
      exact ⟨r, rfl, hexpecting, rfl, List.length_pos_iff.mpr hgroups⟩

/-- The check finds fault with a token of these just if no formula begins with them, and the error
stays the same whatever follows. If it misses `n` closing parentheses, then `n` of them, and no
other number, complete the formula. -/
theorem faults_are_final (hp : .ending ∉ p) :
    ((∃ e : Error, e.blamesToken = true ∧ checkTokens p = .error e) ↔
      ∀ q, checkTokens (p ++ q) ≠ .ok ()) ∧
    (∀ e : Error, e.blamesToken = true → checkTokens p = .error e →
      ∀ q, checkTokens (p ++ q) = .error e) ∧
    ∀ n, checkTokens p = .error (.unclosed n) →
      1 ≤ n ∧ ∀ k, checkTokens (p ++ .replicate k .closing) = .ok () ↔ k = n := by
  have hfinal (e : Error) (he : e.blamesToken = true) (h : checkTokens p = .error e)
      (q : List Token) : checkTokens (p ++ q) = .error e := by
    rw [checkTokens_eq_error_iff he, body_eq_self hp] at h
    rw [checkTokens_eq_error_iff he, body_append hp]
    exact Reading.run_append_error h
  refine ⟨⟨?_, fun h => ?_⟩, hfinal, fun n h => ?_⟩
  · rintro ⟨e, he, h⟩ q hok
    simp [hfinal e he h q] at hok
  · -- without a fault among the tokens there would be a completion
    cases hrun : Reading.start.run p with
    | error e =>
      have he := Reading.blamesToken_of_run hrun
      exact ⟨e, he, (checkTokens_eq_error_iff he).mpr (by rwa [body_eq_self hp])⟩
    | ok r =>
      refine absurd ?_ (h r.completion)
      rw [checkTokens_append_eq_ok_iff hp hrun, body_eq_self Reading.ending_notMem_completion]
      exact r.accepts_completion
  · obtain ⟨r, hrun, hexpecting, rfl, hpos⟩ := exists_run_of_unclosed hp h
    refine ⟨hpos, fun k => ?_⟩
    rw [checkTokens_append_eq_ok_iff hp hrun, body_eq_self (by simp)]
    exact Reading.accepts_replicate_closing_iff hexpecting

/-- Two parentheses are missing behind the first tokens; the second name in the others is one too
many. -/
theorem faults_are_final_of_open_groups :
    checkTokens [.not, .opening, .pattern "a", .or, .opening, .pattern "b"] =
        .error (.unclosed 2) ∧
      (∀ k, checkTokens ([.not, .opening, .pattern "a", .or, .opening, .pattern "b"] ++
        .replicate k .closing) = .ok () ↔ k = 2) ∧
      ∀ q, checkTokens ([.not, .opening, .pattern "a", .pattern "b"] ++ q) =
        .error (.unexpectedOperand (.pattern "b")) := by
  have hopen : checkTokens [.not, .opening, .pattern "a", .or, .opening, .pattern "b"] =
      .error (.unclosed 2) := by decide
  have hfault : checkTokens [.not, .opening, .pattern "a", .pattern "b"] =
      .error (.unexpectedOperand (.pattern "b")) := by decide
  exact ⟨hopen, ((faults_are_final (by decide)).2.2 2 hopen).2,
    (faults_are_final (by decide)).2.1 _ rfl hfault⟩

end NameRoles.Formula
