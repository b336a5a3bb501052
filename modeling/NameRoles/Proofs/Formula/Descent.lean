import NameRoles.Proofs.Formula.Recognition

/-!
# The descent builds the tree of a derivation

Each reader, put in front of the tokens of a derivation from its symbol, makes the condition of
that derivation of them and stops behind them, whatever follows but an operator that would carry
the chain on (`Derivation.reads`). Since accepted tokens have a derivation, the descent does not
fail on them.
-/

namespace NameRoles.Formula

/-- The reader of a symbol makes a value of the front of some tokens and leaves the rest. -/
def Symbol.Reads : (s : Symbol) → List Token → s.Value → List Token → Prop
  | .or, ts, e, rest => ∃ h, parseOr ts = .ok ⟨e, rest, h⟩
  | .alternatives, ts, es, rest => ∃ h, parseAlternatives ts = .ok ⟨es, rest, h⟩
  | .and, ts, e, rest => ∃ h, parseAnd ts = .ok ⟨e, rest, h⟩
  | .factors, ts, es, rest => ∃ h, parseFactors ts = .ok ⟨es, rest, h⟩
  | .not, ts, e, rest => ∃ h, parseNot ts = .ok ⟨e, rest, h⟩
  | .primary, ts, e, rest => ∃ h, parsePrimary ts = .ok ⟨e, rest, h⟩

variable {ts mid rest : List Token} {e : Expr} {es : List Expr}

/-! ## What each reader does -/

theorem reads_or (hf : Symbol.and.Reads ts e mid) (ho : Symbol.alternatives.Reads mid es rest) :
    Symbol.or.Reads ts (chain .or e es) rest := by
  obtain ⟨hlt, hf⟩ := hf
  obtain ⟨hle, ho⟩ := ho
  refine ⟨by omega, ?_⟩
  rw [parseOr, hf]
  simp only [bind, Except.bind, ho, chain_or]
  rfl

theorem reads_alternative (hi : Symbol.and.Reads ts e mid)
    (ho : Symbol.alternatives.Reads mid es rest) :
    Symbol.alternatives.Reads (.or :: ts) (e :: es) rest := by
  obtain ⟨hlt, hi⟩ := hi
  obtain ⟨hle, ho⟩ := ho
  refine ⟨by simp only [List.length_cons]; omega, ?_⟩
  rw [parseAlternatives, hi]
  simp only [bind, Except.bind, ho]
  rfl

theorem reads_noAlternative (h : ts.head? ≠ some .or) : Symbol.alternatives.Reads ts [] ts := by
  refine ⟨Nat.lt_succ_self _, ?_⟩
  rw [parseAlternatives]
  rintro rest rfl
  exact h rfl

theorem reads_and (hf : Symbol.not.Reads ts e mid) (ho : Symbol.factors.Reads mid es rest) :
    Symbol.and.Reads ts (chain .and e es) rest := by
  obtain ⟨hlt, hf⟩ := hf
  obtain ⟨hle, ho⟩ := ho
  refine ⟨by omega, ?_⟩
  rw [parseAnd, hf]
  simp only [bind, Except.bind, ho, chain_and]
  rfl

theorem reads_factor (hi : Symbol.not.Reads ts e mid) (ho : Symbol.factors.Reads mid es rest) :
    Symbol.factors.Reads (.and :: ts) (e :: es) rest := by
  obtain ⟨hlt, hi⟩ := hi
  obtain ⟨hle, ho⟩ := ho
  refine ⟨by simp only [List.length_cons]; omega, ?_⟩
  rw [parseFactors, hi]
  simp only [bind, Except.bind, ho]
  rfl

theorem reads_noFactor (h : ts.head? ≠ some .and) : Symbol.factors.Reads ts [] ts := by
  refine ⟨Nat.lt_succ_self _, ?_⟩
  rw [parseFactors]
  rintro rest rfl
  exact h rfl

theorem reads_not (h : Symbol.not.Reads ts e rest) :
    Symbol.not.Reads (.not :: ts) (.not e) rest := by
  obtain ⟨hlt, h⟩ := h
  refine ⟨Nat.lt_succ_of_lt hlt, ?_⟩
  rw [parseNot, h]
  rfl

theorem reads_primary (h : Symbol.primary.Reads ts e rest) (hn : ts.head? ≠ some .not) :
    Symbol.not.Reads ts e rest := by
  obtain ⟨hlt, h⟩ := h
  refine ⟨hlt, ?_⟩
  rw [parseNot, h]
  rintro rest rfl
  exact hn rfl

theorem reads_pattern {text : String} :
    Symbol.primary.Reads (.pattern text :: ts) (.pattern text) ts :=
  ⟨Nat.lt_succ_self _, by rw [parsePrimary]⟩

theorem reads_group (h : Symbol.or.Reads ts e (.closing :: rest)) :
    Symbol.primary.Reads (.opening :: ts) e rest := by
  obtain ⟨hlt, h⟩ := h
  refine ⟨by simp only [List.length_cons] at hlt ⊢; omega, ?_⟩
  rw [parsePrimary, h]
  rfl

theorem Symbol.Reads.or_unique {f : Expr} (h : Symbol.or.Reads ts e rest)
    (h' : Symbol.or.Reads ts f mid) : e = f := by
  obtain ⟨_, h⟩ := h
  obtain ⟨_, h'⟩ := h'
  cases h.symm.trans h'
  rfl

/-! ## Whole derivations -/

theorem Symbol.EndsBefore.head_ne_or (h : Symbol.alternatives.EndsBefore rest) :
    rest.head? ≠ some .or :=
  fun hr => by simpa [goesOn] using h _ hr

theorem Symbol.EndsBefore.head_ne_and (h : Symbol.factors.EndsBefore rest) :
    rest.head? ≠ some .and :=
  fun hr => by simpa [goesOn] using h _ hr

theorem Symbol.EndsBefore.factors (h : Symbol.alternatives.EndsBefore rest) :
    Symbol.factors.EndsBefore rest :=
  fun t ht => by simpa [goesOn] using (by simpa [goesOn] using h t ht : t ≠ .or ∧ t ≠ .and).2

/-- What follows the first factors of a disjunction does not carry them on. -/
theorem Derivation.endsBefore_alternatives (others : Derivation .alternatives)
    (h : Symbol.alternatives.EndsBefore rest) :
    Symbol.and.EndsBefore (others.tokens ++ rest) := by
  cases others with
  | noAlternative => exact h.factors
  | alternative item others => simp [Symbol.EndsBefore, Symbol.goesOn, tokens]

theorem Derivation.head_ne_not (t : Derivation .primary) :
    (t.tokens ++ rest).head? ≠ some .not := by
  cases t <;> simp [tokens]

/-- The reader of a symbol gives back the value of every derivation from it. -/
theorem Derivation.reads {s : Symbol} (t : Derivation s) {rest : List Token}
    (h : s.EndsBefore rest) : s.Reads (t.tokens ++ rest) t.value rest := by
  induction t generalizing rest with
  | or first others ihf iho =>
    rw [tokens, List.append_assoc]
    exact reads_or (ihf (others.endsBefore_alternatives h)) (iho h)
  | noAlternative => exact reads_noAlternative h.head_ne_or
  | alternative item others ihi iho =>
    rw [tokens, List.cons_append, List.append_assoc]
    exact reads_alternative (ihi (others.endsBefore_alternatives h)) (iho h)
  | and first others ihf iho =>
    rw [tokens, List.append_assoc]
    exact reads_and (ihf fun _ _ => rfl) (iho h)
  | noFactor => exact reads_noFactor h.head_ne_and
  | factor item others ihi iho =>
    rw [tokens, List.cons_append, List.append_assoc]
    exact reads_factor (ihi fun _ _ => rfl) (iho h)
  | not operand ih => exact reads_not (ih h)
  | primary operand ih => exact reads_primary (ih h) operand.head_ne_not
  | pattern text => exact reads_pattern
  | group inner ih =>
    rw [tokens, List.cons_append, List.append_assoc]
    refine reads_group (ih ?_)
    simp [Symbol.EndsBefore, Symbol.goesOn]

/-- The grammar is unambiguous: the tokens of a derivation fix its value. -/
theorem Derivation.value_unique {t u : Derivation .or} (h : t.tokens = u.tokens) :
    t.value = u.value := by
  have hend : Symbol.or.EndsBefore [] := nofun
  exact (h ▸ t.reads hend).or_unique (u.reads hend)

/-! ## Whole formulas -/

variable {tokens : List Token}

/-- Behind the body the tokens are at their end or go on with `ending`. -/
theorem dropWhile_eq_nil_or_ending (tokens : List Token) :
    tokens.dropWhile (· ≠ .ending) = [] ∨ ∃ us, tokens.dropWhile (· ≠ .ending) = .ending :: us := by
  have hhead := List.head?_dropWhile_not (· ≠ Token.ending) tokens
  cases h : tokens.dropWhile (· ≠ .ending) with
  | nil => exact .inl rfl
  | cons t us =>
    rw [h] at hhead
    exact .inr ⟨us, by simpa using hhead⟩

/-- In front of the tokens of a formula the descent takes the body and nothing else. -/
theorem Derivation.reads_body (t : Derivation .or) (ht : t.tokens = body tokens) :
    Symbol.or.Reads tokens t.value (tokens.dropWhile (· ≠ .ending)) := by
  have hend : Symbol.or.EndsBefore (tokens.dropWhile (· ≠ .ending)) := by
    obtain h | ⟨us, h⟩ := dropWhile_eq_nil_or_ending tokens
    · rw [h]
      exact nofun
    · rw [h]
      simp [Symbol.EndsBefore, Symbol.goesOn]
  have hreads := t.reads hend
  rwa [ht, body, List.takeWhile_append_dropWhile] at hreads

theorem parseTokens_of_checkTokens_error {error : Error} (h : checkTokens tokens = .error error) :
    parseTokens tokens = .error error := by
  rw [parseTokens, h]
  rfl

/-- Behind a successful check the descent's result is the result. -/
theorem parseTokens_of_reads (h : checkTokens tokens = .ok ())
    (hr : Symbol.or.Reads tokens e (tokens.dropWhile (· ≠ .ending))) :
    parseTokens tokens = .ok e := by
  obtain ⟨_, hr⟩ := hr
  rw [parseTokens, h, hr]
  obtain hnil | ⟨us, hus⟩ := dropWhile_eq_nil_or_ending tokens
  · simp only [hnil]
    rfl
  · simp only [hus]
    rfl

theorem Derivation.parseTokens_eq_ok (t : Derivation .or) (hn : t.nesting ≤ maxNesting)
    (ht : t.tokens = body tokens) : parseTokens tokens = .ok t.value :=
  parseTokens_of_reads (t.checkTokens_eq_ok hn ht) (t.reads_body ht)

theorem checkTokens_of_parseTokens_ok (h : parseTokens tokens = .ok e) :
    checkTokens tokens = .ok () := by
  cases hc : checkTokens tokens with
  | ok => rfl
  | error error => simp [parseTokens_of_checkTokens_error hc] at h

/-- Accepted tokens are parsed to the value of a derivation of the body. -/
theorem exists_derivation_of_parseTokens (h : checkTokens tokens = .ok ()) :
    ∃ t : Derivation .or, t.tokens = body tokens ∧ t.nesting ≤ maxNesting ∧
      parseTokens tokens = .ok t.value := by
  obtain ⟨t, ht, hn⟩ := exists_derivation_of_checkTokens h
  exact ⟨t, ht, hn, t.parseTokens_eq_ok hn ht⟩

theorem exists_parseTokens_iff :
    (∃ e, parseTokens tokens = .ok e) ↔ checkTokens tokens = .ok () := by
  constructor
  · rintro ⟨e, h⟩
    exact checkTokens_of_parseTokens_ok h
  · intro h
    obtain ⟨t, _, _, hp⟩ := exists_derivation_of_parseTokens h
    exact ⟨t.value, hp⟩

theorem parseTokens_eq_ok_iff : parseTokens tokens = .ok e ↔
    checkTokens tokens = .ok () ∧ Symbol.or.Reads tokens e (tokens.dropWhile (· ≠ .ending)) := by
  constructor
  · intro h
    have hc := checkTokens_of_parseTokens_ok h
    obtain ⟨t, ht, _, hp⟩ := exists_derivation_of_parseTokens hc
    obtain rfl : t.value = e := Except.ok.inj (hp.symm.trans h)
    exact ⟨hc, t.reads_body ht⟩
  · rintro ⟨hc, hr⟩
    exact parseTokens_of_reads hc hr

theorem parseTokens_eq_error_iff {error : Error} :
    parseTokens tokens = .error error ↔ checkTokens tokens = .error error := by
  refine ⟨fun h => ?_, parseTokens_of_checkTokens_error⟩
  cases hc : checkTokens tokens with
  | error found =>
    obtain rfl : found = error :=
      Except.error.inj ((parseTokens_of_checkTokens_error hc).symm.trans h)
    rfl
  | ok =>
    obtain ⟨e, hp⟩ := exists_parseTokens_iff.mpr hc
    simp [hp] at h

/-! ### Behind the first `ending` -/

@[simp] theorem body_append_ending (tokens behind : List Token) :
    body (tokens ++ .ending :: behind) = body tokens := by
  simp only [body, List.takeWhile_append]
  split
  next h => simpa using (List.takeWhile_prefix _).eq_of_length h |>.symm
  next => rfl

theorem checkTokens_congr {others : List Token} (h : body tokens = body others) :
    checkTokens tokens = checkTokens others := by
  rw [checkTokens, checkTokens, h]

theorem parseTokens_congr {others : List Token} (h : body tokens = body others) :
    parseTokens tokens = parseTokens others := by
  have hcheck := checkTokens_congr h
  cases hc : checkTokens tokens with
  | error error =>
    rw [parseTokens_of_checkTokens_error hc, parseTokens_of_checkTokens_error (hcheck ▸ hc)]
  | ok =>
    obtain ⟨t, ht, hn, hp⟩ := exists_derivation_of_parseTokens hc
    rw [hp, t.parseTokens_eq_ok hn (ht.trans h)]

/-- The parser and the checker agree, and the parser's own refusals never come to pass: the
parser fails exactly where the checker does and with its error, else the descent takes all tokens
in front of the first `ending`, and what stands behind that one is of no account. -/
theorem parseTokens_agrees_checkTokens (tokens : List Token) :
    ((∃ e, parseTokens tokens = .ok e) ↔ checkTokens tokens = .ok ()) ∧
    (∀ error, parseTokens tokens = .error error ↔ checkTokens tokens = .error error) ∧
    (∀ e, parseTokens tokens = .ok e ↔ checkTokens tokens = .ok () ∧
      ∃ h, parseOr tokens = .ok ⟨e, tokens.dropWhile (· ≠ .ending), h⟩) ∧
    ∀ behind, checkTokens (tokens ++ .ending :: behind) = checkTokens tokens ∧
      parseTokens (tokens ++ .ending :: behind) = parseTokens tokens := by
  refine ⟨exists_parseTokens_iff, fun _ => parseTokens_eq_error_iff,
    fun _ => parseTokens_eq_ok_iff, fun behind => ?_⟩
  have hbody := body_append_ending tokens behind
  exact ⟨checkTokens_congr hbody, parseTokens_congr hbody⟩

/-- The parser builds the tree of the derivation, and all derivations of the same tokens have the
same tree. -/
theorem parseTokens_tokens (t : Derivation .or) (hn : t.nesting ≤ 256) :
    .ending ∉ t.tokens ∧ parseTokens t.tokens = .ok t.value ∧
      ∀ u : Derivation .or, u.tokens = t.tokens → u.value = t.value := by
  have he := t.ending_notMem_tokens
  exact ⟨he, t.parseTokens_eq_ok hn (body_eq_self he).symm, fun u h => u.value_unique h⟩

/-- A derivation of `a OR NOT (b AND c) AND d`. -/
def mixedDerivation : Derivation .or :=
  .or (.and (.primary (.pattern "a")) .noFactor)
    (.alternative
      (.and
        (.not (.primary (.group (.or
          (.and (.primary (.pattern "b")) (.factor (.primary (.pattern "c")) .noFactor))
          .noAlternative))))
        (.factor (.primary (.pattern "d")) .noFactor))
      .noAlternative)

theorem parseTokens_tokens_mixed :
    mixedDerivation.nesting ≤ 256 ∧
      parseTokens [.pattern "a", .or, .not, .opening, .pattern "b", .and, .pattern "c", .closing,
        .and, .pattern "d"] = .ok (.or [.pattern "a",
          .and [.not (.and [.pattern "b", .pattern "c"]), .pattern "d"]]) :=
  ⟨by decide, (parseTokens_tokens mixedDerivation (by decide)).2.1⟩

end NameRoles.Formula
