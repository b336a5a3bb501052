import NameRoles.Proofs.Formula.Proper
import NameRoles.Proofs.Text.LetterCase

/-!
# Formulas in other letter case

A formula has the same tokens as its lowered form, save that the texts of its patterns are lowered
(`tokenize_toLower`). These texts matter neither to the check (`checkTokens_map`) nor to the shape
of a derivation (`Derivation.mapText`), and a pattern holds of the names that its lowered text holds
of. So a formula and a name may be lowered without changing whether the one holds of the other
(`evaluate_toLower`).
-/

namespace NameRoles.Formula

open Text

variable {f : String → String} {s : Symbol} {t u : Token} {ts : List Token} {r : Reading}
  {word cs name : List Char}

/-! ## Patterns with other texts -/

/-- The token with another text, if it is a pattern. -/
def Token.mapText (f : String → String) : Token → Token
  | .pattern text => .pattern (f text)
  | t => t

/-- The error with another text in it, if it names a pattern. -/
def Error.mapText (f : String → String) : Error → Error
  | .unexpectedOperand found => .unexpectedOperand (found.mapText f)
  | .missingOperand found => .missingOperand (found.mapText f)
  | e => e

@[simp] theorem Token.mapText_eq_ending_iff : t.mapText f = .ending ↔ t = .ending := by
  cases t <;> simp [mapText]

@[simp] theorem body_map : body (ts.map (Token.mapText f)) = (body ts).map (Token.mapText f) := by
  have hending : (fun t => decide (t ≠ Token.ending)) ∘ Token.mapText f =
      fun t => decide (t ≠ Token.ending) := by
    funext t
    simp
  rw [body, List.takeWhile_map, hending, body]

/-- The patterns of a formula are those of the formula with other texts, with these texts. -/
theorem filterMap_pattern?_map : (ts.map (Token.mapText f)).filterMap Token.pattern? =
    (ts.filterMap Token.pattern?).map f := by
  have hpattern : Token.pattern? ∘ Token.mapText f = fun t => t.pattern?.map f := by
    funext t
    cases t <;> rfl
  rw [List.filterMap_map, hpattern, List.map_filterMap]

/-! ## The check -/

namespace Reading

theorem step_mapText (r : Reading) (t : Token) :
    r.step (t.mapText f) = (r.step t).mapError (Error.mapText f) := by
  cases t <;> simp only [step, Token.mapText, Token.startsOperand] <;>
    grind [Except.mapError, Error.mapText, Token.mapText]

theorem run_map : r.run (ts.map (Token.mapText f)) = (r.run ts).mapError (Error.mapText f) := by
  induction ts generalizing r with
  | nil => rfl
  | cons t ts ih =>
    rw [List.map_cons, run_cons, run_cons, step_mapText]
    cases r.step t with
    | ok next => exact ih
    | error e => rfl

@[simp] theorem finish_mapError (r : Reading) : r.finish.mapError (Error.mapText f) = r.finish := by
  unfold finish
  split
  · rfl
  · split <;> rfl

end Reading

/-- The check does not look at the texts of patterns, but it may name one of them. -/
@[simp] theorem checkTokens_map : checkTokens (ts.map (Token.mapText f)) =
    (checkTokens ts).mapError (Error.mapText f) := by
  rw [checkTokens, checkTokens, body_map]
  cases body ts with
  | nil => rfl
  | cons t us =>
    show Reading.start.run ((t :: us).map (Token.mapText f)) >>= Reading.finish =
      (Reading.start.run (t :: us) >>= Reading.finish).mapError (Error.mapText f)
    rw [Reading.run_map]
    cases Reading.start.run (t :: us) with
    | ok r => exact r.finish_mapError.symm
    | error e => rfl

/-! ## Derivations -/

namespace Derivation

/-- The derivation with other texts of its patterns. -/
def mapText (f : String → String) {s : Symbol} : Derivation s → Derivation s
  | or first others => or (first.mapText f) (others.mapText f)
  | noAlternative => noAlternative
  | alternative item others => alternative (item.mapText f) (others.mapText f)
  | and first others => and (first.mapText f) (others.mapText f)
  | noFactor => noFactor
  | factor item others => factor (item.mapText f) (others.mapText f)
  | not operand => not (operand.mapText f)
  | primary operand => primary (operand.mapText f)
  | pattern text => pattern (f text)
  | group inner => group (inner.mapText f)

@[simp] theorem tokens_mapText (t : Derivation s) :
    (t.mapText f).tokens = t.tokens.map (Token.mapText f) := by
  induction t with
  | noAlternative | noFactor | pattern => rfl
  | or _ _ ihf iho | and _ _ ihf iho => simp only [mapText, tokens, ihf, iho, List.map_append]
  | alternative _ _ ihi iho | factor _ _ ihi iho =>
    simp only [mapText, tokens, ihi, iho, List.map_cons, List.map_append, Token.mapText]
  | not _ ih | primary _ ih => simp only [mapText, tokens, ih, List.map_cons, Token.mapText]
  | group _ ih =>
    simp only [mapText, tokens, ih, List.map_cons, List.map_append, List.map_nil, Token.mapText]

@[simp] theorem nesting_mapText (t : Derivation s) : (t.mapText f).nesting = t.nesting := by
  induction t with
  | noAlternative | noFactor | pattern => rfl
  | or _ _ ihf iho | and _ _ ihf iho | alternative _ _ ihf iho | factor _ _ ihf iho =>
    simp only [mapText, nesting, ihf, iho]
  | not _ ih | primary _ ih | group _ ih => simp only [mapText, nesting, ih]

end Derivation

/-- Conditions that hold of a name alike, or lists of such conditions. -/
def Symbol.HoldAlike (name : List Char) : (s : Symbol) → s.Value → s.Value → Prop
  | .alternatives, es, es' | .factors, es, es' =>
    es.map (Expr.holds name) = es'.map (Expr.holds name)
  | .or, e, e' | .and, e, e' | .not, e, e' | .primary, e, e' => e.holds name = e'.holds name

theorem holds_chain_or {e : Expr} {es : List Expr} : (chain .or e es).holds name =
    (e.holds name || (es.map (Expr.holds name)).any id) := by
  simp

theorem holds_chain_and {e : Expr} {es : List Expr} : (chain .and e es).holds name =
    (e.holds name && (es.map (Expr.holds name)).all id) := by
  simp

/-- If each pattern holds of a name with its other text as with its own, so does the condition of a
derivation. -/
theorem Derivation.holdAlike_mapText (t : Derivation s)
    (h : ∀ text, (Expr.pattern (f text)).holds name = (Expr.pattern text).holds name) :
    s.HoldAlike name (t.mapText f).value t.value := by
  induction t with
  | or first others ihf iho =>
    simp only [Symbol.HoldAlike] at ihf iho
    simp only [Symbol.HoldAlike, mapText, value, holds_chain_or, ihf, iho]
  | and first others ihf iho =>
    simp only [Symbol.HoldAlike] at ihf iho
    simp only [Symbol.HoldAlike, mapText, value, holds_chain_and, ihf, iho]
  | alternative item others ihi iho | factor item others ihi iho =>
    exact congrArg₂ List.cons ihi iho
  | noAlternative | noFactor => rfl
  | not operand ih => exact congrArg Bool.not ih
  | primary operand ih => exact ih
  | pattern text => exact h text
  | group inner ih => exact ih

/-! ## Lowered formulas -/

theorem Token.ofWord_map_toLower :
    ofWord (word.map Char.toLower) = (ofWord word).mapText String.toLower := by
  have hlower : (word.map Char.toLower).map Char.toLower = word.map Char.toLower := by
    simp [Char.toLower_toLower_eq_toLower]
  have htext : String.ofList (word.map Char.toLower) = (String.ofList word).toLower := by
    simp [← String.toList_inj]
  unfold ofWord
  rw [hlower]
  split <;> simp only [mapText, htext]

theorem flush_map_toLower (word : List Char) (ts : List Token) :
    flush (word.map Char.toLower) (ts.map (Token.mapText String.toLower)) =
      (flush word ts).map (Token.mapText String.toLower) := by
  cases word with
  | nil => rfl
  | cons c word =>
    simp only [flush, List.map_cons, List.isEmpty_cons, Bool.false_eq_true, if_false]
    rw [← List.map_cons, ← List.map_reverse, Token.ofWord_map_toLower]

theorem tokensAfter_map_toLower (word cs : List Char) :
    tokensAfter (word.map Char.toLower) (cs.map Char.toLower) =
      (tokensAfter word cs).map (Token.mapText String.toLower) := by
  fun_induction tokensAfter word cs with
  | case1 word => exact flush_map_toLower word [.ending]
  | case2 word c cs hblank ih =>
    rw [List.map_cons, tokensAfter, isBlank_toLower, if_pos hblank, ← flush_map_toLower, ← ih]
    rfl
  | case3 word cs hblank ih =>
    rw [List.map_cons, tokensAfter, isBlank_toLower, if_neg hblank, if_pos (by decide),
      ← flush_map_toLower, List.map_cons, ← ih]
    rfl
  | case4 word cs hblank hopening ih =>
    rw [List.map_cons, tokensAfter, isBlank_toLower, if_neg hblank, if_neg (by decide),
      if_pos (by decide), ← flush_map_toLower, List.map_cons, ← ih]
    rfl
  | case5 word c cs hblank hopening hclosing ih =>
    have hopening' : c.toLower ≠ '(' := (toLower_eq_iff (by decide)).not.mpr hopening
    have hclosing' : c.toLower ≠ ')' := (toLower_eq_iff (by decide)).not.mpr hclosing
    rw [List.map_cons, tokensAfter, isBlank_toLower, if_neg hblank, if_neg hopening',
      if_neg hclosing', ← ih]
    rfl

@[simp] theorem tokenize_toLower (formula : String) : tokenize formula.toLower =
    (tokenize formula).map (Token.mapText String.toLower) := by
  simpa [tokenize] using tokensAfter_map_toLower [] formula.toList

@[simp] theorem check_toLower (formula : String) :
    check formula.toLower = (check formula).mapError (Error.mapText String.toLower) := by
  simp [check]

/-- The same token, or patterns that differ only in letter case. -/
inductive Token.CaseVariant : Token → Token → Prop where
  | refl (t : Token) : CaseVariant t t
  | pattern {a b : String} (h : Text.CaseVariant a b) : CaseVariant (.pattern a) (.pattern b)

/-- The same error, save that the token it names may be in other letter case. -/
inductive Error.CaseVariant : Error → Error → Prop where
  | refl (e : Error) : CaseVariant e e
  | unexpectedOperand {t u : Token} (h : t.CaseVariant u) :
      CaseVariant (.unexpectedOperand t) (.unexpectedOperand u)
  | missingOperand {t u : Token} (h : t.CaseVariant u) :
      CaseVariant (.missingOperand t) (.missingOperand u)

theorem Token.caseVariant_of_mapText
    (h : t.mapText String.toLower = u.mapText String.toLower) : t.CaseVariant u := by
  cases t with
  | pattern a =>
    cases u with
    | pattern b => exact .pattern (caseVariant_iff.mpr (Token.pattern.inj h))
    | _ => simp [mapText] at h
  | _ =>
    cases u with
    | pattern b => simp [mapText] at h
    | _ => cases h <;> exact .refl _

theorem Error.caseVariant_of_mapText {e e' : Error}
    (h : e.mapText String.toLower = e'.mapText String.toLower) : e.CaseVariant e' := by
  cases e with
  | unexpectedOperand t =>
    cases e' with
    | unexpectedOperand u =>
      exact .unexpectedOperand (Token.caseVariant_of_mapText (unexpectedOperand.inj h))
    | _ => simp [mapText] at h
  | missingOperand t =>
    cases e' with
    | missingOperand u =>
      exact .missingOperand (Token.caseVariant_of_mapText (missingOperand.inj h))
    | _ => simp [mapText] at h
  | _ =>
    cases e' with
    | unexpectedOperand | missingOperand => simp [mapText] at h
    | _ => cases h <;> exact .refl _

@[simp] theorem operands_toLower (formula : String) :
    operands formula.toLower = (operands formula).map String.toLower := by
  rw [operands, tokenize_toLower, filterMap_pattern?_map, operands]

@[simp] theorem holds_pattern_toLower (text : String) :
    (Expr.pattern text.toLower).holds name = (Expr.pattern text).holds name := by
  have hempty : text.toLower = "" ↔ text = "" := by
    rw [← String.toList_inj, ← String.toList_inj]
    simp
  simp [Expr.holds, hempty]

theorem evaluate_of_check_error {formula name : String} {e : Error} (h : check formula = .error e) :
    evaluate formula name = false := by
  rw [evaluate, parse, parseTokens_of_checkTokens_error h]

@[simp] theorem evaluate_toLower (formula name : String) :
    evaluate formula.toLower name.toLower = evaluate formula name := by
  cases h : check formula with
  | error e =>
    have hlower : check formula.toLower = .error (e.mapText String.toLower) := by
      simp [h, Except.mapError]
    rw [evaluate_of_check_error h, evaluate_of_check_error hlower]
  | ok =>
    obtain ⟨t, ht, hn, hparse⟩ := exists_derivation_of_parseTokens h
    have htokens : (t.mapText String.toLower).tokens = body (tokenize formula.toLower) := by
      simp [ht]
    have hlower : parseTokens (tokenize formula.toLower) = .ok (t.mapText String.toLower).value :=
      Derivation.parseTokens_eq_ok _ (t.nesting_mapText.trans_le hn) htokens
    have hholds : (t.mapText String.toLower).value.holds (foldChars name.toList) =
        t.value.holds (foldChars name.toList) := t.holdAlike_mapText holds_pattern_toLower
    rw [evaluate, parse, hlower, evaluate, parse, hparse]
    simpa [Expr.matchesName] using hholds

end NameRoles.Formula
