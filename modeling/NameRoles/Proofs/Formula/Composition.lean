import NameRoles.Proofs.Formula.Nesting

/-!
# Formulas put together

What a formula says that is put together as a text from others follows from what these say, and so
do its levels. Hence the texts of valid formulas can be joined, enclosed and negated, as long as
they do not nest too deep (`formulas_compose`).
-/

namespace NameRoles.Formula

variable {F G : String} {e f : Expr} {m n : Nat} {ts us : List Token}

/-! ## Parentheses, negations and conjunctions -/

theorem Says.enclosed (h : Says F e n) : Says ("(" ++ F ++ ")") e (n + 1) := by
  obtain ⟨ts, hlexes, hgives⟩ := h
  refine ⟨enclose ts, ?_, gives_or_of_and (gives_and_of_not (gives_group hgives))⟩
  rw [String.toList_append, String.toList_append]
  exact hlexes.inParens

theorem Says.negated (h : Says F e n) : Says ("NOT (" ++ F ++ ")") (.not e) (n + 2) := by
  obtain ⟨ts, hlexes, hgives⟩ := h
  refine ⟨.not :: enclose ts, ?_,
    gives_or_of_and (gives_and_of_not (gives_not (gives_group hgives)))⟩
  have htext : ("NOT (" ++ F ++ ")").toList = "NOT ".toList ++ inParens F.toList := by
    rw [String.toList_append, String.toList_append]
    rfl
  rw [htext]
  exact hlexes.inParens.not

theorem gives_both (h : Symbol.not.Gives ts e n) (h' : Symbol.not.Gives us f m) :
    Symbol.or.Gives (ts ++ .and :: us) (.and [e, f]) (max n m) := by
  have hnone : Symbol.factors.Gives [] [] 0 := ⟨.noFactor, rfl, rfl, rfl⟩
  have hand := gives_and h (gives_factor h' hnone)
  rw [List.append_nil, Nat.max_zero] at hand
  exact gives_or_of_and hand

theorem Says.conjoined (h : Says F e n) (h' : Says G f m) :
    Says ("(" ++ F ++ ") AND (" ++ G ++ ")") (.and [e, f]) (max (n + 1) (m + 1)) := by
  obtain ⟨ts, hlexes, hgives⟩ := h
  obtain ⟨us, hlexes', hgives'⟩ := h'
  refine ⟨enclose ts ++ .and :: enclose us, ?_, ?_⟩
  · have htext : ("(" ++ F ++ ") AND (" ++ G ++ ")").toList =
        inParens F.toList ++ " AND ".toList ++ inParens G.toList := by
      have hmid : ") AND (".toList = ')' :: " AND ".toList ++ ['('] := by decide
      simp only [String.toList_append, hmid, inParens, List.cons_append, List.append_assoc]
      rfl
    rw [htext]
    exact hlexes.inParens.join separates_and hlexes'.inParens
  · exact gives_both (gives_group hgives) (gives_group hgives')

/-! ## Disjunctions -/

namespace Derivation

/-- The alternatives of a first formula and behind them all of a second one. -/
def followedBy : Derivation .alternatives → Derivation .or → Derivation .alternatives
  | .noAlternative, .or first others => .alternative first others
  | .alternative item others, u => .alternative item (others.followedBy u)

/-- Two formulas with an `OR` between them; their alternatives make one chain. -/
def orElse : Derivation .or → Derivation .or → Derivation .or
  | .or first others, u => .or first (others.followedBy u)

/-- The conditions of the alternatives of a formula. -/
def items : Derivation .or → List Expr
  | .or first others => first.value :: others.value

theorem holds_value (t : Derivation .or) (name : List Char) :
    t.value.holds name = t.items.any (Expr.holds name) := by
  cases t with
  | or first others => simp [value, items]

theorem followedBy_spec : (others : Derivation .alternatives) → (u : Derivation .or) →
    (others.followedBy u).tokens = others.tokens ++ .or :: u.tokens ∧
      (others.followedBy u).nesting = max others.nesting u.nesting ∧
      (others.followedBy u).value = others.value ++ u.items
  | .noAlternative, .or first others => by simp [followedBy, tokens, nesting, value, items]
  | .alternative item others, u => by
    obtain ⟨htokens, hnesting, hvalue⟩ := others.followedBy_spec u
    simp [followedBy, tokens, nesting, value, htokens, hnesting, hvalue, Nat.max_assoc]

@[simp] theorem tokens_orElse (t u : Derivation .or) :
    (t.orElse u).tokens = t.tokens ++ .or :: u.tokens := by
  cases t with
  | or first others =>
    rw [orElse, tokens, (others.followedBy_spec u).1, tokens, List.append_assoc]

@[simp] theorem nesting_orElse (t u : Derivation .or) :
    (t.orElse u).nesting = max t.nesting u.nesting := by
  cases t with
  | or first others =>
    rw [orElse, nesting, (others.followedBy_spec u).2.1, nesting, Nat.max_assoc]

@[simp] theorem items_orElse (t u : Derivation .or) : (t.orElse u).items = t.items ++ u.items := by
  cases t with
  | or first others => rw [orElse, items, (others.followedBy_spec u).2.2, items, List.cons_append]

end Derivation

theorem Says.disjoined (h : Says F e n) (h' : Says G f m) :
    ∃ either, Says (F ++ " OR " ++ G) either (max n m) ∧
      ∀ name, either.matchesName name = (e.matchesName name || f.matchesName name) := by
  obtain ⟨ts, hlexes, t, rfl, rfl, rfl⟩ := h
  obtain ⟨us, hlexes', u, rfl, rfl, rfl⟩ := h'
  refine ⟨(t.orElse u).value,
    ⟨_, ?_, t.orElse u, t.tokens_orElse u, rfl, t.nesting_orElse u⟩, fun name => ?_⟩
  · rw [String.toList_append, String.toList_append]
    exact hlexes.join separates_or hlexes'
  · simp only [Expr.matchesName, Derivation.holds_value, Derivation.items_orElse, List.any_append]

/-! ## Valid formulas -/

/-- An `OR` between two valid formulas gives a valid formula that holds of what either holds of.
Parentheses take a level and change nothing; a negation in front of them takes another one and
negates the condition; a conjunction of two formulas in parentheses holds of what both hold of. If
that is too deep, this is the reason for which the formula is refused. -/
theorem formulas_compose (hF : isValid F = true) (hG : isValid G = true) :
    (check (F ++ " OR " ++ G) = .ok () ∧
      ∀ name, evaluate (F ++ " OR " ++ G) name = (evaluate F name || evaluate G name)) ∧
    (check ("(" ++ F ++ ")") =
        (if nesting F + 1 ≤ 256 then .ok () else .error .tooDeep) ∧
      (nesting F + 1 ≤ 256 → parse ("(" ++ F ++ ")") = parse F)) ∧
    (check ("NOT (" ++ F ++ ")") =
        (if nesting F + 2 ≤ 256 then .ok () else .error .tooDeep) ∧
      (nesting F + 2 ≤ 256 → parse ("NOT (" ++ F ++ ")") = (parse F).map .not)) ∧
    (check ("(" ++ F ++ ") AND (" ++ G ++ ")") =
        (if nesting F + 1 ≤ 256 ∧ nesting G + 1 ≤ 256 then .ok () else .error .tooDeep) ∧
      (nesting F + 1 ≤ 256 → nesting G + 1 ≤ 256 → ∀ name,
        evaluate ("(" ++ F ++ ") AND (" ++ G ++ ")") name =
          (evaluate F name && evaluate G name))) := by
  obtain ⟨e, he, hn, hparse⟩ := exists_says_of_isValid hF
  obtain ⟨f, hf, hm, -⟩ := exists_says_of_isValid hG
  obtain ⟨either, heither, hholds⟩ := he.disjoined hf
  have hmax := Nat.max_le.mpr ⟨hn, hm⟩
  refine ⟨⟨?_, fun name => ?_⟩, ⟨he.enclosed.check_eq, fun h => ?_⟩,
    ⟨he.negated.check_eq, fun h => ?_⟩, ?_, fun hF hG name => ?_⟩
  · rw [heither.check_eq, if_pos hmax]
  · rw [heither.evaluate_eq hmax, hholds, he.evaluate_eq hn, hf.evaluate_eq hm]
  · rw [he.enclosed.parse_eq, maxNesting, if_pos h, hparse]
  · rw [he.negated.parse_eq, maxNesting, if_pos h, hparse]
    rfl
  · simp only [(he.conjoined hf).check_eq, Nat.max_le, maxNesting]
  · rw [(he.conjoined hf).evaluate_eq (Nat.max_le.mpr ⟨hF, hG⟩), he.evaluate_eq hn,
      hf.evaluate_eq hm]
    simp [Expr.matchesName, Expr.holds, Expr.holdsAll]

theorem formulas_compose_alternatives :
    isValid "a OR b" = true ∧ isValid "NOT c" = true ∧
      (∀ name, evaluate "a OR b OR NOT c" name =
        (evaluate "a OR b" name || evaluate "NOT c" name)) ∧
      parse "NOT (a OR b)" = (parse "a OR b").map .not ∧
      ∀ name, evaluate "(a OR b) AND (NOT c)" name =
        (evaluate "a OR b" name && evaluate "NOT c" name) := by
  have hF : isValid "a OR b" = true := by decide +kernel
  have hG : isValid "NOT c" = true := by decide +kernel
  have hnF : nesting "a OR b" = 0 := by decide +kernel
  have hnG : nesting "NOT c" = 1 := by decide +kernel
  obtain ⟨⟨-, heither⟩, -, ⟨-, hnot⟩, -, hboth⟩ := formulas_compose hF hG
  exact ⟨hF, hG, heither, hnot (by omega), hboth (by omega) (by omega)⟩

end NameRoles.Formula
