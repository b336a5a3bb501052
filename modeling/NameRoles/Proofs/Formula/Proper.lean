import NameRoles.Proofs.Formula.Descent

/-!
# What formulas can say

The conditions that formulas stand for are proper: each group has items, and each pattern has a
text. Only such conditions obey the laws of negation, since an empty group and an empty pattern
hold of no name, whichever way they are asked.
-/

namespace NameRoles

namespace Expr

/-- Neither `never` nor an empty group or pattern stands anywhere in the condition. -/
inductive Proper : Expr → Prop where
  | pattern {text : String} (h : text ≠ "") : Proper (.pattern text)
  | not {operand : Expr} (h : operand.Proper) : Proper (.not operand)
  | and {items : List Expr} (hne : items ≠ []) (h : ∀ e ∈ items, e.Proper) : Proper (.and items)
  | or {items : List Expr} (hne : items ≠ []) (h : ∀ e ∈ items, e.Proper) : Proper (.or items)

variable {name : List Char} {items : List Expr}

@[simp] theorem holds_allOf (hne : items ≠ []) :
    (allOf items).holds name = items.all (holds name) := by
  match items, hne with
  | [item], _ => simp [allOf]
  | first :: second :: others, _ => simp [allOf, holds]

@[simp] theorem holds_anyOf : (anyOf items).holds name = items.any (holds name) := by
  match items with
  | [] => rfl
  | [item] => simp [anyOf]
  | first :: second :: others => simp [anyOf, holds]

end Expr

namespace Formula

/-! ## Patterns of a formula are words -/

theorem mem_flush {t : Token} {word : List Char} {rest : List Token} (h : t ∈ flush word rest) :
    word ≠ [] ∧ t = Token.ofWord word.reverse ∨ t ∈ rest := by
  unfold flush at h
  split at h
  · exact .inr h
  next hne =>
    rcases List.mem_cons.mp h with h | h
    · exact .inl ⟨by simpa using hne, h⟩
    · exact .inr h

theorem Token.ofWord_eq_pattern {word : List Char} {text : String}
    (h : Token.ofWord word = .pattern text) : text = String.ofList word := by
  unfold Token.ofWord at h
  split at h <;> simp_all

/-- The word behind a pattern's token: it is not empty and holds no blank and no parenthesis. -/
def IsPatternOf (text : String) (word : List Char) : Prop :=
  word ≠ [] ∧ (∀ c ∈ word, isWordChar c = true) ∧ Token.ofWord word = .pattern text

variable {seen cs : List Char} {rest : List Token} {text formula : String}

theorem exists_word_of_mem_flush (hseen : ∀ c ∈ seen, isWordChar c = true)
    (h : .pattern text ∈ flush seen rest)
    (hrest : .pattern text ∈ rest → ∃ word, IsPatternOf text word) :
    ∃ word, IsPatternOf text word := by
  rcases mem_flush h with ⟨hne, hword⟩ | h
  · exact ⟨seen.reverse, by simpa using hne, by simpa using hseen, hword.symm⟩
  · exact hrest h

theorem exists_word_of_mem_tokensAfter (hseen : ∀ c ∈ seen, isWordChar c = true)
    (h : .pattern text ∈ tokensAfter seen cs) : ∃ word, IsPatternOf text word := by
  fun_induction tokensAfter seen cs with
  | case1 => exact exists_word_of_mem_flush hseen h (by simp)
  | case2 _ _ _ _ ih => exact exists_word_of_mem_flush hseen h (ih (by simp))
  | case3 _ _ _ ih | case4 _ _ _ _ ih =>
    exact exists_word_of_mem_flush hseen h (by simpa using ih (by simp))
  | case5 _ c _ hblank hopening hclosing ih =>
    have hc : isWordChar c = true := by simp [isWordChar, hblank, hopening, hclosing]
    exact ih (List.forall_mem_cons.mpr ⟨hc, hseen⟩) h

theorem exists_word_of_mem_tokenize (h : .pattern text ∈ tokenize formula) :
    ∃ word, IsPatternOf text word :=
  exists_word_of_mem_tokensAfter (by simp) h

theorem ne_empty_of_mem_tokenize (h : .pattern text ∈ tokenize formula) : text ≠ "" := by
  obtain ⟨word, hne, -, hword⟩ := exists_word_of_mem_tokenize h
  rw [Token.ofWord_eq_pattern hword]
  simpa using hne

/-! ## Conditions of a formula -/

/-- A property of conditions holds of what a symbol stands for. -/
def Symbol.Holds (P : Expr → Prop) : (s : Symbol) → s.Value → Prop
  | .alternatives, es | .factors, es => ∀ e ∈ es, P e
  | .or, e | .and, e | .not, e | .primary, e => P e

theorem chain_holds {P : Expr → Prop} {join : List Expr → Expr} {first : Expr} {others : List Expr}
    (hjoin : ∀ items, 1 < items.length → (∀ e ∈ items, P e) → P (join items))
    (hf : P first) (ho : ∀ e ∈ others, P e) : P (chain join first others) := by
  cases others with
  | nil => exact hf
  | cons second others => exact hjoin _ (by simp) (List.forall_mem_cons.mpr ⟨hf, ho⟩)

/-- What holds of the patterns among some tokens, and is handed on by groups of two and more and, if
it is among the tokens, by `NOT`, holds of what a derivation that spells such tokens stands for. -/
theorem Derivation.value_induction {P : Expr → Prop} {s : Symbol} {ts : List Token}
    (t : Derivation s) (hts : t.tokens ⊆ ts)
    (pattern : ∀ text, .pattern text ∈ ts → P (.pattern text))
    (not : .not ∈ ts → ∀ operand, P operand → P (.not operand))
    (and : ∀ items, 1 < items.length → (∀ e ∈ items, P e) → P (.and items))
    (or : ∀ items, 1 < items.length → (∀ e ∈ items, P e) → P (.or items)) :
    s.Holds P t.value := by
  induction t with
  | or first others ihf iho =>
    obtain ⟨hfirst, hothers⟩ := List.append_subset.mp hts
    exact chain_holds or (ihf hfirst) (iho hothers)
  | and first others ihf iho =>
    obtain ⟨hfirst, hothers⟩ := List.append_subset.mp hts
    exact chain_holds and (ihf hfirst) (iho hothers)
  | alternative item others ihi iho | factor item others ihi iho =>
    obtain ⟨hitem, hothers⟩ := List.append_subset.mp (List.cons_subset.mp hts).2
    exact List.forall_mem_cons.mpr ⟨ihi hitem, iho hothers⟩
  | noAlternative | noFactor => exact nofun
  | not operand ih =>
    obtain ⟨hnot, hoperand⟩ := List.cons_subset.mp hts
    exact not hnot _ (ih hoperand)
  | primary operand ih => exact ih hts
  | pattern text => exact pattern text (hts List.mem_cons_self)
  | group inner ih => exact ih (List.append_subset.mp (List.cons_subset.mp hts).2).1

theorem exists_derivation_of_parse {formula : String} {e : Expr} (h : parse formula = .ok e) :
    ∃ t : Derivation .or, t.tokens = body (tokenize formula) ∧ t.nesting ≤ maxNesting ∧
      t.value = e := by
  obtain ⟨t, ht, hn, hp⟩ := exists_derivation_of_parseTokens (checkTokens_of_parseTokens_ok h)
  exact ⟨t, ht, hn, Except.ok.inj (hp.symm.trans h)⟩

/-- What holds of the patterns of a formula, and is handed on by groups of two and more and, if the
formula has one, by `NOT`, holds of the formula's condition. -/
theorem parse_induction {P : Expr → Prop} {formula : String} {e : Expr} (h : parse formula = .ok e)
    (pattern : ∀ text, .pattern text ∈ tokenize formula → P (.pattern text))
    (not : .not ∈ tokenize formula → ∀ operand, P operand → P (.not operand))
    (and : ∀ items, 1 < items.length → (∀ e ∈ items, P e) → P (.and items))
    (or : ∀ items, 1 < items.length → (∀ e ∈ items, P e) → P (.or items)) : P e := by
  obtain ⟨t, ht, -, rfl⟩ := exists_derivation_of_parse h
  exact t.value_induction (ht ▸ (List.takeWhile_prefix _).subset) pattern not and or

theorem proper_of_parse {formula : String} {e : Expr} (h : parse formula = .ok e) : e.Proper :=
  parse_induction h (fun _ hm => .pattern (ne_empty_of_mem_tokenize hm)) (fun _ _ => .not)
    (fun _ hlen => .and (List.ne_nil_of_length_pos (Nat.lt_of_succ_lt hlen)))
    (fun _ hlen => .or (List.ne_nil_of_length_pos (Nat.lt_of_succ_lt hlen)))

/-- A valid formula is one that has a condition. -/
theorem isValid_iff_exists_parse {formula : String} :
    isValid formula = true ↔ ∃ e, parse formula = .ok e := by
  simp only [isValid, check, parse, exists_parseTokens_iff]
  cases checkTokens (tokenize formula) <;> simp [Except.isOk, Except.toBool]

end Formula

end NameRoles
