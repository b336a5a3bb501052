import NameRoles.Formula.Printer
import NameRoles.Proofs.Formula.Proper

/-!
# Tokens of texts that are put together

In front of a text that ends its last word a text gives the tokens that it gives alone
(`Lexes.tokensAfter_append`), so that a formula which is written piece by piece has the tokens of
its pieces. The words which a formula is cut into are spellable (`isSpellable_of_mem_tokenize`).
-/

namespace NameRoles.Formula

open Text

variable {c : Char} {word seen cs ds rest sep : List Char} {ts us : List Token} {op t : Token}
  {text formula : String}

/-! ## Words -/

/-- The text does not carry on a word in front of it. -/
def EndsWord (rest : List Char) : Prop := ∀ c ∈ rest.head?, isWordChar c = false

theorem endsWord_nil : EndsWord [] := nofun

theorem endsWord_cons (h : isWordChar c = false) : EndsWord (c :: cs) := by
  rintro _ ⟨⟩
  exact h

@[simp] theorem flush_nil : flush [] ts = ts := rfl

@[simp] theorem flush_append : flush word (ts ++ us) = flush word ts ++ us := by
  unfold flush
  split <;> rfl

theorem tokensAfter_cons_of_isWordChar (h : isWordChar c = true) :
    tokensAfter word (c :: cs) = tokensAfter (c :: word) cs := by
  simp only [isWordChar, Bool.not_eq_true', Bool.or_eq_false_iff, beq_eq_false_iff_ne] at h
  simp [tokensAfter, h]

theorem tokensAfter_of_endsWord (h : EndsWord rest) :
    tokensAfter word rest = flush word (tokensAfter [] rest) := by
  cases rest with
  | nil => rfl
  | cons c cs =>
    have hc : isWordChar c = false := h c rfl
    simp only [isWordChar, Bool.not_eq_false', Bool.or_eq_true, beq_iff_eq] at hc
    simp only [tokensAfter, flush_nil]
    grind

theorem tokensAfter_append_of_isWordChar (h : ∀ c ∈ word, isWordChar c = true) :
    tokensAfter seen (word ++ rest) = tokensAfter (word.reverse ++ seen) rest := by
  induction word generalizing seen with
  | nil => rfl
  | cons c word ih =>
    obtain ⟨hc, hword⟩ := List.forall_mem_cons.mp h
    rw [List.cons_append, tokensAfter_cons_of_isWordChar hc, ih hword]
    simp

/-- A whole word gives its token. -/
theorem tokensAfter_word_append (hne : word ≠ []) (h : ∀ c ∈ word, isWordChar c = true)
    (hrest : EndsWord rest) :
    tokensAfter [] (word ++ rest) = Token.ofWord word :: tokensAfter [] rest := by
  rw [tokensAfter_append_of_isWordChar h, tokensAfter_of_endsWord hrest]
  simp [flush, hne]

@[simp] theorem tokensAfter_blank : tokensAfter [] (' ' :: cs) = tokensAfter [] cs := by
  have hblank : isBlank ' ' = true := by decide
  simp [tokensAfter, hblank]

/-- A word and a blank behind it give the word's token. -/
theorem tokensAfter_word_blank (hne : word ≠ []) (h : word.all isWordChar = true) :
    tokensAfter [] (word ++ ' ' :: cs) = Token.ofWord word :: tokensAfter [] cs := by
  have hblank : EndsWord (' ' :: cs) := endsWord_cons (by decide)
  rw [tokensAfter_word_append hne (List.all_eq_true.mp h) hblank, tokensAfter_blank]

/-! ## Patterns -/

/-- The patterns of a formula read back as themselves. -/
theorem isSpellable_of_mem_tokenize (h : .pattern text ∈ tokenize formula) :
    isSpellable text = true := by
  obtain ⟨word, hne, hchars, hword⟩ := exists_word_of_mem_tokenize h
  obtain rfl := Token.ofWord_eq_pattern hword
  have htokens := tokensAfter_word_append hne hchars endsWord_nil
  rw [List.append_nil, hword] at htokens
  simpa [isSpellable, tokenize, tokensAfter] using htokens

/-! ## Texts in front of others -/

theorem Token.ofWord_ne_ending : Token.ofWord word ≠ .ending := by
  unfold Token.ofWord
  split <;> simp

theorem ending_notMem_flush (h : .ending ∉ ts) : .ending ∉ flush word ts := by
  intro hmem
  rcases mem_flush hmem with ⟨-, hword⟩ | hts
  · exact Token.ofWord_ne_ending hword.symm
  · exact h hts

/-- Behind its tokens a text has one `ending`; what else follows it does not change them. -/
theorem exists_tokensAfter_eq (seen cs : List Char) :
    ∃ ts, tokensAfter seen cs = ts ++ [.ending] ∧ .ending ∉ ts ∧
      ∀ rest, EndsWord rest → tokensAfter seen (cs ++ rest) = ts ++ tokensAfter [] rest := by
  fun_induction tokensAfter seen cs with
  | case1 word =>
    refine ⟨flush word [], by rw [← flush_append, List.nil_append],
      ending_notMem_flush List.not_mem_nil, fun rest hrest => ?_⟩
    rw [List.nil_append, tokensAfter_of_endsWord hrest, ← flush_append, List.nil_append]
  | case2 word c cs hblank ih =>
    obtain ⟨ts, hts, hending, hrest⟩ := ih
    refine ⟨flush word ts, by rw [hts, flush_append], ending_notMem_flush hending, fun rest h => ?_⟩
    rw [List.cons_append, tokensAfter, if_pos hblank, hrest rest h, flush_append]
  | case3 word cs hblank ih =>
    obtain ⟨ts, hts, hending, hrest⟩ := ih
    refine ⟨flush word (.opening :: ts), by rw [hts, ← List.cons_append, flush_append],
      ending_notMem_flush (by simpa using hending), fun rest h => ?_⟩
    rw [List.cons_append, tokensAfter, if_neg hblank, if_pos rfl, hrest rest h,
      ← List.cons_append, flush_append]
  | case4 word cs hblank hopening ih =>
    obtain ⟨ts, hts, hending, hrest⟩ := ih
    refine ⟨flush word (.closing :: ts), by rw [hts, ← List.cons_append, flush_append],
      ending_notMem_flush (by simpa using hending), fun rest h => ?_⟩
    rw [List.cons_append, tokensAfter, if_neg hblank, if_neg hopening, if_pos rfl, hrest rest h,
      ← List.cons_append, flush_append]
  | case5 word c cs hblank hopening hclosing ih =>
    obtain ⟨ts, hts, hending, hrest⟩ := ih
    refine ⟨ts, hts, hending, fun rest h => ?_⟩
    rw [List.cons_append, tokensAfter, if_neg hblank, if_neg hopening, if_neg hclosing,
      hrest rest h]

/-- All tokens of a formula but the last stand in front of the `ending`. -/
theorem tokenize_eq_body_append (formula : String) :
    tokenize formula = body (tokenize formula) ++ [.ending] := by
  obtain ⟨ts, hts, hending, -⟩ := exists_tokensAfter_eq [] formula.toList
  rw [tokenize, hts, body_append_ending, body_eq_self hending]

/-- A text has these tokens and the `ending` behind them. -/
def Lexes (cs : List Char) (ts : List Token) : Prop := tokensAfter [] cs = ts ++ [.ending]

theorem Lexes.tokensAfter_append (h : Lexes cs ts) (hrest : EndsWord rest) :
    tokensAfter [] (cs ++ rest) = ts ++ tokensAfter [] rest := by
  obtain ⟨us, hus, -, happend⟩ := exists_tokensAfter_eq [] cs
  obtain rfl : ts = us := List.append_cancel_right (h.symm.trans hus)
  exact happend rest hrest

theorem Lexes.tokenize_eq (h : Lexes cs ts) : tokenize (String.ofList cs) = ts ++ [.ending] := by
  rw [tokenize, String.toList_ofList, h]

theorem lexes_of_isSpellable (h : isSpellable text = true) :
    Lexes text.toList [.pattern text] := by
  rw [isSpellable, decide_eq_true_eq] at h
  exact h

theorem Lexes.not (h : Lexes cs ts) : Lexes ("NOT ".toList ++ cs) (.not :: ts) := by
  have htext : "NOT ".toList = ['N', 'O', 'T'] ++ [' '] := by decide
  have hnot : tokensAfter [] (['N', 'O', 'T'] ++ ' ' :: cs) = .not :: tokensAfter [] cs :=
    tokensAfter_word_blank (by simp) (by decide)
  rw [htext, List.append_assoc]
  exact hnot.trans (congrArg _ h)

/-- Puts the tokens of a pair of parentheses around tokens. -/
def enclose (ts : List Token) : List Token := .opening :: (ts ++ [.closing])

theorem Lexes.inParens (h : Lexes cs ts) : Lexes (inParens cs) (enclose ts) := by
  have hclosing : EndsWord [')'] := endsWord_cons (by decide)
  calc tokensAfter [] ('(' :: (cs ++ [')']))
      = .opening :: tokensAfter [] (cs ++ [')']) := rfl
    _ = .opening :: (ts ++ [.closing, .ending]) := by rw [h.tokensAfter_append hclosing]; rfl
    _ = enclose ts ++ [.ending] := by simp [enclose]

/-! ## Texts with separators between them -/

/-- Between two texts the separator ends the first and is read as the operator. -/
def Separates (sep : List Char) (op : Token) : Prop :=
  ∀ cs, EndsWord (sep ++ cs) ∧ tokensAfter [] (sep ++ cs) = op :: tokensAfter [] cs

theorem separates_word (hne : word ≠ []) (h : word.all isWordChar = true) :
    Separates (' ' :: word ++ [' ']) (Token.ofWord word) := fun cs => by
  refine ⟨endsWord_cons (by decide), ?_⟩
  rw [List.append_assoc, List.cons_append, tokensAfter_blank]
  exact tokensAfter_word_blank hne h

theorem separates_and : Separates " AND ".toList .and := by
  have htext : " AND ".toList = ' ' :: ['A', 'N', 'D'] ++ [' '] := by decide
  rw [htext]
  exact separates_word (by simp) (by decide)

theorem separates_or : Separates " OR ".toList .or := by
  have htext : " OR ".toList = ' ' :: ['O', 'R'] ++ [' '] := by decide
  rw [htext]
  exact separates_word (by simp) (by decide)

theorem Lexes.join (h : Lexes cs ts) (hsep : Separates sep op) (hd : Lexes ds us) :
    Lexes (cs ++ sep ++ ds) (ts ++ op :: us) := by
  obtain ⟨hend, htokens⟩ := hsep ds
  calc tokensAfter [] (cs ++ sep ++ ds)
      = ts ++ tokensAfter [] (sep ++ ds) := by rw [List.append_assoc, h.tokensAfter_append hend]
    _ = ts ++ op :: (us ++ [.ending]) := by rw [htokens, hd]
    _ = ts ++ op :: us ++ [.ending] := by simp

end NameRoles.Formula
