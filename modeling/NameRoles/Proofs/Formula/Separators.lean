import NameRoles.Proofs.Formula.Spelling
import NameRoles.Proofs.Text.LetterCase

/-!
# Blanks and parentheses separate tokens

Wherever a blank or a parenthesis stands in a formula, the tokens are those of the texts on both
sides of it, and a text without such characters is one token. Only one way to cut formulas obeys
these laws (`IsTokenizer.unique`), and it is `tokenize` (`isTokenizer_tokenize`). It keeps every
character that is not blank, in its place (`exists_lexes_covers`).
-/

namespace NameRoles.Formula

open Text

/-! ## Laws -/

/-- A text of blanks, of one at least. -/
structure IsGap (text : String) : Prop where
  ne_empty : text ≠ ""
  blank : ∀ c ∈ text.toList, isBlank c = true

/-- A text without blanks and parentheses that is not empty. -/
structure IsWord (text : String) : Prop where
  ne_empty : text ≠ ""
  chars : ∀ c ∈ text.toList, isBlank c = false ∧ c ≠ '(' ∧ c ≠ ')'

/-- A text stands in a formula for a token: a keyword in any mixture of ASCII cases, another word as
it is written, or a parenthesis. -/
inductive Lexeme : String → Token → Prop where
  | and {word : String} (h : CaseVariant word "AND") : Lexeme word .and
  | or {word : String} (h : CaseVariant word "OR") : Lexeme word .or
  | not {word : String} (h : CaseVariant word "NOT") : Lexeme word .not
  | pattern {word : String} (h : IsPlainWord word) : Lexeme word (.pattern word)
  | opening : Lexeme "(" .opening
  | closing : Lexeme ")" .closing

/-- Wherever the separator stands, the tokens are those of the text in front of it, without their
`ending`, those of the separator, and those of the text behind it. -/
def CutsAt (f : String → List Token) (separator : String) (tokens : List Token) : Prop :=
  ∀ a b, ∃ ts, f a = ts ++ [.ending] ∧ f (a ++ separator ++ b) = ts ++ tokens ++ f b

/-- A way to cut formulas at blanks and parentheses and nowhere else. -/
structure IsTokenizer (f : String → List Token) : Prop where
  gap : ∀ gap, IsGap gap → CutsAt f gap []
  opening : CutsAt f "(" [.opening]
  closing : CutsAt f ")" [.closing]
  word : ∀ word, IsWord word → ∃ t, Lexeme word t ∧ f word = [t, .ending]

variable {text a b separator : String} {word cs ds : List Char} {c : Char} {t : Token}
  {ts us : List Token} {f g : String → List Token}

/-! ## Words -/

theorem isWord_ofList (hne : word ≠ []) (h : ∀ c ∈ word, isWordChar c = true) :
    IsWord (String.ofList word) := by
  refine ⟨by simpa using hne, ?_⟩
  simpa using h

theorem IsPlainWord.isWord (h : IsPlainWord text) : IsWord text := ⟨h.ne_empty, h.chars⟩

theorem IsWord.lexeme_ofWord (h : IsWord text) : Lexeme text (Token.ofWord text.toList) := by
  unfold Token.ofWord
  split
  next hand => exact .and (caseVariant_iff_map.mpr hand)
  next hor => exact .or (caseVariant_iff_map.mpr hor)
  next hnot => exact .not (caseVariant_iff_map.mpr hnot)
  next hand hor hnot =>
    rw [String.ofList_toList]
    exact .pattern ⟨h.ne_empty, h.chars, by simp_all [keywords]⟩

/-- A word stands for one token only. -/
theorem Lexeme.eq_ofWord (h : Lexeme text t) (hword : IsWord text) :
    t = Token.ofWord text.toList := by
  cases h with
  | and h | or h | not h =>
    rw [Token.ofWord, caseVariant_iff_map.mp h]
    rfl
  | pattern h => rw [Token.ofWord_eq_pattern_iff.mpr h.notMem_keywords, String.ofList_toList]
  | opening => exact absurd rfl (hword.chars '(' (by simp)).2.1
  | closing => exact absurd rfl (hword.chars ')' (by simp)).2.2

/-- What holds of words, and is handed on over a separator behind a word, holds of all texts. -/
theorem words_induction {P : List Char → Prop}
    (word : ∀ word, (∀ c ∈ word, isWordChar c = true) → P word)
    (cut : ∀ word c cs, (∀ c ∈ word, isWordChar c = true) → isWordChar c = false → P cs →
      P (word ++ c :: cs)) (cs : List Char) : P cs := by
  -- the induction is on the text, and the word in front of it grows until a separator ends it
  suffices h : ∀ seen, (∀ c ∈ seen, isWordChar c = true) → P (seen ++ cs) from h [] nofun
  induction cs with
  | nil =>
    intro seen hseen
    rw [List.append_nil]
    exact word seen hseen
  | cons c cs ih =>
    intro seen hseen
    cases hc : isWordChar c with
    | true =>
      have hseen' := ih (seen ++ [c]) (by grind)
      rwa [List.append_assoc] at hseen'
    | false => exact cut seen c cs hseen hc (ih [] nofun)

/-! ## One way to cut -/

/-- The tokens of a character that is no part of a word. -/
def separatorTokens (c : Char) : List Token :=
  if c = '(' then [.opening] else if c = ')' then [.closing] else []

theorem separatorTokens_of_isBlank (h : isBlank c = true) : separatorTokens c = [] := by
  have hopening : isBlank '(' = false := by decide
  have hclosing : isBlank ')' = false := by decide
  unfold separatorTokens
  grind

/-- A character that is no part of a word is a parenthesis, or blank and no token. -/
theorem separator_cases (h : isWordChar c = false) :
    (c = '(' ∧ separatorTokens c = [.opening]) ∨ (c = ')' ∧ separatorTokens c = [.closing]) ∨
      isBlank c = true ∧ separatorTokens c = [] := by
  by_cases hopening : c = '('
  · exact .inl ⟨hopening, by rw [hopening, separatorTokens, if_pos rfl]⟩
  by_cases hclosing : c = ')'
  · exact .inr (.inl ⟨hclosing, by rw [hclosing]; rfl⟩)
  have hblank : isBlank c = true := by simpa [isWordChar, hopening, hclosing] using h
  exact .inr (.inr ⟨hblank, separatorTokens_of_isBlank hblank⟩)

theorem CutsAt.apply_eq (hf : CutsAt f separator ts) (hg : CutsAt g separator ts) (ha : f a = g a)
    (hb : f b = g b) : f (a ++ separator ++ b) = g (a ++ separator ++ b) := by
  obtain ⟨us, hus, hf⟩ := hf a b
  obtain ⟨vs, hvs, hg⟩ := hg a b
  obtain rfl : us = vs := List.append_cancel_right (hus.symm.trans (ha.trans hvs))
  rw [hf, hg, hb]

namespace IsTokenizer

theorem cutsAt (h : IsTokenizer f) (hc : isWordChar c = false) :
    CutsAt f (String.ofList [c]) (separatorTokens c) := by
  obtain ⟨rfl, htokens⟩ | ⟨rfl, htokens⟩ | ⟨hblank, htokens⟩ := separator_cases hc
  · rw [htokens]
    exact h.opening
  · rw [htokens]
    exact h.closing
  · rw [htokens]
    exact h.gap _ ⟨by simp, by simpa using hblank⟩

/-- Two blanks are one gap, and they are also two, with nothing between them. -/
theorem apply_empty (h : IsTokenizer f) : f "" = [.ending] := by
  have hblank : isBlank ' ' = true := by decide
  have hone : IsGap " " := ⟨by simp, by simpa using hblank⟩
  have htwo : IsGap "  " := ⟨by simp, by simpa using hblank⟩
  -- a gap, a second one behind it, and both at once
  obtain ⟨ts, hts, hfirst⟩ := h.gap " " hone "" ""
  obtain ⟨us, hus, hsecond⟩ := h.gap " " hone " " ""
  obtain ⟨vs, hvs, hboth⟩ := h.gap "  " htwo "" ""
  obtain rfl : vs = ts := List.append_cancel_right (hvs.symm.trans hts)
  obtain rfl : us = vs := by
    simpa using List.append_cancel_right (hsecond.symm.trans hboth)
  have hrest : us ++ [.ending] = us ++ [] ++ f "" := hus.symm.trans hfirst
  simpa using hrest.symm

theorem apply_word (hf : IsTokenizer f) (hg : IsTokenizer g)
    (h : ∀ c ∈ word, isWordChar c = true) : f (String.ofList word) = g (String.ofList word) := by
  by_cases hne : word = []
  · rw [hne]
    exact hf.apply_empty.trans hg.apply_empty.symm
  · have hword := isWord_ofList hne h
    obtain ⟨t, ht, hft⟩ := hf.word _ hword
    obtain ⟨u, hu, hgu⟩ := hg.word _ hword
    rw [hft, hgu, ht.eq_ofWord hword, hu.eq_ofWord hword]

/-- The laws leave no choice. -/
theorem unique (hf : IsTokenizer f) (hg : IsTokenizer g) : f = g := by
  suffices h : ∀ cs, f (String.ofList cs) = g (String.ofList cs) by
    funext text
    simpa using h text.toList
  refine words_induction (fun word h => apply_word hf hg h) fun word c cs hword hc ih => ?_
  have htext : String.ofList (word ++ c :: cs) =
      String.ofList word ++ String.ofList [c] ++ String.ofList cs := by
    rw [← String.ofList_append, ← String.ofList_append, List.append_assoc, List.singleton_append]
  rw [htext]
  exact (hf.cutsAt hc).apply_eq (hg.cutsAt hc) (apply_word hf hg hword) ih

end IsTokenizer

/-! ## The tokens of a formula -/

theorem tokensAfter_separator (h : isWordChar c = false) :
    tokensAfter [] (c :: cs) = separatorTokens c ++ tokensAfter [] cs := by
  obtain ⟨rfl, htokens⟩ | ⟨rfl, htokens⟩ | ⟨hblank, htokens⟩ := separator_cases h
  · rfl
  · rfl
  · rw [tokensAfter, if_pos hblank, htokens]
    rfl

theorem tokensAfter_separators (h : ∀ c ∈ cs, isWordChar c = false) :
    tokensAfter [] (cs ++ ds) = cs.flatMap separatorTokens ++ tokensAfter [] ds := by
  induction cs with
  | nil => rfl
  | cons c cs ih =>
    obtain ⟨hc, hcs⟩ := List.forall_mem_cons.mp h
    rw [List.cons_append, tokensAfter_separator hc, ih hcs, List.flatMap_cons, List.append_assoc]

theorem cutsAt_tokenize (hne : cs ≠ []) (h : ∀ c ∈ cs, isWordChar c = false) :
    CutsAt tokenize (String.ofList cs) (cs.flatMap separatorTokens) := by
  intro a b
  obtain ⟨ts, hts, -, happend⟩ := exists_tokensAfter_eq [] a.toList
  have hend : EndsWord (cs ++ b.toList) := by
    cases cs with
    | nil => contradiction
    | cons c cs => exact endsWord_cons (h c List.mem_cons_self)
  refine ⟨ts, hts, ?_⟩
  rw [tokenize, String.toList_append, String.toList_append, String.toList_ofList, List.append_assoc,
    happend _ hend, tokensAfter_separators h, List.append_assoc, tokenize]

theorem lexes_word (hne : word ≠ []) (h : ∀ c ∈ word, isWordChar c = true) :
    Lexes word [Token.ofWord word] := by
  have htokens := tokensAfter_word_append hne h endsWord_nil
  rwa [List.append_nil] at htokens

theorem isTokenizer_tokenize : IsTokenizer tokenize where
  gap gap h := by
    have hchars (c : Char) (hc : c ∈ gap.toList) : isWordChar c = false := by
      simp [isWordChar, h.blank c hc]
    have hnone : gap.toList.flatMap separatorTokens = [] :=
      List.flatMap_eq_nil_iff.mpr fun c hc => separatorTokens_of_isBlank (h.blank c hc)
    have hcuts := cutsAt_tokenize (by simpa using h.ne_empty) hchars
    rwa [String.ofList_toList, hnone] at hcuts
  opening := cutsAt_tokenize (List.cons_ne_nil '(' []) (List.forall_mem_singleton.mpr (by decide))
  closing := cutsAt_tokenize (List.cons_ne_nil ')' []) (List.forall_mem_singleton.mpr (by decide))
  word word h := by
    have hchars := h.chars
    simp only [← isWordChar_iff] at hchars
    exact ⟨_, h.lexeme_ofWord, lexes_word (by simpa using h.ne_empty) hchars⟩

/-! ## No character is lost -/

/-- The tokens stand for texts that are together the characters which are not blank. -/
def Covers (cs : List Char) (ts : List Token) : Prop :=
  ∃ lexemes : List String, List.Forall₂ Lexeme lexemes ts ∧
    lexemes.flatMap String.toList = cs.filter (!isBlank ·)

theorem Covers.append (h : Covers cs ts) (h' : Covers ds us) : Covers (cs ++ ds) (ts ++ us) := by
  obtain ⟨first, hfirst, hchars⟩ := h
  obtain ⟨second, hsecond, hchars'⟩ := h'
  refine ⟨first ++ second, List.rel_append hfirst hsecond, ?_⟩
  rw [List.flatMap_append, hchars, hchars', List.filter_append]

theorem covers_separator (h : isWordChar c = false) : Covers [c] (separatorTokens c) := by
  obtain ⟨rfl, htokens⟩ | ⟨rfl, htokens⟩ | ⟨hblank, htokens⟩ := separator_cases h
  · exact ⟨["("], htokens ▸ .cons .opening .nil, by decide⟩
  · exact ⟨[")"], htokens ▸ .cons .closing .nil, by decide⟩
  · exact ⟨[], htokens ▸ .nil, by simp [hblank]⟩

theorem covers_word (hne : word ≠ []) (h : ∀ c ∈ word, isWordChar c = true) :
    Covers word [Token.ofWord word] := by
  have hlexeme := (isWord_ofList hne h).lexeme_ofWord
  rw [String.toList_ofList] at hlexeme
  refine ⟨[String.ofList word], .cons hlexeme .nil, ?_⟩
  have hkept : word.filter (!isBlank ·) = word :=
    List.filter_eq_self.mpr fun c hc => by simp [(isWordChar_iff.mp (h c hc)).1]
  simp [hkept]

theorem exists_lexes_covers_word (h : ∀ c ∈ word, isWordChar c = true) :
    ∃ ts, Lexes word ts ∧ Covers word ts := by
  by_cases hne : word = []
  · rw [hne]
    exact ⟨[], rfl, [], .nil, rfl⟩
  · exact ⟨_, lexes_word hne h, covers_word hne h⟩

/-- The tokens of a text cover it. -/
theorem exists_lexes_covers (cs : List Char) : ∃ ts, Lexes cs ts ∧ Covers cs ts := by
  induction cs using words_induction with
  | word word h => exact exists_lexes_covers_word h
  | cut word c cs hword hc ih =>
    obtain ⟨ts, hts, hcovers⟩ := exists_lexes_covers_word hword
    obtain ⟨us, hus, hcovers'⟩ := ih
    have hbehind : Covers (c :: cs) (separatorTokens c ++ us) :=
      (covers_separator hc).append hcovers'
    refine ⟨ts ++ (separatorTokens c ++ us), ?_, hcovers.append hbehind⟩
    rw [Lexes, hts.tokensAfter_append (endsWord_cons hc), tokensAfter_separator hc, hus,
      List.append_assoc, List.append_assoc]

/-- `tokenize` is the one way to cut formulas at blanks and parentheses and nowhere else. How many
blanks stand in a place does not matter. Behind all tokens one `ending` stands; the patterns are
words, and with the other tokens they cover all of the formula but its blanks. -/
theorem tokenize_laws :
    (∀ f : String → List Token, IsTokenizer f ↔ f = tokenize) ∧
    (∀ a gap gap' b, IsGap gap → IsGap gap' →
      tokenize (a ++ gap ++ b) = tokenize (a ++ gap' ++ b)) ∧
    ∀ formula, ∃ ts, tokenize formula = ts ++ [.ending] ∧ .ending ∉ ts ∧
      (∀ text, .pattern text ∈ ts → IsWord text) ∧ Covers formula.toList ts := by
  refine ⟨fun f => ⟨fun h => h.unique isTokenizer_tokenize, ?_⟩, fun a gap gap' b h h' => ?_,
    fun formula => ?_⟩
  · rintro rfl
    exact isTokenizer_tokenize
  · obtain ⟨ts, hts, heq⟩ := isTokenizer_tokenize.gap gap h a b
    obtain ⟨us, hus, heq'⟩ := isTokenizer_tokenize.gap gap' h' a b
    obtain rfl : ts = us := List.append_cancel_right (hts.symm.trans hus)
    rw [heq, heq']
  · obtain ⟨ts, hlexes, hcovers⟩ := exists_lexes_covers formula.toList
    have hts : tokenize formula = ts ++ [.ending] := hlexes
    have hbody : body (tokenize formula) = ts := List.append_cancel_right
      ((tokenize_eq_body_append formula).symm.trans hts)
    refine ⟨ts, hts, hbody ▸ ending_notMem_body, fun text hmem => ?_, hcovers⟩
    have htoken : .pattern text ∈ tokenize formula := by
      rw [hts]
      exact List.mem_append_left _ hmem
    exact (isSpellable_iff.mp (isSpellable_of_mem_tokenize htoken)).isWord

/-- Keywords in a mixture of cases, a space that is not ASCII, and parentheses without blanks. -/
theorem tokenize_laws_wide_space :
    IsGap "\u2003" ∧ IsGap " \t" ∧
      tokenize ("Tür" ++ "\u2003" ++ "aNd(b)") = tokenize ("Tür" ++ " \t" ++ "aNd(b)") ∧
      tokenize "Tür \taNd(b)" =
        [.pattern "Tür", .and, .opening, .pattern "b", .closing, .ending] := by
  have hblank : isBlank '\u2003' = true ∧ isBlank ' ' = true ∧ isBlank '\t' = true := by decide
  have hwide : IsGap "\u2003" := ⟨by simp, by simpa using hblank.1⟩
  have hnarrow : IsGap " \t" := ⟨by simp, by simpa using hblank.2⟩
  exact ⟨hwide, hnarrow, tokenize_laws.2.1 _ _ _ _ hwide hnarrow, by decide +kernel⟩

end NameRoles.Formula
