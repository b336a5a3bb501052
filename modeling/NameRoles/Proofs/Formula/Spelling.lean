import NameRoles.Proofs.Formula.Nesting

/-!
# Which conditions can be written

A condition has a written form exactly if each of its parts is writable: it is a negation, a group
with items, or a pattern that is one word and no keyword. The written form reads back as the
condition without its groups of one, which holds of the same names, unless it nests too deep
(`parse_render_any`).
-/

namespace NameRoles

open Text

/-! ## Words -/

namespace Formula

/-- The words that are no patterns, in lower case. -/
def keywords : List (List Char) := [['a', 'n', 'd'], ['o', 'r'], ['n', 'o', 't']]

/-- One word, without blanks and parentheses, that is no keyword in any mixture of ASCII cases. -/
structure IsPlainWord (text : String) : Prop where
  ne_empty : text ≠ ""
  chars : ∀ c ∈ text.toList, isBlank c = false ∧ c ≠ '(' ∧ c ≠ ')'
  notMem_keywords : text.toList.map Char.toLower ∉ keywords

variable {text : String} {word : List Char} {c : Char}

@[simp] theorem isWordChar_iff : isWordChar c = true ↔ isBlank c = false ∧ c ≠ '(' ∧ c ≠ ')' := by
  simp [isWordChar, and_assoc]

theorem Token.ofWord_eq_pattern_iff :
    Token.ofWord word = .pattern (String.ofList word) ↔ word.map Char.toLower ∉ keywords := by
  unfold Token.ofWord keywords
  grind

theorem isSpellable_iff : isSpellable text = true ↔ IsPlainWord text := by
  constructor
  · intro h
    have hmem : .pattern text ∈ tokenize text := by
      rw [isSpellable, decide_eq_true_eq] at h
      simp [h]
    obtain ⟨word, hne, hchars, hword⟩ := exists_word_of_mem_tokenize hmem
    obtain rfl := Token.ofWord_eq_pattern hword
    refine ⟨by simpa using hne, ?_, ?_⟩
    · simpa using hchars
    · simpa only [String.toList_ofList, Token.ofWord_eq_pattern_iff] using hword
  · rintro ⟨hne, hchars, hkeyword⟩
    have htokens : tokensAfter [] (text.toList ++ []) = Token.ofWord text.toList :: [.ending] :=
      tokensAfter_word_append (by simpa using hne) (by simpa using hchars)
        endsWord_nil
    rw [List.append_nil, Token.ofWord_eq_pattern_iff.mpr hkeyword, String.ofList_toList] at htokens
    rw [isSpellable, decide_eq_true_eq]
    exact htokens

end Formula

/-! ## Parts of a condition -/

namespace Expr

open Formula

/-- A condition stands somewhere in another one. -/
inductive PartOf (part : Expr) : Expr → Prop where
  | self : PartOf part part
  | not {operand : Expr} (h : part.PartOf operand) : PartOf part (.not operand)
  | and {item : Expr} {items : List Expr} (hmem : item ∈ items) (h : part.PartOf item) :
      PartOf part (.and items)
  | or {item : Expr} {items : List Expr} (hmem : item ∈ items) (h : part.PartOf item) :
      PartOf part (.or items)

/-- What a formula can say, as far as the root of the condition goes. -/
def Writable : Expr → Prop
  | .pattern text => IsPlainWord text
  | .not _ => True
  | .and items | .or items => items ≠ []
  | .never => False

variable {e part : Expr} {items : List Expr} {name : List Char}

theorem Spellable.of_partOf (h : e.Spellable) (hpart : part.PartOf e) : part.Spellable := by
  induction hpart with
  | self => exact h
  | not _ ih =>
    cases h with
    | not h => exact ih h
  | and hmem _ ih =>
    cases h with
    | and _ h => exact ih (h _ hmem)
  | or hmem _ ih =>
    cases h with
    | or _ h => exact ih (h _ hmem)

theorem Spellable.writable (h : e.Spellable) : e.Writable := by
  cases h with
  | pattern h => exact isSpellable_iff.mp h
  | not => trivial
  | and hne | or hne => exact hne

theorem spellable_iff_parts : e.Spellable ↔ ∀ part : Expr, part.PartOf e → part.Writable := by
  refine ⟨fun h _ hpart => (h.of_partOf hpart).writable, fun h => ?_⟩
  induction e using Expr.induction with
  | pattern text => exact .pattern (isSpellable_iff.mpr (h _ .self))
  | not operand ih => exact .not (ih fun part hpart => h part (.not hpart))
  | and items ih =>
    exact .and (h _ .self) fun e he => ih e he fun part hpart => h part (.and he hpart)
  | or items ih =>
    exact .or (h _ .self) fun e he => ih e he fun part hpart => h part (.or he hpart)
  | never => exact (h _ .self).elim

/-! ## Groups of one -/

@[simp] theorem holds_collapseAll (h : ∀ e ∈ items, e.collapse.holds name = e.holds name) :
    (collapseAll items).all (holds name) = items.all (holds name) ∧
      (collapseAll items).any (holds name) = items.any (holds name) := by
  induction items with
  | nil => exact ⟨rfl, rfl⟩
  | cons item items ih =>
    obtain ⟨hitem, hitems⟩ := List.forall_mem_cons.mp h
    obtain ⟨hall, hany⟩ := ih hitems
    simp only [collapseAll, List.all_cons, List.any_cons, hitem, hall, hany, and_self]

/-- A group of one holds of the names that its item holds of. -/
@[simp] theorem holds_collapse (e : Expr) : e.collapse.holds name = e.holds name := by
  induction e using Expr.induction with
  | pattern | never => rfl
  | not operand ih => rw [collapse, holds, holds, ih]
  | and items ih =>
    cases items with
    | nil => rfl
    | cons item items =>
      have hne : collapseAll (item :: items) ≠ [] := by simp [collapseAll]
      rw [collapse, holds_allOf hne, (holds_collapseAll ih).1, holds, holdsAll_eq]
      rfl
  | or items ih => rw [collapse, holds_anyOf, (holds_collapseAll ih).2, holds, holdsAny_eq]

end Expr

/-! ## Written forms -/

namespace Formula

variable {e : Expr} {items : List Expr} {place : Place} {cs : List Char}
  {texts : List (List Char)} {text : String}

theorem exists_spell_of_mem (h : spellAll place items = some texts) (he : e ∈ items) :
    ∃ cs, spell place e = some cs := by
  induction items generalizing texts with
  | nil => cases he
  | cons item items ih =>
    simp only [spellAll, Option.bind_eq_bind, Option.bind_eq_some_iff] at h
    obtain ⟨text, htext, others, hothers, -⟩ := h
    rcases List.mem_cons.mp he with rfl | he
    · exact ⟨text, htext⟩
    · exact ih hothers he

theorem spellable_of_spell (h : spell place e = some cs) : e.Spellable := by
  induction e using Expr.induction generalizing place cs with
  | pattern text =>
    simp only [spell, Option.ite_none_right_eq_some] at h
    exact .pattern h.1
  | not operand ih =>
    obtain ⟨text, htext, -⟩ := Option.map_eq_some_iff.mp h
    exact .not (ih htext)
  | and items ih =>
    simp only [spell, Option.ite_none_left_eq_some, Option.map_eq_some_iff] at h
    obtain ⟨hne, texts, htexts, -⟩ := h
    refine .and (by simpa using hne) fun e he => ?_
    obtain ⟨text, htext⟩ := exists_spell_of_mem htexts he
    exact ih e he htext
  | or items ih =>
    simp only [spell, Option.ite_none_left_eq_some, Option.map_eq_some_iff] at h
    obtain ⟨hne, texts, htexts, -⟩ := h
    refine .or (by simpa using hne) fun e he => ?_
    obtain ⟨text, htext⟩ := exists_spell_of_mem htexts he
    exact ih e he htext
  | never => simp [spell] at h

theorem exists_render_iff : (∃ text, render e = some text) ↔ e.Spellable := by
  constructor
  · rintro ⟨text, h⟩
    obtain ⟨cs, hcs, -⟩ := Option.map_eq_some_iff.mp h
    exact spellable_of_spell hcs
  · intro h
    obtain ⟨text, htext, -⟩ := h.exists_render
    exact ⟨text, htext⟩

/-- What is written says the condition without its groups of one. -/
theorem says_of_render (h : render e = some text) : Says text e.collapse (nestingAt .whole e) := by
  have hspellable := exists_render_iff.mp ⟨text, h⟩
  obtain ⟨written, hwritten, htokens⟩ := hspellable.exists_render
  obtain rfl : written = text := Option.some.inj (hwritten.symm.trans h)
  exact ⟨_, htokens, hspellable.gives .whole⟩

theorem parse_of_render (h : render e = some text) :
    parse text = if nesting text ≤ maxNesting then .ok e.collapse else .error .tooDeep := by
  rw [(says_of_render h).parse_eq, (says_of_render h).nesting_eq]

/-- Exactly the conditions whose parts are all writable have a written form. It reads back as the
condition without its groups of one, which holds of the same names, or else is too deep, just if a
pattern in it lies under more than 256 levels. -/
theorem parse_render_any (e : Expr) :
    ((∃ text, render e = some text) ↔ ∀ part : Expr, part.PartOf e → part.Writable) ∧
      ∀ text, render e = some text →
        (parse text = .ok e.collapse ∨ parse text = .error .tooDeep) ∧
        (parse text = .error .tooDeep ↔ ∃ n ∈ levels text, 256 < n) ∧
        ∀ name, e.collapse.matchesName name = e.matchesName name := by
  refine ⟨exists_render_iff.trans Expr.spellable_iff_parts, fun text h => ?_⟩
  have hparse := parse_of_render h
  refine ⟨?_, ?_, fun name => Expr.holds_collapse e⟩
  · split at hparse
    · exact .inl hparse
    · exact .inr hparse
  · rw [← lt_nesting_iff, hparse, maxNesting]
    grind

/-- A condition with groups of one and with a group in a group of its kind. -/
def nestedGroups : Expr :=
  .not (.and [.or [.pattern "a"], .and [.or [.pattern "b", .pattern "c"]]])

theorem parse_render_any_nestedGroups :
    render nestedGroups = some "NOT ((a) AND ((b OR c)))" ∧
      parse "NOT ((a) AND ((b OR c)))" =
        .ok (.not (.and [.pattern "a", .or [.pattern "b", .pattern "c"]])) := by
  have hrender : render nestedGroups = some "NOT ((a) AND ((b OR c)))" := by decide +kernel
  have hlevels : levels "NOT ((a) AND ((b OR c)))" = [3, 4, 4] := by decide +kernel
  obtain ⟨hparse, hdeep, -⟩ := (parse_render_any nestedGroups).2 _ hrender
  have hnot : parse "NOT ((a) AND ((b OR c)))" ≠ .error .tooDeep := by simp [hdeep, hlevels]
  exact ⟨hrender, hparse.resolve_right hnot⟩

end Formula

end NameRoles
