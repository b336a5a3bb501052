import NameRoles.Proofs.Formula.Lexing

/-!
# Written forms of conditions

`tokensAt` says which tokens the written form of a condition has at a place and `nestingAt` how deep
they nest. The writer gives a text of these tokens (`Spellable.exists_spell`), and the tokens have a
derivation that stands for the condition, save that a group of one stands for its item
(`Spellable.gives`).
-/

namespace NameRoles

namespace Expr

/-- Every pattern of the condition reads back as itself, every group has items, and `never` stands
nowhere in it. -/
inductive Spellable : Expr → Prop where
  | pattern {text : String} (h : Formula.isSpellable text = true) : Spellable (.pattern text)
  | not {operand : Expr} (h : operand.Spellable) : Spellable (.not operand)
  | and {items : List Expr} (hne : items ≠ []) (h : ∀ e ∈ items, e.Spellable) :
      Spellable (.and items)
  | or {items : List Expr} (hne : items ≠ []) (h : ∀ e ∈ items, e.Spellable) :
      Spellable (.or items)

mutual

/-- The condition without groups of one: such a group is replaced by its item. -/
def collapse : Expr → Expr
  | .pattern text => .pattern text
  | .not operand => .not (collapse operand)
  | .and items => allOf (collapseAll items)
  | .or items => anyOf (collapseAll items)
  | .never => .never

def collapseAll : List Expr → List Expr
  | [] => []
  | item :: items => collapse item :: collapseAll items

end

end Expr

namespace Formula

/-! ## Tokens and nesting of written forms -/

mutual

/-- The tokens of the written form of a condition at a place. -/
def tokensAt (place : Place) : Expr → List Token
  | .pattern text => [.pattern text]
  | .not operand => .not :: tokensAt .factor operand
  | .and items =>
    let ts := (tokensEach .and .factor items).tail
    if place = .factor then enclose ts else ts
  | .or items =>
    let ts := (tokensEach .or .alternative items).tail
    if place = .whole then ts else enclose ts
  | .never => []

/-- The tokens of conditions at like places, with an operator in front of each of them. -/
def tokensEach (op : Token) (place : Place) : List Expr → List Token
  | [] => []
  | item :: items => op :: (tokensAt place item ++ tokensEach op place items)

end

mutual

/-- How deep `(` and `NOT` nest in the written form of a condition at a place. -/
def nestingAt (place : Place) : Expr → Nat
  | .pattern _ | .never => 0
  | .not operand => nestingAt .factor operand + 1
  | .and items =>
    let n := nestingEach .factor items
    if place = .factor then n + 1 else n
  | .or items =>
    let n := nestingEach .alternative items
    if place = .whole then n else n + 1

def nestingEach (place : Place) : List Expr → Nat
  | [] => 0
  | item :: items => max (nestingAt place item) (nestingEach place items)

end

variable {place : Place} {e : Expr} {es items : List Expr} {sep : List Char} {op : Token}
  {ts us : List Token} {m n : Nat}

/-! ## Texts of written forms -/

/-- The texts of several conditions, joined behind another text. -/
theorem exists_spellAll (hsep : Separates sep op)
    (h : ∀ e ∈ items, ∃ cs, spell place e = some cs ∧ Lexes cs (tokensAt place e)) :
    ∃ texts, spellAll place items = some texts ∧ ∀ cs ts, Lexes cs ts →
      Lexes (sep.intercalate (cs :: texts)) (ts ++ tokensEach op place items) := by
  induction items with
  | nil =>
    refine ⟨[], rfl, fun cs ts hcs => ?_⟩
    rwa [List.intercalate_singleton, tokensEach, List.append_nil]
  | cons item items ih =>
    obtain ⟨⟨text, htext, hlexes⟩, hitems⟩ := List.forall_mem_cons.mp h
    obtain ⟨texts, htexts, hjoined⟩ := ih hitems
    refine ⟨text :: texts, by rw [spellAll, htext, htexts]; rfl, fun cs ts hcs => ?_⟩
    rw [List.intercalate_cons_cons, tokensEach]
    exact hcs.join hsep (hjoined text _ hlexes)

theorem exists_spellAll_intercalate (hne : items ≠ []) (hsep : Separates sep op)
    (h : ∀ e ∈ items, ∃ cs, spell place e = some cs ∧ Lexes cs (tokensAt place e)) :
    ∃ texts, spellAll place items = some texts ∧
      Lexes (sep.intercalate texts) (tokensEach op place items).tail := by
  cases items with
  | nil => contradiction
  | cons first others =>
    obtain ⟨⟨text, htext, hlexes⟩, hothers⟩ := List.forall_mem_cons.mp h
    obtain ⟨texts, htexts, hjoined⟩ := exists_spellAll hsep hothers
    exact ⟨text :: texts, by rw [spellAll, htext, htexts]; rfl, hjoined text _ hlexes⟩

/-! ## Derivations of written forms -/

/-- Some derivation spells these tokens, stands for this value and nests this deep. -/
def Symbol.Gives (s : Symbol) (ts : List Token) (value : s.Value) (n : Nat) : Prop :=
  ∃ t : Derivation s, t.tokens = ts ∧ t.value = value ∧ t.nesting = n

/-- A derivation as it may stand at the place gives the condition. -/
def Place.Gives : Place → List Token → Expr → Nat → Prop
  | .whole => Symbol.or.Gives
  | .alternative => Symbol.and.Gives
  | .factor => Symbol.not.Gives

theorem gives_or (h : Symbol.and.Gives ts e n) (ho : Symbol.alternatives.Gives us es m) :
    Symbol.or.Gives (ts ++ us) (Expr.anyOf (e :: es)) (max n m) := by
  obtain ⟨t, rfl, rfl, rfl⟩ := h
  obtain ⟨others, rfl, rfl, rfl⟩ := ho
  exact ⟨.or t others, rfl, chain_or, rfl⟩

theorem gives_alternative (h : Symbol.and.Gives ts e n) (ho : Symbol.alternatives.Gives us es m) :
    Symbol.alternatives.Gives (.or :: (ts ++ us)) (e :: es) (max n m) := by
  obtain ⟨t, rfl, rfl, rfl⟩ := h
  obtain ⟨others, rfl, rfl, rfl⟩ := ho
  exact ⟨.alternative t others, rfl, rfl, rfl⟩

theorem gives_and (h : Symbol.not.Gives ts e n) (ho : Symbol.factors.Gives us es m) :
    Symbol.and.Gives (ts ++ us) (Expr.allOf (e :: es)) (max n m) := by
  obtain ⟨t, rfl, rfl, rfl⟩ := h
  obtain ⟨others, rfl, rfl, rfl⟩ := ho
  exact ⟨.and t others, rfl, chain_and, rfl⟩

theorem gives_factor (h : Symbol.not.Gives ts e n) (ho : Symbol.factors.Gives us es m) :
    Symbol.factors.Gives (.and :: (ts ++ us)) (e :: es) (max n m) := by
  obtain ⟨t, rfl, rfl, rfl⟩ := h
  obtain ⟨others, rfl, rfl, rfl⟩ := ho
  exact ⟨.factor t others, rfl, rfl, rfl⟩

theorem gives_not (h : Symbol.not.Gives ts e n) :
    Symbol.not.Gives (.not :: ts) (.not e) (n + 1) := by
  obtain ⟨t, rfl, rfl, rfl⟩ := h
  exact ⟨.not t, rfl, rfl, rfl⟩

theorem gives_pattern (text : String) : Symbol.not.Gives [.pattern text] (.pattern text) 0 :=
  ⟨.primary (.pattern text), rfl, rfl, rfl⟩

theorem gives_group (h : Symbol.or.Gives ts e n) : Symbol.not.Gives (enclose ts) e (n + 1) := by
  obtain ⟨t, rfl, rfl, rfl⟩ := h
  exact ⟨.primary (.group t), rfl, rfl, rfl⟩

theorem gives_and_of_not (h : Symbol.not.Gives ts e n) : Symbol.and.Gives ts e n := by
  obtain ⟨t, rfl, rfl, rfl⟩ := h
  exact ⟨.and t .noFactor, List.append_nil _, rfl, Nat.max_zero _⟩

theorem gives_or_of_and (h : Symbol.and.Gives ts e n) : Symbol.or.Gives ts e n := by
  obtain ⟨t, rfl, rfl, rfl⟩ := h
  exact ⟨.or t .noAlternative, List.append_nil _, rfl, Nat.max_zero _⟩

theorem Place.gives_of_not (h : Symbol.not.Gives ts e n) : place.Gives ts e n := by
  cases place with
  | whole => exact gives_or_of_and (gives_and_of_not h)
  | alternative => exact gives_and_of_not h
  | factor => exact h

/-! ### Items of a group -/

theorem gives_factors
    (h : ∀ e ∈ items, Symbol.not.Gives (tokensAt .factor e) e.collapse (nestingAt .factor e)) :
    Symbol.factors.Gives (tokensEach .and .factor items) (Expr.collapseAll items)
      (nestingEach .factor items) := by
  induction items with
  | nil => exact ⟨.noFactor, rfl, rfl, rfl⟩
  | cons item items ih =>
    obtain ⟨hitem, hitems⟩ := List.forall_mem_cons.mp h
    exact gives_factor hitem (ih hitems)

theorem gives_conjunction (hne : items ≠ [])
    (h : ∀ e ∈ items, Symbol.not.Gives (tokensAt .factor e) e.collapse (nestingAt .factor e)) :
    Symbol.and.Gives (tokensEach .and .factor items).tail (Expr.allOf (Expr.collapseAll items))
      (nestingEach .factor items) := by
  cases items with
  | nil => contradiction
  | cons first others =>
    obtain ⟨hfirst, hothers⟩ := List.forall_mem_cons.mp h
    exact gives_and hfirst (gives_factors hothers)

theorem gives_alternatives (h : ∀ e ∈ items,
      Symbol.and.Gives (tokensAt .alternative e) e.collapse (nestingAt .alternative e)) :
    Symbol.alternatives.Gives (tokensEach .or .alternative items) (Expr.collapseAll items)
      (nestingEach .alternative items) := by
  induction items with
  | nil => exact ⟨.noAlternative, rfl, rfl, rfl⟩
  | cons item items ih =>
    obtain ⟨hitem, hitems⟩ := List.forall_mem_cons.mp h
    exact gives_alternative hitem (ih hitems)

theorem gives_disjunction (hne : items ≠ []) (h : ∀ e ∈ items,
      Symbol.and.Gives (tokensAt .alternative e) e.collapse (nestingAt .alternative e)) :
    Symbol.or.Gives (tokensEach .or .alternative items).tail (Expr.anyOf (Expr.collapseAll items))
      (nestingEach .alternative items) := by
  cases items with
  | nil => contradiction
  | cons first others =>
    obtain ⟨hfirst, hothers⟩ := List.forall_mem_cons.mp h
    exact gives_or hfirst (gives_alternatives hothers)

end Formula

/-! ## Spellable conditions -/

namespace Expr

open Formula

variable {e : Expr}

/-- A spellable condition has a written form at every place. -/
theorem Spellable.exists_spell (h : e.Spellable) (place : Place) :
    ∃ cs, spell place e = some cs ∧ Lexes cs (tokensAt place e) := by
  induction h generalizing place with
  | pattern h => exact ⟨_, by rw [spell, if_pos h], lexes_of_isSpellable h⟩
  | not _ ih =>
    obtain ⟨cs, hcs, hlexes⟩ := ih .factor
    exact ⟨_, by rw [spell, hcs]; rfl, hlexes.not⟩
  | @and items hne _ ih =>
    obtain ⟨texts, htexts, hlexes⟩ :=
      exists_spellAll_intercalate hne separates_and fun e he => ih e he .factor
    refine ⟨_, by rw [spell, if_neg (by simpa using hne), htexts]; rfl, ?_⟩
    cases place with
    | whole | alternative => exact hlexes
    | factor => exact hlexes.inParens
  | @or items hne _ ih =>
    obtain ⟨texts, htexts, hlexes⟩ :=
      exists_spellAll_intercalate hne separates_or fun e he => ih e he .alternative
    refine ⟨_, by rw [spell, if_neg (by simpa using hne), htexts]; rfl, ?_⟩
    cases place with
    | whole => exact hlexes
    | alternative | factor => exact hlexes.inParens

theorem Spellable.exists_render (h : e.Spellable) :
    ∃ text, render e = some text ∧ tokenize text = tokensAt .whole e ++ [.ending] := by
  obtain ⟨cs, hcs, hlexes⟩ := h.exists_spell .whole
  exact ⟨String.ofList cs, by rw [render, hcs]; rfl, hlexes.tokenize_eq⟩

/-- The tokens of a written form stand for the condition without its groups of one. -/
theorem Spellable.gives (h : e.Spellable) (place : Place) :
    place.Gives (tokensAt place e) e.collapse (nestingAt place e) := by
  induction h generalizing place with
  | pattern => exact Place.gives_of_not (gives_pattern _)
  | not _ ih => exact Place.gives_of_not (gives_not (ih .factor))
  | and hne _ ih =>
    have hand := gives_conjunction hne fun e he => ih e he .factor
    cases place with
    | whole => exact gives_or_of_and hand
    | alternative => exact hand
    | factor => exact gives_group (gives_or_of_and hand)
  | or hne _ ih =>
    have hor := gives_disjunction hne fun e he => ih e he .alternative
    cases place with
    | whole => exact hor
    | alternative => exact gives_and_of_not (gives_group hor)
    | factor => exact gives_group hor

end Expr

end NameRoles
