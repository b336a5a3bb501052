import Mathlib.Order.MinMax
import NameRoles.Proofs.Formula.Rendering

/-!
# Formulas written anew

The condition of a formula can be written down, with no word changed and no parenthesis added
(`Derivation.trims`), and so with no more levels than the formula has (`Derivation.nestingOf_le`).
What is written reads as the same condition (`render_reads_back`).
-/

namespace NameRoles

/-! ## Conditions of formulas -/

namespace Formula

variable {formula : String} {e : Expr}

theorem spellable_of_parse (h : parse formula = .ok e) : e.Spellable :=
  parse_induction h (fun _ hm => .pattern (isSpellable_of_mem_tokenize hm)) (fun _ _ => .not)
    (fun _ hlen => .and (List.ne_nil_of_length_pos (Nat.lt_of_succ_lt hlen)))
    (fun _ hlen => .or (List.ne_nil_of_length_pos (Nat.lt_of_succ_lt hlen)))

end Formula

namespace Expr

variable {items : List Expr}

theorem collapseAll_eq_self (h : ∀ e ∈ items, e.collapse = e) : collapseAll items = items := by
  induction items with
  | nil => rfl
  | cons item items ih =>
    obtain ⟨hitem, hitems⟩ := List.forall_mem_cons.mp h
    rw [collapseAll, hitem, ih hitems]

theorem allOf_of_one_lt (h : 1 < items.length) : allOf items = .and items := by
  match items, h with
  | _ :: _ :: _, _ => rfl

theorem anyOf_of_one_lt (h : 1 < items.length) : anyOf items = .or items := by
  match items, h with
  | _ :: _ :: _, _ => rfl

end Expr

namespace Formula

variable {formula : String} {e first : Expr} {others : List Expr} {t : Token}
  {ts ts' us us' : List Token}

/-- A formula's condition has no group of one. -/
theorem collapse_of_parse (h : parse formula = .ok e) : e.collapse = e :=
  parse_induction (P := fun e => e.collapse = e) h (fun _ _ => rfl)
    (fun _ _ ih => by rw [Expr.collapse, ih])
    (fun _ hlen ih => by
      rw [Expr.collapse, Expr.collapseAll_eq_self ih, Expr.allOf_of_one_lt hlen])
    (fun _ hlen ih => by
      rw [Expr.collapse, Expr.collapseAll_eq_self ih, Expr.anyOf_of_one_lt hlen])

/-! ## Fewer parentheses -/

def Token.isParenthesis : Token → Bool
  | .opening | .closing => true
  | _ => false

/-- The first tokens are what is left of the second when some of their parentheses, and nothing
else, are taken away. -/
structure Trims (ts us : List Token) : Prop where
  sublist : ts.Sublist us
  words : ts.filter (!·.isParenthesis) = us.filter (!·.isParenthesis)

namespace Trims

theorem refl (ts : List Token) : Trims ts ts := ⟨.refl ts, rfl⟩

theorem trans {vs : List Token} (h : Trims ts us) (h' : Trims us vs) : Trims ts vs :=
  ⟨h.sublist.trans h'.sublist, h.words.trans h'.words⟩

theorem append (h : Trims ts us) (h' : Trims ts' us') : Trims (ts ++ ts') (us ++ us') :=
  ⟨h.sublist.append h'.sublist, by rw [List.filter_append, List.filter_append, h.words, h'.words]⟩

theorem cons (h : Trims ts us) (t : Token) : Trims (t :: ts) (t :: us) := (refl [t]).append h

theorem enclose (h : Trims ts us) : Trims (enclose ts) (enclose us) :=
  (h.append (refl _)).cons _

theorem of_enclose (ts : List Token) : Trims ts (Formula.enclose ts) where
  sublist := (List.sublist_append_left ts _).trans (List.sublist_cons_self _ _)
  words := by simp [Formula.enclose, Token.isParenthesis]

end Trims

/-! ## The written form and the formula -/

/-- What a symbol stands for is written with these tokens at the symbol's place. -/
def Symbol.tokensOf : (s : Symbol) → s.Value → List Token
  | .or, e => tokensAt .whole e
  | .alternatives, es => tokensEach .or .alternative es
  | .and, e => tokensAt .alternative e
  | .factors, es => tokensEach .and .factor es
  | .not, e | .primary, e => tokensAt .factor e

/-- What a symbol stands for nests this deep when it is written at the symbol's place. -/
def Symbol.nestingOf : (s : Symbol) → s.Value → Nat
  | .or, e => nestingAt .whole e
  | .alternatives, es => nestingEach .alternative es
  | .and, e => nestingAt .alternative e
  | .factors, es => nestingEach .factor es
  | .not, e | .primary, e => nestingAt .factor e

/-! ### Tokens -/

theorem trims_whole (e : Expr) : Trims (tokensAt .whole e) (tokensAt .alternative e) := by
  cases e with
  | or items => exact .of_enclose _
  | pattern | not | and | never => exact .refl _

theorem trims_alternative (e : Expr) : Trims (tokensAt .alternative e) (tokensAt .factor e) := by
  cases e with
  | and items => exact .of_enclose _
  | pattern | not | or | never => exact .refl _

theorem trims_factor (e : Expr) : Trims (tokensAt .factor e) (enclose (tokensAt .whole e)) := by
  cases e with
  | and | or => exact .refl _
  | pattern | not | never => exact .of_enclose _

theorem trims_chain_or : Trims (tokensAt .whole (chain .or first others))
    (tokensAt .alternative first ++ tokensEach .or .alternative others) := by
  cases others with
  | nil => simpa [chain, tokensEach] using trims_whole first
  | cons => exact .refl _

theorem trims_chain_and : Trims (tokensAt .alternative (chain .and first others))
    (tokensAt .factor first ++ tokensEach .and .factor others) := by
  cases others with
  | nil => simpa [chain, tokensEach] using trims_alternative first
  | cons => exact .refl _

/-- Written anew, what a derivation stands for has the tokens of the derivation without some of the
parentheses. -/
theorem Derivation.trims {s : Symbol} (t : Derivation s) :
    Trims (s.tokensOf t.value) t.tokens := by
  induction t with
  | or first others ihf iho => exact trims_chain_or.trans (ihf.append iho)
  | and first others ihf iho => exact trims_chain_and.trans (ihf.append iho)
  | alternative item others ihi iho | factor item others ihi iho => exact (ihi.append iho).cons _
  | noAlternative | noFactor => exact .refl _
  | not operand ih => exact ih.cons _
  | primary operand ih => exact ih
  | pattern text => exact .refl _
  | group inner ih => exact (trims_factor _).trans ih.enclose

/-! ### Nesting -/

theorem nestingAt_whole_le (e : Expr) : nestingAt .whole e ≤ nestingAt .alternative e := by
  cases e with
  | or items => exact Nat.le_succ _
  | pattern | not | and | never => exact Nat.le_refl _

theorem nestingAt_alternative_le (e : Expr) : nestingAt .alternative e ≤ nestingAt .factor e := by
  cases e with
  | and items => exact Nat.le_succ _
  | pattern | not | or | never => exact Nat.le_refl _

theorem nestingAt_factor_le (e : Expr) : nestingAt .factor e ≤ nestingAt .whole e + 1 := by
  cases e with
  | and | or => exact Nat.le_refl _
  | pattern | not | never => exact Nat.le_succ _

theorem nestingAt_chain_or_le : nestingAt .whole (chain .or first others) ≤
    max (nestingAt .alternative first) (nestingEach .alternative others) := by
  cases others with
  | nil => exact (nestingAt_whole_le first).trans (Nat.le_max_left _ _)
  | cons => exact Nat.le_refl _

theorem nestingAt_chain_and_le : nestingAt .alternative (chain .and first others) ≤
    max (nestingAt .factor first) (nestingEach .factor others) := by
  cases others with
  | nil => exact (nestingAt_alternative_le first).trans (Nat.le_max_left _ _)
  | cons => exact Nat.le_refl _

/-- Written anew, what a derivation stands for nests no deeper than the derivation. -/
theorem Derivation.nestingOf_le {s : Symbol} (t : Derivation s) :
    s.nestingOf t.value ≤ t.nesting := by
  induction t with
  | or first others ihf iho => exact nestingAt_chain_or_le.trans (max_le_max ihf iho)
  | and first others ihf iho => exact nestingAt_chain_and_le.trans (max_le_max ihf iho)
  | alternative item others ihi iho | factor item others ihi iho => exact max_le_max ihi iho
  | noAlternative | noFactor => exact Nat.le_refl _
  | not operand ih => exact Nat.succ_le_succ ih
  | primary operand ih => exact ih
  | pattern text => exact Nat.le_refl _
  | group inner ih => exact (nestingAt_factor_le _).trans (Nat.succ_le_succ ih)

/-! ## Whole formulas -/

/-- A formula's condition can be written as a formula, which stands for the same condition: it
differs in blanks and in parentheses that are not there any more, and takes no more levels. -/
theorem render_reads_back (h : parse formula = .ok e) :
    e.Spellable ∧ ∃ text, render e = some text ∧ parse text = .ok e ∧
      Trims (tokenize text) (tokenize formula) ∧
      ∀ d, Derives d .or (body (tokenize formula)) → Derives d .or (body (tokenize text)) := by
  have hspellable := spellable_of_parse h
  obtain ⟨text, htext, htokens⟩ := hspellable.exists_render
  obtain ⟨u, hu, hvalue, hnesting⟩ := hspellable.gives .whole
  rw [collapse_of_parse h] at hvalue
  have hbody : u.tokens = body (tokenize text) := by
    rw [htokens, ← hu, body_append_ending, body_eq_self u.ending_notMem_tokens]
  -- every derivation of the formula has this value, nests at least as deep and has more parentheses
  obtain ⟨t, ht, hn, htv⟩ := exists_derivation_of_parse h
  have hle {t' : Derivation .or} (ht' : t'.tokens = body (tokenize formula)) :
      u.nesting ≤ t'.nesting := by
    have hsame : t'.value = e := (Derivation.value_unique (ht'.trans ht.symm)).trans htv
    rw [hnesting, ← hsame]
    exact t'.nestingOf_le
  refine ⟨hspellable, text, htext, ?_, ?_, fun d hd => ?_⟩
  · rw [parse, u.parseTokens_eq_ok ((hle ht).trans hn) hbody, hvalue]
  · rw [htokens, tokenize_eq_body_append formula, ← ht]
    exact (htv ▸ t.trims).append (.refl _)
  · obtain ⟨t', ht', hd'⟩ := derives_iff.mp hd
    exact derives_iff.mpr ⟨u, hbody, (hle ht').trans hd'⟩

/-- A derivation of `(a) OR NOT (b AND c) AND d`. -/
def looseDerivation : Derivation .or :=
  .or
    (.and (.primary (.group (.or (.and (.primary (.pattern "a")) .noFactor) .noAlternative)))
      .noFactor)
    (.alternative
      (.and
        (.not (.primary (.group (.or
          (.and (.primary (.pattern "b")) (.factor (.primary (.pattern "c")) .noFactor))
          .noAlternative))))
        (.factor (.primary (.pattern "d")) .noFactor))
      .noAlternative)

theorem render_reads_back_loose :
    parse "( a )or not(b AND c)  and d" = .ok looseDerivation.value ∧
      render looseDerivation.value = some "a OR NOT (b AND c) AND d" ∧
      parse "a OR NOT (b AND c) AND d" = .ok looseDerivation.value := by
  have hparse : parse "( a )or not(b AND c)  and d" = .ok looseDerivation.value :=
    looseDerivation.parseTokens_eq_ok (by decide) (by decide +kernel)
  have hrender : render looseDerivation.value = some "a OR NOT (b AND c) AND d" := by
    decide +kernel
  obtain ⟨-, text, htext, hback, -⟩ := render_reads_back hparse
  obtain rfl : text = "a OR NOT (b AND c) AND d" := Option.some.inj (htext.symm.trans hrender)
  exact ⟨hparse, hrender, hback⟩

end Formula

end NameRoles
