import NameRoles.Formula.Parser

/-!
# The grammar of formulas

`Derives` says which tokens a symbol spells when groups and negations may nest to a given depth. A
`Derivation` is the same as data: it knows the tokens it spells, how deep it nests and the
condition that it stands for. `derives_iff` relates the two.
-/

namespace NameRoles.Formula

/-- The symbols of the grammar; `alternatives` and `factors` are what may follow a first item. -/
inductive Symbol where
  | or
  | alternatives
  | and
  | factors
  | not
  | primary
deriving DecidableEq, Repr

/-- `Or := And (OR And)*`, `And := Not (AND Not)*`, `Not := NOT Not | Primary` and
`Primary := PATTERN | '(' Or ')'`, where `NOT` and `(` take one of the levels that may nest. -/
inductive Derives : Nat → Symbol → List Token → Prop where
  | or {d ts us} : Derives d .and ts → Derives d .alternatives us → Derives d .or (ts ++ us)
  | noAlternative {d} : Derives d .alternatives []
  | alternative {d ts us} : Derives d .and ts → Derives d .alternatives us →
      Derives d .alternatives (.or :: (ts ++ us))
  | and {d ts us} : Derives d .not ts → Derives d .factors us → Derives d .and (ts ++ us)
  | noFactor {d} : Derives d .factors []
  | factor {d ts us} : Derives d .not ts → Derives d .factors us →
      Derives d .factors (.and :: (ts ++ us))
  | not {d ts} : Derives d .not ts → Derives (d + 1) .not (.not :: ts)
  | primary {d ts} : Derives d .primary ts → Derives d .not ts
  | pattern {d} (text : String) : Derives d .primary [.pattern text]
  | group {d ts} : Derives d .or ts → Derives (d + 1) .primary (.opening :: (ts ++ [.closing]))

/-- A derivation from a symbol. -/
inductive Derivation : Symbol → Type where
  | or (first : Derivation .and) (others : Derivation .alternatives) : Derivation .or
  | noAlternative : Derivation .alternatives
  | alternative (item : Derivation .and) (others : Derivation .alternatives) :
      Derivation .alternatives
  | and (first : Derivation .not) (others : Derivation .factors) : Derivation .and
  | noFactor : Derivation .factors
  | factor (item : Derivation .not) (others : Derivation .factors) : Derivation .factors
  | not (operand : Derivation .not) : Derivation .not
  | primary (operand : Derivation .primary) : Derivation .not
  | pattern (text : String) : Derivation .primary
  | group (inner : Derivation .or) : Derivation .primary

/-- The operators that would carry on the chains which a symbol's tokens may end with. -/
def Symbol.goesOn : Symbol → Token → Bool
  | .or, t | .alternatives, t => t = .or || t = .and
  | .and, t | .factors, t => t = .and
  | .not, _ | .primary, _ => false

/-- No operator carries on the tokens of a symbol. -/
def Symbol.EndsBefore (s : Symbol) (rest : List Token) : Prop :=
  ∀ t ∈ rest.head?, s.goesOn t = false

/-- What a symbol stands for: a condition, or the conditions behind a first one. -/
abbrev Symbol.Value : Symbol → Type
  | .alternatives | .factors => List Expr
  | .or | .and | .not | .primary => Expr

/-- A condition and those behind it: alone it stands for itself, else `join` makes one of all. -/
def chain (join : List Expr → Expr) (first : Expr) : List Expr → Expr
  | [] => first
  | others => join (first :: others)

@[simp] theorem chain_or {first : Expr} {others : List Expr} :
    chain .or first others = Expr.anyOf (first :: others) := by
  cases others <;> rfl

@[simp] theorem chain_and {first : Expr} {others : List Expr} :
    chain .and first others = Expr.allOf (first :: others) := by
  cases others <;> rfl

namespace Derivation

/-- The tokens that a derivation spells. -/
def tokens {s : Symbol} : Derivation s → List Token
  | or first others => first.tokens ++ others.tokens
  | alternative item others => .or :: (item.tokens ++ others.tokens)
  | and first others => first.tokens ++ others.tokens
  | factor item others => .and :: (item.tokens ++ others.tokens)
  | noAlternative | noFactor => []
  | not operand => .not :: operand.tokens
  | primary operand => operand.tokens
  | pattern text => [.pattern text]
  | group inner => .opening :: (inner.tokens ++ [.closing])

/-- How deep `(` and `NOT` nest in a derivation. -/
def nesting {s : Symbol} : Derivation s → Nat
  | or first others => max first.nesting others.nesting
  | alternative item others => max item.nesting others.nesting
  | and first others => max first.nesting others.nesting
  | factor item others => max item.nesting others.nesting
  | noAlternative | noFactor | pattern _ => 0
  | not operand => operand.nesting + 1
  | primary operand => operand.nesting
  | group inner => inner.nesting + 1

/-- The condition that a derivation stands for. -/
def value {s : Symbol} : Derivation s → s.Value
  | or first others => chain .or first.value others.value
  | alternative item others => item.value :: others.value
  | and first others => chain .and first.value others.value
  | factor item others => item.value :: others.value
  | noAlternative | noFactor => []
  | not operand => .not operand.value
  | primary operand => operand.value
  | pattern text => .pattern text
  | group inner => inner.value

theorem ending_notMem_tokens {s : Symbol} (t : Derivation s) : .ending ∉ t.tokens := by
  induction t with
  | noAlternative | noFactor | pattern => simp [tokens]
  | or _ _ ihf iho | alternative _ _ ihf iho | and _ _ ihf iho | factor _ _ ihf iho =>
    simp [tokens, ihf, iho]
  | not _ ih | primary _ ih | group _ ih => simp [tokens, ih]

theorem tokens_ne_nil {s : Symbol} (t : Derivation s) (ha : s ≠ .alternatives)
    (hf : s ≠ .factors) : t.tokens ≠ [] := by
  induction t with
  | noAlternative | alternative | noFactor | factor => contradiction
  | or _ _ ih _ | and _ _ ih _ => simp [tokens, ih]
  | primary _ ih => simpa [tokens] using ih
  | not | pattern | group => simp [tokens]

theorem length_rest_lt {s : Symbol} (t : Derivation s) {rest : List Token}
    (ha : s ≠ .alternatives) (hf : s ≠ .factors) : rest.length < (t.tokens ++ rest).length := by
  have := List.length_pos_iff.mpr (t.tokens_ne_nil ha hf)
  rw [List.length_append]
  omega

end Derivation

/-- A derivation is worth as many levels as it nests. -/
theorem Derivation.derives {s : Symbol} (t : Derivation s) {d : Nat} (h : t.nesting ≤ d) :
    Derives d s t.tokens := by
  induction t generalizing d with
  | or _ _ ihf iho =>
    obtain ⟨hf, ho⟩ := Nat.max_le.mp h
    exact .or (ihf hf) (iho ho)
  | noAlternative => exact .noAlternative
  | alternative _ _ ihi iho =>
    obtain ⟨hi, ho⟩ := Nat.max_le.mp h
    exact .alternative (ihi hi) (iho ho)
  | and _ _ ihf iho =>
    obtain ⟨hf, ho⟩ := Nat.max_le.mp h
    exact .and (ihf hf) (iho ho)
  | noFactor => exact .noFactor
  | factor _ _ ihi iho =>
    obtain ⟨hi, ho⟩ := Nat.max_le.mp h
    exact .factor (ihi hi) (iho ho)
  | not _ ih =>
    cases d with
    | zero => exact absurd h (Nat.not_succ_le_zero _)
    | succ d => exact .not (ih (Nat.le_of_succ_le_succ h))
  | primary _ ih => exact .primary (ih h)
  | pattern text => exact .pattern text
  | group _ ih =>
    cases d with
    | zero => exact absurd h (Nat.not_succ_le_zero _)
    | succ d => exact .group (ih (Nat.le_of_succ_le_succ h))

theorem Derives.exists_derivation {d : Nat} {s : Symbol} {ts : List Token} (h : Derives d s ts) :
    ∃ t : Derivation s, t.tokens = ts ∧ t.nesting ≤ d := by
  induction h with
  | or _ _ ihf iho =>
    obtain ⟨first, rfl, hf⟩ := ihf
    obtain ⟨others, rfl, ho⟩ := iho
    exact ⟨.or first others, rfl, Nat.max_le.mpr ⟨hf, ho⟩⟩
  | noAlternative => exact ⟨.noAlternative, rfl, Nat.zero_le _⟩
  | alternative _ _ ihi iho =>
    obtain ⟨item, rfl, hi⟩ := ihi
    obtain ⟨others, rfl, ho⟩ := iho
    exact ⟨.alternative item others, rfl, Nat.max_le.mpr ⟨hi, ho⟩⟩
  | and _ _ ihf iho =>
    obtain ⟨first, rfl, hf⟩ := ihf
    obtain ⟨others, rfl, ho⟩ := iho
    exact ⟨.and first others, rfl, Nat.max_le.mpr ⟨hf, ho⟩⟩
  | noFactor => exact ⟨.noFactor, rfl, Nat.zero_le _⟩
  | factor _ _ ihi iho =>
    obtain ⟨item, rfl, hi⟩ := ihi
    obtain ⟨others, rfl, ho⟩ := iho
    exact ⟨.factor item others, rfl, Nat.max_le.mpr ⟨hi, ho⟩⟩
  | not _ ih =>
    obtain ⟨operand, rfl, h⟩ := ih
    exact ⟨.not operand, rfl, Nat.succ_le_succ h⟩
  | primary _ ih =>
    obtain ⟨operand, rfl, h⟩ := ih
    exact ⟨.primary operand, rfl, h⟩
  | pattern text => exact ⟨.pattern text, rfl, Nat.zero_le _⟩
  | group _ ih =>
    obtain ⟨inner, rfl, h⟩ := ih
    exact ⟨.group inner, rfl, Nat.succ_le_succ h⟩

/-- What is derived within a number of levels is what a derivation of no deeper nesting spells. -/
theorem derives_iff {d : Nat} {s : Symbol} {ts : List Token} :
    Derives d s ts ↔ ∃ t : Derivation s, t.tokens = ts ∧ t.nesting ≤ d :=
  ⟨Derives.exists_derivation, fun ⟨t, h, hn⟩ => h ▸ t.derives hn⟩

end NameRoles.Formula
