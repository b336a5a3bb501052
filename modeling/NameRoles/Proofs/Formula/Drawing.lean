import Mathlib.Data.List.Induction
import Mathlib.Data.List.ReduceOption
import NameRoles.Proofs.Formula.Lexing

/-!
# Drawing tokens one at a time

A cursor may be asked for tokens in two ways, in any order. `Cursor.Turn` says what one request can
do. A `Conversation` is what has been asked and answered so far with the cursor that has come of it,
and its laws are kept by every turn: what has been drawn and what is left are together the tokens of
the formula, followed by as many `ending` as have been drawn in vain (`Conversation.exists_tokens`),
and the cursor is finished just if `next` has answered `ending` (`Conversation.finished_iff`).
-/

namespace NameRoles.Formula

variable {cs : List Char} {formula : String} {request : Request} {answer : Option Token}

/-! ## The first token of a text -/

@[simp] theorem tokensAfter_dropWhile_isBlank (cs : List Char) :
    tokensAfter [] (cs.dropWhile Text.isBlank) = tokensAfter [] cs := by
  induction cs with
  | nil => rfl
  | cons c cs ih =>
    rw [List.dropWhile_cons]
    split
    next hblank => rw [ih, tokensAfter, if_pos hblank, flush_nil]
    next => rfl

theorem endsWord_dropWhile (cs : List Char) : EndsWord (cs.dropWhile isWordChar) := by
  intro c hc
  have hhead := List.head?_dropWhile_not isWordChar cs
  rwa [Option.mem_def.mp hc] at hhead

/-- The first token is the `ending`, or it stands in front of the tokens of the rest. -/
theorem firstToken_cases (cs : List Char) :
    firstToken cs = (.ending, []) ∧ tokensAfter [] cs = [.ending] ∨
      ∃ t rest, firstToken cs = (t, rest) ∧ t ≠ .ending ∧
        tokensAfter [] cs = t :: tokensAfter [] rest := by
  rw [firstToken, ← tokensAfter_dropWhile_isBlank cs]
  have hsolid := List.head?_dropWhile_not Text.isBlank cs
  cases hcs : cs.dropWhile Text.isBlank with
  | nil => exact .inl ⟨rfl, rfl⟩
  | cons c rest =>
    have hblank : Text.isBlank c = false := by simpa [hcs] using hsolid
    right
    by_cases hopening : c = '('
    · subst hopening
      exact ⟨.opening, rest, rfl, by simp, by simp [tokensAfter, hblank]⟩
    by_cases hclosing : c = ')'
    · subst hclosing
      exact ⟨.closing, rest, rfl, by simp, by simp [tokensAfter, hblank]⟩
    · have hc : isWordChar c = true := by simp [isWordChar, hblank, hopening, hclosing]
      have hne : (c :: rest).takeWhile isWordChar ≠ [] := by simp [hc]
      have htokens := tokensAfter_word_append hne (fun _ => List.mem_takeWhile_imp)
        (endsWord_dropWhile (c :: rest))
      rw [List.takeWhile_append_dropWhile] at htokens
      exact ⟨_, _, by simp [hopening, hclosing], Token.ofWord_ne_ending, htokens⟩

namespace Cursor

/-! ## One request -/

/-- The tokens that are left. -/
def tokens (cursor : Cursor) : List Token := tokensAfter [] cursor.rest

/-- What a request can do: nothing at all when the sequence of tokens is over, else it draws the
`ending`, which `next` remembers, or another token. -/
inductive Turn (cursor : Cursor) : Request → Option Token → Cursor → Prop where
  | exhausted (hfinished : cursor.finished = true) : Turn cursor .next none cursor
  | ending {request : Request} {next : Cursor}
      (hopen : request = .next → cursor.finished = false) (htokens : cursor.tokens = [.ending])
      (hnext : next.tokens = [.ending])
      (hfinished : next.finished = true ↔ cursor.finished = true ∨ request = .next) :
      Turn cursor request (some .ending) next
  | token {request : Request} {t : Token} {next : Cursor}
      (hopen : request = .next → cursor.finished = false) (ht : t ≠ .ending)
      (htokens : cursor.tokens = t :: next.tokens) (hfinished : next.finished = cursor.finished) :
      Turn cursor request (some t) next

@[simp] theorem length_answers (cursor : Cursor) (requests : List Request) :
    (cursor.answers requests).length = requests.length := by
  induction requests generalizing cursor with
  | nil => rfl
  | cons request requests ih => exact congrArg Nat.succ (ih _)

theorem turn_answer (cursor : Cursor) (request : Request) :
    cursor.Turn request (cursor.answer request).1 (cursor.answer request).2 := by
  by_cases hexhausted : request = .next ∧ cursor.finished = true
  · obtain ⟨rfl, hfinished⟩ := hexhausted
    have hanswer : cursor.answer .next = (none, cursor) := by simp [answer, next?, hfinished]
    rw [hanswer]
    exact .exhausted hfinished
  · have hopen : request = .next → cursor.finished = false := by simpa using hexhausted
    obtain ⟨hfirst, htokens⟩ | ⟨t, rest, hfirst, ht, htokens⟩ := firstToken_cases cursor.rest
    · cases request with
      | next =>
        have hanswer : cursor.answer .next = (some .ending, ⟨[], true⟩) := by
          simp [answer, next?, draw, hfirst, hopen rfl]
        rw [hanswer]
        exact .ending hopen htokens rfl (by simp)
      | draw =>
        have hanswer : cursor.answer .draw = (some .ending, ⟨[], cursor.finished⟩) := by
          simp [answer, draw, hfirst]
        rw [hanswer]
        exact .ending hopen htokens rfl (by simp)
    · have hanswer : cursor.answer request = (some t, ⟨rest, cursor.finished⟩) := by
        cases request with
        | next => simp [answer, next?, draw, hfirst, ht, hopen rfl]
        | draw => simp [answer, draw, hfirst]
      rw [hanswer]
      exact .token hopen ht htokens rfl

end Cursor

/-! ## Requests one after the other -/

/-- What has been asked and answered since a formula was begun, and the cursor that has come of
it. -/
inductive Conversation (formula : String) : List (Request × Option Token) → Cursor → Prop where
  | start : Conversation formula [] (.ofFormula formula)
  | turn {history : List (Request × Option Token)} {cursor next : Cursor} {request : Request}
      {answer : Option Token} (h : Conversation formula history cursor)
      (hturn : cursor.Turn request answer next) :
      Conversation formula (history ++ [(request, answer)]) next

namespace Conversation

variable {history later : List (Request × Option Token)} {cursor next : Cursor}

/-- The answers to a list of requests carry a conversation on. -/
theorem answers (h : Conversation formula history cursor) (requests : List Request) :
    ∃ next, Conversation formula (history ++ requests.zip (cursor.answers requests)) next := by
  induction requests generalizing history cursor with
  | nil => exact ⟨cursor, by simpa using h⟩
  | cons request requests ih =>
    obtain ⟨next, hnext⟩ := ih (h.turn (cursor.turn_answer request))
    refine ⟨next, ?_⟩
    rwa [List.append_assoc] at hnext

/-- Each answer has been given in a turn behind those before it. -/
theorem exists_turn (h : Conversation formula (history ++ (request, answer) :: later) next) :
    ∃ cursor next, Conversation formula history cursor ∧ cursor.Turn request answer next := by
  induction later using List.reverseRecOn generalizing next with
  | nil =>
    generalize hall : history ++ [(request, answer)] = all at h
    cases h with
    | start => simp at hall
    | turn h hturn =>
      obtain ⟨rfl, hlast⟩ := List.append_singleton_inj.mp hall
      obtain ⟨rfl, rfl⟩ := Prod.mk.inj hlast
      exact ⟨_, _, h, hturn⟩
  | append_singleton later last ih =>
    generalize hall : history ++ (request, answer) :: (later ++ [last]) = all at h
    cases h with
    | start => simp at hall
    | turn h _ =>
      rw [← List.cons_append, ← List.append_assoc] at hall
      obtain ⟨rfl, -⟩ := List.append_singleton_inj.mp hall
      exact ih h

/-- What has been drawn and what is left are the tokens of the formula and more of the last one. -/
theorem exists_tokens (h : Conversation formula history cursor) :
    ∃ n, (history.map (·.2)).reduceOption ++ cursor.tokens =
      tokenize formula ++ .replicate n .ending := by
  induction h with
  | start => exact ⟨0, by simp [Cursor.tokens, Cursor.ofFormula, tokenize]⟩
  | @turn history cursor next request answer h hturn ih =>
    obtain ⟨n, ih⟩ := ih
    rw [List.map_append, List.reduceOption_append]
    cases hturn with
    | exhausted => exact ⟨n, by simpa using ih⟩
    | ending _ htokens hnext =>
      refine ⟨n + 1, ?_⟩
      rw [htokens] at ih
      rw [hnext, List.replicate_succ', ← List.append_assoc, ← ih]
      simp
    | token _ _ htokens =>
      refine ⟨n, ?_⟩
      rw [htokens] at ih
      rw [← ih]
      simp

theorem finished_iff (h : Conversation formula history cursor) :
    cursor.finished = true ↔ (.next, some .ending) ∈ history := by
  induction h with
  | start => simp [Cursor.ofFormula]
  | turn h hturn ih =>
    rw [List.mem_append, ← ih]
    cases hturn with
    | exhausted => simp
    | ending _ _ _ hfinished =>
      rw [hfinished, List.mem_singleton, Prod.mk.injEq]
      simp [@eq_comm _ Request.next]
    | token _ ht _ hfinished => simp [hfinished, ht.symm]

/-- Behind an `ending` there is nothing else to be drawn. -/
theorem tokens_of_mem (h : Conversation formula history cursor)
    (hmem : (request, some .ending) ∈ history) : cursor.tokens = [.ending] := by
  induction h with
  | start => simp at hmem
  | turn h hturn ih =>
    rw [List.mem_append, List.mem_singleton, Prod.mk.injEq] at hmem
    cases hturn with
    | exhausted => exact ih (by simpa using hmem)
    | ending _ _ hnext => exact hnext
    | token _ ht htokens =>
      -- no token but the `ending` itself is left in front of it
      have hending := ih (by simpa [ht.symm] using hmem)
      rw [htokens, List.cons.injEq] at hending
      exact absurd hending.1 ht

end Conversation

/-! ## All answers -/

/-- Whatever is asked in which order, the answers with a token are the first tokens of the formula,
with the `ending` over and over behind them. Only `next` is ever answered without a token, and just
where `next` has answered `ending` before; an `ending` that has merely been drawn is answered
again. -/
theorem answers_draw_tokens (formula : String) (requests : List Request) :
    let answers := (Cursor.ofFormula formula).answers requests
    answers.length = requests.length ∧
      (∃ n, answers.reduceOption <+: tokenize formula ++ .replicate n .ending) ∧
      (∀ before answer later, requests.zip answers = before ++ (.next, answer) :: later →
        (answer = none ↔ (.next, some .ending) ∈ before) ∧
        ((.next, some .ending) ∉ before → (.draw, some .ending) ∈ before →
          answer = some .ending)) ∧
      ∀ before answer later, requests.zip answers = before ++ (.draw, answer) :: later →
        answer ≠ none := by
  intro answers
  have hlength : answers.length = requests.length := Cursor.length_answers _ requests
  have hstart : Conversation formula [] (.ofFormula formula) := .start
  obtain ⟨cursor, hall⟩ := hstart.answers requests
  rw [List.nil_append] at hall
  refine ⟨hlength, ?_, fun before answer later hsplit => ?_, fun before answer later hsplit => ?_⟩
  · obtain ⟨n, htokens⟩ := hall.exists_tokens
    rw [List.map_snd_zip hlength.le] at htokens
    exact ⟨n, _, htokens⟩
  · rw [hsplit] at hall
    obtain ⟨cursor, next, hbefore, hturn⟩ := hall.exists_turn
    rw [← hbefore.finished_iff]
    cases hturn with
    | exhausted hfinished => simp [hfinished]
    | ending hopen => simp [hopen]
    | token hopen ht htokens =>
      refine ⟨by simp [hopen], fun _ hdrawn => ?_⟩
      rw [hbefore.tokens_of_mem hdrawn, List.cons.injEq] at htokens
      exact absurd htokens.1.symm ht
  · rw [hsplit] at hall
    obtain ⟨cursor, next, -, hturn⟩ := hall.exists_turn
    cases hturn <;> simp

/-- The `ending` that is merely drawn does not count: `next` answers it once more, and only behind
this answer it has none. It can still be drawn then. -/
theorem answers_draw_tokens_mixed :
    let requests : List Request := [.next, .draw, .draw, .next, .next, .draw]
    let answers := (Cursor.ofFormula " a( ").answers requests
    let drawn : List (Request × Option Token) :=
      [(.next, some (.pattern "a")), (.draw, some .opening), (.draw, some .ending)]
    requests.zip answers =
        drawn ++ [(.next, some .ending), (.next, none), (.draw, some .ending)] ∧
      (∃ n, answers.reduceOption <+: tokenize " a( " ++ .replicate n .ending) ∧
      (∀ answer later, requests.zip answers = drawn ++ (.next, answer) :: later →
        answer = some .ending) ∧
      (∀ answer later, requests.zip answers =
        (drawn ++ [(.next, some .ending)]) ++ (.next, answer) :: later → answer = none) ∧
      ∀ answer later, requests.zip answers =
        (drawn ++ [(.next, some .ending), (.next, none)]) ++ (.draw, answer) :: later →
        answer ≠ none := by
  intro requests answers drawn
  obtain ⟨-, htokens, hnext, hdraw⟩ := answers_draw_tokens " a( " requests
  refine ⟨by decide, htokens, fun answer later hsplit => ?_, fun answer later hsplit => ?_,
    fun answer later hsplit => hdraw _ answer later hsplit⟩
  · exact (hnext drawn answer later hsplit).2 (by decide) (by decide)
  · exact (hnext _ answer later hsplit).1.mpr (by decide)

end NameRoles.Formula
