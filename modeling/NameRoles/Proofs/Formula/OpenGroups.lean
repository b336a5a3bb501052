import Mathlib.Algebra.GroupWithZero.Nat
import Mathlib.Data.List.Induction
import NameRoles.Proofs.Formula.Recognition

/-!
# What a reading knows of its open groups

A reading keeps a few numbers while it gets over the tokens. `Reading.Step` says once what a token
can do to them, and `Reading.Tells` what they tell of the tokens that have been read: which groups
are open, and how many levels these take. Each step keeps this (`Reading.Tells.step`), and so the
levels that a closing parenthesis gives back have been taken by its own group
(`reading_tells_depth`).
-/

namespace NameRoles.Formula

/-- The tokens close the groups that they open, and no others. -/
inductive Balanced : List Token → Prop where
  | nil : Balanced []
  | other {ts : List Token} {t : Token} (h : Balanced ts) (hopening : t ≠ .opening)
      (hclosing : t ≠ .closing) : Balanced (ts ++ [t])
  | group {ts us : List Token} (h : Balanced ts) (hinner : Balanced us) :
      Balanced (ts ++ .opening :: (us ++ [.closing]))

/-- The tokens open groups which they do not close: in front of the parenthesis of each stand as
many `NOT` as the list says, innermost group first. -/
inductive Opens : List Token → List Nat → Prop where
  | none {ts : List Token} (h : Balanced ts) : Opens ts []
  | group {ts us : List Token} {groups : List Nat} {nots : Nat} (h : Opens ts groups)
      (hlast : ts.getLast? ≠ some .not) (hus : Balanced us) :
      Opens (ts ++ .replicate nots .not ++ .opening :: us) (nots :: groups)

/-- How many closing parentheses match no opening one among the tokens. -/
def unmatchedClosings : List Token → Nat
  | [] => 0
  | .opening :: ts => unmatchedClosings ts - 1
  | .closing :: ts => unmatchedClosings ts + 1
  | _ :: ts => unmatchedClosings ts

/-- How many opening parentheses match no closing one among the tokens. -/
def unmatchedOpenings : List Token → Nat
  | [] => 0
  | .opening :: ts =>
    if unmatchedClosings ts = 0 then unmatchedOpenings ts + 1 else unmatchedOpenings ts
  | _ :: ts => unmatchedOpenings ts

variable {ts us : List Token} {t : Token} {groups : List Nat} {nots : Nat}

/-! ## Balanced tokens -/

namespace Balanced

theorem append (h : Balanced ts) (hus : Balanced us) : Balanced (ts ++ us) := by
  induction hus with
  | nil => rwa [List.append_nil]
  | other _ hopening hclosing ih =>
    rw [← List.append_assoc]
    exact ih.other hopening hclosing
  | group _ hinner ih _ =>
    rw [← List.append_assoc]
    exact ih.group hinner

theorem singleton (hopening : t ≠ .opening) (hclosing : t ≠ .closing) : Balanced [t] :=
  nil.other hopening hclosing

theorem replicate_not (k : Nat) : Balanced (.replicate k .not) := by
  induction k with
  | zero => exact nil
  | succ k ih =>
    rw [List.replicate_succ']
    exact ih.other (by simp) (by simp)

end Balanced

theorem Opens.append (h : Opens ts groups) (hus : Balanced us) : Opens (ts ++ us) groups := by
  cases h with
  | none h => exact .none (h.append hus)
  | group h hlast hinner =>
    rw [List.append_assoc, List.cons_append]
    exact h.group hlast (hinner.append hus)

/-- A closing parenthesis closes the innermost group. -/
theorem Opens.close (h : Opens ts (nots :: groups)) : Opens (ts ++ [.closing]) groups := by
  cases h with
  | @group front inner _ _ h hlast hinner =>
    have hclosed : Balanced (.replicate nots .not ++ .opening :: (inner ++ [.closing])) :=
      (Balanced.replicate_not nots).group hinner
    have hopens := h.append hclosed
    simpa using hopens

namespace Reading

variable {r next before : Reading}

/-! ## Steps -/

/-- What a token can do to a reading that it does not end. -/
inductive Step (r : Reading) : Token → Reading → Prop where
  | operand {text : String} (h : r.expecting = true) : Step r (.pattern text) r.afterOperand
  | not (h : r.expecting = true) (hlevel : r.depth + (r.nots + 1) ≤ maxNesting) :
      Step r .not r.afterNot
  | opening (h : r.expecting = true) (hlevel : r.depth + (r.nots + 1) ≤ maxNesting) :
      Step r .opening r.afterOpening
  | operator {t : Token} (h : r.expecting = false) (ht : t = .and ∨ t = .or) :
      Step r t { r with expecting := true }
  | closing {nots : Nat} {groups : List Nat} (h : r.expecting = false)
      (hgroups : r.groups = nots :: groups) :
      Step r .closing { r with groups, depth := r.depth - (nots + 1) }
  | ending : Step r .ending r

theorem step_of_eq_ok (h : r.step t = .ok next) : r.Step t next := by
  cases hr : r.expecting with
  | true =>
    cases t with
    | pattern =>
      rw [step_pattern hr] at h
      obtain rfl := Except.ok.inj h
      exact .operand hr
    | not =>
      rw [step_not hr] at h
      split at h
      next hspare =>
        obtain rfl := Except.ok.inj h
        exact .not hr (by simp only [spare] at hspare; omega)
      next => cases h
    | opening =>
      rw [step_opening hr] at h
      split at h
      next hspare =>
        obtain rfl := Except.ok.inj h
        exact .opening hr (by simp only [spare] at hspare; omega)
      next => cases h
    | and | or | closing => cases h.symm.trans (step_missingOperand rfl (by simp) hr)
    | ending =>
      obtain rfl := Except.ok.inj h
      exact .ending
  | false =>
    cases t with
    | pattern | not | opening => cases h.symm.trans (step_startsOperand rfl hr)
    | and | or =>
      obtain rfl : { r with expecting := true } = next := by
        simpa [step, Token.startsOperand, hr] using h
      exact .operator hr (by simp)
    | closing =>
      cases hgroups : r.groups with
      | nil => simp [step, Token.startsOperand, hr, hgroups] at h
      | cons nots groups =>
        obtain rfl : { r with groups, depth := r.depth - (nots + 1) } = next := by
          simpa [step, Token.startsOperand, hr, hgroups] using h
        exact .closing hr hgroups
    | ending =>
      obtain rfl := Except.ok.inj h
      exact .ending

theorem Step.groups_eq_of_opening (h : r.Step .opening next) :
    next.groups = r.nots :: r.groups := by
  cases h with
  | opening => rfl
  | operator _ ht => simp at ht

theorem Step.exists_groups_eq_of_closing (h : r.Step .closing next) :
    ∃ nots, r.groups = nots :: next.groups := by
  cases h with
  | closing _ hgroups => exact ⟨_, hgroups⟩
  | operator _ ht => simp at ht

/-- A closing parenthesis is read just behind an operand in a group. -/
theorem exists_step_closing_iff :
    (∃ next, r.step .closing = .ok next) ↔ r.expecting = false ∧ 0 < r.groups.length := by
  constructor
  · rintro ⟨next, hnext⟩
    cases step_of_eq_ok hnext with
    | closing hexpecting hgroups => simp [hexpecting, hgroups]
    | operator _ ht => simp at ht
  · rintro ⟨hexpecting, hpos⟩
    obtain ⟨nots, groups, hgroups⟩ := List.exists_cons_of_length_pos hpos
    simp [step, Token.startsOperand, hexpecting, hgroups]

theorem exists_step_of_run_cons (h : r.run (t :: ts) = .ok next) :
    ∃ mid, r.Step t mid ∧ mid.run ts = .ok next := by
  rw [run_cons] at h
  cases hstep : r.step t with
  | error => rw [hstep] at h; cases h
  | ok mid =>
    rw [hstep] at h
    exact ⟨mid, step_of_eq_ok hstep, h⟩

theorem exists_run_of_run_append (h : r.run (ts ++ us) = .ok next) :
    ∃ mid, r.run ts = .ok mid ∧ mid.run us = .ok next := by
  rw [run_append] at h
  cases hrun : r.run ts with
  | error => rw [hrun] at h; cases h
  | ok mid =>
    rw [hrun] at h
    exact ⟨mid, rfl, h⟩

/-! ## Runs -/

/-- Where a reading has got over all tokens, the open groups that it ends with are those which the
tokens have left open or opened. -/
theorem length_groups_of_run (h : r.run ts = .ok next) :
    unmatchedClosings ts ≤ r.groups.length ∧
      next.groups.length + unmatchedClosings ts = r.groups.length + unmatchedOpenings ts := by
  induction ts generalizing r with
  | nil =>
    obtain rfl := Except.ok.inj h
    simp [unmatchedClosings, unmatchedOpenings]
  | cons t ts ih =>
    obtain ⟨mid, hstep, hrun⟩ := exists_step_of_run_cons h
    obtain ⟨hle, heq⟩ := ih hrun
    cases hstep with
    | operand | not | ending => exact ⟨hle, heq⟩
    | operator _ ht => obtain rfl | rfl := ht <;> exact ⟨hle, heq⟩
    | opening =>
      simp only [afterOpening, List.length_cons] at hle heq
      simp only [unmatchedClosings, unmatchedOpenings]
      split <;> omega
    | closing _ hgroups =>
      simp only [hgroups, unmatchedClosings, unmatchedOpenings, List.length_cons] at hle heq ⊢
      omega

/-- Balanced tokens leave the open groups as they are. -/
theorem groups_of_balanced (hts : Balanced ts) (h : r.run ts = .ok next) :
    next.groups = r.groups := by
  induction hts generalizing r next with
  | nil => rw [Except.ok.inj h]
  | other _ hopening hclosing ih =>
    obtain ⟨mid, hmid, hlast⟩ := exists_run_of_run_append h
    obtain ⟨last, hstep, hend⟩ := exists_step_of_run_cons hlast
    obtain rfl := Except.ok.inj hend
    rw [← ih hmid]
    cases hstep with
    | opening | closing => contradiction
    | operand | not | operator | ending => rfl
  | group _ _ ih ihinner =>
    obtain ⟨mid, hmid, hgroup⟩ := exists_run_of_run_append h
    obtain ⟨opened, hopening, hinner⟩ := exists_step_of_run_cons hgroup
    obtain ⟨filled, hfilled, hlast⟩ := exists_run_of_run_append hinner
    obtain ⟨closed, hclosing, hend⟩ := exists_step_of_run_cons hlast
    obtain rfl := Except.ok.inj hend
    obtain ⟨nots, hgroups⟩ := hclosing.exists_groups_eq_of_closing
    rw [ihinner hfilled, hopening.groups_eq_of_opening, ih hmid] at hgroups
    exact (List.cons.inj hgroups).2.symm

/-! ## What is told -/

/-- What a reading tells of the tokens behind which it stands: the levels that are taken, how many
`NOT` wait at their end, and how many stand in front of each group that is open. -/
structure Tells (r : Reading) (ts : List Token) : Prop where
  depth_eq : r.depth = (r.groups.map (· + 1)).sum
  depth_add_nots_le : r.depth + r.nots ≤ maxNesting
  nots_eq_zero : r.expecting = false → r.nots = 0
  opens : ∃ front, ts = front ++ .replicate r.nots .not ∧ front.getLast? ≠ some .not ∧
    Opens front r.groups

theorem tells_start : start.Tells [] where
  depth_eq := rfl
  depth_add_nots_le := Nat.zero_le _
  nots_eq_zero _ := rfl
  opens := ⟨[], rfl, by simp, .none .nil⟩

/-- The negations that wait open no group. -/
theorem Tells.opens_groups (h : r.Tells ts) : Opens ts r.groups := by
  obtain ⟨front, rfl, -, hopens⟩ := h.opens
  exact hopens.append (.replicate_not r.nots)

/-- No negation waits behind a token that is no `NOT`. -/
theorem opens_concat (hnots : next.nots = 0) (ht : t ≠ .not)
    (hopens : Opens (ts ++ [t]) next.groups) :
    ∃ front, ts ++ [t] = front ++ .replicate next.nots .not ∧ front.getLast? ≠ some .not ∧
      Opens front next.groups :=
  ⟨ts ++ [t], by simp [hnots], by simpa using ht, hopens⟩

theorem Tells.step (h : r.Tells ts) (hstep : r.Step t next) (ht : t ≠ .ending) :
    next.Tells (ts ++ [t]) := by
  have hopens := h.opens_groups
  obtain ⟨hdepth, hlevels, hnots, front, hfront, hlast, hfrontOpens⟩ := h
  cases hstep with
  | operand =>
    refine ⟨hdepth, by simp only [afterOperand]; omega, fun _ => rfl, ?_⟩
    exact opens_concat rfl (by simp) (hopens.append (.singleton (by simp) (by simp)))
  | not hexpecting hlevel =>
    refine ⟨hdepth, hlevel, fun h => ?_, front, ?_, hlast, hfrontOpens⟩
    · simp [afterNot, hexpecting] at h
    · rw [hfront, afterNot, List.replicate_succ', List.append_assoc]
  | opening hexpecting hlevel =>
    refine ⟨?_, hlevel, fun _ => rfl, opens_concat rfl (by simp) ?_⟩
    · simp only [afterOpening, List.map_cons, List.sum_cons]
      omega
    · rw [hfront]
      exact hfrontOpens.group hlast .nil
  | operator hexpecting hoperator =>
    have ht : t ≠ .opening ∧ t ≠ .closing ∧ t ≠ .not := by
      obtain rfl | rfl := hoperator <;> simp
    obtain ⟨hopening, hclosing, hnot⟩ := ht
    refine ⟨hdepth, hlevels, fun h => by simp at h, ?_⟩
    exact opens_concat (hnots hexpecting) hnot (hopens.append (.singleton hopening hclosing))
  | closing hexpecting hgroups =>
    rw [hgroups] at hdepth hopens
    simp only [List.map_cons, List.sum_cons] at hdepth
    refine ⟨by simp only; omega, by simp only; omega, hnots, ?_⟩
    exact opens_concat (hnots hexpecting) (by simp) hopens.close
  | ending => contradiction

/-- What the reading of tokens from the start on tells of them. -/
theorem tells_of_run (hts : .ending ∉ ts) (h : start.run ts = .ok r) : r.Tells ts := by
  induction ts using List.reverseRecOn generalizing r with
  | nil =>
    obtain rfl := Except.ok.inj h
    exact tells_start
  | append_singleton ts t ih =>
    obtain ⟨hfront, ht⟩ := not_or.mp (mt List.mem_append.mpr hts)
    obtain ⟨mid, hmid, hlast⟩ := exists_run_of_run_append h
    obtain ⟨last, hstep, hend⟩ := exists_step_of_run_cons hlast
    obtain rfl := Except.ok.inj hend
    exact (ih hfront hmid).step hstep (by simpa [eq_comm] using ht)

/-- A group that is open has been opened behind its negations, from where its levels count. -/
theorem exists_run_of_groups (hts : .ending ∉ ts) (h : start.run ts = .ok r)
    (hgroups : r.groups = nots :: groups) :
    ∃ front inner before, ts = front ++ .replicate nots .not ++ .opening :: inner ∧
      front.getLast? ≠ some .not ∧ Balanced inner ∧ start.run front = .ok before ∧
      before.groups = groups ∧ r.depth = before.depth + (nots + 1) := by
  have htells := tells_of_run hts h
  have hopens := htells.opens_groups
  rw [hgroups] at hopens
  cases hopens with
  | @group front inner _ _ _ hlast hinner =>
    obtain ⟨waiting, hwaiting, hgroup⟩ := exists_run_of_run_append h
    obtain ⟨before, hbefore, hnots⟩ := exists_run_of_run_append hwaiting
    obtain ⟨opened, hopening, hrun⟩ := exists_step_of_run_cons hgroup
    have hfront : before.Tells front := tells_of_run (fun hmem => hts (by simp [hmem])) hbefore
    have hopened : before.groups = groups := by
      have hinside := groups_of_balanced hinner hrun
      rw [hgroups, hopening.groups_eq_of_opening,
        groups_of_balanced (.replicate_not nots) hnots] at hinside
      exact (List.cons.inj hinside).2.symm
    refine ⟨front, inner, before, rfl, hlast, hinner, hbefore, hopened, ?_⟩
    rw [htells.depth_eq, hgroups, hfront.depth_eq, hopened, List.map_cons, List.sum_cons]
    omega

/-- The words of a machine are wide enough for the levels that a closing parenthesis gives back. -/
theorem toNat_word_sub {m n : Nat} (hm : m ≤ maxNesting) (hn : n ≤ m) :
    (USize.ofNat m - USize.ofNat n).toNat = m - n := by
  have hsize : m < USize.size := by
    have := USize.le_size
    simp only [maxNesting] at hm
    omega
  have hfirst : (USize.ofNat m).toNat = m := USize.toNat_ofNat_of_lt' hsize
  have hsecond : (USize.ofNat n).toNat = n := USize.toNat_ofNat_of_lt' (by omega)
  rw [USize.toNat_sub_of_le, hfirst, hsecond]
  rwa [USize.le_iff_toNat_le, hfirst, hsecond]

end Reading

/-- While the tokens in front of the first `ending` are read, the depth is that of the open groups
and their negations, it stays within 256 levels together with the negations that wait, and none
waits where an operator is due. As many groups are open as opening parentheses have not been
matched, and behind an operand a closing parenthesis is read just if there is one. It gives back no
more levels than have been taken, also in machine words, and the depth behind it is that in front of
the `NOT`s and the parenthesis that opened its group. -/
theorem reading_tells_depth {tokens ts : List Token} {r : Reading} (hts : ts <+: body tokens)
    (h : Reading.start.run ts = .ok r) :
    r.depth = (r.groups.map (· + 1)).sum ∧ r.depth + r.nots ≤ 256 ∧
      (r.expecting = false → r.nots = 0) ∧ r.groups.length = unmatchedOpenings ts ∧
      ((∃ next, r.step .closing = .ok next) ↔ r.expecting = false ∧ 0 < unmatchedOpenings ts) ∧
      ∀ next, r.step .closing = .ok next → ∃ front nots inner before,
        ts = front ++ .replicate nots .not ++ .opening :: inner ∧
        front.getLast? ≠ some .not ∧ Balanced inner ∧
        Reading.start.run front = .ok before ∧ r.groups = nots :: before.groups ∧
        nots + 1 ≤ r.depth ∧ next.depth = before.depth ∧
        (USize.ofNat r.depth - USize.ofNat (nots + 1)).toNat = before.depth := by
  have hending : .ending ∉ ts := fun hmem => ending_notMem_body (hts.subset hmem)
  have htells := Reading.tells_of_run hending h
  have hlength : r.groups.length = unmatchedOpenings ts := by
    obtain ⟨hle, heq⟩ := Reading.length_groups_of_run h
    simp only [Reading.start, List.length_nil] at hle heq
    omega
  refine ⟨htells.depth_eq, htells.depth_add_nots_le, htells.nots_eq_zero, hlength, ?_, ?_⟩
  · rw [← hlength]
    exact Reading.exists_step_closing_iff
  intro next hnext
  cases Reading.step_of_eq_ok hnext with
  | operator _ hoperator => simp at hoperator
  | @closing nots groups _ hgroups =>
    obtain ⟨front, inner, before, hsplit, hlast, hinner, hbefore, rfl, hdepth⟩ :=
      Reading.exists_run_of_groups hending h hgroups
    have hle : nots + 1 ≤ r.depth := by omega
    have hsub : r.depth - (nots + 1) = before.depth := by omega
    have hmax : r.depth ≤ maxNesting := Nat.le_of_add_right_le htells.depth_add_nots_le
    refine ⟨front, nots, inner, before, hsplit, hlast, hinner, hbefore, hgroups, hle, hsub, ?_⟩
    rw [Reading.toNat_word_sub hmax hle, hsub]

/-- A group stands in a group, and its parenthesis gives back three levels of the five. -/
theorem reading_tells_depth_in_group :
    let ts : List Token := [.pattern "x", .and, .not, .opening, .not, .not, .opening, .pattern "a"]
    let r : Reading := { expecting := false, groups := [2, 1], depth := 5 }
    ts <+: body (ts ++ [.closing, .ending]) ∧ Reading.start.run ts = .ok r ∧
      r.step .closing = .ok { r with groups := [1], depth := 2 } ∧
      ∃ front nots inner before, ts = front ++ .replicate nots .not ++ .opening :: inner ∧
        front.getLast? ≠ some .not ∧ Balanced inner ∧
        Reading.start.run front = .ok before ∧ r.groups = nots :: before.groups ∧
        nots + 1 ≤ r.depth ∧ 2 = before.depth ∧
        (USize.ofNat r.depth - USize.ofNat (nots + 1)).toNat = before.depth := by
  intro ts r
  have hts : ts <+: body (ts ++ [.closing, .ending]) := by decide
  have hrun : Reading.start.run ts = .ok r := rfl
  have hclosing : r.step .closing = .ok { r with groups := [1], depth := 2 } := rfl
  exact ⟨hts, hrun, hclosing, (reading_tells_depth hts hrun).2.2.2.2.2 _ hclosing⟩

end NameRoles.Formula
