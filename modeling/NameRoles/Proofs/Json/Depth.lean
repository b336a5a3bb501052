import NameRoles.Proofs.Json.RoundTrip

/-!
# How deep a text nests

`textDepth` says how many brackets and braces of a text stand in each other, where those in strings
do not count. A written value nests as deep as the value itself (`textDepth_write`).
-/

namespace NameRoles.Json

open Text

/-! ## Brackets of a text -/

/-- Where the reading of a text stands. -/
inductive Region where
  | outside
  | inString
  /-- In a string, behind a backslash. -/
  | escaping
deriving DecidableEq, Repr

/-- What is known of the brackets and braces of a text after some of its characters. -/
structure Brackets where
  region : Region
  /-- How many are open. -/
  level : Nat
  /-- How many have been open at once. -/
  deepest : Nat
deriving DecidableEq, Repr

def Brackets.start : Brackets := ⟨.outside, 0, 0⟩

/-- Reads one character. -/
def Brackets.step (brackets : Brackets) (c : Char) : Brackets :=
  match brackets.region with
  | .outside =>
    if c = '"' then { brackets with region := .inString }
    else if c = '[' ∨ c = '{' then
      { brackets with
        level := brackets.level + 1
        deepest := max brackets.deepest (brackets.level + 1) }
    else if c = ']' ∨ c = '}' then { brackets with level := brackets.level - 1 }
    else brackets
  | .inString =>
    if c = '"' then { brackets with region := .outside }
    else if c = '\\' then { brackets with region := .escaping }
    else brackets
  | .escaping => { brackets with region := .inString }

def Brackets.after (brackets : Brackets) (cs : List Char) : Brackets :=
  cs.foldl step brackets

/-- How many brackets and braces stand in each other in a text. -/
def textDepth (text : String) : Nat := (Brackets.start.after text.toList).deepest

/-- The characters open `n` brackets in each other and close what they open. -/
def Spans (cs : List Char) (n : Nat) : Prop :=
  ∀ level deepest, level ≤ deepest → Brackets.after ⟨.outside, level, deepest⟩ cs =
    ⟨.outside, level, max deepest (level + n)⟩

variable {cs ds : List Char} {m n : Nat}

@[simp] theorem Brackets.after_append (brackets : Brackets) (cs ds : List Char) :
    brackets.after (cs ++ ds) = (brackets.after cs).after ds :=
  List.foldl_append

theorem Spans.append (hcs : Spans cs m) (hds : Spans ds n) : Spans (cs ++ ds) (max m n) := by
  intro level deepest h
  rw [Brackets.after_append, hcs level deepest h, hds level _ (by omega)]
  congr 1
  omega

theorem Spans.enclose {opening closing : Char} (h : Spans cs n)
    (hpair : opening = '[' ∧ closing = ']' ∨ opening = '{' ∧ closing = '}') :
    Spans (opening :: cs ++ [closing]) (n + 1) := by
  intro level deepest hle
  have hopen : Brackets.after ⟨.outside, level, deepest⟩ (opening :: cs) =
      Brackets.after ⟨.outside, level + 1, max deepest (level + 1)⟩ cs := by
    rcases hpair with ⟨rfl, -⟩ | ⟨rfl, -⟩ <;> rfl
  have hclose (deepest : Nat) : Brackets.after ⟨.outside, level + 1, deepest⟩ [closing] =
      ⟨.outside, level, deepest⟩ := by
    rcases hpair with ⟨-, rfl⟩ | ⟨-, rfl⟩ <;> rfl
  rw [Brackets.after_append, hopen, h _ _ (by omega), hclose]
  congr 1
  omega

/-- A character that, outside strings, neither opens nor closes anything. -/
def isNeutral (c : Char) : Bool := !(['"', '[', ']', '{', '}'].contains c)

theorem spans_of_neutral (h : cs.all isNeutral = true) : Spans cs 0 := by
  intro level deepest hle
  rw [Nat.add_zero, Nat.max_eq_left hle]
  induction cs with
  | nil => rfl
  | cons c cs ih =>
    obtain ⟨hc, hcs⟩ := Bool.and_eq_true_iff.mp (List.all_cons ▸ h)
    have hstep : Brackets.step ⟨.outside, level, deepest⟩ c = ⟨.outside, level, deepest⟩ := by
      simp_all [isNeutral, Brackets.step]
    rw [Brackets.after, List.foldl_cons, hstep]
    exact ih hcs

/-! ## Strings -/

theorem hexChar_ne_quote (d : Fin 16) : hexChar d ≠ '"' ∧ hexChar d ≠ '\\' := by
  revert d
  decide

/-- What stands for a character in a string leaves the string open. -/
@[simp] theorem after_escape (level deepest : Nat) (c : Char) :
    Brackets.after ⟨.inString, level, deepest⟩ (escape c) = ⟨.inString, level, deepest⟩ := by
  unfold escape
  split_ifs with hquote hslash hn hr ht hb hf hlow
  iterate 7
    · rfl
  · simp [Brackets.after, Brackets.step, hexChar_ne_quote]
  · simp [Brackets.after, Brackets.step, hquote, hslash]

theorem spans_writeString (text : String) : Spans (writeString text) 0 := by
  intro level deepest hle
  have hpieces (cs : List Char) : Brackets.after ⟨.inString, level, deepest⟩ (cs.flatMap escape) =
      ⟨.inString, level, deepest⟩ := by
    induction cs with
    | nil => rfl
    | cons c cs ih => rw [List.flatMap_cons, Brackets.after_append, after_escape, ih]
  have hopen (cs : List Char) : Brackets.after ⟨.outside, level, deepest⟩ ('"' :: cs) =
      Brackets.after ⟨.inString, level, deepest⟩ cs := rfl
  rw [writeString, Brackets.after_append, hopen, hpieces, Nat.add_zero, Nat.max_eq_left hle]
  rfl

/-! ## Values -/

theorem spans_comma : Spans [','] 0 := spans_of_neutral (by decide)

theorem spans_colon : Spans [':'] 0 := spans_of_neutral (by decide)

theorem spans_writeItems {items : List Json}
    (h : ∀ item ∈ items, Spans (writeChars item) item.depth) :
    Spans (writeItems items) (depthItems items) := by
  induction items with
  | nil => exact spans_of_neutral rfl
  | cons item items ih =>
    obtain ⟨hitem, hitems⟩ := List.forall_mem_cons.mp h
    cases items with
    | nil => simpa [writeItems, depthItems] using hitem
    | cons next items =>
      rw [writeItems_cons_cons, List.append_cons]
      simpa [depthItems] using (hitem.append spans_comma).append (ih hitems)

theorem spans_writeMembers {members : List (String × Json)}
    (h : ∀ member ∈ members, Spans (writeChars member.2) member.2.depth) :
    Spans (writeMembers members) (depthMembers members) := by
  induction members with
  | nil => exact spans_of_neutral rfl
  | cons member members ih =>
    obtain ⟨name, value⟩ := member
    obtain ⟨hvalue, hmembers⟩ := List.forall_mem_cons.mp h
    have hmember : Spans (writeString name ++ ':' :: writeChars value) value.depth := by
      rw [List.append_cons]
      simpa using ((spans_writeString name).append spans_colon).append hvalue
    cases members with
    | nil => simpa [writeMembers, depthMembers] using hmember
    | cons next members =>
      have hsplit : writeMembers ((name, value) :: next :: members) =
          writeString name ++ ':' :: writeChars value ++ [','] ++
            writeMembers (next :: members) := by
        simp [writeMembers]
      rw [hsplit]
      simpa [depthMembers] using (hmember.append spans_comma).append (ih hmembers)

theorem Plain.spans {value : Json} (h : value.Plain) : Spans (writeChars value) value.depth := by
  induction h with
  | null => exact spans_of_neutral (by decide)
  | bool value => cases value <;> exact spans_of_neutral (by decide)
  | string text => exact spans_writeString text
  | array _ ih => exact (spans_writeItems ih).enclose (.inl ⟨rfl, rfl⟩)
  | object _ ih => exact (spans_writeMembers ih).enclose (.inr ⟨rfl, rfl⟩)

/-- A written value nests as deep as the value. -/
theorem textDepth_write {value : Json} (h : value.Plain) :
    textDepth (write value) = value.depth := by
  rw [textDepth, write, String.toList_ofList, Brackets.start, h.spans 0 0 (Nat.le_refl 0)]
  simp

end NameRoles.Json
