import Mathlib.Tactic.Common
import NameRoles.Json.Decode
import NameRoles.Json.Writer

/-!
# What is written is read back

`decode_write` says that a reader of values is given by a written value what the value itself gives
it. This is so of values without numbers, which are all that a rule service writes.
-/

namespace NameRoles.Json

open Text

/-! ## Strings -/

/-- What stands for a character in a written string. -/
def pieceOf (c : Char) : Piece :=
  if c.toNat < 0x20 ∧ c ≠ '\n' ∧ c ≠ '\r' ∧ c ≠ '\t' ∧ c ≠ '\x08' ∧ c ≠ '\x0c' then .unit c.toNat
  else .char c

theorem hexNumber?_low {n : Nat} (h : n < 0x20) :
    hexNumber? ['0', '0', hexChar (hexDigit (n / 16)), hexChar (hexDigit n)] = some n := by
  have hzero : hexValue? '0' = some 0 := by decide
  simp only [hexNumber?, List.mapM_cons, List.mapM_nil, hzero, hexValue?_hexChar,
    Option.bind_eq_bind, Option.bind_some, Option.pure_def, Option.map_some, hexNumber,
    List.foldl_cons, List.foldl_nil, hexDigit, Fin.ofNat, Option.some.injEq]
  omega

theorem readPieces?_unescape {c d : Char} (h : unescape? c = some d) (cs : List Char) :
    readPieces? ('\\' :: c :: cs) =
      (readPieces? cs).map fun (pieces, rest) => (.char d :: pieces, rest) := by
  have hu : c ≠ 'u' := by rintro rfl; simp [unescape?] at h
  rw [readPieces?.eq_4 _ _ fun _ _ _ _ _ hc => absurd hc hu, h]
  cases readPieces? cs <;> rfl

theorem readPieces?_char {c : Char} (hquote : c ≠ '"') (hslash : c ≠ '\\') (hlow : ¬c.toNat < 0x20)
    (cs : List Char) : readPieces? (c :: cs) =
      (readPieces? cs).map fun (pieces, rest) => (.char c :: pieces, rest) := by
  rw [readPieces?.eq_5 _ _ hquote (fun _ _ _ _ _ h => absurd h hslash)
    (fun _ _ h => absurd h hslash), if_neg (by simp [hlow, hslash])]
  cases readPieces? cs <;> rfl

@[simp] theorem readPieces?_escape (c : Char) (cs : List Char) : readPieces? (escape c ++ cs) =
    (readPieces? cs).map fun (pieces, rest) => (pieceOf c :: pieces, rest) := by
  unfold escape
  split_ifs with hquote hslash hn hr ht hb hf hlow
  -- seven characters are escaped by one letter, the other low ones by their number
  iterate 7
    · subst c
      exact readPieces?_unescape rfl cs
  · rw [pieceOf, if_pos ⟨hlow, hn, hr, ht, hb, hf⟩]
    simp only [List.cons_append, List.nil_append, readPieces?, hexNumber?_low hlow]
    cases readPieces? cs <;> rfl
  · rw [pieceOf, if_neg fun h => hlow h.1]
    exact readPieces?_char hquote hslash hlow cs

@[simp] theorem spell?_pieceOf (c : Char) (pieces : List Piece) :
    spell? (pieceOf c :: pieces) = (spell? pieces).map (c :: ·) := by
  unfold pieceOf
  split
  case isTrue h =>
    have hhigh : isHighSurrogate c.toNat = false := by simp [isHighSurrogate]; omega
    have hlow : isLowSurrogate c.toNat = false := by simp [isLowSurrogate]; omega
    cases pieces with
    | nil => simp [spell?, hhigh, hlow]
    | cons piece pieces =>
      cases piece <;> simp [spell?, hhigh, hlow]
  case isFalse => rfl

/-- A written string is read back, whatever follows it. -/
@[simp] theorem readString?_escape (text : String) (rest : List Char) :
    readString? (text.toList.flatMap escape ++ '"' :: rest) = some (some text, rest) := by
  have hpieces (cs : List Char) : readPieces? (cs.flatMap escape ++ '"' :: rest) =
      some (cs.map pieceOf, rest) := by
    induction cs with
    | nil => simp [readPieces?]
    | cons c cs ih => simp [ih]
  have hspelt (cs : List Char) : spell? (cs.map pieceOf) = some cs := by
    induction cs with
    | nil => rfl
    | cons c cs ih => simp [ih]
  simp [readString?, hpieces, hspelt]

/-! ## Values -/

/-- A value has no numbers in it. -/
inductive Plain : Json → Prop where
  | null : Plain .null
  | bool (value : Bool) : Plain (.bool value)
  | string (text : String) : Plain (.string text)
  | array {items : List Json} (h : ∀ item ∈ items, Plain item) : Plain (.array items)
  | object {members : List (String × Json)} (h : ∀ member ∈ members, Plain member.2) :
    Plain (.object members)

attribute [simp] Plain.null Plain.bool Plain.string

@[simp] theorem plain_array_iff {items : List Json} :
    (array items).Plain ↔ ∀ item ∈ items, item.Plain := by
  constructor
  · rintro ⟨⟩
    assumption
  · exact .array

@[simp] theorem plain_object_iff {members : List (String × Json)} :
    (object members).Plain ↔ ∀ member ∈ members, member.2.Plain := by
  constructor
  · rintro ⟨⟩
    assumption
  · exact .object

/-- What a written value starts with is neither blank nor a closing bracket. -/
theorem Plain.exists_writeChars_eq_cons {value : Json} (h : value.Plain) :
    ∃ c cs, writeChars value = c :: cs ∧ isSpace c = false ∧ c ≠ ']' := by
  cases h with
  | bool value => cases value <;> exact ⟨_, _, rfl, by decide, by decide⟩
  | null | string | array | object => exact ⟨_, _, rfl, by decide, by decide⟩

/-- A value is read from the front of its text, whatever follows it. -/
def ReadsBack (value : Json) : Prop :=
  ∀ (fuel : Nat) (rest : List Char), (writeChars value).length ≤ fuel →
    readValue fuel (writeChars value ++ rest) = (.ofJson value, some rest)

theorem skipSpace_cons {c : Char} (h : isSpace c = false) (cs : List Char) :
    skipSpace (c :: cs) = c :: cs := by
  simp [skipSpace, h]

theorem writeItems_cons_cons (item next : Json) (items : List Json) :
    writeItems (item :: next :: items) = writeChars item ++ ',' :: writeItems (next :: items) := by
  simp [writeItems]

theorem exists_writeItems_eq_cons {item : Json} (hitem : item.Plain) (items : List Json) :
    ∃ c cs, writeItems (item :: items) = c :: cs ∧ isSpace c = false ∧ c ≠ ']' := by
  obtain ⟨c, cs, hc, hfront⟩ := hitem.exists_writeChars_eq_cons
  cases items with
  | nil => exact ⟨c, cs, hc, hfront⟩
  | cons next items => exact ⟨c, _, by rw [writeItems_cons_cons, hc, List.cons_append], hfront⟩

theorem readItems_last {fuel : Nat} {item : Written} {cs rest : List Char}
    (h : readValue fuel cs = (item, some (']' :: rest))) :
    readItems (fuel + 1) cs = ([item], some rest) := by
  simp [readItems, h, skipSpace_cons, isSpace]

theorem readItems_next {fuel : Nat} {item : Written} {items : List Written}
    {c : Char} {cs cs' : List Char} {rest : Option (List Char)} (hc : isSpace c = false)
    (hitem : readValue fuel cs = (item, some (',' :: c :: cs')))
    (hitems : readItems fuel (c :: cs') = (items, rest)) :
    readItems (fuel + 1) cs = (item :: items, rest) := by
  simp [readItems, hitem, hitems, skipSpace_cons hc, skipSpace_cons, isSpace]

/-- Items are read back with more fuel than their text has characters: the comma behind an item pays
for the step to the next one. -/
theorem readItems_writeItems {items : List Json} (hne : items ≠ [])
    (hplain : ∀ item ∈ items, item.Plain) (hitems : ∀ item ∈ items, item.ReadsBack) (fuel : Nat)
    (hfuel : (writeItems items).length < fuel) (rest : List Char) :
    readItems fuel (writeItems items ++ ']' :: rest) = (Written.ofItems items, some rest) := by
  induction items generalizing fuel with
  | nil => exact absurd rfl hne
  | cons item items ih =>
    obtain ⟨fuel, rfl⟩ := Nat.exists_eq_succ_of_ne_zero (Nat.ne_zero_of_lt hfuel)
    have hitem := hitems item List.mem_cons_self fuel
    cases items with
    | nil => exact readItems_last (hitem _ (Nat.le_of_lt_succ hfuel))
    | cons next items =>
      rw [writeItems_cons_cons, List.length_append, List.length_cons] at hfuel
      obtain ⟨c, cs, hc, hspace, -⟩ := exists_writeItems_eq_cons (hplain next (by simp)) items
      have hrest := ih (by simp) (fun _ h => hplain _ (List.mem_cons_of_mem _ h))
        (fun _ h => hitems _ (List.mem_cons_of_mem _ h)) fuel (by omega)
      rw [writeItems_cons_cons, List.append_assoc]
      rw [hc] at hrest ⊢
      exact readItems_next hspace (hitem _ (by omega)) hrest

theorem writeMembers_cons_cons (name : String) (value : Json) (next : String × Json)
    (members : List (String × Json)) : writeMembers ((name, value) :: next :: members) =
      writeString name ++ ':' :: writeChars value ++ ',' :: writeMembers (next :: members) := by
  simp [writeMembers]

theorem readMembers_last {fuel : Nat} {name : String} {value : Written} {c : Char}
    {cs rest : List Char} (hc : isSpace c = false)
    (h : readValue fuel (c :: cs) = (value, some ('}' :: rest))) :
    readMembers (fuel + 1) (writeString name ++ ':' :: c :: cs) =
      ([(some name, value)], some rest) := by
  simp [readMembers, writeString, h, skipSpace_cons hc, skipSpace_cons, isSpace]

theorem readMembers_next {fuel : Nat} {name : String} {value : Written}
    {members : List (Option String × Written)} {c : Char} {cs cs' : List Char}
    {rest : Option (List Char)} (hc : isSpace c = false)
    (hvalue : readValue fuel (c :: cs) = (value, some (',' :: '"' :: cs')))
    (hmembers : readMembers fuel ('"' :: cs') = (members, rest)) :
    readMembers (fuel + 1) (writeString name ++ ':' :: c :: cs) =
      ((some name, value) :: members, rest) := by
  simp [readMembers, writeString, hvalue, hmembers, skipSpace_cons hc, skipSpace_cons, isSpace]

theorem exists_writeMembers_eq_cons (member : String × Json) (members : List (String × Json)) :
    ∃ cs, writeMembers (member :: members) = '"' :: cs := by
  cases members with
  | nil => exact ⟨_, rfl⟩
  | cons next members => exact ⟨_, by rw [writeMembers_cons_cons, writeString]; rfl⟩

theorem readMembers_writeMembers {members : List (String × Json)} (hne : members ≠ [])
    (hplain : ∀ member ∈ members, member.2.Plain)
    (hmembers : ∀ member ∈ members, member.2.ReadsBack) (fuel : Nat)
    (hfuel : (writeMembers members).length < fuel) (rest : List Char) :
    readMembers fuel (writeMembers members ++ '}' :: rest) =
      (Written.ofMembers members, some rest) := by
  induction members generalizing fuel with
  | nil => exact absurd rfl hne
  | cons member members ih =>
    obtain ⟨name, value⟩ := member
    obtain ⟨fuel, rfl⟩ := Nat.exists_eq_succ_of_ne_zero (Nat.ne_zero_of_lt hfuel)
    have hvalue := hmembers _ List.mem_cons_self fuel
    obtain ⟨c, cs, hc, hspace, -⟩ := (hplain _ List.mem_cons_self).exists_writeChars_eq_cons
    cases members with
    | nil =>
      have hfuel : (writeString name ++ ':' :: writeChars value).length < fuel + 1 := hfuel
      rw [List.length_append, List.length_cons] at hfuel
      have hread := hvalue ('}' :: rest) (by dsimp only; omega)
      rw [writeMembers, List.append_assoc, List.cons_append]
      rw [hc] at hread ⊢
      exact readMembers_last hspace hread
    | cons next members =>
      rw [writeMembers_cons_cons, List.length_append, List.length_append, List.length_cons,
        List.length_cons] at hfuel
      have hread := hvalue (',' :: writeMembers (next :: members) ++ '}' :: rest)
        (by dsimp only; omega)
      have hrest := ih (by simp) (fun _ h => hplain _ (List.mem_cons_of_mem _ h))
        (fun _ h => hmembers _ (List.mem_cons_of_mem _ h)) fuel (by omega)
      obtain ⟨cs', hcs'⟩ := exists_writeMembers_eq_cons next members
      rw [writeMembers_cons_cons, List.append_assoc, List.append_assoc, List.cons_append]
      rw [hcs'] at hread hrest ⊢
      rw [hc] at hread ⊢
      exact readMembers_next hspace hread hrest

theorem readValue_array {fuel : Nat} {c : Char} {cs rest : List Char} {items : List Written}
    (hspace : isSpace c = false) (hclose : c ≠ ']')
    (h : readItems fuel (c :: cs) = (items, some rest)) :
    readValue (fuel + 1) ('[' :: c :: cs) = (.array items true, some rest) := by
  rw [readValue, skipSpace_cons hspace]
  simp [hclose, h]

theorem readValue_object {fuel : Nat} {c : Char} {cs rest : List Char}
    {members : List (Option String × Written)} (hspace : isSpace c = false) (hclose : c ≠ '}')
    (h : readMembers fuel (c :: cs) = (members, some rest)) :
    readValue (fuel + 1) ('{' :: c :: cs) = (.object members true, some rest) := by
  rw [readValue, skipSpace_cons hspace]
  simp [hclose, h]

theorem ReadsBack.of_succ {value : Json} (h : value.Plain)
    (hread : ∀ (fuel : Nat) (rest : List Char), (writeChars value).length ≤ fuel + 1 →
      readValue (fuel + 1) (writeChars value ++ rest) = (.ofJson value, some rest)) :
    value.ReadsBack := by
  intro fuel rest hfuel
  obtain ⟨c, cs, hc, -⟩ := h.exists_writeChars_eq_cons
  have hne : fuel ≠ 0 := by rintro rfl; simp [hc] at hfuel
  obtain ⟨fuel, rfl⟩ := Nat.exists_eq_succ_of_ne_zero hne
  exact hread fuel rest hfuel

theorem Plain.readsBack {value : Json} (h : value.Plain) : value.ReadsBack := by
  induction h with
  | null => exact .of_succ .null fun fuel rest _ => rfl
  | bool value => cases value <;> exact .of_succ (.bool _) fun fuel rest _ => rfl
  | string text =>
    refine .of_succ (.string text) fun fuel rest _ => ?_
    simp only [writeChars, writeString, List.cons_append, List.append_assoc, List.nil_append,
      readValue, readString?_escape, Written.ofJson]
  | @array items h ih =>
    refine .of_succ (.array h) fun fuel rest hfuel => ?_
    cases items with
    | nil => rfl
    | cons item items =>
      simp only [writeChars, List.length_append, List.length_cons, List.length_nil] at hfuel
      have hitems := readItems_writeItems (by simp) h ih fuel (by omega) rest
      obtain ⟨c, cs, hc, hspace, hclose⟩ := exists_writeItems_eq_cons (h item (by simp)) items
      simp only [writeChars, List.append_assoc, List.cons_append, List.nil_append]
      rw [hc] at hitems ⊢
      exact readValue_array hspace hclose hitems
  | @object members h ih =>
    refine .of_succ (.object h) fun fuel rest hfuel => ?_
    cases members with
    | nil => rfl
    | cons member members =>
      simp only [writeChars, List.length_append, List.length_cons, List.length_nil] at hfuel
      have hmembers := readMembers_writeMembers (by simp) h ih fuel (by omega) rest
      obtain ⟨cs, hcs⟩ := exists_writeMembers_eq_cons member members
      simp only [writeChars, List.append_assoc, List.cons_append, List.nil_append]
      rw [hcs] at hmembers ⊢
      exact readValue_object (by decide) (by decide) hmembers

/-- A written value is read back as it was. -/
theorem readWritten_write {value : Json} (h : value.Plain) :
    readWritten (write value) = (.ofJson value, true) := by
  obtain ⟨c, cs, hc, hspace, -⟩ := h.exists_writeChars_eq_cons
  have hskip : skipSpace (writeChars value) = writeChars value := by rw [hc, skipSpace_cons hspace]
  have hread := h.readsBack (2 * (writeChars value).length + 2) [] (by omega)
  rw [List.append_nil] at hread
  simp only [readWritten, write, String.toList_ofList, hskip, hread]
  rfl

/-- A reader of values is given by a written value what the value itself gives it. -/
theorem decode_write {value : Json} (h : value.Plain) (decoder : Decoder α) :
    decode decoder (write value) = decoder (.ofJson value) := by
  simp only [decode, readWritten_write h]
  cases decoder (.ofJson value) <;> rfl

/-! ## What is read of a value -/

namespace Written

@[simp] theorem ofItems_eq_map (items : List Json) : ofItems items = items.map ofJson := by
  induction items with
  | nil => rfl
  | cons item items ih => rw [ofItems, ih, List.map_cons]

theorem toItems?_map_ofJson {items : List Json}
    (h : ∀ item ∈ items, (ofJson item).toJson? = some item) :
    toItems? (items.map ofJson) = some items := by
  induction items with
  | nil => rfl
  | cons item items ih =>
    simp [toItems?, h item (by simp), ih fun _ hi => h _ (List.mem_cons_of_mem _ hi)]

theorem toMembers?_ofMembers {members : List (String × Json)}
    (h : ∀ member ∈ members, (ofJson member.2).toJson? = some member.2) :
    toMembers? (ofMembers members) = some members := by
  induction members with
  | nil => rfl
  | cons member members ih =>
    simp [ofMembers, toMembers?, h member (by simp),
      ih fun _ hi => h _ (List.mem_cons_of_mem _ hi)]

theorem toJson?_ofJson {value : Json} (h : value.Plain) : (ofJson value).toJson? = some value := by
  induction h with
  | null | bool | string => rfl
  | array h ih => simp [ofJson, toJson?, toItems?_map_ofJson ih]
  | object h ih => simp [ofJson, toJson?, toMembers?_ofMembers ih]

end Written

theorem read?_write {value : Json} (h : value.Plain) : read? (write value) = some value := by
  simp [read?, readWritten_write h, Written.toJson?_ofJson h]

end NameRoles.Json
