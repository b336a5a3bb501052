import NameRoles.Json.Reader

/-!
# Records in JSON

A record is written as an object with a member for each field, or as the array of its fields in
their order. Members with other names are passed over; a field that occurs twice is a fault. Values
are judged in the order of the text, each as soon as it is read.
-/

namespace NameRoles.Json

/-- Why a text is refused: it is no JSON, or JSON of another shape. -/
inductive Refusal where
  | malformed
  | misfit
deriving DecidableEq, Repr

/-- A reader of values of some shape. -/
abbrev Decoder (α : Type) := Written → Except Refusal α

/-- Why a value is refused where another kind of value is asked for. Arrays and objects are refused
at sight, other values are read first. -/
def Written.refusal : Written → Refusal
  | .cut | .string none => .malformed
  | .number literal => if isFinite literal then .misfit else .malformed
  | _ => .misfit

/-- Goes over a value that is not asked for. -/
def Written.pass (value : Written) : Except Refusal Unit :=
  if value.isWhole then .ok () else .error .malformed

/-- What has been read, if the text goes on as JSON. -/
def ifClosed (closed : Bool) (value : α) : Except Refusal α :=
  if closed then .ok value else .error .malformed

def decodeString : Decoder String
  | .string (some text) => .ok text
  | value => .error value.refusal

def decodeList (decode : Decoder α) : Decoder (List α)
  | .array items closed => do ifClosed closed (← items.mapM decode)
  | value => .error value.refusal

/-- A value of a type that has a reader of texts. -/
def decodeText (parse? : String → Option α) : Decoder α := fun value => do
  match parse? (← decodeString value) with
  | some a => .ok a
  | none => .error .misfit

/-- A value that may be null. -/
def decodeNullable (decode : Decoder α) : Decoder (Option α)
  | .null => .ok none
  | value => (decode value).map some

/-- A field of a record, by its name, with the judgement on its value. -/
structure Field where
  name : String
  judge : Decoder Unit

/-- The field whose values a decoder reads. -/
def Field.of (name : String) (decode : Decoder α) : Field :=
  ⟨name, fun value => (decode value).map fun _ => ()⟩

/-- The fields of a record that are there. -/
structure Fields where
  found : List (String × Written)
  /-- The fields were given in an array. -/
  positional : Bool

namespace Fields

/-- The fields among the members of an object, behind those that have been found. -/
def ofMembers (fields : List Field) (found : List (String × Written)) :
    List (Option String × Written) → Except Refusal (List (String × Written))
  | [] => .ok found
  | (none, _) :: _ => .error .malformed
  | (some name, value) :: members =>
    match fields.find? (·.name = name) with
    | none => do
      value.pass
      ofMembers fields found members
    | some field =>
      if (found.lookup name).isSome then .error .misfit
      else do
        field.judge value
        ofMembers fields (found ++ [(name, value)]) members

/-- The fields that the items of an array give; no more may follow. -/
def ofItems : List Field → List Written → Except Refusal (List (String × Written))
  | _, [] => .ok []
  | [], _ :: _ => .error .malformed
  | field :: fields, item :: items => do
    field.judge item
    return (field.name, item) :: (← ofItems fields items)

/-- The value of a field that may be absent. -/
def get? (fields : Fields) (name : String) (decode : Decoder α) : Except Refusal (Option α) :=
  match fields.found.lookup name with
  | some value => (decode value).map some
  | none => .ok none

/-- The value of a field that must be there. -/
def get (fields : Fields) (name : String) (decode : Decoder α) : Except Refusal α := do
  match ← fields.get? name decode with
  | some value => .ok value
  | none => .error .misfit

/-- The value of a field that may be null, and absent from an object. -/
def getNullable? (fields : Fields) (name : String) (decode : Decoder α) :
    Except Refusal (Option α) := do
  match ← fields.get? name (decodeNullable decode) with
  | some value => .ok value
  | none => if fields.positional then .error .misfit else .ok none

end Fields

/-- The fields of a record that are there. -/
def decodeFields (fields : List Field) : Decoder Fields
  | .object members closed => do
    ifClosed closed ⟨← Fields.ofMembers fields [] members, false⟩
  | .array items closed => do
    ifClosed closed ⟨← Fields.ofItems fields items, true⟩
  | value => .error value.refusal

/-- Reads a text that holds a value of some shape. Of several faults the one that stands first in
the text decides. -/
def decode (decoder : Decoder α) (text : String) : Except Refusal α := do
  let (value, isLast) := readWritten text
  ifClosed isLast (← decoder value)

end NameRoles.Json
