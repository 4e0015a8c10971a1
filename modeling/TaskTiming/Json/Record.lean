import TaskTiming.Json.Decoder

/-!
# Decoding records

A record is described by its fields in order, each with the decoder that puts its value in, and by a
blank that holds what a field has when it is not there. It is written as an object, with the fields in
any order and unknown ones skipped, or as an array in the order of the fields.
-/

namespace TaskTiming.Json
set_option autoImplicit false

/-- What it means that a field is not there. -/
inductive Presence
  /-- That is a fault. -/
  | required
  /-- It has the value of the blank. -/
  | defaulted
  /-- It has the value of the blank, but an array must have it. -/
  | nullable
deriving DecidableEq

/-- A field of a record. -/
structure Field (α : Type) where
  name : String
  presence : Presence
  read : Decoder (α → α)

/-- The fields of a record, and a record to put them in. -/
structure Schema (α : Type) where
  fields : List (Field α)
  blank : α

namespace Schema

variable {α : Type}

/-- A record being read, with the names of the fields it already has. -/
structure Draft (α : Type) where
  record : α
  seen : List String

def start (schema : Schema α) : Draft α := { record := schema.blank, seen := [] }

def find? (schema : Schema α) (name : String) : Option (Field α) :=
  schema.fields.find? (·.name = name)

/-- Takes the value of a field that must not be there yet. -/
def take (draft : Draft α) (field : Field α) : Decoder (Draft α) := do
  if draft.seen.contains field.name then Decoder.fail (.duplicateField field.name)
  let put ← field.read
  return { record := put draft.record, seen := field.name :: draft.seen }

/-- The record, if no field is missing; of several missing ones the first is reported. -/
def finish (schema : Schema α) (draft : Draft α) : Except Fault α :=
  match schema.fields.find? fun f => f.presence = .required && !draft.seen.contains f.name with
  | some field => .error (.missingField field.name)
  | none => .ok draft.record

/-- The characters of a key. -/
def key (row : List Char) : Decoder String :=
  match unescape row with
  | some s => pure (String.ofList s)
  | none => Decoder.malformed

/-- A record written as an object. -/
def object (schema : Schema α) : Decoder α := do
  let draft ← Decoder.members (fun draft row => do
    match schema.find? (← key row) with
    | some field => take draft field
    | none => do
      Decoder.skip
      pure draft) schema.start
  match schema.finish draft with
  | .ok record => pure record
  | .error fault => Decoder.fail fault

/-- The fields of a record written as an array, after the bracket or an item. -/
def itemsFrom (record : α) : Bool → List (Field α) → Decoder α
  | _, [] => do
    Decoder.expect .closeArray
    pure record
  | first, field :: rest => do
    match ← Decoder.peek with
    | some .closeArray =>
      if field.presence = .defaulted then itemsFrom record first rest else Decoder.malformed
    | _ =>
      if !first then Decoder.expect .comma
      let put ← field.read
      itemsFrom (put record) false rest

/-- A record written as an object or as an array. -/
def read (schema : Schema α) : Decoder α := do
  match ← Decoder.peek with
  | some .openArray => do
    let _ ← Decoder.next
    itemsFrom schema.blank true schema.fields
  | _ => schema.object

/-- Reads the fields of a record out of the members of a larger object that was read as a whole. The
other members are not looked at. -/
def ofMembers (schema : Schema α) (members : List (String × Json)) : Except Fault α := do
  let draft ← members.foldlM (fun draft (name, j) =>
    match schema.find? name with
    | some field => (take draft field).all j.tokens
    | none => pure draft) schema.start
  schema.finish draft

end Schema

end TaskTiming.Json
