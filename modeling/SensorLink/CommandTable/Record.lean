import SensorLink.Error.Basic
import SensorLink.Json.Document

/-!
# Records in a JSON text

A record is written as an object with its fields as members, in any order, or as an array of the
fields in the order in which they are declared, of which the last may be left out. A member that is
no field, a field that is given twice and an item beyond the last field are faults.

The fields are filled into a draft one after another, from the left of the text to the right, so
that the first fault of the text is the one reported: whether it is a fault of the text, of the
shape, or of a value. Which fields a draft must have in the end is for the draft to say.
-/

namespace SensorLink

open Json (Document)

/-- A field of a record: its name, and how its value goes into a draft. -/
structure RecordField (δ : Type) where
  name : String
  fill : Document → δ → Except TableFault δ

namespace RecordField

variable {δ : Type}

/-- Fills in the members of an object. `seen` are the fields that have been filled in already. -/
def fillMembers (fields : List (RecordField δ)) (seen : List String) (draft : δ) :
    List (String × Document) → Except TableFault δ
  | [] => .ok draft
  | (key, value) :: rest =>
    match fields.find? (·.name = key) with
    | none => .error .unreadable
    | some field =>
      if seen.contains key then .error .unreadable
      else do
        let draft ← field.fill value draft
        fillMembers fields (key :: seen) draft rest

/-- Fills in the items of an array, one for each field. -/
def fillItems (draft : δ) : List (RecordField δ) → List Document → Except TableFault δ
  | _, [] => .ok draft
  | [], _ :: _ => .error .unreadable
  | field :: fields, value :: rest => do
    let draft ← field.fill value draft
    fillItems draft fields rest

/-- A draft, if the record that it was read from ends where it should. -/
def ifClosed (closed : Bool) (draft : δ) : Except TableFault δ :=
  if closed then .ok draft else .error .unreadable

/-- Reads a record into a draft. -/
def read (fields : List (RecordField δ)) (draft : δ) : Document → Except TableFault δ
  | .object members closed => do
    let draft ← fillMembers fields [] draft members
    ifClosed closed draft
  | .array items closed => do
    let draft ← fillItems draft fields items
    ifClosed closed draft
  | _ => .error .unreadable

end RecordField
end SensorLink
