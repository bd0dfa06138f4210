import SensorLink.CommandTable.Basic
import SensorLink.CommandTable.Record
import SensorLink.Text.Blank

/-!
# Reading a command table

A table is a JSON document. Numbers are JSON integers or hexadecimal text behind a `0x`; the payload
of a command is the digits of its bytes, with white space wherever it helps. Reading goes in two
passes:

1. the text is read into drafts, which hold what is written and nothing else;
2. the drafts are completed, command by command in the order of their names: a sensor number that is
   missing is the table's, a missing order number is the fixed one, and a number of seconds and a
   string of digits become what they stand for.

A table is read whole or not at all.
-/

namespace SensorLink

open Json (Document)

/-! ## Values -/

namespace CommandTable

/-- The characters behind any number of markers `0x`, `x` being the letter given. -/
def dropMarkers (x : Char) : List Char → List Char
  | '0' :: c :: rest => if c = x then dropMarkers x rest else '0' :: c :: rest
  | cs => cs

/-- A number below a limit. -/
def inRange (limit n : Nat) : Except TableFault Nat :=
  if n < limit then .ok n else .error (.outOfRange n)

/-- Reads a number below a limit: an integer, or hexadecimal text. -/
def readNumber (limit : Nat) : Document → Except TableFault Nat
  | .number (.natural n) => inRange limit n
  | .string s =>
    -- The markers of one letter are all taken off before those of the other.
    match Text.Integer.readHex64 (dropMarkers 'X' (dropMarkers 'x' s.toList)) with
    | .ok n => inRange limit n
    | .error fault => .error (.badNumber s fault)
  | _ => .error .unreadable

/-- Reads a text. -/
def readText : Document → Except TableFault String
  | .string s => .ok s
  | _ => .error .unreadable

/-- Reads a truth value. -/
def readFlag : Document → Except TableFault Bool
  | .bool b => .ok b
  | _ => .error .unreadable

/-- Reads a number of seconds. -/
def readSeconds : Document → Except TableFault Binary64
  | .number (.natural n) => .ok (.ofNat n)
  | .number (.negative n) => .ok (Binary64.ofNat n).neg
  | .number (.real x) => .ok x
  | _ => .error .unreadable

/-- Reads a value that may be given as `null`. -/
def readOptional (read : Document → Except TableFault α) : Document → Except TableFault (Option α)
  | .null => .ok none
  | value => (read value).map some

/-- Reads a kind of command: its name, or an object with the name as its key and `null` as its
value. -/
def readKind : Document → Except TableFault CommandKind
  | .string s => (CommandKind.ofName? s).elim (.error .unreadable) .ok
  | .object [(key, .null)] true => (CommandKind.ofName? key).elim (.error .unreadable) .ok
  | _ => .error .unreadable

/-! ## Drafts -/

/-- An entry as it is written. -/
structure EntryDraft where
  command : Option Nat := none
  sensor : Option Nat := none
  timeout : Option Binary64 := none
  hasUplink : Bool := false
  uplinkSensor : Option Nat := none
  requiresData : Bool := false
  data : Option String := none
  expectsResponse : Bool := false
  order : Option Nat := none
  kind : CommandKind := .downlink
  description : Option String := none
  deriving Repr

/-- A table as it is written. -/
structure Draft where
  name : Option String := none
  sensor : Nat := 0
  description : Option String := none
  entries : List (String × EntryDraft) := []
  deriving Repr

/-- The fields of an entry. -/
def entryFields : List (RecordField EntryDraft) := [
  ⟨"cmd", fun v d => do pure { d with command := some (← readNumber (2 ^ 8) v) }⟩,
  ⟨"sensor_id", fun v d => do pure { d with sensor := some (← readNumber (2 ^ 16) v) }⟩,
  ⟨"timeout", fun v d => do pure { d with timeout := ← readOptional readSeconds v }⟩,
  ⟨"has_uplink", fun v d => do pure { d with hasUplink := ← readFlag v }⟩,
  ⟨"uplink_sensor_id",
    fun v d => do pure { d with uplinkSensor := some (← readNumber (2 ^ 16) v) }⟩,
  ⟨"requires_data", fun v d => do pure { d with requiresData := ← readFlag v }⟩,
  ⟨"data", fun v d => do pure { d with data := ← readOptional readText v }⟩,
  ⟨"expects_response", fun v d => do pure { d with expectsResponse := ← readFlag v }⟩,
  ⟨"order", fun v d => do pure { d with order := some (← readNumber (2 ^ 16) v) }⟩,
  ⟨"kind", fun v d => do pure { d with kind := ← readKind v }⟩,
  ⟨"description", fun v d => do pure { d with description := ← readOptional readText v }⟩]

/-- Reads an entry; its command code must be there. -/
def readEntry (value : Document) : Except TableFault EntryDraft := do
  let draft ← RecordField.read entryFields {} value
  if draft.command.isSome then pure draft else .error .unreadable

/-- Reads entries by name. -/
def readMembers : List (String × Document) → Except TableFault (List (String × EntryDraft))
  | [] => .ok []
  | (name, value) :: rest => do
    let entry ← readEntry value
    let rest ← readMembers rest
    pure ((name, entry) :: rest)

/-- Reads the entries of a table, an object. -/
def readEntries : Document → Except TableFault (List (String × EntryDraft))
  | .object members closed => do
    let entries ← readMembers members
    RecordField.ifClosed closed entries
  | _ => .error .unreadable

/-- The fields of a table. -/
def fields : List (RecordField Draft) := [
  ⟨"name", fun v d => do pure { d with name := some (← readText v) }⟩,
  ⟨"sensor_id", fun v d => do pure { d with sensor := ← readNumber (2 ^ 16) v }⟩,
  ⟨"description", fun v d => do pure { d with description := ← readOptional readText v }⟩,
  ⟨"commands", fun v d => do pure { d with entries := ← readEntries v }⟩]

/-- Reads the draft of a table; its name must be there. -/
def readDraft (text : String) : Except TableFault Draft := do
  let (document, whole) := Document.ofText text
  let draft ← RecordField.read fields {} document
  if draft.name.isSome && whole then pure draft else .error .unreadable

/-! ## Completing drafts -/

/-- How long a command waits unless its entry says so. -/
def defaultTimeout : Duration := .seconds 10

/-- The time that a command waits. -/
def completeTimeout (name : String) : Option Binary64 → Except Error Duration
  | none => .ok defaultTimeout
  | some seconds =>
    match Duration.ofSeconds seconds with
    | .ok timeout => .ok timeout
    | .error _ => .error (.invalidParameter (.entryTimeout name seconds))

/-- The bytes that a text of digits stands for, white space between them left out. -/
def payloadOfText (text : String) : Except Hex.Fault Bytes :=
  Hex.decode (String.ofList (Text.squeeze text.toList)).toUTF8.toList

/-- The payload that a command sends. -/
def completeData (name : String) : Option String → Except Error (Option Bytes)
  | none => .ok none
  | some text =>
    match payloadOfText text with
    | .ok bytes => .ok (some bytes)
    | .error fault => .error (.invalidParameter (.entryData name fault))

/-- An entry with everything filled in; `sensor` is the table's. -/
def completeEntry (name : String) (sensor : Nat) (draft : EntryDraft) :
    Except Error CommandEntry := do
  let timeout ← completeTimeout name draft.timeout
  let data ← completeData name draft.data
  let own := draft.sensor.getD sensor
  pure {
    command := UInt8.ofNat (draft.command.getD 0)
    sensor := UInt16.ofNat own
    timeout
    hasUplink := draft.hasUplink
    uplinkSensor := UInt16.ofNat (draft.uplinkSensor.getD own)
    requiresData := draft.requiresData
    data
    expectsResponse := draft.expectsResponse
    order := (draft.order.map UInt16.ofNat).getD fixedOrder
    kind := draft.kind
    description := draft.description }

/-- Completes entries one after another. -/
def completeEntries (sensor : Nat) :
    List (String × EntryDraft) → Except Error (List (String × CommandEntry))
  | [] => .ok []
  | (name, draft) :: rest => do
    let entry ← completeEntry name sensor draft
    let rest ← completeEntries sensor rest
    pure ((name, entry) :: rest)

/-- A table with everything filled in. Of entries with one name the last counts. -/
def complete (draft : Draft) : Except Error CommandTable := do
  let entries ← completeEntries draft.sensor (Json.sortMembers draft.entries)
  pure {
    name := draft.name.getD ""
    sensor := UInt16.ofNat draft.sensor
    description := draft.description
    entries }

/-- Reads a table from a JSON text. -/
def parse (text : String) : Except Error CommandTable := do
  let draft ← (readDraft text).mapError .table
  complete draft

/-- Reads a table from the content of a file, `none` where there is no file. -/
def ofFile (content : Option Bytes) : Except Error CommandTable :=
  match content with
  | none => .error (.system .noSuchFile)
  | some bytes =>
    match String.fromUTF8? (ByteArray.mk bytes.toArray) with
    | none => .error (.system .notText)
    | some text => parse text

end CommandTable
end SensorLink
