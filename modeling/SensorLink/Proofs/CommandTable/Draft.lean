import SensorLink.CommandTable.Reader
import SensorLink.Proofs.CommandTable.Record

/-!
# From a text to a table

A table is read in two passes, and what each of them needs is kept apart here. The first pass takes
the text for what is written in it: a table and its entries are records, and their drafts have a part
for each field (`readDraft_eq_ok_iff`, `readEntry_eq_ok_iff`). The second pass can fail for two
reasons only, a timeout or a payload that says nothing, and only for the entries that count: of two
with one name the later (`exists_complete_iff`).

So a text that is refused in the first pass is no table, whatever the second would have made of it.
-/

namespace SensorLink
namespace CommandTable

open Json (Document keys member? Entrywise Written)

/-! ## Parts -/

/-- The numbers of an entry. -/
inductive NumberField where
  | command
  | sensor
  | uplinkSensor
  | order
  deriving DecidableEq

namespace NumberField

def name : NumberField → String
  | command => "cmd"
  | sensor => "sensor_id"
  | uplinkSensor => "uplink_sensor_id"
  | order => "order"

/-- A command code is a byte, all else are words. -/
def limit : NumberField → Nat
  | command => 2 ^ 8
  | sensor | uplinkSensor | order => 2 ^ 16

def get : NumberField → EntryDraft → Option Nat
  | command, d => d.command
  | sensor, d => d.sensor
  | uplinkSensor, d => d.uplinkSensor
  | order, d => d.order

def set : NumberField → Option Nat → EntryDraft → EntryDraft
  | command, n, d => { d with command := n }
  | sensor, n, d => { d with sensor := n }
  | uplinkSensor, n, d => { d with uplinkSensor := n }
  | order, n, d => { d with order := n }

def part (f : NumberField) : RecordPart EntryDraft :=
  ⟨_, f.name, fun v => some <$> readNumber f.limit v, f.get, f.set⟩

end NumberField

def timeoutPart : RecordPart EntryDraft :=
  ⟨_, "timeout", readOptional readSeconds, (·.timeout), fun x d => { d with timeout := x }⟩

def dataPart : RecordPart EntryDraft :=
  ⟨_, "data", readOptional readText, (·.data), fun x d => { d with data := x }⟩

def entryParts : List (RecordPart EntryDraft) := [
  NumberField.command.part, NumberField.sensor.part, timeoutPart,
  ⟨_, "has_uplink", readFlag, (·.hasUplink), fun x d => { d with hasUplink := x }⟩,
  NumberField.uplinkSensor.part,
  ⟨_, "requires_data", readFlag, (·.requiresData), fun x d => { d with requiresData := x }⟩,
  dataPart,
  ⟨_, "expects_response", readFlag, (·.expectsResponse),
    fun x d => { d with expectsResponse := x }⟩,
  NumberField.order.part, ⟨_, "kind", readKind, (·.kind), fun x d => { d with kind := x }⟩,
  ⟨_, "description", readOptional readText, (·.description),
    fun x d => { d with description := x }⟩]

def sensorPart : RecordPart Draft :=
  ⟨_, "sensor_id", readNumber (2 ^ 16), (·.sensor), fun x d => { d with sensor := x }⟩

def commandsPart : RecordPart Draft :=
  ⟨_, "commands", readEntries, (·.entries), fun x d => { d with entries := x }⟩

def tableParts : List (RecordPart Draft) := [
  ⟨_, "name", fun v => some <$> readText v, (·.name), fun x d => { d with name := x }⟩, sensorPart,
  ⟨_, "description", readOptional readText, (·.description), fun x d => { d with description := x }⟩,
  commandsPart]

theorem entryFields_eq : entryFields = entryParts.map RecordPart.field := by
  simp [entryFields, entryParts, RecordPart.field, NumberField.part, NumberField.name,
    NumberField.limit, NumberField.set, timeoutPart, dataPart]

theorem fields_eq : fields = tableParts.map RecordPart.field := by
  simp [fields, tableParts, RecordPart.field, sensorPart, commandsPart]

/-- The parts of an entry have different names and do not overwrite each other, so it does not
matter in which order its fields stand. -/
theorem lawful_entryParts : RecordPart.Lawful entryParts where
  nodup := by decide
  get_set := by simp [entryParts, NumberField.part, NumberField.get, NumberField.set, timeoutPart,
    dataPart]
  get_set_of_ne := by simp [entryParts, NumberField.part, NumberField.name, NumberField.get,
    NumberField.set, timeoutPart, dataPart]
  ext := by
    rintro ⟨⟩ ⟨⟩ h
    simpa [entryParts, NumberField.part, NumberField.get, timeoutPart, dataPart] using h

theorem lawful_tableParts : RecordPart.Lawful tableParts where
  nodup := by decide
  get_set := by simp [tableParts, sensorPart, commandsPart]
  get_set_of_ne := by simp [tableParts, sensorPart, commandsPart]
  ext := by
    rintro ⟨⟩ ⟨⟩ h
    simpa [tableParts, sensorPart, commandsPart] using h

/-! ## What is written -/

def entryNames : List String := RecordPart.names entryParts

def tableNames : List String := RecordPart.names tableParts

/-- The commands of a table, by name. -/
def commandsOf (v : Json) : List (String × Json) :=
  match v.field? tableNames "commands" with
  | some (.object members) => members
  | _ => []

/-- To write `null` is as good as not to write the field. -/
theorem readOptional_eq_ok_iff {α : Type} {read : Document → Except TableFault α} {v : Json}
    {a : Option α} :
    readOptional read v.document = .ok a ↔
      (v = .null ∧ a = none) ∨ (v ≠ .null ∧ ∃ b, read v.document = .ok b ∧ a = some b) := by
  have hread (hne : v ≠ .null) : readOptional read v.document = (read v.document).map some := by
    cases v with
    | null => exact absurd rfl hne
    | bool _ | number _ | string _ | array _ | object _ => rfl
  by_cases hnull : v = .null
  · subst hnull
    simp [Json.document, readOptional, eq_comm]
  · rw [hread hnull]
    cases read v.document with
    | ok b => simp [Except.map, hnull, eq_comm]
    | error fault => simp [Except.map, hnull]

theorem readText_eq_ok_iff {v : Json} {text : String} :
    readText v.document = .ok text ↔ v = .string text := by
  cases v <;> simp [Json.document, readText]

/-- An entry has a command code or it is none; everything else may be left out. -/
theorem readEntry_eq_ok_iff {v : Json} {draft : EntryDraft} :
    readEntry v.document = .ok draft ↔
      RecordField.read (entryParts.map RecordPart.field) {} v.document = .ok draft ∧
        draft.command.isSome := by
  rw [readEntry, entryFields_eq, bind_eq_ok_iff]
  constructor
  · rintro ⟨d, hread, hcommand⟩
    split at hcommand
    · rename_i hsome
      cases hcommand
      exact ⟨hread, hsome⟩
    · cases hcommand
  · rintro ⟨hread, hcommand⟩
    refine ⟨draft, hread, ?_⟩
    rw [if_pos hcommand]
    rfl

/-- A value is read as an entry; its name does not matter. -/
def Drafted (_name : String) (v : Json) (draft : EntryDraft) : Prop :=
  readEntry v.document = .ok draft

theorem Drafted.unique {name : String} {v : Json} {draft other : EntryDraft}
    (h : Drafted name v draft) (h' : Drafted name v other) : draft = other :=
  Except.ok.inj (Eq.trans (Eq.symm h) h')

/-- A field that is written is what its part of the draft was read from. -/
theorem Drafted.read_part {name : String} {v x : Json} {draft : EntryDraft}
    (h : Drafted name v draft) {p : RecordPart EntryDraft} (hp : p ∈ entryParts)
    (hx : v.field? entryNames p.name = some x) : p.read x.document = .ok (p.get draft) := by
  have hfilled := (lawful_entryParts.read_eq_ok_iff.mp (readEntry_eq_ok_iff.mp h).1).2 p hp
  change ((v.field? entryNames p.name).map Json.document).elim _ p.read = _ at hfilled
  rwa [hx] at hfilled

theorem Drafted.get_of_absent {name : String} {v : Json} {draft : EntryDraft}
    (h : Drafted name v draft) {p : RecordPart EntryDraft} (hp : p ∈ entryParts)
    (hx : v.field? entryNames p.name = none) : p.get draft = p.get {} := by
  have hfilled := (lawful_entryParts.read_eq_ok_iff.mp (readEntry_eq_ok_iff.mp h).1).2 p hp
  change ((v.field? entryNames p.name).map Json.document).elim _ p.read = _ at hfilled
  rw [hx] at hfilled
  exact (Except.ok.inj hfilled).symm

theorem readMembers_eq_ok_iff {members : List (String × Json)}
    {entries : List (String × EntryDraft)} :
    readMembers (Json.memberDocuments members) = .ok entries ↔
      Entrywise Drafted members entries := by
  induction members generalizing entries with
  | nil =>
    simp [Json.memberDocuments, readMembers, Entrywise, eq_comm]
  | cons m rest ih =>
    obtain ⟨name, v⟩ := m
    simp only [Json.memberDocuments, readMembers, bind_eq_ok_iff, ih]
    constructor
    · rintro ⟨draft, hdraft, later, hlater, hentries⟩
      cases hentries
      exact .cons ⟨rfl, hdraft⟩ hlater
    · intro h
      cases h with
      | @cons _ m' _ later hhead hlater =>
        obtain ⟨name', draft⟩ := m'
        obtain ⟨rfl, hdraft⟩ := hhead
        exact ⟨draft, hdraft, later, hlater, rfl⟩

theorem readEntries_eq_ok_iff {v : Json} {entries : List (String × EntryDraft)} :
    readEntries v.document = .ok entries ↔
      ∃ members, v = .object members ∧ Entrywise Drafted members entries := by
  cases v with
  | object members =>
    simp [Json.document, readEntries, RecordField.ifClosed, bind_eq_ok_iff, readMembers_eq_ok_iff]
  | null | bool _ | number _ | string _ | array _ => simp [Json.document, readEntries]

/-- What is read for the commands of a table, whether there are any or not. -/
theorem entrywise_commandsOf {v : Json} {draft : Draft}
    (h : RecordField.read (tableParts.map RecordPart.field) {} v.document = .ok draft) :
    Entrywise Drafted (commandsOf v) draft.entries := by
  have hcommands := (lawful_tableParts.read_eq_ok_iff.mp h).2 commandsPart (by simp [tableParts])
  unfold commandsOf
  change ((v.field? tableNames "commands").map Json.document).elim (.ok []) readEntries =
    .ok draft.entries at hcommands
  cases hfield : v.field? tableNames "commands" with
  | none =>
    rw [hfield] at hcommands
    rw [← Except.ok.inj hcommands]
    exact .nil
  | some value =>
    rw [hfield] at hcommands
    obtain ⟨members, rfl, hentries⟩ := readEntries_eq_ok_iff.mp hcommands
    exact hentries

/-- **The first pass**: a text is read exactly if it does not go too deep, is the record of a table
and gives the table a name. -/
theorem readDraft_eq_ok_iff {v : Json} {text : String} {draft : Draft} (h : Written v text) :
    readDraft text = .ok draft ↔
      v.depth ≤ Document.maxDepth ∧
        RecordField.read (tableParts.map RecordPart.field) {} v.document = .ok draft ∧
        draft.name.isSome := by
  by_cases hdepth : v.depth ≤ Document.maxDepth
  · simp only [readDraft, Document.ofText_written h hdepth, fields_eq, bind_eq_ok_iff,
      Bool.and_true, hdepth, true_and]
    constructor
    · rintro ⟨d, hread, hname⟩
      split at hname
      · rename_i hsome
        cases hname
        exact ⟨hread, hsome⟩
      · cases hname
    · rintro ⟨hread, hname⟩
      refine ⟨draft, hread, ?_⟩
      rw [if_pos hname]
      rfl
  · obtain ⟨d, hd⟩ := Document.ofText_deep h (Nat.lt_of_not_le hdepth)
    simp [readDraft, hd, bind_eq_ok_iff, hdepth]

theorem parse_eq_ok_iff {text : String} {table : CommandTable} :
    parse text = .ok table ↔ ∃ draft, readDraft text = .ok draft ∧ complete draft = .ok table := by
  rw [parse, bind_eq_ok_iff]
  cases readDraft text with
  | ok draft => simp [Except.mapError]
  | error fault => simp [Except.mapError]

theorem parse_of_read {v : Json} {text : String} {draft : Draft} {table : CommandTable}
    (h : Written v text) (hdepth : v.depth ≤ Document.maxDepth)
    (hread : RecordField.read fields {} v.document = .ok draft) (hname : draft.name.isSome)
    (hcomplete : complete draft = .ok table) : parse text = .ok table := by
  rw [fields_eq] at hread
  exact parse_eq_ok_iff.mpr
    ⟨draft, (readDraft_eq_ok_iff h).mpr ⟨hdepth, hread, hname⟩, hcomplete⟩

/-- What is refused in the first pass is not well written. -/
theorem parse_of_not_read {text : String} (h : ∀ draft, readDraft text ≠ .ok draft) :
    ∃ fault, parse text = .error (.table fault) := by
  cases hdraft : readDraft text with
  | ok draft => exact absurd hdraft (h draft)
  | error fault =>
    refine ⟨fault, ?_⟩
    rw [parse, hdraft]
    rfl

/-! ## What is made of it -/

/-- An entry, once its timeout and its payload are known. -/
def EntryDraft.completed (draft : EntryDraft) (sensor : Nat) (timeout : Duration)
    (data : Option Bytes) : CommandEntry :=
  { command := UInt8.ofNat (draft.command.getD 0)
    sensor := UInt16.ofNat (draft.sensor.getD sensor)
    timeout
    hasUplink := draft.hasUplink
    uplinkSensor := UInt16.ofNat (draft.uplinkSensor.getD (draft.sensor.getD sensor))
    requiresData := draft.requiresData
    data
    expectsResponse := draft.expectsResponse
    order := (draft.order.map UInt16.ofNat).getD fixedOrder
    kind := draft.kind
    description := draft.description }

/-- The second pass only looks at the timeout and the payload. The numbers of an entry were settled
in the first one. -/
theorem completeEntry_eq_ok_iff {name : String} {sensor : Nat} {draft : EntryDraft}
    {entry : CommandEntry} :
    completeEntry name sensor draft = .ok entry ↔ ∃ timeout data,
      completeTimeout name draft.timeout = .ok timeout ∧ completeData name draft.data = .ok data ∧
        entry = draft.completed sensor timeout data := by
  simp only [completeEntry, bind_eq_ok_iff]
  constructor
  · rintro ⟨timeout, htimeout, data, hdata, hentry⟩
    cases hentry
    exact ⟨timeout, data, htimeout, hdata, rfl⟩
  · rintro ⟨timeout, data, htimeout, hdata, rfl⟩
    exact ⟨timeout, htimeout, data, hdata, rfl⟩

/-- What is written for the timeout and the payload says something. -/
def EntryDraft.Completable (name : String) (draft : EntryDraft) : Prop :=
  (∃ timeout, completeTimeout name draft.timeout = .ok timeout) ∧
    ∃ data, completeData name draft.data = .ok data

theorem exists_completeEntry_iff {name : String} {sensor : Nat} {draft : EntryDraft} :
    (∃ entry, completeEntry name sensor draft = .ok entry) ↔ draft.Completable name := by
  simp only [completeEntry_eq_ok_iff, EntryDraft.Completable]
  constructor
  · rintro ⟨_, timeout, data, htimeout, hdata, -⟩
    exact ⟨⟨timeout, htimeout⟩, data, hdata⟩
  · rintro ⟨⟨timeout, htimeout⟩, data, hdata⟩
    exact ⟨_, timeout, data, htimeout, hdata, rfl⟩

/-- A draft is completed as an entry. -/
def Completed (sensor : Nat) (name : String) (draft : EntryDraft) (entry : CommandEntry) : Prop :=
  completeEntry name sensor draft = .ok entry

theorem completeEntries_eq_ok_iff {sensor : Nat} {drafts : List (String × EntryDraft)}
    {entries : List (String × CommandEntry)} :
    completeEntries sensor drafts = .ok entries ↔ Entrywise (Completed sensor) drafts entries := by
  induction drafts generalizing entries with
  | nil => simp [completeEntries, Entrywise, eq_comm]
  | cons m rest ih =>
    obtain ⟨name, draft⟩ := m
    simp only [completeEntries, bind_eq_ok_iff, ih]
    constructor
    · rintro ⟨entry, hentry, later, hlater, hentries⟩
      cases hentries
      exact .cons ⟨rfl, hentry⟩ hlater
    · intro h
      cases h with
      | @cons _ m' _ later hhead hlater =>
        obtain ⟨name', entry⟩ := m'
        obtain ⟨rfl, hentry⟩ := hhead
        exact ⟨entry, hentry, later, hlater, rfl⟩

/-- Where one entry alone cannot be completed, that is what is said. -/
theorem completeEntries_eq_error {sensor : Nat} {name : String} {draft : EntryDraft} {error : Error}
    (herror : completeEntry name sensor draft = .error error)
    {drafts : List (String × EntryDraft)} (hnodup : (keys drafts).Nodup)
    (hmem : (name, draft) ∈ drafts)
    (hothers : ∀ m ∈ drafts, m.1 ≠ name → m.2.Completable m.1) :
    completeEntries sensor drafts = .error error := by
  induction drafts with
  | nil => cases hmem
  | cons m rest ih =>
    obtain ⟨key, other⟩ := m
    obtain ⟨hfresh, hnodup⟩ := List.nodup_cons.mp hnodup
    rw [completeEntries]
    rcases List.mem_cons.mp hmem with heq | hlater
    · cases heq
      rw [herror]
      rfl
    · have hne : key ≠ name := by
        rintro rfl
        exact hfresh (Json.mem_keys_of_mem hlater)
      obtain ⟨entry, hentry⟩ := exists_completeEntry_iff.mpr (hothers _ (.head _) hne)
      rw [hentry, ih hnodup hlater fun m hm => hothers m (.tail _ hm)]
      rfl

/-- The entries are sorted before they are completed, and of two with one name the later is left. -/
theorem complete_eq_ok_iff {draft : Draft} {table : CommandTable} :
    complete draft = .ok table ↔ ∃ entries,
      Entrywise (Completed draft.sensor) (Json.sortMembers draft.entries) entries ∧
      table = ⟨draft.name.getD "", UInt16.ofNat draft.sensor, draft.description, entries⟩ := by
  simp only [complete, bind_eq_ok_iff, completeEntries_eq_ok_iff]
  apply exists_congr
  intro entries
  apply and_congr_right
  intro _
  exact ⟨fun h => (Except.ok.inj h).symm, fun h => congrArg Except.ok h.symm⟩

/-- **The second pass** can only fail for the timeout or the payload of an entry that counts. -/
theorem exists_complete_iff {draft : Draft} :
    (∃ table, complete draft = .ok table) ↔
      ∀ name entryDraft, member? name draft.entries.reverse = some entryDraft →
        entryDraft.Completable name := by
  simp only [← Json.member?_sortMembers, complete_eq_ok_iff]
  have hnodup := (Json.ascending_sortMembers draft.entries).nodup
  constructor
  · rintro ⟨_, entries, hentries, -⟩ name entryDraft hfound
    have hrel := hentries.rel_member? name
    rw [hfound] at hrel
    generalize member? name entries = found at hrel
    cases hrel with
    | some hentry => exact exists_completeEntry_iff.mp ⟨_, hentry⟩
  · intro h
    -- An entry is completed by itself, so any list of drafts will do for the sorted one.
    suffices hall : ∀ drafts : List (String × EntryDraft),
        (∀ m ∈ drafts, m.2.Completable m.1) →
          ∃ entries, Entrywise (Completed draft.sensor) drafts entries by
      obtain ⟨entries, hentries⟩ := hall (Json.sortMembers draft.entries) fun m hm =>
        h m.1 m.2 ((Json.member?_eq_some_iff_mem hnodup).mpr hm)
      exact ⟨_, entries, hentries, rfl⟩
    intro drafts hdrafts
    induction drafts with
    | nil => exact ⟨[], .nil⟩
    | cons m rest ih =>
      obtain ⟨entry, hentry⟩ := exists_completeEntry_iff.mpr (hdrafts m (.head _))
      obtain ⟨entries, hentries⟩ := ih fun m' hm' => hdrafts m' (.tail _ hm')
      exact ⟨(m.1, entry) :: entries, .cons ⟨rfl, hentry⟩ hentries⟩

/-- A table holds the entries that count, completed, and nothing else. -/
theorem rel_command? {draft : Draft} {table : CommandTable} (h : complete draft = .ok table)
    (name : String) :
    Option.Rel (Completed draft.sensor name) (member? name draft.entries.reverse)
      (table.command? name) := by
  obtain ⟨entries, hentries, rfl⟩ := complete_eq_ok_iff.mp h
  rw [← Json.member?_sortMembers]
  exact hentries.rel_member? name

/-- Completing an entry changes neither its name nor its place. -/
theorem commandNames_of_complete {draft : Draft} {table : CommandTable}
    (h : complete draft = .ok table) :
    table.commandNames = keys (Json.sortMembers draft.entries) := by
  obtain ⟨entries, hentries, rfl⟩ := complete_eq_ok_iff.mp h
  exact hentries.keys_eq.symm

end CommandTable
end SensorLink
