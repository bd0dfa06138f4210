import SensorLink.Proofs.CommandTable.Number
import SensorLink.Proofs.Json.Arrangement
import SensorLink.Proofs.Text.Payload

/-!
# What a table means

The order in which a table is written says nothing. Its own fields, its commands and their fields
may stand in any order, and a number that commands share may come after the commands that share it:
every reader takes a value and its arrangements for the same (`Respects`), and the commands, which
are read in the order of the text, are put into that of their names before anything is made of them.

> **A table that is read is read from each of its arrangements; it has the commands of its text; and
> a number that a command does not give is the one that stands for it** (`meaning_of_text`).

There is no part of a table. One entry that says nothing is enough for there to be none, wherever it
stands and whatever the others say: an entry that cannot be read (`Illegible`), or one with a
timeout or a payload that is none (`Unfit`). The second sort is only looked for in the entries that
count, so it takes names that are not repeated.
-/

namespace SensorLink

open Json (Document keys member? Entrywise Written Rearranged RearrangedMembers)

namespace Json

variable {names : List String} {v w : Json}

/-! ## Records -/

/-- An array is read like a record whose names stand in the order of its items. -/
theorem entrywise_zip (names : List String) {items others : List Json}
    (h : List.Forall₂ Rearranged items others) :
    Entrywise (fun _ => Rearranged) (names.zip items) (names.zip others) := by
  induction names generalizing items others with
  | nil => exact .nil
  | cons name names ih =>
    cases h with
    | nil => exact .nil
    | cons hitem hrest => exact .cons ⟨rfl, hitem⟩ (ih hrest)

theorem rearrangedMembers_fieldsOf (names : List String) (h : Rearranged v w) :
    RearrangedMembers (v.fieldsOf names) (w.fieldsOf names) := by
  cases v with
  | object members =>
    obtain ⟨others, rfl, hothers⟩ := h.exists_members
    exact hothers
  | array items =>
    obtain ⟨others, rfl, hothers⟩ := h.exists_items
    exact ⟨_, entrywise_zip names hothers, .refl _⟩
  | null | bool _ | number _ | string _ =>
    obtain rfl := h.eq_of_flat rfl
    exact ⟨_, .nil, .refl _⟩

/-- What is a record in one arrangement is one in every other. -/
theorem IsRecord.rearranged (hv : v.IsRecord names) (h : Rearranged v w) : w.IsRecord names := by
  cases v with
  | object members =>
    obtain ⟨others, rfl, hothers⟩ := h.exists_members
    have hkeys := hothers.keys_perm
    exact ⟨hkeys.nodup_iff.mp hv.1, fun key hkey => hv.2 key (hkeys.mem_iff.mpr hkey)⟩
  | array items =>
    obtain ⟨others, rfl, hothers⟩ := h.exists_items
    show others.length ≤ names.length
    rw [← hothers.length_eq]
    exact hv
  | null | bool _ | number _ | string _ => exact hv.elim

/-- **A record has the same fields in every arrangement**, each in some arrangement of its own. It
takes different names, since of two equal ones the order would decide. -/
theorem IsRecord.rel_field? (hnames : names.Nodup) (hv : v.IsRecord names) (h : Rearranged v w)
    (key : String) : Option.Rel Rearranged (v.field? names key) (w.field? names key) :=
  (rearrangedMembers_fieldsOf names h).rel_member? (hv.nodup hnames) key

end Json

namespace CommandTable

variable {α : Type} {read : Document → Except TableFault α} {v w : Json}

/-! ## Readers that do not look at the order -/

/-- A value and its arrangements are read as the same. -/
def Respects (read : Document → Except TableFault α) : Prop :=
  ∀ v w a, Rearranged v w → read v.document = .ok a → read w.document = .ok a

/-- A reader that accepts neither arrays nor objects has nothing to be confused by: such values have
no other arrangement. -/
theorem respects_of_flat (harray : ∀ items closed a, read (.array items closed) ≠ .ok a)
    (hobject : ∀ members closed a, read (.object members closed) ≠ .ok a) : Respects read := by
  intro v w a h hread
  suffices hflat : v.depth = 0 by rwa [h.eq_of_flat hflat]
  cases v with
  | array items => exact absurd hread (harray _ _ _)
  | object members => exact absurd hread (hobject _ _ _)
  | null | bool _ | number _ | string _ => rfl

theorem respects_readNumber (limit : Nat) : Respects (readNumber limit) :=
  respects_of_flat (fun _ _ _ => nofun) (fun _ _ _ => nofun)

theorem respects_readText : Respects readText :=
  respects_of_flat (fun _ _ _ => nofun) (fun _ _ _ => nofun)

theorem respects_readFlag : Respects readFlag :=
  respects_of_flat (fun _ _ _ => nofun) (fun _ _ _ => nofun)

theorem respects_readSeconds : Respects readSeconds :=
  respects_of_flat (fun _ _ _ => nofun) (fun _ _ _ => nofun)

theorem Respects.some (h : Respects read) : Respects fun v => Option.some <$> read v := by
  intro v w a hvw hread
  cases hv : read v.document with
  | error fault =>
    simp only [hv] at hread
    cases hread
  | ok b =>
    simp only [hv] at hread
    simp only [h v w b hvw hv, hread]

theorem Respects.optional (h : Respects read) : Respects (readOptional read) := by
  intro v w a hvw hread
  rcases readOptional_eq_ok_iff.mp hread with ⟨rfl, rfl⟩ | ⟨hne, b, hb, rfl⟩
  · rwa [hvw.eq_of_flat rfl]
  · refine readOptional_eq_ok_iff.mpr (.inr ⟨?_, b, h v w b hvw hb, rfl⟩)
    rintro rfl
    exact hne (hvw.eq_of_flat hvw.depth_eq).symm

/-- A kind is written as a word, or as an object with that word alone; an object of one member has
one order. -/
theorem flat_of_readKind {kind : CommandKind} (h : readKind v.document = .ok kind) :
    v.depth = 0 ∨ ∃ key, v = .object [(key, .null)] := by
  match v with
  | .null | .bool _ | .number _ | .string _ => exact .inl rfl
  | .array items => cases h
  | .object [] => cases h
  | .object [(key, .null)] => exact .inr ⟨key, rfl⟩
  | .object [(key, .bool _)] | .object [(key, .number _)] | .object [(key, .string _)]
  | .object [(key, .array _)] | .object [(key, .object _)] => cases h
  | .object ((key, value) :: (key', value') :: rest) =>
    simp [Json.document, Json.memberDocuments, readKind] at h

/-- A kind that is written as an object has one member, and there is nothing to rearrange. -/
theorem respects_readKind : Respects readKind := by
  intro v w a hvw hread
  suffices hsame : w = v by rwa [hsame]
  rcases flat_of_readKind hread with hflat | ⟨key, rfl⟩
  · exact hvw.eq_of_flat hflat
  · obtain ⟨others, rfl, middle, hmiddle, hperm⟩ := hvw.exists_members
    cases hmiddle with
    | @cons _ m _ _ hhead hnil =>
      cases hnil
      obtain ⟨_, x⟩ := m
      obtain ⟨rfl, hx⟩ := hhead
      obtain rfl := List.singleton_perm.mp hperm
      obtain rfl : x = .null := hx.eq_of_flat rfl
      rfl

/-- Every reader of a field respects arrangements, so the reader of the entry does. -/
theorem respects_entryParts : ∀ p ∈ entryParts, Respects p.read := by
  simp only [entryParts, List.forall_mem_cons, NumberField.part, timeoutPart, dataPart]
  have hnumber (f : NumberField) := (respects_readNumber f.limit).some
  exact ⟨hnumber _, hnumber _, respects_readSeconds.optional, respects_readFlag, hnumber _,
    respects_readFlag, respects_readText.optional, respects_readFlag, hnumber _, respects_readKind,
    respects_readText.optional, fun _ h => absurd h List.not_mem_nil⟩

theorem Respects.elim (h : Respects read) {a b : α} {found found' : Option Json}
    (hfound : Option.Rel Rearranged found found')
    (hread : (found.map Json.document).elim (.ok a) read = .ok b) :
    (found'.map Json.document).elim (.ok a) read = .ok b := by
  cases hfound with
  | none => exact hread
  | some hvw => exact h _ _ b hvw hread

theorem respects_readEntry : Respects readEntry := by
  intro v w draft hvw hread
  obtain ⟨hrecord, hcommand⟩ := readEntry_eq_ok_iff.mp hread
  obtain ⟨hshape, hfilled⟩ := lawful_entryParts.read_eq_ok_iff.mp hrecord
  refine readEntry_eq_ok_iff.mpr ⟨?_, hcommand⟩
  refine lawful_entryParts.read_eq_ok_iff.mpr ⟨hshape.rearranged hvw, ?_⟩
  intro p hp
  have hrel := hshape.rel_field? lawful_entryParts.nodup hvw p.name
  exact (respects_entryParts p hp).elim hrel (hfilled p hp)

/-! ## Reading a table from another arrangement -/

theorem readEntries_rearranged {entries : List (String × EntryDraft)} (hvw : Rearranged v w)
    (hread : readEntries v.document = .ok entries) :
    ∃ entries', readEntries w.document = .ok entries' ∧ entries.Perm entries' := by
  obtain ⟨members, rfl, hdrafted⟩ := readEntries_eq_ok_iff.mp hread
  obtain ⟨others, rfl, middle, hmiddle, hperm⟩ := hvw.exists_members
  have hdrafted' : Entrywise Drafted middle entries :=
    hmiddle.flip.comp (fun _ e e' draft (h : Rearranged e' e) hdraft =>
      respects_readEntry e' e draft h hdraft) hdrafted
  obtain ⟨entries', hentries', hperm'⟩ : ∃ entries', Entrywise Drafted others entries' ∧
      entries'.Perm entries := List.perm_comp_forall₂ hperm.symm hdrafted'
  exact ⟨entries', readEntries_eq_ok_iff.mpr ⟨others, rfl, hentries'⟩, hperm'.symm⟩

/-- The first pass keeps the order of the text in one place only, the list of entries. -/
theorem readDraft_rearranged {text text' : String} {draft : Draft} (hvw : Rearranged v w)
    (h : Written v text) (h' : Written w text') (hread : readDraft text = .ok draft) :
    ∃ entries, draft.entries.Perm entries ∧ readDraft text' = .ok { draft with entries } := by
  obtain ⟨hdepth, hrecord, hname⟩ := (readDraft_eq_ok_iff h).mp hread
  obtain ⟨hshape, hfilled⟩ := lawful_tableParts.read_eq_ok_iff.mp hrecord
  have hrel (key : String) := hshape.rel_field? lawful_tableParts.nodup hvw key
  simp only [RecordPart.Filled, tableParts, List.forall_mem_cons] at hfilled
  obtain ⟨hfname, hfsensor, hfdescription, hfcommands, -⟩ := hfilled
  -- Only the part for the commands holds something else, and that only in another order.
  obtain ⟨entries, hperm, hentries⟩ : ∃ entries, draft.entries.Perm entries ∧
      ((w.field? tableNames "commands").map Json.document).elim (.ok []) readEntries =
        .ok entries := by
    have hrel := hrel "commands"
    change ((v.field? tableNames "commands").map Json.document).elim (.ok []) readEntries =
      .ok draft.entries at hfcommands
    change Option.Rel Rearranged (v.field? tableNames "commands") (w.field? tableNames "commands")
      at hrel
    generalize v.field? tableNames "commands" = found at hrel hfcommands
    generalize w.field? tableNames "commands" = found' at hrel
    cases hrel with
    | none => exact ⟨_, .refl _, hfcommands⟩
    | some hvw =>
      obtain ⟨entries, hentries, hperm⟩ := readEntries_rearranged hvw hfcommands
      exact ⟨entries, hperm, hentries⟩
  refine ⟨entries, hperm, (readDraft_eq_ok_iff h').mpr ⟨?_, ?_, hname⟩⟩
  · rw [← hvw.depth_eq]
    exact hdepth
  · refine lawful_tableParts.read_eq_ok_iff.mpr ⟨hshape.rearranged hvw, ?_⟩
    simp only [RecordPart.Filled, tableParts, List.forall_mem_cons]
    exact ⟨respects_readText.some.elim (hrel _) hfname,
      (respects_readNumber _).elim (hrel _) hfsensor,
      respects_readText.optional.elim (hrel _) hfdescription, hentries,
      fun _ h => absurd h List.not_mem_nil⟩

theorem keys_entries {text : String} {draft : Draft} (h : Written v text)
    (hread : readDraft text = .ok draft) : keys (commandsOf v) = keys draft.entries :=
  (entrywise_commandsOf ((readDraft_eq_ok_iff h).mp hread).2.1).keys_eq

/-- Entries are put into the order of their names before anything is made of them. -/
theorem parse_rearranged {text text' : String} {table : CommandTable}
    (hnodup : (keys (commandsOf v)).Nodup) (hvw : Rearranged v w) (h : Written v text)
    (h' : Written w text') (hparse : parse text = .ok table) : parse text' = .ok table := by
  obtain ⟨draft, hread, hcomplete⟩ := parse_eq_ok_iff.mp hparse
  obtain ⟨entries, hperm, hread'⟩ := readDraft_rearranged hvw h h' hread
  refine parse_eq_ok_iff.mpr ⟨_, hread', ?_⟩
  rw [keys_entries h hread] at hnodup
  rw [← hcomplete, complete, complete, Json.sortMembers_perm hnodup hperm]

/-! ## Numbers that are not given -/

/-- The number is the one that is written, or the one that stands for it. -/
def Given (written : Option Json) (otherwise n : Nat) : Prop :=
  match written with
  | some x => Numeral x n
  | none => n = otherwise

/-- The numbers of an entry that need not be written. -/
structure Inherits (table : CommandTable) (e : Json) (entry : CommandEntry) : Prop where
  sensor : Given (e.field? entryNames "sensor_id") table.sensor.toNat entry.sensor.toNat
  uplinkSensor :
    Given (e.field? entryNames "uplink_sensor_id") entry.sensor.toNat entry.uplinkSensor.toNat
  order : Given (e.field? entryNames "order") 0xFFFF entry.order.toNat

/-- A number that is read is the one that is written, and within the limit of its field. -/
theorem given_of_read {limit otherwise n : Nat} (hlimit : limit ≤ 2 ^ 64) (h : otherwise < limit)
    {found : Option Json}
    (hread : (found.map Json.document).elim (.ok otherwise) (readNumber limit) = .ok n) :
    Given found otherwise n ∧ n < limit := by
  cases found with
  | none =>
    obtain rfl := Except.ok.inj hread
    exact ⟨rfl, h⟩
  | some x => exact (readNumber_eq_ok_iff hlimit).mp hread

theorem given_sensor {draft : Draft}
    (h : RecordField.read (tableParts.map RecordPart.field) {} v.document = .ok draft) :
    Given (v.field? tableNames "sensor_id") 0 draft.sensor ∧ draft.sensor < 2 ^ 16 := by
  apply given_of_read (by decide) (by decide)
  exact (lawful_tableParts.read_eq_ok_iff.mp h).2 sensorPart (by simp [tableParts])

theorem Drafted.given {name : String} {e : Json} {draft : EntryDraft} (h : Drafted name e draft)
    (f : NumberField) {otherwise : Nat} (hotherwise : otherwise < f.limit) :
    Given (e.field? entryNames f.name) otherwise ((f.get draft).getD otherwise) ∧
      (f.get draft).getD otherwise < f.limit := by
  apply given_of_read f.limit_le hotherwise
  cases hfield : e.field? entryNames f.name with
  | none =>
    have habsent : f.get draft = f.get {} := h.get_of_absent f.part_mem hfield
    have hnone : f.get {} = none := by cases f <;> rfl
    rw [habsent, hnone]
    rfl
  | some x =>
    have hread := h.read_part f.part_mem hfield
    obtain ⟨n, hn, hget⟩ : ∃ n, readNumber f.limit x.document = .ok n ∧ f.get draft = some n :=
      NumberField.read_part_eq_ok_iff.mp hread
    rw [hget]
    exact hn

/-- What the second pass puts in place of a number that is missing is the number of the table, or
that of the entry itself, or `0xFFFF` for the order. -/
theorem Drafted.inherits {name : String} {e : Json} {draft : EntryDraft} (h : Drafted name e draft)
    {table : CommandTable} {entry : CommandEntry}
    (hentry : Completed table.sensor.toNat name draft entry) : Inherits table e entry := by
  obtain ⟨timeout, data, -, -, rfl⟩ := completeEntry_eq_ok_iff.mp hentry
  -- The sensor comes first, as the uplink sensor falls back on it. The order has a default of its own.
  obtain ⟨hsensor, hsmall⟩ := h.given .sensor table.sensor.toNat_lt
  have hown : (draft.completed table.sensor.toNat timeout data).sensor.toNat =
      draft.sensor.getD table.sensor.toNat := UInt16.toNat_ofNat_of_lt' hsmall
  obtain ⟨huplink, hsmall'⟩ := h.given .uplinkSensor hsmall
  have hlistened : (draft.completed table.sensor.toNat timeout data).uplinkSensor.toNat =
      draft.uplinkSensor.getD (draft.sensor.getD table.sensor.toNat) :=
    UInt16.toNat_ofNat_of_lt' hsmall'
  have hfixed : (0xFFFF : Nat) < NumberField.order.limit := by decide
  obtain ⟨horder, hsmall''⟩ := h.given .order hfixed
  have hplace : (draft.completed table.sensor.toNat timeout data).order.toNat =
      draft.order.getD 0xFFFF := by
    show ((draft.order.map UInt16.ofNat).getD fixedOrder).toNat = _
    change draft.order.getD 0xFFFF < 2 ^ 16 at hsmall''
    cases hcase : draft.order with
    | none => rfl
    | some n =>
      rw [hcase] at hsmall''
      exact UInt16.toNat_ofNat_of_lt' hsmall''
  refine ⟨?_, ?_, ?_⟩
  · rw [hown]
    exact hsensor
  · rw [hlistened, hown]
    exact huplink
  · rw [hplace]
    exact horder

/-! ## Entries that say nothing -/

/-- An entry that cannot be read. -/
inductive Illegible : Json → Prop
  | unknownField {members : List (String × Json)} {key : String} (hkey : key ∈ keys members)
      (hunknown : key ∉ entryNames) : Illegible (.object members)
  | noCommand {e : Json} (h : e.field? entryNames "cmd" = none) : Illegible e
  | number {e x : Json} (f : NumberField) (hx : e.field? entryNames f.name = some x)
      (h : ∀ n, Numeral x n → f.limit ≤ n) : Illegible e

/-- An entry with a timeout that is no span of time, or a payload that is not one. -/
inductive Unfit : Json → Prop
  | timeout {e x : Json} (hx : e.field? entryNames "timeout" = some x) (hgiven : x ≠ .null)
      (h : ∀ seconds span, readSeconds x.document = .ok seconds →
        Duration.ofSeconds seconds ≠ .ok span) : Unfit e
  | data {e x : Json} (hx : e.field? entryNames "data" = some x) (hgiven : x ≠ .null)
      (h : ∀ text bytes, x = .string text → ¬ Text.Renders text bytes) : Unfit e

theorem Illegible.not_drafted {name : String} {e : Json} {draft : EntryDraft} (h : Illegible e) :
    ¬ Drafted name e draft := by
  intro hdraft
  obtain ⟨hrecord, hcommand⟩ := readEntry_eq_ok_iff.mp hdraft
  cases h with
  | unknownField hkey hunknown =>
    exact hunknown ((lawful_entryParts.read_eq_ok_iff.mp hrecord).1.2 _ hkey)
  | noCommand hnone =>
    have hget : draft.command = none := hdraft.get_of_absent (NumberField.part_mem .command) hnone
    rw [hget] at hcommand
    cases hcommand
  | number f hx hlarge =>
    obtain ⟨n, hn, -⟩ := NumberField.read_part_eq_ok_iff.mp (hdraft.read_part f.part_mem hx)
    obtain ⟨hnumeral, hsmall⟩ := (readNumber_eq_ok_iff f.limit_le).mp hn
    exact absurd hsmall (Nat.not_lt.mpr (hlarge n hnumeral))

theorem Unfit.not_completable {name : String} {e : Json} {draft : EntryDraft} (h : Unfit e)
    (hdraft : Drafted name e draft) : ¬ draft.Completable name := by
  rintro ⟨⟨span, hspan⟩, bytes, hbytes⟩
  cases h with
  | timeout hx hgiven hnone =>
    have hread := hdraft.read_part (p := timeoutPart) (by simp [entryParts]) hx
    obtain ⟨hnull, -⟩ | ⟨-, seconds, hseconds, htimeout⟩ := readOptional_eq_ok_iff.mp hread
    · exact hgiven hnull
    · change draft.timeout = some seconds at htimeout
      rw [htimeout, completeTimeout] at hspan
      cases hof : Duration.ofSeconds seconds with
      | ok span => exact hnone seconds span hseconds hof
      | error fault =>
        rw [hof] at hspan
        cases hspan
  | data hx hgiven hnone =>
    have hread := hdraft.read_part (p := dataPart) (by simp [entryParts]) hx
    obtain ⟨hnull, -⟩ | ⟨-, text, htext, hdata⟩ := readOptional_eq_ok_iff.mp hread
    · exact hgiven hnull
    · change draft.data = some text at hdata
      rw [hdata, completeData] at hbytes
      cases hof : payloadOfText text with
      | ok payload =>
        exact hnone text payload (readText_eq_ok_iff.mp htext) (payloadOfText_eq_ok_iff.mp hof)
      | error fault =>
        rw [hof] at hbytes
        cases hbytes

/-- Each entry of a text that is read has a draft, and where no name is repeated they all count. -/
theorem exists_drafted {text : String} {draft : Draft} {name : String} {e : Json}
    (h : Written v text) (hread : readDraft text = .ok draft) (hmem : (name, e) ∈ commandsOf v) :
    ∃ entryDraft, Drafted name e entryDraft ∧ ((keys (commandsOf v)).Nodup →
      member? name draft.entries.reverse = some entryDraft) := by
  have hdrafted := entrywise_commandsOf ((readDraft_eq_ok_iff h).mp hread).2.1
  have hkeys := keys_entries h hread
  obtain ⟨before, after, hsplit⟩ := List.append_of_mem hmem
  rw [hsplit] at hdrafted
  obtain ⟨front, entryDraft, back, hentries, -, hdraft, -⟩ :=
    Json.entrywise_append_cons_iff.mp hdrafted
  refine ⟨entryDraft, hdraft, fun hnodup => ?_⟩
  have hnodup' : (keys draft.entries.reverse).Nodup := by
    rw [Json.nodup_keys_perm (List.reverse_perm _), ← hkeys]
    exact hnodup
  rw [Json.member?_eq_some_iff_mem hnodup', List.mem_reverse, hentries]
  exact List.mem_append_right _ (.head _)

/-- A text with such an entry is no table: the first sort is not read, the second not completed. -/
theorem parse_faulty {text : String} {name : String} {e : Json} (h : Written v text)
    (hmem : (name, e) ∈ commandsOf v)
    (hfaulty : Illegible e ∨ (keys (commandsOf v)).Nodup ∧ Unfit e) :
    ∃ error, parse text = .error error := by
  cases hparse : parse text with
  | error error => exact ⟨error, rfl⟩
  | ok table =>
    obtain ⟨draft, hread, hcomplete⟩ := parse_eq_ok_iff.mp hparse
    obtain ⟨entryDraft, hdraft, hcounts⟩ := exists_drafted h hread hmem
    rcases hfaulty with hillegible | ⟨hnodup, hunfit⟩
    · exact absurd hdraft hillegible.not_drafted
    · have hall := exists_complete_iff.mp ⟨table, hcomplete⟩
      exact absurd (hall name entryDraft (hcounts hnodup)) (hunfit.not_completable hdraft)

/-! ## The meaning of a text -/

theorem commandNames_perm {text : String} {table : CommandTable}
    (hnodup : (keys (commandsOf v)).Nodup) (h : Written v text) (hparse : parse text = .ok table) :
    table.commandNames.Perm (keys (commandsOf v)) := by
  obtain ⟨draft, hread, hcomplete⟩ := parse_eq_ok_iff.mp hparse
  rw [commandNames_of_complete hcomplete]
  refine (List.perm_ext_iff_of_nodup (Json.ascending_sortMembers _).nodup hnodup).mpr ?_
  intro name
  rw [Json.mem_keys_sortMembers, keys_entries h hread]

theorem sensor_given {text : String} {draft : Draft} {table : CommandTable} (h : Written v text)
    (hread : readDraft text = .ok draft) (hcomplete : complete draft = .ok table) :
    Given (v.field? tableNames "sensor_id") 0 table.sensor.toNat ∧
      table.sensor.toNat = draft.sensor := by
  obtain ⟨hgiven, hsmall⟩ := given_sensor ((readDraft_eq_ok_iff h).mp hread).2.1
  obtain ⟨entries, -, rfl⟩ := complete_eq_ok_iff.mp hcomplete
  have hsame : (UInt16.ofNat draft.sensor).toNat = draft.sensor := UInt16.toNat_ofNat_of_lt' hsmall
  show Given _ 0 (UInt16.ofNat draft.sensor).toNat ∧ _
  rw [hsame]
  exact ⟨hgiven, rfl⟩

/-- A command of the text is found in the table under its name. -/
theorem command?_inherits {text : String} {table : CommandTable} {name : String} {e : Json}
    (hnodup : (keys (commandsOf v)).Nodup) (h : Written v text) (hparse : parse text = .ok table)
    (hmem : (name, e) ∈ commandsOf v) :
    ∃ entry, table.command? name = some entry ∧ Inherits table e entry := by
  obtain ⟨draft, hread, hcomplete⟩ := parse_eq_ok_iff.mp hparse
  obtain ⟨entryDraft, hdraft, hcounts⟩ := exists_drafted h hread hmem
  have hrel := rel_command? hcomplete name
  rw [hcounts hnodup, ← (sensor_given h hread hcomplete).2] at hrel
  generalize table.command? name = found at hrel ⊢
  cases hrel with
  | some hentry => exact ⟨_, rfl, hdraft.inherits hentry⟩

/-- **A table means the same in each of its arrangements, has the commands of its text with what
they do not give, and is there as a whole or not at all.** -/
theorem meaning_of_text {text : String} (h : Written v text) :
    (∀ table, parse text = .ok table → (keys (commandsOf v)).Nodup →
      (∀ w text', Rearranged v w → Written w text' → parse text' = .ok table) ∧
      table.commandNames.Perm (keys (commandsOf v)) ∧
      Given (v.field? tableNames "sensor_id") 0 table.sensor.toNat ∧
      ∀ name e, (name, e) ∈ commandsOf v →
        ∃ entry, table.command? name = some entry ∧ Inherits table e entry) ∧
    ∀ name e, (name, e) ∈ commandsOf v →
      Illegible e ∨ (keys (commandsOf v)).Nodup ∧ Unfit e → ∃ error, parse text = .error error := by
  constructor
  · intro table hparse hnodup
    obtain ⟨draft, hread, hcomplete⟩ := parse_eq_ok_iff.mp hparse
    exact ⟨fun w text' hvw h' => parse_rearranged hnodup hvw h h' hparse,
      commandNames_perm hnodup h hparse, (sensor_given h hread hcomplete).1,
      fun name e hmem => command?_inherits hnodup h hparse hmem⟩
  · intro name e hmem hfaulty
    exact parse_faulty h hmem hfaulty

/-- The number that commands share stands behind them, and before them in another arrangement of the
text, with a blank in front. -/
theorem meaning_of_shared_sensor :
    let rest := "\"name\":\"x\",\"commands\":\x7b\"a\":\x7b\"cmd\":1\x7d\x7d"
    let behind := "\x7b" ++ rest ++ ",\"sensor_id\":7\x7d"
    let before := " \x7b\"sensor_id\":7," ++ rest ++ "\x7d"
    ∃ table entry, parse behind = .ok table ∧ parse before = .ok table ∧
      table.command? "a" = some entry ∧ entry.sensor = 7 := by
  intro rest behind before
  let v : Json := .object [("name", .string "x"),
    ("commands", .object [("a", .object [("cmd", .number (.natural 1))])]),
    ("sensor_id", .number (.natural 7))]
  let w : Json := .object [("sensor_id", .number (.natural 7)), ("name", .string "x"),
    ("commands", .object [("a", .object [("cmd", .number (.natural 1))])])]
  have hv : Written v behind := Json.written_compact rfl
  have hcompact : Written w w.compact := Json.written_compact rfl
  have hblank : before.toList = ' ' :: w.compact.toList := by decide
  have hw : Written w before := by
    rw [Written, hblank]
    exact .blank rfl hcompact
  have hvw : Rearranged v w := .perm (@List.perm_append_comm _ [_, _] [_])
  have hparse := parse_of_read hv (by decide) rfl rfl rfl
  obtain ⟨harranged, -, -, hentries⟩ := (meaning_of_text hv).1 _ hparse (by decide)
  obtain ⟨entry, hentry, -⟩ := hentries "a" (.object [("cmd", .number (.natural 1))]) (.head _)
  exact ⟨_, entry, hparse, harranged w before hvw hw, hentry, by cases hentry; rfl⟩

end CommandTable
end SensorLink
