import SensorLink.Proofs.CommandTable.Draft

/-!
# Places in a table

What becomes of a table when one value in it is another is asked at two kinds of places: a field of
the table, which is a hole in its record, and a field of one of its entries, a `Site`. A site is two
holes, one within the other, and it is the second that matters: what is put in there changes the
draft of its entry and nothing else (`readDraft_fill_iff`), and the entry is in the table if its
timeout and its payload say something (`exists_complete_splice_iff`).

Of entries with one name only the last counts, so a site is in the last one of its name.
-/

namespace SensorLink
namespace CommandTable

open Json (Document keys member? Entrywise Written Hole)

/-- A field of an entry, with its value left open. -/
structure Site where
  table : Hole
  before : List (String × Json)
  name : String
  entry : Hole
  after : List (String × Json)

namespace Site

variable {site : Site} {p : RecordPart EntryDraft} {v w : Json} {text : String} {draft : Draft}

def fill (key : String) (v : Json) (site : Site) : Json :=
  site.table.fill "commands"
    (.object (site.before ++ (site.name, site.entry.fill key v) :: site.after))

/-- The site is one of the field, in an entry that counts. -/
structure IsOf (key : String) (site : Site) : Prop where
  table : site.table.IsOf tableNames "commands"
  entry : site.entry.IsOf entryNames key
  last : site.name ∉ keys site.after

theorem depth_fill_le (h : v.depth ≤ w.depth) (key : String) (site : Site) :
    (site.fill key v).depth ≤ (site.fill key w).depth := by
  apply Hole.depth_fill_le
  have hentry := Hole.depth_fill_le h key site.entry
  simp only [Json.depth, Json.membersDepth_append, Json.membersDepth]
  omega

/-- Each way to fill the site gives one draft of the entries. -/
theorem readEntries_fill_iff (hp : p ∈ entryParts) (h : site.entry.IsOf entryNames p.name)
    {front back : List (String × EntryDraft)} {entryDraft : EntryDraft}
    (hfront : Entrywise Drafted site.before front)
    (hentry : Drafted site.name (site.entry.fill p.name v) entryDraft)
    (hback : Entrywise Drafted site.after back)
    {entries : List (String × EntryDraft)} :
    readEntries (Json.object (site.before ++ (site.name, site.entry.fill p.name w) ::
        site.after)).document = .ok entries ↔
      ∃ a, p.read w.document = .ok a ∧ (p.set a entryDraft).command.isSome ∧
        entries = front ++ (site.name, p.set a entryDraft) :: back := by
  have hunique (name : String) (v : Json) (draft other : EntryDraft) :
      Drafted name v draft → Drafted name v other → draft = other := Drafted.unique
  -- The entry itself is a record with one hole, for which the fields have an answer already.
  have hfill {other : EntryDraft} :
      RecordField.read (entryParts.map RecordPart.field) {}
          (site.entry.fill p.name w).document = .ok other ↔
        ∃ a, p.read w.document = .ok a ∧ other = p.set a entryDraft :=
    lawful_entryParts.read_fill_iff hp h (readEntry_eq_ok_iff.mp hentry).1
  simp only [readEntries_eq_ok_iff, Json.object.injEq, exists_eq_left',
    Json.entrywise_append_cons_iff]
  constructor
  · rintro ⟨front', other, back', rfl, hfront', hother, hback'⟩
    obtain rfl := hfront.right_unique hunique hfront'
    obtain rfl := hback.right_unique hunique hback'
    obtain ⟨hread, hcommand⟩ := readEntry_eq_ok_iff.mp hother
    obtain ⟨a, ha, rfl⟩ := hfill.mp hread
    exact ⟨a, ha, hcommand, rfl⟩
  · rintro ⟨a, ha, hcommand, rfl⟩
    exact ⟨front, _, back, rfl, hfront,
      readEntry_eq_ok_iff.mpr ⟨hfill.mpr ⟨a, ha, rfl⟩, hcommand⟩, hback⟩

/-- **What is put into a site changes the draft of its entry, and nothing else.** -/
theorem readDraft_fill (hp : p ∈ entryParts) (h : site.IsOf p.name)
    (hwritten : Written (site.fill p.name v) text) (hread : readDraft text = .ok draft) :
    ∃ front entryDraft back, draft.entries = front ++ (site.name, entryDraft) :: back ∧
      site.name ∉ keys back ∧ entryDraft.command.isSome ∧
      ∀ w text' other, Written (site.fill p.name w) text' →
        (readDraft text' = .ok other ↔
          (site.fill p.name w).depth ≤ Document.maxDepth ∧ ∃ a, p.read w.document = .ok a ∧
            (p.set a entryDraft).command.isSome ∧
            other = { draft with
              entries := front ++ (site.name, p.set a entryDraft) :: back }) := by
  obtain ⟨-, hrecord, hname⟩ := (readDraft_eq_ok_iff hwritten).mp hread
  have hcommands : commandsPart ∈ tableParts := by simp [tableParts]
  have hfill {x : Json} {other : Draft} :
      RecordField.read (tableParts.map RecordPart.field) {}
          (site.table.fill "commands" x).document = .ok other ↔
        ∃ entries, readEntries x.document = .ok entries ∧ other = { draft with entries } :=
    lawful_tableParts.read_fill_iff hcommands h.table hrecord
  -- What is read for the commands as they are gives the drafts around the site.
  obtain ⟨entries, hentries, hdraft⟩ := hfill.mp hrecord
  obtain ⟨_, ⟨⟩, hdrafted⟩ := readEntries_eq_ok_iff.mp hentries
  obtain ⟨front, entryDraft, back, rfl, hfront, hentry, hback⟩ :=
    Json.entrywise_append_cons_iff.mp hdrafted
  refine ⟨front, entryDraft, back, ?_, ?_, (readEntry_eq_ok_iff.mp hentry).2, ?_⟩
  · rw [hdraft]
  · rw [← hback.keys_eq]
    exact h.last
  · intro w text' other hwritten'
    rw [readDraft_eq_ok_iff hwritten']
    apply and_congr_right
    intro _
    constructor
    · rintro ⟨hother, -⟩
      obtain ⟨entries', hentries', rfl⟩ := hfill.mp hother
      obtain ⟨a, ha, hcommand, rfl⟩ :=
        (readEntries_fill_iff hp h.entry hfront hentry hback).mp hentries'
      exact ⟨a, ha, hcommand, rfl⟩
    · rintro ⟨a, ha, hcommand, rfl⟩
      refine ⟨hfill.mpr ⟨_, ?_, rfl⟩, hname⟩
      exact (readEntries_fill_iff hp h.entry hfront hentry hback).mpr ⟨a, ha, hcommand, rfl⟩

end Site

/-! ## The entry of a site in the table -/

variable {name : String} {front back : List (String × EntryDraft)} {entryDraft other : EntryDraft}
  {draft : Draft}

/-- Where a table can be completed, it can be with another entry in the place of one, if that can be
completed. -/
theorem exists_complete_splice_iff (hlast : name ∉ keys back) {table : CommandTable}
    (hcomplete : complete { draft with entries := front ++ (name, entryDraft) :: back } =
      .ok table) :
    (∃ table, complete { draft with entries := front ++ (name, other) :: back } = .ok table) ↔
      other.Completable name := by
  have hall := exists_complete_iff.mp ⟨table, hcomplete⟩
  rw [exists_complete_iff]
  simp only [Json.member?_reverse_append_cons hlast] at hall ⊢
  constructor
  · intro h
    exact h name other (if_pos rfl)
  · intro h key found hfound
    split at hfound
    · rename_i heq
      subst heq
      cases hfound
      exact h
    · rename_i hne
      apply hall key found
      rw [if_neg hne]
      exact hfound

theorem complete_splice_eq_error (hlast : name ∉ keys back) {table : CommandTable}
    (hcomplete : complete { draft with entries := front ++ (name, entryDraft) :: back } =
      .ok table) {error : Error} (herror : completeEntry name draft.sensor other = .error error) :
    complete { draft with entries := front ++ (name, other) :: back } = .error error := by
  have hall := exists_complete_iff.mp ⟨table, hcomplete⟩
  simp only [Json.member?_reverse_append_cons hlast] at hall
  have hnodup := (Json.ascending_sortMembers (front ++ (name, other) :: back)).nodup
  rw [complete, completeEntries_eq_error herror hnodup]
  · rfl
  · rw [← Json.member?_eq_some_iff_mem hnodup, Json.member?_sortMembers,
      Json.member?_reverse_append_cons hlast, if_pos rfl]
  · intro m hm hne
    rw [← Json.member?_eq_some_iff_mem hnodup, Json.member?_sortMembers,
      Json.member?_reverse_append_cons hlast, if_neg (Ne.symm hne)] at hm
    apply hall
    rw [if_neg (Ne.symm hne)]
    exact hm

theorem command?_splice (hlast : name ∉ keys back) {table : CommandTable}
    (hcomplete : complete { draft with entries := front ++ (name, entryDraft) :: back } =
      .ok table) :
    ∃ entry, table.command? name = some entry ∧ Completed draft.sensor name entryDraft entry := by
  have hrel := rel_command? hcomplete name
  rw [Json.member?_reverse_append_cons hlast, if_pos rfl] at hrel
  generalize table.command? name = found at hrel ⊢
  cases hrel with
  | some hentry => exact ⟨_, rfl, hentry⟩

end CommandTable
end SensorLink
