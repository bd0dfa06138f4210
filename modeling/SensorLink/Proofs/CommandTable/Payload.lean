import SensorLink.Proofs.CommandTable.Site
import SensorLink.Proofs.Text.Payload

/-!
# Payloads of a table

An entry can have a payload of its own. It is taken as a text when the table is read and looked at
when the table is completed, so a text that is no payload is a fault of its entry, and it is named so
(`parse_not_renders`). Any other leaves the table as it would be without it, but for the payload
(`parse_renders`).
-/

namespace SensorLink
namespace CommandTable

open Json (Document keys Written)

variable {site : Site} {text doc other : String} {w : Json} {sound : CommandTable}

theorem read_dataPart (text : String) :
    dataPart.read (Json.string text).document = .ok (some text) := rfl

/-- The draft of a table whose entry has the text for its payload. -/
theorem readDraft_data (h : site.IsOf "data") (hother : Written (site.fill "data" w) other)
    (hsound : parse other = .ok sound)
    (hwritten : Written (site.fill "data" (.string text)) doc) :
    ∃ (draft : Draft) (front back : List (String × EntryDraft)) (entryDraft : EntryDraft),
      site.name ∉ keys back ∧
      complete { draft with entries := front ++ (site.name, entryDraft) :: back } = .ok sound ∧
      readDraft doc = .ok { draft with
        entries := front ++ (site.name, { entryDraft with data := some text }) :: back } := by
  obtain ⟨draft, hread, hcomplete⟩ := parse_eq_ok_iff.mp hsound
  have hmem : dataPart ∈ entryParts := by simp [entryParts]
  obtain ⟨front, entryDraft, back, hentries, hlast, hcommand, hfill⟩ :=
    site.readDraft_fill hmem h hother hread
  refine ⟨draft, front, back, entryDraft, hlast, ?_, ?_⟩
  · rw [← hentries]
    exact hcomplete
  · have hdepth := ((readDraft_eq_ok_iff hother).mp hread).1
    refine (hfill _ doc _ hwritten).mpr ⟨?_, some text, read_dataPart text, hcommand, rfl⟩
    exact Nat.le_trans (site.depth_fill_le (Nat.zero_le _) "data") hdepth

theorem completeData_of_renders {bytes : Bytes} (h : Text.Renders text bytes) (name : String) :
    completeData name (some text) = .ok (some bytes) := by
  rw [completeData, payloadOfText_eq_ok_iff.mpr h]

/-- **A payload goes into its entry as the text renders it**, and nothing else becomes of the
table's entry. -/
theorem parse_renders (h : site.IsOf "data") (hother : Written (site.fill "data" w) other)
    (hsound : parse other = .ok sound) (hwritten : Written (site.fill "data" (.string text)) doc)
    {bytes : Bytes} (hrenders : Text.Renders text bytes) :
    ∃ table before, parse doc = .ok table ∧ sound.command? site.name = some before ∧
      table.command? site.name = some { before with data := some bytes } := by
  obtain ⟨draft, front, back, entryDraft, hlast, hcomplete, hread⟩ :=
    readDraft_data h hother hsound hwritten
  obtain ⟨before, hbefore, hcompleted⟩ := command?_splice hlast hcomplete
  obtain ⟨timeout, data, htimeout, -, rfl⟩ := completeEntry_eq_ok_iff.mp hcompleted
  have hdata := completeData_of_renders hrenders site.name
  have hcompletable : EntryDraft.Completable site.name { entryDraft with data := some text } :=
    ⟨⟨timeout, htimeout⟩, some bytes, hdata⟩
  obtain ⟨table, htable⟩ := (exists_complete_splice_iff hlast hcomplete).mpr hcompletable
  obtain ⟨entry, hentry, hcompleted'⟩ := command?_splice hlast htable
  obtain ⟨timeout', data', htimeout', hdata', rfl⟩ := completeEntry_eq_ok_iff.mp hcompleted'
  obtain rfl := Except.ok.inj (htimeout.symm.trans htimeout')
  obtain rfl := Except.ok.inj (hdata.symm.trans hdata')
  exact ⟨table, _, parse_eq_ok_iff.mpr ⟨_, hread, htable⟩, hbefore, hentry⟩

/-- **A text that renders no payload is refused with the name of its entry.** -/
theorem parse_not_renders (h : site.IsOf "data") (hother : Written (site.fill "data" w) other)
    (hsound : parse other = .ok sound) (hwritten : Written (site.fill "data" (.string text)) doc)
    (hnone : ∀ bytes, ¬ Text.Renders text bytes) :
    ∃ fault, parse doc = .error (.invalidParameter (.entryData site.name fault)) := by
  obtain ⟨draft, front, back, entryDraft, hlast, hcomplete, hread⟩ :=
    readDraft_data h hother hsound hwritten
  obtain ⟨fault, hfault⟩ := payloadOfText_of_not_renders hnone
  obtain ⟨before, -, hcompleted⟩ := command?_splice hlast hcomplete
  obtain ⟨timeout, -, htimeout, -, -⟩ := completeEntry_eq_ok_iff.mp hcompleted
  have herror : completeEntry site.name draft.sensor { entryDraft with data := some text } =
      .error (.invalidParameter (.entryData site.name fault)) := by
    rw [completeEntry, htimeout, completeData, hfault]
    rfl
  refine ⟨fault, ?_⟩
  rw [parse, hread]
  exact complete_splice_eq_error hlast hcomplete herror

end CommandTable
end SensorLink
