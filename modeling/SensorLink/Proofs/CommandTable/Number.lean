import SensorLink.Proofs.CommandTable.Site
import SensorLink.Proofs.Json.Printed
import SensorLink.Proofs.Text.Digits

/-!
# Numbers of a table

A number is an integer, or digits behind a marker `0x`. That is how numbers are to be written
(`Marked`), and all such numbers are read. The reader is more patient than that: it takes off as many
markers as there are, those with a small letter first, and none is needed; and what is left may have
a plus sign in front (`Numeral`). So `10` is sixteen.

Wherever a table has a number,

> **the table is read with a number there exactly if the value is a numeral of it and it is in the
> range of the field; any other value is a fault of the table** (`number_exactly`).
-/

namespace SensorLink
namespace CommandTable

open Json (Document Written Hole)
open Text.Integer (Spells)

/-! ## Numerals -/

/-- Markers `0x` one behind the other, with the letter given. -/
def markers (x : Char) (count : Nat) : List Char := (List.replicate count ['0', x]).flatten

/-- A value that is read as a number. -/
inductive Numeral : Json → Nat → Prop
  | integer (n : Nat) : Numeral (.number (.natural n)) n
  | hexadecimal {s : String} {small large n : Nat} {sign digits : List Char}
      (hs : s.toList = markers 'x' small ++ (markers 'X' large ++ (sign ++ digits)))
      (hsign : sign = [] ∨ sign = ['+']) (hdigits : Spells 16 digits n) : Numeral (.string s) n

/-- A value as a number is to be written: text has one marker, and digits behind it. -/
inductive Marked : Json → Nat → Prop
  | integer (n : Nat) : Marked (.number (.natural n)) n
  | hexadecimal {s : String} {x : Char} {digits : List Char} {n : Nat} (hx : x = 'x' ∨ x = 'X')
      (hs : s.toList = '0' :: x :: digits) (hdigits : Spells 16 digits n) : Marked (.string s) n

theorem Marked.numeral {v : Json} {n : Nat} (h : Marked v n) : Numeral v n := by
  cases h with
  | integer => exact .integer n
  | @hexadecimal s x digits n hx hs hdigits =>
    rcases hx with rfl | rfl
    · exact @Numeral.hexadecimal s 1 0 n [] digits hs (.inl rfl) hdigits
    · exact @Numeral.hexadecimal s 0 1 n [] digits hs (.inl rfl) hdigits

theorem Numeral.depth_eq {v : Json} {n : Nat} (h : Numeral v n) : v.depth = 0 := by
  cases h <;> rfl

/-! ## Reading numerals -/

def StartsWithMarker (x : Char) (cs : List Char) : Prop := ∃ rest, cs = '0' :: x :: rest

theorem dropMarkers_of_not_starts {x : Char} {cs : List Char} (h : ¬ StartsWithMarker x cs) :
    dropMarkers x cs = cs := by
  unfold dropMarkers
  split
  · rename_i c rest
    rw [if_neg]
    rintro rfl
    exact h ⟨rest, rfl⟩
  · rfl

theorem dropMarkers_markers (x : Char) (count : Nat) {rest : List Char}
    (h : ¬ StartsWithMarker x rest) : dropMarkers x (markers x count ++ rest) = rest := by
  induction count with
  | zero => exact dropMarkers_of_not_starts h
  | succ count ih =>
    show dropMarkers x ('0' :: x :: (markers x count ++ rest)) = rest
    rw [dropMarkers, if_pos rfl, ih]

/-- What is taken off in front is a row of markers. It can be put back. -/
theorem exists_markers (x : Char) (cs : List Char) :
    ∃ count, cs = markers x count ++ dropMarkers x cs := by
  fun_induction dropMarkers x cs with
  | case1 rest ih =>
    obtain ⟨count, hcount⟩ := ih
    exact ⟨count + 1, congrArg ('0' :: x :: ·) hcount⟩
  | case2 c rest hc => exact ⟨0, rfl⟩
  | case3 cs => exact ⟨0, rfl⟩

theorem not_startsWithMarker_digits {x : Char} (hx : Hex.digitValue? x = none) {digits : List Char}
    {n : Nat} (hdigits : Spells 16 digits n) : ¬ StartsWithMarker x digits := by
  rintro ⟨rest, rfl⟩
  have hdigit := Text.Integer.isSome_digit?_of_spelled? hdigits.2 x (.tail _ (.head _))
  rw [Text.Integer.digit?_sixteen, hx] at hdigit
  cases hdigit

/-- A small marker behind a capital one would be left standing, and so would a marker behind a sign;
neither is a digit, so there are none where a numeral is read. -/
theorem dropMarkers_numeral {small large n : Nat} {sign digits : List Char}
    (hsign : sign = [] ∨ sign = ['+']) (hdigits : Spells 16 digits n) :
    dropMarkers 'X' (dropMarkers 'x' (markers 'x' small ++ (markers 'X' large ++
      (sign ++ digits)))) = sign ++ digits := by
  have hnone {x : Char} (hx : Hex.digitValue? x = none) : ¬ StartsWithMarker x (sign ++ digits) := by
    rcases hsign with rfl | rfl
    · exact not_startsWithMarker_digits hx hdigits
    · rintro ⟨rest, ⟨⟩⟩
  have hlarge : ¬ StartsWithMarker 'x' (markers 'X' large ++ (sign ++ digits)) := by
    cases large with
    | zero => exact hnone rfl
    | succ large => rintro ⟨rest, ⟨⟩⟩
  rw [dropMarkers_markers 'x' small hlarge, dropMarkers_markers 'X' large (hnone rfl)]

/-- **What the reader accepts is what was to be described**: markers, small ones in front, a sign or
none, and digits. -/
theorem readHex64_eq_ok_iff {s : String} {n : Nat} :
    Text.Integer.readHex64 (dropMarkers 'X' (dropMarkers 'x' s.toList)) = .ok n ↔
      Numeral (.string s) n ∧ n < 2 ^ 64 := by
  rw [Text.Integer.readHex64, Text.Integer.read_eq_ok_iff (by decide) (by decide)]
  constructor
  · -- What has been taken off in front of the digits is put back.
    rintro ⟨digits, hcs, hdigits, hn⟩
    obtain ⟨small, hsmall⟩ := exists_markers 'x' s.toList
    obtain ⟨large, hlarge⟩ := exists_markers 'X' (dropMarkers 'x' s.toList)
    refine ⟨?_, hn⟩
    rw [hlarge] at hsmall
    rcases hcs with hcs | hcs
    · rw [hcs] at hsmall
      exact @Numeral.hexadecimal s small large n [] digits hsmall (.inl rfl) hdigits
    · rw [hcs] at hsmall
      exact @Numeral.hexadecimal s small large n ['+'] digits hsmall (.inr rfl) hdigits
  · rintro ⟨hnumeral, hn⟩
    cases hnumeral with
    | @hexadecimal s small large n sign digits hs hsign hdigits =>
      rw [hs, dropMarkers_numeral hsign hdigits]
      refine ⟨digits, ?_, hdigits, hn⟩
      rcases hsign with rfl | rfl
      · exact .inl rfl
      · exact .inr rfl

theorem inRange_eq_ok_iff {limit m n : Nat} : inRange limit m = .ok n ↔ m = n ∧ n < limit := by
  unfold inRange
  split
  · simp only [Except.ok.injEq]
    constructor
    · rintro rfl
      exact ⟨rfl, ‹_›⟩
    · exact And.left
  · simp only [reduceCtorEq, false_iff]
    rintro ⟨rfl, hn⟩
    contradiction

/-- **A number is read from its numerals**, and from nothing else. -/
theorem readNumber_eq_ok_iff {limit n : Nat} (hlimit : limit ≤ 2 ^ 64) {v : Json} :
    readNumber limit v.document = .ok n ↔ Numeral v n ∧ n < limit := by
  -- Of what is no numeral at all nothing is read, whichever the limit.
  have hnone (h : ∀ n, ¬ Numeral v n) (hread : readNumber limit v.document ≠ .ok n) :
      readNumber limit v.document = .ok n ↔ Numeral v n ∧ n < limit :=
    ⟨fun hok => absurd hok hread, fun hok => absurd hok.1 (h n)⟩
  match v with
  | .number (.natural m) =>
    show inRange limit m = .ok n ↔ _
    rw [inRange_eq_ok_iff]
    constructor
    · rintro ⟨rfl, hn⟩
      exact ⟨.integer m, hn⟩
    · rintro ⟨⟨⟩, hn⟩
      exact ⟨rfl, hn⟩
  | .string s =>
    have hread {n : Nat} := @readHex64_eq_ok_iff s n
    rw [Json.document, readNumber]
    generalize Text.Integer.readHex64 (dropMarkers 'X' (dropMarkers 'x' s.toList)) = found
      at hread ⊢
    cases found with
    | ok m =>
      obtain ⟨hm, -⟩ := hread.mp rfl
      rw [inRange_eq_ok_iff]
      constructor
      · rintro ⟨rfl, hn⟩
        exact ⟨hm, hn⟩
      · rintro ⟨hnumeral, hn⟩
        have hmn := hread.mpr ⟨hnumeral, Nat.lt_of_lt_of_le hn hlimit⟩
        exact ⟨Except.ok.inj hmn, hn⟩
    -- What 64 bits cannot hold is beyond the limit of every field.
    | error fault =>
      simp only [reduceCtorEq, false_iff]
      rintro ⟨hnumeral, hn⟩
      have hmn := hread.mpr ⟨hnumeral, Nat.lt_of_lt_of_le hn hlimit⟩
      cases hmn
  | .null | .bool _ | .array _ | .object _ | .number (.negative _) | .number (.real _) =>
    exact hnone (fun n h => by cases h) (fun h => by cases h)

/-! ## Numbers in a table -/

/-- Where a table has a number: for all its commands, or in an entry. -/
inductive NumberSite where
  | shared (hole : Hole)
  | own (field : NumberField) (site : Site)

def NumberField.value : NumberField → CommandEntry → Nat
  | command, entry => entry.command.toNat
  | sensor, entry => entry.sensor.toNat
  | uplinkSensor, entry => entry.uplinkSensor.toNat
  | order, entry => entry.order.toNat

namespace NumberSite

def fill (v : Json) : NumberSite → Json
  | shared hole => hole.fill "sensor_id" v
  | own field site => site.fill field.name v

/-- The site is one of the field that it is for. -/
def IsProper : NumberSite → Prop
  | shared hole => hole.IsOf tableNames "sensor_id"
  | own field site => site.IsOf field.name

def limit : NumberSite → Nat
  | shared _ => 2 ^ 16
  | own field _ => field.limit

/-- The number that a table has there. -/
def value? (table : CommandTable) : NumberSite → Option Nat
  | shared _ => some table.sensor.toNat
  | own field site => (table.command? site.name).map field.value

theorem depth_fill_le {v w : Json} (h : v.depth ≤ w.depth) (site : NumberSite) :
    (site.fill v).depth ≤ (site.fill w).depth := by
  cases site with
  | shared hole => exact Hole.depth_fill_le h _ hole
  | own field site => exact site.depth_fill_le h _

end NumberSite

/-- The number that was put into a draft is the one of the finished entry: completing fills in what
is missing and touches nothing else. -/
theorem NumberField.value_completed (f : NumberField) {n : Nat} (hn : n < f.limit)
    (draft : EntryDraft) (sensor : Nat) (timeout : Duration) (data : Option Bytes) :
    f.value ((f.set (some n) draft).completed sensor timeout data) = n := by
  cases f with
  | command => exact UInt8.toNat_ofNat_of_lt' hn
  | sensor | uplinkSensor | order => exact UInt16.toNat_ofNat_of_lt' hn

/-- A number is not what a draft can be incomplete in. -/
theorem NumberField.completable_set {f : NumberField} {n : Option Nat} {name : String}
    {draft : EntryDraft} (h : draft.Completable name) : (f.set n draft).Completable name := by
  cases f <;> exact h

theorem NumberField.isSome_command_set {f : NumberField} {n : Nat} {draft : EntryDraft}
    (h : draft.command.isSome) : (f.set (some n) draft).command.isSome := by
  cases f with
  | command => rfl
  | sensor | uplinkSensor | order => exact h

theorem NumberField.limit_le (f : NumberField) : f.limit ≤ 2 ^ 64 := by
  cases f <;> exact Nat.pow_le_pow_right (by decide) (by decide)

theorem NumberField.part_mem (f : NumberField) : f.part ∈ entryParts := by
  cases f <;> simp [entryParts]

theorem NumberField.read_part_eq_ok_iff {f : NumberField} {v : Json} {a : Option Nat} :
    f.part.read v.document = .ok a ↔ ∃ n, readNumber f.limit v.document = .ok n ∧ a = some n := by
  show some <$> readNumber f.limit v.document = .ok a ↔ _
  cases readNumber f.limit v.document with
  | ok n => simp [Functor.map, Except.map, eq_comm]
  | error fault => simp [Functor.map, Except.map]

/-- The drafts of a table that is sound but for the number at a site, by that number. -/
structure NumberSite.Puts (site : NumberSite) (put : Nat → Draft) : Prop where
  read_iff : ∀ v text draft, Written (site.fill v) text → (readDraft text = .ok draft ↔
    (site.fill v).depth ≤ Document.maxDepth ∧
      ∃ n, readNumber site.limit v.document = .ok n ∧ draft = put n)
  completes : ∀ n < site.limit, ∃ table, complete (put n) = .ok table
  value : ∀ n < site.limit, ∀ table, complete (put n) = .ok table → site.value? table = some n

section Puts

variable {w : Json} {text : String} {draft : Draft} {sound : CommandTable}

/-- With a number in the field of the table, the draft is the same but for that number. -/
theorem NumberSite.exists_puts_shared {hole : Hole} (hsite : hole.IsOf tableNames "sensor_id")
    (hwritten : Written (hole.fill "sensor_id" w) text) (hread : readDraft text = .ok draft)
    (hcomplete : complete draft = .ok sound) : ∃ put, (shared hole).Puts put := by
  obtain ⟨-, hrecord, hname⟩ := (readDraft_eq_ok_iff hwritten).mp hread
  have hmem : sensorPart ∈ tableParts := by simp [tableParts]
  have hfill (v : Json) (other : Draft) :
      RecordField.read (tableParts.map RecordPart.field) {} (hole.fill "sensor_id" v).document =
          .ok other ↔
        ∃ n, readNumber (2 ^ 16) v.document = .ok n ∧ other = { draft with sensor := n } :=
    lawful_tableParts.read_fill_iff hmem hsite hrecord
  refine ⟨fun n => { draft with sensor := n }, ?_, ?_, ?_⟩
  · intro v text' other hwritten'
    rw [readDraft_eq_ok_iff hwritten']
    apply and_congr_right
    intro _
    constructor
    · intro h
      exact (hfill v other).mp h.1
    · rintro ⟨n, hn, rfl⟩
      exact ⟨(hfill v _).mpr ⟨n, hn, rfl⟩, hname⟩
  · -- What the entries lack does not depend on the table's number.
    intro n hn
    have hall := exists_complete_iff.mp ⟨sound, hcomplete⟩
    exact exists_complete_iff.mpr hall
  · intro n hn table htable
    obtain ⟨entries, -, rfl⟩ := complete_eq_ok_iff.mp htable
    exact congrArg some (UInt16.toNat_ofNat_of_lt' hn)

theorem NumberSite.exists_puts_own {field : NumberField} {site : Site} (hsite : site.IsOf field.name)
    (hwritten : Written (site.fill field.name w) text) (hread : readDraft text = .ok draft)
    (hcomplete : complete draft = .ok sound) : ∃ put, (own field site).Puts put := by
  -- The entry that counts under this name stands between others that the number does not touch.
  obtain ⟨front, entryDraft, back, hentries, hlast, hcommand, hfill⟩ :=
    site.readDraft_fill field.part_mem hsite hwritten hread
  have hsame : complete { draft with entries := front ++ (site.name, entryDraft) :: back } =
      .ok sound := by
    rw [← hentries]
    exact hcomplete
  have hcompletable := (exists_complete_splice_iff hlast hsame).mp ⟨sound, hsame⟩
  refine ⟨fun n => { draft with
    entries := front ++ (site.name, field.set (some n) entryDraft) :: back }, ?_, ?_, ?_⟩
  · intro v text' other hwritten'
    rw [hfill v text' other hwritten']
    apply and_congr_right
    intro _
    constructor
    · rintro ⟨a, ha, -, rfl⟩
      obtain ⟨n, hn, rfl⟩ := NumberField.read_part_eq_ok_iff.mp ha
      exact ⟨n, hn, rfl⟩
    · rintro ⟨n, hn, rfl⟩
      exact ⟨some n, NumberField.read_part_eq_ok_iff.mpr ⟨n, hn, rfl⟩,
        NumberField.isSome_command_set hcommand, rfl⟩
  · intro n hn
    exact (exists_complete_splice_iff hlast hsame).mpr
      (NumberField.completable_set hcompletable)
  · intro n hn table htable
    obtain ⟨entry, hfound, hentry⟩ := command?_splice hlast htable
    obtain ⟨timeout, data, -, -, rfl⟩ := completeEntry_eq_ok_iff.mp hentry
    rw [value?, hfound]
    exact congrArg some (field.value_completed hn entryDraft _ timeout data)

end Puts

/-- In a table that is otherwise sound, a site decides with its number alone. -/
theorem NumberSite.exists_puts {site : NumberSite} (hsite : site.IsProper) {w : Json}
    {text : String} {sound : CommandTable} (hwritten : Written (site.fill w) text)
    (hsound : parse text = .ok sound) :
    (site.fill w).depth ≤ Document.maxDepth ∧ ∃ put, site.Puts put := by
  obtain ⟨draft, hread, hcomplete⟩ := parse_eq_ok_iff.mp hsound
  refine ⟨((readDraft_eq_ok_iff hwritten).mp hread).1, ?_⟩
  cases site with
  | shared hole => exact exists_puts_shared hsite hwritten hread hcomplete
  | own field site => exact exists_puts_own hsite hwritten hread hcomplete

/-- No field is wider than the number that the reader can hold. -/
theorem NumberSite.limit_le (site : NumberSite) : site.limit ≤ 2 ^ 64 := by
  cases site with
  | shared hole => exact Nat.pow_le_pow_right (by decide) (by decide)
  | own field site => exact field.limit_le

/-- **A number of a table is a numeral in its range**; any other value is a fault of the table. -/
theorem number_exactly {site : NumberSite} (hsite : site.IsProper) {w : Json} {other : String}
    {sound : CommandTable} (hother : Written (site.fill w) other)
    (hsound : parse other = .ok sound) {v : Json} {text : String}
    (hwritten : Written (site.fill v) text) :
    (∀ n, (∃ table, parse text = .ok table ∧ site.value? table = some n) ↔
      Numeral v n ∧ n < site.limit) ∧
    ((∀ n, Numeral v n → site.limit ≤ n) → ∃ fault, parse text = .error (.table fault)) := by
  obtain ⟨hdepth, put, hput⟩ := NumberSite.exists_puts hsite hother hsound
  have hread (n : Nat) : readNumber site.limit v.document = .ok n ↔ Numeral v n ∧ n < site.limit :=
    readNumber_eq_ok_iff site.limit_le
  constructor
  · intro n
    constructor
    · rintro ⟨table, hparse, hvalue⟩
      obtain ⟨draft, hdraft, htable⟩ := parse_eq_ok_iff.mp hparse
      obtain ⟨-, m, hm, rfl⟩ := (hput.read_iff v text draft hwritten).mp hdraft
      have hnumeral := (hread m).mp hm
      have hsame := hput.value m hnumeral.2 table htable
      rw [hvalue] at hsame
      cases hsame
      exact hnumeral
    · intro hnumeral
      obtain ⟨table, htable⟩ := hput.completes n hnumeral.2
      -- The sound table goes as deep with the other value; a number in its place goes no deeper.
      have hshallow : (site.fill v).depth ≤ Document.maxDepth := by
        refine Nat.le_trans (site.depth_fill_le ?_) hdepth
        rw [hnumeral.1.depth_eq]
        exact Nat.zero_le _
      have hdraft := (hput.read_iff v text _ hwritten).mpr
        ⟨hshallow, n, (hread n).mpr hnumeral, rfl⟩
      exact ⟨table, parse_eq_ok_iff.mpr ⟨_, hdraft, htable⟩,
        hput.value n hnumeral.2 table htable⟩
  · intro hnone
    apply parse_of_not_read
    intro draft hdraft
    obtain ⟨-, n, hn, -⟩ := (hput.read_iff v text draft hwritten).mp hdraft
    obtain ⟨hnumeral, hlt⟩ := (hread n).mp hn
    exact absurd hlt (Nat.not_lt.mpr (hnone n hnumeral))

/-- A command code behind a marker, where an integer would do. -/
theorem number_exactly_command :
    let site : NumberSite :=
      .own .command ⟨.member [("name", .string "x")] [], [], "a", .member [] [], []⟩
    let text (code : String) : String :=
      "\x7b\"name\":\"x\",\"commands\":\x7b\"a\":\x7b\"cmd\":" ++ code ++ "\x7d\x7d\x7d"
    site.IsProper ∧ ∃ table, parse (text "\"0x1F\"") = .ok table ∧ site.value? table = some 31 := by
  intro site text
  have hsite : site.IsProper := ⟨trivial, trivial, by simp⟩
  have hother : Written (site.fill (.number (.natural 13))) (text "13") := Json.written_compact rfl
  have hwritten : Written (site.fill (.string "0x1F")) (text "\"0x1F\"") :=
    Json.written_compact rfl
  have hsound := parse_of_read hother (by decide) rfl rfl rfl
  have hmarked : Marked (.string "0x1F") 31 := .hexadecimal (.inl rfl) rfl ⟨by simp, rfl⟩
  refine ⟨hsite, ?_⟩
  exact ((number_exactly hsite hother hsound hwritten).1 31).mpr ⟨hmarked.numeral, by decide⟩

/-- Digits with no marker, with two, and with a sign behind one are read, though numbers are not to
be written so. -/
theorem unmarked_numbers :
    let text (code : String) : String :=
      "\x7b\"name\":\"x\",\"commands\":\x7b\"a\":\x7b\"cmd\":\"" ++ code ++ "\"\x7d\x7d\x7d"
    ∀ code ∈ ["10", "0x0X10", "0x+10"], (∀ n, ¬ Marked (.string code) n) ∧
      ∃ table entry, parse (text code) = .ok table ∧ table.command? "a" = some entry ∧
        entry.command = 16 := by
  intro text
  let value (code : String) : Json := .object [("name", .string "x"),
    ("commands", .object [("a", .object [("cmd", .string code)])])]
  have h₁ : Written (value "10") (text "10") := Json.written_compact rfl
  have h₂ : Written (value "0x0X10") (text "0x0X10") := Json.written_compact rfl
  have h₃ : Written (value "0x+10") (text "0x+10") := Json.written_compact rfl
  simp only [List.forall_mem_cons, List.not_mem_nil, IsEmpty.forall_iff, implies_true, and_true]
  refine ⟨⟨?_, _, _, parse_of_read h₁ (by decide) rfl rfl rfl, rfl, rfl⟩,
    ⟨?_, _, _, parse_of_read h₂ (by decide) rfl rfl rfl, rfl, rfl⟩,
    ⟨?_, _, _, parse_of_read h₃ (by decide) rfl rfl rfl, rfl, rfl⟩⟩
  · rintro n (_ | ⟨-, hs, -⟩)
    cases hs
  · rintro n (_ | ⟨-, hs, hdigits⟩)
    cases hs
    cases hdigits.2
  · rintro n (_ | ⟨-, hs, hdigits⟩)
    cases hs
    cases hdigits.2

end CommandTable
end SensorLink
