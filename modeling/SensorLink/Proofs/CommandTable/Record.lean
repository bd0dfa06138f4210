import SensorLink.CommandTable.Record
import SensorLink.Proofs.Json.Members
import SensorLink.Proofs.Json.Written
import Mathlib.Data.List.Nodup

/-!
# What a record says

A record is read by filling its fields into a draft one after another, in the order of the text. The
order is not seen in the end:

> **a value is read exactly if it has the shape of a record and each field that is there can be
> read; the draft then holds what was read, and is as before where a field is not there**
> (`read_eq_ok_iff`).

That takes fields which fill parts of the draft that lie side by side (`Lawful`): what goes into one
part is found there and nowhere else, and there is nothing in a draft but its parts.

A record with the value of one field left open is a `Hole`. What is put in there decides about its
own part and about nothing else (`read_fill_iff`).
-/

namespace SensorLink

open Json (Document keys member?)

namespace Json

/-! ## The shape of a record -/

/-- Some of the fields in any order, none of them twice; or the first few fields in their order. -/
def IsRecord (names : List String) : Json → Prop
  | .object members => (keys members).Nodup ∧ ∀ key ∈ keys members, key ∈ names
  | .array items => items.length ≤ names.length
  | _ => False

def fieldsOf (names : List String) : Json → List (String × Json)
  | .object members => members
  | .array items => names.zip items
  | _ => []

/-- The value that is written for a field. -/
def field? (names : List String) (key : String) (v : Json) : Option Json :=
  member? key (v.fieldsOf names)

theorem keys_zip_sublist {β : Type} (names : List String) (items : List β) :
    (keys (names.zip items)).Sublist names := by
  induction names generalizing items with
  | nil => exact .slnil
  | cons name names ih =>
    cases items with
    | nil => exact List.nil_sublist _
    | cons item items => exact (ih items).cons_cons name

theorem IsRecord.nodup {names : List String} (hnames : names.Nodup) {v : Json}
    (h : v.IsRecord names) : (keys (v.fieldsOf names)).Nodup := by
  cases v with
  | object members => exact h.1
  | array items => exact (keys_zip_sublist names items).nodup hnames
  | null | bool _ | number _ | string _ => exact h.elim

theorem member?_memberDocuments (key : String) (members : List (String × Json)) :
    member? key (memberDocuments members) = (member? key members).map document := by
  induction members with
  | nil => rfl
  | cons m rest ih =>
    obtain ⟨k, v⟩ := m
    rw [memberDocuments, member?_cons, member?_cons, ih]
    split <;> rfl

theorem keys_memberDocuments (members : List (String × Json)) :
    keys (memberDocuments members) = keys members := by
  simp [memberDocuments_eq_map, keys]

/-! ## Records with a hole -/

/-- A record with the value of one field left open: that of a key, or that of a place. -/
inductive Hole where
  | member (before after : List (String × Json))
  | item (before after : List Json)

namespace Hole

variable {names : List String} {key : String} {hole : Hole}

def fill (key : String) (v : Json) : Hole → Json
  | .member before after => .object (before ++ (key, v) :: after)
  | .item before after => .array (before ++ v :: after)

/-- A key names its field, and a place does if it is the field's. -/
def IsOf (names : List String) (key : String) : Hole → Prop
  | .member _ _ => True
  | .item before _ => names[before.length]? = some key

/-- What stands in the hole is one field of the record, and what stands around it does not depend on
it. -/
theorem exists_fieldsOf_fill (h : hole.IsOf names key) :
    ∃ before after, ∀ v, (hole.fill key v).fieldsOf names = before ++ (key, v) :: after := by
  cases hole with
  | member before after => exact ⟨before, after, fun _ => rfl⟩
  | item before after =>
    obtain ⟨hlt, hget⟩ := List.getElem?_eq_some_iff.mp h
    obtain ⟨front, back, hnames, hlength⟩ : ∃ front back, names = front ++ key :: back ∧
        front.length = before.length := by
      refine ⟨names.take before.length, names.drop (before.length + 1), ?_, ?_⟩
      · rw [← hget, ← List.drop_eq_getElem_cons hlt, List.take_append_drop]
      · exact List.length_take_of_le (Nat.le_of_lt hlt)
    refine ⟨front.zip before, back.zip after, fun v => ?_⟩
    simp only [fill, fieldsOf, hnames, List.zip_append hlength, List.zip_cons_cons]

theorem isRecord_fill {v : Json} (w : Json) (h : (hole.fill key v).IsRecord names) :
    (hole.fill key w).IsRecord names := by
  cases hole with
  | member before after => simpa [fill, IsRecord, keys] using h
  | item before after => simpa [fill, IsRecord] using h

theorem field?_fill (h : hole.IsOf names key) (hnames : names.Nodup) {v : Json}
    (hrecord : (hole.fill key v).IsRecord names) : (hole.fill key v).field? names key = some v := by
  obtain ⟨before, after, hfields⟩ := exists_fieldsOf_fill h
  have hmem : (key, v) ∈ (hole.fill key v).fieldsOf names := by
    rw [hfields]
    exact List.mem_append_right _ (.head _)
  exact (member?_eq_some_iff_mem (hrecord.nodup hnames)).mpr hmem

/-- Filling a hole with something else leaves the other fields of the record alone. -/
theorem field?_fill_of_ne (h : hole.IsOf names key) {other : String} (hother : other ≠ key)
    (v w : Json) : (hole.fill key v).field? names other = (hole.fill key w).field? names other := by
  obtain ⟨before, after, hfields⟩ := exists_fieldsOf_fill h
  rw [field?, field?, hfields, hfields, member?_append, member?_append, member?_cons, member?_cons,
    if_neg (Ne.symm hother), if_neg (Ne.symm hother)]

end Hole

theorem Hole.depth_fill_le {v w : Json} (h : v.depth ≤ w.depth) (key : String) (hole : Hole) :
    (hole.fill key v).depth ≤ (hole.fill key w).depth := by
  cases hole with
  | member before after =>
    simp only [fill, depth, membersDepth_append, membersDepth]
    omega
  | item before after =>
    simp only [fill, depth, itemsDepth_append, itemsDepth]
    omega

end Json

/-! ## Parts of a draft -/

/-- A part of a draft, and how it is read. -/
structure RecordPart (δ : Type) where
  α : Type
  name : String
  read : Document → Except TableFault α
  get : δ → α
  set : α → δ → δ

namespace RecordPart

variable {δ : Type} {parts : List (RecordPart δ)} {p : RecordPart δ} {draft filled : δ}

/-- The field that fills the part. -/
def field (p : RecordPart δ) : RecordField δ := ⟨p.name, fun v d => do pure (p.set (← p.read v) d)⟩

/-- The parts lie side by side, and make up the draft. -/
structure Lawful (parts : List (RecordPart δ)) : Prop where
  nodup : (parts.map (·.name)).Nodup
  get_set : ∀ p ∈ parts, ∀ a d, p.get (p.set a d) = a
  get_set_of_ne : ∀ p ∈ parts, ∀ q ∈ parts, q.name ≠ p.name → ∀ a d, q.get (p.set a d) = q.get d
  ext : ∀ d d', (∀ p ∈ parts, p.get d = p.get d') → d = d'

/-- Each part holds what was found for it, or what it held before. -/
def Filled (parts : List (RecordPart δ)) (draft : δ) (found : String → Option Document)
    (filled : δ) : Prop :=
  ∀ p ∈ parts, (found p.name).elim (.ok (p.get draft)) p.read = .ok (p.get filled)

theorem field_fill_eq_ok_iff {value : Document} :
    p.field.fill value draft = .ok filled ↔ ∃ a, p.read value = .ok a ∧ filled = p.set a draft := by
  simp only [field, bind_eq_ok_iff, pure, Except.pure, Except.ok.injEq]
  exact exists_congr fun a => and_congr_right fun _ => eq_comm

theorem Lawful.eq_of_name_eq (h : Lawful parts) {q : RecordPart δ} (hp : p ∈ parts)
    (hq : q ∈ parts) (hname : q.name = p.name) : q = p :=
  List.inj_on_of_nodup_map h.nodup hq hp hname

/-- The fields that were found leave no choice: at most one record is filled from them. -/
theorem Lawful.filled_unique (h : Lawful parts) {found : String → Option Document} {other : δ}
    (hfilled : Filled parts draft found filled) (hother : Filled parts draft found other) :
    other = filled := by
  apply h.ext
  intro p hp
  exact Except.ok.inj ((hother p hp).symm.trans (hfilled p hp))

theorem Lawful.filled_of_found (h : Lawful parts) (hp : p ∈ parts) {value : Document}
    {found rest : String → Option Document} (hfresh : rest p.name = none)
    (hfound : found p.name = some value) (hsame : ∀ key, key ≠ p.name → found key = rest key) :
    Filled parts draft found filled ↔
      ∃ a, p.read value = .ok a ∧ Filled parts (p.set a draft) rest filled := by
  constructor
  · intro hfilled
    have hread := hfilled p hp
    rw [hfound] at hread
    refine ⟨p.get filled, hread, ?_⟩
    intro q hq
    by_cases hname : q.name = p.name
    · obtain rfl := h.eq_of_name_eq hp hq hname
      rw [hfresh]
      exact congrArg Except.ok (h.get_set q hq _ _)
    · rw [h.get_set_of_ne p hp q hq hname, ← hsame _ hname]
      exact hfilled q hq
  · rintro ⟨a, hread, hfilled⟩
    intro q hq
    have hother := hfilled q hq
    by_cases hname : q.name = p.name
    · obtain rfl := h.eq_of_name_eq hp hq hname
      rw [hfresh, Option.elim_none, h.get_set q hq] at hother
      rw [hfound, ← hother]
      exact hread
    · rwa [h.get_set_of_ne p hp q hq hname, ← hsame _ hname] at hother

theorem Lawful.filled_cons (h : Lawful parts) (hp : p ∈ parts) {value : Document}
    {rest : List (String × Document)} (hfresh : p.name ∉ keys rest) :
    Filled parts draft (fun key => member? key ((p.name, value) :: rest)) filled ↔
      ∃ a, p.read value = .ok a ∧
        Filled parts (p.set a draft) (fun key => member? key rest) filled := by
  apply h.filled_of_found hp
  · exact Json.member?_eq_none_iff.mpr hfresh
  · simp [Json.member?_cons]
  · intro key hkey
    simp [Json.member?_cons, Ne.symm hkey]

theorem Lawful.filled_nil_iff (h : Lawful parts) :
    Filled parts draft (fun _ => none) filled ↔ filled = draft := by
  have hself : Filled parts draft (fun _ => none) draft := fun _ _ => rfl
  constructor
  · exact h.filled_unique hself
  · rintro rfl
    exact hself

/-! ## Reading a record -/

/-- A member goes into the part of its name, if that has not been filled in yet. -/
theorem Lawful.fillMembers_cons_eq_ok_iff (h : Lawful parts) {seen : List String} {key : String}
    {value : Document} {rest : List (String × Document)} :
    RecordField.fillMembers (parts.map field) seen draft ((key, value) :: rest) = .ok filled ↔
      key ∉ seen ∧ ∃ p ∈ parts, p.name = key ∧ ∃ a, p.read value = .ok a ∧
        RecordField.fillMembers (parts.map field) (key :: seen) (p.set a draft) rest =
          .ok filled := by
  have hfind : (parts.map field).find? (·.name = key) =
      (parts.find? (·.name = key)).map field := List.find?_map
  rw [RecordField.fillMembers, hfind]
  cases hpart : parts.find? (·.name = key) with
  | none =>
    have hunknown : ∀ p ∈ parts, p.name ≠ key := by simpa using hpart
    simp only [Option.map_none, reduceCtorEq, false_iff]
    rintro ⟨-, p, hp, hname, -⟩
    exact hunknown p hp hname
  -- The part of this name; whether it was filled before decides.
  | some p =>
    have hp := List.mem_of_find?_eq_some hpart
    have hname : p.name = key := by simpa using List.find?_some hpart
    subst hname
    simp only [Option.map_some]
    by_cases hseen : p.name ∈ seen
    · rw [if_pos (List.contains_iff_mem.mpr hseen)]
      simp only [reduceCtorEq, false_iff]
      intro hfresh
      exact hfresh.1 hseen
    · rw [if_neg (mt List.contains_iff_mem.mp hseen), bind_eq_ok_iff]
      constructor
      · rintro ⟨next, hfill, hrest⟩
        obtain ⟨a, hread, rfl⟩ := field_fill_eq_ok_iff.mp hfill
        exact ⟨hseen, p, hp, rfl, a, hread, hrest⟩
      · rintro ⟨-, q, hq, hname, a, hread, hrest⟩
        obtain rfl := h.eq_of_name_eq hp hq hname
        exact ⟨_, field_fill_eq_ok_iff.mpr ⟨a, hread, rfl⟩, hrest⟩

/-- The members may come in any order. They are accepted if each is a part's name, none comes twice,
none was there before, and each can be read; and then the record is the one filled from them. -/
theorem Lawful.fillMembers_eq_ok_iff (h : Lawful parts) {seen : List String}
    {members : List (String × Document)} :
    RecordField.fillMembers (parts.map field) seen draft members = .ok filled ↔
      ((keys members).Nodup ∧ ∀ key ∈ keys members, key ∉ seen ∧ key ∈ parts.map (·.name)) ∧
        Filled parts draft (fun key => member? key members) filled := by
  -- A field that is filled in joins those that were seen, and so the rest does not have it again.
  induction members generalizing seen draft with
  | nil =>
    have hnil : Filled parts draft (fun key => member? key []) filled ↔ filled = draft :=
      h.filled_nil_iff
    simp [RecordField.fillMembers, hnil, eq_comm]
  | cons m rest ih =>
    obtain ⟨key, value⟩ := m
    rw [h.fillMembers_cons_eq_ok_iff]
    simp only [ih, Json.keys_cons, List.nodup_cons, List.forall_mem_cons]
    constructor
    · rintro ⟨hseen, p, hp, rfl, a, hread, ⟨hnodup, hkeys⟩, hfilled⟩
      have hfresh : p.name ∉ keys rest := fun hmem => (hkeys _ hmem).1 (.head _)
      have hrest : ∀ key ∈ keys rest, key ∉ seen ∧ key ∈ parts.map (·.name) := fun key hkey =>
        ⟨fun hmem => (hkeys key hkey).1 (.tail _ hmem), (hkeys key hkey).2⟩
      exact ⟨⟨⟨hfresh, hnodup⟩, ⟨hseen, List.mem_map_of_mem hp⟩, hrest⟩,
        (h.filled_cons hp hfresh).mpr ⟨a, hread, hfilled⟩⟩
    · rintro ⟨⟨⟨hfresh, hnodup⟩, ⟨hseen, hknown⟩, hkeys⟩, hfilled⟩
      obtain ⟨p, hp, rfl⟩ := List.mem_map.mp hknown
      obtain ⟨a, hread, hrest⟩ := (h.filled_cons hp hfresh).mp hfilled
      refine ⟨hseen, p, hp, rfl, a, hread, ⟨hnodup, ?_⟩, hrest⟩
      intro key hkey
      refine ⟨?_, (hkeys key hkey).2⟩
      rintro (_ | ⟨_, hmem⟩)
      · exact hfresh hkey
      · exact (hkeys key hkey).1 hmem

/-- Items are filled in as if they stood under the names of their fields. -/
theorem Lawful.fillItems_eq_ok_iff (h : Lawful parts) {suffix : List (RecordPart δ)}
    (hsuffix : suffix.Sublist parts) {items : List Document} :
    RecordField.fillItems draft (suffix.map field) items = .ok filled ↔
      items.length ≤ suffix.length ∧
        Filled parts draft (fun key => member? key ((suffix.map (·.name)).zip items)) filled := by
  have hnil (draft : δ) : Filled parts draft (fun key => member? key []) filled ↔ filled = draft :=
    h.filled_nil_iff
  -- Items are taken as long as there are fields, so the fields that are left go down with them.
  induction suffix generalizing items draft with
  | nil =>
    cases items with
    | nil => simp [RecordField.fillItems, hnil, eq_comm]
    | cons => simp [RecordField.fillItems]
  | cons p suffix ih =>
    cases items with
    | nil => simp [RecordField.fillItems, hnil, eq_comm]
    | cons value rest =>
      have hp : p ∈ parts := hsuffix.subset (.head _)
      have hnodup := (hsuffix.map (·.name)).nodup h.nodup
      have hfresh : p.name ∉ keys ((suffix.map (·.name)).zip rest) := fun hmem =>
        (List.nodup_cons.mp hnodup).1 ((Json.keys_zip_sublist _ rest).subset hmem)
      have hlater : suffix.Sublist parts := (List.sublist_cons_self p suffix).trans hsuffix
      simp only [List.map_cons, RecordField.fillItems, bind_eq_ok_iff, field_fill_eq_ok_iff,
        ih hlater, List.zip_cons_cons, h.filled_cons hp hfresh, List.length_cons,
        Nat.add_le_add_iff_right]
      constructor
      · rintro ⟨_, ⟨a, hread, rfl⟩, hlength, hfilled⟩
        exact ⟨hlength, a, hread, hfilled⟩
      · rintro ⟨hlength, a, hread, hfilled⟩
        exact ⟨_, ⟨a, hread, rfl⟩, hlength, hfilled⟩

/-- The names of some parts, which are those of their fields. -/
def names (parts : List (RecordPart δ)) : List String := parts.map (·.name)

/-- **A value is read exactly if it has the shape of a record and each field that is there can be
read.** -/
theorem Lawful.read_eq_ok_iff (h : Lawful parts) {v : Json} :
    RecordField.read (parts.map field) draft v.document = .ok filled ↔
      v.IsRecord (names parts) ∧
        Filled parts draft (fun key => (v.field? (names parts) key).map Json.document) filled := by
  have hclosed (d : δ) : RecordField.ifClosed true d = .ok d := rfl
  cases v with
  | object members =>
    simp only [Json.document, RecordField.read, hclosed, bind_eq_ok_iff, Except.ok.injEq,
      exists_eq_right, h.fillMembers_eq_ok_iff, Json.keys_memberDocuments,
      Json.member?_memberDocuments]
    simp [Json.IsRecord, Json.field?, Json.fieldsOf, names]
  | array items =>
    have hzip (key : String) :
        member? key ((names parts).zip (Json.itemDocuments items)) =
          (member? key ((names parts).zip items)).map Json.document := by
      rw [← Json.member?_memberDocuments, Json.memberDocuments_eq_map, Json.itemDocuments_eq_map,
        List.zip_map_right]
      rfl
    simp only [Json.document, RecordField.read, hclosed, bind_eq_ok_iff, Except.ok.injEq,
      exists_eq_right, h.fillItems_eq_ok_iff (List.Sublist.refl parts)]
    change _ ∧ Filled parts draft (fun key => member? key ((names parts).zip _)) filled ↔ _
    simp only [hzip]
    simp [Json.IsRecord, Json.field?, Json.fieldsOf, names, Json.itemDocuments_eq_map]
  | null | bool _ | number _ | string _ =>
    simp [Json.document, RecordField.read, Json.IsRecord]

/-- **What is put into a hole decides about its own part and about nothing else.** -/
theorem Lawful.read_fill_iff (h : Lawful parts) (hp : p ∈ parts) {hole : Json.Hole}
    (hhole : hole.IsOf (names parts) p.name) {v w : Json} {other : δ}
    (hread : RecordField.read (parts.map field) draft (hole.fill p.name v).document =
      .ok filled) :
    RecordField.read (parts.map field) draft (hole.fill p.name w).document = .ok other ↔
      ∃ a, p.read w.document = .ok a ∧ other = p.set a filled := by
  obtain ⟨hrecord, hfilled⟩ := h.read_eq_ok_iff.mp hread
  have hrecord' := Json.Hole.isRecord_fill w hrecord
  have hfound := Json.Hole.field?_fill hhole h.nodup hrecord'
  rw [h.read_eq_ok_iff]
  constructor
  · rintro ⟨-, hother⟩
    have hvalue := hother p hp
    simp only [hfound, Option.map_some, Option.elim_some] at hvalue
    refine ⟨p.get other, hvalue, ?_⟩
    -- Two records are one if they agree in every part: in this one and in those beside the hole.
    apply h.ext
    intro q hq
    by_cases hname : q.name = p.name
    · obtain rfl := h.eq_of_name_eq hp hq hname
      exact (h.get_set q hq _ _).symm
    · have hq' := hother q hq
      simp only [Json.Hole.field?_fill_of_ne hhole hname w v] at hq'
      rw [h.get_set_of_ne p hp q hq hname]
      exact Except.ok.inj (hq'.symm.trans (hfilled q hq))
  · rintro ⟨a, hvalue, rfl⟩
    refine ⟨hrecord', ?_⟩
    intro q hq
    by_cases hname : q.name = p.name
    · obtain rfl := h.eq_of_name_eq hp hq hname
      simp only [hfound, Option.map_some, Option.elim_some, h.get_set q hq]
      exact hvalue
    · simp only [h.get_set_of_ne p hp q hq hname, Json.Hole.field?_fill_of_ne hhole hname w v]
      exact hfilled q hq

end RecordPart
end SensorLink
