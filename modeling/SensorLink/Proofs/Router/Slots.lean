import SensorLink.Proofs.Router.Interpretation
import SensorLink.Router.Slot

/-!
# Commands for one slot

A slot of the device table is read and cleared by codes that count up from a base, a hundred of
either kind, and one byte has to hold both runs beside the nine codes of the fixed commands. A code
is what the router acts on, what an answer is named by, what its end is found by and what its bytes
mean. The last three follow from the command that the code is read as, and the fixed commands are
looked for first (`ofCode`), so a slot whose code is also a fixed one loses all three at once.

> **all the slots that are accepted can be read, and all but the last can be cleared; clearing the
> last has the code of reading the whole table** (`slots_told_apart`).

The run of clearing starts right behind "remove all". From there to "read all" there are ninety-nine
codes, one less than there are slots (`last_slot_collides`).
-/

namespace SensorLink

open Wire

namespace RouterCommand

/-- A command that has one code. -/
def isFixed : RouterCommand → Bool
  | .getDevice _ | .removeDevice _ | .unknown _ => false
  | _ => true

theorem ofCode_code {c : RouterCommand} (h : c.isFixed = true) : ofCode c.code = c := by
  cases c with
  | getDevice slot | removeDevice slot | unknown code => cases h
  | _ => rfl

/-- What holds of the first bytes one by one holds of each of them. -/
theorem of_forall_lt {bound : Nat} {P : UInt8 → Prop} (h : ∀ n < bound, P (UInt8.ofNat n))
    {b : UInt8} (hb : b.toNat < bound) : P b := by
  have hall := h b.toNat hb
  rwa [UInt8.ofNat_toNat] at hall

theorem ofCode_getDevice {slot : UInt8} (h : slot ≤ maxSlot) :
    ofCode (getDeviceBase + slot) = .getDevice slot := by
  have hall : ∀ n < 100, ofCode (getDeviceBase + UInt8.ofNat n) = .getDevice (UInt8.ofNat n) := by
    decide
  have hslot : slot.toNat < 100 := Nat.lt_succ_of_le (UInt8.le_iff_toNat_le.mp h)
  exact of_forall_lt (P := fun slot => ofCode (getDeviceBase + slot) = .getDevice slot) hall hslot

theorem ofCode_removeDevice {slot : UInt8} (h : slot < maxSlot) :
    ofCode (removeDeviceBase + slot) = .removeDevice slot := by
  have hall : ∀ n < 99,
      ofCode (removeDeviceBase + UInt8.ofNat n) = .removeDevice (UInt8.ofNat n) := by
    decide
  have hslot : slot.toNat < 99 := UInt8.lt_iff_toNat_lt.mp h
  exact of_forall_lt (P := fun slot => ofCode (removeDeviceBase + slot) = .removeDevice slot) hall
    hslot

/-! ## Who a code speaks for -/

/-- How answers with a code are taken: as answers to a command, by its name, cut off behind so many
bytes of payload whatever these are and whatever follows them. -/
structure SpeaksFor (code : UInt8) (command : RouterCommand) (name : String) (length : Nat) :
    Prop where
  read : ofCode code = command
  alone : ∀ c : RouterCommand, c.isFixed = true → c.code ≠ code
  named : (ofCode code).name = name
  framed : ∀ payload, replyLength? code payload = some length
  found : ∀ (r : JigInfoResponse) (kept : Bytes), r.command = code → r.version = protocolVersion →
    r.payload.length = length → ∃ raw, Packet.encode (.jigInfoResponse r) = .ok raw ∧
      Framer.next ⟨.routerToHost, raw ++ kept⟩ =
        some (.packet (.jigInfoResponse r) raw, ⟨.routerToHost, kept⟩)

/-- A frame at the front of a framer is the next thing that it says. -/
theorem next_of_validFrame {d : Direction} {p : Packet} {raw : Bytes} (kept : Bytes)
    (h : ValidFrame d p raw) : Framer.next ⟨d, raw ++ kept⟩ = some (.packet p raw, ⟨d, kept⟩) := by
  rw [Framer.next_of_frame (h.frameLength_eq kept), FramerEvent.ofFrame, h.decode_eq]

/-- A reply whose length is known from its command is framed by itself, whatever bytes come behind
it. -/
theorem found_of_framed {code : UInt8} {length : Nat} {r : JigInfoResponse} (kept : Bytes)
    (hframed : ∀ payload, replyLength? code payload = some length) (hcommand : r.command = code)
    (hversion : r.version = protocolVersion) (hlength : r.payload.length = length) :
    ∃ raw, Packet.encode (.jigInfoResponse r) = .ok raw ∧
      Framer.next ⟨.routerToHost, raw ++ kept⟩ =
        some (.packet (.jigInfoResponse r) raw, ⟨.routerToHost, kept⟩) := by
  have hdelimited : (Packet.jigInfoResponse r).SelfDelimiting := by
    refine ⟨hversion, ?_⟩
    intro other hother
    cases hother
    rw [hcommand, hlength]
    exact hframed r.payload
  have hsize : ¬ (Packet.jigInfoResponse r).Oversized := by
    rintro ⟨hfield, -⟩
    cases hfield
  have hvalid := ValidFrame.of_layout rfl hsize hdelimited
  exact ⟨_, hvalid.encoded, next_of_validFrame kept hvalid⟩

/-- A code that is read as the command for a slot speaks for it in everything. -/
theorem SpeaksFor.of_read {code : UInt8} {command : RouterCommand} {length : Nat}
    (hread : ofCode code = command) (hslot : command.isFixed = false)
    (hframed : ∀ payload, command.replyShape.length? payload = some length) :
    SpeaksFor code command command.name length := by
  subst hread
  refine ⟨rfl, ?_, rfl, hframed, ?_⟩
  · rintro c hc rfl
    rw [ofCode_code hc, hc] at hslot
    cases hslot
  · intro r kept hcommand hversion hlength
    exact found_of_framed kept hframed hcommand hversion hlength

/-! ## The slots that are accepted -/

/-- The two families of slot commands build their code in one way, and for the slots that there are.
-/
theorem map_checkSlot_eq_ok_iff {base slot code : UInt8} :
    (checkSlot slot).map (fun _ => base + slot) = .ok code ↔
      slot ≤ maxSlot ∧ code = base + slot := by
  unfold checkSlot
  split
  · rename_i hbeyond
    have hnot : ¬ slot ≤ maxSlot := UInt8.not_le.mpr hbeyond
    simp [Except.map, hnot]
  · rename_i hwithin
    have hle : slot ≤ maxSlot := UInt8.not_lt.mp hwithin
    simp [Except.map, hle, eq_comm]

theorem exists_map_checkSlot_iff {base slot : UInt8} :
    (∃ code, (checkSlot slot).map (fun _ => base + slot) = .ok code) ↔ slot ≤ maxSlot := by
  constructor
  · rintro ⟨code, h⟩
    exact (map_checkSlot_eq_ok_iff.mp h).1
  · intro h
    exact ⟨base + slot, map_checkSlot_eq_ok_iff.mpr ⟨h, rfl⟩⟩

theorem speaksFor_getDevice {slot : UInt8} (h : slot ≤ maxSlot) :
    SpeaksFor (getDeviceBase + slot) (.getDevice slot)
      ("GET_DEVICE_ID_INDEX_" ++ toString slot.toNat) 9 :=
  .of_read (ofCode_getDevice h) rfl fun _ => rfl

/-- Slot 99 is left out: its code is that of the command for all ids, and is read as that. -/
theorem speaksFor_removeDevice {slot : UInt8} (h : slot < maxSlot) :
    SpeaksFor (removeDeviceBase + slot) (.removeDevice slot)
      ("REMOVE_DEVICE_ID_INDEX_" ++ toString slot.toNat) 1 :=
  .of_read (ofCode_removeDevice h) rfl fun _ => rfl

/-! ## What the answers mean -/

theorem parse_of_deviceSlot {r : JigInfoResponse} {index : UInt8} {id : UInt64} {rest : Bytes}
    (hshape : (ofCode r.command).replyShape = .deviceSlot)
    (hpayload : r.payload = index :: (u64 id ++ rest)) :
    RouterReply.parse r = .ok (.device ⟨index, id⟩) := by
  rw [RouterReply.parse_eq_ok_iff, hshape, hpayload, RouterReply.ofPayload?,
    readU64_eq_some_iff.mpr rfl]
  rfl

theorem parse_of_status {r : JigInfoResponse} {status : UInt8} {rest : Bytes}
    (hshape : (ofCode r.command).replyShape = .status) (hpayload : r.payload = status :: rest) :
    RouterReply.parse r = .ok (.status (status = 0x01)) := by
  rw [RouterReply.parse_eq_ok_iff, hshape, hpayload]
  rfl

/-- The one slot whose removal is a fixed command is the last. -/
theorem exists_fixed_iff {slot : UInt8} (h : slot ≤ maxSlot) :
    (∃ c : RouterCommand, c.isFixed = true ∧ c.code = removeDeviceBase + slot) ↔
      slot = maxSlot := by
  constructor
  · rintro ⟨c, hfixed, hcode⟩
    apply Decidable.byContradiction
    intro hne
    have hlt : slot < maxSlot := UInt8.lt_of_le_of_ne h hne
    exact (speaksFor_removeDevice hlt).alone c hfixed hcode
  · rintro rfl
    exact ⟨.getAllDevices, rfl, rfl⟩

/-- **A command for a slot is taken for nothing else, but for clearing the last slot.** Reading and
clearing accept the same slots. The code of reading a slot is that of no fixed command; answers to
it are named after the slot, end nine bytes into their payload and mean one slot of the table. The
same holds of clearing a slot, with one byte that is a status, unless it is the last slot: its code
is that of a fixed command, and it is the only such slot. -/
theorem slots_told_apart (slot : UInt8) :
    ((∃ code, getDeviceCode slot = .ok code) ↔ slot ≤ maxSlot) ∧
    ((∃ code, removeDeviceCode slot = .ok code) ↔ slot ≤ maxSlot) ∧
    (∀ code, getDeviceCode slot = .ok code →
      SpeaksFor code (.getDevice slot) ("GET_DEVICE_ID_INDEX_" ++ toString slot.toNat) 9 ∧
      ∀ r : JigInfoResponse, r.command = code → 9 ≤ r.payload.length →
        ∃ index id rest, r.payload = index :: (u64 id ++ rest) ∧
          RouterReply.parse r = .ok (.device ⟨index, id⟩)) ∧
    ∀ code, removeDeviceCode slot = .ok code →
      ((∃ c : RouterCommand, c.isFixed = true ∧ c.code = code) ↔ slot = maxSlot) ∧
      (slot ≠ maxSlot →
        SpeaksFor code (.removeDevice slot) ("REMOVE_DEVICE_ID_INDEX_" ++ toString slot.toNat) 1 ∧
        ∀ r : JigInfoResponse, r.command = code → 1 ≤ r.payload.length →
          ∃ status rest, r.payload = status :: rest ∧
            RouterReply.parse r = .ok (.status (status = 0x01))) := by
  refine ⟨exists_map_checkSlot_iff, exists_map_checkSlot_iff, ?_, ?_⟩
  · intro code hcode
    obtain ⟨hslot, rfl⟩ := map_checkSlot_eq_ok_iff.mp hcode
    refine ⟨speaksFor_getDevice hslot, ?_⟩
    intro r hcommand hlength
    obtain ⟨index, entry, hpayload, hentry⟩ := exists_u8 r.payload (by omega)
    obtain ⟨id, rest, rfl, -⟩ := exists_u64 entry (by omega)
    refine ⟨index, id, rest, hpayload, parse_of_deviceSlot ?_ hpayload⟩
    rw [hcommand, ofCode_getDevice hslot]
    rfl
  · intro code hcode
    obtain ⟨hslot, rfl⟩ := map_checkSlot_eq_ok_iff.mp hcode
    refine ⟨exists_fixed_iff hslot, ?_⟩
    intro hlast
    -- The last slot's code is the one that is taken, and it is not this one.
    have hlt : slot < maxSlot := UInt8.lt_of_le_of_ne hslot hlast
    refine ⟨speaksFor_removeDevice hlt, ?_⟩
    intro r hcommand hlength
    obtain ⟨status, rest, hpayload, -⟩ := exists_u8 r.payload hlength
    refine ⟨status, rest, hpayload, parse_of_status ?_ hpayload⟩
    rw [hcommand, ofCode_removeDevice hlt]
    rfl

/-- Clearing slot 99 is accepted and has the code of reading the whole table. Its answer is named
after that, its status byte is taken for a count of devices, and a byte that says "done" for one
device that has not arrived yet. -/
theorem last_slot_collides :
    let answer : JigInfoResponse :=
      { unixTime := 0, command := 0xCF, router := 9, payload := [0x01] }
    removeDeviceCode 99 = .ok answer.command ∧
    RouterCommand.getAllDevices.isFixed = true ∧ RouterCommand.getAllDevices.code = answer.command ∧
    (ofCode answer.command).name = "GET_DEVICE_ID_ALL" ∧
    (ofCode answer.command).name ≠ "REMOVE_DEVICE_ID_INDEX_99" ∧
    replyLength? answer.command answer.payload = some 9 ∧
    RouterReply.parse answer = .error (.shortReply .getAllDevices 9 1) ∧
    RouterReply.parse { answer with payload := [0x00] } = .ok (.devices []) := by
  refine ⟨rfl, rfl, rfl, rfl, by decide, rfl, rfl, rfl⟩

end RouterCommand
end SensorLink
