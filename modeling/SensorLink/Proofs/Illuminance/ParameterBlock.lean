import SensorLink.Illuminance.Settings
import SensorLink.Proofs.Illuminance.Updates

/-!
# A report and an update have the same bytes

A sensor reports its parameters in 24 bytes and takes new ones in 21. The reader of the one and the
writer of the other are two pieces of code, and most fields have a neighbour of the same width. If
two such neighbours stood the other way round in one of them, whoever reads the parameters and
writes them back would set the transmission power by the advertising mode, and no length would be
wrong. So the two are tied together byte for byte:

> **writing back what was read gives the bytes that were read, less the three of the firmware
> version; a report put together from an update reads as what the update was made of**
> (`layouts_agree`).

The same exchange made in both would still agree with itself. `Field.offset` is there for that: it
is the table of where the fields stand, and what is read is held against it.
-/

namespace SensorLink

open Wire

/-- How many bytes a number of a width takes. -/
def Width.bytes : Width → Nat
  | .byte => 1
  | .word => 2
  | .long => 4

namespace Illuminance

/-- Where a parameter stands in a report. -/
def Field.offset : Field → Nat
  | .timezone => 5
  | .bleMode => 6
  | .txPower => 7
  | .advertiseInterval => 8
  | .uplinkInterval => 10
  | .readMode => 14
  | .sampling => 15
  | .hysteresisHigh => 16
  | .hysteresisLow => 20

theorem Field.offset_le (f : Field) : f.offset + f.width.bytes ≤ 24 := by
  cases f <;> decide

def FirmwareVersion.bytes (v : FirmwareVersion) : Bytes := [v.major, v.minor, v.patch]

namespace Parameters

/-! ## One block behind both -/

theorem length_setPayload (p : Parameters) : p.setPayload.length = 21 := by
  simp [setPayload, length_settingBytes]

/-- An update is a report without the firmware version. -/
theorem setPayload_eq (p : Parameters) : p.setPayload = p.block.take 2 ++ p.block.drop 5 := by
  have htake : p.block.take 2 = u16 p.sensor := by
    simp [block]
  have hdrop : p.block.drop 5 = p.settingBytes := by
    simp [block, List.drop_append]
  rw [htake, hdrop, setPayload]

theorem block_eq (p : Parameters) :
    p.block = p.setPayload.take 2 ++ p.firmware.bytes ++ p.setPayload.drop 2 := by
  have htake : p.setPayload.take 2 = u16 p.sensor := by
    simp [setPayload]
  have hdrop : p.setPayload.drop 2 = p.settingBytes := by
    simp [setPayload]
  rw [htake, hdrop]
  simp [block, FirmwareVersion.bytes]

/-- A report is read from its first 24 bytes, and these are the block of what is read. -/
theorem parse_eq_ok_iff_take {p : Parameters} {payload : Bytes} :
    parse payload = .ok p ↔ payload.take 24 = p.block := by
  rw [parse_eq_ok_iff]
  constructor
  · rintro ⟨rest, rfl⟩
    rw [← length_block p, List.take_left]
  · intro h
    refine ⟨payload.drop 24, ?_⟩
    rw [← h, List.take_append_drop]

/-! ## Where the parameters stand -/

theorem fieldBytes_block (p : Parameters) (f : Field) :
    (p.block.drop f.offset).take f.width.bytes = leBytes f.width.bytes (f.get p) := by
  cases f <;>
    simp [block, settingBytes, u16, u32, leBytes, Field.offset, Field.width, Width.bytes, Field.get]

theorem get_lt (p : Parameters) (f : Field) : f.get p < 256 ^ f.width.bytes := by
  cases f with
  | timezone | bleMode | txPower | readMode | sampling => exact UInt8.toNat_lt _
  | advertiseInterval => exact UInt16.toNat_lt _
  | uplinkInterval | hysteresisHigh | hysteresisLow => exact UInt32.toNat_lt _

/-- A parameter is the number at its place. -/
theorem get_eq_leValue (p : Parameters) (f : Field) :
    f.get p = leValue ((p.block.drop f.offset).take f.width.bytes) := by
  rw [fieldBytes_block, leValue_leBytes, Nat.mod_eq_of_lt (get_lt p f)]

theorem sensor_eq_leValue (p : Parameters) : p.sensor.toNat = leValue (p.block.take 2) := by
  have htake : p.block.take 2 = leBytes 2 p.sensor.toNat := by
    simp [block, u16]
  have hlt : p.sensor.toNat < 256 ^ 2 := p.sensor.toNat_lt
  rw [htake, leValue_leBytes, Nat.mod_eq_of_lt hlt]

theorem firmware_eq (p : Parameters) : p.firmware.bytes = (p.block.drop 2).take 3 := by
  simp [block, FirmwareVersion.bytes]

/-- What stands inside the block does not depend on what follows it. -/
theorem take_drop_block {payload : Bytes} {start count : Nat} (h : start + count ≤ 24) :
    ((payload.take 24).drop start).take count = (payload.drop start).take count := by
  rw [List.drop_take, List.take_take, Nat.min_eq_left (by omega)]

/-! ## The two layouts -/

/-- **What is read can be written back, and what is written can be read.** A payload is read if it
has 24 bytes, and the bytes behind these do not matter. The update made of what was read is the
report less its bytes 2 to 4, and every parameter was read from its own place; a report that is put
together from an update and a firmware version is read as the parameters that these came from. -/
theorem layouts_agree :
    (∀ payload : Bytes,
      ((∃ p, parse payload = .ok p) ↔ 24 ≤ payload.length) ∧
      ∀ p, (parse payload = .ok p ↔ parse (payload.take 24) = .ok p) ∧
        (parse payload = .ok p →
          p.setPayload = payload.take 2 ++ (payload.take 24).drop 5 ∧
          p.setPayload.length = 21 ∧
          p.sensor.toNat = leValue (payload.take 2) ∧
          p.firmware.bytes = (payload.drop 2).take 3 ∧
          ∀ f : Field, f.get p = leValue ((payload.drop f.offset).take f.width.bytes))) ∧
    ∀ (p : Parameters) (rest : Bytes),
      parse (p.setPayload.take 2 ++ p.firmware.bytes ++ p.setPayload.drop 2 ++ rest) = .ok p := by
  constructor
  · intro payload
    refine ⟨exists_parse_iff, fun p => ⟨?_, ?_⟩⟩
    · rw [parse_eq_ok_iff_take, parse_eq_ok_iff_take, List.take_take, Nat.min_self]
    · intro h
      -- What follows is said of the block, which is the front of the payload.
      have hblock : payload.take 24 = p.block := parse_eq_ok_iff_take.mp h
      have hfront : payload.take 2 = p.block.take 2 := by
        rw [← hblock, List.take_take]
        rfl
      refine ⟨?_, length_setPayload p, ?_, ?_, ?_⟩
      · rw [setPayload_eq, hfront, hblock]
      · rw [hfront]
        exact sensor_eq_leValue p
      · rw [← take_drop_block (by decide), hblock]
        exact firmware_eq p
      · intro f
        rw [← take_drop_block f.offset_le, hblock]
        exact get_eq_leValue p f
  · intro p rest
    rw [← block_eq]
    exact parse_eq_ok_iff.mpr ⟨rest, rfl⟩

/-- No two bytes of this report are alike. -/
example : ((parse ((List.range 30).map UInt8.ofNat)).map setPayload).toOption =
    some ((0 :: 1 :: List.range' 5 19).map UInt8.ofNat) := by decide

end Parameters
end Illuminance
end SensorLink
