import Mathlib.Algebra.GroupWithZero.Nat
import SensorLink.Firmware.Sensor
import SensorLink.Proofs.Packet.Layout

/-!
# The blocks of an image carry the image

What a module gets to see of an update is a row of payloads. This file says that the row is the
image and nothing else, for every image that is accepted and for no other reason of refusal than
its size:

> **an update is refused exactly when its image is larger than the sequence numbers allow, and an
> update that is made numbers its blocks `0, 1, 2, …` without a gap up to the closing `0xFFFF`,
> fills every block but the last, and gives the image back from the payloads alone**
> (`ofImage_carries`).

`rest` cuts what is behind the length block and is the only recursion, so each fact is an induction
over `left`, the number of full blocks that it may still cut. Where there is a bound on the image,
the bound moves with `left`: what is left never needs more blocks than are left.
-/

namespace SensorLink

open Wire

namespace FirmwareBlock

/-! ## What is cut behind the length block -/

/-- What fits into one block is the last one, however many more could be cut. -/
theorem rest_of_length_le {image : Bytes} (h : image.length ≤ size) (sequence left : Nat) :
    rest sequence image left = [⟨finalSequence, image, image.length⟩] := by
  cases left with
  | zero => rfl
  | succ left =>
    have hnone : take? (size + 1) image = none := take?_eq_none_iff.mpr (by omega)
    rw [rest, hnone]

theorem rest_of_size_lt {image : Bytes} (h : size < image.length) (sequence left : Nat) :
    rest sequence image (left + 1) =
      ⟨UInt16.ofNat sequence, image.take size, size⟩
        :: rest (sequence + 1) (image.drop size) left := by
  rw [rest]
  split
  · rename_i hnone
    have := take?_eq_none_iff.mp hnone
    omega
  · rfl

/-- There is always a last block, even if the length block has room for the whole image. -/
theorem rest_ne_nil (sequence : Nat) (image : Bytes) (left : Nat) :
    rest sequence image left ≠ [] := by
  cases left with
  | zero => simp [rest]
  | succ left =>
    rw [rest]
    split <;> simp

/-- Nothing is lost where it is cut, and nothing comes twice. -/
theorem flatMap_payload_rest (sequence : Nat) (image : Bytes) (left : Nat) :
    (rest sequence image left).flatMap (·.payload) = image := by
  induction left generalizing sequence image with
  | zero => simp [rest]
  | succ left ih =>
    by_cases h : image.length ≤ size
    · simp [rest_of_length_le h]
    · rw [rest_of_size_lt (by omega), List.flatMap_cons, ih]
      exact List.take_append_drop size image

theorem sum_carried_rest (sequence : Nat) (image : Bytes) (left : Nat) :
    ((rest sequence image left).map (·.carried)).sum = image.length := by
  induction left generalizing sequence image with
  | zero => simp [rest]
  | succ left ih =>
    by_cases h : image.length ≤ size
    · simp [rest_of_length_le h]
    · have hle : size ≤ image.length := by omega
      rw [rest_of_size_lt (by omega), List.map_cons, List.sum_cons, ih, List.length_drop]
      exact Nat.add_sub_of_le hle

/-- The numbers go on from `sequence` and close with the final one. They do not wrap as long as
`left` more of them stay below it. -/
theorem sequences_rest (sequence left : Nat) (h : sequence + left ≤ 0xFFFF) (image : Bytes) :
    ∃ n ≤ left, (rest sequence image left).map (·.sequence.toNat) =
      List.range' sequence n ++ [0xFFFF] := by
  induction left generalizing sequence image with
  | zero => exact ⟨0, Nat.le_refl 0, rfl⟩
  | succ left ih =>
    by_cases hlen : image.length ≤ size
    · exact ⟨0, Nat.zero_le _, by rw [rest_of_length_le hlen]; rfl⟩
    · obtain ⟨n, hn, hrest⟩ := ih (sequence + 1) (by omega) (image.drop size)
      refine ⟨n + 1, by omega, ?_⟩
      have hnum : (UInt16.ofNat sequence).toNat = sequence := by
        rw [UInt16.toNat_ofNat']
        omega
      rw [rest_of_size_lt (by omega), List.map_cons, hrest, List.range'_succ, List.cons_append]
      simp only [hnum]

/-- Every block that another one follows was cut at full size. -/
theorem length_of_mem_dropLast_rest {sequence left : Nat} {image : Bytes} {block : FirmwareBlock}
    (h : block ∈ (rest sequence image left).dropLast) : block.payload.length = size := by
  induction left generalizing sequence image with
  | zero => simp [rest] at h
  | succ left ih =>
    by_cases hlen : image.length ≤ size
    · simp [rest_of_length_le hlen] at h
    · rw [rest_of_size_lt (by omega), List.dropLast_cons_of_ne_nil (rest_ne_nil _ _ _)] at h
      rcases List.mem_cons.mp h with rfl | h
      · exact List.length_take_of_le (by omega)
      · exact ih h

/-- An image for which there are blocks enough leaves no more than one block's worth to the last. -/
theorem length_getLast_rest {sequence left : Nat} {image : Bytes} {block : FirmwareBlock}
    (hfit : image.length ≤ size * left + size)
    (h : block ∈ (rest sequence image left).getLast?) : block.payload.length ≤ size := by
  induction left generalizing sequence image with
  | zero =>
    simp only [rest, List.getLast?_singleton, Option.mem_def, Option.some.injEq] at h
    subst h
    simpa using hfit
  | succ left ih =>
    by_cases hlen : image.length ≤ size
    · simp only [rest_of_length_le hlen, List.getLast?_singleton, Option.mem_def,
        Option.some.injEq] at h
      subst h
      exact hlen
    · rw [rest_of_size_lt (by omega), List.getLast?_cons_of_ne_nil (rest_ne_nil _ _ _)] at h
      refine ih ?_ h
      rw [List.length_drop]
      rw [Nat.mul_succ] at hfit
      omega

/-! ## All blocks -/

theorem length_header : header.payload.length = size := by
  rw [header, List.length_append, length_u16, List.length_replicate]
  rfl

theorem length_lengthBlock {first : Bytes} (h : first.length ≤ lengthBlockRoom) (length : Nat) :
    (lengthBlock length first).payload.length = size := by
  simp only [lengthBlock, List.length_append, length_u32, List.length_replicate]
  unfold lengthBlockRoom size at h ⊢
  omega

theorem length_take_room (image : Bytes) :
    (image.take lengthBlockRoom).length = min lengthBlockRoom image.length :=
  List.length_take

/-- The header and the length block take the first two numbers, so there are always two before the
closing one. -/
theorem sequences_ofImage (image : Bytes) :
    ∃ n, 2 ≤ n ∧ n ≤ 0xFFFF ∧
      (ofImage image).map (·.sequence.toNat) = List.range n ++ [0xFFFF] := by
  obtain ⟨n, hn, hrest⟩ :=
    sequences_rest 2 maxContinuations (by decide) (image.drop lengthBlockRoom)
  refine ⟨n + 2, by omega, by unfold maxContinuations at hn; omega, ?_⟩
  rw [ofImage, List.map_cons, List.map_cons, hrest, List.range_eq_range', List.range'_succ,
    List.range'_succ]
  rfl

/-- The closing number is above all others as long as there are fewer blocks than numbers. -/
theorem pairwise_lt_range_append {n last : Nat} (h : n ≤ last) :
    (List.range n ++ [last]).Pairwise (· < ·) := by
  refine List.pairwise_append.mpr ⟨List.pairwise_lt_range, by simp, ?_⟩
  intro i hi j hj
  have hi := List.mem_range.mp hi
  have hj := List.mem_singleton.mp hj
  omega

theorem length_of_mem_dropLast {image : Bytes} {block : FirmwareBlock}
    (h : block ∈ (ofImage image).dropLast) : block.payload.length = size := by
  rw [ofImage, List.dropLast_cons_of_ne_nil (List.cons_ne_nil _ _),
    List.dropLast_cons_of_ne_nil (rest_ne_nil _ _ _)] at h
  rcases List.mem_cons.mp h with rfl | h
  · exact length_header
  rcases List.mem_cons.mp h with rfl | h
  · exact length_lengthBlock (by rw [length_take_room]; exact Nat.min_le_left _ _) _
  · exact length_of_mem_dropLast_rest h

/-- The bound on the image is needed here alone: without it the last block would have to take
whatever is left when the numbers run out. -/
theorem length_getLast {image : Bytes} {block : FirmwareBlock} (hfit : image.length ≤ maxImage)
    (h : block ∈ (ofImage image).getLast?) : block.payload.length ≤ size := by
  rw [ofImage, List.getLast?_cons_of_ne_nil (List.cons_ne_nil _ _),
    List.getLast?_cons_of_ne_nil (rest_ne_nil _ _ _)] at h
  refine length_getLast_rest ?_ h
  rw [List.length_drop]
  unfold maxImage at hfit
  omega

theorem length_of_mem {image : Bytes} {block : FirmwareBlock} (hfit : image.length ≤ maxImage)
    (h : block ∈ ofImage image) : block.payload.length ≤ size := by
  have hne : ofImage image ≠ [] := List.cons_ne_nil _ _
  rw [← List.dropLast_concat_getLast hne] at h
  rcases List.mem_append.mp h with h | h
  · exact Nat.le_of_eq (length_of_mem_dropLast h)
  · rw [List.mem_singleton.mp h]
    exact length_getLast hfit (List.getLast?_eq_some_getLast hne)

theorem sum_carried (image : Bytes) : ((ofImage image).map (·.carried)).sum = image.length := by
  rw [ofImage, List.map_cons, List.map_cons, List.sum_cons, List.sum_cons, sum_carried_rest]
  simp only [header, lengthBlock, List.length_take, List.length_drop]
  omega

/-! ## Reading the image back -/

/-- What a module makes of the payloads that it was sent: the second one begins with the length of
the image, and the image is the first so many bytes of what follows. -/
def recover? : List Bytes → Option Bytes
  | _ :: first :: later => some ((first.drop 4 ++ later.flatten).take (leValue (first.take 4)))
  | _ => none

/-- What fills up the length block. -/
def padding (image : Bytes) : Bytes := List.replicate (lengthBlockRoom - image.length) filler

theorem payload_lengthBlock (image : Bytes) :
    (lengthBlock image.length (image.take lengthBlockRoom)).payload =
      u32 (UInt32.ofNat image.length) ++ (image.take lengthBlockRoom ++ padding image) := by
  simp only [lengthBlock, padding, length_take_room, List.append_assoc]
  congr 3
  omega

/-- The length is written in four bytes, and an image that is accepted has no length above them. -/
theorem leValue_length {image : Bytes} (hfit : image.length ≤ maxImage) :
    leValue ((lengthBlock image.length (image.take lengthBlockRoom)).payload.take 4) =
      image.length := by
  rw [payload_lengthBlock, List.take_left' (length_u32 _), u32, leValue_leBytes,
    UInt32.toNat_ofNat']
  have : maxImage < 2 ^ 32 := by decide
  omega

/-- What is behind the length is the image and then the filler of a short one. A module that knows
the length knows where to stop. -/
theorem stream_eq (image : Bytes) (sequence left : Nat) :
    (lengthBlock image.length (image.take lengthBlockRoom)).payload.drop 4
        ++ (rest sequence (image.drop lengthBlockRoom) left).flatMap (·.payload) =
      image ++ padding image := by
  rw [payload_lengthBlock, List.drop_left' (length_u32 _), flatMap_payload_rest]
  -- Either the image ends in the length block, or it leaves no room there to be filled.
  by_cases h : image.length ≤ lengthBlockRoom
  · simp [List.take_of_length_le h, List.drop_of_length_le h]
  · have hnone : padding image = [] := by
      rw [padding, Nat.sub_eq_zero_of_le (by omega), List.replicate_zero]
    simp [hnone]

end FirmwareBlock

namespace FirmwareUpdate

/-- The blocks of an update are an image, cut up. -/
structure Carries (update : FirmwareUpdate) (image : Bytes) : Prop where
  length : update.length = image.length
  /-- The blocks are numbered from zero without a gap, and one final number closes the row. -/
  numbered : ∃ n, 2 ≤ n ∧ n ≤ 0xFFFF ∧
    update.blocks.map (·.sequence.toNat) = List.range n ++ [0xFFFF]
  increasing : (update.blocks.map (·.sequence.toNat)).Pairwise (· < ·)
  full : ∀ block ∈ update.blocks.dropLast, block.payload.length = 238
  last : ∀ block ∈ update.blocks.getLast?, block.payload.length ≤ 238
  carried : (update.blocks.map (·.carried)).sum = image.length
  readable : ∀ unixTime, ∀ block ∈ update.blocks, ∃ frame,
    (Packet.downlinkRequest (update.request unixTime block)).encode = .ok frame ∧
    Packet.decode .hostToRouter frame = .ok (.downlinkRequest (update.request unixTime block))
  recovered : FirmwareBlock.recover? (update.blocks.map (·.payload)) = some image
  /-- What follows the image is filler, and all of it stands at the end of the length block. -/
  padded : ∃ header first later padding, update.blocks = header :: first :: later ∧
    first.sequence = 0x0001 ∧ leValue (first.payload.take 4) = image.length ∧
    first.payload.drop 4 = image.take 234 ++ padding ∧
    later.flatMap (·.payload) = image.drop 234 ∧
    first.payload.drop 4 ++ later.flatMap (·.payload) = image ++ padding ∧
    ∀ byte ∈ padding, byte = 0xFF

open FirmwareBlock in
theorem carries (device : DeviceId) (sensor : UInt16) {image : Bytes}
    (hfit : image.length ≤ maxImage) :
    Carries ⟨device, sensor, image.length, FirmwareBlock.ofImage image⟩ image where
  length := rfl
  numbered := sequences_ofImage image
  increasing := by
    obtain ⟨n, _, hn, h⟩ := sequences_ofImage image
    rw [h]
    exact pairwise_lt_range_append hn
  full _ := length_of_mem_dropLast
  last _ := length_getLast hfit
  carried := sum_carried image
  readable unixTime block hblock := by
    -- A block is far below the limit of a payload, so its request is written and reads back.
    have hsize : ¬ (Packet.downlinkRequest
        (request ⟨device, sensor, image.length, FirmwareBlock.ofImage image⟩ unixTime
          block)).Oversized := by
      rintro ⟨-, hover⟩
      have hlen : block.payload.length ≤ size := length_of_mem hfit hblock
      simp only [Packet.payload, request] at hover
      unfold maxPayload at hover
      unfold size at hlen
      omega
    have hencode := Packet.encode_eq_ok_iff.mpr ⟨hsize, rfl⟩
    exact ⟨_, hencode, Packet.decode_encode hencode⟩
  recovered := by
    rw [FirmwareBlock.ofImage, List.map_cons, List.map_cons, recover?, leValue_length hfit,
      ← List.flatMap_def, stream_eq, List.take_left' rfl]
  padded := by
    refine ⟨_, _, _, padding image, rfl, rfl, leValue_length hfit, ?_, flatMap_payload_rest _ _ _,
      stream_eq image _ _, fun byte hbyte => List.eq_of_mem_replicate hbyte⟩
    rw [payload_lengthBlock, List.drop_left' (length_u32 _)]
    rfl

/-- **Every image up to the limit is carried by its blocks, and only larger ones are refused.** -/
theorem ofImage_carries (device : DeviceId) (sensor : UInt16) (image : Bytes) :
    ((∃ cause, ofImage device sensor image = .error (.invalidParameter cause)) ↔
      234 + 238 * 0xFFFD + 238 < image.length) ∧
    (image.length ≤ 234 + 238 * 0xFFFD + 238 →
      ∃ update, ofImage device sensor image = .ok update ∧ update.device = device ∧
        update.sensor = sensor ∧ update.Carries image) := by
  have hmax : FirmwareBlock.maxImage = 234 + 238 * 0xFFFD + 238 := rfl
  rw [← hmax, ofImage]
  by_cases h : FirmwareBlock.maxImage < image.length
  · rw [if_pos h]
    exact ⟨⟨fun _ => h, fun _ => ⟨_, rfl⟩⟩, fun hle => absurd h (Nat.not_lt.mpr hle)⟩
  · rw [if_neg h]
    refine ⟨⟨fun ⟨_, herr⟩ => (nomatch herr), fun hlt => absurd hlt h⟩, fun hle => ?_⟩
    exact ⟨_, rfl, rfl, rfl, carries device sensor hle⟩

/-- An image one byte too long for the length block and the last block together. -/
theorem ofImage_carries_one_continuation :
    let image : Bytes := List.replicate 473 0xA5
    image.length ≤ 234 + 238 * 0xFFFD + 238 ∧
    ∃ update, ofImage 0x2468800203400004 0x0121 image = .ok update ∧
      update.device = 0x2468800203400004 ∧ update.sensor = 0x0121 ∧ update.Carries image := by
  intro image
  have h : image.length ≤ 234 + 238 * 0xFFFD + 238 := by
    rw [List.length_replicate]
    decide
  exact ⟨h, (ofImage_carries 0x2468800203400004 0x0121 image).2 h⟩

end FirmwareUpdate
end SensorLink
