import Mathlib.Algebra.GroupWithZero.Nat
import SensorLink.Firmware.Router

/-!
# What a router can read off the chunks of its image

The chunks of an image reach the router as one stream of bytes, and it answers none of them. All
that it has to find its way by is what was announced and the length in front of each chunk. One
chunk without bytes, or a length that does not say how many follow, and everything behind it is
misread. `records?` is such a router, which knows of no chunk boundaries:

> **whatever an image is cut into, it reads as exactly the parts of the image, from the first byte
> to the last, and their sizes add up to what was announced** (`describes_chunks`).

The reader takes nothing else (`records?_eq_some_iff`): a stream that it reads to its end is one of
chunks, and there is only one way to cut it.
-/

namespace SensorLink.RouterImage

open Wire

variable {image : RouterImage} {bytes : Bytes}

/-! ## Images -/

/-- The length of an image is announced in four bytes; that, and that there is something to
announce, is all that is asked of it. -/
theorem ofBytes_eq_ok_iff :
    ofBytes bytes = .ok image ↔ image.bytes = bytes ∧ bytes ≠ [] ∧ bytes.length < 2 ^ 32 := by
  obtain ⟨own⟩ := image
  unfold ofBytes
  split
  · rename_i hempty
    simp [List.isEmpty_iff.mp hempty]
  · rename_i hempty
    have hfilled : bytes ≠ [] := fun h => hempty (List.isEmpty_iff.mpr h)
    split
    · rename_i hlong
      simp only [reduceCtorEq, false_iff, not_and, Nat.not_lt]
      exact fun _ _ => hlong
    · rename_i hlong
      simp only [Except.ok.injEq, mk.injEq]
      exact ⟨fun h => ⟨h.symm, hfilled, Nat.not_le.mp hlong⟩, fun h => h.1.symm⟩

theorem exists_ofBytes_error_iff :
    (∃ problem, ofBytes bytes = .error (.invalidParameter problem)) ↔
      bytes = [] ∨ 2 ^ 32 ≤ bytes.length := by
  unfold ofBytes
  split
  · rename_i hempty
    simp [List.isEmpty_iff.mp hempty]
  · rename_i hempty
    have hfilled : bytes ≠ [] := fun h => hempty (List.isEmpty_iff.mpr h)
    split
    · rename_i hlong
      exact ⟨fun _ => .inr hlong, fun _ => ⟨_, rfl⟩⟩
    · rename_i hlong
      simp only [reduceCtorEq, exists_false, hfilled, hlong, or_self]

theorem toNat_totalLength (h : ofBytes bytes = .ok image) :
    image.totalLength.toNat = image.bytes.length := by
  obtain ⟨rfl, -, hshort⟩ := ofBytes_eq_ok_iff.mp h
  rw [totalLength, UInt32.toNat_ofNat', Nat.mod_eq_of_lt hshort]

/-! ## Parts -/

/-- The bytes of the chunks, without the lengths in front of them. -/
def partsUpTo : Nat → Bytes → List Bytes
  | 0, _ => []
  | count + 1, bytes =>
    if bytes.isEmpty then []
    else bytes.take chunkSize :: partsUpTo count (bytes.drop chunkSize)

def parts (image : RouterImage) : List Bytes := partsUpTo image.chunkCount image.bytes

theorem chunksUpTo_eq_map (count : Nat) (bytes : Bytes) :
    chunksUpTo count bytes = (partsUpTo count bytes).map chunk := by
  induction count generalizing bytes with
  | zero => rfl
  | succ count ih =>
    unfold chunksUpTo partsUpTo
    split
    · rfl
    · rw [ih, List.map_cons]

theorem chunks_eq_map (image : RouterImage) : image.chunks = image.parts.map chunk :=
  chunksUpTo_eq_map _ _

/-- So many parts are enough, and not one too many. -/
def Covers (count : Nat) (bytes : Bytes) : Prop :=
  count * chunkSize < bytes.length + chunkSize ∧ bytes.length ≤ count * chunkSize

/-- The count is rounded up, so the chunks have room for everything. -/
theorem covers_chunkCount (image : RouterImage) : Covers image.chunkCount image.bytes := by
  unfold Covers chunkCount chunkSize
  omega

/-- Behind a full part there is one part less to come. -/
theorem Covers.drop {count : Nat} (h : Covers (count + 1) bytes) :
    Covers count (bytes.drop chunkSize) := by
  obtain ⟨hneeded, henough⟩ := h
  rw [Nat.succ_mul] at hneeded henough
  have hlength : (bytes.drop chunkSize).length = bytes.length - chunkSize := List.length_drop
  have hpositive : 0 < chunkSize := by decide
  constructor <;> omega

theorem Covers.ne_nil {count : Nat} (h : Covers (count + 1) bytes) : bytes ≠ [] := by
  rintro rfl
  unfold Covers chunkSize at h
  simp only [List.length_nil] at h
  omega

/-- What parts have to do with the bytes that they are the parts of. -/
structure Parted (bytes : Bytes) (parts : List Bytes) : Prop where
  flatten : parts.flatten = bytes
  size : ∀ part ∈ parts, 1 ≤ part.length ∧ part.length ≤ chunkSize
  full : ∀ part ∈ parts.dropLast, part.length = chunkSize

/-- The recursion stops with the bytes, so all parts but the last are full and the last is not
empty. -/
theorem parted_partsUpTo {count : Nat} (h : Covers count bytes) :
    Parted bytes (partsUpTo count bytes) ∧ (partsUpTo count bytes).length = count := by
  induction count generalizing bytes with
  | zero =>
    have hempty : bytes = [] := List.eq_nil_of_length_eq_zero (by simpa using h.2)
    subst hempty
    exact ⟨⟨rfl, by simp [partsUpTo], by simp [partsUpTo]⟩, rfl⟩
  | succ count ih =>
    obtain ⟨hparted, hcount⟩ := ih h.drop
    have hfirst : 1 ≤ (bytes.take chunkSize).length := by
      have hlength := List.length_pos_iff.mpr h.ne_nil
      rw [List.length_take, chunkSize]
      omega
    have hparts : partsUpTo (count + 1) bytes =
        bytes.take chunkSize :: partsUpTo count (bytes.drop chunkSize) := by
      rw [partsUpTo, if_neg (by simpa using h.ne_nil)]
    rw [hparts]
    refine ⟨⟨?_, ?_, ?_⟩, by rw [List.length_cons, hcount]⟩
    · rw [List.flatten_cons, hparted.flatten, List.take_append_drop]
    · exact List.forall_mem_cons.mpr ⟨⟨hfirst, List.length_take_le _ _⟩, hparted.size⟩
    · -- The first part is full unless it is the last one, and then nothing is said of it.
      intro part hpart
      cases count with
      | zero => simp [partsUpTo] at hpart
      | succ count =>
        have hrest : partsUpTo (count + 1) (bytes.drop chunkSize) ≠ [] := by
          rw [← List.length_pos_iff, hcount]
          exact Nat.succ_pos count
        rw [List.dropLast_cons_of_ne_nil hrest] at hpart
        rcases List.mem_cons.mp hpart with rfl | hpart
        · have hlong := h.drop.ne_nil
          rw [ne_eq, List.drop_eq_nil_iff, Nat.not_le] at hlong
          exact List.length_take_of_le (Nat.le_of_lt hlong)
        · exact hparted.full part hpart

theorem parted_parts (image : RouterImage) : Parted image.bytes image.parts :=
  (parted_partsUpTo image.covers_chunkCount).1

theorem length_chunks (image : RouterImage) : image.chunks.length = image.chunkCount := by
  rw [chunks_eq_map, List.length_map]
  exact (parted_partsUpTo image.covers_chunkCount).2

theorem chunks_ne_nil (h : ofBytes bytes = .ok image) : image.chunks ≠ [] := by
  obtain ⟨rfl, hfilled, -⟩ := ofBytes_eq_ok_iff.mp h
  intro hnone
  have hparts : image.parts = [] := List.map_eq_nil_iff.mp (image.chunks_eq_map ▸ hnone)
  exact hfilled (by rw [← image.parted_parts.flatten, hparts, List.flatten_nil])

theorem Parted.sum_length {parts : List Bytes} (h : Parted bytes parts) :
    (parts.map List.length).sum = bytes.length := by
  rw [← h.flatten, List.length_flatten]

/-! ## Records -/

/-- Takes a record off the front: its length, and so many bytes. -/
def readRecord (stream : Bytes) : Option (Bytes × Bytes) :=
  (readU16 stream).bind fun (size, rest) => take? size.toNat rest

/-- Whatever fits behind a 16-bit length can be a record. -/
theorem readRecord_eq_some_iff {stream part rest : Bytes} :
    readRecord stream = some (part, rest) ↔ part.length < 2 ^ 16 ∧ stream = chunk part ++ rest := by
  simp only [readRecord, Option.bind_eq_some_iff, Prod.exists, readU16_eq_some_iff,
    take?_eq_some_iff, chunk]
  constructor
  · rintro ⟨size, _, rfl, rfl, hsize⟩
    have hfits : part.length < 2 ^ 16 := hsize ▸ size.toNat_lt
    have hback : UInt16.ofNat part.length = size := by rw [hsize, UInt16.ofNat_toNat]
    exact ⟨hfits, by rw [hback, List.append_assoc]⟩
  · rintro ⟨hfits, rfl⟩
    exact ⟨_, _, List.append_assoc _ _ _, rfl, (UInt16.toNat_ofNat_of_lt' hfits).symm⟩

/-- Each record takes something from the stream, and that is why a stream can be read to its end. -/
theorem readRecord_shorter {stream part rest : Bytes} (h : readRecord stream = some (part, rest)) :
    rest.length < stream.length := by
  rw [(readRecord_eq_some_iff.mp h).2, chunk]
  simp only [List.length_append, length_u16]
  omega

/-- Reads a stream to its end as records, one behind the other. -/
def records? (stream : Bytes) : Option (List Bytes) :=
  if stream.isEmpty then some []
  else
    match _h : readRecord stream with
    | none => none
    | some (part, rest) => (records? rest).map (part :: ·)
termination_by stream.length
decreasing_by exact readRecord_shorter _h

theorem chunk_append_ne_nil (part rest : Bytes) : chunk part ++ rest ≠ [] := by
  have hlength : (chunk part).length = part.length + 2 := by
    rw [chunk, List.length_append, length_u16, Nat.add_comm]
  intro h
  have := congrArg List.length (List.append_eq_nil_iff.mp h).1
  rw [hlength, List.length_nil] at this
  omega

/-- A chunk says how long it is, so it is found again whatever stands behind it. -/
theorem records?_chunk_append {part : Bytes} (hfits : part.length < 2 ^ 16) (rest : Bytes) :
    records? (chunk part ++ rest) = (records? rest).map (part :: ·) := by
  have hread : readRecord (chunk part ++ rest) = some (part, rest) :=
    readRecord_eq_some_iff.mpr ⟨hfits, rfl⟩
  rw [records?, if_neg (by simpa using chunk_append_ne_nil part rest)]
  split
  · rename_i hnone
    rw [hread] at hnone
    cases hnone
  · rename_i hsome
    rw [hread] at hsome
    cases hsome
    rfl

/-- **A stream is read to its end exactly if it is chunks one behind the other**, and what is read
are their parts. -/
theorem records?_eq_some_iff {stream : Bytes} {parts : List Bytes} :
    records? stream = some parts ↔
      (∀ part ∈ parts, part.length < 2 ^ 16) ∧ stream = (parts.map chunk).flatten := by
  constructor
  -- By the reader's own recursion: each record that it finds leaves a shorter stream.
  · induction stream using records?.induct generalizing parts with
    | case1 stream hempty =>
      intro h
      rw [records?, if_pos hempty] at h
      cases h
      exact ⟨by simp, List.isEmpty_iff.mp hempty⟩
    | case2 stream hempty hnone =>
      intro h
      rw [records?, if_neg hempty] at h
      split at h
      · cases h
      · rename_i hsome
        rw [hnone] at hsome
        cases hsome
    | case3 stream hempty part rest hread ih =>
      intro h
      obtain ⟨hfits, rfl⟩ := readRecord_eq_some_iff.mp hread
      rw [records?_chunk_append hfits] at h
      obtain ⟨later, hlater, rfl⟩ := Option.map_eq_some_iff.mp h
      obtain ⟨hall, rfl⟩ := ih hlater
      exact ⟨List.forall_mem_cons.mpr ⟨hfits, hall⟩, rfl⟩
  · rintro ⟨hall, rfl⟩
    -- Read back from the front, chunk by chunk, as each says where it ends.
    induction parts with
    | nil => rw [List.map_nil, List.flatten_nil, records?, List.isEmpty_nil, if_pos rfl]
    | cons part parts ih =>
      obtain ⟨hfits, hall⟩ := List.forall_mem_cons.mp hall
      rw [List.map_cons, List.flatten_cons, records?_chunk_append hfits, ih hall]
      rfl

/-! ## The stream of an image -/

/-- What an image gives the router to go by. -/
structure Describes (image : RouterImage) : Prop where
  /-- There are as many chunks as it takes, and none is without bytes. -/
  count : image.chunks.length = image.chunkCount ∧ Covers image.chunkCount image.bytes
  sized : ∀ sent ∈ image.chunks, ∃ (size : UInt16) (part : Bytes), sent = u16 size ++ part ∧
    part.length = size.toNat ∧ 1 ≤ size.toNat ∧ size.toNat ≤ chunkSize
  full : ∀ sent ∈ image.chunks.dropLast, sent.length = 2 + chunkSize
  /-- Read without their boundaries, the chunks are the image. -/
  records : ∃ parts, records? image.chunks.flatten = some parts ∧ parts.flatten = image.bytes ∧
    image.chunks = parts.map chunk ∧
    ∀ unixTime, (image.request unixTime).totalLength.toNat = (parts.map List.length).sum

theorem describes_of_ofBytes (h : ofBytes bytes = .ok image) : image.Describes := by
  have hparted := image.parted_parts
  have hfits (part : Bytes) (hpart : part ∈ image.parts) : part.length < 2 ^ 16 :=
    Nat.lt_of_le_of_lt (hparted.size part hpart).2 (by decide)
  refine ⟨⟨image.length_chunks, image.covers_chunkCount⟩, fun c hc => ?_, fun c hc => ?_,
    image.parts, ?_, hparted.flatten, image.chunks_eq_map, fun _ => ?_⟩
  · rw [chunks_eq_map] at hc
    obtain ⟨part, hpart, rfl⟩ := List.mem_map.mp hc
    have hsize : (UInt16.ofNat part.length).toNat = part.length :=
      UInt16.toNat_ofNat_of_lt' (hfits part hpart)
    refine ⟨_, part, rfl, hsize.symm, ?_⟩
    rw [hsize]
    exact hparted.size part hpart
  · rw [chunks_eq_map, ← List.map_dropLast] at hc
    obtain ⟨part, hpart, rfl⟩ := List.mem_map.mp hc
    rw [chunk, List.length_append, length_u16, hparted.full part hpart]
  · exact records?_eq_some_iff.mpr ⟨hfits, by rw [chunks_eq_map]⟩
  · rw [hparted.sum_length]
    exact toNat_totalLength h

/-- **An image is refused if it is empty or its length cannot be announced, and of any other the
chunks say all that there is to know.** -/
theorem describes_chunks (bytes : Bytes) :
    ((∃ problem, ofBytes bytes = .error (.invalidParameter problem)) ↔
      bytes = [] ∨ 2 ^ 32 ≤ bytes.length) ∧
    ((∃ image, ofBytes bytes = .ok image) ↔ bytes ≠ [] ∧ bytes.length < 2 ^ 32) ∧
    ∀ image, ofBytes bytes = .ok image → image.bytes = bytes ∧ image.Describes := by
  refine ⟨exists_ofBytes_error_iff, ⟨?_, ?_⟩, fun image h => ?_⟩
  · rintro ⟨image, h⟩
    exact (ofBytes_eq_ok_iff.mp h).2
  · intro h
    exact ⟨⟨bytes⟩, ofBytes_eq_ok_iff.mpr ⟨rfl, h⟩⟩
  · exact ⟨(ofBytes_eq_ok_iff.mp h).1, describes_of_ofBytes h⟩

/-- An image of two full parts has no third chunk. -/
theorem describes_chunks_two_full :
    let bytes : Bytes := List.replicate 2048 0xAB
    let image : RouterImage := ⟨bytes⟩
    ofBytes bytes = .ok image ∧ image.chunkCount = 2 ∧ image.chunks.length = 2 ∧
      image.Describes := by
  intro bytes image
  have hlength : bytes.length = 2048 := List.length_replicate
  have hfilled : bytes ≠ [] := List.ne_nil_of_length_pos (by omega)
  have h : ofBytes bytes = .ok image := ofBytes_eq_ok_iff.mpr ⟨rfl, hfilled, by omega⟩
  have hcount : image.chunkCount = 2 := by
    show (bytes.length + (chunkSize - 1)) / chunkSize = 2
    rw [hlength]
    decide
  have hdescribes := ((describes_chunks bytes).2.2 image h).2
  exact ⟨h, hcount, hdescribes.count.1.trans hcount, hdescribes⟩

end SensorLink.RouterImage
