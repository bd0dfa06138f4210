import SensorLink.Illuminance.Reading

/-!
# Readings and the bytes that they are read from

A reading says itself how many samples it has, and the payload that it comes in may be longer than
that. So two things could go wrong in its reader: it may want more bytes than the samples take, and
refuse a good reading, or fewer, and make samples of what is not there. `Reading.bytes` is the other
direction, a reading written out, and

> **what is read is a reading written out, and whatever stands behind it** (`parse_eq_ok_iff`).

From that everything follows: which payloads are readings, where their fields and samples stand, and
that no reading is the front of another (`parse_bytes_exactly`). A sample is its 32 bits, so it makes
no difference whether they are those of a number.
-/

namespace SensorLink.Illuminance.Reading

open Wire

/-! ## Readings written out -/

/-- The header in front of so many samples. -/
def header (r : Reading) (count : UInt16) : Bytes :=
  r.battery :: r.sampling :: (u32 r.time ++ u16 count)

/-- A reading written out. -/
def bytes (r : Reading) : Bytes := r.header (UInt16.ofNat r.lux.length) ++ r.lux.flatMap u32

theorem length_header (r : Reading) (count : UInt16) : (r.header count).length = headerLength := by
  simp [header, headerLength]

theorem length_flatMap_u32 (samples : List UInt32) :
    (samples.flatMap u32).length = 4 * samples.length := by
  induction samples with
  | nil => rfl
  | cons sample samples ih =>
    rw [List.flatMap_cons, List.length_append, length_u32, ih, List.length_cons]
    omega

theorem length_bytes (r : Reading) : r.bytes.length = headerLength + 4 * r.lux.length := by
  rw [bytes, List.length_append, length_header, length_flatMap_u32]

/-! ## What is read -/

theorem readHeader_eq_some_iff {payload rest : Bytes} {battery sampling : UInt8} {time : UInt32}
    {count : UInt16} :
    readHeader payload = some (battery, sampling, time, count, rest) ↔
      payload = battery :: sampling :: (u32 time ++ (u16 count ++ rest)) := by
  simp only [readHeader, Option.bind_eq_bind, Option.bind_eq_some_iff, Prod.exists,
    readU8_eq_some_iff, readU32_eq_some_iff, readU16_eq_some_iff, Option.pure_def,
    Option.some.injEq, Prod.mk.injEq]
  constructor
  · rintro ⟨_, _, rfl, _, _, rfl, _, _, rfl, _, _, rfl, rfl, rfl, rfl, rfl, rfl⟩
    rfl
  · rintro rfl
    exact ⟨_, _, rfl, _, _, rfl, _, _, rfl, _, _, rfl, rfl, rfl, rfl, rfl, rfl⟩

/-- Samples are read off the front, and nothing is asked of what follows. -/
theorem readSamples_eq_some_iff {count : Nat} {payload : Bytes} {samples : List UInt32} :
    readSamples count payload = some samples ↔
      samples.length = count ∧ ∃ tail, payload = samples.flatMap u32 ++ tail := by
  induction count generalizing payload samples with
  | zero =>
    rw [readSamples, Option.some.injEq, List.length_eq_zero_iff]
    constructor
    · rintro rfl
      exact ⟨rfl, payload, rfl⟩
    · exact fun h => h.1.symm
  | succ count ih =>
    simp only [readSamples, Option.bind_eq_bind, Option.bind_eq_some_iff, Prod.exists,
      readU32_eq_some_iff, ih, Option.pure_def, Option.some.injEq]
    constructor
    · rintro ⟨sample, _, rfl, later, ⟨hlater, tail, rfl⟩, rfl⟩
      refine ⟨congrArg (· + 1) hlater, tail, ?_⟩
      rw [List.flatMap_cons, List.append_assoc]
    · rintro ⟨hcount, tail, rfl⟩
      obtain ⟨sample, later, rfl⟩ := List.exists_cons_of_length_eq_add_one hcount
      refine ⟨sample, later.flatMap u32 ++ tail, ?_, later, ⟨?_, tail, rfl⟩, rfl⟩
      · rw [List.flatMap_cons, List.append_assoc]
      · exact Nat.succ.inj hcount

/-- **What is read is a reading written out, and whatever stands behind it.** -/
theorem parse_eq_ok_iff {payload : Bytes} {r : Reading} :
    parse payload = .ok r ↔ r.lux.length < 2 ^ 16 ∧ ∃ tail, payload = r.bytes ++ tail := by
  constructor
  · intro h
    unfold parse at h
    split at h
    · cases h
    · rename_i battery sampling time count rest hheader
      split at h
      · cases h
      · rename_i lux hlux
        cases h
        -- As many samples were read as the count says, so it is written back as it was.
        obtain ⟨hcount, tail, rfl⟩ := readSamples_eq_some_iff.mp hlux
        have hback : UInt16.ofNat lux.length = count := by rw [hcount, UInt16.ofNat_toNat]
        refine ⟨hcount ▸ count.toNat_lt, tail, ?_⟩
        rw [readHeader_eq_some_iff.mp hheader]
        simp [bytes, header, hback]
  · rintro ⟨hfits, tail, rfl⟩
    have hcount : (UInt16.ofNat r.lux.length).toNat = r.lux.length :=
      UInt16.toNat_ofNat_of_lt' hfits
    have hheader : readHeader (r.bytes ++ tail) = some (r.battery, r.sampling, r.time,
        UInt16.ofNat r.lux.length, r.lux.flatMap u32 ++ tail) := by
      rw [readHeader_eq_some_iff]
      simp [bytes, header]
    have hlux : readSamples (UInt16.ofNat r.lux.length).toNat (r.lux.flatMap u32 ++ tail) =
        some r.lux := readSamples_eq_some_iff.mpr ⟨hcount.symm, tail, rfl⟩
    unfold parse
    simp only [hheader, hlux]

/-! ## Where the fields and samples stand -/

/-- The number of so many bytes at a place of a payload. -/
def numberAt (start width : Nat) (payload : Bytes) : Nat :=
  leValue ((payload.drop start).take width)

/-- A number behind a front is where it was in what follows the front; this moves every field to the
beginning of its own bytes. -/
theorem numberAt_append (front rest : Bytes) (width : Nat) :
    numberAt front.length width (front ++ rest) = numberAt 0 width rest := by
  rw [numberAt, List.drop_left]
  rfl

theorem numberAt_u16 (v : UInt16) (rest : Bytes) : numberAt 0 2 (u16 v ++ rest) = v.toNat := by
  have htake : (u16 v ++ rest).take 2 = leBytes 2 v.toNat :=
    List.take_left' (length_u16 v)
  rw [numberAt, List.drop_zero, htake, leValue_leBytes, Nat.mod_eq_of_lt (by exact v.toNat_lt)]

theorem numberAt_u32 (v : UInt32) (rest : Bytes) : numberAt 0 4 (u32 v ++ rest) = v.toNat := by
  have htake : (u32 v ++ rest).take 4 = leBytes 4 v.toNat :=
    List.take_left' (length_u32 v)
  rw [numberAt, List.drop_zero, htake, leValue_leBytes, Nat.mod_eq_of_lt (by exact v.toNat_lt)]

theorem numberAt_time (r : Reading) (tail : Bytes) :
    numberAt 2 4 (r.bytes ++ tail) = r.time.toNat := by
  have hfront : r.bytes ++ tail = [r.battery, r.sampling] ++
      (u32 r.time ++ (u16 (UInt16.ofNat r.lux.length) ++ (r.lux.flatMap u32 ++ tail))) := by
    simp [bytes, header]
  rw [hfront]
  exact (numberAt_append [r.battery, r.sampling] _ 4).trans (numberAt_u32 _ _)

/-- The count is that of the samples, unless there are too many for its two bytes. -/
theorem numberAt_count (r : Reading) (hfits : r.lux.length < 2 ^ 16) (tail : Bytes) :
    numberAt 6 2 (r.bytes ++ tail) = r.lux.length := by
  have hfront : r.bytes ++ tail = (r.battery :: r.sampling :: u32 r.time) ++
      (u16 (UInt16.ofNat r.lux.length) ++ (r.lux.flatMap u32 ++ tail)) := by
    simp [bytes, header]
  have hnumber := numberAt_append (r.battery :: r.sampling :: u32 r.time)
    (u16 (UInt16.ofNat r.lux.length) ++ (r.lux.flatMap u32 ++ tail)) 2
  rw [numberAt_u16, UInt16.toNat_ofNat_of_lt' hfits] at hnumber
  rw [hfront]
  exact hnumber

/-- The samples lie one after the other behind the header, four bytes each. -/
theorem numberAt_sample (r : Reading) (tail : Bytes) {i : Nat} (h : i < r.lux.length) :
    numberAt (headerLength + 4 * i) 4 (r.bytes ++ tail) = r.lux[i].toNat := by
  have hsplit : r.lux = r.lux.take i ++ r.lux[i] :: r.lux.drop (i + 1) := by
    rw [List.getElem_cons_drop, List.take_append_drop]
  have hfront : r.bytes ++ tail = (r.header (UInt16.ofNat r.lux.length) ++
      (r.lux.take i).flatMap u32) ++
        (u32 r.lux[i] ++ ((r.lux.drop (i + 1)).flatMap u32 ++ tail)) := by
    have hlux : r.lux.flatMap u32 = (r.lux.take i).flatMap u32 ++
        (u32 r.lux[i] ++ (r.lux.drop (i + 1)).flatMap u32) := by
      rw [← List.flatMap_cons, ← List.flatMap_append, ← hsplit]
    rw [bytes, hlux]
    simp only [List.append_assoc]
  have hlength : (r.header (UInt16.ofNat r.lux.length) ++ (r.lux.take i).flatMap u32).length =
      headerLength + 4 * i := by
    rw [List.length_append, length_header, length_flatMap_u32,
      List.length_take_of_le (Nat.le_of_lt h)]
  rw [hfront, ← hlength, numberAt_append, numberAt_u32]

/-! ## Which payloads are readings -/

/-- Where there are enough bytes there are samples to be read: no four bytes are not a sample. -/
theorem exists_samples (count : Nat) (payload : Bytes) (h : 4 * count ≤ payload.length) :
    ∃ samples, readSamples count payload = some samples := by
  induction count generalizing payload with
  | zero => exact ⟨[], rfl⟩
  | succ count ih =>
    obtain ⟨sample, rest, rfl, hrest⟩ := exists_u32 payload (by omega)
    obtain ⟨later, hlater⟩ := ih rest (by omega)
    obtain ⟨hcount, tail, rfl⟩ := readSamples_eq_some_iff.mp hlater
    refine ⟨sample :: later, readSamples_eq_some_iff.mpr ⟨congrArg (· + 1) hcount, tail, ?_⟩⟩
    rw [List.flatMap_cons, List.append_assoc]

/-- Bytes enough for a header and the samples that it announces are a reading. -/
theorem exists_parse_iff {payload : Bytes} :
    (∃ r, parse payload = .ok r) ↔
      headerLength ≤ payload.length ∧
        headerLength + 4 * numberAt 6 2 payload ≤ payload.length := by
  constructor
  · rintro ⟨r, h⟩
    obtain ⟨hfits, tail, rfl⟩ := parse_eq_ok_iff.mp h
    rw [numberAt_count r hfits, List.length_append, length_bytes]
    omega
  · rintro ⟨hheader, hsamples⟩
    rw [headerLength] at hheader hsamples
    obtain ⟨battery, rest, rfl, h₁⟩ := exists_u8 payload (by omega)
    obtain ⟨sampling, rest, rfl, h₂⟩ := exists_u8 rest (by omega)
    obtain ⟨time, rest, rfl, h₃⟩ := exists_u32 rest (by omega)
    obtain ⟨count, rest, rfl, h₄⟩ := exists_u16 rest (by omega)
    have hcount : numberAt 6 2 (battery :: sampling :: (u32 time ++ (u16 count ++ rest))) =
        count.toNat :=
      (numberAt_append (battery :: sampling :: u32 time) _ 2).trans (numberAt_u16 count rest)
    rw [hcount] at hsamples
    obtain ⟨lux, hlux⟩ := exists_samples count.toNat rest (by omega)
    refine ⟨⟨battery, sampling, time, lux⟩, ?_⟩
    simp only [parse, readHeader_eq_some_iff.mpr rfl, hlux]

/-- No reading is the front of another. -/
theorem eq_of_bytes_append {r r' : Reading} {tail tail' : Bytes} (h : r.lux.length < 2 ^ 16)
    (h' : r'.lux.length < 2 ^ 16) (heq : r.bytes ++ tail = r'.bytes ++ tail') : r = r' := by
  have hread : parse (r.bytes ++ tail) = .ok r := parse_eq_ok_iff.mpr ⟨h, tail, rfl⟩
  rw [heq, parse_eq_ok_iff.mpr ⟨h', tail', rfl⟩] at hread
  exact (Except.ok.inj hread).symm

/-- **Payloads and readings belong together.** A payload is a reading exactly if it has the bytes
that its header announces, and then every field and every sample is what stands at its place. Every
reading can be written out and read again, with anything behind it, and with a byte less of it
nothing is read. -/
theorem parse_bytes_exactly :
    (∀ payload : Bytes,
      ((∃ r, parse payload = .ok r) ↔
        8 ≤ payload.length ∧ 8 + 4 * numberAt 6 2 payload ≤ payload.length) ∧
      ∀ r, parse payload = .ok r →
        payload[0]? = some r.battery ∧ payload[1]? = some r.sampling ∧
        r.time.toNat = numberAt 2 4 payload ∧
        r.lux.length = numberAt 6 2 payload ∧
        ∀ i (h : i < r.lux.length), r.lux[i].toNat = numberAt (8 + 4 * i) 4 payload) ∧
    ∀ r : Reading, r.lux.length ≤ 65535 →
      (∀ tail, parse (r.bytes ++ tail) = .ok r) ∧
      ∀ n, n < r.bytes.length → ¬ ∃ r', parse (r.bytes.take n) = .ok r' := by
  refine ⟨fun payload => ⟨exists_parse_iff, fun r hr => ?_⟩, fun r hr => ⟨fun tail => ?_, ?_⟩⟩
  · obtain ⟨hfits, tail, rfl⟩ := parse_eq_ok_iff.mp hr
    exact ⟨rfl, rfl, (numberAt_time r tail).symm, (numberAt_count r hfits tail).symm,
      fun i h => (numberAt_sample r tail h).symm⟩
  · exact parse_eq_ok_iff.mpr ⟨Nat.lt_succ_of_le hr, tail, rfl⟩
  · rintro n hn ⟨r', hr'⟩
    obtain ⟨hfits, tail, htake⟩ := parse_eq_ok_iff.mp hr'
    -- What is read would be a front of the reading, and so all of it.
    have hwhole : r.bytes ++ [] = r'.bytes ++ (tail ++ r.bytes.drop n) := by
      rw [← List.append_assoc, ← htake, List.take_append_drop, List.append_nil]
    obtain rfl := eq_of_bytes_append (Nat.lt_succ_of_le hr) hfits hwhole
    have hlength := congrArg List.length htake
    rw [List.length_append, List.length_take] at hlength
    omega

/-- A sample that is no number, an infinite one, and a byte too many. -/
theorem parse_bytes_exactly_no_number :
    let r : Reading := { battery := 87, sampling := 1, time := 1700000000,
                         lux := [0x7FC00001, 0xFF800000] }
    r.lux.length ≤ 65535 ∧ parse (r.bytes ++ [0x00]) = .ok r ∧
      (¬ ∃ r', parse (r.bytes.take 15) = .ok r') ∧
      r.lux.length = numberAt 6 2 (r.bytes ++ [0x00]) := by
  intro r
  have hr : r.lux.length ≤ 65535 := by decide
  obtain ⟨hread, htruncated⟩ := parse_bytes_exactly.2 r hr
  obtain ⟨-, -, -, hcount, -⟩ := (parse_bytes_exactly.1 (r.bytes ++ [0x00])).2 r (hread [0x00])
  exact ⟨hr, hread [0x00], htruncated 15 (by decide), hcount⟩

end SensorLink.Illuminance.Reading
