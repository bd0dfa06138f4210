import SensorLink.Power

/-!
# Words on the wire

Every integer on the link is little-endian and has a fixed width. This file holds the byte string
type, the two directions between a number and its bytes, and one writer and one reader for each
width that a frame uses.

A reader takes its field off the front and hands back what follows, so that a frame's reader is
the readers of its fields in order. Each reader is pinned down by one equivalence,

> **the reader answers `(v, rest)` exactly when the input is the bytes of `v` and then `rest`**,

which is both halves of the codec at once: what was written reads back, and nothing that is read
could have been written in another way.
-/

namespace SensorLink

/-- A string of bytes, as it is read from the link or written to it. -/
abbrev Bytes := List UInt8

namespace Wire

/-- The low `n` bytes of a number, the least significant first. -/
def leBytes : Nat → Nat → Bytes
  | 0, _ => []
  | n + 1, v => UInt8.ofNat v :: leBytes n (v / 256)

/-- The number that little-endian bytes spell. -/
def leValue : Bytes → Nat
  | [] => 0
  | b :: rest => b.toNat + 256 * leValue rest

@[simp] theorem length_leBytes (n v : Nat) : (leBytes n v).length = n := by
  induction n generalizing v with
  | zero => rfl
  | succ n ih => simp [leBytes, ih]

/-- What does not fit into the bytes is lost, and nothing else. -/
theorem leValue_leBytes (n v : Nat) : leValue (leBytes n v) = v % 256 ^ n := by
  induction n generalizing v with
  | zero => simp [leBytes, leValue, Nat.mod_one]
  | succ n ih =>
    simp only [leBytes, leValue, ih]
    rw [Nat.pow_succ, Nat.mul_comm (256 ^ n) 256, Nat.mod_mul]
    simp

/-- Bytes hold no more than their number allows; so a value read from them fits its word. -/
theorem leValue_lt (bytes : Bytes) : leValue bytes < 256 ^ bytes.length := by
  induction bytes with
  | nil => simp [leValue]
  | cons b rest ih =>
    have hb := b.toNat_lt
    simp only [leValue, List.length_cons, Nat.pow_succ]
    omega

/-- Writing the number that some bytes spell, at their own width, gives the bytes back. -/
theorem leBytes_leValue (bytes : Bytes) : leBytes bytes.length (leValue bytes) = bytes := by
  induction bytes with
  | nil => rfl
  | cons b rest ih =>
    have hb : b.toNat < 256 := b.toNat_lt
    have hdiv : (b.toNat + 256 * leValue rest) / 256 = leValue rest := by omega
    have hmod : UInt8.ofNat (b.toNat + 256 * leValue rest) = b := by
      apply UInt8.toNat_inj.mp
      simp only [UInt8.toNat_ofNat']
      omega
    simp [leBytes, leValue, hdiv, hmod, ih]

/-! ## Cutting a string of bytes -/

/-- The first `n` bytes and what follows them, when there are that many. -/
def take? : Nat → Bytes → Option (Bytes × Bytes)
  | 0, bytes => some ([], bytes)
  | _ + 1, [] => none
  | n + 1, b :: bytes => (take? n bytes).map fun (front, rest) => (b :: front, rest)

/-- There is a front of `n` bytes to take in exactly one way, if there is one. -/
theorem take?_eq_some_iff {n : Nat} {bytes front rest : Bytes} :
    take? n bytes = some (front, rest) ↔ bytes = front ++ rest ∧ front.length = n := by
  induction n generalizing bytes front rest with
  | zero =>
    simp only [take?, Option.some.injEq, Prod.mk.injEq, List.length_eq_zero_iff]
    constructor
    · rintro ⟨rfl, rfl⟩
      exact ⟨rfl, rfl⟩
    · rintro ⟨rfl, rfl⟩
      exact ⟨rfl, rfl⟩
  | succ n ih =>
    cases bytes with
    | nil =>
      cases front <;> simp [take?]
    | cons b bytes =>
      cases front with
      | nil => simp [take?]
      | cons c front =>
        simp only [take?, Option.map_eq_some_iff, Prod.mk.injEq, Prod.exists, ih, List.cons_append,
          List.cons.injEq, List.length_cons, Nat.add_right_cancel_iff]
        constructor
        · rintro ⟨_, _, ⟨rfl, rfl⟩, ⟨rfl, rfl⟩, rfl⟩
          exact ⟨⟨rfl, rfl⟩, rfl⟩
        · rintro ⟨⟨rfl, rfl⟩, rfl⟩
          exact ⟨_, _, ⟨rfl, rfl⟩, ⟨rfl, rfl⟩, rfl⟩

theorem take?_eq_none_iff {n : Nat} {bytes : Bytes} : take? n bytes = none ↔ bytes.length < n := by
  induction n generalizing bytes with
  | zero => simp [take?]
  | succ n ih => cases bytes <;> simp [take?, ih]

/-! ## Fields -/

/-- The two bytes of a 16-bit field. -/
def u16 (v : UInt16) : Bytes := leBytes 2 v.toNat

/-- The four bytes of a 32-bit field. -/
def u32 (v : UInt32) : Bytes := leBytes 4 v.toNat

/-- The eight bytes of a 64-bit field. -/
def u64 (v : UInt64) : Bytes := leBytes 8 v.toNat

@[simp] theorem length_u16 (v : UInt16) : (u16 v).length = 2 := length_leBytes 2 _
@[simp] theorem length_u32 (v : UInt32) : (u32 v).length = 4 := length_leBytes 4 _
@[simp] theorem length_u64 (v : UInt64) : (u64 v).length = 8 := length_leBytes 8 _

/-- Takes a one-byte field off the front. -/
def readU8 : Bytes → Option (UInt8 × Bytes)
  | [] => none
  | b :: rest => some (b, rest)

/-- Takes a 16-bit field off the front. -/
def readU16 (bytes : Bytes) : Option (UInt16 × Bytes) :=
  (take? 2 bytes).map fun (word, rest) => (UInt16.ofNat (leValue word), rest)

/-- Takes a 32-bit field off the front. -/
def readU32 (bytes : Bytes) : Option (UInt32 × Bytes) :=
  (take? 4 bytes).map fun (word, rest) => (UInt32.ofNat (leValue word), rest)

/-- Takes a 64-bit field off the front. -/
def readU64 (bytes : Bytes) : Option (UInt64 × Bytes) :=
  (take? 8 bytes).map fun (word, rest) => (UInt64.ofNat (leValue word), rest)

theorem readU8_eq_some_iff {bytes rest : Bytes} {v : UInt8} :
    readU8 bytes = some (v, rest) ↔ bytes = v :: rest := by
  cases bytes <;> simp [readU8]

/-- A word is read back from the bytes that write it, whatever comes after. The two wider words are
alike. -/
theorem readU16_eq_some_iff {bytes rest : Bytes} {v : UInt16} :
    readU16 bytes = some (v, rest) ↔ bytes = u16 v ++ rest := by
  simp only [readU16, Option.map_eq_some_iff, Prod.mk.injEq, Prod.exists, take?_eq_some_iff]
  constructor
  · rintro ⟨word, _, ⟨rfl, hlen⟩, rfl, rfl⟩
    have hlt := leValue_lt word
    rw [hlen] at hlt
    have : (UInt16.ofNat (leValue word)).toNat = leValue word := by
      simp only [UInt16.toNat_ofNat']; omega
    rw [u16, this, ← hlen, leBytes_leValue]
  · rintro rfl
    refine ⟨u16 v, rest, ⟨rfl, by simp⟩, ?_, rfl⟩
    apply UInt16.toNat_inj.mp
    have := v.toNat_lt
    simp only [u16, UInt16.toNat_ofNat', leValue_leBytes]
    omega

theorem readU32_eq_some_iff {bytes rest : Bytes} {v : UInt32} :
    readU32 bytes = some (v, rest) ↔ bytes = u32 v ++ rest := by
  simp only [readU32, Option.map_eq_some_iff, Prod.mk.injEq, Prod.exists, take?_eq_some_iff]
  constructor
  · rintro ⟨word, _, ⟨rfl, hlen⟩, rfl, rfl⟩
    have hlt := leValue_lt word
    rw [hlen] at hlt
    have : (UInt32.ofNat (leValue word)).toNat = leValue word := by
      simp only [UInt32.toNat_ofNat']; omega
    rw [u32, this, ← hlen, leBytes_leValue]
  · rintro rfl
    refine ⟨u32 v, rest, ⟨rfl, by simp⟩, ?_, rfl⟩
    apply UInt32.toNat_inj.mp
    have := v.toNat_lt
    simp only [u32, UInt32.toNat_ofNat', leValue_leBytes]
    omega

theorem readU64_eq_some_iff {bytes rest : Bytes} {v : UInt64} :
    readU64 bytes = some (v, rest) ↔ bytes = u64 v ++ rest := by
  simp only [readU64, Option.map_eq_some_iff, Prod.mk.injEq, Prod.exists, take?_eq_some_iff]
  constructor
  · rintro ⟨word, _, ⟨rfl, hlen⟩, rfl, rfl⟩
    have hlt := leValue_lt word
    rw [hlen] at hlt
    have : (UInt64.ofNat (leValue word)).toNat = leValue word := by
      simp only [UInt64.toNat_ofNat']; omega
    rw [u64, this, ← hlen, leBytes_leValue]
  · rintro rfl
    refine ⟨u64 v, rest, ⟨rfl, by simp⟩, ?_, rfl⟩
    apply UInt64.toNat_inj.mp
    have := v.toNat_lt
    simp only [u64, UInt64.toNat_ofNat', leValue_leBytes]
    omega

/-! ## Fields that are there

Where there are bytes enough, a field can be read off the front. -/

theorem exists_u8 (bytes : Bytes) (h : 1 ≤ bytes.length) :
    ∃ v rest, bytes = v :: rest ∧ rest.length + 1 = bytes.length := by
  obtain ⟨v, rest, rfl⟩ := List.exists_cons_of_length_pos h
  exact ⟨v, rest, rfl, List.length_cons.symm⟩

/-- Any two bytes are some word. This is what opens a body of which only the length is known. -/
theorem exists_u16 (bytes : Bytes) (h : 2 ≤ bytes.length) :
    ∃ v rest, bytes = u16 v ++ rest ∧ rest.length + 2 = bytes.length := by
  cases hread : readU16 bytes with
  | some field =>
    have hbytes := readU16_eq_some_iff.mp hread
    refine ⟨field.1, field.2, hbytes, ?_⟩
    rw [hbytes, List.length_append, length_u16, Nat.add_comm]
  | none =>
    have hshort := take?_eq_none_iff.mp (Option.map_eq_none_iff.mp hread)
    omega

theorem exists_u32 (bytes : Bytes) (h : 4 ≤ bytes.length) :
    ∃ v rest, bytes = u32 v ++ rest ∧ rest.length + 4 = bytes.length := by
  cases hread : readU32 bytes with
  | some field =>
    have hbytes := readU32_eq_some_iff.mp hread
    refine ⟨field.1, field.2, hbytes, ?_⟩
    rw [hbytes, List.length_append, length_u32, Nat.add_comm]
  | none =>
    have hshort := take?_eq_none_iff.mp (Option.map_eq_none_iff.mp hread)
    omega

theorem exists_u64 (bytes : Bytes) (h : 8 ≤ bytes.length) :
    ∃ v rest, bytes = u64 v ++ rest ∧ rest.length + 8 = bytes.length := by
  cases hread : readU64 bytes with
  | some field =>
    have hbytes := readU64_eq_some_iff.mp hread
    refine ⟨field.1, field.2, hbytes, ?_⟩
    rw [hbytes, List.length_append, length_u64, Nat.add_comm]
  | none =>
    have hshort := take?_eq_none_iff.mp (Option.map_eq_none_iff.mp hread)
    omega

end Wire
end SensorLink
