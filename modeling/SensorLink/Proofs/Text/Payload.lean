import SensorLink.CommandTable.Reader
import SensorLink.Proofs.Text.Digits
import Mathlib.Data.List.Induction

/-!
# Payloads in a text

A payload is written with two digits for each of its bytes, of either case, and with white space
wherever it helps, between the two digits of a byte as well. So there are many texts for one
payload, and `Renders` says which: those that have the payload's digits left over once white space
is gone and case is forgotten.

The reader does not see characters. It takes the text apart as UTF-8, two bytes at a time, and a
character outside ASCII is several bytes to it. Nothing comes of that, because each of them is
outside ASCII too and no byte of the sort is a digit:

> **a text is read as the payload that it renders, and otherwise not at all**
> (`payloadOfText_eq_ok_iff`).
-/

namespace SensorLink

namespace Text

/-- The text has the digits of the bytes and white space. -/
def Renders (text : String) (bytes : Bytes) : Prop :=
  (squeeze text.toList).map Char.toUpper = Hex.digitsOf bytes

instance (text : String) (bytes : Bytes) : Decidable (Renders text bytes) :=
  inferInstanceAs (Decidable (_ = _))

end Text

namespace Hex

/-! ## Digits of bytes -/

theorem toNat_digit_lt : ∀ n < 16, (digit n).toNat < 128 := by decide

/-- Case is forgotten the same way when a text is compared with the digits and when a digit is read.
-/
theorem toUpper_eq_digit_iff {c : Char} {n : Nat} (hn : n < 16) :
    c.toUpper = digit n ↔ digitValue? c = some n := by
  constructor
  · intro h
    rw [← digitValue?_toUpper, h, digitValue?_digit n hn]
  · intro h
    have hascii : c.toNat < 128 := toNat_lt_of_digitValue? (by rw [h]; rfl)
    refine forall_ascii (P := fun c => ∀ n ∈ digitValue? c, c.toUpper = digit n) ?_ hascii n h
    decide

theorem toNat_lt_of_mem_digitsOf {bytes : Bytes} {c : Char} (h : c ∈ digitsOf bytes) :
    c.toNat < 128 := by
  induction bytes with
  | nil => cases h
  | cons b rest ih =>
    have hb : b.toNat < 256 := b.toNat_lt
    rcases List.mem_cons.mp h with rfl | h
    · exact toNat_digit_lt _ (by omega)
    rcases List.mem_cons.mp h with rfl | h
    · exact toNat_digit_lt _ (by omega)
    · exact ih h

theorem length_digitsOf (bytes : Bytes) : (digitsOf bytes).length = 2 * bytes.length := by
  induction bytes with
  | nil => rfl
  | cons b rest ih =>
    rw [digitsOf, List.length_cons, List.length_cons, List.length_cons, ih]
    omega

/-- The character of a byte. -/
def char (b : UInt8) : Char := Char.ofNat b.toNat

theorem toNat_char (b : UInt8) : (char b).toNat = b.toNat := by
  have hlt : b.toNat < 256 := b.toNat_lt
  have hvalid : b.toNat.isValidChar := .inl (by omega)
  rw [char, Char.ofNat, dif_pos hvalid]
  rfl

theorem ofNat_eq_iff {high low : Nat} (hhigh : high < 16) (hlow : low < 16) (b : UInt8) :
    b = UInt8.ofNat (16 * high + low) ↔ b.toNat / 16 = high ∧ b.toNat % 16 = low := by
  have hsmall : 16 * high + low < 256 := by omega
  rw [← UInt8.toNat_inj, UInt8.toNat_ofNat_of_lt' hsmall]
  omega

theorem decodeFrom_cons_cons_eq_ok_iff {position : Nat} {hi lo : UInt8} {rest bytes : Bytes} :
    decodeFrom position (hi :: lo :: rest) = .ok bytes ↔ ∃ high low more,
      digitValue? (char hi) = some high ∧ digitValue? (char lo) = some low ∧
        decodeFrom (position + 2) rest = .ok more ∧
          bytes = UInt8.ofNat (16 * high + low) :: more := by
  rw [decodeFrom, char, char]
  cases digitValue? (Char.ofNat hi.toNat) with
  | none => simp
  | some high =>
    cases digitValue? (Char.ofNat lo.toNat) with
    | none => simp
    | some low =>
      cases decodeFrom (position + 2) rest with
      | error fault => simp [Except.map]
      | ok more => simp [Except.map, eq_comm]

/-- Two bytes of text for each byte of payload: the text is read as `bytes` when it is their digits
up to case. The position only ever shows in a fault. -/
theorem decodeFrom_eq_ok_iff {position : Nat} {text bytes : Bytes} :
    decodeFrom position text = .ok bytes ↔
      text.map (fun b => (char b).toUpper) = digitsOf bytes := by
  -- Two bytes at a time, as the reader takes them.
  induction text using List.twoStepInduction generalizing position bytes with
  | nil => cases bytes <;> simp [decodeFrom, digitsOf]
  | singleton b => cases bytes <;> simp [decodeFrom, digitsOf]
  | cons_cons hi lo rest ih =>
    have hlt (b : UInt8) : b.toNat / 16 < 16 ∧ b.toNat % 16 < 16 := by
      have hb : b.toNat < 256 := b.toNat_lt
      omega
    rw [decodeFrom_cons_cons_eq_ok_iff]
    cases bytes with
    | nil => simp [digitsOf]
    | cons b later =>
      simp only [List.map_cons, digitsOf, List.cons.injEq, toUpper_eq_digit_iff (hlt b).1,
        toUpper_eq_digit_iff (hlt b).2, ← @ih (position + 2) later]
      constructor
      · rintro ⟨high, low, more, hhigh, hlow, hmore, hb, rfl⟩
        obtain ⟨rfl, rfl⟩ :=
          (ofNat_eq_iff (digitValue?_lt hhigh) (digitValue?_lt hlow) b).mp hb
        exact ⟨hhigh, hlow, hmore⟩
      · rintro ⟨hhigh, hlow, hmore⟩
        exact ⟨_, _, later, hhigh, hlow, hmore,
          (ofNat_eq_iff (hlt b).1 (hlt b).2 b).mpr ⟨rfl, rfl⟩, rfl⟩

/-- Digits of bytes are even in number, so the count is never what is wrong with them. -/
theorem decode_eq_ok_iff {text bytes : Bytes} :
    decode text = .ok bytes ↔ text.map (fun b => (char b).toUpper) = digitsOf bytes := by
  rw [decode]
  split
  · rename_i hodd
    simp only [reduceCtorEq, false_iff]
    intro h
    have hlength := congrArg List.length h
    rw [List.length_map, length_digitsOf] at hlength
    omega
  · exact decodeFrom_eq_ok_iff

/-! ## Characters and bytes -/

/-- A character outside ASCII begins with a byte outside ASCII. -/
theorem exists_utf8EncodeChar_eq_cons {c : Char} (h : ¬ c.toNat < 128) :
    ∃ b rest, String.utf8EncodeChar c = b :: rest ∧ ¬ (char b).toNat < 128 := by
  have hbyte (a m : UInt8) (hm : 128 ≤ m.toNat) : ¬ (char (a ||| m)).toNat < 128 := by
    have hor : 128 ≤ (a ||| m).toNat := by
      rw [UInt8.toNat_or]
      exact Nat.le_trans hm Nat.right_le_or
    rw [toNat_char]
    exact Nat.not_lt.mpr hor
  rcases c.utf8Size_eq with hsize | hsize | hsize | hsize
  · have hle : c.toNat ≤ 127 := UInt32.le_iff_toNat_le.mp (Char.utf8Size_eq_one_iff.mp hsize)
    omega
  · exact ⟨_, _, String.utf8EncodeChar_eq_cons_cons hsize, hbyte _ _ (by decide)⟩
  · exact ⟨_, _, String.utf8EncodeChar_eq_cons_cons_cons hsize, hbyte _ _ (by decide)⟩
  · exact ⟨_, _, String.utf8EncodeChar_eq_cons_cons_cons_cons hsize, hbyte _ _ (by decide)⟩

/-- An ASCII character is one byte, and that byte is the character again. -/
theorem utf8EncodeChar_ascii {c : Char} (h : c.toNat < 128) :
    ∃ b, String.utf8EncodeChar c = [b] ∧ char b = c := by
  have hsize : c.utf8Size = 1 :=
    Char.utf8Size_eq_one_iff.mpr (UInt32.le_iff_toNat_le.mpr (Nat.le_of_lt_succ h))
  refine ⟨_, String.utf8EncodeChar_eq_singleton hsize, ?_⟩
  have hbyte : c.val.toUInt8.toNat = c.toNat := by
    have hsmall : c.toNat < 2 ^ 8 := by omega
    exact (UInt32.toNat_toUInt8 c.val).trans (Nat.mod_eq_of_lt hsmall)
  rw [char, hbyte, Char.ofNat_toNat]

theorem toUpper_of_not_ascii {c : Char} (h : ¬ c.toNat < 128) : c.toUpper = c := by
  refine dif_neg ?_
  rintro ⟨-, hle⟩
  have hz : c.toNat ≤ 122 := UInt32.le_iff_toNat_le.mp hle
  omega

/-- Against a text in ASCII it does not matter whether characters are compared or their bytes. -/
theorem map_flatMap_utf8EncodeChar_eq_iff {cs ds : List Char} (hds : ∀ d ∈ ds, d.toNat < 128) :
    (cs.flatMap String.utf8EncodeChar).map (fun b => (char b).toUpper) = ds ↔
      cs.map Char.toUpper = ds := by
  induction cs generalizing ds with
  | nil => rfl
  | cons c rest ih =>
    rw [List.flatMap_cons, List.map_append, List.map_cons]
    cases ds with
    | nil =>
      obtain ⟨b, more, hb⟩ : ∃ b more, String.utf8EncodeChar c = b :: more := by
        by_cases hc : c.toNat < 128
        · obtain ⟨b, hb, -⟩ := utf8EncodeChar_ascii hc
          exact ⟨b, [], hb⟩
        · obtain ⟨b, more, hb, -⟩ := exists_utf8EncodeChar_eq_cons hc
          exact ⟨b, more, hb⟩
      simp [hb]
    | cons d ds =>
      obtain ⟨hd, hlater⟩ := List.forall_mem_cons.mp hds
      by_cases hc : c.toNat < 128
      · obtain ⟨b, hb, hchar⟩ := utf8EncodeChar_ascii hc
        simp only [hb, List.map_cons, List.map_nil, List.cons_append, List.nil_append, hchar,
          List.cons.injEq, ih hlater]
      · -- Neither the character nor its first byte is the one that is asked for.
        obtain ⟨b, more, hb, hchar⟩ := exists_utf8EncodeChar_eq_cons hc
        rw [hb, List.map_cons, List.cons_append, List.cons.injEq, List.cons.injEq,
          toUpper_of_not_ascii hchar, toUpper_of_not_ascii hc]
        constructor
        · rintro ⟨rfl, -⟩
          exact absurd hd hchar
        · rintro ⟨rfl, -⟩
          exact absurd hd hc

end Hex

/-! ## Texts -/

/-- The bytes of an array, one after the other. -/
theorem byteArray_toList_loop (bytes : ByteArray) (i : Nat) (read : List UInt8) :
    ByteArray.toList.loop bytes i read = read.reverse ++ bytes.data.toList.drop i := by
  induction i, read using ByteArray.toList.loop.induct bytes with
  | case1 i read hi ih =>
    have hnext : bytes.data.toList.drop i = bytes.get! i :: bytes.data.toList.drop (i + 1) := by
      have hlt : i < bytes.data.toList.length := hi
      have hget : bytes.get! i = bytes.data.toList[i] := getElem!_pos bytes.data i hi
      rw [List.drop_eq_getElem_cons hlt, hget]
    rw [ByteArray.toList.loop, if_pos hi, ih, hnext, List.reverse_cons, List.append_assoc]
    rfl
  | case2 i read hi =>
    have hle : bytes.data.toList.length ≤ i := Nat.le_of_not_lt hi
    rw [ByteArray.toList.loop, if_neg hi, List.drop_eq_nil_of_le hle, List.append_nil]

theorem toList_toUTF8_ofList (cs : List Char) :
    (String.ofList cs).toUTF8.toList = cs.flatMap String.utf8EncodeChar := by
  rw [String.toUTF8_eq_toByteArray, String.toByteArray_ofList, ByteArray.toList,
    byteArray_toList_loop, List.utf8Encode, List.toList_data_toByteArray]
  rfl

namespace CommandTable

/-- **A text is read as the payload that it renders**, and otherwise not at all. -/
theorem payloadOfText_eq_ok_iff {text : String} {bytes : Bytes} :
    payloadOfText text = .ok bytes ↔ Text.Renders text bytes := by
  rw [payloadOfText, Hex.decode_eq_ok_iff, toList_toUTF8_ofList]
  exact Hex.map_flatMap_utf8EncodeChar_eq_iff fun _ h => Hex.toNat_lt_of_mem_digitsOf h

theorem payloadOfText_of_not_renders {text : String} (h : ∀ bytes, ¬ Text.Renders text bytes) :
    ∃ fault, payloadOfText text = .error fault := by
  cases hread : payloadOfText text with
  | ok bytes => exact absurd (payloadOfText_eq_ok_iff.mp hread) (h bytes)
  | error fault => exact ⟨fault, rfl⟩

end CommandTable
end SensorLink
