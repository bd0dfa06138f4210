import SensorLink.DeviceId
import SensorLink.Proofs.Text.Digits

/-!
# An id in print and on the keyboard

An id is printed with sixteen hexadecimal digits. In some ids, 2468800203400004 for one, all of them
are decimal, and then nothing but their number says that they are hexadecimal: with one digit less
the same text would be a decimal number and name another sensor. People do not type an id as it is
printed, either. They use small letters, put `0x` in front, and copy the white space around it.

> **every way to type all the digits of an id is read as that id, and no two ids are printed alike**
> (`display_identifies`).

`Spelling` is such a way. The case of the digits comes in only through their values, so the
digits of a spelling are compared with the printed ones after both have been made capital letters.
-/

namespace SensorLink
namespace DeviceId

/-! ## What is printed -/

theorem toList_display (id : DeviceId) : (display id).toList = Hex.fixedDigits 16 id.toNat :=
  String.toList_ofList

/-- The sixteen digits have room for every id, so nothing is cut off. -/
theorem value?_display (id : DeviceId) : Hex.value? (display id).toList = some id.toNat := by
  have hlt : id.toNat < 16 ^ 16 := id.toNat_lt
  rw [toList_display, Hex.value?_fixedDigits, Nat.mod_eq_of_lt hlt]

/-- Two ids that are shown alike would have the same value. -/
theorem display_injective : Function.Injective display := by
  intro id other h
  have hvalue := value?_display id
  rw [h, value?_display] at hvalue
  exact UInt64.toNat_inj.mp (Option.some.inj hvalue).symm

/-- Printed digits are capital. -/
theorem mem_capitals_of_mem_display {id : DeviceId} {c : Char} (h : c ∈ (display id).toList) :
    c ∈ "0123456789ABCDEF".toList := by
  rw [toList_display] at h
  obtain ⟨d, hd, rfl⟩ := Hex.mem_fixedDigits h
  have hall : ∀ d < 16, Hex.digit d ∈ "0123456789ABCDEF".toList := by decide
  exact hall d hd

/-! ## What is typed -/

/-- A way to type an id with all its digits. -/
structure Spelling (id : DeviceId) where
  before : List Char
  /-- What says that the digits are hexadecimal, if anything does. -/
  marker : List Char
  digits : List Char
  after : List Char
  blank_before : ∀ c ∈ before, Text.isBlank c = true
  blank_after : ∀ c ∈ after, Text.isBlank c = true
  marked : marker ∈ [[], ['0', 'x'], ['0', 'X']]
  capitals : digits.map Char.toUpper = (display id).toList

namespace Spelling

variable {id : DeviceId}

def text (s : Spelling id) : String := String.ofList (s.before ++ (s.marker ++ s.digits) ++ s.after)

/-- The id as it is printed. -/
def printed (id : DeviceId) : Spelling id where
  before := []
  marker := []
  digits := (display id).toList
  after := []
  blank_before := nofun
  blank_after := nofun
  marked := by decide
  capitals := by
    have hall : ∀ d < 16, (Hex.digit d).toUpper = Hex.digit d := by decide
    have hsame : ∀ c ∈ (display id).toList, c.toUpper = c := by
      intro c hc
      rw [toList_display] at hc
      obtain ⟨d, hd, rfl⟩ := Hex.mem_fixedDigits hc
      exact hall d hd
    rw [List.map_congr_left hsame, List.map_id']

theorem text_printed (id : DeviceId) : (printed id).text = display id := by
  simp only [text, printed, List.append_nil, List.nil_append, String.ofList_toList]

/-- A spelling keeps the leading zeros. That is what makes it a spelling of an id and not of a
number. -/
theorem length_digits (s : Spelling id) : s.digits.length = 16 := by
  have hlength := congrArg List.length s.capitals
  rwa [List.length_map, toList_display, Hex.length_fixedDigits] at hlength

theorem ne_nil (s : Spelling id) : s.digits ≠ [] := by
  intro hnil
  have hlength := s.length_digits
  rw [hnil] at hlength
  cases hlength

theorem value?_digits (s : Spelling id) : Hex.value? s.digits = some id.toNat := by
  rw [← Hex.value?_map_toUpper, s.capitals, value?_display]

theorem isSome_digitValue? (s : Spelling id) {c : Char} (h : c ∈ s.digits) :
    (Hex.digitValue? c).isSome := by
  have hupper : c.toUpper ∈ (display id).toList := by
    rw [← s.capitals]
    exact List.mem_map_of_mem h
  rw [toList_display] at hupper
  obtain ⟨d, hd, hdigit⟩ := Hex.mem_fixedDigits hupper
  rw [← Hex.digitValue?_toUpper, hdigit, Hex.digitValue?_digit d hd]
  rfl

theorem read_digits (s : Spelling id) :
    (Text.Integer.read 16 (2 ^ 64) s.digits).toOption = some id.toNat := by
  have hlimit : 0 < 2 ^ 64 := by decide
  have hread := (Text.Integer.read_sixteen_eq_ok_iff hlimit s.ne_nil
    fun c hc => s.isSome_digitValue? hc).mpr ⟨s.value?_digits, id.toNat_lt⟩
  rw [hread]
  rfl

end Spelling

/-! ## What is read -/

/-- Behind a marker stand digits, and with digits alone no marker is found a second time. -/
theorem unprefixed?_of_digits {cs : List Char} (h : ∀ c ∈ cs, (Hex.digitValue? c).isSome) :
    unprefixed? cs = none := by
  unfold unprefixed?
  split
  · rename_i digits
    have hx := h 'x' (by simp)
    cases hx
  · rename_i digits
    have hx := h 'X' (by simp)
    cases hx
  · rfl

/-- With a marker or without one, a spelling is read as the number that it spells. -/
theorem read?_spelling {id : DeviceId} (s : Spelling id) :
    read? (s.marker ++ s.digits) = some id.toNat := by
  have hmarked := s.marked
  simp only [List.mem_cons, List.not_mem_nil, or_false] at hmarked
  rcases hmarked with hnone | hsmall | hcapital
  · rw [hnone, List.nil_append]
    have hall : s.digits.all isHexDigit = true := by
      rw [List.all_eq_true]
      intro c hc
      exact s.isSome_digitValue? hc
    have hempty : s.digits.isEmpty = false := by
      simpa using s.ne_nil
    -- Sixteen digits are hexadecimal even if all of them are decimal.
    have hshort : ¬ (s.digits.all isDigit && s.digits.length < printedDigits) = true := by
      simp [s.length_digits, printedDigits]
    simp only [read?, unprefixed?_of_digits fun c hc => s.isSome_digitValue? hc, hall, hempty,
      Bool.not_true, Bool.or_false, Bool.false_eq_true, if_false, if_neg hshort]
    exact s.read_digits
  · rw [hsmall]
    exact s.read_digits
  · rw [hcapital]
    exact s.read_digits

theorem parse_spelling {id : DeviceId} (s : Spelling id) : parse s.text = .ok id := by
  have hvisible : ∀ c ∈ s.marker ++ s.digits, Text.isBlank c = false := by
    intro c hc
    rcases List.mem_append.mp hc with hmarker | hdigit
    · have hmarkers : ∀ marker ∈ [[], ['0', 'x'], ['0', 'X']],
          marker.all (Text.isBlank · == false) = true := by decide
      exact eq_of_beq (List.all_eq_true.mp (hmarkers s.marker s.marked) c hmarker)
    · exact Hex.isBlank_of_digit (s.isSome_digitValue? hdigit)
  have htrim : Text.trim s.text.toList = s.marker ++ s.digits := by
    rw [Spelling.text, String.toList_ofList]
    exact Text.trim_of_blank_ends s.blank_before s.blank_after hvisible
  rw [parse, htrim, read?_spelling s]
  show Except.ok (UInt64.ofNat id.toNat) = .ok id
  rw [UInt64.ofNat_toNat]

/-- **Printing and reading an id agree.** What is printed is sixteen capital hexadecimal digits that
spell the id; every way to type these digits is read as the id, the printed one among them, whatever
the digits are; what has been read from any text can be printed and read again; and two ids are
never printed alike. -/
theorem display_identifies :
    (∀ id : DeviceId, (display id).toList.length = 16 ∧
      (∀ c ∈ (display id).toList, c ∈ "0123456789ABCDEF".toList) ∧
      Hex.value? (display id).toList = some id.toNat ∧ parse (display id) = .ok id) ∧
    (∀ (id : DeviceId) (s : Spelling id), parse s.text = .ok id) ∧
    (∀ text id, parse text = .ok id → parse (display id) = .ok id) ∧
    Function.Injective display := by
  have hprinted : ∀ id : DeviceId, parse (display id) = .ok id := by
    intro id
    rw [← Spelling.text_printed]
    exact parse_spelling (Spelling.printed id)
  refine ⟨?_, fun id s => parse_spelling s, fun text id _ => hprinted id, display_injective⟩
  intro id
  refine ⟨?_, fun c hc => mem_capitals_of_mem_display hc, value?_display id, hprinted id⟩
  rw [toList_display, Hex.length_fixedDigits]

/-- Sixteen decimal digits are hexadecimal; with one digit less they are a decimal number. -/
example : parse "2468800203400004" = .ok 0x2468800203400004 ∧
    parse "246880020340000" = .ok 246880020340000 := ⟨by rfl, by rfl⟩

end DeviceId
end SensorLink
