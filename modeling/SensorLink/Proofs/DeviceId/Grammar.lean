import SensorLink.DeviceId
import SensorLink.Proofs.Text.Digits

/-!
# What is an id

Ids are typed by hand, so what is taken for one should be no more than what people mean by one.
`Written` says what that is: hexadecimal digits behind a marker, up to fifteen decimal digits, or any
other hexadecimal digits, unless the number is too large for an id. The reader looks at the
characters of a text itself unless the text has a marker; what stands behind a marker it leaves to
the reader of machine integers, and that one has a rule of its own about signs.

> **An id is read from what is written like one, and from what would be written like one without a
> plus sign behind its marker** (`parse_exactly`).

Such a sign is the only thing too many (`plus_behind_marker`).
-/

namespace SensorLink
namespace DeviceId

open Text.Integer (Spells)

/-- What might be decimal is decimal. -/
def IsDecimal (digits : List Char) : Prop := digits.length ≤ 15 ∧ ∃ n, Spells 10 digits n

/-- How an id is written, white space around it left out. -/
inductive Written : List Char → Nat → Prop
  | marked {x : Char} {digits : List Char} {n : Nat} (hx : x = 'x' ∨ x = 'X')
      (hspells : Spells 16 digits n) (hn : n < 2 ^ 64) : Written ('0' :: x :: digits) n
  | decimal {digits : List Char} {n : Nat} (hshort : digits.length ≤ 15)
      (hspells : Spells 10 digits n) : Written digits n
  | hexadecimal {digits : List Char} {n : Nat} (hspells : Spells 16 digits n) (hn : n < 2 ^ 64)
      (hother : ¬ IsDecimal digits) : Written digits n

/-! ## Decimal and hexadecimal digits -/

theorem digit?_ten (c : Char) :
    Text.Integer.digit? 10 c = if isDigit c then some (c.toNat - 48) else none := by
  by_cases hascii : c.toNat < 128
  · refine forall_ascii (P := fun c => Text.Integer.digit? 10 c =
      if isDigit c then some (c.toNat - 48) else none) ?_ hascii
    decide
  · have hnone : Hex.digitValue? c = none := by
      cases h : Hex.digitValue? c with
      | none => rfl
      | some d => exact absurd (Hex.toNat_lt_of_digitValue? (by rw [h]; rfl)) hascii
    have hdigit : isDigit c = false := by
      rw [isDigit, Bool.and_eq_false_iff]
      refine .inr (decide_eq_false fun hle => hascii ?_)
      have hnine : c.toNat ≤ 57 := Char.le_def.mp hle
      omega
    rw [Text.Integer.digit?, hnone, hdigit]
    rfl

theorem isDigit_iff {c : Char} : isDigit c = true ↔ (Text.Integer.digit? 10 c).isSome := by
  rw [digit?_ten]
  split <;> simp [*]

theorem isHexDigit_of_spells {base : Nat} {digits : List Char} {n : Nat}
    (h : Spells base digits n) : digits.all isHexDigit = true := by
  rw [List.all_eq_true]
  intro c hc
  have hdigit := Text.Integer.isSome_digit?_of_spelled? h.2 c hc
  exact Option.isSome_of_isSome_filter _ _ hdigit

theorem all_isDigit_iff {digits : List Char} (hne : digits ≠ []) :
    digits.all isDigit = true ↔ ∃ n, Spells 10 digits n := by
  rw [List.all_eq_true]
  constructor
  · intro h
    obtain ⟨n, hn⟩ := Text.Integer.exists_spelled? 0 fun c hc => isDigit_iff.mp (h c hc)
    exact ⟨n, hne, hn⟩
  · rintro ⟨n, -, hn⟩ c hc
    exact isDigit_iff.mpr (Text.Integer.isSome_digit?_of_spelled? hn c hc)

/-- Fifteen decimal digits are not enough for a number that is too large. -/
theorem lt_of_short {digits : List Char} {n : Nat} (hshort : digits.length ≤ 15)
    (h : Spells 10 digits n) : n < 2 ^ 64 := by
  have hn := Text.Integer.spelled?_lt h.2
  have hpow : 10 ^ digits.length ≤ 10 ^ 15 := Nat.pow_le_pow_right (by decide) hshort
  omega

theorem Written.lt {cs : List Char} {n : Nat} (h : Written cs n) : n < 2 ^ 64 := by
  cases h with
  | marked _ _ hn => exact hn
  | decimal hshort hspells => exact lt_of_short hshort hspells
  | hexadecimal _ hn _ => exact hn

/-! ## What is read -/

theorem toOption_eq_some_iff {ε α : Type} {r : Except ε α} {a : α} :
    r.toOption = some a ↔ r = .ok a := by
  cases r with
  | error e => simp [Except.toOption]
  | ok b => simp [Except.toOption]

theorem read_eq_some_iff {base n : Nat} {digits : List Char} (hbase : 0 < base)
    (hsign : digits.head? ≠ some '+') :
    (Text.Integer.read base (2 ^ 64) digits).toOption = some n ↔
      Spells base digits n ∧ n < 2 ^ 64 := by
  rw [toOption_eq_some_iff, Text.Integer.read_eq_ok_iff hbase (by decide)]
  constructor
  · rintro ⟨_, rfl | rfl, h⟩
    · exact h
    · exact absurd rfl hsign
  · exact fun h => ⟨digits, .inl rfl, h⟩

/-- The prefix is one of two, and what is behind it is not looked at. -/
theorem unprefixed?_eq_some_iff {cs digits : List Char} :
    unprefixed? cs = some digits ↔ ∃ x, (x = 'x' ∨ x = 'X') ∧ cs = '0' :: x :: digits := by
  unfold unprefixed?
  split
  · simp
  · simp
  · rename_i hsmall hcapital
    simp only [reduceCtorEq, false_iff, not_exists, not_and]
    rintro x (rfl | rfl) rfl
    · exact hsmall digits rfl
    · exact hcapital digits rfl

/-- Whatever is written with a marker is written with it as a marker: `x` is no digit. -/
theorem Written.spells_of_marked {x : Char} {digits : List Char} {n : Nat}
    (hx : x = 'x' ∨ x = 'X') (h : Written ('0' :: x :: digits) n) : Spells 16 digits n := by
  have hnone (base : Nat) : ¬ (Text.Integer.digit? base x).isSome := by
    rcases hx with rfl | rfl <;> exact Bool.false_ne_true
  generalize hcs : '0' :: x :: digits = cs at h
  have hmem : x ∈ cs := hcs ▸ .tail _ (.head _)
  cases h with
  | marked _ hspells _ =>
    cases hcs
    exact hspells
  | decimal _ hspells =>
    exact absurd (Text.Integer.isSome_digit?_of_spelled? hspells.2 x hmem) (hnone 10)
  | hexadecimal hspells =>
    exact absurd (Text.Integer.isSome_digit?_of_spelled? hspells.2 x hmem) (hnone 16)

theorem head?_ne_plus {cs : List Char} (h : cs.all isHexDigit = true) : cs.head? ≠ some '+' := by
  intro hplus
  have hdigit := List.all_eq_true.mp h '+' (List.mem_of_head? hplus)
  cases hdigit

/-! ## Without a marker -/

section Unmarked

variable {cs : List Char} {n : Nat} (hunmarked : unprefixed? cs = none)
include hunmarked

/-- Digits that could be either are decimal. -/
theorem read?_of_decimal (h : IsDecimal cs) : read? cs = some n ↔ Spells 10 cs n := by
  obtain ⟨hshort, m, hm⟩ := h
  have hall := isHexDigit_of_spells hm
  have hshape : (cs.isEmpty || !cs.all isHexDigit) = false := by simp [hm.1, hall]
  have hdecimal : (cs.all isDigit && decide (cs.length < printedDigits)) = true := by
    rw [(all_isDigit_iff hm.1).mpr ⟨m, hm⟩, Bool.true_and, decide_eq_true_iff]
    exact Nat.lt_succ_of_le hshort
  rw [read?, hunmarked]
  simp only [hshape, Bool.false_eq_true, if_false, hdecimal, if_true]
  rw [read_eq_some_iff (by decide) (head?_ne_plus hall)]
  exact and_iff_left_of_imp fun hspells => lt_of_short hshort hspells

/-- Hexadecimal digits without a prefix are read as such only when they could not be decimal. -/
theorem read?_of_hexadecimal (hdigits : cs ≠ [] ∧ cs.all isHexDigit = true) (h : ¬ IsDecimal cs) :
    read? cs = some n ↔ Spells 16 cs n ∧ n < 2 ^ 64 := by
  obtain ⟨hne, hall⟩ := hdigits
  have hshape : (cs.isEmpty || !cs.all isHexDigit) = false := by simp [hne, hall]
  have hdecimal : ¬ (cs.all isDigit && decide (cs.length < printedDigits)) = true := by
    rw [Bool.and_eq_true, decide_eq_true_iff, all_isDigit_iff hne]
    rintro ⟨hspells, hshort⟩
    exact h ⟨Nat.le_of_lt_succ hshort, hspells⟩
  rw [read?, hunmarked]
  simp only [hshape, Bool.false_eq_true, if_false]
  rw [if_neg hdecimal, read_eq_some_iff (by decide) (head?_ne_plus hall)]

theorem read?_of_not_digits (h : ¬ (cs ≠ [] ∧ cs.all isHexDigit = true)) : read? cs = none := by
  have hshape : (cs.isEmpty || !cs.all isHexDigit) = true := by
    by_cases hnil : cs = []
    · rw [hnil]
      rfl
    · have hall : ¬ cs.all isHexDigit = true := fun hall => h ⟨hnil, hall⟩
      rw [Bool.eq_false_iff.mpr hall, Bool.not_false, Bool.or_true]
  rw [read?, hunmarked]
  exact if_pos hshape

/-- Without a marker an id is read from what is written like one. -/
theorem read?_unmarked_iff : read? cs = some n ↔ Written cs n := by
  constructor
  · -- The reader asks for digits first and for decimal digits next, and so do the cases.
    intro hread
    by_cases hdigits : cs ≠ [] ∧ cs.all isHexDigit = true
    · by_cases hdecimal : IsDecimal cs
      · exact .decimal hdecimal.1 ((read?_of_decimal hunmarked hdecimal).mp hread)
      · obtain ⟨hspells, hn⟩ := (read?_of_hexadecimal hunmarked hdigits hdecimal).mp hread
        exact .hexadecimal hspells hn hdecimal
    · rw [read?_of_not_digits hunmarked hdigits] at hread
      cases hread
  · intro hwritten
    cases hwritten with
    | marked hx _ _ =>
      rw [unprefixed?_eq_some_iff.mpr ⟨_, hx, rfl⟩] at hunmarked
      cases hunmarked
    | decimal hshort hspells =>
      exact (read?_of_decimal hunmarked ⟨hshort, n, hspells⟩).mpr hspells
    | hexadecimal hspells hn hother =>
      have hdigits : cs ≠ [] ∧ cs.all isHexDigit = true :=
        ⟨hspells.1, isHexDigit_of_spells hspells⟩
      exact (read?_of_hexadecimal hunmarked hdigits hother).mpr ⟨hspells, hn⟩

end Unmarked

/-! ## With a marker -/

/-- Behind a marker an id may have a plus sign. -/
theorem read?_marked_iff {x : Char} {cs : List Char} {n : Nat} (hx : x = 'x' ∨ x = 'X') :
    read? ('0' :: x :: cs) = some n ↔
      ∃ digits, (cs = digits ∨ cs = '+' :: digits) ∧ Written ('0' :: x :: digits) n := by
  rw [read?, unprefixed?_eq_some_iff.mpr ⟨x, hx, rfl⟩]
  simp only
  rw [toOption_eq_some_iff, Text.Integer.read_eq_ok_iff (by decide) (by decide)]
  constructor
  · rintro ⟨digits, hcs, hspells, hn⟩
    exact ⟨digits, hcs, .marked hx hspells hn⟩
  · rintro ⟨digits, hcs, hwritten⟩
    exact ⟨digits, hcs, hwritten.spells_of_marked hx, hwritten.lt⟩

/-- What stands between a marker and its digits is nothing or a plus sign. -/
theorem not_written_plus {x : Char} {digits : List Char} {n : Nat} (hx : x = 'x' ∨ x = 'X') :
    ¬ Written ('0' :: x :: '+' :: digits) n := fun h =>
  (h.spells_of_marked hx).head?_ne_plus rfl

/-- The reader takes what is written and one thing more, a plus sign between the prefix and the
digits. -/
theorem read?_eq_some_iff {cs : List Char} {n : Nat} :
    read? cs = some n ↔
      Written cs n ∨ ∃ x digits, cs = '0' :: x :: '+' :: digits ∧
        Written ('0' :: x :: digits) n ∧ (x = 'x' ∨ x = 'X') := by
  cases hprefix : unprefixed? cs with
  | none =>
    rw [read?_unmarked_iff hprefix]
    refine ⟨.inl, ?_⟩
    rintro (h | ⟨x, digits, rfl, -, hx⟩)
    · exact h
    · rw [unprefixed?_eq_some_iff.mpr ⟨x, hx, rfl⟩] at hprefix
      cases hprefix
  | some rest =>
    obtain ⟨x, hx, rfl⟩ := unprefixed?_eq_some_iff.mp hprefix
    rw [read?_marked_iff hx]
    constructor
    · rintro ⟨digits, rfl | rfl, h⟩
      · exact .inl h
      · exact .inr ⟨x, digits, rfl, h, hx⟩
    · rintro (h | ⟨_, digits, heq, h, -⟩)
      · exact ⟨rest, .inl rfl, h⟩
      · cases heq
        exact ⟨digits, .inr rfl, h⟩

/-! ## The whole text -/

theorem lt_of_read? {cs : List Char} {n : Nat} (h : read? cs = some n) : n < 2 ^ 64 := by
  rcases read?_eq_some_iff.mp h with h | ⟨_, _, -, h, -⟩
  · exact h.lt
  · exact h.lt

/-- Blanks around an id do not count. What is between them has to be an id from end to end. -/
theorem exists_parse_iff {text : String} {n : Nat} :
    (∃ id : DeviceId, parse text = .ok id ∧ id.toNat = n) ↔
      read? (Text.trim text.toList) = some n := by
  rw [parse]
  cases h : read? (Text.trim text.toList) with
  | none => simp
  | some m =>
    have hm : (UInt64.ofNat m).toNat = m := UInt64.toNat_ofNat_of_lt' (lt_of_read? h)
    simp only [Except.ok.injEq, Option.some.injEq, exists_eq_left', hm]

/-- **What is read as an id.** A text is read as an id if, without the white space around it, it is
written like one, or would be without a plus sign behind its marker. Any other text is handed
back. -/
theorem parse_exactly (text : String) :
    (∀ n, (∃ id : DeviceId, parse text = .ok id ∧ id.toNat = n) ↔
      Written (Text.trim text.toList) n ∨
        ∃ x digits, Text.trim text.toList = '0' :: x :: '+' :: digits ∧
          Written ('0' :: x :: digits) n ∧ (x = 'x' ∨ x = 'X')) ∧
    ((∃ id, parse text = .ok id) ∨ parse text = .error (.invalidDeviceId text)) := by
  constructor
  · intro n
    rw [exists_parse_iff]
    exact read?_eq_some_iff
  · rw [parse]
    cases read? (Text.trim text.toList) with
    | none => exact .inr rfl
    | some n => exact .inl ⟨UInt64.ofNat n, rfl⟩

/-- A plus sign behind a marker is no digit, and yet it is taken. -/
theorem plus_behind_marker :
    parse "0x+5" = .ok 5 ∧ ∀ n, ¬ Written (Text.trim "0x+5".toList) n := by
  refine ⟨by rfl, fun n h => ?_⟩
  exact not_written_plus (.inl rfl) h

end DeviceId
end SensorLink
