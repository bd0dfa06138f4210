import SensorLink.Text.Blank
import SensorLink.Text.Integer

/-!
# What digits spell

Digits are read from left to right against a limit, and reading stops at the first digit that brings
the number to it. That is how a machine integer is read, and it is not how one would say what is
read. Said without the limit:

> **digits, with a plus sign in front or without, are read as the number that they spell, if that is
> below the limit** (`read_eq_ok_iff`).

The two agree because a number never shrinks when a digit is put behind it, so a number that has
once reached the limit will not come back below it.

For hexadecimal digits the case does not matter (`value?_map_toUpper`), and none of them is white
space or a sign.
-/

namespace SensorLink

/-- What holds of the ASCII characters one by one holds of each of them. -/
theorem forall_ascii {P : Char → Prop} (h : ∀ n < 128, P (Char.ofNat n)) {c : Char}
    (hc : c.toNat < 128) : P c := by
  have hall := h c.toNat hc
  rwa [Char.ofNat_toNat] at hall

namespace Hex

/-! ## Hexadecimal digits -/

theorem toNat_lt_of_digitValue? {c : Char} (h : (digitValue? c).isSome) : c.toNat < 128 := by
  unfold digitValue? at h
  split at h
  · rename_i hc
    have hle : c.toNat ≤ 57 := Char.le_def.mp hc.2
    omega
  split at h
  · rename_i hc
    have hle : c.toNat ≤ 70 := Char.le_def.mp hc.2
    omega
  split at h
  · rename_i hc
    have hle : c.toNat ≤ 102 := Char.le_def.mp hc.2
    omega
  · cases h

theorem digitValue?_toUpper (c : Char) : digitValue? c.toUpper = digitValue? c := by
  by_cases hascii : c.toNat < 128
  · exact forall_ascii (P := fun c => digitValue? c.toUpper = digitValue? c) (by decide) hascii
  · have hlower : ¬ ('a'.val ≤ c.val ∧ c.val ≤ 'z'.val) := by
      rintro ⟨-, hle⟩
      have hz : c.toNat ≤ 122 := UInt32.le_iff_toNat_le.mp hle
      omega
    have hsame : c.toUpper = c := dif_neg hlower
    rw [hsame]

theorem value?_map_toUpper (cs : List Char) : value? (cs.map Char.toUpper) = value? cs := by
  simp only [value?, List.foldl_map, digitValue?_toUpper]

theorem isBlank_of_digit {c : Char} (h : (digitValue? c).isSome) : Text.isBlank c = false := by
  refine forall_ascii (P := fun c => (digitValue? c).isSome → Text.isBlank c = false) ?_
    (toNat_lt_of_digitValue? h) h
  decide

theorem mem_fixedDigits {width n : Nat} {c : Char} (h : c ∈ fixedDigits width n) :
    ∃ d < 16, c = digit d := by
  induction width generalizing n with
  | zero => cases h
  | succ width ih =>
    rcases List.mem_append.mp h with hfront | hlast
    · exact ih hfront
    · exact ⟨n % 16, Nat.mod_lt _ (by decide), List.mem_singleton.mp hlast⟩

end Hex

namespace Text.Integer

/-! ## Any base -/

/-- The number that digits spell behind a number that has been read, whatever its size. -/
def spelled? (base : Nat) : Nat → List Char → Option Nat
  | n, [] => some n
  | n, c :: rest => (digit? base c).bind fun d => spelled? base (n * base + d) rest

/-- A number only grows by the digits that are appended to it. So one that has reached the limit
stays above it. -/
theorem le_of_spelled? {base n m : Nat} {cs : List Char} (hbase : 0 < base)
    (h : spelled? base n cs = some m) : n ≤ m := by
  induction cs generalizing n with
  | nil =>
    cases h
    exact Nat.le_refl _
  | cons c rest ih =>
    obtain ⟨d, -, hrest⟩ := Option.bind_eq_some_iff.mp h
    calc
      n ≤ n * base := Nat.le_mul_of_pos_right n hbase
      _ ≤ n * base + d := Nat.le_add_right _ _
      _ ≤ m := ih hrest

/-- **To read digits under a limit is to spell out the number and look at the limit at the end**,
although the reader looks at it after each digit. -/
theorem readDigits_eq_ok_iff {base limit n m : Nat} {cs : List Char} (hbase : 0 < base)
    (hn : n < limit) :
    readDigits base limit n cs = .ok m ↔ spelled? base n cs = some m ∧ m < limit := by
  induction cs generalizing n with
  | nil =>
    simp only [readDigits, spelled?, Except.ok.injEq, Option.some.injEq]
    constructor
    · rintro rfl
      exact ⟨rfl, hn⟩
    · rintro ⟨rfl, -⟩
      rfl
  | cons c rest ih =>
    cases hd : digit? base c with
    | none => simp [readDigits, spelled?, hd]
    | some d =>
      simp only [readDigits, spelled?, hd, Option.bind_some]
      split
      -- Too large already, and more digits can only make it larger.
      · rename_i hlarge
        simp only [reduceCtorEq, false_iff]
        rintro ⟨hrest, hm⟩
        have hle := le_of_spelled? hbase hrest
        omega
      · rename_i hsmall
        exact ih (Nat.lt_of_not_le hsmall)

/-- Without a sign in front there is nothing but digits. -/
theorem read_eq_readDigits {base limit : Nat} {cs : List Char} (hne : cs ≠ [])
    (hsign : cs.head? ≠ some '+') : read base limit cs = readDigits base limit 0 cs := by
  unfold read
  split
  · exact absurd rfl hne
  · exact absurd rfl hsign
  · exact absurd rfl hsign
  · rfl

theorem digit?_sixteen (c : Char) : digit? 16 c = Hex.digitValue? c := by
  unfold digit?
  cases h : Hex.digitValue? c with
  | none => rfl
  | some d =>
    rw [Option.filter_some, if_pos]
    exact decide_eq_true (Hex.digitValue?_lt h)

theorem foldl_bind_none {α β : Type} (f : β → α → Option α) (xs : List β) :
    xs.foldl (fun acc x => acc.bind (f x)) none = none := by
  induction xs with
  | nil => rfl
  | cons x xs ih => exact ih

theorem spelled?_sixteen (n : Nat) (cs : List Char) :
    spelled? 16 n cs = cs.foldl (fun acc c => acc.bind fun n =>
      (Hex.digitValue? c).map fun d => 16 * n + d) (some n) := by
  induction cs generalizing n with
  | nil => rfl
  | cons c rest ih =>
    rw [spelled?, digit?_sixteen, List.foldl_cons]
    cases Hex.digitValue? c with
    | none => exact (foldl_bind_none _ rest).symm
    | some d =>
      rw [Option.bind_some, ih, Nat.mul_comm]
      rfl

/-- There are digits, and they spell the number. -/
def Spells (base : Nat) (cs : List Char) (n : Nat) : Prop := cs ≠ [] ∧ spelled? base 0 cs = some n

theorem isSome_digit?_of_spelled? {base n m : Nat} {cs : List Char}
    (h : spelled? base n cs = some m) : ∀ c ∈ cs, (digit? base c).isSome := by
  induction cs generalizing n with
  | nil => exact nofun
  | cons c rest ih =>
    obtain ⟨d, hd, hrest⟩ := Option.bind_eq_some_iff.mp h
    intro other hother
    rcases List.mem_cons.mp hother with rfl | hlater
    · rw [hd]
      rfl
    · exact ih hrest other hlater

/-- Digits always spell a number. -/
theorem exists_spelled? {base : Nat} (n : Nat) {cs : List Char}
    (h : ∀ c ∈ cs, (digit? base c).isSome) : ∃ m, spelled? base n cs = some m := by
  induction cs generalizing n with
  | nil => exact ⟨n, rfl⟩
  | cons c rest ih =>
    obtain ⟨d, hd⟩ := Option.isSome_iff_exists.mp (h c (.head _))
    obtain ⟨m, hm⟩ := ih (n * base + d) fun other hother => h other (.tail _ hother)
    exact ⟨m, by rw [spelled?, hd, Option.bind_some, hm]⟩

theorem digit?_lt {base d : Nat} {c : Char} (h : digit? base c = some d) : d < base :=
  of_decide_eq_true (Option.filter_eq_some_iff.mp h).2

/-- Each digit makes room for one more power of the base. -/
theorem spelled?_lt {base n m : Nat} {cs : List Char} (h : spelled? base n cs = some m) :
    m < (n + 1) * base ^ cs.length := by
  induction cs generalizing n with
  | nil =>
    cases h
    simp
  | cons c rest ih =>
    obtain ⟨d, hd, hrest⟩ := Option.bind_eq_some_iff.mp h
    have hd := digit?_lt hd
    calc
      m < (n * base + d + 1) * base ^ rest.length := ih hrest
      _ ≤ ((n + 1) * base) * base ^ rest.length := by
        refine Nat.mul_le_mul_right _ ?_
        rw [Nat.add_mul]
        omega
      _ = (n + 1) * base ^ (c :: rest).length := by
        rw [Nat.mul_assoc, List.length_cons, Nat.pow_succ, Nat.mul_comm base]

theorem Spells.head?_ne_plus {base n : Nat} {cs : List Char} (h : Spells base cs n) :
    cs.head? ≠ some '+' := by
  intro hplus
  have hdigit := isSome_digit?_of_spelled? h.2 '+' (List.mem_of_head? hplus)
  have hnone : digit? base '+' = none := rfl
  rw [hnone] at hdigit
  cases hdigit

/-- **A machine integer is digits with or without a plus sign that spell a number below the
limit.** -/
theorem read_eq_ok_iff {base limit m : Nat} {cs : List Char} (hbase : 0 < base)
    (hlimit : 0 < limit) :
    read base limit cs = .ok m ↔
      ∃ digits, (cs = digits ∨ cs = '+' :: digits) ∧ Spells base digits m ∧ m < limit := by
  have hread {digits : List Char} (hne : digits ≠ []) :
      readDigits base limit 0 digits = .ok m ↔ Spells base digits m ∧ m < limit := by
    rw [readDigits_eq_ok_iff hbase hlimit, Spells, and_assoc]
    simp [hne]
  constructor
  · intro h
    match cs with
    | [] => cases h
    | c :: rest =>
      by_cases hplus : c = '+'
      · subst hplus
        cases rest with
        | nil => cases h
        | cons d rest => exact ⟨_, .inr rfl, (hread (List.cons_ne_nil d rest)).mp h⟩
      · rw [read_eq_readDigits (List.cons_ne_nil c rest) (by simpa using hplus)] at h
        exact ⟨_, .inl rfl, (hread (List.cons_ne_nil c rest)).mp h⟩
  · rintro ⟨digits, rfl | rfl, hspells, hm⟩
    · rw [read_eq_readDigits hspells.1 hspells.head?_ne_plus]
      exact (hread hspells.1).mpr ⟨hspells, hm⟩
    · -- The sign is taken off, since there is a digit behind it.
      obtain ⟨c, rest, rfl⟩ := List.exists_cons_of_ne_nil hspells.1
      exact (hread hspells.1).mpr ⟨hspells, hm⟩

/-- Hexadecimal digits that are there are read as what they spell, up to the limit. -/
theorem read_sixteen_eq_ok_iff {limit m : Nat} {cs : List Char} (hlimit : 0 < limit)
    (hne : cs ≠ []) (hdigits : ∀ c ∈ cs, (Hex.digitValue? c).isSome) :
    read 16 limit cs = .ok m ↔ Hex.value? cs = some m ∧ m < limit := by
  have hsign : cs.head? ≠ some '+' := by
    intro hplus
    have hmem := hdigits '+' (List.mem_of_head? hplus)
    cases hmem
  rw [read_eq_readDigits hne hsign, readDigits_eq_ok_iff (by decide) hlimit, spelled?_sixteen]
  rfl

end Text.Integer
end SensorLink
