import Mathlib.Data.Nat.Find
import SensorLink.Proofs.Packet.LengthRule

/-!
# A length is decided once

Two functions judge a front of bytes, each with a table of its own. `frameLength` is asked again
whenever more has arrived, and a framer acts on what it says before the rest is there.
`plausibleStart` picks the places at which it is asked at all. Were the first to change its mind, or
the second to pass over a place where the first finds a frame, the same stream would be cut up
differently in different pieces.

> **a front is open for its first few bytes and then decided for good, never later than at the end
> of its frame** (`exists_decidedBy`, `frameLength_take_self`);
>
> **what is refused is refused for its version, for its type or for the payload that it announces,
> and the first two are what `plausibleStart` passes over** (`frameLength_eq_error_iff`,
> `Refused.plausibleStart_iff`).

The third cause is where the two part: a place can look like a start and announce too much.
-/

namespace SensorLink

open Wire

/-! ## Open, then decided -/

/-- Whatever a front of the bytes decides stands when the rest is there. -/
theorem frameLength_take {d : Direction} {bytes : Bytes} {k : Nat}
    (h : frameLength d (bytes.take k) ≠ .ok none) :
    frameLength d (bytes.take k) = frameLength d bytes := by
  have happend := frameLength_append (bytes.drop k) h
  rw [List.take_append_drop] at happend
  exact happend.symm

/-- The first `k` bytes decide what is said about a front. -/
structure DecidedBy (d : Direction) (bytes : Bytes) (k : Nat) : Prop where
  /-- With fewer bytes the length is not known yet. -/
  waits : ∀ j < k, frameLength d (bytes.take j) = .ok none
  /-- With these bytes or more the answer is that of the whole front. -/
  stands : ∀ j, k ≤ j → frameLength d (bytes.take j) = frameLength d bytes

/-- There is one byte at which a front is decided. -/
theorem exists_decidedBy {d : Direction} {bytes : Bytes} (h : frameLength d bytes ≠ .ok none) :
    ∃ k, DecidedBy d bytes k := by
  classical
  have hdecided : ∃ k, frameLength d (bytes.take k) ≠ .ok none :=
    ⟨bytes.length, by rwa [List.take_length]⟩
  have hfirst := Nat.find_spec hdecided
  -- The first front that is not open gives its answer to every longer one.
  refine ⟨Nat.find hdecided, fun j hj => not_not.mp (Nat.find_min hdecided hj), fun j hj => ?_⟩
  have hfront : (bytes.take j).take (Nat.find hdecided) = bytes.take (Nat.find hdecided) := by
    rw [List.take_take, Nat.min_eq_left hj]
  calc frameLength d (bytes.take j)
      = frameLength d ((bytes.take j).take (Nat.find hdecided)) :=
        (frameLength_take (by rwa [hfront])).symm
    _ = frameLength d (bytes.take (Nat.find hdecided)) := by rw [hfront]
    _ = frameLength d bytes := frameLength_take hfirst

/-! ## How many bytes are enough -/

/-- The number of bytes with which every front of a direction is decided. -/
def enoughToDecide : Direction → Nat
  | .hostToRouter => 4
  | .routerToHost => 16

theorem four_le_enoughToDecide (d : Direction) : 4 ≤ enoughToDecide d := by
  cases d <;> decide

theorem LengthRule.enough_le_enoughToDecide {d : Direction} {type : UInt8} {rule : LengthRule}
    (h : lengthRule? d type = some rule) : rule.enough ≤ enoughToDecide d := by
  have hfour := four_le_enoughToDecide d
  cases rule with
  | fixed size =>
    show 2 ≤ enoughToDecide d
    omega
  | field => exact hfour
  | command =>
    obtain rfl := direction_of_command h
    exact Nat.le_refl 16

/-- A rule is through with its bytes before the frame is. -/
theorem LengthRule.enough_le {d : Direction} {type : UInt8} {body : Bytes} {rule : LengthRule}
    {n : Nat} (hrule : lengthRule? d type = some rule)
    (h : rule.length (protocolVersion :: type :: body) = .ok (some n)) : rule.enough ≤ n := by
  cases rule with
  | fixed size =>
    have hseven : 7 ≤ n := by
      apply seven_le_frameLength
      rw [frameLength_cons_cons, hrule]
      exact h
    show 2 ≤ n
    omega
  | field => exact Nat.le_trans (by decide) (prefixedLength_bounds h).1
  | command => exact (answerLength_bounds (Except.ok.inj h)).1

/-- Undecided means too short, for the bytes at hand say everything once there are enough. -/
theorem length_lt_enoughToDecide {d : Direction} {bytes : Bytes}
    (h : frameLength d bytes = .ok none) : bytes.length < enoughToDecide d := by
  have hfour := four_le_enoughToDecide d
  match bytes with
  | [] | [_] =>
    simp only [List.length_cons, List.length_nil]
    omega
  | v :: type :: body =>
    obtain ⟨rfl, rule, hrule, hlength⟩ := rule_of_frameLength h
    have hlt := LengthRule.length_lt_enough hlength
    have hle := LengthRule.enough_le_enoughToDecide hrule
    exact Nat.lt_of_lt_of_le hlt hle

/-- One byte short of that, a front can still be open: inside a length field, or before the count of
a device table. -/
example : frameLength .hostToRouter [0x01, 0x00, 0x00] = .ok none ∧
    frameLength .routerToHost [0x01, 0x02, 0, 0, 0, 0, 0xCF, 0, 0, 0, 0, 0, 0, 0, 0] = .ok none :=
  ⟨rfl, rfl⟩

/-- **A frame is enough to know its own length**, without what follows it. -/
theorem frameLength_take_self {d : Direction} {bytes : Bytes} {n : Nat}
    (h : frameLength d bytes = .ok (some n)) : frameLength d (bytes.take n) = .ok (some n) := by
  have hseven := seven_le_frameLength h
  obtain ⟨type, body, rule, rfl, hrule, hlength⟩ := exists_rule_of_frameLength h
  have henough := LengthRule.enough_le hrule hlength
  obtain ⟨m, rfl⟩ : ∃ m, n = m + 2 := ⟨n - 2, by omega⟩
  rw [← h]
  apply frameLength_take
  intro hopen
  by_cases hwhole : body.length ≤ m
  · -- Nothing is cut off, so the whole front would be open.
    rw [List.take_of_length_le (by simpa using hwhole), h] at hopen
    cases hopen
  · rw [List.take_succ_cons, List.take_succ_cons] at hopen
    obtain ⟨-, same, hsame, hwait⟩ := rule_of_frameLength hopen
    obtain rfl : same = rule := Option.some.inj (hsame.symm.trans hrule)
    have hshort := LengthRule.length_lt_enough hwait
    simp only [List.length_cons, List.length_take] at hshort
    omega

/-- The byte that decides is one of the frame. -/
theorem DecidedBy.le_of_length {d : Direction} {bytes : Bytes} {k n : Nat}
    (h : DecidedBy d bytes k) (hn : frameLength d bytes = .ok (some n)) : k ≤ n := by
  apply Nat.le_of_not_lt
  intro hlt
  have hopen := h.waits n hlt
  rw [frameLength_take_self hn] at hopen
  cases hopen

/-! ## What is refused -/

/-- What is wrong with bytes that no frame starts with. -/
inductive Refused (d : Direction) : Bytes → Malformed → Prop where
  | badVersion {v : UInt8} {rest : Bytes} (h : v ≠ protocolVersion) :
    Refused d (v :: rest) (.badVersion v)
  | unknownType {type : UInt8} {body : Bytes} (h : lengthRule? d type = none) :
    Refused d (protocolVersion :: type :: body) (.unknownType type d)
  | announcesTooMuch {type : UInt8} {declared : UInt16} {rest : Bytes}
      (hrule : lengthRule? d type = some .field) (h : maxPayload < declared.toNat) :
    Refused d (protocolVersion :: type :: (u16 declared ++ rest)) (.announcesTooMuch declared.toNat)

theorem declared_of_prefixedLength_error {header : Nat} {v type : UInt8} {body : Bytes}
    {cause : Malformed} (h : prefixedLength header (v :: type :: body) = .error cause) :
    ∃ declared rest, body = u16 declared ++ rest ∧ maxPayload < declared.toNat ∧
      cause = .announcesTooMuch declared.toNat := by
  match body with
  | [] => cases h
  | [_] => cases h
  | low :: high :: more =>
    obtain ⟨declared, rest, hbody, -⟩ := exists_u16 (low :: high :: more) (Nat.le_add_left 2 _)
    rw [hbody, prefixedLength_field] at h
    split at h
    · cases h
      exact ⟨declared, rest, hbody, ‹_›, rfl⟩
    · cases h

theorem Refused.of_frameLength {d : Direction} {bytes : Bytes} {cause : Malformed}
    (h : frameLength d bytes = .error cause) : Refused d bytes cause := by
  match bytes with
  | [] => cases h
  | v :: rest =>
    by_cases hv : v = protocolVersion
    case neg =>
      rw [frameLength_cons_of_ne rest hv] at h
      cases h
      exact .badVersion hv
    subst hv
    match rest with
    | [] => cases h
    | type :: body =>
      rw [frameLength_cons_cons] at h
      cases hrule : lengthRule? d type with
      | none =>
        rw [hrule] at h
        cases h
        exact .unknownType hrule
      | some rule =>
        rw [hrule] at h
        cases rule with
        | fixed size => cases h
        | command => cases h
        | field =>
          obtain ⟨declared, rest, rfl, hlt, rfl⟩ := declared_of_prefixedLength_error h
          exact .announcesTooMuch hrule hlt

/-- The three ways to be refused are all there are, and each names what it found. -/
theorem frameLength_eq_error_iff {d : Direction} {bytes : Bytes} {cause : Malformed} :
    frameLength d bytes = .error cause ↔ Refused d bytes cause := by
  constructor
  · exact Refused.of_frameLength
  · intro h
    cases h with
    | badVersion h => exact frameLength_cons_of_ne _ h
    | unknownType h => rw [frameLength_cons_cons, h]
    | announcesTooMuch hrule h =>
      rw [frameLength_cons_cons, hrule]
      simp only [LengthRule.length, prefixedLength_field, if_pos h]

/-! ## What looks like a start -/

theorem knownType_eq (d : Direction) (type : UInt8) :
    knownType d type = (lengthRule? d type).isSome := by
  cases d <;> simp only [knownType, lengthRule?, Option.isSome_map]

/-- The two judges differ about a front only if it announces too much. -/
theorem Refused.plausibleStart_iff {d : Direction} {bytes : Bytes} {cause : Malformed}
    (h : Refused d bytes cause) :
    plausibleStart d bytes = true ↔ ∃ n, cause = .announcesTooMuch n := by
  cases h with
  | @badVersion v rest h => cases rest <;> simp [plausibleStart, h]
  | unknownType h => simp [plausibleStart, knownType_eq, h]
  | announcesTooMuch hrule h => simp [plausibleStart, knownType_eq, hrule]

theorem plausibleStart_of_ok {d : Direction} {bytes : Bytes} {known : Option Nat}
    (hne : bytes ≠ []) (h : frameLength d bytes = .ok known) : plausibleStart d bytes = true := by
  obtain ⟨first, rest, rfl⟩ := List.exists_cons_of_ne_nil hne
  apply Decidable.byContradiction
  intro hnot
  obtain ⟨cause, herror⟩ := frameLength_of_not_plausible (Bool.eq_false_iff.mpr hnot)
  rw [h] at herror
  cases herror

/-- A start is implausible for its first two bytes only: a version that is not known or a type that
is not. -/
theorem plausibleStart_eq_false_iff {d : Direction} {bytes : Bytes} (hne : bytes ≠ []) :
    plausibleStart d bytes = false ↔
      (∃ v, frameLength d bytes = .error (.badVersion v)) ∨
        ∃ type, frameLength d bytes = .error (.unknownType type d) := by
  constructor
  · intro hnot
    obtain ⟨first, rest, rfl⟩ := List.exists_cons_of_ne_nil hne
    obtain ⟨cause, herror⟩ := frameLength_of_not_plausible hnot
    have hrefused := Refused.of_frameLength herror
    have hcause := hrefused.plausibleStart_iff
    cases hrefused with
    | badVersion h => exact .inl ⟨_, herror⟩
    | unknownType h => exact .inr ⟨_, herror⟩
    -- An announced length is no reason to find the start implausible.
    | announcesTooMuch hrule h =>
      rw [hcause.mpr ⟨_, rfl⟩] at hnot
      cases hnot
  · have hnot : ∀ cause, frameLength d bytes = .error cause →
        (∀ n, cause ≠ .announcesTooMuch n) → plausibleStart d bytes = false := by
      intro cause herror hcause
      rw [Bool.eq_false_iff]
      intro hlooks
      obtain ⟨n, hn⟩ := (Refused.of_frameLength herror).plausibleStart_iff.mp hlooks
      exact hcause n hn
    rintro (⟨v, herror⟩ | ⟨type, herror⟩)
    · exact hnot _ herror nofun
    · exact hnot _ herror nofun

theorem plausible_refused_iff {d : Direction} {bytes : Bytes} {cause : Malformed} :
    plausibleStart d bytes = true ∧ frameLength d bytes = .error cause ↔
      ∃ type declared rest, lengthRule? d type = some .field ∧
        bytes = protocolVersion :: type :: (u16 declared ++ rest) ∧
        maxPayload < declared.toNat ∧ cause = .announcesTooMuch declared.toNat := by
  rw [frameLength_eq_error_iff]
  constructor
  · rintro ⟨hlooks, hrefused⟩
    obtain ⟨n, hcause⟩ := hrefused.plausibleStart_iff.mp hlooks
    cases hrefused with
    | badVersion h => cases hcause
    | unknownType h => cases hcause
    | announcesTooMuch hrule h => exact ⟨_, _, _, hrule, rfl, h, rfl⟩
  · rintro ⟨type, declared, rest, hrule, rfl, h, rfl⟩
    have hrefused : Refused d (protocolVersion :: type :: (u16 declared ++ rest)) _ :=
      .announcesTooMuch hrule h
    exact ⟨hrefused.plausibleStart_iff.mpr ⟨_, rfl⟩, hrefused⟩

/-! ## Both judges -/

/-- **The first bytes decide how long a frame is, once and for good**, and a place looks like a start
unless they decide against its version or its type. A front that is open is short, a known length
takes in the bytes that told it, and what looks like a start and is refused all the same announces
too large a payload. -/
theorem frameLength_decides (d : Direction) (bytes : Bytes) :
    (∀ more, frameLength d bytes ≠ .ok none →
      frameLength d (bytes ++ more) = frameLength d bytes) ∧
    (frameLength d bytes = .ok none → bytes.length < enoughToDecide d) ∧
    (∀ n, frameLength d bytes = .ok (some n) →
      7 ≤ n ∧ n ≤ 2056 ∧ ∃ k, k ≤ n ∧ DecidedBy d bytes k) ∧
    (bytes ≠ [] →
      (plausibleStart d bytes = false ↔
        (∃ v, frameLength d bytes = .error (.badVersion v)) ∨
          ∃ type, frameLength d bytes = .error (.unknownType type d)) ∧
      (∀ known, frameLength d bytes = .ok known → plausibleStart d bytes = true)) ∧
    ∀ cause, plausibleStart d bytes = true ∧ frameLength d bytes = .error cause ↔
      ∃ type declared rest, lengthRule? d type = some .field ∧
        bytes = protocolVersion :: type :: (u16 declared ++ rest) ∧
        1024 < declared.toNat ∧ cause = .announcesTooMuch declared.toNat := by
  refine ⟨frameLength_append, length_lt_enoughToDecide, ?_, ?_, fun _ => plausible_refused_iff⟩
  · intro n h
    have hmost : n ≤ 2056 := Nat.le_trans (frameLength_le h) (by cases d <;> decide)
    obtain ⟨k, hk⟩ := exists_decidedBy (by simp [h] : frameLength d bytes ≠ .ok none)
    exact ⟨seven_le_frameLength h, hmost, k, hk.le_of_length h, hk⟩
  · intro hne
    exact ⟨plausibleStart_eq_false_iff hne, fun _ h => plausibleStart_of_ok hne h⟩

end SensorLink
