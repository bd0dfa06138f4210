import SensorLink.Proofs.Packet.Fields
import SensorLink.Proofs.Packet.Prefix

/-!
# Three ways to know a length

The two directions have eight kinds of frame between them and only three ways to say how long one
is: the kind has a fixed size, or there is a length field, or the length follows from the command
that is answered. `lengthRule?` is that table, and `frameLength_cons_cons` says that behind the
version byte there is nothing else to `frameLength`.

What is the same for all kinds is then shown once for each rule:

> **no frame is longer than `longestFrame`** (`frameLength_le`);
>
> **a length that is not known yet can still become known, before the frame is over**
> (`exists_length`).

The second is what makes waiting safe. There is no front that a framer waits on although nothing
could ever complete it.
-/

namespace SensorLink

open Wire

/-- How the length of a frame is told. -/
inductive LengthRule where
  /-- Every frame of the kind has this size. -/
  | fixed (size : Nat)
  /-- By the length field behind the type byte. -/
  | field
  /-- By the command that is answered. -/
  | command
  deriving DecidableEq, Repr

/-- The rule of a type byte; `none` if no frame of the direction has it. -/
def lengthRule? (d : Direction) (type : UInt8) : Option LengthRule :=
  match d with
  | .hostToRouter => (RequestType.ofByte? type).map fun
    | .downlink => .field
    | .jigInfo => .fixed 11
    | .dfu => .fixed 10
  | .routerToHost => (ResponseType.ofByte? type).map fun
    | .uplink => .field
    | .downlinkResponse => .fixed 20
    | .jigInfo => .command
    | .dfu => .fixed 7
    | .errorNotification => .fixed 7

/-- The length by a rule, of a frame that starts like this. -/
def LengthRule.length (frame : Bytes) : LengthRule → Except Malformed (Option Nat)
  | .fixed size => .ok (some size)
  | .field => prefixedLength 21 frame
  | .command => .ok (answerLength frame)

theorem frameLength_cons_cons (d : Direction) (type : UInt8) (body : Bytes) :
    frameLength d (protocolVersion :: type :: body) =
      match lengthRule? d type with
      | some rule => rule.length (protocolVersion :: type :: body)
      | none => .error (.unknownType type d) := by
  simp only [frameLength, lengthRule?, ne_eq, not_true_eq_false, if_false]
  cases d with
  | hostToRouter =>
    cases htype : RequestType.ofByte? type with
    | none => rfl
    | some kind => cases kind <;> rfl
  | routerToHost =>
    cases htype : ResponseType.ofByte? type with
    | none => rfl
    | some kind => cases kind <;> rfl

/-- What is not refused has a rule, and its length is told by that rule. -/
theorem rule_of_frameLength {d : Direction} {v type : UInt8} {body : Bytes} {known : Option Nat}
    (h : frameLength d (v :: type :: body) = .ok known) :
    v = protocolVersion ∧ ∃ rule, lengthRule? d type = some rule ∧
      rule.length (v :: type :: body) = .ok known := by
  obtain rfl := version_of_frameLength h
  rw [frameLength_cons_cons] at h
  cases hrule : lengthRule? d type with
  | none =>
    rw [hrule] at h
    cases h
  | some rule =>
    rw [hrule] at h
    exact ⟨rfl, rule, rfl, h⟩

/-- A known length was told by a rule, so version and type are there. -/
theorem exists_rule_of_frameLength {d : Direction} {bytes : Bytes} {n : Nat}
    (h : frameLength d bytes = .ok (some n)) :
    ∃ type body rule, bytes = protocolVersion :: type :: body ∧ lengthRule? d type = some rule ∧
      rule.length bytes = .ok (some n) := by
  match bytes with
  | [] => cases h
  | [v] =>
    obtain rfl := version_of_frameLength h
    cases h
  | v :: type :: body =>
    obtain ⟨rfl, rule, hrule, hlength⟩ := rule_of_frameLength h
    exact ⟨type, body, rule, rfl, hrule, hlength⟩

/-! ## No frame is longer -/

/-- The longest frame of a direction: from the host a request with the largest payload, from the
router a full table of devices. -/
def longestFrame : Direction → Nat
  | .hostToRouter => 21 + maxPayload
  | .routerToHost => 15 + (1 + 8 * 255)

theorem replyLength?_bounds {code : UInt8} {payload : Bytes} {n : Nat}
    (h : RouterCommand.replyLength? code payload = some n) : 1 ≤ n ∧ n ≤ 1 + 8 * 255 := by
  unfold RouterCommand.replyLength? at h
  cases hshape : (RouterCommand.ofCode code).replyShape with
  | deviceTable =>
    rw [hshape] at h
    obtain ⟨count, -, rfl⟩ := Option.map_eq_some_iff.mp h
    have hlt := count.toNat_lt
    omega
  | version | scanMode | deviceSlot | status =>
    rw [hshape] at h
    cases h
    omega

/-- An answer's length is at least that of its fields and of one byte more. -/
theorem answerLength_bounds {frame : Bytes} {n : Nat} (h : answerLength frame = some n) :
    16 ≤ n ∧ n ≤ longestFrame .routerToHost := by
  unfold answerLength at h
  split at h
  · cases h
  · obtain ⟨payload, hpayload, rfl⟩ := Option.map_eq_some_iff.mp h
    obtain ⟨hleast, hmost⟩ := replyLength?_bounds hpayload
    exact ⟨Nat.add_le_add_left hleast 15, Nat.add_le_add_left hmost 15⟩

theorem prefixedLength_bounds {frame : Bytes} {n : Nat}
    (h : prefixedLength 21 frame = .ok (some n)) : 21 ≤ n ∧ n ≤ 21 + maxPayload := by
  unfold prefixedLength at h
  split at h
  · simp only at h
    split at h
    · cases h
    · cases h
      omega
  · cases h

theorem size_le_of_fixed {d : Direction} {type : UInt8} {size : Nat}
    (h : lengthRule? d type = some (.fixed size)) : size ≤ 20 := by
  cases d with
  | hostToRouter =>
    obtain ⟨kind, -, hrule⟩ := Option.map_eq_some_iff.mp h
    cases kind <;> cases hrule <;> decide
  | routerToHost =>
    obtain ⟨kind, -, hrule⟩ := Option.map_eq_some_iff.mp h
    cases kind <;> cases hrule <;> decide

theorem direction_of_command {d : Direction} {type : UInt8}
    (h : lengthRule? d type = some .command) : d = .routerToHost := by
  cases d with
  | hostToRouter =>
    obtain ⟨kind, -, hrule⟩ := Option.map_eq_some_iff.mp h
    cases kind <;> cases hrule
  | routerToHost => rfl

theorem maxPayload_lt_longestFrame (d : Direction) : 20 < 21 + maxPayload ∧
    21 + maxPayload ≤ longestFrame d := by
  cases d <;> decide

/-- **No frame is longer than the longest.** -/
theorem frameLength_le {d : Direction} {bytes : Bytes} {n : Nat}
    (h : frameLength d bytes = .ok (some n)) : n ≤ longestFrame d := by
  have hlongest := maxPayload_lt_longestFrame d
  obtain ⟨type, body, rule, rfl, hrule, hlength⟩ := exists_rule_of_frameLength h
  cases rule with
  | fixed size =>
    cases hlength
    have hsize := size_le_of_fixed hrule
    omega
  | field =>
    have hbounds := prefixedLength_bounds hlength
    omega
  | command =>
    obtain rfl := direction_of_command hrule
    exact (answerLength_bounds (Except.ok.inj hlength)).2

example : longestFrame .hostToRouter = 1045 ∧ longestFrame .routerToHost = 2056 := by decide

/-! ## A length becomes known -/

/-- Zeros for what is missing of a length field announce no more than is allowed. -/
theorem exists_prefixedLength (v type : UInt8) {body : Bytes}
    (h : prefixedLength 21 (v :: type :: body) = .ok none) :
    ∃ more n, prefixedLength 21 (v :: type :: (body ++ more)) = .ok (some n) ∧
      body.length + more.length + 2 ≤ n := by
  match body with
  | [] => exact ⟨[0, 0], 21, rfl, by decide⟩
  | [low] =>
    have hlow := low.toNat_lt
    have hword : leValue [low, 0] = low.toNat := rfl
    have hnot : ¬ maxPayload < leValue [low, 0] := by
      rw [hword, maxPayload]
      omega
    refine ⟨[0], 21 + leValue [low, 0], ?_, ?_⟩
    · simp only [List.cons_append, List.nil_append, prefixedLength, if_neg hnot]
    · simp only [List.length_cons, List.length_nil]
      omega
  | low :: high :: rest =>
    simp only [prefixedLength] at h
    split at h <;> cases h

theorem exists_replyLength? (code count : UInt8) (rest : Bytes) :
    ∃ n, RouterCommand.replyLength? code (count :: rest) = some n := by
  unfold RouterCommand.replyLength?
  cases (RouterCommand.ofCode code).replyShape <;> exact ⟨_, rfl⟩

/-- Sixteen bytes are enough to know the length of an answer. -/
theorem exists_answerLength (v type : UInt8) {body : Bytes} (h : 14 ≤ body.length) :
    ∃ n, answerLength (v :: type :: body) = some n := by
  obtain ⟨answer, hversion, hbody, hlength⟩ :=
    JigInfoResponse.exists_fields 0 (Nat.le_of_succ_le h)
  have hread : JigInfoResponse.read 0 body = some answer :=
    JigInfoResponse.read_eq_some_iff.mpr ⟨hversion, hbody⟩
  obtain ⟨count, rest, hpayload, -⟩ := exists_u8 answer.payload (by omega)
  obtain ⟨n, hn⟩ := exists_replyLength? answer.command count rest
  refine ⟨15 + n, ?_⟩
  simp only [answerLength, List.drop_succ_cons, List.drop_zero, hread, hpayload, hn,
    Option.map_some]

/-- The number of bytes with which a rule always knows the length. -/
def LengthRule.enough : LengthRule → Nat
  | .fixed _ => 2
  | .field => 4
  | .command => 16

/-- A rule waits only as long as it has fewer. -/
theorem LengthRule.length_lt_enough {rule : LengthRule} {v type : UInt8} {body : Bytes}
    (h : rule.length (v :: type :: body) = .ok none) :
    (v :: type :: body).length < rule.enough := by
  simp only [List.length_cons]
  apply Nat.lt_of_not_le
  intro hlong
  cases rule with
  | fixed size => cases h
  | field =>
    have htwo : 2 ≤ body.length := Nat.le_of_succ_le_succ (Nat.le_of_succ_le_succ hlong)
    obtain ⟨declared, rest, rfl, -⟩ := exists_u16 body htwo
    rw [length, prefixedLength_field] at h
    split at h <;> cases h
  | command =>
    have hfourteen : 14 ≤ body.length := Nat.le_of_succ_le_succ (Nat.le_of_succ_le_succ hlong)
    obtain ⟨n, hn⟩ := exists_answerLength v type hfourteen
    have hnone := hn.symm.trans (Except.ok.inj h)
    cases hnone

/-- **A length that is not known yet can become known**, and the frame is not over by then. -/
theorem exists_length {d : Direction} {bytes : Bytes} (h : frameLength d bytes = .ok none) :
    ∃ more n, frameLength d (bytes ++ more) = .ok (some n) ∧ (bytes ++ more).length ≤ n := by
  match bytes with
  -- The type byte `0x00` stands for a frame with a length field in both directions.
  | [] => exact ⟨[protocolVersion, 0, 0, 0], 21, by cases d <;> rfl, by decide⟩
  | [v] =>
    obtain rfl := version_of_frameLength h
    exact ⟨[0, 0, 0], 21, by cases d <;> rfl, by decide⟩
  | v :: type :: body =>
    obtain ⟨rfl, rule, hrule, hlength⟩ := rule_of_frameLength h
    simp only [List.cons_append, frameLength_cons_cons, hrule]
    cases rule with
    | fixed size => cases hlength
    | field =>
      obtain ⟨more, n, hn, hle⟩ := exists_prefixedLength protocolVersion type hlength
      refine ⟨more, n, hn, ?_⟩
      simp only [List.length_cons, List.length_append]
      omega
    | command =>
      have hlt : body.length + 1 + 1 < 16 := LengthRule.length_lt_enough hlength
      have hlong : (body ++ List.replicate (14 - body.length) 0).length = 14 := by
        rw [List.length_append, List.length_replicate]
        omega
      obtain ⟨n, hn⟩ := exists_answerLength protocolVersion type (Nat.le_of_eq hlong.symm)
      refine ⟨_, n, congrArg Except.ok hn, ?_⟩
      have hbounds := answerLength_bounds hn
      simp only [List.length_cons, hlong]
      omega

end SensorLink
