import SensorLink.Illuminance.Handler

/-!
# What an update makes of a set of parameters

An update is merged in three rounds: over the names, over the values, over the ranges. What comes
out does not show the rounds (`Applies`): a parameter that the update names has the value that it
names last, and everything else is as the sensor reported it.

> **Whatever is merged is valid and applies the update** (`applies_of_merged`).

`setAll` goes over the values once and forgets what a later one replaces. So the induction asks the
later members first: a value that none of them replaces is the one that counts.
-/

namespace SensorLink

/-! ## Reported blocks -/

namespace Illuminance
namespace Parameters

open Wire

theorem length_block (p : Parameters) : p.block.length = 24 := by
  simp [block, length_settingBytes]

/-- Any 24 bytes are the block of some parameters. -/
theorem exists_block {payload : Bytes} (h : 24 ≤ payload.length) :
    ∃ (p : Parameters) (rest : Bytes), payload = p.block ++ rest := by
  obtain ⟨sensor, payload, rfl, h₁⟩ := exists_u16 payload (by omega)
  obtain ⟨major, payload, rfl, h₂⟩ := exists_u8 payload (by omega)
  obtain ⟨minor, payload, rfl, h₃⟩ := exists_u8 payload (by omega)
  obtain ⟨patch, payload, rfl, h₄⟩ := exists_u8 payload (by omega)
  obtain ⟨timezone, payload, rfl, h₅⟩ := exists_u8 payload (by omega)
  obtain ⟨bleMode, payload, rfl, h₆⟩ := exists_u8 payload (by omega)
  obtain ⟨txPower, payload, rfl, h₇⟩ := exists_u8 payload (by omega)
  obtain ⟨advertiseInterval, payload, rfl, h₈⟩ := exists_u16 payload (by omega)
  obtain ⟨uplinkInterval, payload, rfl, h₉⟩ := exists_u32 payload (by omega)
  obtain ⟨readMode, payload, rfl, h₁₀⟩ := exists_u8 payload (by omega)
  obtain ⟨sampling, payload, rfl, h₁₁⟩ := exists_u8 payload (by omega)
  obtain ⟨hysteresisHigh, payload, rfl, h₁₂⟩ := exists_u32 payload (by omega)
  obtain ⟨hysteresisLow, rest, rfl, -⟩ := exists_u32 payload (by omega)
  refine ⟨{ sensor, firmware := { major, minor, patch }, timezone, bleMode, txPower,
            advertiseInterval, uplinkInterval, readMode, sampling, hysteresisHigh,
            hysteresisLow }, rest, ?_⟩
  simp only [block, settingBytes, List.append_assoc, List.cons_append]

theorem parse_eq_ok_iff {p : Parameters} {payload : Bytes} :
    parse payload = .ok p ↔ ∃ rest, payload = p.block ++ rest := by
  unfold parse
  constructor
  · intro h
    split at h
    · cases h
    · rename_i rest hread
      cases h
      exact ⟨rest, eq_block_of_read hread⟩
  · rintro ⟨rest, rfl⟩
    rw [read_block]

/-- A payload is read if it is long enough, whatever is in it. -/
theorem exists_parse_iff {payload : Bytes} :
    (∃ p, parse payload = .ok p) ↔ 24 ≤ payload.length := by
  constructor
  · rintro ⟨p, h⟩
    obtain ⟨rest, rfl⟩ := parse_eq_ok_iff.mp h
    rw [List.length_append, length_block]
    exact Nat.le_add_right _ _
  · intro h
    obtain ⟨p, rest, hpayload⟩ := exists_block h
    exact ⟨p, parse_eq_ok_iff.mpr ⟨rest, hpayload⟩⟩

/-! ## What is merged -/

/-- The parameters are `current` with the members of an update applied. -/
structure Applies (members : List (String × Json)) (current merged : Parameters) : Prop where
  sensor : merged.sensor = current.sensor
  firmware : merged.firmware = current.firmware
  /-- An update names nothing but parameters. -/
  names : ∀ member ∈ members, ∃ field : Field, member.1 = field.name
  /-- Of the values that one name is given, the last counts. -/
  named : ∀ (field : Field) value, Json.member? field.name members.reverse = some value →
    value = Json.nat (field.get merged)
  unnamed : ∀ field : Field, Json.member? field.name members.reverse = none →
    field.get merged = field.get current

theorem name_eq_of_namedField {key : String} {field : Field} (h : namedField key = .ok field) :
    key = field.name := by
  unfold namedField Field.ofName? at h
  split at h
  · cases h
  · split at h
    · rename_i hfound
      cases h
      have hname := List.find?_some hfound
      exact (of_decide_eq_true hname).symm
    · cases h

theorem eq_nat_of_fitting {width : Width} {value : Json} {n : Nat}
    (h : fitting width value = .ok n) : value = .nat n ∧ n < width.limit := by
  unfold fitting at h
  split at h
  · split at h
    · rename_i hfit
      cases h
      exact ⟨rfl, hfit⟩
    · cases h
  · cases h

/-- The members of an update that is made of these values. -/
def membersOf (values : List (Field × Nat)) : List (String × Json) :=
  values.map fun (field, n) => (field.name, .nat n)

/-- A first round that succeeds has read every name. -/
theorem eq_map_of_namedFields {members : List (String × Json)} {named : List (Field × Json)}
    (h : namedFields members = .ok named) :
    members = named.map fun (field, value) => (field.name, value) := by
  induction members generalizing named with
  | nil =>
    cases h
    rfl
  | cons first rest ih =>
    obtain ⟨key, value⟩ := first
    obtain ⟨field, hfield, h⟩ := bind_eq_ok_iff.mp h
    obtain ⟨later, hlater, h⟩ := bind_eq_ok_iff.mp h
    cases h
    rw [List.map_cons, ← ih hlater, name_eq_of_namedField hfield]

/-- A second round that succeeds has read every value. -/
theorem eq_map_of_fieldValues {named : List (Field × Json)} {values : List (Field × Nat)}
    (h : fieldValues named = .ok values) :
    (named = values.map fun (field, n) => (field, .nat n)) ∧
      ∀ v ∈ values, v.2 < v.1.width.limit := by
  induction named generalizing values with
  | nil =>
    cases h
    exact ⟨rfl, nofun⟩
  | cons first rest ih =>
    obtain ⟨field, value⟩ := first
    obtain ⟨n, hvalue, h⟩ := bind_eq_ok_iff.mp h
    obtain ⟨later, hlater, h⟩ := bind_eq_ok_iff.mp h
    cases h
    obtain ⟨hnamed, hfit⟩ := ih hlater
    obtain ⟨rfl, hn⟩ := eq_nat_of_fitting hvalue
    rw [List.map_cons, ← hnamed]
    exact ⟨rfl, List.forall_mem_cons.mpr ⟨hn, hfit⟩⟩

/-! ### The result -/

theorem set_sensor (p : Parameters) (field : Field) (n : Nat) :
    (field.set p n).sensor = p.sensor := by cases field <;> rfl

theorem set_firmware (p : Parameters) (field : Field) (n : Nat) :
    (field.set p n).firmware = p.firmware := by cases field <;> rfl

theorem name_inj {f g : Field} (h : f.name = g.name) : f = g := by
  cases f <;> cases g <;> first | rfl | exact absurd h (by decide)

/-- The last member has the last word. -/
theorem member?_reverse_membersOf (field : Field) (n : Nat) (values : List (Field × Nat))
    (key : String) :
    Json.member? key (membersOf ((field, n) :: values)).reverse =
      (Json.member? key (membersOf values).reverse).or
        (if field.name = key then some (.nat n) else none) := by
  unfold Json.member? membersOf
  rw [List.map_cons, List.reverse_cons, List.find?_append]
  by_cases h : field.name = key <;>
    cases ((values.map fun (field, n) => (field.name, Json.nat n)).reverse).find? _ <;> simp [h]

theorem applies_setAll {values : List (Field × Nat)}
    (hfit : ∀ v ∈ values, v.2 < v.1.width.limit) (current : Parameters) :
    Applies (membersOf values) current (current.setAll values) := by
  -- Members are set from the first to the last, so what is set later is what stays.
  induction values generalizing current with
  | nil => exact ⟨rfl, rfl, nofun, nofun, fun _ _ => rfl⟩
  | cons first values ih =>
    obtain ⟨field, n⟩ := first
    obtain ⟨hn, hfit⟩ := List.forall_mem_cons.mp hfit
    obtain ⟨hsensor, hfirmware, hnames, hnamed, hunnamed⟩ := ih hfit (field.set current n)
    refine ⟨by rw [← set_sensor current field n, ← hsensor]; rfl,
      by rw [← set_firmware current field n, ← hfirmware]; rfl,
      List.forall_mem_cons.mpr ⟨⟨field, rfl⟩, hnames⟩, fun other value hvalue => ?_,
      fun other hnone => ?_⟩
    · -- The first member counts only if no later one has the same name.
      rw [member?_reverse_membersOf] at hvalue
      cases hlater : Json.member? other.name (membersOf values).reverse with
      | some found =>
        rw [hlater, Option.some_or] at hvalue
        cases hvalue
        exact hnamed other value hlater
      | none =>
        have hget := hunnamed other hlater
        rw [hlater, Option.none_or] at hvalue
        split at hvalue
        · rename_i hname
          cases hvalue
          obtain rfl := name_inj hname
          rw [Field.get_set _ _ _ hn, if_pos rfl] at hget
          exact congrArg Json.nat hget.symm
        · cases hvalue
    · rw [member?_reverse_membersOf, Option.or_eq_none_iff] at hnone
      obtain ⟨hlater, hfirst⟩ := hnone
      -- No member has the name, neither this one nor a later one.
      have hget := hunnamed other hlater
      have hne : field ≠ other := by
        rintro rfl
        rw [if_pos rfl] at hfirst
        cases hfirst
      rw [Field.get_set _ _ _ hn, if_neg hne] at hget
      exact hget

/-- The three rounds as one: what is merged was merged from the values that the update is made of. -/
theorem values_of_merged {current merged : Parameters} {updates : Json}
    (h : current.merged updates = .ok merged) :
    ∃ values, updates = .object (membersOf values) ∧ (∀ v ∈ values, v.2 < v.1.width.limit) ∧
      merged = current.setAll values ∧ merged.validate = .ok () := by
  cases updates with
  | object members =>
    obtain ⟨named, hnamed, h⟩ := bind_eq_ok_iff.mp h
    obtain ⟨values, hvalues, h⟩ := bind_eq_ok_iff.mp h
    obtain ⟨_, hvalid, h⟩ := bind_eq_ok_iff.mp h
    cases h
    obtain ⟨rfl, hfit⟩ := eq_map_of_fieldValues hvalues
    have hmembers := eq_map_of_namedFields hnamed
    rw [List.map_map] at hmembers
    exact ⟨values, congrArg Json.object hmembers, hfit, rfl, hvalid⟩
  | _ => cases h

/-- **Whatever is merged is valid and applies the update.** -/
theorem applies_of_merged {current merged : Parameters} {updates : Json}
    (h : current.merged updates = .ok merged) :
    merged.validate = .ok () ∧ ∃ members, updates = .object members ∧
      Applies members current merged := by
  obtain ⟨values, rfl, hfit, rfl, hvalid⟩ := values_of_merged h
  exact ⟨hvalid, _, rfl, applies_setAll hfit current⟩

/-! ### Refusals -/

theorem error_of_namedFields {members : List (String × Json)} {e : Error}
    (h : namedFields members = .error e) : ∃ cause, e = .invalidParameter cause := by
  induction members with
  | nil => cases h
  | cons first rest ih =>
    obtain ⟨key, value⟩ := first
    rcases bind_eq_error_iff.mp h with hfield | ⟨field, -, h⟩
    · unfold namedField at hfield
      split at hfield
      · exact ⟨_, (Except.error.inj hfield).symm⟩
      · split at hfield
        · cases hfield
        · exact ⟨_, (Except.error.inj hfield).symm⟩
    · rcases bind_eq_error_iff.mp h with hrest | ⟨later, -, h⟩
      · exact ih hrest
      · cases h

theorem error_of_fieldValues {named : List (Field × Json)} {e : Error}
    (h : fieldValues named = .error e) : ∃ cause, e = .invalidParameter cause := by
  induction named with
  | nil => cases h
  | cons first rest ih =>
    obtain ⟨field, value⟩ := first
    rcases bind_eq_error_iff.mp h with hvalue | ⟨n, -, h⟩
    · unfold fitting at hvalue
      split at hvalue
      · split at hvalue
        · cases hvalue
        · exact ⟨_, (Except.error.inj hvalue).symm⟩
      · exact ⟨_, (Except.error.inj hvalue).symm⟩
    · rcases bind_eq_error_iff.mp h with hrest | ⟨later, -, h⟩
      · exact ih hrest
      · cases h

/-- An update is refused for what is in it, and for nothing else. -/
theorem error_of_merged {current : Parameters} {updates : Json} {e : Error}
    (h : current.merged updates = .error e) : ∃ cause, e = .invalidParameter cause := by
  cases updates with
  | object members =>
    rcases bind_eq_error_iff.mp h with hnamed | ⟨named, -, h⟩
    · exact error_of_namedFields hnamed
    rcases bind_eq_error_iff.mp h with hvalues | ⟨values, -, h⟩
    · exact error_of_fieldValues hvalues
    rcases bind_eq_error_iff.mp h with hvalid | ⟨_, -, h⟩
    · unfold validate at hvalid
      split at hvalid
      · cases hvalid
      · exact ⟨_, (Except.error.inj hvalid).symm⟩
    · cases h
  | _ => exact ⟨_, (Except.error.inj h).symm⟩

end Parameters

/-! ## The payload that is written -/

/-- A payload to be written is made of a reported block, and its parameters apply the update. -/
theorem mergeSettings_eq_ok_iff {payload write : Bytes} {updates : Json} :
    mergeSettings setParameter payload updates = .ok write ↔
      ∃ current merged, Parameters.parse payload = .ok current ∧
        current.merged updates = .ok merged ∧ write = merged.setPayload := by
  rw [mergeSettings, if_pos rfl]
  simp only [bind_eq_ok_iff]
  constructor
  · rintro ⟨current, hcurrent, merged, hmerged, h⟩
    exact ⟨current, merged, hcurrent, hmerged, (Except.ok.inj h).symm⟩
  · rintro ⟨current, merged, hcurrent, hmerged, rfl⟩
    exact ⟨current, hcurrent, merged, hmerged, rfl⟩

/-- A reply is refused as too short, an update for what is in it. -/
theorem error_of_mergeSettings {command : String} {payload : Bytes} {updates : Json} {e : Error}
    (h : mergeSettings command payload updates = .error e) :
    (∃ cause, e = .malformed cause) ∨ ∃ cause, e = .invalidParameter cause := by
  unfold mergeSettings at h
  split at h
  · rcases bind_eq_error_iff.mp h with hcurrent | ⟨current, -, h⟩
    · unfold Parameters.parse at hcurrent
      split at hcurrent
      · exact .inl ⟨_, (Except.error.inj hcurrent).symm⟩
      · cases hcurrent
    rcases bind_eq_error_iff.mp h with hmerged | ⟨merged, -, h⟩
    · exact .inr (Parameters.error_of_merged hmerged)
    · cases h
  · exact .inr ⟨_, (Except.error.inj h).symm⟩

end Illuminance
end SensorLink
