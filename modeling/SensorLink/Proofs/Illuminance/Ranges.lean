import SensorLink.Proofs.Illuminance.Updates
import SensorLink.Proofs.Json.Members

/-!
# Exactly which updates are taken

`Updates` says what an update makes of a set of parameters once it is taken. This file says which
updates are:

> **an update is taken if and only if it is an object, names nothing but parameters, gives each an
> integer that fits it, and leaves every parameter in its range** (`merged_exactly`).

The ranges are here as the two ends of each (`Field.least`, `Field.greatest`) and the order of the
two thresholds. The list of checks that `validate` goes through is another way to say it: there one
entry speaks of two fields, and the ends are in words of three widths.

A range that the sensor itself breaks counts like any other. An update that does not mend it is
refused, however right it is.
-/

namespace SensorLink.Illuminance

namespace Field

/-- The least value that a sensor accepts. -/
def least : Field → Nat
  | .timezone | .bleMode | .txPower | .readMode | .sampling => 0
  | .advertiseInterval => 100
  | .uplinkInterval => 5
  | .hysteresisHigh | .hysteresisLow => 40

/-- The greatest value that a sensor accepts. -/
def greatest : Field → Nat
  | .timezone | .bleMode | .sampling => 1
  | .txPower => 8
  | .advertiseInterval => 10000
  | .uplinkInterval => 86400
  | .readMode => 2
  | .hysteresisHigh | .hysteresisLow => 83865

def InRange (p : Parameters) (field : Field) : Prop :=
  field.least ≤ field.get p ∧ field.get p ≤ field.greatest

end Field

namespace Parameters

/-! ## Ranges -/

structure InRange (p : Parameters) : Prop where
  field : ∀ field : Field, field.InRange p
  order : Field.hysteresisLow.get p < Field.hysteresisHigh.get p

theorem isThreshold_iff {lux : UInt32} :
    isThreshold lux = true ↔ 40 ≤ lux.toNat ∧ lux.toNat ≤ 83865 := by
  simp only [isThreshold, Bool.and_eq_true, decide_eq_true_eq, UInt32.le_iff_toNat_le]
  rfl

theorem problems_isEmpty_iff {p : Parameters} :
    p.problems.isEmpty = true ↔ ∀ check ∈ p.checks, check.1 = false := by
  rw [problems, List.isEmpty_iff, List.map_eq_nil_iff, List.filter_eq_nil_iff]
  simp only [Bool.not_eq_true]

theorem checks_pass_iff {p : Parameters} :
    (∀ check ∈ p.checks, check.1 = false) ↔ p.InRange := by
  simp only [checks, List.forall_mem_cons, List.not_mem_nil, false_implies, implies_true, and_true,
    decide_eq_false_iff_not, Bool.or_eq_false_iff, Bool.not_eq_false', isThreshold_iff,
    UInt8.lt_iff_toNat_lt, UInt16.lt_iff_toNat_lt, UInt32.lt_iff_toNat_lt, UInt32.le_iff_toNat_le,
    Nat.not_lt, Nat.not_le]
  constructor
  · rintro ⟨htimezone, hble, htx, hadvertise, huplink, hread, hsampling, ⟨hhigh, hlow⟩, horder⟩
    refine ⟨fun field => ?_, horder⟩
    cases field with
    | timezone => exact ⟨Nat.zero_le _, htimezone⟩
    | bleMode => exact ⟨Nat.zero_le _, hble⟩
    | txPower => exact ⟨Nat.zero_le _, htx⟩
    | advertiseInterval => exact hadvertise
    | uplinkInterval => exact huplink
    | readMode => exact ⟨Nat.zero_le _, hread⟩
    | sampling => exact ⟨Nat.zero_le _, hsampling⟩
    | hysteresisHigh => exact hhigh
    | hysteresisLow => exact hlow
  · rintro ⟨hfield, horder⟩
    exact ⟨(hfield .timezone).2, (hfield .bleMode).2, (hfield .txPower).2,
      hfield .advertiseInterval, hfield .uplinkInterval, (hfield .readMode).2,
      (hfield .sampling).2, ⟨hfield .hysteresisHigh, hfield .hysteresisLow⟩, horder⟩

/-- **The checks are the ranges.** -/
theorem validate_eq_ok_iff {p : Parameters} : p.validate = .ok () ↔ p.InRange := by
  rw [← checks_pass_iff, ← problems_isEmpty_iff, validate]
  cases p.problems.isEmpty <;> simp

/-! ## Updates that can be read -/

/-- Every member of an update is a parameter with an integer that fits it. -/
def Writable (members : List (String × Json)) : Prop :=
  ∀ member ∈ members, ∃ (field : Field) (n : Nat),
    member = (field.name, .nat n) ∧ n < field.width.limit

theorem writable_iff_exists {members : List (String × Json)} :
    Writable members ↔
      ∃ values, members = membersOf values ∧ ∀ v ∈ values, v.2 < v.1.width.limit := by
  constructor
  · intro h
    induction members with
    | nil => exact ⟨[], rfl, nofun⟩
    | cons member rest ih =>
      obtain ⟨⟨field, n, rfl, hn⟩, hrest⟩ := List.forall_mem_cons.mp h
      obtain ⟨values, rfl, hvalues⟩ := ih hrest
      exact ⟨(field, n) :: values, rfl, List.forall_mem_cons.mpr ⟨hn, hvalues⟩⟩
  · rintro ⟨values, rfl, hvalues⟩ member hmember
    obtain ⟨⟨field, n⟩, hv, rfl⟩ := List.mem_map.mp hmember
    exact ⟨field, n, rfl, hvalues _ hv⟩

theorem namedField_name (field : Field) : namedField field.name = .ok field := by
  cases field <;> rfl

theorem fitting_nat {width : Width} {n : Nat} (h : n < width.limit) :
    fitting width (.nat n) = .ok n := if_pos h

/-- The first round reads every name of a writable update. -/
theorem namedFields_membersOf (values : List (Field × Nat)) :
    namedFields (membersOf values) = .ok (values.map fun (field, n) => (field, .nat n)) := by
  induction values with
  | nil => rfl
  | cons v values ih =>
    obtain ⟨field, n⟩ := v
    refine bind_eq_ok_iff.mpr ⟨field, namedField_name field, ?_⟩
    exact bind_eq_ok_iff.mpr ⟨_, ih, rfl⟩

/-- The second round reads every value of a writable update. -/
theorem fieldValues_map {values : List (Field × Nat)}
    (h : ∀ v ∈ values, v.2 < v.1.width.limit) :
    fieldValues (values.map fun (field, n) => (field, .nat n)) = .ok values := by
  induction values with
  | nil => rfl
  | cons v values ih =>
    obtain ⟨field, n⟩ := v
    obtain ⟨hn, hvalues⟩ := List.forall_mem_cons.mp h
    refine bind_eq_ok_iff.mpr ⟨n, fitting_nat hn, ?_⟩
    exact bind_eq_ok_iff.mpr ⟨values, ih hvalues, rfl⟩

/-- An update is taken for the values that it is made of, and for what becomes of them. -/
theorem merged_eq_ok_iff_values {current merged : Parameters} {updates : Json} :
    current.merged updates = .ok merged ↔
      ∃ values, updates = .object (membersOf values) ∧
        (∀ v ∈ values, v.2 < v.1.width.limit) ∧ merged = current.setAll values ∧
        merged.InRange := by
  constructor
  · intro h
    obtain ⟨values, hupdates, hfit, hmerged, hvalid⟩ := values_of_merged h
    exact ⟨values, hupdates, hfit, hmerged, validate_eq_ok_iff.mp hvalid⟩
  · rintro ⟨values, rfl, hfit, rfl, hrange⟩
    refine bind_eq_ok_iff.mpr ⟨_, namedFields_membersOf values, ?_⟩
    refine bind_eq_ok_iff.mpr ⟨values, fieldValues_map hfit, ?_⟩
    exact bind_eq_ok_iff.mpr ⟨(), validate_eq_ok_iff.mpr hrange, rfl⟩

/-! ## The result is determined -/

theorem ext_of_get {p q : Parameters} (hsensor : p.sensor = q.sensor)
    (hfirmware : p.firmware = q.firmware) (hget : ∀ field : Field, field.get p = field.get q) :
    p = q := by
  cases p
  cases q
  simp only [Parameters.mk.injEq]
  exact ⟨hsensor, hfirmware, UInt8.toNat_inj.mp (hget .timezone), UInt8.toNat_inj.mp (hget .bleMode),
    UInt8.toNat_inj.mp (hget .txPower), UInt16.toNat_inj.mp (hget .advertiseInterval),
    UInt32.toNat_inj.mp (hget .uplinkInterval), UInt8.toNat_inj.mp (hget .readMode),
    UInt8.toNat_inj.mp (hget .sampling), UInt32.toNat_inj.mp (hget .hysteresisHigh),
    UInt32.toNat_inj.mp (hget .hysteresisLow)⟩

theorem nat_inj {m n : Nat} (h : Json.nat m = Json.nat n) : m = n := by
  cases h
  rfl

/-- Only one set of parameters applies an update. -/
theorem Applies.unique {members : List (String × Json)} {current p q : Parameters}
    (hp : Applies members current p) (hq : Applies members current q) : p = q := by
  refine ext_of_get (hp.sensor.trans hq.sensor.symm) (hp.firmware.trans hq.firmware.symm) ?_
  intro field
  cases hvalue : Json.member? field.name members.reverse with
  | some value =>
    exact nat_inj ((hp.named field value hvalue).symm.trans (hq.named field value hvalue))
  | none => exact (hp.unnamed field hvalue).trans (hq.unnamed field hvalue).symm

theorem member?_reverse_eq_none {key : String} {members : List (String × Json)}
    (h : key ∉ Json.keys members) : Json.member? key members.reverse = none := by
  rw [← Option.not_isSome_iff_eq_none, ← Json.mem_keys_iff, Json.keys, List.map_reverse,
    List.mem_reverse]
  exact h

/-! ## Which updates are taken -/

theorem merged_eq_ok_iff {current merged : Parameters} {updates : Json} :
    current.merged updates = .ok merged ↔
      ∃ members, updates = .object members ∧ Writable members ∧ Applies members current merged ∧
        merged.InRange := by
  rw [merged_eq_ok_iff_values]
  constructor
  · rintro ⟨values, rfl, hfit, rfl, hrange⟩
    exact ⟨_, rfl, writable_iff_exists.mpr ⟨values, rfl, hfit⟩, applies_setAll hfit current, hrange⟩
  · rintro ⟨members, rfl, hwritable, happlies, hrange⟩
    obtain ⟨values, rfl, hfit⟩ := writable_iff_exists.mp hwritable
    exact ⟨values, rfl, hfit, happlies.unique (applies_setAll hfit current), hrange⟩

/-- What is not taken is refused as an invalid parameter. -/
theorem refused_iff {current : Parameters} {updates : Json} :
    (∃ cause, current.merged updates = .error (.invalidParameter cause)) ↔
      ¬ ∃ merged, current.merged updates = .ok merged := by
  constructor
  · rintro ⟨cause, herror⟩ ⟨merged, h⟩
    rw [h] at herror
    cases herror
  · intro hnone
    cases h : current.merged updates with
    | ok merged => exact absurd ⟨merged, h⟩ hnone
    | error e =>
      obtain ⟨cause, rfl⟩ := error_of_merged h
      exact ⟨cause, rfl⟩

/-- A parameter that an update does not name was in its range before. -/
theorem inRange_of_unnamed {current merged : Parameters} {members : List (String × Json)}
    {field : Field} (h : current.merged (.object members) = .ok merged)
    (hunnamed : field.name ∉ Json.keys members) : field.InRange current := by
  obtain ⟨_, hsame, -, happlies, hrange⟩ := merged_eq_ok_iff.mp h
  cases hsame
  rw [Field.InRange, ← happlies.unnamed field (member?_reverse_eq_none hunnamed)]
  exact hrange.field field

/-- **An update is taken exactly if it can be read and what it makes is in range**; it is refused as
an invalid parameter otherwise, also for a range that it does not touch. -/
theorem merged_exactly (current : Parameters) (updates : Json) :
    (∀ merged, current.merged updates = .ok merged ↔
      ∃ members, updates = .object members ∧ Writable members ∧ Applies members current merged ∧
        merged.InRange) ∧
    ((∃ cause, current.merged updates = .error (.invalidParameter cause)) ↔
      ¬ ∃ members merged, updates = .object members ∧ Writable members ∧
        Applies members current merged ∧ merged.InRange) ∧
    (∀ members (field : Field), updates = .object members → field.name ∉ Json.keys members →
      ¬ field.InRange current →
      ∃ cause, current.merged updates = .error (.invalidParameter cause)) := by
  refine ⟨fun merged => merged_eq_ok_iff, ?_, ?_⟩
  · rw [refused_iff, exists_comm]
    simp only [merged_eq_ok_iff]
  · rintro members field rfl hunnamed hout
    apply refused_iff.mpr
    rintro ⟨merged, h⟩
    exact hout (inRange_of_unnamed h hunnamed)

end Parameters
end SensorLink.Illuminance
