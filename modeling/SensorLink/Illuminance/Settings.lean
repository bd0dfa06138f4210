import SensorLink.Illuminance.Parameters

/-!
# Updating single parameters

A user names the parameters that are to change, as a JSON object, and the others keep the values
that the sensor reports. Nine of the fields can be named. What identifies the sensor is read-only,
any other name is refused, and a value has to be an integer of the field's width.

Names are looked at before values and values before ranges, each in the order of the object. The
whole result has to be valid, so a sensor that reports a parameter out of range takes no update that
leaves it so.
-/

namespace SensorLink.Illuminance

/-- A parameter that can be written. -/
inductive Field where
  | timezone
  | bleMode
  | txPower
  | advertiseInterval
  | uplinkInterval
  | readMode
  | sampling
  | hysteresisHigh
  | hysteresisLow
  deriving DecidableEq, Repr

namespace Field

/-- Every writable parameter. -/
def all : List Field :=
  [.timezone, .bleMode, .txPower, .advertiseInterval, .uplinkInterval, .readMode, .sampling,
    .hysteresisHigh, .hysteresisLow]

/-- The name of a parameter in an update. -/
def name : Field → String
  | .timezone => "timezone"
  | .bleMode => "ble_mode"
  | .txPower => "tx_power"
  | .advertiseInterval => "advertise_interval_ms"
  | .uplinkInterval => "uplink_interval_s"
  | .readMode => "read_mode"
  | .sampling => "sampling"
  | .hysteresisHigh => "hysteresis_high"
  | .hysteresisLow => "hysteresis_low"

/-- The parameter of a name. -/
def ofName? (name : String) : Option Field := all.find? (·.name = name)

/-- The width of a parameter. -/
def width : Field → Width
  | .timezone | .bleMode | .txPower | .readMode | .sampling => .byte
  | .advertiseInterval => .word
  | .uplinkInterval | .hysteresisHigh | .hysteresisLow => .long

/-- The value of a parameter. -/
def get (p : Parameters) : Field → Nat
  | .timezone => p.timezone.toNat
  | .bleMode => p.bleMode.toNat
  | .txPower => p.txPower.toNat
  | .advertiseInterval => p.advertiseInterval.toNat
  | .uplinkInterval => p.uplinkInterval.toNat
  | .readMode => p.readMode.toNat
  | .sampling => p.sampling.toNat
  | .hysteresisHigh => p.hysteresisHigh.toNat
  | .hysteresisLow => p.hysteresisLow.toNat

/-- The parameters with one of them replaced. -/
def set (p : Parameters) (n : Nat) : Field → Parameters
  | .timezone => { p with timezone := UInt8.ofNat n }
  | .bleMode => { p with bleMode := UInt8.ofNat n }
  | .txPower => { p with txPower := UInt8.ofNat n }
  | .advertiseInterval => { p with advertiseInterval := UInt16.ofNat n }
  | .uplinkInterval => { p with uplinkInterval := UInt32.ofNat n }
  | .readMode => { p with readMode := UInt8.ofNat n }
  | .sampling => { p with sampling := UInt8.ofNat n }
  | .hysteresisHigh => { p with hysteresisHigh := UInt32.ofNat n }
  | .hysteresisLow => { p with hysteresisLow := UInt32.ofNat n }

/-- A replaced parameter has its new value and the others have their old ones. -/
theorem get_set (p : Parameters) (f g : Field) {n : Nat} (h : n < f.width.limit) :
    get (set p n f) g = if f = g then n else get p g := by
  cases f <;> cases g <;> simp [get, set, width, Width.limit] at h ⊢ <;> omega

end Field

namespace Parameters

/-- The names that an update must not hold. -/
def readOnlyNames : List String := ["sensor_id", "fw_version"]

/-- The parameter that an update's key names. -/
def namedField (key : String) : Except Error Field :=
  if readOnlyNames.contains key then .error (.invalidParameter (.readOnlyField key))
  else
    match Field.ofName? key with
    | some field => .ok field
    | none => .error (.invalidParameter (.unknownField key))

/-- The integer that a value is, if it fits in a width. -/
def fitting (width : Width) (value : Json) : Except Error Nat :=
  match value with
  | .number (.natural n) =>
    if n < width.limit then .ok n else .error (.invalidParameter (.fieldValue value width))
  | _ => .error (.invalidParameter (.fieldValue value width))

/-- The members of an update with their keys read as parameters. -/
def namedFields : List (String × Json) → Except Error (List (Field × Json))
  | [] => .ok []
  | (key, value) :: rest => do
    let field ← namedField key
    let rest ← namedFields rest
    pure ((field, value) :: rest)

/-- The parameters of an update with their values read as integers. -/
def fieldValues : List (Field × Json) → Except Error (List (Field × Nat))
  | [] => .ok []
  | (field, value) :: rest => do
    let n ← fitting field.width value
    let rest ← fieldValues rest
    pure ((field, n) :: rest)

/-- The parameters with some of them replaced. -/
def setAll (p : Parameters) (values : List (Field × Nat)) : Parameters :=
  values.foldl (fun p (field, n) => field.set p n) p

/-- The parameters with an update applied. -/
def merged (p : Parameters) (updates : Json) : Except Error Parameters :=
  match updates with
  | .object members => do
    let named ← namedFields members
    let values ← fieldValues named
    let result := p.setAll values
    result.validate
    pure result
  | _ => .error (.invalidParameter .updatesNotObject)

end Parameters
end SensorLink.Illuminance
