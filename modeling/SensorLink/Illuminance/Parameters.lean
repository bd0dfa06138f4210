import SensorLink.Error.Basic
import SensorLink.Wire.Word

/-!
# Illuminance parameters

How an illuminance sensor is set up. A sensor reports its parameters as a block of 24 bytes and
takes new ones as 21: the same fields in the same order, less the version of its firmware, which
only the sensor itself can say.

Writing `valid` parameters is the point, so the ranges of all fields are in one list, `problems`,
and a set of parameters is valid when none of them applies.
-/

namespace SensorLink.Illuminance

open Wire
open Json (nat)

/-- The sensor number of an illuminance sensor. -/
def sensorNumber : UInt16 := 0x0121

/-- The version of a sensor's firmware. -/
structure FirmwareVersion where
  major : UInt8 := 0
  minor : UInt8 := 0
  patch : UInt8 := 0
  deriving DecidableEq, Repr

/-- The parameters of an illuminance sensor; a fresh set is one that every sensor accepts. -/
structure Parameters where
  sensor : UInt16 := sensorNumber
  firmware : FirmwareVersion := {}
  /-- 0 for Japan, 1 for UTC. -/
  timezone : UInt8 := 0
  /-- 0 for long range, 1 for legacy. -/
  bleMode : UInt8 := 0
  txPower : UInt8 := 0
  /-- Milliseconds. -/
  advertiseInterval : UInt16 := 1000
  /-- Seconds. -/
  uplinkInterval : UInt32 := 60
  /-- 0 for instant, 1 for detection, 2 for sampling. -/
  readMode : UInt8 := 0
  /-- 0 for 1 Hz, 1 for 2 Hz. -/
  sampling : UInt8 := 0
  /-- Lux. -/
  hysteresisHigh : UInt32 := 500
  /-- Lux. -/
  hysteresisLow : UInt32 := 400
  deriving DecidableEq, Repr

namespace Parameters

/-- Reads the fields of a reported block and what follows it. -/
def read (payload : Bytes) : Option (Parameters × Bytes) := do
  let (sensor, rest) ← readU16 payload
  let (major, rest) ← readU8 rest
  let (minor, rest) ← readU8 rest
  let (patch, rest) ← readU8 rest
  let (timezone, rest) ← readU8 rest
  let (bleMode, rest) ← readU8 rest
  let (txPower, rest) ← readU8 rest
  let (advertiseInterval, rest) ← readU16 rest
  let (uplinkInterval, rest) ← readU32 rest
  let (readMode, rest) ← readU8 rest
  let (sampling, rest) ← readU8 rest
  let (hysteresisHigh, rest) ← readU32 rest
  let (hysteresisLow, rest) ← readU32 rest
  pure ({ sensor, firmware := { major, minor, patch }, timezone, bleMode, txPower,
          advertiseInterval, uplinkInterval, readMode, sampling, hysteresisHigh,
          hysteresisLow }, rest)

/-- Reads a payload as a reported block; bytes behind the block are not looked at. -/
def parse (payload : Bytes) : Except Error Parameters :=
  match read payload with
  | none => .error (.malformed (.shortParameters payload.length))
  | some (parameters, _) => .ok parameters

/-- The fields that follow the firmware version. -/
def settingBytes (p : Parameters) : Bytes :=
  p.timezone :: p.bleMode :: p.txPower :: (u16 p.advertiseInterval ++ u32 p.uplinkInterval
    ++ p.readMode :: p.sampling :: (u32 p.hysteresisHigh ++ u32 p.hysteresisLow))

/-- The payload that writes the parameters. -/
def setPayload (p : Parameters) : Bytes := u16 p.sensor ++ p.settingBytes

/-- The block in which a sensor reports the parameters. -/
def block (p : Parameters) : Bytes :=
  u16 p.sensor ++ p.firmware.major :: p.firmware.minor :: p.firmware.patch :: p.settingBytes

theorem length_settingBytes (p : Parameters) : p.settingBytes.length = 19 := by simp [settingBytes]

/-- A reported block reads as the parameters that it reports. -/
theorem read_block (p : Parameters) (rest : Bytes) : read (p.block ++ rest) = some (p, rest) := by
  have h8 (v : UInt8) (r : Bytes) : readU8 (v :: r) = some (v, r) := rfl
  have h16 (v : UInt16) (r : Bytes) : readU16 (u16 v ++ r) = some (v, r) :=
    readU16_eq_some_iff.mpr rfl
  have h32 (v : UInt32) (r : Bytes) : readU32 (u32 v ++ r) = some (v, r) :=
    readU32_eq_some_iff.mpr rfl
  simp only [block, settingBytes, List.append_assoc, List.cons_append]
  unfold read
  refine Option.bind_eq_some_iff.mpr ⟨_, h16 p.sensor _, ?_⟩
  refine Option.bind_eq_some_iff.mpr ⟨_, h8 p.firmware.major _, ?_⟩
  refine Option.bind_eq_some_iff.mpr ⟨_, h8 p.firmware.minor _, ?_⟩
  refine Option.bind_eq_some_iff.mpr ⟨_, h8 p.firmware.patch _, ?_⟩
  refine Option.bind_eq_some_iff.mpr ⟨_, h8 p.timezone _, ?_⟩
  refine Option.bind_eq_some_iff.mpr ⟨_, h8 p.bleMode _, ?_⟩
  refine Option.bind_eq_some_iff.mpr ⟨_, h8 p.txPower _, ?_⟩
  refine Option.bind_eq_some_iff.mpr ⟨_, h16 p.advertiseInterval _, ?_⟩
  refine Option.bind_eq_some_iff.mpr ⟨_, h32 p.uplinkInterval _, ?_⟩
  refine Option.bind_eq_some_iff.mpr ⟨_, h8 p.readMode _, ?_⟩
  refine Option.bind_eq_some_iff.mpr ⟨_, h8 p.sampling _, ?_⟩
  refine Option.bind_eq_some_iff.mpr ⟨_, h32 p.hysteresisHigh _, ?_⟩
  exact Option.bind_eq_some_iff.mpr ⟨_, h32 p.hysteresisLow _, rfl⟩

/-- What has been read is the reported block of the parameters and what follows it. -/
theorem eq_block_of_read {p : Parameters} {payload rest : Bytes}
    (h : read payload = some (p, rest)) : payload = p.block ++ rest := by
  unfold read at h
  obtain ⟨⟨sensor, _⟩, hsensor, h⟩ := Option.bind_eq_some_iff.mp h
  obtain ⟨⟨major, _⟩, hmajor, h⟩ := Option.bind_eq_some_iff.mp h
  obtain ⟨⟨minor, _⟩, hminor, h⟩ := Option.bind_eq_some_iff.mp h
  obtain ⟨⟨patch, _⟩, hpatch, h⟩ := Option.bind_eq_some_iff.mp h
  obtain ⟨⟨timezone, _⟩, htimezone, h⟩ := Option.bind_eq_some_iff.mp h
  obtain ⟨⟨bleMode, _⟩, hbleMode, h⟩ := Option.bind_eq_some_iff.mp h
  obtain ⟨⟨txPower, _⟩, htxPower, h⟩ := Option.bind_eq_some_iff.mp h
  obtain ⟨⟨advertise, _⟩, hadvertise, h⟩ := Option.bind_eq_some_iff.mp h
  obtain ⟨⟨uplink, _⟩, huplink, h⟩ := Option.bind_eq_some_iff.mp h
  obtain ⟨⟨readMode, _⟩, hreadMode, h⟩ := Option.bind_eq_some_iff.mp h
  obtain ⟨⟨sampling, _⟩, hsampling, h⟩ := Option.bind_eq_some_iff.mp h
  obtain ⟨⟨high, _⟩, hhigh, h⟩ := Option.bind_eq_some_iff.mp h
  obtain ⟨⟨low, _⟩, hlow, h⟩ := Option.bind_eq_some_iff.mp h
  cases h
  rw [readU16_eq_some_iff] at hsensor hadvertise
  rw [readU32_eq_some_iff] at huplink hhigh hlow
  rw [readU8_eq_some_iff] at hmajor hminor hpatch htimezone hbleMode htxPower hreadMode hsampling
  rw [hsensor, hmajor, hminor, hpatch, htimezone, hbleMode, htxPower, hadvertise, huplink,
    hreadMode, hsampling, hhigh, hlow]
  simp only [block, settingBytes, List.append_assoc, List.cons_append]

/-! ## Ranges -/

/-- Whether a number of lux can be a threshold. -/
def isThreshold (lux : UInt32) : Bool := 40 ≤ lux && lux ≤ 83865

/-- Every rule, and whether it is broken. -/
def checks (p : Parameters) : List (Bool × Problem) :=
  [(1 < p.timezone, .timezone), (1 < p.bleMode, .bleMode), (8 < p.txPower, .txPower),
    (p.advertiseInterval < 100 || 10000 < p.advertiseInterval, .advertiseInterval),
    (p.uplinkInterval < 5 || 86400 < p.uplinkInterval, .uplinkInterval),
    (2 < p.readMode, .readMode), (1 < p.sampling, .sampling),
    (!isThreshold p.hysteresisHigh || !isThreshold p.hysteresisLow, .hysteresisRange),
    (p.hysteresisHigh ≤ p.hysteresisLow, .hysteresisOrder)]

/-- The rules that a set of parameters breaks. -/
def problems (p : Parameters) : List Problem := (p.checks.filter (·.1)).map (·.2)

/-- Refuses parameters that break a rule. -/
def validate (p : Parameters) : Except Error Unit :=
  if p.problems.isEmpty then .ok () else .error (.invalidParameter (.outOfRange p.problems))

/-- Parameters as a JSON value. -/
def report (p : Parameters) : Json :=
  .object [("sensor_id", nat p.sensor.toNat),
    ("fw_version", .array [nat p.firmware.major.toNat, nat p.firmware.minor.toNat,
      nat p.firmware.patch.toNat]),
    ("timezone", nat p.timezone.toNat), ("ble_mode", nat p.bleMode.toNat),
    ("tx_power", nat p.txPower.toNat), ("advertise_interval_ms", nat p.advertiseInterval.toNat),
    ("uplink_interval_s", nat p.uplinkInterval.toNat), ("read_mode", nat p.readMode.toNat),
    ("sampling", nat p.sampling.toNat), ("hysteresis_high", nat p.hysteresisHigh.toNat),
    ("hysteresis_low", nat p.hysteresisLow.toNat)]

end Parameters
end SensorLink.Illuminance
