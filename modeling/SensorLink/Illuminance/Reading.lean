import SensorLink.Error.Basic
import SensorLink.Time.Calendar
import SensorLink.Wire.Word

/-!
# Illuminance readings

A reading is a header of eight bytes and as many samples as the header says, each a little-endian
single-precision number of lux. Bytes behind the last sample are not looked at. A sample is kept as
its bits: every pattern is a sample, the ones that are no number too.
-/

namespace SensorLink.Illuminance

open Wire
open Json (nat)

/-- One reading of an illuminance sensor. -/
structure Reading where
  /-- Percent of charge. -/
  battery : UInt8
  sampling : UInt8
  time : UInt32
  /-- Lux, as the bits of single-precision numbers. -/
  lux : List UInt32
  deriving DecidableEq, Repr

namespace Reading

/-- How many bytes come before the samples. -/
def headerLength : Nat := 8

/-- Reads the fields before the samples, the count of samples, and what follows. -/
def readHeader (payload : Bytes) : Option (UInt8 × UInt8 × UInt32 × UInt16 × Bytes) := do
  let (battery, rest) ← readU8 payload
  let (sampling, rest) ← readU8 rest
  let (time, rest) ← readU32 rest
  let (count, rest) ← readU16 rest
  pure (battery, sampling, time, count, rest)

/-- Reads so many samples. -/
def readSamples : Nat → Bytes → Option (List UInt32)
  | 0, _ => some []
  | count + 1, bytes => do
    let (sample, rest) ← readU32 bytes
    let samples ← readSamples count rest
    pure (sample :: samples)

/-- Reads a payload as a reading. -/
def parse (payload : Bytes) : Except Error Reading :=
  match readHeader payload with
  | none => .error (.malformed (.shortReading payload.length))
  | some (battery, sampling, time, count, rest) =>
    match readSamples count.toNat rest with
    | none => .error (.malformed (.missingSamples count.toNat rest.length))
    | some lux => .ok { battery, sampling, time, lux }

/-- A reading as a JSON value; a sample that is no finite number is `null`. -/
def report (r : Reading) : Json :=
  .object [("battery_level", nat r.battery.toNat), ("sampling", nat r.sampling.toNat),
    ("sensor_time", nat r.time.toNat), ("sensor_time_utc", .string (Calendar.utc r.time)),
    ("lux", .array (r.lux.map fun bits => .ofDouble (.ofSingle bits)))]

end Reading
end SensorLink.Illuminance
