/-!
# The ranges of illuminance parameters

Every writable parameter of an illuminance sensor has a range, and the two hysteresis thresholds
have to be in order. A set of parameters can break several of these rules at once, and all of them
are reported together, in the order in which they stand here.
-/

namespace SensorLink.Illuminance

/-- A rule that a set of parameters breaks. -/
inductive Problem where
  | timezone
  | bleMode
  | txPower
  | advertiseInterval
  | uplinkInterval
  | readMode
  | sampling
  | hysteresisRange
  | hysteresisOrder
  deriving DecidableEq, Repr

/-- The rule in words. -/
def Problem.message : Problem → String
  | .timezone => "timezone must be 0 (JST) or 1 (UTC)"
  | .bleMode => "ble_mode must be 0 (long range) or 1 (legacy)"
  | .txPower => "tx_power must be 0-8"
  | .advertiseInterval => "advertise_interval_ms must be 100-10000"
  | .uplinkInterval => "uplink_interval_s must be 5-86400"
  | .readMode => "read_mode must be 0-2"
  | .sampling => "sampling must be 0 (1 Hz) or 1 (2 Hz)"
  | .hysteresisRange => "hysteresis values must be 40-83865 lux"
  | .hysteresisOrder => "hysteresis_low must be below hysteresis_high"

end SensorLink.Illuminance
