import SensorLink.Text.Hex

/-!
# Router commands

Requests to the router itself carry a one-byte command code. Nine codes are fixed; two runs of a
hundred codes each address a slot of the router's device table, by reading it or by clearing it.

The two runs are not quite disjoint from the fixed codes: clearing the last slot would have the code
of "read the whole table", and a code is always read as the fixed command first. So `ofCode` looks
at the fixed codes before the runs, and the order matters for that one code.
-/

namespace SensorLink

/-- What a router command code asks for. -/
inductive RouterCommand where
  | stop
  | start
  | getVersion
  | getScanMode
  | setScanModeLongRange
  | setScanModeLegacy
  | removeAllDevices
  | getAllDevices
  | keepAlive
  /-- Read the device id in a slot of the table. -/
  | getDevice (slot : UInt8)
  /-- Clear a slot of the table. -/
  | removeDevice (slot : UInt8)
  | unknown (code : UInt8)
  deriving DecidableEq, Repr

namespace RouterCommand

/-- The highest slot of the device table. -/
def maxSlot : UInt8 := 99

/-- The code of reading slot 0. -/
def getDeviceBase : UInt8 := 0x03

/-- The code of clearing slot 0. -/
def removeDeviceBase : UInt8 := 0x6C

/-- The command with a given code; fixed codes first. -/
def ofCode (code : UInt8) : RouterCommand :=
  match code with
  | 0x00 => .stop
  | 0x01 => .start
  | 0x02 => .getVersion
  | 0x67 => .getScanMode
  | 0x69 => .setScanModeLongRange
  | 0x6A => .setScanModeLegacy
  | 0x6B => .removeAllDevices
  | 0xCF => .getAllDevices
  | 0xD0 => .keepAlive
  | code =>
    if getDeviceBase ≤ code ∧ code ≤ getDeviceBase + maxSlot then .getDevice (code - getDeviceBase)
    else if removeDeviceBase ≤ code ∧ code ≤ removeDeviceBase + maxSlot then
      .removeDevice (code - removeDeviceBase)
    else .unknown code

/-- The code of a command. -/
def code : RouterCommand → UInt8
  | .stop => 0x00
  | .start => 0x01
  | .getVersion => 0x02
  | .getScanMode => 0x67
  | .setScanModeLongRange => 0x69
  | .setScanModeLegacy => 0x6A
  | .removeAllDevices => 0x6B
  | .getAllDevices => 0xCF
  | .keepAlive => 0xD0
  | .getDevice slot => getDeviceBase + slot
  | .removeDevice slot => removeDeviceBase + slot
  | .unknown code => code

/-- Every code is the code of the command that it is read as. -/
theorem code_ofCode : ∀ c : UInt8, (ofCode c).code = c := by
  have h : ∀ n < 256, (ofCode (UInt8.ofNat n)).code = UInt8.ofNat n := by decide +kernel
  intro c
  have := h c.toNat c.toNat_lt
  simpa using this

/-- The name that a command is reported by. -/
def name : RouterCommand → String
  | .stop => "ROUTER_STOP"
  | .start => "ROUTER_START"
  | .getVersion => "GET_VERSION"
  | .getScanMode => "GET_SCAN_MODE"
  | .setScanModeLongRange => "SET_SCAN_MODE_LONG_RANGE"
  | .setScanModeLegacy => "SET_SCAN_MODE_LEGACY"
  | .removeAllDevices => "REMOVE_DEVICE_ID_ALL"
  | .getAllDevices => "GET_DEVICE_ID_ALL"
  | .keepAlive => "KEEP_ALIVE"
  | .getDevice slot => "GET_DEVICE_ID_INDEX_" ++ toString slot.toNat
  | .removeDevice slot => "REMOVE_DEVICE_ID_INDEX_" ++ toString slot.toNat
  | .unknown code => "UNKNOWN(0x" ++ Hex.byte code ++ ")"

/-! ## Shapes of replies -/

/-- What the payload of a reply holds. -/
inductive ReplyShape where
  /-- Three bytes of version number. -/
  | version
  /-- One byte naming the scan mode. -/
  | scanMode
  /-- A count and that many device ids. -/
  | deviceTable
  /-- A slot number and the device id in it. -/
  | deviceSlot
  /-- One byte saying whether it worked. -/
  | status
  deriving DecidableEq, Repr

/-- The shape of the reply to a command; what is not known answers with a status. -/
def replyShape : RouterCommand → ReplyShape
  | .getVersion => .version
  | .getScanMode => .scanMode
  | .getAllDevices => .deviceTable
  | .getDevice _ => .deviceSlot
  | _ => .status

/-- How long the payload of a reply is. Only a device table says so itself, in its first byte, and
as long as that byte is missing the length is not known. -/
def ReplyShape.length? (payload : Bytes) : ReplyShape → Option Nat
  | .version => some 3
  | .scanMode => some 1
  | .deviceTable => payload.head?.map fun count => 1 + 8 * count.toNat
  | .deviceSlot => some 9
  | .status => some 1

/-- How long the payload of the reply to a command code is. -/
def replyLength? (code : UInt8) (payload : Bytes) : Option Nat :=
  (ofCode code).replyShape.length? payload

end RouterCommand

/-! ## Scan modes -/

/-- How the router listens for sensors. -/
inductive ScanMode where
  | longRange
  | legacy
  deriving DecidableEq, Repr

namespace ScanMode

/-- The mode with a given code. -/
def ofCode? : UInt8 → Option ScanMode
  | 0 => some .longRange
  | 1 => some .legacy
  | _ => none

/-- The name of a mode for people. -/
def display : ScanMode → String
  | .longRange => "Long Range"
  | .legacy => "Legacy"

/-- The name of a mode in reports. -/
def tag : ScanMode → String
  | .longRange => "LongRange"
  | .legacy => "Legacy"

/-- The command that sets a mode. -/
def command : ScanMode → RouterCommand
  | .longRange => .setScanModeLongRange
  | .legacy => .setScanModeLegacy

end ScanMode

/-- What a reason code of the router means. -/
def errorReason (reason : UInt8) : String :=
  match reason with
  | 0x01 => "Invalid request"
  | 0x02 => "Downlink in progress"
  | 0x03 | 0x04 | 0x05 => "Reserved"
  | 0x06 => "No device id registered at the given index"
  | 0x07 => "Device not found"
  | _ => "Unknown error reason"

end SensorLink
