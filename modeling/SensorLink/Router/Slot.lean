import SensorLink.Error.Basic

/-!
# Addressing a slot of the router's device table

A slot beyond the last has no command: the codes that would follow belong to other commands, so a
slot number is checked before a code is made of it.
-/

namespace SensorLink.RouterCommand

/-- A slot number that the table has. -/
def checkSlot (slot : UInt8) : Except Error Unit :=
  if maxSlot < slot then .error (.invalidParameter (.slotOutOfRange slot)) else .ok ()

/-- The code of reading a slot. -/
def getDeviceCode (slot : UInt8) : Except Error UInt8 :=
  (checkSlot slot).map fun _ => getDeviceBase + slot

/-- The code of clearing a slot. -/
def removeDeviceCode (slot : UInt8) : Except Error UInt8 :=
  (checkSlot slot).map fun _ => removeDeviceBase + slot

end SensorLink.RouterCommand
