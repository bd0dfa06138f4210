import SensorLink.Dialogue.Basic
import SensorLink.Dialogue.Outcome
import SensorLink.Firmware.Router
import SensorLink.Firmware.Sensor
import SensorLink.Module.Registry

/-!
# Commands as dialogues

A command is looked up in its module's table, and the table says which of four dialogues it is: a
request to a module, a transfer of firmware to a module, or a request to the router with or without
an answer. The router's own firmware has a dialogue of its own.

What the caller got wrong is found before anything is sent: an unknown command, then a device id
that is none, then a payload that is missing.

A caller can ask for single settings to be changed. Then the dialogue reads the current settings
first, and what it writes is those with the changes applied.
-/

namespace SensorLink

/-- What a caller sets in place of what the command table says. -/
structure Overrides where
  payload : Option Bytes := none
  /-- The image of a firmware transfer. -/
  firmware : Option Bytes := none
  timeout : Option Duration := none
  sensor : Option UInt16 := none
  /-- Settings to be changed, a JSON object. -/
  settings : Option Json := none

namespace Dialogue

/-! ## The router itself -/

/-- Asks the router something. -/
def askRouter (command : UInt8) (timeout : Duration) : Dialogue JigInfoResponse := do
  listen
  request fun t => .jigInfoRequest (.stamped command t)
  reply (.answer command) timeout

/-- Tells the router something that it does not answer. -/
def tellRouter (command : UInt8) : Dialogue Unit := do
  listen
  request fun t => .jigInfoRequest (.stamped command t)

/-- Sends chunks, with a pause after each. -/
def sendChunks : List Bytes → Dialogue Unit
  | [] => pure ()
  | chunk :: chunks => do
    write chunk
    rest RouterImage.chunkPause
    sendChunks chunks

/-- Gives the router new firmware, if it takes it. -/
def updateRouter (image : RouterImage) (timeout : Duration) : Dialogue Outcome := do
  listen
  request fun t => .dfuRequest (image.request t)
  let answer ← reply .updateAnswer timeout
  if answer.isReady then
    sendChunks image.chunks
    pure (.updated image.chunkCount image.totalLength.toNat)
  else fail (.updateRefused answer.result)

/-! ## Firmware of a module -/

/-- Sends blocks, each after the one before it was acknowledged. -/
def sendBlocks (update : FirmwareUpdate) (timeout : Duration) : List FirmwareBlock → Dialogue Unit
  | [] => pure ()
  | block :: blocks => do
    request fun t => .downlinkRequest (update.request t block)
    let ack ← reply (.acknowledgement update.device FirmwareBlock.command block.sequence) timeout
    if ack.isSuccess then sendBlocks update timeout blocks
    else fail (.blockRejected block.sequence ack.result blocks.length)

/-- Gives a module new firmware. -/
def updateSensor (update : FirmwareUpdate) (timeout : Duration) : Dialogue Outcome := do
  listen
  sendBlocks update timeout update.blocks
  pure (.updated update.blocks.length update.length)

/-! ## Requests to a module -/

/-- The payload of a command: the caller's or else the table's, and nothing if none is needed. -/
def payloadFor (command : String) (entry : CommandEntry) (payload : Option Bytes) :
    Except Error Bytes :=
  match payload <|> entry.data with
  | some bytes => .ok bytes
  | none => if entry.requiresData then .error (.missingData command) else .ok []

/-- The request of a command. -/
def requestFor (entry : CommandEntry) (device : DeviceId) (sensor : UInt16) (payload : Bytes)
    (unixTime : UInt32) : Packet :=
  .downlinkRequest
    { unixTime, device, sensor, command := entry.command, order := entry.order, payload }

/-- Reads the settings that a command writes, and gives the payload that writes them changed. -/
def changedSettings (binding : ModuleBinding) (command : String) (device : DeviceId)
    (updates : Json) (timeout : Option Duration) : Dialogue Bytes :=
  match binding.handler? with
  | none => fail (settingsUnsupported command)
  | some handler =>
    match handler.settingsSource command with
    | none => fail (settingsUnsupported command)
    | some source =>
      match binding.table.command? source with
      | none => fail (.unknownCommand handler.name source)
      | some entry => do
        let payload ← ofExcept (payloadFor source entry none)
        listen
        request (requestFor entry device entry.sensor payload)
        let current ← reply (.uplink device entry.uplinkSensor entry.command)
          (timeout.getD entry.timeout)
        ofExcept (handler.mergeSettings command current updates)

/-- What an uplink in reply to a command says; what the handler cannot read says nothing. -/
def decoded (binding : ModuleBinding) (command : String) (uplink : UplinkNotification) :
    Option Json :=
  match binding.handler? with
  | none => none
  | some handler =>
    match handler.decode command uplink with
    | .ok value => value
    | .error _ => none

/-- Sends a request to a module and waits for what its command is answered by. -/
def askModule (binding : ModuleBinding) (command : String) (entry : CommandEntry)
    (device : DeviceId) (sensor : UInt16) (payload : Bytes) (timeout : Duration) :
    Dialogue Outcome := do
  listen
  request (requestFor entry device sensor payload)
  -- Whoever has a report coming does not wait for a response besides.
  if entry.hasUplink then
    let uplink ← reply (.uplink device entry.uplinkSensor entry.command) timeout
    pure (.uplink uplink (decoded binding command uplink))
  else if entry.expectsResponse then
    let response ← reply (.response device entry.command) timeout
    pure (.response response)
  else pure .sent

/-! ## Commands by name -/

/-- Runs an entry of a module's table. -/
def runEntry (binding : ModuleBinding) (command : String) (entry : CommandEntry) (device : String)
    (overrides : Overrides) : Dialogue Outcome :=
  let timeout := overrides.timeout.getD entry.timeout
  match entry.kind with
  | .router =>
    -- Neither a payload nor settings have a place in a request to the router.
    if entry.expectsResponse then do
      let response ← askRouter entry.command timeout
      pure (.routerAnswer command response (RouterReply.parse response).toOption)
    else do
      tellRouter entry.command
      pure .sent
  | .sensorUpdate => do
    let id ← ofExcept (DeviceId.parse device)
    -- An image may come as a payload as well. The data of the entry are not asked for it.
    match overrides.firmware <|> overrides.payload with
    | none => fail (.missingData command)
    | some image =>
      let update ← ofExcept (FirmwareUpdate.ofImage id (overrides.sensor.getD entry.sensor) image)
      updateSensor update timeout
  | .downlink => do
    let id ← ofExcept (DeviceId.parse device)
    -- Settings that are to be changed take the place of any payload.
    let payload ← match overrides.settings with
      | some updates => changedSettings binding command id updates overrides.timeout
      | none => ofExcept (payloadFor command entry overrides.payload)
    askModule binding command entry id (overrides.sensor.getD entry.sensor) payload timeout

/-- Runs a command of a module. The device is not looked at by commands of the router. -/
def command (moduleName : String) (binding : ModuleBinding) (command device : String)
    (overrides : Overrides) : Dialogue Outcome :=
  match binding.table.command? command with
  | none => fail (.unknownCommand moduleName command)
  | some entry => runEntry binding command entry device overrides

end Dialogue
end SensorLink
