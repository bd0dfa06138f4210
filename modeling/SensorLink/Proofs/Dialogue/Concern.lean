import SensorLink.Dialogue.Command
import SensorLink.Proofs.Dialogue.Isolation

/-!
# What commands heed

A command is addressed to a module or to the router, and only packets from there can matter to it.
That holds of each wait (`Awaited.judge_eq_none`), and a command makes no wait that is for anything
else, whichever of its dialogues it is:

> **a command heeds only what it is addressed to** (`heedsOnly_of_concerns`).
-/

namespace SensorLink

/-- What a command is addressed to. -/
inductive Concern where
  | device (id : DeviceId)
  /-- The router, by the command that it answers. -/
  | router (command : UInt8)
  /-- The router, by its new firmware. -/
  | update
  deriving DecidableEq

/-- Whether a packet has to do with a concern. -/
def Concern.wants : Concern → Packet → Bool
  | .device id, .uplinkNotification u => u.device = id
  | .device id, .downlinkResponse r => r.device = id
  | .router command, .jigInfoResponse r => r.command = command
  | .update, .dfuResponse _ => true
  | _, _ => false

namespace Awaited

def concern : Awaited → Concern
  | .response device _ => .device device
  | .uplink device _ _ => .device device
  | .answer command => .router command
  | .acknowledgement device _ _ => .device device
  | .updateAnswer => .update

/-- A wait passes over what has nothing to do with it. -/
theorem judge_eq_none {awaited : Awaited} {concern : Concern} (hconcern : awaited.concern = concern)
    (p : Packet) (h : concern.wants p = false) : awaited.judge p = none := by
  subst hconcern
  cases awaited with
  | response device command =>
    cases p with
    | downlinkResponse r => exact if_neg fun hkey => of_decide_eq_false h hkey.2
    | _ => rfl
  -- A wait for a report also judges the response that may refuse the request, and that one is for
  -- the same device.
  | uplink device sensor command =>
    cases p with
    | uplinkNotification u => exact if_neg fun hkey => of_decide_eq_false h hkey.1
    | downlinkResponse r => exact if_neg fun hkey => of_decide_eq_false h hkey.2.1
    | _ => rfl
  | answer command =>
    cases p with
    | jigInfoResponse r => exact if_neg fun hkey => of_decide_eq_false h hkey
    | _ => rfl
  | acknowledgement device command sequence =>
    cases p with
    | downlinkResponse r => exact if_neg fun hkey => of_decide_eq_false h hkey.2.1
    | _ => rfl
  | updateAnswer =>
    cases p with
    | dfuResponse r => cases h
    | _ => rfl

end Awaited

namespace Dialogue

variable {α : Type}

theorem heedsOnly_sendChunks (wanted : Packet → Bool) (chunks : List Bytes) :
    (sendChunks chunks).HeedsOnly wanted := by
  induction chunks with
  | nil => trivial
  | cons chunk chunks ih => exact ih

theorem heedsOnly_sendBlocks (update : FirmwareUpdate) (timeout : Duration)
    (blocks : List FirmwareBlock) :
    (sendBlocks update timeout blocks).HeedsOnly (Concern.device update.device).wants := by
  induction blocks with
  | nil => trivial
  | cons block blocks ih =>
    refine ⟨Awaited.judge_eq_none rfl, fun ack => ?_⟩
    refine HeedsOnly.bind trivial fun ack => ?_
    split
    · exact ih
    · trivial

theorem heedsOnly_changedSettings (binding : ModuleBinding) (name : String) (id : DeviceId)
    (updates : Json) (timeout : Option Duration) :
    (changedSettings binding name id updates timeout).HeedsOnly (Concern.device id).wants := by
  unfold changedSettings
  split
  · trivial
  · split
    · trivial
    · split
      · trivial
      · refine HeedsOnly.bind trivial fun payload => ?_
        exact ⟨Awaited.judge_eq_none rfl, fun current => trivial⟩

theorem heedsOnly_askModule (binding : ModuleBinding) (name : String) (entry : CommandEntry)
    (id : DeviceId) (sensor : UInt16) (payload : Bytes) (timeout : Duration) :
    (askModule binding name entry id sensor payload timeout).HeedsOnly
      (Concern.device id).wants := by
  unfold askModule
  rw [listen_bind, request_bind]
  change HeedsOnly _ (ite _ _ _)
  split
  · exact ⟨Awaited.judge_eq_none rfl, fun _ => trivial⟩
  · split
    · exact ⟨Awaited.judge_eq_none rfl, fun _ => trivial⟩
    · trivial

/-- The commands by what they are addressed to. -/
inductive Concerns : {α : Type} → Dialogue α → Concern → Prop where
  | device {moduleName name device : String} {binding : ModuleBinding} {overrides : Overrides}
      {entry : CommandEntry} {id : DeviceId} (hlisted : binding.table.command? name = some entry)
      (hkind : entry.kind ≠ .router) (hid : DeviceId.parse device = .ok id) :
    Concerns (command moduleName binding name device overrides) (.device id)
  | router {moduleName name device : String} {binding : ModuleBinding} {overrides : Overrides}
      {entry : CommandEntry} (hlisted : binding.table.command? name = some entry)
      (hkind : entry.kind = .router) :
    Concerns (command moduleName binding name device overrides) (.router entry.command)
  | ask (command : UInt8) (timeout : Duration) :
    Concerns (askRouter command timeout) (.router command)
  | update (image : RouterImage) (timeout : Duration) :
    Concerns (updateRouter image timeout) .update

/-- **A command heeds only what it is addressed to.** -/
theorem heedsOnly_of_concerns {d : Dialogue α} {concern : Concern} (h : Concerns d concern) :
    d.HeedsOnly concern.wants := by
  cases h with
  | @device moduleName name device binding overrides entry id hlisted hkind hid =>
    rw [command, hlisted]
    simp only [runEntry, hid, ofExcept_ok_bind]
    -- By the kind of the entry: of the router, a transfer of firmware, a request.
    split
    · exact absurd ‹_› hkind
    · split
      · trivial
      · rename_i image _
        cases hupdate : FirmwareUpdate.ofImage id (overrides.sensor.getD entry.sensor) image with
        | error e => trivial
        | ok update =>
          have hdevice : update.device = id := by
            unfold FirmwareUpdate.ofImage at hupdate
            split at hupdate <;> cases hupdate
            rfl
          rw [← hdevice]
          exact (heedsOnly_sendBlocks update _ _).bind fun _ => trivial
    · have hask (payload : Bytes) := heedsOnly_askModule binding name entry id
        (overrides.sensor.getD entry.sensor) payload (overrides.timeout.getD entry.timeout)
      -- Settings that are to be changed are read first, from the same device.
      split
      · exact (heedsOnly_changedSettings binding name id _ _).bind hask
      · exact HeedsOnly.bind trivial hask
  | @router moduleName name device binding overrides entry hlisted hkind =>
    rw [command, hlisted]
    simp only [runEntry, hkind]
    split
    · exact ⟨Awaited.judge_eq_none rfl, fun _ => trivial⟩
    · trivial
  | ask command timeout => exact ⟨Awaited.judge_eq_none rfl, fun _ => trivial⟩
  | update image timeout =>
    refine ⟨Awaited.judge_eq_none rfl, fun answer => HeedsOnly.bind trivial fun answer => ?_⟩
    split
    · exact (heedsOnly_sendChunks _ image.chunks).bind fun _ => trivial
    · trivial

end Dialogue
end SensorLink
