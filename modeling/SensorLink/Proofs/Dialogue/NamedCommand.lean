import SensorLink.Dialogue.Command
import SensorLink.Proofs.Dialogue.Exchange

/-!
# Commands by name

What a command writes and what it is answered by is in its table entry and in what the caller sets
in place of it; `request` and `decision?` say it in those terms. That the dialogue of the command
does just that, whatever else is on the link, is

> **a command writes one request, and the first packet that decides about it decides**
> (`command_answered`).

It holds of commands that get as far as the link. A command that requires data and has none does
not (`command_missing_data`).
-/

namespace SensorLink

/-- Who a command is addressed to. -/
inductive Addressee where
  | module (id : DeviceId)
  | router
  deriving DecidableEq

namespace CommandEntry

/-- A command is addressed by its kind and by the device that the caller names. -/
inductive Addresses (entry : CommandEntry) (device : String) : Addressee → Prop where
  | module {id : DeviceId} (hkind : entry.kind = .downlink) (hid : DeviceId.parse device = .ok id) :
    Addresses entry device (.module id)
  | router (hkind : entry.kind = .router) : Addresses entry device .router

/-- The payload that a command has been given, by the caller or else by its table. -/
def given? (entry : CommandEntry) (overrides : Overrides) : Option Bytes :=
  overrides.payload <|> entry.data

def request (entry : CommandEntry) (overrides : Overrides) : Addressee → UInt32 → Packet
  | .module id, unixTime =>
    .downlinkRequest
      { unixTime, device := id, sensor := overrides.sensor.getD entry.sensor,
        command := entry.command, order := entry.order,
        payload := (entry.given? overrides).getD [] }
  | .router, unixTime => .jigInfoRequest (.stamped entry.command unixTime)

/-- Whether there is anything to wait for. Uplinks are no answer of the router. -/
def isAnswered (entry : CommandEntry) : Addressee → Bool
  | .module _ => entry.hasUplink || entry.expectsResponse
  | .router => entry.expectsResponse

/-- What a packet decides about a command that is answered. -/
def decision? (entry : CommandEntry) (binding : ModuleBinding) (name : String) :
    Addressee → Packet → Option (Except Error Outcome)
  | .module id, .uplinkNotification u =>
    if entry.hasUplink ∧ u.device = id ∧ u.sensor = entry.uplinkSensor then
      some (.ok (.uplink u (Dialogue.decoded binding name u)))
    else none
  | .module id, .downlinkResponse r =>
    if r.device = id ∧ r.command = entry.command then
      if r.result ≠ 0x00 then some (.error (.commandRejected r.command r.result))
      else if entry.hasUplink then none
      else some (.ok (.response r))
    else none
  | .router, .jigInfoResponse r =>
    if r.command = entry.command then
      some (.ok (.routerAnswer name r (RouterReply.parse r).toOption))
    else none
  | _, _ => none

end CommandEntry

namespace Dialogue

open Exchange (Ready Answered)

variable {binding : ModuleBinding} {name device : String} {entry : CommandEntry}
  {overrides : Overrides} {addressee : Addressee}

theorem verdict_uplink (id : DeviceId) (huplink : entry.hasUplink = true) (p : Packet) :
    Awaited.verdict (.uplink id entry.uplinkSensor entry.command)
        (fun u => Outcome.uplink u (decoded binding name u)) p =
      entry.decision? binding name (.module id) p := by
  cases p with
  | uplinkNotification u =>
    simp only [Awaited.verdict, Awaited.judge, CommandEntry.decision?, huplink, true_and]
    split <;> rfl
  | downlinkResponse r =>
    simp only [Awaited.verdict, Awaited.judge, CommandEntry.decision?, huplink, if_true]
    by_cases hkey : r.device = id ∧ r.command = entry.command
    · by_cases hzero : r.result = 0x00
      · simp [hkey, hzero, DownlinkResponse.isSuccess]
      · simp [hkey, hzero, DownlinkResponse.isSuccess, Awaited.rejected, Except.map]
    · rw [if_neg hkey, if_neg fun h => hkey ⟨h.2.1, h.1⟩]
      rfl
  | _ => rfl

theorem verdict_response (id : DeviceId) (huplink : entry.hasUplink = false) (p : Packet) :
    Awaited.verdict (.response id entry.command) Outcome.response p =
      entry.decision? binding name (.module id) p := by
  cases p with
  | uplinkNotification u => simp [Awaited.verdict, Awaited.judge, CommandEntry.decision?, huplink]
  | downlinkResponse r =>
    simp only [Awaited.verdict, Awaited.judge, CommandEntry.decision?, huplink, Bool.false_eq_true,
      if_false]
    by_cases hkey : r.device = id ∧ r.command = entry.command
    · by_cases hzero : r.result = 0x00
      · simp [hkey, hzero, DownlinkResponse.isSuccess, Except.map]
      · simp [hkey, hzero, DownlinkResponse.isSuccess, Awaited.rejected, Except.map]
    · rw [if_neg hkey, if_neg fun h => hkey ⟨h.2, h.1⟩]
      rfl
  | _ => rfl

theorem verdict_answer (p : Packet) :
    Awaited.verdict (.answer entry.command)
        (fun r => Outcome.routerAnswer name r (RouterReply.parse r).toOption) p =
      entry.decision? binding name .router p := by
  cases p with
  | jigInfoResponse r =>
    simp only [Awaited.verdict, Awaited.judge, CommandEntry.decision?]
    split <;> rfl
  | _ => rfl

/-! ## The dialogue of a command -/

/-- What is needed for a command to get as far as the link. -/
structure Runnable (binding : ModuleBinding) (name device : String) (overrides : Overrides)
    (entry : CommandEntry) (addressee : Addressee) : Prop where
  listed : binding.table.command? name = some entry
  addressed : entry.Addresses device addressee
  noSettings : overrides.settings = none
  /-- A payload that is required is there, and every payload fits. -/
  given : entry.kind = .downlink → entry.requiresData = true → (entry.given? overrides).isSome
  fits : entry.kind = .downlink → ((entry.given? overrides).getD []).length ≤ 1024

theorem Runnable.encode (h : Runnable binding name device overrides entry addressee)
    (unixTime : UInt32) :
    ∃ frame, (entry.request overrides addressee unixTime).encode = .ok frame := by
  refine ⟨_, Packet.encode_eq_ok_iff.mpr ⟨?_, rfl⟩⟩
  rintro ⟨hlength, hover⟩
  cases h.addressed with
  | module hkind _ => exact absurd (h.fits hkind) (Nat.not_le.mpr hover)
  | router => cases hlength

theorem payloadFor_eq (name : String)
    (h : entry.requiresData = true → (entry.given? overrides).isSome) :
    payloadFor name entry overrides.payload = .ok ((entry.given? overrides).getD []) := by
  unfold payloadFor CommandEntry.given? at *
  cases hgiven : overrides.payload <|> entry.data with
  | some bytes => rfl
  | none =>
    rw [hgiven] at h
    cases hrequired : entry.requiresData with
    | true => cases h hrequired
    | false => rfl

/-- A command is an exchange, or only its first half. -/
theorem command_eq (moduleName : String)
    (h : Runnable binding name device overrides entry addressee) :
    (entry.isAnswered addressee = true ∧ ∃ awaited f,
      command moduleName binding name device overrides =
        .ask (entry.request overrides addressee) awaited
          (overrides.timeout.getD entry.timeout) f ∧
      ∀ p, Awaited.verdict awaited f p = entry.decision? binding name addressee p) ∨
    (entry.isAnswered addressee = false ∧
      command moduleName binding name device overrides =
        .subscribe (.send (entry.request overrides addressee) (.done (.ok .sent)))) := by
  have hcommand : command moduleName binding name device overrides =
      runEntry binding name entry device overrides := by
    rw [command, h.listed]
  rw [hcommand]
  cases h.addressed with
  | @module id hkind hid =>
    -- With its payload at hand the command is a request, and its flags say what it waits for.
    have hpayload := payloadFor_eq name (h.given hkind)
    have hask : runEntry binding name entry device overrides =
        askModule binding name entry id (overrides.sensor.getD entry.sensor)
          ((entry.given? overrides).getD []) (overrides.timeout.getD entry.timeout) := by
      simp only [runEntry, hkind, hid, h.noSettings, hpayload, ofExcept_ok_bind]
    rw [hask, askModule]
    cases huplink : entry.hasUplink with
    | true =>
      exact .inl ⟨by simp [CommandEntry.isAnswered, huplink], _, _, rfl, verdict_uplink id huplink⟩
    | false =>
      cases hresponse : entry.expectsResponse with
      | true =>
        exact .inl ⟨by simp [CommandEntry.isAnswered, hresponse], _, _, rfl,
          verdict_response id huplink⟩
      | false => exact .inr ⟨by simp [CommandEntry.isAnswered, huplink, hresponse], rfl⟩
  | router hkind =>
    simp only [runEntry, hkind]
    cases hresponse : entry.expectsResponse with
    | true => exact .inl ⟨hresponse, _, _, rfl, verdict_answer⟩
    | false => exact .inr ⟨hresponse, rfl⟩

/-- **A command writes one request, and the first packet that decides about it decides.** -/
theorem command_answered (moduleName : String) {world : World}
    (h : Runnable binding name device overrides entry addressee) (hready : Ready world)
    (gap : List Happening) (hcalm : Calm (gap.map Move.meanwhile)) (schedule : List Move)
    (hkeeps : (Course.start (command moduleName binding name device overrides) world).keepsUp
      (.step :: gap.map Move.meanwhile ++ [.step] ++ schedule) = true) :
    let course := Exchange.run (command moduleName binding name device overrides) world gap schedule
    (∃ unixTime frame, (entry.request overrides addressee unixTime).encode = .ok frame ∧
      course.frames = [frame]) ∧
    (entry.isAnswered addressee = true →
      Answered (entry.decision? binding name addressee) (overrides.timeout.getD entry.timeout)
        (arrivals (gap.map Move.meanwhile)) schedule course) ∧
    (entry.isAnswered addressee = false → course.result? = some (.ok .sent)) := by
  rcases command_eq moduleName h with
    ⟨hanswered, awaited, f, hcommand, hverdict⟩ | ⟨hanswered, hcommand⟩
  · rw [hcommand] at hkeeps ⊢
    obtain ⟨hframes, hcourse⟩ := Exchange.answered_ask hready h.encode gap hcalm schedule hkeeps
    rw [funext hverdict] at hcourse
    refine ⟨hframes, fun _ => hcourse, fun hnot => ?_⟩
    rw [hanswered] at hnot
    cases hnot
  · rw [hcommand]
    obtain ⟨hframes, hresult⟩ := Exchange.result_tell hready h.encode gap hcalm schedule
    refine ⟨hframes, fun hnot => ?_, fun _ => hresult⟩
    rw [hanswered] at hnot
    cases hnot

/-- An uplink of another sensor and the router's consent go by before the reading arrives. -/
theorem command_answered_instant_uplink :
    let binding : ModuleBinding := .specialised Illuminance.handler Illuminance.table
    let uplink (sensor : UInt16) : UplinkNotification :=
      { unixTime := 0, device := 0x2468800203400004, sensor, rssi := -60, reserved := 0,
        payload := [] }
    let consent : DownlinkResponse :=
      { unixTime := 0, device := 0x2468800203400004, sensor := 0, order := 0xFFFF, command := 0x00,
        result := 0x00 }
    let schedule : List Move :=
      [.step, .meanwhile (.arrives (.uplinkNotification (uplink 0))),
        .meanwhile (.arrives (.downlinkResponse consent)),
        .meanwhile (.arrives (.uplinkNotification (uplink 0x0121)))]
    ∃ entry, Runnable binding "instant_uplink" "2468800203400004" {} entry
        (.module 0x2468800203400004) ∧
      Ready Exchange.upWorld ∧
      (Exchange.run (command "illuminance" binding "instant_uplink" "2468800203400004" {})
        Exchange.upWorld [] schedule).step.result? =
          some (.ok (.uplink (uplink 0x0121)
            (decoded binding "instant_uplink" (uplink 0x0121)))) := by
  intro binding uplink consent schedule
  have hrun : Runnable binding "instant_uplink" "2468800203400004" {}
      { CommandEntry.plain 0x00 Illuminance.sensorNumber 90
          "Request an immediate sensor reading" with hasUplink := true }
      (.module 0x2468800203400004) :=
    ⟨by decide, .module rfl rfl, rfl, nofun, fun _ => by decide⟩
  have hanswered := command_answered "illuminance" hrun Exchange.ready_upWorld []
    (by decide) schedule (by decide)
  refine ⟨_, hrun, Exchange.ready_upWorld, ?_⟩
  exact (hanswered.2.1 rfl).decided (by decide) (by decide)

/-! ## Commands that do not get as far -/

/-- Where data is required and there is none, nothing is sent. -/
theorem command_missing_data {id : DeviceId} (moduleName : String)
    (hlisted : binding.table.command? name = some entry) (hkind : entry.kind = .downlink)
    (hid : DeviceId.parse device = .ok id) (hsettings : overrides.settings = none)
    (hrequired : entry.requiresData = true) (hgiven : entry.given? overrides = none)
    (world : World) (schedule : List Move) :
    let course := (Course.start (command moduleName binding name device overrides) world).follow
      schedule
    course.frames = [] ∧ course.result? = some (.error (.missingData name)) := by
  have hpayload : payloadFor name entry overrides.payload = .error (.missingData name) := by
    unfold payloadFor
    unfold CommandEntry.given? at hgiven
    rw [hgiven]
    simp only [hrequired, if_true]
  have hcommand : command moduleName binding name device overrides =
      .done (.error (.missingData name)) := by
    simp only [command, hlisted, runEntry, hkind, hid, hsettings, hpayload, ofExcept_ok_bind,
      ofExcept_error_bind]
  rw [hcommand]
  refine ⟨?_, Course.result_follow rfl schedule⟩
  rw [Course.frames, (Course.follow_of_result rfl schedule).2]
  rfl

/-- A command without the data that it requires writes no frame, and a command of the router is
answered by the router, whatever its entry says of uplinks. -/
theorem not_every_command_answered :
    (let binding : ModuleBinding := .specialised Illuminance.handler Illuminance.table
     (∃ entry, binding.table.command? "set_parameter" = some entry ∧ entry.kind = .downlink ∧
        ((entry.given? {}).getD []).length ≤ 1024) ∧
      DeviceId.parse "2468800203400004" = .ok 0x2468800203400004 ∧ Ready Exchange.upWorld ∧
      ∀ schedule,
        let course := (Course.start (command "illuminance" binding "set_parameter"
          "2468800203400004" {}) Exchange.upWorld).follow schedule
        course.frames = [] ∧ course.result? = some (.error (.missingData "set_parameter"))) ∧
    (let entry : CommandEntry := { RouterCommand.getVersion.entry with hasUplink := true }
     let binding : ModuleBinding := .generic ⟨"relay", 0, none, [("version", entry)]⟩
     let answer : JigInfoResponse :=
       { unixTime := 0, command := entry.command, router := 0, payload := [1, 2, 3] }
     let schedule : List Move := [.meanwhile (.arrives (.jigInfoResponse answer)), .step]
     (arrivals schedule).filterMap Packet.device? = [] ∧
      (Exchange.run (command "relay" binding "version" "" {}) Exchange.upWorld []
        schedule).result? =
          some (.ok (.routerAnswer "version" answer (RouterReply.parse answer).toOption))) := by
  refine ⟨⟨⟨_, rfl, rfl, by decide⟩, rfl, Exchange.ready_upWorld, ?_⟩, rfl, rfl⟩
  exact command_missing_data "illuminance" rfl rfl rfl rfl rfl rfl Exchange.upWorld

end Dialogue
end SensorLink
