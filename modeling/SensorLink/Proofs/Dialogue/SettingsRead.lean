import SensorLink.Dialogue.Command
import SensorLink.Proofs.Dialogue.Question

/-!
# Reading settings before they are written

A command that is to change single settings is two questions. The first one reads the settings as
they are, the second one writes what the handler of the module makes of them. What the first one is,
is in the table of the module (`SettingsRead`), and there may be none; then nothing is asked.

> **A change of settings asks for the settings, and it goes on to write only if the first answer to
> that is an uplink which the handler can merge** (`changing_of_attends`).
-/

namespace SensorLink

/-- The packet ends a wait for an uplink of that sensor: it is the uplink, or the router's refusal
of the command. -/
def Packet.Answers (id : DeviceId) (sensor : UInt16) (command : UInt8) : Packet → Prop
  | .uplinkNotification u => u.device = id ∧ u.sensor = sensor
  | .downlinkResponse r => r.command = command ∧ r.device = id ∧ r.result ≠ 0x00
  | _ => False

/-- A wait for an uplink is over with the uplink or with the refusal of its command, and with
nothing else. -/
theorem Awaited.judge_uplink_eq_none {id : DeviceId} {sensor : UInt16} {command : UInt8}
    {p : Packet} : judge (.uplink id sensor command) p = none ↔ ¬ p.Answers id sensor command := by
  cases p with
  | uplinkNotification u => simp [judge, Packet.Answers]
  | downlinkResponse r => simp [judge, Packet.Answers, DownlinkResponse.isSuccess]
  | _ => simp [judge, Packet.Answers]

/-- What the handler of a module reads before a command can be written. -/
structure SettingsRead (binding : ModuleBinding) (name : String) (handler : ModuleHandler)
    (source : CommandEntry) (payload : Bytes) : Prop where
  handled : binding.handler? = some handler
  listed : ∃ command, handler.settingsSource name = some command ∧
    binding.table.command? command = some source ∧
    Dialogue.payloadFor command source none = .ok payload

theorem SettingsRead.settingsSource_ne_none {binding : ModuleBinding} {name : String}
    {handler : ModuleHandler} {source : CommandEntry} {payload : Bytes}
    (h : SettingsRead binding name handler source payload) :
    handler.settingsSource name ≠ none := by
  obtain ⟨-, command, hcommand, -⟩ := h
  rw [hcommand]
  exact Option.some_ne_none command

namespace Dialogue

variable {α : Type} {binding : ModuleBinding} {name device : String} {entry source : CommandEntry}
  {overrides : Overrides} {id : DeviceId} {handler : ModuleHandler} {payload : Bytes}
  {updates : Json} {sensor : UInt16} {timeout : Duration}

/-! ## A change as two questions -/

/-- What is left of a change once the settings were asked for. -/
abbrev restOfChange (handler : ModuleHandler) (name : String) (updates : Json)
    (write : Bytes → Dialogue α) (current : UplinkNotification) : Dialogue α :=
  ofExcept (handler.mergeSettings name current updates) >>= write

/-- A change that can be made, as one dialogue: everything behind the answer depends on what the
handler makes of it. -/
theorem changedSettings_bind (h : SettingsRead binding name handler source payload)
    (limit : Option Duration) (write : Bytes → Dialogue α) :
    (changedSettings binding name id updates limit >>= write) =
      .subscribe (.send (requestFor source id source.sensor payload)
        (.await (.uplink id source.uplinkSensor source.command) (limit.getD source.timeout)
          (restOfChange handler name updates write))) := by
  obtain ⟨hhandler, command, hcommand, hsource, hpayload⟩ := h
  simp only [changedSettings, hhandler, hcommand, hsource, hpayload, ofExcept_ok_bind]
  rfl

/-- Where there is nothing to be read, a change is over at once. -/
theorem changedSettings_cases (binding : ModuleBinding) (name : String) (id : DeviceId)
    (updates : Json) (limit : Option Duration) :
    (∃ handler source payload, SettingsRead binding name handler source payload) ∨
      ∃ e, changedSettings binding name id updates limit = fail e := by
  cases hhandler : binding.handler? with
  | none => exact .inr ⟨settingsUnsupported name, by simp only [changedSettings, hhandler]⟩
  | some handler =>
    cases hcommand : handler.settingsSource name with
    | none =>
      exact .inr ⟨settingsUnsupported name, by simp only [changedSettings, hhandler, hcommand]⟩
    | some command =>
      cases hsource : binding.table.command? command with
      | none =>
        exact .inr ⟨.unknownCommand handler.name command, by
          simp only [changedSettings, hhandler, hcommand, hsource]⟩
      | some source =>
        cases hpayload : payloadFor command source none with
        | error e =>
          refine .inr ⟨e, ?_⟩
          simp only [changedSettings, hhandler, hcommand, hsource, hpayload, ofExcept_error_bind]
          rfl
        | ok payload =>
          exact .inl ⟨handler, source, payload, hhandler, command, hcommand, hsource, hpayload⟩

/-- The payload of a change is the one thing that sets it apart from a command with a payload of its
own. -/
theorem runEntry_change (hkind : entry.kind = .downlink) (hid : DeviceId.parse device = .ok id)
    (hsettings : overrides.settings = some updates) :
    runEntry binding name entry device overrides =
      changedSettings binding name id updates overrides.timeout >>= fun payload =>
        askModule binding name entry id (overrides.sensor.getD entry.sensor) payload
          (overrides.timeout.getD entry.timeout) := by
  simp only [runEntry, hkind, hid, hsettings, ofExcept_ok_bind]

/-! ## What is written -/

/-- What is left of a command to a module once it was sent. -/
abbrev answerTo (binding : ModuleBinding) (name : String) (entry : CommandEntry) (id : DeviceId)
    (timeout : Duration) : Dialogue Outcome :=
  if entry.hasUplink then
    .await (.uplink id entry.uplinkSensor entry.command) timeout fun uplink : UplinkNotification =>
      .done (.ok (.uplink uplink (decoded binding name uplink)))
  else if entry.expectsResponse then
    .await (.response id entry.command) timeout fun response : DownlinkResponse =>
      .done (.ok (.response response))
  else .done (.ok .sent)

theorem askModule_eq (binding : ModuleBinding) (name : String) (entry : CommandEntry)
    (id : DeviceId) (sensor : UInt16) (payload : Bytes) (timeout : Duration) :
    askModule binding name entry id sensor payload timeout =
      .subscribe (.send (requestFor entry id sensor payload)
        (answerTo binding name entry id timeout)) := rfl

theorem frames_await {α : Type} {awaited : Awaited} {f : awaited.Reply → α} {acts : List Act}
    {left : Dialogue α}
    (h : Does (.await awaited timeout fun reply => .done (.ok (f reply))) acts left) :
    framesOf acts = [] := by
  cases h with
  | rest => rfl
  | fails => rfl
  | takes _ _ later =>
    rw [framesOf_took, later.of_done.1]
    rfl

theorem frames_answerTo {acts : List Act} {left : Dialogue Outcome}
    (h : Does (answerTo binding name entry id timeout) acts left) : framesOf acts = [] := by
  unfold answerTo at h
  split at h
  · exact frames_await h
  · split at h
    · exact frames_await h
    · rw [h.of_done.1]
      rfl

theorem frames_askModule {acts : List Act} {left : Dialogue Outcome}
    (h : Does (askModule binding name entry id sensor payload timeout) acts left) :
    framesOf acts = [] ∨ ∃ unixTime frame,
      (requestFor entry id sensor payload unixTime).encode = .ok frame ∧
      framesOf acts = [frame] := by
  rw [askModule_eq] at h
  cases h with
  | rest => exact .inl rfl
  | fails => exact .inl rfl
  | listens position later =>
    cases later with
    | rest => exact .inl rfl
    | fails => exact .inl rfl
    | sends hencode later =>
      exact .inr ⟨_, _, hencode, congrArg (_ :: ·) (frames_answerTo later)⟩

/-! ## Where a change can stand -/

/-- What a change of settings can have done, and what is left of it then. -/
inductive Changing (packets : Broadcast Packet) (id : DeviceId) (source : CommandEntry)
    (payload : Bytes) (merge : UplinkNotification → Except Error Bytes)
    (write : Bytes → Dialogue Outcome) : List Act → Dialogue Outcome → Prop where
  | silent {acts : List Act} {left : Dialogue Outcome}
      (hacts : acts = [] ∨ ∃ start, acts = [.listened start])
      (hleft : left.result? = none ∨ ∃ e, left = .done (.error e) ∧
        Unasked (requestFor source id source.sensor payload) e) :
    Changing packets id source payload merge write acts left
  | reading {start : Nat} {unixTime : UInt32} {read : Bytes} {left : Dialogue Outcome}
      (hread : (requestFor source id source.sensor payload unixTime).encode = .ok read)
      (hleft : left.result? = none ∨ ∃ e, left = .done (.error e) ∧ e.IsOfTraffic) :
    Changing packets id source payload merge write [.listened start, .wrote read] left
  | unmergeable {start position : Nat} {unixTime : UInt32} {read : Bytes}
      {current : UplinkNotification} {e : Error}
      (hread : (requestFor source id source.sensor payload unixTime).encode = .ok read)
      (hfirst : packets.First (Packet.Answers id source.uplinkSensor source.command) start position
        (.uplinkNotification current))
      (hmerge : merge current = .error e) :
    Changing packets id source payload merge write
      [.listened start, .wrote read, .took position (.uplinkNotification current)]
      (.done (.error e))
  | writing {start position : Nat} {unixTime : UInt32} {read merged : Bytes}
      {current : UplinkNotification} {acts : List Act} {left : Dialogue Outcome}
      (hread : (requestFor source id source.sensor payload unixTime).encode = .ok read)
      (hfirst : packets.First (Packet.Answers id source.uplinkSensor source.command) start position
        (.uplinkNotification current))
      (hmerge : merge current = .ok merged) (later : Does (write merged) acts left) :
    Changing packets id source payload merge write
      (.listened start :: .wrote read :: .took position (.uplinkNotification current) :: acts) left

/-- **Where a change can stand, and what it has done until then.** The uplink that the handler gets
is the first answer since the subscription, or the wait has missed something and has failed. -/
theorem changing_of_attends {packets : Broadcast Packet} {start stop : Nat} {acts : List Act}
    {left : Dialogue Outcome} {limit : Option Duration} {write : Bytes → Dialogue Outcome}
    (hread : SettingsRead binding name handler source payload)
    (h : Attends packets start (changedSettings binding name id updates limit >>= write) acts stop
      left) :
    Changing packets id source payload (handler.mergeSettings name · updates) write acts left := by
  rw [changedSettings_bind hread] at h
  cases asked_of_attends h with
  | silent hacts hleft => exact .silent hacts hleft
  | waiting hframe => exact .reading hframe (.inl rfl)
  | failed hframe hazard => exact .reading hframe (.inr ⟨_, rfl, hazard.isOfTraffic⟩)
  | @answered _ _ _ _ _ current _ _ hframe hstart hfound hpassed hjudge later =>
    have hfirst := Awaited.first_of_passesOver (fun _ => Awaited.judge_uplink_eq_none) hstart hfound
      (by rw [hjudge]; exact nofun) hpassed
    cases hmerge : handler.mergeSettings name current updates with
    | error e =>
      rw [restOfChange, hmerge] at later
      obtain ⟨rfl, -, rfl⟩ := later.of_done
      exact .unmergeable hframe hfirst hmerge
    | ok merged =>
      rw [restOfChange, hmerge] at later
      exact .writing hframe hfirst hmerge later.does

/-- **A change writes at most two requests, and the second only after a report that was merged.** -/
theorem frames_of_changing {packets : Broadcast Packet}
    {merge : UplinkNotification → Except Error Bytes} {acts : List Act} {left : Dialogue Outcome}
    (h : Changing packets id source payload merge
      (fun merged => askModule binding name entry id sensor merged timeout) acts left) :
    framesOf acts = [] ∨ ∃ unixTime read,
      (requestFor source id source.sensor payload unixTime).encode = .ok read ∧
      (framesOf acts = [read] ∨ ∃ start position current merged more unixTime frame,
        acts = .listened start :: .wrote read :: .took position (.uplinkNotification current) ::
          more ∧
        packets.First (Packet.Answers id source.uplinkSensor source.command) start position
          (.uplinkNotification current) ∧
        merge current = .ok merged ∧
        (requestFor entry id sensor merged unixTime).encode = .ok frame ∧
        framesOf acts = [read, frame]) := by
  cases h with
  | silent hacts => rcases hacts with rfl | ⟨_, rfl⟩ <;> exact .inl rfl
  | reading hread => exact .inr ⟨_, _, hread, .inl rfl⟩
  | unmergeable hread => exact .inr ⟨_, _, hread, .inl rfl⟩
  | writing hread hfirst hmerge later =>
    rcases frames_askModule later with hframes | ⟨unixTime, frame, hframe, hframes⟩
    · exact .inr ⟨_, _, hread, .inl (congrArg (_ :: ·) hframes)⟩
    · exact .inr ⟨_, _, hread, .inr ⟨_, _, _, _, _, _, _, rfl, hfirst, hmerge, hframe,
        congrArg (_ :: ·) hframes⟩⟩

end Dialogue
end SensorLink
