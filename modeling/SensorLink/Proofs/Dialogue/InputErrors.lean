import SensorLink.Proofs.Dialogue.SettingsRead
import SensorLink.Proofs.Firmware.Blocks
import SensorLink.Proofs.Firmware.Transfer
import SensorLink.Proofs.Illuminance.Updates

/-!
# What the caller got wrong

A command can be refused for what it was asked: its name, its device, its data, a link that is down.
Such a refusal comes before the first byte that is written, and what goes wrong after that is of
another kind. The checks stand in several places and in another order for each kind of command, so
the proof goes along the dialogue: a piece of one `Spares` the caller an error if it never fails
with it, and a command fails `Early` if all that follows its first write spares the caller.

> **An error of the caller leaves no mark on the link** (`checksInput_command`).

A change of settings is the one command that asks before it knows everything. It may have read the
settings, and no more, when it is found that there is nothing valid to write. Who finds that is the
handler of the module, and a handler may put it in any words it likes, those for an error about the
request among them. This is the one exception (`RefusesMerge`), and it does occur
(`not_every_request_error_untouched`), though not with the handler of the library.
-/

namespace SensorLink

namespace Error

/-- The caller has got something wrong, or the link is down. -/
def IsOfInput : Error → Prop
  | .unknownCommand .. | .invalidDeviceId _ | .missingData _ | .invalidParameter _
  | .notConnected | .malformed _ => True
  | _ => False

/-- The command that was asked for is none, or its device or its data are missing. -/
inductive IsOfRequest (moduleName name : String) : Error → Prop where
  | unknownCommand : IsOfRequest moduleName name (.unknownCommand moduleName name)
  | invalidDeviceId (text : String) : IsOfRequest moduleName name (.invalidDeviceId text)
  | missingData (command : String) : IsOfRequest moduleName name (.missingData command)

/-- What the other end brings about is never the fault of the caller. The two kinds of errors share
no member. -/
theorem IsOfTraffic.not_isOfInput {e : Error} (h : e.IsOfTraffic) : ¬ e.IsOfInput := by
  cases e <;> first | exact h.elim | exact id

theorem IsOfRequest.isOfInput {moduleName name : String} {e : Error}
    (h : e.IsOfRequest moduleName name) : e.IsOfInput := by
  cases h <;> trivial

end Error

namespace Dialogue

variable {α : Type} {P : Error → Prop}

/-! ## Dialogues that spare the caller an error -/

/-- The dialogue never fails with such an error. -/
def Spares (P : Error → Prop) (d : Dialogue α) : Prop :=
  ∀ acts e, Does d acts (.done (.error e)) → ¬ P e

/-- The dialogue fails with such an error only before it has written anything. -/
def Early (P : Error → Prop) (d : Dialogue α) : Prop :=
  ∀ acts e, Does d acts (.done (.error e)) → P e → framesOf acts = []

theorem spares_done {r : Except Error α} (h : ∀ e, r = .error e → ¬ P e) :
    Spares P (.done r) := by
  intro acts e hdoes
  obtain ⟨-, heq⟩ := hdoes.of_done
  cases heq
  exact h e rfl

/-- A wait ends with errors of the traffic, and what it goes on with has to spare the caller
whatever the reply was. -/
theorem spares_await {awaited : Awaited} {timeout : Duration}
    {next : awaited.Reply → Dialogue α} (htraffic : ∀ e, e.IsOfTraffic → ¬ P e)
    (h : ∀ reply, Spares P (next reply)) : Spares P (.await awaited timeout next) := by
  intro acts e hdoes
  cases hdoes with
  | fails hazard => exact htraffic e (hazard.isOfTraffic)
  | takes _ _ later => exact h _ _ e later

/-- Sending fails for want of a link or of a frame. The frame is the one that has to be looked at: a
packet too large to be encoded would be found out here, after others were sent. -/
theorem spares_send {request : UInt32 → Packet} {next : Dialogue α}
    (htraffic : ∀ e, e.IsOfTraffic → ¬ P e)
    (hmalformed : ∀ unixTime cause, (request unixTime).encode = .error cause →
      ¬ P (.malformed cause))
    (h : Spares P next) : Spares P (.send request next) := by
  intro acts e hdoes
  cases hdoes with
  | fails hazard =>
    cases hazard with
    | unsendable hencode => exact hmalformed _ _ hencode
    | unsent => exact htraffic _ trivial
  | sends _ later => exact h _ e later

theorem spares_subscribe {next : Dialogue α} (hdown : ¬ P .notConnected) (h : Spares P next) :
    Spares P (.subscribe next) := by
  intro acts e hdoes
  cases hdoes with
  | fails hazard =>
    cases hazard
    exact hdown
  | listens _ later => exact h _ e later

theorem Spares.early {d : Dialogue α} (h : Spares P d) : Early P d := fun acts e hdoes hP =>
  absurd hP (h acts e hdoes)

theorem early_done (r : Except Error α) : Early P (.done r) := by
  intro acts e hdoes _
  rw [hdoes.of_done.1]
  rfl

/-- To listen writes nothing, so a check behind it is still an early one. -/
theorem early_subscribe {next : Dialogue α} (h : Early P next) : Early P (.subscribe next) := by
  intro acts e hdoes hP
  cases hdoes with
  | fails => rfl
  | @listens _ _ acts _ later => exact h acts e later hP

/-- Behind the first write there is no room for errors of the caller. -/
theorem early_send {request : UInt32 → Packet} {next : Dialogue α} (h : Spares P next) :
    Early P (.send request next) := by
  intro acts e hdoes hP
  cases hdoes with
  | fails => rfl
  | sends _ later => exact absurd hP (h _ e later)

/-! ## Every kind of command -/

variable {binding : ModuleBinding} {name device moduleName : String} {entry : CommandEntry}
  {overrides : Overrides}

theorem not_isOfInput_of_isOfTraffic (e : Error) (h : e.IsOfTraffic) : ¬ e.IsOfInput :=
  h.not_isOfInput

/-- **A firmware update cannot fail in its middle for what the caller gave**, since every block of
an image fits into its request. -/
theorem spares_sendBlocks {update : FirmwareUpdate} {timeout : Duration} {outcome : Outcome}
    {blocks : List FirmwareBlock}
    (hfits : ∀ unixTime, ∀ block ∈ blocks, ∃ frame,
      (Packet.downlinkRequest (update.request unixTime block)).encode = .ok frame) :
    Spares Error.IsOfInput (sendBlocks update timeout blocks >>= fun _ => pure outcome) := by
  induction blocks with
  | nil => exact spares_done nofun
  | cons block blocks ih =>
    rw [FirmwareUpdate.sendBlocks_cons_bind]
    refine spares_send not_isOfInput_of_isOfTraffic (fun unixTime cause herror => ?_)
      (spares_await not_isOfInput_of_isOfTraffic fun ack => ?_)
    · obtain ⟨frame, hframe⟩ := hfits unixTime block (.head _)
      rw [hframe] at herror
      cases herror
    · split
      · exact ih fun unixTime later hlater => hfits unixTime later (.tail _ hlater)
      · refine spares_done fun e he => ?_
        cases he
        exact id

theorem spares_answerTo {id : DeviceId} {timeout : Duration}
    (htraffic : ∀ e, e.IsOfTraffic → ¬ P e) :
    Spares P (answerTo binding name entry id timeout) := by
  unfold answerTo
  split
  · exact spares_await htraffic fun uplink => spares_done nofun
  · split
    · exact spares_await htraffic fun response => spares_done nofun
    · exact spares_done nofun

/-- **All checks of a command come before its first write**, unless it has to read settings first.
-/
theorem early_runEntry (h : entry.kind = .downlink → overrides.settings = none) :
    Early Error.IsOfInput (runEntry binding name entry device overrides) := by
  cases hkind : entry.kind with
  | router =>
    simp only [runEntry, hkind]
    split
    · refine early_subscribe (early_send (spares_await not_isOfInput_of_isOfTraffic fun response =>
        spares_done fun e h => ?_))
      cases h
    · refine early_subscribe (early_send (spares_done fun e h => ?_))
      cases h
  | sensorUpdate =>
    simp only [runEntry, hkind]
    cases hid : DeviceId.parse device with
    | error e => exact early_done _
    | ok id =>
      rw [ofExcept_ok_bind]
      cases himage : overrides.firmware <|> overrides.payload with
      | none => exact early_done _
      | some image =>
        dsimp only
        cases hupdate : FirmwareUpdate.ofImage id (overrides.sensor.getD entry.sensor) image with
        | error e => exact early_done _
        | ok update =>
          -- No block is too large for its request, so all of them can be sent.
          have hcarries : update.Carries image := by
            unfold FirmwareUpdate.ofImage at hupdate
            split at hupdate
            · cases hupdate
            · rename_i hfit
              cases hupdate
              exact FirmwareUpdate.carries _ _ (Nat.le_of_not_lt hfit)
          refine early_subscribe (spares_sendBlocks fun unixTime block hblock => ?_).early
          obtain ⟨frame, hframe, -⟩ := hcarries.readable unixTime block hblock
          exact ⟨frame, hframe⟩
  | downlink =>
    simp only [runEntry, hkind, h hkind]
    cases hid : DeviceId.parse device with
    | error e => exact early_done _
    | ok id =>
      rw [ofExcept_ok_bind]
      cases hpayload : payloadFor name entry overrides.payload with
      | error e => exact early_done _
      | ok payload =>
        rw [ofExcept_ok_bind, askModule_eq]
        exact early_subscribe (early_send (spares_answerTo not_isOfInput_of_isOfTraffic))

/-! ## Checks before the link -/

theorem eq_invalidDeviceId_of_parse {e : Error} (h : DeviceId.parse device = .error e) :
    e = .invalidDeviceId device := by
  unfold DeviceId.parse at h
  split at h
  · cases h
  · exact (Except.error.inj h).symm

/-- From the dialogue to the link: what has failed early has written nothing, and a link on which
nothing is written is as it would be without the command. -/
theorem untouched_of_early {d : Dialogue Outcome} {e : Error} {world : World}
    {schedule : List Move} (h : Early Error.IsOfInput d)
    (hresult : ((Course.start d world).follow schedule).result? = some (.error e))
    (hinput : e.IsOfInput) : ((Course.start d world).follow schedule).Untouched world schedule := by
  have hdoes := Course.does_start schedule d world
  rw [Course.dialogue_of_result hresult] at hdoes
  refine Course.untouched_of_frames (h _ e hdoes hinput) ?_
  rw [hresult]
  rintro ⟨⟩
  exact hinput

theorem untouched_of_eq_done {d : Dialogue Outcome} {e : Error} (h : d = .done (.error e))
    (hinput : e.IsOfInput) (world : World) (schedule : List Move) :
    let course := (Course.start d world).follow schedule
    course.result? = some (.error e) ∧ course.Untouched world schedule := by
  subst h
  intro course
  have hresult : course.result? = some (.error e) := Course.result_follow rfl schedule
  exact ⟨hresult, untouched_of_early (early_done _) hresult hinput⟩

/-! ## Checks between two questions -/

section

variable {packets : Broadcast Packet} {id : DeviceId} {source : CommandEntry} {payload : Bytes}
  {merge : UplinkNotification → Except Error Bytes} {sensor : UInt16} {timeout : Duration}
  {acts : List Act} {left : Dialogue Outcome}

theorem not_isOfRequest_of_isOfTraffic (e : Error) (h : e.IsOfTraffic) :
    ¬ e.IsOfRequest moduleName name := fun hrequest => h.not_isOfInput hrequest.isOfInput

/-- With a payload in hand nothing about the request is left to be found out. -/
theorem spares_askModule :
    Spares (Error.IsOfRequest moduleName name)
      (askModule binding name entry id sensor payload timeout) := by
  rw [askModule_eq]
  exact spares_subscribe nofun (spares_send not_isOfRequest_of_isOfTraffic (fun _ _ _ => nofun)
    (spares_answerTo not_isOfRequest_of_isOfTraffic))

/-- Once the settings were asked for, only the handler of the module can find that something is
wrong with the request; it does so before anything else is written. -/
theorem merge_of_isOfRequest {e : Error}
    (h : Changing packets id source payload merge
      (fun merged => askModule binding name entry id sensor merged timeout) acts
      (.done (.error e)))
    (hrequest : e.IsOfRequest moduleName name) :
    framesOf acts = [] ∨ ∃ unixTime read position current,
      (requestFor source id source.sensor payload unixTime).encode = .ok read ∧
      framesOf acts = [read] ∧ .took position (.uplinkNotification current) ∈ acts ∧
      merge current = .error e := by
  cases h with
  | silent hacts => rcases hacts with rfl | ⟨_, rfl⟩ <;> exact .inl rfl
  | reading _ hleft =>
    rcases hleft with hgoing | ⟨_, heq, htraffic⟩
    · cases hgoing
    · cases heq
      exact absurd hrequest.isOfInput htraffic.not_isOfInput
  | unmergeable hread _ hmerge =>
    exact .inr ⟨_, _, _, _, hread, rfl, .tail _ (.tail _ (.head _)), hmerge⟩
  | writing _ _ _ later => exact absurd hrequest (spares_askModule _ e later)

end

/-! ## Every command -/

/-- Nothing is written, or the request that reads the settings, or behind it one that writes what
the handler has made of an answer. -/
def ReadsFirst (binding : ModuleBinding) (name device : String) (entry : CommandEntry)
    (overrides : Overrides) (updates : Json) (course : Course Outcome) : Prop :=
  course.frames = [] ∨ ∃ id handler source payload unixTime read,
    DeviceId.parse device = .ok id ∧ SettingsRead binding name handler source payload ∧
    (requestFor source id source.sensor payload unixTime).encode = .ok read ∧
    (course.frames = [read] ∨ ∃ position current merged unixTime write,
      .took position (.uplinkNotification current) ∈ course.acts ∧
      handler.mergeSettings name current updates = .ok merged ∧
      (requestFor entry id (overrides.sensor.getD entry.sensor) merged unixTime).encode =
        .ok write ∧
      course.frames = [read, write])

/-- The settings were read, and the handler of the module has refused to merge what came back, with
this error. Nothing was written but the request that reads them. -/
def RefusesMerge (binding : ModuleBinding) (name device : String) (updates : Json) (e : Error)
    (course : Course Outcome) : Prop :=
  ∃ id handler source payload unixTime read position current,
    DeviceId.parse device = .ok id ∧ SettingsRead binding name handler source payload ∧
    (requestFor source id source.sensor payload unixTime).encode = .ok read ∧
    course.frames = [read] ∧ .took position (.uplinkNotification current) ∈ course.acts ∧
    handler.mergeSettings name current updates = .error e

/-- What becomes of the errors of a caller, wherever the command stands. -/
structure ChecksInput (moduleName : String) (binding : ModuleBinding) (name device : String)
    (overrides : Overrides) (world : World) (schedule : List Move) (course : Course Outcome) :
    Prop where
  /-- A command that is not there is not there whatever else is wrong. -/
  unlisted : binding.table.command? name = none →
    course.result? = some (.error (.unknownCommand moduleName name)) ∧
    course.Untouched world schedule
  /-- What is no device id is told before a missing payload and a link that is down. -/
  misaddressed : ∀ entry e, binding.table.command? name = some entry → entry.kind ≠ .router →
    DeviceId.parse device = .error e →
    course.result? = some (.error (.invalidDeviceId device)) ∧ course.Untouched world schedule
  /-- Without a change of settings every error of the caller leaves the link alone. -/
  plain : ∀ entry e, binding.table.command? name = some entry →
    (entry.kind = .downlink → overrides.settings = none) →
    course.result? = some (.error e) → e.IsOfInput → course.Untouched world schedule
  /-- With one, so do those about the request, but for what the handler of the module has to say of
  the settings that were read. -/
  change : ∀ entry updates e, binding.table.command? name = some entry →
    entry.kind = .downlink → overrides.settings = some updates →
    course.result? = some (.error e) → e.IsOfRequest moduleName name →
    course.Untouched world schedule ∨ RefusesMerge binding name device updates e course
  /-- The handler of the library never says that of them, so with it there is no exception. -/
  library : ∀ entry updates e, binding.table.command? name = some entry →
    entry.kind = .downlink → overrides.settings = some updates →
    (∀ handler ∈ binding.handler?, handler.settingsSource name ≠ none →
      handler = Illuminance.handler) →
    course.result? = some (.error e) → e.IsOfRequest moduleName name →
    course.Untouched world schedule
  /-- Until there is a payload to be written, a change has done no more than read the settings. -/
  frames : ∀ entry updates, binding.table.command? name = some entry →
    entry.kind = .downlink → overrides.settings = some updates →
    ReadsFirst binding name device entry overrides updates course

theorem runEntry_misaddressed {e : Error} (hkind : entry.kind ≠ .router)
    (hid : DeviceId.parse device = .error e) :
    runEntry binding name entry device overrides = .done (.error (.invalidDeviceId device)) := by
  obtain rfl := eq_invalidDeviceId_of_parse hid
  cases hentry : entry.kind with
  | router => exact absurd hentry hkind
  | sensorUpdate => simp only [runEntry, hentry, hid, ofExcept_error_bind]
  | downlink => simp only [runEntry, hentry, hid, ofExcept_error_bind]

/-- A change of settings is over at once, or it reads first. -/
theorem change_cases (binding : ModuleBinding) (name device : String) {updates : Json}
    (hkind : entry.kind = .downlink) (hsettings : overrides.settings = some updates) :
    (∃ e, runEntry binding name entry device overrides = .done (.error e)) ∨
      ∃ id handler source payload, DeviceId.parse device = .ok id ∧
        SettingsRead binding name handler source payload ∧
        ∀ packets start acts stop left,
          Attends packets start (runEntry binding name entry device overrides) acts stop left →
          Changing packets id source payload (handler.mergeSettings name · updates)
            (fun merged => askModule binding name entry id (overrides.sensor.getD entry.sensor)
              merged (overrides.timeout.getD entry.timeout))
            acts left := by
  cases hid : DeviceId.parse device with
  | error e =>
    have hrouter : entry.kind ≠ .router := by
      rw [hkind]
      exact nofun
    exact .inl ⟨_, runEntry_misaddressed hrouter hid⟩
  | ok id =>
    rw [runEntry_change hkind hid hsettings]
    rcases changedSettings_cases binding name id updates overrides.timeout with
      ⟨handler, source, payload, hread⟩ | ⟨e, he⟩
    · exact .inr ⟨id, handler, source, payload, rfl, hread, fun _ _ _ _ _ hattends =>
        changing_of_attends hread hattends⟩
    · exact .inl ⟨e, by rw [he, fail_bind]⟩

section

variable {updates : Json} {world : World} {schedule : List Move} {course : Course Outcome}

/-- An error about the request is found before the question that reads the settings, or by the
handler behind it. -/
theorem change_error (hkind : entry.kind = .downlink)
    (hsettings : overrides.settings = some updates)
    (hcourse : course =
      (Course.start (runEntry binding name entry device overrides) world).follow schedule)
    {e : Error} (hresult : course.result? = some (.error e))
    (hrequest : e.IsOfRequest moduleName name) :
    course.Untouched world schedule ∨ RefusesMerge binding name device updates e course := by
  subst hcourse
  rcases change_cases binding name device hkind hsettings with
    ⟨refusal, hdone⟩ | ⟨id, handler, source, payload, hid, hread, hchanging⟩
  · refine .inl (untouched_of_early ?_ hresult hrequest.isOfInput)
    rw [hdone]
    exact early_done _
  · obtain ⟨stop, hattends, -⟩ :=
      Course.attends_start schedule (runEntry binding name entry device overrides) world
    have hleft := hchanging _ _ _ _ _ hattends
    rw [Course.dialogue_of_result hresult] at hleft
    -- With such an error at its end, a change has asked for nothing, or the merge said so.
    rcases merge_of_isOfRequest hleft hrequest with
      hframes | ⟨unixTime, read, position, current, hencode, hframes, htook, hmerge⟩
    · refine .inl (Course.untouched_of_frames hframes ?_)
      rw [hresult]
      rintro ⟨⟩
      cases hrequest
    · exact .inr ⟨id, handler, source, payload, unixTime, read, position, current, hid, hread,
        hencode, hframes, htook, hmerge⟩

/-- Whatever becomes of a change, what it has written is the front of these two requests. -/
theorem change_frames (hkind : entry.kind = .downlink)
    (hsettings : overrides.settings = some updates)
    (hcourse : course =
      (Course.start (runEntry binding name entry device overrides) world).follow schedule) :
    ReadsFirst binding name device entry overrides updates course := by
  subst hcourse
  rcases change_cases binding name device hkind hsettings with
    ⟨refusal, hdone⟩ | ⟨id, handler, source, payload, hid, hread, hchanging⟩
  · refine .inl ?_
    rw [hdone]
    exact congrArg framesOf (Course.follow_of_result rfl schedule).2
  · obtain ⟨stop, hattends, -⟩ :=
      Course.attends_start schedule (runEntry binding name entry device overrides) world
    rcases frames_of_changing (hchanging _ _ _ _ _ hattends) with
      hframes | ⟨unixTime, read, hencode, hframes⟩
    · exact .inl hframes
    refine .inr ⟨id, handler, source, payload, unixTime, read, hid, hread, hencode, ?_⟩
    -- The first request is out. A second one has a report and its merge behind it.
    rcases hframes with hframes |
      ⟨start, position, current, merged, more, unixTime, frame, hacts, -, hmerge, hframe, hframes⟩
    · exact .inl hframes
    · have htook : Act.took position (.uplinkNotification current) ∈
          ((Course.start (runEntry binding name entry device overrides) world).follow
            schedule).acts := by
        rw [hacts]
        exact .tail _ (.tail _ (.head _))
      exact .inr ⟨position, current, merged, unixTime, frame, htook, hmerge, hframe, hframes⟩

end

/-- **An error of the caller leaves no mark on the link**, at every moment, under every schedule and
in every world. -/
theorem checksInput_command (moduleName : String) (binding : ModuleBinding) (name device : String)
    (overrides : Overrides) (world : World) (schedule : List Move) :
    ChecksInput moduleName binding name device overrides world schedule
      ((Course.start (command moduleName binding name device overrides) world).follow
        schedule) := by
  have hrun {entry : CommandEntry} (h : binding.table.command? name = some entry) :
      command moduleName binding name device overrides =
        runEntry binding name entry device overrides := by
    rw [command, h]
  refine ⟨fun hnone => ?_, fun entry e hlisted hkind hid => ?_,
    fun entry e hlisted hplain hresult hinput => ?_,
    fun entry updates e hlisted hkind hsettings hresult hrequest => ?_,
    fun entry updates e hlisted hkind hsettings hhandler hresult hrequest => ?_,
    fun entry updates hlisted hkind hsettings => ?_⟩
  · refine untouched_of_eq_done ?_ (by trivial) world schedule
    rw [command, hnone]
    rfl
  · refine untouched_of_eq_done ?_ (by trivial) world schedule
    rw [hrun hlisted, runEntry_misaddressed hkind hid]
  · rw [hrun hlisted] at hresult ⊢
    exact untouched_of_early (early_runEntry hplain) hresult hinput
  · exact change_error hkind hsettings (by rw [hrun hlisted]) hresult hrequest
  · rcases change_error hkind hsettings (by rw [hrun hlisted]) hresult hrequest with
      huntouched | ⟨_, handler, _, _, _, _, _, _, -, hread, -, -, -, hmerge⟩
    · exact huntouched
    · obtain rfl := hhandler handler hread.handled hread.settingsSource_ne_none
      -- The errors of this handler are about parameters and reports, none is one of the request.
      rcases Illuminance.error_of_mergeSettings hmerge with ⟨_, rfl⟩ | ⟨_, rfl⟩ <;> cases hrequest
  · exact change_frames hkind hsettings (by rw [hrun hlisted])

/-- A handler for the illuminance sensor that takes a change which names nothing for one that lacks
its data. -/
def insisting : ModuleHandler where
  name := "insisting"
  decode := Illuminance.handler.decode
  settingsSource := Illuminance.handler.settingsSource
  mergeSettings := fun command current updates =>
    match updates with
    | .object [] => .error (.missingData command)
    | updates => Illuminance.handler.mergeSettings command current updates

/-- Such a handler finds that data are missing, and the settings have been read by then. -/
theorem not_every_request_error_untouched :
    let binding : ModuleBinding := .specialised insisting Illuminance.table
    let report : UplinkNotification :=
      { unixTime := 0, device := 0x2468800203400004, sensor := 0, rssi := -60, reserved := 0,
        payload := Illuminance.Parameters.block {} }
    let schedule : List Move :=
      [.step, .step, .meanwhile (.arrives (.uplinkNotification report)), .step]
    let course := (Course.start (command "illuminance" binding "set_parameter" "2468800203400004"
      { settings := some (.object []) }) Exchange.upWorld).follow schedule
    ((ModuleRegistry.builtin.registerHandler "illuminance" insisting).resolve "illuminance").1 =
        binding ∧
      (∃ entry, binding.table.command? "set_parameter" = some entry ∧ entry.kind = .downlink) ∧
      course.result? = some (.error (.missingData "set_parameter")) ∧
      Error.IsOfRequest "illuminance" "set_parameter" (.missingData "set_parameter") ∧
      course.frames.length = 1 ∧ ¬ course.Untouched Exchange.upWorld schedule := by
  refine ⟨rfl, ⟨_, rfl, rfl⟩, by rfl, .missingData _, by decide +kernel, fun h => ?_⟩
  exact absurd h.frames (by decide +kernel)

/-- What cannot be merged is found out once the settings were read, and nothing else is written. -/
example :
    let overrides : Overrides := { settings := some (.object [("volume", .nat 3)]) }
    let report : UplinkNotification :=
      { unixTime := 0, device := 0x2468800203400004, sensor := 0, rssi := -60, reserved := 0,
        payload := Illuminance.Parameters.block {} }
    let course := (Course.start (command "illuminance"
      (ModuleRegistry.builtin.resolve "illuminance").1 "set_parameter" "2468800203400004"
      overrides) Exchange.upWorld).follow
        [.step, .step, .meanwhile (.arrives (.uplinkNotification report)), .step]
    course.result? = some (.error (.invalidParameter (.unknownField "volume"))) ∧
      course.frames.length = 1 := by
  exact ⟨by rfl, by decide +kernel⟩

end Dialogue
end SensorLink
