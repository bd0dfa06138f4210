import SensorLink.Proofs.Dialogue.SettingsRead
import SensorLink.Proofs.Illuminance.Updates

/-!
# Changing the settings of an illuminance sensor

The settings of a sensor are written as a whole. To change one of them they are read, the change is
merged into what the sensor has reported, and the result is written; a field that got lost on the
way would set up the sensor anew. Between the two requests a lot can go wrong, and then it must be
left at the first.

> **The second request is written exactly if the first answer to the first is a report which the
> updates can be merged into, and the link takes it. It writes what was reported with the updates
> applied, and nothing else** (`merges_setParameter`).

Which answer is the first is known only as long as nothing was overtaken. A wait that has missed
packets ends, even if the first of them was such a report (`not_every_report_merged`).
-/

namespace SensorLink

/-! ## A change of illuminance settings -/

namespace Illuminance

/-- Asks a sensor for its parameters. -/
def readRequest (id : DeviceId) (unixTime : UInt32) : Packet :=
  .downlinkRequest
    { unixTime, device := id, sensor := 0, command := 0x0D, order := 0xFFFF, payload := [0x00] }

/-- Gives a sensor new parameters. -/
def writeRequest (id : DeviceId) (sensor : UInt16) (merged : Parameters) (unixTime : UInt32) :
    Packet :=
  .downlinkRequest
    { unixTime, device := id, sensor, command := 0x05, order := 0xFFFF,
      payload := merged.setPayload }

/-! ### The change as a dialogue -/

open Dialogue (Attends changedSettings askModule)

abbrev binding : ModuleBinding := (ModuleRegistry.builtin.resolve "illuminance").1

/-- How the table says that parameters are read. -/
abbrev reading : CommandEntry := (table.command? getParameter).get rfl

/-- How the table says that parameters are written. -/
abbrev writing : CommandEntry := (table.command? setParameter).get rfl

theorem settingsRead : SettingsRead binding setParameter handler reading [0x00] :=
  ⟨rfl, getParameter, rfl, rfl, rfl⟩

variable {id : DeviceId} {device : String} {overrides : Overrides} {updates : Json}

/-- The dialogue that writes a payload. -/
abbrev write (id : DeviceId) (overrides : Overrides) (payload : Bytes) : Dialogue Outcome :=
  askModule binding setParameter writing id (overrides.sensor.getD 0) payload
    (overrides.timeout.getD writing.timeout)

/-- The dialogue that reads and writes. -/
abbrev change (id : DeviceId) (overrides : Overrides) (updates : Json) : Dialogue Outcome :=
  changedSettings binding setParameter id updates overrides.timeout >>= write id overrides

/-- What is left of it once the parameters were asked for. -/
abbrev rest (id : DeviceId) (overrides : Overrides) (updates : Json) :
    UplinkNotification → Dialogue Outcome :=
  Dialogue.restOfChange handler setParameter updates (write id overrides)

theorem change_eq (id : DeviceId) (overrides : Overrides) (updates : Json) :
    change id overrides updates =
      .subscribe (.send (readRequest id) (.await (.uplink id 0 0x0D)
        (overrides.timeout.getD reading.timeout) (rest id overrides updates))) :=
  Dialogue.changedSettings_bind settingsRead overrides.timeout (write id overrides)

theorem command_setParameter (hid : DeviceId.parse device = .ok id)
    (hsettings : overrides.settings = some updates) :
    Dialogue.command "illuminance" binding setParameter device overrides =
      change id overrides updates := by
  have hlisted : binding.table.command? setParameter = some writing := rfl
  rw [Dialogue.command, hlisted]
  exact Dialogue.runEntry_change rfl hid hsettings

theorem encode_writeRequest (id : DeviceId) (sensor : UInt16) (merged : Parameters)
    (unixTime : UInt32) : ∃ frame, (writeRequest id sensor merged unixTime).encode = .ok frame := by
  refine ⟨_, Packet.encode_eq_ok_iff.mpr ⟨?_, rfl⟩⟩
  rintro ⟨-, hover⟩
  simp [writeRequest, Packet.payload, Parameters.setPayload, Parameters.length_settingBytes,
    maxPayload] at hover

/-! ### What is written -/

/-- The update can be merged into a report of parameters. -/
def Mergeable (updates : Json) (merged : Parameters) (report : UplinkNotification) : Prop :=
  24 ≤ report.payload.length ∧ ∃ current, Parameters.parse report.payload = .ok current ∧
    current.merged updates = .ok merged

theorem mergeable_of_mergeSettings {report : UplinkNotification} {payload : Bytes}
    (h : handler.mergeSettings setParameter report updates = .ok payload) :
    ∃ merged, Mergeable updates merged report ∧ payload = merged.setPayload := by
  obtain ⟨current, merged, hcurrent, hmerged, hpayload⟩ := mergeSettings_eq_ok_iff.mp h
  exact ⟨merged, ⟨Parameters.exists_parse_iff.mp ⟨current, hcurrent⟩, current, hcurrent, hmerged⟩,
    hpayload⟩

theorem Mergeable.mergeSettings {report : UplinkNotification} {merged : Parameters}
    (h : Mergeable updates merged report) :
    handler.mergeSettings setParameter report updates = .ok merged.setPayload := by
  obtain ⟨-, current, hcurrent, hmerged⟩ := h
  exact mergeSettings_eq_ok_iff.mpr ⟨current, merged, hcurrent, hmerged, rfl⟩

theorem Mergeable.unique {report : UplinkNotification} {merged other : Parameters}
    (h : Mergeable updates merged report) (h' : Mergeable updates other report) :
    merged = other := by
  obtain ⟨-, current, hcurrent, hmerged⟩ := h
  obtain ⟨-, current', hcurrent', hother⟩ := h'
  rw [hcurrent] at hcurrent'
  cases hcurrent'
  rw [hmerged] at hother
  exact Except.ok.inj hother

/-- The first answer to a request for the parameters. -/
abbrev FirstAnswer (packets : Broadcast Packet) (id : DeviceId) (start position : Nat)
    (answer : Packet) : Prop :=
  packets.First (Packet.Answers id 0 0x0D) start position answer

/-- The frame behind the request for the parameters is made of the first answer to it: it writes
what was reported there with the update applied, which is valid. -/
inductive WritesMerged (packets : Broadcast Packet) (id : DeviceId) (sensor : UInt16)
    (updates : Json) (read frame : Bytes) : List Act → Prop where
  | intro {start position : Nat} {report : UplinkNotification} {current merged : Parameters}
      {members : List (String × Json)} {unixTime : UInt32} {acts : List Act}
      (hfirst : FirstAnswer packets id start position (.uplinkNotification report))
      (hlength : 24 ≤ report.payload.length)
      (hcurrent : Parameters.parse report.payload = .ok current)
      (hmembers : updates = .object members) (hvalid : merged.validate = .ok ())
      (happlies : Parameters.Applies members current merged)
      (hframe : (writeRequest id sensor merged unixTime).encode = .ok frame) :
    WritesMerged packets id sensor updates read frame
      (.listened start :: .wrote read :: .took position (.uplinkNotification report) :: acts)

/-- What a change of settings keeps to, wherever it stands. -/
structure Merges (id : DeviceId) (sensor : UInt16) (updates : Json) (course : Course Outcome) :
    Prop where
  /-- The first request reads, and there is at most one more. -/
  frames : course.frames = [] ∨ ∃ unixTime read, (readRequest id unixTime).encode = .ok read ∧
    (course.frames = [read] ∨ ∃ frame, course.frames = [read, frame])
  /-- What is written is valid, and it is what the device has reported with the update applied. -/
  sound : ∀ read frame, course.frames = [read, frame] →
    WritesMerged course.world.link.inbox.packets id sensor updates read frame course.acts
  /-- As long as there is no answer, nothing ends the wait for it but its time, the link, or packets
  that were missed. -/
  waits : ∀ start read, course.acts = [.listened start, .wrote read] → course.result? = none →
    course.Undisturbed →
    (∀ i p, start ≤ i → course.world.link.inbox.packets.sent[i]? = some p →
      ¬ p.Answers id 0 0x0D) →
    course.step.acts = course.acts ∧ course.step.result? = none
  /-- As long as nothing was overtaken, the first answer decides: the second request is written if
  that is a report which the update can be merged into, the link is up when the request is made, and
  takes it, and otherwise never. -/
  complete : ∀ start read, course.acts = [.listened start, .wrote read] → course.result? = none →
    course.inReach = true → ∀ position answer,
      FirstAnswer course.world.link.inbox.packets id start position answer →
      ∀ (gap gap' : List Happening) (later : List Move),
        let decided := course.step.follow (gap.map Move.meanwhile)
        let asking := decided.step.follow (gap'.map Move.meanwhile)
        (∃ frame, (asking.follow (.step :: later)).frames = [read, frame]) ↔
          ∃ report merged frame, answer = .uplinkNotification report ∧
            Mergeable updates merged report ∧ decided.world.link.isConnected = true ∧
            (writeRequest id sensor merged asking.world.unixTime).encode = .ok frame ∧
            (asking.world.write frame).1 = true
  /-- If something was overtaken, there is no second request. -/
  missed : ∀ start read, course.acts = [.listened start, .wrote read] → course.result? = none →
    course.inReach = false →
      (∃ count, course.step.result? = some (.error (.repliesMissed count))) ∧
      ∀ later, (course.follow (.step :: later)).frames = [read]

theorem frames_of_attends {packets : Broadcast Packet} {start stop : Nat} {acts : List Act}
    {left : Dialogue Outcome}
    (h : Attends packets start (change id overrides updates) acts stop left) :
    framesOf acts = [] ∨ ∃ unixTime read, (readRequest id unixTime).encode = .ok read ∧
      (framesOf acts = [read] ∨ ∃ frame, framesOf acts = [read, frame] ∧
        WritesMerged packets id (overrides.sensor.getD 0) updates read frame acts) := by
  have hchanging := Dialogue.changing_of_attends settingsRead h
  rcases Dialogue.frames_of_changing hchanging with hframes | ⟨unixTime, read, hread, hframes⟩
  · exact .inl hframes
  refine .inr ⟨unixTime, read, hread, ?_⟩
  rcases hframes with hframes |
    ⟨_, _, report, payload, _, _, frame, rfl, hfirst, hmerge, hframe, hframes⟩
  · exact .inl hframes
  obtain ⟨merged, ⟨hlength, current, hcurrent, hmerged⟩, rfl⟩ := mergeable_of_mergeSettings hmerge
  obtain ⟨hvalid, members, hmembers, happlies⟩ := Parameters.applies_of_merged hmerged
  exact .inr ⟨frame, hframes, hfirst, hlength, hcurrent, hmembers, hvalid, happlies, hframe⟩

/-! ### What decides -/

section

variable {course : Course Outcome} {read : Bytes} {gap gap' : List Happening} {later : List Move}

/-- The moves after the one that decides. -/
theorem follow_asking (course : Course Outcome) (gap gap' : List Happening) (later : List Move) :
    ((course.follow (gap.map Move.meanwhile)).step.follow (gap'.map Move.meanwhile)).follow
        (.step :: later) =
      course.follow
        (gap.map Move.meanwhile ++ .step :: (gap'.map Move.meanwhile ++ .step :: later)) := by
  simp only [Course.follow_append, Course.follow_cons, Course.move]

/-- What has ended writes nothing more. -/
theorem not_written_of_result {r : Except Error Outcome} (hresult : course.result? = some r)
    (hframes : course.frames = [read]) :
    let decided := course.follow (gap.map Move.meanwhile)
    let asking := decided.step.follow (gap'.map Move.meanwhile)
    ¬ ∃ frame, (asking.follow (.step :: later)).frames = [read, frame] := by
  intro decided asking
  rw [follow_asking, Course.frames, (Course.follow_of_result hresult _).2]
  rintro ⟨frame, hframe⟩
  rw [Course.frames] at hframes
  rw [hframes] at hframe
  cases hframe

/-- A report that the update can be merged into is written if the link takes it. -/
theorem written_iff_of_mergeable {stream : ReplyStream} {world : World} {done : List Act}
    {sensor : UInt16} {timeout : Duration} {merged : Parameters} (hdone : framesOf done = [read]) :
    let course : Course Outcome :=
      ⟨⟨askModule binding setParameter writing id sensor merged.setPayload timeout, stream, none⟩,
        world, done⟩
    let decided := course.follow (gap.map Move.meanwhile)
    let asking := decided.step.follow (gap'.map Move.meanwhile)
    (∃ frame, (asking.follow (.step :: later)).frames = [read, frame]) ↔
      decided.world.link.isConnected = true ∧ ∃ frame,
        (writeRequest id sensor merged asking.world.unixTime).encode = .ok frame ∧
        (asking.world.write frame).1 = true := by
  intro course decided asking
  have hdecided : decided = ⟨course.task, gap.foldl World.undergo world, done⟩ :=
    Exchange.follow_gap gap _
  -- From the merge on a change is a question like any other, with the merged settings in it.
  have hdialogue : decided.task.dialogue = .subscribe (.send (writeRequest id sensor merged)
      (Dialogue.answerTo binding setParameter writing id timeout)) := by
    rw [hdecided]
    rfl
  obtain ⟨frame, hframe⟩ := encode_writeRequest id sensor merged asking.world.unixTime
  have hframes := Course.frames_question (fun _ _ h => Dialogue.frames_answerTo h) hdialogue gap'
    later hframe
  have hread : decided.frames = [read] := by
    rw [hdecided]
    exact hdone
  rw [hread] at hframes
  by_cases htaken : decided.world.link.isConnected = true ∧ (asking.world.write frame).1 = true
  · rw [hframes, if_pos htaken]
    exact ⟨fun _ => ⟨htaken.1, frame, hframe, htaken.2⟩, fun _ => ⟨frame, rfl⟩⟩
  · rw [hframes, if_neg htaken]
    constructor
    · rintro ⟨_, h⟩
      cases h
    · rintro ⟨hup, other, hother, hother_taken⟩
      rw [hframe] at hother
      cases hother
      exact absurd ⟨hup, hother_taken⟩ htaken

end

/-- The course waits for the report. -/
abbrev AwaitsReport (id : DeviceId) (overrides : Overrides) (updates : Json) (start : Nat)
    (course : Course Outcome) : Prop :=
  course.Waits (.uplink id 0 0x0D) (overrides.timeout.getD reading.timeout)
    (rest id overrides updates) start

theorem awaitsReport_of_attends {course : Course Outcome} {start stop : Nat} {read : Bytes}
    (hattends : Attends course.world.link.inbox.packets 0 (change id overrides updates) course.acts
      stop course.task.dialogue)
    (hattentive : course.Attentive stop) (hacts : course.acts = [.listened start, .wrote read])
    (hgoing : course.result? = none) : AwaitsReport id overrides updates start course := by
  rw [change_eq] at hattends
  exact Course.waits_of_asked (Dialogue.asked_of_attends hattends) hattentive hacts hgoing

/-- **The first answer decides.** -/
theorem written_iff {course : Course Outcome} {start position : Nat} {read : Bytes}
    {answer : Packet} (gap gap' : List Happening) (later : List Move)
    (hwaits : AwaitsReport id overrides updates start course)
    (hacts : course.acts = [.listened start, .wrote read]) (hreach : course.inReach = true)
    (hfirst : FirstAnswer course.world.link.inbox.packets id start position answer) :
    let decided := course.step.follow (gap.map Move.meanwhile)
    let asking := decided.step.follow (gap'.map Move.meanwhile)
    (∃ frame, (asking.follow (.step :: later)).frames = [read, frame]) ↔
      ∃ report merged frame, answer = .uplinkNotification report ∧
        Mergeable updates merged report ∧ decided.world.link.isConnected = true ∧
        (writeRequest id (overrides.sensor.getD 0) merged asking.world.unixTime).encode =
          .ok frame ∧
        (asking.world.write frame).1 = true := by
  have hwanted (p : Packet) : Awaited.judge (.uplink id 0 0x0D) p = none ↔
      ¬ p.Answers id 0 0x0D := Awaited.judge_uplink_eq_none
  have hanswers := hfirst.isWanted
  cases answer with
  | uplinkNotification report =>
    have hjudge : Awaited.judge (.uplink id 0 0x0D) (.uplinkNotification report) =
      some (.ok report) := if_pos hanswers
    -- What is left after the report is up to the merge alone.
    rw [hwaits.step_reply hwanted hreach hfirst hjudge, hacts]
    cases hmerge : handler.mergeSettings setParameter report updates with
    | error e =>
      have hleft : rest id overrides updates report = .done (.error e) := by
        rw [rest, Dialogue.restOfChange, hmerge]
        rfl
      rw [hleft]
      constructor
      · exact fun h => absurd h (not_written_of_result (r := .error e) rfl rfl)
      · rintro ⟨_, merged, _, heq, hmergeable, -⟩
        cases heq
        rw [hmergeable.mergeSettings] at hmerge
        cases hmerge
    | ok payload =>
      obtain ⟨merged, hmergeable, rfl⟩ := mergeable_of_mergeSettings hmerge
      have hleft : rest id overrides updates report = write id overrides merged.setPayload := by
        rw [rest, Dialogue.restOfChange, hmerge]
        rfl
      rw [hleft]
      refine (written_iff_of_mergeable rfl).trans ⟨?_, ?_⟩
      · rintro ⟨hup, frame, hframe, htaken⟩
        exact ⟨report, merged, frame, rfl, hmergeable, hup, hframe, htaken⟩
      · rintro ⟨_, other, frame, heq, hother, hup, hframe, htaken⟩
        cases heq
        obtain rfl := hmergeable.unique hother
        exact ⟨hup, frame, hframe, htaken⟩
  | downlinkResponse r =>
    have hjudge : Awaited.judge (.uplink id 0 0x0D) (.downlinkResponse r) =
      some (.error (Awaited.rejected r)) :=
        if_pos ⟨hanswers.1, hanswers.2.1, by simpa [DownlinkResponse.isSuccess] using hanswers.2.2⟩
    rw [hwaits.step_refusal hwanted hreach hfirst hjudge, hacts]
    constructor
    · exact fun h => absurd h (not_written_of_result (r := .error (Awaited.rejected r)) rfl rfl)
    · rintro ⟨_, _, _, heq, -⟩
      cases heq
  | _ => exact hanswers.elim

/-- A wait that was overtaken ends, for what it has missed may have been the report. -/
theorem written_of_missed {course : Course Outcome} {start : Nat} {read : Bytes}
    (hwaits : AwaitsReport id overrides updates start course)
    (hacts : course.acts = [.listened start, .wrote read]) (hmissed : course.inReach = false) :
    (∃ count, course.step.result? = some (.error (.repliesMissed count))) ∧
      ∀ later, (course.follow (.step :: later)).frames = [read] := by
  obtain ⟨count, after, hstep⟩ := hwaits.step_missed hmissed
  have hresult : course.step.result? = some (.error (.repliesMissed count)) := by
    rw [hstep]
    rfl
  refine ⟨⟨count, hresult⟩, fun later => ?_⟩
  rw [Course.follow_cons, Course.move, Course.frames, (Course.follow_of_result hresult later).2,
    hstep]
  exact congrArg framesOf hacts

/-! ### The change as a whole -/

theorem encode_readRequest (id : DeviceId) (unixTime : UInt32) :
    ∃ read, (readRequest id unixTime).encode = .ok read := ⟨_, rfl⟩

/-- **A change of settings writes a valid merge of what the device has reported, or nothing but the
request for the report.** On a link that is up it begins with that request and waits. -/
theorem merges_setParameter (hid : DeviceId.parse device = .ok id)
    (hsettings : overrides.settings = some updates) (world : World) :
    let course := Course.start
      (Dialogue.command "illuminance" binding setParameter device overrides) world
    (world.link.isConnected = true → ∀ gap : List Happening,
      let asking := course.step.follow (gap.map Move.meanwhile)
      ∃ read, (readRequest id asking.world.unixTime).encode = .ok read ∧
        asking.task.attempt? asking.world = some read ∧
        ((asking.world.write read).1 = true → asking.step.result? = none ∧
          asking.step.acts = [.listened world.link.inbox.packets.tail, .wrote read])) ∧
    ∀ schedule, Merges id (overrides.sensor.getD 0) updates (course.follow schedule) := by
  rw [command_setParameter hid hsettings]
  refine ⟨fun hup gap => Course.asks_at_once (change_eq id overrides updates)
    (encode_readRequest id) hup gap, fun schedule => ?_⟩
  obtain ⟨stop, hattends, hattentive⟩ :=
    Course.attends_start schedule (change id overrides updates) world
  generalize (Course.start _ world).follow schedule = course at *
  have hframes := frames_of_attends hattends
  have hwaiting {start : Nat} {read : Bytes} (hacts : course.acts = [.listened start, .wrote read])
      (hgoing : course.result? = none) : AwaitsReport id overrides updates start course :=
    awaitsReport_of_attends hattends hattentive hacts hgoing
  refine ⟨?_, fun read frame hwritten => ?_, fun start read hacts hgoing hundisturbed hnone =>
      (hwaiting hacts hgoing).step_unanswered (fun _ => Awaited.judge_uplink_eq_none) hundisturbed
        hnone,
    fun start read hacts hgoing hreach position answer hfirst gap gap' later =>
      written_iff gap gap' later (hwaiting hacts hgoing) hacts hreach hfirst,
    fun start read hacts hgoing hmissed =>
      written_of_missed (hwaiting hacts hgoing) hacts hmissed⟩
  -- What was written: nothing, the first request, or both.
  · rcases hframes with hframes | ⟨unixTime, read, hread, hframes⟩
    · exact .inl hframes
    refine .inr ⟨unixTime, read, hread, ?_⟩
    rcases hframes with hframes | ⟨frame, hframes, -⟩
    · exact .inl hframes
    · exact .inr ⟨frame, hframes⟩
  · have hwritten : framesOf course.acts = [read, frame] := hwritten
    -- Two frames are out in one of the three cases only, and there the merge is known.
    rcases hframes with hframes | ⟨_, _, -, hframes | ⟨_, hframes, hmerged⟩⟩
    · rw [hwritten] at hframes
      cases hframes
    · rw [hwritten] at hframes
      cases hframes
    · rw [hwritten] at hframes
      cases hframes
      exact hmerged

/-- A sensor that reports every minute is told to do so every other minute. -/
theorem merges_setParameter_interval :
    let updates : Json := .object [("uplink_interval_s", .nat 120)]
    let overrides : Overrides := { settings := some updates }
    let report : UplinkNotification :=
      { unixTime := 0, device := 0x2468800203400004, sensor := 0, rssi := -60, reserved := 0,
        payload := Parameters.block { uplinkInterval := 60 } }
    let course := (Course.start (Dialogue.command "illuminance" binding setParameter
      "2468800203400004" overrides) Exchange.upWorld).follow
        [.step, .step, .meanwhile (.arrives (.uplinkNotification report))]
    DeviceId.parse "2468800203400004" = .ok 0x2468800203400004 ∧
      overrides.settings = some updates ∧ ∃ read frame, course.frames = [read] ∧
      (course.follow [.step, .step, .step]).frames = [read, frame] := by
  intro updates overrides report course
  have hid : DeviceId.parse "2468800203400004" = .ok 0x2468800203400004 := rfl
  have hsettings : overrides.settings = some updates := rfl
  have hmerges : Merges 0x2468800203400004 0 updates course :=
    (merges_setParameter hid hsettings Exchange.upWorld).2
      [.step, .step, .meanwhile (.arrives (.uplinkNotification report))]
  have hacts : course.acts =
      [.listened 0, .wrote (readRequest 0x2468800203400004 0).layout] := by decide +kernel
  have hgoing : course.result?.isNone = true := by decide +kernel
  have hreach : course.inReach = true := by decide +kernel
  have hfound : course.world.link.inbox.packets.sent[0]? = some (.uplinkNotification report) := by
    decide +kernel
  have hup : course.step.world.link.isConnected = true := by decide +kernel
  have hnow : course.step.step.world.unixTime = 0 := by decide +kernel
  have htaken : (course.step.step.world.write
      (writeRequest 0x2468800203400004 0 { uplinkInterval := 120 } 0).layout).1 = true := by
    decide +kernel
  clear_value course
  have hframe : (writeRequest 0x2468800203400004 0 { uplinkInterval := 120 }
      course.step.step.world.unixTime).encode =
        .ok (writeRequest 0x2468800203400004 0 { uplinkInterval := 120 } 0).layout := by
    rw [hnow]
    exact Packet.encode_eq_ok_iff.mpr ⟨by decide, rfl⟩
  have hmergeable : Mergeable updates { uplinkInterval := 120 } report :=
    ⟨by decide, { uplinkInterval := 60 }, rfl, rfl⟩
  have hfirst : FirstAnswer course.world.link.inbox.packets 0x2468800203400004 0 0
      (.uplinkNotification report) :=
    ⟨Nat.le_refl 0, hfound, ⟨rfl, rfl⟩, fun _ _ _ hlt => absurd hlt (Nat.not_lt_zero _)⟩
  obtain ⟨frame, hwritten⟩ := (hmerges.complete 0 _ hacts (Option.isNone_iff_eq_none.mp hgoing)
    hreach 0 _ hfirst [] [] []).mpr ⟨report, _, _, rfl, hmergeable, hup, hframe, htaken⟩
  exact ⟨hid, hsettings, _, frame, congrArg framesOf hacts, hwritten⟩

/-- The report arrives, and so much more before the wait looks that the report is gone. -/
theorem not_every_report_merged :
    let updates : Json := .object [("uplink_interval_s", .nat 120)]
    let overrides : Overrides := { settings := some updates }
    let report : UplinkNotification :=
      { unixTime := 0, device := 0x2468800203400004, sensor := 0, rssi := -60, reserved := 0,
        payload := Parameters.block { uplinkInterval := 60 } }
    let other : UplinkNotification := { report with sensor := 1 }
    let course := (Course.start (Dialogue.command "illuminance" binding setParameter
      "2468800203400004" overrides) Exchange.upWorld).follow
        ([.step, .step, .meanwhile (.arrives (.uplinkNotification report))] ++
          List.replicate 256 (.meanwhile (.arrives (.uplinkNotification other))))
    FirstAnswer course.world.link.inbox.packets 0x2468800203400004 0 0
        (.uplinkNotification report) ∧
      Mergeable updates { uplinkInterval := 120 } report ∧
      course.world.link.isConnected = true ∧
      ∃ count, course.step.result? = some (.error (.repliesMissed count)) ∧
      ∃ read, ∀ later, (course.follow (.step :: later)).frames = [read] := by
  intro updates overrides report other course
  have hfound : course.world.link.inbox.packets.sent[0]? = some (.uplinkNotification report) := by
    decide +kernel
  have hup : course.world.link.isConnected = true := by decide +kernel
  have hacts : course.acts =
      [.listened 0, .wrote (readRequest 0x2468800203400004 0).layout] := by decide +kernel
  have hgoing : course.result?.isNone = true := by decide +kernel
  have hmissed : course.inReach = false := by decide +kernel
  -- From here on it does not matter how the course came to lag behind.
  obtain ⟨stop, hattends, hattentive⟩ := Course.attends_start
    ([.step, .step, .meanwhile (.arrives (.uplinkNotification report))] ++
      List.replicate 256 (.meanwhile (.arrives (.uplinkNotification other))))
    (Dialogue.command "illuminance" binding setParameter "2468800203400004" overrides)
    Exchange.upWorld
  change Attends course.world.link.inbox.packets 0 _ course.acts stop course.task.dialogue
    at hattends
  change course.Attentive stop at hattentive
  clear_value course
  rw [command_setParameter rfl rfl] at hattends
  have hwaiting := awaitsReport_of_attends hattends hattentive hacts
    (Option.isNone_iff_eq_none.mp hgoing)
  obtain ⟨⟨count, hcount⟩, hframes⟩ := written_of_missed hwaiting hacts hmissed
  refine ⟨⟨Nat.le_refl 0, hfound, ⟨rfl, rfl⟩, fun _ _ _ hlt => absurd hlt (Nat.not_lt_zero _)⟩,
    ⟨by decide, { uplinkInterval := 60 }, rfl, rfl⟩, hup, count, hcount, _, hframes⟩

end Illuminance
end SensorLink
