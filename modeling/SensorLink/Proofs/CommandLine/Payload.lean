import SensorLink.Proofs.CommandLine.Parts
import SensorLink.Proofs.CommandTable.Payload
import SensorLink.Proofs.Dialogue.Question
import SensorLink.Proofs.Dialogue.SettingsRead
import SensorLink.Proofs.Json.Printed
import SensorLink.Rehearsal.Session

/-!
# One payload by two ways

The payload of a command is written into its table or given on the command line, and it is the same
text in both places. It takes two ways from there. That of the table ends in an entry, long before
anybody runs the command; that of the command line ends in what the caller sets in place of the
entry. They meet in the request:

> **a text that renders a payload is sent as that payload, by whichever way it came; any other is
> refused by the table when it is read, and by the program before it writes anything**
> (`payload_by_both_ways`).

That is said of requests to a module. A request to the router has no place for a payload, and the
payload of an entry that updates a module's firmware is not its image, so there it comes to nothing
(`payload_without_place`).
-/

namespace SensorLink

open Json (Document Written)
open CommandTable (Site)

namespace Dialogue

variable {α : Type}

/-! ## Writing one request -/

/-- Whatever happens, the dialogue writes the request if the link is up and takes it, and nothing
else at all. -/
def Writes (d : Dialogue α) (request : UInt32 → Packet) : Prop :=
  ∀ (world : World) (gap : List Happening) (later : List Move),
    let asking := (Course.start d world).step.follow (gap.map Move.meanwhile)
    ∃ frame, (request asking.world.unixTime).encode = .ok frame ∧
      (asking.follow (.step :: later)).frames =
        if world.link.isConnected = true ∧ (asking.world.write frame).1 = true then [frame] else []

theorem writes_question {request : UInt32 → Packet} {next : Dialogue α}
    (hencode : ∀ unixTime, ∃ frame, (request unixTime).encode = .ok frame)
    (hsilent : ∀ acts left, Does next acts left → framesOf acts = []) :
    Writes (.subscribe (.send request next)) request := by
  intro world gap later asking
  obtain ⟨frame, hframe⟩ := hencode asking.world.unixTime
  have hstart : (Course.start (.subscribe (.send request next)) world).task.dialogue =
      .subscribe (.send request next) := rfl
  exact ⟨frame, hframe, Course.frames_question hsilent hstart gap later hframe⟩

variable {binding : ModuleBinding} {name device : String} {entry : CommandEntry}
  {overrides : Overrides} {id : DeviceId} {bytes : Bytes}

/-- A payload that fits can be sent, whatever it is sent with. -/
theorem encode_requestFor (entry : CommandEntry) (id : DeviceId) (sensor : UInt16)
    (h : bytes.length ≤ 1024) (unixTime : UInt32) :
    ∃ frame, (requestFor entry id sensor bytes unixTime).encode = .ok frame := by
  refine ⟨_, Packet.encode_eq_ok_iff.mpr ⟨?_, rfl⟩⟩
  rintro ⟨-, hover⟩
  exact absurd h (Nat.not_le.mpr hover)

/-- A command whose payload is known is the request with it, and a wait for what answers it. -/
theorem command_of_payload (moduleName : String)
    (hlisted : binding.table.command? name = some entry) (hkind : entry.kind = .downlink)
    (hid : DeviceId.parse device = .ok id) (hsettings : overrides.settings = none)
    (hpayload : (overrides.payload <|> entry.data) = some bytes) :
    command moduleName binding name device overrides =
      .subscribe (.send (requestFor entry id (overrides.sensor.getD entry.sensor) bytes)
        (answerTo binding name entry id (overrides.timeout.getD entry.timeout))) := by
  have hgiven : payloadFor name entry overrides.payload = .ok bytes := by
    rw [payloadFor, hpayload]
  rw [command, hlisted]
  simp only [runEntry, hkind, hid, hsettings, hgiven, ofExcept_ok_bind, askModule_eq]

/-- What is known of the entry and the device is enough to know the request; the router has no part
in it. -/
theorem writes_command (moduleName : String)
    (hlisted : binding.table.command? name = some entry) (hkind : entry.kind = .downlink)
    (hid : DeviceId.parse device = .ok id) (hsettings : overrides.settings = none)
    (hpayload : (overrides.payload <|> entry.data) = some bytes) (hfits : bytes.length ≤ 1024) :
    Writes (command moduleName binding name device overrides)
      (requestFor entry id (overrides.sensor.getD entry.sensor) bytes) := by
  rw [command_of_payload moduleName hlisted hkind hid hsettings hpayload]
  exact writes_question (encode_requestFor entry id _ hfits) fun _ _ h => frames_answerTo h

end Dialogue

namespace CommandLine

open Dialogue (Writes requestFor answerTo)

/-! ## The way of the command line -/

theorem frames_answerTo_printed {binding : ModuleBinding} {name : String} {entry : CommandEntry}
    {id : DeviceId} {timeout : Duration} {acts : List Act} {left : Dialogue String}
    (h : Dialogue.Does (answerTo binding name entry id timeout >>= fun outcome =>
      pure (printed outcome.report)) acts left) : framesOf acts = [] := by
  unfold answerTo at h
  split at h
  · exact Dialogue.frames_await h
  · split at h
    · exact Dialogue.frames_await h
    · rw [h.of_done.1]
      rfl

variable {registry : ModuleRegistry} {files : Files} {task : ModuleTask} {text : String}
  {bytes : Bytes} {entry : CommandEntry} {id : DeviceId}

theorem writes_commandDialogue {overrides : Overrides}
    (hlisted : (registry.resolve task.name).1.table.command? task.command = some entry)
    (hkind : entry.kind = .downlink) (hid : DeviceId.parse task.device = .ok id)
    (hsettings : overrides.settings = none) (hpayload : overrides.payload = some bytes)
    (hfits : bytes.length ≤ 1024) :
    Writes (commandDialogue registry task.name task.command task.device overrides)
      (requestFor entry id (overrides.sensor.getD entry.sensor) bytes) := by
  have hgiven : (overrides.payload <|> entry.data) = some bytes := by
    rw [hpayload]
    rfl
  rw [commandDialogue, Dialogue.command_of_payload _ hlisted hkind hid hsettings hgiven]
  exact Dialogue.writes_question (Dialogue.encode_requestFor entry id _ hfits)
    fun _ _ h => frames_answerTo_printed h

/-- Whatever else the task is given can be read. -/
structure ModuleTask.Provided (task : ModuleTask) (files : Files) : Prop where
  firmware : ∀ file ∈ task.firmware, ∃ image, files file = .ok image
  timeout : ∀ seconds ∈ task.timeout, ∃ span, Duration.ofSeconds seconds = .ok span

theorem exists_optional {α β : Type} {read : α → Except Failure β} {given : Option α}
    (h : ∀ a ∈ given, ∃ b, read a = .ok b) : ∃ found, optional read given = .ok found := by
  cases given with
  | none => exact ⟨none, rfl⟩
  | some a =>
    obtain ⟨b, hb⟩ := h a rfl
    exact ⟨some b, by rw [optional, hb]; rfl⟩

theorem overrides_of_renders (hdata : task.data = some text) (hsettings : task.settings = none)
    (hprovided : task.Provided files) (hrenders : Text.Renders text bytes) :
    ∃ overrides, task.overrides files = .ok overrides ∧ overrides.payload = some bytes ∧
      overrides.settings = none ∧ overrides.sensor = none := by
  obtain ⟨firmware, hfirmware⟩ : ∃ firmware,
      optional (readFirmware files) task.firmware = .ok firmware := by
    apply exists_optional
    intro file hfile
    obtain ⟨image, himage⟩ := hprovided.firmware file hfile
    exact ⟨image, by rw [readFirmware, himage]; rfl⟩
  obtain ⟨timeout, htimeout⟩ : ∃ timeout, optional readTimeout task.timeout = .ok timeout := by
    apply exists_optional
    intro seconds hseconds
    obtain ⟨span, hspan⟩ := hprovided.timeout seconds hseconds
    exact ⟨span, by rw [readTimeout, hspan]; rfl⟩
  have hpayload := CommandTable.payloadOfText_eq_ok_iff.mpr hrenders
  refine ⟨{ payload := some bytes, firmware, timeout }, ?_, rfl, rfl, rfl⟩
  rw [ModuleTask.overrides, hdata, hsettings, hfirmware, htimeout]
  simp only [optional, hpayload]
  rfl

/-- A text that is no payload is found out before anything else is looked at, and no file can make
up for it. -/
theorem overrides_of_not_renders (hdata : task.data = some text)
    (hnone : ∀ bytes, ¬ Text.Renders text bytes) :
    ∃ fault, ∀ files, task.overrides files = .error (.badData fault) := by
  obtain ⟨fault, hfault⟩ := CommandTable.payloadOfText_of_not_renders hnone
  refine ⟨fault, fun files => ?_⟩
  rw [ModuleTask.overrides, hdata]
  simp only [optional, hfault]
  rfl

/-! ## Both ways -/

/-- A table that is otherwise sound has the text for the payload of an entry. -/
structure InTable (text : String) (site : Site) (sound : CommandTable) (doc : String) : Prop where
  isOf : site.IsOf "data"
  sound : ∃ w other, Written (site.fill "data" w) other ∧ CommandTable.parse other = .ok sound
  written : Written (site.fill "data" (.string text)) doc

/-- A command line gives the text as the payload of a task. -/
structure OnCommandLine (text : String) (arguments : List String) (invocation : Invocation)
    (task : ModuleTask) : Prop where
  parsed : Invocation.parse arguments = .ok invocation
  job : invocation.job = .ofModule task
  data : task.data = some text

/-- The table is read, and its command sends the payload if the caller sets nothing in its place. -/
def SentFromTable (text : String) (bytes : Bytes) : Prop :=
  ∀ site sound doc, InTable text site sound doc → ∃ table entry,
    CommandTable.parse doc = .ok table ∧ sound.command? site.name = some entry ∧
    table.command? site.name = some { entry with data := some bytes } ∧
    (entry.kind = .downlink → ∀ moduleName (binding : ModuleBinding) device id
        (overrides : Overrides), binding.table = table → DeviceId.parse device = .ok id →
      overrides.payload = none → overrides.settings = none →
      Writes (Dialogue.command moduleName binding site.name device overrides)
        (requestFor entry id (overrides.sensor.getD entry.sensor) bytes))

/-- The command is found wherever it is listed, and sends the payload. -/
def SentFromCommandLine (text : String) (bytes : Bytes) : Prop :=
  ∀ arguments invocation task, OnCommandLine text arguments invocation task →
    ∀ files (registry : ModuleRegistry) entry id, task.Provided files →
    (registry.resolve task.name).1.table.command? task.command = some entry →
    entry.kind = .downlink → DeviceId.parse task.device = .ok id →
    ∃ d, invocation.plan files registry = .ok (.converse d) ∧
      Writes d (requestFor entry id entry.sensor bytes)

def RefusedByTable (text : String) : Prop :=
  ∀ site sound doc, InTable text site sound doc →
    ∃ fault, CommandTable.parse doc = .error (.invalidParameter (.entryData site.name fault))

/-- The program fails before it has done anything to the world. -/
def RefusedByCommandLine (text : String) : Prop :=
  ∀ arguments invocation task, OnCommandLine text arguments invocation task →
    ∃ fault, ∀ files registry limit traffic world,
      invocation.rehearse files registry limit traffic world =
        (.failure "" (.badData fault), world)

/-- In a table the text is read when the table is loaded, and it is the bytes that are kept. -/
theorem sentFromTable (hrenders : Text.Renders text bytes) (hfits : bytes.length ≤ 1024) :
    SentFromTable text bytes := by
  rintro site sound doc ⟨hsite, ⟨w, other, hother, hsound⟩, hwritten⟩
  obtain ⟨table, entry, hparse, hbefore, hentry⟩ :=
    CommandTable.parse_renders hsite hother hsound hwritten hrenders
  refine ⟨table, entry, hparse, hbefore, hentry, ?_⟩
  intro hkind moduleName binding device id overrides htable hid hpayload hsettings
  rw [← htable] at hentry
  have hgiven : (overrides.payload <|> some bytes) = some bytes := by
    rw [hpayload]
    rfl
  have hwrites := Dialogue.writes_command moduleName hentry hkind hid hsettings hgiven hfits
  exact hwrites

/-- On the command line the text is read for the one command. -/
theorem sentFromCommandLine (hrenders : Text.Renders text bytes) (hfits : bytes.length ≤ 1024) :
    SentFromCommandLine text bytes := by
  rintro arguments invocation task ⟨hparsed, hjob, hdata⟩ files registry entry id hprovided hlisted
    hkind hid
  have hsettings := settings_of_data hparsed hjob hdata
  obtain ⟨overrides, hoverrides, hpayload, hnone, hsensor⟩ :=
    overrides_of_renders hdata hsettings hprovided hrenders
  refine ⟨commandDialogue registry task.name task.command task.device overrides, ?_, ?_⟩
  · rw [Invocation.plan, hjob]
    simp only [ModuleTask.dialogue, hoverrides]
    rfl
  · have hwrites := writes_commandDialogue hlisted hkind hid hnone hpayload hfits
    rw [hsensor] at hwrites
    exact hwrites

theorem refusedByTable (hnone : ∀ bytes, ¬ Text.Renders text bytes) : RefusedByTable text := by
  rintro site sound doc ⟨hsite, ⟨w, other, hother, hsound⟩, hwritten⟩
  exact CommandTable.parse_not_renders hsite hother hsound hwritten hnone

theorem refusedByCommandLine (hnone : ∀ bytes, ¬ Text.Renders text bytes) :
    RefusedByCommandLine text := by
  rintro arguments invocation task ⟨-, hjob, hdata⟩
  obtain ⟨fault, hoverrides⟩ := overrides_of_not_renders hdata hnone
  refine ⟨fault, fun files registry limit traffic world => ?_⟩
  have hplan : invocation.plan files registry = .error (.badData fault) := by
    rw [Invocation.plan, hjob]
    simp only [ModuleTask.dialogue, hoverrides]
    rfl
  rw [Invocation.rehearse, hplan]

/-- **A text is the same payload in a table and on the command line**, and a text that is none is
refused in both places. Any text can be given on the command line. -/
theorem payload_by_both_ways (text : String) :
    (∀ bytes, Text.Renders text bytes → bytes.length ≤ 1024 →
      SentFromTable text bytes ∧ SentFromCommandLine text bytes) ∧
    ((∀ bytes, ¬ Text.Renders text bytes) → RefusedByTable text ∧ RefusedByCommandLine text) ∧
    ∀ name command device, Argument.ofText name = .word → Argument.ofText command = .word →
      ∃ invocation, OnCommandLine text
        ["module", name, command, "--device=" ++ device, "--data=" ++ text] invocation
        { name, command, device, data := some text, settings := none, firmware := none
          timeout := none } := by
  refine ⟨?_, ?_, ?_⟩
  · intro bytes hrenders hfits
    exact ⟨sentFromTable hrenders hfits, sentFromCommandLine hrenders hfits⟩
  · intro hnone
    exact ⟨refusedByTable hnone, refusedByCommandLine hnone⟩
  · intro name command device hname hcommand
    exact ⟨_, parse_task hname hcommand, rfl, rfl⟩

/-- A byte of two digits with a blank between them, in a table and on the command line. -/
theorem payload_by_both_ways_byte :
    let doc := "\x7b\"name\":\"x\",\"commands\":\x7b\"a\":\x7b\"cmd\":1,\"data\":\"a 5\"\x7d\x7d\x7d"
    let arguments := ["module", "illuminance", "set_parameter", "--device=1", "--data=a 5"]
    (∃ table entry, CommandTable.parse doc = .ok table ∧ table.command? "a" = some entry ∧
      entry.data = some [0xA5]) ∧
    ∃ invocation entry d, Invocation.parse arguments = .ok invocation ∧
      invocation.plan (fun _ => .error .noSuchFile) .builtin = .ok (.converse d) ∧
      Illuminance.table.command? "set_parameter" = some entry ∧
      Writes d (requestFor entry 1 entry.sensor [0xA5]) := by
  intro doc arguments
  obtain ⟨hsent, -, hgiven⟩ := payload_by_both_ways "a 5"
  obtain ⟨htable, hline⟩ := hsent [0xA5] (by decide) (by decide)
  constructor
  · let value (data : Json) : Json := .object [("name", .string "x"),
      ("commands", .object [("a", .object [("cmd", .number (.natural 1)), ("data", data)])])]
    let other := "\x7b\"name\":\"x\",\"commands\":\x7b\"a\":\x7b\"cmd\":1,\"data\":null\x7d\x7d\x7d"
    have hother : Written (value .null) other := Json.written_compact rfl
    have hwritten : Written (value (.string "a 5")) doc := Json.written_compact rfl
    have hsound := CommandTable.parse_of_read hother (by decide) rfl rfl rfl
    let site : Site := ⟨.member [("name", .string "x")] [], [], "a",
      .member [("cmd", .number (.natural 1))] [], []⟩
    have hsite : site.IsOf "data" := ⟨trivial, trivial, by simp [site]⟩
    obtain ⟨table, entry, hparse, -, hentry, -⟩ :=
      htable site _ doc ⟨hsite, ⟨.null, other, hother, hsound⟩, hwritten⟩
    exact ⟨table, _, hparse, hentry, rfl⟩
  · obtain ⟨invocation, htask⟩ := hgiven "illuminance" "set_parameter" "1" (by decide) (by decide)
    obtain ⟨d, hplan, hwrites⟩ := hline _ invocation _ htask (fun _ => .error .noSuchFile) .builtin
      { CommandEntry.plain 0x05 0 15 "Write the module parameter block" with
        requiresData := true, expectsResponse := true } 1 ⟨nofun, nofun⟩ rfl rfl rfl
    exact ⟨invocation, _, d, htask.parsed, hplan, rfl, hwrites⟩

/-- What is written in an entry of the router is not sent, and neither is what is written in one that
updates a module. -/
theorem payload_without_place :
    let entries := "\x7b\"a\":\x7b\"cmd\":2,\"kind\":\"jig_info\",\"data\":\"A5\"\x7d," ++
      "\"b\":\x7b\"cmd\":18,\"kind\":\"sensor_dfu\",\"data\":\"A5\"\x7d\x7d"
    let doc := "\x7b\"name\":\"x\",\"commands\":" ++ entries ++ "\x7d"
    ∃ table router update, CommandTable.parse doc = .ok table ∧
      (table.command? "a" = some router ∧ router.data = some [0xA5] ∧
        Writes (Dialogue.command "x" (.generic table) "a" "1" {})
          (fun unixTime => .jigInfoRequest (.stamped 2 unixTime))) ∧
      table.command? "b" = some update ∧ update.data = some [0xA5] ∧
        Dialogue.command "x" (.generic table) "b" "1" {} = .done (.error (.missingData "b")) := by
  intro entries doc
  let v : Json := .object [("name", .string "x"), ("commands", .object [
    ("a", .object [("cmd", .number (.natural 2)), ("kind", .string "jig_info"),
      ("data", .string "A5")]),
    ("b", .object [("cmd", .number (.natural 18)), ("kind", .string "sensor_dfu"),
      ("data", .string "A5")])])]
  have hwritten : Written v doc := Json.written_compact rfl
  let router : CommandTable.EntryDraft :=
    { command := some 2, kind := .router, data := some "A5" }
  let update : CommandTable.EntryDraft :=
    { command := some 18, kind := .sensorUpdate, data := some "A5" }
  let completed (draft : CommandTable.EntryDraft) : CommandEntry :=
    draft.completed 0 CommandTable.defaultTimeout (some [0xA5])
  have hrenders : Text.Renders "A5" [0xA5] := by decide
  have hcompleted (name : String) (draft : CommandTable.EntryDraft)
      (htimeout : draft.timeout = none) (hdata : draft.data = some "A5") :
      CommandTable.Completed 0 name draft (completed draft) := by
    refine CommandTable.completeEntry_eq_ok_iff.mpr ⟨_, some [0xA5], ?_, ?_, rfl⟩
    · rw [htimeout]
      rfl
    · rw [hdata]
      exact CommandTable.completeData_of_renders hrenders name
  have hcomplete :
      CommandTable.complete { name := some "x", entries := [("a", router), ("b", update)] } =
        .ok ⟨"x", 0, none, [("a", completed router), ("b", completed update)]⟩ := by
    have hrouter := hcompleted "a" router rfl rfl
    have hupdate := hcompleted "b" update rfl rfl
    refine CommandTable.complete_eq_ok_iff.mpr ⟨_, ?_, rfl⟩
    exact .cons ⟨rfl, hrouter⟩ (.cons ⟨rfl, hupdate⟩ .nil)
  have hparse := CommandTable.parse_of_read hwritten (by decide) rfl rfl hcomplete
  refine ⟨_, completed router, completed update, hparse, ⟨rfl, rfl, ?_⟩, rfl, rfl, rfl⟩
  refine Dialogue.writes_question (fun unixTime => ⟨_, Packet.encode_eq_ok_iff.mpr ⟨?_, rfl⟩⟩) ?_
  · rintro ⟨hlength, -⟩
    cases hlength
  · intro acts left hdoes
    rw [hdoes.of_done.1]
    rfl

end CommandLine
end SensorLink
