import SensorLink.Proofs.Dialogue.InputErrors

/-!
# Settings for a command that takes none

Only the handler of a module knows how settings are changed, and only for some commands. A request
to a module with settings that it does not support is refused before anything is written. Transfers
of firmware and requests to the router do not look at the settings at all, and so

> **settings that are not supported are refused or ignored, and which of the two is a matter of the
> command's kind** (`settings_unsupported`).

To ignore them is to send what was asked for without them (`settings_reach_the_link`).
-/

namespace SensorLink

/-- The command that reads what a command of a module writes, if that takes settings. -/
def ModuleBinding.settingsSource? (binding : ModuleBinding) (name : String) : Option String :=
  binding.handler?.bind (·.settingsSource name)

namespace Dialogue

variable {binding : ModuleBinding} {name device : String} {entry : CommandEntry}
  {overrides : Overrides} {updates : Json}

theorem changedSettings_unsupported (h : binding.settingsSource? name = none) (id : DeviceId)
    (updates : Json) (limit : Option Duration) :
    changedSettings binding name id updates limit = fail (settingsUnsupported name) := by
  unfold ModuleBinding.settingsSource? at h
  unfold changedSettings
  cases hhandler : binding.handler? with
  | none => rfl
  | some handler =>
    rw [hhandler, Option.bind_some] at h
    simp only [h]

theorem runEntry_settings_ignored (hkind : entry.kind ≠ .downlink) (settings : Option Json) :
    runEntry binding name entry device { overrides with settings } =
      runEntry binding name entry device overrides := by
  unfold runEntry
  cases hentry : entry.kind with
  | router => rfl
  | sensorUpdate => rfl
  | downlink => exact absurd hentry hkind

theorem runEntry_settings_refused {id : DeviceId} (hkind : entry.kind = .downlink)
    (hid : DeviceId.parse device = .ok id) (hsettings : overrides.settings = some updates)
    (hnone : binding.settingsSource? name = none) :
    runEntry binding name entry device overrides = .done (.error (settingsUnsupported name)) := by
  rw [runEntry_change hkind hid hsettings, changedSettings_unsupported hnone, fail_bind]

/-- **Settings that are not supported are refused or ignored.** -/
theorem settings_unsupported (moduleName : String)
    (hlisted : binding.table.command? name = some entry)
    (hnone : binding.settingsSource? name = none) (hsettings : overrides.settings = some updates)
    (world : World) (schedule : List Move) :
    let course := (Course.start (command moduleName binding name device overrides) world).follow
      schedule
    (entry.kind = .downlink → course.Untouched world schedule ∧
      ∃ e, course.result? = some (.error e) ∧
        ∀ id, DeviceId.parse device = .ok id → e = settingsUnsupported name) ∧
    (entry.kind ≠ .downlink →
      course = (Course.start
        (command moduleName binding name device { overrides with settings := none }) world).follow
          schedule) := by
  have hrun (overrides : Overrides) : command moduleName binding name device overrides =
      runEntry binding name entry device overrides := by
    rw [command, hlisted]
  refine ⟨fun hkind => ?_, fun hkind => ?_⟩
  · cases hid : DeviceId.parse device with
    | ok id =>
      obtain ⟨hresult, huntouched⟩ := untouched_of_eq_done
        ((hrun overrides).trans (runEntry_settings_refused hkind hid hsettings hnone)) (by trivial)
        world schedule
      exact ⟨huntouched, _, hresult, fun _ _ => rfl⟩
    | error e =>
      -- The address is read before the settings are looked for, so a bad one is what is reported.
      have hrouter : entry.kind ≠ .router := by
        rw [hkind]
        intro h
        cases h
      obtain ⟨hresult, huntouched⟩ := untouched_of_eq_done
        ((hrun overrides).trans (runEntry_misaddressed hrouter hid)) (by trivial) world schedule
      refine ⟨huntouched, _, hresult, fun id h => ?_⟩
      cases h
  · have hsame : command moduleName binding name device { overrides with settings := none } =
        command moduleName binding name device overrides := by
      rw [hrun, hrun, runEntry_settings_ignored hkind]
    rw [hsame]

/-- A module cannot be restarted with settings. -/
theorem settings_unsupported_restart :
    let illuminance := (ModuleRegistry.builtin.resolve "illuminance").1
    let overrides : Overrides := { settings := some (.object []) }
    let schedule : List Move := [.step, .step]
    let course := (Course.start
      (command "illuminance" illuminance "device_restart" "2468800203400004" overrides)
      Exchange.upWorld).follow schedule
    illuminance.settingsSource? "device_restart" = none ∧
      overrides.settings = some (.object []) ∧ course.Untouched Exchange.upWorld schedule ∧
      course.result? = some (.error (settingsUnsupported "device_restart")) := by
  intro illuminance overrides schedule course
  have hnone : illuminance.settingsSource? "device_restart" = none := rfl
  have hsettings : overrides.settings = some (.object []) := rfl
  obtain ⟨huntouched, e, hresult, he⟩ := (settings_unsupported "illuminance" rfl hnone hsettings
    Exchange.upWorld schedule).1 rfl
  exact ⟨hnone, hsettings, huntouched, hresult.trans (by rw [he _ rfl])⟩

/-- A router is told to stop, and a module is sent the first block of an image, although settings
came with both. -/
theorem settings_reach_the_link :
    let overrides : Overrides := { settings := some (.object []), firmware := some [0xA5] }
    let router := (ModuleRegistry.builtin.resolve "router").1
    let illuminance := (ModuleRegistry.builtin.resolve "illuminance").1
    let stop := (Course.start (command "router" router "router_stop" "" overrides)
      Exchange.upWorld).follow [.step, .step]
    let update := (Course.start (command "illuminance" illuminance "sensor_dfu" "2468800203400004"
      overrides) Exchange.upWorld).follow [.step, .step]
    (∃ entry, router.table.command? "router_stop" = some entry) ∧
      router.settingsSource? "router_stop" = none ∧ stop.frames ≠ [] ∧
    (∃ entry, illuminance.table.command? "sensor_dfu" = some entry) ∧
      illuminance.settingsSource? "sensor_dfu" = none ∧ update.frames ≠ [] := by
  intro overrides router illuminance stop update
  exact ⟨⟨_, rfl⟩, rfl, by decide, ⟨_, rfl⟩, rfl, by decide +kernel⟩

end Dialogue
end SensorLink
