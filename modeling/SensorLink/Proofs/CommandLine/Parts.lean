import SensorLink.CommandLine.Invocation
import SensorLink.Error.Basic
import Mathlib.Data.List.Basic

/-!
# What a command line that is read has

A command line is read argument by argument, and what has been read so far is kept in a level. The
reader never leaves the grammar of its level, nor the name under which it was entered
(`Continues`); and a level that ends has all that its grammar asks for. So

> **each part of a command line that is read is complete for its level, and each level is one that
> the level above it knows** (`fits_of_read`).

For a task of a module that says that its payload and its settings are not both given. The other way
round, a task that is written out with its payload in one argument is read as it is, whatever the
payload may be (`parse_task`).
-/

namespace SensorLink
namespace CommandLine

/-! ## Levels -/

namespace Level

variable {level after : Level} {arguments : List String} {argument : String}

/-- The level is the same, with more read. -/
structure Continues (level after : Level) : Prop where
  grammar : after.grammar = level.grammar
  command : after.part.command = level.part.command

theorem Continues.refl (level : Level) : Continues level level := ⟨rfl, rfl⟩

theorem Continues.trans {later : Level} (h : Continues level after) (h' : Continues after later) :
    Continues level later :=
  ⟨h'.grammar.trans h.grammar, h'.command.trans h.command⟩

/-- The option that was read last puts its value into the part of its level, or the line is refused.
-/
theorem continues_settle (h : level.settle = .ok after) : Continues level after := by
  unfold settle at h
  split at h
  · cases h
    exact .refl level
  · cases h
  · split at h
    · cases h
    · split at h
      · cases h
      · cases h
        exact ⟨rfl, rfl⟩

/-- What an option adds, it adds to the part of its own level. -/
theorem continues_takeOption {rule : OptionRule} {attached : Option String}
    (h : level.takeOption rule attached = .ok after) : Continues level after := by
  unfold takeOption at h
  split at h
  · obtain ⟨settled, -, h⟩ := bind_eq_ok_iff.mp h
    cases h
  · obtain ⟨settled, hsettle, h⟩ := bind_eq_ok_iff.mp h
    cases h
    exact (continues_settle hsettle).trans ⟨rfl, rfl⟩
  · obtain ⟨settled, hsettle, h⟩ := bind_eq_ok_iff.mp h
    cases h
    exact (continues_settle hsettle).trans ⟨rfl, rfl⟩
  · obtain ⟨settled, hsettle, h⟩ := bind_eq_ok_iff.mp h
    have hlooked := continues_settle h
    exact (continues_settle hsettle).trans ⟨hlooked.grammar, hlooked.command⟩
  · cases h

theorem continues_takeLetters {cs : List Char} (h : level.takeLetters cs = .ok after) :
    Continues level after := by
  induction cs generalizing level with
  | nil =>
    cases h
    exact .refl _
  | cons c cs ih =>
    unfold takeLetters at h
    split at h
    · cases h
    · split at h
      · exact continues_takeOption h
      · obtain ⟨next, htake, h⟩ := bind_eq_ok_iff.mp h
        exact (continues_takeOption htake).trans (ih h)

theorem continues_takeWord (h : level.takeWord argument = .ok after) : Continues level after := by
  obtain ⟨settled, hsettle, h⟩ := bind_eq_ok_iff.mp h
  split at h
  · cases h
    exact (continues_settle hsettle).trans ⟨rfl, rfl⟩
  · cases h

/-- Whatever kind of argument it is, it is read at the level at which it stands. -/
theorem continues_take (h : level.take argument = .ok after) : Continues level after := by
  unfold take at h
  split at h
  · exact continues_takeWord h
  · split at h
    · cases h
      exact ⟨rfl, rfl⟩
    · split at h
      · cases h
      · exact continues_takeOption h
    · exact continues_takeLetters h
    · split at h
      · cases h
        exact ⟨rfl, rfl⟩
      · exact continues_takeWord h

/-- A level ends only with everything that its grammar asks for. -/
theorem complete_of_finish {part : Part} (h : level.finish = .ok part) :
    part.command = level.part.command ∧ isComplete level.grammar part = true := by
  obtain ⟨settled, hsettle, h⟩ := bind_eq_ok_iff.mp h
  have hsettled := continues_settle hsettle
  split at h
  · rename_i hcomplete
    cases h
    exact ⟨hsettled.command, hsettled.grammar ▸ hcomplete⟩
  · cases h

/-- The levels below are entered under the names that the grammar has for them. -/
theorem command?_of_place {below : Grammar} (h : level.place argument = .command below) :
    level.grammar.command? argument = some below := by
  unfold place at h
  split at h
  · cases h
  · split at h
    · rename_i found hfound
      split at h
      · cases h
      · cases h
        exact hfound
    · split at h
      · cases h
      · split at h <;> cases h

theorem takesOthers_of_place (h : level.place argument = .other) :
    level.grammar.takesOthers = true := by
  unfold place at h
  split at h
  · cases h
  · split at h
    · split at h <;> cases h
    · split at h
      · cases h
      · split at h
        · assumption
        · cases h

/-- The parts of a level that was entered under a name, and of those below it. -/
inductive Fits : Grammar → String → List Part → Prop
  | last {g : Grammar} {name : String} {part : Part} (hname : part.command = name)
      (hcomplete : isComplete g part = true) : Fits g name [part]
  | known {g below : Grammar} {name next : String} {part : Part} {parts : List Part}
      (hname : part.command = name) (hcomplete : isComplete g part = true)
      (hbelow : g.command? next = some below) (hparts : Fits below next parts) :
    Fits g name (part :: parts)
  | other {g : Grammar} {name : String} {part other : Part} (hname : part.command = name)
      (hcomplete : isComplete g part = true) (hothers : g.takesOthers = true) :
    Fits g name [part, other]

/-- **Each part of a command line is complete for a level of the grammar.** -/
theorem fits_of_read {parts : List Part} (h : level.read arguments = .ok parts) :
    Fits level.grammar level.part.command parts := by
  -- The level changes with each argument that is taken and again where a level below is entered.
  induction arguments generalizing level parts with
  | nil =>
    unfold read at h
    obtain ⟨part, hfinish, h⟩ := bind_eq_ok_iff.mp h
    obtain ⟨hname, hcomplete⟩ := complete_of_finish hfinish
    split at h
    · cases h
    · cases h
      exact .last hname hcomplete
  | cons argument rest ih =>
    unfold read at h
    split at h
    -- An option or a word: the same level goes on with one thing more.
    · obtain ⟨next, htake, h⟩ := bind_eq_ok_iff.mp h
      have hnext := continues_take htake
      rw [← hnext.grammar, ← hnext.command]
      exact ih h
    · rename_i below hplace
      -- A command of the grammar ends this level, and the rest is read at its own.
      obtain ⟨parts, hbelow, h⟩ := bind_eq_ok_iff.mp h
      obtain ⟨part, hfinish, h⟩ := bind_eq_ok_iff.mp h
      obtain ⟨hname, hcomplete⟩ := complete_of_finish hfinish
      cases h
      exact .known hname hcomplete (command?_of_place hplace) (ih hbelow)
    · cases h
    · rename_i hplace
      -- A level that takes other commands hands everything over from here on.
      obtain ⟨part, hfinish, h⟩ := bind_eq_ok_iff.mp h
      obtain ⟨hname, hcomplete⟩ := complete_of_finish hfinish
      cases h
      exact .other hname hcomplete (takesOthers_of_place hplace)

end Level

/-! ## Tasks of a module -/

theorem Part.has_of_text? {part : Part} {name text : String} (h : part.text? name = some text) :
    part.has name = true := by
  unfold text? at h
  unfold has
  split at h
  · rename_i hfound
    rw [hfound]
    exact Bool.or_true _
  · cases h

/-- A task of a module is a single part, so what holds of complete parts holds of its payload and
its settings. -/
theorem exists_part_of_job {parts : List Part} {task : ModuleTask}
    (h : Job.ofParts? parts = some (.ofModule task)) :
    ∃ part, parts = [part] ∧ part.command = "module" ∧ task.data = part.text? "data" ∧
      task.settings = part.text? "settings" := by
  unfold Job.ofParts? at h
  split at h
  · rename_i part
    split at h
    · cases h
    · cases h
    · rename_i hname _
      obtain ⟨device, -, htask⟩ := Option.map_eq_some_iff.mp h
      cases htask
      exact ⟨part, rfl, hname, rfl, rfl⟩
    · cases h
  · obtain ⟨task, -, htask⟩ := Option.map_eq_some_iff.mp h
    cases htask
  · cases h

/-- A task of a module stands in a part that is complete for a module. -/
theorem exists_part_of_parse {arguments : List String} {invocation : Invocation} {task : ModuleTask}
    (h : Invocation.parse arguments = .ok invocation) (hjob : invocation.job = .ofModule task) :
    ∃ part : Part, Level.isComplete moduleGrammar part = true ∧ task.data = part.text? "data" ∧
      task.settings = part.text? "settings" := by
  obtain ⟨parts, hread, h⟩ := bind_eq_ok_iff.mp h
  have hfits : Level.Fits grammar "" parts := Level.fits_of_read hread
  split at h
  · rename_i hparts
    cases h
    cases hfits with
    | last => cases hparts
    | other _ _ hothers => cases hothers
    | @known _ below _ next top parts _ _ hbelow hlower =>
      obtain ⟨job, hofParts, rfl⟩ := Option.map_eq_some_iff.mp hparts
      subst hjob
      obtain ⟨part, rfl, hname, hdata, hsettings⟩ := exists_part_of_job hofParts
      cases hlower with
      | last hnext hcomplete =>
        rw [← hnext, hname] at hbelow
        cases hbelow
        exact ⟨part, hcomplete, hdata, hsettings⟩
      | known _ _ _ hparts => cases hparts
  · cases h

/-- A command line does not give a payload and settings at once. -/
theorem settings_of_data {arguments : List String} {invocation : Invocation} {task : ModuleTask}
    (h : Invocation.parse arguments = .ok invocation) (hjob : invocation.job = .ofModule task)
    {text : String} (hdata : task.data = some text) : task.settings = none := by
  obtain ⟨part, hcomplete, hdata', hsettings⟩ := exists_part_of_parse h hjob
  rw [hsettings]
  cases hother : part.text? "settings" with
  | none => rfl
  | some other =>
    have hboth : part.has "data" = true ∧ part.has "settings" = true :=
      ⟨Part.has_of_text? (hdata' ▸ hdata), Part.has_of_text? hother⟩
    simp [Level.isComplete, moduleGrammar, levelWith, hboth] at hcomplete

/-! ## Writing a task out -/

/-- A name ends at its first equals sign, and a value may have more of them. -/
theorem splitAttached_eq {name : List Char} (hname : ∀ c ∈ name, c ≠ '=') (value : List Char) :
    splitAttached (name ++ '=' :: value) = (String.ofList name, some (String.ofList value)) := by
  have hall : ∀ c ∈ name, decide (c ≠ '=') = true := fun c hc => decide_eq_true (hname c hc)
  unfold splitAttached
  rw [List.takeWhile_append_of_pos hall, List.dropWhile_append_of_pos hall]
  simp

theorem ofText_attached {text value : String} {name : List Char} (hname : ∀ c ∈ name, c ≠ '=')
    (hne : name ≠ []) (htext : text.toList = '-' :: '-' :: (name ++ '=' :: value.toList)) :
    Argument.ofText text = .long (String.ofList name) (some value) := by
  obtain ⟨c, rest, rfl⟩ := List.exists_cons_of_ne_nil hne
  have hsplit := splitAttached_eq hname value.toList
  rw [String.ofList_toList] at hsplit
  rw [Argument.ofText, htext]
  show Argument.long (splitAttached (c :: rest ++ '=' :: value.toList)).1
    (splitAttached (c :: rest ++ '=' :: value.toList)).2 = _
  rw [hsplit]

namespace Level

variable {g : Grammar} {part : Part} {argument : String}

/-- A level at which nothing waits to be looked at. -/
abbrev clear (g : Grammar) (part : Part) : Level := ⟨g, part, none, false⟩

section Arguments

-- A level without others below it, where each argument belongs to the level.
variable (hcommands : g.commands = []) (hothers : g.takesOthers = false) (rest : List String)
include hcommands hothers

theorem read_argument :
    (clear g part).read (argument :: rest) =
      (clear g part).take argument >>= fun level => level.read rest := by
  have hplace : (clear g part).place argument = .argument := by
    simp [place, Grammar.command?, Grammar.hasCommands, hcommands, hothers]
  rw [read, hplace]

theorem read_word (hword : Argument.ofText argument = .word)
    (hroom : part.words.length < g.words) :
    (clear g part).read (argument :: rest) =
      (clear g { part with words := part.words ++ [argument] }).read rest := by
  have hword' : (clear g part).takeWord argument =
      .ok (clear g { part with words := part.words ++ [argument] }) := if_pos hroom
  have htake : (clear g part).take argument =
      .ok (clear g { part with words := part.words ++ [argument] }) := by
    rw [take, if_neg Bool.false_ne_true, hword]
    exact hword'
  rw [read_argument hcommands hothers, htake]
  rfl

/-- An option with its value attached is read in one go, so nothing that the value says is taken for
an option. -/
theorem read_text {name value : String} {rule : OptionRule}
    (hlong : Argument.ofText argument = .long name (some value))
    (hrule : g.option? name = some rule) (hrole : rule.role = .value .text)
    (hfresh : part.has rule.name = false) :
    (clear g part).read (argument :: rest) =
      (clear g { part with values := part.values ++ [(rule.name, .text value)] }).read rest := by
  have hnew : ¬ part.has rule.name = true := by
    rw [hfresh]
    exact Bool.false_ne_true
  have hlook : settle ⟨g, part, some ⟨rule.name, .text, some value⟩, false⟩ =
      .ok (clear g { part with values := part.values ++ [(rule.name, .text value)] }) :=
    if_neg hnew
  have htake : (clear g part).take argument =
      .ok (clear g { part with values := part.values ++ [(rule.name, .text value)] }) := by
    rw [take, if_neg Bool.false_ne_true, hlong]
    simp only [hrule, takeOption, hrole]
    exact hlook
  rw [read_argument hcommands hothers, htake]
  rfl

end Arguments

end Level

/-- **A task that is written out is read as it is**, whatever its payload is given as. -/
theorem parse_task {name command device text : String} (hname : Argument.ofText name = .word)
    (hcommand : Argument.ofText command = .word) :
    Invocation.parse ["module", name, command, "--device=" ++ device, "--data=" ++ text] =
      .ok ⟨defaultPort, defaultBaud, .ofModule
        { name, command, device, data := some text, settings := none, firmware := none
          timeout := none }⟩ := by
  have hdevice : Argument.ofText ("--device=" ++ device) = .long "device" (some device) :=
    @ofText_attached _ device "device".toList (by simp) (by simp) (by simp)
  have hdata : Argument.ofText ("--data=" ++ text) = .long "data" (some text) :=
    @ofText_attached _ text "data".toList (by simp) (by simp) (by simp)
  have hread : grammar.read ["module", name, command, "--device=" ++ device, "--data=" ++ text] =
      .ok [{}, { command := "module", words := [name, command]
                 values := [("device", .text device), ("data", .text text)] }] := by
    have hmodule : (Level.clear moduleGrammar { command := "module" }).read
        [name, command, "--device=" ++ device, "--data=" ++ text] =
        .ok [{ command := "module", words := [name, command]
               values := [("device", .text device), ("data", .text text)] }] := by
      have hcommands : moduleGrammar.commands = [] := rfl
      have hothers : moduleGrammar.takesOthers = false := rfl
      rw [Level.read_word hcommands hothers _ hname (by exact Nat.two_pos),
        Level.read_word hcommands hothers _ hcommand (by exact Nat.one_lt_two),
        Level.read_text hcommands hothers _ hdevice rfl rfl rfl,
        Level.read_text hcommands hothers _ hdata rfl rfl rfl]
      rfl
    have hplace : (Level.clear grammar {}).place "module" = .command moduleGrammar := rfl
    rw [Grammar.read]
    show (Level.clear _ _).read _ = _
    rw [Level.read, hplace]
    simp only
    rw [hmodule]
    rfl
  rw [Invocation.parse, hread]
  rfl

end CommandLine
end SensorLink
