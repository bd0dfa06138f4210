import SensorLink.Module.Registry
import SensorLink.Proofs.Json.Members
import Mathlib.Data.List.TakeWhile

/-!
# What a name stands for, and from when on

A registry is built up while it is in use: handlers and tables are registered, names are looked up,
and the two come in any order. What a lookup answers is said here of the history of those calls, and
not of the maps that a registry keeps:

> **a name stands for what was registered under it before it was first looked up, and the names that
> are listed are those that anything was registered under** (`find_run`).

What is registered later is listed and changes nothing; the lookup of one name has no part in what
another stands for. One invariant ties the history to the maps (`Remembers`), and each kind of call
keeps it.
-/

namespace SensorLink
namespace ModuleRegistry

open Json (Ascending keys mem_keys_iff)

/-! ## Histories -/

inductive Call where
  | registerHandler (name : String) (handler : ModuleHandler)
  | registerTable (table : CommandTable)
  | find (name : String)

namespace Call

/-- The handler that a call gives to a name. -/
def handlerFor? (name : String) : Call → Option ModuleHandler
  | .registerHandler other handler => if other = name then some handler else none
  | _ => none

/-- The table that a call gives to a name. -/
def tableFor? (name : String) : Call → Option CommandTable
  | .registerTable table => if table.name = name then some table else none
  | _ => none

def finds (name : String) : Call → Bool
  | .find other => other = name
  | _ => false

/-- The name that a call registers something under. -/
def registers? : Call → Option String
  | .registerHandler name _ => some name
  | .registerTable table => some table.name
  | .find _ => none

/-- A name is registered with a handler or with a table, and either makes it a name of the registry.
-/
theorem registers?_eq_some_iff {c : Call} {name : String} :
    c.registers? = some name ↔ (c.handlerFor? name).isSome ∨ (c.tableFor? name).isSome := by
  cases c with
  | registerHandler other _ =>
    by_cases h : other = name <;> simp [registers?, handlerFor?, tableFor?, h]
  | registerTable table =>
    by_cases h : table.name = name <;> simp [registers?, handlerFor?, tableFor?, h]
  | find _ => simp [registers?, handlerFor?, tableFor?]

end Call

def call (r : ModuleRegistry) : Call → ModuleRegistry
  | .registerHandler name handler => r.registerHandler name handler
  | .registerTable table => r.registerTable table
  | .find name => (r.find name).2

def run (r : ModuleRegistry) (calls : List Call) : ModuleRegistry := calls.foldl call r

/-- The handler that a name was given last. -/
def lastHandler? (history : List Call) (name : String) : Option ModuleHandler :=
  history.reverse.findSome? (Call.handlerFor? name)

/-- The table that a name was given last. -/
def lastTable? (history : List Call) (name : String) : Option CommandTable :=
  history.reverse.findSome? (Call.tableFor? name)

/-- What the registrations of a history make of a name. -/
def dictated (history : List Call) (name : String) : ResolvedModule where
  name := name
  binding :=
    match lastHandler? history name, lastTable? history name with
    | some handler, some table => .specialised handler table
    | some handler, none => .specialised handler (.empty name)
    | none, some table => .generic table
    | none, none => .unknown (.empty name)

/-- The history up to where a name is first looked up; all of it where the name is not. -/
def beforeFirst (name : String) (history : List Call) : List Call :=
  history.takeWhile (!Call.finds name ·)

/-! ## One more call -/

variable {history : List Call} {name other : String}

/-- The latest registration counts. An earlier one counts as long as there is none. -/
theorem lastHandler?_concat (history : List Call) (c : Call) (name : String) :
    lastHandler? (history ++ [c]) name = (c.handlerFor? name).or (lastHandler? history name) := by
  rw [lastHandler?, List.reverse_concat, List.findSome?_cons]
  cases c.handlerFor? name <;> rfl

theorem lastTable?_concat (history : List Call) (c : Call) (name : String) :
    lastTable? (history ++ [c]) name = (c.tableFor? name).or (lastTable? history name) := by
  rw [lastTable?, List.reverse_concat, List.findSome?_cons]
  cases c.tableFor? name <;> rfl

/-- Tables are kept under their own names, so a name has no table of another module. -/
theorem name_of_lastTable? {table : CommandTable} (h : lastTable? history name = some table) :
    table.name = name := by
  obtain ⟨c, -, hc⟩ := List.exists_of_findSome?_eq_some h
  cases c with
  | registerTable other =>
    rw [Call.tableFor?] at hc
    split at hc
    next heq =>
      cases hc
      exact heq
    next => cases hc
  | registerHandler _ _ | find _ => cases hc

/-- With a table or without one, a module knows itself by the name it was asked for. -/
theorem table_dictated (history : List Call) (name : String) :
    (dictated history name).binding.table.name = name := by
  unfold dictated
  cases htable : lastTable? history name with
  | some table =>
    have hname := name_of_lastTable? htable
    cases lastHandler? history name <;> exact hname
  | none => cases lastHandler? history name <;> rfl

/-- Looking a name up registers nothing. -/
theorem dictated_concat_find (history : List Call) (name other : String) :
    dictated (history ++ [.find other]) name = dictated history name := by
  rw [dictated, lastHandler?_concat, lastTable?_concat]
  rfl

theorem beforeFirst_append (h : history.any (Call.finds name)) (more : List Call) :
    beforeFirst name (history ++ more) = beforeFirst name history := by
  rw [beforeFirst, List.takeWhile_append, if_neg]
  · rfl
  · intro hall
    obtain ⟨c, hc, hfinds⟩ := List.any_eq_true.mp h
    have hkept := List.takeWhile_eq_self_iff.mp
      ((List.takeWhile_prefix _).eq_of_length hall) c hc
    simp [hfinds] at hkept

theorem beforeFirst_of_not_any (h : ¬ history.any (Call.finds name)) :
    beforeFirst name history = history := by
  apply List.takeWhile_eq_self_iff.mpr
  intro c hc
  cases hfinds : Call.finds name c with
  | false => rfl
  | true => exact absurd (List.any_eq_true.mpr ⟨c, hc, hfinds⟩) h

/-- The first lookup of a name ends what counts for it. -/
theorem beforeFirst_find (history more : List Call) (name : String) :
    beforeFirst name (history ++ .find name :: more) = beforeFirst name history := by
  by_cases h : history.any (Call.finds name)
  · exact beforeFirst_append h _
  · have hall := beforeFirst_of_not_any h
    rw [hall]
    rw [beforeFirst] at hall ⊢
    rw [List.takeWhile_append, hall, if_pos rfl]
    simp [Call.finds]

/-- Looking a name up changes nothing about what counts for it or for another. -/
theorem dictated_beforeFirst_find (history : List Call) (name other : String) :
    dictated (beforeFirst name (history ++ [Call.find other])) name =
      dictated (beforeFirst name history) name := by
  by_cases hname : other = name
  · subst hname
    rw [beforeFirst_find]
  by_cases hfound : history.any (Call.finds name)
  · rw [beforeFirst_append hfound]
  · have hall : ¬ (history ++ [Call.find other]).any (Call.finds name) := by
      simp [List.any_append, hfound, Call.finds, hname]
    rw [beforeFirst_of_not_any hall, dictated_concat_find, beforeFirst_of_not_any hfound]

/-! ## What a registry keeps of its history -/

/-- What is found is kept under its name, and nothing under any other. -/
theorem member?_find (r : ModuleRegistry) (name other : String) :
    Json.member? name (r.find other).2.resolved =
      if other = name then some (r.find name).1 else Json.member? name r.resolved := by
  unfold ModuleRegistry.find
  split
  next found hfound =>
    split
    next heq =>
      subst heq
      rw [hfound]
    next => rfl
  next hnone =>
    split
    next heq =>
      subst heq
      rw [hnone]
      simp [Json.member?]
    next hne => simp [Json.member?, hne]

/-- A registry knows of its history the latest registrations, and of each name that was looked up
what it stood for when it was first looked up. -/
structure Remembers (history : List Call) (r : ModuleRegistry) : Prop where
  handlers : ∀ name, Json.member? name r.handlers = lastHandler? history name
  tables : ∀ name, Json.member? name r.tables = lastTable? history name
  resolved : ∀ name, Json.member? name r.resolved =
    if history.any (Call.finds name) then some (dictated (beforeFirst name history) name) else none

namespace Remembers

variable {r : ModuleRegistry}

theorem start : Remembers [] {} where
  handlers _ := rfl
  tables _ := rfl
  resolved _ := rfl

theorem lookUp (h : Remembers history r) (name : String) :
    r.lookUp name = (dictated history name).binding := by
  rw [ModuleRegistry.lookUp, h.handlers, h.tables, dictated]
  cases lastHandler? history name <;> cases lastTable? history name <;> rfl

/-- **A lookup answers by the registrations before the first one of that name**, whether this is the
first or not. -/
theorem find (h : Remembers history r) (name : String) :
    (r.find name).1 = dictated (beforeFirst name history) name := by
  rw [ModuleRegistry.find, h.resolved]
  by_cases hfound : history.any (Call.finds name)
  · rw [if_pos hfound]
  · rw [if_neg hfound, beforeFirst_of_not_any hfound]
    show (⟨name, r.lookUp name⟩ : ResolvedModule) = _
    rw [h.lookUp]
    rfl

theorem resolved_concat (h : Remembers history r) {c : Call} (hc : c.finds name = false) :
    Json.member? name r.resolved =
      if (history ++ [c]).any (Call.finds name) then
        some (dictated (beforeFirst name (history ++ [c])) name) else none := by
  rw [h.resolved]
  by_cases hfound : history.any (Call.finds name)
  · rw [beforeFirst_append hfound, List.any_append, hfound]
    rfl
  · simp [List.any_append, hfound, hc]

theorem call (h : Remembers history r) (c : Call) : Remembers (history ++ [c]) (r.call c) := by
  cases c with
  | registerHandler key handler =>
    refine ⟨fun name => ?_, fun name => ?_, fun name => h.resolved_concat rfl⟩
    · show Json.member? name (Json.insertMember key handler r.handlers) = _
      rw [Json.member?_insertMember, lastHandler?_concat, h.handlers, Call.handlerFor?]
      split <;> rfl
    · rw [lastTable?_concat]
      exact h.tables name
  | registerTable table =>
    refine ⟨fun name => ?_, fun name => ?_, fun name => h.resolved_concat rfl⟩
    · rw [lastHandler?_concat]
      exact h.handlers name
    · show Json.member? name (Json.insertMember table.name table r.tables) = _
      rw [Json.member?_insertMember, lastTable?_concat, h.tables, Call.tableFor?]
      split <;> rfl
  | find other =>
    -- A lookup touches neither of the two registers; it only keeps what it has found.
    have hsame : (r.find other).2.handlers = r.handlers ∧ (r.find other).2.tables = r.tables := by
      unfold ModuleRegistry.find
      split <;> exact ⟨rfl, rfl⟩
    refine ⟨fun name => ?_, fun name => ?_, fun name => ?_⟩
    · rw [lastHandler?_concat, ← h.handlers]
      exact congrArg (Json.member? name) hsame.1
    · rw [lastTable?_concat, ← h.tables]
      exact congrArg (Json.member? name) hsame.2
    · show Json.member? name (r.find other).2.resolved = _
      -- The name that is looked up is settled by this call, if it was not before. The others stay.
      rw [member?_find]
      split
      next heq =>
        subst heq
        rw [beforeFirst_find, h.find]
        simp [List.any_append, Call.finds]
      next hne => exact h.resolved_concat (by simp [Call.finds, hne])

theorem run (h : Remembers history r) (calls : List Call) :
    Remembers (history ++ calls) (r.run calls) := by
  induction calls generalizing history r with
  | nil =>
    rw [List.append_nil]
    exact h
  | cons c calls ih =>
    rw [List.append_cons]
    exact ih (h.call c)

end Remembers

/-! ## Names -/

theorem names_ascending (r : ModuleRegistry) : r.names.Pairwise (· < ·) :=
  Json.ascending_sortMembers _

theorem mem_names_iff {r : ModuleRegistry} :
    name ∈ r.names ↔ name ∈ keys r.handlers ∨ name ∈ keys r.tables := by
  show name ∈ keys (Json.sortMembers _) ↔ _
  rw [Json.mem_keys_sortMembers]
  simp [keys, List.map_append, Function.comp_def]

/-- Sorting and merging keep each name that was registered, once. -/
theorem Remembers.mem_names {r : ModuleRegistry} (h : Remembers history r) :
    name ∈ r.names ↔ ∃ c ∈ history, c.registers? = some name := by
  rw [mem_names_iff, mem_keys_iff, mem_keys_iff, h.handlers, h.tables, lastHandler?, lastTable?,
    List.findSome?_isSome_iff, List.findSome?_isSome_iff]
  simp only [Call.registers?_eq_some_iff, List.mem_reverse]
  constructor
  · rintro (⟨c, hc, hsome⟩ | ⟨c, hc, hsome⟩)
    · exact ⟨c, hc, Or.inl hsome⟩
    · exact ⟨c, hc, Or.inr hsome⟩
  · rintro ⟨c, hc, hsome | hsome⟩
    · exact Or.inl ⟨c, hc, hsome⟩
    · exact Or.inr ⟨c, hc, hsome⟩

theorem names_find (r : ModuleRegistry) (name : String) : (r.find name).2.names = r.names := by
  unfold find
  split <;> rfl

/-! ## The contract -/

/-- A registry begins with nothing, or with the modules that are built in. -/
inductive Beginning where
  | empty
  | builtin

namespace Beginning

def registry : Beginning → ModuleRegistry
  | .empty => {}
  | .builtin => .builtin

/-- The registrations that a registry begins with. -/
def made : Beginning → List Call
  | .empty => []
  | .builtin => [.registerTable Illuminance.table,
      .registerHandler "illuminance" Illuminance.handler, .registerTable RouterCommand.table]

theorem remembers (b : Beginning) : Remembers b.made b.registry := by
  cases b with
  | empty => exact .start
  | builtin => exact Remembers.start.run (made .builtin)

end Beginning

/-- **A name stands for what was registered under it before it was first looked up.** The lookup
that comes after any calls answers that, whatever has been registered since; it answers the same
after any more calls, and whatever else was looked up just before; what it answers carries the name,
and so does its table. The names that are listed are, in order and each once, those that anything
was registered under, and a lookup adds none. -/
theorem find_run (b : Beginning) (calls : List Call) (name : String) :
    let r := b.registry.run calls
    let history := b.made ++ calls
    (r.find name).1 = dictated (beforeFirst name history) name ∧
    (∀ more, (((r.find name).2.run more).find name).1 = (r.find name).1) ∧
    (∀ other, ((r.find other).2.find name).1 = (r.find name).1) ∧
    (r.find name).1.name = name ∧ (r.find name).1.binding.table.name = name ∧
    r.names.Pairwise (· < ·) ∧ (∀ n, n ∈ r.names ↔ ∃ c ∈ history, c.registers? = some n) ∧
    (r.find name).2.names = r.names := by
  intro r history
  have h : Remembers history r := b.remembers.run calls
  have hfind := h.find name
  refine ⟨hfind, ?_, ?_, ?_, ?_, names_ascending r, fun n => h.mem_names, names_find r name⟩
  · intro more
    have hmore := ((h.call (.find name)).run more).find name
    rw [List.append_assoc, List.singleton_append, beforeFirst_find, ← hfind] at hmore
    exact hmore
  · intro other
    have hother := (h.call (.find other)).find name
    rw [dictated_beforeFirst_find, ← hfind] at hother
    exact hother
  · rw [hfind]
    rfl
  · rw [hfind]
    exact table_dictated _ name

end ModuleRegistry
end SensorLink
