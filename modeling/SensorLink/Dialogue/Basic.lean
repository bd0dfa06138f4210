import SensorLink.Reply.Awaited

/-!
# Dialogues with a router

What a command does on the link is a dialogue: it subscribes, it sends, it waits, it pauses, and
what it does next depends on what it was answered. A dialogue says nothing about how bytes travel or
how time passes; whoever runs it decides that. So what a command may ever write can be read off the
command alone.

The first thing that goes wrong ends a dialogue, be it a wait that fails or a frame that is not
taken. That is why only a wait has anything to go on with: everything else either works or is the
end.
-/

namespace SensorLink

/-- A dialogue that ends in a result. -/
inductive Dialogue (α : Type) : Type where
  | done (result : Except Error α)
  /-- Begins to listen for replies. Fails if the link is down. -/
  | subscribe (next : Dialogue α)
  /-- Sends a request that is stamped with the time. Fails if it is too large or is not taken. -/
  | send (request : (unixTime : UInt32) → Packet) (next : Dialogue α)
  /-- Sends bytes as they are. Fails if they are not taken. -/
  | stream (bytes : Bytes) (next : Dialogue α)
  /-- Waits for a reply. -/
  | await (awaited : Awaited) (timeout : Duration) (next : awaited.Reply → Dialogue α)
  /-- Does nothing for a while. -/
  | pause (length : Duration) (next : Dialogue α)

namespace Dialogue

variable {α β : Type}

/-- Goes on with the result of a dialogue. -/
def bind (f : α → Dialogue β) : Dialogue α → Dialogue β
  | .done (.ok a) => f a
  | .done (.error e) => .done (.error e)
  | .subscribe next => .subscribe (bind f next)
  | .send request next => .send request (bind f next)
  | .stream bytes next => .stream bytes (bind f next)
  | .await awaited timeout next => .await awaited timeout fun reply => bind f (next reply)
  | .pause length next => .pause length (bind f next)

instance : Monad Dialogue where
  pure a := .done (.ok a)
  bind d f := bind f d

/-- Ends in a failure. -/
def fail (e : Error) : Dialogue α := .done (.error e)

/-- Goes on with something that may have failed. -/
def ofExcept (result : Except Error α) : Dialogue α := .done result

/-- Begins to listen. -/
def listen : Dialogue Unit := .subscribe (pure ())

/-- Sends a request. -/
def request (packet : (unixTime : UInt32) → Packet) : Dialogue Unit := .send packet (pure ())

/-- Sends bytes. -/
def write (bytes : Bytes) : Dialogue Unit := .stream bytes (pure ())

/-- Waits for a reply. -/
def reply (awaited : Awaited) (timeout : Duration) : Dialogue awaited.Reply :=
  .await awaited timeout pure

/-- Does nothing for a while. -/
def rest (length : Duration) : Dialogue Unit := .pause length (pure ())

/-! ## Going on -/

@[simp] theorem pure_bind (a : α) (f : α → Dialogue β) : (pure a >>= f) = f a := rfl

@[simp] theorem fail_bind (e : Error) (f : α → Dialogue β) :
    (fail e >>= f) = .done (.error e) := rfl

@[simp] theorem ofExcept_ok_bind (a : α) (f : α → Dialogue β) :
    (ofExcept (.ok a) >>= f) = f a := rfl

@[simp] theorem ofExcept_error_bind (e : Error) (f : α → Dialogue β) :
    (ofExcept (.error e) >>= f) = .done (.error e) := rfl

@[simp] theorem listen_bind (f : Unit → Dialogue β) : (listen >>= f) = .subscribe (f ()) := rfl

@[simp] theorem request_bind (packet : UInt32 → Packet) (f : Unit → Dialogue β) :
    (request packet >>= f) = .send packet (f ()) := rfl

@[simp] theorem write_bind (bytes : Bytes) (f : Unit → Dialogue β) :
    (write bytes >>= f) = .stream bytes (f ()) := rfl

@[simp] theorem rest_bind (length : Duration) (f : Unit → Dialogue β) :
    (rest length >>= f) = .pause length (f ()) := rfl

@[simp] theorem reply_bind (awaited : Awaited) (timeout : Duration)
    (f : awaited.Reply → Dialogue β) : (reply awaited timeout >>= f) = .await awaited timeout f :=
  rfl

/-! ## What is left of a dialogue

Every step of a dialogue leaves a part of it, or its end. So whoever runs one comes to an end,
whatever the router answers. -/

/-- One dialogue is what another may become in a step. -/
inductive After : Dialogue α → Dialogue α → Prop where
  | subscribe {next : Dialogue α} : After next (.subscribe next)
  | send {request : UInt32 → Packet} {next : Dialogue α} : After next (.send request next)
  | stream {bytes : Bytes} {next : Dialogue α} : After next (.stream bytes next)
  | await {awaited : Awaited} {timeout : Duration} {next : awaited.Reply → Dialogue α}
      (r : awaited.Reply) : After (next r) (.await awaited timeout next)
  | pause {length : Duration} {next : Dialogue α} : After next (.pause length next)
  /-- A step may end a dialogue that has not ended yet. -/
  | failed {result : Except Error α} {d : Dialogue α} (h : ∀ r, d ≠ .done r) :
    After (.done result) d

/-- A dialogue that has ended has no steps left to take. -/
theorem acc_done (result : Except Error α) : Acc After (.done result) := by
  constructor
  intro d h
  cases h with
  | failed h => exact absurd rfl (h _)

/-- For the induction over a dialogue it is enough to look at what it goes on with. -/
theorem acc_of_children {d : Dialogue α}
    (h : ∀ d', After d' d → Acc After d' ∨ ∃ r, d' = .done r) : Acc After d := by
  constructor
  intro d' hd
  rcases h d' hd with h | ⟨r, rfl⟩
  · exact h
  · exact acc_done r

/-- There is no endless dialogue. -/
theorem wellFounded_after : WellFounded (@After α) := by
  constructor
  intro d
  induction d with
  | done result => exact acc_done result
  | subscribe next ih =>
    refine acc_of_children fun d' h => ?_
    cases h with
    | subscribe => exact .inl ih
    | failed => exact .inr ⟨_, rfl⟩
  | send request next ih =>
    refine acc_of_children fun d' h => ?_
    cases h with
    | send => exact .inl ih
    | failed => exact .inr ⟨_, rfl⟩
  | stream bytes next ih =>
    refine acc_of_children fun d' h => ?_
    cases h with
    | stream => exact .inl ih
    | failed => exact .inr ⟨_, rfl⟩
  | await awaited timeout next ih =>
    refine acc_of_children fun d' h => ?_
    cases h with
    | await r => exact .inl (ih r)
    | failed => exact .inr ⟨_, rfl⟩
  | pause length next ih =>
    refine acc_of_children fun d' h => ?_
    cases h with
    | pause => exact .inl ih
    | failed => exact .inr ⟨_, rfl⟩

instance : WellFoundedRelation (Dialogue α) := ⟨After, wellFounded_after⟩

end Dialogue
end SensorLink
