import SensorLink.Proofs.Link.Writes

/-!
# What a connection finds left over at the router's end

A new connection takes the place of the one before it, and what was written on that and not taken is
gone. The framer of the router's end is not renewed, nor are the requests that it has found. So the
router may find a request on a connection on which nothing was written, and the first request of a
connection may be read as the continuation of what an earlier one has left
(`latest_not_read_afresh`).

What can be said is what the router's end does do:

> **what it finds on the latest connection is what was left over, and then what the framer that was
> left makes of the writes** (`requests_carry_over`).

If nothing was left, that is what a fresh framer finds in what the host wrote on this connection.
The books are in the order of the connections (`InOrder`), so that they can be cut where the latest
one begins.
-/

namespace SensorLink

/-! ## Books in order -/

/-- What is in a book for earlier connections. -/
def beforeConnection {α : Type} (connection : Nat) (book : List (Nat × α)) : List α :=
  book.filterMap fun (c, entry) => if c < connection then some entry else none

/-- A book up to a connection: the entries for it are the last ones. -/
structure InOrder {α : Type} (connection : Nat) (book : List (Nat × α)) : Prop where
  le : ∀ e ∈ book, e.1 ≤ connection
  map_snd : book.map Prod.snd = beforeConnection connection book ++ onConnection connection book

section Books

variable {α : Type} {c c' : Nat} {book : List (Nat × α)}

theorem beforeConnection_eq_map (h : ∀ e ∈ book, e.1 < c) :
    beforeConnection c book = book.map Prod.snd := by
  induction book with
  | nil => rfl
  | cons e book ih =>
    obtain ⟨c', entry⟩ := e
    have hfirst : beforeConnection c ((c', entry) :: book) = entry :: beforeConnection c book :=
      List.filterMap_cons_some (if_pos (h (c', entry) List.mem_cons_self))
    rw [hfirst, ih fun e he => h e (List.mem_cons_of_mem _ he), List.map_cons]

theorem beforeConnection_append (book : List (Nat × α)) (entries : List α) :
    beforeConnection c (book ++ entries.map (c, ·)) = beforeConnection c book := by
  have hnone : beforeConnection c (entries.map (c, ·)) = [] := by
    simp [beforeConnection]
  rw [← List.append_nil (beforeConnection c book), ← hnone]
  exact List.filterMap_append

namespace InOrder

theorem nil : InOrder c ([] : List (Nat × α)) where
  le := by simp
  map_snd := rfl

variable (h : InOrder c book)
include h

theorem append (entries : List α) : InOrder c (book ++ entries.map (c, ·)) where
  le e he := by
    rcases List.mem_append.mp he with he | he
    · exact h.le e he
    · obtain ⟨entry, -, rfl⟩ := List.mem_map.mp he
      exact Nat.le_refl c
  map_snd := by
    have hentries : (entries.map (c, ·)).map Prod.snd = entries := by
      rw [List.map_map]
      exact List.map_id _
    rw [beforeConnection_append, onConnection_append, onConnection_map, List.map_append, hentries,
      h.map_snd, List.append_assoc]

/-- To a later connection, all of it came before. -/
theorem before_eq (hlt : c < c') : beforeConnection c' book = book.map Prod.snd :=
  beforeConnection_eq_map fun e he => Nat.lt_of_le_of_lt (h.le e he) hlt

theorem later (hle : c ≤ c') : InOrder c' book := by
  rcases Nat.eq_or_lt_of_le hle with rfl | hlt
  · exact h
  · refine ⟨fun e he => Nat.le_trans (h.le e he) hle, ?_⟩
    have hnone : onConnection c' book = [] :=
      onConnection_eq_nil fun e he => Nat.ne_of_lt (Nat.lt_of_le_of_lt (h.le e he) hlt)
    rw [h.before_eq hlt, hnone, List.append_nil]

end InOrder
end Books

theorem RouterEnd.Undergoes.connections_le {router after : RouterEnd} {deeds : List Deed}
    (h : router.Undergoes deeds after) : router.connections ≤ after.connections := by
  induction h with
  | nothing => exact Nat.le_refl _
  | accepted _ ih => exact Nat.le_of_succ_le ih
  | @sent router _ bytes _ _ _ ih => rwa [router.connections_takeIn] at ih

namespace Circuit

open Link (Performed)

variable {circuit : Circuit} {tell : Tell} {count : Nat}

/-! ## What was left over -/

/-- What the framer found in all that it was fed on earlier connections, and the framer then. -/
def fedBefore (circuit : Circuit) : List FramerEvent × Framer :=
  (Framer.fresh .hostToRouter).feed (beforeConnection circuit.connection circuit.framed)

/-- The requests of earlier connections that had been found and not handed out when the latest one
came about. -/
def leftRequests (circuit : Circuit) : List Packet :=
  (RouterEnd.packetsOf circuit.fedBefore.1).drop
    (beforeConnection circuit.connection circuit.requests).length

/-- What every step keeps. -/
structure Ordered (circuit : Circuit) : Prop extends circuit.Balanced where
  framed : InOrder circuit.connection circuit.framed
  requests : InOrder circuit.connection circuit.requests
  /-- What was handed out before the latest connection had been found before it. -/
  handed : beforeConnection circuit.connection circuit.requests <+:
    RouterEnd.packetsOf circuit.fedBefore.1

namespace Ordered

theorem start : Ordered {} where
  toBalanced := .start
  framed := .nil
  requests := .nil
  handed := List.prefix_rfl

/-- Connections may have come about. -/
theorem reconnected (h : circuit.Ordered) {after : Circuit} (hafter : after.Balanced)
    (hframed : after.framed = circuit.framed) (hrequests : after.requests = circuit.requests)
    (hle : circuit.connection ≤ after.connection) : after.Ordered where
  toBalanced := hafter
  framed := hframed ▸ h.framed.later hle
  requests := hrequests ▸ h.requests.later hle
  handed := by
    have hhanded := h.handed
    unfold fedBefore at hhanded ⊢
    rw [hframed, hrequests]
    rcases Nat.eq_or_lt_of_le hle with heq | hlt
    · rwa [← heq]
    · rw [h.requests.before_eq hlt, h.framed.before_eq hlt, ← h.found]
      exact List.prefix_append _ _

theorem nextRequest (h : circuit.Ordered) : circuit.nextRequest.Ordered := by
  have hbalanced := h.toBalanced.nextRequest
  obtain ⟨used, request, router, -, hnext⟩ := circuit.nextRequest_eq
  have hconnection := circuit.connection_nextRequest
  have hframed : circuit.nextRequest.framed = circuit.framed ++ circuit.latest used := by
    rw [hnext]
  have hrequests : circuit.nextRequest.requests =
      circuit.requests ++ circuit.latest request.toList := by
    rw [hnext]
  refine
    { toBalanced := hbalanced
      framed := ?framed
      requests := ?requests
      handed := ?handed }
  case framed =>
    rw [hconnection, hframed]
    exact h.framed.append used
  case requests =>
    rw [hconnection, hrequests]
    exact h.requests.append request.toList
  case handed =>
    unfold fedBefore
    rw [hconnection, hframed, hrequests, latest, beforeConnection_append, latest,
      beforeConnection_append]
    exact h.handed

theorem step (h : circuit.Ordered) (htell : tell.Candid count) (hfair : tell.Fair count)
    (move : Move) : (circuit.step tell move).Ordered := by
  have hbalanced := h.toBalanced.step htell move
  cases move with
  | line move =>
    -- A line may have come to a new connection, and then nothing was handed out on it yet.
    have hle : circuit.line.connection ≤ (circuit.line.step tell move).connection :=
      (Line.stretch_step hfair circuit.line move).grows.counted .connections
    exact h.reconnected hbalanced rfl rfl hle
  | beginSend bytes failure =>
    -- Beginning to send only sets the frame aside.
    have hsame : (circuit.step tell (.beginSend bytes failure)).framed = circuit.framed ∧
        (circuit.step tell (.beginSend bytes failure)).requests = circuit.requests ∧
        (circuit.step tell (.beginSend bytes failure)).connection = circuit.connection := by
      unfold Circuit.step
      dsimp only
      split <;> exact ⟨rfl, rfl, rfl⟩
    obtain ⟨hframed, hrequests, hconnection⟩ := hsame
    exact h.reconnected hbalanced hframed hrequests (Nat.le_of_eq hconnection.symm)
  | finishSend index =>
    unfold Circuit.step at hbalanced ⊢
    dsimp only at hbalanced ⊢
    split at hbalanced
    · exact h
    · rename_i bytes failure _
      obtain ⟨done, hdone, -, -⟩ :=
        (Link.performed_finishSend htell bytes failure circuit.line.link).sends
      have hle := (hdone h.wired).2.connections_le
      exact h.reconnected hbalanced rfl rfl hle
  | takeWrite =>
    exact h.reconnected hbalanced rfl rfl (Nat.le_of_eq circuit.connection_takeWrite.symm)
  | nextRequest => exact h.nextRequest

theorem run (h : circuit.Ordered) (htell : tell.Candid count) (hfair : tell.Fair count)
    (moves : List Move) : (circuit.run tell moves).Ordered := by
  induction moves generalizing circuit with
  | nil => exact h
  | cons move moves ih => exact ih (h.step htell hfair move)

variable (h : circuit.Ordered)
include h

/-- Until the latest connection came about, the router had found what was handed out and what was
left. -/
theorem handed_left :
    beforeConnection circuit.connection circuit.requests ++ circuit.leftRequests =
      RouterEnd.packetsOf circuit.fedBefore.1 := by
  obtain ⟨left, hleft⟩ := h.handed
  rw [leftRequests, ← hleft, List.drop_left]

/-- **What is found on the latest connection**: what was left over, and then what the framer that
was left makes of the writes. -/
theorem latest_awaiting :
    onConnection circuit.connection circuit.requests ++ circuit.router.awaiting =
      circuit.leftRequests ++ RouterEnd.packetsOf (circuit.fedBefore.2.feed
        (onConnection circuit.connection circuit.framed ++ circuit.router.written)).1 := by
  have hall := h.requests_awaiting
  rw [h.requests.map_snd, h.framed.map_snd, List.append_assoc, List.append_assoc,
    RouterEnd.packetsOf_feed_append] at hall
  have hbefore : RouterEnd.packetsOf ((Framer.fresh .hostToRouter).feed
      (beforeConnection circuit.connection circuit.framed)).1 =
        beforeConnection circuit.connection circuit.requests ++ circuit.leftRequests :=
    h.handed_left.symm
  rw [hbefore, List.append_assoc] at hall
  exact List.append_cancel_left hall

/-- Where nothing is left over, and the router has looked for requests only, it reads what was sent
on the connection as a fresh framer would. -/
theorem latest_afresh (hrequests : circuit.leftRequests = [])
    (hbuffer : circuit.fedBefore.2.buffer = [])
    (hframed : onConnection circuit.connection circuit.framed =
      onConnection circuit.connection circuit.taken) :
    onConnection circuit.connection circuit.requests ++ circuit.router.awaiting =
      RouterEnd.packetsOf ((Framer.fresh .hostToRouter).push
        (onConnection circuit.connection circuit.sent).flatten).drain.1 := by
  have hfresh : circuit.fedBefore.2 = .fresh .hostToRouter :=
    Framer.ext (Framer.feed_direction _ _) hbuffer
  have hwritten : onConnection circuit.connection circuit.taken ++ circuit.router.written =
      nonEmpty (onConnection circuit.connection circuit.sent) := h.tally.written
  have hflatten (writes : List Bytes) : (nonEmpty writes).flatten = writes.flatten :=
    List.flatten_filter_not_isEmpty
  rw [h.latest_awaiting, hrequests, List.nil_append, hfresh, hframed, hwritten,
    ← map_fst_packets, Framer.packets_feed, hflatten, map_fst_packets]

end Ordered

/-! ## The contract -/

/-- What the router finds on the latest connection. -/
structure CarriesOver (tell : Tell) (circuit : Circuit) : Prop where
  left : beforeConnection circuit.connection circuit.requests ++ circuit.leftRequests =
    RouterEnd.packetsOf circuit.fedBefore.1
  /-- First it gets the requests that were left, then those that the framer, as it was left, finds
  in the writes of the connection. -/
  next : ∀ n, onConnection circuit.connection
      (circuit.run tell (List.replicate n .nextRequest)).requests =
    (circuit.leftRequests ++ RouterEnd.packetsOf (circuit.fedBefore.2.feed
        (onConnection circuit.connection circuit.framed ++ circuit.router.written)).1).take
      ((onConnection circuit.connection circuit.requests).length + n)
  /-- If nothing was left, and if the router looks for requests only, it gets what a fresh framer
  finds in what was sent on the connection. -/
  afresh : circuit.leftRequests = [] → circuit.fedBefore.2.buffer = [] →
    onConnection circuit.connection circuit.framed =
      onConnection circuit.connection circuit.taken →
    ∀ n, onConnection circuit.connection
        (circuit.run tell (List.replicate n .nextRequest)).requests =
      (RouterEnd.packetsOf ((Framer.fresh .hostToRouter).push
          (onConnection circuit.connection circuit.sent).flatten).drain.1).take
        ((onConnection circuit.connection circuit.requests).length + n)

theorem Ordered.carriesOver (h : circuit.Ordered) : circuit.CarriesOver tell where
  left := h.handed_left
  next n := by
    rw [← h.latest_awaiting, List.take_length_add_append, requests_run, onConnection_append, latest,
      onConnection_map]
  afresh hrequests hbuffer hframed n := by
    rw [← h.latest_afresh hrequests hbuffer hframed, List.take_length_add_append, requests_run,
      onConnection_append, latest, onConnection_map]

/-- **The router's end carries over from one connection to the next** the requests that it has found
and the bytes in its framer, and nothing else, after any moves and for observers that make any
calls. -/
theorem requests_carry_over (observers : Observers) (depth : Nat) (moves : List Move) :
    let tell := observers.tell depth
    (run tell moves {}).CarriesOver tell :=
  (Ordered.start.run (observers.candid_tell depth) (observers.fair_tell depth) moves).carriesOver

/-- Nothing is left of a first connection, and on the second a request is sent in two parts. -/
theorem requests_carry_over_nothing :
    let observers : Observers := { count := 1 }
    let tell := observers.tell 0
    let request : Bytes := [0x01, 0x01, 0x01, 0x90, 0x6F, 0x54, 0x65, 0x00, 0xF1, 0x53, 0x65]
    let connect : Move := .line (.call (.connect []))
    let send (bytes : Bytes) : Move := .line (.call (.send bytes))
    let moves : List Move :=
      [connect, send request, .nextRequest, .line (.call .close), connect, send (request.take 4),
        send (request.drop 4)]
    let circuit := run tell moves {}
    circuit.connection = 2 ∧ circuit.leftRequests = [] ∧ circuit.fedBefore.2.buffer = [] ∧
    onConnection circuit.connection circuit.framed =
      onConnection circuit.connection circuit.taken ∧
    onConnection circuit.connection
        (circuit.run tell (List.replicate 1 .nextRequest)).requests =
      (RouterEnd.packetsOf ((Framer.fresh .hostToRouter).push
          (onConnection circuit.connection circuit.sent).flatten).drain.1).take
        ((onConnection circuit.connection circuit.requests).length + 1) := by
  intro observers tell request connect send moves circuit
  have hrequests : circuit.leftRequests = [] := by decide +kernel
  have hbuffer : circuit.fedBefore.2.buffer = [] := by decide +kernel
  have hframed : onConnection circuit.connection circuit.framed =
      onConnection circuit.connection circuit.taken := by decide +kernel
  have h : circuit.CarriesOver tell := requests_carry_over observers 0 moves
  exact ⟨by decide +kernel, hrequests, hbuffer, hframed, h.afresh hrequests hbuffer hframed 1⟩

/-- **The latest connection is not read afresh.** A request of the first connection is found on the
second, where nothing was sent. And a byte of the first connection is read as the start of what was
sent on the second, so that not the request that was sent is found but one that was not. -/
theorem latest_not_read_afresh :
    let tell := ({ count := 1 } : Observers).tell 0
    let first : Bytes := [0x01, 0x01, 0x01, 0x90, 0x6F, 0x54, 0x65, 0x00, 0xF1, 0x53, 0x65]
    let second : Bytes := [0x01, 0x01, 0x02, 0x90, 0x6F, 0x54, 0x65, 0x00, 0xF1, 0x53, 0x65]
    let connect : Move := .line (.call (.connect []))
    let send (bytes : Bytes) : Move := .line (.call (.send bytes))
    let close : Move := .line (.call .close)
    let found (bytes : Bytes) :=
      RouterEnd.packetsOf ((Framer.fresh .hostToRouter).push bytes).drain.1
    let kept := run tell
      [connect, send (first ++ second), .nextRequest, close, connect, .nextRequest] {}
    let shifted := run tell
      [connect, send [0x01], .nextRequest, close, connect, send first, .nextRequest] {}
    (kept.connection = 2 ∧ onConnection 2 kept.sent = [] ∧ found [] = [] ∧
      onConnection 2 kept.requests = found second ∧ found second ≠ []) ∧
    (shifted.connection = 2 ∧ onConnection 2 shifted.sent = [first] ∧ (found first).length = 1 ∧
      onConnection 2 shifted.requests = found (0x01 :: first) ∧
      found (0x01 :: first) ≠ found first) := by
  decide +kernel

end Circuit
end SensorLink
