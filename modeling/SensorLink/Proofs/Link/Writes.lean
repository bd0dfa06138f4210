import SensorLink.Proofs.Link.Deeds
import SensorLink.Proofs.Link.Requests

/-!
# What the router gets of what is sent

`Deeds` says what is done to the router's end, and in which order it is told. What is left is to see
that the router gets its writes by it. The invariant is a balance (`Tally`): what the router has
taken on the latest connection and what is still there to be taken are together the sends of that
connection, those of no bytes left out; and of earlier connections it has taken as much as it had
when the next one came about. So

> **the router gets the sends that have succeeded, whole, in order, each once and nothing else**
> (`writes_delivered`),

however the sends come between opens, closes and losses, in one go or in two. If all of it is
requests, and there was no earlier connection, the router finds each of them.
-/

namespace SensorLink

/-! ## Books -/

/-- The writes that are any bytes at all. -/
def nonEmpty (writes : List Bytes) : List Bytes := writes.filter (!·.isEmpty)

theorem nonEmpty_append (writes later : List Bytes) :
    nonEmpty (writes ++ later) = nonEmpty writes ++ nonEmpty later :=
  List.filter_append ..

section OnConnection

variable {α : Type} {book : List (Nat × α)} {c : Nat}

theorem onConnection_append (c : Nat) (book later : List (Nat × α)) :
    onConnection c (book ++ later) = onConnection c book ++ onConnection c later :=
  List.filterMap_append

theorem onConnection_eq_nil (h : ∀ e ∈ book, e.1 ≠ c) : onConnection c book = [] := by
  rw [onConnection, List.filterMap_eq_nil_iff]
  exact fun e he => if_neg (h e he)

theorem onConnection_eq_map (h : ∀ e ∈ book, e.1 = c) :
    onConnection c book = book.map Prod.snd := by
  induction book with
  | nil => rfl
  | cons e book ih =>
    obtain ⟨c', entry⟩ := e
    obtain rfl : c' = c := h _ List.mem_cons_self
    have hfirst : onConnection c' ((c', entry) :: book) = entry :: onConnection c' book :=
      List.filterMap_cons_some (if_pos rfl)
    rw [hfirst, ih fun e he => h e (List.mem_cons_of_mem _ he), List.map_cons]

theorem onConnection_map (c : Nat) (entries : List α) :
    onConnection c (entries.map (c, ·)) = entries := by
  rw [onConnection_eq_map (by simp), List.map_map]
  exact List.map_id _

end OnConnection

theorem take_succ_eq {α : Type} (xs : List α) (n : Nat) :
    xs.take (n + 1) = xs.head?.toList ++ xs.tail.take n := by
  cases xs <;> simp

theorem sum_sendsOf (connection : Nat) (deeds : List Deed) :
    ((sendsOf connection deeds).map (·.2.length)).sum = (deeds.map Deed.size).sum := by
  induction deeds generalizing connection with
  | nil => rfl
  | cons deed deeds ih =>
    cases deed with
    | accepted => simpa [sendsOf, Deed.size] using ih (connection + 1)
    | sent bytes => simpa [sendsOf, Deed.size] using ih connection

/-! ## The balance -/

/-- What was sent on a connection has been taken up to some point, and the rest of the latest
connection is there to be taken. -/
structure Tally (router : RouterEnd) (sent taken : List (Nat × Bytes)) : Prop where
  session : router.session.isSome = true → 0 < router.connections
  sent_mem : ∀ e ∈ sent, 0 < e.1 ∧ e.1 ≤ router.connections
  taken_mem : ∀ e ∈ taken, 0 < e.1 ∧ e.1 ≤ router.connections
  taken_front : ∀ c, onConnection c taken <+: nonEmpty (onConnection c sent)
  written : onConnection router.connections taken ++ router.written =
    nonEmpty (onConnection router.connections sent)

namespace Tally

variable {router after : RouterEnd} {sent taken : List (Nat × Bytes)}

theorem start : Tally {} [] [] where
  session := nofun
  sent_mem := by simp
  taken_mem := by simp
  taken_front _ := List.prefix_rfl
  written := rfl

/-- A new connection has nothing on it. -/
theorem accept (h : Tally router sent taken) : Tally router.accept sent taken where
  session _ := Nat.succ_pos _
  sent_mem e he := ⟨(h.sent_mem e he).1, Nat.le_succ_of_le (h.sent_mem e he).2⟩
  taken_mem e he := ⟨(h.taken_mem e he).1, Nat.le_succ_of_le (h.taken_mem e he).2⟩
  taken_front := h.taken_front
  written := by
    have hsent : onConnection (router.connections + 1) sent = [] :=
      onConnection_eq_nil fun e he => Nat.ne_of_lt (Nat.lt_succ_of_le (h.sent_mem e he).2)
    have htaken : onConnection (router.connections + 1) taken = [] :=
      onConnection_eq_nil fun e he => Nat.ne_of_lt (Nat.lt_succ_of_le (h.taken_mem e he).2)
    show onConnection (router.connections + 1) taken ++ [] =
      nonEmpty (onConnection (router.connections + 1) sent)
    rw [hsent, htaken]
    rfl

/-- A send is one write, or none if it is of no bytes. -/
theorem written_takeIn (router : RouterEnd) (h : router.session.isSome = true) (bytes : Bytes) :
    (router.takeIn bytes).written = router.written ++ nonEmpty [bytes] := by
  obtain ⟨session, hsession⟩ := Option.isSome_iff_exists.mp h
  cases bytes with
  | nil => simp [RouterEnd.takeIn, nonEmpty]
  | cons b bytes => simp [RouterEnd.takeIn, RouterEnd.write, RouterEnd.written, nonEmpty, hsession]

/-- More is sent on the latest connection. -/
theorem send (h : Tally router sent taken) (hsession : router.session.isSome = true)
    (bytes : Bytes) :
    Tally (router.takeIn bytes) (sent ++ [(router.connections, bytes)]) taken := by
  -- To take in a write keeps the connection, so the tally changes in one column alone.
  have hconnections := router.connections_takeIn bytes
  have hwritten := written_takeIn router hsession bytes
  have hlatest : onConnection router.connections (sent ++ [(router.connections, bytes)]) =
      onConnection router.connections sent ++ [bytes] := by
    rw [onConnection_append]
    exact congrArg _ (onConnection_map router.connections [bytes])
  refine
    { session := fun _ => hconnections ▸ h.session hsession
      sent_mem := fun e he => ?sent_mem
      taken_mem := fun e he => hconnections ▸ h.taken_mem e he
      taken_front := fun c => ?taken_front
      written := ?written }
  case sent_mem =>
    rw [hconnections]
    rcases List.mem_append.mp he with he | he
    · exact h.sent_mem e he
    · rw [List.mem_singleton.mp he]
      exact ⟨h.session hsession, Nat.le_refl _⟩
  case taken_front =>
    rw [onConnection_append, nonEmpty_append]
    exact (h.taken_front c).trans (List.prefix_append _ _)
  case written =>
    rw [hconnections, hwritten, hlatest, nonEmpty_append, ← h.written, List.append_assoc]

/-- What is done to the router's end goes into the books. -/
theorem undergoes {deeds : List Deed} (hdeeds : router.Undergoes deeds after)
    (h : Tally router sent taken) :
    Tally after (sent ++ sendsOf router.connections deeds) taken := by
  induction hdeeds generalizing sent with
  | nothing router =>
    rw [sendsOf, List.append_nil]
    exact h
  | accepted _ ih => exact ih h.accept
  | @sent router after bytes deeds hsession _ ih =>
    have hsent := ih (h.send hsession bytes)
    rw [router.connections_takeIn, List.append_assoc] at hsent
    exact hsent

/-- The router takes some of what is there. -/
theorem take (h : Tally router sent taken) {used rest : List Bytes}
    (hwritten : router.written = used ++ rest) (hafter : router.Rewritten rest after) :
    Tally after sent (taken ++ used.map (router.connections, ·)) := by
  have htaken : onConnection router.connections (taken ++ used.map (router.connections, ·)) =
      onConnection router.connections taken ++ used := by
    rw [onConnection_append, onConnection_map]
  have hlatest := h.written
  rw [hwritten, ← List.append_assoc, ← htaken] at hlatest
  refine
    { session := fun hs => ?session
      sent_mem := fun e he => hafter.connections ▸ h.sent_mem e he
      taken_mem := fun e he => ?taken_mem
      taken_front := fun c => ?taken_front
      written := ?written }
  case session =>
    rw [hafter.session] at hs
    rw [hafter.connections]
    exact h.session hs
  case taken_mem =>
    rw [hafter.connections]
    rcases List.mem_append.mp he with he | he
    · exact h.taken_mem e he
    · obtain ⟨write, hwrite, rfl⟩ := List.mem_map.mp he
      refine ⟨h.session ?_, Nat.le_refl _⟩
      -- Without a connection nothing would be written.
      have hsome : router.written ≠ [] := by
        rw [hwritten]
        exact List.append_ne_nil_of_left_ne_nil (List.ne_nil_of_mem hwrite) _
      unfold RouterEnd.written at hsome
      split at hsome
      · exact absurd rfl hsome
      · simp [*]
  case taken_front =>
    by_cases hc : c = router.connections
    · rw [hc, ← hlatest]
      exact List.prefix_append _ _
    · have hother : onConnection c (used.map (router.connections, ·)) = [] :=
        onConnection_eq_nil (by simpa using fun _ _ => Ne.symm hc)
      rw [onConnection_append, hother, List.append_nil]
      exact h.taken_front c
  case written =>
    rw [hafter.connections, hafter.written]
    exact hlatest

end Tally

theorem RouterEnd.Undergoes.finds_nothing {router after : RouterEnd} {deeds : List Deed}
    (h : router.Undergoes deeds after) :
    after.framer = router.framer ∧ after.pending = router.pending := by
  induction h with
  | nothing => exact ⟨rfl, rfl⟩
  | accepted _ ih => exact ih
  | @sent router _ bytes _ _ _ ih =>
    have htaken : (router.takeIn bytes).framer = router.framer ∧
        (router.takeIn bytes).pending = router.pending := by
      unfold takeIn
      split <;> exact ⟨rfl, rfl⟩
    exact ⟨ih.1.trans htaken.1, ih.2.trans htaken.2⟩

namespace Circuit

open Link (Performed)

variable {circuit : Circuit} {tell : Tell} {count : Nat}

/-! ## What is noted -/

theorem map_snd_latest {α : Type} (circuit : Circuit) (entries : List α) :
    (circuit.latest entries).map Prod.snd = entries := by
  rw [latest, List.map_map]
  exact List.map_id _

theorem latest_append {α : Type} (circuit : Circuit) (entries later : List α) :
    circuit.latest (entries ++ later) = circuit.latest entries ++ circuit.latest later :=
  List.map_append

theorem latest_congr {α : Type} {other : Circuit} (h : circuit.connection = other.connection)
    (entries : List α) : circuit.latest entries = other.latest entries := by
  rw [latest, h, latest]

/-- Nothing was sent from inside a move without events. -/
theorem goOn_of_silent {line : Line} (h : line.link.events = circuit.line.link.events) :
    circuit.goOn line none = { circuit with line } := by
  have hnone : line.link.events.toList.drop circuit.line.link.events.size = [] := by
    rw [h, ← Array.length_toList, List.drop_length]
  simp [goOn, hnone, sendsOf]

theorem taken_takeWrite (circuit : Circuit) : circuit.takeWrite.taken =
    circuit.taken ++ circuit.latest circuit.router.written.head?.toList := by
  rw [← circuit.router.takeWrite_eq.1]
  rfl

theorem written_takeWrite (circuit : Circuit) :
    circuit.takeWrite.router.written = circuit.router.written.tail :=
  circuit.router.takeWrite_eq.2.1.written

theorem connection_takeWrite (circuit : Circuit) :
    circuit.takeWrite.connection = circuit.connection :=
  circuit.router.takeWrite_eq.2.1.connections

/-- What is noted when the router looks for a request are the writes that were used up. -/
theorem nextRequest_eq (circuit : Circuit) : ∃ used request router,
    circuit.router.Served used request router ∧ circuit.nextRequest =
      { circuit.setRouter router with
        taken := circuit.taken ++ circuit.latest used
        framed := circuit.framed ++ circuit.latest used
        requests := circuit.requests ++ circuit.latest request.toList } := by
  obtain ⟨used, hserved⟩ := circuit.router.served
  have hused : circuit.router.written.take
      (circuit.router.written.length - circuit.router.nextRequest.2.written.length) = used := by
    rw [hserved.written, List.length_append, Nat.add_sub_cancel, List.take_left]
  refine ⟨used, _, _, hserved, ?_⟩
  unfold Circuit.nextRequest
  rw [← hused]

theorem connection_nextRequest (circuit : Circuit) :
    circuit.nextRequest.connection = circuit.connection := by
  obtain ⟨used, request, router, hserved, hnext⟩ := circuit.nextRequest_eq
  rw [hnext]
  exact hserved.rewritten.connections

theorem requests_nextRequest (circuit : Circuit) :
    circuit.nextRequest.requests =
      circuit.requests ++ circuit.latest circuit.router.awaiting.head?.toList ∧
    circuit.nextRequest.router.awaiting = circuit.router.awaiting.tail := by
  obtain ⟨used, request, router, hserved, hnext⟩ := circuit.nextRequest_eq
  obtain ⟨hrequest, hawaiting⟩ := hserved.request_eq
  rw [hnext]
  exact ⟨by rw [hrequest], hawaiting⟩

/-! ## Steps -/

/-- What every step keeps. -/
structure Balanced (circuit : Circuit) : Prop where
  wired : circuit.line.link.Wired
  tally : Tally circuit.router circuit.sent circuit.taken
  counted : circuit.line.link.stats.bytesSent = (circuit.sent.map (·.2.length)).sum
  framer : circuit.router.framer =
    ((Framer.fresh .hostToRouter).feed (circuit.framed.map Prod.snd)).2
  /-- What was found is what the framer found in all that it was fed. -/
  found : circuit.requests.map Prod.snd ++ circuit.router.pending = RouterEnd.packetsOf
    ((Framer.fresh .hostToRouter).feed (circuit.framed.map Prod.snd)).1

namespace Balanced

theorem start : Balanced {} where
  wired := nofun
  tally := .start
  counted := rfl
  framer := rfl
  found := rfl

variable (h : circuit.Balanced)
include h

/-- Something is done to the link. -/
theorem goOn {line : Line} {own : Option Deed} {begun : List (Bytes × Option String)}
    (hline : Performed count circuit.line.link own line.link) :
    Balanced { circuit.goOn line own with begun } := by
  obtain ⟨done, hdone, hsent, hnoted⟩ := hline.sends
  obtain ⟨hwired, hundergoes⟩ := hdone h.wired
  obtain ⟨hframer, hpending⟩ := hundergoes.finds_nothing
  have hnoted := hnoted circuit.connection
  exact {
    wired := hwired
    tally := by
      show Tally line.link.router (circuit.sent ++ sendsOf _ _) circuit.taken
      rw [hnoted]
      exact h.tally.undergoes hundergoes
    counted := by
      show line.link.stats.bytesSent = ((circuit.sent ++ sendsOf _ _).map (·.2.length)).sum
      rw [hnoted, List.map_append, List.sum_append, sum_sendsOf, hsent, h.counted]
    framer := hframer.trans h.framer
    found := by
      show circuit.requests.map Prod.snd ++ line.link.router.pending = _
      rw [hpending]
      exact h.found }

/-- The router's end is changed from outside, and there is as much to be taken as before. -/
theorem setRouter {router : RouterEnd}
    (hafter : circuit.router.Rewritten circuit.router.written router)
    (hframer : router.framer = circuit.router.framer)
    (hpending : router.pending = circuit.router.pending) :
    (circuit.setRouter router).Balanced where
  wired hwriter := hafter.session ▸ h.wired hwriter
  tally := by
    have hnothing : circuit.router.written = [] ++ circuit.router.written := rfl
    have htally := h.tally.take hnothing hafter
    rwa [List.map_nil, List.append_nil] at htally
  counted := h.counted
  framer := hframer.trans h.framer
  found := by
    show circuit.requests.map Prod.snd ++ router.pending = _
    rw [hpending]
    exact h.found

theorem takeWrite : circuit.takeWrite.Balanced := by
  obtain ⟨-, hafter, hframer, hpending⟩ := circuit.router.takeWrite_eq
  have hwritten : circuit.router.written =
      circuit.router.written.head?.toList ++ circuit.router.written.tail := by
    cases circuit.router.written <;> rfl
  exact {
    wired := fun hwriter => hafter.session ▸ h.wired hwriter
    tally := by
      rw [taken_takeWrite]
      exact h.tally.take hwritten hafter
    counted := h.counted
    framer := hframer.trans h.framer
    found := by
      show circuit.requests.map Prod.snd ++ circuit.router.takeWrite.2.pending = _
      rw [hpending]
      exact h.found }

theorem nextRequest : circuit.nextRequest.Balanced := by
  obtain ⟨used, request, router, hserved, hnext⟩ := circuit.nextRequest_eq
  have hfed : (Framer.fresh .hostToRouter).feed
      ((circuit.framed ++ circuit.latest used).map Prod.snd) =
        (Framer.fresh .hostToRouter).feed (circuit.framed.map Prod.snd ++ used) := by
    rw [List.map_append, map_snd_latest]
  rw [hnext]
  refine
    { wired := fun hwriter => hserved.rewritten.session ▸ h.wired hwriter
      tally := h.tally.take hserved.written hserved.rewritten
      counted := h.counted
      framer := ?framer
      found := ?found }
  case framer =>
    show router.framer = _
    rw [hfed, hserved.framer, h.framer, Framer.feed_append]
  case found =>
    show (circuit.requests ++ circuit.latest request.toList).map Prod.snd ++ router.pending = _
    rw [hfed, List.map_append, map_snd_latest, List.append_assoc, hserved.found,
      ← List.append_assoc, h.found, RouterEnd.packetsOf_feed_append, h.framer]

/-- A move on the line. The router's end is left alone but for what is done to it from outside. -/
theorem line (htell : tell.Candid count) (move : Line.Move) :
    (circuit.step tell (.line move)).Balanced := by
  have hperformed := Line.performed_step htell circuit.line move
  cases move with
  | call call => exact h.goOn (hperformed nofun nofun)
  | inject bytes => exact h.goOn (hperformed nofun nofun)
  | read => exact h.goOn (hperformed nofun nofun)
  | failRead failure => exact h.goOn (hperformed nofun nofun)
  | refuse refusing =>
    have hset : circuit.step tell (.line (.refuse refusing)) =
        circuit.setRouter { circuit.router with refusing } :=
      goOn_of_silent rfl
    rw [hset]
    exact h.setRouter ⟨rfl, rfl, rfl⟩ rfl rfl
  | hangUp =>
    have hset : circuit.step tell (.line .hangUp) = circuit.setRouter circuit.router.hangUp :=
      goOn_of_silent rfl
    rw [hset]
    exact h.setRouter circuit.router.rewritten_hangUp rfl rfl

theorem step (htell : tell.Candid count) (move : Move) : (circuit.step tell move).Balanced := by
  cases move with
  | line move => exact h.line htell move
  | beginSend bytes failure =>
    unfold Circuit.step
    dsimp only
    split
    · exact ⟨h.wired, h.tally, h.counted, h.framer, h.found⟩
    · exact h
  | finishSend index =>
    unfold Circuit.step
    dsimp only
    split
    · exact h
    · exact h.goOn (Link.performed_finishSend htell _ _ _)
  | takeWrite => exact h.takeWrite
  | nextRequest => exact h.nextRequest

theorem run (htell : tell.Candid count) (moves : List Move) :
    (circuit.run tell moves).Balanced := by
  induction moves generalizing circuit with
  | nil => exact h
  | cons move moves ih => exact ih (h.step htell move)

/-! ## What there is to be had -/

/-- What the router has found and what it will find is what the framer finds in all that it was fed
and what it will be fed. -/
theorem requests_awaiting : circuit.requests.map Prod.snd ++ circuit.router.awaiting =
    RouterEnd.packetsOf ((Framer.fresh .hostToRouter).feed
      (circuit.framed.map Prod.snd ++ circuit.router.written)).1 := by
  rw [RouterEnd.awaiting, ← List.append_assoc, h.found, h.framer, RouterEnd.packetsOf_feed_append]

/-- With one connection, that is all that was ever sent. -/
theorem taken_written (hconnection : circuit.connection ≤ 1) :
    circuit.taken.map Prod.snd ++ circuit.router.written =
      nonEmpty (circuit.sent.map Prod.snd) := by
  have hsame {α : Type} {book : List (Nat × α)}
      (hbook : ∀ e ∈ book, 0 < e.1 ∧ e.1 ≤ circuit.router.connections) :
      onConnection circuit.router.connections book = book.map Prod.snd := by
    apply onConnection_eq_map
    intro e he
    have hconnection : circuit.router.connections ≤ 1 := hconnection
    have := hbook e he
    omega
  rw [← hsame h.tally.taken_mem, ← hsame h.tally.sent_mem]
  exact h.tally.written

end Balanced

/-- The router takes so many more writes. -/
theorem taken_run (tell : Tell) (circuit : Circuit) (n : Nat) :
    (circuit.run tell (List.replicate n .takeWrite)).taken =
      circuit.taken ++ circuit.latest (circuit.router.written.take n) := by
  induction n generalizing circuit with
  | zero => simp [run, latest]
  | succ n ih =>
    have hrun := ih circuit.takeWrite
    rw [taken_takeWrite, written_takeWrite, latest_congr circuit.connection_takeWrite,
      List.append_assoc, ← latest_append, ← take_succ_eq] at hrun
    exact hrun

/-- The router looks for so many more requests. -/
theorem requests_run (tell : Tell) (circuit : Circuit) (n : Nat) :
    (circuit.run tell (List.replicate n .nextRequest)).requests =
      circuit.requests ++ circuit.latest (circuit.router.awaiting.take n) := by
  induction n generalizing circuit with
  | zero => simp [run, latest]
  | succ n ih =>
    obtain ⟨hrequests, hawaiting⟩ := circuit.requests_nextRequest
    have hrun := ih circuit.nextRequest
    rw [hrequests, hawaiting, latest_congr circuit.connection_nextRequest, List.append_assoc,
      ← latest_append, ← take_succ_eq] at hrun
    exact hrun

/-! ## The contract -/

/-- What the router gets of what is sent. -/
structure Delivers (tell : Tell) (circuit : Circuit) : Prop where
  /-- On each connection it has taken the sends from the first to some other, one write for each,
  but for those of no bytes. -/
  taken : ∀ c, onConnection c circuit.taken <+: nonEmpty (onConnection c circuit.sent)
  /-- On the latest one it gets the next of them whenever it takes a write, until it has them
  all. -/
  next : ∀ n, onConnection circuit.connection
      (circuit.run tell (List.replicate n .takeWrite)).taken =
    (nonEmpty (onConnection circuit.connection circuit.sent)).take
      ((onConnection circuit.connection circuit.taken).length + n)
  counted : circuit.line.link.stats.bytesSent = (circuit.sent.map (·.2.length)).sum
  /-- If there was no connection before, if all that was written is requests, and if the router has
  looked for requests only, it finds them all, one whenever it looks. -/
  requests : circuit.connection ≤ 1 → circuit.framed = circuit.taken →
    ∀ ps, List.Forall₂ Packet.WrittenAs ps (nonEmpty (circuit.sent.map Prod.snd)) →
      ∀ n, (circuit.run tell (List.replicate n .nextRequest)).requests.map Prod.snd =
        ps.take (circuit.requests.length + n)

theorem Balanced.delivers (h : circuit.Balanced) : circuit.Delivers tell where
  taken := h.tally.taken_front
  next n := by
    have hwritten : onConnection circuit.connection circuit.taken ++ circuit.router.written =
        nonEmpty (onConnection circuit.connection circuit.sent) := h.tally.written
    rw [taken_run, onConnection_append, latest, onConnection_map, ← hwritten,
      List.take_length_add_append]
  counted := h.counted
  requests hconnection hframed ps hps n := by
    have hframes := hps.imp fun _ _ hp => hp.validFrame
    have hfound := h.requests_awaiting
    rw [hframed, h.taken_written hconnection, RouterEnd.packetsOf_feed hframes] at hfound
    rw [requests_run, List.map_append, map_snd_latest, ← hfound, ← List.length_map Prod.snd,
      List.take_length_add_append]

/-- **The router gets what is sent**, whole, in order, each send once and nothing else, after any
moves and for observers that make any calls; what is counted are the sends that have said that they
succeeded. -/
theorem writes_delivered (observers : Observers) (depth : Nat) (moves : List Move) :
    let tell := observers.tell depth
    (run tell moves {}).Delivers tell :=
  (Balanced.start.run (observers.candid_tell depth) moves).delivers

/-- A send that is overtaken by another, a send of no bytes, and one that fails. The router has
found the first request already. -/
theorem writes_delivered_overtaken :
    let slow : Packet := .jigInfoRequest { command := 0x01, localTime := 32400, unixTime := 0 }
    let fast : Packet := .dfuRequest { unixTime := 0, totalLength := 5 }
    let observers : Observers := { count := 1 }
    let tell := observers.tell 0
    let moves : List Move :=
      [.line (.call (.connect [])), .beginSend slow.layout, .line (.call (.send fast.layout)),
        .line (.call (.send [])), .finishSend 0, .line (.call (.send slow.layout (some "gone"))),
        .nextRequest]
    let circuit := run tell moves {}
    circuit.connection ≤ 1 ∧ circuit.framed = circuit.taken ∧
    circuit.sent = [(1, fast.layout), (1, []), (1, slow.layout)] ∧
    circuit.line.link.stats.bytesSent = 21 ∧
    (circuit.run tell (List.replicate 1 .nextRequest)).requests.map Prod.snd =
      [fast, slow].take (circuit.requests.length + 1) := by
  intro slow fast observers tell moves circuit
  have hconnection : circuit.connection ≤ 1 := by decide +kernel
  have hframed : circuit.framed = circuit.taken := by decide +kernel
  have hsent : circuit.sent = [(1, fast.layout), (1, []), (1, slow.layout)] := by decide +kernel
  have hwritten : List.Forall₂ Packet.WrittenAs [fast, slow]
      (nonEmpty (circuit.sent.map Prod.snd)) := by
    rw [hsent]
    exact .cons ⟨rfl, rfl, rfl⟩ (.cons ⟨rfl, rfl, rfl⟩ .nil)
  have h := writes_delivered observers 0 moves
  exact ⟨hconnection, hframed, hsent, by decide +kernel,
    h.requests hconnection hframed _ hwritten 1⟩

end Circuit
end SensorLink
