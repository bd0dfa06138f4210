import SensorLink.Link.Reader

/-!
# Connecting to a router

Connecting takes the link up in two steps, and observers are told of both. While the router is being
connected, calls may be made on the link: another connect is refused then, and a close is ignored.
-/

namespace SensorLink.Link

/-- Starts the reader of a connection. Where a later connection has taken its place meanwhile, there
is nothing to read. -/
def startReader (tell : Tell) (connection : Nat) (link : Link) : Link :=
  let reader : LinkReader := { connection, framer := .fresh .routerToHost }
  let link := { link with handle := some connection, readers := reader :: link.readers }
  if link.router.connections = connection then link
  else endReader tell connection .endOfStream link

/-- Connects the link unless it is connected. `inside` is what is done to the link while the router
is being connected. -/
def connectWhile (tell : Tell) (inside : Link → Link) (link : Link) : Except Error Unit × Link :=
  if link.closing then (.error .alreadyConnecting, link)
  else
    match link.state with
    | .connected => (.ok (), link)
    | .connecting => (.error .alreadyConnecting, link)
    | .disconnected | .closing =>
      let link := publish tell .connecting { link with state := .connecting }
      let link := reap link
      let link := link.count fun s => { s with connectionAttempts := s.connectionAttempts + 1 }
      -- The attempt is counted by now, and what is called meanwhile finds the link connecting.
      let link := inside link
      if link.router.refusing then
        (.error (.system .connectionRefused), enter tell .disconnected link)
      else
        let router := link.router.accept
        let link := enter tell .connected { link with router, hasWriter := true }
        -- The reader comes last: observers told of the connection may have ended it already.
        (.ok (), startReader tell router.connections link)

mutual

/-- Makes a call. -/
def perform (tell : Tell) : Call → Link → Answer × Link
  | .connect during, link =>
    let (result, link) := connectWhile tell (performAll tell .duringConnect during) link
    (.connected result, link)
  | .close, link => (.closed, close tell link)
  | .send bytes failure, link =>
    let (success, link) := send tell bytes failure link
    (.sent success, link)
  | .state, link => (.state link.state, link)

/-- Makes calls one after another, taking note of each. -/
def performAll (tell : Tell) (note : CallRecord → LinkEvent) : List Call → Link → Link
  | [], link => link
  | call :: calls, link =>
    let (answer, after) := perform tell call link
    let record : CallRecord := { call, state := link.state, hasWriter := link.hasWriter, answer }
    performAll tell note calls (after.record (note record))

end

/-- Connects the link, with calls that are made while the router is being connected. -/
def connect (tell : Tell) (during : List Call) (link : Link) : Except Error Unit × Link :=
  connectWhile tell (performAll tell .duringConnect during) link

end SensorLink.Link
