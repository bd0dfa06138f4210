/-!
# States of a link

A link is closed, on its way up, up, or on its way down. What may follow what is `LinkState.Edge`: a
link comes up in two steps, goes down in two when it is closed, and in one when it breaks or when
the router does not take the connection.
-/

namespace SensorLink

/-- The state of a link. -/
inductive LinkState where
  | disconnected
  | connecting
  | connected
  | closing
  deriving DecidableEq, Repr, Inhabited

namespace LinkState

/-- The name of a state. -/
def name : LinkState → String
  | .disconnected => "Disconnected"
  | .connecting => "Connecting"
  | .connected => "Connected"
  | .closing => "Closing"

/-- The state of a name. -/
def ofName? : String → Option LinkState
  | "Disconnected" => some .disconnected
  | "Connecting" => some .connecting
  | "Connected" => some .connected
  | "Closing" => some .closing
  | _ => none

/-- The changes of state that a link makes. -/
inductive Edge : LinkState → LinkState → Prop where
  | begin : Edge .disconnected .connecting
  | accepted : Edge .connecting .connected
  | refused : Edge .connecting .disconnected
  | closing : Edge .connected .closing
  | closed : Edge .closing .disconnected
  | lost : Edge .connected .disconnected

end LinkState
end SensorLink
