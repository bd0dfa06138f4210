import SensorLink.Router.Report

/-!
# Outcomes

What a command that went well has to show.
-/

namespace SensorLink

open Json (nat)

/-- What a successful command brings back. -/
inductive Outcome where
  /-- The request was sent, and nothing was to come back. -/
  | sent
  | response (response : DownlinkResponse)
  /-- The router's answer, and what it says if it can be read. -/
  | routerAnswer (command : String) (response : JigInfoResponse) (reply : Option RouterReply)
  /-- An uplink, and what it says if the module's handler can read it. -/
  | uplink (uplink : UplinkNotification) (decoded : Option Json)
  /-- New firmware was taken in so many blocks. -/
  | updated (blocks length : Nat)
  deriving Repr

/-- An outcome as a JSON value. -/
def Outcome.report : Outcome → Json
  | .sent => .object [("outcome", .string "sent")]
  | .response r => .object [("outcome", .string "response"), ("response", r.report)]
  | .routerAnswer command r reply =>
    .object [("outcome", .string "router_response"), ("command", .string command),
      ("response", r.report), ("reply", .ofOption (·.report) reply)]
  | .uplink u decoded =>
    .object [("outcome", .string "uplink"), ("uplink", u.report), ("decoded", .ofOption id decoded)]
  | .updated blocks length =>
    .object [("outcome", .string "firmware_updated"), ("blocks", nat blocks),
      ("firmware_len", nat length)]

end SensorLink
