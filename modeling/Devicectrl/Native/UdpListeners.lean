import Devicectrl.Native.Ingestion

/-!
# The UDP listeners

`start_listening` of `controllers/tplink.rs` and of `controllers/govee.rs`, cut where it awaits:
for a datagram, for the table, and within `process_update_notification`. The two differ in what
`receive` makes of a datagram. The loop has no end: an error is logged.
-/

namespace Devicectrl

/-- The controllers that listen on a socket of their own. -/
inductive UdpController where
  | tplink
  | govee
  deriving DecidableEq, Repr

/-- What the listener of a controller receives. -/
def UdpController.incoming : UdpController → Ipv4Addr → List UInt8 → Incoming
  | .tplink, addr, datagram => .tplink addr datagram
  | .govee, addr, datagram => .govee addr datagram

/-- `start_listening`, by where it awaits. -/
inductive StartListening where
  | receiving
  /-- `devices.read()`, with a datagram and its sender. -/
  | reading (addr : Ipv4Addr) (datagram : List UInt8)
  | processing (call : NotificationCall)
  deriving DecidableEq

/-- What a listener awaits ends. -/
inductive ListenLabel where
  /-- What `recv_from` yields. -/
  | received (result : Except Error (Ipv4Addr × List UInt8))
  | poll
  deriving DecidableEq

/-- One part of a turn of `start_listening`. -/
def StartListening.step (env : IncomingEnv) (controller : UdpController) (app : AppState) :
    StartListening → ListenLabel → Option (AppState × StartListening)
  | .receiving, .received (.error _) => some (app, .receiving)
  | .receiving, .received (.ok (addr, datagram)) => some (app, .reading addr datagram)
  | .reading addr datagram, .poll =>
    match (controller.incoming addr datagram).decode env app.devices with
    -- The read guard is dropped before the notification is processed
    | .ok (some update) => some (app, .processing (.store update))
    | _ => some (app, .receiving)
  | .processing call, .poll =>
    match processUpdateNotification app call with
    | (app, .inl call) => some (app, .processing call)
    | (app, .inr _) => some (app, .receiving)
  | _, _ => none

end Devicectrl
