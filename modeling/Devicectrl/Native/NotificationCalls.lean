import Devicectrl.ForStd.System
import Devicectrl.Native.Dispatch

/-!
# Concurrent notifications

Any number of calls of `process_update_notification` on one server, whoever makes them:
connections, UDP listeners or clients.
-/

namespace Devicectrl

/-- A call of `process_update_notification`, with what it has left to do or its result.
`stamp` is the time at which it stored its state; no step reads it. -/
structure Reporter where
  update : UpdateNotification
  call : NotificationCall ⊕ Except Error Unit
  stamp : Option Nat
  deriving DecidableEq

/-- The state the calls share, and the time, in steps of calls. -/
structure Reports where
  app : AppState
  clock : Nat

namespace Reporter

/-- A notification is to be processed. -/
def start (update : UpdateNotification) : Reporter :=
  ⟨update, .inl (.store update), none⟩

/-- The call has returned. -/
def isDone (k : Reporter) : Bool :=
  k.call.isRight

/-- The call has stored its state and has its hook to send. -/
def isSending (k : Reporter) : Bool :=
  match k.call with
  | .inl (.sendHook _) => true
  | _ => false

/-- The call has stored its state and sent its hook. -/
def isSent (k : Reporter) : Bool :=
  match k.call with
  | .inr (.ok ()) => true
  | _ => false

/-- One part of `process_update_notification`. Storing a state is stamped with the time. -/
def step (server : Reports) (k : Reporter) : Option (Reports × Reporter) :=
  match k.call with
  | .inr _ => none
  | .inl call =>
    match call, processUpdateNotification server.app call with
    | .store _, (app, .inl call') =>
      some (⟨app, server.clock + 1⟩, { k with call := .inl call', stamp := some server.clock })
    | _, (app, r) => some (⟨app, server.clock + 1⟩, { k with call := r })

end Reporter

/-- Another task, as long as it reports no state: that is what the calls are for. -/
def Task.isForeign : Task → Bool
  | .storeNotification _ => false
  | .sendHook (.deviceStateUpdate _) => false
  | _ => true

/-- The calls, and the tasks that send other hooks or subscribe to them. -/
def reporters : System Reports Reporter Task UpdateNotification Unit where
  env server task :=
    if task.isForeign then (task.run server.app).map fun app => { server with app } else none
  spawn server update := some (server, .start update)
  step server k _ := k.step server

/-- No call has begun. -/
def reportersInitial (devices : Devices) (controllers : Controllers) :
    System.State Reports Reporter :=
  ⟨⟨.new devices controllers, 0⟩, []⟩

end Devicectrl
