import Devicectrl.Spec.KryptonConn
import Devicectrl.Spec.RequestBroadcast
import Devicectrl.Spec.SimpleRuns

/-!
# Who gets a request

The controller keeps a receiver of its own, so the broadcast of a request never fails, and
it reaches every connection that is open, whether or not one of them is the device's.

## Key results

- `requests_reach`: `send_update` and `send_query` always succeed, and queue the request for
  every open connection
-/

namespace Devicectrl

namespace HandleConn

variable {κ ν ℓ : Type} {H : HandleConn κ ν ℓ}

/-- `controller'` is the controller after a request that every open connection has yet to
read, after whatever it had to read before. -/
def QueuedForAll (H : HandleConn κ ν ℓ) (st : System.State Server (Connection κ))
    (request : DeviceBoundMessage) (controller' : Controller) : Prop :=
  ∀ k ∈ st.comps, H.isOpen k.conn = true →
    controller'.requestSender.unread k.requestReceiver =
      st.shared.controller.requestSender.unread k.requestReceiver ++ [request]

/-- In every reachable state a request is sent, and queued for every open connection. -/
def RequestsReach (H : HandleConn κ ν ℓ) (app : AppState) : Prop :=
  ∀ as st, H.system.run (HandleConn.initial app) as = some st →
    (∀ request : UpdateRequest, ∃ controller',
      st.shared.controller.sendUpdate request = .ok controller' ∧
        H.QueuedForAll st (.updateCommand ⟨request.deviceId, request.update⟩) controller') ∧
    ∀ device : Device, ∃ controller',
      st.shared.controller.sendQuery device = .ok controller' ∧
        H.QueuedForAll st (.stateQuery device.id) controller'

/-- The requests reach their device's connection for every controller that handles lawfully. -/
theorem Lawful.requestsReach (hH : H.Lawful) (app : AppState) : H.RequestsReach app := by
  intro as st h
  have hs := Subscribed.run hH h
  -- The receiver of the controller itself is enough
  have hpos : 0 < st.shared.controller.requestSender.receivers := by
    have := hs.receivers
    omega
  have hsend : ∀ m : DeviceBoundMessage, ∃ controller',
      st.shared.controller.send m = .ok controller' ∧ H.QueuedForAll st m controller' := by
    intro m
    refine ⟨_, Controller.send_of_pos hpos m, fun k hk _ => ?_⟩
    exact Broadcast.Channel.unread_send (hs.next k hk) m
  exact ⟨fun request => hsend _, fun device => hsend _⟩

end HandleConn

/-- `send_update` and `send_query` of both controllers always succeed, and the request is
queued for every connection that is open at the time. -/
theorem requests_reach :
    (∀ env key app, (Simple.handleConn env key).RequestsReach app) ∧
      ∀ env globalConfig deviceCerts app,
        (Krypton.handleConn env globalConfig deviceCerts).RequestsReach app :=
  ⟨fun env key app => (Simple.handleConn_lawful env key).requestsReach app,
    fun env globalConfig deviceCerts app =>
      (Krypton.handleConn_lawful env globalConfig deviceCerts).requestsReach app⟩

/-- Success does not tell that the device is there: with no connection at all the controller
reports it too. -/
theorem sendUpdate_not_delivered :
    ¬∀ (as : List Simple.Act) (st : System.State Server (Connection Simple.Conn)),
      (Simple.handleConn Simple.Demo.env Simple.Demo.privateKey).system.run
          (HandleConn.initial Simple.Demo.app) as = some st →
        ∀ (request : UpdateRequest) (controller' : Controller),
          st.shared.controller.sendUpdate request = .ok controller' →
            ∃ k ∈ st.comps, k.conn.isOpen = true ∧
              (k.conn.device = none ∨ k.conn.device = some request.deviceId) := by
  intro h
  obtain ⟨k, hk, -⟩ := h [] _ rfl ⟨Simple.Demo.lamp, .power .on⟩ _ rfl
  exact absurd hk List.not_mem_nil

end Devicectrl
