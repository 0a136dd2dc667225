import Devicectrl.Native.Dependencies
import Devicectrl.Native.Ingestion

/-!
# The dependency automation and the devices

The automation in the server it runs in: clients make update requests, devices are sent commands
and report states, and all of this goes by way of the device table and the hook channel.

The devices lock is left out here, which only adds interleavings.
-/

namespace Devicectrl

/-! ## Commands -/

/-- The request whose command the call's next part hands to the device's controller. -/
def TableCall.commands (app : AppState) : TableCall → TableLabel → List UpdateRequest
  | .request (.dispatching device r), .request (.dispatched outcome) =>
    match Controllers.dispatchUpdate app device outcome with
    | .error _ => []
    | .ok () => [r]
  | _, _ => []

/-- The notification that the call was started for. -/
def TableCall.report? : TableCall → List UpdateNotification
  | .notification _ (.store update) => [update]
  | _ => []

namespace Dependencies

/-- As `TableCall.commands`, after the automation has made `requests`. -/
def Automation.commands (requests : List UpdateRequest) (app : AppState) :
    Automation → Label → List UpdateRequest
  | .dispatching _ device _, .dispatched outcome =>
    match Controllers.dispatchUpdate app device outcome with
    | .error _ => []
    | .ok () => requests.getLast?.toList
  | _, _ => []

/-- What the automation, the clients and the devices share. `requests` are the update requests
that the automation has made, `commands` those whose commands were sent to a device, by whomever,
and `reports` the notifications that devices have sent; no step reads them. -/
structure Plant where
  table : Table
  automation : Automation
  requests : List UpdateRequest
  commands : List UpdateRequest
  reports : List UpdateNotification

/-- What acts on the plant by itself: the automation, or a task of the environment. -/
inductive PlantTask where
  | automation (label : Label)
  | task (task : Task)

/-- The automation, and any number of update requests and of messages from devices. -/
def plant (env : IncomingEnv) (config : DependencyAutomationConfig) :
    System Plant TableCall PlantTask TableMessage TableLabel where
  env plant
    | .automation label =>
      (startAutomation config plant.table.app plant.automation label).map fun p =>
        { plant with
          table := { plant.table with app := p.1 }
          automation := p.2
          requests := plant.requests ++ plant.automation.request?.toList
          -- What it asks for now was announced when it began to ask
          commands := plant.commands ++
            plant.automation.commands plant.requests plant.table.app label }
    | .task task =>
      -- Reports come from the calls below, and from nowhere else
      if task.isForeign then
        (task.run plant.table.app).map fun app => { plant with table := { plant.table with app } }
      else none
  spawn plant message :=
    let call := TableCall.start env plant.table.app message
    some ({ plant with reports := plant.reports ++ call.report? }, call)
  step plant call label :=
    (call.step plant.table label).map fun p =>
      ({ plant with
          table := p.1
          commands := plant.commands ++ call.commands plant.table.app label }, p.2)

/-- The server once it has loaded its devices and is about to start the automation. -/
def plantInitial (devices : Devices) (controllers : Controllers) : System.State Plant TableCall :=
  ⟨⟨⟨.new devices controllers, []⟩, .spawned, [], [], []⟩, []⟩

end Dependencies

end Devicectrl
