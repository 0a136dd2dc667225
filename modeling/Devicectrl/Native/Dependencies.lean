import Devicectrl.ForStd.System
import Devicectrl.Native.Dispatch

/-!
# The dependency automation

`start_automation` of `automations/dependencies.rs`, cut where it awaits. It listens to the
hook channel, to which its own requests send hooks again.
-/

namespace Devicectrl.Dependencies

/-- `config.iter().find(|d| d.dependent_id == id)`. -/
def find (config : DependencyAutomationConfig) (id : DeviceId) : Option DependencyRelationship :=
  config.find? fun d => d.dependentId = id

/-- The request with which the automation answers a hook, and the context of its failure. -/
def onEvent (config : DependencyAutomationConfig) : Hook → Option (UpdateRequest × String)
  | .deviceUpdateDispatch request =>
    match find config request.deviceId, request.update with
    | some dependency, .power .on =>
      some (⟨dependency.dependencyId, .power .on⟩, "failed to process dependent update request")
    | _, _ => none
  | .deviceStateUpdate update =>
    -- Two `if`s of the source, on states that exclude each other
    match find config update.deviceId, update.newState with
    | some dependency, .switch ⟨.on⟩ =>
      some (⟨dependency.dependencyId, .power .on⟩, "failed to process dependent update request")
    | some dependency, .switch ⟨.off⟩ =>
      some (⟨dependency.dependencyId, .power .off⟩, "failed to process dependent state update")
    | _, _ => none
  | .sceneActivate _ => none

/-- Where the automation is. `returned` is its end, which is always an error. -/
inductive Automation where
  | spawned
  | receiving (receiver : Broadcast.Receiver)
  | requesting (receiver : Broadcast.Receiver) (request : UpdateRequest) (context : String)
  | dispatching (receiver : Broadcast.Receiver) (device : Device) (context : String)
  | returned (error : Error)
  deriving DecidableEq

/-- `dispatched` is what the device's own controller answers. -/
inductive Label where
  | poll
  | dispatched (outcome : Except Error Unit)

/-- The automation ends with an error and drops its receiver. -/
def leave (app : AppState) (error : Error) : AppState × Automation :=
  ({ app with hooks := { app.hooks with sender := app.hooks.sender.dropReceiver } },
    .returned error)

/-- One part of `start_automation`. -/
def startAutomation (config : DependencyAutomationConfig) (app : AppState) :
    Automation → Label → Option (AppState × Automation)
  | .spawned, .poll =>
    -- Hooks that were sent before are not received
    let (sender, receiver) := app.hooks.sender.resubscribe
    some ({ app with hooks := { app.hooks with sender } }, .receiving receiver)
  | .receiving receiver, .poll =>
    match app.hooks.sender.recv receiver with
    | none => none
    -- `recv().await?`: to lag is an error like any other
    | some (.error e, _) => some (leave app [e.message])
    | some (.ok event, receiver) =>
      match onEvent config event with
      | none => some (app, .receiving receiver)
      | some (request, context) => some (app, .requesting receiver request context)
  -- `process_update_request` up to the dispatch, which may take any time
  | .requesting receiver request context, .poll =>
    match withContext context (beginUpdateRequest request app) with
    | .error e => some (leave app e)
    | .ok (device, app) => some (app, .dispatching receiver device context)
  | .dispatching receiver device context, .dispatched outcome =>
    match withContext context (Controllers.dispatchUpdate app device outcome) with
    | .error e => some (leave app e)
    | .ok () => some (app, .receiving receiver)
  | _, _ => none

/-- The automation holds the devices lock for reading. -/
def Automation.isReader : Automation → Bool
  | .dispatching .. => true
  | _ => false

/-- The request that the automation makes when it is polled. -/
def Automation.request? : Automation → Option UpdateRequest
  | .requesting _ request _ => some request
  | _ => none

/-- The automation's own receiver. -/
def Automation.receiver? : Automation → Option Broadcast.Receiver
  | .receiving receiver => some receiver
  | .requesting receiver .. => some receiver
  | .dispatching receiver .. => some receiver
  | _ => none

/-! ## The automation among other tasks -/

/-- The state the automation shares, and the automation. `requests` are the update requests it
has made and `heard` the hooks other tasks sent while it listened; no step reads them. -/
structure State where
  app : AppState
  automation : Automation
  requests : List UpdateRequest
  heard : List Hook

/-- The automation goes on, or another task does. -/
inductive Act where
  | other (task : Task)
  | own (label : Label)

/-- Whether it is the automation that goes on. -/
def Act.isOwn : Act → Bool
  | .own _ => true
  | .other _ => false

/-- The state that `main` starts the automation in. -/
def initial (devices : Devices) (controllers : Controllers) : State :=
  ⟨.new devices controllers, .spawned, [], []⟩

/-- While the automation holds the devices lock no other task stores a state. -/
def runOther (app : AppState) (automation : Automation) (task : Task) : Option AppState :=
  if automation.isReader = true ∧ task.isWriter = true then none else task.run app

/-- One action. What other tasks announce is heard while the automation has a receiver. -/
def exec (config : DependencyAutomationConfig) (st : State) : Act → Option State
  | .other task =>
    (runOther st.app st.automation task).map fun app =>
      { st with
        app
        heard := if st.automation.receiver?.isSome then st.heard ++ task.hooks else st.heard }
  | .own label =>
    (startAutomation config st.app st.automation label).map fun p =>
      { st with
        app := p.1
        automation := p.2
        requests := st.requests ++ st.automation.request?.toList }

/-- A run of the automation among other tasks. -/
abbrev run (config : DependencyAutomationConfig) (st : State) (as : List Act) : Option State :=
  Lts.run (exec config) st as

end Devicectrl.Dependencies
