import Devicectrl.ForStd.JoinSet
import Devicectrl.Native.Dependencies

/-!
# The server process

`start_automations` of `automations/mod.rs` and `main` once it has set up its state: `main`
waits for the servers and for `start_automations`, which waits for the automations.
-/

namespace Devicectrl

open Dependencies (Automation)

/-- The tasks of `start_automations`, by the fields of `AutomationsConfig`. -/
inductive AutomationTask where
  | sunsetLightTemp
  | dependencies
  deriving DecidableEq

/-- The tasks of `main`. -/
inductive MainTask where
  | startServers
  | startAutomations
  deriving DecidableEq

/-- `spawn_automations!`: the tasks of the automations that are configured. -/
def spawnAutomations (config : AutomationsConfig) : List AutomationTask :=
  (if config.sunsetLightTemp.isSome then [.sunsetLightTemp] else []) ++
    if config.dependencies.isSome then [.dependencies] else []

/-- The state of the process. What `start_servers` and the sunset automation do to `app` is
among the steps of the other tasks; `servers` and `sunset` are how the two have ended.
`automations` and `main` are the results of `start_automations` and of `main`, and the lists
the tasks that each has yet to join. -/
structure Process where
  app : AppState
  dependencies : Option Automation
  sunset : Option (Except Error Unit)
  servers : Option (Except Error Unit)
  automationTasks : List AutomationTask
  automations : Option (Except Error Unit)
  mainTasks : List MainTask
  main : Option (Except Error Unit)

namespace Process

/-- `main` has loaded its configuration and spawned its tasks. -/
def initial (config : AutomationsConfig) (devices : Devices) (controllers : Controllers) :
    Process where
  app := .new devices controllers
  dependencies := config.dependencies.map fun _ => .spawned
  sunset := none
  servers := none
  automationTasks := spawnAutomations config
  automations := none
  mainTasks := [.startServers, .startAutomations]
  main := none

/-- How the task of an automation has ended. -/
def automationOutput (p : Process) : AutomationTask → Option (Except Error Unit)
  | .sunsetLightTemp => p.sunset
  | .dependencies =>
    match p.dependencies with
    | some (.returned e) => some (.error e)
    | _ => none

/-- How a task of `main` has ended. -/
def mainOutput (p : Process) : MainTask → Option (Except Error Unit)
  | .startServers => p.servers
  | .startAutomations => p.automations

/-- What the tasks of the process do. How the sunset automation and the servers end is left open. -/
inductive Act where
  | other (task : Task)
  | dependencies (label : Dependencies.Label)
  | sunset (output : Except Error Unit)
  | servers (output : Except Error Unit)
  | startAutomations (next : Option AutomationTask)
  | main (next : Option MainTask)

/-- The automations run until `start_automations` returns and drops its `JoinSet`. -/
def exec (config : AutomationsConfig) (p : Process) (a : Act) : Option Process :=
  -- The process exits when `main` returns
  if p.main.isSome = true then none
  else
    match a with
    | .other task =>
      match p.dependencies with
      | none => (task.run p.app).map fun app => { p with app }
      | some automation =>
        (Dependencies.runOther p.app automation task).map fun app => { p with app }
    | .dependencies label =>
      if p.automations.isSome = true then none
      else
        match config.dependencies, p.dependencies with
        | some relationships, some automation =>
          (Dependencies.startAutomation relationships p.app automation label).map fun q =>
            { p with app := q.1, dependencies := some q.2 }
        | _, _ => none
    | .sunset output =>
      if p.automations.isSome = true ∨ p.sunset.isSome = true ∨ config.sunsetLightTemp = none then
        none
      else some { p with sunset := some output }
    | .servers output =>
      if p.servers.isSome = true then none else some { p with servers := some output }
    | .startAutomations next =>
      if p.automations.isSome = true then none
      else
        (JoinSet.joinNext p.automationOutput p.automationTasks next).map fun q =>
          { p with automationTasks := q.1, automations := q.2 }
    | .main next =>
      (JoinSet.joinNext p.mainOutput p.mainTasks next).map fun q =>
        { p with mainTasks := q.1, main := q.2 }

/-- A run of the process. -/
abbrev run (config : AutomationsConfig) (p : Process) (as : List Act) : Option Process :=
  Lts.run (exec config) p as

end Process

end Devicectrl
