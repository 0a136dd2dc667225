import Devicectrl.Native.Main
import Devicectrl.Spec.DependencyAutomation

/-!
# What ends the server process

An error of the dependency automation ends `start_automations`, and with it `main`.

## Key results

- `survives_iff`: the process survives everything the dependency automation does exactly when
  each of its steps succeeds
-/

namespace Devicectrl.Process

open Dependencies (Automation WellFormed startAutomation_cases runOther_eq)

variable {config : AutomationsConfig} {p p' : Process} {a : Act} {as : List Act}

/-! ## Survival -/

/-- The dependency automation has not returned, and an error with which `start_automations` or
`main` has ended is that of another task. -/
structure Survives (p : Process) : Prop where
  dependencies : ∀ e, p.dependencies ≠ some (.returned e)
  automations : ∀ e, p.automations = some (.error e) → p.sunset = some (.error e)
  main : ∀ e, p.main = some (.error e) → p.servers = some (.error e) ∨ p.sunset = some (.error e)

/-- An action of the dependency automation succeeds: it is not more hooks behind than the
channel holds, asks for a configured device, and its dispatch succeeds. -/
def Succeeds (p : Process) : Act → Prop
  | .dependencies label => ∀ k ∈ p.dependencies, Dependencies.Succeeds p.app k label
  | _ => True

/-- Whether an action succeeds can be decided. -/
instance (p : Process) (a : Act) : Decidable (p.Succeeds a) := by
  unfold Succeeds
  split <;> infer_instance

/-- Every action of a run from `p` succeeds. -/
abbrev RunSucceeds (config : AutomationsConfig) (p : Process) (as : List Act) : Prop :=
  Lts.Along (exec config) Succeeds p as

/-! ## Steps -/

/-- A step of the process. -/
inductive Step (config : AutomationsConfig) (p : Process) : Act → Process → Prop
  | other {task app'} (h : task.run p.app = some app') :
      Step config p (.other task) { p with app := app' }
  | dependencies {relationships k l app' k'} (ho : p.automations = none)
      (hk : p.dependencies = some k) (h : Dependencies.Step relationships p.app k l app' k') :
      Step config p (.dependencies l) { p with app := app', dependencies := some k' }
  | sunset {output} (ho : p.automations = none) :
      Step config p (.sunset output) { p with sunset := some output }
  | servers {output} : Step config p (.servers output) { p with servers := some output }
  | startAutomations {next tasks result} (ho : p.automations = none)
      (h : JoinSet.joinNext p.automationOutput p.automationTasks next = some (tasks, result)) :
      Step config p (.startAutomations next)
        { p with automationTasks := tasks, automations := result }
  | main {next tasks result}
      (h : JoinSet.joinNext p.mainOutput p.mainTasks next = some (tasks, result)) :
      Step config p (.main next) { p with mainTasks := tasks, main := result }

/-- `main` runs until it returns. -/
theorem exec_cases (h : exec config p a = some p') : p.main = none ∧ Step config p a p' := by
  simp only [exec] at h
  split at h
  · exact nomatch h
  · rename_i hmain
    refine ⟨by simpa using hmain, ?_⟩
    cases a with
    | other task =>
      simp only at h
      -- No state is stored while a dependency automation reads the table
      split at h
      · obtain ⟨app', ht, rfl⟩ := Option.map_eq_some_iff.mp h
        exact .other ht
      · obtain ⟨app', ht, rfl⟩ := Option.map_eq_some_iff.mp h
        exact .other (runOther_eq ht)
    | dependencies l =>
      simp only at h
      split at h
      · exact nomatch h
      · rename_i ho
        -- There is a dependency automation, and it makes a step
        split at h
        · rename_i relationships k hc hk
          obtain ⟨q, hq, rfl⟩ := Option.map_eq_some_iff.mp h
          exact .dependencies (by simpa using ho) hk (startAutomation_cases hq)
        · exact nomatch h
    | sunset output =>
      simp only at h
      split at h
      · exact nomatch h
      · rename_i ho
        cases h
        exact .sunset (by simpa using fun hs => ho (.inl hs))
    | servers output =>
      simp only at h
      split at h
      · exact nomatch h
      · cases h
        exact .servers
    | startAutomations next =>
      simp only at h
      split at h
      · exact nomatch h
      · -- the tasks are joined while `start_automations` has not returned
        rename_i ho
        obtain ⟨q, hq, rfl⟩ := Option.map_eq_some_iff.mp h
        exact .startAutomations (by simpa using ho) hq
    | main next =>
      obtain ⟨q, hq, rfl⟩ := Option.map_eq_some_iff.mp h
      exact .main hq

/-! ## The invariant -/

/-- The automation is as it should be, and each of the two waiting tasks has the error of a
task it waited for. -/
structure Invariant (p : Process) : Prop where
  wellFormed : ∀ k, p.dependencies = some k → WellFormed p.app k
  automations : ∀ e, p.automations = some (.error e) →
    p.sunset = some (.error e) ∨ p.dependencies = some (.returned e)
  main : ∀ e, p.main = some (.error e) →
    p.servers = some (.error e) ∨ p.automations = some (.error e)

/-- The invariant of the process as `main` starts it. -/
theorem Invariant.initial (config : AutomationsConfig) (devices : Devices)
    (controllers : Controllers) : Invariant (initial config devices controllers) := by
  refine ⟨fun k hk => ?_, nofun, nofun⟩
  obtain ⟨-, -, rfl⟩ := Option.map_eq_some_iff.mp hk
  exact .initial devices controllers

/-- One action of the process keeps the invariant. -/
theorem Invariant.exec (hi : Invariant p) (h : exec config p a = some p') : Invariant p' := by
  obtain ⟨hmain, hstep⟩ := exec_cases h
  cases hstep with
  | other ht =>
    exact ⟨fun k hk => (hi.wellFormed k hk).task ht, hi.automations, hi.main⟩
  | dependencies ho hk hd =>
    refine ⟨fun k' hk' => ?_, fun e he => ?_, hi.main⟩
    · cases hk'
      exact hd.wellFormed (hi.wellFormed _ hk)
    · have he' : p.automations = some (.error e) := he
      rw [ho] at he'
      exact nomatch he'
  | sunset ho =>
    refine ⟨hi.wellFormed, fun e he => ?_, hi.main⟩
    have he' : p.automations = some (.error e) := he
    rw [ho] at he'
    exact nomatch he'
  | servers =>
    refine ⟨hi.wellFormed, hi.automations, fun e he => ?_⟩
    have he' : p.main = some (.error e) := he
    rw [hmain] at he'
    exact nomatch he'
  | startAutomations ho hj =>
    refine ⟨hi.wellFormed, fun e he => ?_, fun e he => ?_⟩
    · cases he
      -- The error is that of the task that was joined
      obtain ⟨task, -, hout⟩ := JoinSet.joinNext_error hj
      cases task with
      | sunsetLightTemp => exact .inl hout
      | dependencies =>
        simp only [automationOutput] at hout
        split at hout
        · rename_i e' hk
          cases hout
          exact .inr hk
        · exact nomatch hout
    · have he' : p.main = some (.error e) := he
      rw [hmain] at he'
      exact nomatch he'
  | main hj =>
    refine ⟨hi.wellFormed, hi.automations, fun e he => ?_⟩
    cases he
    obtain ⟨task, -, hout⟩ := JoinSet.joinNext_error hj
    cases task with
    | startServers => exact .inl hout
    | startAutomations => exact .inr hout

/-- As long as the automation has not returned, the process has survived it. -/
theorem Invariant.survives (hi : Invariant p) (h : ∀ e, p.dependencies ≠ some (.returned e)) :
    p.Survives := by
  have hautomations : ∀ e, p.automations = some (.error e) → p.sunset = some (.error e) :=
    fun e he => (hi.automations e he).resolve_right (h e)
  exact ⟨h, hautomations, fun e he => (hi.main e he).imp_right (hautomations e)⟩

/-- A step from a state in which the automation has not returned makes it return exactly when
it does not succeed. -/
theorem succeeds_iff (hi : Invariant p) (hne : ∀ e, p.dependencies ≠ some (.returned e))
    (h : exec config p a = some p') :
    Succeeds p a ↔ ∀ e, p'.dependencies ≠ some (.returned e) := by
  obtain ⟨-, hstep⟩ := exec_cases h
  cases hstep with
  | other ht => exact ⟨fun _ => hne, fun _ => trivial⟩
  -- The dependency automation is the only one whose success is asked about
  | dependencies ho hk hd =>
    have hiff := hd.succeeds_iff (hi.wellFormed _ hk)
    constructor
    · intro hs e he
      exact hiff.mp (hs _ hk) e (Option.some.inj he)
    · intro hreturn k hk'
      rw [hk] at hk'
      cases hk'
      exact hiff.mpr fun e he => hreturn e (by rw [he])
  | sunset ho => exact ⟨fun _ => hne, fun _ => trivial⟩
  | servers => exact ⟨fun _ => hne, fun _ => trivial⟩
  | startAutomations ho hj => exact ⟨fun _ => hne, fun _ => trivial⟩
  | main hj => exact ⟨fun _ => hne, fun _ => trivial⟩

/-- Once it has returned the automation stays where it is. -/
theorem returned_exec {e : Error} (he : p.dependencies = some (.returned e))
    (h : exec config p a = some p') : p'.dependencies = some (.returned e) := by
  obtain ⟨-, hstep⟩ := exec_cases h
  cases hstep with
  | other ht => exact he
  | dependencies ho hk hd =>
    rw [he] at hk
    cases hk
    cases hd
  | sunset ho => exact he
  | servers => exact he
  | startAutomations ho hj => exact he
  | main hj => exact he

/-! ## Runs -/

/-- From any such state the process survives exactly if its parts go on. -/
theorem survives_iff_of_invariant (hi : Invariant p)
    (hne : ∀ e, p.dependencies ≠ some (.returned e)) (h : run config p as = some p') :
    p'.Survives ↔ RunSucceeds config p as := by
  -- The automation has not returned after a step when it had not before and the step succeeds
  have hstep : ∀ q a q', Invariant q → exec config q a = some q' →
      ((∀ e, q'.dependencies ≠ some (.returned e)) ↔
        (∀ e, q.dependencies ≠ some (.returned e)) ∧ Succeeds q a) := by
    intro q a q' hq ha
    constructor
    · intro hq'
      have hbefore : ∀ e, q.dependencies ≠ some (.returned e) := fun e he =>
        hq' e (returned_exec he ha)
      exact ⟨hbefore, (succeeds_iff hq hbefore ha).mpr hq'⟩
    · rintro ⟨hbefore, hs⟩
      exact (succeeds_iff hq hbefore ha).mp hs
  have hiff := Lts.run_iff_along _ (fun _ _ _ hq ha => hq.exec ha) hstep h hi
  have hi' : Invariant p' := Lts.run_invariant _ (fun _ _ _ hq ha => hq.exec ha) h hi
  constructor
  · intro hs
    exact (hiff.mp hs.dependencies).2
  · intro hrun
    exact hi'.survives (hiff.mpr ⟨hne, hrun⟩)

/-- In every run the process survives what the dependency automation does exactly when each
step of the automation succeeds. -/
theorem survives_iff (config : AutomationsConfig) (devices : Devices) (controllers : Controllers)
    (as : List Act) (p : Process)
    (h : run config (initial config devices controllers) as = some p) :
    p.Survives ↔ RunSucceeds config (initial config devices controllers) as := by
  refine survives_iff_of_invariant (.initial config devices controllers) (fun e he => ?_) h
  obtain ⟨-, -, hk⟩ := Option.map_eq_some_iff.mp he
  exact nomatch hk

end Devicectrl.Process

/-! ## A dependency that is not configured -/

namespace Devicectrl.Process.Demo

def lamp : DeviceId := ⟨"lamp"⟩

def socket : DeviceId := ⟨"socket"⟩

/-- An automation of one dependency and no sunset. -/
def config : AutomationsConfig := ⟨none, some [⟨lamp, socket⟩]⟩

def controllers : Controllers := ⟨true, false, false, false⟩

def device (id : DeviceId) : Device :=
  ⟨id, .switch, .unknown, .simple ⟨⟨[7]⟩⟩⟩

def lampOnly : Devices := AList.insert lamp (device lamp) ∅

def both : Devices := AList.insert socket (device socket) lampOnly

/-- Somebody turns the lamp on, and the automation asks for the socket. -/
def turnOn : List Act :=
  [.dependencies .poll, .other (.sendHook (.deviceUpdateDispatch ⟨lamp, .power .on⟩)),
    .dependencies .poll, .dependencies .poll]

/-- The socket is turned on too. -/
def answered : List Act :=
  turnOn ++ [.dependencies (.dispatched (.ok ()))]

/-- The error of the automation is passed on. -/
def ended : List Act :=
  turnOn ++ [.startAutomations (some .dependencies), .main (some .startAutomations)]

end Devicectrl.Process.Demo

namespace Devicectrl.Process

open Demo

/-- With the socket configured the process goes on. -/
theorem survives_iff_demo :
    ∃ p, run Demo.config (initial Demo.config both controllers) answered = some p ∧ p.Survives :=
  ⟨_, rfl, (survives_iff Demo.config both controllers answered _ rfl).mpr (by decide)⟩

/-- The socket is not among the devices: the request for it ends `main`. -/
theorem not_survives :
    ¬∀ as p, run Demo.config (initial Demo.config lampOnly controllers) as = some p →
      p.Survives := by
  intro h
  have hp := h ended _ rfl
  rcases hp.main _ rfl with hs | hs
  · exact nomatch hs
  · exact nomatch hs

end Devicectrl.Process
