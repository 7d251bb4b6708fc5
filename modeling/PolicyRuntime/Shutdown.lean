import PolicyRuntime.DaemonSteps
import PolicyRuntime.EnableSoundness
import PolicyRuntime.StopPath

/-!
# Shutdown

A requested shutdown is a stop reason which never goes away.  From then on every
axis walks through its quick stop into the disabled phase and stays there, and
the loop of `run` is left once an evaluation has disabled every axis.
-/

namespace PolicyRuntime

open SafetySupervisor RobotIoDaemon

variable {D : Type} [FloatingPoint D]

/-! ## Axes under a stop reason -/

/-- The requested shutdown is a stop reason for every axis in use. -/
theorem axisInputs_trigger_of_shutdown
    {supervisor : SafetySupervisor D}
    (hshutdown : supervisor.shutdownRequested = true) (bus : SafetyBusState)
    (pdos : PdoSpan) (nowNs : ℤ) {axis : Axis}
    (haxis : axis.val < supervisor.axisCount) :
    (supervisor.axisInputs bus pdos nowNs axis).trigger = true := by
  apply groupMarks_trigger_of_reason haxis
  intro hnone
  have hrunning := hnone.running
  rw [hshutdown] at hrunning
  contradiction

section Evaluation

variable {setup : SupervisorSetup D} {state : SafetySupervisor D}
  (hstate : Configured setup state)
  (hshutdown : state.shutdownRequested = true)
  (bus : SafetyBusState) (view : Axis → Cia402PdoView) (nowNs : ℤ)
  {axis : Axis} (haxis : axis.val < setup.axes.length)

include hstate hshutdown haxis

/-- One evaluation of one axis during the shutdown. -/
theorem evaluate_of_shutdown :
    ((state.states axis).phase = .running ∧
        ((state.evaluate bus (state.span view) nowNs).1.states axis).phase =
          .quickStop ∧
        (state.evaluate bus (state.span view) nowNs).2.requests axis =
          .quickStop) ∨
      ((state.states axis).phase = .quickStop ∧
        ¬ (state.states axis).stopLatch.TimedOut setup.options nowNs ∧
        ((state.evaluate bus (state.span view) nowNs).1.states axis).phase =
          .quickStop ∧
        (state.evaluate bus (state.span view) nowNs).2.requests axis =
          .quickStop) ∨
      ((state.states axis).phase ≠ .running ∧
        ((state.evaluate bus (state.span view) nowNs).1.states axis).phase =
          .disabled ∧
        (state.evaluate bus (state.span view) nowNs).2.requests axis =
          .disable) := by
  have hin : axis.val < state.axisCount := by
    rw [hstate.axisCount]
    exact haxis
  have hsize : (state.span view).size = state.axisCount := rfl
  have hstep := evaluate_stopStep hstate.configured hsize bus nowNs hin
  have htrigger := axisInputs_trigger_of_shutdown hshutdown bus
    (state.span view) nowNs hin
  have hcases := hstep.of_trigger htrigger
  rw [hstate.options] at hcases
  exact hcases

end Evaluation

/-! ## Runs of the supervisor -/

/-- An evaluation reports the end of the shutdown. -/
def SupervisorStep.Completes (step : SupervisorStep D) : Prop :=
  ∃ result, step.output = .evaluation result ∧
    result.shutdownComplete = true

/-- Shutdown is requested and every axis rests. -/
structure Halted (setup : SupervisorSetup D) (state : SafetySupervisor D) :
    Prop where
  configured : Configured setup state
  requested : state.shutdownRequested = true
  disabled : ∀ axis : Axis, axis.val < setup.axes.length →
    (state.states axis).phase = .disabled

theorem Configured.evaluate_complete_iff
    {setup : SupervisorSetup D} {state : SafetySupervisor D}
    (hstate : Configured setup state) (bus : SafetyBusState)
    (view : Axis → Cia402PdoView) (nowNs : ℤ) :
    (state.evaluate bus (state.span view) nowNs).2.shutdownComplete = true ↔
      state.shutdownRequested = true ∧
        ∀ axis : Axis, axis.val < setup.axes.length →
          (state.evaluate bus (state.span view) nowNs).2.requests axis =
            .disable := by
  have hsize : (state.span view).size = state.axisCount := rfl
  rw [evaluate_shutdownComplete hstate.configured hsize, hstate.axisCount]

/-- The evaluation which completes the shutdown leaves every axis at rest. -/
theorem Halted.of_complete
    {setup : SupervisorSetup D} {state : SafetySupervisor D}
    (hstate : Configured setup state) {bus : SafetyBusState}
    {view : Axis → Cia402PdoView} {nowNs : ℤ}
    (hcomplete : (state.evaluate bus (state.span view)
      nowNs).2.shutdownComplete = true) :
    Halted setup (state.evaluate bus (state.span view) nowNs).1 := by
  rw [hstate.evaluate_complete_iff] at hcomplete
  obtain ⟨hrequested, hdisable⟩ := hcomplete
  refine ⟨hstate.step (.evaluate bus view nowNs), ?_, ?_⟩
  · rw [evaluate_shutdownRequested]
    exact hrequested
  · intro axis haxis
    have hrequest := hdisable axis haxis
    rcases evaluate_of_shutdown hstate hrequested bus view nowNs haxis with
      ⟨_, _, hquick⟩ | ⟨_, _, _, hquick⟩ | ⟨_, hphase, _⟩
    · rw [hquick] at hrequest
      contradiction
    · rw [hquick] at hrequest
      contradiction
    · exact hphase

theorem Halted.evaluate
    {setup : SupervisorSetup D} {state : SafetySupervisor D}
    (hstate : Halted setup state) (bus : SafetyBusState)
    (view : Axis → Cia402PdoView) (nowNs : ℤ) :
    (state.evaluate bus (state.span view) nowNs).2.shutdownComplete =
      true := by
  rw [hstate.configured.evaluate_complete_iff]
  refine ⟨hstate.requested, ?_⟩
  intro axis haxis
  have hphase := hstate.disabled axis haxis
  rcases evaluate_of_shutdown hstate.configured hstate.requested bus view
    nowNs haxis with ⟨hrunning, _⟩ | ⟨hquick, _⟩ | ⟨_, _, hrequest⟩
  · rw [hphase] at hrunning
    contradiction
  · rw [hphase] at hquick
    contradiction
  · exact hrequest

theorem Halted.step
    {setup : SupervisorSetup D} {state : SafetySupervisor D}
    (hstate : Halted setup state) (call : SupervisorCall D) :
    Halted setup (supervisorMachine.step state call).1 := by
  cases call with
  | acceptCommands snapshot nowNs =>
      have hprogress := acceptCommands_sameProgress state snapshot nowNs
      refine ⟨hstate.configured.step (.acceptCommands snapshot nowNs), ?_, ?_⟩
      · exact hprogress.shutdown.trans hstate.requested
      · intro axis haxis
        simp only [supervisorMachine]
        rw [hprogress.states]
        exact hstate.disabled axis haxis
  | requestShutdown nowNs =>
      exact ⟨hstate.configured.step (.requestShutdown nowNs), rfl,
        hstate.disabled⟩
  | evaluate bus view nowNs =>
      exact Halted.of_complete hstate.configured
        (hstate.evaluate bus view nowNs)

/-- What the end of the shutdown in the past says about the state. -/
structure ShutdownInvariant (setup : SupervisorSetup D)
    (steps : List (SupervisorStep D)) (state : SafetySupervisor D) :
    Prop where
  configured : Configured setup state
  halted : (∃ step ∈ steps, SupervisorStep.Completes step) →
    Halted setup state
  permanent : steps.Pairwise fun earlier later =>
    SupervisorStep.Completes earlier → ∀ result,
      later.output = .evaluation result → result.shutdownComplete = true

theorem ShutdownInvariant.step
    {setup : SupervisorSetup D} {steps : List (SupervisorStep D)}
    {state : SafetySupervisor D}
    (hgood : ShutdownInvariant setup steps state) (call : SupervisorCall D) :
    ShutdownInvariant setup (steps ++ [supervisorMachine.fire state call])
      (supervisorMachine.step state call).1 := by
  constructor
  · exact hgood.configured.step call
  · rintro ⟨step, hmem, hcompletes⟩
    rcases List.mem_append.mp hmem with hold | hnew
    · exact (hgood.halted ⟨step, hold, hcompletes⟩).step call
    · rw [List.mem_singleton] at hnew
      rw [hnew] at hcompletes
      obtain ⟨result, houtput, hcomplete⟩ := hcompletes
      cases call with
      | evaluate bus view nowNs =>
          cases houtput
          exact Halted.of_complete hgood.configured hcomplete
      | _ => contradiction
  · rw [List.pairwise_append]
    refine ⟨hgood.permanent, List.pairwise_singleton _ _, ?_⟩
    intro earlier hearlier later hlater hcompletes result houtput
    rw [List.mem_singleton] at hlater
    rw [hlater] at houtput
    have hhalted := hgood.halted ⟨earlier, hearlier, hcompletes⟩
    cases call with
    | evaluate bus view nowNs =>
        cases houtput
        exact hhalted.evaluate bus view nowNs
    | _ => contradiction

theorem SupervisorSetup.shutdownInvariant
    (setup : SupervisorSetup D) (calls : List (SupervisorCall D)) :
    ShutdownInvariant setup (setup.run calls) (setup.after calls) := by
  apply Machine.history_final (ShutdownInvariant setup)
  · refine ⟨setup.configured_after [], ?_, List.Pairwise.nil⟩
    rintro ⟨step, hstep, _⟩
    exact absurd hstep List.not_mem_nil
  · intro steps state call hgood
    exact hgood.step call

/-- A displayed step of a run, with the calls before it. -/
theorem SupervisorSetup.run_split
    {setup : SupervisorSetup D} {calls : List (SupervisorCall D)}
    {earlier later : List (SupervisorStep D)} {step : SupervisorStep D}
    (hsplit : setup.run calls = earlier ++ step :: later) :
    ∃ before call, earlier = setup.run before ∧
      step = supervisorMachine.fire (setup.after before) call := by
  obtain ⟨before, call, _, _, hearlier, hfire, _⟩ :=
    Machine.trace_split hsplit
  exact ⟨before, call, hearlier, hfire⟩

/-- Every evaluation of a run after the request of a shutdown. -/
structure ShutdownOrder (setup : SupervisorSetup D)
    (steps : List (SupervisorStep D)) : Prop where
  stops : ∀ earlier step later, steps = earlier ++ step :: later →
    (∃ request ∈ earlier, SupervisorStep.IsShutdown request) →
    ∀ axis : Axis, axis.val < setup.axes.length →
      SupervisorStep.request? axis step ≠ some .enable ∧
        SupervisorStep.request? axis step ≠ some .faultReset
  timesOut : ∀ earlier step later, steps = earlier ++ step :: later →
    (∃ request ∈ earlier, SupervisorStep.IsShutdown request) →
    ∀ axis : Axis, axis.val < setup.axes.length →
    ∀ bus view nowNs, step.input = .evaluate bus view nowNs →
      ¬ SupervisorStep.Leaves axis step →
      setup.options.safeStopTimeout ≤
        nowNs - (step.before.states axis).stopStartedNs →
      SupervisorStep.request? axis step = some .disable
  complete : ∀ earlier step later result,
    steps = earlier ++ step :: later → step.output = .evaluation result →
    (result.shutdownComplete = true ↔
      (∃ request ∈ earlier, SupervisorStep.IsShutdown request) ∧
        ∀ axis : Axis, axis.val < setup.axes.length →
          result.requests axis = .disable)
  permanent : steps.Pairwise fun earlier later =>
    SupervisorStep.Completes earlier → ∀ result,
      later.output = .evaluation result → result.shutdownComplete = true

theorem SupervisorSetup.safeStopTimeout_pos (setup : SupervisorSetup D) :
    0 < setup.options.safeStopTimeout := by
  have hvalid : validOptions setup.options = true :=
    validOptions_of_configure setup.accepted
  simp only [validOptions, Bool.and_eq_true, decide_eq_true_eq] at hvalid
  exact hvalid.1.1.2

section Order

variable {setup : SupervisorSetup D} {calls : List (SupervisorCall D)}
  {earlier later : List (SupervisorStep D)} {step : SupervisorStep D}
  (hsplit : setup.run calls = earlier ++ step :: later)

include hsplit

theorem SupervisorSetup.run_stops
    (hshutdown : ∃ request ∈ earlier, SupervisorStep.IsShutdown request)
    {axis : Axis} (haxis : axis.val < setup.axes.length) :
    SupervisorStep.request? axis step ≠ some .enable ∧
      SupervisorStep.request? axis step ≠ some .faultReset := by
  obtain ⟨before, call, hearlier, hfire⟩ := SupervisorSetup.run_split hsplit
  rw [hearlier, ← (setup.historyInvariant before).shutdown] at hshutdown
  rw [hfire]
  cases call with
  | acceptCommands snapshot nowNs =>
      simp [SupervisorStep.request?, supervisorMachine]
  | requestShutdown nowNs =>
      simp [SupervisorStep.request?, supervisorMachine]
  | evaluate bus view nowNs =>
      simp only [SupervisorStep.request?, Machine.fire_output,
        supervisorMachine]
      rcases evaluate_of_shutdown (setup.configured_after before) hshutdown
        bus view nowNs haxis with
        ⟨_, _, hrequest⟩ | ⟨_, _, _, hrequest⟩ | ⟨_, _, hrequest⟩
      · simp [hrequest]
      · simp [hrequest]
      · simp [hrequest]

theorem SupervisorSetup.run_timesOut
    (hshutdown : ∃ request ∈ earlier, SupervisorStep.IsShutdown request)
    {axis : Axis} (haxis : axis.val < setup.axes.length)
    {bus : SafetyBusState} {view : Axis → Cia402PdoView} {nowNs : ℤ}
    (hinput : step.input = .evaluate bus view nowNs)
    (hstays : ¬ SupervisorStep.Leaves axis step)
    (htime : setup.options.safeStopTimeout ≤
      nowNs - (step.before.states axis).stopStartedNs) :
    SupervisorStep.request? axis step = some .disable := by
  obtain ⟨before, call, hearlier, hfire⟩ := SupervisorSetup.run_split hsplit
  rw [hearlier, ← (setup.historyInvariant before).shutdown] at hshutdown
  rw [hfire] at hinput hstays htime ⊢
  rw [Machine.fire_input] at hinput
  rw [Machine.fire_before] at htime
  subst hinput
  simp only [SupervisorStep.request?, Machine.fire_output,
    supervisorMachine, Option.some.injEq]
  have hpositive := setup.safeStopTimeout_pos
  rcases evaluate_of_shutdown (setup.configured_after before) hshutdown
    bus view nowNs haxis with
    ⟨hrunning, hquick, _⟩ | ⟨_, hrest, _⟩ | ⟨_, _, hrequest⟩
  · have hleaves : phaseAfter axis (supervisorMachine.fire
        (setup.after before) (.evaluate bus view nowNs)) ≠ .running := by
      intro hafter
      have hcontra := hquick.symm.trans hafter
      contradiction
    exact absurd ⟨hrunning, hleaves⟩ hstays
  · have hstarted : ((setup.after before).states axis).stopStartedNs ≤
        nowNs := by
      omega
    exact absurd ⟨hstarted, htime⟩ hrest
  · exact hrequest

theorem SupervisorSetup.run_complete_iff
    {result : SafetyEvaluation D}
    (houtput : step.output = .evaluation result) :
    result.shutdownComplete = true ↔
      (∃ request ∈ earlier, SupervisorStep.IsShutdown request) ∧
        ∀ axis : Axis, axis.val < setup.axes.length →
          result.requests axis = .disable := by
  obtain ⟨before, call, hearlier, hfire⟩ := SupervisorSetup.run_split hsplit
  rw [hearlier, ← (setup.historyInvariant before).shutdown]
  rw [hfire] at houtput
  cases call with
  | evaluate bus view nowNs =>
      cases houtput
      exact (setup.configured_after before).evaluate_complete_iff bus view
        nowNs
  | _ => contradiction

end Order

theorem SupervisorSetup.shutdownOrder
    (setup : SupervisorSetup D) (calls : List (SupervisorCall D)) :
    ShutdownOrder setup (setup.run calls) := by
  constructor
  · intro earlier step later hsplit hshutdown axis haxis
    exact SupervisorSetup.run_stops hsplit hshutdown haxis
  · intro earlier step later hsplit hshutdown axis haxis bus view nowNs hinput
      hstays htime
    exact SupervisorSetup.run_timesOut hsplit hshutdown haxis hinput hstays
      htime
  · intro earlier step later result hsplit houtput
    exact SupervisorSetup.run_complete_iff hsplit houtput
  · exact (setup.shutdownInvariant calls).permanent

/-! ## The loop of the daemon -/

/-- The last cycle of a schedule disabled every axis. -/
def LastCycleDisables (setup : SupervisorSetup D)
    (steps : List (DaemonStep D)) : Prop :=
  ∃ before cycle after result,
    steps = before ++ cycle :: after ∧ cycle.output = .cycled result ∧
    (∀ axis : Axis, axis.val < setup.axes.length →
      result.decisions.requests axis = .disable) ∧
    ∀ step ∈ after, ∀ later, step.output ≠ .cycled later

/-- The published end of the shutdown is that of the last cycle, and the loop
is left only behind it. -/
structure LoopInvariant (setup : SupervisorSetup D)
    (steps : List (DaemonStep D)) (daemon : RobotIoDaemon D) : Prop where
  configured : Configured setup daemon.safety
  complete : daemon.shutdownComplete = true → LastCycleDisables setup steps
  running : daemon.owner ≠ .idle → daemon.entry = .run →
    daemon.running = true
  loop : daemon.owner = .loopHead → daemon.entry = .run
  leaving : daemon.owner = .stopTransports →
    daemon.shutdownComplete = true

section Loop

variable {setup : SupervisorSetup D} {steps : List (DaemonStep D)}
  {daemon next : RobotIoDaemon D}

theorem LastCycleDisables.append
    (hlast : LastCycleDisables setup steps) {step : DaemonStep D}
    (hquiet : ∀ result, step.output ≠ .cycled result) :
    LastCycleDisables setup (steps ++ [step]) := by
  obtain ⟨before, cycle, after, result, hsplit, houtput, hdisable, hnone⟩ :=
    hlast
  refine ⟨before, cycle, after ++ [step], result, ?_, houtput, hdisable, ?_⟩
  · rw [hsplit]
    simp
  · intro other hother later
    rcases List.mem_append.mp hother with hold | hnew
    · exact hnone other hold later
    · rw [List.mem_singleton] at hnew
      rw [hnew]
      exact hquiet later

/-- The moves of the owner which leave or keep the loop. -/
theorem LoopInvariant.moved
    (hgood : LoopInvariant setup steps daemon)
    (hkept : SameBooks daemon next)
    (hmove : OwnerMove daemon daemon.owner next.owner)
    (hentry : daemon.owner ≠ .idle → next.entry = daemon.entry)
    (hrun : daemon.owner = .idle → next.entry = .run → daemon.running = true)
    (hloop : daemon.owner = .idle → next.owner = .loopHead →
      next.entry = .run) :
    (next.owner ≠ .idle → next.entry = .run → next.running = true) ∧
      (next.owner = .loopHead → next.entry = .run) ∧
      (next.owner = .stopTransports → next.shutdownComplete = true) := by
  refine ⟨?_, ?_, ?_⟩
  · intro _ hnext
    apply hkept.running
    by_cases hidle : daemon.owner = .idle
    · exact hrun hidle hnext
    · rw [hentry hidle] at hnext
      exact hgood.running hidle hnext
  · intro hhead
    by_cases hidle : daemon.owner = .idle
    · exact hloop hidle hhead
    · rw [hentry hidle]
      rw [hhead] at hmove
      generalize daemon.owner = before at hmove hidle
      generalize hafter : OwnerPhase.loopHead = after at hmove
      cases hmove with
      | enterRun => contradiction
      | skip | refuse =>
          by_contra hother
          rw [if_neg hother] at hafter
          contradiction
      | _ => contradiction
  · intro hstop
    rw [hkept.shutdownComplete]
    rw [hstop] at hmove
    generalize hbefore : daemon.owner = before at hmove
    generalize hafter : OwnerPhase.stopTransports = after at hmove
    cases hmove with
    | leave hdone =>
        rcases hdone with hstopped | hcomplete
        · have hrunning := hgood.running (by rw [hbefore]; nofun)
            (hgood.loop hbefore)
          rw [hstopped] at hrunning
          contradiction
        · exact hcomplete
    | skip | refuse => split at hafter <;> contradiction
    | _ => contradiction

/-- A step which neither cycles nor changes the published end. -/
theorem LoopInvariant.kept
    (hgood : LoopInvariant setup steps daemon) {step : DaemonStep D}
    (hquiet : ∀ result, step.output ≠ .cycled result)
    (hsame : SameSetup daemon.safety next.safety)
    (hcomplete : next.shutdownComplete = daemon.shutdownComplete)
    (hrunning : next.owner ≠ .idle → next.entry = .run →
      next.running = true)
    (hloop : next.owner = .loopHead → next.entry = .run)
    (hleaving : next.owner = .stopTransports →
      next.shutdownComplete = true) :
    LoopInvariant setup (steps ++ [step]) next := by
  refine ⟨hgood.configured.of_sameSetup hsame, ?_, hrunning, hloop, hleaving⟩
  intro hdone
  rw [hcomplete] at hdone
  exact (hgood.complete hdone).append hquiet

/-- A cycle publishes the answer of its evaluation. -/
theorem LoopInvariant.cycled
    (hgood : LoopInvariant setup steps daemon) {input : DeviceInput}
    {nowNs : ℤ} (howner : daemon.owner = .evaluate input nowNs)
    {step : DaemonStep D}
    (houtput : step.output = (daemon.evaluateDevices input nowNs).2) :
    LoopInvariant setup (steps ++ [step])
      (daemon.evaluateDevices input nowNs).1 := by
  have hbusy : daemon.owner ≠ .idle := by
    rw [howner]
    nofun
  constructor
  · exact hgood.configured.step (.evaluate input.bus input.view nowNs)
  · intro hcomplete
    have hdisable := ((hgood.configured.evaluate_complete_iff input.bus
      input.view nowNs).mp hcomplete).2
    refine ⟨steps, step, [], _, rfl, houtput, hdisable, ?_⟩
    intro other hother
    exact absurd hother List.not_mem_nil
  · intro _ hentry
    exact hgood.running hbusy hentry
  · intro hhead
    simp only [evaluateDevices, finishCycle, setOwner] at hhead
    split at hhead
    · rename_i hentry
      exact hentry
    · contradiction
  · intro hstop
    simp only [evaluateDevices, finishCycle, setOwner] at hstop
    split at hstop <;> contradiction

theorem LoopInvariant.step
    (hgood : LoopInvariant setup steps daemon) (action : DaemonAction D) :
    LoopInvariant setup (steps ++ [daemonMachine.fire daemon action])
      (daemonMachine.step daemon action).1 := by
  have hstep := step_ownerStep daemon action
  have houtput : (daemonMachine.fire daemon action).output =
    (daemonMachine.step daemon action).2 := rfl
  generalize daemonMachine.fire daemon action = fired at houtput ⊢
  generalize daemonMachine.step daemon action = result at hstep houtput ⊢
  cases hstep with
  | rest hkept howner hentry hevent =>
      apply hgood.kept
      · intro cycle hcycle
        rw [houtput] at hcycle
        subst hcycle
        contradiction
      · rw [hkept.safety]
        exact SameSetup.refl _
      · exact hkept.shutdownComplete
      · rw [howner, hentry]
        intro hbusy hrun
        exact hkept.running (hgood.running hbusy hrun)
      · rw [howner, hentry]
        exact hgood.loop
      · rw [howner, hkept.shutdownComplete]
        exact hgood.leaving
  | moved hkept hmove hentry hrun hloop =>
      obtain ⟨hrunning, hhead, hleaving⟩ :=
        hgood.moved hkept hmove hentry hrun hloop
      apply hgood.kept
      · intro cycle hcycle
        rw [houtput] at hcycle
        contradiction
      · rw [hkept.safety]
        exact SameSetup.refl _
      · exact hkept.shutdownComplete
      · exact hrunning
      · exact hhead
      · exact hleaving
  | drained site rejectedPublication event howner =>
      have hframe := consumeStagedCommands_sameLoop daemon
        rejectedPublication event
      have hbusy : daemon.owner ≠ .idle := by
        rw [howner]
        nofun
      apply hgood.kept
      · intro cycle hcycle
        rw [houtput] at hcycle
        rcases consumeStagedCommands_event hcycle with hsilent | hdrain <;>
          contradiction
      · exact hframe.setup
      · exact hframe.shutdownComplete
      · intro _ hrun
        exact hframe.running.trans
          (hgood.running hbusy (hframe.entry.symm.trans hrun))
      · intro hhead
        have hafter : daemon.afterDrain site = .loopHead := hhead
        cases site with
        | refresh =>
            simp only [afterDrain] at hafter
            split at hafter <;> contradiction
        | device input => contradiction
      · intro hstop
        have hafter : daemon.afterDrain site = .stopTransports := hstop
        cases site with
        | refresh =>
            simp only [afterDrain] at hafter
            split at hafter <;> contradiction
        | device input => contradiction
  | shutdown input nowNs howner =>
      apply hgood.kept
      · intro cycle hcycle
        rw [houtput] at hcycle
        contradiction
      · exact ⟨rfl, rfl, rfl, rfl⟩
      · rfl
      · intro _ hrun
        apply hgood.running
        · rw [howner]
          nofun
        · exact hrun
      · nofun
      · nofun
  | cycled input nowNs howner => exact hgood.cycled howner houtput
  | stopped howner =>
      apply hgood.kept
      · intro cycle hcycle
        rw [houtput] at hcycle
        contradiction
      · exact ⟨rfl, rfl, rfl, rfl⟩
      · rfl
      · intro hbusy
        exact absurd rfl hbusy
      · nofun
      · nofun

end Loop

theorem DeviceSetup.loopInvariant
    (setup : DeviceSetup D) (clock : ℤ) (actions : List (DaemonAction D)) :
    LoopInvariant setup.toSupervisorSetup (setup.schedule clock actions)
      (daemonMachine.final (setup.daemon clock) actions) := by
  apply Machine.history_final (LoopInvariant setup.toSupervisorSetup)
  · exact ⟨setup.configured_after [], nofun, fun hbusy => absurd rfl hbusy,
      nofun, nofun⟩
  · intro steps daemon action hgood
    exact hgood.step action

/-- The transports stop only after a cycle which disabled every axis. -/
def StopsAfterDisable (setup : SupervisorSetup D)
    (steps : List (DaemonStep D)) : Prop :=
  ∀ earlier stop later, steps = earlier ++ stop :: later →
    stop.output = .transportsStopped → LastCycleDisables setup earlier

theorem DeviceSetup.stopsAfterDisable
    (setup : DeviceSetup D) (clock : ℤ) (actions : List (DaemonAction D)) :
    StopsAfterDisable setup.toSupervisorSetup
      (setup.schedule clock actions) := by
  intro earlier stop later hsplit houtput
  obtain ⟨before, action, _, _, hearlier, hfire, _⟩ :=
    Machine.trace_split hsplit
  have hgood := setup.loopInvariant clock before
  rw [hearlier]
  apply hgood.complete
  apply hgood.leaving
  rw [hfire, Machine.fire_output] at houtput
  exact stopTransports_of_stopped houtput

/-- After the request of a shutdown every axis comes to rest for good, and the
daemon stops its transports only then. -/
theorem shutdown_is_final (D : Type) [FloatingPoint D] :
    (∀ (setup : SupervisorSetup D) (calls : List (SupervisorCall D)),
      ShutdownOrder setup (setup.run calls)) ∧
    (∀ (setup : DeviceSetup D) (clock : ℤ) (actions : List (DaemonAction D)),
      StopsAfterDisable setup.toSupervisorSetup
        (setup.schedule clock actions)) :=
  ⟨SupervisorSetup.shutdownOrder, DeviceSetup.stopsAfterDisable⟩

end PolicyRuntime
