import PolicyRuntime.SupervisorRuns

/-!
# The device cycle

The part of `process_device_cycle_owned` behind the command hand-off: the
supervisor decides, and every axis device turns its decision into process data.
Devices and supervisor read the same process data view.
-/

namespace PolicyRuntime

open SafetySupervisor FloatingPoint

structure DeviceState (D : Type) where
  safety : SafetySupervisor D
  axes : Axis → Cia402Axis D
  cycleFeedback : Axis → AxisFeedback D

/-- The decisions of a cycle, and the process data its devices write. -/
structure DeviceCycle (D : Type) where
  decisions : SafetyEvaluation D
  pdos : Axis → Cia402PdoView

inductive DeviceAnswer (D : Type)
  | acceptance (answer : CommandAcceptance)
  | shutdown
  | cycled (result : DeviceCycle D)

abbrev DeviceStep (D : Type) :=
  Transition (DeviceState D) (SupervisorCall D) (DeviceAnswer D)

variable {D : Type} [FloatingPoint D]

def AxisFeedback.empty : AxisFeedback D where
  sequence := 0
  timestampNs := 0
  position := zero
  velocity := zero
  effort := zero
  statusWord := 0
  flags := 0
  modeDisplay := 0

/-- What the devices do with the decisions of the supervisor. -/
def DeviceState.cycle (state : DeviceState D) (bus : SafetyBusState)
    (view : Axis → Cia402PdoView) (nowNs : ℤ) :
    DeviceState D × DeviceCycle D :=
  let (safety, decisions) :=
    state.safety.evaluate bus (state.safety.span view) nowNs
  let inUse := fun axis : Axis => decide (axis.val < safety.axisCount)
  let cycled := fun axis =>
    (state.axes axis).cycle (decisions.commands axis) (view axis)
  ({ safety := safety
     axes := fun axis => if inUse axis then (cycled axis).1
       else state.axes axis
     cycleFeedback := fun axis => if inUse axis then
         { (cycled axis).2.2 with
           sequence := safety.lastCommandSequence
           timestampNs := nowNs
           flags := (cycled axis).2.2.flags ||| decisions.feedbackFlags axis }
       else state.cycleFeedback axis },
    { decisions := decisions
      pdos := fun axis => if inUse axis then (cycled axis).2.1
        else view axis })

/-- The supervisor with its axis devices. -/
def deviceMachine :
    Machine (DeviceState D) (SupervisorCall D) (DeviceAnswer D) where
  step := fun state call =>
    match call with
    | .acceptCommands snapshot nowNs =>
        let result := state.safety.acceptCommands snapshot nowNs
        ({ state with safety := result.1 }, .acceptance result.2)
    | .requestShutdown nowNs =>
        ({ state with safety := state.safety.requestShutdown nowNs },
          .shutdown)
    | .evaluate bus view nowNs =>
        let result := state.cycle bus view nowNs
        (result.1, .cycled result.2)

/-- Seen from the supervisor, the devices do nothing. -/
theorem deviceMachine_safety
    (state : DeviceState D) (call : SupervisorCall D) :
    (deviceMachine.step state call).1.safety =
      (supervisorMachine.step state.safety call).1 := by
  cases call <;> rfl

/-- A setup with one device per axis, built from its configuration. -/
structure DeviceSetup (D : Type) [FloatingPoint D] extends
    SupervisorSetup D where
  devices : Axis → Cia402Axis D
  created : ∀ (axis : Axis) (source : AxisConfig D),
    axes[axis.val]? = some source →
      Cia402Axis.create source = .ok (devices axis)

def DeviceSetup.start (setup : DeviceSetup D) : DeviceState D where
  safety := setup.supervisor
  axes := setup.devices
  cycleFeedback := fun _ => .empty

def DeviceSetup.cycles (setup : DeviceSetup D)
    (calls : List (SupervisorCall D)) : List (DeviceStep D) :=
  deviceMachine.trace setup.start calls

def DeviceStep.request? (axis : Axis) (step : DeviceStep D) :
    Option AxisRequest :=
  match step.output with
  | .cycled result => some (result.decisions.requests axis)
  | _ => none

theorem deviceMachine_config
    (state : DeviceState D) (call : SupervisorCall D) (axis : Axis) :
    ((deviceMachine.step state call).1.axes axis).config =
      (state.axes axis).config := by
  cases call with
  | acceptCommands snapshot nowNs => rfl
  | requestShutdown nowNs => rfl
  | evaluate bus view nowNs =>
      simp only [deviceMachine, DeviceState.cycle]
      split
      · rw [Cia402Axis.cycle_config]
      · rfl

/-- Supervisor and devices are configured from the same axes. -/
structure DevicesConfigured (setup : DeviceSetup D) (axis : Axis)
    (source : AxisConfig D) (state : DeviceState D) : Prop where
  safety : Configured setup.toSupervisorSetup state.safety
  source : (state.axes axis).config = source

theorem DeviceSetup.start_configured
    {setup : DeviceSetup D} {axis : Axis} {source : AxisConfig D}
    (hsource : setup.axes[axis.val]? = some source) :
    DevicesConfigured setup axis source setup.start := by
  refine ⟨setup.configured_after [], ?_⟩
  have hcreated := setup.created axis source hsource
  unfold Cia402Axis.create at hcreated
  split at hcreated
  · contradiction
  · rw [Except.ok.injEq] at hcreated
    show (setup.devices axis).config = source
    rw [← hcreated]

theorem DevicesConfigured.step
    {setup : DeviceSetup D} {axis : Axis} {source : AxisConfig D}
    {state : DeviceState D}
    (hstate : DevicesConfigured setup axis source state)
    (call : SupervisorCall D) :
    DevicesConfigured setup axis source
      (deviceMachine.step state call).1 := by
  constructor
  · rw [deviceMachine_safety]
    exact hstate.safety.step call
  · rw [deviceMachine_config]
    exact hstate.source

/-! ## One device -/

omit [FloatingPoint D] in
theorem requestedAction_flagsForRequest (request : AxisRequest) :
    requestedAction (flagsForRequest request) = (request, false) := by
  cases request <;> decide

/-- A cycle under a decision of the supervisor: the reset latch follows the
decision, and the reset word marks a fresh reset in Fault. -/
theorem Cia402Axis.cycle_reset
    {axis : Cia402Axis D} {pdo : Cia402PdoView}
    (hrange : UnitsInRange axis.config pdo)
    {command : AxisCommand D} {request : AxisRequest}
    (hflags : command.flags = flagsForRequest request) :
    (axis.cycle command pdo).1.stateMachine.faultResetLatched =
        (request == .faultReset) ∧
      ((axis.cycle command pdo).2.1.controlWord = 0x0080#16 ↔
        request = .faultReset ∧
          axis.stateMachine.faultResetLatched = false ∧
          Cia402StateMachine.decode pdo.statusWord = .fault) := by
  have haction : (requestedAction command.flags).1 = request := by
    rw [hflags, requestedAction_flagsForRequest]
  have hdrive : axis.driveRequest command pdo = .faultReset ↔
      request = .faultReset := by
    constructor
    · intro hreset
      rw [← haction]
      exact Cia402Axis.requested_of_driveRequest hreset
    · intro hreset
      apply Cia402Axis.driveRequest_of_requested hrange
      rw [haction, hreset]
  constructor
  · rw [axis.cycle_stateMachine, Cia402StateMachine.faultResetLatched_update,
      Bool.eq_iff_iff, beq_iff_eq, beq_iff_eq]
    exact hdrive
  · rw [axis.cycle_controlWord,
      Cia402StateMachine.controlWord_update_eq_reset_iff, hdrive]

/-- The single-axis arm with its device. -/
def singleAxisDevice : DeviceSetup ℚ where
  toSupervisorSetup := singleAxisArm
  devices := fun _ => ⟨armAxis "", ⟨false⟩, 0, false⟩
  created := by
    intro axis source hsource
    have hmem := List.mem_of_getElem? hsource
    simp only [singleAxisArm, List.mem_singleton] at hmem
    subst hmem
    rfl

end PolicyRuntime
