import PolicyRuntime.CommandDelivery
import PolicyRuntime.DaemonConfigure
import PolicyRuntime.DaemonSteps
import PolicyRuntime.DamiaoHandshake
import PolicyRuntime.RegistryStaging

/-!
# Command callbacks after a stop

The worker of the DDS endpoint runs one callback at a time.  An epoch goes to
`stage_commands`, a servo command to `stage_servo_command` and a motor command
to the slot of its CAN runtime.  Between any two of its accesses other threads
start and stop the daemon, run its cycle, stage commands of their own and empty
the slots.
-/

namespace PolicyRuntime

open RobotIoDaemon

/-! ## Samples -/

structure St3215CommandValue (D : Type) where
  sequence : ℕ
  sourceTimestampNs : ℤ
  targetRadians : D
  enabled : Bool
  faultReset : Bool

/-- The command which the callback stages. -/
def St3215CommandValue.command {D : Type} (value : St3215CommandValue D) :
    St3215ServoCommand D where
  sequence := value.sequence
  timestampNs := value.sourceTimestampNs
  targetPositionRad := value.targetRadians
  enabled := value.enabled
  emergencyStop := value.faultReset
  reserved := 0

/-- The arguments of a callback. -/
inductive CommandSample (D F : Type)
  | epoch (call : StageEthercatEpoch D)
  | servo (index : ℕ) (value : St3215CommandValue D)
  | motor (index : ℕ) (value : DamiaoCommandValue F)

/-! ## The machine -/

/-- Where the caller of `start` is: behind the checks, or between the store that
opens the commands and the last one. -/
inductive StartPhase
  | idle
  | starting
  | opened
  deriving DecidableEq

/-- Where the worker is in its callback. -/
inductive WorkerPhase (D : Type)
  | idle
  | epoch
  | servo (index : ℕ) (command : St3215ServoCommand D)
  | staging
  | storing

def WorkerPhase.isIdle {D : Type} : WorkerPhase D → Bool
  | .idle => true
  | _ => false

structure CommandPaths (D F : Type) where
  daemon : RobotIoDaemon D
  start : StartPhase
  serial : StagingState D
  can : CanState F
  worker : WorkerPhase D

inductive PathInput (D F : Type)
  | callback (sample : CommandSample D F)
  | advance (nowNs : ℤ)
  | beginStart
  | openCommands
  | finishStart
  | abortStart
  | daemon (action : DaemonAction D)
  | serial (input : StagingInput D)
  | cycle (runtime : ℕ)

/-- The number of the worker among the threads. -/
abbrev workerThread : ℕ := 0

/-- An action of the daemon in which neither the worker nor the caller of
`start` takes part. -/
def DaemonAction.others {D : Type} : DaemonAction D → Bool
  | .start => false
  | .stage producer _ => producer ≠ workerThread
  | .produce producer => producer ≠ workerThread
  | _ => true

namespace CommandPaths

variable {D F : Type}

def setWorker (paths : CommandPaths D F) (phase : WorkerPhase D) :
    CommandPaths D F :=
  { paths with worker := phase }

def setDaemon (paths : CommandPaths D F) (daemon : RobotIoDaemon D) :
    CommandPaths D F :=
  { paths with daemon := daemon }

def setSerial (paths : CommandPaths D F) (serial : StagingState D) :
    CommandPaths D F :=
  { paths with serial := serial }

def setCan (paths : CommandPaths D F) (can : CanState F) :
    CommandPaths D F :=
  { paths with can := can }

def setStart (paths : CommandPaths D F) (phase : StartPhase) :
    CommandPaths D F :=
  { paths with start := phase }

/-! ### Start -/

def beginStart (paths : CommandPaths D F) : CommandPaths D F :=
  if paths.start = .idle && !(paths.daemon.running ||
      paths.daemon.stopRequested || paths.daemon.shutdownComplete) then
    paths.setStart .starting
  else paths

/-- `accepting_commands_.store(true)` -/
def openCommands (paths : CommandPaths D F) : CommandPaths D F :=
  if paths.start = .starting then
    (paths.setDaemon
      { paths.daemon with acceptingCommands := true }).setStart .opened
  else paths

/-- `running_.store(true)` -/
def finishStart (paths : CommandPaths D F) : CommandPaths D F :=
  if paths.start = .opened then
    (paths.setDaemon { paths.daemon with running := true }).setStart .idle
  else paths

/-- A transport does not start. -/
def abortStart (paths : CommandPaths D F) : CommandPaths D F :=
  if paths.start = .starting then paths.setStart .idle else paths

/-! ### Callbacks -/

variable [FloatingPoint D] [SinglePrecision F]

def stageEpoch (axisCount : ℕ) (paths : CommandPaths D F)
    (call : StageEthercatEpoch D) : CommandPaths D F :=
  match stageEthercatEpoch axisCount call with
  | none => paths
  | some snapshot =>
      (paths.setDaemon (paths.daemon.stage workerThread snapshot)).setWorker
        .epoch

def stageMotor (buses : DamiaoBuses) (paths : CommandPaths D F) (index : ℕ)
    (value : DamiaoCommandValue F) : CommandPaths D F :=
  let can := (paths.can.stage buses index value).1
  (paths.setCan can).setWorker (if can.stager.isSome then .storing else .idle)

/-- The worker enters a callback. -/
def callback (axisCount : ℕ) (buses : DamiaoBuses) (paths : CommandPaths D F)
    (sample : CommandSample D F) : CommandPaths D F :=
  match paths.worker, sample with
  | .idle, .epoch call => paths.stageEpoch axisCount call
  | .idle, .servo index value =>
      paths.setWorker (.servo index value.command)
  | .idle, .motor index value => paths.stageMotor buses index value
  | _, _ => paths

/-- The registry after a step of the worker inside `stage_command`. -/
def stepSerial (paths : CommandPaths D F) (input : StagingInput D) :
    CommandPaths D F :=
  let serial := (stagingMachine.step paths.serial input).1
  (paths.setSerial serial).setWorker
    (if (serial.calls workerThread).isSome then .staging else .idle)

def stepProducer (paths : CommandPaths D F) : CommandPaths D F :=
  let daemon := (paths.daemon.produce workerThread).1
  (paths.setDaemon daemon).setWorker
    (match daemon.producers workerThread with
      | .idle => .idle
      | _ => .epoch)

def stepStore (paths : CommandPaths D F) : CommandPaths D F :=
  let can := paths.can.store
  (paths.setCan can).setWorker (if can.stager.isSome then .storing else .idle)

/-- The next access of the worker. -/
def advance (paths : CommandPaths D F) (nowNs : ℤ) : CommandPaths D F :=
  match paths.worker with
  | .idle => paths
  | .epoch => paths.stepProducer
  | .servo index command =>
      -- the test at the head of `stage_servo_command`
      if paths.daemon.acceptingCommands then
        paths.stepSerial (.call workerThread (.single index command))
      else paths.setWorker .idle
  | .staging => paths.stepSerial (.step workerThread nowNs)
  | .storing => paths.stepStore

def step (axisCount : ℕ) (buses : DamiaoBuses) (paths : CommandPaths D F) :
    PathInput D F → CommandPaths D F
  | .callback sample => paths.callback axisCount buses sample
  | .advance nowNs => paths.advance nowNs
  | .beginStart => paths.beginStart
  | .openCommands => paths.openCommands
  | .finishStart => paths.finishStart
  | .abortStart => paths.abortStart
  | .daemon action =>
      if action.others then
        paths.setDaemon (daemonMachine.step paths.daemon action).1
      else paths
  | .serial input =>
      if input.thread ≠ workerThread then
        paths.setSerial (stagingMachine.step paths.serial input).1
      else paths
  | .cycle runtime => paths.setCan (paths.can.cycle runtime).1

end CommandPaths

def pathMachine {D F : Type} [FloatingPoint D] [SinglePrecision F]
    (axisCount : ℕ) (buses : DamiaoBuses) :
    Machine (CommandPaths D F) (PathInput D F) Unit where
  step := fun paths input => (paths.step axisCount buses input, ())

abbrev PathStep (D F : Type) :=
  Transition (CommandPaths D F) (PathInput D F) Unit

/-! ## Runs of a configured daemon -/

/-- The parts of a configured daemon which commands reach. -/
structure CommandSetup (D F : Type) [DoubleArithmetic D] [SinglePrecision F]
    where
  device : DeviceSetup D
  profile : RobotProfile D F
  axes : device.axes = profile.axes.map AxisProfile.config
  openSocketCan : String → Except Error Unit
  lexicallyNormal : String → String
  buses : DamiaoBuses
  configured : configureDamiao openSocketCan lexicallyNormal profile =
    .ok buses

namespace CommandSetup

variable {D F : Type} [DoubleArithmetic D] [SinglePrecision F]
  (setup : CommandSetup D F)

def paths (clock : ℤ) : CommandPaths D F where
  daemon := setup.device.daemon clock
  start := .idle
  serial := .create (setup.profile.servos.map (·.registered.servo))
  can := .configured setup.profile.motors
  worker := .idle

abbrev machine : Machine (CommandPaths D F) (PathInput D F) Unit :=
  pathMachine setup.device.axes.length setup.buses

def run (clock : ℤ) (inputs : List (PathInput D F)) : List (PathStep D F) :=
  setup.machine.trace (setup.paths clock) inputs

end CommandSetup

/-- The device of an axis, as its constructor leaves it. -/
def ProfileLists.device {D F : Type} [FloatingPoint D]
    (profile : ProfileLists D F) (axis : Axis) : Cia402Axis D where
  config := (profile.axisConfigs[axis.val]?).getD
    ⟨.csp, FloatingPoint.zero, FloatingPoint.zero, FloatingPoint.zero, 0, "",
      FloatingPoint.zero, FloatingPoint.zero⟩
  stateMachine := ⟨false⟩
  lastTarget := FloatingPoint.zero
  hasLastTarget := false

/-- `configure` ends in such a setup. -/
theorem exists_commandSetup {D F τ : Type} [DoubleArithmetic D]
    [SinglePrecision F] {calls : ConfigureCalls τ} {options : SafetyOptions}
    {profile : RobotProfile D F}
    (hok : ((DaemonMembers.constructed options :
      DaemonMembers D F τ).configure calls profile.lists).2 = .ok ()) :
    ∃ setup : CommandSetup D F, setup.profile = profile ∧
      setup.device.options = options ∧
      setup.buses.actuatorBindings = ((DaemonMembers.constructed options :
        DaemonMembers D F τ).configure calls
          profile.lists).1.actuatorBindings := by
  obtain ⟨motors, hmotors, haccepted, hcreated, hbindings⟩ :=
    DaemonMembers.configure_constructed_ok hok
  have hconfigured := configureDamiao_eq calls profile
  rw [hmotors] at hconfigured
  refine ⟨⟨⟨⟨options, profile.lists.axisConfigs, haccepted⟩,
    profile.lists.device, ?_⟩, profile, rfl, calls.openSocketCan,
    calls.lexicallyNormal, _, hconfigured⟩, rfl, rfl, hbindings.symm⟩
  intro axis source hsource
  obtain ⟨listed, hlisted, rfl⟩ :=
    List.mem_map.mp (List.mem_of_getElem? hsource)
  obtain ⟨device, hdevice⟩ := hcreated listed hlisted
  rw [hdevice]
  unfold Cia402Axis.create at hdevice
  split at hdevice
  · cases hdevice
  · cases hdevice
    unfold ProfileLists.device
    rw [hsource]
    rfl

namespace PathStep

variable {D F : Type}

/-- The last store of `request_stop`, or of the latched signal in `run`. -/
def StopReturns (step : PathStep D F) : Prop :=
  step.input = .daemon .closeCommands ∧
    step.before.daemon.stopRequested = true

def begins (step : PathStep D F) : Bool :=
  match step.input with
  | .callback _ => step.before.worker.isIdle
  | _ => false

def advances (step : PathStep D F) : Bool :=
  match step.input with
  | .advance _ => true
  | _ => false

/-- The step leaves what the transports take their commands from alone. -/
structure Untouched (step : PathStep D F) : Prop where
  handoff :
    step.after.daemon.commandHandoff = step.before.daemon.commandHandoff
  servos : ∀ index, (step.after.serial.servos index).commands =
    (step.before.serial.servos index).commands
  slots : ∀ runtime target, step.after.can.slot runtime target =
    step.before.can.slot runtime target

end PathStep

/-- The steps of the worker until it begins a callback. -/
def workerSteps {D F : Type} (steps : List (PathStep D F)) :
    List (PathStep D F) :=
  (steps.takeWhile (!·.begins)).filter (·.advances)

/-- A motor command which the actuator of its motor encodes. -/
def CommandSample.ReachesMotor {D F : Type} [SinglePrecision F]
    (motors : List (MotorProfile F)) : CommandSample D F → Prop
  | .motor index value => ∃ motor, motors[index]? = some motor ∧
      (value.faultReset = true ∨ value.enabled = false ∨
        withinLimits value.mitCommand motor.limits = true)
  | _ => False

/-! ## Commands stay closed -/

section Daemon

variable {D : Type} [FloatingPoint D]

/-- What the step keeps of a requested stop. -/
structure KeepsStop (daemon next : RobotIoDaemon D) : Prop where
  closed : daemon.acceptingCommands = false → next.acceptingCommands = false
  requested : daemon.stopRequested = true → next.stopRequested = true

omit [FloatingPoint D] in
theorem KeepsStop.of_eq {daemon next : RobotIoDaemon D}
    (hcommands : next.acceptingCommands = daemon.acceptingCommands)
    (hstop : next.stopRequested = daemon.stopRequested) :
    KeepsStop daemon next :=
  ⟨fun h => hcommands.trans h, fun h => hstop.trans h⟩

theorem consumeStagedCommands_keepsStop (daemon : RobotIoDaemon D)
    (rejectedPublication : ℕ) (event : Option (StagedCommandEvent D)) :
    KeepsStop daemon
      (daemon.consumeStagedCommands rejectedPublication event).1 := by
  unfold consumeStagedCommands
  split
  · exact .of_eq rfl rfl
  · cases event with
    | none => exact .of_eq rfl rfl
    | some event =>
        dsimp only
        split
        · exact .of_eq rfl rfl
        · split <;> exact .of_eq rfl rfl

theorem ownerStep_keepsStop (daemon : RobotIoDaemon D) :
    KeepsStop daemon daemon.ownerStep.1 := by
  unfold RobotIoDaemon.ownerStep
  cases daemon.owner with
  | settle site rejectedPublication event =>
      obtain ⟨hclosed, hrequested⟩ := consumeStagedCommands_keepsStop daemon
        rejectedPublication event
      exact ⟨hclosed, hrequested⟩
  | admitDevice input =>
      dsimp only
      split <;> exact .of_eq rfl rfl
  | checkStop input nowNs =>
      dsimp only
      split
      · exact ⟨fun _ => rfl, id⟩
      · exact .of_eq rfl rfl
  | _ => exact .of_eq rfl rfl

theorem produce_keepsStop (daemon : RobotIoDaemon D) (producer : ℕ) :
    KeepsStop daemon (daemon.produce producer).1 := by
  unfold RobotIoDaemon.produce
  cases daemon.producers producer with
  | arriving snapshot =>
      dsimp only
      split <;> exact .of_eq rfl rfl
  | spinning snapshot =>
      dsimp only
      split <;> exact .of_eq rfl rfl
  | holding snapshot =>
      dsimp only
      split <;> exact .of_eq rfl rfl
  | deciding snapshot =>
      dsimp only
      split <;> exact .of_eq rfl rfl
  | _ => exact .of_eq rfl rfl

omit [FloatingPoint D] in
theorem stage_keepsStop (daemon : RobotIoDaemon D) (producer : ℕ)
    (snapshot : Snapshot (AxisCommand D)) :
    KeepsStop daemon (daemon.stage producer snapshot) := by
  unfold RobotIoDaemon.stage
  split <;> exact .of_eq rfl rfl

omit [FloatingPoint D] in
theorem begin_keepsStop (daemon : RobotIoDaemon D) (entry : OwnerEntry)
    (phase : OwnerPhase D) : KeepsStop daemon (daemon.begin entry phase).1 := by
  unfold RobotIoDaemon.begin
  split <;> exact .of_eq rfl rfl

/-- Nobody but `start` opens the commands. -/
theorem step_keepsStop (daemon : RobotIoDaemon D) {action : DaemonAction D}
    (hothers : action.others = true) :
    KeepsStop daemon (daemonMachine.step daemon action).1 := by
  simp only [daemonMachine]
  cases action with
  | tick elapsed => exact .of_eq rfl rfl
  | start => cases hothers
  | requestStop => exact ⟨id, fun _ => rfl⟩
  | closeCommands =>
      simp only [RobotIoDaemon.step, RobotIoDaemon.closeCommands]
      split
      · exact ⟨fun _ => rfl, id⟩
      · exact .of_eq rfl rfl
  | stage producer snapshot => exact stage_keepsStop daemon producer snapshot
  | produce producer => exact produce_keepsStop daemon producer
  | beginRun =>
      simp only [RobotIoDaemon.step]
      split
      · exact begin_keepsStop daemon _ _
      · exact .of_eq rfl rfl
  | beginCycle => exact begin_keepsStop daemon _ _
  | beginRefresh => exact begin_keepsStop daemon _ _
  | beginDevice input => exact begin_keepsStop daemon _ _
  | ownerLoop stop =>
      simp only [RobotIoDaemon.step, RobotIoDaemon.ownerLoop]
      split
      · split
        · exact ⟨id, fun h => by simp [setOwner, h]⟩
        · exact .of_eq rfl rfl
      · exact .of_eq rfl rfl
  | ownerRead succeeded =>
      simp only [RobotIoDaemon.step, RobotIoDaemon.ownerRead]
      split <;> exact .of_eq rfl rfl
  | ownerTransports device =>
      simp only [RobotIoDaemon.step, RobotIoDaemon.ownerTransports]
      split <;> exact .of_eq rfl rfl
  | ownerStep => exact ownerStep_keepsStop daemon

theorem produce_producers_of_ne (daemon : RobotIoDaemon D)
    {producer other : ℕ} (hne : other ≠ producer) :
    (daemon.produce producer).1.producers other = daemon.producers other := by
  unfold RobotIoDaemon.produce
  cases daemon.producers producer with
  | idle => rfl
  | arriving snapshot =>
      dsimp only
      split <;> exact Function.update_of_ne hne _ _
  | spinning snapshot =>
      dsimp only
      split
      · rfl
      · exact Function.update_of_ne hne _ _
  | holding snapshot =>
      dsimp only
      split <;> exact Function.update_of_ne hne _ _
  | deciding snapshot =>
      dsimp only
      split <;> exact Function.update_of_ne hne _ _
  | _ => exact Function.update_of_ne hne _ _

theorem step_workerProducer (daemon : RobotIoDaemon D)
    {action : DaemonAction D} (hothers : action.others = true) :
    (daemonMachine.step daemon action).1.producers workerThread =
      daemon.producers workerThread := by
  cases step_ingressStep daemon action with
  | produced producer haction =>
      subst haction
      have hne : producer ≠ workerThread := of_decide_eq_true hothers
      exact produce_producers_of_ne daemon hne.symm
  | staged producer snapshot haction =>
      subst haction
      have hne : producer ≠ workerThread := of_decide_eq_true hothers
      simp only [daemonMachine, RobotIoDaemon.step, RobotIoDaemon.stage]
      split
      · exact Function.update_of_ne hne.symm _ _
      · rfl
  | kept hsame _ => rw [hsame.producers]

theorem stagingMachine_calls_of_ne (state : StagingState D)
    (input : StagingInput D) {thread : ℕ} (hne : thread ≠ input.thread) :
    (stagingMachine.step state input).1.calls thread = state.calls thread := by
  simp only [stagingMachine]
  split
  · split
    · exact Function.update_of_ne hne _ _
    · rfl
  · exact Function.update_of_ne hne _ _
  · rfl

end Daemon

/-! ## Motor commands -/

section Motors

variable {F : Type} [SinglePrecision F]

theorem payload_isSome_iff (value : DamiaoCommandValue F)
    (limits : DamiaoLimits F) :
    (value.payload limits).isSome ↔
      value.faultReset = true ∨ value.enabled = false ∨
        withinLimits value.mitCommand limits = true := by
  unfold DamiaoCommandValue.payload encodeMit
  cases value.faultReset with
  | true => simp
  | false =>
      cases value.enabled with
      | false => simp
      | true =>
          cases withinLimits value.mitCommand limits with
          | true => simp [Except.toOption]
          | false => simp [Except.toOption]

/-- The actuator of a motor as a callback finds it. -/
def ActuatorsReady (motors : List (MotorProfile F)) (state : CanState F) :
    Prop :=
  ∀ (index : ℕ) (motor : MotorProfile F), motors[index]? = some motor →
    ∃ actuator, state.actuators[index]? = some actuator ∧
      actuator.limits = motor.limits ∧ actuator.zeroRequested = false

theorem actuatorsReady_configured (motors : List (MotorProfile F)) :
    ActuatorsReady motors (.configured motors) := by
  intro index motor hmotor
  refine ⟨.configured motor, ?_, rfl, rfl⟩
  simp [CanState.configured, hmotor]

omit [SinglePrecision F] in
theorem ActuatorsReady.of_eq {motors : List (MotorProfile F)}
    {state next : CanState F} (hready : ActuatorsReady motors state)
    (hsame : next.actuators = state.actuators) :
    ActuatorsReady motors next := by
  intro index motor hmotor
  rw [hsame]
  exact hready _ _ hmotor

theorem encode_fst (value : DamiaoCommandValue F)
    (actuator : DamiaoActuator F) :
    (value.encode actuator).1.limits = actuator.limits ∧
      (value.encode actuator).1.zeroRequested = false := by
  unfold DamiaoCommandValue.encode
  dsimp only
  split <;> exact ⟨rfl, rfl⟩

theorem stage_actuators (buses : DamiaoBuses) (state : CanState F)
    (index : ℕ) (value : DamiaoCommandValue F) :
    (state.stage buses index value).1.actuators = state.actuators ∨
      ∃ actuator, state.actuators[index]? = some actuator ∧
        (state.stage buses index value).1.actuators =
          state.actuators.set index (value.encode actuator).1 := by
  unfold CanState.stage
  split
  · next route actuator _ _ hactuator =>
      refine Or.inr ⟨actuator, hactuator, ?_⟩
      dsimp only
      split
      · rfl
      · split <;> rfl
  · exact Or.inl rfl

theorem ActuatorsReady.stage {motors : List (MotorProfile F)}
    {state : CanState F} (hready : ActuatorsReady motors state)
    (buses : DamiaoBuses) (index : ℕ) (value : DamiaoCommandValue F) :
    ActuatorsReady motors (state.stage buses index value).1 := by
  obtain hsame | ⟨actuator, hactuator, hset⟩ :=
    stage_actuators buses state index value
  · exact hready.of_eq hsame
  · intro other motor hmotor
    obtain ⟨found, hfound, hlimits, hzero⟩ := hready _ _ hmotor
    rw [hset]
    by_cases hother : other = index
    · subst hother
      rw [hactuator] at hfound
      cases hfound
      have hencode := encode_fst value actuator
      refine ⟨(value.encode actuator).1, ?_, hencode.1.trans hlimits,
        hencode.2⟩
      exact List.getElem?_set_self (List.getElem?_eq_some_iff.mp hactuator).1
    · refine ⟨found, ?_, hlimits, hzero⟩
      rw [List.getElem?_set_ne (Ne.symm hother)]
      exact hfound

section Reach

variable {D : Type} [DoubleArithmetic D] {profile : RobotProfile D F}
  {buses : DamiaoBuses} (hrouted : Routed profile buses)
  {state : CanState F} (hready : ActuatorsReady profile.motors state)
  {index : ℕ} {value : DamiaoCommandValue F}

include hrouted hready

/-- A command which its actuator does not encode stops at the callback. -/
theorem stage_quiet (hreaches :
      ¬ (CommandSample.motor index value : CommandSample D F).ReachesMotor
        profile.motors) :
    (state.stage buses index value).1.slot = state.slot ∧
      (state.stage buses index value).1.stager = state.stager := by
  unfold CanState.stage
  split
  · next route actuator _ hroute hactuator =>
      obtain ⟨motor, hmotor, _⟩ := hrouted.owner hroute
      obtain ⟨found, hfound, hlimits, hzero⟩ := hready _ _ hmotor
      rw [hactuator] at hfound
      cases hfound
      have hnone : (value.encode actuator).2 = none := by
        rw [value.encode_eq hzero, hlimits]
        cases hpayload : value.payload motor.limits with
        | none => rfl
        | some payload =>
            have hsome := (payload_isSome_iff value motor.limits).mp (by
              rw [hpayload]
              rfl)
            exact absurd ⟨motor, hmotor, hsome⟩ hreaches
      simp only [hnone]
      exact ⟨rfl, rfl⟩
  · exact ⟨rfl, rfl⟩

/-- A command which its actuator encodes enters the slot of its motor. -/
theorem stage_touches (hfree : state.stager = none)
    (hreaches :
      (CommandSample.motor index value : CommandSample D F).ReachesMotor
        profile.motors) :
    (state.stage buses index value).1.slot ≠ state.slot := by
  obtain ⟨motor, hmotor, hencodes⟩ := hreaches
  obtain ⟨route, hroute, hslot⟩ := hrouted.exists_route hmotor
  obtain ⟨owner, _, hpath⟩ := hrouted.owner hroute
  have htransport := (List.getElem?_eq_some_iff.mp hpath).1
  obtain ⟨actuator, hactuator, hlimits, hzero⟩ := hready _ _ hmotor
  obtain ⟨payload, hpayload⟩ := Option.isSome_iff_exists.mp
    ((payload_isSome_iff value motor.limits).mpr hencodes)
  have hframe : (value.encode actuator).2 =
      some ((actuator.frame payload).setSequence value.sequence) := by
    rw [value.encode_eq hzero, hlimits, hpayload]
    rfl
  have hvalid : route.transportIndex < buses.paths.length ∧
      route.transmitSlot < kActuatorSlots ∧
      ((actuator.frame payload).setSequence value.sequence).size.toNat ≤
        256 := by
    refine ⟨htransport, hslot, ?_⟩
    rw [encode_size hframe]
    decide
  have hversion : (((state.stage buses index value).1.slot
      route.transportIndex ⟨route.transmitSlot, hslot⟩).mailbox).version =
      (state.slot route.transportIndex
        ⟨route.transmitSlot, hslot⟩).mailbox.version + 1 := by
    unfold CanState.stage
    simp only [hfree, hroute, hactuator, hframe, dif_pos hvalid,
      CanState.slot_setStager, CanState.slot_setSlot_self]
    rfl
  intro hsame
  rw [hsame] at hversion
  omega

end Reach

end Motors

/-! ## The worker -/

section Worker

variable {D F : Type} [DoubleArithmetic D] [SinglePrecision F]

/-- Outside its callbacks the worker is in no call. -/
structure WorkerSettled (motors : List (MotorProfile F))
    (paths : CommandPaths D F) : Prop where
  producer : paths.worker ≠ .epoch →
    paths.daemon.producers workerThread = .idle
  call : paths.worker ≠ .staging → paths.serial.calls workerThread = none
  stager : paths.worker ≠ .storing → paths.can.stager = none
  actuators : ActuatorsReady motors paths.can

/-- The stop holds, and no call of `start` will undo it. -/
structure CommandsClosed (paths : CommandPaths D F) : Prop where
  closed : paths.daemon.acceptingCommands = false
  requested : paths.daemon.stopRequested = true
  start : paths.start ≠ .starting

variable {axisCount : ℕ} {buses : DamiaoBuses} {motors : List (MotorProfile F)}
  {paths : CommandPaths D F}

theorem CommandSetup.settled (setup : CommandSetup D F) (clock : ℤ) :
    WorkerSettled setup.profile.motors (setup.paths clock) :=
  ⟨fun _ => rfl, fun _ => rfl, fun _ => rfl, actuatorsReady_configured _⟩

theorem WorkerSettled.callback (h : WorkerSettled motors paths)
    (sample : CommandSample D F) :
    WorkerSettled motors (paths.callback axisCount buses sample) := by
  unfold CommandPaths.callback
  cases hworker : paths.worker with
  | idle =>
      have hproducer := h.producer (by simp [hworker])
      have hcall := h.call (by simp [hworker])
      have hstager := h.stager (by simp [hworker])
      cases sample with
      | epoch call =>
          dsimp only [CommandPaths.stageEpoch]
          split
          · exact h
          · exact ⟨fun hne => absurd rfl hne, fun _ => hcall,
              fun _ => hstager, h.actuators⟩
      | servo index value =>
          exact ⟨fun _ => hproducer, fun _ => hcall, fun _ => hstager,
            h.actuators⟩
      | motor index value =>
          refine ⟨fun _ => hproducer, fun _ => hcall, ?_,
            h.actuators.stage buses index value⟩
          intro hne
          simp only [CommandPaths.stageMotor, CommandPaths.setCan,
            CommandPaths.setWorker] at hne ⊢
          cases hnext : (paths.can.stage buses index value).1.stager with
          | none => rfl
          | some target => simp [hnext] at hne
  | _ => exact h

omit [SinglePrecision F] in
theorem WorkerSettled.advance (h : WorkerSettled motors paths) (nowNs : ℤ) :
    WorkerSettled motors (paths.advance nowNs) := by
  unfold CommandPaths.advance
  cases hworker : paths.worker with
  | idle => exact h
  | epoch =>
      refine ⟨?_, fun _ => h.call (by simp [hworker]),
        fun _ => h.stager (by simp [hworker]), h.actuators⟩
      intro hne
      simp only [CommandPaths.stepProducer, CommandPaths.setDaemon,
        CommandPaths.setWorker] at hne ⊢
      cases hphase : (paths.daemon.produce workerThread).1.producers
          workerThread with
      | idle => rfl
      | _ => simp [hphase] at hne
  | servo index command =>
      have hproducer := h.producer (by simp [hworker])
      have hcall := h.call (by simp [hworker])
      have hstager := h.stager (by simp [hworker])
      dsimp only
      split
      · refine ⟨fun _ => hproducer, ?_, fun _ => hstager, h.actuators⟩
        intro hne
        simp only [CommandPaths.stepSerial, CommandPaths.setSerial,
          CommandPaths.setWorker] at hne ⊢
        cases hnext : (stagingMachine.step paths.serial
            (.call workerThread (.single index command))).1.calls
              workerThread with
        | none => rfl
        | some progress => simp [hnext] at hne
      · exact ⟨fun _ => hproducer, fun _ => hcall, fun _ => hstager,
          h.actuators⟩
  | staging =>
      refine ⟨fun _ => h.producer (by simp [hworker]), ?_,
        fun _ => h.stager (by simp [hworker]), h.actuators⟩
      intro hne
      simp only [CommandPaths.stepSerial, CommandPaths.setSerial,
        CommandPaths.setWorker] at hne ⊢
      cases hnext : (stagingMachine.step paths.serial
          (.step workerThread nowNs)).1.calls workerThread with
      | none => rfl
      | some progress => simp [hnext] at hne
  | storing =>
      refine ⟨fun _ => h.producer (by simp [hworker]),
        fun _ => h.call (by simp [hworker]), ?_,
        h.actuators.of_eq (store_actuators paths.can)⟩
      intro hne
      simp only [CommandPaths.stepStore, CommandPaths.setCan,
        CommandPaths.setWorker] at hne ⊢
      cases hstager : paths.can.store.stager with
      | none => rfl
      | some target => simp [hstager] at hne

theorem WorkerSettled.step (h : WorkerSettled motors paths)
    (input : PathInput D F) :
    WorkerSettled motors (paths.step axisCount buses input) := by
  cases input with
  | callback sample => exact h.callback sample
  | advance nowNs => exact h.advance nowNs
  | beginStart =>
      simp only [CommandPaths.step, CommandPaths.beginStart]
      split
      · exact ⟨h.producer, h.call, h.stager, h.actuators⟩
      · exact h
  | openCommands =>
      simp only [CommandPaths.step, CommandPaths.openCommands]
      split
      · exact ⟨h.producer, h.call, h.stager, h.actuators⟩
      · exact h
  | finishStart =>
      simp only [CommandPaths.step, CommandPaths.finishStart]
      split
      · exact ⟨h.producer, h.call, h.stager, h.actuators⟩
      · exact h
  | abortStart =>
      simp only [CommandPaths.step, CommandPaths.abortStart]
      split
      · exact ⟨h.producer, h.call, h.stager, h.actuators⟩
      · exact h
  | daemon action =>
      simp only [CommandPaths.step]
      split
      · next hothers =>
          refine ⟨?_, h.call, h.stager, h.actuators⟩
          intro hne
          simp only [CommandPaths.setDaemon]
          rw [step_workerProducer paths.daemon hothers]
          exact h.producer hne
      · exact h
  | serial input =>
      simp only [CommandPaths.step]
      split
      · next hthread =>
          refine ⟨h.producer, ?_, h.stager, h.actuators⟩
          intro hne
          simp only [CommandPaths.setSerial]
          rw [stagingMachine_calls_of_ne paths.serial input hthread.symm]
          exact h.call hne
      · exact h
  | cycle runtime =>
      obtain ⟨_, _, _, _, hstager, _⟩ := paths.can.cycle_cases runtime
      refine ⟨h.producer, h.call, ?_,
        h.actuators.of_eq (cycle_actuators paths.can runtime)⟩
      intro hne
      simp only [CommandPaths.step, CommandPaths.setCan]
      rw [hstager]
      exact h.stager hne

theorem CommandSetup.settled_final (setup : CommandSetup D F) (clock : ℤ)
    (inputs : List (PathInput D F)) :
    WorkerSettled setup.profile.motors
      (setup.machine.final (setup.paths clock) inputs) :=
  Machine.invariant_final _ (fun _ input h => h.step input)
    (setup.settled clock) inputs

/-! ### After the stop -/

omit [SinglePrecision F] in
theorem CommandsClosed.advance (h : CommandsClosed paths) (nowNs : ℤ) :
    CommandsClosed (paths.advance nowNs) := by
  unfold CommandPaths.advance
  cases paths.worker with
  | idle => exact h
  | epoch =>
      have hkeeps := produce_keepsStop paths.daemon workerThread
      exact ⟨hkeeps.closed h.closed, hkeeps.requested h.requested, h.start⟩
  | servo index command =>
      dsimp only
      split <;> exact ⟨h.closed, h.requested, h.start⟩
  | _ => exact ⟨h.closed, h.requested, h.start⟩

theorem CommandsClosed.callback (h : CommandsClosed paths)
    (sample : CommandSample D F) :
    CommandsClosed (paths.callback axisCount buses sample) := by
  unfold CommandPaths.callback
  cases paths.worker with
  | idle =>
      cases sample with
      | epoch call =>
          dsimp only [CommandPaths.stageEpoch]
          split
          · exact h
          · next snapshot _ =>
              have hkeeps := stage_keepsStop paths.daemon workerThread snapshot
              exact ⟨hkeeps.closed h.closed, hkeeps.requested h.requested,
                h.start⟩
      | _ => exact ⟨h.closed, h.requested, h.start⟩
  | _ => exact h

theorem CommandsClosed.step (h : CommandsClosed paths)
    (input : PathInput D F) :
    CommandsClosed (paths.step axisCount buses input) := by
  cases input with
  | callback sample => exact h.callback sample
  | advance nowNs => exact h.advance nowNs
  | beginStart =>
      -- the test at the head of `start` sees the stop
      simp only [CommandPaths.step, CommandPaths.beginStart, h.requested,
        Bool.or_true, Bool.true_or, Bool.not_true, Bool.and_false,
        Bool.false_eq_true, if_false]
      exact h
  | openCommands =>
      simp only [CommandPaths.step, CommandPaths.openCommands, if_neg h.start]
      exact h
  | finishStart =>
      simp only [CommandPaths.step, CommandPaths.finishStart]
      split
      · exact ⟨h.closed, h.requested, nofun⟩
      · exact h
  | abortStart =>
      simp only [CommandPaths.step, CommandPaths.abortStart, if_neg h.start]
      exact h
  | daemon action =>
      simp only [CommandPaths.step]
      split
      · next hothers =>
          have hkeeps := step_keepsStop paths.daemon hothers
          exact ⟨hkeeps.closed h.closed, hkeeps.requested h.requested,
            h.start⟩
      · exact h
  | serial input =>
      simp only [CommandPaths.step]
      split <;> exact ⟨h.closed, h.requested, h.start⟩
  | cycle runtime => exact ⟨h.closed, h.requested, h.start⟩

/-- A stop which returns while no call of `start` is behind its checks. -/
theorem commandsClosed_of_stop {step : PathStep D F} {state : CommandPaths D F}
    {input : PathInput D F}
    (hfire : step = (pathMachine axisCount buses).fire state input)
    (hstop : step.StopReturns) (hstart : step.before.start ≠ .starting) :
    CommandsClosed step.after := by
  subst hfire
  obtain ⟨hinput, hrequested⟩ := hstop
  simp only [Machine.fire_input, Machine.fire_before] at hinput hrequested hstart
  subst hinput
  simp only [Machine.fire_after, pathMachine, CommandPaths.step,
    DaemonAction.others, if_true, daemonMachine, RobotIoDaemon.step,
    RobotIoDaemon.closeCommands, if_pos hrequested, CommandPaths.setDaemon]
  exact ⟨rfl, hrequested, hstart⟩

theorem CommandSetup.closed_of_stop (setup : CommandSetup D F) (clock : ℤ)
    {inputs : List (PathInput D F)}
    (hstop : ∃ stop ∈ setup.run clock inputs, stop.StopReturns ∧
      stop.before.start ≠ .starting) :
    CommandsClosed (setup.machine.final (setup.paths clock) inputs) := by
  obtain ⟨stop, hmem, hreturns, hstart⟩ := hstop
  obtain ⟨earlier, later, hsplit⟩ := List.mem_iff_append.mp hmem
  obtain ⟨before, input, after, rfl, _, hfire, _⟩ :=
    Machine.trace_split hsplit
  rw [Machine.final_append, Machine.final_cons]
  apply Machine.invariant_final CommandsClosed (fun _ input h => h.step input)
  have hclosed := commandsClosed_of_stop hfire hreturns hstart
  rw [hfire] at hclosed
  exact hclosed

/-- Commands are closed and the callback of the worker has not got past its
first test. -/
inductive AtTheGate : CommandPaths D F → Prop
  | idle {paths : CommandPaths D F} (hworker : paths.worker = .idle) :
      AtTheGate paths
  | epoch {paths : CommandPaths D F} {snapshot : Snapshot (AxisCommand D)}
      (hworker : paths.worker = .epoch)
      (hproducer :
        paths.daemon.producers workerThread = .arriving snapshot) :
      AtTheGate paths
  | servo {paths : CommandPaths D F} {index : ℕ}
      {command : St3215ServoCommand D}
      (hworker : paths.worker = .servo index command) : AtTheGate paths

omit [DoubleArithmetic D] [SinglePrecision F] in
theorem AtTheGate.of_eq {next : CommandPaths D F} (h : AtTheGate paths)
    (hworker : next.worker = paths.worker)
    (hproducer : next.daemon.producers workerThread =
      paths.daemon.producers workerThread) : AtTheGate next := by
  cases h with
  | idle h => exact .idle (hworker.trans h)
  | epoch h hphase => exact .epoch (hworker.trans h) (hproducer.trans hphase)
  | servo h => exact .servo (hworker.trans h)

omit [SinglePrecision F] in
/-- A closed gate ends the callback. -/
theorem CommandsClosed.advance_atTheGate (hclosed : CommandsClosed paths)
    (h : AtTheGate paths) (nowNs : ℤ) :
    (paths.advance nowNs).worker = .idle ∧
      (paths.advance nowNs).daemon.commandHandoff =
        paths.daemon.commandHandoff ∧
      (paths.advance nowNs).serial = paths.serial ∧
      (paths.advance nowNs).can = paths.can := by
  unfold CommandPaths.advance
  cases h with
  | idle hworker =>
      simp only [hworker]
      trivial
  | epoch hworker hproducer =>
      simp [hworker, CommandPaths.stepProducer, RobotIoDaemon.produce,
        hproducer, hclosed.closed, CommandPaths.setDaemon,
        CommandPaths.setWorker, setProducer]
  | servo hworker =>
      simp [hworker, hclosed.closed, CommandPaths.setWorker]

/-- The gate is passed by no step but the beginning of a callback. -/
theorem CommandsClosed.step_atTheGate (hclosed : CommandsClosed paths)
    (h : AtTheGate paths) {input : PathInput D F}
    (hnone : PathStep.begins
      ((pathMachine axisCount buses).fire paths input) = false) :
    AtTheGate (paths.step axisCount buses input) := by
  cases input with
  | callback sample =>
      have hbusy : paths.worker.isIdle = false := hnone
      simp only [CommandPaths.step, CommandPaths.callback]
      cases hworker : paths.worker with
      | idle =>
          rw [hworker] at hbusy
          cases hbusy
      | _ => exact h
  | advance nowNs =>
      exact .idle (hclosed.advance_atTheGate h nowNs).1
  | beginStart =>
      simp only [CommandPaths.step, CommandPaths.beginStart]
      split
      · exact h.of_eq rfl rfl
      · exact h
  | openCommands =>
      simp only [CommandPaths.step, CommandPaths.openCommands]
      split
      · exact h.of_eq rfl rfl
      · exact h
  | finishStart =>
      simp only [CommandPaths.step, CommandPaths.finishStart]
      split
      · exact h.of_eq rfl rfl
      · exact h
  | abortStart =>
      simp only [CommandPaths.step, CommandPaths.abortStart]
      split
      · exact h.of_eq rfl rfl
      · exact h
  | daemon action =>
      simp only [CommandPaths.step]
      split
      · next hothers =>
          exact h.of_eq rfl (step_workerProducer paths.daemon hothers)
      · exact h
  | serial input =>
      simp only [CommandPaths.step]
      split
      · exact h.of_eq rfl rfl
      · exact h
  | cycle runtime => exact h.of_eq rfl rfl

/-- The rest of a callback which is at the gate. -/
theorem untouched_of_atTheGate (hclosed : CommandsClosed paths)
    (h : AtTheGate paths) (inputs : List (PathInput D F)) :
    ∀ step ∈ workerSteps ((pathMachine axisCount buses).trace paths inputs),
      PathStep.Untouched step := by
  induction inputs generalizing paths with
  | nil => simp [workerSteps]
  | cons input rest ih =>
      intro step hstep
      obtain ⟨hmem, hadvances⟩ := List.mem_filter.mp hstep
      rw [Machine.trace_cons, List.takeWhile_cons] at hmem
      split at hmem
      · next hbegins =>
          have hnone : PathStep.begins
              ((pathMachine axisCount buses).fire paths input) = false := by
            simpa using hbegins
          rcases List.mem_cons.mp hmem with rfl | hlater
          · cases input with
            | advance nowNs =>
                obtain ⟨_, hhandoff, hserial, hcan⟩ :=
                  hclosed.advance_atTheGate h nowNs
                refine ⟨hhandoff, ?_, ?_⟩
                · intro index
                  exact congrArg (fun serial => (StagingState.servos serial
                    index).commands) hserial
                · intro runtime target
                  exact congrArg (fun can => CanState.slot can runtime target)
                    hcan
            | _ => cases hadvances
          · exact ih (hclosed.step input)
              (hclosed.step_atTheGate h hnone) step
              (List.mem_filter.mpr ⟨hlater, hadvances⟩)
      · exact absurd hmem List.not_mem_nil

/-! ## Beginnings of callbacks -/

section Begin

variable (axisCount) {profile : RobotProfile D F}
  (hrouted : Routed profile buses)
  (hsettled : WorkerSettled profile.motors paths)
  (hidle : paths.worker = .idle) {sample : CommandSample D F}

include hrouted hsettled hidle

/-- A callback which reaches no motor comes to the gate. -/
theorem callback_gated (hreaches : ¬ sample.ReachesMotor profile.motors) :
    AtTheGate (paths.callback axisCount buses sample) ∧
      (paths.callback axisCount buses sample).daemon.commandHandoff =
        paths.daemon.commandHandoff ∧
      (paths.callback axisCount buses sample).serial = paths.serial ∧
      (paths.callback axisCount buses sample).can.slot = paths.can.slot := by
  unfold CommandPaths.callback
  rw [hidle]
  cases sample with
  | epoch call =>
      dsimp only [CommandPaths.stageEpoch]
      split
      · exact ⟨.idle hidle, rfl, rfl, rfl⟩
      · next snapshot _ =>
          have hproducer := hsettled.producer (by simp [hidle])
          have hstaged : paths.daemon.stage workerThread snapshot =
              paths.daemon.setProducer workerThread (.arriving snapshot) := by
            simp only [RobotIoDaemon.stage, hproducer]
          rw [hstaged]
          have hphase : (paths.daemon.setProducer workerThread
              (.arriving snapshot)).producers workerThread =
              .arriving snapshot := by simp [setProducer]
          exact ⟨.epoch rfl hphase, rfl, rfl, rfl⟩
  | servo index value => exact ⟨.servo rfl, rfl, rfl, rfl⟩
  | motor index value =>
      obtain ⟨hslots, hstager⟩ := stage_quiet hrouted hsettled.actuators
        hreaches
      refine ⟨.idle ?_, rfl, rfl, hslots⟩
      simp [CommandPaths.stageMotor, CommandPaths.setWorker, hstager,
        hsettled.stager (by simp [hidle])]

/-- A command which reaches its motor changes a slot. -/
theorem callback_touches (hreaches : sample.ReachesMotor profile.motors) :
    (paths.callback axisCount buses sample).can.slot ≠ paths.can.slot := by
  unfold CommandPaths.callback
  rw [hidle]
  cases sample with
  | epoch call => cases hreaches
  | servo index value => cases hreaches
  | motor index value =>
      exact stage_touches hrouted hsettled.actuators
        (hsettled.stager (by simp [hidle])) hreaches

end Begin

end Worker

/-- Once a stop has returned and no call of `start` can undo it, a callback
leaves hand-off, servo commands and slots alone unless it is that of a motor
command which the actuator encodes. -/
theorem CommandSetup.stop_gates_iff {D F : Type} [DoubleArithmetic D]
    [SinglePrecision F] (setup : CommandSetup D F) (clock : ℤ)
    (inputs : List (PathInput D F))
    (earlier later : List (PathStep D F)) (begun : PathStep D F)
    (sample : CommandSample D F)
    (hsplit : setup.run clock inputs = earlier ++ begun :: later)
    (hsample : begun.input = .callback sample)
    (hbegins : begun.begins = true)
    (hstop : ∃ stop ∈ earlier, stop.StopReturns ∧
      stop.before.start ≠ .starting) :
    (∀ step ∈ begun :: workerSteps later, step.Untouched) ↔
      ¬ sample.ReachesMotor setup.profile.motors := by
  obtain ⟨before, input, after, _, rfl, rfl, rfl⟩ :=
    Machine.trace_split hsplit
  rw [Machine.fire_input] at hsample
  subst hsample
  have hrouted := routed_of_configureDamiao setup.configured
  have hsettled := setup.settled_final clock before
  have hclosed := setup.closed_of_stop clock hstop
  have hidle : (setup.machine.final (setup.paths clock) before).worker =
      .idle := by
    simp only [PathStep.begins, Machine.fire_input, Machine.fire_before]
      at hbegins
    cases hworker : (setup.machine.final (setup.paths clock) before).worker with
    | idle => rfl
    | _ =>
        rw [hworker] at hbegins
        cases hbegins
  constructor
  · intro huntouched hreaches
    have hbegun := huntouched _ List.mem_cons_self
    refine callback_touches setup.device.axes.length hrouted hsettled hidle
      hreaches ?_
    funext runtime target
    exact hbegun.slots runtime target
  · intro hreaches step hstep
    obtain ⟨hgate, hhandoff, hserial, hslots⟩ :=
      callback_gated setup.device.axes.length hrouted hsettled hidle hreaches
    rcases List.mem_cons.mp hstep with rfl | hlater
    · refine ⟨hhandoff, ?_, ?_⟩
      · intro index
        exact congrArg (fun serial => (StagingState.servos serial
          index).commands) hserial
      · intro runtime target
        exact congrFun (congrFun hslots runtime) target
    · exact untouched_of_atTheGate (hclosed.callback sample) hgate after step
        hlater

/-- A call of `start` which is behind its checks undoes the stop. -/
theorem CommandSetup.start_undoes_stop {D F : Type} [DoubleArithmetic D]
    [SinglePrecision F] (setup : CommandSetup D F) (clock : ℤ) :
    (∃ stop ∈ setup.run clock [.beginStart, .daemon .requestStop,
        .daemon .closeCommands], stop.StopReturns) ∧
      (setup.machine.final (setup.paths clock) [.beginStart,
        .daemon .requestStop, .daemon .closeCommands,
        .openCommands]).daemon.acceptingCommands = true :=
  ⟨⟨_, List.mem_of_getElem? (i := 2) rfl, rfl, rfl⟩, rfl⟩

/-! ## A robot with two motors -/

/-- A daemon without axes. -/
def motorsOnly : DeviceSetup ℚ where
  options := singleAxisDevice.options
  axes := []
  accepted := by decide
  devices := singleAxisDevice.devices
  created := by
    intro axis source hsource
    cases hsource

def twoMotorCommands : CommandSetup ℚ ℚ where
  device := motorsOnly
  profile := twoMotorProfile
  axes := by
    have hlength : twoMotorProfile.axes.length = 0 := by decide +kernel
    rw [List.eq_nil_of_length_eq_zero hlength]
    rfl
  openSocketCan := fun _ => .ok ()
  lexicallyNormal := id
  buses := twoMotorBuses
  configured := twoMotor_configured

def stoppedInputs : List (PathInput ℚ ℚ) :=
  [.beginStart, .openCommands, .finishStart, .daemon .requestStop,
    .daemon .closeCommands]

def stoppedPaths : CommandPaths ℚ ℚ :=
  twoMotorCommands.machine.final (twoMotorCommands.paths 0) stoppedInputs

/-- A callback which begins after the stop. -/
def stoppedCallback (sample : CommandSample ℚ ℚ) : PathStep ℚ ℚ :=
  twoMotorCommands.machine.fire stoppedPaths (.callback sample)

theorem stoppedCallback_run (sample : CommandSample ℚ ℚ) :
    twoMotorCommands.run 0 (stoppedInputs ++ [.callback sample]) =
      twoMotorCommands.run 0 stoppedInputs ++ [stoppedCallback sample] :=
  Machine.trace_append ..

theorem stoppedInputs_stop :
    ∃ stop ∈ twoMotorCommands.run 0 stoppedInputs, stop.StopReturns ∧
      stop.before.start ≠ .starting := by
  refine ⟨_, List.mem_of_getElem? (i := 4) rfl, ⟨rfl, rfl⟩, ?_⟩
  decide

/-- An enabled command for the elbow. -/
def elbowHold : CommandSample ℚ ℚ := .motor 1 holdCommand

theorem elbowHold_reachesMotor :
    elbowHold.ReachesMotor twoMotorProfile.motors := by
  have hlimits : (twoMotorProfile.motors[1]?).map
      (fun motor => withinLimits holdCommand.mitCommand motor.limits) =
      some true := by
    decide +kernel
  obtain ⟨motor, hmotor, hwithin⟩ := Option.map_eq_some_iff.mp hlimits
  exact ⟨motor, hmotor, Or.inr (Or.inr hwithin)⟩

/-- The stop has returned, and the command of the elbow enters its slot. -/
theorem stopped_motor_command_staged :
    twoMotorCommands.run 0 (stoppedInputs ++ [.callback elbowHold]) =
        twoMotorCommands.run 0 stoppedInputs ++ [stoppedCallback elbowHold] ∧
      (∃ stop ∈ twoMotorCommands.run 0 stoppedInputs, stop.StopReturns ∧
        stop.before.start ≠ .starting) ∧
      (stoppedCallback elbowHold).begins = true ∧
      ¬ (stoppedCallback elbowHold).Untouched := by
  refine ⟨stoppedCallback_run elbowHold, stoppedInputs_stop, rfl, ?_⟩
  intro huntouched
  refine callback_touches 0 (routed_of_configureDamiao twoMotor_configured)
    (twoMotorCommands.settled_final 0 stoppedInputs) rfl
    elbowHold_reachesMotor ?_
  funext runtime target
  exact huntouched.slots runtime target

theorem stop_gates_servo :
    (stoppedCallback (.servo 0 ⟨1, 0, 0, true, false⟩)).Untouched :=
  (twoMotorCommands.stop_gates_iff 0 _ _ [] _ _
    (stoppedCallback_run (.servo 0 ⟨1, 0, 0, true, false⟩)) rfl rfl
    stoppedInputs_stop).mpr id _ List.mem_cons_self

end PolicyRuntime
