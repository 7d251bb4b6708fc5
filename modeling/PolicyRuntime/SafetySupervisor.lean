import PolicyRuntime.Cia402Axis

/-!
# The safety supervisor

A translation of `SafetySupervisor`: configuration with its group numbering,
the command acceptance latch, and the cyclic evaluation.  The evaluation keeps
the order of the source: every axis is assessed, stop triggers are propagated
inside safety groups by two loops which update the marks while they run over
them, and every axis then takes its decision.
-/

namespace PolicyRuntime

open FloatingPoint

def kAxisFeedbackSafetyTimeout : BitVec 32 := 1#32 <<< 16
def kAxisFeedbackSafetyWkc : BitVec 32 := 1#32 <<< 17
def kAxisFeedbackSafetyLink : BitVec 32 := 1#32 <<< 18
def kAxisFeedbackSafetySlave : BitVec 32 := 1#32 <<< 19
def kAxisFeedbackSafetyModeMismatch : BitVec 32 := 1#32 <<< 20
def kAxisFeedbackSafetyFollowingError : BitVec 32 := 1#32 <<< 21
def kAxisFeedbackSafetyInvalidCommand : BitVec 32 := 1#32 <<< 22
def kAxisFeedbackSafetyFaultResetLimit : BitVec 32 := 1#32 <<< 23
def kAxisFeedbackSafetyGroup : BitVec 32 := 1#32 <<< 24
def kAxisFeedbackSafetyShutdown : BitVec 32 := 1#32 <<< 25
def kAxisFeedbackSafetyProcessData : BitVec 32 := 1#32 <<< 26
def kAxisFeedbackSafetyDriveFault : BitVec 32 := 1#32 <<< 27
def kAxisFeedbackSafetySerial : BitVec 32 := 1#32 <<< 28

structure SafetyOptions where
  consecutiveWkcLimit : UInt32 := 3
  maximumFaultResets : UInt32 := 3
  /-- nanoseconds -/
  safeStopTimeout : ℤ := 250000000
  zeroVelocityThresholdCounts : ℤ := 1
  zeroVelocityConfirmationCycles : UInt32 := 1
  deriving DecidableEq

inductive CommandAcceptance
  | accepted
  | duplicate
  | rejected
  deriving DecidableEq, Repr

structure SafetyBusState where
  workingCounter : ℕ
  expectedWorkingCounter : ℕ
  expectedWorkingCounterKnown : Bool
  workingCounterComplete : Bool
  linkUp : Bool
  allSlavesOperational : Bool
  processDataValid : Bool
  operationalAxesMask : BitVec 16
  externalStopAxesMask : BitVec 16
  deriving DecidableEq

structure SafetyEvaluation (D : Type) where
  commands : Axis → AxisCommand D
  requests : Axis → AxisRequest
  feedbackFlags : Axis → BitVec 32
  axisCount : ℕ
  shutdownComplete : Bool

structure AxisSafetyConfig (D : Type) where
  commandTimeoutNs : ℤ
  mode : Cia402Mode
  scale : D
  minimum : D
  maximum : D
  slewLimit : D
  followingErrorLimit : D
  group : UInt8

inductive StopPhase
  | running
  | quickStop
  | disabled
  deriving DecidableEq, Repr

structure AxisSafetyState (D : Type) where
  phase : StopPhase
  stopStartedNs : ℤ
  zeroVelocityCycles : UInt32
  faultResetEdges : UInt32
  stoppedCommandSequence : ℕ
  lastTarget : D
  hasLastTarget : Bool
  faultEpisodeActive : Bool
  faultResetOutputActive : Bool

structure TargetEvaluation (D : Type) where
  actual : D
  staged : D
  followingError : Bool

structure SafetySupervisor (D : Type) where
  options : SafetyOptions
  configs : Axis → AxisSafetyConfig D
  states : Axis → AxisSafetyState D
  commands : Axis → AxisCommand D
  lastRequests : Axis → AxisRequest
  axisCount : ℕ
  consecutiveWkcFailures : UInt32
  lastCommandSequence : ℕ
  lastCommandTimestampNs : ℤ
  configured : Bool
  hasCommand : Bool
  commandsValid : Bool
  shutdownRequested : Bool
  shutdownComplete : Bool

/-- A `std::span` of process data views. -/
structure PdoSpan where
  size : ℕ
  view : Axis → Cia402PdoView

variable {D : Type} [FloatingPoint D]

def AxisSafetyConfig.empty : AxisSafetyConfig D where
  commandTimeoutNs := 0
  mode := .other 0
  scale := zero
  minimum := zero
  maximum := zero
  slewLimit := zero
  followingErrorLimit := zero
  group := 0

def AxisSafetyState.initial : AxisSafetyState D where
  phase := .running
  stopStartedNs := 0
  zeroVelocityCycles := 0
  faultResetEdges := 0
  stoppedCommandSequence := 0
  lastTarget := zero
  hasLastTarget := false
  faultEpisodeActive := false
  faultResetOutputActive := false

namespace SafetySupervisor

/-! ## Configuration -/

def create (options : SafetyOptions) : SafetySupervisor D where
  options := options
  configs := fun _ => .empty
  states := fun _ => .initial
  commands := fun _ => .empty
  lastRequests := fun _ => .disable
  axisCount := 0
  consecutiveWkcFailures := 0
  lastCommandSequence := 0
  lastCommandTimestampNs := 0
  configured := false
  hasCommand := false
  commandsValid := false
  shutdownRequested := false
  shutdownComplete := false

def validOptions (options : SafetyOptions) : Bool :=
  0 < options.consecutiveWkcLimit && 0 < options.maximumFaultResets &&
    0 < options.safeStopTimeout &&
    0 ≤ options.zeroVelocityThresholdCounts &&
    0 < options.zeroVelocityConfirmationCycles

/-- `std::numeric_limits<std::int64_t>::max() / 1'000'000LL` -/
def maximumTimeoutMs : ℤ := 9223372036854775807 / 1000000

def validLimits (axis : AxisConfig D) : Bool :=
  !(axis.commandTimeout ≤ 0 || maximumTimeoutMs < axis.commandTimeout ||
    !isfinite axis.scale || le axis.scale zero ||
    !isfinite axis.minimum || !isfinite axis.maximum ||
    lt axis.maximum axis.minimum ||
    !isfinite axis.slewLimit || le axis.slewLimit zero ||
    !isfinite axis.followingErrorLimit ||
    le axis.followingErrorLimit zero)

def validMode (axis : AxisConfig D) : Bool :=
  axis.mode == .csp || axis.mode == .csv || axis.mode == .cst

/-- The group of the first earlier axis with the same non-empty group name. -/
def previousGroup (name : String) : List (String × UInt8) → Option UInt8
  | [] => none
  | (previous, group) :: rest =>
      if previous = name then some group else previousGroup name rest

/-- The group of the next axis and the next unused group number. -/
def assignGroup (name : String) (assigned : List (String × UInt8))
    (nextGroup : UInt8) : UInt8 × UInt8 :=
  let group := nextGroup
  let nextGroup := nextGroup + 1
  if name.isEmpty then (group, nextGroup)
  else
    match previousGroup name assigned with
    | none => (group, nextGroup)
    | some previous => (previous, nextGroup - 1)

def axisSafetyConfig (axis : AxisConfig D) (group : UInt8) :
    AxisSafetyConfig D where
  commandTimeoutNs := axis.commandTimeout * 1000000
  mode := axis.mode
  scale := axis.scale
  minimum := axis.minimum
  maximum := axis.maximum
  slewLimit := axis.slewLimit
  followingErrorLimit := axis.followingErrorLimit
  group := group

/-- The loop over the axes.  `index` is the next axis, `assigned` holds the
group names and numbers of the axes before it. -/
def configureLoop (supervisor : SafetySupervisor D) :
    List (AxisConfig D) → ℕ → List (String × UInt8) → UInt8 →
      SafetySupervisor D × Except Error Unit
  | [], _, _, _ => (supervisor, .ok ())
  | axis :: rest, index, assigned, nextGroup =>
      if !validLimits axis then
        (supervisor, .error
          ⟨.invalidArgument, "axis has invalid daemon safety limits"⟩)
      else if !validMode axis then
        (supervisor, .error
          ⟨.invalidArgument, "axis has invalid static CiA 402 mode"⟩)
      else
        let (group, nextGroup) :=
          assignGroup axis.safetyGroup assigned nextGroup
        let supervisor :=
          { supervisor with
            configs := fun a => if a.val = index then
              axisSafetyConfig axis group else supervisor.configs a
            lastRequests := fun a => if a.val = index then
              .disable else supervisor.lastRequests a }
        configureLoop supervisor rest (index + 1)
          (assigned ++ [(axis.safetyGroup, group)]) nextGroup

def configure (supervisor : SafetySupervisor D)
    (axes : List (AxisConfig D)) : SafetySupervisor D × Except Error Unit :=
  if supervisor.configured then
    (supervisor, .error
      ⟨.invalidArgument, "safety supervisor is already configured"⟩)
  else if kRobotIoMaximumAxes < axes.length ||
      !validOptions supervisor.options then
    (supervisor, .error
      ⟨.invalidArgument, "invalid axis count or safety options"⟩)
  else
    match configureLoop supervisor axes 0 [] 0 with
    | (supervisor, .error error) => (supervisor, .error error)
    | (supervisor, .ok ()) =>
        ({ supervisor with axisCount := axes.length, configured := true },
          .ok ())

/-! ## Command acceptance -/

/-- The axes the loops of the source run over, in their order. -/
def axes (supervisor : SafetySupervisor D) : List Axis :=
  (List.finRange kRobotIoMaximumAxes).filter
    (fun axis => axis.val < supervisor.axisCount)

def commandEquals (lhs rhs : AxisCommand D) : Bool :=
  lhs.sequence == rhs.sequence && lhs.timestampNs == rhs.timestampNs &&
    eq lhs.target rhs.target && lhs.flags == rhs.flags &&
    lhs.reserved == rhs.reserved

def validCommand (snapshot : Snapshot (AxisCommand D))
    (command : AxisCommand D) : Bool :=
  !(command.sequence != snapshot.sequence ||
    command.timestampNs != snapshot.timestampNs ||
    command.reserved != 0 || !isfinite command.target ||
    command.flags &&& ~~~kKnownCommandFlags != 0 ||
    1 < flagCount (command.flags &&& kKnownCommandFlags))

def validSnapshot (supervisor : SafetySupervisor D)
    (snapshot : Snapshot (AxisCommand D)) (nowNs : ℤ) : Bool :=
  if !supervisor.configured ||
      snapshot.axisCount != supervisor.axisCount ||
      snapshot.timestampNs < 0 || nowNs < snapshot.timestampNs then
    false
  else
    supervisor.axes.all fun axis => validCommand snapshot (snapshot.axes axis)

/-- The snapshot repeats the stored commands. -/
def sameCommands (supervisor : SafetySupervisor D)
    (snapshot : Snapshot (AxisCommand D)) : Bool :=
  snapshot.timestampNs == supervisor.lastCommandTimestampNs &&
    supervisor.axes.all fun axis =>
      commandEquals (snapshot.axes axis) (supervisor.commands axis)

def storeCommands (supervisor : SafetySupervisor D)
    (snapshot : Snapshot (AxisCommand D)) : SafetySupervisor D :=
  { supervisor with
    commands := fun axis => if axis.val < supervisor.axisCount then
      snapshot.axes axis else supervisor.commands axis
    lastCommandSequence := snapshot.sequence
    lastCommandTimestampNs := snapshot.timestampNs
    hasCommand := true
    commandsValid := true }

def acceptCommands (supervisor : SafetySupervisor D)
    (snapshot : Snapshot (AxisCommand D)) (nowNs : ℤ) :
    SafetySupervisor D × CommandAcceptance :=
  let rejected := { supervisor with commandsValid := false }
  if !supervisor.validSnapshot snapshot nowNs then
    (rejected, .rejected)
  else if supervisor.hasCommand then
    if snapshot.sequence < supervisor.lastCommandSequence ||
        snapshot.timestampNs < supervisor.lastCommandTimestampNs then
      (rejected, .rejected)
    else if snapshot.sequence = supervisor.lastCommandSequence then
      if supervisor.sameCommands snapshot then
        (supervisor, .duplicate)
      else
        (rejected, .rejected)
    else
      (supervisor.storeCommands snapshot, .accepted)
  else
    (supervisor.storeCommands snapshot, .accepted)

def requestShutdown (supervisor : SafetySupervisor D) (_nowNs : ℤ) :
    SafetySupervisor D :=
  { supervisor with shutdownRequested := true }

/-! ## Assessment of one axis -/

def axisOperational (bus : SafetyBusState) (axis : Axis) : Bool :=
  bus.allSlavesOperational ||
    (axis.val < 16 && bus.operationalAxesMask &&& (1#16 <<< axis.val) != 0)

def externalStop (bus : SafetyBusState) (axis : Axis) : Bool :=
  bus.externalStopAxesMask &&& (1#16 <<< axis.val) != 0

def evaluateTarget (config : AxisSafetyConfig D) (state : AxisSafetyState D)
    (command : AxisCommand D) (pdo : Cia402PdoView) :
    TargetEvaluation D × AxisSafetyState D :=
  let measured := actualSetpoint config.mode config.scale pdo
  let actual := measured.getD zero
  let state := if state.hasLastTarget then state else
    { state with lastTarget := actual, hasLastTarget := true }
  if requestFromFlags command.flags ≠ .enable ∨ measured.isNone then
    (⟨actual, actual, false⟩, state)
  else
    let staged := clamp command.target config.minimum config.maximum
    let staged := clamp staged (sub state.lastTarget config.slewLimit)
      (add state.lastTarget config.slewLimit)
    let active :=
      followingErrorActive (Cia402StateMachine.decode pdo.statusWord)
    (⟨actual, staged,
      active && lt config.followingErrorLimit (abs (sub staged actual))⟩,
      state)

def counterBad (bus : SafetyBusState) : Bool :=
  !bus.workingCounterComplete ||
    (bus.expectedWorkingCounterKnown &&
      bus.workingCounter != bus.expectedWorkingCounter)

/-- The saturating count of consecutive bad working counters. -/
def countWkcFailures (failures : UInt32) (bus : SafetyBusState) : UInt32 :=
  if counterBad bus then
    if failures < 4294967295 then failures + 1 else failures
  else
    0

def invalidProcessData (bus : SafetyBusState) : Bool :=
  !bus.processDataValid && !counterBad bus && bus.linkUp

/-- What the stored command asks of an axis. -/
def requested (supervisor : SafetySupervisor D) (axis : Axis) : AxisRequest :=
  if supervisor.hasCommand then
    requestFromFlags (supervisor.commands axis).flags
  else
    .disable

def commandTimedOut (supervisor : SafetySupervisor D) (axis : Axis)
    (nowNs : ℤ) : Bool :=
  !supervisor.hasCommand || nowNs < supervisor.lastCommandTimestampNs ||
    (supervisor.configs axis).commandTimeoutNs <
      nowNs - supervisor.lastCommandTimestampNs

def driveFault (state : DriveState) : Bool :=
  state == .fault || state == .faultReactionActive

def faultClearObserved (bus : SafetyBusState) (axis : Axis)
    (pdo : Cia402PdoView) : Bool :=
  let state := Cia402StateMachine.decode pdo.statusWord
  !driveFault state && state != .unknown && bus.linkUp &&
    bus.processDataValid && axisOperational bus axis

/-- Fault episode accounting before the decision. -/
def trackFaultEpisode (clear : Bool) (state : AxisSafetyState D) :
    AxisSafetyState D :=
  if clear then
    { state with
      faultEpisodeActive := false
      faultResetEdges := 0
      faultResetOutputActive := false }
  else if !state.faultEpisodeActive then
    { state with
      faultEpisodeActive := true
      faultResetEdges := 0
      faultResetOutputActive := false }
  else
    state

structure AxisAssessment (D : Type) where
  reasons : BitVec 32
  trigger : Bool
  faultResetCandidate : Bool
  target : TargetEvaluation D
  state : AxisSafetyState D

/-- A new reset edge is asked for: the drive is in Fault, the command is a
reset, and the last output was none. -/
def resetEdge (state : AxisSafetyState D) (drive : DriveState)
    (request : AxisRequest) : Bool :=
  drive == .fault && request == .faultReset && !state.faultResetOutputActive

def resetBudgetAvailable (options : SafetyOptions)
    (state : AxisSafetyState D) (drive : DriveState)
    (request : AxisRequest) : Bool :=
  !resetEdge state drive request ||
    state.faultResetEdges < options.maximumFaultResets

/-- The body of the first loop of `evaluate`. -/
def assess (supervisor : SafetySupervisor D) (bus : SafetyBusState)
    (pdos : PdoSpan) (nowNs : ℤ) (axis : Axis) : AxisAssessment D :=
  let config := supervisor.configs axis
  let pdo := pdos.view axis
  let request := supervisor.requested axis
  let wkcLimitReached := supervisor.options.consecutiveWkcLimit ≤
    countWkcFailures supervisor.consecutiveWkcFailures bus
  let (target, state) := evaluateTarget config (supervisor.states axis)
    (supervisor.commands axis) pdo
  let drive := Cia402StateMachine.decode pdo.statusWord
  let state := trackFaultEpisode (faultClearObserved bus axis pdo) state
  let budget :=
    resetBudgetAvailable supervisor.options state drive request
  let faultStop := driveFault drive &&
    (drive != .fault || request != .faultReset || !budget)
  let reasons := 0#32
  let reasons := raiseFlag (supervisor.commandTimedOut axis nowNs)
    kAxisFeedbackSafetyTimeout reasons
  let reasons := raiseFlag (!supervisor.commandsValid)
    kAxisFeedbackSafetyInvalidCommand reasons
  let reasons := raiseFlag (externalStop bus axis)
    kAxisFeedbackSafetySerial reasons
  let reasons := raiseFlag (!bus.linkUp) kAxisFeedbackSafetyLink reasons
  let reasons := raiseFlag wkcLimitReached kAxisFeedbackSafetyWkc reasons
  let reasons := raiseFlag (invalidProcessData bus)
    kAxisFeedbackSafetyProcessData reasons
  let reasons := raiseFlag (!axisOperational bus axis)
    kAxisFeedbackSafetySlave reasons
  let reasons := raiseFlag (pdo.modeDisplay != config.mode.value)
    kAxisFeedbackSafetyModeMismatch reasons
  let reasons := raiseFlag target.followingError
    kAxisFeedbackSafetyFollowingError reasons
  let reasons := raiseFlag faultStop kAxisFeedbackSafetyDriveFault reasons
  let reasons := raiseFlag (faultStop && request == .faultReset && !budget)
    kAxisFeedbackSafetyFaultResetLimit reasons
  let reasons := raiseFlag supervisor.shutdownRequested
    kAxisFeedbackSafetyShutdown reasons
  { reasons := reasons
    trigger := request == .quickStop || reasons != 0
    faultResetCandidate := drive == .fault && request == .faultReset &&
      budget && reasons == 0
    target := target
    state := state }

/-! ## Safety groups -/

/-- The `triggers` and `reasons` arrays during group propagation. -/
structure GroupMarks where
  triggers : Axis → Bool
  reasons : Axis → BitVec 32

def sameGroup (supervisor : SafetySupervisor D) (a b : Axis) : Bool :=
  (supervisor.configs a).group == (supervisor.configs b).group

def GroupMarks.mark (marks : GroupMarks) (member : Axis) : GroupMarks where
  triggers := Function.update marks.triggers member true
  reasons := Function.update marks.reasons member
    (marks.reasons member ||| kAxisFeedbackSafetyGroup)

/-- The guard of the inner loops. -/
def isPeer (supervisor : SafetySupervisor D) (exempt : Axis → Bool)
    (source member : Axis) : Bool :=
  member != source && !exempt member && supervisor.sameGroup member source

/-- An inner loop: mark every other member of the group of `source`. -/
def markPeers (supervisor : SafetySupervisor D) (exempt : Axis → Bool)
    (marks : GroupMarks) (source : Axis) : GroupMarks :=
  supervisor.axes.foldl
    (fun marks member =>
      if supervisor.isPeer exempt source member then marks.mark member
      else marks)
    marks

/-- The first propagation loop, which reads the triggers it is updating. -/
def propagateTriggers (supervisor : SafetySupervisor D)
    (marks : GroupMarks) : GroupMarks :=
  supervisor.axes.foldl
    (fun marks source =>
      if marks.triggers source then
        supervisor.markPeers (fun _ => false) marks source
      else
        marks)
    marks

/-- The second propagation loop: a resetting member holds its peers, except
the members which reset themselves. -/
def propagateResets (supervisor : SafetySupervisor D)
    (candidates : Axis → Bool) (marks : GroupMarks) : GroupMarks :=
  supervisor.axes.foldl
    (fun marks source =>
      if candidates source then
        supervisor.markPeers candidates marks source
      else
        marks)
    marks

/-! ## Decision of one axis -/

/-- What the last loop of `evaluate` reads about one axis. -/
structure AxisInputs where
  nowNs : ℤ
  hasCommand : Bool
  lastCommandSequence : ℕ
  requested : AxisRequest
  drive : DriveState
  actualVelocity : ℤ
  trigger : Bool
  reasons : BitVec 32

/-- The quick-stop branch: count standstill, then fall to disabled once it is
confirmed or the stop has timed out. -/
def continueQuickStop (options : SafetyOptions) (inputs : AxisInputs)
    (state : AxisSafetyState D) : AxisSafetyState D × AxisRequest :=
  let cycles :=
    if |inputs.actualVelocity| ≤ options.zeroVelocityThresholdCounts then
      state.zeroVelocityCycles + 1
    else
      0
  let state := { state with zeroVelocityCycles := cycles }
  let confirmedZero := options.zeroVelocityConfirmationCycles ≤ cycles
  let timedOut := state.stopStartedNs ≤ inputs.nowNs ∧
    options.safeStopTimeout ≤ inputs.nowNs - state.stopStartedNs
  if confirmedZero ∨ timedOut then
    ({ state with phase := .disabled }, .disable)
  else
    (state, .quickStop)

/-- The axis leaves the running phase in this evaluation. -/
def entersQuickStop (inputs : AxisInputs) (state : AxisSafetyState D) : Bool :=
  inputs.trigger && state.phase == .running

def enterQuickStop (inputs : AxisInputs) (state : AxisSafetyState D) :
    AxisSafetyState D :=
  if entersQuickStop inputs state then
    { state with
      phase := .quickStop
      stopStartedNs := inputs.nowNs
      zeroVelocityCycles := 0
      stoppedCommandSequence := inputs.lastCommandSequence }
  else
    state

/-- A disabled axis runs again under a newer enable command. -/
def rearm (inputs : AxisInputs) (state : AxisSafetyState D) :
    AxisSafetyState D :=
  if !inputs.trigger && state.phase == .disabled && inputs.hasCommand &&
      state.stoppedCommandSequence < inputs.lastCommandSequence &&
      inputs.requested == .enable then
    { state with phase := .running }
  else
    state

def faultResetAllowed (options : SafetyOptions) (inputs : AxisInputs)
    (state : AxisSafetyState D) : Bool :=
  inputs.drive == .fault && inputs.requested == .faultReset &&
    inputs.reasons == 0 &&
    resetBudgetAvailable options state inputs.drive inputs.requested

/-- The decision of an axis which sends no reset pulse. -/
def proceed (options : SafetyOptions) (inputs : AxisInputs) (entered : Bool)
    (state : AxisSafetyState D) : AxisSafetyState D × AxisRequest :=
  match state.phase with
  | .quickStop =>
      if entered then (state, .quickStop)
      else continueQuickStop options inputs state
  | .disabled => (state, .disable)
  | .running =>
      if inputs.requested = .faultReset then (state, .disable)
      else (state, inputs.requested)

/-- The body of the last loop of `evaluate`, up to the output. -/
def decideAxis (options : SafetyOptions) (inputs : AxisInputs)
    (state : AxisSafetyState D) : AxisSafetyState D × AxisRequest :=
  let edge := resetEdge state inputs.drive inputs.requested
  let allowed := faultResetAllowed options inputs state
  let entered := entersQuickStop inputs state
  let state := rearm inputs (enterQuickStop inputs state)
  if allowed then
    let edges :=
      if edge && state.faultResetEdges < 4294967295 then
        state.faultResetEdges + 1
      else
        state.faultResetEdges
    ({ state with faultResetEdges := edges, faultResetOutputActive := true },
      .faultReset)
  else
    proceed options inputs entered
      { state with faultResetOutputActive := false }

/-! ## Evaluation -/

/-- The answer to a span which does not match the configuration. -/
def refuseEvaluation (supervisor : SafetySupervisor D) :
    SafetySupervisor D × SafetyEvaluation D :=
  let inUse := fun axis : Axis => decide (axis.val < supervisor.axisCount)
  ({ supervisor with
      lastRequests := fun axis => if inUse axis then
        .quickStop else supervisor.lastRequests axis },
    { commands := fun axis => if inUse axis then
        { AxisCommand.empty with flags := kAxisCommandQuickStop } else .empty
      requests := fun axis => if inUse axis then .quickStop else .disable
      feedbackFlags := fun axis => if inUse axis then
        kAxisFeedbackSafetyProcessData else 0
      axisCount := supervisor.axisCount
      shutdownComplete := false })

/-- The marks after both propagation loops. -/
def groupMarks (supervisor : SafetySupervisor D) (bus : SafetyBusState)
    (pdos : PdoSpan) (nowNs : ℤ) : GroupMarks :=
  let assessed := supervisor.assess bus pdos nowNs
  let inUse := fun axis : Axis => decide (axis.val < supervisor.axisCount)
  let marks : GroupMarks :=
    { triggers := fun axis => inUse axis && (assessed axis).trigger
      reasons := fun axis => if inUse axis then (assessed axis).reasons else 0 }
  let candidates := fun axis =>
    inUse axis && (assessed axis).faultResetCandidate
  supervisor.propagateResets candidates (supervisor.propagateTriggers marks)

def axisInputs (supervisor : SafetySupervisor D) (bus : SafetyBusState)
    (pdos : PdoSpan) (nowNs : ℤ) (axis : Axis) : AxisInputs :=
  let marks := supervisor.groupMarks bus pdos nowNs
  { nowNs := nowNs
    hasCommand := supervisor.hasCommand
    lastCommandSequence := supervisor.lastCommandSequence
    requested := supervisor.requested axis
    drive := Cia402StateMachine.decode (pdos.view axis).statusWord
    actualVelocity := (pdos.view axis).actualVelocity
    trigger := marks.triggers axis
    reasons := marks.reasons axis }

/-- State and request of an axis in use after the last loop. -/
def decision (supervisor : SafetySupervisor D) (bus : SafetyBusState)
    (pdos : PdoSpan) (nowNs : ℤ) (axis : Axis) :
    AxisSafetyState D × AxisRequest :=
  decideAxis supervisor.options (supervisor.axisInputs bus pdos nowNs axis)
    (supervisor.assess bus pdos nowNs axis).state

def evaluate (supervisor : SafetySupervisor D) (bus : SafetyBusState)
    (pdos : PdoSpan) (nowNs : ℤ) : SafetySupervisor D × SafetyEvaluation D :=
  if !supervisor.configured || pdos.size != supervisor.axisCount then
    supervisor.refuseEvaluation
  else
    let assessed := supervisor.assess bus pdos nowNs
    let marks := supervisor.groupMarks bus pdos nowNs
    let decided := supervisor.decision bus pdos nowNs
    let inUse := fun axis : Axis => decide (axis.val < supervisor.axisCount)
    let allDisabled := supervisor.axes.all fun axis =>
      (decided axis).2 == .disable
    let complete := supervisor.shutdownRequested && allDisabled
    ({ supervisor with
        consecutiveWkcFailures :=
          countWkcFailures supervisor.consecutiveWkcFailures bus
        states := fun axis => if inUse axis then
          { (decided axis).1 with
            lastTarget := if (decided axis).2 = .enable then
              (assessed axis).target.staged
            else
              (assessed axis).target.actual }
          else supervisor.states axis
        lastRequests := fun axis => if inUse axis then
          (decided axis).2 else supervisor.lastRequests axis
        shutdownComplete := complete },
      { commands := fun axis => if inUse axis then
          { sequence := supervisor.lastCommandSequence
            timestampNs := supervisor.lastCommandTimestampNs
            target := (supervisor.commands axis).target
            flags := flagsForRequest (decided axis).2
            reserved := 0 }
          else .empty
        requests := fun axis => if inUse axis then
          (decided axis).2 else .disable
        feedbackFlags := fun axis => if inUse axis then
          marks.reasons axis else 0
        axisCount := supervisor.axisCount
        shutdownComplete := complete })

end SafetySupervisor

end PolicyRuntime
