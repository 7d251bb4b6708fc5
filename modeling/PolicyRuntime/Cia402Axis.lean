import PolicyRuntime.Messages

/-!
# The CiA 402 axis

Status word decoding, the control word state machine with its fault-reset
latch, and the cyclic update of one axis.  The last theorems say what one cycle
does to the reset latch and to the control word.
-/

namespace PolicyRuntime

inductive DriveState
  | notReadyToSwitchOn
  | switchOnDisabled
  | readyToSwitchOn
  | switchedOn
  | operationEnabled
  | quickStopActive
  | faultReactionActive
  | fault
  | unknown
  deriving DecidableEq, Repr

/-! ## State machine -/

structure Cia402StateMachine where
  faultResetLatched : Bool
  deriving DecidableEq, Repr

structure Cia402StateOutput where
  state : DriveState
  controlWord : BitVec 16
  deriving DecidableEq, Repr

def Cia402StateMachine.decode (statusWord : BitVec 16) : DriveState :=
  let low := statusWord &&& 0x004F#16
  let mid := statusWord &&& 0x006F#16
  if low = 0x0000#16 then .notReadyToSwitchOn
  else if low = 0x0040#16 then .switchOnDisabled
  else if low = 0x000F#16 then .faultReactionActive
  else if low = 0x0008#16 then .fault
  else if mid = 0x0021#16 then .readyToSwitchOn
  else if mid = 0x0023#16 then .switchedOn
  else if mid = 0x0027#16 then .operationEnabled
  else if mid = 0x0007#16 then .quickStopActive
  else .unknown

def Cia402StateMachine.enableControlWord : DriveState → BitVec 16
  | .switchOnDisabled => 0x0006#16
  | .readyToSwitchOn => 0x0007#16
  | .switchedOn | .operationEnabled | .quickStopActive => 0x000F#16
  | .notReadyToSwitchOn | .faultReactionActive | .fault | .unknown => 0

def Cia402StateMachine.quickStopControlWord : DriveState → BitVec 16
  | .readyToSwitchOn | .switchedOn | .operationEnabled | .quickStopActive =>
      0x0002#16
  | _ => 0

def Cia402StateMachine.update
    (machine : Cia402StateMachine) (statusWord : BitVec 16)
    (request : AxisRequest) : Cia402StateMachine × Cia402StateOutput :=
  let state := decode statusWord
  let latched := machine.faultResetLatched && request == .faultReset
  match request with
  | .disable => (⟨latched⟩, ⟨state, 0⟩)
  | .quickStop => (⟨latched⟩, ⟨state, quickStopControlWord state⟩)
  | .faultReset =>
      (⟨true⟩,
        ⟨state, if !latched && state == .fault then 0x0080#16 else 0⟩)
  | .enable => (⟨latched⟩, ⟨state, enableControlWord state⟩)

/-- The drive is in a state in which targets move the motor. -/
def followingErrorActive (state : DriveState) : Bool :=
  state == .switchedOn || state == .operationEnabled ||
    state == .quickStopActive

/-- Only a fresh reset request in Fault produces the reset control word. -/
theorem Cia402StateMachine.controlWord_update_eq_reset_iff
    (machine : Cia402StateMachine) (statusWord : BitVec 16)
    (request : AxisRequest) :
    (machine.update statusWord request).2.controlWord = 0x0080#16 ↔
      request = .faultReset ∧ machine.faultResetLatched = false ∧
        decode statusWord = .fault := by
  cases request with
  | disable => simp [update]
  | quickStop =>
      cases hstate : decode statusWord <;>
        simp [update, quickStopControlWord, hstate]
  | faultReset =>
      cases hlatch : machine.faultResetLatched <;>
        simp [update, hlatch]
  | enable =>
      cases hstate : decode statusWord <;>
        simp [update, enableControlWord, hstate]

/-- The latch remembers exactly whether the last request was a reset. -/
theorem Cia402StateMachine.faultResetLatched_update
    (machine : Cia402StateMachine) (statusWord : BitVec 16)
    (request : AxisRequest) :
    (machine.update statusWord request).1.faultResetLatched =
      (request == .faultReset) := by
  cases request <;> simp [update]

/-! ## Axis -/

open FloatingPoint

def kAxisFeedbackTargetClamped : BitVec 32 := 1#32 <<< 0
def kAxisFeedbackSlewLimited : BitVec 32 := 1#32 <<< 1
def kAxisFeedbackFollowingError : BitVec 32 := 1#32 <<< 2
def kAxisFeedbackModeMismatch : BitVec 32 := 1#32 <<< 3
def kAxisFeedbackInvalidCommand : BitVec 32 := 1#32 <<< 4

variable {D : Type} [FloatingPoint D]

structure Cia402Axis (D : Type) where
  config : AxisConfig D
  stateMachine : Cia402StateMachine
  lastTarget : D
  hasLastTarget : Bool

def requestedAction (flags : BitVec 32) : AxisRequest × Bool :=
  let invalid := flags &&& ~~~kKnownCommandFlags ≠ 0 ∨
    flagCount (flags &&& kKnownCommandFlags) > 1
  if invalid then (.quickStop, true) else (requestFromFlags flags, false)

def validPositiveLimit (value : D) : Bool :=
  isfinite value && lt zero value

/-- The constructor, which throws on unsafe limits. -/
def Cia402Axis.create (config : AxisConfig D) :
    Except String (Cia402Axis D) :=
  if !validPositiveLimit config.slewLimit ||
      !validPositiveLimit config.followingErrorLimit then
    .error "CiA 402 safety limits must be finite and positive"
  else
    .ok { config, stateMachine := ⟨false⟩, lastTarget := zero,
          hasLastTarget := false }

/-- The measured value of the configured mode, in engineering units. -/
def actualSetpoint (mode : Cia402Mode) (scale : D) (pdo : Cia402PdoView) :
    Option D :=
  match mode with
  | .csp => deviceUnitsToEngineering pdo.actualPosition scale
  | .csv => deviceUnitsToEngineering pdo.actualVelocity scale
  | .cst => deviceUnitsToEngineering pdo.actualTorque scale
  | .other _ => none

/-- All targets are cleared first; only the target of the mode is set. -/
def stageSetpoint
    (config : AxisConfig D) (value : D) (pdo : Cia402PdoView) :
    Cia402PdoView × Bool :=
  let cleared :=
    { pdo with targetPosition := 0, targetVelocity := 0, targetTorque := 0 }
  match config.mode with
  | .csp =>
      match positionToDeviceUnits value config.scale with
      | none => (cleared, false)
      | some converted => ({ cleared with targetPosition := converted }, true)
  | .csv =>
      match velocityToDeviceUnits value config.scale with
      | none => (cleared, false)
      | some converted => ({ cleared with targetVelocity := converted }, true)
  | .cst =>
      match torqueToDeviceUnits value config.scale with
      | none => (cleared, false)
      | some converted => ({ cleared with targetTorque := converted }, true)
  | .other _ => (cleared, false)

/-- Request, staged target and feedback flags while one cycle is computed. -/
structure AxisStaging (D : Type) where
  request : AxisRequest
  target : D
  flags : BitVec 32

def raiseFlag (condition : Bool) (flag flags : BitVec 32) : BitVec 32 :=
  if condition then flags ||| flag else flags

/-- Clamping, slew limiting and the following-error check of an enable
request. -/
def Cia402Axis.stageEnable
    (axis : Cia402Axis D) (command : AxisCommand D) (pdo : Cia402PdoView)
    (lastTarget actual : D) (flags : BitVec 32) : AxisStaging D :=
  let config := axis.config
  if !isfinite command.target || !isfinite config.scale ||
      le config.scale zero || !isfinite config.minimum ||
      !isfinite config.maximum || lt config.maximum config.minimum ||
      !validPositiveLimit config.slewLimit ||
      !validPositiveLimit config.followingErrorLimit then
    ⟨.quickStop, actual, flags ||| kAxisFeedbackInvalidCommand⟩
  else
    let clamped := clamp command.target config.minimum config.maximum
    let flags := raiseFlag (!eq clamped command.target)
      kAxisFeedbackTargetClamped flags
    let (limited, flags) :=
      if isfinite config.slewLimit then
        let slewTarget := clamp clamped (sub lastTarget config.slewLimit)
          (add lastTarget config.slewLimit)
        (slewTarget,
          raiseFlag (!eq slewTarget clamped) kAxisFeedbackSlewLimited flags)
      else
        (clamped, flags)
    if followingErrorActive (Cia402StateMachine.decode pdo.statusWord) &&
        isfinite config.followingErrorLimit &&
        lt config.followingErrorLimit (abs (sub limited actual)) then
      ⟨.quickStop, actual, flags ||| kAxisFeedbackFollowingError⟩
    else
      ⟨.enable, limited, flags⟩

/-- A measured value of the view cannot be converted. -/
def Cia402Axis.invalidFeedback
    (axis : Cia402Axis D) (pdo : Cia402PdoView) : Bool :=
  let config := axis.config
  (deviceUnitsToEngineering pdo.actualPosition config.scale).isNone ||
    (deviceUnitsToEngineering pdo.actualVelocity config.scale).isNone ||
    (deviceUnitsToEngineering pdo.actualTorque config.scale).isNone ||
    (actualSetpoint config.mode config.scale pdo).isNone

def Cia402Axis.actual (axis : Cia402Axis D) (pdo : Cia402PdoView) : D :=
  (actualSetpoint axis.config.mode axis.config.scale pdo).getD zero

/-- Request, target and flags up to the mode check. -/
def Cia402Axis.stageCommand
    (axis : Cia402Axis D) (command : AxisCommand D) (pdo : Cia402PdoView) :
    AxisStaging D :=
  let (requested, invalidFlags) := requestedAction command.flags
  let flags := raiseFlag invalidFlags kAxisFeedbackInvalidCommand 0
  let invalidFeedback := axis.invalidFeedback pdo
  let flags := raiseFlag invalidFeedback kAxisFeedbackInvalidCommand flags
  let requested := if invalidFeedback then .quickStop else requested
  let actual := axis.actual pdo
  let lastTarget := if axis.hasLastTarget then axis.lastTarget else actual
  if requested = .enable then
    axis.stageEnable command pdo lastTarget actual flags
  else
    ⟨requested, actual, flags⟩

/-- An enable in the wrong mode becomes a quick stop. -/
def Cia402Axis.checkMode
    (axis : Cia402Axis D) (pdo : Cia402PdoView) (staging : AxisStaging D) :
    AxisStaging D :=
  if pdo.modeDisplay ≠ axis.config.mode.value then
    let flags := staging.flags ||| kAxisFeedbackModeMismatch
    if staging.request = .enable then ⟨.quickStop, axis.actual pdo, flags⟩
    else { staging with flags := flags }
  else
    staging

/-- A staged target which cannot be converted becomes a quick stop. -/
def Cia402Axis.convertTarget
    (axis : Cia402Axis D) (pdo : Cia402PdoView) (staging : AxisStaging D) :
    AxisRequest × Cia402PdoView × BitVec 32 :=
  let (staged, converted) := stageSetpoint axis.config staging.target pdo
  if converted then
    (staging.request, staged, staging.flags)
  else
    (.quickStop, (stageSetpoint axis.config zero staged).1,
      staging.flags ||| kAxisFeedbackInvalidCommand)

def Cia402Axis.cycle
    (axis : Cia402Axis D) (command : AxisCommand D) (pdo : Cia402PdoView) :
    Cia402Axis D × Cia402PdoView × AxisFeedback D :=
  let scale := axis.config.scale
  let staging := axis.checkMode pdo (axis.stageCommand command pdo)
  let (request, staged, flags) := axis.convertTarget pdo staging
  let (stateMachine, output) :=
    axis.stateMachine.update pdo.statusWord request
  ({ axis with
      stateMachine := stateMachine
      lastTarget := if request = .enable then staging.target
        else axis.actual pdo
      hasLastTarget := true },
    { staged with controlWord := output.controlWord },
    { sequence := command.sequence
      timestampNs := command.timestampNs
      position := (deviceUnitsToEngineering pdo.actualPosition scale).getD zero
      velocity := (deviceUnitsToEngineering pdo.actualVelocity scale).getD zero
      effort := (deviceUnitsToEngineering pdo.actualTorque scale).getD zero
      statusWord := pdo.statusWord
      flags := flags
      modeDisplay := pdo.modeDisplay % 256 })

/-- The request a cycle hands to the control word state machine. -/
def Cia402Axis.driveRequest
    (axis : Cia402Axis D) (command : AxisCommand D) (pdo : Cia402PdoView) :
    AxisRequest :=
  (axis.convertTarget pdo
    (axis.checkMode pdo (axis.stageCommand command pdo))).1

theorem Cia402Axis.cycle_stateMachine
    (axis : Cia402Axis D) (command : AxisCommand D) (pdo : Cia402PdoView) :
    (axis.cycle command pdo).1.stateMachine =
      (axis.stateMachine.update pdo.statusWord
        (axis.driveRequest command pdo)).1 := rfl

theorem Cia402Axis.cycle_controlWord
    (axis : Cia402Axis D) (command : AxisCommand D) (pdo : Cia402PdoView) :
    (axis.cycle command pdo).2.1.controlWord =
      (axis.stateMachine.update pdo.statusWord
        (axis.driveRequest command pdo)).2.controlWord := rfl

theorem Cia402Axis.cycle_config
    (axis : Cia402Axis D) (command : AxisCommand D) (pdo : Cia402PdoView) :
    (axis.cycle command pdo).1.config = axis.config := rfl

/-! ## Fault resets -/

theorem Cia402Axis.stageEnable_ne_faultReset
    (axis : Cia402Axis D) (command : AxisCommand D) (pdo : Cia402PdoView)
    (lastTarget actual : D) (flags : BitVec 32) :
    (axis.stageEnable command pdo lastTarget actual flags).request ≠
      .faultReset := by
  unfold Cia402Axis.stageEnable
  dsimp only
  split
  · simp
  · split <;> split <;> simp

/-- Only a commanded reset reaches the state machine as a reset. -/
theorem Cia402Axis.requested_of_driveRequest
    {axis : Cia402Axis D} {command : AxisCommand D} {pdo : Cia402PdoView}
    (hreset : axis.driveRequest command pdo = .faultReset) :
    (requestedAction command.flags).1 = .faultReset := by
  have hmode : (axis.checkMode pdo
      (axis.stageCommand command pdo)).request = .faultReset := by
    unfold Cia402Axis.driveRequest Cia402Axis.convertTarget at hreset
    dsimp only at hreset
    split at hreset
    · exact hreset
    · contradiction
  have hstaged : (axis.stageCommand command pdo).request = .faultReset := by
    unfold Cia402Axis.checkMode at hmode
    split at hmode
    · dsimp only at hmode
      split at hmode
      · contradiction
      · exact hmode
    · exact hmode
  unfold Cia402Axis.stageCommand at hstaged
  by_cases hinvalid : axis.invalidFeedback pdo = true
  · simp [hinvalid] at hstaged
  · simp only [hinvalid, Bool.false_eq_true, if_false] at hstaged
    split at hstaged
    · exact absurd hstaged
        (axis.stageEnable_ne_faultReset command pdo _ _ _)
    · exact hstaged

/-- Every unit conversion of a cycle which holds the measured value stays in
range. -/
structure UnitsInRange (config : AxisConfig D) (pdo : Cia402PdoView) :
    Prop where
  position : (deviceUnitsToEngineering pdo.actualPosition
    config.scale).isSome = true
  velocity : (deviceUnitsToEngineering pdo.actualVelocity
    config.scale).isSome = true
  torque : (deviceUnitsToEngineering pdo.actualTorque
    config.scale).isSome = true
  setpoint : (actualSetpoint config.mode config.scale pdo).isSome = true
  hold : ∀ actual ∈ actualSetpoint config.mode config.scale pdo,
    (stageSetpoint config actual pdo).2 = true

/-- Inside the unit range a commanded reset reaches the state machine. -/
theorem Cia402Axis.driveRequest_of_requested
    {axis : Cia402Axis D} {command : AxisCommand D} {pdo : Cia402PdoView}
    (hrange : UnitsInRange axis.config pdo)
    (hreset : (requestedAction command.flags).1 = .faultReset) :
    axis.driveRequest command pdo = .faultReset := by
  obtain ⟨actual, hactual⟩ := Option.isSome_iff_exists.mp hrange.setpoint
  have hvalid : axis.invalidFeedback pdo = false := by
    simp [Cia402Axis.invalidFeedback, ← Option.not_isSome, hrange.position,
      hrange.velocity, hrange.torque, hrange.setpoint]
  have htarget : axis.actual pdo = actual := by
    simp [Cia402Axis.actual, hactual]
  have hstaged : (axis.stageCommand command pdo).request = .faultReset ∧
      (axis.stageCommand command pdo).target = actual := by
    simp [Cia402Axis.stageCommand, hvalid, hreset, htarget]
  have hmode : (axis.checkMode pdo
        (axis.stageCommand command pdo)).request = .faultReset ∧
      (axis.checkMode pdo
        (axis.stageCommand command pdo)).target = actual := by
    unfold Cia402Axis.checkMode
    split
    · simpa [hstaged.1] using hstaged.2
    · exact hstaged
  unfold Cia402Axis.driveRequest Cia402Axis.convertTarget
  simp only [hmode.2, hrange.hold actual hactual, if_true]
  exact hmode.1

end PolicyRuntime
