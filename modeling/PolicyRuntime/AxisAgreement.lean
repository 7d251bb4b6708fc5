import PolicyRuntime.DeviceCycle
import PolicyRuntime.EnableSoundness

/-!
# Supervisor and axis stage the same target

Clamping, slew limiting and the following-error check are computed twice, by
the supervisor and by the axis device, each with its own last target.  Both
sides stay in step exactly as long as every enabled cycle can convert its
measured values and its staged target: only the device checks the integer
ranges of the process data.
-/

namespace PolicyRuntime

open SafetySupervisor FloatingPoint

variable {D : Type} [FloatingPoint D]

/-- The targets of a view are the device-unit image of `value` in the
configured mode, and zero in the other modes. -/
def WritesTarget (config : AxisConfig D) (value : D)
    (pdo : Cia402PdoView) : Prop :=
  match config.mode with
  | .csp => positionToDeviceUnits value config.scale =
        some pdo.targetPosition ∧
      pdo.targetVelocity = 0 ∧ pdo.targetTorque = 0
  | .csv => velocityToDeviceUnits value config.scale =
        some pdo.targetVelocity ∧
      pdo.targetPosition = 0 ∧ pdo.targetTorque = 0
  | .cst => torqueToDeviceUnits value config.scale =
        some pdo.targetTorque ∧
      pdo.targetPosition = 0 ∧ pdo.targetVelocity = 0
  | .other _ => False

theorem stageSetpoint_writesTarget
    {config : AxisConfig D} {value : D} {pdo : Cia402PdoView}
    (hconverted : (stageSetpoint config value pdo).2 = true) :
    WritesTarget config value (stageSetpoint config value pdo).1 := by
  unfold stageSetpoint WritesTarget at *
  cases hmode : config.mode with
  | csp =>
      cases hvalue : positionToDeviceUnits value config.scale with
      | none => simp [hmode, hvalue] at hconverted
      | some converted => simp
  | csv =>
      cases hvalue : velocityToDeviceUnits value config.scale with
      | none => simp [hmode, hvalue] at hconverted
      | some converted => simp
  | cst =>
      cases hvalue : torqueToDeviceUnits value config.scale with
      | none => simp [hmode, hvalue] at hconverted
      | some converted => simp
  | other mode => simp [hmode] at hconverted

theorem WritesTarget.converts
    {config : AxisConfig D} {value : D} {written : Cia402PdoView}
    (hwrites : WritesTarget config value written) (pdo : Cia402PdoView) :
    (stageSetpoint config value pdo).2 = true := by
  unfold WritesTarget at hwrites
  unfold stageSetpoint
  cases hmode : config.mode with
  | csp =>
      rw [hmode] at hwrites
      simp [hwrites.1]
  | csv =>
      rw [hmode] at hwrites
      simp [hwrites.1]
  | cst =>
      rw [hmode] at hwrites
      simp [hwrites.1]
  | other mode =>
      rw [hmode] at hwrites
      contradiction

/-! ## Configured limits -/

/-- Every axis of an accepted configuration passed the checks of the loop. -/
theorem configureLoop_validLimits
    {supervisor : SafetySupervisor D} {axes : List (AxisConfig D)}
    {index : ℕ} {assigned : List (String × UInt8)} {nextGroup : UInt8}
    (hok : (supervisor.configureLoop axes index assigned nextGroup).2 =
      .ok ()) :
    ∀ axis ∈ axes, validLimits axis = true := by
  induction axes generalizing supervisor index assigned nextGroup with
  | nil => simp
  | cons head tail ih =>
      simp only [configureLoop] at hok
      split at hok
      · contradiction
      · rename_i hlimits
        split at hok
        · contradiction
        · intro axis haxis
          rcases List.mem_cons.mp haxis with rfl | htail
          · simpa using hlimits
          · exact ih hok axis htail

theorem SupervisorSetup.validLimits_of_mem
    (setup : SupervisorSetup D) {source : AxisConfig D}
    (hsource : source ∈ setup.axes) : validLimits source = true := by
  have haccepted := setup.accepted
  unfold configure at haccepted
  split at haccepted
  · contradiction
  · split at haccepted
    · contradiction
    · split at haccepted
      · contradiction
      · rename_i hloop
        exact configureLoop_validLimits (by rw [hloop]) source hsource

/-- The limits which an enable request is checked against. -/
def AxisConfig.limitsUsable (config : AxisConfig D) : Bool :=
  !(!isfinite config.scale || le config.scale zero ||
    !isfinite config.minimum || !isfinite config.maximum ||
    lt config.maximum config.minimum ||
    !validPositiveLimit config.slewLimit ||
    !validPositiveLimit config.followingErrorLimit)

theorem DeviceSetup.limitsUsable
    (setup : DeviceSetup D) {axis : Axis} {source : AxisConfig D}
    (hsource : setup.axes[axis.val]? = some source) :
    source.limitsUsable = true := by
  have hlimits :=
    setup.validLimits_of_mem (List.mem_of_getElem? hsource)
  have hcreated := setup.created axis source hsource
  unfold Cia402Axis.create at hcreated
  split at hcreated
  · contradiction
  · rename_i hpositive
    simp only [validLimits, Bool.not_eq_true', Bool.or_eq_false_iff] at hlimits
    simp only [Bool.or_eq_true, not_or, Bool.not_eq_true] at hpositive
    simp [AxisConfig.limitsUsable, hlimits, hpositive]

/-! ## One cycle of a device -/

/-- A command clamped to the range of an axis and to its slew window. -/
def slewedTarget (config : AxisConfig D) (lastTarget target : D) : D :=
  clamp (clamp target config.minimum config.maximum)
    (sub lastTarget config.slewLimit) (add lastTarget config.slewLimit)

/-- The target a device stages for an enable command. -/
def Cia402Axis.slewed (axis : Cia402Axis D) (command : AxisCommand D)
    (pdo : Cia402PdoView) : D :=
  slewedTarget axis.config
    (if axis.hasLastTarget then axis.lastTarget else axis.actual pdo)
    command.target

theorem Cia402Axis.cycle_lastTarget
    (axis : Cia402Axis D) (command : AxisCommand D) (pdo : Cia402PdoView) :
    (axis.cycle command pdo).1.lastTarget =
      if axis.driveRequest command pdo = .enable then
        (axis.checkMode pdo (axis.stageCommand command pdo)).target
      else axis.actual pdo := rfl

/-- Only an enable command whose measured values convert stays one. -/
theorem Cia402Axis.of_driveRequest_enable
    {axis : Cia402Axis D} {command : AxisCommand D} {pdo : Cia402PdoView}
    (henable : axis.driveRequest command pdo = .enable) :
    (requestedAction command.flags).1 = .enable ∧
      axis.invalidFeedback pdo = false := by
  have hmode : (axis.checkMode pdo
      (axis.stageCommand command pdo)).request = .enable := by
    unfold Cia402Axis.driveRequest Cia402Axis.convertTarget at henable
    dsimp only at henable
    split at henable
    · exact henable
    · contradiction
  have hstaged : (axis.stageCommand command pdo).request = .enable := by
    unfold Cia402Axis.checkMode at hmode
    split at hmode
    · dsimp only at hmode
      split at hmode
      · contradiction
      · exact hmode
    · exact hmode
  unfold Cia402Axis.stageCommand at hstaged
  by_cases hinvalid : axis.invalidFeedback pdo = true
  · simp [hinvalid] at hstaged
  · simp only [hinvalid, Bool.false_eq_true, if_false] at hstaged
    split at hstaged
    · rename_i hrequested
      exact ⟨hrequested, by simpa using hinvalid⟩
    · exact absurd hstaged (by assumption)

/-- The checks under which a device passes an enable command on. -/
structure Cia402Axis.Passes (axis : Cia402Axis D) (command : AxisCommand D)
    (pdo : Cia402PdoView) : Prop where
  requested : requestedAction command.flags = (.enable, false)
  feedback : axis.invalidFeedback pdo = false
  limits : axis.config.limitsUsable = true
  finite : isfinite command.target = true
  mode : pdo.modeDisplay = axis.config.mode.value
  following : (followingErrorActive
      (Cia402StateMachine.decode pdo.statusWord) &&
    lt axis.config.followingErrorLimit
      (abs (sub (axis.slewed command pdo) (axis.actual pdo)))) = false

theorem Cia402Axis.Passes.stageEnable
    {axis : Cia402Axis D} {command : AxisCommand D} {pdo : Cia402PdoView}
    (hpasses : axis.Passes command pdo) (flags : BitVec 32) :
    (axis.stageEnable command pdo
        (if axis.hasLastTarget then axis.lastTarget else axis.actual pdo)
        (axis.actual pdo) flags).request = .enable ∧
      (axis.stageEnable command pdo
        (if axis.hasLastTarget then axis.lastTarget else axis.actual pdo)
        (axis.actual pdo) flags).target = axis.slewed command pdo := by
  have hlimits := hpasses.limits
  simp only [AxisConfig.limitsUsable, Bool.not_eq_true',
    Bool.or_eq_false_iff] at hlimits
  obtain ⟨⟨⟨⟨⟨⟨hscale, hpositive⟩, hminimum⟩, hmaximum⟩, horder⟩, hslew⟩,
    herror⟩ := hlimits
  have hslewFinite : isfinite axis.config.slewLimit = true := by
    simp only [validPositiveLimit, Bool.not_eq_false', Bool.and_eq_true]
      at hslew
    exact hslew.1
  have hfollowing := hpasses.following
  have hnot : ¬ (followingErrorActive
        (Cia402StateMachine.decode pdo.statusWord) &&
      isfinite axis.config.followingErrorLimit &&
      lt axis.config.followingErrorLimit
        (abs (sub (axis.slewed command pdo) (axis.actual pdo)))) = true := by
    simp only [Bool.and_eq_true, not_and, Bool.not_eq_true]
    intro hactive
    simpa [hactive.1] using hfollowing
  unfold Cia402Axis.slewed slewedTarget at hnot
  unfold Cia402Axis.stageEnable
  simp only [hpasses.finite, hscale, hpositive, hminimum, hmaximum, horder,
    hslew, herror, hslewFinite, hnot, Bool.not_true, Bool.or_false,
    Bool.false_eq_true, if_false, if_true]
  exact ⟨trivial, rfl⟩

theorem Cia402Axis.Passes.staging
    {axis : Cia402Axis D} {command : AxisCommand D} {pdo : Cia402PdoView}
    (hpasses : axis.Passes command pdo) :
    (axis.checkMode pdo (axis.stageCommand command pdo)).request = .enable ∧
      (axis.checkMode pdo (axis.stageCommand command pdo)).target =
        axis.slewed command pdo := by
  have hstaged :
      (axis.stageCommand command pdo).request = .enable ∧
        (axis.stageCommand command pdo).target = axis.slewed command pdo := by
    unfold Cia402Axis.stageCommand
    simp only [hpasses.requested, hpasses.feedback, Bool.false_eq_true,
      if_false, if_true]
    exact hpasses.stageEnable _
  unfold Cia402Axis.checkMode
  simp only [hpasses.mode, ne_eq, not_true_eq_false, if_false]
  exact hstaged

/-- A device which passes an enable command on and can convert its target
writes exactly that target under the enable control word. -/
theorem Cia402Axis.Passes.cycle
    {axis : Cia402Axis D} {command : AxisCommand D} {pdo : Cia402PdoView}
    (hpasses : axis.Passes command pdo)
    (hconverts : (stageSetpoint axis.config (axis.slewed command pdo)
      pdo).2 = true) :
    axis.driveRequest command pdo = .enable ∧
      (axis.cycle command pdo).1.lastTarget = axis.slewed command pdo ∧
      (axis.cycle command pdo).2.1.controlWord =
        Cia402StateMachine.enableControlWord
          (Cia402StateMachine.decode pdo.statusWord) ∧
      WritesTarget axis.config (axis.slewed command pdo)
        (axis.cycle command pdo).2.1 := by
  obtain ⟨hrequest, htarget⟩ := hpasses.staging
  have hdrive : axis.driveRequest command pdo = .enable := by
    unfold Cia402Axis.driveRequest Cia402Axis.convertTarget
    simp only [htarget, hconverts, if_true]
    exact hrequest
  refine ⟨hdrive, ?_, ?_, ?_⟩
  · rw [axis.cycle_lastTarget, if_pos hdrive, htarget]
  · rw [axis.cycle_controlWord, hdrive]
    rfl
  · have hwrites := stageSetpoint_writesTarget hconverts
    unfold Cia402Axis.cycle Cia402Axis.convertTarget
    simp only [htarget, hconverts, if_true]
    unfold WritesTarget at *
    exact hwrites

/-! ## One cycle of the supervisor -/

omit [FloatingPoint D] in
theorem continueQuickStop_hasLastTarget
    (options : SafetyOptions) (inputs : AxisInputs)
    (state : AxisSafetyState D) :
    (continueQuickStop options inputs state).1.hasLastTarget =
      state.hasLastTarget := by
  unfold continueQuickStop
  dsimp only
  generalize (if |inputs.actualVelocity| ≤ options.zeroVelocityThresholdCounts
    then state.zeroVelocityCycles + 1 else 0) = cycles
  split <;> rfl

omit [FloatingPoint D] in
theorem decideAxis_hasLastTarget
    (options : SafetyOptions) (inputs : AxisInputs)
    (state : AxisSafetyState D) :
    (decideAxis options inputs state).1.hasLastTarget =
      state.hasLastTarget := by
  have hentered : (rearm inputs (enterQuickStop inputs state)).hasLastTarget =
      state.hasLastTarget := by
    unfold rearm enterQuickStop
    split <;> split <;> rfl
  unfold decideAxis
  dsimp only
  split
  · exact hentered
  · rw [← hentered]
    unfold proceed
    split
    · split
      · rfl
      · rw [continueQuickStop_hasLastTarget]
    · rfl
    · split <;> rfl

theorem evaluateTarget_hasLastTarget
    (config : AxisSafetyConfig D) (state : AxisSafetyState D)
    (command : AxisCommand D) (pdo : Cia402PdoView) :
    (evaluateTarget config state command pdo).2.hasLastTarget = true := by
  unfold evaluateTarget
  cases hknown : state.hasLastTarget <;> dsimp only <;> split <;>
    simp [hknown]

theorem evaluateTarget_actual
    (config : AxisSafetyConfig D) (state : AxisSafetyState D)
    (command : AxisCommand D) (pdo : Cia402PdoView) :
    (evaluateTarget config state command pdo).1.actual =
      (actualSetpoint config.mode config.scale pdo).getD zero := by
  unfold evaluateTarget
  dsimp only
  split <;> rfl

/-- What the supervisor computes for an enable command. -/
theorem evaluateTarget_enable
    {source : AxisConfig D} (group : UInt8) (state : AxisSafetyState D)
    {command : AxisCommand D} {pdo : Cia402PdoView}
    (hrequest : requestFromFlags command.flags = .enable)
    (hmeasured : (actualSetpoint source.mode source.scale pdo).isSome = true) :
    let actual := (actualSetpoint source.mode source.scale pdo).getD zero
    let staged := slewedTarget source
      (if state.hasLastTarget then state.lastTarget else actual)
      command.target
    (evaluateTarget (axisSafetyConfig source group) state command pdo).1 =
      ⟨actual, staged,
        followingErrorActive (Cia402StateMachine.decode pdo.statusWord) &&
          lt source.followingErrorLimit (abs (sub staged actual))⟩ := by
  dsimp only
  have hsome : ¬ (requestFromFlags command.flags ≠ .enable ∨
      (actualSetpoint source.mode source.scale pdo).isNone = true) := by
    simp [hrequest, ← Option.not_isSome, hmeasured]
  unfold evaluateTarget
  dsimp only [axisSafetyConfig]
  rw [if_neg hsome]
  cases hknown : state.hasLastTarget <;> simp [slewedTarget]

theorem assess_hasLastTarget
    (supervisor : SafetySupervisor D) (bus : SafetyBusState)
    (pdos : PdoSpan) (nowNs : ℤ) (axis : Axis) :
    (supervisor.assess bus pdos nowNs axis).state.hasLastTarget = true := by
  have htracked : ∀ (clear : Bool) (state : AxisSafetyState D),
      (trackFaultEpisode clear state).hasLastTarget =
        state.hasLastTarget := by
    intro clear state
    unfold trackFaultEpisode
    split
    · rfl
    · split <;> rfl
  unfold assess
  dsimp only
  rw [htracked]
  exact evaluateTarget_hasLastTarget _ _ _ _

/-! ## Staying in step -/

/-- Supervisor and device remember the same last target. -/
structure TargetsInStep (axis : Axis) (state : DeviceState D) : Prop where
  known : (state.safety.states axis).hasLastTarget =
    (state.axes axis).hasLastTarget
  same : (state.axes axis).hasLastTarget = true →
    (state.safety.states axis).lastTarget = (state.axes axis).lastTarget

/-- An enabled cycle of the axis can convert its measured values and the target
which the supervisor stages. -/
def DeviceStep.Converts (axis : Axis) (step : DeviceStep D) : Prop :=
  ∀ bus view nowNs, step.input = .evaluate bus view nowNs →
    step.request? axis = some .enable →
    (step.before.axes axis).invalidFeedback (view axis) = false ∧
      (stageSetpoint (step.before.axes axis).config
        (evaluateTarget (step.before.safety.configs axis)
          (step.before.safety.states axis) (step.before.safety.commands axis)
          (view axis)).1.staged (view axis)).2 = true

/-- After a cycle both sides remember the same target, and an enable reaches
the drive with the target of the supervisor. -/
structure DeviceStep.Agrees (axis : Axis) (step : DeviceStep D) : Prop where
  lastTarget : ∀ result, step.output = .cycled result →
    (step.after.safety.states axis).lastTarget =
      (step.after.axes axis).lastTarget
  kept : ∀ bus view nowNs result, step.input = .evaluate bus view nowNs →
    step.output = .cycled result →
    result.decisions.requests axis = .enable →
    (step.before.axes axis).driveRequest (result.decisions.commands axis)
        (view axis) = .enable ∧
      (result.pdos axis).controlWord =
        Cia402StateMachine.enableControlWord
          (Cia402StateMachine.decode (view axis).statusWord) ∧
      WritesTarget (step.before.axes axis).config
        (step.after.safety.states axis).lastTarget (result.pdos axis)

theorem DeviceStep.Agrees.of_not_cycled
    {axis : Axis} {step : DeviceStep D}
    (hsilent : ∀ result, step.output ≠ .cycled result) :
    DeviceStep.Agrees axis step where
  lastTarget := fun result houtput => absurd houtput (hsilent result)
  kept := fun _ _ _ result _ houtput => absurd houtput (hsilent result)

section Cycle

variable {setup : DeviceSetup D} {axis : Axis} {source : AxisConfig D}
  (hsource : setup.axes[axis.val]? = some source)
  {state : DeviceState D}
  (hstate : DevicesConfigured setup axis source state)

include hsource hstate

theorem DevicesConfigured.inUse :
    axis.val < state.safety.axisCount ∧
      ∃ group, state.safety.configs axis = axisSafetyConfig source group := by
  obtain ⟨hlt, _⟩ := List.getElem?_eq_some_iff.mp hsource
  obtain ⟨_, group, hgroup⟩ := setup.config_of_axis [] hsource
  refine ⟨?_, group, ?_⟩
  · rw [hstate.safety.axisCount]
    exact hlt
  · rw [hstate.safety.configs]
    exact hgroup

/-- The device after a cycle, and what it writes. -/
theorem DevicesConfigured.cycle_axis
    (bus : SafetyBusState) (view : Axis → Cia402PdoView) (nowNs : ℤ) :
    let decisions := (state.safety.evaluate bus (state.safety.span view)
      nowNs).2
    let cycled := (state.axes axis).cycle (decisions.commands axis) (view axis)
    (state.cycle bus view nowNs).1.axes axis = cycled.1 ∧
      (state.cycle bus view nowNs).2.pdos axis = cycled.2.1 := by
  have hin := (hstate.inUse hsource).1
  have hcount : (state.safety.evaluate bus (state.safety.span view)
      nowNs).1.axisCount = state.safety.axisCount :=
    (state.safety.evaluate_sameCommands bus _ nowNs).axisCount
  simp [DeviceState.cycle, hcount, hin]

/-- The supervisor after a cycle remembers what it staged or measured. -/
theorem DevicesConfigured.cycle_supervisor
    (bus : SafetyBusState) (view : Axis → Cia402PdoView) (nowNs : ℤ) :
    let result := state.safety.evaluate bus (state.safety.span view) nowNs
    let target := (evaluateTarget (state.safety.configs axis)
      (state.safety.states axis) (state.safety.commands axis) (view axis)).1
    (result.1.states axis).hasLastTarget = true ∧
      (result.1.states axis).lastTarget =
        if result.2.requests axis = .enable then target.staged
        else target.actual := by
  have hin := (hstate.inUse hsource).1
  have hconfigured := hstate.safety.configured
  dsimp only
  rw [evaluate_states hconfigured rfl bus nowNs hin,
    evaluate_requests hconfigured rfl bus nowNs hin]
  refine ⟨?_, rfl⟩
  show (state.safety.decision bus _ nowNs axis).1.hasLastTarget = true
  unfold decision
  rw [decideAxis_hasLastTarget]
  exact assess_hasLastTarget _ _ _ _ _

/-- The checks of the supervisor behind an enable are the checks of the device,
and both stage the same target. -/
theorem DevicesConfigured.passes
    (hinStep : TargetsInStep axis state)
    (hholds : state.safety.commandsValid = true →
      ∃ snapshot, state.safety.Holds snapshot)
    {bus : SafetyBusState} {view : Axis → Cia402PdoView} {nowNs : ℤ}
    (henable : (state.safety.evaluate bus (state.safety.span view)
      nowNs).2.requests axis = .enable)
    (hfeedback : (state.axes axis).invalidFeedback (view axis) = false) :
    let command := (state.safety.evaluate bus (state.safety.span view)
      nowNs).2.commands axis
    (state.axes axis).Passes command (view axis) ∧
      (state.axes axis).slewed command (view axis) =
        (evaluateTarget (state.safety.configs axis)
          (state.safety.states axis) (state.safety.commands axis)
          (view axis)).1.staged := by
  have hconfigured := hstate.safety.configured
  obtain ⟨hin, group, hconfig⟩ := hstate.inUse hsource
  obtain ⟨hrequest, hgroup⟩ := group_quiet_of_enable hconfigured hin henable
  obtain ⟨hown, _⟩ := hgroup axis hin rfl
  obtain ⟨snapshot, hsnapshot⟩ := hholds hown.commandsValid
  have hdecision : (state.safety.decision bus (state.safety.span view) nowNs
      axis).2 = .enable := by
    rw [← evaluate_requests hconfigured rfl bus nowNs hin]
    exact henable
  have hmeasured : (actualSetpoint source.mode source.scale
      (view axis)).isSome = true := by
    simp only [Cia402Axis.invalidFeedback, hstate.source,
      Bool.or_eq_false_iff] at hfeedback
    simpa [← Option.not_isSome] using hfeedback.2
  have hflags : requestFromFlags (state.safety.commands axis).flags =
      .enable := by
    rw [SafetySupervisor.requested, if_pos hsnapshot.hasCommand] at hrequest
    exact hrequest
  have htarget := evaluateTarget_enable group (state.safety.states axis)
    hflags hmeasured
  have hfollowing := hown.following
  have hmode := hown.mode
  rw [hconfig] at hfollowing hmode
  rw [show (state.safety.span view).view axis = view axis from rfl,
    htarget] at hfollowing
  dsimp only
  rw [evaluate_commands hconfigured rfl bus nowNs hin, hconfig, htarget]
  have hslewed : (state.axes axis).slewed
      { sequence := state.safety.lastCommandSequence
        timestampNs := state.safety.lastCommandTimestampNs
        target := (state.safety.commands axis).target
        flags := flagsForRequest (state.safety.decision bus
          (state.safety.span view) nowNs axis).2
        reserved := 0 } (view axis) =
      slewedTarget source
        (if (state.safety.states axis).hasLastTarget then
          (state.safety.states axis).lastTarget
        else (actualSetpoint source.mode source.scale (view axis)).getD zero)
        (state.safety.commands axis).target := by
    unfold Cia402Axis.slewed Cia402Axis.actual
    rw [hstate.source, hinStep.known]
    cases hknown : (state.axes axis).hasLastTarget with
    | false => rfl
    | true => simp [hinStep.same hknown]
  refine ⟨?_, hslewed⟩
  constructor
  · rw [hdecision]
    exact requestedAction_flagsForRequest .enable
  · exact hfeedback
  · rw [hstate.source]
    exact setup.limitsUsable hsource
  · have hvalid := hsnapshot.valid axis hin
    simp only [validCommand, Bool.not_eq_true', Bool.or_eq_false_iff,
      Bool.not_eq_false'] at hvalid
    rw [hsnapshot.commands axis hin]
    exact hvalid.1.1.2
  · rw [hstate.source]
    exact hmode
  · rw [hslewed, hstate.source]
    unfold Cia402Axis.actual
    rw [hstate.source]
    exact hfollowing

/-- A cycle which is not enabled leaves both sides at the measured value. -/
theorem DevicesConfigured.lastTarget_of_not_enable
    {bus : SafetyBusState} {view : Axis → Cia402PdoView} {nowNs : ℤ}
    (hother : (state.safety.evaluate bus (state.safety.span view)
      nowNs).2.requests axis ≠ .enable) :
    ((state.cycle bus view nowNs).1.safety.states axis).lastTarget =
      ((state.cycle bus view nowNs).1.axes axis).lastTarget := by
  have hconfigured := hstate.safety.configured
  obtain ⟨hin, group, hconfig⟩ := hstate.inUse hsource
  have hsupervisor := (hstate.cycle_supervisor hsource bus view nowNs).2
  rw [if_neg hother, evaluateTarget_actual, hconfig] at hsupervisor
  rw [(hstate.cycle_axis hsource bus view nowNs).1, Cia402Axis.cycle_lastTarget,
    if_neg]
  · unfold Cia402Axis.actual
    rw [hstate.source]
    exact hsupervisor
  · intro hdrive
    have hrequested := (Cia402Axis.of_driveRequest_enable hdrive).1
    rw [evaluate_commands hconfigured rfl bus nowNs hin,
      requestedAction_flagsForRequest,
      ← evaluate_requests hconfigured rfl bus nowNs hin] at hrequested
    exact hother hrequested

/-- One call which converts what it enables keeps both sides in step. -/
theorem DevicesConfigured.agrees
    (hinStep : TargetsInStep axis state)
    (hholds : state.safety.commandsValid = true →
      ∃ snapshot, state.safety.Holds snapshot)
    {call : SupervisorCall D}
    (hconverts : DeviceStep.Converts axis (deviceMachine.fire state call)) :
    DeviceStep.Agrees axis (deviceMachine.fire state call) ∧
      TargetsInStep axis (deviceMachine.step state call).1 := by
  cases call with
  | acceptCommands snapshot nowNs =>
      have hsame := acceptCommands_sameProgress state.safety snapshot nowNs
      refine ⟨DeviceStep.Agrees.of_not_cycled ?_, ?_⟩
      · intro result houtput
        cases houtput
      constructor
      · simp only [deviceMachine]
        rw [hsame.states]
        exact hinStep.known
      · simp only [deviceMachine]
        rw [hsame.states]
        exact hinStep.same
  | requestShutdown nowNs =>
      refine ⟨DeviceStep.Agrees.of_not_cycled ?_,
        ⟨hinStep.known, hinStep.same⟩⟩
      intro result houtput
      cases houtput
  | evaluate bus view nowNs =>
      have haxis := hstate.cycle_axis hsource bus view nowNs
      have hsupervisor := hstate.cycle_supervisor hsource bus view nowNs
      have hknown : ((state.cycle bus view nowNs).1.axes
          axis).hasLastTarget = true := by
        rw [haxis.1]
        rfl
      by_cases henable : (state.safety.evaluate bus (state.safety.span view)
          nowNs).2.requests axis = .enable
      · obtain ⟨hfeedback, hconverted⟩ := hconverts bus view nowNs rfl
          (congrArg some henable)
        obtain ⟨hpasses, hslewed⟩ :=
          hstate.passes hsource hinStep hholds henable hfeedback
        simp only [Machine.fire_before] at hconverted
        rw [← hslewed] at hconverted
        obtain ⟨hdrive, hlast, hword, hwrites⟩ := hpasses.cycle hconverted
        have hstaged := hsupervisor.2
        rw [if_pos henable, ← hslewed] at hstaged
        have hsame : ((state.cycle bus view nowNs).1.safety.states
            axis).lastTarget = ((state.cycle bus view nowNs).1.axes
              axis).lastTarget := by
          rw [haxis.1, hlast]
          exact hstaged
        refine ⟨⟨?_, ?_⟩, ⟨?_, fun _ => hsame⟩⟩
        · intro result _
          exact hsame
        · intro bus' view' nowNs' result hinput houtput _
          cases hinput
          cases houtput
          refine ⟨hdrive, ?_, ?_⟩
          · rw [haxis.2]
            exact hword
          · rw [haxis.2]
            rw [← hstaged] at hwrites
            exact hwrites
        · exact hsupervisor.1.trans hknown.symm
      · have hsame := hstate.lastTarget_of_not_enable hsource henable
        refine ⟨⟨?_, ?_⟩, ⟨hsupervisor.1.trans hknown.symm, fun _ => hsame⟩⟩
        · intro result _
          exact hsame
        · intro bus' view' nowNs' result _ houtput hrequest
          cases houtput
          exact absurd hrequest henable

omit hsource hstate in
/-- A step which agrees has converted what it enabled. -/
theorem DeviceStep.Agrees.converts
    {call : SupervisorCall D}
    (hagrees : DeviceStep.Agrees axis (deviceMachine.fire state call))
    (hlast : ∀ bus view nowNs, call = .evaluate bus view nowNs →
      (state.safety.evaluate bus (state.safety.span view) nowNs).2.requests
        axis = .enable →
      (((deviceMachine.step state call).1.safety.states axis).lastTarget =
        (evaluateTarget (state.safety.configs axis)
          (state.safety.states axis) (state.safety.commands axis)
          (view axis)).1.staged)) :
    DeviceStep.Converts axis (deviceMachine.fire state call) := by
  intro bus view nowNs hinput hrequest
  simp only [Machine.fire_input] at hinput
  subst hinput
  have henable : (state.safety.evaluate bus (state.safety.span view)
      nowNs).2.requests axis = .enable := Option.some.inj hrequest
  obtain ⟨hdrive, _, hwrites⟩ :=
    hagrees.kept bus view nowNs _ rfl rfl henable
  refine ⟨(Cia402Axis.of_driveRequest_enable hdrive).2, ?_⟩
  rw [Machine.fire_after, hlast bus view nowNs rfl henable] at hwrites
  exact hwrites.converts (view axis)

end Cycle

/-! ## Runs -/

theorem DeviceSetup.final_safety
    (setup : DeviceSetup D) (calls : List (SupervisorCall D)) :
    (deviceMachine.final setup.start calls).safety = setup.after calls := by
  induction calls using List.reverseRecOn with
  | nil => rfl
  | append_singleton calls call ih =>
      rw [Machine.final_append, setup.after_concat]
      simp only [Machine.final_cons, Machine.final_nil, Machine.fire_after]
      rw [deviceMachine_safety, ih]

section Run

variable {setup : DeviceSetup D} {axis : Axis} {source : AxisConfig D}
  (hsource : setup.axes[axis.val]? = some source)

include hsource

theorem DeviceSetup.devicesConfigured (calls : List (SupervisorCall D)) :
    DevicesConfigured setup axis source
      (deviceMachine.final setup.start calls) :=
  Machine.invariant_final (DevicesConfigured setup axis source)
    (fun _ call hstate => hstate.step call) (start_configured hsource) calls

theorem DeviceSetup.start_targetsInStep :
    TargetsInStep axis setup.start := by
  have hcreated := setup.created axis source hsource
  have hknown : (setup.devices axis).hasLastTarget = false := by
    unfold Cia402Axis.create at hcreated
    split at hcreated
    · contradiction
    · rw [Except.ok.injEq] at hcreated
      rw [← hcreated]
  constructor
  · show (setup.supervisor.states axis).hasLastTarget =
      (setup.devices axis).hasLastTarget
    rw [setup.supervisor_states, hknown]
    rfl
  · intro htrue
    rw [show (setup.start.axes axis).hasLastTarget = false from hknown] at htrue
    contradiction

/-- A run which converts what it enables keeps both sides in step. -/
theorem DeviceSetup.run_agrees
    (calls : List (SupervisorCall D))
    (hconverts : ∀ step ∈ setup.cycles calls,
      DeviceStep.Converts axis step) :
    (∀ step ∈ setup.cycles calls, DeviceStep.Agrees axis step) ∧
      TargetsInStep axis (deviceMachine.final setup.start calls) := by
  induction calls using List.reverseRecOn with
  | nil =>
      refine ⟨?_, start_targetsInStep hsource⟩
      intro step hstep
      exact absurd hstep List.not_mem_nil
  | append_singleton calls call ih =>
      unfold cycles at *
      rw [Machine.trace_append] at hconverts ⊢
      obtain ⟨hagrees, hinStep⟩ := ih
        (fun step hstep => hconverts step (List.mem_append_left _ hstep))
      have hholds : (deviceMachine.final setup.start
          calls).safety.commandsValid = true →
          ∃ snapshot, (deviceMachine.final setup.start
            calls).safety.Holds snapshot := by
        rw [setup.final_safety]
        intro hvalid
        obtain ⟨snapshot, _, hsnapshot⟩ :=
          (setup.historyInvariant calls).verdict hvalid
        exact ⟨snapshot, hsnapshot⟩
      obtain ⟨hlast, hnext⟩ := (devicesConfigured hsource calls).agrees hsource
        hinStep hholds (hconverts _ (List.mem_append_right _
          (List.mem_singleton.mpr rfl)))
      rw [Machine.final_append]
      refine ⟨?_, hnext⟩
      intro step hstep
      rcases List.mem_append.mp hstep with hold | hnew
      · exact hagrees step hold
      · rw [List.mem_singleton.mp hnew]
        exact hlast

/-- Steps which agree have converted what they enabled. -/
theorem DeviceSetup.converts_of_agrees
    {calls : List (SupervisorCall D)} {step : DeviceStep D}
    (hstep : step ∈ setup.cycles calls)
    (hagrees : DeviceStep.Agrees axis step) :
    DeviceStep.Converts axis step := by
  obtain ⟨before, call, _, hfire⟩ := Machine.exists_fire_of_mem_trace hstep
  subst hfire
  apply hagrees.converts
  intro bus view nowNs hcall henable
  subst hcall
  have hlast := ((devicesConfigured hsource before).cycle_supervisor hsource
    bus view nowNs).2
  rw [if_pos henable] at hlast
  exact hlast

end Run

/-- Supervisor and device agree in a run exactly when every enabled cycle can
convert its measured values and its staged target. -/
theorem supervisor_axis_agree_iff
    (setup : DeviceSetup D) (calls : List (SupervisorCall D))
    (axis : Axis) (haxis : axis.val < setup.axes.length) :
    (∀ step ∈ setup.cycles calls, DeviceStep.Agrees axis step) ↔
      ∀ step ∈ setup.cycles calls, DeviceStep.Converts axis step := by
  have hsource := List.getElem?_eq_getElem haxis
  constructor
  · intro hagrees step hstep
    exact DeviceSetup.converts_of_agrees hsource hstep (hagrees step hstep)
  · intro hconverts
    exact (DeviceSetup.run_agrees hsource calls hconverts).1

/-- An axis whose range exceeds the position object of its drive. -/
def wideAxis : AxisConfig ℚ where
  mode := .csp
  scale := 1000000000
  minimum := -10
  maximum := 10
  commandTimeout := 20
  safetyGroup := "arm"
  slewLimit := 10
  followingErrorLimit := 10

def wideDevice : DeviceSetup ℚ where
  options := {}
  axes := [wideAxis]
  accepted := by decide +kernel
  devices := fun _ => ⟨wideAxis, ⟨false⟩, 0, false⟩
  created := by
    intro axis source hsource
    have hmem := List.mem_of_getElem? hsource
    simp only [List.mem_singleton] at hmem
    subst hmem
    rfl

/-- One enable command and the cycle which executes it. -/
def wideCalls (target : ℚ) : List (SupervisorCall ℚ) := [
  .acceptCommands ⟨1, 10, 1, fun _ =>
    ⟨1, 10, target, kAxisCommandEnable, 0⟩⟩ 10,
  .evaluate healthyBus (armView 0x0040 0) 20]

theorem supervisor_axis_agree_wideDevice :
    0 < wideDevice.axes.length ∧
      ∀ step ∈ wideDevice.cycles (wideCalls 1),
        DeviceStep.Agrees 0 step := by
  refine ⟨by decide, ?_⟩
  refine (supervisor_axis_agree_iff wideDevice (wideCalls 1) 0
    (by decide)).mpr ?_
  intro step hstep bus view nowNs hinput _
  simp only [DeviceSetup.cycles, wideCalls, Machine.trace_cons,
    Machine.trace_nil, List.mem_cons, List.not_mem_nil, or_false] at hstep
  rcases hstep with rfl | rfl
  · cases hinput
  · cases hinput
    constructor <;> decide +kernel

/-- The supervisor stages a target which the device cannot convert: the device
stops, and the two last targets differ. -/
theorem wide_target_disagrees :
    ¬ ∀ step ∈ wideDevice.cycles (wideCalls 3),
      DeviceStep.Agrees 0 step := by
  intro hagrees
  have hlast := (hagrees _ (by
    simp only [DeviceSetup.cycles, wideCalls, Machine.trace_cons,
      Machine.trace_nil, List.mem_cons, List.not_mem_nil, or_false]
    exact Or.inr rfl)).lastTarget _ rfl
  revert hlast
  decide +kernel

end PolicyRuntime
