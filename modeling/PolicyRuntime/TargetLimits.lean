import PolicyRuntime.AxisAgreement
import PolicyRuntime.ExtendedArithmetic
import PolicyRuntime.Limiter

/-!
# Slew and range limits on the wire

An axis is cycled with arbitrary commands and process data.  Over the exact
arithmetic a cycle which stays enabled stages the last target slewed towards
the clamped command; every other cycle writes the measured value or zero.
-/

namespace PolicyRuntime

open FloatingPoint

section Definitions

variable {D : Type} [FloatingPoint D]

abbrev AxisStep (D : Type) :=
  Transition (Cia402Axis D) (AxisCommand D × Cia402PdoView)
    (Cia402PdoView × AxisFeedback D)

/-- One axis, cycled. -/
def axisMachine :
    Machine (Cia402Axis D) (AxisCommand D × Cia402PdoView)
      (Cia402PdoView × AxisFeedback D) where
  step := fun axis (command, pdo) => axis.cycle command pdo

/-- The final request of a cycle. -/
def AxisStep.request (step : AxisStep D) : AxisRequest :=
  step.before.driveRequest step.input.1 step.input.2

/-- The target a cycle stages, before it is converted. -/
def AxisStep.staged (step : AxisStep D) : D :=
  (step.before.checkMode step.input.2
    (step.before.stageCommand step.input.1 step.input.2)).target

def AxisStep.measured (step : AxisStep D) : D :=
  step.before.actual step.input.2

/-- What a cycle slews from: the first cycle of a run has no last target and
starts at the measured value. -/
def AxisStep.reference (earlier : List (AxisStep D)) (step : AxisStep D) : D :=
  if earlier.isEmpty then step.measured else step.before.lastTarget

/-- How far a value is outside of the range of an axis. -/
def AxisConfig.distance (config : AxisConfig D) (value : D) : D :=
  if lt value config.minimum then sub config.minimum value
  else if lt config.maximum value then sub value config.maximum
  else zero

def AxisConfig.Inside (config : AxisConfig D) (value : D) : Prop :=
  le config.minimum value = true ∧ le value config.maximum = true

/-- The limits an enabled cycle keeps. -/
structure LimitedTarget (config : AxisConfig D) (reference : D)
    (step : AxisStep D) : Prop where
  slew : le (abs (sub step.staged reference)) config.slewLimit = true
  closer : le (config.distance step.staged) (config.distance reference) = true
  inside : config.Inside reference → config.Inside step.staged
  following :
    followingErrorActive
        (Cia402StateMachine.decode step.input.2.statusWord) = true →
      le (abs (sub step.staged step.measured))
        config.followingErrorLimit = true
  written : WritesTarget config step.staged step.output.1

def Cia402PdoView.targets (pdo : Cia402PdoView) : ℤ × ℤ × ℤ :=
  (pdo.targetPosition, pdo.targetVelocity, pdo.targetTorque)

/-- The three targets with only that of a mode set. -/
def modeTargets : Cia402Mode → ℤ → ℤ × ℤ × ℤ
  | .csp, value => (value, 0, 0)
  | .csv, value => (0, value, 0)
  | .cst, value => (0, 0, value)
  | .other _, _ => (0, 0, 0)

/-- The measured device value of a mode. -/
def Cia402PdoView.measured (pdo : Cia402PdoView) : Cia402Mode → ℤ
  | .csp => pdo.actualPosition
  | .csv => pdo.actualVelocity
  | .cst => pdo.actualTorque
  | .other _ => 0

/-- A cycle which is not enabled writes the measured value or zero. -/
def HeldTarget (config : AxisConfig D) (step : AxisStep D) : Prop :=
  step.output.1.targets =
      modeTargets config.mode (step.input.2.measured config.mode) ∨
    step.output.1.targets = (0, 0, 0)

/-- The limits of every cycle of a run. -/
structure TargetLimits (config : AxisConfig D)
    (history : List (AxisStep D)) : Prop where
  enabled : ∀ earlier step later, history = earlier ++ step :: later →
    AxisStep.request step = .enable →
    LimitedTarget config (AxisStep.reference earlier step) step
  held : ∀ step ∈ history, AxisStep.request step ≠ .enable →
    HeldTarget config step

end Definitions

/-! ## One cycle -/

section Cycle

variable {D : Type} [FloatingPoint D] {axis : Cia402Axis D}
  {command : AxisCommand D} {pdo : Cia402PdoView}

omit [FloatingPoint D] in
theorem requestedAction_eq_enable {flags : BitVec 32}
    (henable : (requestedAction flags).1 = .enable) :
    requestedAction flags = (.enable, false) := by
  unfold requestedAction at henable ⊢
  dsimp only at henable ⊢
  split at henable
  · contradiction
  · rename_i hvalid
    rw [if_neg hvalid]
    dsimp only at henable
    rw [henable]

theorem Cia402Axis.checkMode_enable
    (henable : (axis.checkMode pdo
      (axis.stageCommand command pdo)).request = .enable) :
    pdo.modeDisplay = axis.config.mode.value ∧
      (axis.stageCommand command pdo).request = .enable := by
  unfold Cia402Axis.checkMode at henable
  split at henable
  · dsimp only at henable
    split at henable
    · contradiction
    · contradiction
  · rename_i hmode
    rw [not_not] at hmode
    exact ⟨hmode, henable⟩

/-- An enable which passes the staging meets all its checks. -/
theorem Cia402Axis.stageEnable_enable
    {lastTarget actual : D} {flags : BitVec 32}
    (henable : (axis.stageEnable command pdo lastTarget actual
      flags).request = .enable) :
    axis.config.limitsUsable = true ∧ isfinite command.target = true ∧
      (followingErrorActive (Cia402StateMachine.decode pdo.statusWord) &&
        lt axis.config.followingErrorLimit
          (abs (sub (slewedTarget axis.config lastTarget command.target)
            actual))) = false := by
  unfold Cia402Axis.stageEnable at henable
  dsimp only at henable
  split at henable
  · contradiction
  · rename_i hlimits
    simp only [Bool.or_eq_true, Bool.not_eq_true', not_or,
      Bool.not_eq_false, Bool.not_eq_true] at hlimits
    obtain ⟨⟨⟨⟨⟨⟨⟨htarget, hscale⟩, hpositive⟩, hminimum⟩, hmaximum⟩, horder⟩,
      hslew⟩, herror⟩ := hlimits
    have hslewFinite : isfinite axis.config.slewLimit = true := by
      simp only [validPositiveLimit, Bool.and_eq_true] at hslew
      exact hslew.1
    have herrorFinite : isfinite axis.config.followingErrorLimit = true := by
      simp only [validPositiveLimit, Bool.and_eq_true] at herror
      exact herror.1
    simp only [hslewFinite, herrorFinite, if_true, Bool.and_true] at henable
    split at henable
    · contradiction
    · rename_i hfollowing
      rw [Bool.not_eq_true] at hfollowing
      refine ⟨?_, htarget, hfollowing⟩
      simp [AxisConfig.limitsUsable, hscale, hpositive, hminimum, hmaximum,
        horder, hslew, herror]

/-- A cycle stays enabled only if its command passes every check and its
target converts. -/
theorem Cia402Axis.passes_of_enable
    (henable : axis.driveRequest command pdo = .enable) :
    axis.Passes command pdo ∧
      (stageSetpoint axis.config (axis.slewed command pdo) pdo).2 = true := by
  obtain ⟨haction, hfeedback⟩ := Cia402Axis.of_driveRequest_enable henable
  have hconverted : (axis.checkMode pdo
      (axis.stageCommand command pdo)).request = .enable ∧
      (stageSetpoint axis.config (axis.checkMode pdo
        (axis.stageCommand command pdo)).target pdo).2 = true := by
    unfold Cia402Axis.driveRequest Cia402Axis.convertTarget at henable
    dsimp only at henable
    split at henable
    · rename_i hconverted
      exact ⟨henable, hconverted⟩
    · contradiction
  obtain ⟨hrequest, hconverted⟩ := hconverted
  obtain ⟨hmode, hstaged⟩ := Cia402Axis.checkMode_enable hrequest
  have haction := requestedAction_eq_enable haction
  unfold Cia402Axis.stageCommand at hstaged
  simp only [haction, hfeedback, Bool.false_eq_true, if_false, if_true]
    at hstaged
  obtain ⟨hlimits, hfinite, hfollowing⟩ :=
    Cia402Axis.stageEnable_enable hstaged
  have hpasses : axis.Passes command pdo :=
    ⟨haction, hfeedback, hlimits, hfinite, hmode, hfollowing⟩
  refine ⟨hpasses, ?_⟩
  rw [hpasses.staging.2] at hconverted
  exact hconverted

theorem Cia402Axis.stageEnable_target
    {lastTarget actual : D} {flags : BitVec 32}
    (hrequest : (axis.stageEnable command pdo lastTarget actual
      flags).request ≠ .enable) :
    (axis.stageEnable command pdo lastTarget actual flags).target =
      actual := by
  unfold Cia402Axis.stageEnable at hrequest ⊢
  dsimp only at hrequest ⊢
  split at hrequest
  · rename_i hlimits
    rw [if_pos hlimits]
  · rename_i hlimits
    rw [if_neg hlimits]
    split at hrequest
    · rename_i hslew
      rw [if_pos hslew]
      dsimp only at hrequest ⊢
      split at hrequest
      · rename_i hfollowing
        rw [if_pos hfollowing]
      · contradiction
    · rename_i hslew
      rw [if_neg hslew]
      dsimp only at hrequest ⊢
      split at hrequest
      · rename_i hfollowing
        rw [if_pos hfollowing]
      · contradiction

/-- Whatever takes the enable away also puts the measured value back. -/
theorem Cia402Axis.checkMode_target
    (hrequest : (axis.checkMode pdo
      (axis.stageCommand command pdo)).request ≠ .enable) :
    (axis.checkMode pdo (axis.stageCommand command pdo)).target =
      axis.actual pdo := by
  have hstaged : (axis.stageCommand command pdo).request ≠ .enable →
      (axis.stageCommand command pdo).target = axis.actual pdo := by
    intro hrequest
    unfold Cia402Axis.stageCommand at hrequest ⊢
    dsimp only at hrequest ⊢
    by_cases henable : (if axis.invalidFeedback pdo = true then .quickStop
        else (requestedAction command.flags).1) = AxisRequest.enable
    · rw [if_pos henable] at hrequest ⊢
      exact Cia402Axis.stageEnable_target hrequest
    · rw [if_neg henable]
  unfold Cia402Axis.checkMode at hrequest ⊢
  by_cases hmode : pdo.modeDisplay ≠ axis.config.mode.value
  · rw [if_pos hmode] at hrequest ⊢
    dsimp only at hrequest ⊢
    by_cases henable : (axis.stageCommand command pdo).request = .enable
    · rw [if_pos henable]
    · rw [if_neg henable]
      exact hstaged henable
  · rw [if_neg hmode] at hrequest ⊢
    exact hstaged hrequest

/-- A conversion which gives `n` or nothing writes `n` or zero. -/
theorem stageSetpoint_targets
    {config : AxisConfig D} {value : D} {n : ℤ}
    (hvalue : ∀ range, engineeringToDeviceUnits range value config.scale =
        none ∨
      engineeringToDeviceUnits range value config.scale = some n)
    (pdo : Cia402PdoView) :
    (stageSetpoint config value pdo).1.targets = modeTargets config.mode n ∨
      (stageSetpoint config value pdo).1.targets = (0, 0, 0) := by
  unfold stageSetpoint
  cases hmode : config.mode with
  | csp =>
      rcases hvalue int32Range with hnone | hsome
      · simp [positionToDeviceUnits, hnone, Cia402PdoView.targets]
      · simp [positionToDeviceUnits, hsome, Cia402PdoView.targets,
          modeTargets]
  | csv =>
      rcases hvalue int32Range with hnone | hsome
      · simp [velocityToDeviceUnits, hnone, Cia402PdoView.targets]
      · simp [velocityToDeviceUnits, hsome, Cia402PdoView.targets,
          modeTargets]
  | cst =>
      rcases hvalue int16Range with hnone | hsome
      · simp [torqueToDeviceUnits, hnone, Cia402PdoView.targets]
      · simp [torqueToDeviceUnits, hsome, Cia402PdoView.targets,
          modeTargets]
  | other mode => simp [Cia402PdoView.targets]

end Cycle

/-! ## The exact arithmetic -/

section Exact

open ExtendedRational

variable {axis : Cia402Axis ExtendedRational}
  {command : AxisCommand ExtendedRational} {pdo : Cia402PdoView}

@[simp] theorem clamp_finite (value lower upper : ℚ) :
    clamp (finite value) (finite lower) (finite upper) =
      finite (Limiter.limit lower upper value) := by
  unfold clamp Limiter.limit
  simp only [lt_finite, decide_eq_true_eq]
  split
  · rfl
  · split
    · rfl
    · rfl

theorem Cia402Axis.exists_actual
    (axis : Cia402Axis ExtendedRational) (pdo : Cia402PdoView) :
    (axis.actual pdo = finite 0 ∨
      ∃ s : ℚ, 0 < s ∧ axis.config.scale = finite s ∧
        axis.actual pdo =
          finite (pdo.measured axis.config.mode / s)) := by
  unfold Cia402Axis.actual
  cases hactual : actualSetpoint axis.config.mode axis.config.scale pdo with
  | none => exact .inl rfl
  | some value =>
      right
      unfold actualSetpoint at hactual
      cases hmode : axis.config.mode with
      | csp =>
          rw [hmode] at hactual
          exact of_deviceUnitsToEngineering hactual
      | csv =>
          rw [hmode] at hactual
          exact of_deviceUnitsToEngineering hactual
      | cst =>
          rw [hmode] at hactual
          exact of_deviceUnitsToEngineering hactual
      | other mode =>
          rw [hmode] at hactual
          contradiction

theorem Cia402Axis.actual_finite
    (axis : Cia402Axis ExtendedRational) (pdo : Cia402PdoView) :
    ∃ q, axis.actual pdo = finite q := by
  rcases axis.exists_actual pdo with hzero | ⟨s, _, _, hvalue⟩
  · exact ⟨0, hzero⟩
  · exact ⟨_, hvalue⟩

/-- The limits of a configuration as numbers. -/
structure ExactLimits (config : AxisConfig ExtendedRational)
    (minimum maximum slewLimit followingErrorLimit : ℚ) : Prop where
  minimum_eq : config.minimum = finite minimum
  maximum_eq : config.maximum = finite maximum
  slewLimit_eq : config.slewLimit = finite slewLimit
  followingErrorLimit_eq :
    config.followingErrorLimit = finite followingErrorLimit
  ordered : minimum ≤ maximum
  positive : 0 < slewLimit

theorem exists_exactLimits {config : AxisConfig ExtendedRational}
    (husable : config.limitsUsable = true) :
    ∃ minimum maximum slewLimit followingErrorLimit,
      ExactLimits config minimum maximum slewLimit followingErrorLimit := by
  simp only [AxisConfig.limitsUsable, Bool.not_eq_true',
    Bool.or_eq_false_iff, Bool.not_eq_false', validPositiveLimit,
    Bool.and_eq_true] at husable
  obtain ⟨⟨⟨⟨⟨_, hminimum⟩, hmaximum⟩, horder⟩, hslew⟩, herror⟩ := husable
  obtain ⟨minimum, hminimum⟩ := exists_of_isfinite hminimum
  obtain ⟨maximum, hmaximum⟩ := exists_of_isfinite hmaximum
  obtain ⟨slewLimit, hslewLimit⟩ := exists_of_isfinite hslew.1
  obtain ⟨followingErrorLimit, herrorLimit⟩ := exists_of_isfinite herror.1
  refine ⟨minimum, maximum, slewLimit, followingErrorLimit, hminimum, hmaximum,
    hslewLimit, herrorLimit, ?_, ?_⟩
  · simpa [hminimum, hmaximum] using horder
  · simpa [hslewLimit] using hslew.2

section Limits

variable {config : AxisConfig ExtendedRational}
  {minimum maximum slewLimit followingErrorLimit : ℚ}
  (hlimits : ExactLimits config minimum maximum slewLimit
    followingErrorLimit)

include hlimits

theorem ExactLimits.slewedTarget (last target : ℚ) :
    slewedTarget config (finite last) (finite target) =
      finite (Limiter.slew slewLimit last
        (Limiter.limit minimum maximum target)) := by
  unfold PolicyRuntime.slewedTarget
  rw [hlimits.minimum_eq, hlimits.maximum_eq, hlimits.slewLimit_eq]
  simp only [clamp_finite, sub_finite, add_finite]
  rfl

theorem ExactLimits.distance (value : ℚ) :
    config.distance (finite value) =
      finite (Limiter.excess minimum maximum value) := by
  unfold AxisConfig.distance Limiter.excess
  rw [hlimits.minimum_eq, hlimits.maximum_eq]
  simp only [lt_finite, decide_eq_true_eq, sub_finite, zero_eq_finite]
  split
  · rfl
  · split
    · rfl
    · rfl

theorem ExactLimits.inside_iff (value : ℚ) :
    config.Inside (finite value) ↔ minimum ≤ value ∧ value ≤ maximum := by
  unfold AxisConfig.Inside
  rw [hlimits.minimum_eq, hlimits.maximum_eq]
  simp only [le_finite, decide_eq_true_eq]

end Limits

/-- The target of an enabled cycle, slewed from a finite value. -/
theorem Cia402Axis.Passes.slewed_finite
    (hpasses : axis.Passes command pdo)
    (hlast : ∃ last, axis.lastTarget = ExtendedRational.finite last) :
    ∃ staged, axis.slewed command pdo = ExtendedRational.finite staged := by
  obtain ⟨minimum, maximum, slewLimit, followingErrorLimit, hlimits⟩ :=
    exists_exactLimits hpasses.limits
  obtain ⟨last, hlast⟩ := hlast
  obtain ⟨measured, hmeasured⟩ := axis.actual_finite pdo
  obtain ⟨target, htarget⟩ := exists_of_isfinite hpasses.finite
  unfold Cia402Axis.slewed
  rw [hlast, hmeasured, htarget]
  split
  · exact ⟨_, hlimits.slewedTarget last target⟩
  · exact ⟨_, hlimits.slewedTarget measured target⟩

theorem Cia402Axis.Passes.staged_eq
    (hpasses : axis.Passes command pdo) :
    AxisStep.staged (axisMachine.fire axis (command, pdo)) =
      axis.slewed command pdo := hpasses.staging.2

/-- An enabled cycle keeps its limits. -/
theorem Cia402Axis.limitedTarget
    (hlast : ∃ last, axis.lastTarget = finite last)
    (henable : axis.driveRequest command pdo = .enable) :
    LimitedTarget axis.config
      (if axis.hasLastTarget then axis.lastTarget else axis.actual pdo)
      (axisMachine.fire axis (command, pdo)) := by
  obtain ⟨hpasses, hconverts⟩ := Cia402Axis.passes_of_enable henable
  obtain ⟨minimum, maximum, slewLimit, followingErrorLimit, hlimits⟩ :=
    exists_exactLimits hpasses.limits
  have hreference : ∃ reference, (if axis.hasLastTarget then axis.lastTarget
      else axis.actual pdo) = finite reference := by
    split
    · exact hlast
    · exact axis.actual_finite pdo
  obtain ⟨reference, hreference⟩ := hreference
  obtain ⟨measured, hmeasured⟩ := axis.actual_finite pdo
  obtain ⟨target, htarget⟩ := exists_of_isfinite hpasses.finite
  have hslewed : axis.slewed command pdo =
      finite (Limiter.slew slewLimit reference
        (Limiter.limit minimum maximum target)) := by
    unfold Cia402Axis.slewed
    rw [hreference, htarget]
    exact hlimits.slewedTarget reference target
  have hstaged := hpasses.staged_eq
  rw [hslewed] at hstaged
  have hpositive := hlimits.positive.le
  rw [hreference]
  constructor
  · rw [hstaged, sub_finite, abs_finite, hlimits.slewLimit_eq, le_finite,
      decide_eq_true_eq]
    exact Limiter.abs_slew_sub_le hpositive
  · rw [hstaged, hlimits.distance, hlimits.distance, le_finite,
      decide_eq_true_eq]
    exact Limiter.excess_slew_le hlimits.ordered hpositive
  · rw [hstaged, hlimits.inside_iff, hlimits.inside_iff]
    rintro ⟨hlower, hupper⟩
    exact Limiter.slew_mem hlimits.ordered hpositive hlower hupper
  · intro hactive
    have hactive : followingErrorActive
        (Cia402StateMachine.decode pdo.statusWord) = true := hactive
    have hfollowing := hpasses.following
    rw [hactive, Bool.true_and, hslewed, hmeasured, sub_finite, abs_finite,
      hlimits.followingErrorLimit_eq, lt_finite, decide_eq_false_iff_not,
      not_lt] at hfollowing
    have hactual : AxisStep.measured (axisMachine.fire axis (command, pdo)) =
        finite measured := hmeasured
    rw [hstaged, hactual, sub_finite, abs_finite,
      hlimits.followingErrorLimit_eq, le_finite, decide_eq_true_eq]
    exact hfollowing
  · rw [hpasses.staged_eq]
    exact (hpasses.cycle hconverts).2.2.2

/-- The measured value converts back to itself. -/
theorem Cia402Axis.stage_actual
    (axis : Cia402Axis ExtendedRational) (pdo staged : Cia402PdoView) :
    (stageSetpoint axis.config (axis.actual pdo) staged).1.targets =
        modeTargets axis.config.mode (pdo.measured axis.config.mode) ∨
      (stageSetpoint axis.config (axis.actual pdo) staged).1.targets =
        (0, 0, 0) := by
  rcases axis.exists_actual pdo with hzero | ⟨s, hpositive, hscale, hvalue⟩
  · right
    rw [hzero]
    have hmode : modeTargets axis.config.mode 0 = (0, 0, 0) := by
      cases axis.config.mode with
      | csp | csv | cst | other => rfl
    have hdevice (range : IntegerRange) :=
      engineeringToDeviceUnits_zero range axis.config.scale
    have htargets := stageSetpoint_targets hdevice staged
    rw [hmode, or_self] at htargets
    exact htargets
  · rw [hvalue]
    apply stageSetpoint_targets
    intro range
    rw [hscale]
    exact engineeringToDeviceUnits_quotient range _ hpositive

theorem stage_zero
    (config : AxisConfig ExtendedRational) (staged : Cia402PdoView) :
    (stageSetpoint config zero staged).1.targets = (0, 0, 0) := by
  have hmode : modeTargets config.mode 0 = (0, 0, 0) := by
    cases config.mode with
    | csp | csv | cst | other => rfl
  have htargets := stageSetpoint_targets
    (fun range => engineeringToDeviceUnits_zero range config.scale) staged
  rw [hmode, or_self] at htargets
  exact htargets

/-- A cycle which is not enabled holds the measured value. -/
theorem Cia402Axis.heldTarget
    (hrequest : axis.driveRequest command pdo ≠ .enable) :
    HeldTarget axis.config (axisMachine.fire axis (command, pdo)) := by
  have hview : ((axis.cycle command pdo).2.1).targets =
      (axis.convertTarget pdo (axis.checkMode pdo
        (axis.stageCommand command pdo))).2.1.targets := rfl
  unfold HeldTarget
  change (axis.cycle command pdo).2.1.targets = _ ∨
    (axis.cycle command pdo).2.1.targets = _
  rw [hview]
  unfold Cia402Axis.driveRequest Cia402Axis.convertTarget at *
  dsimp only at hrequest ⊢
  split at hrequest
  · rename_i hconverted
    rw [if_pos hconverted, Cia402Axis.checkMode_target hrequest]
    exact axis.stage_actual pdo pdo
  · rename_i hconverted
    rw [if_neg hconverted]
    exact .inr (stage_zero _ _)

end Exact

/-! ## Runs -/

section Run

open ExtendedRational (finite)

variable {config : AxisConfig ExtendedRational}
  {axis : Cia402Axis ExtendedRational}

/-- What the cycles made so far leave in an axis. -/
structure AxisRun (config : AxisConfig ExtendedRational)
    (history : List (AxisStep ExtendedRational))
    (axis : Cia402Axis ExtendedRational) : Prop where
  config_eq : axis.config = config
  hasLastTarget : axis.hasLastTarget = !history.isEmpty
  finite : ∃ last, axis.lastTarget = finite last

theorem AxisRun.initial (hcreate : Cia402Axis.create config = .ok axis) :
    AxisRun config [] axis := by
  unfold Cia402Axis.create at hcreate
  split at hcreate
  · contradiction
  · rw [Except.ok.injEq] at hcreate
    rw [← hcreate]
    exact ⟨rfl, rfl, 0, rfl⟩

theorem AxisRun.step
    {history : List (AxisStep ExtendedRational)}
    (hrun : AxisRun config history axis)
    (input : AxisCommand ExtendedRational × Cia402PdoView) :
    AxisRun config (history ++ [axisMachine.fire axis input])
      (axisMachine.step axis input).1 := by
  obtain ⟨command, pdo⟩ := input
  constructor
  · exact hrun.config_eq
  · simp [axisMachine, Cia402Axis.cycle]
  · change ∃ last, (axis.cycle command pdo).1.lastTarget = _
    rw [axis.cycle_lastTarget]
    split
    · rename_i henable
      have hpasses := (Cia402Axis.passes_of_enable henable).1
      rw [hpasses.staging.2]
      exact hpasses.slewed_finite hrun.finite
    · exact axis.actual_finite pdo

theorem axisRun (hcreate : Cia402Axis.create config = .ok axis)
    (inputs : List (AxisCommand ExtendedRational × Cia402PdoView)) :
    AxisRun config (axisMachine.trace axis inputs)
      (axisMachine.final axis inputs) := by
  refine Machine.history_final (AxisRun config) (AxisRun.initial hcreate) ?_
    inputs
  intro history axis input hrun
  exact hrun.step input

/-- Every run of an axis keeps its targets within the limits. -/
theorem targetLimits
    (config : AxisConfig ExtendedRational)
    (axis : Cia402Axis ExtendedRational)
    (hcreate : Cia402Axis.create config = .ok axis)
    (inputs : List (AxisCommand ExtendedRational × Cia402PdoView)) :
    TargetLimits config (axisMachine.trace axis inputs) := by
  constructor
  · intro earlier step later hsplit henable
    obtain ⟨before, ⟨command, pdo⟩, after, _, hearlier, hstep, _⟩ :=
      Machine.trace_split hsplit
    have hrun := axisRun hcreate before
    rw [← hearlier] at hrun
    rw [hstep] at henable ⊢
    have hlimited := Cia402Axis.limitedTarget hrun.finite henable
    rw [hrun.config_eq, hrun.hasLastTarget] at hlimited
    unfold AxisStep.reference
    cases earlier with
    | nil => exact hlimited
    | cons first rest => exact hlimited
  · intro step hmem hrequest
    obtain ⟨before, ⟨command, pdo⟩, _, hstep⟩ :=
      Machine.exists_fire_of_mem_trace hmem
    have hrun := axisRun hcreate before
    rw [hstep] at hrequest ⊢
    have hheld : HeldTarget (axisMachine.final axis before).config
        (axisMachine.fire (axisMachine.final axis before) (command, pdo)) :=
      Cia402Axis.heldTarget hrequest
    rw [hrun.config_eq] at hheld
    exact hheld

/-! ### An axis which stands away from zero -/

def raisedAxis : AxisConfig ExtendedRational where
  mode := .csp
  scale := finite 1000
  minimum := finite (-10)
  maximum := finite 10
  commandTimeout := 20
  safetyGroup := ""
  slewLimit := finite 1
  followingErrorLimit := finite 1

def raisedDevice : Cia402Axis ExtendedRational where
  config := raisedAxis
  stateMachine := ⟨false⟩
  lastTarget := finite 0
  hasLastTarget := false

/-- An enable to the measured position 5 of a drive which is switched on. -/
def raisedCycle : AxisCommand ExtendedRational × Cia402PdoView :=
  (⟨1, 10, finite 5, kAxisCommandEnable, 0⟩,
    { armView 0x0023 0 0 with actualPosition := 5000 })

theorem targetLimits_raised :
    TargetLimits raisedAxis
      (axisMachine.trace raisedDevice [raisedCycle, raisedCycle]) :=
  targetLimits raisedAxis raisedDevice rfl _

/-- The first cycle does not slew from the last target, which is not set. -/
theorem first_cycle_exceeds_slewLimit :
    ¬ ∀ (config : AxisConfig ExtendedRational)
      (axis : Cia402Axis ExtendedRational),
      Cia402Axis.create config = .ok axis →
      le config.minimum config.maximum = true → lt zero config.scale = true →
      ∀ inputs, ∀ step ∈ axisMachine.trace axis inputs,
        AxisStep.request step = .enable →
        le (abs (sub (AxisStep.staged step) step.before.lastTarget))
          config.slewLimit = true := by
  intro hall
  have hslew := hall raisedAxis raisedDevice rfl (by decide +kernel)
    (by decide +kernel) [raisedCycle] _ List.mem_cons_self
    (by decide +kernel)
  revert hslew
  decide +kernel

end Run

end PolicyRuntime
