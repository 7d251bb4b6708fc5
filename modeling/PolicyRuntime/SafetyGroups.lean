import PolicyRuntime.SupervisorRuns

/-!
# Safety groups do not interfere

Two runs whose inputs agree on one safety group are compared.  The relation
between their states keeps the shared command state and the axis states of the
group; process data and mask bits of every other axis are unconstrained.
-/

namespace PolicyRuntime

open SafetySupervisor

/-- The bus states differ at most in mask bits of axes outside the group. -/
structure SameBusOn (member : Axis → Prop) (left right : SafetyBusState) :
    Prop where
  workingCounter : left.workingCounter = right.workingCounter
  expectedWorkingCounter :
    left.expectedWorkingCounter = right.expectedWorkingCounter
  expectedWorkingCounterKnown :
    left.expectedWorkingCounterKnown = right.expectedWorkingCounterKnown
  workingCounterComplete :
    left.workingCounterComplete = right.workingCounterComplete
  linkUp : left.linkUp = right.linkUp
  allSlavesOperational :
    left.allSlavesOperational = right.allSlavesOperational
  processDataValid : left.processDataValid = right.processDataValid
  operationalBits : ∀ axis, member axis →
    left.operationalAxesMask.getLsbD axis.val =
      right.operationalAxesMask.getLsbD axis.val
  externalStopBits : ∀ axis, member axis →
    left.externalStopAxesMask.getLsbD axis.val =
      right.externalStopAxesMask.getLsbD axis.val

/-- The same call, up to process data and mask bits outside the group. -/
inductive SameCallOn {D : Type} (member : Axis → Prop) :
    SupervisorCall D → SupervisorCall D → Prop
  | acceptCommands (snapshot : Snapshot (AxisCommand D)) (nowNs : ℤ) :
      SameCallOn member (.acceptCommands snapshot nowNs)
        (.acceptCommands snapshot nowNs)
  | requestShutdown (nowNs : ℤ) :
      SameCallOn member (.requestShutdown nowNs) (.requestShutdown nowNs)
  | evaluate {busLeft busRight : SafetyBusState}
      {viewLeft viewRight : Axis → Cia402PdoView} (nowNs : ℤ)
      (hbus : SameBusOn member busLeft busRight)
      (hview : ∀ axis, member axis → viewLeft axis = viewRight axis) :
      SameCallOn member (.evaluate busLeft viewLeft nowNs)
        (.evaluate busRight viewRight nowNs)

/-- The same answer, as far as the axes of the group can see. -/
inductive SameAnswerOn {D : Type} (member : Axis → Prop) :
    SupervisorAnswer D → SupervisorAnswer D → Prop
  | acceptance (answer : CommandAcceptance) :
      SameAnswerOn member (.acceptance answer) (.acceptance answer)
  | shutdown : SameAnswerOn member .shutdown .shutdown
  | evaluation {left right : SafetyEvaluation D}
      (hrequests : ∀ axis, member axis →
        left.requests axis = right.requests axis)
      (hcommands : ∀ axis, member axis →
        left.commands axis = right.commands axis)
      (hfeedback : ∀ axis, member axis →
        left.feedbackFlags axis = right.feedbackFlags axis) :
      SameAnswerOn member (.evaluation left) (.evaluation right)

/-- What the group shares in two runs. -/
structure SameStateOn {D : Type} (member : Axis → Prop)
    (left right : SafetySupervisor D) : Prop where
  options : left.options = right.options
  configs : left.configs = right.configs
  commands : left.commands = right.commands
  axisCount : left.axisCount = right.axisCount
  counter : left.consecutiveWkcFailures = right.consecutiveWkcFailures
  lastCommandSequence : left.lastCommandSequence = right.lastCommandSequence
  lastCommandTimestampNs :
    left.lastCommandTimestampNs = right.lastCommandTimestampNs
  configured : left.configured = right.configured
  hasCommand : left.hasCommand = right.hasCommand
  commandsValid : left.commandsValid = right.commandsValid
  shutdownRequested : left.shutdownRequested = right.shutdownRequested
  states : ∀ axis, member axis → left.states axis = right.states axis

variable {D : Type} [FloatingPoint D]

/-! ## Assessments -/

section Bus

variable {member : Axis → Prop} {left right : SafetyBusState}
  (hbus : SameBusOn member left right)

include hbus

theorem SameBusOn.counterBad : counterBad left = counterBad right := by
  simp only [SafetySupervisor.counterBad, hbus.workingCounter,
    hbus.expectedWorkingCounter, hbus.expectedWorkingCounterKnown,
    hbus.workingCounterComplete]

theorem SameBusOn.countWkcFailures (failures : UInt32) :
    countWkcFailures failures left = countWkcFailures failures right := by
  simp only [SafetySupervisor.countWkcFailures, hbus.counterBad]

theorem SameBusOn.invalidProcessData :
    invalidProcessData left = invalidProcessData right := by
  simp only [SafetySupervisor.invalidProcessData, hbus.counterBad,
    hbus.processDataValid, hbus.linkUp]

theorem SameBusOn.axisOperational {axis : Axis} (haxis : member axis) :
    axisOperational left axis = axisOperational right axis := by
  simp only [SafetySupervisor.axisOperational, and_bit_ne_zero,
    hbus.allSlavesOperational, hbus.operationalBits axis haxis]

theorem SameBusOn.externalStop {axis : Axis} (haxis : member axis) :
    externalStop left axis = externalStop right axis := by
  simp only [SafetySupervisor.externalStop, and_bit_ne_zero,
    hbus.externalStopBits axis haxis]

end Bus

section States

variable {member : Axis → Prop} {left right : SafetySupervisor D}
  (hsame : SameStateOn member left right)

include hsame

omit [FloatingPoint D] in
theorem SameStateOn.axes : left.axes = right.axes := by
  simp only [SafetySupervisor.axes, hsame.axisCount]

omit [FloatingPoint D] in
theorem SameStateOn.requested (axis : Axis) :
    left.requested axis = right.requested axis := by
  simp only [SafetySupervisor.requested, hsame.hasCommand, hsame.commands]

omit [FloatingPoint D] in
theorem SameStateOn.commandTimedOut (axis : Axis) (nowNs : ℤ) :
    left.commandTimedOut axis nowNs = right.commandTimedOut axis nowNs := by
  simp only [SafetySupervisor.commandTimedOut, hsame.hasCommand,
    hsame.lastCommandTimestampNs, hsame.configs]

variable {busLeft busRight : SafetyBusState}
  (hbus : SameBusOn member busLeft busRight)
  {viewLeft viewRight : Axis → Cia402PdoView}
  (hview : ∀ axis, member axis → viewLeft axis = viewRight axis)
  (nowNs : ℤ)

include hbus hview

theorem SameStateOn.assess {axis : Axis} (haxis : member axis) :
    left.assess busLeft (left.span viewLeft) nowNs axis =
      right.assess busRight (right.span viewRight) nowNs axis := by
  have hpdo : (left.span viewLeft).view axis =
      (right.span viewRight).view axis := hview axis haxis
  simp only [SafetySupervisor.assess, faultClearObserved, hpdo,
    hsame.requested, hsame.commandTimedOut, hsame.states axis haxis,
    hsame.options, hsame.configs, hsame.commands, hsame.counter,
    hsame.commandsValid, hsame.shutdownRequested, hbus.countWkcFailures,
    hbus.invalidProcessData, hbus.linkUp, hbus.processDataValid,
    hbus.axisOperational haxis, hbus.externalStop haxis]

/-! ## Decisions -/

variable {group : UInt8}
  (hmember : ∀ axis, member axis ↔
    axis.val < left.axisCount ∧ (left.configs axis).group = group)

include hmember

theorem SameStateOn.ownMarks_agreeOn :
    GroupMarks.AgreeOn left.configs group
      (left.ownMarks busLeft (left.span viewLeft) nowNs)
      (right.ownMarks busRight (right.span viewRight) nowNs) := by
  intro axis hgroup
  have hcount := hsame.axisCount
  by_cases hin : axis.val < left.axisCount
  · have haxis := (hmember axis).mpr ⟨hin, hgroup⟩
    simp [ownMarks, hsame.assess hbus hview nowNs haxis, hcount]
  · simp [ownMarks, ← hcount, hin]

theorem SameStateOn.resetCandidates_eq {axis : Axis}
    (hgroup : (left.configs axis).group = group) :
    left.resetCandidates busLeft (left.span viewLeft) nowNs axis =
      right.resetCandidates busRight (right.span viewRight) nowNs axis := by
  have hcount := hsame.axisCount
  by_cases hin : axis.val < left.axisCount
  · have haxis := (hmember axis).mpr ⟨hin, hgroup⟩
    simp only [resetCandidates, hsame.assess hbus hview nowNs haxis, hcount]
  · simp [resetCandidates, ← hcount, hin]

theorem SameStateOn.groupMarks_agreeOn :
    GroupMarks.AgreeOn left.configs group
      (left.groupMarks busLeft (left.span viewLeft) nowNs)
      (right.groupMarks busRight (right.span viewRight) nowNs) := by
  rw [groupMarks_eq, groupMarks_eq]
  apply propagateResets_agreeOn hsame.configs hsame.axisCount
  · intro axis hgroup
    exact hsame.resetCandidates_eq hbus hview nowNs hmember hgroup
  · apply propagateTriggers_agreeOn hsame.configs hsame.axisCount
    exact hsame.ownMarks_agreeOn hbus hview nowNs hmember

theorem SameStateOn.decision {axis : Axis} (haxis : member axis) :
    left.decision busLeft (left.span viewLeft) nowNs axis =
      right.decision busRight (right.span viewRight) nowNs axis := by
  have hmarks := hsame.groupMarks_agreeOn hbus hview nowNs hmember axis
    ((hmember axis).mp haxis).2
  have hpdo : (left.span viewLeft).view axis =
      (right.span viewRight).view axis := hview axis haxis
  have hinputs : left.axisInputs busLeft (left.span viewLeft) nowNs axis =
      right.axisInputs busRight (right.span viewRight) nowNs axis := by
    simp only [axisInputs, hsame.hasCommand, hsame.lastCommandSequence,
      hsame.requested, hpdo, hmarks.1, hmarks.2]
  unfold SafetySupervisor.decision
  rw [hsame.options, hinputs, hsame.assess hbus hview nowNs haxis]

variable (hconfigured : left.configured = true)

include hconfigured

theorem SameStateOn.evaluate :
    SameStateOn member
        (left.evaluate busLeft (left.span viewLeft) nowNs).1
        (right.evaluate busRight (right.span viewRight) nowNs).1 ∧
      SameAnswerOn member
        (.evaluation (left.evaluate busLeft (left.span viewLeft) nowNs).2)
        (.evaluation (right.evaluate busRight (right.span viewRight) nowNs).2) := by
  have hconfigured' : right.configured = true := by
    rw [← hsame.configured]
    exact hconfigured
  have hright : ∀ axis, member axis → axis.val < right.axisCount := by
    intro axis haxis
    rw [← hsame.axisCount]
    exact ((hmember axis).mp haxis).1
  have hkeptLeft := left.evaluate_sameCommands busLeft (left.span viewLeft) nowNs
  have hkeptRight :=
    right.evaluate_sameCommands busRight (right.span viewRight) nowNs
  constructor
  · constructor
    · rw [hkeptLeft.options, hkeptRight.options, hsame.options]
    · rw [hkeptLeft.configs, hkeptRight.configs, hsame.configs]
    · rw [hkeptLeft.commands, hkeptRight.commands, hsame.commands]
    · rw [hkeptLeft.axisCount, hkeptRight.axisCount, hsame.axisCount]
    · rw [evaluate_wkcFailures hconfigured rfl,
        evaluate_wkcFailures hconfigured' rfl, hsame.counter,
        hbus.countWkcFailures]
    · rw [hkeptLeft.lastCommandSequence, hkeptRight.lastCommandSequence,
        hsame.lastCommandSequence]
    · rw [hkeptLeft.lastCommandTimestampNs, hkeptRight.lastCommandTimestampNs,
        hsame.lastCommandTimestampNs]
    · rw [hkeptLeft.configured, hkeptRight.configured, hsame.configured]
    · rw [hkeptLeft.hasCommand, hkeptRight.hasCommand, hsame.hasCommand]
    · rw [hkeptLeft.commandsValid, hkeptRight.commandsValid,
        hsame.commandsValid]
    · rw [evaluate_shutdownRequested, evaluate_shutdownRequested,
        hsame.shutdownRequested]
    · intro axis haxis
      rw [evaluate_states hconfigured rfl busLeft nowNs
          ((hmember axis).mp haxis).1,
        evaluate_states hconfigured' rfl busRight nowNs (hright axis haxis),
        hsame.decision hbus hview nowNs hmember haxis,
        hsame.assess hbus hview nowNs haxis]
  · constructor
    · intro axis haxis
      rw [evaluate_requests hconfigured rfl busLeft nowNs
          ((hmember axis).mp haxis).1,
        evaluate_requests hconfigured' rfl busRight nowNs (hright axis haxis),
        hsame.decision hbus hview nowNs hmember haxis]
    · intro axis haxis
      rw [evaluate_commands hconfigured rfl busLeft nowNs
          ((hmember axis).mp haxis).1,
        evaluate_commands hconfigured' rfl busRight nowNs (hright axis haxis),
        hsame.decision hbus hview nowNs hmember haxis,
        hsame.lastCommandSequence, hsame.lastCommandTimestampNs,
        hsame.commands]
    · intro axis haxis
      rw [evaluate_feedbackFlags hconfigured rfl busLeft nowNs
          ((hmember axis).mp haxis).1,
        evaluate_feedbackFlags hconfigured' rfl busRight nowNs
          (hright axis haxis)]
      exact (hsame.groupMarks_agreeOn hbus hview nowNs hmember axis
        ((hmember axis).mp haxis).2).2

end States

/-! ## Two runs -/

theorem SameStateOn.acceptCommands
    {member : Axis → Prop} {left right : SafetySupervisor D}
    (hsame : SameStateOn member left right)
    (snapshot : Snapshot (AxisCommand D)) (nowNs : ℤ) :
    SameStateOn member (left.acceptCommands snapshot nowNs).1
        (right.acceptCommands snapshot nowNs).1 ∧
      (left.acceptCommands snapshot nowNs).2 =
        (right.acceptCommands snapshot nowNs).2 := by
  have hvalid : left.validSnapshot snapshot nowNs =
      right.validSnapshot snapshot nowNs := by
    simp only [validSnapshot, hsame.configured, hsame.axisCount, hsame.axes]
  have hrepeat : left.sameCommands snapshot = right.sameCommands snapshot := by
    simp only [sameCommands, hsame.lastCommandTimestampNs, hsame.axes,
      hsame.commands]
  have hstored : SameStateOn member (left.storeCommands snapshot)
      (right.storeCommands snapshot) := by
    constructor <;> simp only [storeCommands, hsame.axisCount, hsame.commands]
    · exact hsame.options
    · exact hsame.configs
    · exact hsame.counter
    · exact hsame.configured
    · exact hsame.shutdownRequested
    · exact hsame.states
  have hrefused : SameStateOn member { left with commandsValid := false }
      { right with commandsValid := false } :=
    ⟨hsame.options, hsame.configs, hsame.commands, hsame.axisCount,
      hsame.counter, hsame.lastCommandSequence, hsame.lastCommandTimestampNs,
      hsame.configured, hsame.hasCommand, rfl, hsame.shutdownRequested,
      hsame.states⟩
  unfold SafetySupervisor.acceptCommands
  dsimp only
  revert hrefused
  generalize { left with commandsValid := false } = refusedLeft
  generalize { right with commandsValid := false } = refusedRight
  intro hrefused
  simp only [hvalid, hrepeat, hsame.hasCommand, hsame.lastCommandSequence,
    hsame.lastCommandTimestampNs]
  split
  · exact ⟨hrefused, rfl⟩
  · split
    · split
      · exact ⟨hrefused, rfl⟩
      · split
        · split
          · exact ⟨hsame, rfl⟩
          · exact ⟨hrefused, rfl⟩
        · exact ⟨hstored, rfl⟩
    · exact ⟨hstored, rfl⟩

/-- The configured axes in the safety group of `home`. -/
def SupervisorSetup.GroupOf (setup : SupervisorSetup D) (home axis : Axis) :
    Prop :=
  axis.val < setup.axes.length ∧ setup.SameSafetyGroup home axis

/-- One step keeps the group in agreement. -/
theorem SameStateOn.step
    {setup : SupervisorSetup D} {home : Axis}
    (hhome : home.val < setup.axes.length)
    {left right : SafetySupervisor D} (hleft : Configured setup left)
    (hsame : SameStateOn (setup.GroupOf home) left right)
    {callLeft callRight : SupervisorCall D}
    (hcall : SameCallOn (setup.GroupOf home) callLeft callRight) :
    SameStateOn (setup.GroupOf home) (supervisorMachine.step left callLeft).1
        (supervisorMachine.step right callRight).1 ∧
      SameAnswerOn (setup.GroupOf home)
        (supervisorMachine.step left callLeft).2
        (supervisorMachine.step right callRight).2 := by
  cases hcall with
  | acceptCommands snapshot nowNs =>
      obtain ⟨hnext, hanswer⟩ := hsame.acceptCommands snapshot nowNs
      refine ⟨hnext, ?_⟩
      simp only [supervisorMachine, hanswer]
      exact SameAnswerOn.acceptance _
  | requestShutdown nowNs =>
      refine ⟨?_, SameAnswerOn.shutdown⟩
      exact ⟨hsame.options, hsame.configs, hsame.commands, hsame.axisCount,
        hsame.counter, hsame.lastCommandSequence,
        hsame.lastCommandTimestampNs, hsame.configured, hsame.hasCommand,
        hsame.commandsValid, rfl, hsame.states⟩
  | evaluate nowNs hbus hview =>
      have hmember : ∀ axis, setup.GroupOf home axis ↔
          axis.val < left.axisCount ∧
            (left.configs axis).group =
              (setup.supervisor.configs home).group := by
        intro axis
        rw [hleft.axisCount, hleft.configs]
        constructor
        · rintro ⟨hin, hgroup⟩
          exact ⟨hin, ((setup.group_eq_iff hhome hin).mpr hgroup).symm⟩
        · rintro ⟨hin, hgroup⟩
          exact ⟨hin, (setup.group_eq_iff hhome hin).mp hgroup.symm⟩
      exact hsame.evaluate hbus hview nowNs hmember hleft.configured

/-- Process data and mask bits outside a safety group never reach the requests,
commands and feedback flags of its axes. -/
theorem group_noninterference
    (setup : SupervisorSetup D) (home : Axis)
    (hhome : home.val < setup.axes.length)
    (callsLeft callsRight : List (SupervisorCall D))
    (hcalls : List.Forall₂ (SameCallOn (setup.GroupOf home))
      callsLeft callsRight) :
    List.Forall₂
      (fun left right => SameAnswerOn (setup.GroupOf home)
        left.output right.output)
      (setup.run callsLeft) (setup.run callsRight) := by
  refine Machine.related_runs
    (fun left right => Configured setup left ∧
      SameStateOn (setup.GroupOf home) left right)
    (SameCallOn (setup.GroupOf home)) (SameAnswerOn (setup.GroupOf home))
    ?_ ?_ hcalls
  · rintro left right callLeft callRight ⟨hleft, hsame⟩ hcall
    obtain ⟨hnext, hanswer⟩ := hsame.step hhome hleft hcall
    exact ⟨⟨hleft.step callLeft, hnext⟩, hanswer⟩
  · refine ⟨setup.configured_after [], ?_⟩
    constructor <;> intros <;> rfl

/-- Two axes in different safety groups. -/
def twoAxisArm : SupervisorSetup ℚ where
  options := {}
  axes := [armAxis "shoulder", armAxis ""]
  accepted := by decide +kernel

theorem groupOf_twoAxisArm {axis : Axis} (haxis : twoAxisArm.GroupOf 0 axis) :
    axis = 0 := by
  obtain ⟨hin, hgroup⟩ := haxis
  rcases hgroup with heq | ⟨left, hleft, right, hright, hname, _⟩
  · exact heq.symm
  · have hindex : axis.val = 0 ∨ axis.val = 1 := by
      simp only [twoAxisArm, List.length_cons, List.length_nil] at hin
      omega
    rcases hindex with hzero | hone
    · exact Fin.ext hzero
    · rw [hone] at hright
      simp only [twoAxisArm, Fin.isValue, Fin.val_zero,
        List.getElem?_cons_zero, List.getElem?_cons_succ,
        Option.mem_some_iff] at hleft hright
      subst hleft hright
      simp [armAxis] at hname

/-- A fault and an external stop on the second axis leave the first alone. -/
theorem group_noninterference_twoAxisArm :
    List.Forall₂
      (fun left right => SameAnswerOn (twoAxisArm.GroupOf 0)
        left.output right.output)
      (twoAxisArm.run [
        .acceptCommands
          { armCommand 1 10 kAxisCommandEnable with axisCount := 2 } 10,
        .evaluate healthyBus (armView 0x0027 0) 20])
      (twoAxisArm.run [
        .acceptCommands
          { armCommand 1 10 kAxisCommandEnable with axisCount := 2 } 10,
        .evaluate { healthyBus with externalStopAxesMask := 2 }
          (fun axis => if axis = 0 then armView 0x0027 0 axis
            else armView 0x0008 100 axis) 20]) := by
  apply group_noninterference twoAxisArm 0 (by decide)
  refine .cons (.acceptCommands _ _) (.cons (.evaluate 20 ?_ ?_) .nil)
  · refine ⟨rfl, rfl, rfl, rfl, rfl, rfl, rfl, fun _ _ => rfl, ?_⟩
    intro axis haxis
    rw [groupOf_twoAxisArm haxis]
    decide
  · intro axis haxis
    rw [groupOf_twoAxisArm haxis]
    rfl

end PolicyRuntime
