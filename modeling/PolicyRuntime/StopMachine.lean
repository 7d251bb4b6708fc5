import PolicyRuntime.GroupPropagation

/-!
# The stop machine of one axis

What `evaluate` does to the phase of an axis is described by a small abstract
machine: a latch which is entered by a trigger, left only by a newer enable
command, and passed over by a permitted fault reset.  The main theorem of this
file is that every evaluation performs exactly one step of that machine on
every configured axis.
-/

namespace PolicyRuntime

/-- The part of an axis state which the stop path is about. -/
structure StopLatch where
  phase : StopPhase
  startedNs : ℤ
  zeroCycles : UInt32
  sequence : ℕ
  deriving DecidableEq

def AxisSafetyState.stopLatch {D : Type} (state : AxisSafetyState D) :
    StopLatch where
  phase := state.phase
  startedNs := state.stopStartedNs
  zeroCycles := state.zeroVelocityCycles
  sequence := state.stoppedCommandSequence

open SafetySupervisor in
/-- The standstill counter after one quick-stop cycle. -/
def StopLatch.countedCycles (options : SafetyOptions) (inputs : AxisInputs)
    (latch : StopLatch) : UInt32 :=
  if |inputs.actualVelocity| ≤ options.zeroVelocityThresholdCounts then
    latch.zeroCycles + 1
  else
    0

def StopLatch.TimedOut (options : SafetyOptions) (nowNs : ℤ)
    (latch : StopLatch) : Prop :=
  latch.startedNs ≤ nowNs ∧ options.safeStopTimeout ≤ nowNs - latch.startedNs

open SafetySupervisor in
/-- One evaluation of one axis, seen from its stop latch. -/
inductive StopStep (options : SafetyOptions) (inputs : AxisInputs)
    (latch next : StopLatch) (request : AxisRequest) : Prop
  | enter
      (htrigger : inputs.trigger = true)
      (hphase : latch.phase = .running)
      (hnext : next =
        ⟨.quickStop, inputs.nowNs, 0, inputs.lastCommandSequence⟩)
      (hrequest : request = .quickStop)
  | reset
      (htrigger : inputs.trigger = false)
      (hdrive : inputs.drive = .fault)
      (hrequested : inputs.requested = .faultReset)
      (hnext : next = latch)
      (hrequest : request = .faultReset)
  | brake
      (hphase : latch.phase = .quickStop)
      (hcycles : latch.countedCycles options inputs <
        options.zeroVelocityConfirmationCycles)
      (htime : ¬ latch.TimedOut options inputs.nowNs)
      (hnext : next =
        { latch with zeroCycles := latch.countedCycles options inputs })
      (hrequest : request = .quickStop)
  | standstill
      (hphase : latch.phase = .quickStop)
      (hconfirmed :
        options.zeroVelocityConfirmationCycles ≤
            latch.countedCycles options inputs ∨
          latch.TimedOut options inputs.nowNs)
      (hnext : next =
        { latch with
          phase := .disabled
          zeroCycles := latch.countedCycles options inputs })
      (hrequest : request = .disable)
  | hold
      (hphase : latch.phase = .disabled)
      (hnext : next = latch)
      (hrequest : request = .disable)
  | rearm
      (htrigger : inputs.trigger = false)
      (hphase : latch.phase = .disabled)
      (hcommand : inputs.hasCommand = true)
      (hnewer : latch.sequence < inputs.lastCommandSequence)
      (hrequested : inputs.requested = .enable)
      (hnext : next = { latch with phase := .running })
      (hrequest : request = .enable)
  | pass
      (htrigger : inputs.trigger = false)
      (hphase : latch.phase = .running)
      (hnext : next = latch)
      (hrequest : request = .enable ∧ inputs.requested = .enable ∨
        request = .disable)

open SafetySupervisor in
/-- With a stop reason an axis only brakes, comes to rest or rests. -/
theorem StopStep.of_trigger
    {options : SafetyOptions} {inputs : AxisInputs}
    {latch next : StopLatch} {request : AxisRequest}
    (hstep : StopStep options inputs latch next request)
    (htrigger : inputs.trigger = true) :
    (latch.phase = .running ∧ next.phase = .quickStop ∧
        request = .quickStop) ∨
      (latch.phase = .quickStop ∧ ¬ latch.TimedOut options inputs.nowNs ∧
        next.phase = .quickStop ∧ request = .quickStop) ∨
      (latch.phase ≠ .running ∧ next.phase = .disabled ∧
        request = .disable) := by
  cases hstep with
  | enter _ hphase hnext hrequest =>
      left
      rw [hnext]
      exact ⟨hphase, rfl, hrequest⟩
  | brake hphase _ htime hnext hrequest =>
      right
      left
      rw [hnext]
      exact ⟨hphase, htime, hphase, hrequest⟩
  | standstill hphase _ hnext hrequest =>
      right
      right
      rw [hnext, hphase]
      exact ⟨by decide, rfl, hrequest⟩
  | hold hphase hnext hrequest =>
      right
      right
      rw [hnext, hphase]
      exact ⟨by decide, rfl, hrequest⟩
  | reset hquiet _ _ _ _ =>
      rw [htrigger] at hquiet
      contradiction
  | rearm hquiet _ _ _ _ _ _ =>
      rw [htrigger] at hquiet
      contradiction
  | pass hquiet _ _ _ =>
      rw [htrigger] at hquiet
      contradiction

namespace SafetySupervisor

variable {D : Type} [FloatingPoint D]

/-! ## Reasons and triggers -/

theorem raiseFlag_eq_zero_iff {condition : Bool} {flag flags : BitVec 32}
    (hflag : flag ≠ 0) :
    raiseFlag condition flag flags = 0 ↔ condition = false ∧ flags = 0 := by
  cases condition with
  | false => simp [raiseFlag]
  | true =>
      have hor : flags ||| flag = 0 ↔ flags = 0 ∧ flag = 0 :=
        BitVec.or_eq_zero_iff
      simp only [raiseFlag, if_true, hor, Bool.true_eq_false, false_and,
        iff_false, not_and]
      exact fun _ => hflag

theorem safetyFlags_ne_zero :
    kAxisFeedbackSafetyTimeout ≠ 0 ∧ kAxisFeedbackSafetyWkc ≠ 0 ∧
    kAxisFeedbackSafetyLink ≠ 0 ∧ kAxisFeedbackSafetySlave ≠ 0 ∧
    kAxisFeedbackSafetyModeMismatch ≠ 0 ∧
    kAxisFeedbackSafetyFollowingError ≠ 0 ∧
    kAxisFeedbackSafetyInvalidCommand ≠ 0 ∧
    kAxisFeedbackSafetyFaultResetLimit ≠ 0 ∧
    kAxisFeedbackSafetyGroup ≠ 0 ∧ kAxisFeedbackSafetyShutdown ≠ 0 ∧
    kAxisFeedbackSafetyProcessData ≠ 0 ∧
    kAxisFeedbackSafetyDriveFault ≠ 0 ∧
    kAxisFeedbackSafetySerial ≠ 0 := by
  decide

/-- No stop reason of its own applies to the axis. -/
structure NoOwnReason (supervisor : SafetySupervisor D) (bus : SafetyBusState)
    (pdos : PdoSpan) (nowNs : ℤ) (axis : Axis) : Prop where
  timely : supervisor.commandTimedOut axis nowNs = false
  commandsValid : supervisor.commandsValid = true
  notExternal : externalStop bus axis = false
  linkUp : bus.linkUp = true
  wkc : countWkcFailures supervisor.consecutiveWkcFailures bus <
    supervisor.options.consecutiveWkcLimit
  processData : invalidProcessData bus = false
  operational : axisOperational bus axis = true
  mode : (pdos.view axis).modeDisplay = (supervisor.configs axis).mode.value
  following : (evaluateTarget (supervisor.configs axis)
    (supervisor.states axis) (supervisor.commands axis)
    (pdos.view axis)).1.followingError = false
  drive : driveFault
      (Cia402StateMachine.decode (pdos.view axis).statusWord) = true →
    Cia402StateMachine.decode (pdos.view axis).statusWord = .fault ∧
      supervisor.requested axis = .faultReset ∧
      resetBudgetAvailable supervisor.options
        (supervisor.assess bus pdos nowNs axis).state
        (Cia402StateMachine.decode (pdos.view axis).statusWord)
        (supervisor.requested axis) = true
  running : supervisor.shutdownRequested = false

theorem assess_reasons_eq_zero_iff
    (supervisor : SafetySupervisor D) (bus : SafetyBusState)
    (pdos : PdoSpan) (nowNs : ℤ) (axis : Axis) :
    (supervisor.assess bus pdos nowNs axis).reasons = 0 ↔
      supervisor.NoOwnReason bus pdos nowNs axis := by
  obtain ⟨hTimeout, hWkc, hLink, hSlave, hMode, hFollowing, hInvalid, hLimit,
    _, hShutdown, hData, hFault, hSerial⟩ := safetyFlags_ne_zero
  simp only [assess, raiseFlag_eq_zero_iff hTimeout,
    raiseFlag_eq_zero_iff hWkc, raiseFlag_eq_zero_iff hLink,
    raiseFlag_eq_zero_iff hSlave, raiseFlag_eq_zero_iff hMode,
    raiseFlag_eq_zero_iff hFollowing, raiseFlag_eq_zero_iff hInvalid,
    raiseFlag_eq_zero_iff hLimit, raiseFlag_eq_zero_iff hShutdown,
    raiseFlag_eq_zero_iff hData, raiseFlag_eq_zero_iff hFault,
    raiseFlag_eq_zero_iff hSerial]
  constructor
  · intro h
    obtain ⟨hshutdown, _, hfault, hfollowing, hmode, hslave, hdata, hwkc,
      hlink, hserial, hinvalid, htimeout, _⟩ := h
    refine ⟨htimeout, by simpa using hinvalid, hserial, by simpa using hlink,
      by simpa using hwkc, hdata, by simpa using hslave, by simpa using hmode,
      hfollowing, ?_, hshutdown⟩
    intro hdrive
    simpa [assess, hdrive, and_assoc] using hfault
  · intro h
    refine ⟨h.running, ?_, ?_, h.following, by simp [h.mode],
      by simp [h.operational], h.processData, by simpa using h.wkc,
      by simp [h.linkUp], h.notExternal, by simp [h.commandsValid],
      h.timely, rfl⟩
    · by_cases hdrive : driveFault
          (Cia402StateMachine.decode (pdos.view axis).statusWord) = true
      · have hbudget := (h.drive hdrive).2.2
        simp only [assess] at hbudget
        simp [hbudget]
      · simp [hdrive]
    · by_cases hdrive : driveFault
          (Cia402StateMachine.decode (pdos.view axis).statusWord) = true
      · obtain ⟨hstate, hrequest, hbudget⟩ := h.drive hdrive
        simp only [assess] at hbudget
        rw [hstate, hrequest] at hbudget
        simp [hstate, hrequest, hbudget]
      · simp [hdrive]

theorem assess_trigger
    (supervisor : SafetySupervisor D) (bus : SafetyBusState)
    (pdos : PdoSpan) (nowNs : ℤ) (axis : Axis) :
    (supervisor.assess bus pdos nowNs axis).trigger = false ↔
      supervisor.requested axis ≠ .quickStop ∧
        (supervisor.assess bus pdos nowNs axis).reasons = 0 := by
  have hdef : (supervisor.assess bus pdos nowNs axis).trigger =
      (supervisor.requested axis == .quickStop ||
        (supervisor.assess bus pdos nowNs axis).reasons != 0) := rfl
  rw [hdef]
  simp

theorem assess_faultResetCandidate
    (supervisor : SafetySupervisor D) (bus : SafetyBusState)
    (pdos : PdoSpan) (nowNs : ℤ) (axis : Axis) :
    (supervisor.assess bus pdos nowNs axis).faultResetCandidate = true ↔
      Cia402StateMachine.decode (pdos.view axis).statusWord = .fault ∧
        supervisor.requested axis = .faultReset ∧
        (supervisor.assess bus pdos nowNs axis).reasons = 0 := by
  have hdef : (supervisor.assess bus pdos nowNs axis).faultResetCandidate =
      (Cia402StateMachine.decode (pdos.view axis).statusWord == .fault &&
        supervisor.requested axis == .faultReset &&
        resetBudgetAvailable supervisor.options
          (supervisor.assess bus pdos nowNs axis).state
          (Cia402StateMachine.decode (pdos.view axis).statusWord)
          (supervisor.requested axis) &&
        (supervisor.assess bus pdos nowNs axis).reasons == 0) := rfl
  rw [hdef]
  simp only [Bool.and_eq_true, beq_iff_eq]
  constructor
  · rintro ⟨⟨⟨hdrive, hrequest⟩, _⟩, hreasons⟩
    exact ⟨hdrive, hrequest, hreasons⟩
  · rintro ⟨hdrive, hrequest, hreasons⟩
    have hnone :=
      (supervisor.assess_reasons_eq_zero_iff bus pdos nowNs axis).mp hreasons
    have hbudget := (hnone.drive (by simp [driveFault, hdrive])).2.2
    exact ⟨⟨⟨hdrive, hrequest⟩, hbudget⟩, hreasons⟩

/-! ## Marks after propagation -/

/-- The marks with which propagation starts. -/
def ownMarks (supervisor : SafetySupervisor D) (bus : SafetyBusState)
    (pdos : PdoSpan) (nowNs : ℤ) : GroupMarks where
  triggers := fun axis => decide (axis.val < supervisor.axisCount) &&
    (supervisor.assess bus pdos nowNs axis).trigger
  reasons := fun axis => if decide (axis.val < supervisor.axisCount) then
    (supervisor.assess bus pdos nowNs axis).reasons else 0

/-- The axes which may send a reset pulse in this evaluation. -/
def resetCandidates (supervisor : SafetySupervisor D) (bus : SafetyBusState)
    (pdos : PdoSpan) (nowNs : ℤ) (axis : Axis) : Bool :=
  decide (axis.val < supervisor.axisCount) &&
    (supervisor.assess bus pdos nowNs axis).faultResetCandidate

theorem groupMarks_eq
    (supervisor : SafetySupervisor D) (bus : SafetyBusState)
    (pdos : PdoSpan) (nowNs : ℤ) :
    supervisor.groupMarks bus pdos nowNs =
      supervisor.propagateResets (supervisor.resetCandidates bus pdos nowNs)
        (supervisor.propagateTriggers
          (supervisor.ownMarks bus pdos nowNs)) := rfl

theorem groupMarks_extends
    (supervisor : SafetySupervisor D) (bus : SafetyBusState)
    (pdos : PdoSpan) (nowNs : ℤ) :
    (supervisor.ownMarks bus pdos nowNs).Extends
      (supervisor.groupMarks bus pdos nowNs) := by
  rw [groupMarks_eq]
  exact (supervisor.propagateTriggers_extends _).trans
    (supervisor.propagateResets_extends _ _)

section Marks

variable {supervisor : SafetySupervisor D} {bus : SafetyBusState}
  {pdos : PdoSpan} {nowNs : ℤ} {axis : Axis}

theorem groupMarks_reasons_of_not_trigger
    (haxis : axis.val < supervisor.axisCount)
    (hquiet : (supervisor.groupMarks bus pdos nowNs).triggers axis = false) :
    (supervisor.assess bus pdos nowNs axis).trigger = false ∧
      (supervisor.groupMarks bus pdos nowNs).reasons axis = 0 := by
  obtain ⟨hown, hreasons⟩ :=
    (supervisor.groupMarks_extends bus pdos nowNs).reasons_of_not_trigger
      hquiet
  have htrigger : (supervisor.assess bus pdos nowNs axis).trigger = false := by
    simpa [ownMarks, haxis] using hown
  refine ⟨htrigger, ?_⟩
  rw [hreasons]
  simpa [ownMarks, haxis] using
    ((supervisor.assess_trigger bus pdos nowNs axis).mp htrigger).2

/-- An axis with a stop reason of its own is triggered. -/
theorem groupMarks_trigger_of_reason
    (haxis : axis.val < supervisor.axisCount)
    (hreason : ¬ supervisor.NoOwnReason bus pdos nowNs axis) :
    (supervisor.groupMarks bus pdos nowNs).triggers axis = true := by
  by_contra hquiet
  rw [Bool.not_eq_true] at hquiet
  obtain ⟨htrigger, _⟩ := groupMarks_reasons_of_not_trigger haxis hquiet
  have hreasons := ((supervisor.assess_trigger bus pdos nowNs axis).mp
    htrigger).2
  exact hreason
    ((supervisor.assess_reasons_eq_zero_iff bus pdos nowNs axis).mp hreasons)

/-- A stop cause reports a reason, except for a commanded quick stop. -/
theorem groupMarks_trigger_iff
    (haxis : axis.val < supervisor.axisCount) :
    (supervisor.groupMarks bus pdos nowNs).triggers axis = true ↔
      (supervisor.groupMarks bus pdos nowNs).reasons axis ≠ 0 ∨
        supervisor.requested axis = .quickStop := by
  constructor
  · intro htrigger
    by_cases hrequest : supervisor.requested axis = .quickStop
    · exact .inr hrequest
    · left
      rcases supervisor.groupMarks_extends bus pdos nowNs axis with
        ⟨hown, hreasons⟩ | ⟨_, hreasons⟩
      · rw [hreasons]
        have hassessed :
            (supervisor.assess bus pdos nowNs axis).trigger = true := by
          simpa [ownMarks, haxis, htrigger] using hown
        intro hzero
        have hquiet := (supervisor.assess_trigger bus pdos nowNs axis).mpr
          ⟨hrequest, by simpa [ownMarks, haxis] using hzero⟩
        rw [hassessed] at hquiet
        contradiction
      · rw [hreasons]
        intro hzero
        have hgroup := (BitVec.or_eq_zero_iff.mp hzero).2
        exact absurd hgroup (by decide)
  · intro hcause
    by_contra hquiet
    rw [Bool.not_eq_true] at hquiet
    obtain ⟨htrigger, hzero⟩ := groupMarks_reasons_of_not_trigger haxis hquiet
    rcases hcause with hreasons | hrequest
    · exact hreasons hzero
    · exact ((supervisor.assess_trigger bus pdos nowNs axis).mp
        htrigger).1 hrequest

/-- An axis is quiet only if its whole group is. -/
theorem peer_quiet_of_not_trigger
    (haxis : axis.val < supervisor.axisCount)
    (hquiet : (supervisor.groupMarks bus pdos nowNs).triggers axis = false)
    {peer : Axis} (hpeer : peer.val < supervisor.axisCount)
    (hgroup : (supervisor.configs axis).group =
      (supervisor.configs peer).group) :
    (supervisor.assess bus pdos nowNs peer).trigger = false ∧
      ((supervisor.assess bus pdos nowNs peer).faultResetCandidate = true →
        (supervisor.assess bus pdos nowNs axis).faultResetCandidate =
          true) := by
  have hsame : supervisor.sameGroup axis peer = true :=
    (supervisor.sameGroup_iff axis peer).mpr hgroup
  rw [groupMarks_eq] at hquiet
  constructor
  · by_contra htrigger
    rw [Bool.not_eq_false] at htrigger
    have hown : (supervisor.ownMarks bus pdos nowNs).triggers peer = true := by
      simp [ownMarks, hpeer, htrigger]
    have hreached := propagateTriggers_reaches hpeer haxis hown hsame
    have hkept := (supervisor.propagateResets_extends
      (supervisor.resetCandidates bus pdos nowNs) _).trigger hreached
    rw [hquiet] at hkept
    contradiction
  · intro hcandidate
    by_contra hnot
    rw [Bool.not_eq_true] at hnot
    have hsource : supervisor.resetCandidates bus pdos nowNs peer = true := by
      simp [resetCandidates, hpeer, hcandidate]
    have hother : supervisor.resetCandidates bus pdos nowNs axis = false := by
      simp [resetCandidates, hnot]
    have hreached := propagateResets_reaches
      (supervisor.propagateTriggers (supervisor.ownMarks bus pdos nowNs))
      hpeer haxis hsource hother hsame
    rw [hquiet] at hreached
    contradiction

/-- A group without triggers and resets reports no reasons. -/
theorem groupMarks_reasons_of_quiet_group
    (haxis : axis.val < supervisor.axisCount)
    (hquiet : ∀ peer : Axis, peer.val < supervisor.axisCount →
      (supervisor.configs peer).group = (supervisor.configs axis).group →
      (supervisor.assess bus pdos nowNs peer).trigger = false ∧
        (supervisor.assess bus pdos nowNs peer).faultResetCandidate =
          false) :
    (supervisor.groupMarks bus pdos nowNs).reasons axis = 0 := by
  have hown : ∀ peer, (supervisor.configs peer).group =
      (supervisor.configs axis).group →
      (supervisor.ownMarks bus pdos nowNs).triggers peer = false := by
    intro peer hgroup
    by_cases hpeer : peer.val < supervisor.axisCount
    · simp [ownMarks, (hquiet peer hpeer hgroup).1]
    · simp [ownMarks, hpeer]
  have hcandidates : ∀ peer, (supervisor.configs peer).group =
      (supervisor.configs axis).group →
      supervisor.resetCandidates bus pdos nowNs peer = false := by
    intro peer hgroup
    by_cases hpeer : peer.val < supervisor.axisCount
    · simp [resetCandidates, (hquiet peer hpeer hgroup).2]
    · simp [resetCandidates, hpeer]
  rw [groupMarks_eq, (propagateResets_of_quiet _ hcandidates rfl).2,
    (propagateTriggers_of_quiet hown rfl).2]
  have hzero := ((supervisor.assess_trigger bus pdos nowNs axis).mp
    (hquiet axis haxis rfl).1).2
  simpa [ownMarks, haxis] using hzero

end Marks

/-! ## One decision is one step of the stop machine -/

/-- Triggers and reasons of the inputs fit together. -/
def AxisInputs.Coherent (inputs : AxisInputs) : Prop :=
  inputs.trigger = true ↔
    inputs.reasons ≠ 0 ∨ inputs.requested = .quickStop

omit [FloatingPoint D] in
theorem AxisInputs.Coherent.not_trigger_of_allowed
    {inputs : AxisInputs} (hcoherent : inputs.Coherent)
    {options : SafetyOptions} {state : AxisSafetyState D}
    (hallowed : faultResetAllowed options inputs state = true) :
    inputs.trigger = false ∧ inputs.drive = .fault ∧
      inputs.requested = .faultReset := by
  simp only [faultResetAllowed, Bool.and_eq_true, beq_iff_eq] at hallowed
  obtain ⟨⟨⟨hdrive, hrequested⟩, hreasons⟩, _⟩ := hallowed
  refine ⟨?_, hdrive, hrequested⟩
  by_contra htrigger
  rw [Bool.not_eq_false] at htrigger
  rcases hcoherent.mp htrigger with hne | hquick
  · exact hne hreasons
  · rw [hrequested] at hquick
    contradiction

omit [FloatingPoint D] in
/-- A quick stop under way brakes on or comes to its standstill. -/
theorem continueQuickStop_stopStep
    (options : SafetyOptions) (inputs : AxisInputs)
    (state : AxisSafetyState D) (hphase : state.phase = .quickStop) :
    StopStep options inputs state.stopLatch
      (continueQuickStop options inputs state).1.stopLatch
      (continueQuickStop options inputs state).2 := by
  by_cases hstop :
      options.zeroVelocityConfirmationCycles ≤
          state.stopLatch.countedCycles options inputs ∨
        state.stopLatch.TimedOut options inputs.nowNs
  · have hdecision : continueQuickStop options inputs state =
        ({ state with
            phase := .disabled
            zeroVelocityCycles := state.stopLatch.countedCycles options inputs },
          .disable) := if_pos hstop
    rw [hdecision]
    exact .standstill hphase hstop rfl rfl
  · have hdecision : continueQuickStop options inputs state =
        ({ state with
            zeroVelocityCycles := state.stopLatch.countedCycles options inputs },
          .quickStop) := if_neg hstop
    rw [hdecision]
    rw [not_or] at hstop
    exact .brake hphase (UInt32.not_le.mp hstop.1) hstop.2 rfl rfl

omit [FloatingPoint D] in
theorem proceed_stopStep
    (options : SafetyOptions) {inputs : AxisInputs}
    (state : AxisSafetyState D)
    (hrunning : state.phase = .running →
      inputs.trigger = false ∧ inputs.requested ≠ .quickStop) :
    StopStep options inputs state.stopLatch
      (proceed options inputs false state).1.stopLatch
      (proceed options inputs false state).2 := by
  cases hphase : state.phase with
  | running =>
      obtain ⟨htrigger, hnot⟩ := hrunning hphase
      cases hrequested : inputs.requested with
      | disable =>
          simp only [proceed, hphase, hrequested, reduceCtorEq, if_false]
          exact .pass htrigger hphase rfl (.inr rfl)
      | enable =>
          simp only [proceed, hphase, hrequested, reduceCtorEq, if_false]
          exact .pass htrigger hphase rfl (.inl ⟨rfl, hrequested⟩)
      | quickStop => exact absurd hrequested hnot
      | faultReset =>
          simp only [proceed, hphase, hrequested, if_true]
          exact .pass htrigger hphase rfl (.inr rfl)
  | quickStop =>
      simp only [proceed, hphase, Bool.false_eq_true, if_false]
      exact continueQuickStop_stopStep options inputs state hphase
  | disabled =>
      simp only [proceed, hphase]
      exact .hold hphase rfl rfl

omit [FloatingPoint D] in
theorem enterQuickStop_of_not_enters
    {inputs : AxisInputs} {state : AxisSafetyState D}
    (henters : entersQuickStop inputs state = false) :
    enterQuickStop inputs state = state := by
  simp [enterQuickStop, henters]

omit [FloatingPoint D] in
theorem rearm_of_trigger
    {inputs : AxisInputs} (htrigger : inputs.trigger = true)
    (state : AxisSafetyState D) : rearm inputs state = state := by
  simp [rearm, htrigger]

omit [FloatingPoint D] in
theorem decideAxis_stopStep
    (options : SafetyOptions) {inputs : AxisInputs}
    (hcoherent : inputs.Coherent) (state : AxisSafetyState D) :
    StopStep options inputs state.stopLatch
      (decideAxis options inputs state).1.stopLatch
      (decideAxis options inputs state).2 := by
  unfold decideAxis
  by_cases hallowed : faultResetAllowed options inputs state = true
  · obtain ⟨htrigger, hdrive, hrequested⟩ :=
      hcoherent.not_trigger_of_allowed hallowed
    have hstay : rearm inputs (enterQuickStop inputs state) = state := by
      simp [rearm, enterQuickStop, entersQuickStop, htrigger, hrequested]
    simp only [hallowed, if_true, hstay]
    exact .reset htrigger hdrive hrequested rfl rfl
  · simp only [hallowed, Bool.false_eq_true, if_false]
    cases henters : entersQuickStop inputs state with
    | true =>
        have hcause : inputs.trigger = true ∧ state.phase = .running := by
          simpa [entersQuickStop] using henters
        rw [rearm_of_trigger hcause.1]
        simp only [enterQuickStop, henters, if_true, proceed]
        exact .enter hcause.1 hcause.2 rfl rfl
    | false =>
        rw [enterQuickStop_of_not_enters henters]
        have hquiet : inputs.trigger = true → state.phase ≠ .running := by
          intro htrigger
          simpa [entersQuickStop, htrigger] using henters
        by_cases hrearm : rearm inputs state = state
        · rw [hrearm]
          refine proceed_stopStep options
            { state with faultResetOutputActive := false } ?_
          intro hphase
          have htrigger : inputs.trigger = false := by
            by_contra htrue
            rw [Bool.not_eq_false] at htrue
            exact hquiet htrue hphase
          refine ⟨htrigger, ?_⟩
          intro hquick
          have htrue := hcoherent.mpr (.inr hquick)
          rw [htrigger] at htrue
          contradiction
        · have hguard : ((((inputs.trigger = false ∧
              state.phase = .disabled) ∧ inputs.hasCommand = true) ∧
              state.stoppedCommandSequence < inputs.lastCommandSequence) ∧
              inputs.requested = .enable) := by
            by_contra hnot
            apply hrearm
            unfold rearm
            rw [if_neg]
            simpa using hnot
          obtain ⟨⟨⟨⟨htrigger, hphase⟩, hcommand⟩, hnewer⟩, hrequested⟩ :=
            hguard
          have hafter : rearm inputs state =
              { state with phase := .running } := by
            simp [rearm, htrigger, hphase, hcommand, hnewer, hrequested]
          simp only [hafter, proceed, hrequested, reduceCtorEq, if_false]
          exact .rearm htrigger hphase hcommand hnewer hrequested rfl rfl

/-! ## One evaluation is one step of every axis -/

@[simp] theorem evaluateTarget_stopLatch
    (config : AxisSafetyConfig D) (state : AxisSafetyState D)
    (command : AxisCommand D) (pdo : Cia402PdoView) :
    (evaluateTarget config state command pdo).2.stopLatch =
      state.stopLatch := by
  unfold evaluateTarget
  dsimp only
  split <;> split <;> rfl

omit [FloatingPoint D] in
@[simp] theorem trackFaultEpisode_stopLatch
    (clear : Bool) (state : AxisSafetyState D) :
    (trackFaultEpisode clear state).stopLatch = state.stopLatch := by
  unfold trackFaultEpisode
  split
  · rfl
  · split <;> rfl

@[simp] theorem assess_stopLatch
    (supervisor : SafetySupervisor D) (bus : SafetyBusState)
    (pdos : PdoSpan) (nowNs : ℤ) (axis : Axis) :
    (supervisor.assess bus pdos nowNs axis).state.stopLatch =
      (supervisor.states axis).stopLatch := by
  simp [assess]

theorem axisInputs_coherent
    {supervisor : SafetySupervisor D} (bus : SafetyBusState)
    (pdos : PdoSpan) (nowNs : ℤ) {axis : Axis}
    (haxis : axis.val < supervisor.axisCount) :
    (supervisor.axisInputs bus pdos nowNs axis).Coherent :=
  groupMarks_trigger_iff haxis

section Evaluate

variable {supervisor : SafetySupervisor D} {pdos : PdoSpan}
  (hconfigured : supervisor.configured = true)
  (hsize : pdos.size = supervisor.axisCount)
  (bus : SafetyBusState) (nowNs : ℤ)

include hconfigured hsize

theorem evaluate_requests {axis : Axis}
    (haxis : axis.val < supervisor.axisCount) :
    (supervisor.evaluate bus pdos nowNs).2.requests axis =
      (supervisor.decision bus pdos nowNs axis).2 := by
  simp [evaluate, hconfigured, hsize, haxis]

theorem evaluate_states {axis : Axis}
    (haxis : axis.val < supervisor.axisCount) :
    (supervisor.evaluate bus pdos nowNs).1.states axis =
      { (supervisor.decision bus pdos nowNs axis).1 with
        lastTarget :=
          if (supervisor.decision bus pdos nowNs axis).2 = .enable then
            (supervisor.assess bus pdos nowNs axis).target.staged
          else
            (supervisor.assess bus pdos nowNs axis).target.actual } := by
  simp [evaluate, hconfigured, hsize, haxis]

theorem evaluate_commands {axis : Axis}
    (haxis : axis.val < supervisor.axisCount) :
    (supervisor.evaluate bus pdos nowNs).2.commands axis =
      { sequence := supervisor.lastCommandSequence
        timestampNs := supervisor.lastCommandTimestampNs
        target := (supervisor.commands axis).target
        flags := flagsForRequest (supervisor.decision bus pdos nowNs axis).2
        reserved := 0 } := by
  simp [evaluate, hconfigured, hsize, haxis]

theorem evaluate_feedbackFlags {axis : Axis}
    (haxis : axis.val < supervisor.axisCount) :
    (supervisor.evaluate bus pdos nowNs).2.feedbackFlags axis =
      (supervisor.groupMarks bus pdos nowNs).reasons axis := by
  simp [evaluate, hconfigured, hsize, haxis]

theorem evaluate_shutdownComplete :
    (supervisor.evaluate bus pdos nowNs).2.shutdownComplete = true ↔
      supervisor.shutdownRequested = true ∧
        ∀ axis : Axis, axis.val < supervisor.axisCount →
          (supervisor.evaluate bus pdos nowNs).2.requests axis = .disable := by
  have hcomplete :
      (supervisor.evaluate bus pdos nowNs).2.shutdownComplete =
        (supervisor.shutdownRequested &&
          supervisor.axes.all fun axis =>
            (supervisor.decision bus pdos nowNs axis).2 == .disable) := by
    simp [evaluate, hconfigured, hsize]
  rw [hcomplete, Bool.and_eq_true, List.all_eq_true]
  refine and_congr_right fun _ => forall_congr' fun axis => ?_
  rw [mem_axes]
  refine imp_congr_right fun haxis => ?_
  rw [evaluate_requests hconfigured hsize bus nowNs haxis, beq_iff_eq]

theorem evaluate_wkcFailures :
    (supervisor.evaluate bus pdos nowNs).1.consecutiveWkcFailures =
      countWkcFailures supervisor.consecutiveWkcFailures bus := by
  simp [evaluate, hconfigured, hsize]

/-- Every evaluation is one step of the stop machine on every axis. -/
theorem evaluate_stopStep {axis : Axis}
    (haxis : axis.val < supervisor.axisCount) :
    StopStep supervisor.options (supervisor.axisInputs bus pdos nowNs axis)
      (supervisor.states axis).stopLatch
      ((supervisor.evaluate bus pdos nowNs).1.states axis).stopLatch
      ((supervisor.evaluate bus pdos nowNs).2.requests axis) := by
  rw [evaluate_requests hconfigured hsize bus nowNs haxis,
    evaluate_states hconfigured hsize bus nowNs haxis]
  have hstep := decideAxis_stopStep supervisor.options
    (axisInputs_coherent bus pdos nowNs haxis)
    (supervisor.assess bus pdos nowNs axis).state
  rw [assess_stopLatch] at hstep
  exact hstep

end Evaluate

/-! ## What an evaluation leaves alone -/

/-- The fields which only `configure` and `acceptCommands` write. -/
structure SameCommands (supervisor next : SafetySupervisor D) : Prop where
  options : next.options = supervisor.options
  configs : next.configs = supervisor.configs
  axisCount : next.axisCount = supervisor.axisCount
  configured : next.configured = supervisor.configured
  commands : next.commands = supervisor.commands
  lastCommandSequence :
    next.lastCommandSequence = supervisor.lastCommandSequence
  lastCommandTimestampNs :
    next.lastCommandTimestampNs = supervisor.lastCommandTimestampNs
  hasCommand : next.hasCommand = supervisor.hasCommand
  commandsValid : next.commandsValid = supervisor.commandsValid

omit [FloatingPoint D] in
theorem SameCommands.refl (supervisor : SafetySupervisor D) :
    supervisor.SameCommands supervisor :=
  ⟨rfl, rfl, rfl, rfl, rfl, rfl, rfl, rfl, rfl⟩

theorem evaluate_sameCommands
    (supervisor : SafetySupervisor D) (bus : SafetyBusState)
    (pdos : PdoSpan) (nowNs : ℤ) :
    supervisor.SameCommands (supervisor.evaluate bus pdos nowNs).1 := by
  unfold evaluate
  split <;> constructor <;> rfl

theorem evaluate_shutdownRequested
    (supervisor : SafetySupervisor D) (bus : SafetyBusState)
    (pdos : PdoSpan) (nowNs : ℤ) :
    (supervisor.evaluate bus pdos nowNs).1.shutdownRequested =
      supervisor.shutdownRequested := by
  unfold evaluate
  split <;> rfl

end SafetySupervisor
end PolicyRuntime
