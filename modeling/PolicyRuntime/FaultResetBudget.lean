import PolicyRuntime.DeviceCycle
import PolicyRuntime.Sequences

/-!
# The fault-reset budget

The supervisor keeps a ledger of the reset edges of a fault episode, and every
axis device a latch which remembers a reset request.  One cycle is one entry of
the ledger; as long as the unit conversions stay in range, ledger and latch see
the same edges, and the budget of the ledger bounds the resets on the wire.
-/

namespace PolicyRuntime

open SafetySupervisor

/-- The part of an axis state which accounts for fault resets. -/
structure ResetLedger where
  episode : Bool
  edges : UInt32
  active : Bool
  deriving DecidableEq

def AxisSafetyState.resetLedger {D : Type} (state : AxisSafetyState D) :
    ResetLedger where
  episode := state.faultEpisodeActive
  edges := state.faultResetEdges
  active := state.faultResetOutputActive

/-- The ledger at the start of an evaluation. -/
def ResetLedger.track (clear : Bool) (ledger : ResetLedger) : ResetLedger :=
  if clear then ⟨false, 0, false⟩
  else if !ledger.episode then ⟨true, 0, false⟩
  else ledger

/-- One evaluation of one axis, seen from its ledger. -/
structure ResetStep (maximum : UInt32) (drive : DriveState) (clear : Bool)
    (ledger next : ResetLedger) (request : AxisRequest) : Prop where
  episode : next.episode = (ledger.track clear).episode
  active : next.active = (request == .faultReset)
  edges : next.edges =
    if request = .faultReset ∧ (ledger.track clear).active = false then
      (ledger.track clear).edges + 1
    else
      (ledger.track clear).edges
  drive : request = .faultReset → drive = .fault
  budget : request = .faultReset → (ledger.track clear).active = false →
    (ledger.track clear).edges < maximum

variable {D : Type}

/-! ## One decision is one entry of the ledger -/

namespace SafetySupervisor

@[simp] theorem enterQuickStop_resetLedger
    (inputs : AxisInputs) (state : AxisSafetyState D) :
    (enterQuickStop inputs state).resetLedger = state.resetLedger := by
  unfold enterQuickStop
  split <;> rfl

@[simp] theorem rearm_resetLedger
    (inputs : AxisInputs) (state : AxisSafetyState D) :
    (rearm inputs state).resetLedger = state.resetLedger := by
  unfold rearm
  split <;> rfl

theorem continueQuickStop_resetLedger
    (options : SafetyOptions) (inputs : AxisInputs)
    (state : AxisSafetyState D) :
    (continueQuickStop options inputs state).1.resetLedger =
        state.resetLedger ∧
      (continueQuickStop options inputs state).2 ≠ .faultReset := by
  unfold continueQuickStop
  dsimp only
  split <;> split <;> exact ⟨rfl, by simp⟩

theorem proceed_resetLedger
    (options : SafetyOptions) (inputs : AxisInputs) (entered : Bool)
    (state : AxisSafetyState D) :
    (proceed options inputs entered state).1.resetLedger =
        state.resetLedger ∧
      (proceed options inputs entered state).2 ≠ .faultReset := by
  unfold proceed
  split
  · split
    · exact ⟨rfl, by simp⟩
    · exact continueQuickStop_resetLedger options inputs state
  · exact ⟨rfl, by simp⟩
  · split
    · exact ⟨rfl, by simp⟩
    · rename_i hrequested
      exact ⟨rfl, hrequested⟩

theorem lt_saturation {edges maximum : UInt32} (hbudget : edges < maximum) :
    edges < 4294967295 := by
  have hlt := UInt32.lt_iff_toNat_lt.mp hbudget
  have hmax := maximum.toNat_lt
  rw [UInt32.lt_iff_toNat_lt]
  change edges.toNat < 4294967295
  omega

theorem decideAxis_resetLedger
    (options : SafetyOptions) (inputs : AxisInputs)
    (state : AxisSafetyState D) :
    (decideAxis options inputs state).1.resetLedger =
        ⟨state.faultEpisodeActive,
          if (decideAxis options inputs state).2 = .faultReset ∧
              state.faultResetOutputActive = false then
            state.faultResetEdges + 1
          else state.faultResetEdges,
          (decideAxis options inputs state).2 == .faultReset⟩ ∧
      ((decideAxis options inputs state).2 = .faultReset →
        inputs.drive = .fault ∧ (state.faultResetOutputActive = false →
          state.faultResetEdges < options.maximumFaultResets)) := by
  unfold decideAxis
  have hkept : (rearm inputs (enterQuickStop inputs state)).resetLedger =
      state.resetLedger := by
    simp
  simp only [AxisSafetyState.resetLedger, ResetLedger.mk.injEq] at hkept
  by_cases hallowed : faultResetAllowed options inputs state = true
  · have hcause := hallowed
    simp only [faultResetAllowed, resetBudgetAvailable, resetEdge,
      Bool.and_eq_true, beq_iff_eq] at hcause
    obtain ⟨⟨⟨hdrive, hrequested⟩, _⟩, hbudget⟩ := hcause
    simp only [hallowed, if_true, AxisSafetyState.resetLedger, hkept]
    cases hactive : state.faultResetOutputActive with
    | true => simp [resetEdge, hactive, hdrive]
    | false =>
        have hlt : state.faultResetEdges < options.maximumFaultResets := by
          simpa [hdrive, hrequested, hactive] using hbudget
        simp [resetEdge, hactive, hdrive, hrequested, hlt, lt_saturation hlt]
  · simp only [hallowed, Bool.false_eq_true, if_false]
    have hcalm : ({ rearm inputs (enterQuickStop inputs state) with
        faultResetOutputActive := false } : AxisSafetyState D).resetLedger =
        ⟨state.faultEpisodeActive, state.faultResetEdges, false⟩ := by
      simp [AxisSafetyState.resetLedger, hkept]
    revert hcalm
    generalize { rearm inputs (enterQuickStop inputs state) with
      faultResetOutputActive := false } = calm
    intro hcalm
    obtain ⟨hsame, hnot⟩ := proceed_resetLedger options inputs
      (entersQuickStop inputs state) calm
    rw [hsame, hcalm]
    simp [hnot]

variable [FloatingPoint D]

@[simp] theorem evaluateTarget_resetLedger
    (config : AxisSafetyConfig D) (state : AxisSafetyState D)
    (command : AxisCommand D) (pdo : Cia402PdoView) :
    (evaluateTarget config state command pdo).2.resetLedger =
      state.resetLedger := by
  unfold evaluateTarget
  dsimp only
  split <;> split <;> rfl

omit [FloatingPoint D] in
@[simp] theorem trackFaultEpisode_resetLedger
    (clear : Bool) (state : AxisSafetyState D) :
    (trackFaultEpisode clear state).resetLedger =
      state.resetLedger.track clear := by
  unfold trackFaultEpisode ResetLedger.track
  split
  · rfl
  · split
    · rename_i hepisode
      simp [AxisSafetyState.resetLedger, hepisode]
    · rename_i hepisode
      simp [AxisSafetyState.resetLedger, hepisode]

theorem assess_resetLedger
    (supervisor : SafetySupervisor D) (bus : SafetyBusState)
    (pdos : PdoSpan) (nowNs : ℤ) (axis : Axis) :
    (supervisor.assess bus pdos nowNs axis).state.resetLedger =
      (supervisor.states axis).resetLedger.track
        (faultClearObserved bus axis (pdos.view axis)) := by
  simp [assess]

/-- Every evaluation makes one entry in the ledger of every axis. -/
theorem evaluate_resetStep
    {supervisor : SafetySupervisor D} {pdos : PdoSpan}
    (hconfigured : supervisor.configured = true)
    (hsize : pdos.size = supervisor.axisCount)
    (bus : SafetyBusState) (nowNs : ℤ) {axis : Axis}
    (haxis : axis.val < supervisor.axisCount) :
    ResetStep supervisor.options.maximumFaultResets
      (Cia402StateMachine.decode (pdos.view axis).statusWord)
      (faultClearObserved bus axis (pdos.view axis))
      (supervisor.states axis).resetLedger
      ((supervisor.evaluate bus pdos nowNs).1.states axis).resetLedger
      ((supervisor.evaluate bus pdos nowNs).2.requests axis) := by
  have htracked := supervisor.assess_resetLedger bus pdos nowNs axis
  obtain ⟨hledger, hreset⟩ := decideAxis_resetLedger supervisor.options
    (supervisor.axisInputs bus pdos nowNs axis)
    (supervisor.assess bus pdos nowNs axis).state
  have hnext : ((supervisor.evaluate bus pdos nowNs).1.states
      axis).resetLedger =
      (supervisor.decision bus pdos nowNs axis).1.resetLedger := by
    rw [evaluate_states hconfigured hsize bus nowNs haxis]
    rfl
  rw [hnext, evaluate_requests hconfigured hsize bus nowNs haxis]
  unfold SafetySupervisor.decision
  rw [hledger]
  constructor
  · rw [← htracked]
    rfl
  · rfl
  · rw [← htracked]
    rfl
  · intro hrequest
    exact (hreset hrequest).1
  · intro hrequest hidle
    rw [← htracked] at hidle ⊢
    exact (hreset hrequest).2 hidle

end SafetySupervisor

/-! ## One cycle of supervisor and device -/

def DeviceState.ledger (state : DeviceState D) (axis : Axis) : ResetLedger :=
  (state.safety.states axis).resetLedger

def DeviceState.latched (state : DeviceState D) (axis : Axis) : Bool :=
  (state.axes axis).stateMachine.faultResetLatched

def DeviceStep.controlWord? (axis : Axis) (step : DeviceStep D) :
    Option (BitVec 16) :=
  match step.output with
  | .cycled result => some (result.pdos axis).controlWord
  | _ => none

/-- The evaluation observes that the drive has left its fault. -/
def DeviceStep.clears (axis : Axis) (step : DeviceStep D) : Bool :=
  match step.input with
  | .evaluate bus view _ => faultClearObserved bus axis (view axis)
  | _ => false

/-- One call, seen from ledger and latch of an axis. -/
inductive LedgerStep (maximum : UInt32) (axis : Axis) (step : DeviceStep D) :
    Prop
  | cycled (request : AxisRequest) (word : BitVec 16) (drive : DriveState)
      (hrequest : step.request? axis = some request)
      (hword : step.controlWord? axis = some word)
      (hledger : ResetStep maximum drive (step.clears axis)
        (step.before.ledger axis) (step.after.ledger axis) request)
      (hclear : step.clears axis = true → drive ≠ .fault)
      (hlatch : step.after.latched axis = (request == .faultReset))
      (hreset : word = 0x0080#16 ↔ request = .faultReset ∧
        step.before.latched axis = false ∧ drive = .fault)
  | silent
      (hrequest : step.request? axis = none)
      (hword : step.controlWord? axis = none)
      (hledger : step.after.ledger axis = step.before.ledger axis)
      (hlatch : step.after.latched axis = step.before.latched axis)

section Device

variable [FloatingPoint D]

/-- The process data of the axis convert in this step. -/
def DeviceStep.InRange (source : AxisConfig D) (axis : Axis)
    (step : DeviceStep D) : Prop :=
  ∀ bus view nowNs, step.input = .evaluate bus view nowNs →
    UnitsInRange source (view axis)

theorem fire_ledgerStep
    {setup : SupervisorSetup D} {state : DeviceState D}
    (hconfigured : Configured setup state.safety)
    {axis : Axis} (haxis : axis.val < setup.axes.length)
    {source : AxisConfig D} (hsource : (state.axes axis).config = source)
    {call : SupervisorCall D}
    (hrange : DeviceStep.InRange source axis
      (deviceMachine.fire state call)) :
    LedgerStep setup.options.maximumFaultResets axis
      (deviceMachine.fire state call) := by
  cases call with
  | acceptCommands snapshot nowNs =>
      apply LedgerStep.silent rfl rfl ?_ rfl
      have hprogress :=
        acceptCommands_sameProgress state.safety snapshot nowNs
      simp only [DeviceState.ledger, Machine.fire_after, Machine.fire_before,
        deviceMachine]
      rw [hprogress.states]
  | requestShutdown nowNs => exact LedgerStep.silent rfl rfl rfl rfl
  | evaluate bus view nowNs =>
      have hunits := hrange bus view nowNs rfl
      have hin : axis.val < state.safety.axisCount := by
        rw [hconfigured.axisCount]
        exact haxis
      have hcount : (state.safety.evaluate bus (state.safety.span view)
          nowNs).1.axisCount = state.safety.axisCount :=
        (state.safety.evaluate_sameCommands bus _ nowNs).axisCount
      have hledger := evaluate_resetStep hconfigured.configured
        (show (state.safety.span view).size = state.safety.axisCount from rfl)
        bus nowNs hin
      rw [hconfigured.options] at hledger
      have hflags : ((state.safety.evaluate bus (state.safety.span view)
          nowNs).2.commands axis).flags =
          flagsForRequest ((state.safety.evaluate bus
            (state.safety.span view) nowNs).2.requests axis) := by
        rw [evaluate_commands hconfigured.configured rfl bus nowNs hin,
          evaluate_requests hconfigured.configured rfl bus nowNs hin]
      rw [← hsource] at hunits
      obtain ⟨hlatch, hreset⟩ := Cia402Axis.cycle_reset hunits hflags
      apply LedgerStep.cycled _ _ _ rfl rfl hledger
      · intro hclear hfault
        simp only [DeviceStep.clears, Machine.fire_input, faultClearObserved,
          Bool.and_eq_true] at hclear
        have hdrive : Cia402StateMachine.decode (view axis).statusWord =
          .fault := hfault
        rw [hdrive] at hclear
        simp [driveFault] at hclear
      · simp only [DeviceState.latched, Machine.fire_after, deviceMachine,
          DeviceState.cycle, hcount, hin, decide_true, if_true]
        exact hlatch
      · simp only [Machine.fire_before, DeviceState.latched, hcount, hin,
          decide_true, if_true, DeviceState.cycle, deviceMachine]
        exact hreset

end Device

/-! ## Ledger and latch stay in step -/

/-- The latch of the device agrees with the ledger of the supervisor. -/
structure LatchInStep (maximum : UInt32) (axis : Axis)
    (state : DeviceState D) : Prop where
  latch : state.latched axis = (state.ledger axis).active
  bound : (state.ledger axis).edges ≤ maximum
  idle : (state.ledger axis).episode = false →
    (state.ledger axis).active = false

theorem ResetLedger.track_active
    {ledger : ResetLedger}
    (hidle : ledger.episode = false → ledger.active = false)
    {clear : Bool} (hclear : clear = false) :
    (ledger.track clear).active = ledger.active := by
  subst hclear
  cases hepisode : ledger.episode with
  | true => simp [ResetLedger.track, hepisode]
  | false => simp [ResetLedger.track, hepisode, hidle hepisode]

theorem toNat_succ_of_lt {edges maximum : UInt32} (hlt : edges < maximum) :
    (edges + 1).toNat = edges.toNat + 1 := by
  have hbelow := UInt32.lt_iff_toNat_lt.mp hlt
  have hmax := maximum.toNat_lt
  rw [UInt32.toNat_add, UInt32.toNat_one]
  omega

section Step

variable {maximum : UInt32} {axis : Axis} {step : DeviceStep D}

theorem LatchInStep.next
    (hinStep : LatchInStep maximum axis step.before)
    (hstep : LedgerStep maximum axis step) :
    LatchInStep maximum axis step.after := by
  cases hstep with
  | silent _ _ hledger hlatch =>
      constructor
      · rw [hlatch, hledger]
        exact hinStep.latch
      · rw [hledger]
        exact hinStep.bound
      · rw [hledger]
        exact hinStep.idle
  | cycled request word drive _ _ hledger hclear hlatch _ =>
      constructor
      · rw [hlatch, hledger.active]
      · rw [hledger.edges]
        split
        · rename_i hfresh
          have hbudget := hledger.budget hfresh.1 hfresh.2
          rw [UInt32.le_iff_toNat_le, toNat_succ_of_lt hbudget]
          exact UInt32.lt_iff_toNat_lt.mp hbudget
        · unfold ResetLedger.track
          split
          · exact UInt32.zero_le
          · split
            · exact UInt32.zero_le
            · exact hinStep.bound
      · rw [hledger.episode, hledger.active]
        intro hepisode
        rw [beq_eq_false_iff_ne]
        intro hrequest
        cases hcleared : step.clears axis with
        | true => exact hclear hcleared (hledger.drive hrequest)
        | false =>
            rw [hcleared] at hepisode
            unfold ResetLedger.track at hepisode
            simp only [Bool.false_eq_true, if_false] at hepisode
            split at hepisode
            · contradiction
            · rename_i hopen
              simp [hepisode] at hopen

/-- A reset word is written exactly on a rising edge of the reset output. -/
theorem LedgerStep.word_eq
    (hinStep : LatchInStep maximum axis step.before)
    (hstep : LedgerStep maximum axis step) :
    (step.controlWord? axis).map (· == 0x0080#16) =
      (step.request? axis).map fun request =>
        !(step.before.ledger axis).active && request == .faultReset := by
  cases hstep with
  | silent hrequest hword _ _ => rw [hrequest, hword]; rfl
  | cycled request word drive hrequest hword hledger _ _ hreset =>
      rw [hrequest, hword, Option.map_some, Option.map_some,
        Option.some.injEq, Bool.eq_iff_iff, beq_iff_eq, hreset,
        hinStep.latch]
      simp only [Bool.and_eq_true, Bool.not_eq_true', beq_iff_eq]
      constructor
      · rintro ⟨hfault, hidle, _⟩
        exact ⟨hidle, hfault⟩
      · rintro ⟨hidle, hfault⟩
        exact ⟨hfault, hidle, hledger.drive hfault⟩

end Step

/-! ## Histories -/

/-- Whether the evaluations put out a fault reset. -/
def resetOutputs (axis : Axis) (steps : List (DeviceStep D)) : List Bool :=
  steps.filterMap fun step =>
    (DeviceStep.request? axis step).map (· == .faultReset)

/-- Whether the cycles wrote the reset control word. -/
def resetWords (axis : Axis) (steps : List (DeviceStep D)) : List Bool :=
  steps.filterMap fun step =>
    (DeviceStep.controlWord? axis step).map (· == 0x0080#16)

theorem resetOutputs_concat
    (axis : Axis) (steps : List (DeviceStep D)) (step : DeviceStep D) :
    resetOutputs axis (steps ++ [step]) = resetOutputs axis steps ++
      ((step.request? axis).map (· == .faultReset)).toList := by
  unfold resetOutputs
  rw [List.filterMap_append]
  cases hrequest : step.request? axis <;> simp [hrequest]

theorem resetWords_concat
    (axis : Axis) (steps : List (DeviceStep D)) (step : DeviceStep D) :
    resetWords axis (steps ++ [step]) = resetWords axis steps ++
      ((step.controlWord? axis).map (· == 0x0080#16)).toList := by
  unfold resetWords
  rw [List.filterMap_append]
  cases hword : step.controlWord? axis <;> simp [hword]

/-- The reset output after the steps, when it was at `level` before them. -/
def resetLevel (level : Bool) (axis : Axis) (steps : List (DeviceStep D)) :
    Bool :=
  (resetOutputs axis steps).getLast?.getD level

/-- No two neighbours are both set. -/
def Spaced (signal : List Bool) : Prop :=
  signal.IsChain fun earlier later => ¬ (earlier = true ∧ later = true)

/-- What a history of cycles says about ledger and latch. -/
structure ResetHistory (maximum : UInt32) (axis : Axis)
    (steps : List (DeviceStep D)) (state : DeviceState D) : Prop where
  inStep : LatchInStep maximum axis state
  level : (state.ledger axis).active = resetLevel false axis steps
  spaced : Spaced (resetWords axis steps)
  last : ∀ word ∈ (resetWords axis steps).getLast?, word = true →
    (state.ledger axis).active = true

/-- The account of a stretch of cycles without an observed clearance, entered
with the reset output at `start`. -/
structure StretchAccount (maximum : UInt32) (axis : Axis) (start : Bool)
    (steps : List (DeviceStep D)) (state : DeviceState D) : Prop where
  inStep : LatchInStep maximum axis state
  level : (state.ledger axis).active = resetLevel start axis steps
  edges : risingEdges start (resetOutputs axis steps) ≤
    (state.ledger axis).edges.toNat
  words : (resetWords axis steps).count true =
    risingEdges start (resetOutputs axis steps)
  episode : resetOutputs axis steps ≠ [] →
    (state.ledger axis).episode = true

section Append

variable {maximum : UInt32} {axis : Axis} {steps : List (DeviceStep D)}
  {step : DeviceStep D} (hstep : LedgerStep maximum axis step)

include hstep

theorem resetLevel_concat
    {level : Bool} (hlevel : (step.before.ledger axis).active =
      resetLevel level axis steps) :
    (step.after.ledger axis).active =
      resetLevel level axis (steps ++ [step]) := by
  unfold resetLevel
  rw [resetOutputs_concat]
  cases hstep with
  | silent hrequest _ hledger _ =>
      rw [hrequest, hledger, hlevel]
      simp [resetLevel]
  | cycled request word drive hrequest _ hledger _ _ _ =>
      rw [hrequest, hledger.active]
      simp

theorem ResetHistory.append
    (hhistory : ResetHistory maximum axis steps step.before) :
    ResetHistory maximum axis (steps ++ [step]) step.after := by
  have hword := hstep.word_eq hhistory.inStep
  refine ⟨hhistory.inStep.next hstep, resetLevel_concat hstep hhistory.level,
    ?_, ?_⟩
  · rw [resetWords_concat, hword]
    cases hstep with
    | silent hrequest _ _ _ =>
        rw [hrequest]
        simpa using hhistory.spaced
    | cycled request word drive hrequest _ _ _ _ _ =>
        rw [hrequest]
        refine List.isChain_append.mpr ⟨hhistory.spaced, by simp, ?_⟩
        rintro earlier hearlier later hlater ⟨hset, hnext⟩
        have hactive := hhistory.last earlier hearlier hset
        simp only [Option.map_some, Option.toList_some, List.head?_cons,
          Option.mem_some_iff] at hlater
        rw [hactive] at hlater
        simp [← hlater] at hnext
  · rw [resetWords_concat, hword]
    cases hstep with
    | silent hrequest _ hledger _ =>
        rw [hrequest, hledger]
        simpa using hhistory.last
    | cycled request word drive hrequest _ hledger _ _ _ =>
        rw [hrequest, hledger.active]
        intro last hlast hset
        simp only [Option.map_some, Option.toList_some,
          List.getLast?_append, List.getLast?_singleton, Option.some_or,
          Option.mem_some_iff] at hlast
        rw [hset, Bool.and_eq_true] at hlast
        exact hlast.2

omit hstep in
/-- At the start of an evaluation without clearance the ledger still covers the
edges of the stretch. -/
theorem StretchAccount.tracked
    {start : Bool} {state : DeviceState D}
    (haccount : StretchAccount maximum axis start steps state) :
    ((state.ledger axis).track false).episode = true ∧
      risingEdges start (resetOutputs axis steps) ≤
        ((state.ledger axis).track false).edges.toNat := by
  cases hepisode : (state.ledger axis).episode with
  | true =>
      simp only [ResetLedger.track, hepisode, Bool.not_true,
        Bool.false_eq_true, if_false, true_and]
      exact haccount.edges
  | false =>
      have hnone : resetOutputs axis steps = [] := by
        by_contra hsome
        rw [haccount.episode hsome] at hepisode
        contradiction
      simp [ResetLedger.track, hepisode, hnone]

theorem StretchAccount.append
    {start : Bool} (haccount : StretchAccount maximum axis start steps
      step.before) (hclear : step.clears axis = false) :
    StretchAccount maximum axis start (steps ++ [step]) step.after := by
  have hword := hstep.word_eq haccount.inStep
  have hinStep := haccount.inStep.next hstep
  have hlevel := resetLevel_concat hstep haccount.level
  cases hstep with
  | silent hrequest hsilent hledger _ =>
      have houtputs : resetOutputs axis (steps ++ [step]) =
          resetOutputs axis steps := by
        simp [resetOutputs_concat, hrequest]
      have hwords : resetWords axis (steps ++ [step]) =
          resetWords axis steps := by
        simp [resetWords_concat, hsilent]
      refine ⟨hinStep, hlevel, ?_, ?_, ?_⟩
      · rw [houtputs, hledger]
        exact haccount.edges
      · rw [houtputs, hwords]
        exact haccount.words
      · rw [houtputs, hledger]
        exact haccount.episode
  | cycled request word drive hrequest _ hledger _ _ _ =>
      obtain ⟨hopen, hcovered⟩ := haccount.tracked
      have hactive := ResetLedger.track_active haccount.inStep.idle
        (Eq.refl false)
      have hentry := hledger.edges
      have hbudget := hledger.budget
      have hepisode := hledger.episode
      rw [hclear] at hentry hbudget hepisode
      rw [hactive] at hentry hbudget
      have hrising : risingEdges start (resetOutputs axis (steps ++ [step])) =
          risingEdges start (resetOutputs axis steps) +
            (if !(step.before.ledger axis).active &&
              request == .faultReset then 1 else 0) := by
        rw [resetOutputs_concat, hrequest, Option.map_some,
          Option.toList_some, risingEdges_append_singleton, haccount.level]
        rfl
      refine ⟨hinStep, hlevel, ?_, ?_, ?_⟩
      · rw [hrising, hentry]
        by_cases hfresh : request = .faultReset ∧
            (step.before.ledger axis).active = false
        · rw [if_pos hfresh, toNat_succ_of_lt (hbudget hfresh.1 hfresh.2)]
          simp only [hfresh.1, hfresh.2, Bool.not_false, beq_self_eq_true,
            Bool.and_self, if_true]
          omega
        · have hflat : (!(step.before.ledger axis).active &&
              request == .faultReset) = false := by
            rw [Bool.eq_false_iff]
            intro hset
            rw [Bool.and_eq_true, Bool.not_eq_true', beq_iff_eq] at hset
            exact hfresh ⟨hset.2, hset.1⟩
          rw [if_neg hfresh, hflat]
          simpa using hcovered
      · rw [hrising, resetWords_concat, hword, hrequest, Option.map_some,
          Option.toList_some, List.count_append, haccount.words,
          List.count_singleton]
        simp only [beq_iff_eq]
      · intro _
        rw [hepisode]
        exact hopen

end Append

/-! ## Runs -/

variable [FloatingPoint D]

section Run

variable {setup : DeviceSetup D} {axis : Axis} {source : AxisConfig D}
  (hsource : setup.axes[axis.val]? = some source)

include hsource

theorem DevicesConfigured.ledgerStep
    {state : DeviceState D}
    (hstate : DevicesConfigured setup axis source state)
    {call : SupervisorCall D}
    (hrange : DeviceStep.InRange source axis
      (deviceMachine.fire state call)) :
    LedgerStep setup.options.maximumFaultResets axis
      (deviceMachine.fire state call) :=
  fire_ledgerStep hstate.safety (List.getElem?_eq_some_iff.mp hsource).1
    hstate.source hrange

omit hsource in
theorem DeviceSetup.start_ledger :
    setup.start.ledger axis = ⟨false, 0, false⟩ := by
  unfold DeviceState.ledger DeviceSetup.start
  rw [setup.supervisor_states]
  rfl

theorem DeviceSetup.start_latchInStep :
    LatchInStep setup.options.maximumFaultResets axis setup.start := by
  have hcreated := setup.created axis source hsource
  constructor
  · rw [start_ledger]
    unfold Cia402Axis.create at hcreated
    split at hcreated
    · contradiction
    · rw [Except.ok.injEq] at hcreated
      show (setup.devices axis).stateMachine.faultResetLatched = false
      rw [← hcreated]
  · rw [start_ledger]
    exact UInt32.zero_le
  · rw [start_ledger]
    intro _
    rfl

theorem DeviceSetup.resetHistory
    (calls : List (SupervisorCall D))
    (hrange : ∀ step ∈ setup.cycles calls,
      DeviceStep.InRange source axis step) :
    DevicesConfigured setup axis source
        (deviceMachine.final setup.start calls) ∧
      ResetHistory setup.options.maximumFaultResets axis (setup.cycles calls)
        (deviceMachine.final setup.start calls) := by
  have hgood : DevicesConfigured setup axis source
        (deviceMachine.final setup.start calls) ∧
      ((∀ step ∈ setup.cycles calls, DeviceStep.InRange source axis step) →
        ResetHistory setup.options.maximumFaultResets axis
          (setup.cycles calls) (deviceMachine.final setup.start calls)) := by
    refine Machine.history_final
      (fun steps state => DevicesConfigured setup axis source state ∧
        ((∀ step ∈ steps, DeviceStep.InRange source axis step) →
          ResetHistory setup.options.maximumFaultResets axis steps state))
      ⟨DeviceSetup.start_configured hsource, ?_⟩ ?_ calls
    · intro _
      have hstart := DeviceSetup.start_latchInStep hsource
      refine ⟨hstart, ?_, by simp [Spaced, resetWords], by simp [resetWords]⟩
      rw [DeviceSetup.start_ledger]
      rfl
    · rintro steps state call ⟨hstate, hhistory⟩
      refine ⟨hstate.step call, ?_⟩
      intro hunits
      have hlast := hstate.ledgerStep hsource
        (hunits (deviceMachine.fire state call) (by simp))
      exact (hhistory fun step hstep =>
        hunits step (List.mem_append_left _ hstep)).append hlast
  exact ⟨hgood.1, hgood.2 hrange⟩

/-- A stretch without clearance stays inside the budget. -/
theorem StretchAccount.run
    {start : Bool} {state : DeviceState D}
    (hstate : DevicesConfigured setup axis source state)
    (hinStep : LatchInStep setup.options.maximumFaultResets axis state)
    (hlevel : (state.ledger axis).active = start)
    (calls : List (SupervisorCall D))
    (hrange : ∀ step ∈ deviceMachine.trace state calls,
      DeviceStep.InRange source axis step)
    (hclear : ∀ step ∈ deviceMachine.trace state calls,
      DeviceStep.clears axis step = false) :
    StretchAccount setup.options.maximumFaultResets axis start
      (deviceMachine.trace state calls)
      (deviceMachine.final state calls) := by
  have hgood : DevicesConfigured setup axis source
        (deviceMachine.final state calls) ∧
      ((∀ step ∈ deviceMachine.trace state calls,
          DeviceStep.InRange source axis step) →
        (∀ step ∈ deviceMachine.trace state calls,
          DeviceStep.clears axis step = false) →
        StretchAccount setup.options.maximumFaultResets axis start
          (deviceMachine.trace state calls)
          (deviceMachine.final state calls)) := by
    refine Machine.history_final
      (fun steps next => DevicesConfigured setup axis source next ∧
        ((∀ step ∈ steps, DeviceStep.InRange source axis step) →
          (∀ step ∈ steps, DeviceStep.clears axis step = false) →
          StretchAccount setup.options.maximumFaultResets axis start
            steps next))
      ⟨hstate, ?_⟩ ?_ calls
    · intro _ _
      exact ⟨hinStep, hlevel, by simp [resetOutputs],
        by simp [resetWords, resetOutputs], by simp [resetOutputs]⟩
    · rintro steps next call ⟨hnext, haccount⟩
      refine ⟨hnext.step call, ?_⟩
      intro hunits hquiet
      have hlast := hnext.ledgerStep hsource
        (hunits (deviceMachine.fire next call) (by simp))
      have hbefore := haccount
        (fun step hstep => hunits step (List.mem_append_left _ hstep))
        (fun step hstep => hquiet step (List.mem_append_left _ hstep))
      exact hbefore.append hlast (hquiet _ (by simp))
  exact hgood.2 hrange hclear

end Run

/-- Within every stretch without an observed fault clearance the reset outputs
rise at most as often as the budget allows, as many reset words reach the
drive, and no two consecutive cycles write one. -/
theorem fault_reset_budget
    (setup : DeviceSetup D) (calls : List (SupervisorCall D)) (axis : Axis)
    (source : AxisConfig D) (hsource : setup.axes[axis.val]? = some source)
    (hrange : ∀ step ∈ setup.cycles calls,
      DeviceStep.InRange source axis step) :
    (∀ earlier stretch later,
      setup.cycles calls = earlier ++ (stretch ++ later) →
      (∀ step ∈ stretch, DeviceStep.clears axis step = false) →
      risingEdges (resetLevel false axis earlier)
          (resetOutputs axis stretch) ≤
          setup.options.maximumFaultResets.toNat ∧
        (resetWords axis stretch).count true ≤
          setup.options.maximumFaultResets.toNat) ∧
    Spaced (resetWords axis (setup.cycles calls)) := by
  refine ⟨?_, (DeviceSetup.resetHistory hsource calls hrange).2.spaced⟩
  intro earlier stretch later hsplit hclear
  obtain ⟨before, after, hcalls, hearlier, hrest⟩ :=
    Machine.trace_prefix hsplit
  obtain ⟨during, rest, _, hstretch, _⟩ := Machine.trace_prefix hrest.symm
  have hbefore : ∀ step ∈ setup.cycles before,
      DeviceStep.InRange source axis step := by
    intro step hstep
    apply hrange
    rw [hsplit, hearlier]
    exact List.mem_append_left _ hstep
  obtain ⟨hconfigured, hhistory⟩ :=
    DeviceSetup.resetHistory hsource before hbefore
  have hlevel : ((deviceMachine.final setup.start before).ledger
      axis).active = resetLevel false axis earlier := by
    rw [hhistory.level, hearlier]
    rfl
  have haccount := StretchAccount.run hsource hconfigured hhistory.inStep
    hlevel during
    (by
      intro step hstep
      apply hrange
      rw [hsplit, hstretch]
      exact List.mem_append_right _ (List.mem_append_left _ hstep))
    (by
      intro step hstep
      apply hclear
      rw [hstretch]
      exact hstep)
  rw [← hstretch] at haccount
  have hbound := UInt32.le_iff_toNat_le.mp haccount.inStep.bound
  refine ⟨haccount.edges.trans hbound, ?_⟩
  rw [haccount.words]
  exact haccount.edges.trans hbound

theorem armView_unitsInRange :
    UnitsInRange (armAxis "") (armView 0x0008 0 0) := by
  constructor <;> decide +kernel

/-- A drive fault is answered with a reset which stays requested. -/
def armFaults : List (SupervisorCall ℚ) := [
  .acceptCommands (armCommand 1 10 kAxisCommandEnable) 10,
  .evaluate healthyBus (armView 0x0008 0) 20,
  .acceptCommands (armCommand 2 30 kAxisCommandFaultReset) 30,
  .evaluate healthyBus (armView 0x0008 0) 40,
  .evaluate healthyBus (armView 0x0008 0) 50]

theorem fault_reset_budget_singleAxisDevice :
    resetWords 0 (singleAxisDevice.cycles armFaults) = [false, true, false] ∧
    (∀ earlier stretch later,
      singleAxisDevice.cycles armFaults = earlier ++ (stretch ++ later) →
      (∀ step ∈ stretch, DeviceStep.clears 0 step = false) →
      risingEdges (resetLevel false 0 earlier) (resetOutputs 0 stretch) ≤
          singleAxisDevice.options.maximumFaultResets.toNat ∧
        (resetWords 0 stretch).count true ≤
          singleAxisDevice.options.maximumFaultResets.toNat) ∧
    Spaced (resetWords 0 (singleAxisDevice.cycles armFaults)) := by
  refine ⟨by decide +kernel, ?_⟩
  apply fault_reset_budget singleAxisDevice armFaults 0 (armAxis "") rfl
  intro step hstep bus view nowNs hinput
  have hcall := Machine.input_mem_of_mem_trace hstep
  rw [hinput] at hcall
  simp only [armFaults, List.mem_cons, reduceCtorEq,
    SupervisorCall.evaluate.injEq, List.not_mem_nil, or_false,
    false_or] at hcall
  rcases hcall with ⟨_, rfl, _⟩ | ⟨_, rfl, _⟩ | ⟨_, rfl, _⟩ <;>
    exact armView_unitsInRange

end PolicyRuntime
