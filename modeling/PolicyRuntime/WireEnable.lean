import PolicyRuntime.EthercatCycle
import PolicyRuntime.TargetLimits

/-!
# Enables on the wire

The daemon is the supervised handler of its EtherCAT master.  An exchange of the
bus evaluates the supervisor on the inputs just received, the axis devices fill
the views, and the master sends them.  An enabling control word in the image
which is sent is traced back to the decision of the supervisor.
-/

namespace PolicyRuntime

open SafetySupervisor

def safetyBusState (domain : DomainHealth) (processDataValid : Bool) :
    SafetyBusState where
  workingCounter := domain.workingCounter
  expectedWorkingCounter := domain.expectedWorkingCounter.getD 0
  expectedWorkingCounterKnown := domain.expectedWorkingCounter.isSome
  workingCounterComplete := domain.workingCounterComplete
  linkUp := domain.linkUp
  allSlavesOperational := domain.allSlavesOperational
  processDataValid := processDataValid
  operationalAxesMask := domain.operationalAxesMask
  externalStopAxesMask := 0

def Cia402PdoView.empty : Cia402PdoView where
  statusWord := 0
  modeDisplay := 0
  actualPosition := 0
  actualVelocity := 0
  actualTorque := 0
  controlWord := 0
  targetPosition := 0
  targetVelocity := 0
  targetTorque := 0

/-- What the daemon reads besides the bus in one cycle: whether it runs and owns
the cycle, its clock, and the axes stopped by serial servos. -/
structure CycleEnvironment where
  owned : Bool
  nowNs : ℤ
  serialStopMask : BitVec 16

/-- What the handlers and the mailboxes of the bus reach.  The requests are
those of the published axis snapshot. -/
structure BusOwner (D μ : Type) where
  device : DeviceState D
  requests : Axis → AxisRequest
  environment : CycleEnvironment
  rest : μ

/-- How the bus is set up, with what else is bound to it. -/
structure BusConfig (μ : Type) (n : ℕ) where
  handles : Fin n → Cia402PdoHandles
  modes : Fin n → Cia402Mode
  processImageHandler : Option (∀ size, μ → ProcessImage size →
    DomainHealth → Bool → μ × ProcessImage size)
  ownerStep : Fin n → μ → μ × Bool

structure DaemonBus (D μ : Type) (n : ℕ) where
  owner : BusOwner D μ
  views : Fin n → Cia402PdoView
  mailboxCursor : ℕ
  health : TransportHealth

/-- `consume_staged_commands`, a stop request seen by the cycle, and a cycle of
the master. -/
inductive WireInput (D : Type) (size : ℕ)
  | consume (snapshot : Snapshot (AxisCommand D)) (nowNs : ℤ)
  | requestShutdown (nowNs : ℤ)
  | exchange (admitted : Bool) (environment : CycleEnvironment)
      (domain : DomainHealth) (image : ProcessImage size)

variable {D μ : Type} {n size : ℕ}

/-- The views of the bus, as the devices index them. -/
def axisViews (views : Fin n → Cia402PdoView) (axis : Axis) : Cia402PdoView :=
  if h : axis.val < n then views ⟨axis, h⟩ else .empty

def busViews (pdos : Axis → Cia402PdoView) (views : Fin n → Cia402PdoView)
    (axis : Fin n) : Cia402PdoView :=
  if h : axis.val < kRobotIoMaximumAxes then pdos ⟨axis, h⟩ else views axis

variable [FloatingPoint D]

/-- `process_device_cycle_owned` behind the command hand-off. -/
def ethercatCycleHandler : DomainHandler (BusOwner D μ) n :=
  fun _ data domain processDataValid =>
    let owner := data.context
    if !owner.environment.owned || n ≠ owner.device.safety.axisCount then
      data
    else
      let busState := { safetyBusState domain processDataValid with
        externalStopAxesMask := owner.environment.serialStopMask }
      let (device, result) := owner.device.cycle busState
        (axisViews data.views) owner.environment.nowNs
      { data with
        context := { owner with
          device := device
          requests := result.decisions.requests }
        views := busViews result.pdos data.views }

namespace BusConfig

def imageHandler (config : BusConfig μ n) :
    Option (DomainHandler (BusOwner D μ) n) :=
  config.processImageHandler.map fun handler =>
    fun size data domain processDataValid =>
      let (rest, image) :=
        handler size data.context.rest data.image domain processDataValid
      { data with
        context := { data.context with rest := rest }
        image := image }

def master (config : BusConfig μ n) (bus : DaemonBus D μ n) :
    CyclicMaster (BusOwner D μ) n where
  backendPresent := true
  handles := config.handles
  modes := config.modes
  views := bus.views
  processImageHandler := config.imageHandler
  cycleHandler := none
  supervisedCycleHandler := some ethercatCycleHandler
  ownerStep := fun axis owner =>
    let (rest, progressed) := config.ownerStep axis owner.rest
    ({ owner with rest := rest }, progressed)
  mailboxCursor := bus.mailboxCursor
  health := bus.health

def exchange (config : BusConfig μ n) (bus : DaemonBus D μ n)
    (admitted : Bool) (environment : CycleEnvironment)
    (domain : DomainHealth) (image : ProcessImage size) :
    DaemonBus D μ n × Option (ProcessImage size) :=
  let result := (config.master bus).cycle admitted
    { bus.owner with environment := environment } domain image
  ({ owner := result.context
     views := result.master.views
     mailboxCursor := result.master.mailboxCursor
     health := result.master.health }, result.sent)

def machine (config : BusConfig μ n) :
    Machine (DaemonBus D μ n) (WireInput D size)
      (Option (ProcessImage size)) where
  step := fun bus input =>
    match input with
    | .consume snapshot nowNs =>
        let device := (deviceMachine.step bus.owner.device
          (.acceptCommands snapshot nowNs)).1
        ({ bus with owner := { bus.owner with device := device } }, none)
    | .requestShutdown nowNs =>
        let device := (deviceMachine.step bus.owner.device
          (.requestShutdown nowNs)).1
        ({ bus with owner := { bus.owner with device := device } }, none)
    | .exchange admitted environment domain image =>
        config.exchange bus admitted environment domain image

/-- The bus before its first cycle. -/
def start (setup : DeviceSetup D) (rest : μ) : DaemonBus D μ n where
  owner :=
    { device := setup.start
      requests := fun _ => .disable
      environment := ⟨false, 0, 0⟩
      rest := rest }
  views := fun _ => .empty
  mailboxCursor := 0
  health := .failed

end BusConfig

/-! ## Reading -/

/-- Every axis is read once. -/
theorem CyclicMaster.readAxes_fst {σ : Type} (master : CyclicMaster σ n)
    (image : ProcessImage size) (axis : Fin n) :
    (master.readAxes image).1 axis =
      (Cia402EthercatBinding.readInputs (master.handles axis) image
        (master.views axis)).1 := by
  have hloop : ∀ (axes : List (Fin n)) (views : Fin n → Cia402PdoView)
      (valid : Bool), axes.Nodup →
      (axes.foldl
        (fun state axis =>
          (Function.update state.1 axis
            (Cia402EthercatBinding.readInputs (master.handles axis) image
              (state.1 axis)).1,
            (Cia402EthercatBinding.readInputs (master.handles axis) image
              (state.1 axis)).2 && state.2))
        (views, valid)).1 axis =
      if axis ∈ axes then
        (Cia402EthercatBinding.readInputs (master.handles axis) image
          (views axis)).1
      else views axis := by
    intro axes
    induction axes with
    | nil => exact fun _ _ _ => rfl
    | cons first rest ih =>
        intro views valid hnodup
        obtain ⟨hfirst, hrest⟩ := List.nodup_cons.mp hnodup
        rw [List.foldl_cons, ih _ _ hrest]
        by_cases haxis : axis = first
        · rw [if_neg (haxis ▸ hfirst), if_pos (haxis ▸ List.mem_cons_self),
            haxis, Function.update_self]
        · rw [Function.update_of_ne haxis]
          simp only [List.mem_cons, haxis, false_or]
  have hmem : axis ∈ List.finRange n := List.mem_finRange axis
  exact (hloop _ master.views true (List.nodup_finRange n)).trans
    (if_pos hmem)

/-- Reading changes the inputs of a view only. -/
theorem Cia402EthercatBinding.controlWord_readInputs
    (handles : Cia402PdoHandles) (image : ProcessImage size)
    (pdo : Cia402PdoView) :
    (readInputs handles image pdo).1.controlWord = pdo.controlWord := by
  unfold readInputs
  split <;> rfl

theorem Cia402EthercatBinding.statusWord_readInputs
    {handles : Cia402PdoHandles} {image : ProcessImage size}
    {pdo : Cia402PdoView} (hread : (readInputs handles image pdo).2 = true) :
    handles.statusWord.read image =
      some (readInputs handles image pdo).1.statusWord := by
  unfold readInputs at hread ⊢
  split at hread
  · next hstatus _ _ _ _ => simp [*]
  · exact nomatch hread

theorem CyclicMaster.controlWord_readPhase {σ : Type}
    (master : CyclicMaster σ n) (domain : DomainHealth)
    (image : ProcessImage size) (axis : Fin n) :
    ((master.readPhase domain image).1 axis).controlWord =
      (master.views axis).controlWord := by
  unfold readPhase
  split_ifs
  · rw [readAxes_fst, Cia402EthercatBinding.controlWord_readInputs]
  · rfl

/-! ## One axis -/

/-- The control words which move a drive towards operation. -/
def Enabling (controlWord : BitVec 16) : Prop :=
  controlWord = 0x0006#16 ∨ controlWord = 0x0007#16 ∨ controlWord = 0x000F#16

/-- Only an enable produces an enabling control word. -/
theorem Cia402StateMachine.enable_of_enabling {machine : Cia402StateMachine}
    {statusWord : BitVec 16} {request : AxisRequest}
    (henabling : Enabling (machine.update statusWord request).2.controlWord) :
    request = .enable := by
  unfold Enabling at henabling
  cases request with
  | enable => rfl
  | disable => simp [update] at henabling
  | quickStop =>
      unfold update quickStopControlWord at henabling
      cases hstate : decode statusWord <;> simp [hstate] at henabling
  | faultReset =>
      unfold update at henabling
      dsimp only at henabling
      split_ifs at henabling <;> simp at henabling

/-- An axis enables its drive on a decided enable only, and then towards a
limited target. -/
theorem Cia402Axis.cycle_enabling {axis : Cia402Axis D}
    {command : AxisCommand D} {pdo : Cia402PdoView}
    (henabling : Enabling (axis.cycle command pdo).2.1.controlWord) :
    (requestedAction command.flags).1 = .enable ∧
      (axis.cycle command pdo).2.1.controlWord =
        Cia402StateMachine.enableControlWord
          (Cia402StateMachine.decode pdo.statusWord) ∧
      WritesTarget axis.config (axis.slewed command pdo)
        (axis.cycle command pdo).2.1 := by
  rw [cycle_controlWord] at henabling
  have hdrive := Cia402StateMachine.enable_of_enabling henabling
  obtain ⟨hpasses, hconverts⟩ := passes_of_enable hdrive
  obtain ⟨_, _, hword, htarget⟩ := hpasses.cycle hconverts
  exact ⟨(of_driveRequest_enable hdrive).1, hword, htarget⟩

/-! ## One exchange -/

namespace BusConfig

variable {config : BusConfig μ n} {bus : DaemonBus D μ n}
  {environment : CycleEnvironment} {domain : DomainHealth}
  {image : ProcessImage size}

/-- What the supervisor is told about the bus. -/
def busState (config : BusConfig μ n) (bus : DaemonBus D μ n)
    (environment : CycleEnvironment) (domain : DomainHealth)
    (image : ProcessImage size) : SafetyBusState :=
  { safetyBusState domain ((config.master bus).readPhase domain image).2 with
    externalStopAxesMask := environment.serialStopMask }

/-- The views of an exchange after its inputs were read. -/
def readViews (config : BusConfig μ n) (bus : DaemonBus D μ n)
    (domain : DomainHealth) (image : ProcessImage size) :
    Axis → Cia402PdoView :=
  axisViews ((config.master bus).readPhase domain image).1

/-- What the devices do in an exchange. -/
def deviceCycle (config : BusConfig μ n) (bus : DaemonBus D μ n)
    (environment : CycleEnvironment) (domain : DomainHealth)
    (image : ProcessImage size) : DeviceState D × DeviceCycle D :=
  bus.owner.device.cycle (config.busState bus environment domain image)
    (config.readViews bus domain image) environment.nowNs

/-- The mailboxes are stepped behind the daemon's back. -/
theorem stepMailboxes_owner (config : BusConfig μ n) (bus : DaemonBus D μ n)
    (offsets : List ℕ) (owner : BusOwner D μ) :
    ∃ rest, ((config.master bus).stepMailboxes owner offsets).1 =
      { owner with rest := rest } := by
  induction offsets generalizing owner with
  | nil => exact ⟨owner.rest, rfl⟩
  | cons offset offsets ih =>
      rw [CyclicMaster.stepMailboxes]
      split
      · dsimp only
        split_ifs
        · exact ⟨_, rfl⟩
        · obtain ⟨rest, hrest⟩ := ih ((config.master bus).ownerStep
            ⟨(bus.mailboxCursor + offset) % n, _⟩ owner).1
          exact ⟨rest, hrest⟩
      · exact ⟨owner.rest, rfl⟩

/-- The daemon is called after the image handler, on the same views. -/
theorem runHandlers_eq (config : BusConfig μ n) (bus : DaemonBus D μ n)
    (domain : DomainHealth) (valid : Bool)
    (data : CycleData (BusOwner D μ) n size) :
    ∃ rest image,
      (config.master bus).runHandlers domain valid data =
        ethercatCycleHandler size
          ⟨{ data.context with rest := rest }, image, data.views⟩ domain
            valid := by
  obtain ⟨handles, modes, processImageHandler, ownerStep⟩ := config
  cases processImageHandler with
  | none => exact ⟨data.context.rest, data.image, rfl⟩
  | some handler => exact ⟨_, _, rfl⟩

/-- What the daemon makes of an exchange in which the other handlers have left
`rest` and `handled`. -/
def handled (config : BusConfig μ n) (bus : DaemonBus D μ n)
    (environment : CycleEnvironment) (domain : DomainHealth)
    (image : ProcessImage size) (rest : μ) (handled : ProcessImage size) :
    CycleData (BusOwner D μ) n size :=
  ethercatCycleHandler size
    ⟨{ bus.owner with environment := environment, rest := rest }, handled,
      ((config.master bus).readPhase domain image).1⟩ domain
    ((config.master bus).readPhase domain image).2

/-- The bus after an exchange which ends with `data`, and what it sends. -/
structure Exchanged (config : BusConfig μ n) (bus : DaemonBus D μ n)
    (domain : DomainHealth) (image : ProcessImage size)
    (data : CycleData (BusOwner D μ) n size)
    (result : DaemonBus D μ n × Option (ProcessImage size)) : Prop where
  device : result.1.owner.device = data.context.device
  requests : result.1.owner.requests = data.context.requests
  views : result.1.views = data.views
  sent : result.2 = some ((config.master bus).writeAxes data.views
    ((config.master bus).outputsEnabled domain
      ((config.master bus).readPhase domain image).2) data.image).1

theorem exchange_admitted (config : BusConfig μ n) (bus : DaemonBus D μ n)
    (environment : CycleEnvironment) (domain : DomainHealth)
    (image : ProcessImage size) :
    ∃ rest written, config.Exchanged bus domain image
      (config.handled bus environment domain image rest written)
      (config.exchange bus true environment domain image) := by
  obtain ⟨rest, written, hhandlers⟩ := runHandlers_eq config bus domain
    ((config.master bus).readPhase domain image).2
    ⟨{ bus.owner with environment := environment }, image,
      ((config.master bus).readPhase domain image).1⟩
  obtain ⟨rest', hmailboxes⟩ := stepMailboxes_owner config bus (List.range n)
    (config.handled bus environment domain image rest written).context
  have hadmitted : ¬ (!true || !(config.master bus).backendPresent) = true :=
    Bool.false_ne_true
  have howner : (config.exchange bus true environment domain image).1.owner =
      ((config.master bus).stepMailboxes
        (config.handled bus environment domain image rest written).context
        (List.range n)).1 := by
    unfold exchange CyclicMaster.cycle
    dsimp only
    rw [if_neg hadmitted, hhandlers]
    rfl
  rw [hmailboxes] at howner
  refine ⟨rest, written, by rw [howner], by rw [howner], ?_, ?_⟩
  · unfold exchange CyclicMaster.cycle
    dsimp only
    rw [if_neg hadmitted, hhandlers]
    rfl
  · unfold exchange CyclicMaster.cycle
    dsimp only
    rw [if_neg hadmitted, hhandlers]
    rfl

theorem handled_evaluates (hcount : n = bus.owner.device.safety.axisCount)
    (howned : environment.owned = true) (rest : μ)
    (written : ProcessImage size) :
    config.handled bus environment domain image rest written =
      ⟨{ device := (config.deviceCycle bus environment domain image).1
         requests := (config.deviceCycle bus environment domain
          image).2.decisions.requests
         environment := environment
         rest := rest }, written,
        busViews (config.deviceCycle bus environment domain image).2.pdos
          ((config.master bus).readPhase domain image).1⟩ := by
  unfold handled ethercatCycleHandler
  dsimp only
  rw [if_neg (by simp [howned, ← hcount])]
  rfl

/-- A cycle which the daemon does not own leaves its devices alone. -/
theorem handled_skipped (hskipped : ¬ (environment.owned = true ∧
    n = bus.owner.device.safety.axisCount)) (rest : μ)
    (written : ProcessImage size) :
    config.handled bus environment domain image rest written =
      ⟨{ bus.owner with environment := environment, rest := rest }, written,
        ((config.master bus).readPhase domain image).1⟩ := by
  unfold handled ethercatCycleHandler
  dsimp only
  rw [if_pos]
  by_contra hevaluates
  apply hskipped
  simpa using hevaluates

/-! ## Histories -/

/-- The calls which an input makes on the supervisor. -/
def calls (config : BusConfig μ n) (bus : DaemonBus D μ n) :
    WireInput D size → List (SupervisorCall D)
  | .consume snapshot nowNs => [.acceptCommands snapshot nowNs]
  | .requestShutdown nowNs => [.requestShutdown nowNs]
  | .exchange admitted environment domain image =>
      if admitted = true ∧ environment.owned = true ∧
          n = bus.owner.device.safety.axisCount then
        [.evaluate (config.busState bus environment domain image)
          (config.readViews bus domain image) environment.nowNs]
      else []

def history (config : BusConfig μ n) :
    DaemonBus D μ n → List (WireInput D size) → List (SupervisorCall D)
  | _, [] => []
  | bus, input :: rest =>
      config.calls bus input ++
        config.history (config.machine.step bus input).1 rest

theorem step_device (config : BusConfig μ n) (bus : DaemonBus D μ n)
    (input : WireInput D size) :
    (config.machine.step bus input).1.owner.device =
      deviceMachine.final bus.owner.device (config.calls bus input) := by
  cases input with
  | consume snapshot nowNs => rfl
  | requestShutdown nowNs => rfl
  | exchange admitted environment domain image =>
      cases admitted with
      | false => rfl
      | true =>
          obtain ⟨rest, written, hexchanged⟩ :=
            exchange_admitted config bus environment domain image
          refine hexchanged.device.trans ?_
          rw [calls]
          by_cases hevaluates : environment.owned = true ∧
              n = bus.owner.device.safety.axisCount
          · rw [handled_evaluates hevaluates.2 hevaluates.1,
              if_pos ⟨rfl, hevaluates⟩]
            rfl
          · rw [handled_skipped hevaluates, if_neg (fun h => hevaluates h.2)]
            rfl

theorem final_device (config : BusConfig μ n) (bus : DaemonBus D μ n)
    (inputs : List (WireInput D size)) :
    (config.machine.final bus inputs).owner.device =
      deviceMachine.final bus.owner.device (config.history bus inputs) := by
  induction inputs generalizing bus with
  | nil => rfl
  | cons input rest ih =>
      rw [Machine.final_cons, ih, history, Machine.final_append, step_device]

end BusConfig

/-! ## The decision behind an enabling word -/

/-- Only a decided enable leaves an enabling word in the view of an axis. -/
theorem DevicesConfigured.cycle_enabling {setup : DeviceSetup D} {slot : Axis}
    {source : AxisConfig D} (hsource : setup.axes[slot.val]? = some source)
    {state : DeviceState D}
    (hstate : DevicesConfigured setup slot source state)
    {bus : SafetyBusState} {view : Axis → Cia402PdoView} {nowNs : ℤ}
    (henabling : Enabling
      ((state.cycle bus view nowNs).2.pdos slot).controlWord) :
    (state.cycle bus view nowNs).2.decisions.requests slot = .enable ∧
      ((state.cycle bus view nowNs).2.pdos slot).controlWord =
        Cia402StateMachine.enableControlWord
          (Cia402StateMachine.decode (view slot).statusWord) ∧
      WritesTarget source ((state.axes slot).slewed
          ((state.cycle bus view nowNs).2.decisions.commands slot)
          (view slot)) ((state.cycle bus view nowNs).2.pdos slot) := by
  have hpdo := (hstate.cycle_axis hsource bus view nowNs).2
  rw [hpdo] at henabling ⊢
  obtain ⟨haction, hword, htarget⟩ := Cia402Axis.cycle_enabling henabling
  rw [hstate.source] at htarget
  refine ⟨?_, hword, htarget⟩
  have hin := (hstate.inUse hsource).1
  have hconfigured := hstate.safety.configured
  rw [evaluate_commands hconfigured rfl bus nowNs hin,
    requestedAction_flagsForRequest] at haction
  exact (evaluate_requests hconfigured rfl bus nowNs hin).trans haction

/-- What an enable of an evaluated exchange rests on.  `calls` are those made
on the supervisor before, and `word` is the control word which is sent. -/
structure EnableDecided (setup : DeviceSetup D) (config : BusConfig μ n)
    (bus : DaemonBus D μ n) (calls : List (SupervisorCall D))
    (environment : CycleEnvironment) (domain : DomainHealth)
    (image sent : ProcessImage size) (axis : Fin n) (slot : Axis)
    (source : AxisConfig D) (word : BitVec 16) : Prop where
  request : (config.deviceCycle bus environment domain
    image).2.decisions.requests slot = .enable
  drive : ∃ statusWord,
    (config.handles axis).statusWord.read image = some statusWord ∧
      word = Cia402StateMachine.enableControlWord
        (Cia402StateMachine.decode statusWord)
  command : ∃ snapshot,
    lastVerdict (setup.run calls) = some (snapshot, .accepted) ∧
      (snapshot.axes slot).flags = kAxisCommandEnable ∧
      0 ≤ environment.nowNs - snapshot.timestampNs ∧
      environment.nowNs - snapshot.timestampNs ≤
        source.commandTimeout * 1000000
  notShutdown : ∀ step ∈ setup.run calls, ¬ step.IsShutdown
  notExternal : environment.serialStopMask &&& (1#16 <<< slot.val) = 0
  operational : domain.allSlavesOperational = true ∨
    domain.operationalAxesMask &&& (1#16 <<< slot.val) ≠ 0
  group : ∀ peer : Axis, peer.val < setup.axes.length →
    setup.SameSafetyGroup slot peer →
    (config.deviceCycle bus environment domain
      image).2.decisions.feedbackFlags peer = 0
  target : ∃ pdo, WritesTarget source ((bus.owner.device.axes slot).slewed
      ((config.deviceCycle bus environment domain
        image).2.decisions.commands slot)
      (config.readViews bus domain image slot)) pdo ∧
    (config.handles axis).Carried (config.modes axis) word
      (pdo.modeTarget (config.modes axis)) sent

namespace BusConfig

variable {setup : DeviceSetup D} {config : BusConfig μ n}
  {bus : DaemonBus D μ n} {environment : CycleEnvironment}
  {domain : DomainHealth} {image : ProcessImage size}

/-- The view of an axis is enabling only while the published request of the axis
is an enable. -/
def Published (bus : DaemonBus D μ n) : Prop :=
  ∀ (axis : Fin n) (slot : Axis), slot.val = axis.val →
    Enabling (bus.views axis).controlWord →
    bus.owner.requests slot = .enable

theorem busViews_apply (pdos : Axis → Cia402PdoView)
    (views : Fin n → Cia402PdoView) {axis : Fin n} {slot : Axis}
    (hslot : slot.val = axis.val) : busViews pdos views axis = pdos slot := by
  have hlt : axis.val < kRobotIoMaximumAxes := hslot ▸ slot.isLt
  unfold busViews
  rw [dif_pos hlt]
  exact congrArg pdos (Fin.ext hslot.symm)

theorem axisViews_apply (views : Fin n → Cia402PdoView) {axis : Fin n}
    {slot : Axis} (hslot : slot.val = axis.val) :
    axisViews views slot = views axis := by
  have hlt : slot.val < n := hslot ▸ axis.isLt
  unfold axisViews
  rw [dif_pos hlt]
  exact congrArg views (Fin.ext hslot)

/-- A bus with one axis for each device of its daemon, after some calls on the
supervisor. -/
structure Ready (setup : DeviceSetup D) (calls : List (SupervisorCall D))
    (bus : DaemonBus D μ n) : Prop where
  count : setup.axes.length = n
  device : bus.owner.device = deviceMachine.final setup.start calls

namespace Ready

variable {calls : List (SupervisorCall D)}

theorem safety (hready : Ready setup calls bus) :
    bus.owner.device.safety = setup.after calls := by
  rw [hready.device, setup.final_safety]

theorem axisCount (hready : Ready setup calls bus) :
    n = bus.owner.device.safety.axisCount := by
  rw [hready.safety, (setup.configured_after calls).axisCount, hready.count]

theorem source (hready : Ready setup calls bus) {axis : Fin n} {slot : Axis}
    (hslot : slot.val = axis.val) :
    ∃ source, setup.axes[slot.val]? = some source := by
  have hlt : slot.val < setup.axes.length := by
    rw [hready.count, hslot]
    exact axis.isLt
  exact ⟨_, List.getElem?_eq_getElem hlt⟩

theorem configured (hready : Ready setup calls bus) {slot : Axis}
    {source : AxisConfig D} (hsource : setup.axes[slot.val]? = some source) :
    DevicesConfigured setup slot source bus.owner.device := by
  rw [hready.device]
  exact DeviceSetup.devicesConfigured hsource calls

/-- An evaluation publishes the requests from which its words are made. -/
theorem published_step (config : BusConfig μ n)
    (hready : Ready setup calls bus)
    (hpublished : Published bus) (input : WireInput D size) :
    Published (config.machine.step bus input).1 := by
  cases input with
  | consume snapshot nowNs => exact hpublished
  | requestShutdown nowNs => exact hpublished
  | exchange admitted environment domain image =>
      cases admitted with
      | false => exact hpublished
      | true =>
          obtain ⟨rest, written, hexchanged⟩ :=
            exchange_admitted config bus environment domain image
          intro axis slot hslot henabling
          change Enabling ((config.exchange bus true environment domain
            image).1.views axis).controlWord at henabling
          change (config.exchange bus true environment domain
            image).1.owner.requests slot = .enable
          rw [hexchanged.views] at henabling
          rw [hexchanged.requests]
          by_cases howned : environment.owned = true
          · rw [handled_evaluates hready.axisCount howned] at henabling ⊢
            dsimp only at henabling ⊢
            rw [busViews_apply _ _ hslot] at henabling
            obtain ⟨source, hsource⟩ := hready.source hslot
            exact ((hready.configured hsource).cycle_enabling hsource
              henabling).1
          · rw [handled_skipped fun h => howned h.1] at henabling ⊢
            dsimp only at henabling ⊢
            rw [CyclicMaster.controlWord_readPhase] at henabling
            exact hpublished axis slot hslot henabling

end Ready

theorem Ready.step {calls : List (SupervisorCall D)}
    (hready : Ready setup calls bus) (input : WireInput D size) :
    Ready setup (calls ++ config.calls bus input)
      (config.machine.step bus input).1 where
  count := hready.count
  device := by
    rw [step_device, hready.device, Machine.final_append]

/-- The output fields of all axes are pairwise disjoint. -/
def DisjointOutputs (config : BusConfig μ n) : Prop :=
  ((List.finRange n).flatMap fun axis =>
    (config.handles axis).outputSlots (config.modes axis)).Pairwise
      PdoSlot.Disjoint

instance (config : BusConfig μ n) : Decidable config.DisjointOutputs :=
  inferInstanceAs (Decidable (List.Pairwise _ _))

/-- An image which is not blocked has been read. -/
theorem statusWord_of_clear {axis : Fin n} {slot : Axis}
    (hslot : slot.val = axis.val)
    (hclear : ¬ (config.master bus).Blocked domain image) :
    (config.handles axis).statusWord.read image =
      some (config.readViews bus domain image slot).statusWord := by
  unfold CyclicMaster.Blocked at hclear
  rw [not_or, not_or, not_exists, Bool.not_eq_false] at hclear
  obtain ⟨hlink, hread, _⟩ := hclear
  have havailable : (config.master bus).inputAvailable domain = true := by
    unfold CyclicMaster.inputAvailable
    rw [hlink, Bool.or_eq_true]
    exact Or.inr rfl
  unfold readViews CyclicMaster.readPhase
  rw [if_pos havailable, axisViews_apply _ hslot, CyclicMaster.readAxes_fst]
  exact Cia402EthercatBinding.statusWord_readInputs
    (Bool.not_eq_false _ ▸ hread axis)

variable {calls : List (SupervisorCall D)} {axis : Fin n} {slot : Axis}
  {source : AxisConfig D} {sent : ProcessImage size} {word : BitVec 16}

theorem Ready.decided (hready : Ready setup calls bus)
    (hslot : slot.val = axis.val)
    (hsource : setup.axes[slot.val]? = some source)
    (hclear : ¬ (config.master bus).Blocked domain image)
    (henabling : Enabling ((config.deviceCycle bus environment domain
      image).2.pdos slot).controlWord)
    (hword : word = ((config.deviceCycle bus environment domain
      image).2.pdos slot).controlWord)
    (hcarried : (config.handles axis).Carried (config.modes axis) word
      (((config.deviceCycle bus environment domain image).2.pdos
        slot).modeTarget (config.modes axis)) sent) :
    EnableDecided setup config bus calls environment domain image sent axis
      slot source word := by
  have hstate := hready.configured hsource
  obtain ⟨hrequest, htransition, htarget⟩ :=
    hstate.cycle_enabling hsource henabling
  have hin := (hstate.inUse hsource).1
  obtain ⟨hrequested, hgroup⟩ :=
    group_quiet_of_enable hstate.safety.configured hin hrequest
  obtain ⟨hown, _, _, _⟩ := hgroup slot hin rfl
  have hhistory := setup.historyInvariant calls
  rw [← hready.safety] at hhistory
  obtain ⟨snapshot, hverdict, hholds⟩ := hhistory.verdict hown.commandsValid
  obtain ⟨_, number, hconfig⟩ := hstate.inUse hsource
  have htimely := hown.timely
  simp only [commandTimedOut, hholds.hasCommand, hholds.timestamp, hconfig,
    axisSafetyConfig, Bool.not_true, Bool.false_or, Bool.or_eq_false_iff,
    decide_eq_false_iff_not, not_lt] at htimely
  constructor
  · exact hrequest
  · exact ⟨_, statusWord_of_clear hslot hclear, hword.trans htransition⟩
  · refine ⟨snapshot, hverdict, hholds.enableFlag hin hrequested, ?_,
      htimely.2⟩
    have hbefore := htimely.1
    omega
  · intro step hstep hshutdown
    have hstopped := hhistory.shutdown.mpr ⟨step, hstep, hshutdown⟩
    rw [hown.running] at hstopped
    exact Bool.false_ne_true hstopped
  · have hexternal := hown.notExternal
    simpa [externalStop, busState] using hexternal
  · have hoperational := hown.operational
    simp only [axisOperational, busState, safetyBusState, Bool.or_eq_true,
      Bool.and_eq_true, bne_iff_ne] at hoperational
    exact hoperational.imp id (fun h => h.2)
  · intro peer hpeer hsame
    have hcount : bus.owner.device.safety.axisCount = setup.axes.length :=
      hstate.safety.axisCount
    have hnumber : (bus.owner.device.safety.configs slot).group =
        (bus.owner.device.safety.configs peer).group := by
      rw [hstate.safety.configs]
      exact (setup.group_eq_iff (hcount ▸ hin) hpeer).mpr hsame
    exact (hgroup peer (hcount ▸ hpeer) hnumber).2.1
  · exact ⟨_, htarget, hcarried⟩

end BusConfig

end PolicyRuntime
