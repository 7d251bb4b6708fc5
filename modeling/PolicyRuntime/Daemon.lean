import PolicyRuntime.DeviceCycle

/-!
# The robot I/O daemon

Command producers, the owner of the device cycle and their environment, as one
machine whose inputs name the scheduled step.  A step is an access to shared
state together with the local work up to the next one; a step which is not
enabled leaves the daemon alone.  Producers serialize on the ingress gate and
hand the latest accepted snapshot to the owner, who drains the hand-off twice in
every cycle.
-/

namespace PolicyRuntime

open SafetySupervisor

structure StagedCommandEvent (D : Type) where
  publication : ℕ
  snapshot : Snapshot (AxisCommand D)

/-- Where a producer is inside `stage_commands`. -/
inductive ProducerPhase (D : Type)
  | idle
  | arriving (snapshot : Snapshot (AxisCommand D))
  | spinning (snapshot : Snapshot (AxisCommand D))
  | holding (snapshot : Snapshot (AxisCommand D))
  | deciding (snapshot : Snapshot (AxisCommand D))
  | publishing (event : StagedCommandEvent D)
  | rejecting (publication : ℕ)
  | releasing

/-- What the transports hand to one device cycle. -/
structure DeviceInput where
  bus : SafetyBusState
  view : Axis → Cia402PdoView

/-- The caller of `consume_staged_commands`. -/
inductive DrainSite
  | refresh
  | device (input : DeviceInput)

/-- The public call under which the owner token is held. -/
inductive OwnerEntry
  | run
  | cycle
  | refreshCommands
  | processDeviceCycle
  deriving DecidableEq

/-- Where the owner is. -/
inductive OwnerPhase (D : Type)
  | idle
  | loopHead
  | loadRejection (site : DrainSite)
  | readHandoff (site : DrainSite) (rejectedPublication : ℕ)
  | settle (site : DrainSite) (rejectedPublication : ℕ)
      (event : Option (StagedCommandEvent D))
  | transports
  | admitDevice (input : DeviceInput)
  | readClock (input : DeviceInput)
  | checkStop (input : DeviceInput) (nowNs : ℤ)
  | evaluate (input : DeviceInput) (nowNs : ℤ)
  | stopTransports

structure RobotIoDaemon (D : Type) where
  clock : ℤ
  device : DeviceState D
  commandIngress : SafetySupervisor D
  commandHandoff : Option (StagedCommandEvent D)
  commandIngressGate : Bool
  commandPublication : ℕ
  consumedCommandPublication : ℕ
  acknowledgedRejectionPublication : ℕ
  rejectedCommandPublication : ℕ
  running : Bool
  acceptingCommands : Bool
  stopRequested : Bool
  shutdownComplete : Bool
  producers : ℕ → ProducerPhase D
  owner : OwnerPhase D
  entry : OwnerEntry

inductive DaemonAction (D : Type)
  | tick (elapsed : ℕ)
  | start
  | requestStop
  | closeCommands
  | stage (producer : ℕ) (snapshot : Snapshot (AxisCommand D))
  | produce (producer : ℕ)
  | beginRun
  | beginCycle
  | beginRefresh
  | beginDevice (input : DeviceInput)
  | ownerLoop (stop : Bool)
  | ownerRead (succeeded : Bool)
  | ownerTransports (device : Option DeviceInput)
  | ownerStep

inductive DaemonEvent (D : Type)
  | silent
  | ingressAnswered (event : StagedCommandEvent D) (answer : CommandAcceptance)
  | published (event : StagedCommandEvent D)
  | rejectionStored (publication : ℕ)
  | acknowledged (publication : ℕ)
  | consumed (event : StagedCommandEvent D) (answer : CommandAcceptance)
  | cycled (result : DeviceCycle D)
  | transportsStopped

abbrev DaemonStep (D : Type) :=
  Transition (RobotIoDaemon D) (DaemonAction D) (DaemonEvent D)

namespace RobotIoDaemon

variable {D : Type}

def safety (daemon : RobotIoDaemon D) : SafetySupervisor D :=
  daemon.device.safety

def setSafety (daemon : RobotIoDaemon D) (supervisor : SafetySupervisor D) :
    RobotIoDaemon D :=
  { daemon with device := { daemon.device with safety := supervisor } }

def setProducer (daemon : RobotIoDaemon D) (producer : ℕ)
    (phase : ProducerPhase D) : RobotIoDaemon D :=
  { daemon with producers := Function.update daemon.producers producer phase }

def setOwner (daemon : RobotIoDaemon D) (phase : OwnerPhase D) :
    RobotIoDaemon D :=
  { daemon with owner := phase }

/-- The snapshot with which the owner invalidates the stored commands. -/
def invalidSnapshot [FloatingPoint D] : Snapshot (AxisCommand D) where
  sequence := 0
  timestampNs := 0
  axisCount := kRobotIoMaximumAxes + 1
  axes := fun _ => .empty

variable [FloatingPoint D]

/-! ## Producers -/

/-- The next access of a producer inside `stage_commands`. -/
def produce (daemon : RobotIoDaemon D) (producer : ℕ) :
    RobotIoDaemon D × DaemonEvent D :=
  match daemon.producers producer with
  | .idle => (daemon, .silent)
  | .arriving snapshot =>
      if daemon.acceptingCommands then
        (daemon.setProducer producer (.spinning snapshot), .silent)
      else
        (daemon.setProducer producer .idle, .silent)
  | .spinning snapshot =>
      if daemon.commandIngressGate then
        (daemon, .silent)
      else
        ({ daemon with commandIngressGate := true }.setProducer producer
          (.holding snapshot), .silent)
  | .holding snapshot =>
      if daemon.acceptingCommands then
        (daemon.setProducer producer (.deciding snapshot), .silent)
      else
        (daemon.setProducer producer .releasing, .silent)
  | .deciding snapshot =>
      let (ingress, answer) :=
        daemon.commandIngress.acceptCommands snapshot daemon.clock
      let decided := { daemon with commandIngress := ingress }
      let publication := daemon.commandPublication + 1
      match answer with
      | .accepted =>
          ({ decided with commandPublication := publication }.setProducer
              producer (.publishing ⟨publication, snapshot⟩),
            .ingressAnswered ⟨publication, snapshot⟩ .accepted)
      | .rejected =>
          ({ decided with commandPublication := publication }.setProducer
              producer (.rejecting publication),
            .ingressAnswered ⟨publication, snapshot⟩ .rejected)
      | .duplicate =>
          (decided.setProducer producer .releasing,
            .ingressAnswered ⟨daemon.commandPublication, snapshot⟩ .duplicate)
  | .publishing event =>
      ({ daemon with commandHandoff := some event }.setProducer producer
        .releasing, .published event)
  | .rejecting publication =>
      ({ daemon with rejectedCommandPublication := publication }.setProducer
        producer .releasing, .rejectionStored publication)
  | .releasing =>
      ({ daemon with commandIngressGate := false }.setProducer producer .idle,
        .silent)

/-! ## Owner -/

/-- `consume_staged_commands` after both of its loads. -/
def consumeStagedCommands (daemon : RobotIoDaemon D)
    (rejectedPublication : ℕ) (event : Option (StagedCommandEvent D)) :
    RobotIoDaemon D × DaemonEvent D :=
  if rejectedPublication ≠ daemon.acknowledgedRejectionPublication then
    let consumed :=
      if rejectedPublication < daemon.consumedCommandPublication then
        rejectedPublication
      else
        daemon.consumedCommandPublication
    let result := daemon.safety.acceptCommands invalidSnapshot daemon.clock
    ({ daemon with
        acknowledgedRejectionPublication := rejectedPublication
        consumedCommandPublication := consumed }.setSafety result.1,
      .acknowledged rejectedPublication)
  else
    match event with
    | none => (daemon, .silent)
    | some event =>
        if event.publication ≤ daemon.acknowledgedRejectionPublication then
          (daemon, .silent)
        else if event.publication = daemon.consumedCommandPublication then
          (daemon, .silent)
        else
          let result :=
            daemon.safety.acceptCommands event.snapshot daemon.clock
          ({ daemon with
              consumedCommandPublication := event.publication }.setSafety
                result.1,
            .consumed event result.2)

/-- The owner leaves a cycle. -/
def finishCycle (daemon : RobotIoDaemon D) : RobotIoDaemon D :=
  daemon.setOwner (if daemon.entry = .run then .loopHead else .idle)

/-- Where the owner goes after a drain. -/
def afterDrain (daemon : RobotIoDaemon D) : DrainSite → OwnerPhase D
  | .refresh =>
      if daemon.entry = .refreshCommands then .idle else .transports
  | .device input => .readClock input

/-- The last part of `process_device_cycle_owned`. -/
def evaluateDevices (daemon : RobotIoDaemon D) (input : DeviceInput)
    (nowNs : ℤ) : RobotIoDaemon D × DaemonEvent D :=
  let (device, result) := daemon.device.cycle input.bus input.view nowNs
  ({ daemon with
      device := device
      shutdownComplete := result.decisions.shutdownComplete }.finishCycle,
    .cycled result)

/-- The next access of the owner, where it depends on nothing but the daemon. -/
def ownerStep (daemon : RobotIoDaemon D) : RobotIoDaemon D × DaemonEvent D :=
  match daemon.owner with
  | .loadRejection site =>
      (daemon.setOwner (.readHandoff site daemon.rejectedCommandPublication),
        .silent)
  | .settle site rejectedPublication event =>
      let (drained, outcome) :=
        daemon.consumeStagedCommands rejectedPublication event
      (drained.setOwner (drained.afterDrain site), outcome)
  | .admitDevice input =>
      if daemon.running then
        (daemon.setOwner (.loadRejection (.device input)), .silent)
      else
        (daemon.finishCycle, .silent)
  | .readClock input =>
      (daemon.setOwner (.checkStop input daemon.clock), .silent)
  | .checkStop input nowNs =>
      if daemon.stopRequested then
        (({ daemon with acceptingCommands := false }.setSafety
            (daemon.safety.requestShutdown nowNs)).setOwner
              (.evaluate input nowNs), .silent)
      else
        (daemon.setOwner (.evaluate input nowNs), .silent)
  | .evaluate input nowNs => daemon.evaluateDevices input nowNs
  | .stopTransports =>
      ({ daemon with running := false }.setOwner .idle, .transportsStopped)
  | _ => (daemon, .silent)

/-- The head of the loop of `run`.  A pending signal or a failed sleep requests
the stop. -/
def ownerLoop (daemon : RobotIoDaemon D) (stop : Bool) :
    RobotIoDaemon D × DaemonEvent D :=
  match daemon.owner with
  | .loopHead =>
      if daemon.running && !daemon.shutdownComplete then
        ({ daemon with
            stopRequested := daemon.stopRequested || stop }.setOwner
              (.loadRejection .refresh), .silent)
      else
        (daemon.setOwner .stopTransports, .silent)
  | _ => (daemon, .silent)

/-- The bounded read of the hand-off, which may give up. -/
def ownerRead (daemon : RobotIoDaemon D) (succeeded : Bool) :
    RobotIoDaemon D × DaemonEvent D :=
  match daemon.owner with
  | .readHandoff site rejectedPublication =>
      (daemon.setOwner (.settle site rejectedPublication
        (if succeeded then daemon.commandHandoff else none)), .silent)
  | _ => (daemon, .silent)

/-- The transports of a cycle, which may skip the device cycle. -/
def ownerTransports (daemon : RobotIoDaemon D) (device : Option DeviceInput) :
    RobotIoDaemon D × DaemonEvent D :=
  match daemon.owner, device with
  | .transports, some input => (daemon.setOwner (.admitDevice input), .silent)
  | .transports, none => (daemon.finishCycle, .silent)
  | _, _ => (daemon, .silent)

/-- The owner token is taken under a public call. -/
def begin (daemon : RobotIoDaemon D) (entry : OwnerEntry)
    (phase : OwnerPhase D) : RobotIoDaemon D × DaemonEvent D :=
  match daemon.owner with
  | .idle => ({ daemon with entry := entry }.setOwner phase, .silent)
  | _ => (daemon, .silent)

/-! ## Environment -/

def start (daemon : RobotIoDaemon D) : RobotIoDaemon D :=
  if daemon.running || daemon.stopRequested || daemon.shutdownComplete then
    daemon
  else
    { daemon with acceptingCommands := true, running := true }

/-- The second store of `request_stop`. -/
def closeCommands (daemon : RobotIoDaemon D) : RobotIoDaemon D :=
  if daemon.stopRequested then { daemon with acceptingCommands := false }
  else daemon

def stage (daemon : RobotIoDaemon D) (producer : ℕ)
    (snapshot : Snapshot (AxisCommand D)) : RobotIoDaemon D :=
  match daemon.producers producer with
  | .idle => daemon.setProducer producer (.arriving snapshot)
  | _ => daemon

def step (daemon : RobotIoDaemon D) :
    DaemonAction D → RobotIoDaemon D × DaemonEvent D
  | .tick elapsed =>
      ({ daemon with clock := daemon.clock + elapsed }, .silent)
  | .start => (daemon.start, .silent)
  | .requestStop => ({ daemon with stopRequested := true }, .silent)
  | .closeCommands => (daemon.closeCommands, .silent)
  | .stage producer snapshot => (daemon.stage producer snapshot, .silent)
  | .produce producer => daemon.produce producer
  | .beginRun =>
      if daemon.running then daemon.begin .run .loopHead
      else (daemon, .silent)
  | .beginCycle => daemon.begin .cycle (.loadRejection .refresh)
  | .beginRefresh => daemon.begin .refreshCommands (.loadRejection .refresh)
  | .beginDevice input => daemon.begin .processDeviceCycle (.admitDevice input)
  | .ownerLoop stop => daemon.ownerLoop stop
  | .ownerRead succeeded => daemon.ownerRead succeeded
  | .ownerTransports device => daemon.ownerTransports device
  | .ownerStep => daemon.ownerStep

end RobotIoDaemon

variable {D : Type} [FloatingPoint D]

def daemonMachine :
    Machine (RobotIoDaemon D) (DaemonAction D) (DaemonEvent D) where
  step := RobotIoDaemon.step

/-- A configured daemon before `start`.  Owner and ingress are configured from
the same axes. -/
def DeviceSetup.daemon (setup : DeviceSetup D) (clock : ℤ) :
    RobotIoDaemon D where
  clock := clock
  device := setup.start
  commandIngress := setup.supervisor
  commandHandoff := none
  commandIngressGate := false
  commandPublication := 0
  consumedCommandPublication := 0
  acknowledgedRejectionPublication := 0
  rejectedCommandPublication := 0
  running := false
  acceptingCommands := false
  stopRequested := false
  shutdownComplete := false
  producers := fun _ => .idle
  owner := .idle
  entry := .run

/-- The steps of a schedule. -/
def DeviceSetup.schedule (setup : DeviceSetup D) (clock : ℤ)
    (actions : List (DaemonAction D)) : List (DaemonStep D) :=
  daemonMachine.trace (setup.daemon clock) actions

end PolicyRuntime
