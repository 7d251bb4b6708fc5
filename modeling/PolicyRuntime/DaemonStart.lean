import PolicyRuntime.Machine
import PolicyRuntime.Messages

/-!
# Starting the daemon

`start` brings up the DDS endpoint, the EtherCAT master, the serial registry and
the transport runtimes in this order.  A failure undoes the steps of the master
and the registry; the endpoint and, behind the last of these steps, everything
that has been started stay as they are.
-/

namespace PolicyRuntime

/-! ## The services -/

inductive HandlerContext
  | daemon
  | other
  deriving DecidableEq

/-- What `start` sees of an EtherCAT master. -/
structure MasterLink where
  opened : Bool
  handler : Option HandlerContext
  deriving DecidableEq

inductive ScheduledTransport
  | master
  | port (bus : ℕ)
  deriving DecidableEq

/-- `startable` stands for the static checks of `St3215Bus::start`. -/
structure SerialBusService where
  startable : Bool
  running : Bool
  attached : Bool
  portOpen : Bool
  deriving DecidableEq

def SerialBusService.stopped (bus : SerialBusService) : SerialBusService :=
  { bus with running := false, attached := false, portOpen := false }

def SerialBusService.started (bus : SerialBusService) : SerialBusService :=
  { bus with running := true, attached := true, portOpen := true }

structure DaemonServices where
  configured : Bool
  running : Bool
  acceptingCommands : Bool
  stopRequested : Bool
  shutdownComplete : Bool
  atomicsLockFree : Bool
  loopConfig : Except Error Unit
  /-- whether the worker of an attached endpoint runs -/
  dds : Option Bool
  axisCount : ℕ
  ethercatMaster : Option MasterLink
  masterRegistered : Bool
  masterHandlerBound : Bool
  scheduler : ScheduledTransport → Bool
  registryRunning : Bool
  registryScheduled : Bool
  busCount : ℕ
  buses : ℕ → SerialBusService
  runtimeCount : ℕ
  runtimes : ℕ → Bool

/-- The answers of the calls which leave the process. -/
structure StartAnswers where
  createMaster : Except Error Unit
  openMaster : Except Error Unit
  openPort : ℕ → Except Error Unit
  createWorkers : ℕ → Bool

/-- All of these calls succeed. -/
structure StartAnswers.Succeed (answers : StartAnswers) : Prop where
  createMaster : answers.createMaster = .ok ()
  openMaster : answers.openMaster = .ok ()
  openPort : ∀ bus, answers.openPort bus = .ok ()
  createWorkers : ∀ runtime, answers.createWorkers runtime = true

namespace DaemonServices

/-! ## Setters -/

def setMaster (services : DaemonServices) (link : MasterLink) :
    DaemonServices :=
  { services with ethercatMaster := some link }

def setScheduler (services : DaemonServices) (transport : ScheduledTransport)
    (registered : Bool) : DaemonServices :=
  { services with
    scheduler := Function.update services.scheduler transport registered }

def setBus (services : DaemonServices) (index : ℕ) (bus : SerialBusService) :
    DaemonServices :=
  { services with buses := Function.update services.buses index bus }

def setRuntime (services : DaemonServices) (index : ℕ) (running : Bool) :
    DaemonServices :=
  { services with runtimes := Function.update services.runtimes index running }

def setRegistry (services : DaemonServices) (running : Bool) :
    DaemonServices :=
  { services with registryRunning := running, registryScheduled := running }

def setMasterFlags (services : DaemonServices) (registered bound : Bool) :
    DaemonServices :=
  { services with
    masterRegistered := registered
    masterHandlerBound := bound }

/-! ## Steps of `start` -/

variable (services : DaemonServices) (answers : StartAnswers)

/-- `DdsDaemonEndpoint::start` of an attached endpoint -/
def startDds : Except Error DaemonServices :=
  match services.dds with
  | none => .ok services
  | some true => .error
      ⟨.invalidArgument, "DDS daemon endpoint is not startable"⟩
  | some false => .ok { services with dds := some true }

/-- A daemon with axes and without a master makes one of its own. -/
def prepareMaster : Except Error DaemonServices :=
  match services.ethercatMaster with
  | some _ => .ok services
  | none =>
      if 0 < services.axisCount then
        match answers.createMaster with
        | .error error => .error error
        | .ok () => .ok (services.setMaster ⟨false, none⟩)
      else .ok services

/-- Registration, handler and `open` of a master. -/
def startMasterLink (link : MasterLink) :
    DaemonServices × Except Error Unit :=
  if services.scheduler .master then
    (services, .error ⟨.invalidArgument, "transport is already registered"⟩)
  else if link.opened || link.handler.isSome then
    -- the registration is taken back
    (((services.setScheduler .master true).setScheduler .master
        false).setMasterFlags false services.masterHandlerBound,
      .error ⟨.invalidArgument,
        "supervised cycle handler must be exclusively bound before open"⟩)
  else
    match answers.openMaster with
    | .error error =>
        ((((services.setScheduler .master true).setMaster
            ⟨false, none⟩).setScheduler .master false).setMasterFlags
              false false, .error error)
    | .ok () =>
        (((services.setScheduler .master true).setMaster
            ⟨true, some .daemon⟩).setMasterFlags true true, .ok ())

def startMaster : DaemonServices × Except Error Unit :=
  match services.ethercatMaster with
  | none => (services, .ok ())
  | some link => services.startMasterLink answers link

/-- `St3215Bus::start` -/
def startBus (index : ℕ) : DaemonServices × Except Error Unit :=
  let bus := services.buses index
  if bus.running || !bus.startable then
    (services, .error ⟨.invalidArgument, "ST3215 bus is not startable"⟩)
  else if services.scheduler (.port index) then
    (services, .error ⟨.invalidArgument, "transport is already registered"⟩)
  else
    let scheduled := services.setScheduler (.port index) true
    -- an open port stays open
    match if bus.portOpen then .ok () else answers.openPort index with
    | .error error => (scheduled.setScheduler (.port index) false, .error error)
    | .ok () => (scheduled.setBus index bus.started, .ok ())

/-- `St3215Bus::stop` -/
def stopBus (index : ℕ) : DaemonServices :=
  let bus := services.buses index
  if !bus.running && !bus.attached then services
  else
    (if bus.attached then services.setScheduler (.port index) false
      else services).setBus index bus.stopped

/-- The buses below `count`, last first. -/
def stopBuses : ℕ → DaemonServices → DaemonServices
  | 0, services => services
  | count + 1, services => stopBuses count (services.stopBus count)

/-- The loop over the buses from `index` on. -/
def startBuses : ℕ → ℕ → DaemonServices →
    DaemonServices × Except Error Unit
  | 0, _, services => (services, .ok ())
  | remaining + 1, index, services =>
      match services.startBus answers index with
      | (next, .error error) => (stopBuses index next, .error error)
      | (next, .ok ()) => startBuses remaining (index + 1) next

/-- `St3215DeviceRegistry::start` -/
def startSerial : DaemonServices × Except Error Unit :=
  if services.registryRunning || services.registryScheduled then
    (services, .error ⟨.invalidArgument, "ST3215 registry is not startable"⟩)
  else
    match startBuses answers services.busCount 0 services with
    | (next, .error error) => (next, .error error)
    | (next, .ok ()) => (next.setRegistry true, .ok ())

/-- `EthercatMaster::close`, the handler and the registration, as far as the
daemon has them. -/
def releaseMaster : DaemonServices :=
  match services.ethercatMaster with
  | none => services
  | some _ =>
      let closed :=
        if services.masterHandlerBound then
          (services.setMaster ⟨false, none⟩).setMasterFlags
            services.masterRegistered false
        else services
      if services.masterRegistered then
        (closed.setScheduler .master false).setMasterFlags false
          closed.masterHandlerBound
      else closed

/-- The loop over the transport runtimes. -/
def startRuntimes : ℕ → ℕ → DaemonServices →
    DaemonServices × Except Error Unit
  | 0, _, services => (services, .ok ())
  | remaining + 1, index, services =>
      if services.runtimes index then
        (services, .error
          ⟨.invalidArgument, "transport runtime is already running"⟩)
      else if answers.createWorkers index then
        startRuntimes remaining (index + 1) (services.setRuntime index true)
      else
        (services, .error
          ⟨.internal, "failed to start transport runtime workers"⟩)

/-- The runtimes and the flags behind them. -/
def startWorkers : DaemonServices × Except Error Unit :=
  match startRuntimes answers services.runtimeCount 0 services with
  | (last, .error error) => (last, .error error)
  | (last, .ok ()) =>
      ({ last with acceptingCommands := true, running := true }, .ok ())

/-- From the master on. -/
def startTransports : DaemonServices × Except Error Unit :=
  match services.startMaster answers with
  | (next, .error error) => (next, .error error)
  | (next, .ok ()) =>
      match next.startSerial answers with
      | (later, .error error) => (later.releaseMaster, .error error)
      | (later, .ok ()) => later.startWorkers answers

/-- From the creation of the master on. -/
def startBehindDds : DaemonServices × Except Error Unit :=
  match services.prepareMaster answers with
  | .error error => (services, .error error)
  | .ok prepared => prepared.startTransports answers

/-- The checks at the head of `start`. -/
def startCheck : Except Error Unit :=
  if !services.configured || services.running || services.stopRequested ||
      services.shutdownComplete then
    .error ⟨.invalidArgument, "robot I/O daemon is not startable"⟩
  else if !services.atomicsLockFree then
    .error ⟨.unavailable, "daemon health atomics are not lock-free"⟩
  else services.loopConfig

def start : DaemonServices × Except Error Unit :=
  match services.startCheck with
  | .error error => (services, .error error)
  | .ok () =>
      match services.startDds with
      | .error error => (services, .error error)
      | .ok listening => listening.startBehindDds answers

/-! ## Other calls -/

def stopRuntimes : DaemonServices :=
  { services with runtimes := fun index =>
      if index < services.runtimeCount then false
      else services.runtimes index }

/-- `stop_transports` at the end of `run` -/
def stopTransports : DaemonServices :=
  let quiet := { services with dds := services.dds.map fun _ => false }
  let stopped := ((stopBuses quiet.busCount quiet).setRegistry
    false).stopRuntimes.releaseMaster
  { stopped with running := false }

def finishRun : DaemonServices :=
  if services.running then
    { services.stopTransports with
      stopRequested := true
      acceptingCommands := false
      shutdownComplete := true }
  else services

def attachDds : DaemonServices :=
  if !services.configured || services.running || services.dds.isSome then
    services
  else { services with dds := some false }

def attachEthercat (link : MasterLink) : DaemonServices :=
  if !services.configured || services.running ||
      services.ethercatMaster.isSome then services
  else services.setMaster link

/-- The owner of an attached master uses it while the daemon does not. -/
def useMaster (link : MasterLink) : DaemonServices :=
  if services.ethercatMaster.isSome && !services.masterHandlerBound then
    services.setMaster link
  else services

end DaemonServices

inductive ServiceCall
  | start (answers : StartAnswers)
  | finishRun
  | requestStop
  | attachDds
  | attachEthercat (link : MasterLink)
  | useMaster (link : MasterLink)

def serviceMachine :
    Machine DaemonServices ServiceCall (Except Error Unit) where
  step := fun services call =>
    match call with
    | .start answers => services.start answers
    | .finishRun => (services.finishRun, .ok ())
    | .requestStop =>
        ({ services with stopRequested := true, acceptingCommands := false },
          .ok ())
    | .attachDds => (services.attachDds, .ok ())
    | .attachEthercat link => (services.attachEthercat link, .ok ())
    | .useMaster link => (services.useMaster link, .ok ())

/-- What the configuration fixes. -/
structure ServiceSetup where
  atomicsLockFree : Bool
  loopConfig : Except Error Unit
  axisCount : ℕ
  busCount : ℕ
  startable : ℕ → Bool
  runtimeCount : ℕ

/-- A configured daemon before its first `start`. -/
def ServiceSetup.configured (setup : ServiceSetup) : DaemonServices where
  configured := true
  running := false
  acceptingCommands := false
  stopRequested := false
  shutdownComplete := false
  atomicsLockFree := setup.atomicsLockFree
  loopConfig := setup.loopConfig
  dds := none
  axisCount := setup.axisCount
  ethercatMaster := none
  masterRegistered := false
  masterHandlerBound := false
  scheduler := fun _ => false
  registryRunning := false
  registryScheduled := false
  busCount := setup.busCount
  buses := fun index => ⟨setup.startable index, false, false, false⟩
  runtimeCount := setup.runtimeCount
  runtimes := fun _ => false

end PolicyRuntime
