import PolicyRuntime.IghLibrary

/-!
# The IgH backend over its library

Every operation of the backend, call by call.  A failed operation leaves the
backend as it was; only `activate` also clears the process image.
-/

namespace PolicyRuntime

namespace Igh

open Scripts Script

def kMailboxTimeoutMs : ℕ := 1000

/-! ## Configuration -/

structure PdoDefinition where
  index : ℕ
  entries : List (ObjectAddress × ℕ)

/-- `EthercatSlaveConfiguration` -/
structure SlaveConfiguration where
  address : EthercatSlaveAddress
  vendorId : ℕ
  productCode : ℕ
  revision : ℕ
  rxPdo : PdoDefinition
  txPdos : List PdoDefinition
  assignActivate : ℕ
  sync0CycleNs : ℕ
  sync0ShiftNs : ℤ
  startupSdos : List SdoDownloadRequest

def ighPdo (pdo : PdoDefinition) : EcPdoInfo := ⟨pdo.index, pdo.entries⟩

def SlaveConfiguration.syncs (configuration : SlaveConfiguration) :
    List EcSyncInfo :=
  [⟨2, true, [ighPdo configuration.rxPdo]⟩,
    ⟨3, false, configuration.txPdos.map ighPdo⟩]

/-- The identity and the revision are those of the profile. -/
def SlaveConfiguration.identifies (configuration : SlaveConfiguration)
    (slave : EcSlaveInfo) : Bool :=
  slave.vendorId = configuration.vendorId &&
    slave.productCode = configuration.productCode &&
    slave.revisionNumber = configuration.revision

structure Slave where
  address : EthercatSlaveAddress
  ringPosition : ℕ
  configuration : ℕ
  downloadRequests : List ℕ
  uploadRequest : ℕ
  activeRequest : Option ℕ := none
  activeSdo : ActiveSdo := .none
  activeAddress : ObjectAddress := ⟨0, 0⟩
  activeUploadLimit : ℕ := 0

/-- The transfer of the slave has ended. -/
def Slave.finish (own : Slave) : Slave :=
  { own with activeSdo := .none, activeRequest := none }

def Slave.clear (own : Slave) : Slave :=
  { own.finish with activeAddress := ⟨0, 0⟩, activeUploadLimit := 0 }

/-- `IghBackend::Impl`.  The domain data is named by the call which gave it. -/
structure Impl where
  masterIndex : ℕ
  master : Option ℕ := none
  domain : Option ℕ := none
  domainData : Option ℕ := none
  domainSize : ℕ := 0
  activated : Bool := false
  slaves : List Slave := []

namespace Impl

def findSlave (impl : Impl) (address : EthercatSlaveAddress) : Option Slave :=
  impl.slaves.find? (·.address = address)

def initializeBackend (impl : Impl) : Calls Error Impl :=
  if impl.master.isSome then
    fail ⟨.invalidArgument, "IgH master is already initialized"⟩
  else do
    let (master, requested) ← ask (.requestMaster impl.masterIndex)
    if !requested.given then
      fail ⟨.unavailable, "ecrt_request_master failed"⟩
    else do
      let (domain, created) ← ask (.createDomain (some master))
      if !created.given then do
        let _ ← ask (.releaseMaster (some master))
        fail ⟨.unavailable, "ecrt_master_create_domain failed"⟩
      else
        pure { impl with master := some master, domain := some domain }

/-- The loop over the slaves of the bus, from an index on. -/
def findAlias (master : Option ℕ) (address : EthercatSlaveAddress) :
    ℕ → ℕ → Calls Error ℕ
  | _, 0 =>
      fail ⟨.unavailable, "configured EtherCAT slave alias was not found"⟩
  | index, remaining + 1 => do
      let (_, candidate) ← ask (.getSlave master index)
      if candidate.code = 0 ∧
          candidate.slave.stationAlias = address.stationAlias then
        if 65535 < candidate.slave.position + address.position then
          fail ⟨.invalidArgument,
            "resolved EtherCAT ring position overflows"⟩
        else
          pure (candidate.slave.position + address.position)
      else
        findAlias master address (index + 1) remaining

def resolveRingPosition (master : Option ℕ) (address : EthercatSlaveAddress)
    (slaveCount : ℕ) : Calls Error ℕ :=
  if address.stationAlias = 0 then
    pure address.position
  else
    findAlias master address 0 slaveCount

def configureStartup (handle : ℕ) : List SdoDownloadRequest → Calls Error Unit
  | [] => pure ()
  | request :: rest =>
      if request.data.isEmpty then
        fail ⟨.protocol, "ecrt_slave_config_sdo rejected a startup parameter"⟩
      else do
        let (_, accepted) ← ask (.configSdo handle request.address request.data)
        if accepted.code < 0 then
          fail
            ⟨.protocol, "ecrt_slave_config_sdo rejected a startup parameter"⟩
        else
          configureStartup handle rest

/-- One asynchronous request, with its time limit. -/
def createRequest (handle size : ℕ) (message : String) : Calls Error ℕ := do
  let (request, created) ← ask (.createSdoRequest handle ⟨0x6060, 0⟩ size)
  if !created.given then
    fail ⟨.unavailable, message⟩
  else do
    let (_, limited) ← ask (.requestTimeout request kMailboxTimeoutMs)
    if limited.code < 0 then
      fail ⟨.unavailable, message⟩
    else
      pure request

def createDownloadRequests (handle : ℕ) : List ℕ → Calls Error (List ℕ)
  | [] => pure []
  | size :: rest => do
      let request ← createRequest handle size
        "failed to create an exact-size IgH SDO download request"
      let others ← createDownloadRequests handle rest
      pure (request :: others)

/-- What `configure_slave` does with the slave configuration which the library
gave it. -/
def setUpSlave (impl : Impl) (configuration : SlaveConfiguration)
    (ringPosition handle : ℕ) : Calls Error Slave := do
  let (_, mapped) ← ask (.configPdos handle configuration.syncs)
  if mapped.code < 0 then
    fail ⟨.protocol, "ecrt_slave_config_pdos rejected the ESI mapping"⟩
  else do
    configureStartup handle configuration.startupSdos
    let (_, clocked) ← ask (.configDc handle configuration.assignActivate
      configuration.sync0CycleNs configuration.sync0ShiftNs)
    if clocked.code < 0 then
      fail ⟨.protocol, "ecrt_slave_config_dc rejected the 1 kHz DC setup"⟩
    else do
      let downloads ← createDownloadRequests handle kDownloadRequestSizes
      let upload ← createRequest handle kMailboxCapacity
        "failed to create the IgH SDO upload request"
      let slave : Slave :=
        { address := configuration.address
          ringPosition := ringPosition
          configuration := handle
          downloadRequests := downloads
          uploadRequest := upload }
      if impl.slaves.isEmpty then do
        let (_, selected) ← ask (.selectReferenceClock impl.master handle)
        if selected.code < 0 then
          fail
            ⟨.protocol, "failed to select the EtherCAT DC reference clock"⟩
        else
          pure slave
      else
        pure slave

def configureSlave (impl : Impl) (configuration : SlaveConfiguration) :
    Calls Error Impl :=
  if impl.master = none ∨ impl.domain = none ∨ impl.activated then
    fail ⟨.invalidArgument,
      "IgH slave configuration requires an inactive initialized master"⟩
  else if (impl.findSlave configuration.address).isSome then
    fail ⟨.invalidArgument, "IgH slave address is already configured"⟩
  else do
    let (_, bus) ← ask (.masterInfo impl.master)
    if bus.code < 0 then
      fail ⟨.io, "ecrt_master failed while checking the bus"⟩
    else if bus.scanBusy then
      fail ⟨.unavailable, "IgH master bus scan is still in progress"⟩
    else do
      let ringPosition ←
        resolveRingPosition impl.master configuration.address bus.slaveCount
      let (_, found) ← ask (.getSlave impl.master ringPosition)
      if found.code < 0 then
        fail ⟨.unavailable,
          "configured EtherCAT slave position was not found"⟩
      else if !configuration.identifies found.slave then
        fail ⟨.protocol,
          "EtherCAT slave identity or revision differs from the profile"⟩
      else do
        let (handle, created) ← ask (.slaveConfig impl.master
          configuration.address.stationAlias configuration.address.position
          configuration.vendorId configuration.productCode)
        if !created.given then
          fail ⟨.unavailable,
            "ecrt_master_slave_config rejected the Elmo slave"⟩
        else do
          let slave ← impl.setUpSlave configuration ringPosition handle
          pure { impl with slaves := impl.slaves ++ [slave] }

/-- The byte and bit position of the entry in the process image. -/
def bindPdoEntry (impl : Impl) (slave : EthercatSlaveAddress)
    (address : ObjectAddress) : Calls Error (ℕ × ℕ) :=
  if impl.activated ∨ impl.domain = none then
    fail ⟨.invalidArgument,
      "PDO entries must be bound before IgH activation"⟩
  else
    match impl.findSlave slave with
    | none =>
        fail ⟨.invalidArgument, "PDO entry references an unknown IgH slave"⟩
    | some own => do
        let (_, offset) ←
          ask (.regPdoEntry own.configuration address impl.domain)
        if offset.code < 0 ∨ 255 < offset.bitPosition then
          fail ⟨.protocol, "ecrt_slave_config_reg_pdo_entry failed"⟩
        else
          pure (offset.code.toNat, offset.bitPosition)

/-- Both ways out of `activate` come with the backend they leave. -/
def activate (impl : Impl) : Calls (Impl × Error) Impl :=
  if impl.master = none ∨ impl.domain = none ∨ impl.activated then
    fail (impl, ⟨.invalidArgument,
      "IgH activation requires one inactive master"⟩)
  else do
    let (_, activation) ← ask (.activate impl.master)
    if activation.code < 0 then
      fail (impl, ⟨.unavailable, "ecrt_master_activate failed"⟩)
    else do
      let (_, measured) ← ask (.domainSize impl.domain)
      let (data, image) ← ask (.domainData impl.domain)
      if measured.size = 0 ∨ image.given = false then do
        let _ ← ask (.deactivate impl.master)
        fail ({ impl with domainData := none, domainSize := 0 },
          ⟨.unavailable, "IgH domain process image is unavailable"⟩)
      else
        pure { impl with
          domainData := some data
          domainSize := measured.size
          activated := true }

def deactivate (impl : Impl) : Calls Empty Impl :=
  if impl.master = none then pure impl
  else do
    if impl.activated then
      let _ ← ask (.deactivate impl.master)
    let _ ← ask (.releaseMaster impl.master)
    pure { masterIndex := impl.masterIndex }

/-! ## Cyclic operations -/

/-- A call which is only made while the master is active. -/
def whileActivated (impl : Impl) (call : EcrtCall) : Calls Empty Unit :=
  if impl.activated then do
    let _ ← ask call
  else
    pure ()

def receive (impl : Impl) : Calls Empty Unit :=
  impl.whileActivated (.receive impl.master)

def processDomain (impl : Impl) : Calls Empty Unit :=
  impl.whileActivated (.process impl.domain)

def queueDomain (impl : Impl) : Calls Empty Unit :=
  impl.whileActivated (.queue impl.domain)

def send (impl : Impl) : Calls Empty Unit :=
  impl.whileActivated (.send impl.master)

/-- Which slaves are operational, in their order. -/
def slavesOperational : List Slave → Calls Empty (List Bool)
  | [] => pure []
  | slave :: rest => do
      let (_, state) ← ask (.configState slave.configuration)
      let others ← slavesOperational rest
      pure ((state.online && state.operational) :: others)

/-- The bits of the axes from an index on. -/
def operationalMask : ℕ → List Bool → BitVec 16
  | _, [] => 0#16
  | index, operational :: rest =>
      (if operational && index < 16 then 1#16 <<< index else 0#16) |||
        operationalMask (index + 1) rest

def domainHealth (impl : Impl) : Calls Empty DomainHealth :=
  if !impl.activated then pure ⟨0, none, false, false, false, 0, 0#16⟩
  else do
    let (_, domain) ← ask (.domainState impl.domain)
    let (_, master) ← ask (.masterState impl.master)
    let operational ← slavesOperational impl.slaves
    pure
      { workingCounter := domain.workingCounter
        expectedWorkingCounter := none
        workingCounterComplete := domain.complete
        linkUp := master.linkUp
        allSlavesOperational := operational.all id
        dcDeviationNs := 0
        operationalAxesMask := operationalMask 0 operational }

/-! ## Transfers -/

/-- The slave of the address is replaced. -/
def setSlave (impl : Impl) (own : Slave) : Impl :=
  { impl with
    slaves := impl.slaves.map fun other =>
      if other.address = own.address then own else other }

/-- The active slave of an address. -/
def activeSlave (impl : Impl) (address : EthercatSlaveAddress) :
    Option Slave :=
  if impl.activated then impl.findSlave address else none

def scheduleDownload (impl : Impl) (own : Slave) (handle : ℕ)
    (request : SdoDownloadRequest) :
    Calls Empty (Impl × SdoTransferProgress) := do
  let (_, measured) ← ask (.requestDataSize (some handle))
  if measured.size ≠ request.data.length then
    pure (impl, sdoFailed .protocol .exactSizeRequestUnavailable)
  else do
    let (_, selected) ← ask (.requestIndex (some handle) request.address)
    if selected.code < 0 then
      pure (impl, sdoFailed .protocol .objectSelectionFailed)
    else do
      let _ ← ask (.requestData (some handle) request.data)
      let (_, scheduled) ← ask (.requestWrite (some handle))
      if scheduled.code < 0 then
        pure (impl, sdoFailed .io .downloadScheduleFailed)
      else
        pure (impl.setSlave { own with
            activeSdo := .download
            activeRequest := some handle
            activeAddress := request.address }, sdoPending)

def progressDownloadSdo (impl : Impl) (slave : EthercatSlaveAddress)
    (request : SdoDownloadRequest) :
    Calls Empty (Impl × SdoTransferProgress) :=
  match impl.activeSlave slave with
  | none => pure (impl, sdoFailed .unavailable .endpointUnavailable)
  | some own =>
      if request.data.length ∉ kDownloadRequestSizes then
        pure (impl, sdoFailed .invalidArgument .unsupportedDownloadSize)
      else if own.activeSdo = .none then
        match own.downloadRequests[
            kDownloadRequestSizes.idxOf request.data.length]? with
        | none =>
            pure (impl, sdoFailed .protocol .exactSizeRequestUnavailable)
        | some handle => impl.scheduleDownload own handle request
      else if own.activeSdo ≠ .download ∨
          own.activeAddress ≠ request.address then
        pure (impl, sdoFailed .protocol .conflictingRequest)
      else do
        let (_, reported) ← ask (.requestState own.activeRequest)
        match reported.requestState with
        | .unused => pure (impl, sdoPending)
        | .busy => pure (impl, sdoPending)
        | .success => pure (impl.setSlave own.finish, sdoCompleted 0)
        | .error =>
            pure (impl.setSlave own.finish, sdoFailed .io .transferFailed)
        | .other =>
            pure (impl.setSlave own.finish,
              sdoFailed .internal .unknownRequestState)

/-- The bytes copied to the destination come with the progress. -/
def progressUploadSdo (impl : Impl) (slave : EthercatSlaveAddress)
    (address : ObjectAddress) (destination : List (BitVec 8)) :
    Calls Empty (Impl × List (BitVec 8) × SdoTransferProgress) :=
  match impl.activeSlave slave with
  | none =>
      pure (impl, destination, sdoFailed .unavailable .endpointUnavailable)
  | some own =>
      if destination.isEmpty || kMailboxCapacity < destination.length then
        pure (impl, destination,
          sdoFailed .invalidArgument .invalidUploadCapacity)
      else if own.activeSdo = .none then do
        let (_, selected) ← ask (.requestIndex (some own.uploadRequest) address)
        if selected.code < 0 then
          pure (impl, destination, sdoFailed .io .uploadScheduleFailed)
        else do
          let (_, scheduled) ← ask (.requestRead (some own.uploadRequest))
          if scheduled.code < 0 then
            pure (impl, destination, sdoFailed .io .uploadScheduleFailed)
          else
            pure (impl.setSlave { own with
                activeSdo := .upload
                activeRequest := some own.uploadRequest
                activeAddress := address
                activeUploadLimit := destination.length },
              destination, sdoPending)
      else if own.activeSdo ≠ .upload ∨ own.activeAddress ≠ address then
        pure (impl, destination, sdoFailed .protocol .conflictingRequest)
      else do
        let (_, reported) ← ask (.requestState own.activeRequest)
        match reported.requestState with
        | .unused => pure (impl, destination, sdoPending)
        | .busy => pure (impl, destination, sdoPending)
        | .success => do
            let (_, measured) ← ask (.requestDataSize own.activeRequest)
            if own.activeUploadLimit < measured.size ∨
                kMailboxCapacity < measured.size then
              pure (impl.setSlave own.finish, destination,
                sdoFailed .protocol .uploadCapacityExceeded)
            else do
              let (_, memory) ← ask (.requestData own.activeRequest [])
              pure (impl.setSlave own.finish,
                memory.data.take measured.size ++
                  destination.drop measured.size,
                sdoCompleted measured.size)
        | .error =>
            pure (impl.setSlave own.finish, destination,
              sdoFailed .io .transferFailed)
        | .other =>
            pure (impl.setSlave own.finish, destination,
              sdoFailed .internal .unknownRequestState)

def progressCancelSdo (impl : Impl) (slave : EthercatSlaveAddress) :
    Calls Empty (Impl × SdoTransferProgress) :=
  match impl.activeSlave slave with
  | none => pure (impl, sdoFailed .unavailable .endpointUnavailable)
  | some own =>
      if own.activeSdo = .none ∨ own.activeRequest = none then
        pure (impl, sdoCompleted 0)
      else do
        let (_, reported) ← ask (.requestState own.activeRequest)
        match reported.requestState with
        | .unused => pure (impl, sdoPending)
        | .busy => pure (impl, sdoPending)
        | .success => pure (impl.setSlave own.clear, sdoCompleted 0)
        | .error => pure (impl.setSlave own.clear, sdoCompleted 0)
        | .other =>
            pure (impl, sdoFailed .internal .unknownRequestState)

end Impl

end Igh

end PolicyRuntime
