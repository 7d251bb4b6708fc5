import PolicyRuntime.EthercatMailbox

/-!
# SDO transfers of the IgH backend

For each configured slave the backend has at most one asynchronous request
under way.  It remembers the kind and the object of that request and refuses a
call for another one.  The state of a request is whatever the library answers.
-/

namespace PolicyRuntime

def kMailboxCapacity : ℕ := 4096

def kDownloadRequestSizes : List ℕ := [1, 2, 4, 8]

inductive ActiveSdo
  | none
  | download
  | upload
  deriving DecidableEq, Repr

/-- `ec_request_state_t`, and any value which it does not name. -/
inductive EcRequestState
  | unused
  | busy
  | success
  | error
  | other
  deriving DecidableEq, Repr

/-- An asynchronous request of a slave. -/
inductive IghRequest
  | download (index : ℕ)
  | upload
  deriving DecidableEq, Repr

/-- A configured slave.  A slave is added with all its asynchronous requests
or not at all, so none of them is a null pointer. -/
structure IghSlave where
  activeRequest : Option IghRequest := none
  activeSdo : ActiveSdo := .none
  activeAddress : ObjectAddress := ⟨0, 0⟩
  activeUploadLimit : ℕ := 0

/-- The addresses of configured slaves are distinct. -/
structure IghBackend where
  /-- The master and its domain have been requested. -/
  initialized : Bool
  activated : Bool
  slaves : EthercatSlaveAddress → Option IghSlave

/-- What the library answers during one call of the backend.  An axis is
configured once its entries are bound, too; the other fields are bound before
the master is activated. -/
structure EcrtAnswer where
  masterRequested : Bool
  slaveConfigured : EthercatSlaveAddress → Bool
  activated : Bool
  downloadSize : ℕ
  indexSelected : Bool
  scheduled : Bool
  requestState : EcRequestState
  data : List (BitVec 8)

def IghSlave.release (own : IghSlave) : IghSlave :=
  { own with activeSdo := .none, activeRequest := none }

namespace IghBackend

def constructed : IghBackend := ⟨false, false, fun _ => none⟩

def setSlave (backend : IghBackend) (slave : EthercatSlaveAddress)
    (own : IghSlave) : IghBackend :=
  { backend with slaves := Function.update backend.slaves slave (some own) }

/-- Configuring the axes in order, up to the first failure. -/
def configureSlaves (answer : EcrtAnswer) :
    IghBackend → List EthercatSlaveAddress → IghBackend × Bool
  | backend, [] => (backend, true)
  | backend, slave :: rest =>
      if !backend.activated && (backend.slaves slave).isNone &&
          answer.slaveConfigured slave then
        configureSlaves answer (backend.setSlave slave {}) rest
      else (backend, false)

def deactivate (backend : IghBackend) : IghBackend :=
  if backend.initialized then constructed else backend

/-- The calls of the master's `open`, with the axes of the master. -/
def start (axes : List EthercatSlaveAddress) (backend : IghBackend)
    (answer : EcrtAnswer) : IghBackend × Bool :=
  if backend.initialized || !answer.masterRequested then (backend, false)
  else
    let (configured, succeeded) :=
      configureSlaves answer { backend with initialized := true } axes
    if succeeded && !configured.activated && answer.activated then
      ({ configured with activated := true }, true)
    else (configured.deactivate, false)

/-- The slave of a call, while the master is active. -/
def findSlave (backend : IghBackend) (slave : EthercatSlaveAddress) :
    Option IghSlave :=
  if backend.activated then backend.slaves slave else none

def progressDownload (backend : IghBackend) (answer : EcrtAnswer)
    (slave : EthercatSlaveAddress) (request : SdoDownloadRequest) :
    IghBackend × SdoTransferProgress :=
  match backend.findSlave slave with
  | none => (backend, sdoFailed .unavailable .endpointUnavailable)
  | some own =>
      if request.data.length ∉ kDownloadRequestSizes then
        (backend, sdoFailed .invalidArgument .unsupportedDownloadSize)
      else if own.activeSdo = .none then
        if answer.downloadSize ≠ request.data.length then
          (backend, sdoFailed .protocol .exactSizeRequestUnavailable)
        else if !answer.indexSelected then
          (backend, sdoFailed .protocol .objectSelectionFailed)
        else if !answer.scheduled then
          (backend, sdoFailed .io .downloadScheduleFailed)
        else
          (backend.setSlave slave { own with
            activeSdo := .download
            activeRequest := some (.download
              (kDownloadRequestSizes.idxOf request.data.length))
            activeAddress := request.address }, sdoPending)
      else if own.activeSdo ≠ .download ∨
          own.activeAddress ≠ request.address then
        (backend, sdoFailed .protocol .conflictingRequest)
      else
        match answer.requestState with
        | .unused => (backend, sdoPending)
        | .busy => (backend, sdoPending)
        | .success => (backend.setSlave slave own.release, sdoCompleted 0)
        | .error =>
            (backend.setSlave slave own.release,
              sdoFailed .io .transferFailed)
        | .other =>
            (backend.setSlave slave own.release,
              sdoFailed .internal .unknownRequestState)

def progressUpload (backend : IghBackend) (answer : EcrtAnswer)
    (slave : EthercatSlaveAddress) (address : ObjectAddress)
    (destination : List (BitVec 8)) :
    IghBackend × List (BitVec 8) × SdoTransferProgress :=
  match backend.findSlave slave with
  | none =>
      (backend, destination, sdoFailed .unavailable .endpointUnavailable)
  | some own =>
      if destination.isEmpty || kMailboxCapacity < destination.length then
        (backend, destination,
          sdoFailed .invalidArgument .invalidUploadCapacity)
      else if own.activeSdo = .none then
        if !answer.indexSelected || !answer.scheduled then
          (backend, destination, sdoFailed .io .uploadScheduleFailed)
        else
          (backend.setSlave slave
            { activeSdo := .upload
              activeRequest := some .upload
              activeAddress := address
              activeUploadLimit := destination.length },
            destination, sdoPending)
      else if own.activeSdo ≠ .upload ∨ own.activeAddress ≠ address then
        (backend, destination, sdoFailed .protocol .conflictingRequest)
      else
        match answer.requestState with
        | .unused => (backend, destination, sdoPending)
        | .busy => (backend, destination, sdoPending)
        | .success =>
            let size := answer.data.length
            if own.activeUploadLimit < size || kMailboxCapacity < size then
              (backend.setSlave slave own.release, destination,
                sdoFailed .protocol .uploadCapacityExceeded)
            else
              (backend.setSlave slave own.release,
                answer.data ++ destination.drop size, sdoCompleted size)
        | .error =>
            (backend.setSlave slave own.release, destination,
              sdoFailed .io .transferFailed)
        | .other =>
            (backend.setSlave slave own.release, destination,
              sdoFailed .internal .unknownRequestState)

def progressCancel (backend : IghBackend) (answer : EcrtAnswer)
    (slave : EthercatSlaveAddress) : IghBackend × SdoTransferProgress :=
  match backend.findSlave slave with
  | none => (backend, sdoFailed .unavailable .endpointUnavailable)
  | some own =>
      if own.activeSdo = .none ∨ own.activeRequest = none then
        (backend, sdoCompleted 0)
      else
        match answer.requestState with
        | .unused => (backend, sdoPending)
        | .busy => (backend, sdoPending)
        | .success => (backend.setSlave slave {}, sdoCompleted 0)
        | .error => (backend.setSlave slave {}, sdoCompleted 0)
        | .other => (backend, sdoFailed .internal .unknownRequestState)

/-- No call of this backend throws. -/
def calls (axes : List EthercatSlaveAddress) :
    SdoBackend IghBackend EcrtAnswer where
  start := start axes
  deactivate := deactivate
  progressDownload := fun backend answer slave request =>
    let (next, progress) := backend.progressDownload answer slave request
    (next, some progress)
  progressUpload := fun backend answer slave address destination =>
    let (next, data, progress) :=
      backend.progressUpload answer slave address destination
    (next, data, some progress)
  progressCancel := fun backend answer slave =>
    let (next, progress) := backend.progressCancel answer slave
    (next, some progress)

/-! ## What a call does -/

/-- A request whose data fits a transfer of the backend. -/
def Transferable (current : MailboxRequest) : Prop :=
  if current.upload then
    current.transfer.data ≠ [] ∧
      current.transfer.data.length ≤ kMailboxCapacity
  else current.transfer.data.length ∈ kDownloadRequestSizes

theorem transferable_download {current : MailboxRequest}
    (hkind : current.upload = false) :
    Transferable current ↔
      current.transfer.data.length ∈ kDownloadRequestSizes := by
  rw [Transferable, if_neg (by simp [hkind])]

theorem transferable_upload {current : MailboxRequest}
    (hkind : current.upload = true) :
    Transferable current ↔
      current.transfer.data ≠ [] ∧
        current.transfer.data.length ≤ kMailboxCapacity := by
  rw [Transferable, if_pos hkind]

/-- The slave's transfer is that of the request. -/
structure Serves (own : IghSlave) (current : MailboxRequest) : Prop where
  request : own.activeRequest ≠ none
  kind : own.activeSdo = if current.upload then .upload else .download
  address : own.activeAddress = current.transfer.address
  transferable : Transferable current

def Idle (backend : IghBackend) (slave : EthercatSlaveAddress) : Prop :=
  ∀ own, backend.slaves slave = some own → own.activeSdo = .none

/-- A transfer which is under way is that of the request. -/
def Carries (backend : IghBackend) (slave : EthercatSlaveAddress)
    (current : MailboxRequest) : Prop :=
  ∀ own, backend.slaves slave = some own → own.activeSdo ≠ .none →
    backend.activated = true ∧ Serves own current

/-- What a call for a request leaves of the transfer. -/
inductive Progressed (backend : IghBackend) (slave : EthercatSlaveAddress)
    (current : MailboxRequest) :
    IghBackend → MailboxRequest → SdoTransferProgress → Prop
  | refused {changed : MailboxRequest} {progress : SdoTransferProgress}
      (hidle : backend.Idle slave)
      (hreason : progress.failureReason ≠ .conflictingRequest) :
      Progressed backend slave current backend changed progress
  | scheduled {own : IghSlave} (hactivated : backend.activated = true)
      (hserves : Serves own current) :
      Progressed backend slave current (backend.setSlave slave own) current
        sdoPending
  | waiting : Progressed backend slave current backend current sdoPending
  | released {own : IghSlave} {changed : MailboxRequest}
      {progress : SdoTransferProgress} (hidle : own.activeSdo = .none)
      (hreason : progress.failureReason ≠ .conflictingRequest) :
      Progressed backend slave current (backend.setSlave slave own) changed
        progress

variable {backend : IghBackend} {slave : EthercatSlaveAddress}
  {current : MailboxRequest}

theorem idle_of_findSlave (hcarries : backend.Carries slave current)
    (hnone : backend.findSlave slave = none) : backend.Idle slave := by
  intro own hown
  by_contra hactive
  rw [findSlave, if_pos (hcarries own hown hactive).1, hown] at hnone
  cases hnone

theorem findSlave_eq_some {own : IghSlave}
    (hfind : backend.findSlave slave = some own) :
    backend.activated = true ∧ backend.slaves slave = some own := by
  unfold findSlave at hfind
  split at hfind
  · next hactivated => exact ⟨hactivated, hfind⟩
  · cases hfind

theorem idle_of_slave {own : IghSlave}
    (hown : backend.slaves slave = some own) (hidle : own.activeSdo = .none) :
    backend.Idle slave := by
  intro other hother
  rw [hown] at hother
  cases hother
  exact hidle

theorem progressDownload_progressed (answer : EcrtAnswer)
    (hcarries : backend.Carries slave current)
    (hkind : current.upload = false) :
    Progressed backend slave current
      (backend.progressDownload answer slave current.transfer).1 current
      (backend.progressDownload answer slave current.transfer).2 := by
  unfold progressDownload
  cases hfind : backend.findSlave slave with
  | none => exact .refused (idle_of_findSlave hcarries hfind) nofun
  | some own =>
      obtain ⟨hactivated, hown⟩ := findSlave_eq_some hfind
      dsimp only
      by_cases hactive : own.activeSdo = .none
      · have hidle := idle_of_slave hown hactive
        rw [if_pos hactive]
        split
        · exact .refused hidle nofun
        · next hsize =>
            split
            · exact .refused hidle nofun
            · split
              · exact .refused hidle nofun
              · split
                · exact .refused hidle nofun
                · refine .scheduled hactivated ⟨nofun, ?_, rfl, ?_⟩
                  · rw [hkind]
                    rfl
                  · exact (transferable_download hkind).mpr (not_not.mp hsize)
      · obtain ⟨-, hserves⟩ := hcarries own hown hactive
        have hsize :=
          (transferable_download hkind).mp hserves.transferable
        have hmatch : ¬ (own.activeSdo ≠ .download ∨
            own.activeAddress ≠ current.transfer.address) := by
          rw [hserves.kind, hkind, hserves.address]
          simp
        rw [if_neg (not_not.mpr hsize), if_neg hactive, if_neg hmatch]
        cases answer.requestState with
        | unused => exact .waiting
        | busy => exact .waiting
        | success => exact .released rfl nofun
        | error => exact .released rfl nofun
        | other => exact .released rfl nofun

theorem progressUpload_progressed (answer : EcrtAnswer)
    (hcarries : backend.Carries slave current)
    (hkind : current.upload = true) :
    Progressed backend slave current
      (backend.progressUpload answer slave current.transfer.address
        current.transfer.data).1
      (current.setData (backend.progressUpload answer slave
        current.transfer.address current.transfer.data).2.1)
      (backend.progressUpload answer slave current.transfer.address
        current.transfer.data).2.2 := by
  unfold progressUpload
  cases hfind : backend.findSlave slave with
  | none => exact .refused (idle_of_findSlave hcarries hfind) nofun
  | some own =>
      obtain ⟨hactivated, hown⟩ := findSlave_eq_some hfind
      dsimp only
      by_cases hactive : own.activeSdo = .none
      · have hidle := idle_of_slave hown hactive
        rw [if_pos hactive]
        split
        · exact .refused hidle nofun
        · next hsize =>
            split
            · exact .refused hidle nofun
            · refine .scheduled hactivated ⟨nofun, ?_, rfl, ?_⟩
              · rw [hkind]
                rfl
              · rw [transferable_upload hkind]
                simpa using hsize
      · obtain ⟨-, hserves⟩ := hcarries own hown hactive
        have hsize :=
          (transferable_upload hkind).mp hserves.transferable
        have hmatch : ¬ (own.activeSdo ≠ .upload ∨
            own.activeAddress ≠ current.transfer.address) := by
          rw [hserves.kind, hkind, hserves.address]
          simp
        rw [if_neg (by simpa using hsize), if_neg hactive, if_neg hmatch]
        cases answer.requestState with
        | unused => exact .waiting
        | busy => exact .waiting
        | success =>
            dsimp only
            split
            · exact .released rfl nofun
            · exact .released rfl nofun
        | error => exact .released rfl nofun
        | other => exact .released rfl nofun

/-- A call for the request whose transfer is under way is not refused as a
conflicting one. -/
theorem progressRequest_progressed (axes : List EthercatSlaveAddress)
    (answer : EcrtAnswer) (hcarries : backend.Carries slave current) :
    Progressed backend slave current
      (MailboxSystem.progressRequest (calls axes) slave answer backend
        current).1
      (MailboxSystem.progressRequest (calls axes) slave answer backend
        current).2.1
      (MailboxSystem.progressRequest (calls axes) slave answer backend
        current).2.2 := by
  unfold MailboxSystem.progressRequest
  cases hkind : current.upload with
  | true => exact progressUpload_progressed answer hcarries hkind
  | false => exact progressDownload_progressed answer hcarries hkind

theorem Progressed.reason {next : IghBackend} {changed : MailboxRequest}
    {progress : SdoTransferProgress}
    (h : Progressed backend slave current next changed progress) :
    progress.failureReason ≠ .conflictingRequest := by
  cases h with
  | refused hidle hreason => exact hreason
  | scheduled hactivated hserves => exact nofun
  | waiting => exact nofun
  | released hidle hreason => exact hreason

/-! ## Other calls -/

@[simp] theorem setSlave_self (own : IghSlave) :
    (backend.setSlave slave own).slaves slave = some own := by
  unfold setSlave
  exact Function.update_self ..

theorem setSlave_of_ne {other : EthercatSlaveAddress} (own : IghSlave)
    (hne : other ≠ slave) :
    (backend.setSlave other own).slaves slave = backend.slaves slave := by
  unfold setSlave
  exact Function.update_of_ne hne.symm ..

theorem idle_setSlave {own : IghSlave} (hidle : own.activeSdo = .none) :
    (backend.setSlave slave own).Idle slave :=
  idle_of_slave (setSlave_self own) hidle

/-- A cancellation completes once the slave has no transfer. -/
theorem progressCancel_idle (answer : EcrtAnswer)
    (hrequest : ∀ own, backend.slaves slave = some own →
      own.activeSdo ≠ .none → own.activeRequest ≠ none) :
    (backend.progressCancel answer slave).1.Idle slave ∨
      (backend.progressCancel answer slave).1 = backend ∧
        (backend.progressCancel answer slave).2.state ≠ .completed := by
  unfold progressCancel
  cases hfind : backend.findSlave slave with
  | none => exact Or.inr ⟨rfl, nofun⟩
  | some own =>
      have hown := (findSlave_eq_some hfind).2
      dsimp only
      split
      · next hnone =>
          refine Or.inl (idle_of_slave hown ?_)
          rcases hnone with hidle | hlost
          · exact hidle
          · by_contra hactive
            exact hrequest own hown hactive hlost
      · cases answer.requestState with
        | unused => exact Or.inr ⟨rfl, nofun⟩
        | busy => exact Or.inr ⟨rfl, nofun⟩
        | success => exact Or.inl (idle_setSlave rfl)
        | error => exact Or.inl (idle_setSlave rfl)
        | other => exact Or.inr ⟨rfl, nofun⟩

theorem deactivate_idle
    (hinitialized : ∀ own, backend.slaves slave = some own →
      own.activeSdo ≠ .none → backend.initialized = true) :
    backend.deactivate.Idle slave := by
  unfold deactivate
  split
  · exact nofun
  · next hclosed =>
      intro own hown
      by_contra hactive
      exact hclosed (hinitialized own hown hactive)

theorem configureSlaves_idle (answer : EcrtAnswer)
    (axes : List EthercatSlaveAddress) (hidle : backend.Idle slave) :
    (configureSlaves answer backend axes).1.Idle slave := by
  induction axes generalizing backend with
  | nil => exact hidle
  | cons axis rest ih =>
      unfold configureSlaves
      split
      · apply ih
        by_cases hsame : axis = slave
        · rw [hsame]
          exact idle_setSlave rfl
        · intro own hown
          rw [setSlave_of_ne _ hsame] at hown
          exact hidle own hown
      · exact hidle

theorem start_idle (axes : List EthercatSlaveAddress) (answer : EcrtAnswer)
    (hidle : backend.Idle slave) :
    (start axes backend answer).1.Idle slave := by
  have hconfigured : (configureSlaves answer
      { backend with initialized := true } axes).1.Idle slave :=
    configureSlaves_idle answer axes hidle
  unfold start
  split
  · exact hidle
  · dsimp only
    split
    · exact hconfigured
    · unfold deactivate
      split
      · exact nofun
      · exact hconfigured

/-- A master which has been requested is not started again. -/
theorem start_of_initialized (axes : List EthercatSlaveAddress)
    (answer : EcrtAnswer) (hinitialized : backend.initialized = true) :
    start axes backend answer = (backend, false) := by
  rw [start, if_pos (by simp [hinitialized])]

/-- What a call for one slave leaves alone at another. -/
structure SameSlave (slave : EthercatSlaveAddress)
    (next backend : IghBackend) : Prop where
  initialized : next.initialized = backend.initialized
  activated : next.activated = backend.activated
  slave : next.slaves slave = backend.slaves slave

theorem sameSlave_setSlave {other : EthercatSlaveAddress} (own : IghSlave)
    (hne : other ≠ slave) :
    SameSlave slave (backend.setSlave other own) backend :=
  ⟨rfl, rfl, setSlave_of_ne own hne⟩

theorem sameSlave_of_touched {other : EthercatSlaveAddress}
    {next : IghBackend} (hne : other ≠ slave)
    (htouched : next = backend ∨ ∃ own, next = backend.setSlave other own) :
    SameSlave slave next backend := by
  rcases htouched with rfl | ⟨own, rfl⟩
  · exact ⟨rfl, rfl, rfl⟩
  · exact sameSlave_setSlave own hne

theorem progressDownload_touched (answer : EcrtAnswer)
    (request : SdoDownloadRequest) :
    (backend.progressDownload answer slave request).1 = backend ∨
      ∃ own, (backend.progressDownload answer slave request).1 =
        backend.setSlave slave own := by
  unfold progressDownload
  repeat' split
  all_goals first
    | exact Or.inl rfl
    | exact Or.inr ⟨_, rfl⟩

theorem progressUpload_touched (answer : EcrtAnswer) (address : ObjectAddress)
    (destination : List (BitVec 8)) :
    (backend.progressUpload answer slave address destination).1 = backend ∨
      ∃ own, (backend.progressUpload answer slave address destination).1 =
        backend.setSlave slave own := by
  unfold progressUpload
  dsimp only
  repeat' split
  all_goals first
    | exact Or.inl rfl
    | exact Or.inr ⟨_, rfl⟩

theorem progressCancel_touched (answer : EcrtAnswer) :
    (backend.progressCancel answer slave).1 = backend ∨
      ∃ own, (backend.progressCancel answer slave).1 =
        backend.setSlave slave own := by
  unfold progressCancel
  repeat' split
  all_goals first
    | exact Or.inl rfl
    | exact Or.inr ⟨_, rfl⟩

theorem sameSlave_otherCall (axes : List EthercatSlaveAddress)
    {other : EthercatSlaveAddress} (hne : other ≠ slave)
    (answer : EcrtAnswer) (transfer : Option (Bool × SdoDownloadRequest)) :
    SameSlave slave
      (MailboxSystem.otherCall (calls axes) other answer transfer backend)
      backend := by
  cases transfer with
  | none => exact sameSlave_of_touched hne (progressCancel_touched answer)
  | some transfer =>
      obtain ⟨upload, request⟩ := transfer
      cases upload with
      | true =>
          exact sameSlave_of_touched hne
            (progressUpload_touched answer request.address request.data)
      | false =>
          exact sameSlave_of_touched hne
            (progressDownload_touched answer request)

/-! ## Starting -/

def Started (backend : IghBackend) : Prop :=
  backend.activated = true → backend.initialized = true

theorem started_constructed : constructed.Started := nofun

theorem Started.deactivate (h : backend.Started) :
    backend.deactivate.Started := by
  unfold IghBackend.deactivate
  split
  · exact started_constructed
  · exact h

theorem configureSlaves_initialized (answer : EcrtAnswer)
    (backend : IghBackend) (axes : List EthercatSlaveAddress) :
    (configureSlaves answer backend axes).1.initialized =
      backend.initialized := by
  induction axes generalizing backend with
  | nil => rfl
  | cons axis rest ih =>
      unfold configureSlaves
      split
      · exact ih (backend.setSlave axis {})
      · rfl

theorem Started.start (h : backend.Started) (axes : List EthercatSlaveAddress)
    (answer : EcrtAnswer) : (start axes backend answer).1.Started := by
  have hinitialized := configureSlaves_initialized answer
    { backend with initialized := true } axes
  unfold IghBackend.start
  split
  · exact h
  · dsimp only
    split
    · exact fun _ => hinitialized
    · exact Started.deactivate fun _ => hinitialized

theorem Started.of_touched {next : IghBackend} (h : backend.Started)
    (htouched : next = backend ∨ ∃ own, next = backend.setSlave slave own) :
    next.Started := by
  rcases htouched with rfl | ⟨own, rfl⟩
  · exact h
  · exact h

theorem SameSlave.started {next : IghBackend}
    (hsame : SameSlave slave next backend) (h : backend.Started) :
    next.Started := by
  unfold Started
  rw [hsame.initialized, hsame.activated]
  exact h

end IghBackend

end PolicyRuntime
