import PolicyRuntime.EthercatMaster

/-!
# EtherCAT mailboxes

A mailbox keeps the requests of its clients and hands them, one at a time, to
the owner of the master, which progresses them on the backend.  Clients enqueue,
stage and ask for the status under `requests_mutex_`.  Opening and closing the
mailbox happens under `lifecycle_mutex_`, on its own or as a part of opening and
closing the master.  The owner takes no lock.

The machine follows one mailbox of a master.  A step is one access to an atomic
or one backend call; a thread which waits for a mutex takes no step.  The other
mailboxes appear as answers to the master (whether they could be opened) and as
calls of the owner on other slaves.
-/

namespace PolicyRuntime

/-! ## Requests -/

inductive RequestPhase
  | queued
  | staged
  | active
  | terminalizing
  | completed
  | failed
  deriving DecidableEq, Repr

inductive FailureKind
  | none
  | closed
  | backend
  deriving DecidableEq, Repr

inductive SdoTransferState
  | pending
  | completed
  | failed
  deriving DecidableEq, Repr

inductive SdoFailureReason
  | none
  | backendException
  | endpointUnavailable
  | unsupportedDownloadSize
  | exactSizeRequestUnavailable
  | objectSelectionFailed
  | downloadScheduleFailed
  | conflictingRequest
  | invalidUploadCapacity
  | uploadScheduleFailed
  | uploadCapacityExceeded
  | transferFailed
  | unknownRequestState
  deriving DecidableEq, Repr

structure SdoTransferProgress where
  state : SdoTransferState
  errorCode : ErrorCode
  failureReason : SdoFailureReason
  uploadedSize : ℕ
  deriving DecidableEq, Repr

def sdoPending : SdoTransferProgress := ⟨.pending, .io, .none, 0⟩

def sdoCompleted (uploadedSize : ℕ) : SdoTransferProgress :=
  ⟨.completed, .io, .none, uploadedSize⟩

def sdoFailed (code : ErrorCode) (reason : SdoFailureReason) :
    SdoTransferProgress :=
  ⟨.failed, code, reason, 0⟩

def sdoFailureMessage : SdoFailureReason → String
  | .none => "EtherCAT SDO transfer failed"
  | .backendException => "EtherCAT SDO backend raised an exception"
  | .endpointUnavailable => "EtherCAT SDO endpoint is unavailable"
  | .unsupportedDownloadSize => "EtherCAT SDO download size is unsupported"
  | .exactSizeRequestUnavailable =>
      "EtherCAT exact-size SDO request is unavailable"
  | .objectSelectionFailed => "EtherCAT SDO object selection failed"
  | .downloadScheduleFailed => "EtherCAT SDO download scheduling failed"
  | .conflictingRequest => "A different EtherCAT SDO request is active"
  | .invalidUploadCapacity => "EtherCAT SDO upload capacity is invalid"
  | .uploadScheduleFailed => "EtherCAT SDO upload scheduling failed"
  | .uploadCapacityExceeded => "EtherCAT SDO upload exceeded its capacity"
  | .transferFailed => "EtherCAT SDO transfer failed"
  | .unknownRequestState => "EtherCAT SDO request entered an unknown state"

structure MailboxRequest where
  generation : ℕ
  upload : Bool
  transfer : SdoDownloadRequest
  phase : RequestPhase
  failureKind : FailureKind
  backendErrorCode : ErrorCode
  backendFailureReason : SdoFailureReason
  uploadedSize : ℕ

def kMaximumSdoUploadBytes : ℕ := 4096

/-- The request which `enqueue` inserts. -/
def MailboxRequest.queued (generation : ℕ) (upload : Bool)
    (address : ObjectAddress) (data : List (BitVec 8)) : MailboxRequest where
  generation := generation
  upload := upload
  transfer := ⟨address,
    if upload then List.replicate kMaximumSdoUploadBytes 0#8 else data⟩
  phase := .queued
  failureKind := .none
  backendErrorCode := .io
  backendFailureReason := .none
  uploadedSize := 0

def MailboxRequest.setPhase (request : MailboxRequest)
    (phase : RequestPhase) : MailboxRequest :=
  { request with phase := phase }

def MailboxRequest.setData (request : MailboxRequest)
    (data : List (BitVec 8)) : MailboxRequest :=
  { request with transfer := ⟨request.transfer.address, data⟩ }

inductive MailboxRequestState
  | queued
  | completed
  | failed
  deriving DecidableEq, Repr

structure MailboxRequestStatus where
  state : MailboxRequestState
  error : Option Error
  data : List (BitVec 8)

def MailboxRequestStatus.queued : MailboxRequestStatus := ⟨.queued, none, []⟩

def MailboxRequest.completedStatus (request : MailboxRequest) :
    MailboxRequestStatus where
  state := .completed
  error := none
  data :=
    if request.upload then
      request.transfer.data.take
        (min request.uploadedSize request.transfer.data.length)
    else []

def MailboxRequest.failedStatus (request : MailboxRequest) :
    MailboxRequestStatus where
  state := .failed
  error :=
    if request.failureKind = .backend then
      some ⟨request.backendErrorCode,
        sdoFailureMessage request.backendFailureReason⟩
    else
      some ⟨.unavailable, "EtherCAT mailbox closed before completion"⟩
  data := []

/-- Whether the owner completes the request with a result of the backend. -/
def MailboxRequest.completes (request : MailboxRequest)
    (progress : SdoTransferProgress) (stillCurrent : Bool) : Bool :=
  progress.state = .completed && stillCurrent &&
    (!request.upload ||
      progress.uploadedSize ≤ request.transfer.data.length)

/-- The owner's last store to a request. -/
def MailboxRequest.finish (request : MailboxRequest)
    (progress : SdoTransferProgress) (stillCurrent : Bool) :
    MailboxRequest :=
  if request.completes progress stillCurrent then
    { request with
      uploadedSize := progress.uploadedSize
      phase := .completed }
  else if stillCurrent then
    { request with
      failureKind := .backend
      backendErrorCode := progress.errorCode
      backendFailureReason := progress.failureReason
      phase := .failed }
  else
    { request with
      failureKind := .closed
      phase := .failed }

/-! ## Backends -/

/-- The calls on a backend which concern mailboxes.  A call may answer
differently each time, so it takes an answer of the environment; a call without
a result has thrown. -/
structure SdoBackend (σ κ : Type) where
  /-- `initialize`, the configuration of the slaves and `activate` -/
  start : σ → κ → σ × Bool
  deactivate : σ → σ
  progressDownload : σ → κ → EthercatSlaveAddress → SdoDownloadRequest →
    σ × Option SdoTransferProgress
  progressUpload : σ → κ → EthercatSlaveAddress → ObjectAddress →
    List (BitVec 8) → σ × List (BitVec 8) × Option SdoTransferProgress
  progressCancel : σ → κ → EthercatSlaveAddress →
    σ × Option SdoTransferProgress

/-! ## Threads -/

/-- Where the owner stands.  Inside `owner_step` a phase is named after the
step before it. -/
inductive MailboxOwnerPhase
  | outside
  | admitted
  | called (parent : ℕ)
  | cancelling
  | cancelled
  | unstaged
  | uncancelled (parent : ℕ)
  | loaded (parent request : ℕ)
  | current (parent request : ℕ)
  | opened (parent request : ℕ)
  | claiming (parent request : ℕ)
  | progressing (parent request : ℕ)
  | progressed (parent request : ℕ) (progress : SdoTransferProgress)
  | terminalizing (parent request : ℕ) (progress : SdoTransferProgress)
  | deciding (parent request : ℕ) (progress : SdoTransferProgress)
  | storing (request : ℕ) (progress : SdoTransferProgress)
      (stillCurrent : Bool)
  | clearing (request : ℕ)
  | returned
  deriving DecidableEq, Repr

/-- The conditions which opening a mailbox checks. -/
inductive OpenCheck
  | closed
  | uncancelled
  | unstaged
  | parentActive
  deriving DecidableEq, Repr

/-- Where `fail_request` stands with one request. -/
inductive FailPhase
  | start
  | trying (seen : RequestPhase)
  | claimed
  deriving DecidableEq, Repr

/-- What the holder of `lifecycle_mutex_` is doing.  `done` is the return of a
call which the master has made. -/
inductive LifecyclePhase
  | free
  | openCalled
  | opening (generation : ℕ) (checks : List OpenCheck) (byParent : Bool)
  | closeCalled
  | parentCloseCalled (generation : ℕ)
  | parentClearing (generation : ℕ)
  | closing (generation : ℕ) (requestCancel : Bool)
  | failing (generation : ℕ) (requestCancel : Bool) (request : ℕ)
      (phase : FailPhase)
  | cancelling (generation : ℕ)
  | resetting (stage : ℕ)
  | done (succeeded : Bool)
  deriving DecidableEq, Repr

structure EnqueueArguments where
  upload : Bool
  address : ObjectAddress
  data : List (BitVec 8)

/-- Where a client stands in `enqueue`, in `cycle` with `stage_one`, or in
`mailbox_status`. -/
inductive ClientPhase
  | idle
  | enqueueCalled (arguments : EnqueueArguments)
  | enqueueOpened (arguments : EnqueueArguments) (generation : ℕ)
  | enqueueReady (arguments : EnqueueArguments) (generation : ℕ)
  | enqueueLocked (arguments : EnqueueArguments) (generation : ℕ)
  | enqueueChecked (arguments : EnqueueArguments) (generation : ℕ)
  | cycleCalled
  | cycleOpened (generation : ℕ)
  | stageCalled
  | stageReady
  | stageLocked
  | stageOpened (generation : ℕ)
  | stageCurrent (generation : ℕ)
  | stageSearching (generation request : ℕ)
  | stageFound (request : ℕ)
  | stagePublishing (request : ℕ)
  | stageReverting (request : ℕ)
  | statusCalled (request : ℕ)
  | statusLocked (request : ℕ)
  | statusTerminalizing (request : ℕ)

/-- Where the holder of the master's mutex stands.  A failed `open` and a
`close` end alike, with `rollback` telling them apart. -/
inductive MasterPhase
  | idle
  | openCalled
  | starting
  | numbering
  | offering (generation : ℕ)
  | offered (generation : ℕ)
  | confirming (generation : ℕ)
  | publishing (generation : ℕ)
  | admitting
  | closeCalled
  | unpublishing
  | closing (generation : ℕ) (rollback : Bool)
  | closed (generation : ℕ) (rollback : Bool)
  | waiting
  | deactivating (rollback : Bool)
  | resetting (rollback : Bool)
  | reset (rollback : Bool)
  deriving DecidableEq, Repr

/-- A request is named by its position; the ids of the source count from one.
With one owner, the count of admitted cycles is whether it is inside. -/
structure MailboxSystem (σ ρ : Type) where
  requests : List MailboxRequest
  staged : Option ℕ
  openGeneration : ℕ
  cancelGeneration : ℕ
  activeGeneration : ℕ
  generation : ℕ
  nextGeneration : ℕ
  admissionOpen : Bool
  backend : σ
  /-- `none` inside is the holder of `lifecycle_mutex_` -/
  requestsMutex : Option (Option ρ)
  owner : MailboxOwnerPhase
  lifecycle : LifecyclePhase
  master : MasterPhase
  clients : ρ → ClientPhase

inductive MailboxInput (κ ρ : Type)
  | enqueue (client : ρ) (arguments : EnqueueArguments)
  | cycle (client : ρ)
  | status (client : ρ) (request : ℕ)
  | client (client : ρ)
  | openMailbox
  | closeMailbox
  | lifecycle (spurious : Bool)
  | openMaster
  | closeMaster
  | master (succeeds : Bool) (answer : κ)
  | ownerCycle
  | ownerReach (reaches : Bool)
  | ownerOther (slave : EthercatSlaveAddress) (answer : κ)
      (transfer : Option (Bool × SdoDownloadRequest))
  | owner (answer : κ)

inductive MailboxOutput (ρ : Type)
  | quiet
  | enqueued (client : ρ) (result : Except Error ℕ)
  | reported (client : ρ) (request : ℕ)
      (status : Option MailboxRequestStatus)
  | opened (result : Except Error Unit)
  | progressed (request : ℕ) (progress : SdoTransferProgress)
  | cancelled (progress : Option SdoTransferProgress)
  | deactivated
  | masterOpened (succeeded : Bool)

namespace MailboxSystem

variable {σ κ ρ : Type}

def constructed (backend : σ) : MailboxSystem σ ρ where
  requests := []
  staged := none
  openGeneration := 0
  cancelGeneration := 0
  activeGeneration := 0
  generation := 0
  nextGeneration := 1
  admissionOpen := false
  backend := backend
  requestsMutex := none
  owner := .outside
  lifecycle := .free
  master := .idle
  clients := fun _ => .idle

def phaseOf (system : MailboxSystem σ ρ) (request : ℕ) :
    Option RequestPhase :=
  system.requests[request]?.map MailboxRequest.phase

def modifyRequest (system : MailboxSystem σ ρ) (request : ℕ)
    (change : MailboxRequest → MailboxRequest) : MailboxSystem σ ρ :=
  { system with requests := system.requests.modify request change }

def setOwner (system : MailboxSystem σ ρ) (phase : MailboxOwnerPhase) :
    MailboxSystem σ ρ :=
  { system with owner := phase }

def setLifecycle (system : MailboxSystem σ ρ) (phase : LifecyclePhase) :
    MailboxSystem σ ρ :=
  { system with lifecycle := phase }

def setMaster (system : MailboxSystem σ ρ) (phase : MasterPhase) :
    MailboxSystem σ ρ :=
  { system with master := phase }

/-! ## The owner -/

/-- The call of the owner for a staged request.  An exception is a failure. -/
def progressRequest (calls : SdoBackend σ κ) (slave : EthercatSlaveAddress)
    (answer : κ) (backend : σ) (request : MailboxRequest) :
    σ × MailboxRequest × SdoTransferProgress :=
  let thrown := sdoFailed .internal .backendException
  if request.upload then
    let (next, data, progress) := calls.progressUpload backend answer slave
      request.transfer.address request.transfer.data
    (next, request.setData data, progress.getD thrown)
  else
    let (next, progress) :=
      calls.progressDownload backend answer slave request.transfer
    (next, request, progress.getD thrown)

/-- The next step of `owner_step`. -/
def ownerStep (calls : SdoBackend σ κ) (slave : EthercatSlaveAddress)
    (answer : κ) (system : MailboxSystem σ ρ) :
    MailboxSystem σ ρ × MailboxOutput ρ :=
  match system.owner with
  | .outside => (system, .quiet)
  | .admitted => (system, .quiet)
  | .called parent =>
      if system.cancelGeneration ≠ 0 then
        (system.setOwner .cancelling, .quiet)
      else
        (system.setOwner (.uncancelled parent), .quiet)
  | .cancelling =>
      let (next, progress) :=
        calls.progressCancel system.backend answer slave
      ({ system with
          backend := next
          owner :=
            if progress.map SdoTransferProgress.state = some .completed then
              .cancelled
            else .returned }, .cancelled progress)
  | .cancelled =>
      ({ system with staged := none, owner := .unstaged }, .quiet)
  | .unstaged =>
      ({ system with cancelGeneration := 0, owner := .returned }, .quiet)
  | .uncancelled parent =>
      match system.staged with
      | none => (system.setOwner .returned, .quiet)
      | some request => (system.setOwner (.loaded parent request), .quiet)
  | .loaded parent request =>
      if system.requests[request]?.map MailboxRequest.generation =
            some parent ∧ system.activeGeneration = parent then
        (system.setOwner (.current parent request), .quiet)
      else (system.setOwner .returned, .quiet)
  | .current parent request =>
      if system.openGeneration = parent then
        (system.setOwner (.opened parent request), .quiet)
      else (system.setOwner .returned, .quiet)
  | .opened parent request =>
      match system.phaseOf request with
      | some .staged => (system.setOwner (.claiming parent request), .quiet)
      | some .active =>
          (system.setOwner (.progressing parent request), .quiet)
      | _ => (system.setOwner .returned, .quiet)
  | .claiming parent request =>
      if system.phaseOf request = some .staged then
        ((system.modifyRequest request fun r => r.setPhase .active).setOwner
          (.progressing parent request), .quiet)
      else (system.setOwner .returned, .quiet)
  | .progressing parent request =>
      match system.requests[request]? with
      | none => (system.setOwner .returned, .quiet)
      | some current =>
          let (next, changed, progress) :=
            progressRequest calls slave answer system.backend current
          ({ system with
              backend := next
              requests := system.requests.modify request fun _ => changed
              owner :=
                if progress.state = .pending then .returned
                else .progressed parent request progress },
            .progressed request progress)
  | .progressed parent request progress =>
      if system.phaseOf request = some .active then
        ((system.modifyRequest request fun r =>
          r.setPhase .terminalizing).setOwner
            (.terminalizing parent request progress), .quiet)
      else (system.setOwner .returned, .quiet)
  | .terminalizing parent request progress =>
      if system.activeGeneration = parent then
        (system.setOwner (.deciding parent request progress), .quiet)
      else (system.setOwner (.storing request progress false), .quiet)
  | .deciding parent request progress =>
      (system.setOwner (.storing request progress
        (system.openGeneration = parent)), .quiet)
  | .storing request progress stillCurrent =>
      ((system.modifyRequest request fun r =>
        r.finish progress stillCurrent).setOwner (.clearing request), .quiet)
  | .clearing request =>
      if system.staged = some request then
        ({ system with staged := none, owner := .returned }, .quiet)
      else (system.setOwner .returned, .quiet)
  | .returned => (system, .quiet)

/-- A call of the owner for another mailbox of the master. -/
def otherCall (calls : SdoBackend σ κ) (slave : EthercatSlaveAddress)
    (answer : κ) (transfer : Option (Bool × SdoDownloadRequest))
    (backend : σ) : σ :=
  match transfer with
  | none => (calls.progressCancel backend answer slave).1
  | some (true, request) =>
      (calls.progressUpload backend answer slave request.address
        request.data).1
  | some (false, request) =>
      (calls.progressDownload backend answer slave request).1

/-! ## Opening and closing the mailbox -/

def passes (system : MailboxSystem σ ρ) (generation : ℕ) :
    OpenCheck → Bool
  | .closed => system.openGeneration = 0
  | .uncancelled => system.cancelGeneration = 0
  | .unstaged => system.staged.isNone
  | .parentActive => system.activeGeneration = generation

/-- The checks of `open` after it has read the generation of its parent. -/
def openChecks : List OpenCheck :=
  [.closed, .uncancelled, .unstaged, .parentActive]

def openForParentChecks : List OpenCheck := [.closed, .uncancelled, .unstaged]

def openError : OpenCheck → Error
  | .closed => ⟨.invalidArgument, "EtherCAT mailbox is already open"⟩
  | .uncancelled => ⟨.unavailable,
      "EtherCAT mailbox cancellation is awaiting an owner cycle"⟩
  | .unstaged => ⟨.unavailable,
      "EtherCAT mailbox cancellation is awaiting an owner cycle"⟩
  | .parentActive => ⟨.unavailable,
      "EtherCAT mailbox parent generation changed"⟩

/-- The end of `fail_request` for one request. -/
def nextRequest (generation : ℕ) (requestCancel : Bool) (request : ℕ) :
    LifecyclePhase :=
  .failing generation requestCancel (request + 1) .start

/-- A step of `fail_request`.  The wait for the owner to leave `terminalizing`
takes no step, and a weak compare-exchange may fail on an equal phase. -/
def failStep (spurious : Bool) (system : MailboxSystem σ ρ)
    (generation : ℕ) (requestCancel : Bool) (request : ℕ)
    (current : RequestPhase) (phase : FailPhase) : MailboxSystem σ ρ :=
  let next := nextRequest generation requestCancel request
  let at_ := fun phase =>
    LifecyclePhase.failing generation requestCancel request phase
  match phase with
  | .start =>
      if current = .completed ∨ current = .failed then
        system.setLifecycle next
      else system.setLifecycle (at_ (.trying current))
  | .trying seen =>
      if seen = .failed then system.setLifecycle next
      else if seen = .terminalizing then
        if current = .terminalizing then system
        else system.setLifecycle (at_ (.trying current))
      else if current = seen ∧ !spurious then
        (system.modifyRequest request fun r =>
          r.setPhase .terminalizing).setLifecycle (at_ .claimed)
      else system.setLifecycle (at_ (.trying current))
  | .claimed =>
      (system.modifyRequest request fun r =>
        { r with failureKind := .closed, phase := .failed }).setLifecycle next

/-- The next step of the holder of `lifecycle_mutex_`. -/
def lifecycleStep (spurious : Bool) (system : MailboxSystem σ ρ) :
    MailboxSystem σ ρ × MailboxOutput ρ :=
  match system.lifecycle with
  | .free => (system, .quiet)
  | .openCalled =>
      if system.activeGeneration = 0 then
        (system.setLifecycle .free,
          .opened (.error ⟨.unavailable, "EtherCAT mailbox parent is closed"⟩))
      else
        (system.setLifecycle
          (.opening system.activeGeneration openChecks false), .quiet)
  | .opening generation (check :: rest) byParent =>
      if system.passes generation check then
        (system.setLifecycle (.opening generation rest byParent), .quiet)
      else if byParent then (system.setLifecycle (.done false), .quiet)
      else (system.setLifecycle .free, .opened (.error (openError check)))
  | .opening generation [] byParent =>
      if byParent then
        ({ system with
            openGeneration := generation
            lifecycle := .done true }, .quiet)
      else
        ({ system with
            openGeneration := generation
            lifecycle := .free }, .opened (.ok ()))
  | .closeCalled =>
      if system.openGeneration = 0 then (system.setLifecycle .free, .quiet)
      else
        ({ system with
            openGeneration := 0
            lifecycle := .closing system.openGeneration true }, .quiet)
  | .parentCloseCalled generation =>
      if system.openGeneration = generation then
        (system.setLifecycle (.parentClearing generation), .quiet)
      else (system.setLifecycle (.closing generation false), .quiet)
  | .parentClearing generation =>
      ({ system with
          openGeneration := 0
          lifecycle := .closing generation false }, .quiet)
  | .closing generation requestCancel =>
      match system.requestsMutex with
      | some _ => (system, .quiet)
      | none =>
          ({ system with
              requestsMutex := some none
              lifecycle := .failing generation requestCancel 0 .start },
            .quiet)
  | .failing generation requestCancel request phase =>
      match system.requests[request]? with
      | none =>
          ({ system with
              requestsMutex := none
              lifecycle :=
                if requestCancel then .cancelling generation
                else .done true }, .quiet)
      | some current =>
          if current.generation = generation then
            (system.failStep spurious generation requestCancel request
              current.phase phase, .quiet)
          else
            (system.setLifecycle
              (nextRequest generation requestCancel request), .quiet)
  | .cancelling generation =>
      ({ system with
          cancelGeneration := generation
          lifecycle := .free }, .quiet)
  | .resetting 0 =>
      ({ system with staged := none, lifecycle := .resetting 1 }, .quiet)
  | .resetting 1 =>
      ({ system with
          cancelGeneration := 0
          lifecycle := .resetting 2 }, .quiet)
  | .resetting _ =>
      ({ system with openGeneration := 0, lifecycle := .done true }, .quiet)
  | .done _ => (system, .quiet)

/-! ## Clients -/

section Clients

variable [DecidableEq ρ]

def setClient (system : MailboxSystem σ ρ) (client : ρ)
    (phase : ClientPhase) : MailboxSystem σ ρ :=
  { system with clients := Function.update system.clients client phase }

/-- Taking `requests_mutex_`. -/
def lockRequests (system : MailboxSystem σ ρ) (client : ρ)
    (phase : ClientPhase) : MailboxSystem σ ρ :=
  match system.requestsMutex with
  | some _ => system
  | none =>
      { system with
        requestsMutex := some (some client)
        clients := Function.update system.clients client phase }

/-- Returning from a call which holds `requests_mutex_`. -/
def unlockRequests (system : MailboxSystem σ ρ) (client : ρ) :
    MailboxSystem σ ρ :=
  { system with
    requestsMutex := none
    clients := Function.update system.clients client .idle }

def closedError : Error := ⟨.unavailable, "EtherCAT mailbox is closed"⟩

/-- The arguments which `enqueue` refuses. -/
def argumentError (arguments : EnqueueArguments) : Option Error :=
  if arguments.address.index = 0 ∨
      (!arguments.upload ∧ arguments.data.isEmpty) then
    some ⟨.invalidArgument, "invalid EtherCAT mailbox request"⟩
  else if !arguments.upload ∧ staticModeObject arguments.address then
    some ⟨.invalidArgument,
      "runtime writes to static CiA 402 mode objects are forbidden"⟩
  else none

/-- The next step of a client. -/
def clientStep (system : MailboxSystem σ ρ) (client : ρ) :
    MailboxSystem σ ρ × MailboxOutput ρ :=
  match system.clients client with
  | .idle => (system, .quiet)
  | .enqueueCalled arguments =>
      if system.openGeneration = 0 then
        (system.setClient client .idle,
          .enqueued client (.error closedError))
      else
        (system.setClient client
          (.enqueueOpened arguments system.openGeneration), .quiet)
  | .enqueueOpened arguments generation =>
      if system.activeGeneration ≠ generation then
        (system.setClient client .idle,
          .enqueued client (.error closedError))
      else
        match argumentError arguments with
        | some error =>
            (system.setClient client .idle, .enqueued client (.error error))
        | none =>
            (system.setClient client (.enqueueReady arguments generation),
              .quiet)
  | .enqueueReady arguments generation =>
      (system.lockRequests client (.enqueueLocked arguments generation),
        .quiet)
  | .enqueueLocked arguments generation =>
      if system.openGeneration ≠ generation then
        (system.unlockRequests client, .enqueued client (.error closedError))
      else
        (system.setClient client (.enqueueChecked arguments generation),
          .quiet)
  | .enqueueChecked arguments generation =>
      if system.activeGeneration ≠ generation then
        (system.unlockRequests client, .enqueued client (.error closedError))
      else
        ({ system with
            requests := system.requests ++ [.queued generation
              arguments.upload arguments.address arguments.data]
            requestsMutex := none
            clients := Function.update system.clients client .idle },
          .enqueued client (.ok (system.requests.length + 1)))
  | .cycleCalled =>
      if system.openGeneration = 0 then
        (system.setClient client .idle, .quiet)
      else
        (system.setClient client (.cycleOpened system.openGeneration), .quiet)
  | .cycleOpened generation =>
      if system.activeGeneration ≠ generation then
        (system.setClient client .idle, .quiet)
      else (system.setClient client .stageCalled, .quiet)
  | .stageCalled =>
      if system.staged.isSome then (system.setClient client .idle, .quiet)
      else (system.setClient client .stageReady, .quiet)
  | .stageReady => (system.lockRequests client .stageLocked, .quiet)
  | .stageLocked =>
      if system.openGeneration = 0 then
        (system.unlockRequests client, .quiet)
      else
        (system.setClient client (.stageOpened system.openGeneration), .quiet)
  | .stageOpened generation =>
      if system.activeGeneration ≠ generation then
        (system.unlockRequests client, .quiet)
      else (system.setClient client (.stageCurrent generation), .quiet)
  | .stageCurrent generation =>
      if system.staged.isSome then (system.unlockRequests client, .quiet)
      else (system.setClient client (.stageSearching generation 0), .quiet)
  | .stageSearching generation request =>
      match system.requests[request]? with
      | none => (system.unlockRequests client, .quiet)
      | some current =>
          if current.generation = generation ∧ current.phase = .queued then
            (system.setClient client (.stageFound request), .quiet)
          else
            (system.setClient client
              (.stageSearching generation (request + 1)), .quiet)
  | .stageFound request =>
      if system.phaseOf request = some .queued then
        ((system.modifyRequest request fun r =>
          r.setPhase .staged).setClient client (.stagePublishing request),
          .quiet)
      else (system.unlockRequests client, .quiet)
  | .stagePublishing request =>
      match system.staged with
      | none =>
          ({ system with
              staged := some request
              requestsMutex := none
              clients := Function.update system.clients client .idle },
            .quiet)
      | some _ =>
          (system.setClient client (.stageReverting request), .quiet)
  | .stageReverting request =>
      if system.phaseOf request = some .staged then
        ((system.modifyRequest request fun r =>
          r.setPhase .queued).unlockRequests client, .quiet)
      else (system.unlockRequests client, .quiet)
  | .statusCalled request =>
      (system.lockRequests client (.statusLocked request), .quiet)
  | .statusLocked request =>
      match system.requests[request]? with
      | none =>
          (system.unlockRequests client, .reported client request none)
      | some current =>
          match current.phase with
          | .completed =>
              (system.unlockRequests client,
                .reported client request (some current.completedStatus))
          | .failed =>
              (system.unlockRequests client,
                .reported client request (some current.failedStatus))
          | .terminalizing =>
              (system.setClient client (.statusTerminalizing request), .quiet)
          | _ =>
              (system.unlockRequests client,
                .reported client request (some .queued))
  | .statusTerminalizing request =>
      match system.requests[request]? with
      | none =>
          (system.unlockRequests client, .reported client request none)
      | some current =>
          if system.openGeneration ≠ current.generation then
            (system.unlockRequests client,
              .reported client request (some current.failedStatus))
          else
            (system.unlockRequests client,
              .reported client request (some .queued))

end Clients

/-! ## Opening and closing the master -/

/-- A call of the master on the mailbox begins once its lifecycle mutex is
free. -/
def callMailbox (system : MailboxSystem σ ρ) (call : LifecyclePhase)
    (next : MasterPhase) : MailboxSystem σ ρ :=
  if system.lifecycle = .free then
    { system with lifecycle := call, master := next }
  else system

/-- The return of a call of the master on the mailbox. -/
def takeReturn (system : MailboxSystem σ ρ)
    (next : Bool → MasterPhase) : MailboxSystem σ ρ :=
  match system.lifecycle with
  | .done succeeded =>
      { system with lifecycle := .free, master := next succeeded }
  | _ => system

/-- The next step of the master's `open` or `close`.  `succeeds` says whether
the other mailboxes could be opened. -/
def masterStep (calls : SdoBackend σ κ) (succeeds : Bool) (answer : κ)
    (system : MailboxSystem σ ρ) :
    MailboxSystem σ ρ × MailboxOutput ρ :=
  match system.master with
  | .idle => (system, .quiet)
  | .openCalled =>
      if system.admissionOpen then
        (system.setMaster .idle, .masterOpened false)
      else (system.setMaster .starting, .quiet)
  | .starting =>
      let (next, started) := calls.start system.backend answer
      if started then
        ({ system with backend := next, master := .numbering }, .quiet)
      else
        ({ system with backend := next, master := .idle },
          .masterOpened false)
  | .numbering =>
      let first := system.nextGeneration
      let generation := if first = 0 then 1 else first
      ({ system with
          nextGeneration := (generation + 1) % 2 ^ 64
          master := .offering generation }, .quiet)
  | .offering generation =>
      if succeeds then
        (system.callMailbox (.opening generation openForParentChecks true)
          (.offered generation), .quiet)
      else (system.setMaster (.deactivating true), .quiet)
  | .offered generation =>
      (system.takeReturn fun succeeded =>
        if succeeded then .confirming generation else .deactivating true,
        .quiet)
  | .confirming generation =>
      if succeeds then
        ({ system with
            generation := generation
            master := .publishing generation }, .quiet)
      else (system.setMaster (.closing generation true), .quiet)
  | .publishing generation =>
      ({ system with
          activeGeneration := generation
          master := .admitting }, .quiet)
  | .admitting =>
      ({ system with admissionOpen := true, master := .idle },
        .masterOpened true)
  | .closeCalled =>
      if system.admissionOpen then
        ({ system with
            admissionOpen := false
            master := .unpublishing }, .quiet)
      else (system.setMaster .idle, .quiet)
  | .unpublishing =>
      ({ system with
          activeGeneration := 0
          master := .closing system.generation false }, .quiet)
  | .closing generation rollback =>
      (system.callMailbox (.parentCloseCalled generation)
        (.closed generation rollback), .quiet)
  | .closed _ rollback =>
      (system.takeReturn fun _ =>
        if rollback then .deactivating true else .waiting, .quiet)
  | .waiting =>
      if system.owner = .outside then
        (system.setMaster (.deactivating false), .quiet)
      else (system, .quiet)
  | .deactivating rollback =>
      ({ system with
          backend := calls.deactivate system.backend
          master := .resetting rollback }, .deactivated)
  | .resetting rollback =>
      (system.callMailbox (.resetting 0) (.reset rollback), .quiet)
  | .reset rollback =>
      match system.lifecycle with
      | .done _ =>
          if rollback then
            ({ system with lifecycle := .free, master := .idle },
              .masterOpened false)
          else
            ({ system with
                lifecycle := .free
                generation := 0
                master := .idle }, .quiet)
      | _ => (system, .quiet)

/-! ## The machine -/

section Machine

variable [DecidableEq ρ] (calls : SdoBackend σ κ)
  (slave : EthercatSlaveAddress)

/-- A call of an idle client. -/
def callClient (system : MailboxSystem σ ρ) (client : ρ)
    (phase : ClientPhase) : MailboxSystem σ ρ :=
  match system.clients client with
  | .idle => system.setClient client phase
  | _ => system

/-- A call on the mailbox, with its lifecycle mutex taken. -/
def callLifecycle (system : MailboxSystem σ ρ) (phase : LifecyclePhase) :
    MailboxSystem σ ρ :=
  match system.lifecycle with
  | .free => system.setLifecycle phase
  | _ => system

/-- A call on the master, with its mutex taken. -/
def callMaster (system : MailboxSystem σ ρ) (phase : MasterPhase) :
    MailboxSystem σ ρ :=
  match system.master with
  | .idle => system.setMaster phase
  | _ => system

def step (system : MailboxSystem σ ρ) (input : MailboxInput κ ρ) :
    MailboxSystem σ ρ × MailboxOutput ρ :=
  match input with
  | .enqueue client arguments =>
      (system.callClient client (.enqueueCalled arguments), .quiet)
  | .cycle client => (system.callClient client .cycleCalled, .quiet)
  | .status client request =>
      (system.callClient client (.statusCalled request), .quiet)
  | .client client => system.clientStep client
  | .openMailbox => (system.callLifecycle .openCalled, .quiet)
  | .closeMailbox => (system.callLifecycle .closeCalled, .quiet)
  | .lifecycle spurious => system.lifecycleStep spurious
  | .openMaster => (system.callMaster .openCalled, .quiet)
  | .closeMaster => (system.callMaster .closeCalled, .quiet)
  | .master succeeds answer => system.masterStep calls succeeds answer
  | .ownerCycle =>
      match system.owner with
      | .outside =>
          if system.admissionOpen then
            (system.setOwner .admitted, .quiet)
          else (system, .quiet)
      | _ => (system, .quiet)
  | .ownerReach reaches =>
      match system.owner with
      | .admitted =>
          if reaches then
            (system.setOwner (.called system.generation), .quiet)
          else (system.setOwner .outside, .quiet)
      | .returned => (system.setOwner .outside, .quiet)
      | _ => (system, .quiet)
  | .ownerOther other answer transfer =>
      if (system.owner = .admitted ∨ system.owner = .returned) ∧
          other ≠ slave then
        ({ system with
            backend := otherCall calls other answer transfer
              system.backend }, .quiet)
      else (system, .quiet)
  | .owner answer => system.ownerStep calls slave answer

def machine : Machine (MailboxSystem σ ρ) (MailboxInput κ ρ)
    (MailboxOutput ρ) where
  step := step calls slave

end Machine

end MailboxSystem

end PolicyRuntime
