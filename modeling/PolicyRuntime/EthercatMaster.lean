import PolicyRuntime.AxisProfiles
import PolicyRuntime.Machine

/-!
# The EtherCAT master

Any number of threads call `open`, `close` and `cycle` of one master.  A step
is one access to shared state or one backend call, and the scheduled input says
whether the call succeeds.  The lifecycle mutex serializes `open` and `close`;
cycles are admitted by one 64-bit word whose high bit is the gate and whose
other bits count the admitted cycles.
-/

namespace PolicyRuntime

/-! ## The admission word -/

def kCycleOpenBit : BitVec 64 := 1#64 <<< 63

def kCycleCountMask : BitVec 64 := kCycleOpenBit - 1#64

def admissionIsOpen (word : BitVec 64) : Bool :=
  word &&& kCycleOpenBit != 0#64

def admissionSuccessor (observed : BitVec 64) : Option (BitVec 64) :=
  let count := observed &&& kCycleCountMask
  if observed &&& kCycleOpenBit = 0#64 ∨ count = kCycleCountMask then
    none
  else
    some (observed + 1#64)

/-- The word of a gate with a number of admitted cycles. -/
structure Admits (word : BitVec 64) (gate : Bool) (count : ℕ) : Prop where
  value : word.toNat = (if gate then 2 ^ 63 else 0) + count
  bound : count < 2 ^ 63

theorem toNat_and_countMask (word : BitVec 64) :
    (word &&& kCycleCountMask).toNat = word.toNat % 2 ^ 63 := by
  have hmask : kCycleCountMask.toNat = 2 ^ 63 - 1 := by decide
  rw [BitVec.toNat_and, hmask, Nat.and_two_pow_sub_one_eq_mod]

theorem and_openBit_eq_zero_iff (word : BitVec 64) :
    word &&& kCycleOpenBit = 0#64 ↔ word.toNat < 2 ^ 63 := by
  have hbit : kCycleOpenBit = BitVec.twoPow 64 63 := by decide
  have hhigh : word.getLsbD 63 = decide (2 ^ 63 ≤ word.toNat) := by
    rw [← BitVec.msb_eq_getLsbD_last, BitVec.msb_eq_decide]
  rw [hbit, BitVec.and_twoPow, hhigh]
  by_cases hopen : 2 ^ 63 ≤ word.toNat
  · simp only [hopen, decide_true, if_true]
    exact iff_of_false (by decide) (by omega)
  · simp only [hopen, decide_false, Bool.false_eq_true, if_false, true_iff]
    omega

theorem admissionIsOpen_iff (word : BitVec 64) :
    admissionIsOpen word = true ↔ 2 ^ 63 ≤ word.toNat := by
  unfold admissionIsOpen
  rw [bne_iff_ne, ne_eq, and_openBit_eq_zero_iff]
  exact Nat.not_lt

theorem admissionIsOpen_of_successor {word desired : BitVec 64}
    (hsuccessor : admissionSuccessor word = some desired) :
    admissionIsOpen word = true := by
  unfold admissionSuccessor at hsuccessor
  simp only at hsuccessor
  split at hsuccessor
  · exact absurd hsuccessor (by simp)
  · next hallowed =>
      rw [not_or] at hallowed
      simpa [admissionIsOpen] using hallowed.1

namespace Admits

variable {word : BitVec 64} {gate : Bool} {count : ℕ}

theorem isOpen (h : Admits word gate count) :
    admissionIsOpen word = gate := by
  have hvalue := h.value
  have hbound := h.bound
  cases gate with
  | true =>
      rw [admissionIsOpen_iff]
      simp only [if_true] at hvalue
      omega
  | false =>
      rw [← Bool.not_eq_true, admissionIsOpen_iff]
      simp only [Bool.false_eq_true, if_false] at hvalue
      omega

theorem self (h : Admits word gate count) :
    Admits word (admissionIsOpen word) count := by
  rw [h.isOpen]
  exact h

theorem count_eq (h : Admits word gate count) :
    (word &&& kCycleCountMask).toNat = count := by
  have hvalue := h.value
  have hbound := h.bound
  rw [toNat_and_countMask]
  cases gate
  · simp only [Bool.false_eq_true, if_false] at hvalue
    omega
  · simp only [if_true] at hvalue
    omega

theorem eq_zero_iff (h : Admits word gate count) :
    word = 0#64 ↔ gate = false ∧ count = 0 := by
  have hvalue := h.value
  rw [← BitVec.toNat_inj]
  cases gate
  · simp only [Bool.false_eq_true, if_false] at hvalue
    simp [hvalue]
  · simp only [if_true] at hvalue
    simp [hvalue]

theorem close (h : Admits word gate count) :
    Admits (word &&& kCycleCountMask) false count where
  value := by simpa using h.count_eq
  bound := h.bound

theorem enter (h : Admits word gate count) {desired : BitVec 64}
    (hsuccessor : admissionSuccessor word = some desired) :
    gate = true ∧ Admits desired true (count + 1) := by
  have hcount := h.count_eq
  have hbound := h.bound
  have hvalue := h.value
  unfold admissionSuccessor at hsuccessor
  simp only at hsuccessor
  split at hsuccessor
  · exact absurd hsuccessor (by simp)
  · next hallowed =>
      rw [not_or, and_openBit_eq_zero_iff] at hallowed
      have hmask : kCycleCountMask.toNat = 2 ^ 63 - 1 := by decide
      have hroom : count ≠ 2 ^ 63 - 1 := by
        intro hfull
        apply hallowed.2
        rw [← BitVec.toNat_inj, hcount, hmask, hfull]
      have hgate : gate = true := by
        cases gate with
        | true => rfl
        | false =>
            simp only [Bool.false_eq_true, if_false] at hvalue
            omega
      subst hgate
      simp only [if_true] at hvalue
      simp only [Option.some.injEq] at hsuccessor
      subst hsuccessor
      refine ⟨rfl, ?_, by omega⟩
      rw [BitVec.toNat_add_of_lt] <;> simp <;> omega

theorem leave (h : Admits word gate count) (hpos : 0 < count) :
    Admits (word - 1#64) gate (count - 1) := by
  have hvalue := h.value
  have hbound := h.bound
  refine ⟨?_, by omega⟩
  rw [BitVec.toNat_sub_of_le (by bv_omega)]
  simp only [BitVec.toNat_ofNat]
  omega

end Admits

theorem admits_openBit : Admits kCycleOpenBit true 0 where
  value := by decide
  bound := by decide

/-! ## Static configuration -/

structure EthercatSlaveAddress where
  stationAlias : ℕ
  position : ℕ
  deriving DecidableEq, Repr

structure ObjectAddress where
  index : ℕ
  subindex : ℕ
  deriving DecidableEq, Repr

structure SdoDownloadRequest where
  address : ObjectAddress
  data : List (BitVec 8)

structure EthercatAxisConfiguration (D : Type) where
  axis : AxisProfile D
  startupParameters : List SdoDownloadRequest

structure EthercatProcessImageField where
  slave : EthercatSlaveAddress
  address : ObjectAddress
  bitLength : ℕ

/-- What a master is built with, and the fields registered before it opens. -/
structure MasterSetup (D : Type) where
  backendPresent : Bool
  axes : List (EthercatAxisConfiguration D)
  processImageFields : List EthercatProcessImageField

def staticModeObject (address : ObjectAddress) : Bool :=
  address.index = 0x6060 || address.index = 0x60C2

def validStaticMode : Cia402Mode → Bool
  | .csp => true
  | .csv => true
  | .cst => true
  | .other _ => false

section Setup

variable {D : Type}

def EthercatAxisConfiguration.slave
    (configuration : EthercatAxisConfiguration D) : EthercatSlaveAddress :=
  ⟨configuration.axis.stationAlias, configuration.axis.position⟩

/-- The loop of `validate_configuration`, with the addresses already taken. -/
def validateAxes :
    List (EthercatAxisConfiguration D) → List EthercatSlaveAddress →
      Except Error Unit
  | [], _ => .ok ()
  | configuration :: rest, addresses =>
      let axis := configuration.axis
      if axis.vendorId ≠ 0x9A || axis.productCode ≠ 0x30924 ||
          axis.revision ≠ 0x10420 then
        .error ⟨.invalidArgument,
          "axis identity is not the supported Elmo Gold ESI"⟩
      else if !validStaticMode axis.config.mode then
        .error ⟨.invalidArgument, "axis has an unknown static CiA 402 mode"⟩
      else if configuration.slave ∈ addresses then
        .error ⟨.invalidArgument, "duplicate EtherCAT slave address"⟩
      else if configuration.startupParameters.any fun parameter =>
          parameter.data.isEmpty || staticModeObject parameter.address then
        .error ⟨.invalidArgument,
          "startup parameter is empty or overrides the static mode/cycle time"⟩
      else
        validateAxes rest (configuration.slave :: addresses)

def validateConfiguration (setup : MasterSetup D) : Except Error Unit :=
  if !setup.backendPresent then
    .error ⟨.unavailable, "EtherCAT master has no backend"⟩
  else if setup.axes.isEmpty || kRobotIoMaximumAxes < setup.axes.length then
    .error ⟨.invalidArgument,
      "EtherCAT master requires between one and 12 axes"⟩
  else
    validateAxes setup.axes []

/-! ## Backend calls -/

inductive BackendCall
  | initializeBackend
  | configureSlave (slave : EthercatSlaveAddress)
  | bindPdoEntry (slave : EthercatSlaveAddress) (address : ObjectAddress)
      (bits : ℕ)
  | activate
  | deactivate
  | receive
  | processDomain
  | domainHealth
  | processImage
  | progressSdo (mailbox : ℕ)
  | queueDomain
  | send
  deriving DecidableEq, Repr

def BackendCall.cyclic : BackendCall → Bool
  | .receive => true
  | .processDomain => true
  | .domainHealth => true
  | .processImage => true
  | .progressSdo _ => true
  | .queueDomain => true
  | .send => true
  | _ => false

/-- The object which carries the target of a mode, with its width. -/
def targetObject : Cia402Mode → Option (ObjectAddress × ℕ)
  | .csp => some (⟨0x607A, 0⟩, 32)
  | .csv => some (⟨0x60FF, 0⟩, 32)
  | .cst => some (⟨0x6071, 0⟩, 16)
  | .other _ => none

/-- The backend calls of `configure_axis`, in order. -/
def configureAxisCalls (configuration : EthercatAxisConfiguration D) :
    List BackendCall :=
  let objects : List (ObjectAddress × ℕ) :=
    [(⟨0x6041, 0⟩, 16), (⟨0x6061, 0⟩, 8), (⟨0x6064, 0⟩, 32),
      (⟨0x606C, 0⟩, 32), (⟨0x6077, 0⟩, 16), (⟨0x6040, 0⟩, 16)] ++
    (targetObject configuration.axis.config.mode).toList
  .configureSlave configuration.slave ::
    objects.map fun object =>
      .bindPdoEntry configuration.slave object.1 object.2

/-- The backend calls of `open` between `initialize` and `activate`.  Each of
them may fail, and the first failure ends `open`. -/
def setupCalls (setup : MasterSetup D) : List BackendCall :=
  setup.axes.flatMap configureAxisCalls ++
    setup.processImageFields.map fun field =>
      .bindPdoEntry field.slave field.address field.bitLength

end Setup

/-! ## Threads -/

/-- What the calls made so far leave the backend in. -/
inductive BackendPhase
  | deactivated
  | initialized
  | activated
  deriving DecidableEq, Repr

/-- Where a thread is inside `open`, `close` or `cycle`. -/
inductive MasterPc
  | idle
  | openLock
  | openCheck
  | openInitialize
  | openSetup (calls : List BackendCall)
  | openActivate
  | openMailbox (opened : ℕ)
  | openAdmit
  | openDeactivate
  | openReturn (succeeded : Bool)
  | closeLock
  | closeGate
  | closeWait
  | closeDeactivate
  | closeReturn
  | cycleLoad
  | cycleEnter (observed : BitVec 64)
  | cycleInputs (calls : List BackendCall)
  | cycleMailbox (offset : ℕ)
  | cycleQueue
  | cycleSend
  | leaveCycle
  deriving DecidableEq, Repr

inductive MasterOperation
  | openMaster
  | closeMaster
  | cycle
  deriving DecidableEq, Repr

def MasterOperation.entry : MasterOperation → MasterPc
  | .openMaster => .openLock
  | .closeMaster => .closeLock
  | .cycle => .cycleLoad

inductive MasterEvent
  | silent
  | called (call : BackendCall) (succeeded : Bool)
  | gateOpened
  | gateClosed
  | admitted
  | refused
  | left
  | openReturned (succeeded : Bool)
  | closeReturned
  deriving DecidableEq, Repr

/-- The members of the master which its threads share. -/
structure MasterShared (τ : Type) where
  cycleAdmission : BitVec 64
  lifecycleMutex : Option τ
  backend : BackendPhase
  mailboxCursor : ℕ

structure EthercatMaster (τ : Type) where
  shared : MasterShared τ
  threads : τ → MasterPc

/-- The scheduled step.  `succeeds` answers the backend call, the mailbox or
the weak compare-exchange of the step; for a mailbox of a cycle it says whether
`owner_step` has a transfer to progress. -/
inductive MasterInput (τ : Type)
  | call (thread : τ) (operation : MasterOperation)
  | step (thread : τ) (succeeds : Bool)

section Steps

variable {D τ : Type} (setup : MasterSetup D)

def MasterShared.setBackend (shared : MasterShared τ) (phase : BackendPhase) :
    MasterShared τ :=
  { shared with backend := phase }

def MasterShared.setAdmission (shared : MasterShared τ) (word : BitVec 64) :
    MasterShared τ :=
  { shared with cycleAdmission := word }

def MasterShared.setMutex (shared : MasterShared τ) (holder : Option τ) :
    MasterShared τ :=
  { shared with lifecycleMutex := holder }

section Fields

variable (shared : MasterShared τ)

@[simp] theorem MasterShared.setBackend_cycleAdmission (phase : BackendPhase) :
    (shared.setBackend phase).cycleAdmission = shared.cycleAdmission := rfl

@[simp] theorem MasterShared.setBackend_lifecycleMutex (phase : BackendPhase) :
    (shared.setBackend phase).lifecycleMutex = shared.lifecycleMutex := rfl

@[simp] theorem MasterShared.setBackend_backend (phase : BackendPhase) :
    (shared.setBackend phase).backend = phase := rfl

@[simp] theorem MasterShared.setAdmission_cycleAdmission (word : BitVec 64) :
    (shared.setAdmission word).cycleAdmission = word := rfl

@[simp] theorem MasterShared.setAdmission_lifecycleMutex (word : BitVec 64) :
    (shared.setAdmission word).lifecycleMutex = shared.lifecycleMutex := rfl

@[simp] theorem MasterShared.setAdmission_backend (word : BitVec 64) :
    (shared.setAdmission word).backend = shared.backend := rfl

@[simp] theorem MasterShared.setMutex_cycleAdmission (holder : Option τ) :
    (shared.setMutex holder).cycleAdmission = shared.cycleAdmission := rfl

@[simp] theorem MasterShared.setMutex_lifecycleMutex (holder : Option τ) :
    (shared.setMutex holder).lifecycleMutex = holder := rfl

@[simp] theorem MasterShared.setMutex_backend (holder : Option τ) :
    (shared.setMutex holder).backend = shared.backend := rfl

end Fields

/-- Taking `lifecycle_mutex_`, which blocks while another thread holds it. -/
def lockStep (shared : MasterShared τ) (thread : τ) (waiting next : MasterPc) :
    MasterShared τ × MasterPc × MasterEvent :=
  match shared.lifecycleMutex with
  | none => (shared.setMutex (some thread), next, .silent)
  | some _ => (shared, waiting, .silent)

/-- The mailbox loop of `cycle` at one offset. -/
def mailboxStep (shared : MasterShared τ) (offset : ℕ) (working : Bool) :
    MasterShared τ × MasterPc × MasterEvent :=
  let index := (shared.mailboxCursor + offset) % setup.axes.length
  if offset < setup.axes.length then
    if working then
      ({ shared with mailboxCursor := (index + 1) % setup.axes.length },
        .cycleQueue, .called (.progressSdo index) true)
    else
      (shared, .cycleMailbox (offset + 1), .silent)
  else
    (shared, .cycleQueue, .silent)

/-- `try_enter_cycle` with the value of the word it has observed.  A weak
compare-exchange may fail on an equal word. -/
def enterStep (shared : MasterShared τ) (observed : BitVec 64)
    (succeeds : Bool) : MasterShared τ × MasterPc × MasterEvent :=
  match admissionSuccessor observed with
  | none => (shared, .idle, .refused)
  | some desired =>
      if succeeds && shared.cycleAdmission = observed then
        (shared.setAdmission desired,
          if setup.backendPresent then
            .cycleInputs [.receive, .processDomain, .domainHealth,
              .processImage]
          else
            .leaveCycle,
          .admitted)
      else
        (shared, .cycleEnter shared.cycleAdmission, .silent)

def threadStep (shared : MasterShared τ) (thread : τ) (succeeds : Bool) :
    MasterPc → MasterShared τ × MasterPc × MasterEvent
  | .idle => (shared, .idle, .silent)
  | .openLock => lockStep shared thread .openLock .openCheck
  | .openCheck =>
      if admissionIsOpen shared.cycleAdmission then
        (shared, .openReturn false, .silent)
      else
        match validateConfiguration setup with
        | .error _ => (shared, .openReturn false, .silent)
        | .ok () => (shared, .openInitialize, .silent)
  | .openInitialize =>
      if succeeds then
        (shared.setBackend .initialized, .openSetup (setupCalls setup),
          .called .initializeBackend true)
      else
        (shared, .openReturn false, .called .initializeBackend false)
  | .openSetup [] => (shared, .openActivate, .silent)
  | .openSetup (call :: rest) =>
      (shared, if succeeds then .openSetup rest else .openDeactivate,
        .called call succeeds)
  | .openActivate =>
      if succeeds then
        (shared.setBackend .activated, .openMailbox 0, .called .activate true)
      else
        (shared, .openDeactivate, .called .activate false)
  | .openMailbox opened =>
      if opened < setup.axes.length then
        (shared, if succeeds then .openMailbox (opened + 1)
          else .openDeactivate, .silent)
      else
        (shared, .openAdmit, .silent)
  | .openAdmit =>
      (shared.setAdmission kCycleOpenBit, .openReturn true, .gateOpened)
  | .openDeactivate =>
      (shared.setBackend .deactivated, .openReturn false,
        .called .deactivate true)
  | .openReturn succeeded =>
      (shared.setMutex none, .idle, .openReturned succeeded)
  | .closeLock => lockStep shared thread .closeLock .closeGate
  | .closeGate =>
      (shared.setAdmission (shared.cycleAdmission &&& kCycleCountMask),
        if admissionIsOpen shared.cycleAdmission then .closeWait
          else .closeReturn,
        .gateClosed)
  -- `wait` only delays the next load of the word
  | .closeWait =>
      if shared.cycleAdmission &&& kCycleCountMask = 0#64 then
        (shared, .closeDeactivate, .silent)
      else
        (shared, .closeWait, .silent)
  | .closeDeactivate =>
      (shared.setBackend .deactivated, .closeReturn, .called .deactivate true)
  | .closeReturn => (shared.setMutex none, .idle, .closeReturned)
  | .cycleLoad => (shared, .cycleEnter shared.cycleAdmission, .silent)
  | .cycleEnter observed => enterStep setup shared observed succeeds
  | .cycleInputs [] => (shared, .cycleMailbox 0, .silent)
  | .cycleInputs (call :: rest) =>
      (shared, .cycleInputs rest, .called call true)
  | .cycleMailbox offset => mailboxStep setup shared offset succeeds
  | .cycleQueue => (shared, .cycleSend, .called .queueDomain true)
  | .cycleSend => (shared, .leaveCycle, .called .send true)
  | .leaveCycle =>
      (shared.setAdmission (shared.cycleAdmission - 1#64), .idle, .left)

def masterMachine [DecidableEq τ] :
    Machine (EthercatMaster τ) (MasterInput τ) MasterEvent where
  step master
    | .call thread operation =>
        if master.threads thread = .idle then
          ({ master with
              threads := Function.update master.threads thread
                operation.entry }, .silent)
        else
          (master, .silent)
    | .step thread succeeds =>
        let (shared, pc, event) :=
          threadStep setup master.shared thread succeeds
            (master.threads thread)
        (⟨shared, Function.update master.threads thread pc⟩, event)

/-- A constructed master, with no thread inside it. -/
def EthercatMaster.constructed : EthercatMaster τ where
  shared := ⟨0#64, none, .deactivated, 0⟩
  threads := fun _ => .idle

end Steps

end PolicyRuntime
