import PolicyRuntime.SafetySupervisor
import PolicyRuntime.St3215Bus

/-!
# The registry of serial devices

The servos of a profile are spread over buses by the path of their serial port.
The daemon drives every bus, and reads the state of all servos in one safety
snapshot, which stops the axes in the safety groups of the servos at fault.
-/

namespace PolicyRuntime

open FloatingPoint

structure SerialPortConfig where
  path : String
  baudRate : ℕ
  readBufferSize : ℕ
  maximumFrameSize : ℕ
  /-- nanoseconds -/
  servicePeriod : ℤ
  deriving DecidableEq

structure St3215ServoProfile where
  serial : SerialPortConfig
  servo : St3215ServoConfig
  safetyGroup : String

/-- A servo of the registry is a servo of one of its buses. -/
structure ServoPlace where
  bus : ℕ
  slot : ℕ
  deriving DecidableEq

structure St3215DeviceRegistry (D τ : Type) where
  busCount : ℕ
  serial : ℕ → SerialPortConfig
  buses : ℕ → St3215Bus D τ
  servoCount : ℕ
  places : ℕ → ServoPlace
  safetyGroups : ℕ → String

structure St3215RegistrySafetySnapshot where
  servoCount : ℕ
  faultCount : ℕ
  faultMask : BitVec 32
  aggregateFlags : BitVec 32

def kMaximumSt3215Servos : ℕ := 32

def kFaultFlags : BitVec 32 :=
  kSt3215FeedbackStale ||| kSt3215FeedbackTimeout ||| kSt3215FeedbackIo |||
    kSt3215FeedbackProtocol ||| kSt3215FeedbackDeviceError

variable {D τ ε : Type} [DoubleArithmetic D]

/-! ## Configuration -/

def St3215Bus.addServo (bus : St3215Bus D τ) (config : St3215ServoConfig) :
    Except Error (St3215Bus D τ) :=
  if bus.running || config.name.isEmpty ||
      config.deviceId = kSt3215BroadcastId || config.maxPositionUnits = 0 ||
      config.feedbackTimeout ≤ 0 ||
      9223372036854775807 / 1000000 < config.feedbackTimeout then
    .error ⟨.invalidArgument, "invalid ST3215 servo configuration"⟩
  else if (List.range bus.servoCount).any fun index =>
      (bus.servos index).servo.config.deviceId = config.deviceId ||
        (bus.servos index).servo.config.name = config.name then
    .error ⟨.invalidArgument, "duplicate ST3215 servo on shared bus"⟩
  else
    .ok { bus.setServo bus.servoCount (.create (.create config)) with
      servoCount := bus.servoCount + 1 }

/-- What the addition of a servo checks and changes. -/
structure ServoAdded (bus : St3215Bus D τ) (config : St3215ServoConfig)
    (added : St3215Bus D τ) : Prop where
  units : config.maxPositionUnits ≠ 0
  timeout : 0 < config.feedbackTimeout
  servoCount : added.servoCount = bus.servoCount + 1
  placed : added.servos bus.servoCount = .create (.create config)
  others : ∀ servo ≠ bus.servoCount, added.servos servo = bus.servos servo
  transport : added.transport = bus.transport
  running : added.running = bus.running
  faultLatched : added.faultLatched = bus.faultLatched
  dispatched : added.dispatched = bus.dispatched
  pendingIndex : added.pendingIndex = bus.pendingIndex

theorem servoAdded_of_ok {bus added : St3215Bus D τ}
    {config : St3215ServoConfig} (hadded : bus.addServo config = .ok added) :
    ServoAdded bus config added := by
  unfold St3215Bus.addServo at hadded
  split at hadded
  · cases hadded
  rename_i hvalid
  split at hadded
  · cases hadded
  cases hadded
  simp only [Bool.or_eq_true, decide_eq_true_eq, not_or, not_le] at hvalid
  constructor
  · exact hvalid.1.1.2
  · exact hvalid.1.2
  · rfl
  · exact St3215Bus.setServo_self bus bus.servoCount _
  · intro servo hservo
    exact St3215Bus.setServo_of_ne bus bus.servoCount _ hservo
  · rfl
  · rfl
  · rfl
  · rfl
  · rfl

/-- What holds of all servos of a bus and of the one which is added. -/
theorem ServoAdded.servos {bus added : St3215Bus D τ}
    {config : St3215ServoConfig} (hadded : ServoAdded bus config added)
    (Holds : ServoRuntime D → Prop)
    (hbus : ∀ servo < bus.servoCount, Holds (bus.servos servo))
    (hnew : Holds (.create (.create config))) :
    ∀ servo < added.servoCount, Holds (added.servos servo) := by
  intro servo hlt
  by_cases hservo : servo = bus.servoCount
  · rw [hservo, hadded.placed]
    exact hnew
  · rw [hadded.others servo hservo]
    rw [hadded.servoCount] at hlt
    exact hbus servo (by omega)

namespace St3215DeviceRegistry

/-- The servo goes on the bus, which may be a new one. -/
def placeServo (registry : St3215DeviceRegistry D τ) (index : ℕ)
    (bus : St3215Bus D τ) (profile : St3215ServoProfile) :
    Except Error (St3215DeviceRegistry D τ) :=
  match bus.addServo profile.servo with
  | .error error => .error error
  | .ok added =>
      .ok { registry with
        buses := Function.update registry.buses index added
        servoCount := registry.servoCount + 1
        places := Function.update registry.places registry.servoCount
          ⟨index, bus.servoCount⟩
        safetyGroups := Function.update registry.safetyGroups
          registry.servoCount profile.safetyGroup }

def sameSerial (left right : SerialPortConfig) : Bool :=
  left.baudRate = right.baudRate &&
    left.readBufferSize = right.readBufferSize &&
    left.maximumFrameSize = right.maximumFrameSize &&
    left.servicePeriod = right.servicePeriod

def addProfile (createSerial : SerialPortConfig → Except Error τ)
    (registry : St3215DeviceRegistry D τ) (profile : St3215ServoProfile) :
    Except Error (St3215DeviceRegistry D τ) :=
  match (List.range registry.busCount).find?
      (fun index => (registry.serial index).path = profile.serial.path) with
  | none =>
      match createSerial profile.serial with
      | .error error => .error error
      | .ok transport =>
          { registry with
            busCount := registry.busCount + 1
            serial := Function.update registry.serial registry.busCount
              profile.serial }.placeServo registry.busCount
                (.create transport []) profile
  | some index =>
      if sameSerial (registry.serial index) profile.serial then
        registry.placeServo index (registry.buses index) profile
      else
        .error ⟨.invalidArgument,
          "inconsistent ST3215 registry serial configuration"⟩

/-- A registry without devices; its buses are placeholders. -/
def empty (transport : τ) : St3215DeviceRegistry D τ where
  busCount := 0
  serial := fun _ => ⟨"", 0, 0, 0, 0⟩
  buses := fun _ => .create transport []
  servoCount := 0
  places := fun _ => ⟨0, 0⟩
  safetyGroups := fun _ => ""

def configure (createSerial : SerialPortConfig → Except Error τ)
    (placeholder : τ) (profiles : List St3215ServoProfile) :
    Except Error (St3215DeviceRegistry D τ) :=
  if kMaximumSt3215Servos < profiles.length then
    .error ⟨.invalidArgument,
      "ST3215 device registry is already configured or oversized"⟩
  else
    profiles.foldlM (addProfile createSerial) (empty placeholder)

/-! ## Safety -/

def servo (registry : St3215DeviceRegistry D τ) (index : ℕ) :
    St3215Servo D :=
  ((registry.buses (registry.places index).bus).servos
    (registry.places index).slot).servo

def addServoState (registry : St3215DeviceRegistry D τ) (nowNs : ℤ)
    (snapshot : St3215RegistrySafetySnapshot) (index : ℕ) :
    St3215RegistrySafetySnapshot :=
  let value := (registry.servo index).feedback nowNs
  let faulty := value.flags &&& kFaultFlags != 0
  { snapshot with
    aggregateFlags := snapshot.aggregateFlags ||| value.flags
    faultCount :=
      if faulty then snapshot.faultCount + 1 else snapshot.faultCount
    faultMask :=
      if faulty then snapshot.faultMask ||| (1#32 <<< index)
      else snapshot.faultMask }

def safetySnapshot (registry : St3215DeviceRegistry D τ) (nowNs : ℤ) :
    St3215RegistrySafetySnapshot :=
  (List.range registry.servoCount).foldl (registry.addServoState nowNs)
    ⟨registry.servoCount, 0, 0, 0⟩

/-- The axes in the safety group of a servo, of an axis profile which names the
group of each axis. -/
def serialAxisStopMask (registry : St3215DeviceRegistry D τ)
    (axisGroups : List String) (servo : ℕ) : BitVec 16 :=
  (List.range axisGroups.length).foldl
    (fun mask axis =>
      if registry.safetyGroups servo = axisGroups.getD axis "" then
        mask ||| (1#16 <<< axis)
      else
        mask) 0

/-- The stop mask which the device cycle of the daemon takes from a snapshot. -/
def serialStopMask (registry : St3215DeviceRegistry D τ)
    (axisGroups : List String) (snapshot : St3215RegistrySafetySnapshot) :
    BitVec 16 :=
  (List.range snapshot.servoCount).foldl
    (fun mask servo =>
      if snapshot.faultMask &&& (1#32 <<< servo) != 0 then
        mask ||| registry.serialAxisStopMask axisGroups servo
      else
        mask) 0

end St3215DeviceRegistry

/-! ## Runs -/

structure RegistryState (D τ : Type) where
  registry : St3215DeviceRegistry D τ
  clockNs : ℤ

/-- The cycles of the buses read a clock which only moves forward. -/
inductive RegistryInput (D ε : Type)
  | tick (elapsed : ℕ)
  | stage (servo : ℕ) (command : St3215ServoCommand D)
  | start (bus : ℕ) (permitted : Bool)
  | stop (bus : ℕ)
  | cycle (bus : ℕ) (pollReadable : Bool) (staged : List (StageInput D))
      (dispatchReadable : Bool) (environment : ε)
  | snapshot

def RegistryState.setBus (state : RegistryState D τ) (index : ℕ)
    (bus : St3215Bus D τ) : RegistryState D τ :=
  { state with
    registry := { state.registry with
      buses := Function.update state.registry.buses index bus } }

def registryMachine (port : SerialPort τ ε) :
    Machine (RegistryState D τ) (RegistryInput D ε)
      (Option St3215RegistrySafetySnapshot) where
  step := fun state input =>
    match input with
    | .tick elapsed =>
        ({ state with clockNs := state.clockNs + elapsed }, none)
    | .stage servo command =>
        if servo < state.registry.servoCount then
          let place := state.registry.places servo
          (state.setBus place.bus
            ((state.registry.buses place.bus).stage
              ⟨place.slot, command, state.clockNs⟩), none)
        else
          (state, none)
    | .start bus permitted =>
        (state.setBus bus ((state.registry.buses bus).start port state.clockNs
          permitted), none)
    | .stop bus =>
        (state.setBus bus ((state.registry.buses bus).stop port), none)
    | .cycle bus pollReadable staged dispatchReadable environment =>
        (state.setBus bus ((state.registry.buses bus).cycle port
          ⟨state.clockNs, pollReadable, staged, dispatchReadable,
            environment⟩).1, none)
    | .snapshot => (state, some (state.registry.safetySnapshot state.clockNs))

end PolicyRuntime
