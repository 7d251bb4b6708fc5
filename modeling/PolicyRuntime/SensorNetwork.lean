import PolicyRuntime.CanRouting
import PolicyRuntime.DamiaoActuator
import PolicyRuntime.DeviceNumbering
import PolicyRuntime.RuntimeHost
import PolicyRuntime.SensorPublication

/-!
# Sensor samples from the daemon to the host

The daemon queues feedback for the state channels of its endpoint, the worker
of the endpoint writes queued events on the topics, and the readers of the host
store what they take.  Every event carries the device whose feedback it is;
the code does not look at this mark.
-/

namespace PolicyRuntime

open FloatingPoint

/-! ## Channels -/

/-- A state channel of the endpoint, or a reader of the host. -/
structure StateChannel where
  deviceId : String
  topicName : String
  deriving DecidableEq

def StateChannel.create (descriptor : DdsTopicDescriptor) : StateChannel where
  deviceId := descriptor.deviceId
  topicName := descriptor.topicName

structure StateChannels where
  cia402 : List StateChannel
  damiao : List StateChannel
  st3215 : List StateChannel

namespace StateChannels

/-- The endpoint and the host go through the descriptors alike. -/
def add (channels : StateChannels) (descriptor : DdsTopicDescriptor) :
    StateChannels :=
  if descriptor.kind = .state ∧ descriptor.deviceKind = .cia402 then
    { channels with cia402 := channels.cia402 ++ [.create descriptor] }
  else if descriptor.kind = .state ∧ descriptor.deviceKind = .damiao then
    { channels with damiao := channels.damiao ++ [.create descriptor] }
  else if descriptor.kind = .state ∧ descriptor.deviceKind = .st3215 then
    { channels with st3215 := channels.st3215 ++ [.create descriptor] }
  else
    channels

def create (descriptors : List DdsTopicDescriptor) : StateChannels :=
  descriptors.foldl add ⟨[], [], []⟩

def ofClass (channels : StateChannels) : DeviceClass → List StateChannel
  | .axis => channels.cia402
  | .servo => channels.st3215
  | .motor => channels.damiao

theorem ofClass_add (channels : StateChannels)
    (descriptor : DdsTopicDescriptor) (cls : DeviceClass) :
    (channels.add descriptor).ofClass cls = channels.ofClass cls ++
      (cls.topics .state [descriptor]).map StateChannel.create := by
  unfold add DeviceClass.topics
  by_cases hstate : descriptor.kind = .state
  · cases hkind : descriptor.deviceKind <;> cases cls <;>
      simp [hstate, hkind, ofClass, DeviceClass.topic]
  · simp [hstate]

/-- The channels of a class are its state topics. -/
theorem ofClass_create (descriptors : List DdsTopicDescriptor)
    (cls : DeviceClass) :
    (create descriptors).ofClass cls =
      (cls.topics .state descriptors).map StateChannel.create := by
  unfold create
  induction descriptors using List.reverseRecOn with
  | nil => cases cls <;> rfl
  | append_singleton descriptors descriptor ih =>
      rw [List.foldl_append, List.foldl_cons, List.foldl_nil, ofClass_add, ih]
      unfold DeviceClass.topics
      rw [List.filter_append, List.map_append]

end StateChannels

/-! ## Events -/

structure Cia402SensorEvent (D : Type) where
  sequence : ℕ
  timestampNs : ℤ
  busCycle : ℕ
  flags : BitVec 32
  position : D
  velocity : D
  torque : D
  statusWord : BitVec 16
  modeDisplay : ℤ

structure DamiaoSensorEvent (F : Type) where
  sequence : ℕ
  timestampNs : ℤ
  busCycle : ℕ
  flags : BitVec 32
  position : F
  velocity : F
  torque : F
  motorId : ℕ
  errorCode : ℕ
  mosTemperature : ℤ
  rotorTemperature : ℤ

inductive SensorEvent (D F : Type)
  | cia402 (event : Cia402SensorEvent D)
  | damiao (event : DamiaoSensorEvent F)
  | st3215 (event : St3215SensorEvent D)

/-- An event with the device whose feedback it is. -/
structure Sourced (D F : Type) where
  device : Option (DeviceClass × ℕ)
  event : SensorEvent D F

/-- A written sample. -/
structure StateSample (D F : Type) where
  topicName : String
  schemaVersion : ℕ
  robotId : String
  deviceId : String
  content : Sourced D F

/-- `SensorEventQueue`: all events ever published and the number consumed. -/
structure EventQueue (T : Type) where
  published : List T
  consumed : ℕ

namespace EventQueue

variable {T : Type}

def empty : EventQueue T := ⟨[], 0⟩

def pushRealtime (queue : EventQueue T) (value : T) : EventQueue T :=
  { queue with published := queue.published ++ [value] }

/-- The oldest event whose slot was not taken by a later one.  A slot which is
written during the load yields nothing. -/
def pop (capacity : ℕ) (loaded : Bool) (queue : EventQueue T) :
    EventQueue T × Option T :=
  if queue.published.length ≤ queue.consumed then
    (queue, none)
  else
    let consumed := max queue.consumed (queue.published.length - capacity)
    if loaded then
      ({ queue with consumed := consumed + 1 }, queue.published[consumed]?)
    else
      (queue, none)

end EventQueue

section Network

variable {D F : Type} [DoubleArithmetic D] [SinglePrecision F]

/-! ## Damiao feedback -/

/-- `min + code / maxCode * (max - min)` -/
def decodeCode (code maxCode : ℕ) (minValue maxValue : F) : F :=
  SinglePrecision.sub minValue (SinglePrecision.neg (SinglePrecision.mul
    (SinglePrecision.div (SinglePrecision.ofNat code)
      (SinglePrecision.ofNat maxCode))
    (SinglePrecision.sub maxValue minValue)))

/-- `DamiaoSensor::accepts` -/
def MotorProfile.accepts (motor : MotorProfile F) (frame : DeviceFrame) :
    Bool :=
  frame.address.toNat = motor.motorId && frame.size = 8

/-- `DamiaoSensor::decode` -/
def MotorProfile.decode (motor : MotorProfile F) (frame : DeviceFrame) :
    Option (DamiaoFeedback F) :=
  if !motor.accepts frame then
    none
  else if 0x7FF < frame.address.toNat || frame.size ≠ 8 ||
      !(SinglePrecision.lt (SinglePrecision.ofNat 0)
          motor.limits.positionMax &&
        SinglePrecision.lt (SinglePrecision.ofNat 0)
          motor.limits.velocityMax &&
        SinglePrecision.lt (SinglePrecision.ofNat 0)
          motor.limits.torqueMax) then
    none
  else
    let byte (i : Fin 256) : ℕ := (frame.bytes i).toNat
    some
      { motorId := byte 0 % 16
        errorCode := byte 0 / 16
        position := decodeCode (byte 1 * 256 + byte 2) 0xFFFF
          (SinglePrecision.neg motor.limits.positionMax)
          motor.limits.positionMax
        velocity := decodeCode (byte 3 * 16 + byte 4 / 16) 0x0FFF
          (SinglePrecision.neg motor.limits.velocityMax)
          motor.limits.velocityMax
        torque := decodeCode (byte 4 % 16 * 256 + byte 5) 0x0FFF
          (SinglePrecision.neg motor.limits.torqueMax)
          motor.limits.torqueMax
        mosTemperature := (frame.bytes 6).toInt
        rotorTemperature := (frame.bytes 7).toInt }

/-- The receive callback of a bus: the first member that accepts the frame, and
the event of its feedback. -/
def receiveDamiao (motors : List (MotorProfile F)) (members : List ℕ)
    (frame : DeviceFrame) (sequence : ℕ) (nowNs : ℤ) :
    Option (ℕ × DamiaoSensorEvent F) := do
  let candidate ← members.find? fun candidate =>
    motors[candidate]?.any (·.accepts frame)
  let motor ← motors[candidate]?
  let feedback ← motor.decode frame
  pure (candidate, ⟨sequence, nowNs, sequence, 0, feedback.position,
    feedback.velocity, feedback.torque, feedback.motorId, feedback.errorCode,
    feedback.mosTemperature, feedback.rotorTemperature⟩)

/-! ## Queueing -/

/-- The event of an axis in a cycle. -/
def axisEvent (value : AxisFeedback D) (cycleSequence : ℕ) (nowNs : ℤ) :
    Cia402SensorEvent D :=
  ⟨cycleSequence + 1, nowNs, cycleSequence + 1, value.flags, value.position,
    value.velocity, value.effort, value.statusWord,
    (BitVec.ofInt 32 value.modeDisplay).toInt⟩

/-- The event of a servo in a cycle. -/
def servoEvent (feedback : St3215ServoFeedback D) (cycleSequence : ℕ) :
    St3215SensorEvent D :=
  ⟨feedback.feedbackSequence, feedback.timestampNs, cycleSequence,
    feedback.flags, feedback.positionRad, feedback.rawPosition % 2 ^ 16,
    feedback.statusError % 2 ^ 16⟩

/-- `st3215_dds_sensor_indices_` -/
def st3215DdsSensorIndices (sensors : List DeviceConfig)
    (servos : List ServoProfile) : ℕ → Option ℕ :=
  (sensors.filter (·.type = "st3215")).zipIdx.foldl (fun indices entry =>
    match servos.findIdx? (·.sensorName = entry.1.name) with
    | some servo => Function.update indices servo (some entry.2)
    | none => indices) fun _ => none

/-- Feedback of the daemon: an axis in a cycle, a servo in a cycle, a frame on
a CAN bus. -/
inductive DaemonFeedback (D : Type)
  | axis (index : ℕ) (value : AxisFeedback D) (cycleSequence : ℕ)
      (nowNs : ℤ)
  | servo (index : ℕ) (feedback : St3215ServoFeedback D) (cycleSequence : ℕ)
  | frame (path : String) (frame : DeviceFrame) (sequence : ℕ) (nowNs : ℤ)

namespace DdsRobotProfile

variable (profile : DdsRobotProfile D F)

/-- The channel for which the daemon queues feedback, and the event. -/
def queued : DaemonFeedback D → Option (DeviceClass × ℕ × SensorEvent D F)
  | .axis index value cycleSequence nowNs =>
      if index < profile.axes.length then
        some (.axis, index, .cia402 (axisEvent value cycleSequence nowNs))
      else none
  | .servo index feedback cycleSequence => do
      let sensor ← st3215DdsSensorIndices profile.sensors profile.servos index
      if feedback.offered then
        some (.servo, sensor, .st3215 (servoEvent feedback cycleSequence))
      else none
  | .frame path frame sequence nowNs => do
      let bus ← (damiaoBusMembers profile.motors).find? (·.1 = path)
      let received ← receiveDamiao profile.motors bus.2 frame sequence nowNs
      pure (.motor, received.1, .damiao received.2)

/-- The device whose feedback it is. -/
def deviceOf : DaemonFeedback D → Option (DeviceClass × ℕ)
  | .axis index .. => if index < profile.axes.length then
      some (.axis, index) else none
  | .servo index .. => if index < profile.servos.length then
      some (.servo, index) else none
  | .frame path frame .. =>
      (profile.motors.findIdx? fun motor =>
        motor.path = path && motor.motorId = frame.address.toNat).map
          (.motor, ·)

end DdsRobotProfile

/-! ## The network -/

structure SensorNetwork (D F : Type) where
  queues : DeviceClass → ℕ → EventQueue (Sourced D F)
  written : List (StateSample D F)
  /-- the values of the host; `none` stands for the initial one -/
  stored : DeviceClass → ℕ → Option (Sourced D F)

namespace SensorNetwork

def fresh : SensorNetwork D F where
  queues := fun _ _ => .empty
  written := []
  stored := fun _ _ => none

def setQueue (network : SensorNetwork D F) (cls : DeviceClass) (channel : ℕ)
    (queue : EventQueue (Sourced D F)) : SensorNetwork D F :=
  { network with
    queues := fun c k =>
      if (c, k) = (cls, channel) then queue else network.queues c k }

def store (network : SensorNetwork D F) (cls : DeviceClass) (reader : ℕ)
    (content : Sourced D F) : SensorNetwork D F :=
  { network with
    stored := fun c r =>
      if (c, r) = (cls, reader) then some content else network.stored c r }

variable (profile : DdsRobotProfile D F)

/-- `enqueue_*_sensor_realtime` -/
def enqueue (network : SensorNetwork D F) (feedback : DaemonFeedback D) :
    SensorNetwork D F :=
  match profile.queued feedback with
  | none => network
  | some (cls, channel, event) =>
      if channel < ((StateChannels.create profile.descriptors).ofClass
          cls).length then
        network.setQueue cls channel
          ((network.queues cls channel).pushRealtime
            ⟨profile.deviceOf feedback, event⟩)
      else network

/-- The sample of a channel. -/
def sampleOf (channel : StateChannel) (content : Sourced D F) :
    StateSample D F :=
  ⟨channel.topicName, ddsSchemaVersion, profile.robotId, channel.deviceId,
    content⟩

/-- `valid_header` of the host -/
def validHeader (sample : StateSample D F) (deviceId : String) : Bool :=
  sample.schemaVersion = ddsSchemaVersion &&
    sample.robotId = profile.robotId && sample.deviceId = deviceId

/-- A reader gets the samples of its topic. -/
def takeSample (network : SensorNetwork D F) (cls : DeviceClass)
    (reader sample : ℕ) : SensorNetwork D F :=
  match ((StateChannels.create profile.descriptors).ofClass cls)[reader]?,
    network.written[sample]? with
  | some channel, some taken =>
      if taken.topicName = channel.topicName ∧
          reader < (profile.sensorNames cls).length ∧
          validHeader profile taken channel.deviceId then
        network.store cls reader taken.content
      else network
  | _, _ => network

end SensorNetwork

def axisFeedbackOf : Option (Sourced D F) → AxisFeedback D
  | some ⟨_, .cia402 event⟩ =>
      ⟨event.sequence, event.timestampNs, event.position, event.velocity,
        event.torque, event.statusWord, event.flags,
        event.modeDisplay % 2 ^ 32⟩
  | _ => ⟨0, 0, zero, zero, zero, 0, 0, 0⟩

def servoFeedbackOf : Option (Sourced D F) → St3215ServoFeedback D
  | some ⟨_, .st3215 event⟩ =>
      ⟨event.sequence, 0, event.timestampNs, event.positionRad,
        event.rawPosition, event.flags, 0, event.statusError, 0, 0⟩
  | _ => ⟨0, 0, 0, zero, 0, 0, 0, 0, 0, 0⟩

def motorFeedbackOf : Option (Sourced D F) → DamiaoFeedback F
  | some ⟨_, .damiao event⟩ =>
      ⟨event.motorId, event.errorCode, event.position, event.velocity,
        event.torque, event.mosTemperature, event.rotorTemperature⟩
  | _ => ⟨0, 0, SinglePrecision.ofNat 0, SinglePrecision.ofNat 0,
      SinglePrecision.ofNat 0, 0, 0⟩

/-- The answers of `read_feedback`, `read_servo_feedback` and
`read_damiao_feedback`. -/
structure Reads (profile : DdsRobotProfile D F)
    (stored : DeviceClass → ℕ → Option (Sourced D F))
    (answers : HostAnswers D F) : Prop where
  axes : answers.feedback =
    .value ⟨profile.axes.length, fun i => axisFeedbackOf (stored .axis i)⟩
  servos : answers.servoFeedback =
    .value ⟨profile.servos.length, fun i => servoFeedbackOf (stored .servo i)⟩
  motors : answers.damiaoFeedback =
    .value ⟨profile.motors.length, fun i => motorFeedbackOf (stored .motor i)⟩

end Network

end PolicyRuntime
