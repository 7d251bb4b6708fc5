import PolicyRuntime.RobotProfiles
import PolicyRuntime.TopicNamespace

/-!
# Numbers of devices and topics

Axes, servos and motors are numbered in the order of the sensors of their
type.  The topic registry lists the state topics in the order of the sensors
and the command topics in the order of the actuators.
-/

namespace PolicyRuntime

inductive DeviceClass
  | axis
  | servo
  | motor
  deriving DecidableEq

namespace DeviceClass

/-- The type text in a profile. -/
def type : DeviceClass → String
  | axis => "cia402"
  | servo => "st3215"
  | motor => "damiao_motor"

def topic : DeviceClass → DdsDeviceKind
  | axis => .cia402
  | servo => .st3215
  | motor => .damiao

theorem topic_injective : Function.Injective topic := by
  intro left right h
  cases left <;> cases right <;> first | rfl | cases h

theorem type_injective : Function.Injective type := by
  intro left right h
  revert h
  cases left <;> cases right <;> decide

/-- The devices of a class, in order. -/
def devices (cls : DeviceClass) (list : List DeviceConfig) :
    List DeviceConfig :=
  list.filter (·.type = cls.type)

/-- The topics of one direction and class, in order. -/
def topics (cls : DeviceClass) (kind : DdsTopicKind)
    (descriptors : List DdsTopicDescriptor) : List DdsTopicDescriptor :=
  descriptors.filter fun descriptor =>
    descriptor.kind = kind && descriptor.deviceKind = cls.topic

theorem deviceKindFor_iff (cls : DeviceClass) {device : DeviceConfig}
    {kind : DdsDeviceKind} (hkind : deviceKindFor device = .ok kind) :
    kind = cls.topic ↔ device.type = cls.type := by
  unfold deviceKindFor at hkind
  split_ifs at hkind with haxis hmotor hservo
  · cases hkind
    rw [haxis]
    cases cls <;> decide
  · cases hkind
    rw [hmotor]
    cases cls <;> decide
  · cases hkind
    rw [hservo]
    cases cls <;> decide

end DeviceClass

/-! ## Topics of a registry -/

namespace TopicRegistry

/-- A descriptor lists a device. -/
structure Lists (kind : DdsTopicKind) (device : DeviceConfig)
    (descriptor : DdsTopicDescriptor) : Prop where
  kind : descriptor.kind = kind
  deviceId : descriptor.deviceId = device.name
  deviceKind : deviceKindFor device = .ok descriptor.deviceKind

/-- Descriptors of a class keep the order of its devices. -/
theorem deviceIds_of_lists (cls : DeviceClass) {kind : DdsTopicKind}
    {devices : List DeviceConfig} {descriptors : List DdsTopicDescriptor}
    (h : List.Forall₂ (Lists kind) devices descriptors) :
    (cls.topics kind descriptors).map DdsTopicDescriptor.deviceId =
      (cls.devices devices).map DeviceConfig.name := by
  unfold DeviceClass.topics DeviceClass.devices
  induction h with
  | nil => rfl
  | @cons device descriptor _ _ hlists _ ih =>
      have hclass := cls.deviceKindFor_iff hlists.deviceKind
      by_cases htype : device.type = cls.type
      · rw [List.filter_cons_of_pos (by
            simp [hlists.kind, hclass.mpr htype]),
          List.filter_cons_of_pos (by simpa using htype),
          List.map_cons, List.map_cons, ih, hlists.deviceId]
      · rw [List.filter_cons_of_neg (by simp [mt hclass.mp htype]),
          List.filter_cons_of_neg (by simpa using htype), ih]

theorem topics_of_other (cls : DeviceClass) {kind other : DdsTopicKind}
    {descriptors : List DdsTopicDescriptor}
    (h : ∀ descriptor ∈ descriptors, descriptor.kind = other)
    (hne : other ≠ kind) : cls.topics kind descriptors = [] := by
  unfold DeviceClass.topics
  rw [List.filter_eq_nil_iff]
  intro descriptor hmem
  rw [h descriptor hmem]
  simp [hne]

theorem kind_of_lists {kind : DdsTopicKind} {devices : List DeviceConfig}
    {descriptors : List DdsTopicDescriptor}
    (h : List.Forall₂ (Lists kind) devices descriptors) :
    ∀ descriptor ∈ descriptors, descriptor.kind = kind := by
  induction h with
  | nil => simp
  | cons hlists _ ih => exact List.forall_mem_cons.mpr ⟨hlists.kind, ih⟩

end TopicRegistry

open TopicRegistry

theorem buildDdsTopicRegistry_lists {sensors actuators : List DeviceConfig}
    {robotId : String} {descriptors : List DdsTopicDescriptor}
    (hok : buildDdsTopicRegistry sensors actuators robotId =
      .ok descriptors) :
    ∃ states commands others, descriptors = states ++ commands ++ others ∧
      List.Forall₂ (Lists .state) sensors states ∧
      List.Forall₂ (Lists .command) actuators commands ∧
      ∀ descriptor ∈ others,
        descriptor.kind = .commit ∨ descriptor.kind = .health := by
  obtain ⟨robot, -, ⟨parts⟩⟩ := exists_registryParts hok
  have hlists : ∀ (kind : DdsTopicKind) (direction : TopicDirection) device
      descriptor, DeviceTopic kind direction robot device descriptor →
        Lists kind device descriptor := by
    intro kind direction device descriptor htopic
    exact ⟨htopic.topicKind, htopic.deviceId, htopic.deviceKind⟩
  refine ⟨parts.states, parts.commands, parts.commits ++ [parts.health],
    by simpa using parts.whole, parts.sensorTopics.imp (hlists .state .sensor),
    parts.actuatorTopics.imp (hlists .command .actuator), ?_⟩
  rw [List.forall_mem_append, List.forall_mem_singleton]
  exact ⟨fun descriptor hmem => Or.inl (parts.commits_kind descriptor hmem),
    Or.inr parts.healthKind⟩

section Classes

variable {sensors actuators : List DeviceConfig} {robotId : String}
  {descriptors : List DdsTopicDescriptor}

/-- The command topics are numbered as the actuators of their class. -/
theorem commandTopics_deviceIds (cls : DeviceClass)
    (hok : buildDdsTopicRegistry sensors actuators robotId =
      .ok descriptors) :
    (cls.topics .command descriptors).map DdsTopicDescriptor.deviceId =
      (cls.devices actuators).map DeviceConfig.name := by
  obtain ⟨states, commands, others, rfl, hstates, hcommands, hothers⟩ :=
    buildDdsTopicRegistry_lists hok
  have hnone : cls.topics .command others = [] := by
    unfold DeviceClass.topics
    rw [List.filter_eq_nil_iff]
    intro descriptor hmem
    obtain h | h := hothers descriptor hmem
    · simp [h]
    · simp [h]
  have hother : cls.topics .command states = [] :=
    topics_of_other cls (kind_of_lists hstates) (by decide)
  unfold DeviceClass.topics at hnone hother ⊢
  rw [List.filter_append, List.filter_append, hnone, hother,
    List.append_nil, List.nil_append]
  exact deviceIds_of_lists cls hcommands

end Classes

/-! ## Devices of a profile -/

/-- The profiles of a class carry the names of its sensors. -/
theorem LinkKind.derive_names {P : Type} (kind : LinkKind P)
    {limit : ℕ} {oversized unpaired : String}
    {sensors actuators : List DeviceConfig} {profiles : List P}
    (hderive : kind.derive limit oversized unpaired sensors actuators =
      .ok profiles)
    (nameOf : P → String)
    (hname : ∀ sensor sensed acted, kind.parse true sensor = .ok sensed →
      nameOf (kind.join false sensed acted) = sensor.name) :
    profiles.map nameOf = (kind.devices sensors).map DeviceConfig.name := by
  have hlength := (kind.derive_paired hderive).2.1
  apply List.ext_getElem?
  intro index
  rw [List.getElem?_map, List.getElem?_map]
  cases hsensor : (kind.devices sensors)[index]? with
  | none =>
      rw [List.getElem?_eq_none_iff, ← hlength,
        ← List.getElem?_eq_none_iff] at hsensor
      rw [hsensor]
      rfl
  | some sensor =>
      obtain ⟨_, _, profile, hprofile, _, sensed, acted, hsensed, _, _,
        rfl⟩ := kind.derive_pair hderive hsensor
      rw [hprofile]
      exact congrArg some (hname sensor sensed acted hsensed)

namespace RobotProfile

variable {D F : Type} [DoubleArithmetic D] [SinglePrecision F]
  (profile : RobotProfile D F)

/-- The names by which the host knows the devices of a class. -/
def sensorNames : DeviceClass → List String
  | .axis => profile.axes.map AxisProfile.name
  | .servo => profile.servos.map ServoProfile.sensorName
  | .motor => profile.motors.map MotorProfile.sensorName

/-- The identity text of the link of a device. -/
def key (sensor : Bool) : DeviceClass → DeviceConfig → String
  | .axis => (axisKind profile.strtod).key sensor
  | .servo => (servoKind profile.strtod).key sensor
  | .motor => (motorKind profile.strtod profile.toFloat).key sensor

/-- The link of the axis, servo or motor with a number contains a sensor. -/
def ContainsSensor (cls : DeviceClass) (index : ℕ) (sensor : DeviceConfig) :
    Prop :=
  sensor ∈ cls.devices profile.sensors ∧
    (profile.sensorNames cls)[index]? = some sensor.name

/-- The link contains an actuator: it shares the identity of the sensor. -/
def ContainsActuator (cls : DeviceClass) (index : ℕ)
    (actuator : DeviceConfig) : Prop :=
  actuator ∈ cls.devices profile.actuators ∧
    ∃ sensor, profile.ContainsSensor cls index sensor ∧
      profile.key true cls sensor = profile.key false cls actuator

theorem sensorNames_eq (cls : DeviceClass) :
    profile.sensorNames cls =
      (cls.devices profile.sensors).map DeviceConfig.name := by
  cases cls with
  | axis =>
      refine (axisKind profile.strtod).derive_names
        (deriveAxes_links profile.strtod profile.derivedAxes)
        AxisProfile.name ?_
      intro sensor sensed acted hsensed
      exact (parsedAxis_of_ok profile.strtod hsensed).name
  | servo =>
      refine (servoKind profile.strtod).derive_names
        (deriveSt3215_links profile.strtod profile.derivedServos)
        ServoProfile.sensorName ?_
      intro sensor sensed acted hsensed
      exact (parsedServo_of_ok profile.strtod hsensed).sensorName
  | motor =>
      refine (motorKind profile.strtod profile.toFloat).derive_names
        profile.derivedMotors MotorProfile.sensorName ?_
      intro sensor sensed acted hsensed
      exact (parsedMotor_of_ok profile.strtod profile.toFloat
        hsensed).sensorName

theorem paired (cls : DeviceClass) :
    LinkTable.Paired
      ((cls.devices profile.sensors).map (profile.key true cls))
      ((cls.devices profile.actuators).map (profile.key false cls)) := by
  cases cls with
  | axis =>
      exact ((axisKind profile.strtod).derive_paired
        (deriveAxes_links profile.strtod profile.derivedAxes)).1
  | servo =>
      exact ((servoKind profile.strtod).derive_paired
        (deriveSt3215_links profile.strtod profile.derivedServos)).1
  | motor =>
      exact ((motorKind profile.strtod profile.toFloat).derive_paired
        profile.derivedMotors).1

theorem sensor_of_name {left right : DeviceConfig}
    (hleft : left ∈ profile.sensors) (hright : right ∈ profile.sensors)
    (hname : left.name = right.name) : left = right := by
  have hnodup := profile.names
  rw [List.map_append] at hnodup
  exact List.inj_on_of_nodup_map (List.Nodup.of_append_left hnodup)
    hleft hright hname

theorem actuator_of_name {left right : DeviceConfig}
    (hleft : left ∈ profile.actuators) (hright : right ∈ profile.actuators)
    (hname : left.name = right.name) : left = right := by
  have hnodup := profile.names
  rw [List.map_append] at hnodup
  exact List.inj_on_of_nodup_map (List.Nodup.of_append_right hnodup)
    hleft hright hname

theorem nodup_sensors : profile.sensors.Nodup := by
  have hnames := profile.names
  rw [List.map_append] at hnames
  exact List.Nodup.of_map _ (List.Nodup.of_append_left hnames)

theorem nodup_actuators : profile.actuators.Nodup := by
  have hnames := profile.names
  rw [List.map_append] at hnames
  exact List.Nodup.of_map _ (List.Nodup.of_append_right hnames)

/-- Devices are numbered in the order of their sensors. -/
theorem containsSensor_iff {cls : DeviceClass} {index : ℕ}
    {sensor : DeviceConfig} :
    profile.ContainsSensor cls index sensor ↔
      (cls.devices profile.sensors)[index]? = some sensor := by
  unfold ContainsSensor
  rw [profile.sensorNames_eq, List.getElem?_map]
  constructor
  · rintro ⟨hmem, hname⟩
    obtain ⟨listed, hlisted, hsame⟩ := Option.map_eq_some_iff.mp hname
    have hin := List.mem_of_getElem? hlisted
    rw [hlisted, profile.sensor_of_name (List.mem_of_mem_filter hin)
      (List.mem_of_mem_filter hmem) hsame]
  · intro hlisted
    rw [hlisted]
    exact ⟨List.mem_of_getElem? hlisted, rfl⟩

/-- One link contains an actuator. -/
theorem containsActuator_unique {cls : DeviceClass} {left right : ℕ}
    {actuator : DeviceConfig}
    (hleft : profile.ContainsActuator cls left actuator)
    (hright : profile.ContainsActuator cls right actuator) :
    left = right := by
  obtain ⟨_, first, hfirst, hkey⟩ := hleft
  obtain ⟨_, second, hsecond, hkey'⟩ := hright
  rw [containsSensor_iff] at hfirst hsecond
  have hat (index : ℕ) (sensor : DeviceConfig)
      (hindex : (cls.devices profile.sensors)[index]? = some sensor) :
      ((cls.devices profile.sensors).map
        (profile.key true cls))[index]? =
          some (profile.key true cls sensor) := by
    rw [List.getElem?_map, hindex]
    rfl
  have hlt := (List.getElem?_eq_some_iff.mp (hat left first hfirst)).1
  refine (List.getElem?_inj hlt (profile.paired cls).sensorsOnce).mp ?_
  rw [hat left first hfirst, hat right second hsecond, hkey, hkey']

theorem exists_containsActuator {cls : DeviceClass} {actuator : DeviceConfig}
    (hactuator : actuator ∈ cls.devices profile.actuators) :
    ∃ index, profile.ContainsActuator cls index actuator := by
  have hkey := (profile.paired cls).perm.mem_iff.mp
    (List.mem_map_of_mem hactuator)
  obtain ⟨sensor, hsensor, hsame⟩ := List.mem_map.mp hkey
  obtain ⟨index, hindex⟩ := List.mem_iff_getElem?.mp hsensor
  exact ⟨index, hactuator, sensor, profile.containsSensor_iff.mpr hindex,
    hsame⟩

end RobotProfile

/-- A profile accepted with the DDS backend. -/
structure DdsRobotProfile (D F : Type) [DoubleArithmetic D]
    [SinglePrecision F] extends RobotProfile D F where
  robotId : String
  descriptors : List DdsTopicDescriptor
  registered : buildDdsTopicRegistry sensors actuators robotId =
    .ok descriptors

end PolicyRuntime
