import PolicyRuntime.SensorIdentity

/-!
# Which device a command reaches

The endpoint numbers command channels in the order of the actuators, and the
callbacks of the daemon pass these numbers to axes, servos and motors, which
are numbered in the order of the sensors.
-/

namespace PolicyRuntime

open FloatingPoint

/-! ## Command channels -/

structure DamiaoActuatorCommand (F : Type) where
  header : MessageHeader
  enabled : Bool
  faultReset : Bool
  position : F
  velocity : F
  kp : F
  kd : F
  torque : F

/-- A command channel of a servo or a motor. -/
structure ActuatorChannel where
  actuatorIndex : ℕ
  deviceId : String
  topicName : String
  deriving DecidableEq

structure ActuatorChannels where
  damiao : List ActuatorChannel
  st3215 : List ActuatorChannel

namespace ActuatorChannels

/-- The counters of the loop are the lengths of the lists. -/
def add (channels : ActuatorChannels) (descriptor : DdsTopicDescriptor) :
    ActuatorChannels :=
  if descriptor.kind ≠ .command then
    channels
  else if descriptor.deviceKind = .damiao then
    { channels with
      damiao := channels.damiao ++
        [⟨channels.damiao.length, descriptor.deviceId,
          descriptor.topicName⟩] }
  else if descriptor.deviceKind = .st3215 then
    { channels with
      st3215 := channels.st3215 ++
        [⟨channels.st3215.length, descriptor.deviceId,
          descriptor.topicName⟩] }
  else
    channels

def create (descriptors : List DdsTopicDescriptor) : ActuatorChannels :=
  descriptors.foldl add ⟨[], []⟩

/-- Channels in the order of their topics. -/
def ofTopics (topics : List DdsTopicDescriptor) : List ActuatorChannel :=
  topics.mapIdx fun index descriptor =>
    ⟨index, descriptor.deviceId, descriptor.topicName⟩

theorem ofTopics_append (topics : List DdsTopicDescriptor)
    (descriptor : DdsTopicDescriptor) :
    ofTopics (topics ++ [descriptor]) = ofTopics topics ++
      [⟨(ofTopics topics).length, descriptor.deviceId,
        descriptor.topicName⟩] := by
  simp [ofTopics, List.mapIdx_append]

theorem create_eq (descriptors : List DdsTopicDescriptor) :
    (create descriptors).damiao =
        ofTopics (DeviceClass.motor.topics .command descriptors) ∧
      (create descriptors).st3215 =
        ofTopics (DeviceClass.servo.topics .command descriptors) := by
  induction descriptors using List.reverseRecOn with
  | nil => exact ⟨rfl, rfl⟩
  | append_singleton descriptors descriptor ih =>
      have hstep : create (descriptors ++ [descriptor]) =
          (create descriptors).add descriptor := by
        unfold create
        rw [List.foldl_append, List.foldl_cons, List.foldl_nil]
      have htopics (cls : DeviceClass) :
          cls.topics .command (descriptors ++ [descriptor]) =
            cls.topics .command descriptors ++
              cls.topics .command [descriptor] := List.filter_append ..
      rw [hstep, htopics, htopics]
      generalize create descriptors = built at *
      generalize DeviceClass.motor.topics .command descriptors = motors at *
      generalize DeviceClass.servo.topics .command descriptors = servos at *
      obtain ⟨damiao, st3215⟩ := built
      obtain ⟨rfl, rfl⟩ := ih
      unfold add DeviceClass.topics
      by_cases hcommand : descriptor.kind = .command
      · cases hkind : descriptor.deviceKind <;>
          simp [hcommand, hkind, DeviceClass.topic, ofTopics_append]
      · simp [hcommand]

end ActuatorChannels

section Commands

variable {D F : Type} [DoubleArithmetic D] [SinglePrecision F]

/-- A sample taken from a command or commit reader. -/
inductive CommandTake (D F : Type)
  | ethercat (take : EndpointTake D)
  | damiao (channel : ℕ) (sample : Option (DamiaoActuatorCommand F))
  | st3215 (channel : ℕ) (sample : Option (St3215ActuatorCommand D))

def CommandTake.ethercat? : CommandTake D F → Option (EndpointTake D)
  | .ethercat take => some take
  | _ => none

/-- The tests on the header of a sample. -/
def acceptsHeader (robotId deviceId : String) (header : MessageHeader) :
    Bool :=
  header.schemaVersion = ddsSchemaVersion && header.robotId = robotId &&
    header.deviceId = deviceId

def DamiaoActuatorCommand.isFinite (value : DamiaoActuatorCommand F) : Bool :=
  SinglePrecision.isfinite value.position &&
    SinglePrecision.isfinite value.velocity &&
    SinglePrecision.isfinite value.kp &&
    SinglePrecision.isfinite value.kd &&
    SinglePrecision.isfinite value.torque

namespace DdsRobotProfile

variable (profile : DdsRobotProfile D F)

/-- The profile as far as its axes are concerned. -/
def axisProfile : DdsAxisProfile D where
  strtod := profile.strtod
  sensors := profile.sensors
  actuators := profile.actuators
  robotId := profile.robotId
  axes := profile.axes
  descriptors := profile.descriptors
  names := profile.names
  derived := profile.derivedAxes
  registered := profile.registered

/-! ## Callbacks -/

/-- A call of `stage_damiao_command`: the number of the channel. -/
def stageDamiaoCommand (channel : ℕ) (sample : DamiaoActuatorCommand F) :
    Option ℕ := do
  let target ← (ActuatorChannels.create profile.descriptors).damiao[channel]?
  if acceptsHeader profile.robotId target.deviceId sample.header &&
      sample.isFinite then
    some target.actuatorIndex
  else none

/-- A call of `stage_st3215_command`. -/
def stageSt3215Command (channel : ℕ) (sample : St3215ActuatorCommand D) :
    Option ℕ := do
  let target ← (ActuatorChannels.create profile.descriptors).st3215[channel]?
  if acceptsHeader profile.robotId target.deviceId sample.header &&
      isfinite sample.targetRadians then
    some target.actuatorIndex
  else none

/-- The sample from which a member of a group has its command. -/
def stagedSample (earlier : List (EndpointTake D)) (group : String)
    (member : ℕ) : Option (Cia402ActuatorCommand D) :=
  earlier.reverse.findSome? fun take =>
    match take with
    | .command _ (some value) =>
        if (profile.axisProfile.endpoint.memberCommand? group member
            take).isSome then
          some value
        else none
    | _ => none

/-- The devices which receive a command when a sample is taken, each with the
identifier that the sample of its command carries. -/
def applied (earlier : List (CommandTake D F)) :
    CommandTake D F → List (String × DeviceClass × ℕ)
  | .ethercat take =>
      let takes := earlier.filterMap CommandTake.ethercat?
      match (endpointMachine.step (profile.axisProfile.endpointAfter takes)
          take).2 with
      | none => []
      | some call =>
          match stageEthercatEpoch profile.axes.length call with
          | none => []
          | some _ =>
              (List.range profile.axes.length).filterMap fun axis =>
                (profile.stagedSample takes call.executionGroup axis).map
                  fun sample => (sample.header.deviceId, .axis, axis)
  | .damiao channel (some sample) =>
      match profile.stageDamiaoCommand channel sample with
      | some index =>
          -- every motor has an actuator and a binding
          if index < profile.motors.length then
            [(sample.header.deviceId, .motor, index)]
          else []
      | none => []
  | .st3215 channel (some sample) =>
      match profile.stageSt3215Command channel sample with
      | some index =>
          if index < profile.servos.length then
            [(sample.header.deviceId, .servo, index)]
          else []
      | none => []
  | _ => []

/-! ## Positions -/

/-- The command topic of an actuator. -/
def IsCommandTopic (actuator : DeviceConfig) (topicName : String) : Prop :=
  ∃ descriptor ∈ profile.descriptors, descriptor.kind = .command ∧
    descriptor.deviceId = actuator.name ∧ descriptor.topicName = topicName

/-- The number of an actuator in its class is the number of its link. -/
def Aligned (actuator : DeviceConfig) : Prop :=
  ∃ cls index, (cls.devices profile.actuators)[index]? = some actuator ∧
    profile.ContainsActuator cls index actuator

theorem actuators_length (cls : DeviceClass) :
    (cls.devices profile.actuators).length =
      (profile.sensorNames cls).length := by
  have hperm := (profile.paired cls).perm.length_eq
  rw [List.length_map, List.length_map] at hperm
  rw [profile.sensorNames_eq, List.length_map, hperm]

theorem index_lt {cls : DeviceClass} {index : ℕ} {actuator : DeviceConfig}
    (h : (cls.devices profile.actuators)[index]? = some actuator) :
    index < (profile.sensorNames cls).length := by
  rw [← profile.actuators_length]
  exact (List.getElem?_eq_some_iff.mp h).1

/-- A command topic stands at the number of its actuator. -/
theorem actuator_of_topic {cls : DeviceClass} {index : ℕ}
    {descriptor : DdsTopicDescriptor} {actuator : DeviceConfig}
    (hactuator : actuator ∈ profile.actuators)
    (hdescriptor : (cls.topics .command profile.descriptors)[index]? =
      some descriptor) (hname : descriptor.deviceId = actuator.name) :
    (cls.devices profile.actuators)[index]? = some actuator := by
  have hat := congrArg (fun names => names[index]?)
    (commandTopics_deviceIds cls profile.registered)
  simp only [List.getElem?_map] at hat
  rw [hdescriptor, Option.map_some, eq_comm, Option.map_eq_some_iff] at hat
  obtain ⟨listed, hlisted, hsame⟩ := hat
  rw [hlisted, profile.actuator_of_name
    (List.mem_of_mem_filter (List.mem_of_getElem? hlisted)) hactuator
    (hsame.trans hname)]

theorem actuator_unique {cls other : DeviceClass} {left right : ℕ}
    {actuator : DeviceConfig}
    (hleft : (cls.devices profile.actuators)[left]? = some actuator)
    (hright : (other.devices profile.actuators)[right]? = some actuator) :
    cls = other ∧ left = right := by
  have hmem := List.mem_filter.mp (List.mem_of_getElem? hleft)
  have hmem' := List.mem_filter.mp (List.mem_of_getElem? hright)
  have hclass : cls = other := by
    apply DeviceClass.type_injective
    have htype : actuator.type = cls.type := by simpa using hmem.2
    have htype' : actuator.type = other.type := by simpa using hmem'.2
    exact htype.symm.trans htype'
  subst hclass
  refine ⟨rfl, ?_⟩
  have hnodup : (cls.devices profile.actuators).Nodup :=
    profile.nodup_actuators.filter _
  have hlt := (List.getElem?_eq_some_iff.mp hleft).1
  exact (List.getElem?_inj hlt hnodup).mp (hleft.trans hright.symm)

/-- A channel on the topic of an actuator has its name and number. -/
theorem channel_of_topic {cls : DeviceClass} {channel : ℕ}
    {target : ActuatorChannel} {actuator : DeviceConfig}
    (htarget : (ActuatorChannels.ofTopics
      (cls.topics .command profile.descriptors))[channel]? = some target)
    (hactuator : actuator ∈ profile.actuators)
    (htopic : profile.IsCommandTopic actuator target.topicName) :
    target.actuatorIndex = channel ∧ target.deviceId = actuator.name ∧
      (cls.devices profile.actuators)[channel]? = some actuator := by
  unfold ActuatorChannels.ofTopics at htarget
  rw [List.getElem?_mapIdx, Option.map_eq_some_iff] at htarget
  obtain ⟨descriptor, hdescriptor, rfl⟩ := htarget
  obtain ⟨listed, hlisted, _, hname, hsame⟩ := htopic
  have hmem := List.mem_of_mem_filter (List.mem_of_getElem? hdescriptor)
  have heq : listed = descriptor := List.inj_on_of_nodup_map
    (buildDdsTopicRegistry_ok profile.registered).names hlisted hmem hsame
  subst heq
  exact ⟨rfl, hname, profile.actuator_of_topic hactuator hdescriptor hname⟩

/-! ## Epochs -/

section Epochs

variable {profile}

theorem singleGroup (hone : profile.axisProfile.OneSafetyGroup)
    (hsome : profile.axisProfile.topics ≠ []) :
    ∃ group commitTopic, (∀ descriptor ∈ profile.axisProfile.topics,
        descriptor.executionGroup = group) ∧
      profile.axisProfile.endpoint.SingleGroup profile.robotId group
        profile.axisProfile.topics commitTopic := by
  obtain ⟨group, hgroup⟩ := profile.axisProfile.oneSafetyGroup_iff.mp hone
  obtain ⟨commit, hcommits, hcommit⟩ :=
    profile.axisProfile.commitTopics_of_single hgroup hsome
  exact ⟨group, commit.topicName, hgroup,
    (profile.axisProfile.singleGroup hgroup hsome hcommits hcommit).1⟩

/-- A member takes samples of its own actuator only. -/
theorem deviceId_of_memberCommand
    {group robot commitTopic : String} {topics : List DdsTopicDescriptor}
    {endpoint : DdsDaemonEndpoint D}
    (hsingle : endpoint.SingleGroup robot group topics commitTopic)
    {name : String} {member position : ℕ}
    {value : Cia402ActuatorCommand D}
    (h : (endpoint.memberCommand? name member
      (.command position (some value))).isSome) :
    (topics[member]?).map DdsTopicDescriptor.deviceId =
      some value.header.deviceId := by
  unfold DdsDaemonEndpoint.memberCommand? at h
  cases hevent : endpoint.eventOf (.command position (some value)) with
  | none => simp [hevent] at h
  | some event =>
      obtain ⟨index, event⟩ := event
      cases event with
      | commit epoch => simp [hevent] at h
      | stage staged epoch command =>
          rw [hevent] at h
          dsimp only at h
          split at h
          · next hmember =>
              obtain ⟨at', channel, sample, htake, hchannel, haccepts, _,
                hstaged, _⟩ :=
                (DdsDaemonEndpoint.eventOf_stage_iff _ _ _ _ _ _).mp hevent
              cases htake
              rw [hsingle.channels, List.getElem?_mapIdx,
                Option.map_eq_some_iff] at hchannel
              obtain ⟨descriptor, hdescriptor, rfl⟩ := hchannel
              have hsame : position = member := by
                rw [← hmember.2, ← hstaged]
              rw [← hsame, hdescriptor]
              unfold DdsDaemonEndpoint.acceptsCommand at haccepts
              simp only [Bool.not_eq_true', Bool.or_eq_false_iff,
                decide_eq_false_iff_not, not_not] at haccepts
              exact congrArg some haccepts.1.1.2.symm
          · simp at h

/-- A committed epoch covers all axes, and each of them took a sample. -/
theorem members_of_call (hone : profile.axisProfile.OneSafetyGroup)
    {takes : List (EndpointTake D)} {take : EndpointTake D}
    {call : StageEthercatEpoch D}
    (hcall : (endpointMachine.step
      (profile.axisProfile.endpointAfter takes) take).2 = some call) :
    profile.axisProfile.topics ≠ [] ∧
      call.commands.length = profile.axes.length ∧
      ∀ member < profile.axes.length, ∃ older position value newer,
        takes = older ++ .command position (some value) :: newer ∧
        (profile.axisProfile.endpoint.memberCommand? call.executionGroup
          member (.command position (some value))).isSome ∧
        (∀ other ∈ newer, profile.axisProfile.endpoint.memberCommand?
          call.executionGroup member other = none) ∧
        call.commands[member]? =
          some (DdsDaemonEndpoint.commandValue value) := by
  have hgroups : DdsDaemonEndpoint.GroupsOf profile.descriptors
      profile.axisProfile.endpoint :=
    DdsDaemonEndpoint.create_groupsOf profile.robotId profile.descriptors
  obtain ⟨index, origin, hfrom⟩ :=
    DdsDaemonEndpoint.exists_callFrom hgroups hcall
  have hlisted : profile.axisProfile.endpoint.groupNames[index]? =
      some call.executionGroup := by
    rw [DdsDaemonEndpoint.getElem?_groupNames, hfrom.group, hfrom.name]
    rfl
  obtain ⟨group, hgroup⟩ := profile.axisProfile.oneSafetyGroup_iff.mp hone
  have hmembers := (hgroups.listed call.executionGroup).mp
    (List.mem_of_getElem? hlisted)
  have hall : groupMembers profile.descriptors group =
      profile.axisProfile.topics :=
    DdsDaemonEndpoint.groupMembers_of_single hgroup
  -- a member of the group of the call is a topic of the only group
  have hsame : call.executionGroup = group := by
    obtain ⟨descriptor, hdescriptor⟩ := List.exists_mem_of_ne_nil _ hmembers
    unfold groupMembers at hdescriptor
    obtain ⟨hmem, hkinds⟩ := List.mem_filter.mp hdescriptor
    simp only [Bool.and_eq_true, decide_eq_true_eq] at hkinds
    rw [← hkinds.2]
    refine hgroup descriptor (List.mem_filter.mpr ⟨hmem, ?_⟩)
    simp [hkinds.1]
  have hlength : call.commands.length = profile.axes.length := by
    rw [hfrom.length, hsame, hall]
    exact profile.axisProfile.topics_length
  refine ⟨?_, hlength, ?_⟩
  · rw [hsame, hall] at hmembers
    exact hmembers
  · intro member hmember
    obtain ⟨before, after, hstaged⟩ :=
      hfrom.staged member (hlength ▸ hmember)
    obtain ⟨older, sample, newer, htakes, _, hsample, hafter⟩ :=
      DdsDaemonEndpoint.exists_sample_of_filterMap hstaged.split
    obtain ⟨position, channel, value, rfl, _, _, _, _, _, hvalue⟩ :=
      (DdsDaemonEndpoint.eventOf_stage_iff _ _ _ _ _ _).mp hsample
    refine ⟨older, position, value, newer, htakes, ?_, ?_, ?_⟩
    · unfold DdsDaemonEndpoint.memberCommand?
      rw [hsample]
      simp [hlisted]
    · intro other hother
      cases hnone : profile.axisProfile.endpoint.memberCommand?
          call.executionGroup member other with
      | none => rfl
      | some command =>
          have hmem := DdsDaemonEndpoint.mem_groupEvents_of_memberCommand?
            hgroups.names hlisted hother hnone
          rw [hafter] at hmem
          exact absurd rfl (hstaged.kept _ _ _ hmem).1
    · rw [List.getElem?_eq_getElem (hlength ▸ hmember), hvalue]

/-- The command of an axis is that of the sample it took last, which carries
the identifier of the actuator with the number of the axis. -/
theorem stagedSample_of_call (hone : profile.axisProfile.OneSafetyGroup)
    {takes : List (EndpointTake D)} {take : EndpointTake D}
    {call : StageEthercatEpoch D}
    (hcall : (endpointMachine.step
      (profile.axisProfile.endpointAfter takes) take).2 = some call)
    {member : ℕ} (hmember : member < profile.axes.length) :
    ∃ sample, profile.stagedSample takes call.executionGroup member =
        some sample ∧
      call.commands[member]? =
        some (DdsDaemonEndpoint.commandValue sample) ∧
      (DeviceClass.axis.devices profile.actuators)[member]?.map
        DeviceConfig.name = some sample.header.deviceId := by
  obtain ⟨hsome, _, hsamples⟩ := members_of_call hone hcall
  obtain ⟨group, commitTopic, _, hsingle⟩ := singleGroup hone hsome
  obtain ⟨older, position, value, newer, htakes, htaken, hnewer, hvalue⟩ :=
    hsamples member hmember
  refine ⟨value, ?_, hvalue, ?_⟩
  · unfold stagedSample
    rw [htakes, List.reverse_append, List.reverse_cons, List.append_assoc,
      List.findSome?_append, List.findSome?_eq_none_iff.mpr, Option.none_or,
      List.singleton_append, List.findSome?_cons]
    · simp [htaken]
    · intro other hother
      split
      · rw [hnewer _ (List.mem_reverse.mp hother)]
        simp
      · rfl
  · have hname := deviceId_of_memberCommand hsingle htaken
    have hids := congrArg (fun names => names[member]?)
      (commandTopics_deviceIds .axis profile.registered)
    simp only [List.getElem?_map] at hids
    rw [← hids]
    exact hname

/-! ## Devices of a command -/

variable (profile) in
/-- A valid sample of an actuator on its command topic; for an axis the commit
of a complete epoch. -/
inductive CarriesCommand (earlier : List (CommandTake D F))
    (actuator : DeviceConfig) : CommandTake D F → Prop
  | axis {take : EndpointTake D} {call : StageEthercatEpoch D} :
      actuator ∈ DeviceClass.axis.devices profile.actuators →
      (endpointMachine.step (profile.axisProfile.endpointAfter
        (earlier.filterMap CommandTake.ethercat?)) take).2 = some call →
      CarriesCommand earlier actuator (.ethercat take)
  | servo {channel : ℕ} {target : ActuatorChannel}
      {sample : St3215ActuatorCommand D} :
      (ActuatorChannels.create profile.descriptors).st3215[channel]? =
        some target →
      profile.IsCommandTopic actuator target.topicName →
      acceptsHeader profile.robotId actuator.name sample.header →
      isfinite sample.targetRadians →
      CarriesCommand earlier actuator (.st3215 channel (some sample))
  | motor {channel : ℕ} {target : ActuatorChannel}
      {sample : DamiaoActuatorCommand F} :
      (ActuatorChannels.create profile.descriptors).damiao[channel]? =
        some target →
      profile.IsCommandTopic actuator target.topicName →
      acceptsHeader profile.robotId actuator.name sample.header →
      sample.isFinite →
      CarriesCommand earlier actuator (.damiao channel (some sample))

omit [DoubleArithmetic D] [SinglePrecision F] in
theorem deviceId_of_acceptsHeader {robotId deviceId : String}
    {header : MessageHeader} (h : acceptsHeader robotId deviceId header) :
    header.deviceId = deviceId := by
  unfold acceptsHeader at h
  simp only [Bool.and_eq_true, decide_eq_true_eq] at h
  exact h.2

/-- A command reaches the device with the number of its actuator. -/
theorem applied_of_carries (hone : profile.axisProfile.OneSafetyGroup)
    {earlier : List (CommandTake D F)} {take : CommandTake D F}
    {actuator : DeviceConfig} (hactuator : actuator ∈ profile.actuators)
    (hcarries : profile.CarriesCommand earlier actuator take) :
    ∃ cls index, (cls.devices profile.actuators)[index]? = some actuator ∧
      ∀ c k, (actuator.name, c, k) ∈ profile.applied earlier take ↔
        (c, k) = (cls, index) := by
  cases hcarries with
  | @axis taken call hclass hcall =>
      obtain ⟨index, hindex⟩ := List.mem_iff_getElem?.mp hclass
      refine ⟨.axis, index, hindex, ?_⟩
      intro c k
      have hlength := (members_of_call hone hcall).2.1
      have hsnapshot : ∃ snapshot,
          stageEthercatEpoch profile.axes.length call = some snapshot := by
        unfold stageEthercatEpoch
        rw [if_neg (not_not.mpr hlength)]
        exact ⟨_, rfl⟩
      obtain ⟨snapshot, hsnapshot⟩ := hsnapshot
      simp only [applied, hcall, hsnapshot, List.mem_filterMap,
        List.mem_range, Option.map_eq_some_iff]
      constructor
      · rintro ⟨member, hmember, sample, hsample, heq⟩
        simp only [Prod.mk.injEq] at heq
        obtain ⟨hname, rfl, rfl⟩ := heq
        obtain ⟨found, hfound, _, hid⟩ :=
          stagedSample_of_call hone hcall hmember
        rw [hsample] at hfound
        cases hfound
        rw [hname, Option.map_eq_some_iff] at hid
        obtain ⟨listed, hlisted, hsame⟩ := hid
        have heq := profile.actuator_of_name
          (List.mem_of_mem_filter (List.mem_of_getElem? hlisted)) hactuator
          hsame
        subst heq
        rw [(profile.actuator_unique hlisted hindex).2]
      · intro heq
        cases heq
        have hlt : index < profile.axes.length := by
          simpa [RobotProfile.sensorNames] using profile.index_lt hindex
        obtain ⟨sample, hsample, _, hid⟩ :=
          stagedSample_of_call hone hcall hlt
        rw [hindex, Option.map_some, Option.some.injEq] at hid
        exact ⟨index, hlt, sample, hsample, by rw [hid]⟩
  | @servo channel target sample htarget htopic hheader hfinite =>
      have hlisted := htarget
      rw [(ActuatorChannels.create_eq profile.descriptors).2] at hlisted
      obtain ⟨hnumber, hname, hindex⟩ :=
        profile.channel_of_topic hlisted hactuator htopic
      refine ⟨.servo, channel, hindex, ?_⟩
      intro c k
      have hlt : channel < profile.servos.length := by
        simpa [RobotProfile.sensorNames] using profile.index_lt hindex
      have hstage : profile.stageSt3215Command channel sample =
          some channel := by
        unfold stageSt3215Command
        rw [htarget]
        simp [hname, hheader, hfinite, hnumber]
      simp only [applied, hstage, if_pos hlt, List.mem_singleton,
        Prod.mk.injEq, deviceId_of_acceptsHeader hheader, true_and]
  | @motor channel target sample htarget htopic hheader hfinite =>
      have hlisted := htarget
      rw [(ActuatorChannels.create_eq profile.descriptors).1] at hlisted
      obtain ⟨hnumber, hname, hindex⟩ :=
        profile.channel_of_topic hlisted hactuator htopic
      refine ⟨.motor, channel, hindex, ?_⟩
      intro c k
      have hlt : channel < profile.motors.length := by
        simpa [RobotProfile.sensorNames] using profile.index_lt hindex
      have hstage : profile.stageDamiaoCommand channel sample =
          some channel := by
        unfold stageDamiaoCommand
        rw [htarget]
        simp [hname, hheader, hfinite, hnumber]
      simp only [applied, hstage, if_pos hlt, List.mem_singleton,
        Prod.mk.injEq, deviceId_of_acceptsHeader hheader, true_and]

end Epochs

/-- A command is applied to the device of its link, and to no other, exactly if
its actuator has the number of the link. -/
theorem command_identity_iff (hone : profile.axisProfile.OneSafetyGroup)
    (earlier : List (CommandTake D F)) (take : CommandTake D F)
    (actuator : DeviceConfig) (hactuator : actuator ∈ profile.actuators)
    (hcarries : profile.CarriesCommand earlier actuator take) :
    (∀ cls index,
        (actuator.name, cls, index) ∈ profile.applied earlier take ↔
          profile.ContainsActuator cls index actuator) ↔
      profile.Aligned actuator := by
  obtain ⟨cls, index, hindex, happlied⟩ :=
    applied_of_carries hone hactuator hcarries
  constructor
  · intro hidentity
    exact ⟨cls, index, hindex,
      (hidentity cls index).mp ((happlied cls index).mpr rfl)⟩
  · rintro ⟨other, number, hnumber, hcontains⟩ c k
    obtain ⟨rfl, rfl⟩ := profile.actuator_unique hnumber hindex
    rw [happlied]
    constructor
    · intro heq
      cases heq
      exact hcontains
    · intro hother
      obtain ⟨position, hposition⟩ := List.mem_iff_getElem?.mp hother.1
      obtain ⟨rfl, _⟩ := profile.actuator_unique hposition hindex
      rw [profile.containsActuator_unique hother hcontains]

end DdsRobotProfile

end Commands

/-! ## A command for the elbow -/

/-- A sample on the first command topic, that of the elbow. -/
def elbowCommand : CommandTake ℚ ℚ :=
  .damiao 0 (some ⟨⟨ddsSchemaVersion, "arm", "elbow_target",
    "policy-runtime-host", 1, 1000⟩, true, false, 0, 0, 0, 0, 0⟩)

theorem elbowCommand_carried :
    twoMotorDds.CarriesCommand [] (damiaoDevice "elbow_target" "2")
      elbowCommand := by
  have htarget : (ActuatorChannels.create twoMotorDds.descriptors).damiao[0]? =
      some ⟨0, "elbow_target",
        "robot_io_arm_actuator_elbow_target_command"⟩ := by
    decide +kernel
  refine .motor htarget ?_ (by decide) (by decide)
  refine ⟨⟨.command, .damiao, "arm", "elbow_target",
    "robot_io_arm_actuator_elbow_target_command", ""⟩, by decide +kernel, rfl,
    rfl, rfl⟩

theorem twoMotorDds_oneSafetyGroup :
    twoMotorDds.axisProfile.OneSafetyGroup :=
  ⟨"", by decide⟩

theorem elbow_contained :
    twoMotorDds.ContainsActuator .motor 1
      (damiaoDevice "elbow_target" "2") :=
  ⟨by decide, damiaoDevice "elbow_state" "2",
    twoMotorDds.containsSensor_iff.mpr (by decide), by decide +kernel⟩

/-- The command of the elbow is applied to the shoulder. -/
theorem elbow_command_misapplied :
    twoMotorDds.applied [] elbowCommand = [("elbow_target", .motor, 0)] ∧
      ¬ (∀ cls index, ((damiaoDevice "elbow_target" "2").name, cls, index) ∈
          twoMotorDds.applied [] elbowCommand ↔
        twoMotorDds.ContainsActuator cls index
          (damiaoDevice "elbow_target" "2")) := by
  have happlied : twoMotorDds.applied [] elbowCommand =
      [("elbow_target", .motor, 0)] := by decide +kernel
  refine ⟨happlied, ?_⟩
  intro hidentity
  have hmem := (hidentity .motor 1).mpr elbow_contained
  rw [happlied] at hmem
  exact absurd hmem (by decide)

theorem command_identity_iff_elbow :
    (∀ cls index, ((damiaoDevice "elbow_target" "2").name, cls, index) ∈
        twoMotorDds.applied [] elbowCommand ↔
      twoMotorDds.ContainsActuator cls index
        (damiaoDevice "elbow_target" "2")) ↔
      twoMotorDds.Aligned (damiaoDevice "elbow_target" "2") :=
  twoMotorDds.command_identity_iff twoMotorDds_oneSafetyGroup [] elbowCommand
    (damiaoDevice "elbow_target" "2") (by decide) elbowCommand_carried

end PolicyRuntime
