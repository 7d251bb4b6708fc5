import PolicyRuntime.AxisProfiles
import PolicyRuntime.DaemonEndpoint
import PolicyRuntime.St3215Servo

/-!
# From the host to the daemon

The host publishes one command sample per axis and one commit per execution
group, the endpoint of the daemon stages them, and the callback of the daemon
turns a batch into a snapshot for `stage_commands`.  The callback drops a batch
which does not cover every axis of the daemon.
-/

namespace PolicyRuntime

open FloatingPoint

structure St3215ActuatorCommand (D : Type) where
  header : MessageHeader
  targetRadians : D
  enabled : Bool
  faultReset : Bool

/-- A profile accepted by the loader with the DDS backend, as far as its axes are
concerned. -/
structure DdsAxisProfile (D : Type) [FloatingPoint D] where
  strtod : List Char → Option D
  sensors : List DeviceConfig
  actuators : List DeviceConfig
  robotId : String
  axes : List (AxisProfile D)
  descriptors : List DdsTopicDescriptor
  names : ((sensors ++ actuators).map DeviceConfig.name).Nodup
  derived : deriveAxes strtod sensors actuators = .ok axes
  registered : buildDdsTopicRegistry sensors actuators robotId =
    .ok descriptors

/-! ## Host -/

structure WriterChannel where
  deviceId : String
  executionGroup : String
  topicName : String
  deriving DecidableEq

def WriterChannel.create (descriptor : DdsTopicDescriptor) : WriterChannel where
  deviceId := descriptor.deviceId
  executionGroup := descriptor.executionGroup
  topicName := descriptor.topicName

structure DdsRuntimeRobotIo where
  robotId : String
  sessionId : String
  cia402Writers : List WriterChannel
  st3215Writers : List WriterChannel
  commitWriters : List WriterChannel

/-- A written sample with its topic. -/
inductive PublishedSample (D : Type)
  | cia402 (topicName : String) (command : Cia402ActuatorCommand D)
  | commit (topicName : String) (commit : EthercatCommandCommit)
  | st3215 (topicName : String) (command : St3215ActuatorCommand D)

variable {D : Type} [FloatingPoint D]

namespace DdsRuntimeRobotIo

def create (robotId : String) (descriptors : List DdsTopicDescriptor) :
    DdsRuntimeRobotIo where
  robotId := robotId
  sessionId := "policy-runtime-host"
  cia402Writers := (axisCommandTopics descriptors).map WriterChannel.create
  st3215Writers := (descriptors.filter fun descriptor =>
    descriptor.kind = .command && descriptor.deviceKind = .st3215).map
      WriterChannel.create
  commitWriters := (commitTopics descriptors).map WriterChannel.create

def fillHeader (io : DdsRuntimeRobotIo) (deviceId : String) (sequence : ℕ)
    (timestampNs : ℤ) : MessageHeader where
  schemaVersion := ddsSchemaVersion
  robotId := io.robotId
  deviceId := deviceId
  sessionId := io.sessionId
  sequenceNumber := sequence
  sourceTimestampNs := timestampNs

def axisCommand (io : DdsRuntimeRobotIo) (sequence : ℕ) (timestampNs : ℤ)
    (writer : WriterChannel) (command : AxisCommand D) :
    Cia402ActuatorCommand D where
  header := io.fillHeader writer.deviceId sequence timestampNs
  target := command.target
  mode := 0
  commandFlags := command.flags
  commandEpoch := sequence

def axisSample (io : DdsRuntimeRobotIo) (sequence : ℕ) (timestampNs : ℤ)
    (writer : WriterChannel) (command : AxisCommand D) : PublishedSample D :=
  .cia402 writer.topicName (io.axisCommand sequence timestampNs writer command)

def commitSample (io : DdsRuntimeRobotIo) (sequence : ℕ) (timestampNs : ℤ)
    (writer : WriterChannel) : PublishedSample D :=
  .commit writer.topicName
    { header := io.fillHeader writer.deviceId sequence timestampNs
      executionGroup := writer.executionGroup
      commandEpoch := sequence }

def servoSample (io : DdsRuntimeRobotIo) (sequence : ℕ) (timestampNs : ℤ)
    (writer : WriterChannel) (command : St3215ServoCommand D) :
    PublishedSample D :=
  .st3215 writer.topicName
    { header := io.fillHeader writer.deviceId sequence timestampNs
      targetRadians := command.targetPositionRad
      enabled := command.enabled
      faultReset := command.emergencyStop }

/-- The samples in the order in which they are written. -/
def publishCommands (io : DdsRuntimeRobotIo)
    (axisCommands : List (AxisCommand D))
    (servoCommands : List (St3215ServoCommand D)) (sequence : ℕ)
    (timestampNs : ℤ) : Except Error (List (PublishedSample D)) :=
  if axisCommands.length ≠ io.cia402Writers.length ||
      servoCommands.length ≠ io.st3215Writers.length then
    .error ⟨.invalidArgument, "DDS command count mismatch"⟩
  else
    .ok (List.zipWith (io.axisSample sequence timestampNs) io.cia402Writers
          axisCommands ++
        io.commitWriters.map (io.commitSample sequence timestampNs) ++
        List.zipWith (io.servoSample sequence timestampNs) io.st3215Writers
          servoCommands)

end DdsRuntimeRobotIo

/-! ## Delivery -/

namespace DdsDaemonEndpoint

/-- What the readers of the endpoint take when a sample arrives: every reader on
its topic gets it. -/
def arrivals (endpoint : DdsDaemonEndpoint D) :
    PublishedSample D → List (EndpointTake D)
  | .cia402 topicName command =>
      (endpoint.cia402CommandChannels.zipIdx.filter
        (·.1.topicName = topicName)).map fun entry =>
          .command entry.2 (some command)
  | .commit topicName commit =>
      (endpoint.commitChannels.zipIdx.filter
        (·.1.topicName = topicName)).map fun entry =>
          .commit entry.2 (some commit)
  | .st3215 _ _ => []

end DdsDaemonEndpoint

/-! ## Daemon callback -/

/-- `stage_ethercat_epoch` of `attach_dds`: the snapshot passed to
`stage_commands`. -/
def stageEthercatEpoch (axisCount : ℕ) (call : StageEthercatEpoch D) :
    Option (Snapshot (AxisCommand D)) :=
  if call.commands.length ≠ axisCount then
    none
  else
    some
      { sequence := call.epoch
        axisCount := axisCount
        timestampNs := call.commands.foldl
          (fun latest value => max latest value.sourceTimestampNs) 0
        axes := fun axis =>
          match call.commands[axis.val]? with
          | some value => ⟨value.sequence, value.sourceTimestampNs,
              value.target, value.flags, 0⟩
          | none => .empty }

/-- The snapshots which `stage_commands` receives while the endpoint takes
samples. -/
def receivedSnapshots (axisCount : ℕ) (endpoint : DdsDaemonEndpoint D)
    (takes : List (EndpointTake D)) : List (Snapshot (AxisCommand D)) :=
  (endpointMachine.trace endpoint takes).filterMap fun t =>
    t.output.bind (stageEthercatEpoch axisCount)

/-- Exactly one snapshot, with the sequence, the timestamp and the targets and
flags of the publication. -/
def DeliversCommands (snapshots : List (Snapshot (AxisCommand D)))
    (commands : List (AxisCommand D)) (sequence : ℕ) (timestampNs : ℤ) :
    Prop :=
  ∃ snapshot, snapshots = [snapshot] ∧ snapshot.sequence = sequence ∧
    snapshot.timestampNs = timestampNs ∧
    ∀ (axis : Axis) (command : AxisCommand D),
      commands[axis.val]? = some command →
        (snapshot.axes axis).target = command.target ∧
          (snapshot.axes axis).flags = command.flags

/-! ## Timestamps of a batch -/

omit [FloatingPoint D] in
theorem le_latestTimestamp
    (values : List (Cia402CommandValue D)) (first : ℤ) :
    first ≤ values.foldl
      (fun latest value => max latest value.sourceTimestampNs) first := by
  induction values generalizing first with
  | nil => exact le_rfl
  | cons value rest ih =>
      exact (le_max_left first value.sourceTimestampNs).trans (ih _)

omit [FloatingPoint D] in
theorem latestTimestamp_eq
    {values : List (Cia402CommandValue D)} {timestampNs : ℤ}
    (hsame : ∀ value ∈ values, value.sourceTimestampNs = timestampNs)
    {first : ℤ} (hfirst : first ≤ timestampNs) (hsome : values ≠ []) :
    values.foldl (fun latest value => max latest value.sourceTimestampNs)
      first = timestampNs := by
  induction values generalizing first with
  | nil => exact absurd rfl hsome
  | cons value rest ih =>
      rw [List.foldl_cons, hsame value List.mem_cons_self,
        max_eq_right hfirst]
      cases rest with
      | nil => rfl
      | cons next others =>
          exact ih (fun other hother =>
            hsame other (List.mem_cons_of_mem value hother)) le_rfl
            (List.cons_ne_nil next others)

/-! ## Samples on their way -/

namespace DdsDaemonEndpoint

omit [FloatingPoint D] in
theorem arrivals_command
    {endpoint : DdsDaemonEndpoint D}
    (hnames : (endpoint.cia402CommandChannels.map
      Cia402CommandChannel.topicName).Nodup)
    {index : ℕ} {channel : Cia402CommandChannel}
    (hchannel : endpoint.cia402CommandChannels[index]? = some channel)
    (command : Cia402ActuatorCommand D) :
    endpoint.arrivals (.cia402 channel.topicName command) =
      [.command index (some command)] := by
  have hfilter := filter_zipIdx_key hnames hchannel
  unfold arrivals
  exact congrArg (List.map _) hfilter

omit [FloatingPoint D] in
theorem arrivals_commit
    {endpoint : DdsDaemonEndpoint D}
    (hnames : (endpoint.commitChannels.map CommitChannel.topicName).Nodup)
    {index : ℕ} {channel : CommitChannel}
    (hchannel : endpoint.commitChannels[index]? = some channel)
    (commit : EthercatCommandCommit) :
    endpoint.arrivals (.commit channel.topicName commit) =
      [.commit index (some commit)] := by
  have hfilter := filter_zipIdx_key hnames hchannel
  unfold arrivals
  exact congrArg (List.map _) hfilter

/-- A command sample calls nothing. -/
theorem step_command
    (endpoint : DdsDaemonEndpoint D) (index : ℕ)
    (sample : Option (Cia402ActuatorCommand D)) :
    (endpoint.step (.command index sample)).2 = none := by
  cases hcall : (endpoint.step (.command index sample)).2 with
  | none => rfl
  | some call =>
      obtain ⟨_, _, _, _, hevent, _⟩ := (step_eq_some_iff _ _ _).mp hcall
      obtain ⟨_, _, _, _, htake, _⟩ := (eventOf_commit_iff _ _ _ _).mp hevent
      cases htake

/-- An endpoint whose axes form one group: member and channel numbers agree. -/
structure SingleGroup (endpoint : DdsDaemonEndpoint D)
    (robotId group : String) (topics : List DdsTopicDescriptor)
    (commitTopic : String) : Prop where
  robotId : endpoint.robotId = robotId
  names : endpoint.groupNames[0]? = some group
  channels : endpoint.cia402CommandChannels =
    topics.mapIdx fun member descriptor =>
      ⟨0, member, descriptor.deviceId, descriptor.topicName⟩
  topicNames : (topics.map DdsTopicDescriptor.topicName).Nodup
  commits : endpoint.commitChannels = [⟨0, commitTopic⟩]

omit [FloatingPoint D] in
theorem SingleGroup.of_sameChannels
    {robotId group : String} {topics : List DdsTopicDescriptor}
    {commitTopic : String} {start endpoint : DdsDaemonEndpoint D}
    (hsingle : SingleGroup start robotId group topics commitTopic)
    (hsame : SameChannels start endpoint) :
    SingleGroup endpoint robotId group topics commitTopic :=
  ⟨hsame.robotId.trans hsingle.robotId,
    by rw [hsame.names]; exact hsingle.names,
    hsame.commands.trans hsingle.channels, hsingle.topicNames,
    hsame.commits.trans hsingle.commits⟩

omit [FloatingPoint D] in
theorem SingleGroup.channel
    {robotId group : String} {topics : List DdsTopicDescriptor}
    {commitTopic : String} {endpoint : DdsDaemonEndpoint D}
    (hsingle : SingleGroup endpoint robotId group topics commitTopic)
    {member : ℕ} {descriptor : DdsTopicDescriptor}
    (hdescriptor : topics[member]? = some descriptor) :
    endpoint.cia402CommandChannels[member]? =
      some ⟨0, member, descriptor.deviceId, descriptor.topicName⟩ := by
  rw [hsingle.channels, List.getElem?_mapIdx, hdescriptor]
  rfl

omit [FloatingPoint D] in
theorem SingleGroup.channelNames
    {robotId group : String} {topics : List DdsTopicDescriptor}
    {commitTopic : String} {endpoint : DdsDaemonEndpoint D}
    (hsingle : SingleGroup endpoint robotId group topics commitTopic) :
    (endpoint.cia402CommandChannels.map
      Cia402CommandChannel.topicName).Nodup := by
  have hsame : endpoint.cia402CommandChannels.map
      Cia402CommandChannel.topicName =
        topics.map DdsTopicDescriptor.topicName := by
    rw [hsingle.channels]
    apply List.ext_getElem?
    intro member
    simp only [List.getElem?_map, List.getElem?_mapIdx, Option.map_map]
    rfl
  rw [hsame]
  exact hsingle.topicNames

/-- The value staged for an axis. -/
def publishedValue (sequence : ℕ) (timestampNs : ℤ) (command : AxisCommand D) :
    Cia402CommandValue D :=
  ⟨command.target, 0, command.flags, sequence, timestampNs⟩

/-- The sample of one axis reaches its member. -/
theorem SingleGroup.axisEvent
    {group : String} {topics : List DdsTopicDescriptor}
    {commitTopic : String} {endpoint : DdsDaemonEndpoint D}
    (io : DdsRuntimeRobotIo)
    (hsingle : SingleGroup endpoint io.robotId group topics commitTopic)
    {sequence : ℕ} (hsequence : sequence ≠ 0) (timestampNs : ℤ)
    {member : ℕ} {descriptor : DdsTopicDescriptor}
    (hdescriptor : topics[member]? = some descriptor)
    {command : AxisCommand D} (hfinite : isfinite command.target = true) :
    (endpoint.arrivals (io.axisSample sequence timestampNs
        (.create descriptor) command)).filterMap (endpoint.groupEvent 0) =
      [.stage member sequence
        (publishedValue sequence timestampNs command)] := by
  have hchannel := hsingle.channel hdescriptor
  have harrival : endpoint.arrivals (io.axisSample sequence timestampNs
      (.create descriptor) command) = [.command member (some
        (io.axisCommand sequence timestampNs (.create descriptor) command))] :=
    arrivals_command hsingle.channelNames hchannel _
  have hevent : endpoint.eventOf (.command member (some (io.axisCommand
      sequence timestampNs (.create descriptor) command))) =
        some (0, .stage member sequence
          (publishedValue sequence timestampNs command)) := by
    refine (endpoint.eventOf_stage_iff _ _ _ _ _).mpr
      ⟨member, _, _, rfl, hchannel, ?_, rfl, rfl, rfl, rfl⟩
    simp [acceptsCommand, DdsRuntimeRobotIo.axisCommand, WriterChannel.create,
      DdsRuntimeRobotIo.fillHeader, hsingle.robotId, hsequence, hfinite]
  rw [harrival, filterMap_cons_toList, List.filterMap_nil, List.append_nil]
  unfold groupEvent
  rw [hevent]
  rfl

/-- The samples of the axes from the one at `offset` on. -/
theorem SingleGroup.axisEvents
    {group : String} {topics : List DdsTopicDescriptor}
    {commitTopic : String} {endpoint : DdsDaemonEndpoint D}
    (io : DdsRuntimeRobotIo)
    (hsingle : SingleGroup endpoint io.robotId group topics commitTopic)
    {sequence : ℕ} (hsequence : sequence ≠ 0) (timestampNs : ℤ)
    {rest : List DdsTopicDescriptor} {commands : List (AxisCommand D)}
    (offset : ℕ)
    (hrest : ∀ member, rest[member]? = topics[offset + member]?)
    (hlength : commands.length = rest.length)
    (hfinite : ∀ command ∈ commands, isfinite command.target = true) :
    ((List.zipWith (io.axisSample sequence timestampNs)
        (rest.map WriterChannel.create) commands).flatMap
          endpoint.arrivals).filterMap (endpoint.groupEvent 0) =
      commands.mapIdx fun member command => .stage (offset + member) sequence
        (publishedValue sequence timestampNs command) := by
  induction rest generalizing commands offset with
  | nil =>
      rw [List.length_nil] at hlength
      rw [List.eq_nil_of_length_eq_zero hlength]
      rfl
  | cons descriptor others ih =>
      cases commands with
      | nil => contradiction
      | cons command later =>
          have htopic : topics[offset]? = some descriptor := (hrest 0).symm
          have hothers : ∀ member,
              others[member]? = topics[offset + 1 + member]? := by
            intro member
            have hnext := hrest (member + 1)
            rw [List.getElem?_cons_succ] at hnext
            rw [hnext]
            congr 1
            omega
          have hlater := ih (offset + 1) hothers (Nat.succ.inj hlength)
            fun other hother =>
              hfinite other (List.mem_cons_of_mem command hother)
          rw [List.map_cons, List.zipWith_cons_cons, List.flatMap_cons,
            List.filterMap_append, hlater, List.mapIdx_cons,
            hsingle.axisEvent io hsequence timestampNs htopic
              (hfinite command List.mem_cons_self)]
          simp [Nat.add_comm, Nat.add_left_comm]

/-- The commit reaches the group. -/
theorem SingleGroup.commitEvent
    {group : String} {topics : List DdsTopicDescriptor}
    {commit : DdsTopicDescriptor} {endpoint : DdsDaemonEndpoint D}
    (io : DdsRuntimeRobotIo)
    (hsingle : SingleGroup endpoint io.robotId group topics commit.topicName)
    (hgroup : commit.executionGroup = group) (sequence : ℕ)
    (timestampNs : ℤ) :
    ∃ take, endpoint.arrivals (io.commitSample sequence timestampNs
        (.create commit)) = [take] ∧
      endpoint.eventOf take = some (0, .commit sequence) := by
  have hchannel : endpoint.commitChannels[0]? =
      some ⟨0, commit.topicName⟩ := by
    rw [hsingle.commits]
    rfl
  have hnames : (endpoint.commitChannels.map
      CommitChannel.topicName).Nodup := by
    rw [hsingle.commits]
    exact List.nodup_singleton _
  refine ⟨_, arrivals_commit hnames hchannel _, ?_⟩
  refine (endpoint.eventOf_commit_iff _ _ _).mpr
    ⟨0, _, group, _, rfl, hchannel, hsingle.names, ?_, rfl, rfl⟩
  simp [acceptsCommit, WriterChannel.create, DdsRuntimeRobotIo.fillHeader,
    hsingle.robotId, hgroup]

omit [FloatingPoint D] in
/-- After one command for every member, each of them is staged. -/
theorem holds_after_commands
    (group : EthercatGroup (Cia402CommandValue D)) (sequence : ℕ)
    (timestampNs : ℤ) {commands : List (AxisCommand D)} {member : ℕ}
    {command : AxisCommand D} (hcommand : commands[member]? = some command) :
    (groupMachine.final group (commands.mapIdx fun member command =>
        .stage member sequence
          (publishedValue sequence timestampNs command))).Holds member sequence
      (publishedValue sequence timestampNs command) := by
  obtain ⟨hlt, hvalue⟩ := List.getElem?_eq_some_iff.mp hcommand
  generalize hevents : (commands.mapIdx fun member command =>
    (.stage member sequence (publishedValue sequence timestampNs command) :
      EpochEvent (Cia402CommandValue D))) = events
  have hlength : member < events.length := by
    rw [← hevents, List.length_mapIdx]
    exact hlt
  have hevent : events[member] = .stage member sequence
      (publishedValue sequence timestampNs command) := by
    simp [← hevents, hvalue]
  have hsplit : events = events.take member ++ .stage member sequence
      (publishedValue sequence timestampNs command) ::
        events.drop (member + 1) := by
    rw [← hevent, List.getElem_cons_drop, List.take_append_drop]
  rw [hsplit, Machine.final_append, Machine.final_cons]
  refine EthercatGroup.Holds.final
    (EthercatGroup.stage_holds _ member sequence _) ?_
  intro event hmem
  obtain ⟨position, hposition, rfl⟩ := List.mem_iff_getElem.mp hmem
  simp only [← hevents, List.getElem_drop, List.getElem_mapIdx]
  exact ⟨by omega, rfl⟩

omit [FloatingPoint D] in
theorem groupBatch_of_holds
    {group : EthercatGroup (Cia402CommandValue D)} {sequence : ℕ}
    {timestampNs : ℤ} {commands : List (AxisCommand D)}
    (hsize : group.size = commands.length) (hsome : commands ≠ [])
    (hholds : ∀ member command, commands[member]? = some command →
      group.Holds member sequence
        (publishedValue sequence timestampNs command)) :
    sequence = group.epoch ∧ group.allStaged = true ∧
      group.batch = ⟨sequence,
        commands.map (publishedValue sequence timestampNs)⟩ := by
  have hepoch : sequence = group.epoch := by
    cases commands with
    | nil => exact absurd rfl hsome
    | cons command rest => exact (hholds 0 command rfl).2.1.symm
  refine ⟨hepoch, ?_, ?_⟩
  · rw [EthercatGroup.allStaged_iff]
    intro member hmember
    rw [hsize] at hmember
    exact (hholds member _ (List.getElem?_eq_getElem hmember)).1
  · have hcommands : group.batch.commands =
        commands.map (publishedValue sequence timestampNs) := by
      unfold EthercatGroup.batch
      rw [hsize]
      apply List.ext_getElem?
      intro member
      rw [List.getElem?_map, List.getElem?_map]
      by_cases hmember : member < commands.length
      · rw [List.getElem?_range hmember, List.getElem?_eq_getElem hmember,
          Option.map_some, Option.map_some,
          (hholds member _ (List.getElem?_eq_getElem hmember)).2.2]
      · rw [List.getElem?_eq_none (by simpa using hmember),
          List.getElem?_eq_none (by omega)]
        rfl
    rw [← hcommands, hepoch]
    rfl

/-- The commit which follows the samples of all axes calls with their values. -/
theorem SingleGroup.commit_call
    {executionGroup : String} {topics : List DdsTopicDescriptor}
    {commitTopic : String} {endpoint : DdsDaemonEndpoint D}
    (io : DdsRuntimeRobotIo)
    (hsingle : SingleGroup endpoint io.robotId executionGroup topics
      commitTopic)
    {group : EthercatGroup (Cia402CommandValue D)}
    (hgroup : endpoint.ethercatGroups[0]? = some group)
    {commands : List (AxisCommand D)} (hsize : group.size = commands.length)
    (hlength : commands.length = topics.length) (hsome : commands ≠ [])
    {sequence : ℕ} (hsequence : sequence ≠ 0) (timestampNs : ℤ)
    (hfinite : ∀ command ∈ commands, isfinite command.target = true)
    {take : EndpointTake D}
    (htake : endpoint.eventOf take = some (0, .commit sequence)) :
    ((endpointMachine.final endpoint ((List.zipWith
        (io.axisSample sequence timestampNs)
        (topics.map WriterChannel.create) commands).flatMap
          endpoint.arrivals)).step take).2 =
      some ⟨group.name, sequence,
        commands.map (publishedValue sequence timestampNs)⟩ := by
  have hevents := hsingle.axisEvents io hsequence timestampNs 0
    (fun member => by rw [Nat.zero_add]) hlength hfinite
  simp only [Nat.zero_add] at hevents
  generalize (List.zipWith (io.axisSample sequence timestampNs)
    (topics.map WriterChannel.create) commands).flatMap endpoint.arrivals =
      axisTakes at *
  have hnext := endpoint.final_group axisTakes 0
  rw [hgroup, Option.map_some, hevents] at hnext
  have hevent := (sameChannels_final endpoint axisTakes).eventOf take
  rw [htake] at hevent
  obtain ⟨hepoch, hstaged, hbatch⟩ := groupBatch_of_holds
    ((groupMachine_final_size group _).trans hsize) hsome
    (fun member command hcommand =>
      holds_after_commands group sequence timestampNs hcommand)
  refine (step_eq_some_iff _ _ _).mpr ⟨0, sequence, _, _, hevent, hnext,
    (EthercatGroup.commit_eq_some_iff _ _ _).mpr
      ⟨hsequence, hepoch, hstaged, rfl⟩, ?_⟩
  rw [hbatch, groupMachine_final_name]

end DdsDaemonEndpoint

theorem receivedSnapshots_append
    (axisCount : ℕ) (endpoint : DdsDaemonEndpoint D)
    (earlier later : List (EndpointTake D)) :
    receivedSnapshots axisCount endpoint (earlier ++ later) =
      receivedSnapshots axisCount endpoint earlier ++
        receivedSnapshots axisCount (endpointMachine.final endpoint earlier)
          later := by
  unfold receivedSnapshots
  rw [Machine.trace_append, List.filterMap_append]

theorem receivedSnapshots_of_commands
    (axisCount : ℕ) (endpoint : DdsDaemonEndpoint D)
    {takes : List (EndpointTake D)}
    (hcommands : ∀ take ∈ takes, ∃ index sample,
      take = .command index sample) :
    receivedSnapshots axisCount endpoint takes = [] := by
  unfold receivedSnapshots
  rw [List.filterMap_eq_nil_iff]
  intro t ht
  obtain ⟨before, take, ⟨after, hprefix⟩, rfl⟩ :=
    Machine.exists_fire_of_mem_trace ht
  obtain ⟨index, sample, rfl⟩ := hcommands take (by rw [← hprefix]; simp)
  change (DdsDaemonEndpoint.step _ _).2.bind _ = none
  rw [DdsDaemonEndpoint.step_command]
  rfl

/-! ## Profiles with one safety group -/

namespace DdsAxisProfile

variable (profile : DdsAxisProfile D)

def topics : List DdsTopicDescriptor := axisCommandTopics profile.descriptors

/-- All axes name one safety group. -/
def OneSafetyGroup : Prop :=
  ∃ group, ∀ actuator ∈ cia402Devices profile.actuators,
    actuator.args.lookup "safety_group" = some group

def endpoint : DdsDaemonEndpoint D :=
  .create profile.robotId profile.descriptors

def robotIo : DdsRuntimeRobotIo :=
  .create profile.robotId profile.descriptors

theorem tables : RegistryTables profile.actuators profile.descriptors :=
  buildDdsTopicRegistry_ok profile.registered

theorem topics_length : profile.topics.length = profile.axes.length := by
  rw [(deriveAxes_length profile.strtod profile.derived).1]
  have hlengths := congrArg List.length profile.tables.commands
  rw [List.length_map, TopicRegistry.safetyGroups,
    List.length_map] at hlengths
  exact hlengths

theorem oneSafetyGroup_iff :
    profile.OneSafetyGroup ↔ ∃ group, ∀ descriptor ∈ profile.topics,
      descriptor.executionGroup = group := by
  have htable := profile.tables.commands
  unfold TopicRegistry.safetyGroups at htable
  constructor
  · rintro ⟨group, hactuators⟩
    refine ⟨group, ?_⟩
    intro descriptor hdescriptor
    have hmem := List.mem_map_of_mem
      (f := fun descriptor => some descriptor.executionGroup) hdescriptor
    rw [topics, htable] at hmem
    obtain ⟨actuator, hactuator, hgroup⟩ := List.mem_map.mp hmem
    rw [hactuators actuator hactuator] at hgroup
    exact (Option.some.inj hgroup).symm
  · rintro ⟨group, hdescriptors⟩
    refine ⟨group, ?_⟩
    intro actuator hactuator
    have hmem := List.mem_map_of_mem
      (f := fun device : DeviceConfig => device.args.lookup "safety_group")
      hactuator
    rw [cia402Devices, ← htable] at hmem
    obtain ⟨descriptor, hdescriptor, hgroup⟩ := List.mem_map.mp hmem
    rw [← hgroup, hdescriptors descriptor hdescriptor]

theorem commitTopics_of_single
    {group : String} (hsingle : ∀ descriptor ∈ profile.topics,
      descriptor.executionGroup = group)
    (hsome : profile.topics ≠ []) :
    ∃ commit, commitTopics profile.descriptors = [commit] ∧
      commit.executionGroup = group := by
  have htables := profile.tables
  have hall : ∀ commit ∈ commitTopics profile.descriptors,
      commit.executionGroup = group := by
    intro commit hcommit
    have hmem := (htables.commits _).mp (List.mem_map_of_mem hcommit)
    obtain ⟨descriptor, hdescriptor, hgroup⟩ := List.mem_map.mp hmem
    rw [← hgroup]
    exact hsingle descriptor hdescriptor
  have hnodup := htables.commitsDistinct
  obtain ⟨descriptor, hdescriptor⟩ := List.exists_mem_of_ne_nil _ hsome
  have hlisted := (htables.commits _).mpr
    (List.mem_map_of_mem (f := DdsTopicDescriptor.executionGroup) hdescriptor)
  cases hcommits : commitTopics profile.descriptors with
  | nil =>
      rw [hcommits] at hlisted
      exact absurd hlisted List.not_mem_nil
  | cons commit rest =>
      rw [hcommits] at hall hnodup
      cases rest with
      | nil => exact ⟨commit, rfl, hall commit List.mem_cons_self⟩
      | cons other others =>
          have hfirst := hall commit List.mem_cons_self
          have hsecond := hall other
            (List.mem_cons_of_mem commit List.mem_cons_self)
          rw [List.map_cons, List.map_cons, hfirst, hsecond] at hnodup
          exact absurd List.mem_cons_self (List.nodup_cons.mp hnodup).1

theorem singleGroup
    {group : String} (hsingle : ∀ descriptor ∈ profile.topics,
      descriptor.executionGroup = group)
    (hsome : profile.topics ≠ []) {commit : DdsTopicDescriptor}
    (hcommits : commitTopics profile.descriptors = [commit])
    (hgroup : commit.executionGroup = group) :
    profile.endpoint.SingleGroup profile.robotId group profile.topics
        commit.topicName ∧
      profile.endpoint.ethercatGroups[0]? =
        some (EthercatGroup.create group profile.topics.length) := by
  obtain ⟨hgroups, hchannels⟩ := DdsDaemonEndpoint.commandChannels_of_single
    (D := D) profile.robotId hsingle
  have hkept := DdsDaemonEndpoint.addCommandChannel_kept
    (DdsDaemonEndpoint.empty (D := D) profile.robotId) profile.descriptors
  unfold endpoint DdsDaemonEndpoint.create
  generalize profile.descriptors.foldl DdsDaemonEndpoint.addCommandChannel
    (DdsDaemonEndpoint.empty (D := D) profile.robotId) = base at *
  have hmembers := DdsDaemonEndpoint.groupMembers_of_single hsingle
  have hlisted : group ∈ base.groupNames := by
    rw [hgroups.listed, hmembers]
    exact hsome
  have hindex := hgroups.groupIndexOf_single hsingle
  have hname : base.groupNames[0]? = some group := by
    rw [← hindex]
    exact List.getElem?_idxOf hlisted
  obtain ⟨hsame, hcommands, hrobot⟩ :=
    base.addCommitChannel_kept profile.descriptors
  have hcommitChannels := base.addCommitChannel_channels profile.descriptors (by
    intro descriptor hdescriptor
    rw [hcommits, List.mem_singleton] at hdescriptor
    rw [hdescriptor, hgroup]
    exact hlisted)
  refine ⟨⟨hrobot.trans hkept.1, ?_, hcommands.trans hchannels, ?_, ?_⟩, ?_⟩
  · unfold DdsDaemonEndpoint.groupNames at hname ⊢
    rw [hsame]
    exact hname
  · exact profile.tables.names.sublist (List.filter_sublist.map _)
  · rw [hcommitChannels, hkept.2, hcommits, List.map_singleton, hgroup, hindex]
    rfl
  · rw [hsame]
    rw [DdsDaemonEndpoint.getElem?_groupNames] at hname
    obtain ⟨created, hcreated, rfl⟩ := Option.map_eq_some_iff.mp hname
    rw [hcreated, hgroups.created 0 created hcreated, hmembers]
    rfl

/-- The endpoint after the samples of earlier publications, whatever they
were. -/
def endpointAfter (earlier : List (EndpointTake D)) : DdsDaemonEndpoint D :=
  endpointMachine.final profile.endpoint earlier

/-- The snapshots which the daemon receives when the samples arrive in the order
in which they were written. -/
def receives (earlier : List (EndpointTake D))
    (samples : List (PublishedSample D)) : List (Snapshot (AxisCommand D)) :=
  receivedSnapshots profile.axes.length (profile.endpointAfter earlier)
    (samples.flatMap (profile.endpointAfter earlier).arrivals)

variable {profile} {earlier : List (EndpointTake D)}
  {commands : List (AxisCommand D)} {servos : List (St3215ServoCommand D)}
  {sequence : ℕ} {timestampNs : ℤ} {samples : List (PublishedSample D)}

theorem samples_of_published
    (hpublished : profile.robotIo.publishCommands commands servos sequence
      timestampNs = .ok samples) :
    commands.length = profile.axes.length ∧
      samples = List.zipWith (profile.robotIo.axisSample sequence timestampNs)
          (profile.topics.map WriterChannel.create) commands ++
        (commitTopics profile.descriptors).map (fun descriptor =>
          profile.robotIo.commitSample sequence timestampNs
            (.create descriptor)) ++
        List.zipWith (profile.robotIo.servoSample sequence timestampNs)
          profile.robotIo.st3215Writers servos := by
  unfold DdsRuntimeRobotIo.publishCommands at hpublished
  split at hpublished
  · contradiction
  · rename_i hcounts
    simp only [Bool.or_eq_true, decide_eq_true_eq, not_or, not_not] at hcounts
    cases hpublished
    refine ⟨?_, ?_⟩
    · rw [← profile.topics_length, hcounts.1]
      exact List.length_map ..
    · simp only [robotIo, DdsRuntimeRobotIo.create, List.map_map]
      rfl

theorem servoArrivals (profile : DdsAxisProfile D)
    (endpoint : DdsDaemonEndpoint D) :
    (List.zipWith (profile.robotIo.servoSample sequence timestampNs)
      profile.robotIo.st3215Writers servos).flatMap endpoint.arrivals = [] := by
  rw [List.flatMap_eq_nil_iff]
  intro sample hsample
  obtain ⟨position, hposition, rfl⟩ := List.mem_iff_getElem.mp hsample
  rw [List.getElem_zipWith]
  rfl

theorem axisArrivals_commands (profile : DdsAxisProfile D)
    (commands : List (AxisCommand D)) (sequence : ℕ) (timestampNs : ℤ)
    (endpoint : DdsDaemonEndpoint D) :
    ∀ take ∈ (List.zipWith (profile.robotIo.axisSample sequence timestampNs)
        (profile.topics.map WriterChannel.create) commands).flatMap
          endpoint.arrivals,
      ∃ index sample, take = .command index sample := by
  intro take htake
  obtain ⟨sample, hsample, harrival⟩ := List.mem_flatMap.mp htake
  obtain ⟨position, hposition, rfl⟩ := List.mem_iff_getElem.mp hsample
  rw [List.getElem_zipWith] at harrival
  obtain ⟨entry, _, rfl⟩ := List.mem_map.mp harrival
  exact ⟨entry.2, _, rfl⟩

/-- What one commit of a completely staged group delivers. -/
theorem snapshot_of_batch (profile : DdsAxisProfile D)
    (hlength : commands.length = profile.axes.length) (hsome : commands ≠ [])
    (htimestamp : 0 ≤ timestampNs) (executionGroup : String) :
    ∃ snapshot, stageEthercatEpoch profile.axes.length
        (⟨executionGroup, sequence, commands.map
          (DdsDaemonEndpoint.publishedValue sequence timestampNs)⟩ :
            StageEthercatEpoch D) = some snapshot ∧
      snapshot.sequence = sequence ∧ snapshot.timestampNs = timestampNs ∧
      ∀ (axis : Axis) (command : AxisCommand D),
        commands[axis.val]? = some command →
          (snapshot.axes axis).target = command.target ∧
            (snapshot.axes axis).flags = command.flags := by
  unfold stageEthercatEpoch
  rw [if_neg (by simp [hlength])]
  refine ⟨_, rfl, rfl, ?_, ?_⟩
  · refine latestTimestamp_eq ?_ htimestamp ?_
    · intro value hvalue
      obtain ⟨command, _, rfl⟩ := List.mem_map.mp hvalue
      rfl
    · simpa using hsome
  · intro axis command hcommand
    dsimp only
    rw [List.getElem?_map, hcommand]
    exact ⟨rfl, rfl⟩

/-- One group, a nonzero sequence, a timestamp which is not negative and finite
targets: the publication arrives. -/
theorem delivers_of_single
    (hpublished : profile.robotIo.publishCommands commands servos sequence
      timestampNs = .ok samples)
    (hone : profile.OneSafetyGroup) (haxes : 0 < profile.axes.length)
    (hsequence : sequence ≠ 0) (htimestamp : 0 ≤ timestampNs)
    (hfinite : ∀ command ∈ commands, isfinite command.target = true) :
    DeliversCommands (profile.receives earlier samples) commands sequence
      timestampNs := by
  obtain ⟨hlength, hsamples⟩ := samples_of_published hpublished
  obtain ⟨group, hsingle⟩ := profile.oneSafetyGroup_iff.mp hone
  have htopics : profile.topics ≠ [] := by
    intro hnil
    have hcount := profile.topics_length
    rw [hnil, List.length_nil] at hcount
    omega
  have hcommands : commands ≠ [] := by
    intro hnil
    rw [hnil, List.length_nil] at hlength
    omega
  obtain ⟨commit, hcommits, hgroup⟩ :=
    profile.commitTopics_of_single hsingle htopics
  obtain ⟨hstart, horigin⟩ :=
    profile.singleGroup hsingle htopics hcommits hgroup
  have hendpoint := hstart.of_sameChannels
    (DdsDaemonEndpoint.sameChannels_final profile.endpoint earlier)
  obtain ⟨take, harrival, htake⟩ :=
    hendpoint.commitEvent profile.robotIo hgroup sequence timestampNs
  have hstaged := DdsDaemonEndpoint.final_group profile.endpoint earlier 0
  rw [horigin, Option.map_some] at hstaged
  have hcall := hendpoint.commit_call profile.robotIo hstaged
    ((groupMachine_final_size _ _).trans
      (profile.topics_length.trans hlength.symm))
    (hlength.trans profile.topics_length.symm) hcommands hsequence timestampNs
    hfinite htake
  obtain ⟨snapshot, hsnapshot, hfields⟩ :=
    profile.snapshot_of_batch hlength hcommands htimestamp _
  refine ⟨snapshot, ?_, hfields⟩
  unfold receives endpointAfter
  rw [hsamples, List.flatMap_append, List.flatMap_append, servoArrivals,
    List.append_nil, hcommits, List.map_singleton, List.flatMap_singleton,
    harrival, receivedSnapshots_append,
    receivedSnapshots_of_commands _ _ (profile.axisArrivals_commands commands
      sequence timestampNs _), List.nil_append]
  unfold receivedSnapshots
  rw [Machine.trace_cons, Machine.trace_nil, filterMap_cons_toList,
    List.filterMap_nil, List.append_nil]
  change ((DdsDaemonEndpoint.step _ take).2.bind _).toList = _
  rw [hcall, Option.bind_some, hsnapshot]
  rfl

/-- Staged commands have finite targets. -/
theorem finite_of_staged
    {start : DdsDaemonEndpoint D} {index member epoch : ℕ}
    {command : Cia402CommandValue D} {takes : List (EndpointTake D)}
    {before after : List (EpochEvent (Cia402CommandValue D))}
    (hsplit : takes.filterMap (start.groupEvent index) =
      before ++ .stage member epoch command :: after) :
    isfinite command.target = true := by
  obtain ⟨_, sample, _, _, _, hevent, _⟩ :=
    DdsDaemonEndpoint.exists_sample_of_filterMap hsplit
  obtain ⟨_, _, value, _, _, haccepts, _, _, _, rfl⟩ :=
    (start.eventOf_stage_iff _ _ _ _ _).mp hevent
  unfold DdsDaemonEndpoint.acceptsCommand at haccepts
  simp only [Bool.not_eq_true', Bool.or_eq_false_iff, Bool.not_eq_false'] at haccepts
  exact haccepts.2

theorem exists_call_of_receives
    {snapshot : Snapshot (AxisCommand D)}
    (hreceived : snapshot ∈ profile.receives earlier samples) :
    ∃ takes take call index origin,
      DdsDaemonEndpoint.CallFrom profile.descriptors profile.endpoint takes
        take call index origin ∧
      stageEthercatEpoch profile.axes.length call = some snapshot := by
  unfold receives receivedSnapshots at hreceived
  obtain ⟨t, ht, hsnapshot⟩ := List.mem_filterMap.mp hreceived
  obtain ⟨before, take, _, rfl⟩ := Machine.exists_fire_of_mem_trace ht
  obtain ⟨call, hcall, hstage⟩ := Option.bind_eq_some_iff.mp hsnapshot
  rw [Machine.fire_output, endpointAfter, ← Machine.final_append] at hcall
  obtain ⟨index, origin, hfrom⟩ := DdsDaemonEndpoint.exists_callFrom
    (DdsDaemonEndpoint.create_groupsOf profile.robotId profile.descriptors)
    hcall
  exact ⟨earlier ++ before, take, call, index, origin, hfrom, hstage⟩

/-- A call which covers every axis is for the group of all of them. -/
theorem oneSafetyGroup_of_call
    {takes : List (EndpointTake D)} {take : EndpointTake D}
    {call : StageEthercatEpoch D} {index : ℕ}
    {origin : EthercatGroup (Cia402CommandValue D)}
    (hfrom : DdsDaemonEndpoint.CallFrom profile.descriptors profile.endpoint
      takes take call index origin)
    (hlength : call.commands.length = profile.axes.length) :
    profile.OneSafetyGroup ∧ 0 < profile.axes.length := by
  have hmembers : groupMembers profile.descriptors call.executionGroup =
      profile.topics.filter (·.executionGroup = call.executionGroup) := by
    unfold groupMembers topics axisCommandTopics
    rw [List.filter_filter]
    refine List.filter_congr ?_
    intro descriptor _
    rw [Bool.and_comm]
  have hcovered := hfrom.length
  rw [hlength, ← profile.topics_length, hmembers] at hcovered
  refine ⟨profile.oneSafetyGroup_iff.mpr ⟨call.executionGroup, ?_⟩, ?_⟩
  · intro descriptor hdescriptor
    have hall := List.length_filter_eq_length_iff.mp hcovered.symm descriptor
      hdescriptor
    simpa using hall
  · have hgroups := DdsDaemonEndpoint.create_groupsOf (D := D) profile.robotId
      profile.descriptors
    have hlisted : call.executionGroup ∈ profile.endpoint.groupNames := by
      rw [hfrom.name]
      exact List.mem_map_of_mem (List.mem_of_getElem? hfrom.group)
    have hsome := (hgroups.listed call.executionGroup).mp hlisted
    rw [← hlength, hfrom.length]
    exact List.length_pos_iff.mpr hsome

end DdsAxisProfile

/-- A publication arrives exactly when all axes are in one safety group and its
sequence, timestamp and targets are usable. -/
theorem commands_delivered_iff
    (profile : DdsAxisProfile D) (earlier : List (EndpointTake D))
    (commands : List (AxisCommand D)) (servos : List (St3215ServoCommand D))
    (sequence : ℕ) (timestampNs : ℤ) (samples : List (PublishedSample D))
    (hpublished : profile.robotIo.publishCommands commands servos sequence
      timestampNs = .ok samples) :
    DeliversCommands (profile.receives earlier samples) commands sequence
        timestampNs ↔
      profile.OneSafetyGroup ∧ 0 < profile.axes.length ∧ sequence ≠ 0 ∧
        0 ≤ timestampNs ∧
        ∀ command ∈ commands, isfinite command.target = true := by
  constructor
  · rintro ⟨snapshot, hreceived, hsequence, htimestamp, htargets⟩
    obtain ⟨takes, take, call, index, origin, hfrom, hstage⟩ :=
      DdsAxisProfile.exists_call_of_receives (hreceived ▸
        List.mem_singleton_self snapshot)
    unfold stageEthercatEpoch at hstage
    split at hstage
    · contradiction
    · rename_i hlength
      rw [not_not] at hlength
      cases hstage
      obtain ⟨hone, haxes⟩ :=
        DdsAxisProfile.oneSafetyGroup_of_call hfrom hlength
      refine ⟨hone, haxes, ?_, ?_, ?_⟩
      · exact hsequence ▸ hfrom.epoch
      · exact htimestamp ▸ le_latestTimestamp call.commands 0
      · intro command hcommand
        obtain ⟨member, hmember⟩ := List.mem_iff_getElem?.mp hcommand
        have hlt := (List.getElem?_eq_some_iff.mp hmember).1
        have hcount := (DdsAxisProfile.samples_of_published hpublished).1
        have hbound := (deriveAxes_length profile.strtod profile.derived).2
        obtain ⟨before, after, hstaged⟩ := hfrom.staged member (by omega)
        have htarget := (htargets ⟨member, by omega⟩ command hmember).1
        dsimp only at htarget
        rw [List.getElem?_eq_getElem (by omega)] at htarget
        rw [← htarget]
        exact DdsAxisProfile.finite_of_staged hstaged.split
  · rintro ⟨hone, haxes, hsequence, htimestamp, hfinite⟩
    exact DdsAxisProfile.delivers_of_single hpublished hone haxes hsequence
      htimestamp hfinite

/-! ## Two axes -/

/-- `std::strtod` on texts of digits. -/
def wholeNumber (text : List Char) : Option ℚ :=
  (fromChars 10 text 0).map fun value => (value : ℚ)

def cia402Device (name position safetyGroup : String) : DeviceConfig where
  name := name
  type := "cia402"
  path := "ethercat://0"
  args := [("alias", "0"), ("position", position), ("vendor_id", "1"),
    ("product_code", "2"), ("revision", "3"), ("mode", "csp"), ("scale", "1"),
    ("minimum", "0"), ("maximum", "10"), ("slew_limit", "1"),
    ("following_error_limit", "1"), ("command_timeout_ms", "100"),
    ("safety_group", safetyGroup)]

theorem eq_ok_of_isOk {ε α : Type} {result : Except ε α} {fallback : α}
    (hok : result.isOk = true) :
    result = .ok (result.toOption.getD fallback) := by
  cases result with
  | error failure => contradiction
  | ok value => rfl

def twoAxisSensors (second : String) : List DeviceConfig :=
  [cia402Device "left_state" "0" "arm", cia402Device "right_state" "1" second]

def twoAxisActuators (second : String) : List DeviceConfig :=
  [cia402Device "left_target" "0" "arm",
    cia402Device "right_target" "1" second]

/-- The first axis is in the group `arm`, the second in the group `second`. -/
def twoAxisProfile (second : String)
    (hderived : (deriveAxes wholeNumber (twoAxisSensors second)
      (twoAxisActuators second)).isOk = true)
    (hregistered : (buildDdsTopicRegistry (twoAxisSensors second)
      (twoAxisActuators second) "robot").isOk = true) :
    DdsAxisProfile ℚ where
  strtod := wholeNumber
  sensors := twoAxisSensors second
  actuators := twoAxisActuators second
  robotId := "robot"
  axes := (deriveAxes wholeNumber (twoAxisSensors second)
    (twoAxisActuators second)).toOption.getD []
  descriptors := (buildDdsTopicRegistry (twoAxisSensors second)
    (twoAxisActuators second) "robot").toOption.getD []
  names := by simp [twoAxisSensors, twoAxisActuators, cia402Device]
  derived := eq_ok_of_isOk hderived
  registered := eq_ok_of_isOk hregistered

def oneGroupProfile : DdsAxisProfile ℚ :=
  twoAxisProfile "arm" (by decide +kernel) (by decide +kernel)

def twoGroupProfile : DdsAxisProfile ℚ :=
  twoAxisProfile "leg" (by decide +kernel) (by decide +kernel)

def twoAxisCommands : List (AxisCommand ℚ) :=
  [⟨1, 5, 2, kAxisCommandEnable, 0⟩, ⟨1, 5, 3, kAxisCommandEnable, 0⟩]

/-- The samples of the two commands, sequence 1, time 5. -/
def twoAxisSamples (profile : DdsAxisProfile ℚ) : List (PublishedSample ℚ) :=
  (profile.robotIo.publishCommands twoAxisCommands [] 1 5).toOption.getD []

theorem commands_delivered_iff_oneGroup :
    DeliversCommands
      (oneGroupProfile.receives [] (twoAxisSamples oneGroupProfile))
      twoAxisCommands 1 5 := by
  have hpublished : oneGroupProfile.robotIo.publishCommands twoAxisCommands []
      1 5 = .ok (twoAxisSamples oneGroupProfile) :=
    eq_ok_of_isOk (by decide +kernel)
  refine (commands_delivered_iff oneGroupProfile [] twoAxisCommands [] 1 5 _
    hpublished).mpr ⟨⟨"arm", ?_⟩, by decide +kernel, by decide, by decide, ?_⟩
  · decide +kernel
  · intro command _
    rfl

/-- With the axes in two groups, nothing arrives. -/
theorem two_groups_not_delivered :
    twoGroupProfile.robotIo.publishCommands twoAxisCommands [] 1 5 =
        .ok (twoAxisSamples twoGroupProfile) ∧
      ¬ DeliversCommands
        (twoGroupProfile.receives [] (twoAxisSamples twoGroupProfile))
        twoAxisCommands 1 5 := by
  refine ⟨eq_ok_of_isOk (by decide +kernel), ?_⟩
  rintro ⟨snapshot, hreceived, _⟩
  have hempty : (twoGroupProfile.receives []
      (twoAxisSamples twoGroupProfile)).isEmpty = true := by
    decide +kernel
  rw [hreceived] at hempty
  exact Bool.false_ne_true hempty

end PolicyRuntime
