import PolicyRuntime.EpochGroups
import PolicyRuntime.TopicRegistry

/-!
# The DDS endpoint of the daemon

The worker of the endpoint takes command and commit samples from its readers,
drops those whose header does not belong to the channel, and stages the others
in the execution group of the channel.  A commit of a completely staged epoch
calls `stage_ethercat_epoch`.  Runs are indexed by the samples taken, in any
order; the groups of an endpoint evolve independently, each as the group
machine over its own valid samples.
-/

namespace PolicyRuntime

open FloatingPoint

abbrev ddsSchemaVersion : ℕ := 1

structure MessageHeader where
  schemaVersion : ℕ
  robotId : String
  deviceId : String
  sessionId : String
  sequenceNumber : ℕ
  sourceTimestampNs : ℤ
  deriving DecidableEq

structure Cia402ActuatorCommand (D : Type) where
  header : MessageHeader
  target : D
  mode : ℤ
  commandFlags : BitVec 32
  commandEpoch : ℕ

structure EthercatCommandCommit where
  header : MessageHeader
  executionGroup : String
  commandEpoch : ℕ
  deriving DecidableEq

structure Cia402CommandValue (D : Type) where
  target : D
  mode : ℤ
  flags : BitVec 32
  sequence : ℕ
  sourceTimestampNs : ℤ
  deriving DecidableEq

structure Cia402CommandChannel where
  groupIndex : ℕ
  memberIndex : ℕ
  deviceId : String
  topicName : String
  deriving DecidableEq

structure CommitChannel where
  groupIndex : ℕ
  topicName : String
  deriving DecidableEq

structure DdsDaemonEndpoint (D : Type) where
  robotId : String
  ethercatGroups : List (EthercatGroup (Cia402CommandValue D))
  cia402CommandChannels : List Cia402CommandChannel
  commitChannels : List CommitChannel

/-- A sample taken from the reader of a channel; `none` is a sample without
valid data. -/
inductive EndpointTake (D : Type)
  | command (channel : ℕ) (sample : Option (Cia402ActuatorCommand D))
  | commit (channel : ℕ) (sample : Option EthercatCommandCommit)

/-- A call of `stage_ethercat_epoch`. -/
structure StageEthercatEpoch (D : Type) where
  executionGroup : String
  epoch : ℕ
  commands : List (Cia402CommandValue D)
  deriving DecidableEq

variable {D : Type} [FloatingPoint D]

/-- A value-initialized command value. -/
instance : Inhabited (Cia402CommandValue D) where
  default := ⟨zero, 0, 0, 0, 0⟩

namespace DdsDaemonEndpoint

/-! ## Construction -/

def empty (robotId : String) : DdsDaemonEndpoint D where
  robotId := robotId
  ethercatGroups := []
  cia402CommandChannels := []
  commitChannels := []

def groupNames (endpoint : DdsDaemonEndpoint D) : List String :=
  endpoint.ethercatGroups.map EthercatGroup.name

/-- `group_indices`: the position of a group, or the position at which it is
appended. -/
def groupIndexOf (endpoint : DdsDaemonEndpoint D) (group : String) : ℕ :=
  endpoint.groupNames.idxOf group

def enterGroup (endpoint : DdsDaemonEndpoint D) (group : String) :
    DdsDaemonEndpoint D :=
  if group ∈ endpoint.groupNames then
    endpoint
  else
    { endpoint with
      ethercatGroups :=
        endpoint.ethercatGroups ++ [EthercatGroup.create group 0] }

/-- The number of members a group has so far. -/
def memberCount (endpoint : DdsDaemonEndpoint D) (index : ℕ) : ℕ :=
  ((endpoint.ethercatGroups[index]?).map EthercatGroup.size).getD 0

def addCommandChannel (endpoint : DdsDaemonEndpoint D)
    (descriptor : DdsTopicDescriptor) : DdsDaemonEndpoint D :=
  if descriptor.kind ≠ .command || descriptor.deviceKind ≠ .cia402 then
    endpoint
  else
    let index := endpoint.groupIndexOf descriptor.executionGroup
    let entered := endpoint.enterGroup descriptor.executionGroup
    { entered with
      ethercatGroups := entered.ethercatGroups.modify index fun group =>
        { group with size := group.size + 1 }
      cia402CommandChannels := entered.cia402CommandChannels ++
        [⟨index, entered.memberCount index, descriptor.deviceId,
          descriptor.topicName⟩] }

def addCommitChannel (endpoint : DdsDaemonEndpoint D)
    (descriptor : DdsTopicDescriptor) : DdsDaemonEndpoint D :=
  if descriptor.kind ≠ .commit then
    endpoint
  else if descriptor.executionGroup ∈ endpoint.groupNames then
    { endpoint with
      commitChannels := endpoint.commitChannels ++
        [⟨endpoint.groupIndexOf descriptor.executionGroup,
          descriptor.topicName⟩] }
  else
    endpoint

def create (robotId : String) (descriptors : List DdsTopicDescriptor) :
    DdsDaemonEndpoint D :=
  descriptors.foldl addCommitChannel
    (descriptors.foldl addCommandChannel (empty robotId))

/-! ## Worker -/

/-- The checks on a command sample of a channel. -/
def acceptsCommand (endpoint : DdsDaemonEndpoint D)
    (channel : Cia402CommandChannel) (value : Cia402ActuatorCommand D) :
    Bool :=
  !(value.header.schemaVersion ≠ ddsSchemaVersion ||
    value.header.robotId ≠ endpoint.robotId ||
    value.header.deviceId ≠ channel.deviceId ||
    value.commandEpoch = 0 || !isfinite value.target)

/-- The checks on the header of a commit sample. -/
def acceptsCommit (endpoint : DdsDaemonEndpoint D) (groupName : String)
    (value : EthercatCommandCommit) : Bool :=
  !(value.header.schemaVersion ≠ ddsSchemaVersion ||
    value.header.robotId ≠ endpoint.robotId ||
    value.executionGroup ≠ groupName)

def commandValue (value : Cia402ActuatorCommand D) : Cia402CommandValue D where
  target := value.target
  mode := value.mode
  flags := value.commandFlags
  sequence := value.header.sequenceNumber
  sourceTimestampNs := value.header.sourceTimestampNs

/-- The index of a group and the event it receives from a sample, when the
sample belongs to the channel from which it was taken. -/
def eventOf (endpoint : DdsDaemonEndpoint D) :
    EndpointTake D → Option (ℕ × EpochEvent (Cia402CommandValue D))
  | .command index (some value) => do
      let channel ← endpoint.cia402CommandChannels[index]?
      if endpoint.acceptsCommand channel value then
        some (channel.groupIndex,
          .stage channel.memberIndex value.commandEpoch (commandValue value))
      else
        none
  | .commit index (some value) => do
      let channel ← endpoint.commitChannels[index]?
      let groupName ← endpoint.groupNames[channel.groupIndex]?
      if endpoint.acceptsCommit groupName value then
        some (channel.groupIndex, .commit value.commandEpoch)
      else
        none
  | _ => none

/-- A group receives an event. -/
def apply (endpoint : DdsDaemonEndpoint D) (index : ℕ)
    (event : EpochEvent (Cia402CommandValue D)) :
    DdsDaemonEndpoint D × Option (StageEthercatEpoch D) :=
  match endpoint.ethercatGroups[index]? with
  | none => (endpoint, none)
  | some group =>
      let (next, batch) := groupMachine.step group event
      ({ endpoint with
          ethercatGroups := endpoint.ethercatGroups.set index next },
        batch.map fun batch => ⟨group.name, batch.epoch, batch.commands⟩)

def step (endpoint : DdsDaemonEndpoint D) (take : EndpointTake D) :
    DdsDaemonEndpoint D × Option (StageEthercatEpoch D) :=
  match endpoint.eventOf take with
  | none => (endpoint, none)
  | some (index, event) => endpoint.apply index event

end DdsDaemonEndpoint

def endpointMachine :
    Machine (DdsDaemonEndpoint D) (EndpointTake D)
      (Option (StageEthercatEpoch D)) where
  step := DdsDaemonEndpoint.step

/-! ## Groups of a constructed endpoint -/

/-- The actuators of an execution group, in the order of its members. -/
def groupMembers (descriptors : List DdsTopicDescriptor) (group : String) :
    List DdsTopicDescriptor :=
  descriptors.filter fun descriptor =>
    descriptor.kind = .command && descriptor.deviceKind = .cia402 &&
      descriptor.executionGroup = group

namespace DdsDaemonEndpoint

/-- The groups after the command channels of `descriptors` have been added. -/
structure GroupsOf (descriptors : List DdsTopicDescriptor)
    (endpoint : DdsDaemonEndpoint D) : Prop where
  names : endpoint.groupNames.Nodup
  listed : ∀ group, group ∈ endpoint.groupNames ↔
    groupMembers descriptors group ≠ []
  created : ∀ (index : ℕ) (group : EthercatGroup (Cia402CommandValue D)),
    endpoint.ethercatGroups[index]? = some group →
      group = EthercatGroup.create group.name
        (groupMembers descriptors group.name).length

theorem groupMembers_append_of_not
    {descriptors : List DdsTopicDescriptor} {descriptor : DdsTopicDescriptor}
    {group : String}
    (hnot : ¬ (descriptor.kind = .command ∧ descriptor.deviceKind = .cia402 ∧
      descriptor.executionGroup = group)) :
    groupMembers (descriptors ++ [descriptor]) group =
      groupMembers descriptors group := by
  unfold groupMembers
  rw [List.filter_append, List.filter_singleton]
  have hfalse : (decide (descriptor.kind = .command) &&
      decide (descriptor.deviceKind = .cia402) &&
      decide (descriptor.executionGroup = group)) = false := by
    simp only [Bool.and_eq_false_iff, decide_eq_false_iff_not]
    tauto
  simp [hfalse]

theorem groupMembers_append_self
    {descriptors : List DdsTopicDescriptor} {descriptor : DdsTopicDescriptor}
    (hkind : descriptor.kind = .command)
    (hdevice : descriptor.deviceKind = .cia402) :
    groupMembers (descriptors ++ [descriptor]) descriptor.executionGroup =
      groupMembers descriptors descriptor.executionGroup ++ [descriptor] := by
  unfold groupMembers
  rw [List.filter_append, List.filter_singleton]
  simp [hkind, hdevice]

omit [FloatingPoint D] in
theorem getElem?_groupNames
    (endpoint : DdsDaemonEndpoint D) (index : ℕ) :
    endpoint.groupNames[index]? =
      (endpoint.ethercatGroups[index]?).map EthercatGroup.name :=
  List.getElem?_map

theorem enterGroup_groupNames
    (endpoint : DdsDaemonEndpoint D) (group : String) :
    (endpoint.enterGroup group).groupNames =
      if group ∈ endpoint.groupNames then endpoint.groupNames
      else endpoint.groupNames ++ [group] := by
  unfold enterGroup
  by_cases hlisted : group ∈ endpoint.groupNames
  · rw [if_pos hlisted, if_pos hlisted]
  · rw [if_neg hlisted, if_neg hlisted]
    simp [groupNames, EthercatGroup.create]

/-- The group of a descriptor stands at the index given to its channel. -/
theorem enterGroup_at_index
    (endpoint : DdsDaemonEndpoint D) (group : String) :
    (endpoint.enterGroup group).groupNames[endpoint.groupIndexOf group]? =
      some group := by
  rw [enterGroup_groupNames]
  by_cases hlisted : group ∈ endpoint.groupNames
  · rw [if_pos hlisted]
    exact List.getElem?_idxOf hlisted
  · have hindex : endpoint.groupIndexOf group = endpoint.groupNames.length :=
      List.idxOf_eq_length hlisted
    rw [if_neg hlisted, hindex, List.getElem?_append_right le_rfl]
    simp

theorem GroupsOf.enterGroup_created
    {descriptors : List DdsTopicDescriptor} {endpoint : DdsDaemonEndpoint D}
    (hgroups : GroupsOf descriptors endpoint) (name : String)
    (index : ℕ) {group : EthercatGroup (Cia402CommandValue D)}
    (hgroup : (endpoint.enterGroup name).ethercatGroups[index]? =
      some group) :
    group = EthercatGroup.create group.name
      (groupMembers descriptors group.name).length := by
  unfold enterGroup at hgroup
  by_cases hlisted : name ∈ endpoint.groupNames
  · rw [if_pos hlisted] at hgroup
    exact hgroups.created index group hgroup
  · rw [if_neg hlisted] at hgroup
    rcases List.mem_append.mp (List.mem_of_getElem? hgroup) with hold | hnew
    · obtain ⟨position, hposition⟩ := List.mem_iff_getElem?.mp hold
      exact hgroups.created position group hposition
    · rw [List.mem_singleton] at hnew
      have hempty : groupMembers descriptors name = [] := by
        by_contra hmembers
        exact hlisted ((hgroups.listed name).mpr hmembers)
      rw [hnew]
      simp [EthercatGroup.create, hempty]

theorem addCommandChannel_of_not
    {endpoint : DdsDaemonEndpoint D} {descriptor : DdsTopicDescriptor}
    (hnot : ¬ (descriptor.kind = .command ∧ descriptor.deviceKind = .cia402)) :
    endpoint.addCommandChannel descriptor = endpoint := by
  unfold addCommandChannel
  rw [if_pos]
  simp only [Bool.or_eq_true, decide_eq_true_eq]
  tauto

theorem addCommandChannel_groups
    {endpoint : DdsDaemonEndpoint D} {descriptor : DdsTopicDescriptor}
    (hkind : descriptor.kind = .command)
    (hdevice : descriptor.deviceKind = .cia402) :
    (endpoint.addCommandChannel descriptor).ethercatGroups =
      (endpoint.enterGroup descriptor.executionGroup).ethercatGroups.modify
        (endpoint.groupIndexOf descriptor.executionGroup) fun group =>
          { group with size := group.size + 1 } := by
  unfold addCommandChannel
  rw [if_neg]
  simp [hkind, hdevice]

theorem addCommandChannel_channels
    {endpoint : DdsDaemonEndpoint D} {descriptor : DdsTopicDescriptor}
    (hkind : descriptor.kind = .command)
    (hdevice : descriptor.deviceKind = .cia402) :
    (endpoint.addCommandChannel descriptor).cia402CommandChannels =
      endpoint.cia402CommandChannels ++
        [⟨endpoint.groupIndexOf descriptor.executionGroup,
          (endpoint.enterGroup descriptor.executionGroup).memberCount
            (endpoint.groupIndexOf descriptor.executionGroup),
          descriptor.deviceId, descriptor.topicName⟩] := by
  have hkept : (endpoint.enterGroup
      descriptor.executionGroup).cia402CommandChannels =
        endpoint.cia402CommandChannels := by
    unfold enterGroup
    split <;> rfl
  unfold addCommandChannel
  rw [if_neg (by simp [hkind, hdevice])]
  dsimp only
  rw [hkept]

theorem addCommandChannel_groupNames
    {endpoint : DdsDaemonEndpoint D} {descriptor : DdsTopicDescriptor}
    (hkind : descriptor.kind = .command)
    (hdevice : descriptor.deviceKind = .cia402) :
    (endpoint.addCommandChannel descriptor).groupNames =
      (endpoint.enterGroup descriptor.executionGroup).groupNames := by
  unfold groupNames
  rw [addCommandChannel_groups hkind hdevice]
  apply List.ext_getElem?
  intro index
  rw [List.getElem?_map, List.getElem?_map, List.getElem?_modify]
  cases (endpoint.enterGroup descriptor.executionGroup).ethercatGroups[index]? with
  | none => rfl
  | some group =>
      simp only [Option.map_some, Option.map_eq_map]
      split <;> rfl

theorem GroupsOf.addCommandChannel
    {descriptors : List DdsTopicDescriptor} {endpoint : DdsDaemonEndpoint D}
    (hgroups : GroupsOf descriptors endpoint)
    (descriptor : DdsTopicDescriptor) :
    GroupsOf (descriptors ++ [descriptor])
      (endpoint.addCommandChannel descriptor) := by
  by_cases hmember :
      descriptor.kind = .command ∧ descriptor.deviceKind = .cia402
  · obtain ⟨hkind, hdevice⟩ := hmember
    have hnames := endpoint.enterGroup_groupNames descriptor.executionGroup
    have hnodup :
        (endpoint.enterGroup descriptor.executionGroup).groupNames.Nodup := by
      rw [hnames]
      split
      · exact hgroups.names
      · rename_i hlisted
        exact List.nodup_append.mpr ⟨hgroups.names, List.nodup_singleton _,
          fun name hname other hother heq => hlisted (by
            rw [List.mem_singleton.mp hother] at heq
            exact heq ▸ hname)⟩
    refine ⟨?_, ?_, ?_⟩
    · rw [addCommandChannel_groupNames hkind hdevice]
      exact hnodup
    · intro group
      rw [addCommandChannel_groupNames hkind hdevice, hnames]
      by_cases hgroup : descriptor.executionGroup = group
      · subst hgroup
        rw [groupMembers_append_self hkind hdevice]
        constructor
        · intro _
          simp
        · intro _
          split
          · assumption
          · simp
      · rw [groupMembers_append_of_not (by tauto), ← hgroups.listed group]
        split
        · rfl
        · simp [Ne.symm hgroup]
    · intro index group hgroup
      rw [addCommandChannel_groups hkind hdevice, List.getElem?_modify] at hgroup
      obtain ⟨old, hold, rfl⟩ := Option.map_eq_some_iff.mp hgroup
      have hcreated := hgroups.enterGroup_created _ index hold
      have hname :
          (endpoint.enterGroup descriptor.executionGroup).groupNames[index]? =
            some old.name := by
        rw [getElem?_groupNames, hold]
        rfl
      have hposition := endpoint.enterGroup_at_index descriptor.executionGroup
      split
      · rename_i hindex
        rw [hindex, hname, Option.some.injEq] at hposition
        dsimp only
        rw [hposition, groupMembers_append_self hkind hdevice,
          List.length_append, List.length_singleton, ← hposition]
        conv_lhs => rw [hcreated]
        simp [EthercatGroup.create]
      · rename_i hindex
        have hother : descriptor.executionGroup ≠ old.name := by
          intro heq
          have hsame := hposition.trans ((congrArg some heq).trans hname.symm)
          have hlt := (List.getElem?_eq_some_iff.mp hname).1
          exact hindex ((List.getElem?_inj hlt hnodup).mp hsame.symm).symm
        rw [groupMembers_append_of_not (by tauto)]
        exact hcreated
  · rw [addCommandChannel_of_not hmember]
    refine ⟨hgroups.names, ?_, ?_⟩
    · intro group
      rw [groupMembers_append_of_not (by tauto)]
      exact hgroups.listed group
    · intro index group hgroup
      rw [groupMembers_append_of_not (by tauto)]
      exact hgroups.created index group hgroup

omit [FloatingPoint D] in
theorem addCommitChannel_kept
    (endpoint : DdsDaemonEndpoint D) (descriptors : List DdsTopicDescriptor) :
    (descriptors.foldl addCommitChannel endpoint).ethercatGroups =
        endpoint.ethercatGroups ∧
      (descriptors.foldl addCommitChannel endpoint).cia402CommandChannels =
        endpoint.cia402CommandChannels ∧
      (descriptors.foldl addCommitChannel endpoint).robotId =
        endpoint.robotId := by
  refine List.foldlRecOn (motive := fun next : DdsDaemonEndpoint D =>
    next.ethercatGroups = endpoint.ethercatGroups ∧
      next.cia402CommandChannels = endpoint.cia402CommandChannels ∧
      next.robotId = endpoint.robotId)
    descriptors addCommitChannel ⟨rfl, rfl, rfl⟩ ?_
  intro next hnext descriptor _
  unfold addCommitChannel
  split
  · exact hnext
  · split <;> exact hnext

theorem addCommandChannel_kept
    (endpoint : DdsDaemonEndpoint D) (descriptors : List DdsTopicDescriptor) :
    (descriptors.foldl addCommandChannel endpoint).robotId =
        endpoint.robotId ∧
      (descriptors.foldl addCommandChannel endpoint).commitChannels =
        endpoint.commitChannels := by
  refine List.foldlRecOn (motive := fun next : DdsDaemonEndpoint D =>
    next.robotId = endpoint.robotId ∧
      next.commitChannels = endpoint.commitChannels)
    descriptors addCommandChannel ⟨rfl, rfl⟩ ?_
  intro next hnext descriptor _
  unfold addCommandChannel enterGroup
  split
  · exact hnext
  · dsimp only
    split <;> exact hnext

theorem create_groupsOf
    (robotId : String) (descriptors : List DdsTopicDescriptor) :
    GroupsOf descriptors (create (D := D) robotId descriptors) := by
  have hcommands : GroupsOf descriptors
      (descriptors.foldl addCommandChannel (empty (D := D) robotId)) := by
    induction descriptors using List.reverseRecOn with
    | nil => exact ⟨List.nodup_nil, by simp [groupNames, empty, groupMembers],
        by simp [empty]⟩
    | append_singleton descriptors descriptor ih =>
        rw [List.foldl_append]
        exact ih.addCommandChannel descriptor
  have hsame : (create (D := D) robotId descriptors).ethercatGroups = _ :=
    (addCommitChannel_kept _ descriptors).1
  refine ⟨?_, ?_, ?_⟩
  · unfold groupNames
    rw [hsame]
    exact hcommands.names
  · unfold groupNames
    rw [hsame]
    exact hcommands.listed
  · rw [hsame]
    exact hcommands.created

/-! ## Events of samples -/

theorem eventOf_stage_iff
    (endpoint : DdsDaemonEndpoint D) (take : EndpointTake D)
    (index member epoch : ℕ) (command : Cia402CommandValue D) :
    endpoint.eventOf take = some (index, .stage member epoch command) ↔
      ∃ position channel value, take = .command position (some value) ∧
        endpoint.cia402CommandChannels[position]? = some channel ∧
        endpoint.acceptsCommand channel value = true ∧
        channel.groupIndex = index ∧ channel.memberIndex = member ∧
        value.commandEpoch = epoch ∧ commandValue value = command := by
  cases take with
  | command position sample =>
      cases sample with
      | none => simp [eventOf]
      | some value =>
          simp only [eventOf, Option.bind_eq_bind, Option.bind_eq_some_iff,
            Option.ite_none_right_eq_some, Option.some.injEq, Prod.mk.injEq,
            EpochEvent.stage.injEq, EndpointTake.command.injEq]
          constructor
          · rintro ⟨channel, hchannel, haccepts, hindex, hmember, hepoch,
              hcommand⟩
            exact ⟨position, channel, value, ⟨rfl, rfl⟩, hchannel, haccepts,
              hindex, hmember, hepoch, hcommand⟩
          · rintro ⟨_, channel, _, ⟨rfl, rfl⟩, hchannel, haccepts, hindex,
              hmember, hepoch, hcommand⟩
            exact ⟨channel, hchannel, haccepts, hindex, hmember, hepoch,
              hcommand⟩
  | commit position sample =>
      cases sample with
      | none => simp [eventOf]
      | some value => simp [eventOf, Option.bind_eq_some_iff]

theorem eventOf_commit_iff
    (endpoint : DdsDaemonEndpoint D) (take : EndpointTake D)
    (index epoch : ℕ) :
    endpoint.eventOf take = some (index, .commit epoch) ↔
      ∃ position channel groupName value,
        take = .commit position (some value) ∧
        endpoint.commitChannels[position]? = some channel ∧
        endpoint.groupNames[channel.groupIndex]? = some groupName ∧
        endpoint.acceptsCommit groupName value = true ∧
        channel.groupIndex = index ∧ value.commandEpoch = epoch := by
  cases take with
  | command position sample =>
      cases sample with
      | none => simp [eventOf]
      | some value => simp [eventOf, Option.bind_eq_some_iff]
  | commit position sample =>
      cases sample with
      | none => simp [eventOf]
      | some value =>
          simp only [eventOf, Option.bind_eq_bind, Option.bind_eq_some_iff,
            Option.ite_none_right_eq_some, Option.some.injEq, Prod.mk.injEq,
            EpochEvent.commit.injEq, EndpointTake.commit.injEq]
          constructor
          · rintro ⟨channel, hchannel, groupName, hname, haccepts, hindex,
              hepoch⟩
            exact ⟨position, channel, groupName, value, ⟨rfl, rfl⟩, hchannel,
              hname, haccepts, hindex, hepoch⟩
          · rintro ⟨_, channel, groupName, _, ⟨rfl, rfl⟩, hchannel, hname,
              haccepts, hindex, hepoch⟩
            exact ⟨channel, hchannel, groupName, hname, haccepts, hindex,
              hepoch⟩

/-! ## Groups evolve independently -/

/-- The event which a sample is for the group at `index`. -/
def groupEvent (endpoint : DdsDaemonEndpoint D) (index : ℕ)
    (take : EndpointTake D) : Option (EpochEvent (Cia402CommandValue D)) :=
  match endpoint.eventOf take with
  | none => none
  | some (target, event) => if target = index then some event else none

/-- The data against which samples are checked. -/
structure SameChannels (start endpoint : DdsDaemonEndpoint D) : Prop where
  robotId : endpoint.robotId = start.robotId
  commands : endpoint.cia402CommandChannels = start.cia402CommandChannels
  commits : endpoint.commitChannels = start.commitChannels
  names : endpoint.groupNames = start.groupNames

theorem SameChannels.eventOf
    {start endpoint : DdsDaemonEndpoint D}
    (hsame : SameChannels start endpoint) (take : EndpointTake D) :
    endpoint.eventOf take = start.eventOf take := by
  unfold DdsDaemonEndpoint.eventOf acceptsCommand acceptsCommit
  rw [hsame.robotId, hsame.commands, hsame.commits, hsame.names]

omit [FloatingPoint D] in
theorem set_groupNames
    {endpoint : DdsDaemonEndpoint D} {index : ℕ}
    {group next : EthercatGroup (Cia402CommandValue D)}
    (hgroup : endpoint.ethercatGroups[index]? = some group)
    (hname : next.name = group.name) :
    (endpoint.ethercatGroups.set index next).map EthercatGroup.name =
      endpoint.groupNames := by
  unfold groupNames
  rw [List.map_set, hname]
  have hlisted := endpoint.getElem?_groupNames index
  rw [hgroup] at hlisted
  obtain ⟨hlt, hvalue⟩ := List.getElem?_eq_some_iff.mp hlisted
  rw [← hvalue]
  exact List.set_getElem_self hlt

theorem SameChannels.step
    {start endpoint : DdsDaemonEndpoint D}
    (hsame : SameChannels start endpoint) (take : EndpointTake D) :
    SameChannels start (endpoint.step take).1 := by
  unfold DdsDaemonEndpoint.step
  split
  · exact hsame
  · unfold apply
    split
    · exact hsame
    · rename_i group hgroup
      exact ⟨hsame.robotId, hsame.commands, hsame.commits,
        (set_groupNames hgroup (groupMachine_step_name group _)).trans
          hsame.names⟩

theorem sameChannels_final
    (start : DdsDaemonEndpoint D) (takes : List (EndpointTake D)) :
    SameChannels start (endpointMachine.final start takes) :=
  Machine.invariant_final (SameChannels start)
    (fun _ take hsame => hsame.step take) ⟨rfl, rfl, rfl, rfl⟩ takes

theorem step_group
    (endpoint : DdsDaemonEndpoint D) (take : EndpointTake D) (index : ℕ) :
    (endpoint.step take).1.ethercatGroups[index]? =
      (endpoint.ethercatGroups[index]?).map fun group =>
        groupMachine.final group (endpoint.groupEvent index take).toList := by
  unfold DdsDaemonEndpoint.step groupEvent
  cases hevent : endpoint.eventOf take with
  | none => simp
  | some received =>
      obtain ⟨target, event⟩ := received
      unfold apply
      dsimp only
      cases hgroup : endpoint.ethercatGroups[target]? with
      | none =>
          by_cases htarget : target = index
          · subst htarget
            simp [hgroup]
          · simp [htarget]
      | some group =>
          by_cases htarget : target = index
          · subst htarget
            have hlt := (List.getElem?_eq_some_iff.mp hgroup).1
            simp [hgroup, List.getElem?_set_self hlt]
          · simp [htarget, List.getElem?_set_ne htarget]

/-- Each group is driven by its own valid samples. -/
theorem final_group
    (start : DdsDaemonEndpoint D) (takes : List (EndpointTake D))
    (index : ℕ) :
    (endpointMachine.final start takes).ethercatGroups[index]? =
      (start.ethercatGroups[index]?).map fun group =>
        groupMachine.final group
          (takes.filterMap (start.groupEvent index)) := by
  induction takes using List.reverseRecOn with
  | nil => simp
  | append_singleton takes take ih =>
      have hevent : (endpointMachine.final start takes).groupEvent index take =
          start.groupEvent index take := by
        unfold groupEvent
        rw [(sameChannels_final start takes).eventOf]
      rw [Machine.final_append, List.filterMap_append]
      refine ((endpointMachine.final start takes).step_group take index).trans ?_
      rw [ih, hevent, Option.map_map]
      congr 1
      funext group
      rw [Function.comp_apply, ← Machine.final_append]
      cases hlast : start.groupEvent index take with
      | none => simp [hlast]
      | some event => simp [hlast]

/-! ## Batches of an endpoint -/

/-- The epoch and the command of a valid sample of a member of a group. -/
def memberCommand? (endpoint : DdsDaemonEndpoint D) (group : String)
    (member : ℕ) (take : EndpointTake D) :
    Option (ℕ × Cia402CommandValue D) :=
  match endpoint.eventOf take with
  | some (index, .stage staged epoch command) =>
      if endpoint.groupNames[index]? = some group ∧ staged = member then
        some (epoch, command)
      else
        none
  | _ => none

/-- The epoch of a valid commit of a group. -/
def groupCommit? (endpoint : DdsDaemonEndpoint D) (group : String)
    (take : EndpointTake D) : Option ℕ :=
  match endpoint.eventOf take with
  | some (index, .commit epoch) =>
      if endpoint.groupNames[index]? = some group then some epoch else none
  | _ => none

theorem step_eq_some_iff
    (endpoint : DdsDaemonEndpoint D) (take : EndpointTake D)
    (call : StageEthercatEpoch D) :
    (endpoint.step take).2 = some call ↔
      ∃ index epoch group batch,
        endpoint.eventOf take = some (index, .commit epoch) ∧
        endpoint.ethercatGroups[index]? = some group ∧
        (group.commit epoch).2 = some batch ∧
        call = ⟨group.name, batch.epoch, batch.commands⟩ := by
  unfold DdsDaemonEndpoint.step
  cases hevent : endpoint.eventOf take with
  | none => simp
  | some received =>
      obtain ⟨index, event⟩ := received
      unfold apply
      dsimp only
      cases hgroup : endpoint.ethercatGroups[index]? with
      | none =>
          constructor
          · intro hnone
            contradiction
          · rintro ⟨_, _, group, _, hreceived, hsome, _⟩
            cases hreceived
            rw [hgroup] at hsome
            contradiction
      | some group =>
          cases event with
          | stage member epoch command =>
              constructor
              · intro hnone
                contradiction
              · rintro ⟨_, _, _, _, hreceived, _⟩
                cases hreceived
          | commit epoch =>
              change ((group.commit epoch).2.map fun batch =>
                (⟨group.name, batch.epoch, batch.commands⟩ :
                  StageEthercatEpoch D)) = some call ↔ _
              rw [Option.map_eq_some_iff]
              constructor
              · rintro ⟨batch, hbatch, hcall⟩
                exact ⟨index, epoch, group, batch, rfl, hgroup, hbatch,
                  hcall.symm⟩
              · rintro ⟨_, _, _, batch, hreceived, hsome, hbatch, hcall⟩
                cases hreceived
                rw [hgroup, Option.some.injEq] at hsome
                subst hsome
                exact ⟨batch, hbatch, hcall.symm⟩

/-- A group which hands on no batch makes no call. -/
theorem no_call_of_batches_nil
    {start : DdsDaemonEndpoint D} (hnodup : start.groupNames.Nodup)
    {earlier later : List (EndpointTake D)} {index : ℕ}
    {group : EthercatGroup (Cia402CommandValue D)}
    (hgroup : start.ethercatGroups[index]? = some group)
    (hnone : batches groupMachine
      (groupMachine.final group (earlier.filterMap (start.groupEvent index)))
      (later.filterMap (start.groupEvent index)) = [])
    {t : Transition (DdsDaemonEndpoint D) (EndpointTake D)
      (Option (StageEthercatEpoch D))}
    (ht : t ∈ endpointMachine.trace (endpointMachine.final start earlier) later)
    {call : StageEthercatEpoch D} (hcall : t.output = some call) :
    call.executionGroup ≠ group.name := by
  obtain ⟨between, take, ⟨rest, hlater⟩, hfire⟩ :=
    Machine.exists_fire_of_mem_trace ht
  rw [hfire, Machine.fire_output, ← Machine.final_append] at hcall
  obtain ⟨target, epoch, staged, batch, hevent, hstaged, hbatch, hvalue⟩ :=
    (step_eq_some_iff _ _ _).mp hcall
  intro hname
  rw [(sameChannels_final start _).eventOf] at hevent
  rw [final_group] at hstaged
  obtain ⟨origin, horigin, hfinal⟩ := Option.map_eq_some_iff.mp hstaged
  have htarget : target = index := by
    have horiginName := start.getElem?_groupNames target
    have hgroupName := start.getElem?_groupNames index
    rw [horigin, Option.map_some] at horiginName
    rw [hgroup, Option.map_some] at hgroupName
    have hsame : origin.name = group.name := by
      rw [← hname, hvalue, ← hfinal]
      exact (groupMachine_final_name origin _).symm
    rw [hsame, ← hgroupName] at horiginName
    have hlt := (List.getElem?_eq_some_iff.mp hgroupName).1
    exact ((List.getElem?_inj hlt hnodup).mp horiginName.symm).symm
  subst htarget
  rw [hgroup, Option.some.injEq] at horigin
  subst horigin
  have hreceived : start.groupEvent target take = some (.commit epoch) := by
    unfold groupEvent
    rw [hevent]
    exact if_pos rfl
  rw [List.filterMap_append, Machine.final_append] at hfinal
  rw [← hlater, List.append_assoc, List.filterMap_append, batches_append,
    hfinal, List.singleton_append,
    List.filterMap_cons_some hreceived] at hnone
  have hhead := (List.append_eq_nil_iff.mp hnone).2
  rw [batches_cons, show (groupMachine.step staged (.commit epoch)).2 =
    some batch from hbatch] at hhead
  contradiction

/-- An event of a group is the event of a sample. -/
theorem exists_sample_of_filterMap
    {start : DdsDaemonEndpoint D} {index : ℕ} {takes : List (EndpointTake D)}
    {before after : List (EpochEvent (Cia402CommandValue D))}
    {event : EpochEvent (Cia402CommandValue D)}
    (hsplit : takes.filterMap (start.groupEvent index) =
      before ++ event :: after) :
    ∃ older sample newer, takes = older ++ sample :: newer ∧
      older.filterMap (start.groupEvent index) = before ∧
      start.eventOf sample = some (index, event) ∧
      newer.filterMap (start.groupEvent index) = after := by
  obtain ⟨first, second, htakes, hbefore, hsecond⟩ :=
    List.filterMap_eq_append_iff.mp hsplit
  obtain ⟨skipped, sample, newer, hrest, hskipped, hsample, hafter⟩ :=
    List.filterMap_eq_cons_iff.mp hsecond
  refine ⟨first ++ skipped, sample, newer, ?_, ?_, ?_, hafter⟩
  · rw [htakes, hrest, List.append_assoc]
  · rw [List.filterMap_append, hbefore,
      List.filterMap_eq_nil_iff.mpr hskipped, List.append_nil]
  · unfold groupEvent at hsample
    cases hreceived : start.eventOf sample with
    | none =>
        rw [hreceived] at hsample
        contradiction
    | some received =>
        rw [hreceived] at hsample
        dsimp only at hsample
        split at hsample
        · rename_i htarget
          rw [← htarget, ← Option.some.inj hsample]
        · contradiction

/-- A member command is an event of its group. -/
theorem mem_groupEvents_of_memberCommand?
    {start : DdsDaemonEndpoint D} (hnodup : start.groupNames.Nodup)
    {index member : ℕ} {name : String}
    (hname : start.groupNames[index]? = some name)
    {takes : List (EndpointTake D)} {take : EndpointTake D}
    (hmem : take ∈ takes) {epoch : ℕ} {command : Cia402CommandValue D}
    (hcommand : start.memberCommand? name member take =
      some (epoch, command)) :
    .stage member epoch command ∈
      takes.filterMap (start.groupEvent index) := by
  refine List.mem_filterMap.mpr ⟨take, hmem, ?_⟩
  unfold memberCommand? at hcommand
  unfold groupEvent
  cases hreceived : start.eventOf take with
  | none =>
      rw [hreceived] at hcommand
      contradiction
  | some received =>
      obtain ⟨target, event⟩ := received
      rw [hreceived] at hcommand
      cases event with
      | commit _ => contradiction
      | stage staged newer value =>
          dsimp only at hcommand ⊢
          split at hcommand
          · rename_i hmatch
            have hlt := (List.getElem?_eq_some_iff.mp hname).1
            have htarget : index = target :=
              (List.getElem?_inj hlt hnodup).mp (hname.trans hmatch.1.symm)
            cases hcommand
            rw [if_pos htarget.symm, hmatch.2]
          · contradiction

/-- Where a call comes from: a commit of the group at `index`, with the command
of every member staged under the epoch of the call. -/
structure CallFrom (descriptors : List DdsTopicDescriptor)
    (start : DdsDaemonEndpoint D) (earlier : List (EndpointTake D))
    (take : EndpointTake D) (call : StageEthercatEpoch D) (index : ℕ)
    (origin : EthercatGroup (Cia402CommandValue D)) : Prop where
  event : start.eventOf take = some (index, .commit call.epoch)
  group : start.ethercatGroups[index]? = some origin
  name : call.executionGroup = origin.name
  epoch : call.epoch ≠ 0
  length : call.commands.length =
    (groupMembers descriptors call.executionGroup).length
  staged : ∀ (member : ℕ) (hmember : member < call.commands.length),
    ∃ before after, StagedFrom origin
      (earlier.filterMap (start.groupEvent index)) member call.epoch
        call.commands[member] before after

theorem exists_callFrom
    {descriptors : List DdsTopicDescriptor} {start : DdsDaemonEndpoint D}
    (hgroups : GroupsOf descriptors start)
    {earlier : List (EndpointTake D)} {take : EndpointTake D}
    {call : StageEthercatEpoch D}
    (hcall : (endpointMachine.step (endpointMachine.final start earlier)
      take).2 = some call) :
    ∃ index origin,
      CallFrom descriptors start earlier take call index origin := by
  obtain ⟨index, epoch, group, batch, hevent, hgroup, hbatch, hvalue⟩ :=
    (step_eq_some_iff _ _ _).mp hcall
  rw [(sameChannels_final start _).eventOf] at hevent
  rw [final_group] at hgroup
  obtain ⟨origin, horigin, hfinal⟩ := Option.map_eq_some_iff.mp hgroup
  obtain ⟨hepoch, hsame, hstaged, hbatchValue⟩ :=
    (group.commit_eq_some_iff epoch batch).mp hbatch
  have hname : group.name = origin.name := by
    rw [← hfinal]
    exact groupMachine_final_name origin _
  have hsize : group.size = (groupMembers descriptors group.name).length := by
    rw [← hfinal, groupMachine_final_size, hfinal, hname]
    exact congrArg EthercatGroup.size (hgroups.created index origin horigin)
  subst hvalue hbatchValue
  refine ⟨index, origin, ?_, horigin, hname, ?_, ?_, ?_⟩
  · rw [hevent, hsame]
    rfl
  · rw [hsame] at hepoch
    exact hepoch
  · rw [← hsize]
    simp [EthercatGroup.batch]
  · intro member hmember
    have hlt : member < group.size := by
      simpa [EthercatGroup.batch] using hmember
    have hholds : (groupMachine.final origin
        (earlier.filterMap (start.groupEvent index))).Holds member group.epoch
          (group.commands member) := by
      rw [hfinal]
      exact ⟨group.allStaged_iff.mp hstaged member hlt, rfl, rfl⟩
    have hunstaged : ∀ other, origin.staged other = false := by
      rw [hgroups.created index origin horigin]
      exact fun _ => rfl
    obtain ⟨before, after, hfrom⟩ := exists_stagedFrom hunstaged hholds
    refine ⟨before, after, ?_⟩
    simpa [EthercatGroup.batch] using hfrom

/-- Every call carries, for each member of its group, the latest valid command,
which is of the epoch of the call and was taken after the previous call for
the group. -/
theorem stage_ethercat_epoch_atomic
    (robotId : String) (descriptors : List DdsTopicDescriptor)
    (earlier : List (EndpointTake D)) (take : EndpointTake D)
    (call : StageEthercatEpoch D)
    (hcall : (endpointMachine.step (endpointMachine.final
      (create robotId descriptors) earlier) take).2 = some call) :
    call.epoch ≠ 0 ∧
      (create (D := D) robotId descriptors).groupCommit? call.executionGroup
          take = some call.epoch ∧
      call.commands.length =
        (groupMembers descriptors call.executionGroup).length ∧
      ∀ (member : ℕ) (hmember : member < call.commands.length),
        ∃ before sample after,
          earlier = before ++ sample :: after ∧
          (create robotId descriptors).memberCommand? call.executionGroup
              member sample =
            some (call.epoch, call.commands[member]) ∧
          (∀ other ∈ after, (create robotId descriptors).memberCommand?
            call.executionGroup member other = none) ∧
          ∀ t ∈ endpointMachine.trace (endpointMachine.final
              (create robotId descriptors) (before ++ [sample])) after,
            ∀ previous, t.output = some previous →
              previous.executionGroup ≠ call.executionGroup := by
  have hgroups := create_groupsOf (D := D) robotId descriptors
  generalize create (D := D) robotId descriptors = start at hcall hgroups ⊢
  obtain ⟨index, origin, hfrom⟩ := exists_callFrom hgroups hcall
  have hlisted : start.groupNames[index]? = some call.executionGroup := by
    rw [getElem?_groupNames, hfrom.group, hfrom.name]
    rfl
  refine ⟨hfrom.epoch, ?_, hfrom.length, ?_⟩
  · unfold groupCommit?
    rw [hfrom.event]
    exact if_pos hlisted
  · intro member hmember
    obtain ⟨before, after, hstaged⟩ := hfrom.staged member hmember
    obtain ⟨older, sample, newer, htakes, hbefore, hsample, hafter⟩ :=
      exists_sample_of_filterMap hstaged.split
    refine ⟨older, sample, newer, htakes, ?_, ?_, ?_⟩
    · unfold memberCommand?
      rw [hsample]
      exact if_pos ⟨hlisted, rfl⟩
    · intro other hother
      cases hnone : start.memberCommand? call.executionGroup member other with
      | none => rfl
      | some command =>
          have hmem := mem_groupEvents_of_memberCommand? hgroups.names hlisted
            hother hnone
          rw [hafter] at hmem
          exact absurd rfl (hstaged.kept _ _ _ hmem).1
    · intro t ht previous hprevious
      rw [hfrom.name]
      refine no_call_of_batches_nil hgroups.names hfrom.group ?_ ht hprevious
      have hreceived : start.groupEvent index sample =
          some (.stage member call.epoch call.commands[member]) := by
        unfold groupEvent
        rw [hsample]
        exact if_pos rfl
      rw [List.filterMap_append, hbefore, hafter,
        List.filterMap_cons_some hreceived, List.filterMap_nil]
      exact hstaged.unbatched

/-! ## An endpoint with one group -/

theorem groupMembers_of_single
    {descriptors : List DdsTopicDescriptor} {group : String}
    (hsingle : ∀ descriptor ∈ axisCommandTopics descriptors,
      descriptor.executionGroup = group) :
    groupMembers descriptors group = axisCommandTopics descriptors := by
  unfold groupMembers axisCommandTopics at *
  refine List.filter_congr ?_
  intro descriptor hmem
  by_cases haxis : (decide (descriptor.kind = .command) &&
      decide (descriptor.deviceKind = .cia402)) = true
  · have hgroup := hsingle descriptor (List.mem_filter.mpr ⟨hmem, haxis⟩)
    simp [hgroup]
  · simp [haxis]

/-- The only group of an endpoint has the index zero. -/
theorem GroupsOf.groupIndexOf_single
    {descriptors : List DdsTopicDescriptor} {endpoint : DdsDaemonEndpoint D}
    (hgroups : GroupsOf descriptors endpoint) {group : String}
    (hsingle : ∀ descriptor ∈ axisCommandTopics descriptors,
      descriptor.executionGroup = group) :
    endpoint.groupIndexOf group = 0 := by
  have hall : ∀ name ∈ endpoint.groupNames, name = group := by
    intro name hname
    obtain ⟨descriptor, hmember⟩ :=
      List.exists_mem_of_ne_nil _ ((hgroups.listed name).mp hname)
    unfold groupMembers at hmember
    obtain ⟨hmem, hkinds⟩ := List.mem_filter.mp hmember
    simp only [Bool.and_eq_true, decide_eq_true_eq] at hkinds
    rw [← hkinds.2]
    refine hsingle descriptor (List.mem_filter.mpr ⟨hmem, ?_⟩)
    simp [hkinds.1]
  unfold groupIndexOf
  cases hnames : endpoint.groupNames with
  | nil => rfl
  | cons name rest =>
      rw [hall name (by rw [hnames]; exact List.mem_cons_self)]
      exact List.idxOf_cons_self

theorem GroupsOf.memberCount_single
    {descriptors : List DdsTopicDescriptor} {endpoint : DdsDaemonEndpoint D}
    (hgroups : GroupsOf descriptors endpoint) {group : String}
    (hsingle : ∀ descriptor ∈ axisCommandTopics descriptors,
      descriptor.executionGroup = group) :
    (endpoint.enterGroup group).memberCount 0 =
      (axisCommandTopics descriptors).length := by
  have hindex := endpoint.enterGroup_at_index group
  rw [hgroups.groupIndexOf_single hsingle, getElem?_groupNames] at hindex
  obtain ⟨entered, hentered, hname⟩ := Option.map_eq_some_iff.mp hindex
  have hcreated := hgroups.enterGroup_created group 0 hentered
  unfold memberCount
  rw [hentered, hcreated, hname, groupMembers_of_single hsingle]
  rfl

/-- The command channels of one group, in the order of its members. -/
theorem commandChannels_of_single
    (robotId : String) {descriptors : List DdsTopicDescriptor} {group : String}
    (hsingle : ∀ descriptor ∈ axisCommandTopics descriptors,
      descriptor.executionGroup = group) :
    GroupsOf descriptors
        (descriptors.foldl addCommandChannel (empty (D := D) robotId)) ∧
      (descriptors.foldl addCommandChannel
          (empty (D := D) robotId)).cia402CommandChannels =
        (axisCommandTopics descriptors).mapIdx fun member descriptor =>
          ⟨0, member, descriptor.deviceId, descriptor.topicName⟩ := by
  induction descriptors using List.reverseRecOn with
  | nil => exact ⟨⟨List.nodup_nil, by simp [groupNames, empty, groupMembers],
      by simp [empty]⟩, rfl⟩
  | append_singleton descriptors descriptor ih =>
      have hearlier : ∀ other ∈ axisCommandTopics descriptors,
          other.executionGroup = group := by
        intro other hother
        refine hsingle other ?_
        rw [TopicRegistry.axisCommandTopics_append]
        exact List.mem_append_left _ hother
      obtain ⟨hgroups, hchannels⟩ := ih hearlier
      rw [List.foldl_append, List.foldl_cons, List.foldl_nil]
      refine ⟨hgroups.addCommandChannel descriptor, ?_⟩
      rw [TopicRegistry.axisCommandTopics_append]
      by_cases haxis :
          descriptor.kind = .command ∧ descriptor.deviceKind = .cia402
      · have hown : descriptor.executionGroup = group := by
          refine hsingle descriptor ?_
          rw [TopicRegistry.axisCommandTopics_append, if_pos haxis]
          exact List.mem_append_right _ (List.mem_singleton_self descriptor)
        rw [if_pos haxis, List.mapIdx_append,
          addCommandChannel_channels haxis.1 haxis.2, hown,
          hgroups.groupIndexOf_single hearlier,
          hgroups.memberCount_single hearlier, hchannels]
        simp
      · rw [if_neg haxis, List.append_nil, addCommandChannel_of_not haxis]
        exact hchannels

omit [FloatingPoint D] in
theorem addCommitChannel_of_not
    {endpoint : DdsDaemonEndpoint D} {descriptor : DdsTopicDescriptor}
    (hkind : descriptor.kind ≠ .commit) :
    endpoint.addCommitChannel descriptor = endpoint :=
  if_pos hkind

omit [FloatingPoint D] in
theorem addCommitChannel_of_commit
    {endpoint : DdsDaemonEndpoint D} {descriptor : DdsTopicDescriptor}
    (hkind : descriptor.kind = .commit)
    (hlisted : descriptor.executionGroup ∈ endpoint.groupNames) :
    (endpoint.addCommitChannel descriptor).commitChannels =
      endpoint.commitChannels ++
        [⟨endpoint.groupIndexOf descriptor.executionGroup,
          descriptor.topicName⟩] := by
  unfold addCommitChannel
  rw [if_neg (not_not.mpr hkind), if_pos hlisted]

omit [FloatingPoint D] in
/-- A commit channel for every commit topic of a listed group. -/
theorem addCommitChannel_channels
    (endpoint : DdsDaemonEndpoint D) (descriptors : List DdsTopicDescriptor)
    (hlisted : ∀ descriptor ∈ commitTopics descriptors,
      descriptor.executionGroup ∈ endpoint.groupNames) :
    (descriptors.foldl addCommitChannel endpoint).commitChannels =
      endpoint.commitChannels ++ (commitTopics descriptors).map
        fun descriptor => ⟨endpoint.groupIndexOf descriptor.executionGroup,
          descriptor.topicName⟩ := by
  induction descriptors using List.reverseRecOn with
  | nil => simp [commitTopics]
  | append_singleton descriptors descriptor ih =>
      rw [TopicRegistry.commitTopics_append] at hlisted ⊢
      have hearlier := ih fun other hother =>
        hlisted other (List.mem_append_left _ hother)
      have hgroups := (endpoint.addCommitChannel_kept descriptors).1
      rw [List.foldl_append, List.foldl_cons, List.foldl_nil]
      by_cases hkind : descriptor.kind = .commit
      · have hown := hlisted descriptor (by simp [hkind])
        have hnames : (descriptors.foldl addCommitChannel endpoint).groupNames =
            endpoint.groupNames := congrArg (·.map EthercatGroup.name) hgroups
        rw [if_pos hkind, List.map_append, ← List.append_assoc, ← hearlier]
        rw [addCommitChannel_of_commit hkind (hnames ▸ hown)]
        unfold groupIndexOf
        rw [hnames]
        rfl
      · rw [if_neg hkind, List.append_nil, ← hearlier,
          addCommitChannel_of_not hkind]

end DdsDaemonEndpoint

/-- Two axes in one group. -/
def pairDescriptors : List DdsTopicDescriptor :=
  [⟨.command, .cia402, "robot", "left", "left_command", "arm"⟩,
    ⟨.command, .cia402, "robot", "right", "right_command", "arm"⟩,
    ⟨.commit, .ethercat, "robot", "arm", "arm_commit", "arm"⟩]

/-- A sample of one of the two axes, with its epoch as sequence number. -/
def pairCommand (channel : ℕ) (deviceId : String) (epoch : ℕ) (target : ℚ) :
    EndpointTake ℚ :=
  .command channel (some ⟨⟨1, "robot", deviceId, "", epoch, 0⟩, target, 0, 0,
    epoch⟩)

theorem stage_ethercat_epoch_atomic_pair :
    (endpointMachine.step (endpointMachine.final
        (.create "robot" pairDescriptors)
        [pairCommand 0 "left" 9 1, pairCommand 1 "right" 9 2])
      (.commit 0 (some ⟨⟨1, "robot", "arm", "", 9, 0⟩, "arm", 9⟩))).2 =
        some ⟨"arm", 9, [⟨1, 0, 0, 9, 0⟩, ⟨2, 0, 0, 9, 0⟩]⟩ ∧
      ([⟨1, 0, 0, 9, 0⟩, ⟨2, 0, 0, 9, 0⟩] :
          List (Cia402CommandValue ℚ)).length =
        (groupMembers pairDescriptors "arm").length := by
  have hcall : (endpointMachine.step (endpointMachine.final
        (.create "robot" pairDescriptors)
        [pairCommand 0 "left" 9 1, pairCommand 1 "right" 9 2])
      (.commit 0 (some ⟨⟨1, "robot", "arm", "", 9, 0⟩, "arm", 9⟩))).2 =
        some ⟨"arm", 9, [⟨1, 0, 0, 9, 0⟩, ⟨2, 0, 0, 9, 0⟩]⟩ := by
    decide +kernel
  exact ⟨hcall, (DdsDaemonEndpoint.stage_ethercat_epoch_atomic "robot"
    pairDescriptors _ _ _ hcall).2.2.1⟩

end PolicyRuntime
