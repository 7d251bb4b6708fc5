import PolicyRuntime.Messages

/-!
# DDS topics of a robot

Host and daemon derive their DDS topics from the device lists of the robot
profile: a state topic for every sensor, a command topic for every actuator, a
commit topic for every execution group of EtherCAT actuators and a health
topic.  Names are normalized, so two devices may collide; such a profile is
refused.
-/

namespace PolicyRuntime

/-- A device entry of the profile.  The arguments are a map from keys to
texts. -/
structure DeviceConfig where
  name : String
  type : String
  path : String
  args : List (String × String)
  deriving DecidableEq

inductive DdsTopicKind
  | command
  | state
  | commit
  | health
  deriving DecidableEq

inductive DdsDeviceKind
  | cia402
  | damiao
  | st3215
  | ethercat
  | robotIo
  deriving DecidableEq

structure DdsTopicDescriptor where
  kind : DdsTopicKind
  deviceKind : DdsDeviceKind
  robotId : String
  deviceId : String
  topicName : String
  executionGroup : String
  deriving DecidableEq

/-! ## Identifiers -/

def isIdentifierCharacter (character : Char) : Bool :=
  ('a' ≤ character && character ≤ 'z') ||
    ('A' ≤ character && character ≤ 'Z') ||
    ('0' ≤ character && character ≤ '9')

/-- The loop of `normalize_identifier`. -/
def normalizeLoop : List Char → List Char → Bool → List Char
  | [], normalized, _ => normalized
  | character :: rest, normalized, separatorPending =>
      if isIdentifierCharacter character then
        let separated :=
          if separatorPending && !normalized.isEmpty then normalized ++ ['_']
          else normalized
        normalizeLoop rest (separated ++ [character.toLower]) false
      else
        normalizeLoop rest normalized true

def normalizeIdentifier (value label : String) : Except Error String :=
  let normalized := normalizeLoop value.toList [] false
  if normalized.isEmpty then
    .error ⟨.invalidArgument, label ++ " must contain an ASCII letter or digit"⟩
  else
    .ok (String.ofList normalized)

def deviceKindFor (device : DeviceConfig) : Except Error DdsDeviceKind :=
  if device.type = "cia402" then .ok .cia402
  else if device.type = "damiao_motor" then .ok .damiao
  else if device.type = "st3215" then .ok .st3215
  else
    .error ⟨.invalidArgument,
      "DDS does not support device type '" ++ device.type ++ "'"⟩

/-- The execution group of a device and its normalized name. -/
def ethercatGroupFor (device : DeviceConfig) :
    Except Error (String × String) :=
  match device.args.lookup "safety_group" with
  | none =>
      .error ⟨.invalidArgument,
        "cia402 device '" ++ device.name ++ "' requires safety_group"⟩
  | some group => do
      let normalized ← normalizeIdentifier group "cia402 safety_group"
      pure (normalized, group)

/-! ## Registry -/

/-- The registry under construction.  The names already taken are those of the
descriptors. -/
structure TopicRegistry where
  descriptors : List DdsTopicDescriptor
  /-- normalized execution groups in key order, with their original names -/
  ethercatGroups : List (String × String)

namespace TopicRegistry

def empty : TopicRegistry := ⟨[], []⟩

def appendDescriptor (registry : TopicRegistry)
    (descriptor : DdsTopicDescriptor) : Except Error TopicRegistry :=
  if registry.descriptors.any (·.topicName = descriptor.topicName) then
    .error ⟨.invalidArgument,
      "DDS topic name collision after normalization: '" ++
        descriptor.topicName ++ "'"⟩
  else
    .ok { registry with descriptors := registry.descriptors ++ [descriptor] }

/-- `std::map::emplace` of a group which is not there yet. -/
def insertGroup (normalized group : String) :
    List (String × String) → List (String × String)
  | [] => [(normalized, group)]
  | entry :: rest =>
      if normalized < entry.1 then (normalized, group) :: entry :: rest
      else entry :: insertGroup normalized group rest

def addEthercatGroup (registry : TopicRegistry) (normalized group : String) :
    Except Error TopicRegistry :=
  match registry.ethercatGroups.lookup normalized with
  | some existing =>
      if existing ≠ group then
        .error ⟨.invalidArgument,
          "EtherCAT execution-group collision after normalization: '" ++
            normalized ++ "'"⟩
      else
        .ok registry
  | none =>
      .ok { registry with
        ethercatGroups :=
          insertGroup normalized group registry.ethercatGroups }

/-- The execution group under which a device is listed.  Only command topics
enter their group. -/
def enterGroup (registry : TopicRegistry) (kind : DdsTopicKind)
    (deviceKind : DdsDeviceKind) (device : DeviceConfig) :
    Except Error (TopicRegistry × String) :=
  if deviceKind = .cia402 then do
    let (normalized, group) ← ethercatGroupFor device
    if kind = .command then
      let entered ← registry.addEthercatGroup normalized group
      pure (entered, group)
    else
      pure (registry, group)
  else
    pure (registry, "")

def appendDevice (kind : DdsTopicKind) (direction suffix : String)
    (robotId normalizedRobotId : String) (registry : TopicRegistry)
    (device : DeviceConfig) : Except Error TopicRegistry := do
  let deviceKind ← deviceKindFor device
  let normalizedDeviceId ← normalizeIdentifier device.name "device_id"
  let (entered, executionGroup) ← registry.enterGroup kind deviceKind device
  entered.appendDescriptor
    { kind := kind
      deviceKind := deviceKind
      robotId := robotId
      deviceId := device.name
      topicName := "robot_io_" ++ normalizedRobotId ++ "_" ++ direction ++
        "_" ++ normalizedDeviceId ++ "_" ++ suffix
      executionGroup := executionGroup }

/-- `append_device_descriptors` -/
def appendDevices (kind : DdsTopicKind) (direction suffix : String)
    (robotId normalizedRobotId : String) :
    TopicRegistry → List DeviceConfig → Except Error TopicRegistry
  | registry, [] => .ok registry
  | registry, device :: rest => do
      let next ← registry.appendDevice kind direction suffix robotId
        normalizedRobotId device
      appendDevices kind direction suffix robotId normalizedRobotId next rest

def appendCommits (robotId normalizedRobotId : String) :
    TopicRegistry → List (String × String) → Except Error TopicRegistry
  | registry, [] => .ok registry
  | registry, (normalizedGroup, group) :: rest => do
      let next ← registry.appendDescriptor
        { kind := .commit
          deviceKind := .ethercat
          robotId := robotId
          deviceId := group
          topicName := "robot_io_" ++ normalizedRobotId ++ "_ethercat_" ++
            normalizedGroup ++ "_command_commit"
          executionGroup := group }
      appendCommits robotId normalizedRobotId next rest

end TopicRegistry

open TopicRegistry

def buildDdsTopicRegistry (sensors actuators : List DeviceConfig)
    (robotId : String) : Except Error (List DdsTopicDescriptor) := do
  let normalizedRobotId ← normalizeIdentifier robotId "robot_id"
  let states ← TopicRegistry.empty.appendDevices .state "sensor" "state"
    robotId normalizedRobotId sensors
  let commands ← states.appendDevices .command "actuator" "command" robotId
    normalizedRobotId actuators
  let commits ← commands.appendCommits robotId normalizedRobotId
    commands.ethercatGroups
  let registry ← commits.appendDescriptor
    { kind := .health
      deviceKind := .robotIo
      robotId := robotId
      deviceId := "health"
      topicName := "robot_io_" ++ normalizedRobotId ++ "_health"
      executionGroup := "" }
  pure registry.descriptors

/-! ## What a successful registry contains -/

/-- The command topics of the axes. -/
def axisCommandTopics (descriptors : List DdsTopicDescriptor) :
    List DdsTopicDescriptor :=
  descriptors.filter fun descriptor =>
    descriptor.kind = .command && descriptor.deviceKind = .cia402

def commitTopics (descriptors : List DdsTopicDescriptor) :
    List DdsTopicDescriptor :=
  descriptors.filter (·.kind = .commit)

theorem exists_of_bind_eq_ok
    {ε α β : Type} {first : Except ε α} {next : α → Except ε β} {result : β}
    (hok : (first >>= next) = .ok result) :
    ∃ value, first = .ok value ∧ next value = .ok result := by
  cases first with
  | error failure => contradiction
  | ok value => exact ⟨value, rfl, hok⟩

namespace TopicRegistry

theorem appendDescriptor_ok
    {registry next : TopicRegistry} {descriptor : DdsTopicDescriptor}
    (hok : registry.appendDescriptor descriptor = .ok next) :
    next = { registry with
      descriptors := registry.descriptors ++ [descriptor] } ∧
      ∀ other ∈ registry.descriptors,
        other.topicName ≠ descriptor.topicName := by
  unfold appendDescriptor at hok
  split at hok
  · contradiction
  · rename_i hfresh
    cases hok
    refine ⟨rfl, ?_⟩
    intro other hother hname
    exact hfresh (List.any_eq_true.mpr ⟨other, hother, by simp [hname]⟩)

theorem insertGroup_perm
    (normalized group : String) (groups : List (String × String)) :
    (insertGroup normalized group groups).Perm
      ((normalized, group) :: groups) := by
  induction groups with
  | nil => rfl
  | cons entry rest ih =>
      unfold insertGroup
      split
      · rfl
      · exact (ih.cons entry).trans (List.Perm.swap ..)

theorem addEthercatGroup_ok
    {registry next : TopicRegistry} {normalized group : String}
    (hok : registry.addEthercatGroup normalized group = .ok next) :
    next.descriptors = registry.descriptors ∧
      ((next.ethercatGroups = registry.ethercatGroups ∧
          (normalized, group) ∈ registry.ethercatGroups) ∨
        (next.ethercatGroups.Perm
            ((normalized, group) :: registry.ethercatGroups) ∧
          normalized ∉ registry.ethercatGroups.map Prod.fst)) := by
  unfold addEthercatGroup at hok
  cases hlookup : registry.ethercatGroups.lookup normalized with
  | some existing =>
      rw [hlookup] at hok
      dsimp only at hok
      split at hok
      · contradiction
      · rename_i hsame
        rw [not_not] at hsame
        cases hok
        refine ⟨rfl, .inl ⟨rfl, ?_⟩⟩
        rw [hsame] at hlookup
        obtain ⟨before, after, hsplit, _⟩ :=
          List.lookup_eq_some_iff.mp hlookup
        rw [hsplit]
        simp
  | none =>
      rw [hlookup] at hok
      cases hok
      refine ⟨rfl, .inr ⟨insertGroup_perm normalized group _, ?_⟩⟩
      intro hkey
      obtain ⟨entry, hentry, hname⟩ := List.mem_map.mp hkey
      have hdifferent := List.lookup_eq_none_iff.mp hlookup entry hentry
      simp [hname] at hdifferent

/-- The groups listed are those of the command topics, each under its
normalized name; topic names are distinct. -/
structure WellListed (registry : TopicRegistry) : Prop where
  normalized : ∀ entry ∈ registry.ethercatGroups,
    normalizeIdentifier entry.2 "cia402 safety_group" = .ok entry.1
  keys : (registry.ethercatGroups.map Prod.fst).Nodup
  listed : ∀ group, group ∈ registry.ethercatGroups.map Prod.snd ↔
    group ∈ (axisCommandTopics registry.descriptors).map
      DdsTopicDescriptor.executionGroup
  names : (registry.descriptors.map DdsTopicDescriptor.topicName).Nodup

/-- What one device adds to the registry. -/
structure AppendsDevice (kind : DdsTopicKind) (registry next : TopicRegistry)
    (device : DeviceConfig) (descriptor : DdsTopicDescriptor) : Prop where
  descriptors : next.descriptors = registry.descriptors ++ [descriptor]
  fresh : ∀ other ∈ registry.descriptors,
    other.topicName ≠ descriptor.topicName
  topicKind : descriptor.kind = kind
  deviceId : descriptor.deviceId = device.name
  axis : descriptor.deviceKind = .cia402 ↔ device.type = "cia402"
  group : descriptor.deviceKind = .cia402 →
    device.args.lookup "safety_group" = some descriptor.executionGroup
  unchanged : ¬ (kind = .command ∧ descriptor.deviceKind = .cia402) →
    next.ethercatGroups = registry.ethercatGroups
  entered : kind = .command ∧ descriptor.deviceKind = .cia402 →
    ∃ normalized,
      normalizeIdentifier descriptor.executionGroup "cia402 safety_group" =
        .ok normalized ∧
      ((next.ethercatGroups = registry.ethercatGroups ∧
          (normalized, descriptor.executionGroup) ∈
            registry.ethercatGroups) ∨
        (next.ethercatGroups.Perm
            ((normalized, descriptor.executionGroup) ::
              registry.ethercatGroups) ∧
          normalized ∉ registry.ethercatGroups.map Prod.fst))

theorem deviceKindFor_ok
    {device : DeviceConfig} {deviceKind : DdsDeviceKind}
    (hok : deviceKindFor device = .ok deviceKind) :
    deviceKind = .cia402 ↔ device.type = "cia402" := by
  unfold deviceKindFor at hok
  split at hok
  · cases hok
    simpa using ‹device.type = "cia402"›
  · rename_i hother
    split at hok
    · cases hok
      simp [hother]
    · split at hok
      · cases hok
        simp [hother]
      · contradiction

theorem ethercatGroupFor_ok
    {device : DeviceConfig} {normalized group : String}
    (hok : ethercatGroupFor device = .ok (normalized, group)) :
    device.args.lookup "safety_group" = some group ∧
      normalizeIdentifier group "cia402 safety_group" = .ok normalized := by
  unfold ethercatGroupFor at hok
  cases hlookup : device.args.lookup "safety_group" with
  | none =>
      rw [hlookup] at hok
      contradiction
  | some name =>
      rw [hlookup] at hok
      obtain ⟨value, hvalue, hpair⟩ := exists_of_bind_eq_ok hok
      cases hpair
      exact ⟨rfl, hvalue⟩

theorem appendDevice_ok
    {kind : DdsTopicKind} {direction suffix robotId normalizedRobotId : String}
    {registry next : TopicRegistry} {device : DeviceConfig}
    (hok : registry.appendDevice kind direction suffix robotId
      normalizedRobotId device = .ok next) :
    ∃ descriptor, AppendsDevice kind registry next device descriptor := by
  unfold appendDevice at hok
  obtain ⟨deviceKind, hkind, hok⟩ := exists_of_bind_eq_ok hok
  obtain ⟨normalizedDeviceId, _, hok⟩ := exists_of_bind_eq_ok hok
  obtain ⟨⟨entered, executionGroup⟩, henter, hok⟩ := exists_of_bind_eq_ok hok
  obtain ⟨hnext, hfresh⟩ := appendDescriptor_ok hok
  have haxis := deviceKindFor_ok hkind
  unfold enterGroup at henter
  by_cases hcia402 : deviceKind = .cia402
  · rw [if_pos hcia402] at henter
    obtain ⟨⟨normalized, group⟩, hgroup, henter⟩ := exists_of_bind_eq_ok henter
    obtain ⟨hlookup, hnormalized⟩ := ethercatGroupFor_ok hgroup
    by_cases hcommand : kind = .command
    · simp only [hcommand, if_true] at henter
      obtain ⟨added, hadded, henter⟩ := exists_of_bind_eq_ok henter
      cases henter
      obtain ⟨hdescriptors, hgroups⟩ := addEthercatGroup_ok hadded
      rw [hdescriptors] at hfresh hnext
      refine ⟨_, by rw [hnext], hfresh, rfl, rfl, haxis, fun _ => hlookup,
        fun hnot => absurd ⟨hcommand, hcia402⟩ hnot, fun _ => ?_⟩
      rw [hnext]
      exact ⟨normalized, hnormalized, hgroups⟩
    · simp only [hcommand, if_false] at henter
      cases henter
      refine ⟨_, by rw [hnext], hfresh, rfl, rfl, haxis, fun _ => hlookup,
        fun _ => by rw [hnext], fun hboth => absurd hboth.1 hcommand⟩
  · rw [if_neg hcia402] at henter
    cases henter
    exact ⟨_, by rw [hnext], hfresh, rfl, rfl, haxis,
      fun hkind => absurd hkind hcia402, fun _ => by rw [hnext],
      fun hboth => absurd hboth.2 hcia402⟩

theorem WellListed.groups_nodup {registry : TopicRegistry}
    (hwell : WellListed registry) :
    (registry.ethercatGroups.map Prod.snd).Nodup := by
  refine List.pairwise_map.mpr ?_
  refine (List.pairwise_map.mp hwell.keys).imp_of_mem ?_
  intro first second hfirst hsecond hkeys hnames
  have hsame := hwell.normalized first hfirst
  rw [hnames, hwell.normalized second hsecond] at hsame
  exact hkeys (Except.ok.inj hsame).symm

theorem axisCommandTopics_append
    (descriptors : List DdsTopicDescriptor)
    (descriptor : DdsTopicDescriptor) :
    axisCommandTopics (descriptors ++ [descriptor]) =
      axisCommandTopics descriptors ++
        if descriptor.kind = .command ∧ descriptor.deviceKind = .cia402 then
          [descriptor]
        else [] := by
  unfold axisCommandTopics
  rw [List.filter_append, List.filter_singleton]
  simp

theorem names_append
    {descriptors : List DdsTopicDescriptor} {descriptor : DdsTopicDescriptor}
    (hnames : (descriptors.map DdsTopicDescriptor.topicName).Nodup)
    (hfresh : ∀ other ∈ descriptors,
      other.topicName ≠ descriptor.topicName) :
    ((descriptors ++ [descriptor]).map
      DdsTopicDescriptor.topicName).Nodup := by
  rw [List.map_append, List.map_singleton]
  refine List.nodup_append.mpr ⟨hnames, List.nodup_singleton _, ?_⟩
  intro name hname other hother
  obtain ⟨listed, hlisted, rfl⟩ := List.mem_map.mp hname
  rw [List.mem_singleton.mp hother]
  exact hfresh listed hlisted

theorem WellListed.append
    {kind : DdsTopicKind} {registry next : TopicRegistry}
    {device : DeviceConfig} {descriptor : DdsTopicDescriptor}
    (hwell : WellListed registry)
    (happends : AppendsDevice kind registry next device descriptor) :
    WellListed next := by
  have hnames : (next.descriptors.map DdsTopicDescriptor.topicName).Nodup := by
    rw [happends.descriptors]
    exact names_append hwell.names happends.fresh
  have hkind := happends.topicKind
  by_cases hcommand : kind = .command ∧ descriptor.deviceKind = .cia402
  · obtain ⟨normalized, hnormalized, hgroups⟩ := happends.entered hcommand
    have htopics : axisCommandTopics next.descriptors =
        axisCommandTopics registry.descriptors ++ [descriptor] := by
      rw [happends.descriptors, axisCommandTopics_append, if_pos]
      exact ⟨hkind.trans hcommand.1, hcommand.2⟩
    rcases hgroups with ⟨hsame, hlisted⟩ | ⟨hperm, hfresh⟩
    · refine ⟨?_, ?_, ?_, hnames⟩
      · rw [hsame]
        exact hwell.normalized
      · rw [hsame]
        exact hwell.keys
      · intro group
        rw [hsame, htopics, List.map_append, List.mem_append,
          List.map_singleton, List.mem_singleton, ← hwell.listed group]
        constructor
        · exact Or.inl
        · rintro (hold | rfl)
          · exact hold
          · exact List.mem_map.mpr ⟨_, hlisted, rfl⟩
    · refine ⟨?_, ?_, ?_, hnames⟩
      · intro entry hentry
        rcases List.mem_cons.mp (hperm.mem_iff.mp hentry) with rfl | hold
        · exact hnormalized
        · exact hwell.normalized entry hold
      · rw [(hperm.map Prod.fst).nodup_iff]
        exact List.nodup_cons.mpr ⟨hfresh, hwell.keys⟩
      · intro group
        rw [(hperm.map Prod.snd).mem_iff, htopics, List.map_append,
          List.mem_append, List.map_singleton, List.mem_singleton,
          ← hwell.listed group, List.map_cons, List.mem_cons]
        exact or_comm
  · have hsame := happends.unchanged hcommand
    have htopics : axisCommandTopics next.descriptors =
        axisCommandTopics registry.descriptors := by
      rw [happends.descriptors, axisCommandTopics_append, if_neg,
        List.append_nil]
      rwa [hkind]
    refine ⟨?_, ?_, ?_, hnames⟩
    · rw [hsame]
      exact hwell.normalized
    · rw [hsame]
      exact hwell.keys
    · rw [hsame, htopics]
      exact hwell.listed

theorem commitTopics_append
    {descriptors : List DdsTopicDescriptor} {descriptor : DdsTopicDescriptor} :
    commitTopics (descriptors ++ [descriptor]) =
      commitTopics descriptors ++
        if descriptor.kind = .commit then [descriptor] else [] := by
  unfold commitTopics
  rw [List.filter_append, List.filter_singleton]
  simp

/-- The safety groups of the axes among the devices, in order. -/
def safetyGroups (devices : List DeviceConfig) : List (Option String) :=
  (devices.filter (·.type = "cia402")).map (·.args.lookup "safety_group")

theorem appendDevices_ok
    {kind : DdsTopicKind} {direction suffix robotId normalizedRobotId : String}
    {registry next : TopicRegistry} {devices : List DeviceConfig}
    (hkind : kind ≠ .commit) (hwell : WellListed registry)
    (hok : registry.appendDevices kind direction suffix robotId
      normalizedRobotId devices = .ok next) :
    WellListed next ∧
      commitTopics next.descriptors = commitTopics registry.descriptors ∧
      (axisCommandTopics next.descriptors).map
          (fun descriptor => some descriptor.executionGroup) =
        (axisCommandTopics registry.descriptors).map
            (fun descriptor => some descriptor.executionGroup) ++
          if kind = .command then safetyGroups devices else [] := by
  induction devices generalizing registry with
  | nil =>
      cases hok
      exact ⟨hwell, rfl, by simp [safetyGroups]⟩
  | cons device rest ih =>
      unfold appendDevices at hok
      obtain ⟨middle, hfirst, hok⟩ := exists_of_bind_eq_ok hok
      obtain ⟨descriptor, happends⟩ := appendDevice_ok hfirst
      obtain ⟨hnext, hcommits, htopics⟩ := ih (hwell.append happends) hok
      refine ⟨hnext, ?_, ?_⟩
      · rw [hcommits, happends.descriptors, commitTopics_append, if_neg,
          List.append_nil]
        rwa [happends.topicKind]
      · rw [htopics, happends.descriptors, axisCommandTopics_append,
          List.map_append, List.append_assoc, happends.topicKind]
        congr 1
        by_cases hcommand : kind = .command
        · by_cases haxis : device.type = "cia402"
          · have hdevice := happends.axis.mpr haxis
            have hgroup := happends.group hdevice
            simp [hcommand, haxis, hdevice, safetyGroups, hgroup]
          · have hdevice := mt happends.axis.mp haxis
            simp [hcommand, haxis, hdevice, safetyGroups]
        · simp [hcommand]

theorem appendCommits_ok
    {robotId normalizedRobotId : String} {registry next : TopicRegistry}
    {groups : List (String × String)}
    (hnames : (registry.descriptors.map DdsTopicDescriptor.topicName).Nodup)
    (hok : registry.appendCommits robotId normalizedRobotId groups =
      .ok next) :
    (next.descriptors.map DdsTopicDescriptor.topicName).Nodup ∧
      axisCommandTopics next.descriptors =
        axisCommandTopics registry.descriptors ∧
      (commitTopics next.descriptors).map DdsTopicDescriptor.executionGroup =
        (commitTopics registry.descriptors).map
            DdsTopicDescriptor.executionGroup ++
          groups.map Prod.snd := by
  induction groups generalizing registry with
  | nil =>
      cases hok
      exact ⟨hnames, rfl, by simp⟩
  | cons entry rest ih =>
      unfold appendCommits at hok
      obtain ⟨middle, hfirst, hok⟩ := exists_of_bind_eq_ok hok
      obtain ⟨rfl, hfresh⟩ := appendDescriptor_ok hfirst
      obtain ⟨hnext, htopics, hcommits⟩ :=
        ih (names_append hnames hfresh) hok
      refine ⟨hnext, ?_, ?_⟩
      · rw [htopics, axisCommandTopics_append, if_neg (by simp),
          List.append_nil]
      · rw [hcommits, commitTopics_append, if_pos rfl]
        simp

end TopicRegistry

/-- What host and daemon rely on in a registry. -/
structure RegistryTables (actuators : List DeviceConfig)
    (descriptors : List DdsTopicDescriptor) : Prop where
  names : (descriptors.map DdsTopicDescriptor.topicName).Nodup
  commands : (axisCommandTopics descriptors).map
      (fun descriptor => some descriptor.executionGroup) =
    safetyGroups actuators
  commitsDistinct : ((commitTopics descriptors).map
    DdsTopicDescriptor.executionGroup).Nodup
  commits : ∀ group, group ∈ (commitTopics descriptors).map
      DdsTopicDescriptor.executionGroup ↔
    group ∈ (axisCommandTopics descriptors).map
      DdsTopicDescriptor.executionGroup

theorem buildDdsTopicRegistry_ok
    {sensors actuators : List DeviceConfig} {robotId : String}
    {descriptors : List DdsTopicDescriptor}
    (hok : buildDdsTopicRegistry sensors actuators robotId =
      .ok descriptors) :
    RegistryTables actuators descriptors := by
  unfold buildDdsTopicRegistry at hok
  obtain ⟨normalizedRobotId, _, hok⟩ := exists_of_bind_eq_ok hok
  obtain ⟨states, hstates, hok⟩ := exists_of_bind_eq_ok hok
  obtain ⟨commands, hcommands, hok⟩ := exists_of_bind_eq_ok hok
  obtain ⟨commits, hcommits, hok⟩ := exists_of_bind_eq_ok hok
  obtain ⟨registry, hregistry, hok⟩ := exists_of_bind_eq_ok hok
  cases hok
  have hempty : WellListed TopicRegistry.empty :=
    ⟨by simp [TopicRegistry.empty], List.nodup_nil,
      by simp [TopicRegistry.empty, axisCommandTopics], List.nodup_nil⟩
  obtain ⟨hstatesWell, hstatesCommits, hstatesTopics⟩ :=
    appendDevices_ok (by decide) hempty hstates
  obtain ⟨hcommandsWell, hcommandsCommits, hcommandsTopics⟩ :=
    appendDevices_ok (by decide) hstatesWell hcommands
  obtain ⟨hcommitsNames, hcommitsTopics, hcommitsGroups⟩ :=
    appendCommits_ok hcommandsWell.names hcommits
  obtain ⟨rfl, hfresh⟩ := appendDescriptor_ok hregistry
  refine ⟨names_append hcommitsNames hfresh, ?_, ?_, ?_⟩
  · dsimp only
    rw [axisCommandTopics_append, if_neg (by simp), List.append_nil,
      hcommitsTopics, hcommandsTopics, hstatesTopics]
    rfl
  · dsimp only
    rw [commitTopics_append, if_neg (by simp), List.append_nil,
      hcommitsGroups, hcommandsCommits, hstatesCommits]
    exact hcommandsWell.groups_nodup
  · dsimp only
    rw [commitTopics_append, if_neg (by simp), List.append_nil,
      hcommitsGroups, hcommandsCommits, hstatesCommits,
      axisCommandTopics_append, if_neg (by simp), List.append_nil,
      hcommitsTopics]
    exact hcommandsWell.listed

end PolicyRuntime
