import PolicyRuntime.Sequences
import PolicyRuntime.TopicRegistry

/-!
# Names of the topics

A topic name joins the normalized names of the robot and of a device with the
separator these names may contain themselves.  Within one registry collisions
are refused.  Between the registries of two robots a name is shared exactly
when the name of one robot runs on into the device names of the other.
-/

namespace PolicyRuntime

/-! ## Characters -/

def isTopicCharacter (character : Char) : Bool :=
  ('a' ≤ character && character ≤ 'z') ||
    ('0' ≤ character && character ≤ '9') || character = '_'

/-- A text of lower-case letters, digits and underscores. -/
def TopicText (text : String) : Prop :=
  ∀ character ∈ text.toList, isTopicCharacter character = true

theorem isIdentifierCharacter_lt {character : Char}
    (h : isIdentifierCharacter character = true) : character.toNat < 128 := by
  simp only [isIdentifierCharacter, Bool.or_eq_true, Bool.and_eq_true,
    decide_eq_true_eq, Char.le_def, UInt32.le_iff_toNat_le] at h
  have hvalue : character.toNat = character.val.toNat := rfl
  have hz : 'z'.val.toNat = 122 := rfl
  have hZ : 'Z'.val.toNat = 90 := rfl
  have hnine : '9'.val.toNat = 57 := rfl
  omega

theorem isTopicCharacter_toLower {character : Char}
    (h : isIdentifierCharacter character = true) :
    isTopicCharacter character.toLower = true := by
  have hall : ∀ code < 128,
      isIdentifierCharacter (Char.ofNat code) = true →
        isTopicCharacter (Char.ofNat code).toLower = true := by
    decide +kernel
  have hcode := hall character.toNat (isIdentifierCharacter_lt h)
  rw [Char.ofNat_toNat] at hcode
  exact hcode h

theorem normalizeLoop_topicCharacters {text normalized : List Char}
    (hnormalized : ∀ c ∈ normalized, isTopicCharacter c = true)
    (separatorPending : Bool) :
    ∀ c ∈ normalizeLoop text normalized separatorPending,
      isTopicCharacter c = true := by
  induction text generalizing normalized separatorPending with
  | nil => exact hnormalized
  | cons character rest ih =>
      unfold normalizeLoop
      by_cases hidentifier : isIdentifierCharacter character = true
      · rw [if_pos hidentifier]
        apply ih
        intro c hc
        rw [List.mem_append, List.mem_singleton] at hc
        cases hc with
        | inl hmem =>
            split at hmem
            · rw [List.mem_append, List.mem_singleton] at hmem
              cases hmem with
              | inl hmem => exact hnormalized c hmem
              | inr heq =>
                  rw [heq]
                  decide
            · exact hnormalized c hmem
        | inr heq =>
            rw [heq]
            exact isTopicCharacter_toLower hidentifier
      · rw [if_neg hidentifier]
        exact ih hnormalized true

theorem normalizeIdentifier_topicText {value label normalized : String}
    (hok : normalizeIdentifier value label = .ok normalized) :
    TopicText normalized := by
  unfold normalizeIdentifier at hok
  dsimp only at hok
  split at hok
  · cases hok
  · cases hok
    unfold TopicText
    rw [String.toList_ofList]
    exact normalizeLoop_topicCharacters (by simp) false

theorem TopicText.append {left right : String} (hleft : TopicText left)
    (hright : TopicText right) : TopicText (left ++ right) := by
  intro c hc
  rw [String.toList_append, List.mem_append] at hc
  cases hc with
  | inl hmem => exact hleft c hmem
  | inr hmem => exact hright c hmem

theorem topicText_of_all {text : String}
    (h : text.toList.all isTopicCharacter = true) : TopicText text :=
  fun c hc => List.all_eq_true.mp h c hc

/-! ## The topics of a registry -/

/-- The three kinds of names which carry a device or a group. -/
inductive TopicDirection
  | sensor
  | actuator
  | ethercat
  deriving DecidableEq

namespace TopicDirection

def word : TopicDirection → String
  | .sensor => "sensor"
  | .actuator => "actuator"
  | .ethercat => "ethercat"

def suffix : TopicDirection → String
  | .sensor => "_state"
  | .actuator => "_command"
  | .ethercat => "_command_commit"

/-- `robot` and `device` are normalized. -/
def topicName (direction : TopicDirection) (robot device : String) : String :=
  "robot_io_" ++ robot ++ "_" ++ direction.word ++ "_" ++ device ++
    direction.suffix

/-- The normalized names in the topics of one direction. -/
def Names (direction : TopicDirection) (sensors actuators : List DeviceConfig)
    (name : String) : Prop :=
  match direction with
  | .sensor => ∃ sensor ∈ sensors,
      normalizeIdentifier sensor.name "device_id" = .ok name
  | .actuator => ∃ actuator ∈ actuators,
      normalizeIdentifier actuator.name "device_id" = .ok name
  | .ethercat => ∃ actuator ∈ actuators, actuator.type = "cia402" ∧
      ∃ group, actuator.args.lookup "safety_group" = some group ∧
        normalizeIdentifier group "cia402 safety_group" = .ok name

theorem topicText (direction : TopicDirection) {robot device : String}
    (hrobot : TopicText robot) (hdevice : TopicText device) :
    TopicText (direction.topicName robot device) := by
  have hline : TopicText "_" := topicText_of_all (by decide)
  have hhead : TopicText "robot_io_" := topicText_of_all (by decide)
  have hword : TopicText direction.word := by
    cases direction <;> exact topicText_of_all (by decide)
  have hsuffix : TopicText direction.suffix := by
    cases direction <;> exact topicText_of_all (by decide)
  unfold topicName
  exact (((((hhead.append hrobot).append hline).append hword).append
    hline).append hdevice).append hsuffix

end TopicDirection

def healthTopicName (robot : String) : String :=
  "robot_io_" ++ robot ++ "_health"

/-- The topic of a device. -/
structure DeviceTopic (kind : DdsTopicKind) (direction : TopicDirection)
    (robot : String) (device : DeviceConfig)
    (descriptor : DdsTopicDescriptor) : Prop where
  topicKind : descriptor.kind = kind
  deviceId : descriptor.deviceId = device.name
  deviceKind : deviceKindFor device = .ok descriptor.deviceKind
  topicName : ∃ name, normalizeIdentifier device.name "device_id" = .ok name ∧
    descriptor.topicName = direction.topicName robot name

/-- The topic of an execution group. -/
structure GroupTopic (robot : String) (entry : String × String)
    (descriptor : DdsTopicDescriptor) : Prop where
  topicKind : descriptor.kind = .commit
  group : descriptor.executionGroup = entry.2
  topicName : descriptor.topicName =
    TopicDirection.ethercat.topicName robot entry.1

namespace TopicRegistry

theorem enterGroup_descriptors {registry entered : TopicRegistry}
    {kind : DdsTopicKind} {deviceKind : DdsDeviceKind} {device : DeviceConfig}
    {group : String}
    (hok : registry.enterGroup kind deviceKind device = .ok (entered, group)) :
    entered.descriptors = registry.descriptors := by
  unfold enterGroup at hok
  by_cases hcia402 : deviceKind = .cia402
  · rw [if_pos hcia402] at hok
    obtain ⟨⟨normalized, name⟩, -, hok⟩ := exists_of_bind_eq_ok hok
    by_cases hcommand : kind = .command
    · simp only [hcommand, if_true] at hok
      obtain ⟨added, hadded, hok⟩ := exists_of_bind_eq_ok hok
      cases hok
      exact (addEthercatGroup_ok hadded).1
    · simp only [hcommand, if_false] at hok
      cases hok
      rfl
  · rw [if_neg hcia402] at hok
    cases hok
    rfl

theorem appendDevice_topic {kind : DdsTopicKind} {direction : TopicDirection}
    {suffix robotId robot : String} {registry next : TopicRegistry}
    {device : DeviceConfig} (hsuffix : direction.suffix = "_" ++ suffix)
    (hok : registry.appendDevice kind direction.word suffix robotId robot
      device = .ok next) :
    ∃ descriptor, next.descriptors = registry.descriptors ++ [descriptor] ∧
      DeviceTopic kind direction robot device descriptor := by
  unfold appendDevice at hok
  obtain ⟨deviceKind, hkind, hok⟩ := exists_of_bind_eq_ok hok
  obtain ⟨name, hname, hok⟩ := exists_of_bind_eq_ok hok
  obtain ⟨⟨entered, executionGroup⟩, henter, hok⟩ := exists_of_bind_eq_ok hok
  obtain ⟨rfl, -⟩ := appendDescriptor_ok hok
  refine ⟨_, by rw [enterGroup_descriptors henter], rfl, rfl, hkind, name,
    hname, ?_⟩
  unfold TopicDirection.topicName
  rw [hsuffix]
  simp only [String.append_assoc]

theorem appendDevices_topics {kind : DdsTopicKind}
    {direction : TopicDirection} {suffix robotId robot : String}
    {registry next : TopicRegistry} {devices : List DeviceConfig}
    (hsuffix : direction.suffix = "_" ++ suffix)
    (hok : registry.appendDevices kind direction.word suffix robotId robot
      devices = .ok next) :
    ∃ topics, next.descriptors = registry.descriptors ++ topics ∧
      List.Forall₂ (DeviceTopic kind direction robot) devices topics := by
  induction devices generalizing registry with
  | nil =>
      cases hok
      exact ⟨[], by simp, List.Forall₂.nil⟩
  | cons device rest ih =>
      unfold appendDevices at hok
      obtain ⟨middle, hfirst, hok⟩ := exists_of_bind_eq_ok hok
      obtain ⟨descriptor, hmiddle, htopic⟩ :=
        appendDevice_topic hsuffix hfirst
      obtain ⟨topics, hnext, htopics⟩ := ih hok
      refine ⟨descriptor :: topics, ?_, htopics.cons htopic⟩
      rw [hnext, hmiddle, List.append_assoc, List.singleton_append]

theorem appendCommits_topics {robotId robot : String}
    {registry next : TopicRegistry} {groups : List (String × String)}
    (hok : registry.appendCommits robotId robot groups = .ok next) :
    ∃ topics, next.descriptors = registry.descriptors ++ topics ∧
      List.Forall₂ (GroupTopic robot) groups topics := by
  induction groups generalizing registry with
  | nil =>
      cases hok
      exact ⟨[], by simp, List.Forall₂.nil⟩
  | cons entry rest ih =>
      unfold appendCommits at hok
      obtain ⟨middle, hfirst, hok⟩ := exists_of_bind_eq_ok hok
      obtain ⟨rfl, -⟩ := appendDescriptor_ok hfirst
      obtain ⟨topics, hnext, htopics⟩ := ih hok
      dsimp only at hnext
      rw [List.append_assoc, List.singleton_append] at hnext
      refine ⟨_, hnext, htopics.cons ⟨rfl, rfl, ?_⟩⟩
      have hword : "_ethercat_" = "_" ++ TopicDirection.ethercat.word ++
          "_" := by decide
      unfold TopicDirection.topicName
      dsimp only
      rw [hword]
      simp only [String.append_assoc]
      rfl

end TopicRegistry

open TopicRegistry

/-- The parts of a registry, in order. -/
structure RegistryParts (sensors actuators : List DeviceConfig)
    (robot : String) (descriptors : List DdsTopicDescriptor) where
  states : List DdsTopicDescriptor
  commands : List DdsTopicDescriptor
  groups : List (String × String)
  commits : List DdsTopicDescriptor
  health : DdsTopicDescriptor
  whole : descriptors = states ++ commands ++ commits ++ [health]
  sensorTopics : List.Forall₂ (DeviceTopic .state .sensor robot) sensors states
  actuatorTopics : List.Forall₂ (DeviceTopic .command .actuator robot)
    actuators commands
  groupTopics : List.Forall₂ (GroupTopic robot) groups commits
  healthKind : health.kind = .health
  healthName : health.topicName = healthTopicName robot
  normalized : ∀ entry ∈ groups,
    normalizeIdentifier entry.2 "cia402 safety_group" = .ok entry.1
  groupNames : (groups.map Prod.snd).Nodup
  listed : ∀ group, group ∈ groups.map Prod.snd ↔
    some group ∈ safetyGroups actuators

theorem exists_registryParts {sensors actuators : List DeviceConfig}
    {robotId : String} {descriptors : List DdsTopicDescriptor}
    (hok : buildDdsTopicRegistry sensors actuators robotId =
      .ok descriptors) :
    ∃ robot, normalizeIdentifier robotId "robot_id" = .ok robot ∧
      Nonempty (RegistryParts sensors actuators robot descriptors) := by
  unfold buildDdsTopicRegistry at hok
  obtain ⟨robot, hrobot, hok⟩ := exists_of_bind_eq_ok hok
  obtain ⟨states, hstates, hok⟩ := exists_of_bind_eq_ok hok
  obtain ⟨commands, hcommands, hok⟩ := exists_of_bind_eq_ok hok
  obtain ⟨commits, hcommits, hok⟩ := exists_of_bind_eq_ok hok
  obtain ⟨registry, hregistry, hok⟩ := exists_of_bind_eq_ok hok
  cases hok
  have hempty : WellListed TopicRegistry.empty :=
    ⟨by simp [TopicRegistry.empty], List.nodup_nil,
      by simp [TopicRegistry.empty, axisCommandTopics], List.nodup_nil⟩
  obtain ⟨hstatesWell, -, hstatesGroups⟩ :=
    appendDevices_ok (by decide) hempty hstates
  obtain ⟨hwell, -, hgroups⟩ :=
    appendDevices_ok (by decide) hstatesWell hcommands
  have hstate : TopicDirection.sensor.suffix = "_" ++ "state" := by decide
  have hcommand : TopicDirection.actuator.suffix = "_" ++ "command" := by
    decide
  obtain ⟨sensorTopics, hsensorPart, hsensors⟩ :=
    appendDevices_topics hstate hstates
  obtain ⟨actuatorTopics, hactuatorPart, hactuators⟩ :=
    appendDevices_topics hcommand hcommands
  obtain ⟨groupTopics, hgroupPart, hgroupTopics⟩ :=
    appendCommits_topics hcommits
  obtain ⟨rfl, -⟩ := appendDescriptor_ok hregistry
  have hlisted : ∀ group, group ∈ commands.ethercatGroups.map Prod.snd ↔
      some group ∈ safetyGroups actuators := by
    intro group
    have hsame : (axisCommandTopics commands.descriptors).map
        (fun descriptor => some descriptor.executionGroup) =
        safetyGroups actuators := by
      rw [hgroups, hstatesGroups]
      rfl
    rw [hwell.listed group, ← hsame]
    simp
  rw [hactuatorPart, hsensorPart] at hgroupPart
  rw [hgroupPart]
  exact ⟨robot, hrobot, ⟨sensorTopics, actuatorTopics,
    commands.ethercatGroups, groupTopics, _, rfl, hsensors, hactuators,
    hgroupTopics, rfl, rfl, hwell.normalized, hwell.groups_nodup, hlisted⟩⟩

/-- What one robot may expect of its topics. -/
structure WellNamed (sensors actuators : List DeviceConfig)
    (descriptors : List DdsTopicDescriptor) : Prop where
  distinct : (descriptors.map DdsTopicDescriptor.topicName).Nodup
  characters : ∀ descriptor ∈ descriptors, TopicText descriptor.topicName
  states : (descriptors.filter (·.kind = .state)).map
    DdsTopicDescriptor.deviceId = sensors.map DeviceConfig.name
  commands : (descriptors.filter (·.kind = .command)).map
    DdsTopicDescriptor.deviceId = actuators.map DeviceConfig.name
  commitsDistinct : ((commitTopics descriptors).map
    DdsTopicDescriptor.executionGroup).Nodup
  commits : ∀ group, group ∈ (commitTopics descriptors).map
    DdsTopicDescriptor.executionGroup ↔ some group ∈ safetyGroups actuators
  health : (descriptors.filter (·.kind = .health)).length = 1

section Parts

variable {sensors actuators : List DeviceConfig} {robot : String}
variable {descriptors : List DdsTopicDescriptor}

theorem kind_of_deviceTopics {kind : DdsTopicKind}
    {direction : TopicDirection} {devices : List DeviceConfig}
    {topics : List DdsTopicDescriptor}
    (h : List.Forall₂ (DeviceTopic kind direction robot) devices topics) :
    ∀ topic ∈ topics, topic.kind = kind := by
  intro topic hmem
  obtain ⟨device, -, htopic⟩ := exists_left_of_forall₂ h hmem
  exact htopic.topicKind

theorem deviceIds_of_deviceTopics {kind : DdsTopicKind}
    {direction : TopicDirection} {devices : List DeviceConfig}
    {topics : List DdsTopicDescriptor}
    (h : List.Forall₂ (DeviceTopic kind direction robot) devices topics) :
    topics.map DdsTopicDescriptor.deviceId =
      devices.map DeviceConfig.name := by
  induction h with
  | nil => rfl
  | cons htopic _ ih => rw [List.map_cons, List.map_cons, ih, htopic.deviceId]

theorem filter_kind_of_all {topics : List DdsTopicDescriptor}
    {kind wanted : DdsTopicKind} (h : ∀ topic ∈ topics, topic.kind = kind) :
    topics.filter (·.kind = wanted) =
      if kind = wanted then topics else [] := by
  by_cases hkind : kind = wanted
  · rw [if_pos hkind, List.filter_eq_self]
    intro topic hmem
    simp [h topic hmem, hkind]
  · rw [if_neg hkind, List.filter_eq_nil_iff]
    intro topic hmem
    simp [h topic hmem, hkind]

namespace RegistryParts

variable (parts : RegistryParts sensors actuators robot descriptors)
include parts

theorem commits_kind : ∀ topic ∈ parts.commits, topic.kind = .commit := by
  intro topic hmem
  obtain ⟨entry, -, htopic⟩ := exists_left_of_forall₂ parts.groupTopics hmem
  exact htopic.topicKind

theorem filter_kind (wanted : DdsTopicKind) :
    descriptors.filter (·.kind = wanted) =
      (if .state = wanted then parts.states else []) ++
        (if .command = wanted then parts.commands else []) ++
        (if .commit = wanted then parts.commits else []) ++
        (if .health = wanted then [parts.health] else []) := by
  have hhealth : ∀ topic ∈ [parts.health], topic.kind = .health := by
    simpa using parts.healthKind
  conv_lhs => rw [parts.whole]
  rw [List.filter_append, List.filter_append, List.filter_append,
    filter_kind_of_all (kind_of_deviceTopics parts.sensorTopics),
    filter_kind_of_all (kind_of_deviceTopics parts.actuatorTopics),
    filter_kind_of_all parts.commits_kind,
    filter_kind_of_all hhealth]

theorem groups_of_commits :
    parts.commits.map DdsTopicDescriptor.executionGroup =
      parts.groups.map Prod.snd := by
  have hgroups := parts.groupTopics
  generalize parts.commits = commits at hgroups
  generalize parts.groups = groups at hgroups
  induction hgroups with
  | nil => rfl
  | cons htopic _ ih => rw [List.map_cons, List.map_cons, ih, htopic.group]

/-- The names which occur in a registry. -/
theorem mem_topicNames_iff (name : String) :
    name ∈ descriptors.map DdsTopicDescriptor.topicName ↔
      (∃ direction device, TopicDirection.Names direction sensors actuators
          device ∧ name = direction.topicName robot device) ∨
        name = healthTopicName robot := by
  conv_lhs => rw [parts.whole]
  simp only [List.map_append, List.mem_append, List.map_singleton,
    List.mem_singleton, parts.healthName]
  constructor
  · rintro (((hmem | hmem) | hmem) | heq)
    · obtain ⟨topic, htopic, rfl⟩ := List.mem_map.mp hmem
      obtain ⟨sensor, hsensor, hdevice⟩ :=
        exists_left_of_forall₂ parts.sensorTopics htopic
      obtain ⟨device, hnormalized, hname⟩ := hdevice.topicName
      exact Or.inl ⟨.sensor, device, ⟨sensor, hsensor, hnormalized⟩, hname⟩
    · obtain ⟨topic, htopic, rfl⟩ := List.mem_map.mp hmem
      obtain ⟨actuator, hactuator, hdevice⟩ :=
        exists_left_of_forall₂ parts.actuatorTopics htopic
      obtain ⟨device, hnormalized, hname⟩ := hdevice.topicName
      exact Or.inl
        ⟨.actuator, device, ⟨actuator, hactuator, hnormalized⟩, hname⟩
    · obtain ⟨topic, htopic, rfl⟩ := List.mem_map.mp hmem
      obtain ⟨entry, hentry, hgroup⟩ :=
        exists_left_of_forall₂ parts.groupTopics htopic
      have hlisted := (parts.listed entry.2).mp (List.mem_map_of_mem hentry)
      obtain ⟨actuator, hactuator, hlookup⟩ := List.mem_map.mp hlisted
      rw [List.mem_filter, decide_eq_true_eq] at hactuator
      exact Or.inl ⟨.ethercat, entry.1, ⟨actuator, hactuator.1, hactuator.2,
        entry.2, hlookup, parts.normalized entry hentry⟩, hgroup.topicName⟩
    · exact Or.inr heq
  · rintro (⟨direction, device, hdevice, rfl⟩ | heq)
    · left
      cases direction with
      | sensor =>
          obtain ⟨sensor, hsensor, hnormalized⟩ := hdevice
          obtain ⟨topic, htopic, hlists⟩ :=
            exists_right_of_forall₂ parts.sensorTopics hsensor
          obtain ⟨other, hother, hname⟩ := hlists.topicName
          rw [hnormalized] at hother
          cases hother
          exact Or.inl (Or.inl (List.mem_map.mpr ⟨topic, htopic, hname⟩))
      | actuator =>
          obtain ⟨actuator, hactuator, hnormalized⟩ := hdevice
          obtain ⟨topic, htopic, hlists⟩ :=
            exists_right_of_forall₂ parts.actuatorTopics hactuator
          obtain ⟨other, hother, hname⟩ := hlists.topicName
          rw [hnormalized] at hother
          cases hother
          exact Or.inl (Or.inr (List.mem_map.mpr ⟨topic, htopic, hname⟩))
      | ethercat =>
          obtain ⟨actuator, hactuator, htype, group, hlookup, hnormalized⟩ :=
            hdevice
          have hsafety : some group ∈ safetyGroups actuators := by
            refine List.mem_map.mpr ⟨actuator, ?_, hlookup⟩
            simp [hactuator, htype]
          obtain ⟨entry, hentry, hgroup⟩ :=
            List.mem_map.mp ((parts.listed group).mpr hsafety)
          obtain ⟨topic, htopic, hlists⟩ :=
            exists_right_of_forall₂ parts.groupTopics hentry
          have hentryName := parts.normalized entry hentry
          rw [hgroup, hnormalized] at hentryName
          cases hentryName
          exact Or.inr (List.mem_map.mpr ⟨topic, htopic, hlists.topicName⟩)
    · exact Or.inr heq

end RegistryParts

theorem TopicDirection.Names.topicText {direction : TopicDirection}
    {device : String} (h : direction.Names sensors actuators device) :
    TopicText device := by
  cases direction with
  | sensor =>
      obtain ⟨sensor, -, hnormalized⟩ := h
      exact normalizeIdentifier_topicText hnormalized
  | actuator =>
      obtain ⟨actuator, -, hnormalized⟩ := h
      exact normalizeIdentifier_topicText hnormalized
  | ethercat =>
      obtain ⟨actuator, -, -, group, -, hnormalized⟩ := h
      exact normalizeIdentifier_topicText hnormalized

theorem RegistryParts.wellNamed
    (parts : RegistryParts sensors actuators robot descriptors)
    (hrobot : TopicText robot)
    (hdistinct : (descriptors.map DdsTopicDescriptor.topicName).Nodup) :
    WellNamed sensors actuators descriptors where
  distinct := hdistinct
  characters := by
    intro descriptor hmem
    obtain ⟨direction, device, hdevice, hname⟩ | hname :=
      (parts.mem_topicNames_iff descriptor.topicName).mp
        (List.mem_map_of_mem hmem)
    · rw [hname]
      exact direction.topicText hrobot hdevice.topicText
    · rw [hname]
      exact ((topicText_of_all (by decide)).append hrobot).append
        (topicText_of_all (by decide))
  states := by
    rw [parts.filter_kind]
    simpa using deviceIds_of_deviceTopics parts.sensorTopics
  commands := by
    rw [parts.filter_kind]
    simpa using deviceIds_of_deviceTopics parts.actuatorTopics
  commitsDistinct := by
    unfold commitTopics
    rw [parts.filter_kind]
    simpa [parts.groups_of_commits] using parts.groupNames
  commits := by
    intro group
    unfold commitTopics
    rw [parts.filter_kind, ← parts.listed group, ← parts.groups_of_commits]
    simp
  health := by
    rw [parts.filter_kind]
    simp

end Parts

/-! ## Two robots -/

/-- A word between separators is found again further on only behind a whole
copy of it. -/
theorem append_separated {α : Type*} {separator : α} {word extra left right :
    List α} (hword : separator ∉ word) (hextra : extra ≠ [])
    (h : separator :: word ++ separator :: left =
      extra ++ (separator :: word ++ separator :: right)) :
    ∃ rest, extra = separator :: word ++ rest ∧
      separator :: left = rest ++ (separator :: word ++ separator :: right) := by
  cases extra with
  | nil => exact absurd rfl hextra
  | cons head tail =>
      simp only [List.cons_append, List.cons.injEq] at h
      obtain ⟨rfl, h⟩ := h
      obtain ⟨rest, htail, hleft⟩ | ⟨rest, htail, hright⟩ :=
        List.append_eq_append_iff.mp h
      · exact ⟨rest, by rw [htail, List.cons_append], by simpa using hleft⟩
      · cases rest with
        | nil =>
            rw [List.append_nil] at htail
            rw [List.nil_append] at hright
            exact ⟨[], by rw [List.append_nil, htail], by simpa using
              hright.symm⟩
        | cons first rest =>
            simp only [List.cons_append, List.cons.injEq] at hright
            rw [htail, ← hright.1] at hword
            exact absurd (by simp) hword

namespace TopicDirection

/-- The name of the second robot runs on into the device name of the first. -/
def Overruns (direction : TopicDirection) (robot device other far : String) :
    Prop :=
  ∃ rest : String, other = robot ++ "_" ++ direction.word ++ rest ∧
    "_" ++ device = rest ++ "_" ++ direction.word ++ "_" ++ far

theorem topicName_of_overruns {direction : TopicDirection}
    {robot device other far : String}
    (h : direction.Overruns robot device other far) :
    direction.topicName robot device = direction.topicName other far := by
  obtain ⟨rest, hother, hdevice⟩ := h
  have htail : "_" ++ (device ++ direction.suffix) =
      rest ++ "_" ++ direction.word ++ "_" ++ far ++ direction.suffix := by
    rw [← String.append_assoc, hdevice]
  unfold topicName
  rw [hother]
  simp only [String.append_assoc] at htail ⊢
  rw [htail]

theorem word_toList (direction : TopicDirection) :
    '_' ∉ direction.word.toList := by
  cases direction <;> decide

/-- A name without its first and last part. -/
theorem topicName_toList (direction : TopicDirection)
    (robot device : String) :
    (direction.topicName robot device).toList =
      "robot_io_".toList ++ ((robot.toList ++
        ('_' :: direction.word.toList ++ '_' :: device.toList)) ++
          direction.suffix.toList) := by
  have hline : "_".toList = ['_'] := rfl
  unfold topicName
  simp only [String.toList_append, hline, List.append_assoc,
    List.cons_append, List.nil_append]

theorem overruns_of_append {direction : TopicDirection}
    {robot device other far : String} {extra : List Char}
    (hother : other.toList = robot.toList ++ extra) (hextra : extra ≠ [])
    (h : direction.topicName robot device = direction.topicName other far) :
    direction.Overruns robot device other far := by
  have hlists := congrArg String.toList h
  rw [topicName_toList, topicName_toList, List.append_cancel_left_eq,
    List.append_cancel_right_eq, hother, List.append_assoc,
    List.append_cancel_left_eq] at hlists
  obtain ⟨rest, hrest, hdevice⟩ :=
    append_separated direction.word_toList hextra hlists
  have hline : "_".toList = ['_'] := rfl
  refine ⟨String.ofList rest, String.ext ?_, String.ext ?_⟩
  · rw [hother, hrest]
    simp only [String.toList_append, String.toList_ofList, hline,
      List.append_assoc, List.cons_append, List.nil_append]
  · simp only [String.toList_append, String.toList_ofList, hline,
      List.append_assoc, List.cons_append, List.nil_append]
    rw [hdevice]
    simp only [List.cons_append]

theorem topicName_eq_iff {direction : TopicDirection}
    {robot device other far : String} (hne : robot ≠ other) :
    direction.topicName robot device = direction.topicName other far ↔
      direction.Overruns robot device other far ∨
        direction.Overruns other far robot device := by
  constructor
  · intro h
    have hlists := congrArg String.toList h
    rw [topicName_toList, topicName_toList, List.append_cancel_left_eq,
      List.append_cancel_right_eq] at hlists
    obtain ⟨extra, hother, -⟩ | ⟨extra, hrobot, -⟩ :=
      List.append_eq_append_iff.mp hlists
    · left
      refine overruns_of_append hother ?_ h
      rintro rfl
      rw [List.append_nil] at hother
      exact hne (String.ext hother.symm)
    · right
      refine overruns_of_append hrobot ?_ h.symm
      rintro rfl
      rw [List.append_nil] at hrobot
      exact hne (String.ext hrobot)
  · rintro (h | h)
    · exact topicName_of_overruns h
    · exact (topicName_of_overruns h).symm

/-- The last character tells the directions apart. -/
theorem topicName_getLast (direction : TopicDirection)
    (robot device : String) :
    (direction.topicName robot device).toList.getLast? =
      direction.suffix.toList.getLast? := by
  have hlast : direction.suffix.toList.getLast?.isSome := by
    cases direction <;> decide
  obtain ⟨last, hlast⟩ := Option.isSome_iff_exists.mp hlast
  rw [topicName_toList, List.getLast?_append, List.getLast?_append, hlast]
  rfl

theorem topicName_direction {direction way : TopicDirection}
    {robot device other far : String}
    (h : direction.topicName robot device = way.topicName other far) :
    direction = way := by
  have hlast := congrArg (fun text : String => text.toList.getLast?) h
  simp only [topicName_getLast] at hlast
  cases direction <;> cases way <;> first | rfl | exact absurd hlast (by decide)

theorem topicName_ne_health (direction : TopicDirection)
    (robot device other : String) :
    direction.topicName robot device ≠ healthTopicName other := by
  intro h
  have hlast := congrArg (fun text : String => text.toList.getLast?) h
  simp only [topicName_getLast] at hlast
  unfold healthTopicName at hlast
  rw [String.toList_append, List.getLast?_append] at hlast
  have hhealth : "_health".toList.getLast? = some 'h' := by decide
  rw [hhealth, Option.some_or] at hlast
  cases direction <;> exact absurd hlast (by decide)

end TopicDirection

theorem healthTopicName_inj {robot other : String}
    (h : healthTopicName robot = healthTopicName other) : robot = other := by
  unfold healthTopicName at h
  have hlists := congrArg String.toList h
  simp only [String.toList_append, List.append_assoc,
    List.append_cancel_left_eq, List.append_cancel_right_eq] at hlists
  exact String.ext hlists

/-- A device of one robot and a device of the other whose names run on. -/
def RobotsOverlap (sensors actuators otherSensors otherActuators :
    List DeviceConfig) (robot other : String) : Prop :=
  ∃ (direction : TopicDirection) (device far : String),
    direction.Names sensors actuators device ∧
    direction.Names otherSensors otherActuators far ∧
    (direction.Overruns robot device other far ∨
      direction.Overruns other far robot device)

/-- Topics are well named, and two robots share none of them if and only if the
name of neither runs on into the names of the other. -/
theorem topics_isolated_iff {sensors actuators otherSensors otherActuators :
      List DeviceConfig} {robotId otherId robot other : String}
    {descriptors otherDescriptors : List DdsTopicDescriptor}
    (hok : buildDdsTopicRegistry sensors actuators robotId = .ok descriptors)
    (hother : buildDdsTopicRegistry otherSensors otherActuators otherId =
      .ok otherDescriptors)
    (hrobot : normalizeIdentifier robotId "robot_id" = .ok robot)
    (hotherRobot : normalizeIdentifier otherId "robot_id" = .ok other)
    (hne : robot ≠ other) :
    (WellNamed sensors actuators descriptors ∧
      WellNamed otherSensors otherActuators otherDescriptors ∧
      ∀ descriptor ∈ descriptors, ∀ foreign ∈ otherDescriptors,
        descriptor.topicName ≠ foreign.topicName) ↔
      ¬ RobotsOverlap sensors actuators otherSensors otherActuators robot
        other := by
  obtain ⟨name, hname, ⟨parts⟩⟩ := exists_registryParts hok
  rw [hrobot] at hname
  cases hname
  obtain ⟨name, hname, ⟨otherParts⟩⟩ := exists_registryParts hother
  rw [hotherRobot] at hname
  cases hname
  have hwell := parts.wellNamed (normalizeIdentifier_topicText hrobot)
    (buildDdsTopicRegistry_ok hok).names
  have hotherWell := otherParts.wellNamed
    (normalizeIdentifier_topicText hotherRobot)
    (buildDdsTopicRegistry_ok hother).names
  constructor
  · rintro ⟨-, -, hisolated⟩ ⟨direction, device, far, hdevice, hfar, hrun⟩
    have hshared := (TopicDirection.topicName_eq_iff hne).mpr hrun
    have hmem := (parts.mem_topicNames_iff _).mpr
      (Or.inl ⟨direction, device, hdevice, rfl⟩)
    have hforeign := (otherParts.mem_topicNames_iff _).mpr
      (Or.inl ⟨direction, far, hfar, rfl⟩)
    obtain ⟨descriptor, hdescriptor, htopic⟩ := List.mem_map.mp hmem
    obtain ⟨foreign, hforeign, hforeignTopic⟩ := List.mem_map.mp hforeign
    apply hisolated descriptor hdescriptor foreign hforeign
    rw [htopic, hforeignTopic, hshared]
  · intro hapart
    refine ⟨hwell, hotherWell, ?_⟩
    intro descriptor hdescriptor foreign hforeign hshared
    have hmem := (parts.mem_topicNames_iff _).mp
      (List.mem_map_of_mem hdescriptor)
    have hfar := (otherParts.mem_topicNames_iff _).mp
      (List.mem_map_of_mem hforeign)
    rw [hshared] at hmem
    obtain ⟨direction, device, hdevice, hleft⟩ | hleft := hmem
    · obtain ⟨way, far, hfar, hright⟩ | hright := hfar
      · have hsame := hleft.symm.trans hright
        obtain rfl := TopicDirection.topicName_direction hsame
        exact hapart ⟨direction, device, far, hdevice, hfar,
          (TopicDirection.topicName_eq_iff hne).mp hsame⟩
      · exact direction.topicName_ne_health robot device other
          (hleft.symm.trans hright)
    · obtain ⟨way, far, hfar, hright⟩ | hright := hfar
      · exact way.topicName_ne_health other far robot
          (hright.symm.trans hleft)
      · exact hne (healthTopicName_inj (hleft.symm.trans hright))

/-- One servo, as a sensor and as an actuator. -/
def servoDevice (name : String) : DeviceConfig :=
  ⟨name, "st3215", "/dev/ttyUSB0", [("device_id", "1")]⟩

theorem left_right_isolated :
    ∃ descriptors otherDescriptors,
      buildDdsTopicRegistry [servoDevice "elbow_sensor"]
        [servoDevice "elbow"] "Left" = .ok descriptors ∧
      buildDdsTopicRegistry [servoDevice "elbow_sensor"]
        [servoDevice "elbow"] "Right" = .ok otherDescriptors ∧
      ∀ descriptor ∈ descriptors, ∀ foreign ∈ otherDescriptors,
        descriptor.topicName ≠ foreign.topicName := by
  have hleft : ∃ descriptors, buildDdsTopicRegistry
      [servoDevice "elbow_sensor"] [servoDevice "elbow"] "Left" =
        .ok descriptors := ⟨_, rfl⟩
  have hright : ∃ descriptors, buildDdsTopicRegistry
      [servoDevice "elbow_sensor"] [servoDevice "elbow"] "Right" =
        .ok descriptors := ⟨_, rfl⟩
  obtain ⟨descriptors, hdescriptors⟩ := hleft
  obtain ⟨otherDescriptors, hother⟩ := hright
  have hapart : ¬ RobotsOverlap [servoDevice "elbow_sensor"]
      [servoDevice "elbow"] [servoDevice "elbow_sensor"]
      [servoDevice "elbow"] "left" "right" := by
    rintro ⟨direction, device, far, -, -, ⟨rest, hname, -⟩ |
      ⟨rest, hname, -⟩⟩
    · have hlists := congrArg String.toList hname
      simp [String.toList_append] at hlists
    · have hlists := congrArg String.toList hname
      simp [String.toList_append] at hlists
  have hrobot : normalizeIdentifier "Left" "robot_id" = .ok "left" := by
    decide +kernel
  have hotherRobot : normalizeIdentifier "Right" "robot_id" =
      .ok "right" := by decide +kernel
  have hisolated := (topics_isolated_iff hdescriptors hother hrobot
    hotherRobot (by decide)).mpr hapart
  exact ⟨descriptors, otherDescriptors, hdescriptors, hother,
    hisolated.2.2⟩

/-- `robot_io_arm_sensor_left_sensor_elbow_state` belongs to both robots. -/
theorem arms_share_topic :
    ∃ descriptors otherDescriptors,
      buildDdsTopicRegistry [servoDevice "left_sensor_elbow"]
        [servoDevice "drive"] "arm" = .ok descriptors ∧
      buildDdsTopicRegistry [servoDevice "elbow"] [servoDevice "drive"]
        "arm_sensor_left" = .ok otherDescriptors ∧
      normalizeIdentifier "arm" "robot_id" = .ok "arm" ∧
      normalizeIdentifier "arm_sensor_left" "robot_id" =
        .ok "arm_sensor_left" ∧
      ¬ ∀ descriptor ∈ descriptors, ∀ foreign ∈ otherDescriptors,
        descriptor.topicName ≠ foreign.topicName := by
  refine ⟨_, _, rfl, rfl, by decide +kernel, by decide +kernel, ?_⟩
  decide +kernel

end PolicyRuntime
