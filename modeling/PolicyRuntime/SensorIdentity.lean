import PolicyRuntime.SensorNetwork

/-!
# Sensors keep their identity

Devices, state channels and readers of a class are numbered alike, in the
order of its sensors.  So the feedback of a device travels on the topic of its
sensor, the host stores it under the number of the device, and a request finds
it under the name of the sensor only.
-/

namespace PolicyRuntime

open FloatingPoint

variable {D F : Type} [DoubleArithmetic D] [SinglePrecision F]

namespace DdsRobotProfile

variable (profile : DdsRobotProfile D F)

/-- The state channels of a class. -/
def channels (cls : DeviceClass) : List StateChannel :=
  (StateChannels.create profile.descriptors).ofClass cls

theorem channels_eq (cls : DeviceClass) :
    profile.channels cls =
      (cls.topics .state profile.descriptors).map StateChannel.create :=
  StateChannels.ofClass_create profile.descriptors cls

/-- No two channels share a topic. -/
theorem channel_of_topicName {first second : DeviceClass}
    {left right : ℕ} {channel other : StateChannel}
    (hleft : (profile.channels first)[left]? = some channel)
    (hright : (profile.channels second)[right]? = some other)
    (hname : channel.topicName = other.topicName) :
    first = second ∧ left = right := by
  have hnames := (buildDdsTopicRegistry_ok profile.registered).names
  rw [profile.channels_eq, List.getElem?_map,
    Option.map_eq_some_iff] at hleft hright
  obtain ⟨descriptor, hdescriptor, rfl⟩ := hleft
  obtain ⟨listed, hlisted, rfl⟩ := hright
  have hmem := List.mem_filter.mp (List.mem_of_getElem? hdescriptor)
  have hmem' := List.mem_filter.mp (List.mem_of_getElem? hlisted)
  have hsame : descriptor = listed :=
    List.inj_on_of_nodup_map hnames hmem.1 hmem'.1 hname
  subst hsame
  simp only [Bool.and_eq_true, decide_eq_true_eq] at hmem hmem'
  have hclass : first = second :=
    DeviceClass.topic_injective (hmem.2.2.symm.trans hmem'.2.2)
  subst hclass
  refine ⟨rfl, ?_⟩
  have hnodup : (first.topics .state profile.descriptors).Nodup :=
    (List.Nodup.of_map _ hnames).filter _
  have hlt := (List.getElem?_eq_some_iff.mp hdescriptor).1
  exact (List.getElem?_inj hlt hnodup).mp (hdescriptor.trans hlisted.symm)

/-! ## Numbers of queued feedback -/

/-- Entries numbered by themselves leave the identity behind. -/
theorem foldl_update_self {α : Type} (number : α × ℕ → Option ℕ)
    (entries : List (α × ℕ)) (start : ℕ → Option ℕ)
    (h : ∀ entry ∈ entries, number entry = some entry.2) (index : ℕ) :
    entries.foldl (fun indices entry =>
      match number entry with
      | some key => Function.update indices key (some entry.2)
      | none => indices) start index =
      if index ∈ entries.map Prod.snd then some index else start index := by
  induction entries generalizing start with
  | nil => simp
  | cons entry rest ih =>
      rw [List.forall_mem_cons] at h
      rw [List.foldl_cons, ih _ h.2, h.1]
      by_cases hrest : index ∈ rest.map Prod.snd
      · simp [hrest]
      · by_cases hentry : index = entry.2
        · subst hentry
          simp [hrest]
        · simp [hrest, hentry]

theorem findIdx?_key {α κ : Type} [DecidableEq κ] {key : α → κ}
    {items : List α} (hnodup : (items.map key).Nodup) {index : ℕ}
    {item : α} (hitem : items[index]? = some item) :
    items.findIdx? (fun other => key other = key item) = some index := by
  obtain ⟨hlt, hvalue⟩ := List.getElem?_eq_some_iff.mp hitem
  rw [List.findIdx?_eq_some_iff_getElem]
  refine ⟨hlt, by simp [hvalue], ?_⟩
  intro earlier hearlier
  simp only [decide_eq_true_eq]
  intro hsame
  have hkeys : (items.map key)[earlier]? = (items.map key)[index]? := by
    rw [List.getElem?_map, List.getElem?_map, hitem,
      List.getElem?_eq_getElem (hearlier.trans hlt)]
    exact congrArg some hsame
  have hearlierlt : earlier < (items.map key).length := by
    rw [List.length_map]
    exact hearlier.trans hlt
  exact absurd ((List.getElem?_inj hearlierlt hnodup).mp hkeys)
    (Nat.ne_of_lt hearlier)

theorem sensorNames_nodup (cls : DeviceClass) :
    (profile.sensorNames cls).Nodup := by
  have hnames := profile.names
  rw [List.map_append] at hnames
  rw [profile.sensorNames_eq]
  exact (List.Nodup.of_append_left hnames).sublist
    (List.filter_sublist.map _)

/-- The explicit map of the servos is the identity. -/
theorem st3215DdsSensorIndices_eq (servo : ℕ) :
    st3215DdsSensorIndices profile.sensors profile.servos servo =
      if servo < profile.servos.length then some servo else none := by
  have hnames : profile.servos.map ServoProfile.sensorName =
      (DeviceClass.servo.devices profile.sensors).map DeviceConfig.name :=
    profile.sensorNames_eq .servo
  have hnodup : (profile.servos.map ServoProfile.sensorName).Nodup :=
    profile.sensorNames_nodup .servo
  have hself : ∀ entry ∈ (DeviceClass.servo.devices profile.sensors).zipIdx,
      profile.servos.findIdx? (·.sensorName = entry.1.name) =
        some entry.2 := by
    intro entry hentry
    have hat := congrArg (fun names => names[entry.2]?) hnames
    simp only [List.getElem?_map] at hat
    rw [List.mem_zipIdx_iff_getElem?.mp hentry, Option.map_some,
      Option.map_eq_some_iff] at hat
    obtain ⟨servo, hservo, hname⟩ := hat
    rw [← hname]
    exact findIdx?_key hnodup hservo
  have hlength : (DeviceClass.servo.devices profile.sensors).length =
      profile.servos.length := by
    have hlengths := congrArg List.length hnames
    simpa using hlengths.symm
  have hindices := foldl_update_self
    (fun entry => profile.servos.findIdx? (·.sensorName = entry.1.name))
    (DeviceClass.servo.devices profile.sensors).zipIdx (fun _ => none) hself
    servo
  have hlisted : servo ∈
      (DeviceClass.servo.devices profile.sensors).zipIdx.map Prod.snd ↔
        servo < profile.servos.length := by
    rw [List.zipIdx_map_snd, hlength]
    simp
  simp only [hlisted] at hindices
  exact hindices

/-- A path and a number belong to one motor. -/
theorem motor_unique {left right : ℕ} {motor other : MotorProfile F}
    (hleft : profile.motors[left]? = some motor)
    (hright : profile.motors[right]? = some other)
    (hpath : motor.path = other.path) (hid : motor.motorId = other.motorId) :
    left = right := by
  obtain ⟨sensor, _, hsensor, _, hlink⟩ := profile.motorLink hleft
  obtain ⟨second, _, hsecond, _, hlink'⟩ := profile.motorLink hright
  have hat (index : ℕ) (device : DeviceConfig)
      (hdevice : (RobotProfile.motorDevices profile.sensors)[index]? =
        some device) :
      ((DeviceClass.motor.devices profile.sensors).map
        (profile.key true .motor))[index]? =
          some (profile.key true .motor device) := by
    rw [List.getElem?_map]
    exact congrArg (Option.map _) hdevice
  have hlt := (List.getElem?_eq_some_iff.mp (hat left sensor hsensor)).1
  refine (List.getElem?_inj hlt (profile.paired .motor).sensorsOnce).mp ?_
  rw [hat left sensor hsensor, hat right second hsecond]
  refine congrArg some (hlink.sensorKey.trans ?_)
  rw [hpath, hid]
  exact hlink'.sensorKey.symm

omit [DoubleArithmetic D] in
/-- The motor of a frame is a member of the bus with the address of the
frame. -/
theorem receiveDamiao_some {motors : List (MotorProfile F)}
    {bus : String × List ℕ} (hbus : bus ∈ damiaoBusMembers motors)
    {frame : DeviceFrame} {sequence : ℕ} {nowNs : ℤ} {candidate : ℕ}
    {event : DamiaoSensorEvent F}
    (h : receiveDamiao motors bus.2 frame sequence nowNs =
      some (candidate, event)) :
    ∃ motor, motors[candidate]? = some motor ∧ motor.path = bus.1 ∧
      motor.motorId = frame.address.toNat := by
  unfold receiveDamiao at h
  simp only [Option.bind_eq_bind, Option.bind_eq_some_iff] at h
  obtain ⟨found, hfound, motor, hmotor, _, _, hpure⟩ := h
  cases hpure
  have hmember := List.mem_of_find?_eq_some hfound
  have haccepts := List.find?_some hfound
  rw [(busesOf_members motors).members bus hbus] at hmember
  unfold membersOf at hmember
  obtain ⟨entry, hentry, rfl⟩ := List.mem_map.mp hmember
  obtain ⟨hzip, hpath⟩ := List.mem_filter.mp hentry
  have hlisted := List.mem_zipIdx_iff_getElem?.mp hzip
  rw [hmotor] at hlisted
  cases hlisted
  refine ⟨entry.1, hmotor, by simpa using hpath, ?_⟩
  rw [hmotor] at haccepts
  unfold MotorProfile.accepts at haccepts
  simp only [Option.any_some, Bool.and_eq_true, decide_eq_true_eq]
    at haccepts
  exact haccepts.1.symm

/-- Feedback is queued for the channel with the number of its device. -/
theorem deviceOf_queued {feedback : DaemonFeedback D} {cls : DeviceClass}
    {channel : ℕ} {event : SensorEvent D F}
    (h : profile.queued feedback = some (cls, channel, event)) :
    profile.deviceOf feedback = some (cls, channel) := by
  cases feedback with
  | axis index value cycleSequence nowNs =>
      simp only [queued] at h
      simp only [deviceOf]
      split at h
      · next hlt =>
          cases h
          exact if_pos hlt
      · cases h
  | servo index value cycleSequence =>
      simp only [queued, Option.bind_eq_bind, Option.bind_eq_some_iff] at h
      obtain ⟨sensor, hsensor, h⟩ := h
      rw [profile.st3215DdsSensorIndices_eq] at hsensor
      split at hsensor
      · next hlt =>
          cases hsensor
          split at h
          · cases h
            exact if_pos hlt
          · cases h
      · cases hsensor
  | frame path frame sequence nowNs =>
      simp only [queued, Option.bind_eq_bind, Option.bind_eq_some_iff] at h
      obtain ⟨bus, hbus, ⟨candidate, found⟩, hreceived, hpure⟩ := h
      cases hpure
      have hpath : bus.1 = path := by
        simpa using List.find?_some hbus
      obtain ⟨motor, hmotor, hmotorPath, hid⟩ :=
        receiveDamiao_some (List.mem_of_find?_eq_some hbus) hreceived
      have hfind : profile.motors.findIdx? (fun other =>
          other.path = path && other.motorId = frame.address.toNat) =
          some candidate := by
        obtain ⟨hlt, hvalue⟩ := List.getElem?_eq_some_iff.mp hmotor
        rw [List.findIdx?_eq_some_iff_getElem]
        refine ⟨hlt, by simp [hvalue, hmotorPath, hpath, hid], ?_⟩
        intro earlier hearlier hmatch
        simp only [Bool.and_eq_true, decide_eq_true_eq] at hmatch
        have hsame := profile.motor_unique
          (List.getElem?_eq_getElem (hearlier.trans hlt)) hmotor
          (hmatch.1.trans (hmotorPath.trans hpath).symm)
          (hmatch.2.trans hid.symm)
        omega
      simp only [deviceOf, hfind]
      rfl

end DdsRobotProfile

/-! ## Runs -/

namespace SensorNetwork

/-- Events stand under the number of their device, on the way and at the
end. -/
structure Marked (profile : DdsRobotProfile D F)
    (network : SensorNetwork D F) : Prop where
  queues : ∀ cls k, ∀ content ∈ (network.queues cls k).published,
    content.device = some (cls, k)
  written : ∀ sample ∈ network.written, ∃ cls k channel,
    (profile.channels cls)[k]? = some channel ∧
      sample = sampleOf profile channel sample.content ∧
      sample.content.device = some (cls, k)
  stored : ∀ cls k content, network.stored cls k = some content →
    content.device = some (cls, k)

variable {profile : DdsRobotProfile D F} {network : SensorNetwork D F}

theorem Marked.setQueue (h : Marked profile network) (cls : DeviceClass)
    (channel : ℕ) {queue : EventQueue (Sourced D F)}
    (hqueue : ∀ content ∈ queue.published,
      content.device = some (cls, channel)) :
    Marked profile (network.setQueue cls channel queue) := by
  refine ⟨?_, h.written, h.stored⟩
  intro c k content hmem
  unfold SensorNetwork.setQueue at hmem
  dsimp only at hmem
  split at hmem
  · next heq =>
      cases heq
      exact hqueue content hmem
  · exact h.queues c k content hmem

theorem Marked.enqueue (h : Marked profile network)
    (feedback : DaemonFeedback D) :
    Marked profile (network.enqueue profile feedback) := by
  unfold SensorNetwork.enqueue
  cases hqueued : profile.queued feedback with
  | none => exact h
  | some entry =>
      obtain ⟨cls, channel, event⟩ := entry
      dsimp only
      split
      · apply h.setQueue
        intro content hmem
        unfold EventQueue.pushRealtime at hmem
        rw [List.mem_append, List.mem_singleton] at hmem
        cases hmem with
        | inl hold => exact h.queues cls channel content hold
        | inr hnew =>
            rw [hnew]
            exact profile.deviceOf_queued hqueued
      · exact h

variable (profile network) in
/-- What a reader may store. -/
theorem takeSample_cases (cls : DeviceClass) (reader sample : ℕ) :
    network.takeSample profile cls reader sample = network ∨
      ∃ channel taken, (profile.channels cls)[reader]? = some channel ∧
        network.written[sample]? = some taken ∧
        taken.topicName = channel.topicName ∧
        network.takeSample profile cls reader sample =
          network.store cls reader taken.content := by
  unfold SensorNetwork.takeSample DdsRobotProfile.channels
  cases ((StateChannels.create profile.descriptors).ofClass cls)[reader]? with
  | none => exact Or.inl rfl
  | some channel =>
      cases network.written[sample]? with
      | none => exact Or.inl rfl
      | some taken =>
          dsimp only
          split
          · next hvalid =>
              exact Or.inr ⟨channel, taken, rfl, rfl, hvalid.1, rfl⟩
          · exact Or.inl rfl

theorem Marked.takeSample (h : Marked profile network) (cls : DeviceClass)
    (reader sample : ℕ) :
    Marked profile (network.takeSample profile cls reader sample) := by
  obtain hsame | ⟨channel, taken, hchannel, htaken, htopic, hstore⟩ :=
    takeSample_cases profile network cls reader sample
  · rw [hsame]
    exact h
  · rw [hstore]
    refine ⟨h.queues, h.written, ?_⟩
    intro c k content hstored
    unfold SensorNetwork.store at hstored
    dsimp only at hstored
    split at hstored
    · next heq =>
        cases heq
        cases hstored
        obtain ⟨source, number, origin, horigin, hsample, hdevice⟩ :=
          h.written taken (List.mem_of_getElem? htaken)
        have htopic' : origin.topicName = channel.topicName := by
          rw [← htopic, hsample]
          rfl
        obtain ⟨rfl, rfl⟩ :=
          profile.channel_of_topicName horigin hchannel htopic'
        exact hdevice
    · exact h.stored c k content hstored

end SensorNetwork

/-! ## Fields of a request -/

namespace DdsRobotProfile

variable (profile : DdsRobotProfile D F) (doubleOfFloat : F → D)

/-- The field of a device, with the value stored for it. -/
def field (cls : DeviceClass) (index : ℕ) (content : Option (Sourced D F)) :
    Option (Json D) :=
  match cls with
  | .axis => profile.axes[index]?.map fun axis =>
      .number (feedbackValue axis (axisFeedbackOf content))
  | .servo => profile.servos[index]?.map fun servo =>
      servoField servo (servoFeedbackOf content)
  | .motor => profile.motors[index]?.map fun _ =>
      motorField doubleOfFloat (motorFeedbackOf content)

/-- The fields of a class. -/
def entries (stored : DeviceClass → ℕ → Option (Sourced D F)) :
    DeviceClass → Fields D
  | .axis => axisFields profile.axes
      ⟨profile.axes.length, fun i => axisFeedbackOf (stored .axis i)⟩
  | .servo => servoFields profile.servos
      ⟨profile.servos.length, fun i => servoFeedbackOf (stored .servo i)⟩
  | .motor => motorFields doubleOfFloat profile.motors
      ⟨profile.motors.length, fun i => motorFeedbackOf (stored .motor i)⟩

variable {profile} {capacity : ℕ} {network : SensorNetwork D F}
  {sensor : DeviceConfig} {cls : DeviceClass} {index : ℕ}
  {topicName : String}

end DdsRobotProfile

/-! ## A frame of the elbow -/

/-- The two motors behind DDS. -/
def twoMotorDds : DdsRobotProfile ℚ ℚ where
  toRobotProfile := twoMotorProfile
  robotId := "arm"
  descriptors := (buildDdsTopicRegistry twoMotorSensors twoMotorActuators
    "arm").toOption.getD []
  registered := eq_ok_of_isOk (by decide +kernel)

end PolicyRuntime
