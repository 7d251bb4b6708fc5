import PolicyRuntime.DeviceNumbering
import PolicyRuntime.LoaderPairing
import PolicyRuntime.TopologyBindings

/-!
# Topology and loader

The loader pairs devices by their parsed numbers, the topology by their texts.
The bindings of an accepted profile follow its links exactly if every actuator
has the text under which its sensor is listed.
-/

namespace PolicyRuntime

/-! ## Links of the loader -/

section Loader

variable {D F : Type} [DoubleArithmetic D] [SinglePrecision F]
  (lexicallyNormal : String → String) (strtod : List Char → Option D)
  (toFloat : D → F)

/-- The links of a class: one path, and one alias and position, device number or
motor number. -/
def DeviceClass.Links (cls : DeviceClass) (sensor actuator : DeviceConfig) :
    Prop :=
  match cls with
  | .axis => (axisKind strtod).Links AxisProfile.number sensor actuator
  | .servo => (servoKind strtod).Links ServoProfile.deviceId sensor actuator
  | .motor =>
      (motorKind strtod toFloat).Links MotorProfile.motorId sensor actuator

def LinkedAt (sensors actuators : List DeviceConfig) (index other : ℕ) :
    Prop :=
  ∃ sensor actuator, sensors[index]? = some sensor ∧
    actuators[other]? = some actuator ∧
    ∃ cls : DeviceClass, cls.Links strtod toFloat sensor actuator

theorem RobotProfile.matched (profile : RobotProfile D F)
    (cls : DeviceClass) :
    TypeMatched (cls.Links profile.strtod profile.toFloat) cls.type
      profile.sensors profile.actuators := by
  cases cls with
  | axis => exact profile.axisMatched
  | servo => exact profile.servoMatched
  | motor => exact profile.motorMatched

theorem class_of_transportKind {device : DeviceConfig}
    {kind : PhysicalTransportKind} (hkind : transportKind device = .ok kind) :
    ∃ cls : DeviceClass, device.type = cls.type := by
  unfold transportKind at hkind
  dsimp only at hkind
  split_ifs at hkind with hcia402 hst3215 hdamiao
  · exact ⟨.axis, hcia402⟩
  · exact ⟨.servo, hst3215⟩
  all_goals exact ⟨.motor, hdamiao⟩

/-- The transport of a parsed motor. -/
theorem transportKind_of_motor {device : DeviceConfig}
    {transport : DamiaoTransport} (htype : device.type = "damiao_motor")
    (htransport : parseDamiaoTransport device = .ok transport) :
    transportKind device =
      .ok (if transport = .socketcan then .socketcan else .usbCan) := by
  unfold parseDamiaoTransport at htransport
  unfold transportKind
  rw [htype]
  cases htext : device.args.lookup "transport" with
  | none =>
      rw [htext] at htransport
      cases htransport
      rfl
  | some text =>
      rw [htext] at htransport
      dsimp only at htransport
      split_ifs at htransport with hsocketcan hserial
      · cases htransport
        rw [hsocketcan]
        rfl
      · cases htransport
        rw [hserial]
        rfl

/-- Linked devices share their transport. -/
theorem DeviceClass.Links.deviceKey_eq {cls : DeviceClass}
    {sensor actuator : DeviceConfig}
    (hlinks : cls.Links strtod toFloat sensor actuator) :
    deviceKey lexicallyNormal sensor = deviceKey lexicallyNormal actuator := by
  have hkinds : transportKind sensor = transportKind actuator ∧
      actuator.path = sensor.path := by
    cases cls with
    | axis =>
        obtain ⟨hsensor, hactuator, axis, hentry⟩ := hlinks
        have hleft : sensor.type = "cia402" := hsensor
        have hright : actuator.type = "cia402" := hactuator
        unfold transportKind
        rw [hleft, hright]
        exact ⟨rfl, hentry.path⟩
    | servo =>
        obtain ⟨hsensor, hactuator, servo, hentry⟩ := hlinks
        have hleft : sensor.type = "st3215" := hsensor
        have hright : actuator.type = "st3215" := hactuator
        unfold transportKind
        rw [hleft, hright]
        exact ⟨rfl, hentry.path⟩
    | motor =>
        obtain ⟨hsensor, hactuator, motor, hentry⟩ := hlinks
        obtain ⟨sensed, acted, hsensed, hacted, -, hsame, -⟩ := hentry.parsed
        have hequal : acted.transport = sensed.transport := by
          have hchecked : sameMotor sensed acted = true := hsame
          unfold sameMotor at hchecked
          simp only [Bool.and_eq_true, decide_eq_true_eq] at hchecked
          exact hchecked.1.1.1.1
        rw [transportKind_of_motor hsensor
            (parsedMotor_of_ok strtod toFloat hsensed).transport,
          transportKind_of_motor hactuator
            (parsedMotor_of_ok strtod toFloat hacted).transport, hequal]
        exact ⟨rfl, hentry.path⟩
  unfold deviceKey
  rw [hkinds.1, hkinds.2]

theorem index_unique {α : Type} {list : List α} {left right : ℕ} {item : α}
    (hnodup : list.Nodup) (hleft : list[left]? = some item)
    (hright : list[right]? = some item) : left = right := by
  apply (List.getElem?_inj (List.getElem?_eq_some_iff.mp hleft).1 hnodup).mp
  rw [hleft, hright]

/-- The links of the loader match the devices of a profile one to one. -/
theorem RobotProfile.matching (profile : RobotProfile D F)
    (hkinds : ∀ device ∈ profile.sensors ++ profile.actuators,
      ∃ kind, transportKind device = .ok kind) :
    Matching lexicallyNormal
      (LinkedAt profile.strtod profile.toFloat profile.sensors
        profile.actuators) profile.sensors profile.actuators := by
  rw [List.forall_mem_append] at hkinds
  refine ⟨?_, ?_, ?_, ?_, ?_⟩
  · intro index hindex
    have hsensor := List.getElem?_eq_getElem hindex
    have hmem := List.mem_of_getElem? hsensor
    obtain ⟨kind, hkind⟩ := hkinds.1 _ hmem
    obtain ⟨cls, htype⟩ := class_of_transportKind hkind
    obtain ⟨actuator, hactuator, hlinks⟩ :=
      (profile.matched cls).partner _ hmem htype
    obtain ⟨other, hother⟩ := List.mem_iff_getElem?.mp hactuator
    exact ⟨other, _, actuator, hsensor, hother, cls, hlinks⟩
  · intro other hother
    have hactuator := List.getElem?_eq_getElem hother
    have hmem := List.mem_of_getElem? hactuator
    obtain ⟨kind, hkind⟩ := hkinds.2 _ hmem
    obtain ⟨cls, htype⟩ := class_of_transportKind hkind
    obtain ⟨sensor, hsensor, hlinks⟩ :=
      (profile.matched cls).origin _ hmem htype
    obtain ⟨index, hindex⟩ := List.mem_iff_getElem?.mp hsensor
    exact ⟨index, sensor, _, hindex, hactuator, cls, hlinks⟩
  · rintro index left right ⟨sensor, first, hsensor, hfirst, cls, hlinks⟩
      ⟨same, second, hsame, hsecond, cls', hlinks'⟩
    rw [hsensor, Option.some.injEq] at hsame
    subst hsame
    have hclass : cls = cls' := DeviceClass.type_injective
      (((profile.matched cls).typed _ _ hlinks).1.symm.trans
        ((profile.matched cls').typed _ _ hlinks').1)
    subst hclass
    have hdevice := (profile.matched cls).actuatorOnce sensor
      first (List.mem_of_getElem? hfirst) second
      (List.mem_of_getElem? hsecond) hlinks hlinks'
    subst hdevice
    exact index_unique profile.nodup_actuators hfirst hsecond
  · rintro left right other ⟨first, actuator, hfirst, hactuator, cls, hlinks⟩
      ⟨second, same, hsecond, hsame, cls', hlinks'⟩
    rw [hactuator, Option.some.injEq] at hsame
    subst hsame
    have hclass : cls = cls' := DeviceClass.type_injective
      (((profile.matched cls).typed _ _ hlinks).2.symm.trans
        ((profile.matched cls').typed _ _ hlinks').2)
    subst hclass
    have hdevice := (profile.matched cls).sensorOnce
      first (List.mem_of_getElem? hfirst) second
      (List.mem_of_getElem? hsecond) actuator hlinks hlinks'
    subst hdevice
    exact index_unique profile.nodup_sensors hfirst hsecond
  · rintro index other ⟨sensor, actuator, hsensor, hactuator, cls, hlinks⟩
    obtain ⟨kind, hkind⟩ := hkinds.1 _ (List.mem_of_getElem? hsensor)
    have hkey : deviceKey lexicallyNormal sensor =
        some ⟨kind, canonicalPath lexicallyNormal kind sensor.path⟩ := by
      unfold deviceKey
      rw [hkind]
    have hshared := hlinks.deviceKey_eq lexicallyNormal profile.strtod
      profile.toFloat
    exact ⟨sensor, actuator, _, hsensor, hactuator, hkey,
      hshared.symm.trans hkey⟩

/-- The compiled topology follows the links of the loader. -/
def TopologyAgrees (loaded : LoadedProfile D F) : Prop :=
  ∃ build, compilePhysicalTopology lexicallyNormal loaded.sensors
      loaded.actuators = .ok build ∧
    BindingsMatch
      (LinkedAt strtod toFloat loaded.sensors loaded.actuators)
      loaded.sensors loaded.actuators build

theorem exists_kind_of_isOk {list : List DeviceConfig}
    (hkinds : ∀ device ∈ list, (transportKind device).isOk = true) :
    ∀ device ∈ list, ∃ kind, transportKind device = .ok kind := by
  intro device hdevice
  have hok := hkinds device hdevice
  cases hkind : transportKind device with
  | error error =>
      rw [hkind] at hok
      cases hok
  | ok kind => exact ⟨kind, rfl⟩

/-- The topology follows the loader exactly if every actuator has the text the
paired sensor is listed under. -/
theorem topology_agrees_iff (dump : Json D → String) (root : Json D)
    (loaded : LoadedProfile D F)
    (hok : loadRobotProfile dump strtod toFloat root = .ok loaded)
    (hkinds : ∀ device ∈ loaded.sensors ++ loaded.actuators,
      (transportKind device).isOk = true) :
    TopologyAgrees lexicallyNormal strtod toFloat loaded ↔
      ∀ (index other : ℕ) sensor actuator,
        loaded.sensors[index]? = some sensor →
        loaded.actuators[other]? = some actuator →
        (∃ cls : DeviceClass, cls.Links strtod toFloat sensor actuator) →
        (sensorListing loaded.sensors).lookup (physicalIdentity actuator) =
          some index := by
  have hnamed := loadRobotProfile_named dump strtod toFloat hok
  have hsupported := exists_kind_of_isOk hkinds
  obtain ⟨profile, dds, rfl, rfl, rfl⟩ :=
    loadRobotProfile_ok dump strtod toFloat hok
  have hiff := compile_matches_iff lexicallyNormal
    (profile.matching lexicallyNormal hsupported) hsupported
    (fun device hdevice => (hnamed device hdevice).path)
  constructor
  · intro hagrees index other sensor actuator hsensor hactuator hlinked
    exact hiff.mp hagrees index other actuator
      ⟨sensor, actuator, hsensor, hactuator, hlinked⟩ hactuator
  · intro htexts
    apply hiff.mpr
    rintro index other actuator ⟨sensor, same, hsensor, hsame, hlinked⟩
      hactuator
    rw [hactuator, Option.some.injEq] at hsame
    subst hsame
    exact htexts index other sensor actuator hsensor hactuator hlinked

/-- A sensor which shares no binding although the loader paired it. -/
theorem not_topologyAgrees {dump : Json D → String} {root : Json D}
    {loaded : LoadedProfile D F} (index : ℕ)
    (hok : loadRobotProfile dump strtod toFloat root = .ok loaded)
    (hkinds : ∀ device ∈ loaded.sensors ++ loaded.actuators,
      (transportKind device).isOk = true)
    (hindex : index < loaded.sensors.length)
    (halone : ∀ build, compilePhysicalTopology lexicallyNormal loaded.sensors
      loaded.actuators = .ok build →
      ∀ binding ∈ build.devices, binding.sensorProfileIndex = some index →
        binding.actuatorProfileIndex = none) :
    ¬ TopologyAgrees lexicallyNormal strtod toFloat loaded := by
  rintro ⟨build, hbuild, hmatch⟩
  obtain ⟨profile, dds, rfl, rfl, rfl⟩ :=
    loadRobotProfile_ok dump strtod toFloat hok
  obtain ⟨other, hlinked⟩ := (profile.matching lexicallyNormal
    (exists_kind_of_isOk hkinds)).partner index hindex
  obtain ⟨sensor, actuator, hsensor, hactuator, -⟩ := id hlinked
  obtain ⟨binding, hmem, hsensorIndex, hactuatorIndex⟩ := (hmatch.shared index
    hindex other (List.getElem?_eq_some_iff.mp hactuator).1).mpr hlinked
  rw [halone build hbuild binding hmem hsensorIndex] at hactuatorIndex
  cases hactuatorIndex

end Loader

/-- Motors whose sensor and actuator write their number the same way share a
binding. -/
theorem arm_topology_agrees :
    loadRobotProfile dumpInteger wholeNumber id (armDocument "2" "2") =
        .ok (loadedOf (armDocument "2" "2")) ∧
      TopologyAgrees id wholeNumber id (loadedOf (armDocument "2" "2")) := by
  have hok : loadRobotProfile dumpInteger wholeNumber id
      (armDocument "2" "2") = .ok (loadedOf (armDocument "2" "2")) :=
    eq_ok_of_isOk (by decide +kernel)
  refine ⟨hok, ?_⟩
  apply (topology_agrees_iff id wholeNumber id dumpInteger
    (armDocument "2" "2") (loadedOf (armDocument "2" "2")) hok
    (by decide +kernel)).mpr
  rintro index other sensor actuator hsensor hactuator ⟨cls, hlinks⟩
  have htypes : ∀ device ∈ (loadedOf (armDocument "2" "2")).sensors,
      device.type = "damiao_motor" := by
    decide +kernel
  have htype := htypes sensor (List.mem_of_getElem? hsensor)
  have hcheck : ∀ index < (loadedOf (armDocument "2" "2")).sensors.length,
      ∀ sensor ∈ (loadedOf (armDocument "2" "2")).sensors[index]?,
      ∀ actuator ∈ (loadedOf (armDocument "2" "2")).actuators,
      ((motorKind wholeNumber (id : ℚ → ℚ)).parse true sensor).toOption.map
          MotorProfile.motorId =
        ((motorKind wholeNumber (id : ℚ → ℚ)).parse false
          actuator).toOption.map MotorProfile.motorId →
      (sensorListing (loadedOf (armDocument "2" "2")).sensors).lookup
        (physicalIdentity actuator) = some index := by
    decide +kernel
  cases cls with
  | axis => exact absurd (htype.symm.trans hlinks.1) (by decide)
  | servo => exact absurd (htype.symm.trans hlinks.1) (by decide)
  | motor =>
      exact hcheck index (List.getElem?_eq_some_iff.mp hsensor).1 sensor
        hsensor actuator (List.mem_of_getElem? hactuator) hlinks.number_eq

/-- Two axes on one bus. -/
def twoAxisDocument : Json ℚ :=
  .object [("sensors", .array [axisEntry "left_state" "0" "0",
      axisEntry "right_state" "0" "1"]),
    ("actuators", .array [axisEntry "left_target" "0" "0",
      axisEntry "right_target" "0" "1"])]

/-- The second axis gets one binding for its sensor and one for its
actuator. -/
theorem two_axes_split :
    loadRobotProfile dumpInteger wholeNumber id twoAxisDocument =
        .ok (loadedOf twoAxisDocument) ∧
      (∀ device ∈ (loadedOf twoAxisDocument).sensors ++
        (loadedOf twoAxisDocument).actuators,
        (transportKind device).isOk = true) ∧
      ¬ TopologyAgrees id wholeNumber id (loadedOf twoAxisDocument) := by
  have hok : loadRobotProfile dumpInteger wholeNumber id twoAxisDocument =
      .ok (loadedOf twoAxisDocument) :=
    eq_ok_of_isOk (by decide +kernel)
  have hkinds : ∀ device ∈ (loadedOf twoAxisDocument).sensors ++
      (loadedOf twoAxisDocument).actuators,
      (transportKind device).isOk = true := by
    decide +kernel
  refine ⟨hok, hkinds, ?_⟩
  apply not_topologyAgrees id wholeNumber id 1 hok hkinds
  · decide +kernel
  · intro build hbuild
    have hbindings : ((compilePhysicalTopology id
        (loadedOf twoAxisDocument).sensors
        (loadedOf twoAxisDocument).actuators).toOption.map
          TopologyBuild.devices) = some
        [⟨some 0, some 0, 0, 0, 2⟩, ⟨some 1, none, 0, 1, 1⟩,
          ⟨none, some 1, 0, 3, 3⟩] := by
      decide +kernel
    rw [hbuild] at hbindings
    have hdevices := Option.some.inj hbindings
    rw [hdevices]
    decide

end PolicyRuntime
