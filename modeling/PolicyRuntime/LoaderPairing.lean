import PolicyRuntime.ProfileLoader

/-!
# Pairing by the loader

Every accepted document pairs the sensors and actuators of a device type one to
one.  An entry of a derived list has one sensor and one actuator on one path and
with one number, and the entries stand in the order of their sensors.
-/

namespace PolicyRuntime

namespace LinkKind

variable {P ν : Type} (kind : LinkKind P) (number : P → ν)

/-- An entry and the two devices it is made of. -/
structure Entry (sensor actuator : DeviceConfig) (profile : P) : Prop where
  path : actuator.path = sensor.path
  parsed : ∃ sensed acted, kind.parse true sensor = .ok sensed ∧
    kind.parse false actuator = .ok acted ∧ number acted = number sensed ∧
    kind.same sensed acted = true ∧ profile = kind.join false sensed acted

/-- The path of a sensor and the number it is parsed with. -/
def sensorIdentity (device : DeviceConfig) : String × Option ν :=
  (device.path, (kind.parse true device).toOption.map number)

/-- A derived list against the device lists.  `partners` lists the actuators in
the order of the entries. -/
structure Pairs (limit : ℕ) (sensors actuators : List DeviceConfig)
    (profiles : List P) : Prop where
  entries : ∃ partners : List DeviceConfig,
    partners.Perm (kind.devices actuators) ∧
    partners.length = profiles.length ∧
    (kind.devices sensors).length = profiles.length ∧
    ∀ (index : ℕ) sensor, (kind.devices sensors)[index]? = some sensor →
      ∃ actuator profile, partners[index]? = some actuator ∧
        profiles[index]? = some profile ∧
        kind.Entry number sensor actuator profile
  distinct : ((kind.devices sensors).map (kind.sensorIdentity number)).Nodup
  bounded : profiles.length ≤ limit

/-- The identity text says the path and the number, and no more. -/
def IdentifiedBy : Prop :=
  ∀ {first second : Bool} {left right : DeviceConfig} {parsed other : P},
    kind.parse first left = .ok parsed → kind.parse second right = .ok other →
    (kind.identity left parsed = kind.identity right other ↔
      left.path = right.path ∧ number parsed = number other)

variable {kind number} {limit : ℕ} {oversized unpaired : String}
  {sensors actuators : List DeviceConfig} {profiles : List P}

theorem mem_devices {list : List DeviceConfig} {device : DeviceConfig} :
    device ∈ kind.devices list ↔ device ∈ list ∧ device.type = kind.type := by
  unfold devices
  rw [List.mem_filter, decide_eq_true_eq]

theorem LinkedPair.entry {sensor actuator : DeviceConfig} {profile : P}
    (hidentified : kind.IdentifiedBy number)
    (hpair : kind.LinkedPair sensor actuator profile) :
    kind.Entry number sensor actuator profile := by
  obtain ⟨hkey, sensed, acted, hsensed, hacted, hsame, hprofile⟩ := hpair
  rw [kind.key_of_parse hsensed, kind.key_of_parse hacted,
    hidentified hsensed hacted] at hkey
  exact ⟨hkey.1.symm, sensed, acted, hsensed, hacted, hkey.2.symm, hsame,
    hprofile⟩

theorem derive_pairs (hidentified : kind.IdentifiedBy number)
    (hderive : kind.derive limit oversized unpaired sensors actuators =
      .ok profiles) :
    kind.Pairs number limit sensors actuators profiles := by
  obtain ⟨hpaired, hlength, hlimit⟩ := kind.derive_paired hderive
  obtain ⟨partners, hperm, hpartners, hlinked⟩ := kind.derive_partners hderive
  refine ⟨⟨partners, hperm, hpartners, hlength.symm, ?_⟩, ?_, hlimit⟩
  · intro index sensor hsensor
    obtain ⟨actuator, profile, hactuator, hprofile, hpair⟩ :=
      hlinked index sensor hsensor
    exact ⟨actuator, profile, hactuator, hprofile, hpair.entry hidentified⟩
  · -- sensors of one identity would have one key
    have honce := List.pairwise_map.mp hpaired.sensorsOnce
    apply List.pairwise_map.mpr
    apply honce.imp_of_mem
    intro left right hleft hright hkeys hsame
    obtain ⟨parsed, hparsed⟩ := (kind.derive_parsed hderive).1 left hleft
    obtain ⟨other, hother⟩ := (kind.derive_parsed hderive).1 right hright
    apply hkeys
    rw [kind.key_of_parse hparsed, kind.key_of_parse hother,
      hidentified hparsed hother]
    unfold sensorIdentity at hsame
    rw [hparsed, hother] at hsame
    simpa [Except.toOption] using hsame

/-- Actuators of one path and one number are the same device. -/
theorem actuator_of_number (hidentified : kind.IdentifiedBy number)
    (hderive : kind.derive limit oversized unpaired sensors actuators =
      .ok profiles)
    {left right : DeviceConfig} (hleft : left ∈ kind.devices actuators)
    (hright : right ∈ kind.devices actuators) {parsed other : P}
    (hparsed : kind.parse false left = .ok parsed)
    (hother : kind.parse false right = .ok other)
    (hpath : left.path = right.path) (hnumber : number parsed = number other) :
    left = right := by
  have hpaired := (kind.derive_paired hderive).1
  have honce : ((kind.devices actuators).map (kind.key false)).Nodup :=
    hpaired.perm.nodup_iff.mpr hpaired.sensorsOnce
  apply List.inj_on_of_nodup_map honce hleft hright
  rw [kind.key_of_parse hparsed, kind.key_of_parse hother]
  exact (hidentified hparsed hother).mpr ⟨hpath, hnumber⟩

end LinkKind

/-! ## Links as a matching -/

namespace LinkKind

variable {P ν : Type} (kind : LinkKind P) (number : P → ν)

/-- A sensor and an actuator the loader has paired. -/
def Links (sensor actuator : DeviceConfig) : Prop :=
  sensor.type = kind.type ∧ actuator.type = kind.type ∧
    ∃ profile, kind.Entry number sensor actuator profile

end LinkKind

theorem LinkKind.Links.number_eq {P ν : Type} {kind : LinkKind P}
    {number : P → ν} {sensor actuator : DeviceConfig}
    (hlinks : kind.Links number sensor actuator) :
    (kind.parse true sensor).toOption.map number =
      (kind.parse false actuator).toOption.map number := by
  obtain ⟨-, -, _, -, sensed, acted, hsensed, hacted, hnumber, -⟩ := hlinks
  rw [hsensed, hacted]
  exact congrArg some hnumber.symm

/-- Links which match the devices of a type one to one. -/
structure TypeMatched (links : DeviceConfig → DeviceConfig → Prop)
    (type : String) (sensors actuators : List DeviceConfig) : Prop where
  typed : ∀ sensor actuator, links sensor actuator →
    sensor.type = type ∧ actuator.type = type
  partner : ∀ sensor ∈ sensors, sensor.type = type →
    ∃ actuator ∈ actuators, links sensor actuator
  origin : ∀ actuator ∈ actuators, actuator.type = type →
    ∃ sensor ∈ sensors, links sensor actuator
  actuatorOnce : ∀ sensor, ∀ left ∈ actuators, ∀ right ∈ actuators,
    links sensor left → links sensor right → left = right
  sensorOnce : ∀ left ∈ sensors, ∀ right ∈ sensors, ∀ actuator,
    links left actuator → links right actuator → left = right

theorem LinkKind.derive_matched {P ν : Type} {kind : LinkKind P}
    {number : P → ν} {limit : ℕ} {oversized unpaired : String}
    {sensors actuators : List DeviceConfig} {profiles : List P}
    (hidentified : kind.IdentifiedBy number)
    (hderive : kind.derive limit oversized unpaired sensors actuators =
      .ok profiles) :
    TypeMatched (kind.Links number) kind.type sensors actuators := by
  obtain ⟨⟨partners, hperm, hpartners, hlength, hentries⟩, hdistinct, -⟩ :=
    derive_pairs hidentified hderive
  refine ⟨?_, ?_, ?_, ?_, ?_⟩
  · intro sensor actuator hlinks
    exact ⟨hlinks.1, hlinks.2.1⟩
  · intro sensor hsensor htype
    obtain ⟨index, hindex⟩ := List.mem_iff_getElem?.mp
      (mem_devices.mpr ⟨hsensor, htype⟩)
    obtain ⟨actuator, profile, hactuator, -, hentry⟩ :=
      hentries index sensor hindex
    obtain ⟨hlisted, hactuatorType⟩ := mem_devices.mp
      (hperm.mem_iff.mp (List.mem_of_getElem? hactuator))
    exact ⟨actuator, hlisted, htype, hactuatorType, profile, hentry⟩
  · intro actuator hactuator htype
    obtain ⟨index, hindex⟩ := List.mem_iff_getElem?.mp
      (hperm.mem_iff.mpr (mem_devices.mpr ⟨hactuator, htype⟩))
    have hlt := (List.getElem?_eq_some_iff.mp hindex).1
    rw [hpartners, ← hlength] at hlt
    have hsensor := List.getElem?_eq_getElem hlt
    obtain ⟨same, profile, hsame, -, hentry⟩ := hentries index _ hsensor
    rw [hindex, Option.some.injEq] at hsame
    rw [← hsame] at hentry
    obtain ⟨hlisted, hsensorType⟩ := mem_devices.mp
      (List.mem_of_getElem? hsensor)
    exact ⟨_, hlisted, hsensorType, htype, profile, hentry⟩
  · rintro sensor left hleft right hright ⟨-, hleftType, _, hfirst⟩
      ⟨-, hrightType, _, hsecond⟩
    obtain ⟨hpath, sensed, acted, hsensed, hacted, hnumber, -, -⟩ := hfirst
    obtain ⟨hpath', sensed', acted', hsensed', hacted', hnumber', -, -⟩ :=
      hsecond
    rw [hsensed, Except.ok.injEq] at hsensed'
    rw [← hsensed'] at hnumber'
    exact actuator_of_number hidentified hderive
      (mem_devices.mpr ⟨hleft, hleftType⟩)
      (mem_devices.mpr ⟨hright, hrightType⟩) hacted hacted'
      (hpath.trans hpath'.symm) (hnumber.trans hnumber'.symm)
  · rintro left hleft right hright actuator ⟨hleftType, -, _, hfirst⟩
      ⟨hrightType, -, _, hsecond⟩
    obtain ⟨hpath, sensed, acted, hsensed, hacted, hnumber, -, -⟩ := hfirst
    obtain ⟨hpath', sensed', acted', hsensed', hacted', hnumber', -, -⟩ :=
      hsecond
    rw [hacted, Except.ok.injEq] at hacted'
    rw [← hacted'] at hnumber'
    apply List.inj_on_of_nodup_map hdistinct
      (mem_devices.mpr ⟨hleft, hleftType⟩)
      (mem_devices.mpr ⟨hright, hrightType⟩)
    unfold sensorIdentity
    rw [hsensed, hsensed', ← hpath, ← hpath']
    simp [Except.toOption, ← hnumber, ← hnumber']

/-! ## Identity texts -/

section Kinds

variable {D F : Type} [DoubleArithmetic D] [SinglePrecision F]
  (strtod : List Char → Option D) (toFloat : D → F)

def AxisProfile.number (axis : AxisProfile D) : ℕ × ℕ :=
  (axis.stationAlias, axis.position)

theorem axisKind_identifiedBy :
    (axisKind strtod).IdentifiedBy AxisProfile.number := by
  intro first second left right parsed other hparsed hother
  change axisIdentity left parsed = axisIdentity right other ↔ _
  unfold axisIdentity AxisProfile.number
  constructor
  · intro hsame
    obtain ⟨hfront, hposition⟩ := append_newline_inj hsame
    obtain ⟨hpath, halias⟩ := append_newline_inj hfront
    exact ⟨hpath, by rw [halias, hposition]⟩
  · rintro ⟨hpath, hnumber⟩
    rw [Prod.mk.injEq] at hnumber
    rw [hpath, hnumber.1, hnumber.2]

theorem servoKind_identifiedBy :
    (servoKind strtod).IdentifiedBy ServoProfile.deviceId := by
  intro first second left right parsed other hparsed hother
  have hleft := (parsedServo_of_ok strtod hparsed).path
  have hright := (parsedServo_of_ok strtod hother).path
  change parsed.serial.port.path ++ "\n" ++ toString parsed.deviceId =
    other.serial.port.path ++ "\n" ++ toString other.deviceId ↔ _
  rw [hleft, hright]
  constructor
  · exact append_newline_inj
  · rintro ⟨hpath, hnumber⟩
    rw [hpath, hnumber]

theorem motorKind_identifiedBy :
    (motorKind strtod toFloat).IdentifiedBy MotorProfile.motorId := by
  intro first second left right parsed other hparsed hother
  have hleft := (parsedMotor_of_ok strtod toFloat hparsed).path
  have hright := (parsedMotor_of_ok strtod toFloat hother).path
  change parsed.path ++ "\n" ++ toString parsed.motorId =
    other.path ++ "\n" ++ toString other.motorId ↔ _
  rw [hleft, hright]
  constructor
  · exact append_newline_inj
  · rintro ⟨hpath, hnumber⟩
    rw [hpath, hnumber]

/-! ## One serial configuration for a path -/

/-- The servos use the buses, and no two buses share a path. -/
structure BusesShared (links : ServoLinks) : Prop where
  listed : ∀ link ∈ links.derived, link.profile.serial ∈ links.buses
  paths : (links.buses.map (·.port.path)).Nodup

theorem shareBus_ok {buses next : List SerialSettings}
    {serial : SerialSettings} (hshare : shareBus buses serial = .ok next)
    (hpaths : (buses.map (·.port.path)).Nodup) :
    buses ⊆ next ∧ serial ∈ next ∧ (next.map (·.port.path)).Nodup := by
  unfold shareBus at hshare
  cases hfound : buses.find? (·.port.path = serial.port.path) with
  | none =>
      rw [hfound] at hshare
      cases hshare
      refine ⟨List.subset_append_left _ _, by simp, ?_⟩
      rw [List.map_append, List.map_singleton]
      apply LinkTable.nodup_append_singleton hpaths
      intro hmem
      obtain ⟨bus, hbus, hpath⟩ := List.mem_map.mp hmem
      have hother := List.find?_eq_none.mp hfound bus hbus
      simp [hpath] at hother
  | some bus =>
      rw [hfound] at hshare
      dsimp only at hshare
      split at hshare
      · next hsame =>
          cases hshare
          refine ⟨List.Subset.refl _, ?_, hpaths⟩
          rw [← hsame]
          exact List.mem_of_find?_eq_some hfound
      · cases hshare

theorem joinServo_serial (sensor : Bool) (existing parsed : ServoProfile) :
    (joinServo sensor existing parsed).serial = existing.serial := by
  unfold joinServo
  cases sensor <;> rfl

theorem BusesShared.addServoDevice {sensor : Bool} {links next : ServoLinks}
    {device : DeviceConfig} (h : BusesShared links)
    (hadd : addServoDevice strtod sensor links device = .ok next) :
    BusesShared next := by
  unfold PolicyRuntime.addServoDevice at hadd
  split at hadd
  · cases hadd
    exact h
  · cases hparse : parseSt3215 strtod sensor device with
    | error message =>
        rw [hparse] at hadd
        cases hadd
    | ok parsed =>
        rw [hparse] at hadd
        dsimp only at hadd
        cases hshare : shareBus links.buses parsed.serial with
        | error message =>
            rw [hshare] at hadd
            cases hadd
        | ok buses =>
            rw [hshare] at hadd
            dsimp only at hadd
            obtain ⟨hkept, hlisted, hpaths⟩ := shareBus_ok hshare h.paths
            cases hderived : (servoKind strtod).addParsed sensor links.derived
                device parsed with
            | error message =>
                rw [hderived] at hadd
                cases hadd
            | ok derived =>
                rw [hderived] at hadd
                cases hadd
                refine ⟨?_, hpaths⟩
                intro link hlink
                obtain ⟨-, rfl⟩ | ⟨existing, hfound, -, -, -, rfl⟩ :=
                  (servoKind strtod).addParsed_cases hderived
                · rw [List.mem_append, List.mem_singleton] at hlink
                  cases hlink with
                  | inl hold => exact hkept (h.listed link hold)
                  | inr hnew =>
                      rw [hnew]
                      exact hlisted
                · cases List.mem_or_eq_of_mem_set hlink with
                  | inl hold => exact hkept (h.listed link hold)
                  | inr hnew =>
                      have hserial : link.profile.serial =
                          existing.profile.serial := by
                        rw [hnew]
                        exact joinServo_serial sensor existing.profile parsed
                      rw [hserial]
                      exact hkept (h.listed existing
                        (List.mem_of_getElem? hfound))

theorem BusesShared.addServoDevices {sensor : Bool} {links next : ServoLinks}
    {list : List DeviceConfig} (h : BusesShared links)
    (hadd : addServoDevices strtod sensor links list = .ok next) :
    BusesShared next := by
  induction list generalizing links with
  | nil =>
      cases hadd
      exact h
  | cons device rest ih =>
      unfold PolicyRuntime.addServoDevices at hadd
      cases hfirst : PolicyRuntime.addServoDevice strtod sensor links
          device with
      | error message =>
          rw [hfirst] at hadd
          cases hadd
      | ok middle =>
          rw [hfirst] at hadd
          exact ih (h.addServoDevice strtod hfirst) hadd

theorem deriveSt3215_shared {sensors actuators : List DeviceConfig}
    {servos : List ServoProfile}
    (hderive : deriveSt3215 strtod sensors actuators = .ok servos)
    {left right : ServoProfile} (hleft : left ∈ servos)
    (hright : right ∈ servos)
    (hpath : left.serial.port.path = right.serial.port.path) :
    left.serial = right.serial := by
  unfold deriveSt3215 at hderive
  cases hsensed : addServoDevices strtod true ⟨[], []⟩ sensors with
  | error message =>
      rw [hsensed] at hderive
      cases hderive
  | ok sensed =>
      rw [hsensed] at hderive
      dsimp only at hderive
      cases hacted : addServoDevices strtod false sensed actuators with
      | error message =>
          rw [hacted] at hderive
          cases hderive
      | ok links =>
          rw [hacted] at hderive
          have hempty : BusesShared ⟨[], []⟩ :=
            ⟨by simp, List.nodup_nil⟩
          have hshared := (hempty.addServoDevices strtod
            hsensed).addServoDevices strtod hacted
          dsimp only at hderive
          unfold LinkKind.complete at hderive
          split_ifs at hderive
          cases hderive
          obtain ⟨first, hfirst, rfl⟩ := List.mem_map.mp hleft
          obtain ⟨second, hsecond, rfl⟩ := List.mem_map.mp hright
          exact List.inj_on_of_nodup_map hshared.paths
            (hshared.listed first hfirst) (hshared.listed second hsecond)
            hpath

/-! ## Accepted documents -/

/-- What the loader promises of the derived lists of a profile. -/
structure PairedProfile (loaded : LoadedProfile D F) : Prop where
  names : ((loaded.sensors ++ loaded.actuators).map
    DeviceConfig.name).Nodup
  axes : (axisKind strtod).Pairs AxisProfile.number 12 loaded.sensors
    loaded.actuators loaded.axes
  servos : (servoKind strtod).Pairs ServoProfile.deviceId 32 loaded.sensors
    loaded.actuators loaded.servos
  motors : (motorKind strtod toFloat).Pairs MotorProfile.motorId 32
    loaded.sensors loaded.actuators loaded.motors
  serial : ∀ left ∈ loaded.servos, ∀ right ∈ loaded.servos,
    left.serial.port.path = right.serial.port.path →
    left.serial = right.serial

theorem RobotProfile.axisPairs (profile : RobotProfile D F) :
    (axisKind profile.strtod).Pairs AxisProfile.number 12 profile.sensors
      profile.actuators profile.axes :=
  LinkKind.derive_pairs (axisKind_identifiedBy profile.strtod)
    (deriveAxes_links profile.strtod profile.derivedAxes)

theorem RobotProfile.servoPairs (profile : RobotProfile D F) :
    (servoKind profile.strtod).Pairs ServoProfile.deviceId 32 profile.sensors
      profile.actuators profile.servos :=
  LinkKind.derive_pairs (servoKind_identifiedBy profile.strtod)
    (deriveSt3215_links profile.strtod profile.derivedServos)

theorem RobotProfile.motorPairs (profile : RobotProfile D F) :
    (motorKind profile.strtod profile.toFloat).Pairs MotorProfile.motorId 32
      profile.sensors profile.actuators profile.motors :=
  LinkKind.derive_pairs (motorKind_identifiedBy profile.strtod profile.toFloat)
    profile.derivedMotors

theorem RobotProfile.axisMatched (profile : RobotProfile D F) :
    TypeMatched ((axisKind profile.strtod).Links AxisProfile.number) "cia402"
      profile.sensors profile.actuators :=
  LinkKind.derive_matched (axisKind_identifiedBy profile.strtod)
    (deriveAxes_links profile.strtod profile.derivedAxes)

theorem RobotProfile.servoMatched (profile : RobotProfile D F) :
    TypeMatched ((servoKind profile.strtod).Links ServoProfile.deviceId)
      "st3215" profile.sensors profile.actuators :=
  LinkKind.derive_matched (servoKind_identifiedBy profile.strtod)
    (deriveSt3215_links profile.strtod profile.derivedServos)

theorem RobotProfile.motorMatched (profile : RobotProfile D F) :
    TypeMatched ((motorKind profile.strtod profile.toFloat).Links
      MotorProfile.motorId) "damiao_motor" profile.sensors
      profile.actuators :=
  LinkKind.derive_matched
    (motorKind_identifiedBy profile.strtod profile.toFloat)
    profile.derivedMotors

/-- Every accepted document pairs its devices. -/
theorem loader_pairing (dump : Json D → String) (root : Json D)
    (loaded : LoadedProfile D F)
    (hok : loadRobotProfile dump strtod toFloat root = .ok loaded) :
    PairedProfile strtod toFloat loaded := by
  obtain ⟨profile, dds, rfl, rfl, rfl⟩ :=
    loadRobotProfile_ok dump strtod toFloat hok
  refine ⟨profile.names, profile.axisPairs, profile.servoPairs,
    profile.motorPairs, ?_⟩
  intro left hleft right hright hpath
  exact deriveSt3215_shared profile.strtod profile.derivedServos hleft hright
    hpath

end Kinds

/-- Entries of the device lists in a document. -/
def motorEntry (name motorId : String) : Json ℚ :=
  .object [("name", .string name),
    ("device", .object [("type", .string "damiao_motor"),
      ("path", .string "can0")]),
    ("args", .object [("motor_id", .string motorId),
      ("position_max", .string "12"), ("velocity_max", .string "45"),
      ("torque_max", .string "18")])]

/-- Two motors, with their actuators in the opposite order and two texts for
the number of the second one. -/
def armDocument (sensed acted : String) : Json ℚ :=
  .object [
    ("sensors", .array [motorEntry "shoulder_state" "1",
      motorEntry "elbow_state" sensed]),
    ("actuators", .array [motorEntry "elbow_target" acted,
      motorEntry "shoulder_target" "1"])]

def timedAxisEntry (name aliasText position timeout : String) : Json ℚ :=
  .object [("name", .string name),
    ("device", .object [("type", .string "cia402"),
      ("path", .string "/dev/EtherCAT0")]),
    ("args", .object [("alias", .string aliasText),
      ("position", .string position), ("vendor_id", .string "1"),
      ("product_code", .string "2"), ("revision", .string "3"),
      ("mode", .string "csp"), ("scale", .string "1"),
      ("minimum", .string "0"), ("maximum", .string "10"),
      ("slew_limit", .string "1"), ("following_error_limit", .string "1"),
      ("command_timeout_ms", .string timeout),
      ("safety_group", .string "arm")])]

def axisEntry (name aliasText position : String) : Json ℚ :=
  timedAxisEntry name aliasText position "100"

def dumpInteger : Json ℚ → String
  | .integer value => toString value
  | _ => ""

def loadedOf (root : Json ℚ) : LoadedProfile ℚ ℚ :=
  (loadRobotProfile dumpInteger wholeNumber id root).toOption.getD
    ⟨[], [], [], [], [], {}⟩

theorem armDocument_paired :
    loadRobotProfile dumpInteger wholeNumber id (armDocument "0x2" " 2") =
        .ok (loadedOf (armDocument "0x2" " 2")) ∧
      (loadedOf (armDocument "0x2" " 2")).motors.length = 2 ∧
      PairedProfile wholeNumber id (loadedOf (armDocument "0x2" " 2")) := by
  have hok : loadRobotProfile dumpInteger wholeNumber id
      (armDocument "0x2" " 2") = .ok (loadedOf (armDocument "0x2" " 2")) :=
    eq_ok_of_isOk (by decide +kernel)
  exact ⟨hok, by decide +kernel, loader_pairing wholeNumber id dumpInteger
    (armDocument "0x2" " 2") (loadedOf (armDocument "0x2" " 2")) hok⟩

end PolicyRuntime
