import PolicyRuntime.AxisAgreement
import PolicyRuntime.DaemonConfigure
import PolicyRuntime.LoaderPairing

/-!
# Accepted limits

The limits of axes and servos are checked by the loader and once more by the
supervisor, the axes and the device registry.  Everything the loader accepts
passes, apart from command timeouts of axes which do not fit into nanoseconds.
-/

namespace PolicyRuntime

open FloatingPoint

/-! ## Registry of the servos -/

section Registry

variable {D τ : Type} [DoubleArithmetic D]

/-- What the registry checks of one servo. -/
structure SafeServo (profile : St3215ServoProfile) : Prop where
  path : profile.serial.path ≠ ""
  baudRate : profile.serial.baudRate ≠ 0
  frameSize : profile.serial.maximumFrameSize ≠ 0
  name : profile.servo.name.isEmpty = false
  deviceId : profile.servo.deviceId ≠ kSt3215BroadcastId
  units : profile.servo.maxPositionUnits ≠ 0
  timeout : 0 < profile.servo.feedbackTimeout ∧
    profile.servo.feedbackTimeout ≤ 9223372036854775807 / 1000000

/-- What the registry checks of two servos. -/
structure Compatible (left right : St3215ServoProfile) : Prop where
  names : left.servo.name ≠ right.servo.name
  serial : left.serial.path = right.serial.path →
    St3215DeviceRegistry.sameSerial left.serial right.serial = true
  deviceIds : left.serial.path = right.serial.path →
    left.servo.deviceId ≠ right.servo.deviceId

theorem addServo_ok {bus : St3215Bus D τ} {profile : St3215ServoProfile}
    (hrunning : bus.running = false) (hsafe : SafeServo profile)
    (hfresh : ∀ slot < bus.servoCount,
      (bus.servos slot).servo.config.deviceId ≠ profile.servo.deviceId ∧
        (bus.servos slot).servo.config.name ≠ profile.servo.name) :
    ∃ added, bus.addServo profile.servo = .ok added := by
  unfold St3215Bus.addServo
  rw [if_neg, if_neg]
  · exact ⟨_, rfl⟩
  · intro hany
    obtain ⟨slot, hslot, hsame⟩ := List.any_eq_true.mp hany
    have hother := hfresh slot (List.mem_range.mp hslot)
    simp [hother.1, hother.2] at hsame
  · rw [hrunning, hsafe.name]
    simp only [Bool.false_or, Bool.or_eq_true, decide_eq_true_eq, not_or]
    exact ⟨⟨⟨hsafe.deviceId, hsafe.units⟩, not_le.mpr hsafe.timeout.1⟩,
      not_lt.mpr hsafe.timeout.2⟩

/-- The registry after some servos. -/
structure Filled (done : List St3215ServoProfile)
    (registry : St3215DeviceRegistry D τ) : Prop where
  serial : ∀ index < registry.busCount, ∃ profile ∈ done,
    registry.serial index = profile.serial
  running : ∀ index < registry.busCount,
    (registry.buses index).running = false
  servos : ∀ index < registry.busCount,
    ∀ slot < (registry.buses index).servoCount, ∃ profile ∈ done,
      profile.serial.path = (registry.serial index).path ∧
      ((registry.buses index).servos slot).servo.config = profile.servo

/-- A servo fits on a bus whose servos have the same path. -/
theorem placeServo_filled {done : List St3215ServoProfile}
    {registry : St3215DeviceRegistry D τ} {index : ℕ} {bus : St3215Bus D τ}
    {profile : St3215ServoProfile} (hindex : index < registry.busCount)
    (hserial : ∀ other < registry.busCount, ∃ known ∈ done ++ [profile],
      registry.serial other = known.serial)
    (hpath : profile.serial.path = (registry.serial index).path)
    (hrunning : ∀ other < registry.busCount,
      (Function.update registry.buses index bus other).running = false)
    (hservos : ∀ other < registry.busCount,
      ∀ slot < (Function.update registry.buses index bus other).servoCount,
        ∃ known ∈ done,
          known.serial.path = (registry.serial other).path ∧
          ((Function.update registry.buses index bus other).servos
            slot).servo.config = known.servo)
    (hsafe : SafeServo profile)
    (hcompatible : ∀ known ∈ done, Compatible known profile) :
    ∃ after, registry.placeServo index bus profile = .ok after ∧
      Filled (done ++ [profile]) after := by
  have hbus : bus.running = false := by
    have hself := hrunning index hindex
    rw [Function.update_self] at hself
    exact hself
  have hfresh : ∀ slot < bus.servoCount,
      (bus.servos slot).servo.config.deviceId ≠ profile.servo.deviceId ∧
        (bus.servos slot).servo.config.name ≠ profile.servo.name := by
    intro slot hslot
    have hself := hservos index hindex slot
    rw [Function.update_self] at hself
    obtain ⟨known, hknown, hsame, hconfig⟩ := hself hslot
    rw [hconfig]
    exact ⟨(hcompatible known hknown).deviceIds (hsame.trans hpath.symm),
      (hcompatible known hknown).names⟩
  obtain ⟨added, hadded⟩ := addServo_ok hbus hsafe hfresh
  have hspec := servoAdded_of_ok hadded
  unfold St3215DeviceRegistry.placeServo
  rw [hadded]
  refine ⟨_, rfl, hserial, ?_, ?_⟩
  · intro other hother
    dsimp only
    by_cases hsame : other = index
    · rw [hsame, Function.update_self, hspec.running]
      exact hbus
    · have hkept := hrunning other hother
      rw [Function.update_of_ne hsame] at hkept ⊢
      exact hkept
  · intro other hother slot hslot
    dsimp only at hslot ⊢
    have hold := hservos other hother
    by_cases hsame : other = index
    · rw [hsame, Function.update_self] at hslot hold ⊢
      by_cases hlast : slot = bus.servoCount
      · rw [hlast, hspec.placed]
        exact ⟨profile, by simp, hpath, rfl⟩
      · rw [hspec.others slot hlast]
        rw [hspec.servoCount] at hslot
        obtain ⟨known, hknown, hknownPath, hconfig⟩ := hold slot (by omega)
        exact ⟨known, List.mem_append_left _ hknown, hknownPath, hconfig⟩
    · rw [Function.update_of_ne hsame] at hslot hold ⊢
      obtain ⟨known, hknown, hknownPath, hconfig⟩ := hold slot hslot
      exact ⟨known, List.mem_append_left _ hknown, hknownPath, hconfig⟩

theorem Filled.addProfile {calls : ConfigureCalls τ}
    {done : List St3215ServoProfile} {registry : St3215DeviceRegistry D τ}
    {profile : St3215ServoProfile} (h : Filled done registry)
    (hsafe : SafeServo profile)
    (hcompatible : ∀ known ∈ done, Compatible known profile) :
    ∃ after, registry.addProfile (createSerial calls) profile = .ok after ∧
      Filled (done ++ [profile]) after := by
  unfold St3215DeviceRegistry.addProfile
  cases hfound : (List.range registry.busCount).find? fun index =>
      (registry.serial index).path = profile.serial.path with
  | none =>
      have hcreated : createSerial calls profile.serial =
          .ok (calls.serialTransport profile.serial) := by
        unfold createSerial
        rw [if_neg]
        simp [hsafe.path, hsafe.baudRate, hsafe.frameSize]
      dsimp only
      rw [hcreated]
      apply placeServo_filled (Nat.lt_succ_self _)
      · intro other hother
        dsimp only at hother ⊢
        by_cases hnew : other = registry.busCount
        · rw [hnew, Function.update_self]
          exact ⟨profile, by simp, rfl⟩
        · rw [Function.update_of_ne hnew]
          obtain ⟨source, hsource, hequal⟩ := h.serial other (by omega)
          exact ⟨source, List.mem_append_left _ hsource, hequal⟩
      · dsimp only
        rw [Function.update_self]
      · intro other hother
        dsimp only at hother ⊢
        by_cases hnew : other = registry.busCount
        · rw [hnew, Function.update_self]
          rfl
        · rw [Function.update_of_ne hnew]
          exact h.running other (by omega)
      · intro other hother slot hslot
        dsimp only at hother hslot ⊢
        by_cases hnew : other = registry.busCount
        · rw [hnew, Function.update_self] at hslot
          exact absurd hslot (Nat.not_lt_zero slot)
        · rw [Function.update_of_ne hnew] at hslot ⊢
          rw [Function.update_of_ne hnew]
          exact h.servos other (by omega) slot hslot
      · exact hsafe
      · exact hcompatible
  | some index =>
      have hindex := List.mem_range.mp (List.mem_of_find?_eq_some hfound)
      have hpath : (registry.serial index).path = profile.serial.path := by
        simpa using List.find?_some hfound
      obtain ⟨known, hknown, hserial⟩ := h.serial index hindex
      have hsame : St3215DeviceRegistry.sameSerial (registry.serial index)
          profile.serial = true := by
        rw [hserial] at hpath ⊢
        exact (hcompatible known hknown).serial hpath
      dsimp only
      rw [if_pos hsame]
      apply placeServo_filled hindex
      · intro other hother
        obtain ⟨source, hsource, hequal⟩ := h.serial other hother
        exact ⟨source, List.mem_append_left _ hsource, hequal⟩
      · exact hpath.symm
      · rw [Function.update_eq_self]
        exact h.running
      · rw [Function.update_eq_self]
        exact h.servos
      · exact hsafe
      · exact hcompatible

theorem Filled.addProfiles (calls : ConfigureCalls τ)
    {done profiles : List St3215ServoProfile}
    {registry : St3215DeviceRegistry D τ} (h : Filled done registry)
    (hsafe : ∀ profile ∈ profiles, SafeServo profile)
    (hcompatible : (done ++ profiles).Pairwise Compatible) :
    ∃ after, profiles.foldlM
      (St3215DeviceRegistry.addProfile (createSerial calls)) registry =
        .ok after := by
  induction profiles generalizing done registry with
  | nil => exact ⟨registry, rfl⟩
  | cons profile rest ih =>
      rw [List.forall_mem_cons] at hsafe
      have hknown : ∀ known ∈ done, Compatible known profile := by
        intro known hmem
        exact (List.pairwise_append.mp hcompatible).2.2 known hmem profile
          List.mem_cons_self
      obtain ⟨next, hnext, hfilled⟩ := h.addProfile hsafe.1 hknown
      rw [List.foldlM_cons, hnext]
      apply ih hfilled hsafe.2
      rw [List.append_assoc, List.singleton_append]
      exact hcompatible

theorem registryConfigure_ok (calls : ConfigureCalls τ)
    {profiles : List St3215ServoProfile}
    (hlimit : profiles.length ≤ kMaximumSt3215Servos)
    (hsafe : ∀ profile ∈ profiles, SafeServo profile)
    (hcompatible : profiles.Pairwise Compatible) :
    (St3215DeviceRegistry.configure (createSerial calls) calls.placeholder
      profiles : Except Error (St3215DeviceRegistry D τ)).isOk = true := by
  have hempty : Filled []
      (St3215DeviceRegistry.empty calls.placeholder :
        St3215DeviceRegistry D τ) :=
    ⟨fun index hindex => absurd hindex (Nat.not_lt_zero index),
      fun index hindex => absurd hindex (Nat.not_lt_zero index),
      fun index hindex => absurd hindex (Nat.not_lt_zero index)⟩
  obtain ⟨after, hafter⟩ := hempty.addProfiles calls hsafe hcompatible
  unfold St3215DeviceRegistry.configure
  rw [if_neg (not_lt.mpr hlimit), hafter]
  rfl

end Registry

/-! ## Servos of a profile -/

section Profiles

variable {D F : Type} [DoubleArithmetic D] [SinglePrecision F]

namespace RobotProfile

variable (profile : RobotProfile D F)

/-- A servo of a profile is its parsed sensor, joined by an actuator. -/
theorem servo_parsed {index : ℕ} {servo : ServoProfile}
    (hservo : profile.servos[index]? = some servo) :
    ∃ sensor sensed acted,
      ((servoKind profile.strtod).devices profile.sensors)[index]? =
        some sensor ∧
      (servoKind profile.strtod).parse true sensor = .ok sensed ∧
      ParsedServo true sensor sensed ∧ servo = joinServo false sensed acted := by
  obtain ⟨partners, -, -, hlength, hentries⟩ := profile.servoPairs.entries
  have hlt := (List.getElem?_eq_some_iff.mp hservo).1
  rw [← hlength] at hlt
  have hsensor := List.getElem?_eq_getElem hlt
  obtain ⟨actuator, same, -, hsame, hentry⟩ := hentries index _ hsensor
  rw [hservo, Option.some.injEq] at hsame
  obtain ⟨sensed, acted, hsensed, -, -, -, hjoined⟩ := hentry.parsed
  exact ⟨_, sensed, acted, hsensor, hsensed,
    parsedServo_of_ok profile.strtod hsensed, hsame.trans hjoined⟩

/-- The limits of a parsed servo. -/
structure ServoLimits (servo : ServoProfile) : Prop where
  baudRate : servo.serial.port.baudRate ≠ 0
  frameSize : 6 ≤ servo.serial.port.maximumFrameSize
  deviceId : servo.deviceId ≤ 0xfd
  units : servo.maxPositionUnits ≠ 0 ∧ servo.maxPositionUnits ≤ 2 ^ 16 - 1
  feedbackTimeout : 0 < servo.feedbackTimeout ∧
    servo.feedbackTimeout ≤ 9223372036854775807 / 1000000
  commandTimeout : 0 ≤ servo.commandTimeout ∧ servo.commandTimeout ≤ 1000
  maximumCommandFuture : 0 ≤ servo.maximumCommandFuture ∧
    servo.maximumCommandFuture ≤ 1000

theorem servoLimits_of_parsed {sensor : Bool} {device : DeviceConfig}
    {servo : ServoProfile} (hparsed : ParsedServo sensor device servo) :
    ServoLimits servo := by
  obtain ⟨servicePeriod, -, hsafe⟩ := hparsed.limits
  have hfeedback := hparsed.feedbackTimeout
  have hcommand := hparsed.commandTimeout
  have hfuture := hparsed.maximumCommandFuture
  unfold unsafeServo at hsafe
  simp only [Bool.or_eq_false_iff, decide_eq_false_iff_not] at hsafe
  constructor
  · omega
  · omega
  · omega
  · exact ⟨by omega, hparsed.maxPositionUnits⟩
  · omega
  · omega
  · omega

/-- The limits and the place of a servo in a profile. -/
theorem servo_limits {index : ℕ} {servo : ServoProfile}
    (hservo : profile.servos[index]? = some servo) :
    ServoLimits servo ∧ ∃ sensor,
      ((servoKind profile.strtod).devices profile.sensors)[index]? =
        some sensor ∧
      servo.sensorName = sensor.name ∧
      servo.serial.port.path = sensor.path ∧
      (servoKind profile.strtod).sensorIdentity ServoProfile.deviceId sensor =
        (servo.serial.port.path, some servo.deviceId) := by
  obtain ⟨sensor, sensed, acted, hsensor, hparse, hparsed, rfl⟩ :=
    profile.servo_parsed hservo
  have hlimits := servoLimits_of_parsed hparsed
  refine ⟨⟨hlimits.baudRate, hlimits.frameSize, hlimits.deviceId,
    hlimits.units, hlimits.feedbackTimeout, hlimits.commandTimeout,
    hlimits.maximumCommandFuture⟩, sensor, hsensor, hparsed.sensorName,
    hparsed.path, ?_⟩
  unfold LinkKind.sensorIdentity
  rw [hparse, ← hparsed.path]
  rfl

theorem servo_safe (hnamed : ∀ device ∈ profile.sensors, NamedDevice device)
    {servo : ServoProfile} (hservo : servo ∈ profile.servos) :
    SafeServo servo.registered := by
  obtain ⟨index, hindex⟩ := List.mem_iff_getElem?.mp hservo
  obtain ⟨hlimits, sensor, hsensor, hname, hpath, -⟩ :=
    profile.servo_limits hindex
  have hdevice := hnamed sensor
    (LinkKind.mem_devices.mp (List.mem_of_getElem? hsensor)).1
  unfold ServoProfile.registered
  refine ⟨?_, hlimits.baudRate, ?_, ?_, ?_, ?_, hlimits.feedbackTimeout⟩
  · dsimp only
    rw [hpath]
    exact String.isEmpty_eq_false_iff.mp hdevice.path
  · have hframe := hlimits.frameSize
    dsimp only
    omega
  · dsimp only
    rw [hname]
    exact hdevice.name
  · intro hsame
    have hvalue := congrArg UInt8.toNat hsame
    rw [UInt8.toNat_ofNat'] at hvalue
    have hbroadcast : servo.deviceId % 2 ^ 8 = 254 := hvalue
    have hbound := hlimits.deviceId
    omega
  · intro hsame
    have hvalue := congrArg UInt16.toNat hsame
    rw [UInt16.toNat_ofNat'] at hvalue
    have hzero : servo.maxPositionUnits % 2 ^ 16 = 0 := hvalue
    have hbound := hlimits.units
    omega

/-- Servos differ in their names, and on one path in their numbers. -/
theorem servos_compatible :
    (profile.servos.map ServoProfile.registered).Pairwise Compatible := by
  rw [List.pairwise_map, List.pairwise_iff_getElem]
  intro left right hleft hright hlt
  obtain ⟨hleftLimits, first, hfirst, hfirstName, -, hfirstIdentity⟩ :=
    profile.servo_limits (List.getElem?_eq_getElem hleft)
  obtain ⟨hrightLimits, second, hsecond, hsecondName, -, hsecondIdentity⟩ :=
    profile.servo_limits (List.getElem?_eq_getElem hright)
  have hdevices : first ≠ second := by
    rintro rfl
    have hsame := (List.getElem?_inj
      (List.getElem?_eq_some_iff.mp hfirst).1
      (profile.nodup_sensors.filter _)).mp (hfirst.trans hsecond.symm)
    omega
  have hfirstIn := List.mem_of_getElem? hfirst
  have hsecondIn := List.mem_of_getElem? hsecond
  refine ⟨?_, ?_, ?_⟩
  · intro hname
    apply hdevices
    apply profile.sensor_of_name (LinkKind.mem_devices.mp hfirstIn).1
      (LinkKind.mem_devices.mp hsecondIn).1
    rw [← hfirstName, ← hsecondName]
    exact hname
  · intro hpath
    have hserial := deriveSt3215_shared profile.strtod profile.derivedServos
      (List.getElem_mem hleft) (List.getElem_mem hright) hpath
    unfold ServoProfile.registered
    rw [hserial]
    simp [St3215DeviceRegistry.sameSerial]
  · intro hpath hids
    apply hdevices
    apply List.inj_on_of_nodup_map profile.servoPairs.distinct hfirstIn
      hsecondIn
    have hnumber : profile.servos[left].deviceId =
        profile.servos[right].deviceId := by
      have hvalue := congrArg UInt8.toNat hids
      unfold ServoProfile.registered at hvalue
      rw [UInt8.toNat_ofNat', UInt8.toNat_ofNat'] at hvalue
      have hleftBound := hleftLimits.deviceId
      have hrightBound := hrightLimits.deviceId
      omega
    have hsame : profile.servos[left].serial.port.path =
        profile.servos[right].serial.port.path := hpath
    rw [hfirstIdentity, hsecondIdentity, hsame, hnumber]

/-! ## Axes of a profile -/

theorem axis_parsed {axis : AxisProfile D} (haxis : axis ∈ profile.axes) :
    ∃ sensor, ParsedAxis sensor axis := by
  obtain ⟨index, hindex⟩ := List.mem_iff_getElem?.mp haxis
  obtain ⟨partners, -, -, hlength, hentries⟩ := profile.axisPairs.entries
  have hlt := (List.getElem?_eq_some_iff.mp hindex).1
  rw [← hlength] at hlt
  obtain ⟨actuator, same, -, hsame, hentry⟩ :=
    hentries index _ (List.getElem?_eq_getElem hlt)
  rw [hindex, Option.some.injEq] at hsame
  obtain ⟨sensed, acted, hsensed, -, -, -, hjoined⟩ := hentry.parsed
  have haxis : axis = sensed := hsame.trans hjoined
  rw [haxis]
  exact ⟨_, parsedAxis_of_ok profile.strtod hsensed⟩

end RobotProfile

omit [SinglePrecision F] in
/-- The timeout is the only limit of a parsed axis which the supervisor may
refuse. -/
theorem ParsedAxis.validLimits_iff {device : DeviceConfig}
    {axis : AxisProfile D} (h : ParsedAxis device axis) :
    SafetySupervisor.validLimits axis.config = true ↔
      axis.config.commandTimeout ≤ SafetySupervisor.maximumTimeoutMs := by
  have hpositive : ¬ axis.config.commandTimeout ≤ 0 := by
    have hrange := h.commandTimeout.1
    have hnonzero := h.timeout
    omega
  obtain ⟨hscale, hminimum, hmaximum, hslew, hfollowing⟩ := h.finite
  unfold SafetySupervisor.validLimits
  rw [hscale, hminimum, hmaximum, hslew, hfollowing, h.scale, h.range,
    h.slewLimit, h.followingErrorLimit]
  simp [hpositive]

omit [SinglePrecision F] in
theorem ParsedAxis.validMode {device : DeviceConfig} {axis : AxisProfile D}
    (h : ParsedAxis device axis) :
    SafetySupervisor.validMode axis.config = true := by
  unfold SafetySupervisor.validMode
  obtain hmode | hmode | hmode := h.mode
  · rw [hmode]
    rfl
  · rw [hmode]
    rfl
  · rw [hmode]
    rfl

theorem configureLoop_ok {supervisor : SafetySupervisor D}
    {axes : List (AxisConfig D)} {index : ℕ}
    {assigned : List (String × UInt8)} {nextGroup : UInt8}
    (hvalid : ∀ axis ∈ axes, SafetySupervisor.validLimits axis = true ∧
      SafetySupervisor.validMode axis = true) :
    (supervisor.configureLoop axes index assigned nextGroup).2 = .ok () := by
  induction axes generalizing supervisor index assigned nextGroup with
  | nil => rfl
  | cons axis rest ih =>
      rw [List.forall_mem_cons] at hvalid
      unfold SafetySupervisor.configureLoop
      rw [hvalid.1.1, hvalid.1.2]
      exact ih hvalid.2

/-- A finite number which is not at most zero is above zero. -/
def PositiveOrdered (D : Type) [FloatingPoint D] : Prop :=
  ∀ value : D, isfinite value = true → le value zero = false →
    lt zero value = true

omit [SinglePrecision F] in
theorem ParsedAxis.create_ok (hordered : PositiveOrdered D)
    {device : DeviceConfig} {axis : AxisProfile D}
    (h : ParsedAxis device axis) :
    (Cia402Axis.create axis.config).isOk = true := by
  obtain ⟨-, -, -, hslew, hfollowing⟩ := h.finite
  unfold Cia402Axis.create validPositiveLimit
  rw [hslew, hfollowing, hordered _ hslew h.slewLimit,
    hordered _ hfollowing h.followingErrorLimit]
  rfl

/-! ## Everything behind the loader -/

/-- The product with the nanoseconds of a millisecond is an `int64_t`. -/
def FitsNanoseconds (milliseconds : ℤ) : Prop :=
  -2 ^ 63 ≤ milliseconds * 1000000 ∧ milliseconds * 1000000 < 2 ^ 63

/-- The supervisor converts the timeout of an axis behind its own check. -/
structure DownstreamAccepts {τ : Type} (calls : ConfigureCalls τ)
    (loaded : LoadedProfile D F) : Prop where
  supervisor : ((SafetySupervisor.create {} : SafetySupervisor D).configure
    (loaded.axes.map AxisProfile.config)).2 = .ok ()
  axes : ∀ axis ∈ loaded.axes, (Cia402Axis.create axis.config).isOk = true
  servos : (St3215DeviceRegistry.configure (createSerial calls)
    calls.placeholder (loaded.servos.map ServoProfile.registered) :
      Except Error (St3215DeviceRegistry D τ)).isOk = true
  axisConversions : ∀ axis ∈ loaded.axes,
    SafetySupervisor.validLimits axis.config = true →
    FitsNanoseconds axis.config.commandTimeout
  servoConversions : ∀ servo ∈ loaded.servos,
    FitsNanoseconds servo.feedbackTimeout ∧
      FitsNanoseconds servo.commandTimeout ∧
      FitsNanoseconds servo.maximumCommandFuture

/-- A profile is accepted behind the loader exactly if the command timeouts of
its axes fit into nanoseconds. -/
theorem downstream_accepts_iff {τ : Type} (hordered : PositiveOrdered D)
    (dump : Json D → String) (strtod : List Char → Option D)
    (toFloat : D → F) (root : Json D) (loaded : LoadedProfile D F)
    (hok : loadRobotProfile dump strtod toFloat root = .ok loaded)
    (calls : ConfigureCalls τ) :
    DownstreamAccepts calls loaded ↔
      ∀ axis ∈ loaded.axes, axis.config.commandTimeout ≤ 9223372036854 := by
  have hnamed := loadRobotProfile_named dump strtod toFloat hok
  obtain ⟨profile, dds, rfl, rfl, rfl⟩ :=
    loadRobotProfile_ok dump strtod toFloat hok
  have hsensors : ∀ device ∈ profile.sensors, NamedDevice device :=
    fun device hdevice => hnamed device (List.mem_append_left _ hdevice)
  constructor
  · intro haccepts axis haxis
    have hconfigured := haccepts.supervisor
    rw [SafetySupervisor.configure_result rfl] at hconfigured
    split at hconfigured
    · cases hconfigured
    · obtain ⟨sensor, hparsed⟩ := profile.axis_parsed haxis
      apply hparsed.validLimits_iff.mp
      exact configureLoop_validLimits hconfigured axis.config
        (List.mem_map_of_mem haxis)
  · intro htimeouts
    have hvalid (axis : AxisProfile D) (haxis : axis ∈ profile.axes) :
        SafetySupervisor.validLimits axis.config = true ∧
          SafetySupervisor.validMode axis.config = true := by
      obtain ⟨sensor, hparsed⟩ := profile.axis_parsed haxis
      exact ⟨hparsed.validLimits_iff.mpr (htimeouts axis haxis),
        hparsed.validMode⟩
    refine ⟨?_, ?_, ?_, ?_, ?_⟩
    · rw [SafetySupervisor.configure_result rfl, if_neg]
      · apply configureLoop_ok
        intro config hconfig
        obtain ⟨axis, haxis, rfl⟩ := List.mem_map.mp hconfig
        exact hvalid axis haxis
      · have hcount : profile.axes.length ≤ kRobotIoMaximumAxes :=
          profile.axisPairs.bounded
        have hlength : (profile.loaded dds).axes.length =
            profile.axes.length := rfl
        have hoptions : SafetySupervisor.validOptions {} = true := by decide
        rw [List.length_map, hlength, decide_eq_false (not_lt.mpr hcount)]
        change ¬ (false || !SafetySupervisor.validOptions {}) = true
        rw [hoptions]
        exact Bool.false_ne_true
    · intro axis haxis
      obtain ⟨sensor, hparsed⟩ := profile.axis_parsed haxis
      exact hparsed.create_ok hordered
    · apply registryConfigure_ok calls
      · rw [List.length_map]
        exact profile.servoPairs.bounded
      · intro registered hregistered
        obtain ⟨servo, hservo, rfl⟩ := List.mem_map.mp hregistered
        exact profile.servo_safe hsensors hservo
      · exact profile.servos_compatible
    · intro axis haxis _
      obtain ⟨sensor, hparsed⟩ := profile.axis_parsed haxis
      have hlower := hparsed.commandTimeout.1
      have hupper := htimeouts axis haxis
      unfold FitsNanoseconds
      omega
    · intro servo hservo
      obtain ⟨index, hindex⟩ := List.mem_iff_getElem?.mp hservo
      obtain ⟨hlimits, -⟩ := profile.servo_limits hindex
      have hfeedback := hlimits.feedbackTimeout
      have hcommand := hlimits.commandTimeout
      have hfuture := hlimits.maximumCommandFuture
      unfold FitsNanoseconds
      omega

end Profiles

/-- One axis with a command timeout. -/
def timeoutDocument (timeout : String) : Json ℚ :=
  .object [
    ("sensors", .array [timedAxisEntry "joint_state" "0" "0" timeout]),
    ("actuators", .array [timedAxisEntry "joint_target" "0" "0" timeout])]

def exactCalls : ConfigureCalls Unit where
  openSocketCan := fun _ => .ok ()
  lexicallyNormal := id
  serialTransport := fun _ => ()
  placeholder := ()

theorem exact_ordered : PositiveOrdered ℚ := by
  intro value _ hpositive
  apply decide_eq_true
  exact not_le.mp (of_decide_eq_false hpositive)

/-- The largest timeout which passes. -/
theorem largest_timeout_accepted :
    loadRobotProfile dumpInteger wholeNumber id
        (timeoutDocument "9223372036854") =
      .ok (loadedOf (timeoutDocument "9223372036854")) ∧
    DownstreamAccepts exactCalls
      (loadedOf (timeoutDocument "9223372036854")) := by
  have hok : loadRobotProfile dumpInteger wholeNumber id
      (timeoutDocument "9223372036854") =
        .ok (loadedOf (timeoutDocument "9223372036854")) :=
    eq_ok_of_isOk (by decide +kernel)
  refine ⟨hok, ?_⟩
  apply (downstream_accepts_iff exact_ordered dumpInteger wholeNumber id
    (timeoutDocument "9223372036854")
    (loadedOf (timeoutDocument "9223372036854")) hok exactCalls).mpr
  decide +kernel

/-- The next one is loaded and refused by the supervisor. -/
theorem next_timeout_refused :
    loadRobotProfile dumpInteger wholeNumber id
        (timeoutDocument "9223372036855") =
      .ok (loadedOf (timeoutDocument "9223372036855")) ∧
    ¬ DownstreamAccepts exactCalls
      (loadedOf (timeoutDocument "9223372036855")) := by
  have hok : loadRobotProfile dumpInteger wholeNumber id
      (timeoutDocument "9223372036855") =
        .ok (loadedOf (timeoutDocument "9223372036855")) :=
    eq_ok_of_isOk (by decide +kernel)
  have hrefused : ((SafetySupervisor.create {} :
      SafetySupervisor ℚ).configure ((loadedOf
        (timeoutDocument "9223372036855")).axes.map
          AxisProfile.config)).2.isOk = false := by
    decide +kernel
  refine ⟨hok, ?_⟩
  intro haccepts
  rw [haccepts.supervisor] at hrefused
  cases hrefused

end PolicyRuntime
