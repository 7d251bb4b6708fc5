import PolicyRuntime.CommandDelivery
import PolicyRuntime.DeviceRegistry
import PolicyRuntime.LinkedDevices

/-!
# Robot profiles

The loader derives axes, ST3215 servos and Damiao motors from the device lists
of a profile, and checks names and topics of the whole.
-/

namespace PolicyRuntime

open FloatingPoint

/-! ## Optional arguments -/

/-- A parsed argument, or the error text it leaves behind. -/
structure ParsedArg (α : Type) where
  value : Option α
  error : Option String

def unsignedArg (maximum : ℕ) (device : DeviceConfig) (key : String)
    (default : ℕ) : ParsedArg ℕ :=
  match device.args.lookup key with
  | none => ⟨some default, none⟩
  | some text =>
      match parseUnsigned maximum text with
      | some parsed => ⟨some parsed, none⟩
      | none =>
          ⟨none, some (device.name ++ ".args." ++ key ++
            " must be an unsigned integer")⟩

def requiredArg (device : DeviceConfig) (key : String) : ParsedArg String :=
  match device.args.lookup key with
  | some text => ⟨some text, none⟩
  | none => ⟨none, some (device.name ++ ".args requires " ++ key)⟩

def st3215IdentityArg (device : DeviceConfig) (primary fallback : String) :
    ParsedArg ℕ :=
  match (device.args.lookup primary).or (device.args.lookup fallback) with
  | none => ⟨none, some (device.name ++ ".args requires " ++ primary)⟩
  | some text =>
      match parseUnsigned (2 ^ 16 - 1) text with
      | some parsed => ⟨some parsed, none⟩
      | none =>
          ⟨none, some (device.name ++ ".args." ++ primary ++
            " must be an unsigned integer")⟩

/-- The text left in `error` by a sequence of arguments. -/
def lastError (errors : List (Option String)) : Option String :=
  (errors.filterMap id).getLast?

section Arguments

variable {D : Type} [DoubleArithmetic D] (strtod : List Char → Option D)

/-- milliseconds -/
def millisecondsFromSecondsArg (device : DeviceConfig) (key : String)
    (default : ℤ) : ParsedArg ℤ :=
  match device.args.lookup key with
  | none => ⟨some default, none⟩
  | some text =>
      let limit : D := DoubleArithmetic.divide
        (DoubleArithmetic.ofNat (2 ^ 63 - 1)) (DoubleArithmetic.ofNat 1000)
      match parseDouble strtod text with
      | none =>
          ⟨none, some (device.name ++ ".args." ++ key ++
            " must be a non-negative finite duration")⟩
      | some seconds =>
          if lt seconds zero || lt limit seconds then
            ⟨none, some (device.name ++ ".args." ++ key ++
              " must be a non-negative finite duration")⟩
          else
            let milliseconds : ℕ := DoubleArithmetic.toNat
              (DoubleArithmetic.multiply seconds (DoubleArithmetic.ofNat 1000))
            if lt zero seconds && milliseconds = 0 then
              ⟨none, some (device.name ++ ".args." ++ key ++
                " is below one millisecond")⟩
            else
              ⟨some milliseconds, none⟩

/-! ## Servos -/

structure SerialSettings where
  port : SerialPortConfig
  /-- milliseconds -/
  readTimeout : ℤ
  writeTimeout : ℤ
  deriving DecidableEq

structure ServoProfile where
  sensorName : String
  actuatorName : String
  serial : SerialSettings
  deviceId : ℕ
  servoId : ℕ
  maxPositionUnits : ℕ
  speedUnits : ℕ
  timeUnits : ℕ
  /-- milliseconds -/
  feedbackTimeout : ℤ
  commandTimeout : ℤ
  maximumCommandFuture : ℤ
  safetyGroup : String
  deriving DecidableEq

/-- What the device registry takes from the profile of a servo. -/
def ServoProfile.registered (profile : ServoProfile) : St3215ServoProfile where
  serial := profile.serial.port
  servo :=
    { name := profile.sensorName
      deviceId := UInt8.ofNat profile.deviceId
      maxPositionUnits := UInt16.ofNat profile.maxPositionUnits
      speedUnits := UInt16.ofNat profile.speedUnits
      timeUnits := UInt16.ofNat profile.timeUnits
      feedbackTimeout := profile.feedbackTimeout
      commandTimeout := 1000000 * profile.commandTimeout
      maximumCommandFuture := 1000000 * profile.maximumCommandFuture }
  safetyGroup := profile.safetyGroup

/-- The limits on parsed servo arguments. -/
def unsafeServo (baudRate deviceId maxPosition readBuffer maximumFrame
    feedbackTimeout commandTimeout maximumCommandFuture servicePeriod : ℕ) :
    Bool :=
  baudRate = 0 || 0xfd < deviceId || maxPosition = 0 || readBuffer = 0 ||
    4096 < readBuffer || maximumFrame < 6 || 259 < maximumFrame ||
    feedbackTimeout = 0 || commandTimeout = 0 || 1000 < commandTimeout ||
    1000 < maximumCommandFuture ||
    (2 ^ 63 - 1) / 1000000 < feedbackTimeout ||
    servicePeriod = 0 || 1000000 < servicePeriod

def parseSt3215 (sensor : Bool) (device : DeviceConfig) :
    Except String ServoProfile :=
  let baudText := requiredArg device "baud_rate"
  let deviceId := st3215IdentityArg device "device_id" "servo_id"
  let servoId := st3215IdentityArg device "servo_id" "device_id"
  match baudText.value, deviceId.value, servoId.value with
  | some baud, some device_id, some servo_id =>
      let baudRate := parseUnsigned (2 ^ 32 - 1) baud
      let readBuffer := unsignedArg (2 ^ 64 - 1) device "read_buffer_len" 256
      let maximumFrame :=
        unsignedArg (2 ^ 64 - 1) device "maximum_frame_size" 259
      let maxPosition :=
        unsignedArg (2 ^ 16 - 1) device "max_position_units" 4095
      let speed := unsignedArg (2 ^ 16 - 1) device "speed_units" 0
      let time := unsignedArg (2 ^ 16 - 1) device "time_units" 0
      let feedbackTimeout :=
        unsignedArg (2 ^ 64 - 1) device "feedback_timeout_ms" 250
      let commandTimeout :=
        unsignedArg (2 ^ 64 - 1) device "command_timeout_ms" 250
      let maximumCommandFuture :=
        unsignedArg (2 ^ 64 - 1) device "maximum_command_future_ms" 50
      let servicePeriod :=
        unsignedArg (2 ^ 64 - 1) device "service_period_us" 1000
      let timeoutKey :=
        if (device.args.lookup "timeout_s").isSome then "timeout_s"
        else if (device.args.lookup "timeout").isSome then "timeout"
        else "timeout_s"
      let readTimeout := millisecondsFromSecondsArg strtod device timeoutKey 0
      let writeTimeout :=
        if (device.args.lookup "write_timeout_s").isSome then
          millisecondsFromSecondsArg strtod device "write_timeout_s" 0
        else
          readTimeout
      match baudRate, readBuffer.value, maximumFrame.value, maxPosition.value,
        speed.value, time.value, feedbackTimeout.value, commandTimeout.value,
        maximumCommandFuture.value, servicePeriod.value, readTimeout.value,
        writeTimeout.value with
      | some baudRate, some readBuffer, some maximumFrame, some maxPosition,
        some speed, some time, some feedbackTimeout, some commandTimeout,
        some maximumCommandFuture, some servicePeriod, some readTimeout,
        some writeTimeout =>
          if unsafeServo baudRate device_id maxPosition readBuffer maximumFrame
              feedbackTimeout commandTimeout maximumCommandFuture
              servicePeriod then
            .error (device.name ++ ".args contains unsafe ST3215 limits")
          else
            .ok
              { sensorName := if sensor then device.name else ""
                actuatorName := if sensor then "" else device.name
                serial := ⟨⟨device.path, baudRate, readBuffer, maximumFrame,
                  1000 * servicePeriod⟩, readTimeout, writeTimeout⟩
                deviceId := device_id
                servoId := servo_id
                maxPositionUnits := maxPosition
                speedUnits := speed
                timeUnits := time
                feedbackTimeout := feedbackTimeout
                commandTimeout := commandTimeout
                maximumCommandFuture := maximumCommandFuture
                safetyGroup :=
                  match device.args.lookup "safety_group" with
                  | none => device.path
                  | some group =>
                      if isBlank group then device.path else group }
      | _, _, _, _, _, _, _, _, _, _, _, _ =>
          .error ((lastError [readBuffer.error, maximumFrame.error,
            maxPosition.error, speed.error, time.error, feedbackTimeout.error,
            commandTimeout.error, maximumCommandFuture.error,
            servicePeriod.error, readTimeout.error, writeTimeout.error]).getD
              (device.name ++ ".args contains invalid ST3215 configuration"))
  | _, _, _ =>
      .error ((lastError [baudText.error, deviceId.error,
        servoId.error]).getD "")

def sameSt3215PhysicalConfig (left right : ServoProfile) : Bool :=
  left.serial = right.serial && left.deviceId = right.deviceId &&
    left.servoId = right.servoId &&
    left.maxPositionUnits = right.maxPositionUnits &&
    left.feedbackTimeout = right.feedbackTimeout &&
    left.commandTimeout = right.commandTimeout &&
    left.maximumCommandFuture = right.maximumCommandFuture &&
    left.safetyGroup = right.safetyGroup

/-- The second device of a servo: the actuator also sets the motion units. -/
def joinServo (sensor : Bool) (existing parsed : ServoProfile) :
    ServoProfile :=
  if sensor then
    { existing with sensorName := parsed.sensorName }
  else
    { existing with
      actuatorName := parsed.actuatorName
      speedUnits := parsed.speedUnits
      timeUnits := parsed.timeUnits }

def servoKind : LinkKind ServoProfile where
  type := "st3215"
  parse := parseSt3215 strtod
  identity := fun _ parsed =>
    parsed.serial.port.path ++ "\n" ++ toString parsed.deviceId
  same := sameSt3215PhysicalConfig
  join := joinServo
  duplicate := "duplicate ST3215 physical link: "
  inconsistent := "inconsistent ST3215 static configuration for: "

/-- `derived` and `buses` of `derive_st3215`. -/
structure ServoLinks where
  derived : List (DerivedLink ServoProfile)
  buses : List SerialSettings

/-- The serial settings of a path are those of its first device. -/
def shareBus (buses : List SerialSettings) (serial : SerialSettings) :
    Except String (List SerialSettings) :=
  match buses.find? (·.port.path = serial.port.path) with
  | none => .ok (buses ++ [serial])
  | some bus =>
      if bus = serial then .ok buses
      else
        .error ("inconsistent serial configuration for: " ++ serial.port.path)

/-- The lambda `add` of `derive_st3215`. -/
def addServoDevice (sensor : Bool) (links : ServoLinks)
    (device : DeviceConfig) : Except String ServoLinks :=
  if device.type ≠ "st3215" then
    .ok links
  else
    match parseSt3215 strtod sensor device with
    | .error message => .error message
    | .ok parsed =>
        match shareBus links.buses parsed.serial with
        | .error message => .error message
        | .ok buses =>
            match (servoKind strtod).addParsed sensor links.derived device
                parsed with
            | .error message => .error message
            | .ok derived => .ok ⟨derived, buses⟩

def addServoDevices (sensor : Bool) :
    ServoLinks → List DeviceConfig → Except String ServoLinks
  | links, [] => .ok links
  | links, device :: rest =>
      match addServoDevice strtod sensor links device with
      | .error message => .error message
      | .ok next => addServoDevices sensor next rest

def deriveSt3215 (sensors actuators : List DeviceConfig) :
    Except String (List ServoProfile) :=
  match addServoDevices strtod true ⟨[], []⟩ sensors with
  | .error message => .error message
  | .ok sensed =>
      match addServoDevices strtod false sensed actuators with
      | .error message => .error message
      | .ok links =>
          LinkKind.complete 32 "robot profile supports at most 32 ST3215 servos"
            "ST3215 physical link requires one sensor and one actuator"
            links.derived

/-- What a parsed servo takes from its device, and the limits on it. -/
structure ParsedServo (sensor : Bool) (device : DeviceConfig)
    (servo : ServoProfile) : Prop where
  sensorName : servo.sensorName = if sensor then device.name else ""
  actuatorName : servo.actuatorName = if sensor then "" else device.name
  path : servo.serial.port.path = device.path
  limits : ∃ servicePeriod : ℕ,
    servo.serial.port.servicePeriod = 1000 * servicePeriod ∧
    unsafeServo servo.serial.port.baudRate servo.deviceId
      servo.maxPositionUnits servo.serial.port.readBufferSize
      servo.serial.port.maximumFrameSize servo.feedbackTimeout.toNat
      servo.commandTimeout.toNat servo.maximumCommandFuture.toNat
      servicePeriod = false
  maxPositionUnits : servo.maxPositionUnits ≤ 2 ^ 16 - 1
  feedbackTimeout : 0 ≤ servo.feedbackTimeout
  commandTimeout : 0 ≤ servo.commandTimeout
  maximumCommandFuture : 0 ≤ servo.maximumCommandFuture

theorem unsignedArg_le {maximum default value : ℕ} {device : DeviceConfig}
    {key : String} (hdefault : default ≤ maximum)
    (hvalue : (unsignedArg maximum device key default).value = some value) :
    value ≤ maximum := by
  unfold unsignedArg at hvalue
  split at hvalue
  · cases hvalue
    exact hdefault
  · split at hvalue
    · next parsed hparsed =>
        cases hvalue
        exact (parseUnsigned_eq_some_iff.mp hparsed).2.2
    · cases hvalue

theorem parsedServo_of_ok {sensor : Bool} {device : DeviceConfig}
    {servo : ServoProfile}
    (hparse : parseSt3215 strtod sensor device = .ok servo) :
    ParsedServo sensor device servo := by
  unfold parseSt3215 at hparse
  dsimp only at hparse
  split at hparse
  · split at hparse
    · next hmaxPosition _ _ _ _ _ _ _ _ =>
        split at hparse
        · contradiction
        · next hsafe =>
            cases hparse
            rw [Bool.not_eq_true] at hsafe
            exact ⟨rfl, rfl, rfl, ⟨_, rfl, hsafe⟩,
              unsignedArg_le (by norm_num) hmaxPosition,
              Int.natCast_nonneg _, Int.natCast_nonneg _,
              Int.natCast_nonneg _⟩
    · contradiction
  · contradiction

/-- Without its bus check the derivation follows the common scheme. -/
theorem addServoDevices_links {sensor : Bool} {links next : ServoLinks}
    {list : List DeviceConfig}
    (hadd : addServoDevices strtod sensor links list = .ok next) :
    (servoKind strtod).addLinks sensor links.derived list =
      .ok next.derived := by
  induction list generalizing links with
  | nil =>
      cases hadd
      rfl
  | cons device rest ih =>
      unfold addServoDevices at hadd
      cases hfirst : addServoDevice strtod sensor links device with
      | error message =>
          rw [hfirst] at hadd
          contradiction
      | ok middle =>
          rw [hfirst] at hadd
          have hlink : (servoKind strtod).addLink sensor links.derived device =
              .ok middle.derived := by
            unfold addServoDevice at hfirst
            split at hfirst
            · next htype =>
                cases hfirst
                exact (servoKind strtod).addLink_of_ne htype
            · next htype =>
                split at hfirst
                · contradiction
                · next parsed hparse =>
                    rw [(servoKind strtod).addLink_of_parse
                      (not_not.mp htype) hparse]
                    split at hfirst
                    · contradiction
                    · split at hfirst
                      · contradiction
                      · next derived hderived =>
                          cases hfirst
                          exact hderived
          unfold LinkKind.addLinks
          rw [hlink]
          exact ih hadd

theorem deriveSt3215_links {sensors actuators : List DeviceConfig}
    {servos : List ServoProfile}
    (hderive : deriveSt3215 strtod sensors actuators = .ok servos) :
    (servoKind strtod).derive 32
      "robot profile supports at most 32 ST3215 servos"
      "ST3215 physical link requires one sensor and one actuator"
      sensors actuators = .ok servos := by
  unfold deriveSt3215 at hderive
  unfold LinkKind.derive
  cases hsensed : addServoDevices strtod true ⟨[], []⟩ sensors with
  | error message =>
      rw [hsensed] at hderive
      contradiction
  | ok sensed =>
      rw [hsensed] at hderive
      simp only at hderive
      cases hderived : addServoDevices strtod false sensed actuators with
      | error message =>
          rw [hderived] at hderive
          contradiction
      | ok links =>
          rw [hderived] at hderive
          have hopened := addServoDevices_links strtod hsensed
          have hjoined := addServoDevices_links strtod hderived
          simp only [hopened, hjoined]
          exact hderive

end Arguments

/-! ## Axes -/

section Axes

variable {D : Type} [FloatingPoint D] (strtod : List Char → Option D)

def axisKind : LinkKind (AxisProfile D) where
  type := "cia402"
  parse := fun _ => parseAxis strtod
  identity := axisIdentity
  same := sameStaticConfig
  join := fun sensor existing parsed =>
    if sensor then { existing with name := parsed.name } else existing
  duplicate := "duplicate cia402 physical link: "
  inconsistent := "inconsistent cia402 static configuration for: "

def DerivedAxis.link (derived : DerivedAxis D) :
    DerivedLink (AxisProfile D) :=
  ⟨derived.identity, derived.axis, derived.hasSensor, derived.hasActuator⟩

theorem addDevice_links {sensor : Bool} {derived next : List (DerivedAxis D)}
    {device : DeviceConfig}
    (hadd : addDevice strtod sensor derived device = .ok next) :
    (axisKind strtod).addLink sensor (derived.map DerivedAxis.link) device =
      .ok (next.map DerivedAxis.link) := by
  unfold addDevice at hadd
  by_cases htype : device.type = "cia402"
  · rw [if_neg (not_not.mpr htype)] at hadd
    cases hparse : parseAxis strtod device with
    | error message =>
        rw [hparse] at hadd
        contradiction
    | ok axis =>
        rw [hparse] at hadd
        rw [(axisKind strtod).addLink_of_parse htype hparse]
        have hindex : (derived.map DerivedAxis.link).findIdx
            (·.identity = (axisKind strtod).identity device axis) =
            derived.findIdx (·.identity = axisIdentity device axis) := by
          rw [List.findIdx_map]
          rfl
        unfold LinkKind.addParsed
        simp only [hindex, List.getElem?_map]
        simp only [bind, Except.bind, pure, Except.pure] at hadd
        cases hfound : derived[derived.findIdx
            (·.identity = axisIdentity device axis)]? with
        | none =>
            rw [hfound] at hadd
            cases hadd
            simp only [Option.map_none, List.map_append]
            rfl
        | some existing =>
            rw [hfound] at hadd
            simp only at hadd
            cases hjoin : joinLink existing device axis sensor with
            | error message =>
                rw [hjoin] at hadd
                contradiction
            | ok joined =>
                rw [hjoin] at hadd
                cases hadd
                have hlink : (axisKind strtod).joinLink sensor existing.link
                    device axis = .ok joined.link := by
                  unfold joinLink at hjoin
                  unfold LinkKind.joinLink
                  split at hjoin
                  · contradiction
                  · next hfree =>
                      split at hjoin
                      · contradiction
                      · next hsame =>
                          cases hjoin
                          exact (if_neg hfree).trans (if_neg hsame)
                simp only [Option.map_some, hlink, List.map_set]
  · rw [if_pos htype] at hadd
    cases hadd
    exact (axisKind strtod).addLink_of_ne htype

theorem addDevices_links {sensor : Bool} {derived next : List (DerivedAxis D)}
    {list : List DeviceConfig}
    (hadd : addDevices strtod sensor derived list = .ok next) :
    (axisKind strtod).addLinks sensor (derived.map DerivedAxis.link) list =
      .ok (next.map DerivedAxis.link) := by
  induction list generalizing derived with
  | nil =>
      cases hadd
      rfl
  | cons device rest ih =>
      unfold addDevices at hadd
      cases hfirst : addDevice strtod sensor derived device with
      | error message =>
          rw [hfirst] at hadd
          contradiction
      | ok middle =>
          rw [hfirst] at hadd
          unfold LinkKind.addLinks
          rw [addDevice_links strtod hfirst]
          exact ih hadd

theorem deriveAxes_links {sensors actuators : List DeviceConfig}
    {axes : List (AxisProfile D)}
    (hderive : deriveAxes strtod sensors actuators = .ok axes) :
    (axisKind strtod).derive kRobotIoMaximumAxes
      "robot profile supports at most 12 cia402 axes"
      "cia402 physical link requires one sensor and one actuator"
      sensors actuators = .ok axes := by
  unfold deriveAxes at hderive
  unfold LinkKind.derive
  cases hsensed : addDevices strtod true [] sensors with
  | error message =>
      rw [hsensed] at hderive
      contradiction
  | ok sensed =>
      rw [hsensed] at hderive
      change (addDevices strtod false sensed actuators >>= _) = _ at hderive
      cases hderived : addDevices strtod false sensed actuators with
      | error message =>
          rw [hderived] at hderive
          contradiction
      | ok derived =>
          rw [hderived] at hderive
          have hopened := addDevices_links strtod hsensed
          have hjoined := addDevices_links strtod hderived
          rw [List.map_nil] at hopened
          simp only [hopened, hjoined]
          unfold LinkKind.complete
          simp only [List.length_map, List.any_map, List.map_map]
          exact hderive

end Axes

/-! ## Motors -/

/-- The operations on `float` used by the Damiao devices. -/
class SinglePrecision (F : Type) where
  isfinite : F → Bool
  lt : F → F → Bool
  le : F → F → Bool
  eq : F → F → Bool
  /-- a small constant -/
  ofNat : ℕ → F
  neg : F → F
  sub : F → F → F
  mul : F → F → F
  div : F → F → F
  /-- `std::lround`, on values inside the range of the result -/
  lround : F → ℤ

instance exactSingle : SinglePrecision ℚ where
  isfinite := fun _ => true
  lt := fun x y => decide (x < y)
  le := fun x y => decide (x ≤ y)
  eq := fun x y => decide (x = y)
  ofNat := fun n => (n : ℚ)
  neg := fun x => -x
  sub := fun x y => x - y
  mul := fun x y => x * y
  div := fun x y => x / y
  lround := roundHalfAway

inductive DamiaoTransport
  | socketcan
  | virtualSerial
  deriving DecidableEq

structure DamiaoLimits (F : Type) where
  positionMax : F
  velocityMax : F
  torqueMax : F

structure MotorProfile (F : Type) where
  sensorName : String
  actuatorName : String
  path : String
  transport : DamiaoTransport
  motorId : ℕ
  limits : DamiaoLimits F
  /-- milliseconds -/
  feedbackTimeout : ℤ
  safetyGroup : String

section Motors

variable {D F : Type} [DoubleArithmetic D] [SinglePrecision F]
  (strtod : List Char → Option D) (toFloat : D → F)

def requiredDoubleArg (device : DeviceConfig) (key : String) : ParsedArg D :=
  match device.args.lookup key with
  | none => ⟨none, some (device.name ++ ".args requires " ++ key)⟩
  | some text =>
      let message :=
        device.name ++ ".args." ++ key ++ " must be a positive finite number"
      match parseDouble strtod text with
      | none => ⟨none, some message⟩
      | some value =>
          if le value zero then ⟨none, some message⟩ else ⟨some value, none⟩

def parseDamiaoTransport (device : DeviceConfig) :
    Except String DamiaoTransport :=
  match device.args.lookup "transport" with
  | none => .ok .socketcan
  | some text =>
      if text = "socketcan" then .ok .socketcan
      else if text = "virtual_serial" then .ok .virtualSerial
      else
        .error (device.name ++
          ".args.transport must be 'socketcan' or 'virtual_serial'")

def parseDamiaoMotor (sensor : Bool) (device : DeviceConfig) :
    Except String (MotorProfile F) :=
  if (device.args.lookup "mode").any (· ≠ "mit") then
    .error (device.name ++ ".args.mode must be 'mit'")
  else
    match parseDamiaoTransport device with
    | .error message => .error message
    | .ok transport =>
        let motorId := (unsignedArg (2 ^ 16 - 1) device "motor_id" 0).value
        match motorId.filter (fun id => id ≠ 0 && id ≤ 0x0F) with
        | none =>
            .error (device.name ++ ".args.motor_id must be within 1..15")
        | some motorId =>
            let positionMax := requiredDoubleArg strtod device "position_max"
            let velocityMax := requiredDoubleArg strtod device "velocity_max"
            let torqueMax := requiredDoubleArg strtod device "torque_max"
            match positionMax.value, velocityMax.value, torqueMax.value with
            | some position, some velocity, some torque =>
                let timeout := millisecondsFromSecondsArg strtod device
                  "feedback_timeout" 100
                match timeout.value.filter (0 < ·) with
                | none =>
                    .error (device.name ++
                      ".args.feedback_timeout must be positive")
                | some feedbackTimeout =>
                    .ok
                      { sensorName := if sensor then device.name else ""
                        actuatorName := if sensor then "" else device.name
                        path := device.path
                        transport := transport
                        motorId := motorId
                        limits := ⟨toFloat position, toFloat velocity,
                          toFloat torque⟩
                        feedbackTimeout := feedbackTimeout
                        safetyGroup :=
                          (device.args.lookup "safety_group").getD "" }
            | _, _, _ =>
                .error ((lastError [positionMax.error, velocityMax.error,
                  torqueMax.error]).getD "")

def sameMotor (existing parsed : MotorProfile F) : Bool :=
  parsed.transport = existing.transport &&
    SinglePrecision.eq parsed.limits.positionMax
      existing.limits.positionMax &&
    SinglePrecision.eq parsed.limits.velocityMax
      existing.limits.velocityMax &&
    SinglePrecision.eq parsed.limits.torqueMax existing.limits.torqueMax &&
    parsed.feedbackTimeout = existing.feedbackTimeout

def joinMotor (sensor : Bool) (existing parsed : MotorProfile F) :
    MotorProfile F :=
  if sensor then { existing with sensorName := parsed.sensorName }
  else { existing with actuatorName := parsed.actuatorName }

def motorKind : LinkKind (MotorProfile F) where
  type := "damiao_motor"
  parse := parseDamiaoMotor strtod toFloat
  identity := fun _ parsed => parsed.path ++ "\n" ++ toString parsed.motorId
  same := sameMotor
  join := joinMotor
  duplicate := "duplicate damiao_motor physical link: "
  inconsistent := "inconsistent damiao_motor static configuration for: "

def deriveDamiaoMotors (sensors actuators : List DeviceConfig) :
    Except String (List (MotorProfile F)) :=
  (motorKind strtod toFloat).derive 32
    "robot profile supports at most 32 damiao motors"
    "damiao_motor physical link requires one sensor and one actuator"
    sensors actuators

/-- What a parsed motor takes from its device. -/
structure ParsedMotor (sensor : Bool) (device : DeviceConfig)
    (motor : MotorProfile F) : Prop where
  sensorName : motor.sensorName = if sensor then device.name else ""
  actuatorName : motor.actuatorName = if sensor then "" else device.name
  path : motor.path = device.path
  transport : parseDamiaoTransport device = .ok motor.transport
  motorId : 1 ≤ motor.motorId ∧ motor.motorId ≤ 15

omit [SinglePrecision F] in
theorem parsedMotor_of_ok {sensor : Bool} {device : DeviceConfig}
    {motor : MotorProfile F}
    (hparse : parseDamiaoMotor strtod toFloat sensor device = .ok motor) :
    ParsedMotor sensor device motor := by
  unfold parseDamiaoMotor at hparse
  split at hparse
  · contradiction
  · split at hparse
    · contradiction
    · next transport htransport =>
        simp only at hparse
        split at hparse
        · contradiction
        · next motorId hid =>
            split at hparse
            · split at hparse
              · contradiction
              · cases hparse
                refine ⟨rfl, rfl, rfl, htransport, ?_⟩
                have hrange := (Option.filter_eq_some_iff.mp hid).2
                simp only [Bool.and_eq_true, decide_eq_true_eq] at hrange
                exact ⟨Nat.one_le_iff_ne_zero.mpr hrange.1, hrange.2⟩
            · contradiction

/-- A line without separators is found again behind its separator. -/
theorem eq_of_append_separator {α : Type} [DecidableEq α] {separator : α}
    {front back front' back' : List α}
    (hfront : separator ∉ front) (hfront' : separator ∉ front')
    (hsame : front ++ separator :: back = front' ++ separator :: back') :
    front = front' ∧ back = back' := by
  have htake (line rest : List α) (hline : separator ∉ line) :
      (line ++ separator :: rest).takeWhile (· ≠ separator) = line := by
    rw [List.takeWhile_append_of_pos (by
      intro a ha
      simp only [ne_eq, decide_eq_true_eq]
      rintro rfl
      exact hline ha)]
    simp
  have heq : front = front' := by
    rw [← htake front back hfront, hsame, htake front' back' hfront']
  subst heq
  exact ⟨rfl, by simpa using hsame⟩

theorem newline_notMem_toString (n : ℕ) : '\n' ∉ (toString n).toList := by
  intro hmem
  rw [Nat.toString_eq_repr, Nat.toList_repr] at hmem
  have hdigit := Nat.isDigit_of_mem_toDigits (by decide) (by decide) hmem
  simp at hdigit

theorem toString_nat_inj {left right : ℕ}
    (h : toString left = toString right) : left = right := by
  have hdigits := congrArg String.toList h
  rw [Nat.toString_eq_repr, Nat.toString_eq_repr, Nat.toList_repr,
    Nat.toList_repr] at hdigits
  rw [← Nat.ofDigitChars_ten_toDigits (n := left), hdigits,
    Nat.ofDigitChars_ten_toDigits]

/-- The last line of an identity text is a number. -/
theorem append_newline_inj {first second : String} {left right : ℕ}
    (hsame : first ++ "\n" ++ toString left =
      second ++ "\n" ++ toString right) :
    first = second ∧ left = right := by
  have hlists := congrArg (fun text => text.toList.reverse) hsame
  have hnewline : "\n".toList.reverse = ['\n'] := by decide
  simp only [String.toList_append, List.reverse_append, hnewline,
    List.singleton_append] at hlists
  obtain ⟨hdigit, hpath⟩ := eq_of_append_separator
    (by simpa using newline_notMem_toString left)
    (by simpa using newline_notMem_toString right) hlists
  rw [List.reverse_inj, String.toList_inj] at hdigit hpath
  exact ⟨hpath, toString_nat_inj hdigit⟩

end Motors

/-! ## Accepted profiles -/

/-- A profile accepted by `load_robot_profile`, with the conversions of the
standard library which the loader uses. -/
structure RobotProfile (D F : Type) [DoubleArithmetic D] [SinglePrecision F]
    where
  strtod : List Char → Option D
  toFloat : D → F
  sensors : List DeviceConfig
  actuators : List DeviceConfig
  axes : List (AxisProfile D)
  servos : List ServoProfile
  motors : List (MotorProfile F)
  names : ((sensors ++ actuators).map DeviceConfig.name).Nodup
  derivedAxes : deriveAxes strtod sensors actuators = .ok axes
  derivedServos : deriveSt3215 strtod sensors actuators = .ok servos
  derivedMotors : deriveDamiaoMotors strtod toFloat sensors actuators =
    .ok motors

namespace RobotProfile

variable {D F : Type} [DoubleArithmetic D] [SinglePrecision F]
  (profile : RobotProfile D F)

/-- The motor devices of a list. -/
def motorDevices (list : List DeviceConfig) : List DeviceConfig :=
  list.filter (·.type = "damiao_motor")

/-- A motor with the two devices of its link. -/
structure MotorLink (sensor actuator : DeviceConfig) (motor : MotorProfile F) :
    Prop where
  sensorName : motor.sensorName = sensor.name
  actuatorName : motor.actuatorName = actuator.name
  sensorPath : sensor.path = motor.path
  actuatorPath : actuator.path = motor.path
  sensorTransport : parseDamiaoTransport sensor = .ok motor.transport
  actuatorTransport : parseDamiaoTransport actuator = .ok motor.transport
  motorId : 1 ≤ motor.motorId ∧ motor.motorId ≤ 15
  sensorKey : (motorKind profile.strtod profile.toFloat).key true sensor =
    motor.path ++ "\n" ++ toString motor.motorId
  actuatorKey : (motorKind profile.strtod profile.toFloat).key false actuator =
    motor.path ++ "\n" ++ toString motor.motorId

/-- The motors stand in the order of their sensors. -/
theorem motorLink {index : ℕ} {motor : MotorProfile F}
    (hmotor : profile.motors[index]? = some motor) :
    ∃ sensor actuator, (motorDevices profile.sensors)[index]? = some sensor ∧
      actuator ∈ motorDevices profile.actuators ∧
      profile.MotorLink sensor actuator motor := by
  have hlength := ((motorKind profile.strtod profile.toFloat).derive_paired
    profile.derivedMotors).2.1
  have hlt : index < (motorDevices profile.sensors).length := by
    have hindex := (List.getElem?_eq_some_iff.mp hmotor).1
    rw [hlength] at hindex
    exact hindex
  obtain ⟨actuator, hactuator, linked, hlinked, hkey, sensed, acted, hsensed,
    hacted, hsame, hjoin⟩ :=
    (motorKind profile.strtod profile.toFloat).derive_pair
      profile.derivedMotors (List.getElem?_eq_getElem hlt)
  rw [hmotor] at hlinked
  cases hlinked
  have hsensor := parsedMotor_of_ok profile.strtod profile.toFloat hsensed
  have hact := parsedMotor_of_ok profile.strtod profile.toFloat hacted
  have hsensorKey :=
    (motorKind profile.strtod profile.toFloat).key_of_parse hsensed
  have hactuatorKey :=
    (motorKind profile.strtod profile.toFloat).key_of_parse hacted
  have hidentity : sensed.path ++ "\n" ++ toString sensed.motorId =
      acted.path ++ "\n" ++ toString acted.motorId := by
    exact hsensorKey.symm.trans (hkey.trans hactuatorKey)
  obtain ⟨hpath, _⟩ :=
    append_newline_inj hidentity
  have htransport : acted.transport = sensed.transport := by
    have hall : sameMotor sensed acted = true := hsame
    unfold sameMotor at hall
    simp only [Bool.and_eq_true, decide_eq_true_eq] at hall
    exact hall.1.1.1.1
  have hmotorEq : motor = { sensed with actuatorName := acted.actuatorName } :=
    hjoin
  subst hmotorEq
  refine ⟨_, actuator, List.getElem?_eq_getElem hlt, hactuator, ?_⟩
  exact
    { sensorName := hsensor.sensorName
      actuatorName := hact.actuatorName
      sensorPath := hsensor.path.symm
      actuatorPath := hact.path.symm.trans hpath.symm
      sensorTransport := hsensor.transport
      actuatorTransport := by rw [hact.transport, htransport]
      motorId := hsensor.motorId
      sensorKey := hsensorKey
      actuatorKey := hkey.symm.trans hsensorKey }

end RobotProfile

/-! ## Two motors -/

def damiaoDevice (name motorId : String) : DeviceConfig where
  name := name
  type := "damiao_motor"
  path := "can0"
  args := [("motor_id", motorId), ("position_max", "12"),
    ("velocity_max", "45"), ("torque_max", "18")]

def twoMotorSensors : List DeviceConfig :=
  [damiaoDevice "shoulder_state" "1", damiaoDevice "elbow_state" "2"]

def twoMotorActuators : List DeviceConfig :=
  [damiaoDevice "elbow_target" "2", damiaoDevice "shoulder_target" "1"]

/-- The shoulder comes first among the sensors and last among the actuators. -/
def twoMotorProfile : RobotProfile ℚ ℚ where
  strtod := wholeNumber
  toFloat := id
  sensors := twoMotorSensors
  actuators := twoMotorActuators
  axes := (deriveAxes wholeNumber twoMotorSensors
    twoMotorActuators).toOption.getD []
  servos := (deriveSt3215 wholeNumber twoMotorSensors
    twoMotorActuators).toOption.getD []
  motors := (deriveDamiaoMotors wholeNumber id twoMotorSensors
    twoMotorActuators).toOption.getD []
  names := by simp [twoMotorSensors, twoMotorActuators, damiaoDevice]
  derivedAxes := eq_ok_of_isOk (by decide +kernel)
  derivedServos := eq_ok_of_isOk (by decide +kernel)
  derivedMotors := eq_ok_of_isOk (by decide +kernel)

end PolicyRuntime
