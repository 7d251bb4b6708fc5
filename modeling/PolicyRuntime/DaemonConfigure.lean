import PolicyRuntime.CanRuntime
import PolicyRuntime.DeviceCycle
import PolicyRuntime.SensorNetwork

/-!
# Configuring the daemon

`configure` checks a profile on objects of its own before it touches a member
of the daemon, so a failed attempt leaves nothing behind but the mode displays
of the standalone process data.
-/

namespace PolicyRuntime

/-! ## The members -/

/-- A profile as `configure` receives it.  The loader need not have seen it. -/
structure ProfileLists (D F : Type) where
  sensors : List DeviceConfig
  actuators : List DeviceConfig
  axes : List (AxisProfile D)
  servos : List ServoProfile
  motors : List (MotorProfile F)

def RobotProfile.lists {D F : Type} [DoubleArithmetic D] [SinglePrecision F]
    (profile : RobotProfile D F) : ProfileLists D F :=
  ⟨profile.sensors, profile.actuators, profile.axes, profile.servos,
    profile.motors⟩

def ProfileLists.axisConfigs {D F : Type} (profile : ProfileLists D F) :
    List (AxisConfig D) :=
  profile.axes.map AxisProfile.config

structure DaemonAxisSnapshot (D : Type) where
  cycleSequence : ℕ
  timestampNs : ℤ
  axisCount : ℕ
  requests : Axis → AxisRequest
  feedback : Axis → AxisFeedback D

structure DamiaoSensor (F : Type) where
  motorId : Byte
  limits : DamiaoLimits F

/-- The members which `configure` reads or writes.  A runtime is its path with
the motors whose frames its callback decodes. -/
structure DaemonMembers (D F τ : Type) where
  configured : Bool
  running : Bool
  safety : SafetySupervisor D
  commandIngress : SafetySupervisor D
  serialDevices : Option (St3215DeviceRegistry D τ)
  serialAxisStopMasks : ℕ → BitVec 16
  st3215DdsSensorIndices : ℕ → Option ℕ
  axes : ℕ → Option (Cia402Axis D)
  axisConfigurations : List (AxisProfile D)
  transportRuntimes : List (String × List ℕ)
  actuatorBindings : List (ℕ × DeviceBinding)
  damiaoSensors : List (DamiaoSensor F)
  damiaoActuators : List (DamiaoActuator F)
  axisCount : ℕ
  axisPublication : Option (DaemonAxisSnapshot D)
  standalonePdos : ℕ → Cia402PdoView

/-- What `configure` calls outside of the daemon. -/
structure ConfigureCalls (τ : Type) where
  openSocketCan : String → Except Error Unit
  lexicallyNormal : String → String
  serialTransport : SerialPortConfig → τ
  /-- stands on the unused buses of a registry -/
  placeholder : τ

def Cia402PdoView.setModeDisplay (view : Cia402PdoView) (mode : ℤ) :
    Cia402PdoView :=
  { view with modeDisplay := mode }

namespace DaemonMembers

variable {D F τ : Type}

def setStandalonePdos (daemon : DaemonMembers D F τ)
    (pdos : ℕ → Cia402PdoView) : DaemonMembers D F τ :=
  { daemon with standalonePdos := pdos }

def setSupervisors (daemon : DaemonMembers D F τ)
    (safety commandIngress : SafetySupervisor D) : DaemonMembers D F τ :=
  { daemon with safety := safety, commandIngress := commandIngress }

variable [DoubleArithmetic D] [SinglePrecision F]

def constructed (options : SafetyOptions) : DaemonMembers D F τ where
  configured := false
  running := false
  safety := .create options
  commandIngress := .create options
  serialDevices := none
  serialAxisStopMasks := fun _ => 0
  st3215DdsSensorIndices := fun _ => some 0
  axes := fun _ => none
  axisConfigurations := []
  transportRuntimes := []
  actuatorBindings := []
  damiaoSensors := []
  damiaoActuators := []
  axisCount := 0
  axisPublication := none
  standalonePdos := fun _ => ⟨0, 0, 0, 0, 0, 0, 0, 0, 0⟩

end DaemonMembers

/-! ## Checks -/

section Checks

variable {D F τ : Type} [DoubleArithmetic D] [SinglePrecision F]
  (calls : ConfigureCalls τ) (profile : ProfileLists D F)

/-- `TransportFactory::create_serial` -/
def createSerial (config : SerialPortConfig) : Except Error τ :=
  if config.path = "" || config.baudRate = 0 ||
      config.maximumFrameSize = 0 then
    .error ⟨.invalidArgument,
      "serial transport requires path, baud rate, and frame size"⟩
  else
    .ok (calls.serialTransport config)

def configureSerial (registry : Option (St3215DeviceRegistry D τ)) :
    Except Error (St3215DeviceRegistry D τ) :=
  match registry with
  | some _ => .error ⟨.invalidArgument,
      "ST3215 device registry is already configured or oversized"⟩
  | none => St3215DeviceRegistry.configure (createSerial calls)
      calls.placeholder (profile.servos.map ServoProfile.registered)

/-- The runtimes of the motors and the routes to them. -/
def configureMotors :
    Except Error (List (String × List ℕ) × List (ℕ × DeviceBinding)) :=
  match compilePhysicalTopology calls.lexicallyNormal profile.sensors
      profile.actuators with
  | .error error => .error error
  | .ok topology =>
      if kRobotIoMaximumServos < profile.motors.length then
        .error ⟨.invalidArgument,
          "robot I/O daemon supports at most 32 Damiao motors"⟩
      else if profile.motors.any (·.transport ≠ .socketcan) then
        .error ⟨.invalidArgument,
          "Damiao daemon currently supports SocketCAN transport only"⟩
      else
        match createBuses calls.openSocketCan
            (damiaoBusMembers profile.motors) with
        | .error error => .error error
        | .ok () =>
            .ok (damiaoBusMembers profile.motors,
              actuatorBindings topology profile.actuators profile.motors)

omit [DoubleArithmetic D] in
/-- A profile of the loader. -/
theorem configureDamiao_eq {D : Type} [DoubleArithmetic D]
    (loaded : RobotProfile D F) :
    configureDamiao calls.openSocketCan calls.lexicallyNormal loaded =
      (configureMotors calls loaded.lists).map fun motors =>
        ⟨motors.1.map Prod.fst, motors.2⟩ := by
  unfold configureDamiao configureMotors RobotProfile.lists
  cases compilePhysicalTopology calls.lexicallyNormal loaded.sensors
      loaded.actuators with
  | error error => rfl
  | ok topology =>
      dsimp only
      split
      · rfl
      · split
        · rfl
        · cases createBuses calls.openSocketCan
              (damiaoBusMembers loaded.motors) with
          | error error => rfl
          | ok => rfl

/-- The checks before the first member is touched. -/
def preflight :
    Except Error (List (String × List ℕ) × List (ℕ × DeviceBinding)) :=
  if kRobotIoMaximumAxes < profile.axes.length then
    .error ⟨.invalidArgument, "robot I/O daemon supports at most 12 axes"⟩
  else
    match ((SafetySupervisor.create {}).configure profile.axisConfigs).2 with
    | .error error => .error error
    | .ok () =>
        match configureSerial calls profile none with
        | .error error => .error error
        | .ok _ => configureMotors calls profile

/-- The loop over the axes, which may end with an exception. -/
def constructAxes : List (AxisProfile D) → ℕ → (ℕ → Cia402PdoView) →
    (ℕ → Option (Cia402Axis D)) →
    (ℕ → Cia402PdoView) × Except Error (ℕ → Option (Cia402Axis D))
  | [], _, pdos, axes => (pdos, .ok axes)
  | axis :: rest, index, pdos, axes =>
      match Cia402Axis.create axis.config with
      | .error error => (pdos, .error ⟨.invalidArgument,
          "failed to construct configured CiA 402 axis: " ++ error⟩)
      | .ok device =>
          constructAxes rest (index + 1)
            (Function.update pdos index ((pdos index).setModeDisplay
              axis.config.mode.value))
            (Function.update axes index (some device))

end Checks

/-! ## The call -/

/-- The stop masks after the loops over servos and axes. -/
def addStopMasks {D : Type} (servos : List ServoProfile)
    (axes : List (AxisProfile D)) (masks : ℕ → BitVec 16) :
    ℕ → BitVec 16 := fun servo =>
  match servos[servo]? with
  | none => masks servo
  | some profile =>
      axes.zipIdx.foldl (fun mask entry =>
        if profile.safetyGroup = entry.1.config.safetyGroup then
          mask ||| 1#16 <<< entry.2
        else mask) (masks servo)

namespace DaemonMembers

variable {D F τ : Type} [DoubleArithmetic D] [SinglePrecision F]
  (calls : ConfigureCalls τ)

/-- The assignments behind the last check. -/
def commit (daemon : DaemonMembers D F τ) (profile : ProfileLists D F)
    (motors : List (String × List ℕ) × List (ℕ × DeviceBinding))
    (axes : ℕ → Option (Cia402Axis D))
    (registry : St3215DeviceRegistry D τ) : DaemonMembers D F τ :=
  { daemon with
    serialDevices := some registry
    st3215DdsSensorIndices :=
      PolicyRuntime.st3215DdsSensorIndices profile.sensors profile.servos
    serialAxisStopMasks :=
      addStopMasks profile.servos profile.axes daemon.serialAxisStopMasks
    axes := axes
    axisConfigurations := profile.axes
    transportRuntimes := motors.1
    actuatorBindings := motors.2
    damiaoSensors := profile.motors.map fun motor =>
      ⟨BitVec.ofNat 8 motor.motorId, motor.limits⟩
    damiaoActuators := profile.motors.map DamiaoActuator.configured
    axisCount := profile.axes.length
    axisPublication := some
      ⟨0, 0, profile.axes.length, fun _ => .disable, fun _ => .empty⟩
    configured := true }

/-- From the supervisors on. -/
def configureDevices (daemon : DaemonMembers D F τ)
    (profile : ProfileLists D F)
    (motors : List (String × List ℕ) × List (ℕ × DeviceBinding))
    (axes : ℕ → Option (Cia402Axis D)) :
    DaemonMembers D F τ × Except Error Unit :=
  let safety := daemon.safety.configure profile.axisConfigs
  match safety.2 with
  | .error error =>
      (daemon.setSupervisors safety.1 daemon.commandIngress, .error error)
  | .ok () =>
      let ingress := daemon.commandIngress.configure profile.axisConfigs
      let supervised := daemon.setSupervisors safety.1 ingress.1
      match ingress.2 with
      | .error error => (supervised, .error error)
      | .ok () =>
          match configureSerial calls profile daemon.serialDevices with
          | .error error => (supervised, .error error)
          | .ok registry =>
              (supervised.commit profile motors axes registry, .ok ())

def configure (daemon : DaemonMembers D F τ) (profile : ProfileLists D F) :
    DaemonMembers D F τ × Except Error Unit :=
  if daemon.configured || daemon.running then
    (daemon, .error
      ⟨.invalidArgument, "robot I/O daemon is already configured"⟩)
  else
    match preflight calls profile with
    | .error error => (daemon, .error error)
    | .ok motors =>
        let constructed := constructAxes profile.axes 0 daemon.standalonePdos
          fun _ => none
        let shown := daemon.setStandalonePdos constructed.1
        match constructed.2 with
        | .error error => (shown, .error error)
        | .ok axes => shown.configureDevices calls profile motors axes

end DaemonMembers

def configureMachine {D F τ : Type} [DoubleArithmetic D] [SinglePrecision F]
    (calls : ConfigureCalls τ) :
    Machine (DaemonMembers D F τ) (ProfileLists D F) (Except Error Unit) where
  step := DaemonMembers.configure calls

/-! ## Supervisors -/

namespace SafetySupervisor

variable {D : Type} [DoubleArithmetic D]

/-- The loop over the axes reads no member. -/
theorem configureLoop_result (left right : SafetySupervisor D)
    (axes : List (AxisConfig D)) (index : ℕ)
    (assigned : List (String × UInt8)) (nextGroup : UInt8) :
    (left.configureLoop axes index assigned nextGroup).2 =
      (right.configureLoop axes index assigned nextGroup).2 := by
  induction axes generalizing left right index assigned nextGroup with
  | nil => rfl
  | cons axis rest ih =>
      unfold configureLoop
      split
      · rfl
      · split
        · rfl
        · exact ih _ _ _ _ _

/-- The result of a first configuration. -/
theorem configure_result {supervisor : SafetySupervisor D}
    (hopen : supervisor.configured = false) (axes : List (AxisConfig D)) :
    (supervisor.configure axes).2 =
      if kRobotIoMaximumAxes < axes.length ||
          !validOptions supervisor.options then
        .error ⟨.invalidArgument, "invalid axis count or safety options"⟩
      else (supervisor.configureLoop axes 0 [] 0).2 := by
  unfold configure
  rw [hopen, if_neg Bool.false_ne_true]
  split
  · rfl
  · obtain ⟨next, result⟩ := supervisor.configureLoop axes 0 [] 0
    cases result with
    | error error => rfl
    | ok => rfl

/-- What passes with default options fails for the sake of the options, or not
at all. -/
theorem configure_create (options : SafetyOptions) {axes : List (AxisConfig D)}
    (hpreflight : ((create {} : SafetySupervisor D).configure axes).2 =
      .ok ()) :
    ((create options : SafetySupervisor D).configure axes).2 = .ok () ∨
      ((create options : SafetySupervisor D).configure axes).1 =
        create options := by
  by_cases hrefused : (decide (kRobotIoMaximumAxes < axes.length) ||
      !validOptions options) = true
  · right
    unfold configure
    rw [if_neg (by exact Bool.false_ne_true)]
    exact congrArg Prod.fst (if_pos hrefused)
  · left
    rw [configure_result rfl] at hpreflight ⊢
    refine (if_neg hrefused).trans ?_
    rw [configureLoop_result (create options) (create {})]
    split at hpreflight
    · cases hpreflight
    · exact hpreflight

end SafetySupervisor

/-! ## Views -/

section Views

variable {D : Type} [DoubleArithmetic D]

/-- Two views differ in their mode displays at most. -/
def SameView (left right : Cia402PdoView) : Prop :=
  left.setModeDisplay 0 = right.setModeDisplay 0

theorem SameView.setModeDisplay {left right : Cia402PdoView}
    (h : SameView left right) (mode : ℤ) :
    left.setModeDisplay mode = right.setModeDisplay mode := by
  have hset := congrArg (Cia402PdoView.setModeDisplay · mode) h
  exact hset

theorem constructAxes_sameView (axes : List (AxisProfile D)) (index : ℕ)
    (pdos : ℕ → Cia402PdoView) (devices : ℕ → Option (Cia402Axis D))
    (axis : ℕ) :
    SameView ((constructAxes axes index pdos devices).1 axis) (pdos axis) := by
  induction axes generalizing index pdos devices with
  | nil => rfl
  | cons first rest ih =>
      unfold constructAxes
      split
      · rfl
      · refine (ih (index + 1) _ _).trans ?_
        by_cases haxis : axis = index
        · subst haxis
          rw [Function.update_self]
          rfl
        · rw [Function.update_of_ne haxis]

/-- The axes do not depend on the views, and their views do not depend on what
was displayed before. -/
theorem constructAxes_agrees (axes : List (AxisProfile D)) (index : ℕ)
    {left right : ℕ → Cia402PdoView}
    (devices : ℕ → Option (Cia402Axis D))
    (hviews : ∀ axis, SameView (left axis) (right axis))
    (hbelow : ∀ axis < index, left axis = right axis) :
    (constructAxes axes index left devices).2 =
        (constructAxes axes index right devices).2 ∧
      ∀ built, (constructAxes axes index right devices).2 = .ok built →
        ∀ axis < index + axes.length,
          (constructAxes axes index left devices).1 axis =
            (constructAxes axes index right devices).1 axis := by
  induction axes generalizing index left right devices with
  | nil => exact ⟨rfl, fun _ _ => hbelow⟩
  | cons first rest ih =>
      unfold constructAxes
      split
      · exact ⟨rfl, nofun⟩
      · have hat := (hviews index).setModeDisplay first.config.mode.value
        have hupdated (axis : ℕ) :
            SameView (Function.update left index ((left index).setModeDisplay
                first.config.mode.value) axis)
              (Function.update right index ((right index).setModeDisplay
                first.config.mode.value) axis) := by
          by_cases haxis : axis = index
          · subst haxis
            rw [Function.update_self, Function.update_self, hat]
            rfl
          · rw [Function.update_of_ne haxis, Function.update_of_ne haxis]
            exact hviews axis
        have hknown : ∀ axis < index + 1,
            Function.update left index ((left index).setModeDisplay
                first.config.mode.value) axis =
              Function.update right index ((right index).setModeDisplay
                first.config.mode.value) axis := by
          intro axis hlt
          by_cases haxis : axis = index
          · subst haxis
            rw [Function.update_self, Function.update_self, hat]
          · rw [Function.update_of_ne haxis, Function.update_of_ne haxis]
            exact hbelow axis (by omega)
        obtain ⟨hresult, hshown⟩ := ih (index + 1) _ hupdated hknown
        refine ⟨hresult, ?_⟩
        intro built hbuilt axis hlt
        refine hshown built hbuilt axis ?_
        rw [List.length_cons] at hlt
        omega

/-- No constructor threw. -/
theorem create_of_constructAxes {axes : List (AxisProfile D)} {index : ℕ}
    {pdos : ℕ → Cia402PdoView} {devices built : ℕ → Option (Cia402Axis D)}
    (hbuilt : (constructAxes axes index pdos devices).2 = .ok built) :
    ∀ axis ∈ axes, ∃ device, Cia402Axis.create axis.config = .ok device := by
  induction axes generalizing index pdos devices with
  | nil => simp
  | cons first rest ih =>
      unfold constructAxes at hbuilt
      split at hbuilt
      · cases hbuilt
      · next device hdevice =>
          intro axis haxis
          rcases List.mem_cons.mp haxis with rfl | hrest
          · exact ⟨device, hdevice⟩
          · exact ih hbuilt axis hrest

end Views

/-! ## Failed attempts -/

namespace DaemonMembers

variable {D F τ : Type} [DoubleArithmetic D] [SinglePrecision F]
  {calls : ConfigureCalls τ} {options : SafetyOptions}

/-- Only mode displays tell the daemon from a new one. -/
structure Unconfigured (options : SafetyOptions)
    (daemon : DaemonMembers D F τ) : Prop where
  members : daemon =
    (constructed options).setStandalonePdos daemon.standalonePdos
  views : ∀ axis, SameView (daemon.standalonePdos axis)
    ((constructed options : DaemonMembers D F τ).standalonePdos axis)

/-- The two daemons agree on everything a configured daemon reads. -/
structure SameConfiguration (left right : DaemonMembers D F τ) : Prop where
  members : left = right.setStandalonePdos left.standalonePdos
  views : ∀ axis < right.axisCount,
    left.standalonePdos axis = right.standalonePdos axis

omit [SinglePrecision F] in
theorem unconfigured_constructed (options : SafetyOptions) :
    Unconfigured options (constructed options : DaemonMembers D F τ) :=
  ⟨rfl, fun _ => rfl⟩

/-- The last part of the call leaves the views alone. -/
theorem configureDevices_setStandalonePdos (daemon : DaemonMembers D F τ)
    (pdos : ℕ → Cia402PdoView) (profile : ProfileLists D F)
    (motors : List (String × List ℕ) × List (ℕ × DeviceBinding))
    (axes : ℕ → Option (Cia402Axis D)) :
    (daemon.setStandalonePdos pdos).configureDevices calls profile motors
        axes =
      (((daemon.configureDevices calls profile motors axes).1).setStandalonePdos
          pdos,
        (daemon.configureDevices calls profile motors axes).2) := by
  have hsafety : (daemon.setStandalonePdos pdos).safety = daemon.safety := rfl
  have hingress : (daemon.setStandalonePdos pdos).commandIngress =
      daemon.commandIngress := rfl
  have hserial : (daemon.setStandalonePdos pdos).serialDevices =
      daemon.serialDevices := rfl
  unfold configureDevices
  rw [hsafety, hingress, hserial]
  dsimp only
  cases (daemon.safety.configure profile.axisConfigs).2 with
  | error error => rfl
  | ok =>
      dsimp only
      cases (daemon.commandIngress.configure profile.axisConfigs).2 with
      | error error => rfl
      | ok =>
          dsimp only
          cases configureSerial calls profile daemon.serialDevices with
          | error error => rfl
          | ok registry => rfl

variable (options) in
/-- Behind the checks only the options can still fail. -/
theorem configureDevices_constructed {profile : ProfileLists D F}
    {motors : List (String × List ℕ) × List (ℕ × DeviceBinding)}
    (hpreflight : preflight calls profile = .ok motors)
    (axes : ℕ → Option (Cia402Axis D)) :
    ((constructed options : DaemonMembers D F τ).configureDevices calls
        profile motors axes).2 = .ok () ∨
      ((constructed options).configureDevices calls profile motors axes).1 =
        constructed options := by
  unfold preflight at hpreflight
  split at hpreflight
  · cases hpreflight
  · split at hpreflight
    · cases hpreflight
    · next hsupervisor =>
        split at hpreflight
        · cases hpreflight
        · next registry hserial =>
            unfold configureDevices
            dsimp only [constructed]
            obtain hok | hsame :=
              SafetySupervisor.configure_create options hsupervisor
            · left
              simp only [hok, hserial]
            · cases ((SafetySupervisor.create options :
                  SafetySupervisor D).configure profile.axisConfigs).2 with
              | ok =>
                  left
                  simp only [hserial]
              | error error =>
                  right
                  simp only [hsame]
                  rfl

/-- What a successful call has passed and written. -/
theorem configureDevices_ok {daemon : DaemonMembers D F τ}
    {profile : ProfileLists D F}
    {motors : List (String × List ℕ) × List (ℕ × DeviceBinding)}
    {axes : ℕ → Option (Cia402Axis D)}
    (hok : (daemon.configureDevices calls profile motors axes).2 = .ok ()) :
    ∃ registry, (daemon.safety.configure profile.axisConfigs).2 = .ok () ∧
      (daemon.configureDevices calls profile motors axes).1 =
        (daemon.setSupervisors
          (daemon.safety.configure profile.axisConfigs).1
          (daemon.commandIngress.configure profile.axisConfigs).1).commit
            profile motors axes registry := by
  unfold configureDevices at hok ⊢
  dsimp only at hok ⊢
  cases hsafety : (daemon.safety.configure profile.axisConfigs).2 with
  | error error =>
      rw [hsafety] at hok
      cases hok
  | ok =>
      rw [hsafety] at hok
      dsimp only at hok ⊢
      cases hingress : (daemon.commandIngress.configure
          profile.axisConfigs).2 with
      | error error =>
          rw [hingress] at hok
          cases hok
      | ok =>
          rw [hingress] at hok
          dsimp only at hok ⊢
          cases hserial : configureSerial calls profile
              daemon.serialDevices with
          | error error =>
              rw [hserial] at hok
              cases hok
          | ok registry => exact ⟨registry, rfl, rfl⟩

variable (options) in
/-- A call of an unconfigured daemon. -/
theorem configure_unconfigured (pdos : ℕ → Cia402PdoView)
    (profile : ProfileLists D F) :
    ((constructed options : DaemonMembers D F τ).setStandalonePdos
        pdos).configure calls profile =
      match preflight calls profile with
      | .error error =>
          ((constructed options).setStandalonePdos pdos, .error error)
      | .ok motors =>
          let built := constructAxes profile.axes 0 pdos fun _ => none
          match built.2 with
          | .error error =>
              ((constructed options).setStandalonePdos built.1, .error error)
          | .ok axes =>
              ((((constructed options).configureDevices calls profile motors
                  axes).1).setStandalonePdos built.1,
                ((constructed options).configureDevices calls profile motors
                  axes).2) := by
  unfold configure
  rw [if_neg (by exact Bool.false_ne_true)]
  cases preflight calls profile with
  | error error => rfl
  | ok motors =>
      dsimp only
      have hpdos : ((constructed options :
          DaemonMembers D F τ).setStandalonePdos pdos).standalonePdos =
          pdos := rfl
      rw [hpdos]
      cases (constructAxes profile.axes 0 pdos fun _ => none).2 with
      | error error => rfl
      | ok axes =>
          exact configureDevices_setStandalonePdos (constructed options) _
            profile motors axes

/-- A failed attempt leaves the daemon unconfigured. -/
theorem Unconfigured.configure_error {daemon : DaemonMembers D F τ}
    (h : Unconfigured options daemon) {profile : ProfileLists D F}
    {error : Error}
    (hfails : (daemon.configure calls profile).2 = .error error) :
    Unconfigured options (daemon.configure calls profile).1 := by
  rw [h.members, configure_unconfigured] at hfails ⊢
  cases hpreflight : preflight calls profile with
  | error error => exact ⟨rfl, h.views⟩
  | ok motors =>
      rw [hpreflight] at hfails
      dsimp only at hfails ⊢
      have hviews (axis : ℕ) := (constructAxes_sameView profile.axes 0
        daemon.standalonePdos (fun _ => none) axis).trans (h.views axis)
      cases hbuilt : (constructAxes profile.axes 0 daemon.standalonePdos
          fun _ => none).2 with
      | error error => exact ⟨rfl, hviews⟩
      | ok axes =>
          rw [hbuilt] at hfails
          dsimp only at hfails ⊢
          obtain hok | hsame := configureDevices_constructed
            options hpreflight axes
          · rw [hok] at hfails
            cases hfails
          · rw [hsame]
            exact ⟨rfl, hviews⟩

/-- An attempt on an unconfigured daemon and on a new one. -/
theorem Unconfigured.configure_agrees {daemon : DaemonMembers D F τ}
    (h : Unconfigured options daemon) (profile : ProfileLists D F) :
    (daemon.configure calls profile).2 =
        ((constructed options).configure calls profile).2 ∧
      (((constructed options).configure calls profile).2 = .ok () →
        SameConfiguration (daemon.configure calls profile).1
          ((constructed options).configure calls profile).1) := by
  have hnew : (constructed options : DaemonMembers D F τ).configure calls
      profile = _ := configure_unconfigured options
        (constructed options : DaemonMembers D F τ).standalonePdos profile
  rw [h.members, configure_unconfigured, hnew]
  cases hpreflight : preflight calls profile with
  | error error => exact ⟨rfl, nofun⟩
  | ok motors =>
      dsimp only
      obtain ⟨hresult, hshown⟩ := constructAxes_agrees profile.axes 0
        (fun _ => none) h.views (fun _ hlt => absurd hlt (Nat.not_lt_zero _))
      rw [hresult]
      cases hbuilt : (constructAxes profile.axes 0 (constructed options :
          DaemonMembers D F τ).standalonePdos fun _ => none).2 with
      | error error => exact ⟨rfl, nofun⟩
      | ok axes =>
          refine ⟨rfl, ?_⟩
          intro hok
          refine ⟨rfl, ?_⟩
          intro axis haxis
          refine hshown axes hbuilt axis ?_
          obtain ⟨_, _, hcommit⟩ := configureDevices_ok hok
          dsimp only at haxis
          rw [hcommit] at haxis
          rw [Nat.zero_add]
          exact haxis

/-- What a successful first call has passed. -/
theorem configure_constructed_ok {profile : ProfileLists D F}
    (hok : ((constructed options : DaemonMembers D F τ).configure calls
      profile).2 = .ok ()) :
    ∃ motors, configureMotors calls profile = .ok motors ∧
      ((SafetySupervisor.create options :
        SafetySupervisor D).configure profile.axisConfigs).2 = .ok () ∧
      (∀ axis ∈ profile.axes, ∃ device,
        Cia402Axis.create axis.config = .ok device) ∧
      ((constructed options : DaemonMembers D F τ).configure calls
        profile).1.actuatorBindings = motors.2 := by
  have hnew : (constructed options : DaemonMembers D F τ).configure calls
      profile = _ := configure_unconfigured options
        (constructed options : DaemonMembers D F τ).standalonePdos profile
  rw [hnew] at hok ⊢
  cases hpreflight : preflight calls profile with
  | error error =>
      rw [hpreflight] at hok
      cases hok
  | ok motors =>
      rw [hpreflight] at hok
      dsimp only at hok ⊢
      cases hbuilt : (constructAxes profile.axes 0 (constructed options :
          DaemonMembers D F τ).standalonePdos fun _ => none).2 with
      | error error =>
          rw [hbuilt] at hok
          cases hok
      | ok axes =>
          rw [hbuilt] at hok
          obtain ⟨registry, hsafety, hcommit⟩ := configureDevices_ok hok
          refine ⟨motors, ?_, hsafety, create_of_constructAxes hbuilt, ?_⟩
          · unfold preflight at hpreflight
            split at hpreflight
            · cases hpreflight
            · split at hpreflight
              · cases hpreflight
              · split at hpreflight
                · cases hpreflight
                · exact hpreflight
          · dsimp only
            rw [hcommit]
            rfl

/-- A successful call is the last one that does anything. -/
theorem Unconfigured.configure_ok {daemon : DaemonMembers D F τ}
    (h : Unconfigured options daemon) {profile : ProfileLists D F}
    (hok : (daemon.configure calls profile).2 = .ok ()) :
    (daemon.configure calls profile).1.configured = true := by
  rw [h.members, configure_unconfigured] at hok ⊢
  cases hpreflight : preflight calls profile with
  | error error =>
      rw [hpreflight] at hok
      cases hok
  | ok motors =>
      rw [hpreflight] at hok
      dsimp only at hok ⊢
      cases hbuilt : (constructAxes profile.axes 0 daemon.standalonePdos
          fun _ => none).2 with
      | error error =>
          rw [hbuilt] at hok
          cases hok
      | ok axes =>
          rw [hbuilt] at hok
          obtain ⟨registry, _, hcommit⟩ := configureDevices_ok hok
          dsimp only
          rw [hcommit]
          rfl

theorem configure_of_configured {daemon : DaemonMembers D F τ}
    (hconfigured : daemon.configured = true) (profile : ProfileLists D F) :
    daemon.configure calls profile = (daemon, .error
      ⟨.invalidArgument, "robot I/O daemon is already configured"⟩) := by
  unfold configure
  simp [hconfigured]

/-- Every daemon is configured or as good as new. -/
theorem unconfigured_final (calls : ConfigureCalls τ)
    (options : SafetyOptions) (profiles : List (ProfileLists D F)) :
    ((configureMachine calls).final (constructed options)
        profiles).configured = true ∨
      Unconfigured options
        ((configureMachine calls).final (constructed options) profiles) := by
  refine Machine.invariant_final
    (fun daemon : DaemonMembers D F τ =>
      daemon.configured = true ∨ Unconfigured options daemon) ?_
    (Or.inr (unconfigured_constructed options)) profiles
  intro daemon profile hdaemon
  obtain hconfigured | hopen := hdaemon
  · left
    simp only [configureMachine, configure_of_configured hconfigured]
    exact hconfigured
  · cases hresult : (daemon.configure calls profile).2 with
    | error error => exact Or.inr (hopen.configure_error hresult)
    | ok => exact Or.inl (hopen.configure_ok hresult)

/-- After a failed attempt on a daemon which is not configured, the next one
has the result it has on a new daemon, and configures the same. -/
theorem failed_configure_retryable (calls : ConfigureCalls τ)
    (options : SafetyOptions) (daemon : DaemonMembers D F τ)
    (hreached : ∃ earlier : List (ProfileLists D F),
      daemon = (configureMachine calls).final (constructed options) earlier)
    (hopen : daemon.configured = false) (failing : ProfileLists D F)
    (error : Error)
    (hfails : (daemon.configure calls failing).2 = .error error)
    (profile : ProfileLists D F) :
    ((daemon.configure calls failing).1.configure calls profile).2 =
        ((constructed options).configure calls profile).2 ∧
      (((constructed options).configure calls profile).2 = .ok () →
        SameConfiguration
          ((daemon.configure calls failing).1.configure calls profile).1
          ((constructed options).configure calls profile).1) := by
  obtain ⟨earlier, rfl⟩ := hreached
  obtain hconfigured | hunconfigured :=
    unconfigured_final calls options earlier
  · rw [hconfigured] at hopen
    cases hopen
  · exact (hunconfigured.configure_error hfails).configure_agrees profile

end DaemonMembers

/-! ## A configured daemon -/

section TwoMotors

open DaemonMembers

def quietCalls : ConfigureCalls Unit where
  openSocketCan := fun _ => .ok ()
  lexicallyNormal := id
  serialTransport := fun _ => ()
  placeholder := ()

def newDaemon : DaemonMembers ℚ ℚ Unit := .constructed {}

def twoMotorDaemon : DaemonMembers ℚ ℚ Unit :=
  (newDaemon.configure quietCalls twoMotorProfile.lists).1

theorem twoMotorDaemon_ok :
    (newDaemon.configure quietCalls twoMotorProfile.lists).2 = .ok () := by
  have hok : (newDaemon.configure quietCalls
      twoMotorProfile.lists).2.isOk = true := by
    decide +kernel
  cases hresult : (newDaemon.configure quietCalls
      twoMotorProfile.lists).2 with
  | error error =>
      rw [hresult] at hok
      cases hok
  | ok => rfl

/-- A configured daemon refuses what a new one accepts. -/
theorem configured_daemon_refuses :
    twoMotorDaemon = (configureMachine quietCalls).final newDaemon
        [twoMotorProfile.lists] ∧
      (twoMotorDaemon.configure quietCalls twoMotorProfile.lists).2 = .error
        ⟨.invalidArgument, "robot I/O daemon is already configured"⟩ ∧
      ((twoMotorDaemon.configure quietCalls
          twoMotorProfile.lists).1.configure quietCalls
            twoMotorProfile.lists).2 ≠
        (newDaemon.configure quietCalls twoMotorProfile.lists).2 := by
  have hconfigured : twoMotorDaemon.configured = true :=
    (unconfigured_constructed {}).configure_ok twoMotorDaemon_ok
  refine ⟨rfl, ?_, ?_⟩
  · rw [configure_of_configured hconfigured]
  · rw [configure_of_configured hconfigured,
      configure_of_configured hconfigured, twoMotorDaemon_ok]
    nofun

/-- A servo with the broadcast identifier. -/
def broadcastServo : ServoProfile where
  sensorName := "sensor"
  actuatorName := "actuator"
  serial := ⟨⟨"/dev/ttyS0", 1000000, 64, 259, 1000000⟩, 0, 0⟩
  deviceId := 0xfe
  servoId := 1
  maxPositionUnits := 4095
  speedUnits := 0
  timeUnits := 0
  feedbackTimeout := 250
  commandTimeout := 250
  maximumCommandFuture := 50
  safetyGroup := "arm"

/-- The two motors with a servo that no bus takes. -/
def unusableProfile : ProfileLists ℚ ℚ :=
  { twoMotorProfile.lists with servos := [broadcastServo] }

theorem unusableProfile_fails :
    (newDaemon.configure quietCalls unusableProfile).2 = .error
      ⟨.invalidArgument, "invalid ST3215 servo configuration"⟩ := by
  rfl

theorem failed_configure_retryable_servo :
    ((newDaemon.configure quietCalls unusableProfile).1.configure quietCalls
        twoMotorProfile.lists).2 =
        (newDaemon.configure quietCalls twoMotorProfile.lists).2 ∧
      SameConfiguration
        ((newDaemon.configure quietCalls unusableProfile).1.configure
          quietCalls twoMotorProfile.lists).1
        (newDaemon.configure quietCalls twoMotorProfile.lists).1 := by
  have hretry := failed_configure_retryable quietCalls {} newDaemon ⟨[], rfl⟩
    rfl unusableProfile _ unusableProfile_fails twoMotorProfile.lists
  exact ⟨hretry.1, hretry.2 twoMotorDaemon_ok⟩

end TwoMotors

end PolicyRuntime
