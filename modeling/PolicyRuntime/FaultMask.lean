import PolicyRuntime.LatchedBus
import PolicyRuntime.Sequences

/-!
# Which servos a safety snapshot marks

A snapshot marks a servo whose feedback carries a fault flag or is out of date.
On a latched bus the servo at the cursor is always marked; the others are marked
from one snapshot on exactly if they are out of date at this snapshot.
-/

namespace PolicyRuntime

open FloatingPoint

variable {D τ ε : Type}

/-! ## Marks -/

/-- A servo which a snapshot marks. -/
def Faulty (servo : St3215Servo D) (nowNs : ℤ) : Prop :=
  ((servo.feedback nowNs).flags &&& kFaultFlags != 0) = true

/-- The servo has never answered, has answered with a fault, or its last answer
is older than its timeout. -/
def OutOfDate (servo : St3215Servo D) (nowNs : ℤ) : Prop :=
  (servo.latestFeedback.flags &&& kFaultFlags != 0) = true ∨
    servo.latestFeedback.timestampNs ≤ 0 ∨
    servo.config.feedbackTimeout * 1000000 <
      nowNs - servo.latestFeedback.timestampNs

theorem fault_of_stale {flags : BitVec 32} (hstale : flags.getLsbD 1 = true) :
    (flags &&& kFaultFlags != 0) = true := by
  rw [bne_iff_ne]
  intro hzero
  have hbit := congrArg (fun word => BitVec.getLsbD word 1) hzero
  simp only [BitVec.getLsbD_and, hstale] at hbit
  revert hbit
  decide

theorem faulty_of_stale {servo : St3215Servo D}
    (hstale : servo.latestFeedback.flags.getLsbD 1 = true) (nowNs : ℤ) :
    Faulty servo nowNs := by
  apply fault_of_stale
  unfold St3215Servo.feedback
  simp only
  split
  · simp [kSt3215FeedbackStale, kSt3215FeedbackValid]
  · exact hstale

theorem faulty_iff {servo : St3215Servo D} {nowNs : ℤ} (hnow : 0 < nowNs)
    (htimeout : 0 < servo.config.feedbackTimeout)
    (hpublished : servo.latestFeedback.timestampNs ≤ nowNs) :
    Faulty servo nowNs ↔ OutOfDate servo nowNs := by
  by_cases hold : servo.latestFeedback.timestampNs ≤ 0 ∨
      servo.config.feedbackTimeout * 1000000 <
        nowNs - servo.latestFeedback.timestampNs
  · refine iff_of_true ?_ (Or.inr hold)
    apply fault_of_stale
    unfold St3215Servo.feedback
    simp only
    rw [if_pos]
    · simp [kSt3215FeedbackStale, kSt3215FeedbackValid]
    · simp only [hnow, htimeout, decide_true, Bool.true_and, Bool.or_eq_true,
        decide_eq_true_eq]
      rcases hold with hnever | hlate
      · exact Or.inl (Or.inl hnever)
      · exact Or.inr hlate
  · have hfresh : servo.feedback nowNs = servo.latestFeedback := by
      unfold St3215Servo.feedback
      simp only
      rw [if_neg]
      simp only [hnow, htimeout, decide_true, Bool.true_and, Bool.or_eq_true,
        decide_eq_true_eq]
      omega
    unfold Faulty OutOfDate
    rw [hfresh]
    constructor
    · exact Or.inl
    · intro hout
      rcases hout with hflags | hlate
      · exact hflags
      · exact absurd hlate hold

namespace St3215DeviceRegistry

variable (registry : St3215DeviceRegistry D τ) (nowNs : ℤ)

theorem faultMask_prefix (count : ℕ) {servo : ℕ} (hservo : servo < 32) :
    ((List.range count).foldl (registry.addServoState nowNs)
        ⟨registry.servoCount, 0, 0, 0⟩).faultMask.getLsbD servo = true ↔
      servo < count ∧ Faulty (registry.servo servo) nowNs := by
  induction count with
  | zero => simp
  | succ count ih =>
      rw [List.range_succ, List.foldl_append, List.foldl_cons, List.foldl_nil]
      generalize (List.range count).foldl (registry.addServoState nowNs)
        ⟨registry.servoCount, 0, 0, 0⟩ = snapshot at ih ⊢
      have hmask : (registry.addServoState nowNs snapshot
          count).faultMask.getLsbD servo =
            (snapshot.faultMask.getLsbD servo ||
              (((registry.servo count).feedback nowNs).flags &&& kFaultFlags
                != 0) && decide (servo = count)) := by
        unfold addServoState
        simp only
        split
        · rename_i hfaulty
          rw [hfaulty]
          by_cases hlast : servo = count
          · subst hlast
            simp [hservo]
          · have hbit : ((1#32 <<< count).getLsbD servo) = false := by
              simp
              omega
            simp [BitVec.getLsbD_or, hbit, hlast]
        · rename_i hsound
          rw [Bool.not_eq_true] at hsound
          rw [hsound]
          simp
      rw [hmask, Bool.or_eq_true, ih, Bool.and_eq_true, decide_eq_true_eq]
      constructor
      · intro hmarked
        rcases hmarked with ⟨hlt, hfaulty⟩ | ⟨hfaulty, hlast⟩
        · exact ⟨by omega, hfaulty⟩
        · refine ⟨by omega, ?_⟩
          rw [hlast]
          exact hfaulty
      · intro hmarked
        rcases Nat.lt_succ_iff_lt_or_eq.mp hmarked.1 with hlt | hlast
        · exact Or.inl ⟨hlt, hmarked.2⟩
        · refine Or.inr ⟨?_, hlast⟩
          rw [← hlast]
          exact hmarked.2

theorem safetySnapshot_marks {servo : ℕ} (hservo : servo < 32) :
    (registry.safetySnapshot nowNs).faultMask.getLsbD servo = true ↔
      servo < registry.servoCount ∧ Faulty (registry.servo servo) nowNs :=
  registry.faultMask_prefix nowNs registry.servoCount hservo

theorem safetySnapshot_servoCount :
    (registry.safetySnapshot nowNs).servoCount = registry.servoCount := by
  unfold safetySnapshot
  generalize List.range registry.servoCount = servos
  generalize hstart : (⟨registry.servoCount, 0, 0, 0⟩ :
    St3215RegistrySafetySnapshot) = start
  have hcount : start.servoCount = registry.servoCount := by rw [← hstart]
  clear hstart
  induction servos generalizing start with
  | nil => exact hcount
  | cons servo rest ih => exact ih _ hcount

theorem serialAxisStopMask_bit {axisGroups : List String} {servo axis : ℕ}
    (haxis : axis < axisGroups.length) (hword : axis < 16)
    (hgroup : registry.safetyGroups servo = axisGroups.getD axis "") :
    (registry.serialAxisStopMask axisGroups servo).getLsbD axis = true := by
  unfold serialAxisStopMask
  refine foldl_establish (fun _ => True)
    (fun mask : BitVec 16 => mask.getLsbD axis = true) (fun _ _ _ _ => trivial)
    ?_ (List.mem_range.mpr haxis) ?_ trivial
  · intro mask other _ hmask
    split
    · simp [hmask]
    · exact hmask
  · intro mask _
    rw [if_pos hgroup]
    simp [hword]

/-- A marked servo stops the axes of its safety group. -/
theorem serialStopMask_bit {axisGroups : List String} {servo axis : ℕ}
    (hservo : servo < registry.servoCount)
    (hmarked :
      (registry.safetySnapshot nowNs).faultMask.getLsbD servo = true)
    (haxis : (registry.serialAxisStopMask axisGroups servo).getLsbD axis =
      true) :
    (registry.serialStopMask axisGroups
      (registry.safetySnapshot nowNs)).getLsbD axis = true := by
  unfold serialStopMask
  rw [safetySnapshot_servoCount]
  refine foldl_establish (fun _ => True)
    (fun mask : BitVec 16 => mask.getLsbD axis = true) (fun _ _ _ _ => trivial)
    ?_ (List.mem_range.mpr hservo) ?_ trivial
  · intro mask other _ hmask
    split
    · simp [hmask]
    · exact hmask
  · intro mask _
    rw [if_pos (by rw [and_bit_ne_zero, hmarked])]
    simp [haxis]

end St3215DeviceRegistry

variable [DoubleArithmetic D]

/-! ## Runs of a registry -/

/-- A step of the registry moves a bus by at most one step, at the present
time. -/
theorem registry_bus_step (port : SerialPort τ ε) (state : RegistryState D τ)
    (input : RegistryInput D ε) (bus : ℕ) :
    ((registryMachine port).step state input).1.registry.buses bus =
        state.registry.buses bus ∨
      ∃ busInput : BusInput D ε, busInput.AtTime state.clockNs ∧
        ((registryMachine port).step state input).1.registry.buses bus =
          ((busMachine port).step (state.registry.buses bus) busInput).1 := by
  have hset : ∀ (index : ℕ) (after : St3215Bus D τ) (busInput : BusInput D ε),
      busInput.AtTime state.clockNs →
      after = ((busMachine port).step (state.registry.buses index)
        busInput).1 →
      (state.setBus index after).registry.buses bus =
          state.registry.buses bus ∨
        ∃ busInput : BusInput D ε, busInput.AtTime state.clockNs ∧
          (state.setBus index after).registry.buses bus =
            ((busMachine port).step (state.registry.buses bus)
              busInput).1 := by
    intro index after busInput htime hafter
    unfold RegistryState.setBus
    simp only
    by_cases hbus : bus = index
    · subst hbus
      right
      refine ⟨busInput, htime, ?_⟩
      rw [Function.update_self, hafter]
    · left
      rw [Function.update_of_ne hbus]
  cases input with
  | tick elapsed => exact Or.inl rfl
  | stage servo command =>
      simp only [registryMachine]
      split
      · exact hset _ _ (.stage ⟨_, command, state.clockNs⟩) trivial rfl
      · exact Or.inl rfl
  | start index permitted =>
      exact hset index _ (.start state.clockNs permitted) trivial rfl
  | stop index => exact hset index _ .stop trivial rfl
  | cycle index pollReadable staged dispatchReadable environment =>
      exact hset index _ (.cycle ⟨state.clockNs, pollReadable, staged,
        dispatchReadable, environment⟩) rfl rfl
  | snapshot => exact Or.inl rfl

/-- The parts of a registry which no run changes. -/
structure SameLayout (before after : RegistryState D τ) : Prop where
  servoCount : after.registry.servoCount = before.registry.servoCount
  places : after.registry.places = before.registry.places
  safetyGroups : after.registry.safetyGroups = before.registry.safetyGroups
  clock : before.clockNs ≤ after.clockNs

omit [DoubleArithmetic D] in
theorem sameLayout_setBus (state : RegistryState D τ) (index : ℕ)
    (bus : St3215Bus D τ) : SameLayout state (state.setBus index bus) :=
  ⟨rfl, rfl, rfl, le_rfl⟩

theorem sameLayout_step (port : SerialPort τ ε) (state : RegistryState D τ)
    (input : RegistryInput D ε) :
    SameLayout state ((registryMachine port).step state input).1 := by
  cases input with
  | tick elapsed =>
      refine ⟨rfl, rfl, rfl, ?_⟩
      show state.clockNs ≤ state.clockNs + elapsed
      omega
  | stage servo command =>
      simp only [registryMachine]
      split
      · exact sameLayout_setBus state _ _
      · exact ⟨rfl, rfl, rfl, le_rfl⟩
  | start index permitted => exact sameLayout_setBus state _ _
  | stop index => exact sameLayout_setBus state _ _
  | cycle index pollReadable staged dispatchReadable environment =>
      exact sameLayout_setBus state _ _
  | snapshot => exact ⟨rfl, rfl, rfl, le_rfl⟩

structure RegistryOk (state : RegistryState D τ) : Prop where
  clock : 0 < state.clockNs
  servoCount : state.registry.servoCount ≤ kMaximumSt3215Servos
  charged : ∀ bus, Charged (state.registry.buses bus)
  published : ∀ bus servo,
    ((state.registry.buses bus).servos
      servo).servo.latestFeedback.timestampNs ≤ state.clockNs
  timeout : ∀ servo < state.registry.servoCount,
    0 < (state.registry.servo servo).config.feedbackTimeout

theorem RegistryOk.step {port : SerialPort τ ε} {state : RegistryState D τ}
    (hok : RegistryOk state) (input : RegistryInput D ε) :
    RegistryOk ((registryMachine port).step state input).1 := by
  have hlayout := sameLayout_step port state input
  have hclock := hok.clock
  have hbus := registry_bus_step port state input
  have hpublished : ∀ bus servo, Published state.clockNs
      ((state.registry.buses bus).servos servo)
      ((((registryMachine port).step state input).1.registry.buses
        bus).servos servo) := by
    intro bus servo
    rcases hbus bus with hsame | ⟨busInput, htime, hstep⟩
    · rw [hsame]
      exact ⟨rfl, Or.inl rfl⟩
    · rw [hstep]
      exact published_step port _ htime servo
  constructor
  · exact lt_of_lt_of_le hclock hlayout.clock
  · rw [hlayout.servoCount]
    exact hok.servoCount
  · intro bus
    rcases hbus bus with hsame | ⟨busInput, _, hstep⟩
    · rw [hsame]
      exact hok.charged bus
    · rw [hstep]
      exact (hok.charged bus).step port busInput
  · intro bus servo
    refine le_trans ?_ hlayout.clock
    rcases (hpublished bus servo).2 with hsame | hnow
    · rw [hsame]
      exact hok.published bus servo
    · rw [hnow]
  · intro servo hservo
    rw [hlayout.servoCount] at hservo
    have htimeout := hok.timeout servo hservo
    unfold St3215DeviceRegistry.servo at htimeout ⊢
    rw [hlayout.places, (hpublished _ _).1]
    exact htimeout

theorem RegistryOk.final {port : SerialPort τ ε} {state : RegistryState D τ}
    (hok : RegistryOk state) (inputs : List (RegistryInput D ε)) :
    RegistryOk ((registryMachine port).final state inputs) :=
  Machine.invariant_final RegistryOk
    (fun _ input hgood => hgood.step input) hok inputs

/-! ## A configured registry -/

/-- A bus which has not been driven and whose servos can time out. -/
structure FreshBus (bus : St3215Bus D τ) : Prop where
  unlatched : bus.faultLatched = false
  idle : bus.dispatched = false
  unpublished : ∀ servo,
    (bus.servos servo).servo.latestFeedback.timestampNs = 0
  timeout : ∀ servo < bus.servoCount,
    0 < (bus.servos servo).servo.config.feedbackTimeout

structure Fresh (registry : St3215DeviceRegistry D τ) : Prop where
  buses : ∀ bus, FreshBus (registry.buses bus)
  unused : ∀ bus, registry.busCount ≤ bus →
    (registry.buses bus).servoCount = 0
  placed : ∀ servo < registry.servoCount, (registry.places servo).slot <
    (registry.buses (registry.places servo).bus).servoCount

theorem freshBus_create (transport : τ) :
    FreshBus (St3215Bus.create transport [] : St3215Bus D τ) := by
  constructor <;>
    simp [St3215Bus.create, ServoRuntime.create, St3215Servo.create,
      St3215ServoFeedback.empty]

theorem fresh_empty (transport : τ) :
    Fresh (St3215DeviceRegistry.empty transport :
      St3215DeviceRegistry D τ) where
  buses := fun _ => freshBus_create transport
  unused := fun _ _ => rfl
  placed := fun _ hservo => absurd hservo (Nat.not_lt_zero _)

theorem FreshBus.addServo {bus added : St3215Bus D τ}
    {config : St3215ServoConfig} (hbus : FreshBus bus)
    (hadded : bus.addServo config = .ok added) :
    FreshBus added ∧ added.servoCount = bus.servoCount + 1 := by
  have hservo := servoAdded_of_ok hadded
  refine ⟨⟨hservo.faultLatched.trans hbus.unlatched,
    hservo.dispatched.trans hbus.idle, ?_, ?_⟩, hservo.servoCount⟩
  · intro servo
    by_cases hnew : servo = bus.servoCount
    · rw [hnew, hservo.placed]
      rfl
    · rw [hservo.others servo hnew]
      exact hbus.unpublished servo
  · exact hservo.servos
      (fun runtime => 0 < runtime.servo.config.feedbackTimeout) hbus.timeout
      hservo.timeout

theorem Fresh.placeServo {registry placed : St3215DeviceRegistry D τ}
    (hfresh : Fresh registry) {index : ℕ} (hindex : index < registry.busCount)
    {bus : St3215Bus D τ} (hbus : FreshBus bus)
    (hcount : (registry.buses index).servoCount ≤ bus.servoCount)
    {profile : St3215ServoProfile}
    (hplaced : registry.placeServo index bus profile = .ok placed) :
    Fresh placed ∧ placed.servoCount = registry.servoCount + 1 := by
  unfold St3215DeviceRegistry.placeServo at hplaced
  split at hplaced
  · cases hplaced
  rename_i added hadded
  cases hplaced
  obtain ⟨hfreshBus, haddedCount⟩ := hbus.addServo hadded
  refine ⟨⟨?_, ?_, ?_⟩, rfl⟩
  · intro other
    by_cases hother : other = index
    · subst hother
      simp only [Function.update_self]
      exact hfreshBus
    · simp only [Function.update_of_ne hother]
      exact hfresh.buses other
  · intro other hle
    have hother : other ≠ index := by
      simp only at hle
      omega
    simp only [Function.update_of_ne hother]
    exact hfresh.unused other hle
  · intro servo hservo
    by_cases hlast : servo = registry.servoCount
    · subst hlast
      simp only [Function.update_self, haddedCount]
      omega
    · have hbefore := hfresh.placed servo (by simp only at hservo; omega)
      simp only [Function.update_of_ne hlast]
      by_cases hsame : (registry.places servo).bus = index
      · rw [hsame] at hbefore ⊢
        rw [Function.update_self, haddedCount]
        omega
      · rw [Function.update_of_ne hsame]
        exact hbefore

theorem Fresh.addProfile {createSerial : SerialPortConfig → Except Error τ}
    {registry after : St3215DeviceRegistry D τ} (hfresh : Fresh registry)
    {profile : St3215ServoProfile}
    (hadded : registry.addProfile createSerial profile = .ok after) :
    Fresh after ∧ after.servoCount = registry.servoCount + 1 := by
  unfold St3215DeviceRegistry.addProfile at hadded
  split at hadded
  · split at hadded
    · cases hadded
    · rename_i transport _
      have hgrown : Fresh ({ registry with
          busCount := registry.busCount + 1
          serial := Function.update registry.serial registry.busCount
            profile.serial } : St3215DeviceRegistry D τ) :=
        ⟨hfresh.buses,
          fun bus hle => hfresh.unused bus (Nat.le_of_succ_le hle),
          hfresh.placed⟩
      exact hgrown.placeServo (Nat.lt_succ_self _) (freshBus_create transport)
        (hfresh.unused registry.busCount le_rfl).le hadded
  · rename_i index hfound
    split at hadded
    · refine hfresh.placeServo ?_ (hfresh.buses index) le_rfl hadded
      exact List.mem_range.mp (List.mem_of_find?_eq_some hfound)
    · cases hadded

theorem Fresh.addProfiles {createSerial : SerialPortConfig → Except Error τ}
    {registry after : St3215DeviceRegistry D τ} (hfresh : Fresh registry)
    {profiles : List St3215ServoProfile}
    (hadded : profiles.foldlM
      (St3215DeviceRegistry.addProfile createSerial) registry = .ok after) :
    Fresh after ∧ after.servoCount = registry.servoCount + profiles.length := by
  induction profiles generalizing registry with
  | nil =>
      cases hadded
      exact ⟨hfresh, rfl⟩
  | cons profile rest ih =>
      rw [List.foldlM_cons] at hadded
      cases hone : registry.addProfile createSerial profile with
      | error error =>
          rw [hone] at hadded
          cases hadded
      | ok next =>
          rw [hone] at hadded
          obtain ⟨hnext, hcount⟩ := hfresh.addProfile hone
          obtain ⟨hlast, hrest⟩ := ih hnext hadded
          refine ⟨hlast, ?_⟩
          rw [hrest, hcount, List.length_cons]
          omega

/-- A registry which was configured starts in order. -/
theorem registryOk_configure
    {createSerial : SerialPortConfig → Except Error τ} {placeholder : τ}
    {profiles : List St3215ServoProfile} {registry : St3215DeviceRegistry D τ}
    (hconfigured : St3215DeviceRegistry.configure createSerial placeholder
      profiles = .ok registry) {clockNs : ℤ} (hclock : 0 < clockNs) :
    RegistryOk ⟨registry, clockNs⟩ := by
  unfold St3215DeviceRegistry.configure at hconfigured
  split at hconfigured
  · cases hconfigured
  rename_i hsmall
  obtain ⟨hfresh, hcount⟩ :=
    (fresh_empty (D := D) placeholder).addProfiles hconfigured
  refine ⟨hclock, ?_, ?_, ?_, ?_⟩
  · simp only [St3215DeviceRegistry.empty] at hcount
    simp only
    omega
  · intro bus
    refine ⟨fun _ hdispatched => ?_, fun hlatched => ?_⟩
    · exact absurd ((hfresh.buses bus).idle.symm.trans hdispatched)
        Bool.false_ne_true
    · exact absurd ((hfresh.buses bus).unlatched.symm.trans hlatched)
        Bool.false_ne_true
  · intro bus servo
    rw [(hfresh.buses bus).unpublished servo]
    exact hclock.le
  · intro servo hservo
    exact (hfresh.buses _).timeout _ (hfresh.placed servo hservo)

/-! ## Latched buses -/

/-- From one state to a later one the bus stays latched and its other servos
publish nothing. -/
structure FrozenRun (bus : ℕ) (before after : RegistryState D τ) : Prop where
  layout : SameLayout before after
  frozen : Frozen (before.registry.buses bus) (after.registry.buses bus)
  config : ∀ servo,
    ((after.registry.buses bus).servos servo).servo.config =
      ((before.registry.buses bus).servos servo).servo.config

theorem frozenRun_final {port : SerialPort τ ε} {state : RegistryState D τ}
    {bus : ℕ}
    (hlatched : (state.registry.buses bus).faultLatched = true)
    (inputs : List (RegistryInput D ε)) :
    FrozenRun bus state ((registryMachine port).final state inputs) := by
  refine Machine.invariant_final (FrozenRun bus state) ?_ ?_ inputs
  · intro current input hrun
    have hlayout := sameLayout_step port current input
    have hnext : Frozen (current.registry.buses bus)
          (((registryMachine port).step current input).1.registry.buses
            bus) ∧
        ∀ servo, ((((registryMachine port).step current
            input).1.registry.buses bus).servos servo).servo.config =
          ((current.registry.buses bus).servos servo).servo.config := by
      rcases registry_bus_step port current input bus with
        hsame | ⟨busInput, htime, hstep⟩
      · rw [hsame]
        exact ⟨⟨hrun.frozen.faultLatched, rfl, fun _ _ => rfl⟩, fun _ => rfl⟩
      · rw [hstep]
        exact ⟨frozen_step port hrun.frozen.faultLatched busInput,
          fun servo => (published_step port _ htime servo).1⟩
    refine ⟨?_, hrun.frozen.trans hnext.1, ?_⟩
    · exact ⟨hlayout.servoCount.trans hrun.layout.servoCount,
        hlayout.places.trans hrun.layout.places,
        hlayout.safetyGroups.trans hrun.layout.safetyGroups,
        le_trans hrun.layout.clock hlayout.clock⟩
    · intro servo
      rw [hnext.2 servo]
      exact hrun.config servo
  · exact ⟨⟨rfl, rfl, rfl, le_rfl⟩, ⟨hlatched, rfl, fun _ _ => rfl⟩,
      fun _ => rfl⟩

omit [DoubleArithmetic D] in
/-- What is out of date stays so until something is published. -/
theorem OutOfDate.later {earlier later : St3215Servo D} {atNs nowNs : ℤ}
    (hout : OutOfDate earlier atNs) (htime : atNs ≤ nowNs)
    (hfeedback : later.latestFeedback = earlier.latestFeedback)
    (hconfig : later.config = earlier.config) : OutOfDate later nowNs := by
  unfold OutOfDate at hout ⊢
  rw [hfeedback, hconfig]
  rcases hout with hflags | hnever | hlate
  · exact Or.inl hflags
  · exact Or.inr (Or.inl hnever)
  · exact Or.inr (Or.inr (by omega))

/-- A snapshot marks every servo of a bus, and the stop mask taken from it stops
every axis which shares a safety group with one of them. -/
def Guards (registry : St3215DeviceRegistry D τ) (axisGroups : List String)
    (bus : ℕ) (snapshot : St3215RegistrySafetySnapshot) : Prop :=
  ∀ servo < registry.servoCount, (registry.places servo).bus = bus →
    snapshot.faultMask.getLsbD servo = true ∧
    ∀ axis : Axis, axis.val < axisGroups.length →
      registry.safetyGroups servo = axisGroups.getD axis.val "" →
      ∀ state : SafetyBusState, SafetySupervisor.externalStop
        { state with externalStopAxesMask :=
          registry.serialStopMask axisGroups snapshot } axis = true

omit [DoubleArithmetic D] in
theorem RegistryOk.guards_iff {state : RegistryState D τ}
    (hok : RegistryOk state) (axisGroups : List String) (bus : ℕ) :
    Guards state.registry axisGroups bus
        (state.registry.safetySnapshot state.clockNs) ↔
      ∀ servo < state.registry.servoCount,
        (state.registry.places servo).bus = bus →
        Faulty (state.registry.servo servo) state.clockNs := by
  constructor
  · intro hguards servo hservo hbus
    have hword := lt_of_lt_of_le hservo hok.servoCount
    exact ((state.registry.safetySnapshot_marks state.clockNs hword).mp
      (hguards servo hservo hbus).1).2
  · intro hfaulty servo hservo hbus
    have hword := lt_of_lt_of_le hservo hok.servoCount
    have hmarked := (state.registry.safetySnapshot_marks state.clockNs
      hword).mpr ⟨hservo, hfaulty servo hservo hbus⟩
    refine ⟨hmarked, fun axis haxis hgroup other => ?_⟩
    have hlt : axis.val < 16 := lt_trans axis.isLt (by decide)
    have hbit := state.registry.serialStopMask_bit state.clockNs hservo
      hmarked (state.registry.serialAxisStopMask_bit haxis hlt hgroup)
    simp only [SafetySupervisor.externalStop, and_bit_ne_zero]
    exact hbit

/-- In a run of a configured registry let a bus be latched when a snapshot is
taken.  This snapshot and all later ones mark every servo of the bus, with the
axes of their safety groups, exactly if each servo which is not at the cursor of
the bus is out of date already. -/
theorem latched_bus_guarded_iff (port : SerialPort τ ε)
    (createSerial : SerialPortConfig → Except Error τ) (placeholder : τ)
    (profiles : List St3215ServoProfile)
    (registry : St3215DeviceRegistry D τ)
    (hconfigured : St3215DeviceRegistry.configure createSerial placeholder
      profiles = .ok registry)
    (axisGroups : List String) (clockNs : ℤ) (hclock : 0 < clockNs)
    (before after : List (RegistryInput D ε)) (bus : ℕ)
    (hlatched : (((registryMachine port).final ⟨registry, clockNs⟩
      before).registry.buses bus).faultLatched = true) :
    (∀ t ∈ (registryMachine port).trace
        ((registryMachine port).final ⟨registry, clockNs⟩ before)
        (.snapshot :: after),
      ∀ snapshot, t.output = some snapshot →
        Guards t.before.registry axisGroups bus snapshot) ↔
      ∀ servo < ((registryMachine port).final ⟨registry, clockNs⟩
          before).registry.servoCount,
        (((registryMachine port).final ⟨registry, clockNs⟩
          before).registry.places servo).bus = bus →
        (((registryMachine port).final ⟨registry, clockNs⟩
            before).registry.places servo).slot ≠
          (((registryMachine port).final ⟨registry, clockNs⟩
            before).registry.buses bus).cursor →
        OutOfDate (((registryMachine port).final ⟨registry, clockNs⟩
            before).registry.servo servo)
          ((registryMachine port).final ⟨registry, clockNs⟩ before).clockNs := by
  have hok : RegistryOk
      ((registryMachine port).final ⟨registry, clockNs⟩ before) :=
    (registryOk_configure hconfigured hclock).final before
  generalize (registryMachine port).final ⟨registry, clockNs⟩ before = state
    at hlatched hok ⊢
  constructor
  · intro hguards servo hservo hbus _
    have hfirst := hguards ((registryMachine port).fire state .snapshot)
      List.mem_cons_self (state.registry.safetySnapshot state.clockNs) rfl
    have hfaulty := (hok.guards_iff axisGroups bus).mp hfirst servo hservo hbus
    exact (faulty_iff hok.clock (hok.timeout servo hservo)
      (hok.published _ _)).mp hfaulty
  · intro hout t ht snapshot hsnapshot
    obtain ⟨earlier, input, _, hfire⟩ := Machine.exists_fire_of_mem_trace ht
    subst hfire
    have hrun : FrozenRun bus state
        ((registryMachine port).final state earlier) :=
      frozenRun_final hlatched earlier
    have hcurrent : RegistryOk ((registryMachine port).final state earlier) :=
      hok.final earlier
    simp only [Machine.fire_before, Machine.fire_output] at hsnapshot ⊢
    generalize (registryMachine port).final state earlier = current
      at hrun hcurrent hsnapshot ⊢
    have htaken : snapshot =
        current.registry.safetySnapshot current.clockNs := by
      cases input with
      | tick elapsed => cases hsnapshot
      | stage servo command =>
          simp only [registryMachine] at hsnapshot
          split at hsnapshot <;> cases hsnapshot
      | start index permitted => cases hsnapshot
      | stop index => cases hsnapshot
      | cycle index pollReadable staged dispatchReadable environment =>
          cases hsnapshot
      | snapshot => exact (Option.some.inj hsnapshot).symm
    rw [htaken, hcurrent.guards_iff]
    intro servo hservo hbus
    rw [hrun.layout.servoCount] at hservo
    rw [hrun.layout.places] at hbus
    unfold St3215DeviceRegistry.servo
    rw [hrun.layout.places, hbus]
    by_cases hcursor : (state.registry.places servo).slot =
        (state.registry.buses bus).cursor
    · have hstale := (hcurrent.charged bus).stale hrun.frozen.faultLatched
      rw [hrun.frozen.cursor] at hstale
      rw [hcursor]
      exact faulty_of_stale hstale current.clockNs
    · have hservoOut := hout servo hservo hbus hcursor
      have htimeout := hok.timeout servo hservo
      unfold St3215DeviceRegistry.servo at hservoOut htimeout
      rw [hbus] at hservoOut htimeout
      rw [← hrun.config] at htimeout
      refine (faulty_iff hcurrent.clock htimeout
        (hcurrent.published bus _)).mpr ?_
      exact hservoOut.later hrun.layout.clock
        (hrun.frozen.feedback _ hcursor) (hrun.config _)

/-! ## A bus with two servos -/

/-- A port which reads what the last cycle received. -/
def echoPort : SerialPort (Option Bytes) (Option Bytes) where
  openPort := fun transport => (transport, true)
  closePort := fun transport => transport
  read := fun transport =>
    match transport with
    | some response => (none, .value response)
    | none => (none, .failure ⟨.timeout, "serial response timed out"⟩)
  write := fun transport _ => (transport, .value ())
  cycle := fun _ environment => environment
  health := fun _ => .healthy
  timeoutCount := fun _ => 0
  ioErrorCount := fun _ => 0

def armServo (name : String) (deviceId : UInt8) : St3215ServoProfile where
  serial := ⟨"/dev/ttyS0", 1000000, 256, 259, 1000000⟩
  servo := ⟨name, deviceId, 4095, 0, 0, 250, 250000000, 50000000⟩
  safetyGroup := "arm"

def armRegistry : St3215DeviceRegistry ℚ (Option Bytes) :=
  match St3215DeviceRegistry.configure (fun _ => .ok none) none
      [armServo "elbow" 1, armServo "wrist" 2] with
  | .ok registry => registry
  | .error _ => .empty none

theorem armRegistry_configured :
    St3215DeviceRegistry.configure (fun _ => .ok none) none
      [armServo "elbow" 1, armServo "wrist" 2] = .ok armRegistry := by
  have hok : (St3215DeviceRegistry.configure (fun _ => .ok none) none
      [armServo "elbow" 1, armServo "wrist" 2] :
        Except Error (St3215DeviceRegistry ℚ (Option Bytes))).isOk = true := by
    decide +kernel
  unfold armRegistry
  cases hconfigured : (St3215DeviceRegistry.configure (fun _ => .ok none) none
      [armServo "elbow" 1, armServo "wrist" 2] :
        Except Error (St3215DeviceRegistry ℚ (Option Bytes))) with
  | ok registry => rfl
  | error error =>
      rw [hconfigured] at hok
      cases hok

/-- The elbow answers, then the answer of the wrist names another device. -/
def wristFault : List (RegistryInput ℚ (Option Bytes)) :=
  [.start 0 true,
    .cycle 0 true [] true (some (St3215Protocol.statusPacket 1 0 [0, 8])),
    .tick 1000000,
    .cycle 0 true [] true (some (St3215Protocol.statusPacket 7 0 [0, 8])),
    .tick 1000000,
    .cycle 0 true [] true none]

/-- After the fault of the wrist the snapshot leaves out the elbow. -/
theorem elbow_unmarked :
    (((registryMachine echoPort).final ⟨armRegistry, 1⟩
        wristFault).registry.buses 0).faultLatched = true ∧
      ¬ Guards ((registryMachine echoPort).final ⟨armRegistry, 1⟩
          wristFault).registry ["arm"] 0
        (((registryMachine echoPort).final ⟨armRegistry, 1⟩
          wristFault).registry.safetySnapshot
            ((registryMachine echoPort).final ⟨armRegistry, 1⟩
              wristFault).clockNs) := by
  refine ⟨by decide +kernel, fun hguards => ?_⟩
  have hmarked := (hguards 0 (by decide +kernel) (by decide +kernel)).1
  have hunmarked : (((registryMachine echoPort).final ⟨armRegistry, 1⟩
      wristFault).registry.safetySnapshot
        ((registryMachine echoPort).final ⟨armRegistry, 1⟩
          wristFault).clockNs).faultMask.getLsbD 0 = false := by
    decide +kernel
  rw [hunmarked] at hmarked
  exact Bool.false_ne_true hmarked

theorem latched_bus_guarded_iff_wrist :
    (∀ t ∈ (registryMachine echoPort).trace
        ((registryMachine echoPort).final ⟨armRegistry, 1⟩ wristFault)
        [.snapshot],
      ∀ snapshot, t.output = some snapshot →
        Guards t.before.registry ["arm"] 0 snapshot) ↔
      ∀ servo < ((registryMachine echoPort).final ⟨armRegistry, 1⟩
          wristFault).registry.servoCount,
        (((registryMachine echoPort).final ⟨armRegistry, 1⟩
          wristFault).registry.places servo).bus = 0 →
        (((registryMachine echoPort).final ⟨armRegistry, 1⟩
            wristFault).registry.places servo).slot ≠
          (((registryMachine echoPort).final ⟨armRegistry, 1⟩
            wristFault).registry.buses 0).cursor →
        OutOfDate (((registryMachine echoPort).final ⟨armRegistry, 1⟩
            wristFault).registry.servo servo)
          ((registryMachine echoPort).final ⟨armRegistry, 1⟩
            wristFault).clockNs :=
  latched_bus_guarded_iff echoPort (fun _ => .ok none) none
    [armServo "elbow" 1, armServo "wrist" 2] armRegistry
    armRegistry_configured ["arm"] 1 (by decide) wristFault [] 0
    (by decide +kernel)

end PolicyRuntime
