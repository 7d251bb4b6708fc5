import PolicyRuntime.CanTopology

/-!
# Routes to the CAN runtimes

Every motor gets a route to the runtime of its path.  The transmit slot is the
slot of its actuator in the topology, or its position on the bus when the
topology does not know the actuator.  Slots of the first kind lie above all
sensors of the path and slots of the second kind below, so the motors of a bus
never share a slot.
-/

namespace PolicyRuntime

variable {F : Type}

/-! ## Buses -/

/-- A new key of the sorted map. -/
def insertBus (bus : String × List ℕ) :
    List (String × List ℕ) → List (String × List ℕ)
  | [] => [bus]
  | first :: rest =>
      if bus.1 < first.1 then bus :: first :: rest
      else first :: insertBus bus rest

/-- `damiao_bus_members[path].push_back(index)` -/
def insertMember (path : String) (index : ℕ)
    (buses : List (String × List ℕ)) : List (String × List ℕ) :=
  if path ∈ buses.map Prod.fst then
    buses.map fun bus =>
      if bus.1 = path then (bus.1, bus.2 ++ [index]) else bus
  else
    insertBus (path, [index]) buses

def damiaoBusMembers (motors : List (MotorProfile F)) :
    List (String × List ℕ) :=
  motors.zipIdx.foldl
    (fun buses entry => insertMember entry.1.path entry.2 buses) []

/-- The motors of a path. -/
def membersOf (path : String) (entries : List (MotorProfile F × ℕ)) :
    List ℕ :=
  (entries.filter (·.1.path = path)).map Prod.snd

/-- Each path of the motors stands once, with its members in order. -/
structure BusesOf (entries : List (MotorProfile F × ℕ))
    (buses : List (String × List ℕ)) : Prop where
  nodup : (buses.map Prod.fst).Nodup
  members : ∀ bus ∈ buses, bus.2 = membersOf bus.1 entries
  listed : ∀ path, path ∈ buses.map Prod.fst ↔
    ∃ entry ∈ entries, entry.1.path = path

theorem insertBus_perm (bus : String × List ℕ)
    (buses : List (String × List ℕ)) :
    (insertBus bus buses).Perm (bus :: buses) := by
  induction buses with
  | nil => exact List.Perm.refl _
  | cons first rest ih =>
      unfold insertBus
      split
      · exact List.Perm.refl _
      · exact (ih.cons first).trans (List.Perm.swap bus first rest)

theorem membersOf_append (path : String)
    (entries : List (MotorProfile F × ℕ)) (entry : MotorProfile F × ℕ) :
    membersOf path (entries ++ [entry]) =
      membersOf path entries ++
        if entry.1.path = path then [entry.2] else [] := by
  unfold membersOf
  by_cases hpath : entry.1.path = path
  · simp [hpath]
  · simp [hpath]

theorem BusesOf.insert {entries : List (MotorProfile F × ℕ)}
    {buses : List (String × List ℕ)} (h : BusesOf entries buses)
    (entry : MotorProfile F × ℕ) :
    BusesOf (entries ++ [entry])
      (insertMember entry.1.path entry.2 buses) := by
  unfold insertMember
  split
  · next hlisted =>
      have hpaths : (buses.map fun bus => if bus.1 = entry.1.path then
          (bus.1, bus.2 ++ [entry.2]) else bus).map Prod.fst =
          buses.map Prod.fst := by
        rw [List.map_map]
        apply List.map_congr_left
        intro bus _
        by_cases hbus : bus.1 = entry.1.path <;> simp [hbus]
      refine ⟨by rw [hpaths]; exact h.nodup, ?_, ?_⟩
      · intro bus hbus
        obtain ⟨old, hold, rfl⟩ := List.mem_map.mp hbus
        by_cases hpath : old.1 = entry.1.path
        · simp [hpath, membersOf_append, h.members old hold]
        · simp [hpath, membersOf_append, h.members old hold, Ne.symm hpath]
      · intro path
        rw [hpaths, h.listed path]
        constructor
        · rintro ⟨other, hother, hpath⟩
          exact ⟨other, List.mem_append_left _ hother, hpath⟩
        · rintro ⟨other, hother, rfl⟩
          rw [List.mem_append, List.mem_singleton] at hother
          obtain hold | rfl := hother
          · exact ⟨other, hold, rfl⟩
          · exact (h.listed _).mp hlisted
  · next hfresh =>
      have hperm := insertBus_perm (entry.1.path, [entry.2]) buses
      have hnone : membersOf entry.1.path entries = [] := by
        unfold membersOf
        rw [List.map_eq_nil_iff, List.filter_eq_nil_iff]
        intro other hother
        simp only [decide_eq_true_eq]
        intro hpath
        exact hfresh ((h.listed _).mpr ⟨other, hother, hpath⟩)
      refine ⟨?_, ?_, ?_⟩
      · rw [(hperm.map Prod.fst).nodup_iff, List.map_cons, List.nodup_cons]
        exact ⟨hfresh, h.nodup⟩
      · intro bus hbus
        rw [hperm.mem_iff, List.mem_cons] at hbus
        obtain rfl | hold := hbus
        · simp [membersOf_append, hnone]
        · have hne : entry.1.path ≠ bus.1 := by
            intro hpath
            apply hfresh
            rw [hpath]
            exact List.mem_map_of_mem hold
          simp [membersOf_append, hne, h.members bus hold]
      · intro path
        rw [(hperm.map Prod.fst).mem_iff, List.map_cons, List.mem_cons,
          h.listed path]
        simp only [List.mem_append, List.mem_singleton, or_and_right,
          exists_or, exists_eq_left]
        rw [or_comm, eq_comm]

theorem busesOf_foldl {entries : List (MotorProfile F × ℕ)}
    {done : List (MotorProfile F × ℕ)} {buses : List (String × List ℕ)}
    (h : BusesOf done buses) :
    BusesOf (done ++ entries) (entries.foldl
      (fun buses entry => insertMember entry.1.path entry.2 buses) buses) := by
  induction entries generalizing done buses with
  | nil => simpa using h
  | cons entry rest ih => simpa using ih (h.insert entry)

theorem busesOf_members (motors : List (MotorProfile F)) :
    BusesOf motors.zipIdx (damiaoBusMembers motors) := by
  have hempty : BusesOf ([] : List (MotorProfile F × ℕ)) [] :=
    ⟨List.nodup_nil, by simp, by simp⟩
  unfold damiaoBusMembers
  simpa using busesOf_foldl hempty

/-! ## Routes -/

/-- The first binding of an actuator of that name on a transport of that
path. -/
def findBinding (topology : TopologyBuild) (actuators : List DeviceConfig)
    (actuatorName path : String) : Option DeviceBinding :=
  topology.devices.find? fun binding =>
    match binding.actuatorProfileIndex.bind (actuators[·]?) with
    | none => false
    | some actuator =>
        actuator.name = actuatorName &&
          topology.transports[binding.transportIndex]?.any (·.path = path)

def motorRoute (topology : TopologyBuild) (actuators : List DeviceConfig)
    (motor : MotorProfile F) (path : String) (transportIndex localIndex : ℕ) :
    DeviceBinding :=
  match findBinding topology actuators motor.actuatorName path with
  | some binding =>
      ⟨none, binding.actuatorProfileIndex, transportIndex, 0,
        binding.transmitSlot⟩
  | none => ⟨none, none, transportIndex, 0, localIndex⟩

/-- The routes of a bus, each with the index of its motor. -/
def busRoutes (topology : TopologyBuild) (actuators : List DeviceConfig)
    (motors : List (MotorProfile F)) (transportIndex : ℕ)
    (bus : String × List ℕ) : List (ℕ × DeviceBinding) :=
  bus.2.zipIdx.filterMap fun entry =>
    motors[entry.1]?.map fun motor =>
      (entry.1, motorRoute topology actuators motor bus.1 transportIndex
        entry.2)

/-- `actuator_bindings` -/
def actuatorBindings (topology : TopologyBuild)
    (actuators : List DeviceConfig) (motors : List (MotorProfile F)) :
    List (ℕ × DeviceBinding) :=
  (damiaoBusMembers motors).zipIdx.flatMap fun entry =>
    busRoutes topology actuators motors entry.2 entry.1

/-- Every motor has its route, at its position on the bus of its path. -/
theorem mem_actuatorBindings_iff {topology : TopologyBuild}
    {actuators : List DeviceConfig} {motors : List (MotorProfile F)}
    {index : ℕ} {route : DeviceBinding} :
    (index, route) ∈ actuatorBindings topology actuators motors ↔
      ∃ motor transportIndex localIndex,
        motors[index]? = some motor ∧
        (damiaoBusMembers motors)[transportIndex]? =
          some (motor.path, membersOf motor.path motors.zipIdx) ∧
        (membersOf motor.path motors.zipIdx)[localIndex]? = some index ∧
        route = motorRoute topology actuators motor motor.path transportIndex
          localIndex := by
  have hbuses := busesOf_members motors
  have hmember {path : String} (hin : index ∈ membersOf path motors.zipIdx)
      {motor : MotorProfile F} (hmotor : motors[index]? = some motor) :
      motor.path = path := by
    unfold membersOf at hin
    obtain ⟨entry, hentry, rfl⟩ := List.mem_map.mp hin
    obtain ⟨hzip, hpath⟩ := List.mem_filter.mp hentry
    have hsame := List.mk_mem_zipIdx_iff_getElem?.mp hzip
    rw [hmotor] at hsame
    rw [Option.some.inj hsame]
    simpa using hpath
  unfold actuatorBindings busRoutes
  simp only [List.mem_flatMap, List.mem_filterMap, Option.map_eq_some_iff]
  constructor
  · rintro ⟨⟨bus, transportIndex⟩, hbus, ⟨member, localIndex⟩, hlocal, motor,
      hmotor, heq⟩
    simp only [Prod.mk.injEq] at heq
    obtain ⟨rfl, rfl⟩ := heq
    have hat := List.mk_mem_zipIdx_iff_getElem?.mp hbus
    have hmembers := hbuses.members bus (List.mem_of_getElem? hat)
    have hin := List.mk_mem_zipIdx_iff_getElem?.mp hlocal
    rw [hmembers] at hin
    have hpath := hmember (List.mem_of_getElem? hin) hmotor
    refine ⟨motor, transportIndex, localIndex, hmotor, ?_, ?_, ?_⟩
    · rw [hpath, hat, ← hmembers]
    · rw [hpath]
      exact hin
    · rw [hpath]
  · rintro ⟨motor, transportIndex, localIndex, hmotor, hbus, hlocal, rfl⟩
    refine ⟨((motor.path, membersOf motor.path motors.zipIdx),
      transportIndex), List.mk_mem_zipIdx_iff_getElem?.mpr hbus,
      (index, localIndex), List.mk_mem_zipIdx_iff_getElem?.mpr hlocal, motor,
      hmotor, rfl⟩

/-! ## Devices of a CAN path -/

def canKey (path : String) : PhysicalTransportKey := ⟨.socketcan, path⟩

section Keys

variable (lexicallyNormal : String → String)

theorem deviceKey_of_socketcan {device : DeviceConfig}
    (htype : device.type = "damiao_motor")
    (htransport : parseDamiaoTransport device = .ok .socketcan) :
    deviceKey lexicallyNormal device = some (canKey device.path) := by
  have hvalue : (device.args.lookup "transport").getD "socketcan" =
      "socketcan" := by
    unfold parseDamiaoTransport at htransport
    split at htransport
    · next hnone => rw [hnone]; rfl
    · next text htext =>
        split at htransport
        · next hsocketcan =>
            rw [htext]
            exact hsocketcan
        · split at htransport <;> contradiction
  unfold deviceKey transportKind
  simp [htype, hvalue, canKey, canonicalPath]

theorem motor_of_deviceKey {device : DeviceConfig} {path : String}
    (hkey : deviceKey lexicallyNormal device = some (canKey path)) :
    device.type = "damiao_motor" ∧ device.path = path := by
  unfold deviceKey at hkey
  split at hkey
  · next kind hkind =>
      simp only [canKey, Option.some.injEq, PhysicalTransportKey.mk.injEq]
        at hkey
      obtain ⟨rfl, hpath⟩ := hkey
      refine ⟨?_, by simpa [canonicalPath] using hpath⟩
      unfold transportKind at hkind
      simp only at hkind
      split at hkind
      · cases hkind
      · split at hkind
        · cases hkind
        · split at hkind
          · next htype => exact htype
          · cases hkind
  · cases hkey

end Keys

section Profile

variable {D : Type} [DoubleArithmetic D] [SinglePrecision F]
  (profile : RobotProfile D F) (lexicallyNormal : String → String)

/-- Distinct devices of a path have distinct motor numbers. -/
theorem onTransport_le {sensor : Bool} {list : List DeviceConfig}
    (hkeys : ((RobotProfile.motorDevices list).map
      ((motorKind profile.strtod profile.toFloat).key sensor)).Nodup)
    (hparsed : ∀ device ∈ RobotProfile.motorDevices list, ∃ parsed,
      parseDamiaoMotor profile.strtod profile.toFloat sensor device =
        .ok parsed) (path : String) :
    onTransport lexicallyNormal (canKey path) list ≤ 15 := by
  have hsub : (list.filter fun device =>
      deviceKey lexicallyNormal device = some (canKey path)).Sublist
        (RobotProfile.motorDevices list) := by
    have hfilter : (list.filter fun device =>
        deviceKey lexicallyNormal device = some (canKey path)) =
        (RobotProfile.motorDevices list).filter fun device =>
          deviceKey lexicallyNormal device = some (canKey path) := by
      unfold RobotProfile.motorDevices
      rw [List.filter_filter]
      apply List.filter_congr
      intro device _
      by_cases hkey : deviceKey lexicallyNormal device = some (canKey path)
      · simp [hkey, (motor_of_deviceKey lexicallyNormal hkey).1]
      · simp [hkey]
    rw [hfilter]
    exact List.filter_sublist
  have hnodup := hkeys.sublist (hsub.map
    ((motorKind profile.strtod profile.toFloat).key sensor))
  have hsubset : ((list.filter fun device =>
      deviceKey lexicallyNormal device = some (canKey path)).map
        ((motorKind profile.strtod profile.toFloat).key sensor)) ⊆
      (List.range' 1 15).map fun id => path ++ "\n" ++ toString id := by
    intro key hkey
    obtain ⟨device, hdevice, rfl⟩ := List.mem_map.mp hkey
    have hmotor := (List.mem_filter.mp hdevice).2
    simp only [decide_eq_true_eq] at hmotor
    obtain ⟨parsed, hparse⟩ := hparsed device (hsub.subset hdevice)
    have hspec := parsedMotor_of_ok profile.strtod profile.toFloat hparse
    rw [(motorKind profile.strtod profile.toFloat).key_of_parse hparse]
    refine List.mem_map.mpr ⟨parsed.motorId, ?_, ?_⟩
    · rw [List.mem_range'_1]
      have hid := hspec.motorId
      omega
    · change path ++ "\n" ++ _ = parsed.path ++ "\n" ++ _
      rw [hspec.path, (motor_of_deviceKey lexicallyNormal hmotor).2]
  have hlength := (List.subperm_of_subset hnodup hsubset).length_le
  rw [List.length_map, List.length_map, List.length_range'] at hlength
  unfold onTransport
  rw [List.countP_eq_length_filter]
  exact hlength

theorem motors_paths :
    profile.motors.map MotorProfile.path =
      (RobotProfile.motorDevices profile.sensors).map DeviceConfig.path := by
  have hlength := ((motorKind profile.strtod profile.toFloat).derive_paired
    profile.derivedMotors).2.1
  have hlengths : profile.motors.length =
      (RobotProfile.motorDevices profile.sensors).length := hlength
  apply List.ext_getElem?
  intro index
  rw [List.getElem?_map, List.getElem?_map]
  cases hmotor : profile.motors[index]? with
  | none =>
      have hout : (RobotProfile.motorDevices profile.sensors)[index]? =
          none := by
        rw [List.getElem?_eq_none_iff] at hmotor ⊢
        omega
      rw [hout]
      rfl
  | some motor =>
      obtain ⟨sensor, _, hsensor, _, hlink⟩ := profile.motorLink hmotor
      rw [hsensor]
      simp [hlink.sensorPath]

theorem sensor_of_motorDevices
    (hsocketcan : ∀ motor ∈ profile.motors, motor.transport = .socketcan)
    {sensor : DeviceConfig}
    (hsensor : sensor ∈ RobotProfile.motorDevices profile.sensors) :
    deviceKey lexicallyNormal sensor = some (canKey sensor.path) := by
  obtain ⟨index, hindex⟩ := List.mem_iff_getElem?.mp hsensor
  have hlengths : profile.motors.length =
      (RobotProfile.motorDevices profile.sensors).length :=
    ((motorKind profile.strtod profile.toFloat).derive_paired
      profile.derivedMotors).2.1
  have hlt : index < profile.motors.length := by
    rw [hlengths]
    exact (List.getElem?_eq_some_iff.mp hindex).1
  obtain ⟨other, _, hother, _, hlink⟩ :=
    profile.motorLink (List.getElem?_eq_getElem hlt)
  rw [hindex] at hother
  cases hother
  have htransport := hlink.sensorTransport
  rw [hsocketcan _ (List.getElem_mem hlt)] at htransport
  have htype := (List.mem_filter.mp hsensor).2
  exact deviceKey_of_socketcan lexicallyNormal (by simpa using htype) htransport

/-- The members of a path are among its sensors. -/
theorem members_length_le
    (hsocketcan : ∀ motor ∈ profile.motors, motor.transport = .socketcan)
    (path : String) :
    (membersOf path profile.motors.zipIdx).length ≤
      onTransport lexicallyNormal (canKey path) profile.sensors := by
  have hmembers : (membersOf path profile.motors.zipIdx).length =
      (profile.motors.map MotorProfile.path).countP (· = path) := by
    unfold membersOf
    rw [List.length_map, ← List.countP_eq_length_filter, List.countP_map]
    conv_rhs => rw [← List.zipIdx_map_fst 0 profile.motors]
    rw [List.countP_map]
    rfl
  rw [hmembers, motors_paths, List.countP_map]
  unfold RobotProfile.motorDevices onTransport
  rw [List.countP_filter]
  apply List.countP_mono_left
  intro sensor hsensor hmotor
  simp only [Function.comp_apply, Bool.and_eq_true, decide_eq_true_eq]
    at hmotor
  have hdevice : sensor ∈ RobotProfile.motorDevices profile.sensors :=
    List.mem_filter.mpr ⟨hsensor, by simpa using hmotor.2⟩
  rw [sensor_of_motorDevices profile lexicallyNormal hsocketcan hdevice,
    hmotor.1]
  simp

/-- Names tell actuators apart. -/
theorem actuator_of_name {first second : ℕ} {left right : DeviceConfig}
    (hleft : profile.actuators[first]? = some left)
    (hright : profile.actuators[second]? = some right)
    (hname : left.name = right.name) : first = second := by
  have hnames := profile.names
  rw [List.map_append, List.nodup_append] at hnames
  have hlt := (List.getElem?_eq_some_iff.mp hleft).1
  apply (List.getElem?_inj (by simpa using hlt) hnames.2.1).mp
  simp [hleft, hright, hname]

variable {topology : TopologyBuild}

/-- The slot of a found actuator lies above the sensors of the path. -/
structure FoundSlot (motor : MotorProfile F) (slot position : ℕ)
    (actuator : DeviceConfig) : Prop where
  at_position : profile.actuators[position]? = some actuator
  name : actuator.name = motor.actuatorName
  key : deviceKey lexicallyNormal actuator = some (canKey motor.path)
  slot_eq : slot =
    onTransport lexicallyNormal (canKey motor.path) profile.sensors +
      onTransport lexicallyNormal (canKey motor.path)
        (profile.actuators.take position)

theorem actuator_key
    (hsocketcan : ∀ motor ∈ profile.motors, motor.transport = .socketcan)
    {index position : ℕ} {motor : MotorProfile F} {actuator : DeviceConfig}
    (hmotor : profile.motors[index]? = some motor)
    (hactuator : profile.actuators[position]? = some actuator)
    (hname : actuator.name = motor.actuatorName) :
    deviceKey lexicallyNormal actuator = some (canKey motor.path) := by
  obtain ⟨_, linked, _, hlinked, hlink⟩ := profile.motorLink hmotor
  have hin : linked ∈ profile.actuators := (List.mem_filter.mp hlinked).1
  obtain ⟨other, hother⟩ := List.mem_iff_getElem?.mp hin
  have hposition := actuator_of_name profile hactuator hother
    (hname.trans hlink.actuatorName)
  rw [hposition, hother] at hactuator
  cases hactuator
  have htransport := hlink.actuatorTransport
  rw [hsocketcan motor (List.mem_of_getElem? hmotor)] at htransport
  have htype := (List.mem_filter.mp hlinked).2
  rw [← hlink.actuatorPath]
  exact deviceKey_of_socketcan lexicallyNormal (by simpa using htype) htransport

theorem foundSlot_of_findBinding
    (hsocketcan : ∀ motor ∈ profile.motors, motor.transport = .socketcan)
    (hcompile : compilePhysicalTopology lexicallyNormal profile.sensors
      profile.actuators = .ok topology)
    {index : ℕ} {motor : MotorProfile F} {path : String}
    {binding : DeviceBinding}
    (hmotor : profile.motors[index]? = some motor)
    (hfind : findBinding topology profile.actuators motor.actuatorName path =
      some binding) :
    ∃ position actuator, FoundSlot profile lexicallyNormal motor
      binding.transmitSlot position actuator := by
  have hcounted := compile_counted lexicallyNormal hcompile
  have hmatch := List.find?_some hfind
  have hmem := List.mem_of_find?_eq_some hfind
  split at hmatch
  · exact absurd hmatch (by simp)
  · next actuator hactuator =>
      obtain ⟨position, hposition, hat⟩ :=
        Option.bind_eq_some_iff.mp hactuator
      simp only [Bool.and_eq_true, decide_eq_true_eq] at hmatch
      obtain ⟨device, key, hdevice, hkey, hslot⟩ :=
        hcounted.bound binding hmem position hposition
      rw [List.getElem?_append_right (by omega), Nat.add_sub_cancel_left,
        hat] at hdevice
      cases hdevice
      have hactuatorKey := actuator_key profile lexicallyNormal hsocketcan
        hmotor hat hmatch.1
      rw [hkey] at hactuatorKey
      refine ⟨position, actuator, hat, hmatch.1, ?_, ?_⟩
      · rw [hkey]
        exact hactuatorKey
      · rw [hslot, Option.some.inj hactuatorKey]
        unfold onTransport
        rw [List.take_append, List.countP_append,
          List.take_of_length_le (by omega), Nat.add_sub_cancel_left]

/-- What a route holds. -/
theorem route_slot
    (hsocketcan : ∀ motor ∈ profile.motors, motor.transport = .socketcan)
    (hcompile : compilePhysicalTopology lexicallyNormal profile.sensors
      profile.actuators = .ok topology)
    {index : ℕ} (transportIndex localIndex : ℕ) {motor : MotorProfile F}
    (hmotor : profile.motors[index]? = some motor) :
    (motorRoute topology profile.actuators motor motor.path transportIndex
        localIndex).transmitSlot = localIndex ∨
    ∃ position actuator, FoundSlot profile lexicallyNormal motor
      (motorRoute topology profile.actuators motor motor.path transportIndex
        localIndex).transmitSlot position actuator := by
  unfold motorRoute
  cases hfind : findBinding topology profile.actuators motor.actuatorName
      motor.path with
  | none => exact Or.inl rfl
  | some binding =>
      obtain ⟨position, actuator, hfound⟩ := foundSlot_of_findBinding profile
        lexicallyNormal hsocketcan hcompile hmotor hfind
      exact Or.inr ⟨position, actuator, hfound⟩

/-- A found slot counts one device less than the transport has. -/
theorem FoundSlot.lt {motor : MotorProfile F} {slot position : ℕ}
    {actuator : DeviceConfig}
    (h : FoundSlot profile lexicallyNormal motor slot position actuator) :
    slot < onTransport lexicallyNormal (canKey motor.path) profile.sensors +
      onTransport lexicallyNormal (canKey motor.path) profile.actuators := by
  have hsplit := List.take_append_drop position profile.actuators
  have hcount : onTransport lexicallyNormal (canKey motor.path)
      (profile.actuators.take position) +
      onTransport lexicallyNormal (canKey motor.path)
        (profile.actuators.drop position) =
      onTransport lexicallyNormal (canKey motor.path) profile.actuators := by
    unfold onTransport
    rw [← List.countP_append, hsplit]
  have hpos : 0 < onTransport lexicallyNormal (canKey motor.path)
      (profile.actuators.drop position) := by
    apply List.countP_pos_iff.mpr
    refine ⟨actuator, ?_, by simpa using h.key⟩
    apply List.mem_of_getElem? (i := 0)
    rw [List.getElem?_drop, Nat.add_zero]
    exact h.at_position
  have hslot := h.slot_eq
  omega

/-- Later actuators of a path have greater slots. -/
theorem FoundSlot.lt_of_lt {first second : MotorProfile F}
    {slot slot' position position' : ℕ} {actuator actuator' : DeviceConfig}
    (h : FoundSlot profile lexicallyNormal first slot position actuator)
    (h' : FoundSlot profile lexicallyNormal second slot' position' actuator')
    (hpath : first.path = second.path) (hlt : position < position') :
    slot < slot' := by
  have hslot := h.slot_eq
  have hslot' := h'.slot_eq
  rw [← hpath] at hslot'
  have htake : profile.actuators.take position' =
      profile.actuators.take (position + 1) ++
        (profile.actuators.drop (position + 1)).take
          (position' - (position + 1)) := by
    rw [← List.take_add]
    congr 1
    omega
  have hnext : onTransport lexicallyNormal (canKey first.path)
      (profile.actuators.take (position + 1)) =
      onTransport lexicallyNormal (canKey first.path)
        (profile.actuators.take position) + 1 := by
    unfold onTransport
    rw [List.take_add_one, h.at_position, List.countP_append]
    simp [h.key]
  have hle : onTransport lexicallyNormal (canKey first.path)
      (profile.actuators.take (position + 1)) ≤
      onTransport lexicallyNormal (canKey first.path)
        (profile.actuators.take position') := by
    unfold onTransport
    rw [htake, List.countP_append]
    omega
  omega

theorem onTransport_sensors_le (path : String) :
    onTransport lexicallyNormal (canKey path) profile.sensors ≤ 15 :=
  onTransport_le profile lexicallyNormal
    ((motorKind profile.strtod profile.toFloat).derive_paired
      profile.derivedMotors).1.sensorsOnce
    ((motorKind profile.strtod profile.toFloat).derive_parsed
      profile.derivedMotors).1 path

theorem onTransport_actuators_le (path : String) :
    onTransport lexicallyNormal (canKey path) profile.actuators ≤ 15 := by
  have hpaired := ((motorKind profile.strtod profile.toFloat).derive_paired
    profile.derivedMotors).1
  exact onTransport_le profile lexicallyNormal
    (hpaired.perm.nodup_iff.mpr hpaired.sensorsOnce)
    ((motorKind profile.strtod profile.toFloat).derive_parsed
      profile.derivedMotors).2 path

/-- Motors with one actuator name are one motor. -/
theorem motor_of_actuatorName {first second : ℕ}
    {left right : MotorProfile F}
    (hleft : profile.motors[first]? = some left)
    (hright : profile.motors[second]? = some right)
    (hname : left.actuatorName = right.actuatorName) : first = second := by
  obtain ⟨sensor, actuator, hsensor, hactuator, hlink⟩ :=
    profile.motorLink hleft
  obtain ⟨sensor', actuator', hsensor', hactuator', hlink'⟩ :=
    profile.motorLink hright
  obtain ⟨position, hposition⟩ :=
    List.mem_iff_getElem?.mp (List.mem_filter.mp hactuator).1
  obtain ⟨position', hposition'⟩ :=
    List.mem_iff_getElem?.mp (List.mem_filter.mp hactuator').1
  have hsame := actuator_of_name profile hposition hposition'
    (hlink.actuatorName.symm.trans (hname.trans hlink'.actuatorName))
  rw [hsame, hposition'] at hposition
  cases hposition
  have hkeys := ((motorKind profile.strtod profile.toFloat).derive_paired
    profile.derivedMotors).1.sensorsOnce
  have hlt := (List.getElem?_eq_some_iff.mp hsensor).1
  apply (List.getElem?_inj (by
    rw [List.length_map]
    exact hlt) hkeys).mp
  have hdevices : (motorKind profile.strtod profile.toFloat).devices
      profile.sensors = RobotProfile.motorDevices profile.sensors := rfl
  rw [hdevices, List.getElem?_map, List.getElem?_map, hsensor, hsensor']
  simp only [Option.map_some, Option.some.injEq]
  rw [hlink.sensorKey, hlink'.sensorKey, ← hlink.actuatorKey,
    ← hlink'.actuatorKey]

end Profile

/-! ## The CAN part of a configuration -/

abbrev kRobotIoMaximumServos : ℕ := 32

/-- The number of slots of a CAN runtime. -/
abbrev kActuatorSlots : ℕ := 32

/-- The CAN runtimes of a daemon and the routes to them. -/
structure DamiaoBuses where
  paths : List String
  actuatorBindings : List (ℕ × DeviceBinding)

def DamiaoBuses.route (buses : DamiaoBuses) (index : ℕ) :
    Option DeviceBinding :=
  buses.actuatorBindings.lookup index

section Configure

variable {D : Type} [DoubleArithmetic D] [SinglePrecision F]
  (openSocketCan : String → Except Error Unit)
  (lexicallyNormal : String → String) (profile : RobotProfile D F)

def createSocketcan (path : String) : Except Error Unit :=
  if path = "" then
    .error ⟨.invalidArgument, "physical transport path must not be empty"⟩
  else
    openSocketCan path

/-- The loop over the buses, up to the first runtime that is not created. -/
def createBuses : List (String × List ℕ) → Except Error Unit
  | [] => .ok ()
  | bus :: rest =>
      match createSocketcan openSocketCan bus.1 with
      | .error error => .error error
      | .ok () => createBuses rest

def configureDamiao : Except Error DamiaoBuses :=
  match compilePhysicalTopology lexicallyNormal profile.sensors
      profile.actuators with
  | .error error => .error error
  | .ok topology =>
      if kRobotIoMaximumServos < profile.motors.length then
        .error ⟨.invalidArgument,
          "robot I/O daemon supports at most 32 Damiao motors"⟩
      else if profile.motors.any (·.transport ≠ .socketcan) then
        .error ⟨.invalidArgument,
          "Damiao daemon currently supports SocketCAN transport only"⟩
      else
        match createBuses openSocketCan (damiaoBusMembers profile.motors) with
        | .error error => .error error
        | .ok () =>
            .ok ⟨(damiaoBusMembers profile.motors).map Prod.fst,
              actuatorBindings topology profile.actuators profile.motors⟩

/-- What a configuration says about the routes. -/
structure Routed (buses : DamiaoBuses) : Prop where
  owner : ∀ {index : ℕ} {route : DeviceBinding},
    buses.route index = some route → ∃ motor : MotorProfile F,
      profile.motors[index]? = some motor ∧
      buses.paths[route.transportIndex]? = some motor.path
  exists_route : ∀ {index : ℕ} {motor : MotorProfile F},
    profile.motors[index]? = some motor → ∃ route,
      buses.route index = some route ∧
      route.transmitSlot < kActuatorSlots
  slots : ∀ {first second : ℕ} {left right : MotorProfile F}
    {route route' : DeviceBinding},
    profile.motors[first]? = some left →
    profile.motors[second]? = some right →
    buses.route first = some route → buses.route second = some route' →
    left.path = right.path → route.transmitSlot = route'.transmitSlot →
    first = second

variable {openSocketCan lexicallyNormal profile}

theorem configureDamiao_ok {buses : DamiaoBuses}
    (hok : configureDamiao openSocketCan lexicallyNormal profile =
      .ok buses) :
    ∃ topology,
      compilePhysicalTopology lexicallyNormal profile.sensors
        profile.actuators = .ok topology ∧
      (∀ motor ∈ profile.motors, motor.transport = .socketcan) ∧
      buses = ⟨(damiaoBusMembers profile.motors).map Prod.fst,
        actuatorBindings topology profile.actuators profile.motors⟩ := by
  unfold configureDamiao at hok
  split at hok
  · cases hok
  · next topology htopology =>
      split at hok
      · cases hok
      · split at hok
        · cases hok
        · next hsocketcan =>
            split at hok
            · cases hok
            · cases hok
              refine ⟨topology, htopology, ?_, rfl⟩
              intro motor hmotor
              by_contra hother
              exact hsocketcan (List.any_eq_true.mpr
                ⟨motor, hmotor, by simpa using hother⟩)

theorem mem_of_lookup {α β : Type} [BEq α] [LawfulBEq α] {key : α} {value : β}
    {table : List (α × β)} (hlookup : table.lookup key = some value) :
    (key, value) ∈ table := by
  rw [List.lookup_eq_some_iff] at hlookup
  obtain ⟨before, after, rfl, _⟩ := hlookup
  simp

section Placed

variable {topology : TopologyBuild}
  (hsocketcan : ∀ motor ∈ profile.motors, motor.transport = .socketcan)
  (hcompile : compilePhysicalTopology lexicallyNormal profile.sensors
    profile.actuators = .ok topology)
include hsocketcan hcompile

theorem slot_lt {index transportIndex localIndex : ℕ} {motor : MotorProfile F}
    (hmotor : profile.motors[index]? = some motor)
    (hlocal : (membersOf motor.path profile.motors.zipIdx)[localIndex]? =
      some index) :
    (motorRoute topology profile.actuators motor motor.path transportIndex
      localIndex).transmitSlot < kActuatorSlots := by
  have hsensors := onTransport_sensors_le profile lexicallyNormal motor.path
  have hactuators :=
    onTransport_actuators_le profile lexicallyNormal motor.path
  have hbound := members_length_le profile lexicallyNormal hsocketcan motor.path
  have hlt := (List.getElem?_eq_some_iff.mp hlocal).1
  obtain hslot | ⟨position, actuator, hfound⟩ := route_slot profile
    lexicallyNormal hsocketcan hcompile transportIndex localIndex hmotor
  · rw [hslot]
    change localIndex < 32
    omega
  · have hslot := hfound.lt
    change _ < 32
    omega

/-- Slots above the sensors differ by actuator and slots below by position. -/
theorem slot_inj {first second transportIndex transportIndex' localIndex
      localIndex' : ℕ} {left right : MotorProfile F}
    (hleft : profile.motors[first]? = some left)
    (hright : profile.motors[second]? = some right)
    (hpath : left.path = right.path)
    (hlocal : (membersOf left.path profile.motors.zipIdx)[localIndex]? =
      some first)
    (hlocal' : (membersOf right.path profile.motors.zipIdx)[localIndex']? =
      some second)
    (hslots : (motorRoute topology profile.actuators left left.path
        transportIndex localIndex).transmitSlot =
      (motorRoute topology profile.actuators right right.path transportIndex'
        localIndex').transmitSlot) :
    first = second := by
  have hbound := members_length_le profile lexicallyNormal hsocketcan left.path
  have hlt := (List.getElem?_eq_some_iff.mp hlocal).1
  have hlt' := (List.getElem?_eq_some_iff.mp hlocal').1
  rw [← hpath] at hlocal' hlt'
  obtain hslot | ⟨position, actuator, hfound⟩ := route_slot profile
    lexicallyNormal hsocketcan hcompile transportIndex localIndex hleft
  · obtain hslot' | ⟨position', actuator', hfound'⟩ := route_slot profile
      lexicallyNormal hsocketcan hcompile transportIndex' localIndex' hright
    · rw [hslot, hslot'] at hslots
      rw [hslots, hlocal'] at hlocal
      exact (Option.some.inj hlocal).symm
    · have habove := hfound'.slot_eq
      rw [← hslots, hslot, ← hpath] at habove
      omega
  · obtain hslot' | ⟨position', actuator', hfound'⟩ := route_slot profile
      lexicallyNormal hsocketcan hcompile transportIndex' localIndex' hright
    · have habove := hfound.slot_eq
      rw [hslots, hslot'] at habove
      omega
    · have hposition : position = position' := by
        obtain hbefore | hsame | hafter := Nat.lt_trichotomy position position'
        · have hless := hfound.lt_of_lt profile lexicallyNormal hfound' hpath
            hbefore
          omega
        · exact hsame
        · have hless := hfound'.lt_of_lt profile lexicallyNormal hfound
            hpath.symm hafter
          omega
      have hactuator := hfound.at_position
      rw [hposition, hfound'.at_position] at hactuator
      cases hactuator
      exact motor_of_actuatorName profile hleft hright
        (hfound.name.symm.trans hfound'.name)

end Placed

theorem routed_of_configureDamiao {buses : DamiaoBuses}
    (hok : configureDamiao openSocketCan lexicallyNormal profile =
      .ok buses) :
    Routed profile buses := by
  obtain ⟨topology, hcompile, hsocketcan, rfl⟩ := configureDamiao_ok hok
  have hbuses := busesOf_members profile.motors
  refine ⟨?_, ?_, ?_⟩
  · intro index route hroute
    obtain ⟨motor, transportIndex, localIndex, hmotor, hbus, _, rfl⟩ :=
      mem_actuatorBindings_iff.mp (mem_of_lookup hroute)
    refine ⟨motor, hmotor, ?_⟩
    have hindex : (motorRoute topology profile.actuators motor motor.path
        transportIndex localIndex).transportIndex = transportIndex := by
      unfold motorRoute
      split <;> rfl
    rw [hindex, List.getElem?_map, hbus]
    rfl
  · intro index motor hmotor
    have hlisted : motor.path ∈
        (damiaoBusMembers profile.motors).map Prod.fst :=
      (hbuses.listed motor.path).mpr
        ⟨(motor, index), List.mk_mem_zipIdx_iff_getElem?.mpr hmotor, rfl⟩
    obtain ⟨bus, hbus, hname⟩ := List.mem_map.mp hlisted
    obtain ⟨transportIndex, hat⟩ := List.mem_iff_getElem?.mp hbus
    have hmember : index ∈ membersOf motor.path profile.motors.zipIdx := by
      unfold membersOf
      refine List.mem_map.mpr ⟨(motor, index), ?_, rfl⟩
      exact List.mem_filter.mpr
        ⟨List.mk_mem_zipIdx_iff_getElem?.mpr hmotor, by simp⟩
    obtain ⟨localIndex, hlocal⟩ := List.mem_iff_getElem?.mp hmember
    have hmem : (index, motorRoute topology profile.actuators motor
        motor.path transportIndex localIndex) ∈
        actuatorBindings topology profile.actuators profile.motors := by
      refine mem_actuatorBindings_iff.mpr ⟨motor, transportIndex, localIndex,
        hmotor, ?_, hlocal, rfl⟩
      rw [hat, ← hname, ← hbuses.members bus hbus]
    have hsome : ((actuatorBindings topology profile.actuators
        profile.motors).lookup index).isSome := by
      rw [List.lookup_isSome_iff]
      exact ⟨_, hmem, by simp⟩
    obtain ⟨route, hroute⟩ := Option.isSome_iff_exists.mp hsome
    obtain ⟨owner, transportIndex', localIndex', howner, _, hlocal', rfl⟩ :=
      mem_actuatorBindings_iff.mp (mem_of_lookup hroute)
    rw [hmotor] at howner
    cases howner
    exact ⟨_, hroute, slot_lt hsocketcan hcompile hmotor hlocal'⟩
  · intro first second left right route route' hleft hright hroute hroute'
      hpath hslots
    obtain ⟨owner, transportIndex, localIndex, howner, _, hlocal, rfl⟩ :=
      mem_actuatorBindings_iff.mp (mem_of_lookup hroute)
    obtain ⟨owner', transportIndex', localIndex', howner', _, hlocal', rfl⟩ :=
      mem_actuatorBindings_iff.mp (mem_of_lookup hroute')
    rw [hleft] at howner
    rw [hright] at howner'
    cases howner
    cases howner'
    exact slot_inj hsocketcan hcompile hleft hright hpath hlocal hlocal' hslots

/-- A runtime and a slot belong to one motor. -/
theorem Routed.unique {buses : DamiaoBuses} (h : Routed profile buses)
    {first second : ℕ} {route route' : DeviceBinding}
    (hroute : buses.route first = some route)
    (hroute' : buses.route second = some route')
    (htransport : route.transportIndex = route'.transportIndex)
    (hslot : route.transmitSlot = route'.transmitSlot) : first = second := by
  obtain ⟨left, hleft, hpath⟩ := h.owner hroute
  obtain ⟨right, hright, hpath'⟩ := h.owner hroute'
  rw [htransport, hpath'] at hpath
  exact h.slots hleft hright hroute hroute' (Option.some.inj hpath).symm hslot

end Configure

end PolicyRuntime
