import PolicyRuntime.RobotProfiles

/-!
# Transports of a profile

The topology gives every device a transport and a slot on it, counting sensors
before actuators.  The daemon opens one CAN runtime for every path of its motors
and looks the transmit slot of a motor up by the name of its actuator.
-/

namespace PolicyRuntime

inductive PhysicalTransportKind
  | ethercat
  | serial
  | socketcan
  | usbCan
  deriving DecidableEq

structure PhysicalTransportKey where
  kind : PhysicalTransportKind
  path : String
  deriving DecidableEq

structure DeviceBinding where
  sensorProfileIndex : Option ℕ
  actuatorProfileIndex : Option ℕ
  transportIndex : ℕ
  receiveSlot : ℕ
  transmitSlot : ℕ
  deriving DecidableEq

def transportKind (device : DeviceConfig) :
    Except Error PhysicalTransportKind :=
  let incompatible : Except Error PhysicalTransportKind :=
    .error ⟨.invalidArgument,
      "device '" ++ device.name ++ "' has no compatible transport"⟩
  if device.type = "cia402" then
    .ok .ethercat
  else if device.type = "st3215" then
    .ok .serial
  else if device.type = "damiao_motor" then
    let value := (device.args.lookup "transport").getD "socketcan"
    if value = "socketcan" then .ok .socketcan
    else if value = "virtual_serial" || value = "usb_can" then .ok .usbCan
    else incompatible
  else
    incompatible

def physicalIdentity (device : DeviceConfig) : String :=
  let identity := device.type ++ "\n" ++ device.path
  match device.args.lookup "motor_id" with
  | some motorId => identity ++ "\n" ++ motorId
  | none => identity

/-- The compiled topology and the maps it is built with. -/
structure TopologyBuild where
  transports : List PhysicalTransportKey
  devices : List DeviceBinding
  identities : List (String × ℕ)
  nextSlots : List ℕ

namespace TopologyBuild

def empty : TopologyBuild := ⟨[], [], [], []⟩

/-- `std::map::emplace` into the identities. -/
def emplace (build : TopologyBuild) (identity : String) : TopologyBuild :=
  match build.identities.lookup identity with
  | some _ => build
  | none =>
      { build with
        identities := build.identities ++ [(identity, build.devices.length)] }

/-- The transport of a key, which may be a new one. -/
def transport (build : TopologyBuild) (key : PhysicalTransportKey) :
    TopologyBuild × ℕ :=
  let index := build.transports.findIdx (· = key)
  if index < build.transports.length then
    (build, index)
  else
    ({ build with
        transports := build.transports ++ [key]
        nextSlots := build.nextSlots ++ [0] }, build.transports.length)

/-- `next_slots[transport_index]++` -/
def takeSlot (build : TopologyBuild) (index : ℕ) : TopologyBuild × ℕ :=
  let slot := build.nextSlots.getD index 0
  ({ build with nextSlots := build.nextSlots.set index (slot + 1) }, slot)

def bindSensor (build : TopologyBuild) (identity : String)
    (index transportIndex slot : ℕ) : TopologyBuild :=
  let binding : DeviceBinding := ⟨some index, none, transportIndex, slot, slot⟩
  let append (build : TopologyBuild) : TopologyBuild :=
    { build.emplace identity with devices := build.devices ++ [binding] }
  match build.identities.lookup identity with
  | none => append build
  | some found =>
      match build.devices[found]? with
      | none => build
      | some existing =>
          if existing.sensorProfileIndex.isSome then
            append (build.emplace
              (identity ++ "\nsensor\n" ++ toString index))
          else
            { build with
              devices := build.devices.set found
                { existing with
                  sensorProfileIndex := some index
                  receiveSlot := slot } }

def bindActuator (build : TopologyBuild) (identity : String)
    (index transportIndex slot : ℕ) : TopologyBuild :=
  let binding : DeviceBinding := ⟨none, some index, transportIndex, slot, slot⟩
  match build.identities.lookup identity with
  | none =>
      { build.emplace identity with devices := build.devices ++ [binding] }
  | some found =>
      match build.devices[found]? with
      | none => build
      | some existing =>
          if existing.actuatorProfileIndex.isSome then
            { build.emplace (identity ++ "\nactuator\n" ++ toString index) with
              devices := build.devices ++ [binding] }
          else
            { build with
              devices := build.devices.set found
                { existing with
                  actuatorProfileIndex := some index
                  transmitSlot := slot } }

end TopologyBuild

section Topology

-- `std::filesystem::path::lexically_normal`
variable (lexicallyNormal : String → String)

def canonicalPath (kind : PhysicalTransportKind) (path : String) : String :=
  if kind = .socketcan then path else lexicallyNormal path

/-- The body of the loop of `append_devices`. -/
def appendDevice (sensor : Bool) (build : TopologyBuild) (index : ℕ)
    (device : DeviceConfig) : Except Error TopologyBuild :=
  match transportKind device with
  | .error error => .error error
  | .ok kind =>
      if device.path.isEmpty then
        .error ⟨.invalidArgument,
          "device '" ++ device.name ++ "' requires a transport path"⟩
      else
        let (placed, transportIndex) :=
          build.transport ⟨kind, canonicalPath lexicallyNormal kind device.path⟩
        let (counted, slot) := placed.takeSlot transportIndex
        let identity := physicalIdentity device
        if sensor then
          .ok (counted.bindSensor identity index transportIndex slot)
        else
          .ok (counted.bindActuator identity index transportIndex slot)

def appendDevices (sensor : Bool) :
    TopologyBuild → ℕ → List DeviceConfig → Except Error TopologyBuild
  | build, _, [] => .ok build
  | build, index, device :: rest =>
      match appendDevice lexicallyNormal sensor build index device with
      | .error error => .error error
      | .ok next => appendDevices sensor next (index + 1) rest

def compilePhysicalTopology (sensors actuators : List DeviceConfig) :
    Except Error TopologyBuild :=
  match appendDevices lexicallyNormal true .empty 0 sensors with
  | .error error => .error error
  | .ok build => appendDevices lexicallyNormal false build 0 actuators

/-! ## Slots count the devices of a transport -/

def deviceKey (device : DeviceConfig) : Option PhysicalTransportKey :=
  match transportKind device with
  | .ok kind => some ⟨kind, canonicalPath lexicallyNormal kind device.path⟩
  | .error _ => none

def onTransport (key : PhysicalTransportKey) (devices : List DeviceConfig) :
    ℕ :=
  devices.countP fun device => deviceKey lexicallyNormal device = some key

/-- The build after some devices, of which those from `first` on are
actuators. -/
structure Counted (first : ℕ) (done : List DeviceConfig)
    (build : TopologyBuild) : Prop where
  nodup : build.transports.Nodup
  slots : build.nextSlots = build.transports.map fun key =>
    onTransport lexicallyNormal key done
  known : ∀ device ∈ done, ∀ key, deviceKey lexicallyNormal device = some key →
    key ∈ build.transports
  bound : ∀ binding ∈ build.devices, ∀ index : ℕ,
    binding.actuatorProfileIndex = some index →
    ∃ device key, done[first + index]? = some device ∧
      deviceKey lexicallyNormal device = some key ∧
      binding.transmitSlot =
        onTransport lexicallyNormal key (done.take (first + index))

theorem counted_empty (first : ℕ) :
    Counted lexicallyNormal first [] .empty where
  nodup := List.nodup_nil
  slots := rfl
  known := by simp
  bound := by simp [TopologyBuild.empty]

/-- What finding the transport and taking a slot on it does. -/
structure SlotTaken (build counted : TopologyBuild)
    (key : PhysicalTransportKey) (done : List DeviceConfig) (slot : ℕ) :
    Prop where
  devices : counted.devices = build.devices
  identities : counted.identities = build.identities
  slot_eq : slot = onTransport lexicallyNormal key done
  nodup : counted.transports.Nodup
  slots : counted.nextSlots = counted.transports.map fun other =>
    onTransport lexicallyNormal other done + if other = key then 1 else 0
  known : ∀ other, other ∈ build.transports ∨ other = key →
    other ∈ counted.transports

theorem slotTaken {first : ℕ} {done : List DeviceConfig}
    {build : TopologyBuild} (h : Counted lexicallyNormal first done build)
    (key : PhysicalTransportKey) :
    SlotTaken lexicallyNormal build
      ((build.transport key).1.takeSlot (build.transport key).2).1 key done
      ((build.transport key).1.takeSlot (build.transport key).2).2 := by
  unfold TopologyBuild.transport
  simp only
  split
  · next hlt =>
      have hkey : build.transports[build.transports.findIdx (· = key)]? =
          some key := by
        have hfound := List.findIdx_getElem (w := hlt)
        rw [List.getElem?_eq_getElem hlt]
        simpa using hfound
      have hslot : build.nextSlots.getD
          (build.transports.findIdx (· = key)) 0 =
            onTransport lexicallyNormal key done := by
        rw [h.slots, List.getD_eq_getElem?_getD, List.getElem?_map, hkey]
        rfl
      refine ⟨rfl, rfl, hslot, h.nodup, ?_, ?_⟩
      · simp only [TopologyBuild.takeSlot, hslot]
        rw [h.slots]
        apply List.ext_getElem?
        intro position
        rw [List.getElem?_set, List.getElem?_map, List.getElem?_map]
        split
        · next hposition =>
            rw [← hposition, hkey, if_pos (by simpa using hlt)]
            simp
        · next hposition =>
            cases hother : build.transports[position]? with
            | none => rfl
            | some other =>
                have hne : other ≠ key := by
                  rintro rfl
                  apply hposition
                  apply (List.getElem?_inj hlt h.nodup).mp
                  rw [hkey, hother]
                simp [hne]
      · rintro other (hold | rfl)
        · exact hold
        · exact List.mem_of_getElem? hkey
  · next hnew =>
      have hfresh : key ∉ build.transports := by
        intro hmem
        apply hnew
        exact List.findIdx_lt_length_of_exists ⟨key, hmem, by simp⟩
      have hnone : onTransport lexicallyNormal key done = 0 := by
        apply List.countP_eq_zero.mpr
        intro device hdevice
        simp only [decide_eq_true_eq]
        intro hkey
        exact hfresh (h.known device hdevice key hkey)
      have hlength : build.nextSlots.length = build.transports.length := by
        rw [h.slots, List.length_map]
      refine ⟨rfl, rfl, ?_,
        LinkTable.nodup_append_singleton h.nodup hfresh, ?_, ?_⟩
      · simp [TopologyBuild.takeSlot, hnone, ← hlength]
      · simp only [TopologyBuild.takeSlot]
        have hold : build.transports.map (fun other =>
            onTransport lexicallyNormal other done +
              if other = key then 1 else 0) = build.nextSlots := by
          rw [h.slots]
          apply List.map_congr_left
          intro other hother
          have hne : other ≠ key := fun heq => hfresh (heq ▸ hother)
          simp [hne]
        rw [List.map_append, hold, ← hlength]
        simp [hnone]
      · rintro other (hold | rfl)
        · exact List.mem_append_left _ hold
        · simp [TopologyBuild.takeSlot]

@[simp] theorem emplace_transports (build : TopologyBuild)
    (identity : String) :
    (build.emplace identity).transports = build.transports := by
  unfold TopologyBuild.emplace
  split <;> rfl

@[simp] theorem emplace_nextSlots (build : TopologyBuild)
    (identity : String) :
    (build.emplace identity).nextSlots = build.nextSlots := by
  unfold TopologyBuild.emplace
  split <;> rfl

@[simp] theorem emplace_devices (build : TopologyBuild) (identity : String) :
    (build.emplace identity).devices = build.devices := by
  unfold TopologyBuild.emplace
  split <;> rfl

section Binding

variable (build : TopologyBuild) (identity : String)
  (index transportIndex slot : ℕ)

/-- A sensor moves no transmit slot. -/
theorem bindSensor_spec :
    (build.bindSensor identity index transportIndex slot).transports =
        build.transports ∧
      (build.bindSensor identity index transportIndex slot).nextSlots =
        build.nextSlots ∧
      ∀ binding ∈
        (build.bindSensor identity index transportIndex slot).devices,
        ∀ actuator, binding.actuatorProfileIndex = some actuator →
          ∃ old ∈ build.devices, old.actuatorProfileIndex = some actuator ∧
            old.transmitSlot = binding.transmitSlot := by
  have hnew (devices : List DeviceBinding) (hdevices : devices =
      build.devices ++ [⟨some index, none, transportIndex, slot, slot⟩]) :
      ∀ binding ∈ devices, ∀ actuator,
        binding.actuatorProfileIndex = some actuator →
        ∃ old ∈ build.devices, old.actuatorProfileIndex = some actuator ∧
          old.transmitSlot = binding.transmitSlot := by
    intro binding hbinding actuator hactuator
    rw [hdevices, List.mem_append, List.mem_singleton] at hbinding
    obtain hold | rfl := hbinding
    · exact ⟨binding, hold, hactuator, rfl⟩
    · simp at hactuator
  unfold TopologyBuild.bindSensor
  simp only
  split
  · exact ⟨by simp, by simp, hnew _ rfl⟩
  · split
    · exact ⟨rfl, rfl, fun binding hbinding actuator hactuator =>
        ⟨binding, hbinding, hactuator, rfl⟩⟩
    · next existing hexisting =>
        split
        · exact ⟨by simp, by simp, hnew _ (by simp)⟩
        · refine ⟨rfl, rfl, ?_⟩
          intro binding hbinding actuator hactuator
          obtain hold | rfl := List.mem_or_eq_of_mem_set hbinding
          · exact ⟨binding, hold, hactuator, rfl⟩
          · exact ⟨existing, List.mem_of_getElem? hexisting, hactuator, rfl⟩

/-- An actuator gets its own slot and moves no other. -/
theorem bindActuator_spec :
    (build.bindActuator identity index transportIndex slot).transports =
        build.transports ∧
      (build.bindActuator identity index transportIndex slot).nextSlots =
        build.nextSlots ∧
      ∀ binding ∈
        (build.bindActuator identity index transportIndex slot).devices,
        ∀ actuator, binding.actuatorProfileIndex = some actuator →
          (actuator = index ∧ binding.transmitSlot = slot) ∨
          ∃ old ∈ build.devices, old.actuatorProfileIndex = some actuator ∧
            old.transmitSlot = binding.transmitSlot := by
  have hnew (devices : List DeviceBinding) (hdevices : devices =
      build.devices ++ [⟨none, some index, transportIndex, slot, slot⟩]) :
      ∀ binding ∈ devices, ∀ actuator,
        binding.actuatorProfileIndex = some actuator →
        (actuator = index ∧ binding.transmitSlot = slot) ∨
        ∃ old ∈ build.devices, old.actuatorProfileIndex = some actuator ∧
          old.transmitSlot = binding.transmitSlot := by
    intro binding hbinding actuator hactuator
    rw [hdevices, List.mem_append, List.mem_singleton] at hbinding
    obtain hold | rfl := hbinding
    · exact Or.inr ⟨binding, hold, hactuator, rfl⟩
    · exact Or.inl ⟨by simpa using hactuator.symm, rfl⟩
  unfold TopologyBuild.bindActuator
  simp only
  split
  · exact ⟨by simp, by simp, hnew _ rfl⟩
  · split
    · exact ⟨rfl, rfl, fun binding hbinding actuator hactuator =>
        Or.inr ⟨binding, hbinding, hactuator, rfl⟩⟩
    · next existing hexisting =>
        split
        · exact ⟨by simp, by simp, hnew _ rfl⟩
        · refine ⟨rfl, rfl, ?_⟩
          intro binding hbinding actuator hactuator
          obtain hold | rfl := List.mem_or_eq_of_mem_set hbinding
          · exact Or.inr ⟨binding, hold, hactuator, rfl⟩
          · exact Or.inl ⟨by simpa using hactuator.symm, rfl⟩

end Binding

/-- What appending a device goes through. -/
theorem appendDevice_cases {sensor : Bool} {build next : TopologyBuild}
    {index : ℕ} {device : DeviceConfig}
    (happend : appendDevice lexicallyNormal sensor build index device =
      .ok next) :
    ∃ key, deviceKey lexicallyNormal device = some key ∧
      next = if sensor then
          (((build.transport key).1.takeSlot
            (build.transport key).2).1.bindSensor (physicalIdentity device)
              index (build.transport key).2
              ((build.transport key).1.takeSlot (build.transport key).2).2)
        else
          (((build.transport key).1.takeSlot
            (build.transport key).2).1.bindActuator (physicalIdentity device)
              index (build.transport key).2
              ((build.transport key).1.takeSlot
                (build.transport key).2).2) := by
  unfold appendDevice at happend
  unfold deviceKey
  split at happend
  · contradiction
  · next kind hkind =>
      split at happend
      · contradiction
      · refine ⟨⟨kind, canonicalPath lexicallyNormal kind device.path⟩, ?_, ?_⟩
        · rw [hkind]
        · cases sensor
          · simpa using happend.symm
          · simpa using happend.symm

theorem Counted.append {first : ℕ} {done : List DeviceConfig}
    {build next : TopologyBuild} {sensor : Bool} {index : ℕ}
    {device : DeviceConfig} (h : Counted lexicallyNormal first done build)
    (hindex : sensor = false → done.length = first + index)
    (happend : appendDevice lexicallyNormal sensor build index device =
      .ok next) :
    Counted lexicallyNormal first (done ++ [device]) next := by
  obtain ⟨key, hkey, hnext⟩ := appendDevice_cases lexicallyNormal happend
  have htaken := slotTaken lexicallyNormal h key
  have hcount (other : PhysicalTransportKey) :
      onTransport lexicallyNormal other (done ++ [device]) =
        onTransport lexicallyNormal other done +
          if other = key then 1 else 0 := by
    unfold onTransport
    rw [List.countP_append]
    by_cases hother : other = key
    · simp [hother, hkey]
    · simp [hother, hkey, Ne.symm hother]
  -- bindings of earlier actuators keep their slots
  have hold : ∀ binding ∈ build.devices, ∀ actuator,
      binding.actuatorProfileIndex = some actuator →
      ∃ other otherKey, (done ++ [device])[first + actuator]? = some other ∧
        deviceKey lexicallyNormal other = some otherKey ∧
        binding.transmitSlot = onTransport lexicallyNormal otherKey
          ((done ++ [device]).take (first + actuator)) := by
    intro binding hbinding actuator hactuator
    obtain ⟨other, otherKey, hother, hotherKey, hslot⟩ :=
      h.bound binding hbinding actuator hactuator
    have hlt := (List.getElem?_eq_some_iff.mp hother).1
    refine ⟨other, otherKey, ?_, hotherKey, ?_⟩
    · rw [List.getElem?_append_left hlt]
      exact hother
    · rw [List.take_append_of_le_length hlt.le]
      exact hslot
  have hknown : ∀ other ∈ done ++ [device], ∀ otherKey,
      deviceKey lexicallyNormal other = some otherKey →
      otherKey ∈ ((build.transport key).1.takeSlot
        (build.transport key).2).1.transports := by
    intro other hother otherKey hotherKey
    apply htaken.known
    rw [List.mem_append, List.mem_singleton] at hother
    obtain hearlier | rfl := hother
    · exact Or.inl (h.known other hearlier otherKey hotherKey)
    · rw [hkey] at hotherKey
      exact Or.inr (Option.some.inj hotherKey).symm
  cases sensor with
  | true =>
      rw [if_pos rfl] at hnext
      obtain ⟨htransports, hslots, hbound⟩ := bindSensor_spec
        ((build.transport key).1.takeSlot (build.transport key).2).1
        (physicalIdentity device) index (build.transport key).2
        ((build.transport key).1.takeSlot (build.transport key).2).2
      rw [← hnext] at htransports hslots hbound
      refine ⟨by rw [htransports]; exact htaken.nodup, ?_,
        by rw [htransports]; exact hknown, ?_⟩
      · rw [hslots, htransports, htaken.slots]
        simp only [hcount]
      · intro binding hbinding actuator hactuator
        obtain ⟨old, holdMem, holdActuator, hsame⟩ :=
          hbound binding hbinding actuator hactuator
        rw [htaken.devices] at holdMem
        rw [← hsame]
        exact hold old holdMem actuator holdActuator
  | false =>
      rw [if_neg Bool.false_ne_true] at hnext
      obtain ⟨htransports, hslots, hbound⟩ := bindActuator_spec
        ((build.transport key).1.takeSlot (build.transport key).2).1
        (physicalIdentity device) index (build.transport key).2
        ((build.transport key).1.takeSlot (build.transport key).2).2
      rw [← hnext] at htransports hslots hbound
      refine ⟨by rw [htransports]; exact htaken.nodup, ?_,
        by rw [htransports]; exact hknown, ?_⟩
      · rw [hslots, htransports, htaken.slots]
        simp only [hcount]
      · intro binding hbinding actuator hactuator
        obtain ⟨rfl, hslot⟩ | ⟨old, holdMem, holdActuator, hsame⟩ :=
          hbound binding hbinding actuator hactuator
        · refine ⟨device, key, ?_, hkey, ?_⟩
          · rw [← hindex rfl]
            simp
          · rw [hslot, htaken.slot_eq, ← hindex rfl]
            simp
        · rw [htaken.devices] at holdMem
          rw [← hsame]
          exact hold old holdMem actuator holdActuator

theorem Counted.appendAll {first : ℕ} {done list : List DeviceConfig}
    {build next : TopologyBuild} {sensor : Bool} {index : ℕ}
    (h : Counted lexicallyNormal first done build)
    (hindex : sensor = false → done.length = first + index)
    (happend : appendDevices lexicallyNormal sensor build index list =
      .ok next) :
    Counted lexicallyNormal first (done ++ list) next := by
  induction list generalizing done build index with
  | nil =>
      cases happend
      simpa using h
  | cons device rest ih =>
      unfold appendDevices at happend
      cases hfirst : appendDevice lexicallyNormal sensor build index device with
      | error error =>
          rw [hfirst] at happend
          contradiction
      | ok middle =>
          rw [hfirst] at happend
          have hstep := h.append lexicallyNormal hindex hfirst
          have hrest := ih hstep (by
            intro hsensor
            rw [List.length_append, List.length_singleton, hindex hsensor]
            omega) happend
          simpa using hrest

/-- The transmit slot of an actuator counts the devices of its transport which
stand before it, all sensors among them. -/
theorem compile_counted {sensors actuators : List DeviceConfig}
    {build : TopologyBuild}
    (hcompile : compilePhysicalTopology lexicallyNormal sensors actuators =
      .ok build) :
    Counted lexicallyNormal sensors.length (sensors ++ actuators) build := by
  unfold compilePhysicalTopology at hcompile
  cases hfirst : appendDevices lexicallyNormal true .empty 0 sensors with
  | error error =>
      rw [hfirst] at hcompile
      contradiction
  | ok middle =>
      rw [hfirst] at hcompile
      have hsensors := (counted_empty lexicallyNormal
        sensors.length).appendAll lexicallyNormal (by simp) hfirst
      rw [List.nil_append] at hsensors
      exact hsensors.appendAll lexicallyNormal (by simp) hcompile

end Topology

end PolicyRuntime
