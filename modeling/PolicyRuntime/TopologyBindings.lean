import PolicyRuntime.CanRouting

/-!
# Bindings of the compiled topology

The topology knows a device by its type, its path and the text of its motor
number.  Sensors of one text are listed once under it and then under texts of
their own, and an actuator joins the sensor its text is listed for.
-/

namespace PolicyRuntime

/-! ## Listing of the sensors -/

/-- The identities after one more sensor. -/
def listSensor (listed : List (String × ℕ)) (identity : String) (index : ℕ) :
    List (String × ℕ) :=
  match listed.lookup identity with
  | none => listed ++ [(identity, index)]
  | some _ =>
      match listed.lookup (identity ++ "\nsensor\n" ++ toString index) with
      | none => listed ++ [(identity ++ "\nsensor\n" ++ toString index, index)]
      | some _ => listed

/-- The texts under which the sensors are listed, first come. -/
def sensorListing (sensors : List DeviceConfig) : List (String × ℕ) :=
  sensors.zipIdx.foldl
    (fun listed entry => listSensor listed (physicalIdentity entry.1) entry.2)
    []

theorem sensorListing_append (done : List DeviceConfig)
    (device : DeviceConfig) :
    sensorListing (done ++ [device]) =
      listSensor (sensorListing done) (physicalIdentity device)
        done.length := by
  unfold sensorListing
  rw [List.zipIdx_append, List.foldl_append]
  simp

/-- A sensor is listed under its own index. -/
theorem mem_listSensor {listed : List (String × ℕ)} {identity : String}
    {index : ℕ} {entry : String × ℕ}
    (hentry : entry ∈ listSensor listed identity index) :
    entry ∈ listed ∨ entry.2 = index := by
  unfold listSensor at hentry
  split at hentry
  · rw [List.mem_append, List.mem_singleton] at hentry
    cases hentry with
    | inl hold => exact Or.inl hold
    | inr hnew =>
        rw [hnew]
        exact Or.inr rfl
  · split at hentry
    · rw [List.mem_append, List.mem_singleton] at hentry
      cases hentry with
      | inl hold => exact Or.inl hold
      | inr hnew =>
          rw [hnew]
          exact Or.inr rfl
    · exact Or.inl hentry

theorem sensorListing_lt {sensors : List DeviceConfig}
    {entry : String × ℕ} (hentry : entry ∈ sensorListing sensors) :
    entry.2 < sensors.length := by
  induction sensors using List.reverseRecOn with
  | nil => cases hentry
  | append_singleton done device ih =>
      rw [sensorListing_append] at hentry
      rw [List.length_append, List.length_singleton]
      cases mem_listSensor hentry with
      | inl hold => exact Nat.lt_succ_of_lt (ih hold)
      | inr hnew =>
          rw [hnew]
          exact Nat.lt_succ_self _

section Bindings

variable (lexicallyNormal : String → String)

/-! ## Placing a device -/

theorem transport_index (build : TopologyBuild) (key : PhysicalTransportKey) :
    (build.transport key).1.transports[(build.transport key).2]? =
      some key := by
  unfold TopologyBuild.transport
  simp only
  split
  · next hlt =>
      have hfound := List.findIdx_getElem (w := hlt)
      rw [List.getElem?_eq_getElem hlt]
      simpa using hfound
  · simp

theorem transport_kept (build : TopologyBuild) (key : PhysicalTransportKey)
    {position : ℕ} {other : PhysicalTransportKey}
    (hother : build.transports[position]? = some other) :
    (build.transport key).1.transports[position]? = some other := by
  unfold TopologyBuild.transport
  simp only
  split
  · exact hother
  · rw [List.getElem?_append_left (List.getElem?_eq_some_iff.mp hother).1]
    exact hother

/-- A device finds its transport and gets the next slot on it. -/
structure Placed (build counted : TopologyBuild)
    (key : PhysicalTransportKey) (position : ℕ) : Prop where
  devices : counted.devices = build.devices
  identities : counted.identities = build.identities
  transport : counted.transports[position]? = some key
  kept : ∀ (other : ℕ) otherKey, build.transports[other]? = some otherKey →
    counted.transports[other]? = some otherKey

theorem appendDevice_placed {first : ℕ} {done : List DeviceConfig}
    {sensor : Bool} {build next : TopologyBuild} {index : ℕ}
    {device : DeviceConfig} (h : Counted lexicallyNormal first done build)
    (happend : appendDevice lexicallyNormal sensor build index device =
      .ok next) :
    ∃ key counted position, deviceKey lexicallyNormal device = some key ∧
      Placed build counted key position ∧
      next = if sensor then
          counted.bindSensor (physicalIdentity device) index position
            (onTransport lexicallyNormal key done)
        else
          counted.bindActuator (physicalIdentity device) index position
            (onTransport lexicallyNormal key done) := by
  obtain ⟨key, hkey, hnext⟩ := appendDevice_cases lexicallyNormal happend
  have htaken := slotTaken lexicallyNormal h key
  rw [htaken.slot_eq] at hnext
  refine ⟨key, _, _, hkey, ⟨htaken.devices, htaken.identities, ?_, ?_⟩, hnext⟩
  · exact transport_index build key
  · intro other otherKey hother
    exact transport_kept build key hother

/-! ## Bindings of the sensors -/

/-- The build after some sensors. -/
structure SensorsBound (first : ℕ) (done : List DeviceConfig)
    (build : TopologyBuild) : Prop where
  counted : Counted lexicallyNormal first done build
  identities : build.identities = sensorListing done
  length : build.devices.length = done.length
  binding : ∀ (index : ℕ) device, done[index]? = some device →
    ∃ key position, deviceKey lexicallyNormal device = some key ∧
      build.transports[position]? = some key ∧
      build.devices[index]? = some ⟨some index, none, position,
        onTransport lexicallyNormal key (done.take index),
        onTransport lexicallyNormal key (done.take index)⟩

theorem emplace_of_some {build : TopologyBuild} {identity : String}
    {found : ℕ} (hfound : build.identities.lookup identity = some found) :
    build.emplace identity = build := by
  unfold TopologyBuild.emplace
  rw [hfound]

theorem emplace_of_none {build : TopologyBuild} {identity : String}
    (hnone : build.identities.lookup identity = none) :
    (build.emplace identity).identities =
      build.identities ++ [(identity, build.devices.length)] := by
  unfold TopologyBuild.emplace
  rw [hnone]

/-- While all bindings have sensors, a sensor opens a binding of its own. -/
theorem bindSensor_eq {build : TopologyBuild} (identity : String)
    {index : ℕ} (position slot : ℕ) (hindex : build.devices.length = index)
    (hsensors : ∀ entry ∈ build.identities,
      ∃ binding, build.devices[entry.2]? = some binding ∧
        binding.sensorProfileIndex.isSome = true) :
    (build.bindSensor identity index position slot).devices =
        build.devices ++ [⟨some index, none, position, slot, slot⟩] ∧
      (build.bindSensor identity index position slot).identities =
        listSensor build.identities identity index ∧
      (build.bindSensor identity index position slot).transports =
        build.transports := by
  unfold TopologyBuild.bindSensor listSensor
  cases hlookup : build.identities.lookup identity with
  | none =>
      dsimp only
      rw [emplace_of_none hlookup, hindex]
      exact ⟨rfl, rfl, emplace_transports build identity⟩
  | some found =>
      dsimp only
      obtain ⟨binding, hbinding, hsome⟩ := hsensors _ (mem_of_lookup hlookup)
      dsimp only at hbinding
      rw [hbinding]
      dsimp only
      rw [if_pos hsome]
      cases hunique : build.identities.lookup
          (identity ++ "\nsensor\n" ++ toString index) with
      | some other =>
          rw [emplace_of_some hunique, emplace_of_some hlookup]
          exact ⟨rfl, rfl, rfl⟩
      | none =>
          -- the new text leaves the old one where it is
          have hkept : (build.emplace (identity ++ "\nsensor\n" ++
              toString index)).identities.lookup identity = some found := by
            rw [emplace_of_none hunique, List.lookup_append, hlookup]
            rfl
          rw [emplace_of_some hkept, emplace_of_none hunique, hindex,
            emplace_devices]
          exact ⟨rfl, rfl, emplace_transports build _⟩

theorem sensorsBound_empty (first : ℕ) :
    SensorsBound lexicallyNormal first [] .empty where
  counted := counted_empty lexicallyNormal first
  identities := rfl
  length := rfl
  binding := by simp

theorem SensorsBound.append {first : ℕ} {done : List DeviceConfig}
    {build next : TopologyBuild} {device : DeviceConfig}
    (h : SensorsBound lexicallyNormal first done build)
    (happend : appendDevice lexicallyNormal true build done.length device =
      .ok next) :
    SensorsBound lexicallyNormal first (done ++ [device]) next := by
  obtain ⟨key, counted, position, hkey, hplaced, hnext⟩ :=
    appendDevice_placed lexicallyNormal h.counted happend
  rw [if_pos rfl] at hnext
  have hsensors : ∀ entry ∈ counted.identities,
      ∃ binding, counted.devices[entry.2]? = some binding ∧
        binding.sensorProfileIndex.isSome = true := by
    intro entry hentry
    rw [hplaced.identities, h.identities] at hentry
    obtain ⟨other, hother⟩ : ∃ other, done[entry.2]? = some other :=
      ⟨_, List.getElem?_eq_getElem (sensorListing_lt hentry)⟩
    obtain ⟨_, _, -, -, hbinding⟩ := h.binding entry.2 other hother
    rw [hplaced.devices]
    exact ⟨_, hbinding, rfl⟩
  have hlength : counted.devices.length = done.length := by
    rw [hplaced.devices]
    exact h.length
  obtain ⟨hdevices, hidentities, htransports⟩ := bindSensor_eq
    (physicalIdentity device) position (onTransport lexicallyNormal key done)
    hlength hsensors
  rw [← hnext] at hdevices hidentities htransports
  refine ⟨h.counted.append lexicallyNormal (by simp) happend, ?_, ?_, ?_⟩
  · rw [hidentities, hplaced.identities, h.identities, sensorListing_append]
  · rw [hdevices, hplaced.devices, List.length_append, h.length,
      List.length_append]
    rfl
  · intro index other hother
    rw [hdevices, hplaced.devices, htransports]
    by_cases hlt : index < done.length
    · rw [List.getElem?_append_left hlt] at hother
      obtain ⟨otherKey, otherPosition, hotherKey, htransport, hbinding⟩ :=
        h.binding index other hother
      refine ⟨otherKey, otherPosition, hotherKey,
        hplaced.kept _ _ htransport, ?_⟩
      rw [List.getElem?_append_left (h.length ▸ hlt), hbinding,
        List.take_append_of_le_length hlt.le]
    · have hlast : index = done.length := by
        have hbound := (List.getElem?_eq_some_iff.mp hother).1
        rw [List.length_append, List.length_singleton] at hbound
        omega
      subst hlast
      rw [List.getElem?_concat_length, Option.some.injEq] at hother
      subst hother
      refine ⟨key, position, hkey, hplaced.transport, ?_⟩
      rw [← h.length, List.getElem?_concat_length, h.length,
        List.take_left]

theorem SensorsBound.appendAll {first : ℕ} {done list : List DeviceConfig}
    {build next : TopologyBuild}
    (h : SensorsBound lexicallyNormal first done build)
    (happend : appendDevices lexicallyNormal true build done.length list =
      .ok next) :
    SensorsBound lexicallyNormal first (done ++ list) next := by
  induction list generalizing done build with
  | nil =>
      cases happend
      rw [List.append_nil]
      exact h
  | cons device rest ih =>
      unfold appendDevices at happend
      cases hfirst : appendDevice lexicallyNormal true build done.length
          device with
      | error error =>
          rw [hfirst] at happend
          cases happend
      | ok middle =>
          rw [hfirst] at happend
          dsimp only at happend
          have hrest := ih (h.append lexicallyNormal hfirst) (by
            rw [List.length_append, List.length_singleton]
            exact happend)
          rw [List.append_assoc, List.singleton_append] at hrest
          exact hrest

/-! ## Bindings of the actuators -/

/-- What binding an actuator can do. -/
theorem bindActuator_cases {build : TopologyBuild} (identity : String)
    (index position slot : ℕ)
    (hbound : ∀ entry ∈ build.identities, entry.2 < build.devices.length) :
    (∃ more, (∀ entry ∈ more, entry.2 = build.devices.length) ∧
      (build.identities.lookup identity = none ∨
        ∃ found existing, build.identities.lookup identity = some found ∧
          build.devices[found]? = some existing ∧
          existing.actuatorProfileIndex.isSome = true) ∧
      (build.bindActuator identity index position slot).identities =
        build.identities ++ more ∧
      (build.bindActuator identity index position slot).devices =
        build.devices ++ [⟨none, some index, position, slot, slot⟩]) ∨
    (∃ found existing, build.identities.lookup identity = some found ∧
      build.devices[found]? = some existing ∧
      existing.actuatorProfileIndex = none ∧
      (build.bindActuator identity index position slot).identities =
        build.identities ∧
      (build.bindActuator identity index position slot).devices =
        build.devices.set found
          ⟨existing.sensorProfileIndex, some index, existing.transportIndex,
            existing.receiveSlot, slot⟩) := by
  unfold TopologyBuild.bindActuator
  cases hlookup : build.identities.lookup identity with
  | none =>
      left
      refine ⟨[(identity, build.devices.length)], by simp, Or.inl rfl, ?_, rfl⟩
      exact emplace_of_none hlookup
  | some found =>
      have hlt := hbound _ (mem_of_lookup hlookup)
      have hexisting := List.getElem?_eq_getElem hlt
      dsimp only at hexisting ⊢
      rw [hexisting]
      dsimp only
      by_cases hsome :
          build.devices[found].actuatorProfileIndex.isSome = true
      · rw [if_pos hsome]
        left
        cases hunique : build.identities.lookup
            (identity ++ "\nactuator\n" ++ toString index) with
        | some other =>
            rw [emplace_of_some hunique]
            exact ⟨[], by simp, Or.inr ⟨found, _, rfl, hexisting, hsome⟩,
              by simp, rfl⟩
        | none =>
            refine ⟨[(identity ++ "\nactuator\n" ++ toString index,
              build.devices.length)], by simp,
              Or.inr ⟨found, _, rfl, hexisting, hsome⟩, ?_, rfl⟩
            exact emplace_of_none hunique
      · rw [if_neg hsome]
        right
        exact ⟨found, _, rfl, hexisting,
          Option.not_isSome_iff_eq_none.mp hsome, rfl, rfl⟩

/-- An invariant of the second call of `append_devices`. -/
theorem appendActuators_invariant {sensors actuators : List DeviceConfig}
    (Holds : ℕ → TopologyBuild → Prop)
    (hstep : ∀ index device build next, actuators[index]? = some device →
      Counted lexicallyNormal sensors.length
        (sensors ++ actuators.take index) build →
      Holds index build →
      appendDevice lexicallyNormal false build index device = .ok next →
      Holds (index + 1) next)
    {build next : TopologyBuild} {index : ℕ}
    (hcounted : Counted lexicallyNormal sensors.length
      (sensors ++ actuators.take index) build)
    (hholds : Holds index build)
    (happend : appendDevices lexicallyNormal false build index
      (actuators.drop index) = .ok next) :
    Holds (max index actuators.length) next := by
  -- along the actuators which are left
  induction hlist : actuators.drop index generalizing index build with
  | nil =>
      rw [hlist] at happend
      cases happend
      rw [max_eq_left (List.drop_eq_nil_iff.mp hlist)]
      exact hholds
  | cons device rest ih =>
      have hlt : index < actuators.length := by
        by_contra hle
        rw [List.drop_eq_nil_of_le (not_lt.mp hle)] at hlist
        cases hlist
      rw [List.drop_eq_getElem_cons hlt, List.cons.injEq] at hlist
      have hdevice : actuators[index]? = some device := by
        rw [List.getElem?_eq_getElem hlt, hlist.1]
      rw [List.drop_eq_getElem_cons hlt, hlist.1] at happend
      unfold appendDevices at happend
      cases hfirst : appendDevice lexicallyNormal false build index
          device with
      | error error =>
          rw [hfirst] at happend
          cases happend
      | ok middle =>
          rw [hfirst] at happend
          dsimp only at happend
          have hnext := hcounted.append lexicallyNormal (by
            intro
            rw [List.length_append, List.length_take_of_le hlt.le]) hfirst
          rw [List.append_assoc, ← hlist.1, List.take_append_getElem hlt] at hnext
          have hrun := ih hnext (hstep index device build middle hdevice
            hcounted hholds hfirst) happend hlist.2
          rw [max_eq_right (Nat.succ_le_of_lt hlt)] at hrun
          rw [max_eq_right hlt.le]
          exact hrun

/-- An actuator stands beside a sensor only where its text is listed for that
sensor. -/
structure Joined (sensors actuators : List DeviceConfig)
    (build : TopologyBuild) : Prop where
  identities : ∃ extra, build.identities = sensorListing sensors ++ extra ∧
    ∀ entry ∈ extra, ∃ binding, build.devices[entry.2]? = some binding ∧
      binding.actuatorProfileIndex.isSome = true
  length : sensors.length ≤ build.devices.length
  sensorAt : ∀ (position : ℕ) binding index,
    build.devices[position]? = some binding →
    binding.sensorProfileIndex = some index → position = index
  joined : ∀ binding ∈ build.devices, ∀ (index other : ℕ),
    binding.sensorProfileIndex = some index →
    binding.actuatorProfileIndex = some other →
    ∃ actuator, actuators[other]? = some actuator ∧
      (sensorListing sensors).lookup (physicalIdentity actuator) = some index

theorem SensorsBound.joined {first : ℕ} {sensors : List DeviceConfig}
    {build : TopologyBuild} (actuators : List DeviceConfig)
    (h : SensorsBound lexicallyNormal first sensors build) :
    Joined sensors actuators build := by
  have hbinding (position : ℕ) (binding : DeviceBinding)
      (hposition : build.devices[position]? = some binding) :
      binding.sensorProfileIndex = some position ∧
        binding.actuatorProfileIndex = none := by
    have hlt := (List.getElem?_eq_some_iff.mp hposition).1
    rw [h.length] at hlt
    obtain ⟨_, _, -, -, hbound⟩ :=
      h.binding position _ (List.getElem?_eq_getElem hlt)
    rw [hposition, Option.some.injEq] at hbound
    rw [hbound]
    exact ⟨rfl, rfl⟩
  refine ⟨⟨[], ?_, by simp⟩, h.length.ge, ?_, ?_⟩
  · rw [List.append_nil]
    exact h.identities
  · intro position binding index hposition hindex
    rw [(hbinding position binding hposition).1] at hindex
    exact Option.some.inj hindex
  · intro binding hmem index other _ hother
    obtain ⟨position, hposition⟩ := List.mem_iff_getElem?.mp hmem
    rw [(hbinding position binding hposition).2] at hother
    cases hother

theorem Joined.lt {sensors actuators : List DeviceConfig}
    {build : TopologyBuild} (h : Joined sensors actuators build) :
    ∀ entry ∈ build.identities, entry.2 < build.devices.length := by
  obtain ⟨extra, hidentities, hextra⟩ := h.identities
  intro entry hentry
  rw [hidentities, List.mem_append] at hentry
  cases hentry with
  | inl hlisted => exact lt_of_lt_of_le (sensorListing_lt hlisted) h.length
  | inr hadded =>
      obtain ⟨binding, hbinding, -⟩ := hextra entry hadded
      exact (List.getElem?_eq_some_iff.mp hbinding).1

theorem Joined.append {sensors actuators done : List DeviceConfig}
    {build next : TopologyBuild} {index : ℕ} {device : DeviceConfig}
    (h : Joined sensors actuators build)
    (hcounted : Counted lexicallyNormal sensors.length done build)
    (hdevice : actuators[index]? = some device)
    (happend : appendDevice lexicallyNormal false build index device =
      .ok next) :
    Joined sensors actuators next := by
  obtain ⟨key, counted, position, -, hplaced, hnext⟩ :=
    appendDevice_placed lexicallyNormal hcounted happend
  rw [if_neg Bool.false_ne_true] at hnext
  obtain ⟨extra, hidentities, hextra⟩ := h.identities
  have hlt : ∀ entry ∈ counted.identities,
      entry.2 < counted.devices.length := by
    rw [hplaced.identities, hplaced.devices]
    exact h.lt
  have hcases := bindActuator_cases (physicalIdentity device) index position
    (onTransport lexicallyNormal key done) hlt
  rw [← hnext, hplaced.identities, hplaced.devices] at hcases
  cases hcases with
  | inl hopened =>
      obtain ⟨more, hmore, -, hnextIdentities, hdevices⟩ := hopened
      rw [hidentities, List.append_assoc] at hnextIdentities
      refine ⟨⟨extra ++ more, hnextIdentities, ?_⟩, ?_, ?_, ?_⟩
      · intro entry hentry
        rw [hdevices]
        rw [List.mem_append] at hentry
        cases hentry with
        | inl hold =>
            obtain ⟨binding, hbinding, hsome⟩ := hextra entry hold
            rw [List.getElem?_append_left
              (List.getElem?_eq_some_iff.mp hbinding).1]
            exact ⟨binding, hbinding, hsome⟩
        | inr hnew =>
            rw [hmore entry hnew, List.getElem?_concat_length]
            exact ⟨_, rfl, rfl⟩
      · rw [hdevices, List.length_append]
        exact Nat.le_add_right_of_le h.length
      · intro place binding other hplace hother
        rw [hdevices] at hplace
        by_cases hold : place < build.devices.length
        · rw [List.getElem?_append_left hold] at hplace
          exact h.sensorAt place binding other hplace hother
        · rw [List.getElem?_append_right (not_lt.mp hold),
            List.getElem?_singleton] at hplace
          split at hplace
          · cases hplace
            cases hother
          · cases hplace
      · intro binding hbinding sensor other hsensor hother
        rw [hdevices, List.mem_append, List.mem_singleton] at hbinding
        cases hbinding with
        | inl hold => exact h.joined binding hold sensor other hsensor hother
        | inr hnew =>
            rw [hnew] at hsensor
            cases hsensor
  | inr hset =>
      obtain ⟨found, existing, hlookup, hexisting, hnone, hnextIdentities,
        hdevices⟩ := hset
      have hlisted : (sensorListing sensors).lookup
          (physicalIdentity device) = some found := by
        rw [hidentities, List.lookup_append] at hlookup
        cases hfirst : (sensorListing sensors).lookup
            (physicalIdentity device) with
        | some first =>
            rw [hfirst] at hlookup
            exact hlookup
        | none =>
            -- the entries added behind the listing have actuators
            rw [hfirst, Option.none_or] at hlookup
            obtain ⟨binding, hbinding, hsome⟩ :=
              hextra _ (mem_of_lookup hlookup)
            rw [hexisting, Option.some.injEq] at hbinding
            rw [← hbinding, hnone] at hsome
            cases hsome
      have hat := (List.getElem?_eq_some_iff.mp hexisting).1
      refine ⟨⟨extra, hnextIdentities.trans hidentities, ?_⟩, ?_, ?_, ?_⟩
      · intro entry hentry
        obtain ⟨binding, hbinding, hsome⟩ := hextra entry hentry
        rw [hdevices, List.getElem?_set]
        by_cases hsame : found = entry.2
        · rw [if_pos hsame, if_pos (hsame ▸ hat)]
          exact ⟨_, rfl, rfl⟩
        · rw [if_neg hsame]
          exact ⟨binding, hbinding, hsome⟩
      · rw [hdevices, List.length_set]
        exact h.length
      · intro place binding other hplace hother
        rw [hdevices, List.getElem?_set] at hplace
        by_cases hsame : found = place
        · rw [if_pos hsame, if_pos (hsame ▸ hat), Option.some.injEq] at hplace
          rw [← hplace] at hother
          rw [← hsame]
          exact h.sensorAt found existing other hexisting hother
        · rw [if_neg hsame] at hplace
          exact h.sensorAt place binding other hplace hother
      · intro binding hbinding sensor other hsensor hother
        rw [hdevices] at hbinding
        cases List.mem_or_eq_of_mem_set hbinding with
        | inl hold => exact h.joined binding hold sensor other hsensor hother
        | inr hnew =>
            rw [hnew] at hsensor hother
            have hindex : index = other := Option.some.inj hother
            rw [← hindex, ← h.sensorAt found existing sensor hexisting hsensor]
            exact ⟨device, hdevice, hlisted⟩

/-! ## One actuator for every sensor -/

/-- Sensors and actuators matched one to one, by index. -/
structure Matching (linked : ℕ → ℕ → Prop)
    (sensors actuators : List DeviceConfig) : Prop where
  partner : ∀ index < sensors.length, ∃ other, linked index other
  origin : ∀ other < actuators.length, ∃ index, linked index other
  actuatorOnce : ∀ index left right, linked index left →
    linked index right → left = right
  sensorOnce : ∀ left right other, linked left other → linked right other →
    left = right
  devices : ∀ index other, linked index other →
    ∃ sensor actuator key, sensors[index]? = some sensor ∧
      actuators[other]? = some actuator ∧
      deviceKey lexicallyNormal sensor = some key ∧
      deviceKey lexicallyNormal actuator = some key

/-- Each actuator has the text its sensor is listed under. -/
def ListedText (linked : ℕ → ℕ → Prop)
    (sensors actuators : List DeviceConfig) : Prop :=
  ∀ (index other : ℕ) actuator, linked index other →
    actuators[other]? = some actuator →
    (sensorListing sensors).lookup (physicalIdentity actuator) = some index

/-- The binding of a matched sensor after the first `count` actuators. -/
def coupledBinding (sensors actuators : List DeviceConfig)
    (count index other position : ℕ) (key : PhysicalTransportKey) :
    DeviceBinding :=
  if other < count then
    ⟨some index, some other, position,
      onTransport lexicallyNormal key (sensors.take index),
      onTransport lexicallyNormal key (sensors ++ actuators.take other)⟩
  else
    ⟨some index, none, position,
      onTransport lexicallyNormal key (sensors.take index),
      onTransport lexicallyNormal key (sensors.take index)⟩

structure Coupled (linked : ℕ → ℕ → Prop)
    (sensors actuators : List DeviceConfig) (count : ℕ)
    (build : TopologyBuild) : Prop where
  identities : build.identities = sensorListing sensors
  length : build.devices.length = sensors.length
  binding : ∀ index other, linked index other → ∃ sensor key position,
    sensors[index]? = some sensor ∧
    deviceKey lexicallyNormal sensor = some key ∧
    build.transports[position]? = some key ∧
    build.devices[index]? = some (coupledBinding lexicallyNormal sensors
      actuators count index other position key)

theorem SensorsBound.coupled {first : ℕ} {linked : ℕ → ℕ → Prop}
    {sensors actuators : List DeviceConfig} {build : TopologyBuild}
    (hmatching : Matching lexicallyNormal linked sensors actuators)
    (h : SensorsBound lexicallyNormal first sensors build) :
    Coupled lexicallyNormal linked sensors actuators 0 build := by
  refine ⟨h.identities, h.length, ?_⟩
  intro index other hlinked
  obtain ⟨sensor, -, -, hsensor, -⟩ := hmatching.devices index other hlinked
  obtain ⟨key, position, hkey, htransport, hbinding⟩ :=
    h.binding index sensor hsensor
  exact ⟨sensor, key, position, hsensor, hkey, htransport, hbinding⟩

theorem Coupled.append {linked : ℕ → ℕ → Prop}
    {sensors actuators : List DeviceConfig}
    {build next : TopologyBuild} {count : ℕ} {device : DeviceConfig}
    (hmatching : Matching lexicallyNormal linked sensors actuators)
    (htexts : ListedText linked sensors actuators)
    (h : Coupled lexicallyNormal linked sensors actuators count build)
    (hcounted : Counted lexicallyNormal sensors.length
      (sensors ++ actuators.take count) build)
    (hdevice : actuators[count]? = some device)
    (happend : appendDevice lexicallyNormal false build count device =
      .ok next) :
    Coupled lexicallyNormal linked sensors actuators (count + 1) next := by
  obtain ⟨key, counted, place, hkey, hplaced, hnext⟩ :=
    appendDevice_placed lexicallyNormal hcounted happend
  rw [if_neg Bool.false_ne_true] at hnext
  have hlt : ∀ entry ∈ counted.identities,
      entry.2 < counted.devices.length := by
    rw [hplaced.identities, hplaced.devices, h.identities, h.length]
    intro entry hentry
    exact sensorListing_lt hentry
  have hcases := bindActuator_cases (physicalIdentity device) count place
    (onTransport lexicallyNormal key (sensors ++ actuators.take count)) hlt
  have htransports := (bindActuator_spec counted (physicalIdentity device)
    count place
    (onTransport lexicallyNormal key (sensors ++ actuators.take count))).1
  rw [← hnext] at hcases htransports
  rw [hplaced.identities, hplaced.devices] at hcases
  -- the text of the actuator is listed for its own sensor, still alone
  obtain ⟨index, hlinked⟩ := hmatching.origin count
    (List.getElem?_eq_some_iff.mp hdevice).1
  have hlisted : build.identities.lookup (physicalIdentity device) =
      some index := by
    rw [h.identities]
    exact htexts index count device hlinked hdevice
  obtain ⟨sensor, own, position, hsensor, hown, htransport, hbinding⟩ :=
    h.binding index count hlinked
  have hsameKey : key = own := by
    obtain ⟨sensor', actuator, shared, hsensor', hactuator, hleft, hright⟩ :=
      hmatching.devices index count hlinked
    rw [hsensor, Option.some.injEq] at hsensor'
    rw [hdevice, Option.some.injEq] at hactuator
    rw [← hsensor', hown, Option.some.injEq] at hleft
    rw [← hactuator, hkey, Option.some.injEq] at hright
    rw [hleft, hright]
  unfold coupledBinding at hbinding
  rw [if_neg (lt_irrefl count)] at hbinding
  cases hcases with
  | inl hopened =>
      obtain ⟨-, -, hbusy, -⟩ := hopened
      rw [hlisted] at hbusy
      obtain hnone | ⟨found, existing, hfound, hexisting, hsome⟩ := hbusy
      · cases hnone
      · cases hfound
        rw [hbinding, Option.some.injEq] at hexisting
        rw [← hexisting] at hsome
        cases hsome
  | inr hset =>
      obtain ⟨found, existing, hfound, hexisting, -, hidentities, hdevices⟩ :=
        hset
      rw [hlisted, Option.some.injEq] at hfound
      rw [← hfound, hbinding, Option.some.injEq] at hexisting
      rw [← hfound, ← hexisting] at hdevices
      refine ⟨hidentities.trans h.identities, ?_, ?_⟩
      · rw [hdevices, List.length_set]
        exact h.length
      · intro other partner hother
        by_cases hsame : index = other
        · subst hsame
          have hpartner : partner = count :=
            hmatching.actuatorOnce index partner count hother hlinked
          subst hpartner
          refine ⟨sensor, own, position, hsensor, hown, ?_, ?_⟩
          · rw [htransports]
            exact hplaced.kept _ _ htransport
          · rw [hdevices, List.getElem?_set_self
              (List.getElem?_eq_some_iff.mp hbinding).1]
            unfold coupledBinding
            rw [if_pos (Nat.lt_succ_self partner), hsameKey]
        · have hpartner : partner ≠ count := by
            rintro rfl
            exact hsame (hmatching.sensorOnce index other partner hlinked
              hother)
          obtain ⟨sensor', key', position', hsensor', hkey', htransport',
            hbinding'⟩ := h.binding other partner hother
          refine ⟨sensor', key', position', hsensor', hkey', ?_, ?_⟩
          · rw [htransports]
            exact hplaced.kept _ _ htransport'
          · rw [hdevices, List.getElem?_set_ne hsame, hbinding']
            unfold coupledBinding
            have hcount : partner < count + 1 ↔ partner < count := by omega
            simp only [hcount]

/-! ## The compiled bindings -/

/-- The bindings of a topology against a matching of the devices. -/
structure BindingsMatch (linked : ℕ → ℕ → Prop)
    (sensors actuators : List DeviceConfig) (build : TopologyBuild) :
    Prop where
  sensorOnce : ∀ index < sensors.length, ∃! position : ℕ, ∃ binding,
    build.devices[position]? = some binding ∧
      binding.sensorProfileIndex = some index
  actuatorOnce : ∀ index < actuators.length, ∃! position : ℕ, ∃ binding,
    build.devices[position]? = some binding ∧
      binding.actuatorProfileIndex = some index
  slots : ∀ (left right : ℕ) first second, left ≠ right →
    build.devices[left]? = some first → build.devices[right]? = some second →
    first.transportIndex = second.transportIndex →
    first.receiveSlot ≠ second.receiveSlot ∧
      first.receiveSlot ≠ second.transmitSlot ∧
      first.transmitSlot ≠ second.receiveSlot ∧
      first.transmitSlot ≠ second.transmitSlot
  shared : ∀ index < sensors.length, ∀ other < actuators.length,
    (∃ binding ∈ build.devices, binding.sensorProfileIndex = some index ∧
      binding.actuatorProfileIndex = some other) ↔ linked index other

/-- A device counts for every slot behind its own. -/
theorem onTransport_take_lt {list : List DeviceConfig} {left right : ℕ}
    {device : DeviceConfig} {key : PhysicalTransportKey}
    (hdevice : list[left]? = some device)
    (hkey : deviceKey lexicallyNormal device = some key)
    (hlt : left < right) :
    onTransport lexicallyNormal key (list.take left) <
      onTransport lexicallyNormal key (list.take right) := by
  obtain ⟨hbound, hat⟩ := List.getElem?_eq_some_iff.mp hdevice
  have hsucc : onTransport lexicallyNormal key (list.take (left + 1)) =
      onTransport lexicallyNormal key (list.take left) + 1 := by
    unfold onTransport
    rw [← List.take_append_getElem hbound, List.countP_append, hat]
    simp [hkey]
  have hle : onTransport lexicallyNormal key (list.take (left + 1)) ≤
      onTransport lexicallyNormal key (list.take right) := by
    unfold onTransport
    apply List.Sublist.countP_le
    exact (List.take_prefix_take_left hlt).sublist
  omega

theorem onTransport_take_ne {list : List DeviceConfig} {left right : ℕ}
    {first second : DeviceConfig} {key : PhysicalTransportKey}
    (hfirst : list[left]? = some first)
    (hsecond : list[right]? = some second)
    (hleft : deviceKey lexicallyNormal first = some key)
    (hright : deviceKey lexicallyNormal second = some key)
    (hne : left ≠ right) :
    onTransport lexicallyNormal key (list.take left) ≠
      onTransport lexicallyNormal key (list.take right) := by
  cases Nat.lt_or_gt_of_ne hne with
  | inl hlt =>
      exact (onTransport_take_lt lexicallyNormal hfirst hleft hlt).ne
  | inr hgt =>
      exact (onTransport_take_lt lexicallyNormal hsecond hright hgt).ne'

/-- A binding with both its devices, found by the place of its sensor. -/
structure FullBinding (sensors actuators : List DeviceConfig)
    (build : TopologyBuild) (index other : ℕ) (binding : DeviceBinding) :
    Prop where
  sensorIndex : binding.sensorProfileIndex = some index
  actuatorIndex : binding.actuatorProfileIndex = some other
  placed : ∃ sensor actuator key,
    (sensors ++ actuators)[index]? = some sensor ∧
    (sensors ++ actuators)[sensors.length + other]? = some actuator ∧
    deviceKey lexicallyNormal sensor = some key ∧
    deviceKey lexicallyNormal actuator = some key ∧
    build.transports[binding.transportIndex]? = some key ∧
    binding.receiveSlot = onTransport lexicallyNormal key
      ((sensors ++ actuators).take index) ∧
    binding.transmitSlot = onTransport lexicallyNormal key
      ((sensors ++ actuators).take (sensors.length + other))

theorem Coupled.full {linked : ℕ → ℕ → Prop}
    {sensors actuators : List DeviceConfig} {build : TopologyBuild}
    (hmatching : Matching lexicallyNormal linked sensors actuators)
    (h : Coupled lexicallyNormal linked sensors actuators actuators.length
      build) {index other : ℕ} (hlinked : linked index other) :
    ∃ binding, build.devices[index]? = some binding ∧
      FullBinding lexicallyNormal sensors actuators build index other
        binding := by
  obtain ⟨sensor, key, position, hsensor, hkey, htransport, hbinding⟩ :=
    h.binding index other hlinked
  obtain ⟨sensor', actuator, shared, hsensor', hactuator, hleft, hright⟩ :=
    hmatching.devices index other hlinked
  rw [hsensor, Option.some.injEq] at hsensor'
  rw [← hsensor', hkey, Option.some.injEq] at hleft
  have hlt := (List.getElem?_eq_some_iff.mp hsensor).1
  refine ⟨_, hbinding, ?_⟩
  unfold coupledBinding
  rw [if_pos (List.getElem?_eq_some_iff.mp hactuator).1]
  refine ⟨rfl, rfl, sensor, actuator, key, ?_, ?_, hkey, ?_, htransport, ?_,
    ?_⟩
  · rw [List.getElem?_append_left hlt]
    exact hsensor
  · rw [List.getElem?_append_right (Nat.le_add_right _ _),
      Nat.add_sub_cancel_left]
    exact hactuator
  · rw [hleft]
    exact hright
  · rw [List.take_append_of_le_length hlt.le]
  · rw [List.take_length_add_append]

theorem Coupled.matches {linked : ℕ → ℕ → Prop}
    {sensors actuators : List DeviceConfig} {build : TopologyBuild}
    (hmatching : Matching lexicallyNormal linked sensors actuators)
    (h : Coupled lexicallyNormal linked sensors actuators actuators.length
      build) :
    BindingsMatch linked sensors actuators build := by
  -- every binding is that of a matched sensor
  have hfull (position : ℕ) (binding : DeviceBinding)
      (hbinding : build.devices[position]? = some binding) :
      ∃ other, linked position other ∧
        FullBinding lexicallyNormal sensors actuators build position other
          binding := by
    have hlt := (List.getElem?_eq_some_iff.mp hbinding).1
    rw [h.length] at hlt
    obtain ⟨other, hlinked⟩ := hmatching.partner position hlt
    obtain ⟨same, hsame, hbound⟩ := h.full lexicallyNormal hmatching hlinked
    rw [hbinding, Option.some.injEq] at hsame
    rw [← hsame] at hbound
    exact ⟨other, hlinked, hbound⟩
  refine ⟨?_, ?_, ?_, ?_⟩
  · intro index hindex
    obtain ⟨other, hlinked⟩ := hmatching.partner index hindex
    obtain ⟨binding, hbinding, hbound⟩ :=
      h.full lexicallyNormal hmatching hlinked
    refine ⟨index, ⟨binding, hbinding, hbound.sensorIndex⟩, ?_⟩
    rintro position ⟨found, hfound, hsensor⟩
    obtain ⟨_, -, hplaced⟩ := hfull position found hfound
    rw [hplaced.sensorIndex, Option.some.injEq] at hsensor
    exact hsensor
  · intro other hother
    obtain ⟨index, hlinked⟩ := hmatching.origin other hother
    obtain ⟨binding, hbinding, hbound⟩ :=
      h.full lexicallyNormal hmatching hlinked
    refine ⟨index, ⟨binding, hbinding, hbound.actuatorIndex⟩, ?_⟩
    rintro position ⟨found, hfound, hactuator⟩
    obtain ⟨partner, hpartner, hplaced⟩ := hfull position found hfound
    rw [hplaced.actuatorIndex, Option.some.injEq] at hactuator
    rw [hactuator] at hpartner
    exact hmatching.sensorOnce position index other hpartner hlinked
  · intro left right first second hne hfirst hsecond htransport
    obtain ⟨leftOther, hleftLinked, hleft⟩ := hfull left first hfirst
    obtain ⟨rightOther, hrightLinked, hright⟩ := hfull right second hsecond
    obtain ⟨ls, la, lkey, hls, hla, hlsKey, hlaKey, hlt, hlr, hlx⟩ :=
      hleft.placed
    obtain ⟨rs, ra, rkey, hrs, hra, hrsKey, hraKey, hrt, hrr, hrx⟩ :=
      hright.placed
    rw [htransport, hrt, Option.some.injEq] at hlt
    subst hlt
    have hothers : leftOther ≠ rightOther := by
      rintro rfl
      exact hne (hmatching.sensorOnce left right leftOther hleftLinked
        hrightLinked)
    have hleftLt : left < sensors.length := by
      rw [← h.length]
      exact (List.getElem?_eq_some_iff.mp hfirst).1
    have hrightLt : right < sensors.length := by
      rw [← h.length]
      exact (List.getElem?_eq_some_iff.mp hsecond).1
    rw [hlr, hlx, hrr, hrx]
    refine ⟨?_, ?_, ?_, ?_⟩
    · exact onTransport_take_ne lexicallyNormal hls hrs hlsKey hrsKey hne
    · apply onTransport_take_ne lexicallyNormal hls hra hlsKey hraKey
      omega
    · apply onTransport_take_ne lexicallyNormal hla hrs hlaKey hrsKey
      omega
    · apply onTransport_take_ne lexicallyNormal hla hra hlaKey hraKey
      omega
  · intro index hindex other hother
    constructor
    · rintro ⟨binding, hmem, hsensor, hactuator⟩
      obtain ⟨position, hposition⟩ := List.mem_iff_getElem?.mp hmem
      obtain ⟨partner, hpartner, hplaced⟩ := hfull position binding hposition
      rw [hplaced.sensorIndex, Option.some.injEq] at hsensor
      rw [hplaced.actuatorIndex, Option.some.injEq] at hactuator
      rw [hsensor, hactuator] at hpartner
      exact hpartner
    · intro hlinked
      obtain ⟨binding, hbinding, hbound⟩ :=
        h.full lexicallyNormal hmatching hlinked
      exact ⟨binding, List.mem_of_getElem? hbinding, hbound.sensorIndex,
        hbound.actuatorIndex⟩

theorem appendDevices_ok (sensor : Bool) {list : List DeviceConfig}
    (hkinds : ∀ device ∈ list, ∃ kind, transportKind device = .ok kind)
    (hpaths : ∀ device ∈ list, device.path.isEmpty = false)
    (build : TopologyBuild) (index : ℕ) :
    ∃ next, appendDevices lexicallyNormal sensor build index list =
      .ok next := by
  induction list generalizing build index with
  | nil => exact ⟨build, rfl⟩
  | cons device rest ih =>
      rw [List.forall_mem_cons] at hkinds hpaths
      obtain ⟨kind, hkind⟩ := hkinds.1
      obtain ⟨middle, hmiddle⟩ : ∃ middle,
          appendDevice lexicallyNormal sensor build index device =
            .ok middle := by
        unfold appendDevice
        rw [hkind, hpaths.1]
        dsimp only
        cases sensor
        · exact ⟨_, rfl⟩
        · exact ⟨_, rfl⟩
      unfold appendDevices
      rw [hmiddle]
      exact ih hkinds.2 hpaths.2 middle (index + 1)

/-- The compiled bindings follow a matching exactly if each actuator has the
text its sensor is listed under. -/
theorem compile_matches_iff {linked : ℕ → ℕ → Prop}
    {sensors actuators : List DeviceConfig}
    (hmatching : Matching lexicallyNormal linked sensors actuators)
    (hkinds : ∀ device ∈ sensors ++ actuators,
      ∃ kind, transportKind device = .ok kind)
    (hpaths : ∀ device ∈ sensors ++ actuators,
      device.path.isEmpty = false) :
    (∃ build, compilePhysicalTopology lexicallyNormal sensors actuators =
        .ok build ∧ BindingsMatch linked sensors actuators build) ↔
      ListedText linked sensors actuators := by
  rw [List.forall_mem_append] at hkinds hpaths
  obtain ⟨middle, hmiddle⟩ := appendDevices_ok lexicallyNormal true hkinds.1
    hpaths.1 .empty 0
  obtain ⟨final, hfinal⟩ := appendDevices_ok lexicallyNormal false hkinds.2
    hpaths.2 middle 0
  have hcompile : compilePhysicalTopology lexicallyNormal sensors actuators =
      .ok final := by
    unfold compilePhysicalTopology
    rw [hmiddle]
    exact hfinal
  have hsensed := (sensorsBound_empty lexicallyNormal
    sensors.length).appendAll lexicallyNormal hmiddle
  rw [List.nil_append] at hsensed
  have hcounted : Counted lexicallyNormal sensors.length
      (sensors ++ actuators.take 0) middle := by
    rw [List.take_zero, List.append_nil]
    exact hsensed.counted
  have hdrop : appendDevices lexicallyNormal false middle 0
      (actuators.drop 0) = .ok final := hfinal
  constructor
  · rintro ⟨build, hbuild, hmatch⟩ index other actuator hlinked hactuator
    rw [hcompile, Except.ok.injEq] at hbuild
    subst hbuild
    have hjoined := appendActuators_invariant lexicallyNormal
      (fun _ build => Joined sensors actuators build)
      (fun index device build next hdevice hcounted h happend =>
        h.append lexicallyNormal hcounted hdevice happend)
      hcounted (hsensed.joined lexicallyNormal actuators) hdrop
    obtain ⟨sensor, _, _, hsensor, -⟩ := hmatching.devices index other hlinked
    obtain ⟨binding, hbinding, hindex, hother⟩ := (hmatch.shared index
      (List.getElem?_eq_some_iff.mp hsensor).1 other
      (List.getElem?_eq_some_iff.mp hactuator).1).mpr hlinked
    obtain ⟨same, hsame, hlisted⟩ :=
      hjoined.joined binding hbinding index other hindex hother
    rw [hactuator, Option.some.injEq] at hsame
    rw [hsame]
    exact hlisted
  · intro htexts
    have hcoupled := appendActuators_invariant lexicallyNormal
      (Coupled lexicallyNormal linked sensors actuators)
      (fun count device build next hdevice hcounted h happend =>
        h.append lexicallyNormal hmatching htexts hcounted hdevice happend)
      hcounted (hsensed.coupled lexicallyNormal hmatching) hdrop
    rw [Nat.zero_max] at hcoupled
    exact ⟨final, hcompile, hcoupled.matches lexicallyNormal hmatching⟩

end Bindings

end PolicyRuntime
