import PolicyRuntime.CanRuntime

/-!
# Frames on the bus

Every frame a cycle loop sends for a slot was staged for the one motor of the
slot, unless the version word of the slot came around while the loop loaded it.
The sequence numbers sent for a slot increase in any case.
-/

namespace PolicyRuntime

variable {F : Type}

abbrev CanTransition (F : Type) :=
  Transition (CanState F) (CanInput F) CanEvent

/-- The frame an event stages for a slot, with the index of its motor. -/
def CanEvent.stagedFor (buses : DamiaoBuses) (runtime : ℕ)
    (slot : Fin kActuatorSlots) : CanEvent → Option (ℕ × DeviceFrame)
  | .staged index frame =>
      if (buses.route index).any fun route =>
          route.transportIndex = runtime && route.transmitSlot = slot.val then
        some (index, frame)
      else none
  | _ => none

def lastStaged (buses : DamiaoBuses) (runtime : ℕ)
    (slot : Fin kActuatorSlots) (history : List (CanTransition F)) :
    Option (ℕ × DeviceFrame) :=
  (history.filterMap fun t => t.output.stagedFor buses runtime slot).getLast?

/-- The object that was staged last for a slot. -/
def StagedFor (buses : DamiaoBuses) (history : List (CanTransition F))
    (runtime : ℕ) (slot : Fin kActuatorSlots)
    (object : Fin DeviceFrame.objectSize → Byte) : Prop :=
  ∃ staged, lastStaged buses runtime slot history = some staged ∧
    staged.2.object = object

/-- The sequence number an event sends for a slot. -/
def CanEvent.sentSequence (runtime : ℕ) (slot : Fin kActuatorSlots) :
    CanEvent → Option (BitVec 64)
  | .sent runtime' slot' frame _ =>
      if runtime' = runtime ∧ slot' = slot then some frame.sequence else none
  | _ => none

def sentSequences (runtime : ℕ) (slot : Fin kActuatorSlots)
    (history : List (CanTransition F)) : List (BitVec 64) :=
  history.filterMap fun t => t.output.sentSequence runtime slot

theorem lastStaged_append_of_none {buses : DamiaoBuses} {runtime : ℕ}
    {slot : Fin kActuatorSlots} {history : List (CanTransition F)}
    {t : CanTransition F}
    (hnone : t.output.stagedFor buses runtime slot = none) :
    lastStaged buses runtime slot (history ++ [t]) =
      lastStaged buses runtime slot history := by
  simp [lastStaged, hnone]

theorem stagedFor_append_iff {buses : DamiaoBuses} {runtime : ℕ}
    {slot : Fin kActuatorSlots} {history : List (CanTransition F)}
    {t : CanTransition F}
    (hnone : t.output.stagedFor buses runtime slot = none) :
    StagedFor buses (history ++ [t]) runtime slot =
      StagedFor buses history runtime slot := by
  unfold StagedFor
  rw [lastStaged_append_of_none hnone]

/-- What the slots hold after a history. -/
structure CanSound (buses : DamiaoBuses) (history : List (CanTransition F))
    (state : CanState F) : Prop where
  mailbox : ∀ runtime slot, (state.slot runtime slot).mailbox.Sound
    (StagedFor buses history runtime slot)
  stager : ∀ runtime slot, (state.slot runtime slot).mailbox.store ≠ none →
    state.stager = some (runtime, slot)
  increasing : ∀ runtime slot,
    (sentSequences runtime slot history).Pairwise (· < ·)
  consumed : ∀ runtime slot, ∀ sequence ∈ sentSequences runtime slot history,
    sequence ≤ (state.slot runtime slot).consumedSequence

theorem canSound_configured [SinglePrecision F] (buses : DamiaoBuses)
    (motors : List (MotorProfile F)) :
    CanSound buses [] (CanState.configured motors) where
  mailbox := fun _ _ => SeqLock.sound_constructed
  stager := by
    intro runtime slot hstore
    exact absurd rfl hstore
  increasing := fun _ _ => List.Pairwise.nil
  consumed := by
    intro runtime slot sequence hsequence
    cases hsequence

section Step

variable {buses : DamiaoBuses} {history : List (CanTransition F)}
  {state after : CanState F} {t : CanTransition F}

/-- A step which stores or loads in one slot and sends nothing. -/
theorem CanSound.quiet (h : CanSound buses history state) {runtime : ℕ}
    {slot : Fin kActuatorSlots}
    {mailbox : SeqLock DeviceFrame.objectSize Byte}
    (hchanged : state.SlotChanged after runtime slot
      ⟨mailbox, (state.slot runtime slot).consumedSequence⟩)
    (hmailbox : mailbox.Sound (StagedFor buses (history ++ [t]) runtime slot))
    (hother : ∀ runtime' slot', (runtime', slot') ≠ (runtime, slot) →
      t.output.stagedFor buses runtime' slot' = none)
    (hstager : ∀ runtime' slot',
      (after.slot runtime' slot').mailbox.store ≠ none →
        after.stager = some (runtime', slot'))
    (hquiet : ∀ runtime' slot',
      t.output.sentSequence runtime' slot' = none) :
    CanSound buses (history ++ [t]) after := by
  have hsent (runtime' : ℕ) (slot' : Fin kActuatorSlots) :
      sentSequences runtime' slot' (history ++ [t]) =
        sentSequences runtime' slot' history := by
    simp [sentSequences, hquiet]
  refine ⟨?_, hstager, ?_, ?_⟩
  · intro runtime' slot'
    by_cases hsame : (runtime', slot') = (runtime, slot)
    · cases hsame
      rw [hchanged.changed]
      exact hmailbox
    · rw [hchanged.unchanged hsame, stagedFor_append_iff (hother _ _ hsame)]
      exact h.mailbox runtime' slot'
  · intro runtime' slot'
    rw [hsent]
    exact h.increasing runtime' slot'
  · intro runtime' slot' sequence hsequence
    rw [hsent] at hsequence
    by_cases hsame : (runtime', slot') = (runtime, slot)
    · cases hsame
      rw [hchanged.changed]
      exact h.consumed runtime slot sequence hsequence
    · rw [hchanged.unchanged hsame]
      exact h.consumed runtime' slot' sequence hsequence

/-- A step which changes no slot. -/
theorem CanSound.idle (h : CanSound buses history state)
    (hslots : after.slot = state.slot) (hstager : after.stager = state.stager)
    (hquiet : t.output = .quiet) :
    CanSound buses (history ++ [t]) after := by
  have hnone (runtime : ℕ) (slot : Fin kActuatorSlots) :
      t.output.stagedFor buses runtime slot = none := by
    rw [hquiet]
    rfl
  have hmailbox := h.mailbox 0 0
  rw [← stagedFor_append_iff (hnone 0 0)] at hmailbox
  have hchanged : state.SlotChanged after 0 0 (state.slot 0 0) := by
    constructor
    · rw [hslots]
    · intro runtime' slot' _
      rw [hslots]
  refine h.quiet hchanged hmailbox (fun _ _ _ => hnone _ _) ?_
    (by simp [hquiet, CanEvent.sentSequence])
  intro runtime slot hstore
  rw [hslots] at hstore
  rw [hstager]
  exact h.stager runtime slot hstore

theorem CanSound.stage [SinglePrecision F] (h : CanSound buses history state)
    {index : ℕ} {value : DamiaoCommandValue F}
    (ht : t.output = (state.stage buses index value).2) :
    CanSound buses (history ++ [t]) (state.stage buses index value).1 := by
  obtain ⟨hslots, hstager, hquiet⟩ |
    ⟨route, frame, slot, hroute, hfree, hslot, hchanged, hstager, hstaged⟩ :=
    state.stage_cases buses index value
  · rw [hquiet] at ht
    exact h.idle hslots hstager ht
  · rw [hstaged] at ht
    have hidle (runtime' : ℕ) (slot' : Fin kActuatorSlots) :
        (state.slot runtime' slot').mailbox.store = none := by
      by_contra hstore
      have hbusy := h.stager runtime' slot' hstore
      rw [hfree] at hbusy
      cases hbusy
    refine h.quiet hchanged ?_ ?_ ?_ (by simp [ht, CanEvent.sentSequence])
    · refine (h.mailbox route.transportIndex slot).beginStore (hidle _ _) ?_
      refine ⟨(index, frame), ?_, rfl⟩
      simp [lastStaged, ht, CanEvent.stagedFor, hroute, hslot]
    · intro runtime' slot' hne
      simp only [ht, CanEvent.stagedFor, hroute, Option.any_some,
        Bool.and_eq_true, decide_eq_true_eq, ite_eq_right_iff]
      rintro ⟨rfl, hsame⟩
      exact absurd (Prod.ext rfl (Fin.ext (hsame.symm.trans hslot.symm)) :
        (_, slot') = (_, slot)) hne
    · intro runtime' slot' hstore
      by_cases hsame : (runtime', slot') = (route.transportIndex, slot)
      · rw [hstager, hsame]
      · rw [hchanged.unchanged hsame, hidle] at hstore
        exact absurd rfl hstore

theorem CanSound.store (h : CanSound buses history state)
    (ht : t.output = .quiet) :
    CanSound buses (history ++ [t]) state.store := by
  have hnone (runtime : ℕ) (slot : Fin kActuatorSlots) :
      t.output.stagedFor buses runtime slot = none := by
    rw [ht]
    rfl
  obtain ⟨hsame, _⟩ | ⟨runtime, slot, hstager, hchanged, hnext⟩ :=
    state.store_cases
  · rw [hsame]
    exact h.idle rfl rfl ht
  · refine h.quiet hchanged ?_ (fun _ _ _ => hnone _ _) ?_
      (by simp [ht, CanEvent.sentSequence])
    · rw [stagedFor_append_iff (hnone runtime slot)]
      exact (h.mailbox runtime slot).advanceStore
    · intro runtime' slot' hstore
      by_cases hsame : (runtime', slot') = (runtime, slot)
      · cases hsame
        rw [hchanged.changed] at hstore
        obtain hbusy | hnone := hnext
        · exact hbusy
        · exact absurd hnone hstore
      · rw [hchanged.unchanged hsame] at hstore
        have hbusy := h.stager runtime' slot' hstore
        rw [hstager] at hbusy
        exact absurd (Option.some.inj hbusy).symm hsame

theorem CanSound.cycle (h : CanSound buses history state) {runtime : ℕ}
    (ht : t.output = (state.cycle runtime).2) :
    CanSound buses (history ++ [t]) (state.cycle runtime).1 := by
  obtain ⟨slot, consumed, _, hchanged, hstager, hcase⟩ :=
    state.cycle_cases runtime
  have hnone (runtime' : ℕ) (slot' : Fin kActuatorSlots) :
      t.output.stagedFor buses runtime' slot' = none := by
    obtain ⟨_, hquiet⟩ | ⟨_, _, _, _, hsent⟩ := hcase
    · rw [ht, hquiet]
      rfl
    · rw [ht, hsent]
      rfl
  have hmailbox : ((state.slot runtime slot).mailbox.advanceLoad 64 16).1.Sound
      (StagedFor buses (history ++ [t]) runtime slot) := by
    rw [stagedFor_append_iff (hnone runtime slot)]
    exact (h.mailbox runtime slot).advanceLoad (by decide)
  have hbusy : ∀ runtime' slot',
      ((state.cycle runtime).1.slot runtime' slot').mailbox.store ≠ none →
        (state.cycle runtime).1.stager = some (runtime', slot') := by
    intro runtime' slot' hstore
    rw [hstager]
    apply h.stager
    by_cases hsame : (runtime', slot') = (runtime, slot)
    · cases hsame
      rw [hchanged.changed, SeqLock.advanceLoad_store] at hstore
      exact hstore
    · rw [hchanged.unchanged hsame] at hstore
      exact hstore
  obtain ⟨rfl, hquiet⟩ | ⟨value, hloaded, hvalue, hnewer, hsent⟩ := hcase
  · rw [hquiet] at ht
    exact h.quiet hchanged hmailbox (fun _ _ _ => hnone _ _) hbusy
      (by simp [ht, CanEvent.sentSequence])
  · rw [hsent] at ht
    have hnumbers (runtime' : ℕ) (slot' : Fin kActuatorSlots) :
        sentSequences runtime' slot' (history ++ [t]) =
          sentSequences runtime' slot' history ++
            if runtime = runtime' ∧ slot = slot' then [consumed] else [] := by
      by_cases hsame : runtime = runtime' ∧ slot = slot'
      · simp [sentSequences, ht, CanEvent.sentSequence, hsame, hvalue]
      · simp [sentSequences, ht, CanEvent.sentSequence, hsame]
    refine ⟨?_, hbusy, ?_, ?_⟩
    · intro runtime' slot'
      by_cases hsame : (runtime', slot') = (runtime, slot)
      · cases hsame
        rw [hchanged.changed]
        exact hmailbox
      · rw [hchanged.unchanged hsame, stagedFor_append_iff (hnone _ _)]
        exact h.mailbox runtime' slot'
    · intro runtime' slot'
      rw [hnumbers]
      split
      · next hsame =>
          obtain ⟨rfl, rfl⟩ := hsame
          rw [List.pairwise_append]
          refine ⟨h.increasing runtime slot, List.pairwise_singleton _ _, ?_⟩
          intro sequence hsequence last hlast
          rw [List.mem_singleton.mp hlast]
          exact Nat.lt_of_le_of_lt
            (h.consumed runtime slot sequence hsequence) hnewer
      · rw [List.append_nil]
        exact h.increasing runtime' slot'
    · intro runtime' slot' sequence hsequence
      rw [hnumbers] at hsequence
      by_cases hsame : (runtime', slot') = (runtime, slot)
      · cases hsame
        rw [hchanged.changed]
        simp only [and_self, if_true, List.mem_append, List.mem_singleton]
          at hsequence
        obtain hold | rfl := hsequence
        · exact BitVec.le_of_lt (Nat.lt_of_le_of_lt
            (h.consumed runtime slot sequence hold) hnewer)
        · exact BitVec.le_refl _
      · have hother : ¬ (runtime = runtime' ∧ slot = slot') := by
          rintro ⟨rfl, rfl⟩
          exact hsame rfl
        rw [if_neg hother, List.append_nil] at hsequence
        rw [hchanged.unchanged hsame]
        exact h.consumed runtime' slot' sequence hsequence

end Step

section Runs

variable [SinglePrecision F] {buses : DamiaoBuses}

/-- The history and the end of a run. -/
theorem canSound_final (buses : DamiaoBuses) (motors : List (MotorProfile F))
    (inputs : List (CanInput F)) :
    CanSound buses ((canMachine buses).trace (.configured motors) inputs)
      ((canMachine buses).final (.configured motors) inputs) := by
  apply Machine.history_final (CanSound buses)
  · exact canSound_configured buses motors
  · intro history state input h
    cases input with
    | stage index value => exact h.stage rfl
    | store => exact h.store rfl
    | cycle runtime => exact h.cycle rfl

/-- A load that sends ends in the frame staged last. -/
theorem CanSound.sent {history : List (CanTransition F)} {state : CanState F}
    (h : CanSound buses history state) {input : CanInput F} {runtime : ℕ}
    {slot : Fin kActuatorSlots} {frame : DeviceFrame} {can : CanFrame}
    (hsent : ((canMachine buses).step state input).2 =
      .sent runtime slot frame can)
    (hfresh : (state.slot runtime slot).mailbox.Fresh 64) :
    can = frame.toCan ∧ ∃ index,
      lastStaged buses runtime slot history = some (index, frame) := by
  cases input with
  | stage index value =>
      change (state.stage buses index value).2 = _ at hsent
      obtain ⟨_, _, hquiet⟩ | ⟨_, _, _, _, _, _, _, _, hstaged⟩ :=
        state.stage_cases buses index value
      · rw [hquiet] at hsent
        cases hsent
      · rw [hstaged] at hsent
        cases hsent
  | store => cases hsent
  | cycle runtime' =>
      change (state.cycle runtime').2 = _ at hsent
      obtain ⟨slot', consumed, _, _, _, hcase⟩ := state.cycle_cases runtime'
      obtain ⟨_, hquiet⟩ | ⟨value, hloaded, _, _, hevent⟩ := hcase
      · rw [hquiet] at hsent
        cases hsent
      · rw [hevent] at hsent
        cases hsent
        have hstored := (h.mailbox runtime slot).loaded (by decide) hfresh
          hloaded
        obtain ⟨⟨index, staged⟩, hlast, hobject⟩ := hstored
        refine ⟨rfl, index, ?_⟩
        rw [hlast, ← hobject, DeviceFrame.ofObject_object]

omit [SinglePrecision F] in
/-- A frame staged for a slot is in the history of its motor. -/
theorem mem_of_lastStaged {history : List (CanTransition F)} {runtime : ℕ}
    {slot : Fin kActuatorSlots} {index : ℕ} {frame : DeviceFrame}
    (hlast : lastStaged buses runtime slot history = some (index, frame)) :
    (∃ route, buses.route index = some route ∧
      route.transportIndex = runtime ∧ route.transmitSlot = slot.val) ∧
    ∃ u ∈ history, u.output = .staged index frame := by
  obtain ⟨u, hu, hstaged⟩ := List.mem_filterMap.mp
    (List.mem_of_getLast? hlast)
  cases hout : u.output with
  | quiet => simp [hout, CanEvent.stagedFor] at hstaged
  | sent runtime' slot' frame' can =>
      simp [hout, CanEvent.stagedFor] at hstaged
  | staged index' frame' =>
      simp only [hout, CanEvent.stagedFor, Option.ite_none_right_eq_some,
        Option.some.injEq, Prod.mk.injEq, Option.any_eq_true, Bool.and_eq_true,
        decide_eq_true_eq] at hstaged
      obtain ⟨⟨route, hroute, hmatch⟩, rfl, rfl⟩ := hstaged
      exact ⟨⟨route, hroute, hmatch⟩, u, hu, hout⟩

/-- Every route names the runtime of the motor's path and a slot of its own,
and what is sent for the slot was staged for the motor. -/
theorem damiao_frames_routed {D : Type} [DoubleArithmetic D]
    {openSocketCan : String → Except Error Unit}
    {lexicallyNormal : String → String} {profile : RobotProfile D F}
    (hconfigured : configureDamiao openSocketCan lexicallyNormal profile =
      .ok buses) :
    (∀ index motor, profile.motors[index]? = some motor → ∃ route,
      buses.route index = some route ∧
      buses.paths[route.transportIndex]? = some motor.path ∧
      route.transmitSlot < kActuatorSlots) ∧
    (∀ first second left right route route',
      profile.motors[first]? = some left →
      profile.motors[second]? = some right →
      buses.route first = some route → buses.route second = some route' →
      first ≠ second → left.path = right.path →
      route.transmitSlot ≠ route'.transmitSlot) ∧
    ∀ inputs : List (CanInput F),
      (∀ (earlier : List (Transition (CanState F) (CanInput F) CanEvent))
        (t : Transition (CanState F) (CanInput F) CanEvent)
        (later : List (Transition (CanState F) (CanInput F) CanEvent))
        runtime slot frame can,
        (canMachine buses).trace (.configured profile.motors) inputs =
          earlier ++ t :: later →
        t.output = .sent runtime slot frame can →
        (t.before.slot runtime slot).mailbox.Fresh 64 →
        ∃ index route, buses.route index = some route ∧
          route.transportIndex = runtime ∧ route.transmitSlot = slot.val ∧
          (∀ other route', buses.route other = some route' →
            route'.transportIndex = runtime →
            route'.transmitSlot = slot.val → other = index) ∧
          can = frame.toCan ∧
          ∃ u ∈ earlier, u.output = .staged index frame) ∧
      ∀ index route slot, buses.route index = some route →
        slot.val = route.transmitSlot →
        (sentSequences route.transportIndex slot ((canMachine buses).trace
          (.configured profile.motors) inputs)).Pairwise (· < ·) := by
  have hrouted := routed_of_configureDamiao hconfigured
  refine ⟨?_, ?_, ?_⟩
  · intro index motor hmotor
    obtain ⟨route, hroute, hslot⟩ := hrouted.exists_route hmotor
    obtain ⟨owner, howner, hpath⟩ := hrouted.owner hroute
    rw [hmotor] at howner
    cases howner
    exact ⟨route, hroute, hpath, hslot⟩
  · intro first second left right route route' hleft hright hroute hroute' hne
      hpath hslots
    exact hne (hrouted.slots hleft hright hroute hroute' hpath hslots)
  · intro inputs
    refine ⟨?_, ?_⟩
    · intro earlier t later runtime slot frame can hsplit hsent hfresh
      obtain ⟨before, input, _, _, rfl, rfl, _⟩ := Machine.trace_split hsplit
      have hsound := canSound_final buses profile.motors before
      obtain ⟨hcan, index, hlast⟩ := hsound.sent hsent hfresh
      obtain ⟨⟨route, hroute, hruntime, hslot⟩, hhistory⟩ :=
        mem_of_lastStaged hlast
      refine ⟨index, route, hroute, hruntime, hslot, ?_, hcan, hhistory⟩
      intro other route' hother hruntime' hslot'
      exact hrouted.unique hother hroute (hruntime'.trans hruntime.symm)
        (hslot'.trans hslot.symm)
    · intro index route slot _ _
      exact (canSound_final buses profile.motors inputs).increasing _ _

end Runs

/-! ## A version word that comes around -/

def twoMotorBuses : DamiaoBuses :=
  (configureDamiao (fun _ => .ok ()) id twoMotorProfile).toOption.getD
    ⟨[], []⟩

theorem twoMotor_configured :
    configureDamiao (fun _ => .ok ()) id twoMotorProfile =
      .ok twoMotorBuses := by
  have hok : (configureDamiao (fun _ => .ok ()) id twoMotorProfile).isOk =
      true := by
    decide +kernel
  unfold twoMotorBuses
  cases hresult : configureDamiao (fun _ => .ok ()) id twoMotorProfile with
  | error error =>
      rw [hresult] at hok
      contradiction
  | ok buses => rfl

/-- The elbow has the first actuator and the second sensor. -/
def elbowRoute : DeviceBinding := ⟨none, some 0, 0, 0, 2⟩

theorem elbow_route : twoMotorBuses.route 1 = some elbowRoute := by
  decide +kernel

theorem damiao_frames_routed_elbow :
    ∃ route, twoMotorBuses.route 1 = some route ∧
      twoMotorBuses.paths[route.transportIndex]? = some "can0" ∧
      route.transmitSlot < kActuatorSlots := by
  have hmotor : (twoMotorProfile.motors[1]?).map MotorProfile.path =
      some "can0" := by
    decide +kernel
  obtain ⟨motor, hat, hpath⟩ := Option.map_eq_some_iff.mp hmotor
  rw [← hpath]
  exact (damiao_frames_routed twoMotor_configured).1 1 motor hat

def stopSample (faultReset : Bool) (sequence : BitVec 64) :
    DamiaoCommandValue ℚ :=
  ⟨false, faultReset, 0, 0, 0, 0, 0, sequence⟩

def elbowFrame (control : DamiaoControl) (sequence : BitVec 64) :
    DeviceFrame where
  sequence := sequence
  address := 2
  size := 8
  bytes := fun i => if h : i.val < 8 then encodeControl control ⟨i.val, h⟩ else 0

/-- The slot of the elbow between two accesses, with its cycle loop on it. -/
structure AtElbow (state : CanState ℚ)
    (lock : SeqLock DeviceFrame.objectSize Byte)
    (stager : Option (ℕ × Fin kActuatorSlots)) : Prop where
  slot : state.slot 0 2 = ⟨lock, 0⟩
  position : (state.runtimes 0).position = 2
  stager : state.stager = stager
  actuator : ∃ actuator, state.actuators[1]? = some actuator ∧
    actuator.zeroRequested = false ∧ actuator.motorId = 2

theorem AtElbow.stage {state : CanState ℚ}
    {lock : SeqLock DeviceFrame.objectSize Byte}
    (h : AtElbow state lock none) (faultReset : Bool)
    (sequence : BitVec 64) :
    let frame := elbowFrame (if faultReset then .zeroPosition else .disable)
      sequence
    let next := state.stage twoMotorBuses 1 (stopSample faultReset sequence)
    AtElbow next.1 (lock.beginStore frame.object) (some (0, 2)) ∧
      next.2 = .staged 1 frame := by
  obtain ⟨actuator, hat, hclear, hid⟩ := h.actuator
  have hencode := (stopSample faultReset sequence).encode_eq hclear
  have hpayload : (stopSample faultReset sequence).payload actuator.limits =
      some (encodeControl
        (if faultReset then .zeroPosition else .disable)) := by
    cases faultReset <;> rfl
  have hframe : (actuator.frame (encodeControl
      (if faultReset then .zeroPosition else .disable))).setSequence
        (stopSample faultReset sequence).sequence =
      elbowFrame (if faultReset then .zeroPosition else .disable)
        sequence := by
    unfold DamiaoActuator.frame elbowFrame
    rw [hid]
    rfl
  rw [hpayload, Option.map_some, hframe] at hencode
  have hvalid : elbowRoute.transportIndex < twoMotorBuses.paths.length ∧
      elbowRoute.transmitSlot < kActuatorSlots ∧
      (elbowFrame (if faultReset then .zeroPosition else .disable)
        sequence).size.toNat ≤ 256 :=
    ⟨by decide +kernel, by decide, Nat.le_of_ble_eq_true rfl⟩
  have hslot : state.slot elbowRoute.transportIndex
      ⟨elbowRoute.transmitSlot, hvalid.2.1⟩ = ⟨lock, 0⟩ := h.slot
  have hlt := (List.getElem?_eq_some_iff.mp hat).1
  unfold CanState.stage
  simp only [h.stager, elbow_route, hat, hencode]
  rw [dif_pos hvalid]
  simp only [CanState.slot_setActuator, hslot]
  refine ⟨⟨(CanState.slot_setStager ..).trans
    (CanState.slot_setSlot_self _ 0 2 _), ?_, rfl, ?_⟩, trivial⟩
  · simpa [CanState.setStager, CanState.setSlot, CanState.setActuator,
      elbowRoute] using h.position
  · refine ⟨_, List.getElem?_set_self hlt, rfl, hid⟩

theorem AtElbow.store {state : CanState ℚ}
    {lock : SeqLock DeviceFrame.objectSize Byte}
    (h : AtElbow state lock (some (0, 2))) :
    AtElbow state.store lock.advanceStore
      (if lock.advanceStore.store.isSome then some (0, 2) else none) := by
  have hslot := h.slot
  unfold CanState.store
  simp only [h.stager, hslot]
  refine ⟨by simp, ?_, rfl, h.actuator⟩
  simpa [CanState.setStager, CanState.setSlot] using h.position

theorem AtElbow.cycle {state : CanState ℚ}
    {lock : SeqLock DeviceFrame.objectSize Byte}
    {stager : Option (ℕ × Fin kActuatorSlots)}
    (h : AtElbow state lock stager)
    (hrunning : (lock.advanceLoad 64 16).2 = .running) :
    AtElbow (state.cycle 0).1 (lock.advanceLoad 64 16).1 stager := by
  unfold CanState.cycle
  simp only [h.position, h.slot, hrunning]
  refine ⟨by simp, ?_, h.stager, h.actuator⟩
  simpa [CanState.setSlot] using h.position

theorem configured_atElbow :
    AtElbow ((canMachine twoMotorBuses).final (.configured twoMotorProfile.motors)
      (List.replicate 32 (.cycle 0))) .constructed none := by
  have hpositions : ∀ k < 32, (((canMachine twoMotorBuses).final
      (.configured twoMotorProfile.motors)
      (List.replicate k (.cycle 0))).runtimes 0).position ≠ 2 := by
    decide +kernel
  have hslot : ∀ k ≤ 32, ((canMachine twoMotorBuses).final
      (.configured twoMotorProfile.motors)
      (List.replicate k (.cycle 0))).slot 0 2 = ⟨.constructed, 0⟩ := by
    intro k hk
    induction k with
    | zero => rfl
    | succ k ih =>
        rw [List.replicate_succ', Machine.final_append]
        obtain ⟨target, consumed, htarget, hchanged, _⟩ :=
          ((canMachine twoMotorBuses).final (.configured twoMotorProfile.motors)
            (List.replicate k (.cycle 0))).cycle_cases 0
        have hne : ((0, 2) : ℕ × Fin kActuatorSlots) ≠ (0, target) := by
          intro heq
          have hposition := hpositions k (by omega)
          rw [← htarget] at hposition
          exact hposition (Prod.mk.inj heq).2.symm
        exact (hchanged.unchanged hne).trans (ih (by omega))
  refine ⟨hslot 32 le_rfl, by decide +kernel, by decide +kernel, ?_⟩
  have hids : ((((canMachine twoMotorBuses).final
      (.configured twoMotorProfile.motors)
      (List.replicate 32 (.cycle 0))).actuators[1]?).map
        fun actuator => (actuator.zeroRequested, actuator.motorId)) =
      some (false, 2) := by
    decide +kernel
  obtain ⟨actuator, hat, hid⟩ := Option.map_eq_some_iff.mp hids
  exact ⟨actuator, hat, (Prod.mk.inj hid).1, (Prod.mk.inj hid).2⟩

/-- The two frames that are staged. -/
def zeroFrame : DeviceFrame := elbowFrame .zeroPosition 1

def disableFrame : DeviceFrame := elbowFrame .disable 2

/-- A run which stages no other frames. -/
def Leads (state after : CanState ℚ) : Prop :=
  ∃ inputs, (canMachine twoMotorBuses).final state inputs = after ∧
    ∀ t ∈ (canMachine twoMotorBuses).trace state inputs, ∀ index frame,
      t.output = .staged index frame →
        frame = zeroFrame ∨ frame = disableFrame

theorem Leads.trans {first second third : CanState ℚ}
    (h : Leads first second) (h' : Leads second third) :
    Leads first third := by
  obtain ⟨inputs, hfinal, hstaged⟩ := h
  obtain ⟨inputs', hfinal', hstaged'⟩ := h'
  refine ⟨inputs ++ inputs', ?_, ?_⟩
  · rw [Machine.final_append, hfinal, hfinal']
  · intro t ht
    rw [Machine.trace_append, hfinal, List.mem_append] at ht
    obtain hold | hnew := ht
    · exact hstaged t hold
    · exact hstaged' t hnew

/-- One step. -/
theorem Leads.step {state : CanState ℚ} (input : CanInput ℚ)
    (hstaged : ∀ index frame,
      (CanState.step twoMotorBuses state input).2 = .staged index frame →
        frame = zeroFrame ∨ frame = disableFrame) :
    Leads state (CanState.step twoMotorBuses state input).1 := by
  refine ⟨[input], rfl, ?_⟩
  intro t ht
  rw [Machine.trace_cons, Machine.trace_nil, List.mem_singleton] at ht
  subst ht
  exact hstaged

variable {state : CanState ℚ} {lock : SeqLock DeviceFrame.objectSize Byte}

theorem cycle_ne_staged (runtime index : ℕ) (frame : DeviceFrame) :
    (state.cycle runtime).2 ≠ .staged index frame := by
  obtain ⟨_, _, _, _, _, ⟨_, hquiet⟩ | ⟨_, _, _, _, hsent⟩⟩ :=
    state.cycle_cases runtime
  · rw [hquiet]
    exact fun h => by cases h
  · rw [hsent]
    exact fun h => by cases h

theorem Leads.cycle : Leads state (state.cycle 0).1 := by
  apply Leads.step (.cycle 0)
  intro index frame hstaged
  exact absurd hstaged (cycle_ne_staged 0 index frame)

theorem Leads.store : Leads state state.store := by
  apply Leads.step .store
  intro index frame hstaged
  cases hstaged

/-- The rest of a store. -/
theorem AtElbow.finish {value : Fin DeviceFrame.objectSize → Byte}
    {index remaining : ℕ} (h : AtElbow state lock (some (0, 2)))
    (hstore : lock.store = some (value, index))
    (hindex : index + remaining = DeviceFrame.objectSize)
    (hcells : ∀ i, i.val < index → lock.cells i = value i) :
    ∃ after, Leads state after ∧ AtElbow after
      ⟨lock.version + 1, value, none, lock.load⟩ none := by
  induction remaining generalizing state lock index with
  | zero =>
      have hvalue : lock.cells = value := by
        funext i
        exact hcells i (by omega)
      have hadvance : lock.advanceStore =
          ⟨lock.version + 1, value, none, lock.load⟩ := by
        unfold SeqLock.advanceStore
        rw [hstore]
        simp only
        rw [dif_neg (by omega), hvalue]
      have hnext := h.store
      rw [hadvance] at hnext
      exact ⟨_, Leads.store, hnext⟩
  | succ remaining ih =>
      have hlt : index < DeviceFrame.objectSize := by omega
      have hadvance : lock.advanceStore =
          ⟨lock.version,
            Function.update lock.cells ⟨index, hlt⟩ (value ⟨index, hlt⟩),
            some (value, index + 1), lock.load⟩ := by
        unfold SeqLock.advanceStore
        rw [hstore]
        simp only
        rw [dif_pos hlt]
      have hnext := h.store
      rw [hadvance] at hnext
      obtain ⟨after, hleads, hafter⟩ := ih hnext rfl (by omega) (by
        intro i hi
        by_cases hi' : i = ⟨index, hlt⟩
        · subst hi'
          exact Function.update_self ..
        · have hne : i.val ≠ index := fun heq => hi' (Fin.ext heq)
          exact (Function.update_of_ne hi' _ _).trans
            (hcells i (by omega)))
      exact ⟨after, Leads.store.trans hleads, hafter⟩

theorem AtElbow.publish (h : AtElbow state lock none) (faultReset : Bool)
    {sequence : BitVec 64} {frame : DeviceFrame}
    (hframe : frame = elbowFrame
      (if faultReset then .zeroPosition else .disable) sequence)
    (hlisted : frame = zeroFrame ∨ frame = disableFrame) :
    ∃ after, Leads state after ∧ AtElbow after
      ⟨lock.version + 2, frame.object, none, lock.load⟩ none := by
  obtain ⟨hnext, houtput⟩ := h.stage faultReset sequence
  rw [← hframe] at hnext houtput
  obtain ⟨after, hleads, hafter⟩ := hnext.finish rfl (Nat.zero_add _)
    (fun i hi => absurd hi (Nat.not_lt_zero _))
  refine ⟨after, ?_, hafter⟩
  refine (Leads.step (.stage 1 (stopSample faultReset sequence)) ?_).trans
    hleads
  intro index other hstaged
  change (state.stage _ _ _).2 = _ at hstaged
  rw [houtput] at hstaged
  cases hstaged
  exact hlisted

/-- Any number of stores behind each other. -/
theorem AtElbow.publishMany (count : ℕ) (h : AtElbow state lock none) :
    ∃ after, Leads state after ∧ AtElbow after
      ⟨lock.version + 2 * (count + 1), disableFrame.object, none, lock.load⟩
      none := by
  induction count generalizing state lock with
  | zero => exact h.publish false rfl (Or.inr rfl)
  | succ count ih =>
      obtain ⟨middle, hleads, hmiddle⟩ := h.publish false
        (rfl : disableFrame = _) (Or.inr rfl)
      obtain ⟨after, hleads', hafter⟩ := ih hmiddle
      refine ⟨after, hleads.trans hleads', ?_⟩
      have hversion : lock.version + 2 + 2 * (count + 1) =
          lock.version + 2 * (count + 1 + 1) := by
        omega
      rw [← hversion]
      exact hafter

/-- The rest of a load. -/
theorem AtElbow.copy {number before index remaining : ℕ}
    {copy : Fin DeviceFrame.objectSize → Byte}
    (h : AtElbow state lock none)
    (hload : lock.load = .reading number before index copy)
    (hindex : index + remaining = DeviceFrame.objectSize) :
    ∃ after, Leads state after ∧ AtElbow after
      ⟨lock.version, lock.cells, lock.store,
        .reading number before DeviceFrame.objectSize
          fun i => if i.val < index then copy i else lock.cells i⟩ none := by
  induction remaining generalizing state lock index copy with
  | zero =>
      refine ⟨state, ⟨[], rfl, by simp⟩, ?_⟩
      have hcopy : (fun i : Fin DeviceFrame.objectSize =>
          if i.val < index then copy i else lock.cells i) = copy := by
        funext i
        rw [if_pos (by omega)]
      obtain rfl : index = DeviceFrame.objectSize := hindex
      rw [hcopy, ← hload]
      exact h
  | succ remaining ih =>
      have hlt : index < DeviceFrame.objectSize := by omega
      have hadvance : lock.advanceLoad 64 16 =
          (⟨lock.version, lock.cells, lock.store,
            .reading number before (index + 1)
              (Function.update copy ⟨index, hlt⟩ (lock.cells ⟨index, hlt⟩))⟩,
            .running) := by
        unfold SeqLock.advanceLoad
        rw [hload]
        simp only
        rw [dif_pos hlt]
      have hnext := h.cycle (by rw [hadvance])
      rw [hadvance] at hnext
      obtain ⟨after, hleads, hafter⟩ := ih hnext rfl (by omega)
      refine ⟨after, Leads.cycle.trans hleads, ?_⟩
      have hcopy : (fun i : Fin DeviceFrame.objectSize =>
          if i.val < index + 1 then
            Function.update copy ⟨index, hlt⟩ (lock.cells ⟨index, hlt⟩) i
          else lock.cells i) =
          fun i => if i.val < index then copy i else lock.cells i := by
        funext i
        by_cases hi : i = ⟨index, hlt⟩
        · subst hi
          simp
        · have hne : i.val ≠ index := fun heq => hi (Fin.ext heq)
          rw [Function.update_of_ne hi]
          by_cases hbelow : i.val < index
          · rw [if_pos hbelow, if_pos (by omega)]
          · rw [if_neg hbelow, if_neg (by omega)]
      rw [← hcopy]
      exact hafter

/-- A frame with the number of one staged frame and the payload of the
other. -/
def tornFrame : DeviceFrame := elbowFrame .disable 1

theorem tornFrame_object (i : Fin DeviceFrame.objectSize) :
    tornFrame.object i =
      if i.val < 1 then zeroFrame.object i else disableFrame.object i := by
  revert i
  decide +kernel

theorem tornFrame_ne : tornFrame ≠ zeroFrame ∧ tornFrame ≠ disableFrame := by
  constructor
  · intro heq
    have hbyte := congrFun (congrArg DeviceFrame.bytes heq) 7
    exact absurd hbyte (by decide)
  · intro heq
    have hsequence := congrArg DeviceFrame.sequence heq
    exact absurd hsequence (by decide)

/-- When 2 ^ 63 stores fall into one load, the version word comes around. -/
theorem torn_frame_sent :
    configureDamiao (fun _ => .ok ()) id twoMotorProfile = .ok twoMotorBuses ∧
    ∃ (inputs : List (CanInput ℚ))
      (earlier : List (Transition (CanState ℚ) (CanInput ℚ) CanEvent))
      (t : Transition (CanState ℚ) (CanInput ℚ) CanEvent)
      (runtime : ℕ) (slot : Fin kActuatorSlots) (frame : DeviceFrame)
      (can : CanFrame),
      (canMachine twoMotorBuses).trace (.configured twoMotorProfile.motors)
        inputs = earlier ++ [t] ∧
      t.output = .sent runtime slot frame can ∧
      ∀ u ∈ earlier, ∀ index, u.output ≠ .staged index frame := by
  refine ⟨twoMotor_configured, ?_⟩
  have hstart : Leads (.configured twoMotorProfile.motors)
      ((canMachine twoMotorBuses).final (.configured twoMotorProfile.motors)
        (List.replicate 32 (.cycle 0))) := by
    refine ⟨List.replicate 32 (.cycle 0), rfl, ?_⟩
    intro t ht index frame hstaged
    have hinput := List.eq_of_mem_replicate
      (Machine.input_mem_of_mem_trace ht)
    obtain ⟨before, input, _, rfl⟩ := Machine.exists_fire_of_mem_trace ht
    obtain rfl : input = .cycle 0 := hinput
    exact absurd hstaged (cycle_ne_staged 0 index frame)
  obtain ⟨first, hfirst, hzero⟩ := configured_atElbow.publish true
    (rfl : zeroFrame = _) (Or.inl rfl)
  have hbefore := hzero.cycle rfl
  have hbyte := hbefore.cycle rfl
  obtain ⟨wrapped, hwrapped, hdisable⟩ := hbyte.publishMany (2 ^ 63 - 1)
  obtain ⟨last, hlast, hcopied⟩ := hdisable.copy rfl
    (rfl : 1 + 271 = DeviceFrame.objectSize)
  obtain ⟨inputs, hfinal, hstaged⟩ := ((((hstart.trans hfirst).trans
    Leads.cycle).trans Leads.cycle).trans hwrapped).trans hlast
  have hslot := hcopied.slot
  have hcopy : (fun i : Fin DeviceFrame.objectSize => if i.val < 1 then
      Function.update (fun _ => default : Fin DeviceFrame.objectSize → Byte) 0
        (zeroFrame.object 0) i else disableFrame.object i) =
      tornFrame.object := by
    funext i
    rw [tornFrame_object]
    by_cases hi : i.val < 1
    · obtain rfl : i = 0 := Fin.ext (by simpa using hi)
      simp
    · rw [if_neg hi, if_neg hi]
  have hsent : (last.cycle 0).2 =
      .sent 0 2 tornFrame tornFrame.toCan := by
    have hloaded : (last.slot 0 2).mailbox.advanceLoad 64 16 =
        (⟨(last.slot 0 2).mailbox.version, disableFrame.object, none,
          .attempt 0⟩, .loaded tornFrame.object) := by
      rw [← hcopy, hslot]
      rfl
    have hconsumed : (last.slot 0 2).consumedSequence = 0 := by rw [hslot]
    unfold CanState.cycle
    simp only [hcopied.position, hloaded, DeviceFrame.ofObject_object,
      hconsumed]
    rw [if_neg (by decide)]
  refine ⟨inputs ++ [.cycle 0], _, _, 0, 2, tornFrame, tornFrame.toCan,
    Machine.trace_append .., ?_, ?_⟩
  · rw [hfinal]
    exact hsent
  · intro u hu index houtput
    obtain hzero | hdisable := hstaged u hu index tornFrame houtput
    · exact tornFrame_ne.1 hzero
    · exact tornFrame_ne.2 hdisable

end PolicyRuntime
