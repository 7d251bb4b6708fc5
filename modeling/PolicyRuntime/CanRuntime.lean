import PolicyRuntime.CanRouting
import PolicyRuntime.DamiaoActuator
import PolicyRuntime.Machine
import PolicyRuntime.SeqLock

/-!
# The CAN runtimes

One thread runs the staging callback and stores its frame byte by byte into the
slot of the motor.  Every runtime has a cycle loop which loads its slots byte by
byte, one after the other, and sends what is newer than the last frame it sent
for the slot.  A step of the machine is one access to shared memory by one of
these threads.
-/

namespace PolicyRuntime

/-! ## Frames as bytes -/

namespace DeviceFrame

/-- Byte `i` of a word in memory. -/
def wordByte {w : ℕ} (word : BitVec w) (i : ℕ) : Byte :=
  (word >>> (8 * i)).setWidth 8

/-- `sizeof(DeviceFrame)` with the padding behind the payload. -/
abbrev objectSize : ℕ := 272

/-- The object representation that `std::memcpy` copies. -/
def object (frame : DeviceFrame) : Fin objectSize → Byte := fun i =>
  if i.val < 8 then wordByte frame.sequence i.val
  else if i.val < 12 then wordByte frame.address (i.val - 8)
  else if i.val < 14 then wordByte frame.size (i.val - 12)
  else if h : i.val - 14 < 256 then frame.bytes ⟨i.val - 14, h⟩
  else 0

def ofObject (object : Fin objectSize → Byte) : DeviceFrame where
  sequence := object 7 ++ object 6 ++ object 5 ++ object 4 ++ object 3 ++
    object 2 ++ object 1 ++ object 0
  address := object 11 ++ object 10 ++ object 9 ++ object 8
  size := object 13 ++ object 12
  bytes := fun i => object ⟨i.val + 14, by
    have hi := i.isLt
    change i.val + 14 < 272
    omega⟩

theorem wordByte_append_64 (word : BitVec 64) :
    (wordByte word 7 ++ wordByte word 6 ++ wordByte word 5 ++
      wordByte word 4 ++ wordByte word 3 ++ wordByte word 2 ++
      wordByte word 1 ++ wordByte word 0 : BitVec 64) = word := by
  ext i hi
  simp only [wordByte, BitVec.getElem_append, BitVec.getElem_setWidth,
    BitVec.getLsbD_ushiftRight]
  rw [← BitVec.getLsbD_eq_getElem hi]
  repeat' split
  all_goals congr 1; omega

theorem wordByte_append_32 (word : BitVec 32) :
    (wordByte word 3 ++ wordByte word 2 ++ wordByte word 1 ++
      wordByte word 0 : BitVec 32) = word := by
  ext i hi
  simp only [wordByte, BitVec.getElem_append, BitVec.getElem_setWidth,
    BitVec.getLsbD_ushiftRight]
  rw [← BitVec.getLsbD_eq_getElem hi]
  repeat' split
  all_goals congr 1; omega

theorem wordByte_append_16 (word : BitVec 16) :
    (wordByte word 1 ++ wordByte word 0 : BitVec 16) = word := by
  ext i hi
  simp only [wordByte, BitVec.getElem_append, BitVec.getElem_setWidth,
    BitVec.getLsbD_ushiftRight]
  rw [← BitVec.getLsbD_eq_getElem hi]
  split
  all_goals congr 1; omega

theorem ofObject_object (frame : DeviceFrame) :
    ofObject frame.object = frame := by
  cases frame with
  | mk sequence address size bytes =>
      unfold ofObject
      congr 1
      · exact wordByte_append_64 sequence
      · exact wordByte_append_32 address
      · exact wordByte_append_16 size
      · funext i
        have hsequence : ¬ i.val + 14 < 8 := by omega
        have haddress : ¬ i.val + 14 < 12 := by omega
        have hsize : ¬ i.val + 14 < 14 := by omega
        simp [object, hsequence, haddress, hsize, i.isLt]

end DeviceFrame

/-! ## The machine -/

structure CanSlot where
  mailbox : SeqLock DeviceFrame.objectSize Byte
  consumedSequence : BitVec 64

structure CanRuntime where
  slots : Fin kActuatorSlots → CanSlot
  /-- the slot of the cycle loop -/
  position : Fin kActuatorSlots

/-- `TransportRuntime::create` -/
def CanRuntime.created : CanRuntime where
  slots := fun _ => ⟨SeqLock.constructed, 0⟩
  position := 0

structure CanState (F : Type) where
  actuators : List (DamiaoActuator F)
  runtimes : ℕ → CanRuntime
  /-- the slot the staging thread stores into -/
  stager : Option (ℕ × Fin kActuatorSlots)

inductive CanInput (F : Type)
  | stage (index : ℕ) (value : DamiaoCommandValue F)
  | store
  | cycle (runtime : ℕ)

inductive CanEvent
  | quiet
  | staged (index : ℕ) (frame : DeviceFrame)
  | sent (runtime : ℕ) (slot : Fin kActuatorSlots) (frame : DeviceFrame)
      (can : CanFrame)

namespace CanState

variable {F : Type} (state : CanState F)

def slot (runtime : ℕ) (slot : Fin kActuatorSlots) : CanSlot :=
  (state.runtimes runtime).slots slot

def setSlot (runtime : ℕ) (slot : Fin kActuatorSlots) (value : CanSlot) :
    CanState F :=
  { state with
    runtimes := Function.update state.runtimes runtime
      { state.runtimes runtime with
        slots := Function.update (state.runtimes runtime).slots slot value } }

/-- The cycle loop turns to the next slot. -/
def nextSlot (runtime : ℕ) : CanState F :=
  { state with
    runtimes := Function.update state.runtimes runtime
      { state.runtimes runtime with
        position := (state.runtimes runtime).position + 1 } }

def setStager (stager : Option (ℕ × Fin kActuatorSlots)) : CanState F :=
  { state with stager := stager }

def setActuator (index : ℕ) (actuator : DamiaoActuator F) : CanState F :=
  { state with actuators := state.actuators.set index actuator }

@[simp] theorem slot_setSlot_self (runtime : ℕ)
    (target : Fin kActuatorSlots) (value : CanSlot) :
    (state.setSlot runtime target value).slot runtime target = value := by
  simp [slot, setSlot]

theorem slot_setSlot_of_ne {runtime runtime' : ℕ}
    {target target' : Fin kActuatorSlots} (value : CanSlot)
    (hne : (runtime', target') ≠ (runtime, target)) :
    (state.setSlot runtime target value).slot runtime' target' =
      state.slot runtime' target' := by
  unfold slot setSlot
  by_cases hruntime : runtime' = runtime
  · subst hruntime
    have htarget : target' ≠ target := fun heq => hne (by rw [heq])
    simp [Function.update_of_ne htarget]
  · simp [Function.update_of_ne hruntime]

@[simp] theorem slot_nextSlot (runtime runtime' : ℕ)
    (target : Fin kActuatorSlots) :
    (state.nextSlot runtime).slot runtime' target =
      state.slot runtime' target := by
  unfold slot nextSlot
  by_cases hruntime : runtime' = runtime
  · subst hruntime
    simp
  · simp [Function.update_of_ne hruntime]

@[simp] theorem slot_setStager (stager : Option (ℕ × Fin kActuatorSlots))
    (runtime : ℕ) (target : Fin kActuatorSlots) :
    (state.setStager stager).slot runtime target =
      state.slot runtime target := rfl

@[simp] theorem slot_setActuator (index : ℕ) (actuator : DamiaoActuator F)
    (runtime : ℕ) (target : Fin kActuatorSlots) :
    (state.setActuator index actuator).slot runtime target =
      state.slot runtime target := rfl

variable [SinglePrecision F]

def configured (motors : List (MotorProfile F)) : CanState F where
  actuators := motors.map DamiaoActuator.configured
  runtimes := fun _ => CanRuntime.created
  stager := none

/-- The callback up to the first access to the slot, on a thread which stages
one frame at a time. -/
def stage (buses : DamiaoBuses) (index : ℕ) (value : DamiaoCommandValue F) :
    CanState F × CanEvent :=
  match state.stager, buses.route index, state.actuators[index]? with
  | none, some route, some actuator =>
      let encoded := value.encode actuator
      let staged := state.setActuator index encoded.1
      match encoded.2 with
      | none => (staged, .quiet)
      | some frame =>
          if h : route.transportIndex < buses.paths.length ∧
              route.transmitSlot < kActuatorSlots ∧
              frame.size.toNat ≤ 256 then
            let target : Fin kActuatorSlots := ⟨route.transmitSlot, h.2.1⟩
            let before := staged.slot route.transportIndex target
            ((staged.setSlot route.transportIndex target
                { before with
                  mailbox := before.mailbox.beginStore frame.object }).setStager
              (some (route.transportIndex, target)), .staged index frame)
          else (staged, .quiet)
  | _, _, _ => (state, .quiet)

/-- The next access of the store that is under way. -/
def store : CanState F :=
  match state.stager with
  | none => state
  | some (runtime, target) =>
      let before := state.slot runtime target
      let mailbox := before.mailbox.advanceStore
      (state.setSlot runtime target { before with mailbox := mailbox }).setStager
        (if mailbox.store.isSome then some (runtime, target) else none)

/-- The next access of a cycle loop. -/
def cycle (runtime : ℕ) : CanState F × CanEvent :=
  let position := (state.runtimes runtime).position
  let before := state.slot runtime position
  let loaded := before.mailbox.advanceLoad 64 16
  let next := state.setSlot runtime position { before with mailbox := loaded.1 }
  match loaded.2 with
  | .running => (next, .quiet)
  | .empty => (next.nextSlot runtime, .quiet)
  | .loaded value =>
      let frame := DeviceFrame.ofObject value
      if frame.sequence ≤ before.consumedSequence then
        (next.nextSlot runtime, .quiet)
      else
        ((state.setSlot runtime position
            ⟨loaded.1, frame.sequence⟩).nextSlot runtime,
          .sent runtime position frame frame.toCan)

def step (buses : DamiaoBuses) :
    CanState F → CanInput F → CanState F × CanEvent
  | state, .stage index value => state.stage buses index value
  | state, .store => (state.store, .quiet)
  | state, .cycle runtime => state.cycle runtime

/-! ## What a step can do -/

/-- Only one slot may differ between two states. -/
structure SlotChanged (before after : CanState F) (runtime : ℕ)
    (target : Fin kActuatorSlots) (value : CanSlot) : Prop where
  changed : after.slot runtime target = value
  unchanged : ∀ {runtime' target'}, (runtime', target') ≠ (runtime, target) →
    after.slot runtime' target' = before.slot runtime' target'

theorem stage_cases (buses : DamiaoBuses) (index : ℕ)
    (value : DamiaoCommandValue F) :
    ((state.stage buses index value).1.slot = state.slot ∧
      (state.stage buses index value).1.stager = state.stager ∧
      (state.stage buses index value).2 = .quiet) ∨
    ∃ route frame target, buses.route index = some route ∧
      state.stager = none ∧ target.val = route.transmitSlot ∧
      SlotChanged state (state.stage buses index value).1
        route.transportIndex target
        ⟨(state.slot route.transportIndex target).mailbox.beginStore
            frame.object,
          (state.slot route.transportIndex target).consumedSequence⟩ ∧
      (state.stage buses index value).1.stager =
        some (route.transportIndex, target) ∧
      (state.stage buses index value).2 = .staged index frame := by
  unfold stage
  split
  · next route actuator hstager hroute hactuator =>
      simp only
      split
      · exact Or.inl ⟨rfl, rfl, rfl⟩
      · next frame hframe =>
          split
          · next hvalid =>
              refine Or.inr ⟨route, frame, ⟨route.transmitSlot, hvalid.2.1⟩,
                hroute, hstager, rfl, ⟨?_, ?_⟩, rfl, rfl⟩
              · simp
              · intro runtime' target' hne
                simp [slot_setSlot_of_ne _ _ hne]
          · exact Or.inl ⟨rfl, rfl, rfl⟩
  · exact Or.inl ⟨rfl, rfl, rfl⟩

omit [SinglePrecision F] in
theorem store_cases :
    state.store = state ∧ state.stager = none ∨
    ∃ runtime target, state.stager = some (runtime, target) ∧
      SlotChanged state state.store runtime target
        ⟨(state.slot runtime target).mailbox.advanceStore,
          (state.slot runtime target).consumedSequence⟩ ∧
      (state.store.stager = some (runtime, target) ∨
        (state.slot runtime target).mailbox.advanceStore.store = none) := by
  unfold store
  split
  · next hstager => exact Or.inl ⟨rfl, hstager⟩
  · next runtime target hstager =>
      refine Or.inr ⟨runtime, target, hstager, ⟨?_, ?_⟩, ?_⟩
      · simp
      · intro runtime' target' hne
        simp [slot_setSlot_of_ne _ _ hne]
      · simp only [setStager]
        split
        · exact Or.inl rfl
        · next hnone => exact Or.inr (by simpa using hnone)

omit [SinglePrecision F] in
/-- The slot of the cycle loop and the state of its load. -/
theorem cycle_cases (runtime : ℕ) :
    ∃ target consumed, target = (state.runtimes runtime).position ∧
      SlotChanged state (state.cycle runtime).1 runtime target
        ⟨((state.slot runtime target).mailbox.advanceLoad 64 16).1,
          consumed⟩ ∧
      (state.cycle runtime).1.stager = state.stager ∧
      ((consumed = (state.slot runtime target).consumedSequence ∧
        (state.cycle runtime).2 = .quiet) ∨
      ∃ value, ((state.slot runtime target).mailbox.advanceLoad 64 16).2 =
          .loaded value ∧
        consumed = (DeviceFrame.ofObject value).sequence ∧
        (state.slot runtime target).consumedSequence < consumed ∧
        (state.cycle runtime).2 = .sent runtime target
          (DeviceFrame.ofObject value) (DeviceFrame.ofObject value).toCan) := by
  unfold cycle
  simp only
  split
  · refine ⟨_, _, rfl, ⟨slot_setSlot_self .., ?_⟩, rfl, Or.inl ⟨rfl, rfl⟩⟩
    intro runtime' target' hne
    exact slot_setSlot_of_ne _ _ hne
  · refine ⟨_, _, rfl, ⟨(slot_nextSlot ..).trans (slot_setSlot_self ..), ?_⟩,
      rfl, Or.inl ⟨rfl, rfl⟩⟩
    intro runtime' target' hne
    exact (slot_nextSlot ..).trans (slot_setSlot_of_ne _ _ hne)
  · next value hvalue =>
      split
      · refine ⟨_, _, rfl,
          ⟨(slot_nextSlot ..).trans (slot_setSlot_self ..), ?_⟩, rfl,
          Or.inl ⟨rfl, rfl⟩⟩
        intro runtime' target' hne
        exact (slot_nextSlot ..).trans (slot_setSlot_of_ne _ _ hne)
      · next hnewer =>
          refine ⟨_, _, rfl,
            ⟨(slot_nextSlot ..).trans (slot_setSlot_self ..), ?_⟩, rfl,
            Or.inr ⟨value, hvalue, rfl, BitVec.not_le.mp hnewer, rfl⟩⟩
          intro runtime' target' hne
          exact (slot_nextSlot ..).trans (slot_setSlot_of_ne _ _ hne)

end CanState

def canMachine {F : Type} [SinglePrecision F] (buses : DamiaoBuses) :
    Machine (CanState F) (CanInput F) CanEvent where
  step := CanState.step buses

end PolicyRuntime
