import PolicyRuntime.CanDelivery

/-!
# Enabling a Damiao motor

A motor accepts MIT frames between an enable control frame and the next disable
control frame.  The callback stages one frame for every sample and never the
enable frame, and the cycle loop sends the frame staged last.
-/

namespace PolicyRuntime

/-! ## One motor -/

/-- The callback's actuator and the transmit slot of a motor. -/
structure MotorSlot (F : Type) where
  actuator : DamiaoActuator F
  mailbox : Option DeviceFrame
  consumedSequence : BitVec 64

inductive SlotInput (F : Type)
  | command (value : DamiaoCommandValue F)
  /-- a pass of the cycle loop, whose load may give up -/
  | drain (loaded : Bool)

inductive SlotEvent
  | quiet
  | staged (frame : DeviceFrame)
  | sent (can : CanFrame)

section Slot

variable {F : Type} [SinglePrecision F]

namespace MotorSlot

def configured (motor : MotorProfile F) : MotorSlot F where
  actuator := .configured motor
  mailbox := none
  consumedSequence := 0

def command (slot : MotorSlot F) (value : DamiaoCommandValue F) :
    MotorSlot F × SlotEvent :=
  let encoded := value.encode slot.actuator
  match encoded.2 with
  | none => ({ slot with actuator := encoded.1 }, .quiet)
  | some frame =>
      ({ slot with actuator := encoded.1, mailbox := some frame },
        .staged frame)

def drain (slot : MotorSlot F) : MotorSlot F × SlotEvent :=
  match slot.mailbox with
  | none => (slot, .quiet)
  | some frame =>
      if frame.sequence ≤ slot.consumedSequence then
        (slot, .quiet)
      else
        ({ slot with consumedSequence := frame.sequence }, .sent frame.toCan)

def step : MotorSlot F → SlotInput F → MotorSlot F × SlotEvent
  | slot, .command value => slot.command value
  | slot, .drain true => slot.drain
  | slot, .drain false => (slot, .quiet)

end MotorSlot

def slotMachine (F : Type) [SinglePrecision F] :
    Machine (MotorSlot F) (SlotInput F) SlotEvent where
  step := MotorSlot.step

end Slot

abbrev SlotTransition (F : Type) :=
  Transition (MotorSlot F) (SlotInput F) SlotEvent

def SlotEvent.sentCan : SlotEvent → Option CanFrame
  | .sent can => some can
  | _ => none

/-- The payloads a history puts on the bus. -/
def sentPayloads {F : Type} (history : List (SlotTransition F)) :
    List DamiaoPayload :=
  history.filterMap fun t => t.output.sentCan.map CanFrame.data

/-! ## The handshake -/

def IsControl (payload : DamiaoPayload) : Prop :=
  ∃ control, payload = encodeControl control

/-- An enable control frame came last among the enable and disable ones. -/
def Enabled (payloads : List DamiaoPayload) : Prop :=
  ∃ before after, payloads = before ++ encodeControl .enable :: after ∧
    encodeControl .disable ∉ after

/-- MIT frames come to an enabled motor only. -/
def Handshake (payloads : List DamiaoPayload) : Prop :=
  ∀ earlier payload later, payloads = earlier ++ payload :: later →
    ¬ IsControl payload → Enabled earlier

/-- A frame newer than the last one sent waits in the slot only when it is a
control frame. -/
def MotorSlot.ControlWaits {F : Type} (slot : MotorSlot F) : Prop :=
  ∀ frame, slot.mailbox = some frame →
    slot.consumedSequence < frame.sequence → IsControl frame.toCan.data

section Runs

variable {F : Type} [SinglePrecision F]

theorem MotorSlot.sent_iff {slot : MotorSlot F} {input : SlotInput F}
    {can : CanFrame} :
    ((slotMachine F).step slot input).2 = .sent can ↔
      input = .drain true ∧ ∃ frame, slot.mailbox = some frame ∧
        slot.consumedSequence < frame.sequence ∧ can = frame.toCan := by
  cases input with
  | command value =>
      change (slot.command value).2 = _ ↔ _
      unfold MotorSlot.command
      simp only
      split <;> simp
  | drain loaded =>
      cases loaded with
      | false => simp [slotMachine, MotorSlot.step]
      | true =>
          change slot.drain.2 = _ ↔ _
          unfold MotorSlot.drain
          cases hmailbox : slot.mailbox with
          | none => simp
          | some frame =>
              simp only [true_and, Option.some.injEq, exists_eq_left']
              split
              · next hold => simp [BitVec.not_lt.mpr hold]
              · next hnewer =>
                  simp [BitVec.not_le.mp hnewer, eq_comm]

theorem SlotEvent.sentCan_eq_some {event : SlotEvent} {can : CanFrame} :
    event.sentCan = some can ↔ event = .sent can := by
  cases event <;> simp [sentCan]

/-- What is sent waited in the slot. -/
theorem mem_sentPayloads_iff {state : MotorSlot F}
    {inputs : List (SlotInput F)} {payload : DamiaoPayload} :
    payload ∈ sentPayloads ((slotMachine F).trace state inputs) ↔
      ∃ t ∈ (slotMachine F).trace state inputs, t.input = .drain true ∧
        ∃ frame, t.before.mailbox = some frame ∧
          t.before.consumedSequence < frame.sequence ∧
          payload = frame.toCan.data := by
  unfold sentPayloads
  simp only [List.mem_filterMap, Option.map_eq_some_iff,
    SlotEvent.sentCan_eq_some]
  constructor
  · rintro ⟨t, ht, can, hsent, rfl⟩
    refine ⟨t, ht, ?_⟩
    obtain ⟨before, input, _, rfl⟩ := Machine.exists_fire_of_mem_trace ht
    obtain ⟨hdrain, frame, hmailbox, hnewer, rfl⟩ :=
      MotorSlot.sent_iff.mp hsent
    exact ⟨hdrain, frame, hmailbox, hnewer, rfl⟩
  · rintro ⟨t, ht, hdrain, frame, hmailbox, hnewer, rfl⟩
    refine ⟨t, ht, frame.toCan, ?_, rfl⟩
    obtain ⟨before, input, _, rfl⟩ := Machine.exists_fire_of_mem_trace ht
    exact MotorSlot.sent_iff.mpr ⟨hdrain, frame, hmailbox, hnewer, rfl⟩

theorem enable_mem_of_enabled {payloads : List DamiaoPayload}
    (h : Enabled payloads) : encodeControl .enable ∈ payloads := by
  obtain ⟨before, after, rfl, _⟩ := h
  simp

/-- The handshake is kept when no MIT frame waits at a drain, and only then
unless the payload of an MIT frame happens to be the one that enables. -/
theorem mit_frames_enabled (motor : MotorProfile F)
    (inputs : List (SlotInput F)) :
    ((∀ t ∈ (slotMachine F).trace (.configured motor) inputs,
        t.input = .drain true → t.before.ControlWaits) →
      Handshake (sentPayloads
        ((slotMachine F).trace (.configured motor) inputs))) ∧
    (encodeControl .enable ∉ sentPayloads
        ((slotMachine F).trace (.configured motor) inputs) →
      Handshake (sentPayloads
        ((slotMachine F).trace (.configured motor) inputs)) →
      ∀ t ∈ (slotMachine F).trace (.configured motor) inputs,
        t.input = .drain true → t.before.ControlWaits) := by
  constructor
  · intro hwaits earlier payload later hsplit hmit
    have hsent : payload ∈ sentPayloads
        ((slotMachine F).trace (.configured motor) inputs) := by
      rw [hsplit]
      simp
    obtain ⟨t, ht, hdrain, frame, hmailbox, hnewer, rfl⟩ :=
      mem_sentPayloads_iff.mp hsent
    exact absurd (hwaits t ht hdrain frame hmailbox hnewer) hmit
  · intro hnone hhandshake t ht hdrain frame hmailbox hnewer
    by_contra hmit
    have hsent := mem_sentPayloads_iff.mpr
      ⟨t, ht, hdrain, frame, hmailbox, hnewer, rfl⟩
    obtain ⟨earlier, later, hsplit⟩ := List.mem_iff_append.mp hsent
    have henable := enable_mem_of_enabled
      (hhandshake earlier _ later hsplit hmit)
    apply hnone
    rw [hsplit]
    exact List.mem_append_left _ henable

end Runs

/-! ## The slot in the CAN machine -/

/-- The CAN frame an event sends for a slot. -/
def CanEvent.sentCan (runtime : ℕ) (slot : Fin kActuatorSlots) :
    CanEvent → Option CanFrame
  | .sent runtime' slot' _ can =>
      if runtime' = runtime ∧ slot' = slot then some can else none
  | _ => none

section View

variable {F : Type} [SinglePrecision F] {buses : DamiaoBuses} {index : ℕ}
  {route : DeviceBinding} {slot : Fin kActuatorSlots}

/-- The motor's part of a state of the CAN machine. -/
structure SlotView (buses : DamiaoBuses) (index runtime : ℕ)
    (slot : Fin kActuatorSlots) (history : List (CanTransition F))
    (state : CanState F) (view : MotorSlot F) : Prop where
  actuator : state.actuators[index]? = some view.actuator
  mailbox : view.mailbox =
    (lastStaged buses runtime slot history).map Prod.snd
  consumed : view.consumedSequence =
    (state.slot runtime slot).consumedSequence

theorem encode_size {value : DamiaoCommandValue F}
    {actuator : DamiaoActuator F} {frame : DeviceFrame}
    (hframe : (value.encode actuator).2 = some frame) : frame.size = 8 := by
  unfold DamiaoCommandValue.encode DamiaoActuator.encodeFrame at hframe
  simp only at hframe
  split at hframe
  · cases hframe
  · next encoded hencoded =>
      cases hframe
      change encoded.size = 8
      split at hencoded
      · cases hencoded
        rfl
      · split at hencoded
        · cases hencoded
          rfl
        · split at hencoded
          · cases hencoded
          · cases hencoded
            rfl

theorem stage_consumed (state : CanState F) (index : ℕ)
    (value : DamiaoCommandValue F) (runtime : ℕ) :
    ((state.stage buses index value).1.slot runtime slot).consumedSequence =
      (state.slot runtime slot).consumedSequence := by
  obtain ⟨hslots, _⟩ | ⟨route, frame, target, _, _, _, hchanged, _⟩ :=
    state.stage_cases buses index value
  · rw [hslots]
  · by_cases hsame : (runtime, slot) = (route.transportIndex, target)
    · cases hsame
      rw [hchanged.changed]
    · rw [hchanged.unchanged hsame]

theorem stage_actuators_of_ne (state : CanState F) {other : ℕ}
    (value : DamiaoCommandValue F) (hother : other ≠ index) :
    (state.stage buses other value).1.actuators[index]? =
      state.actuators[index]? := by
  have hset (actuator : DamiaoActuator F) :
      (state.actuators.set other actuator)[index]? =
        state.actuators[index]? :=
    List.getElem?_set_ne hother
  unfold CanState.stage
  split
  · simp only
    split
    · exact hset _
    · split
      · exact hset _
      · exact hset _
  · rfl

variable {history : List (CanTransition F)} {state : CanState F}
  {view : MotorSlot F} {t : CanTransition F}

/-- A callback for another motor does not touch the slot. -/
theorem SlotView.stage_other
    (h : SlotView buses index route.transportIndex slot history state view)
    {other : ℕ} (value : DamiaoCommandValue F) (hother : other ≠ index)
    (hnone : t.output.stagedFor buses route.transportIndex slot = none) :
    SlotView buses index route.transportIndex slot (history ++ [t])
      (state.stage buses other value).1 view where
  actuator := by
    rw [stage_actuators_of_ne state value hother]
    exact h.actuator
  mailbox := by
    rw [lastStaged_append_of_none hnone]
    exact h.mailbox
  consumed := by
    rw [stage_consumed]
    exact h.consumed

/-- The motor's own callback. -/
theorem SlotView.stage_own
    (h : SlotView buses index route.transportIndex slot history state view)
    (hroute : buses.route index = some route)
    (hslot : slot.val = route.transmitSlot)
    (hpath : route.transportIndex < buses.paths.length)
    (hfree : state.stager = none) {value : DamiaoCommandValue F}
    (ht : t.output = (state.stage buses index value).2) :
    SlotView buses index route.transportIndex slot (history ++ [t])
      (state.stage buses index value).1 (view.command value).1 := by
  have hlt := (List.getElem?_eq_some_iff.mp h.actuator).1
  have hconsumed : (view.command value).1.consumedSequence =
      ((state.stage buses index value).1.slot route.transportIndex
        slot).consumedSequence := by
    rw [stage_consumed, ← h.consumed]
    unfold MotorSlot.command
    simp only
    split <;> rfl
  unfold CanState.stage at ht hconsumed ⊢
  unfold MotorSlot.command at hconsumed ⊢
  simp only [hfree, hroute, h.actuator] at ht hconsumed ⊢
  cases hencoded : (value.encode view.actuator).2 with
  | none =>
      simp only [hencoded] at ht hconsumed ⊢
      refine ⟨List.getElem?_set_self hlt, ?_, hconsumed⟩
      rw [lastStaged_append_of_none (by rw [ht]; rfl)]
      exact h.mailbox
  | some frame =>
      have hvalid : route.transportIndex < buses.paths.length ∧
          route.transmitSlot < kActuatorSlots ∧ frame.size.toNat ≤ 256 := by
        refine ⟨hpath, hslot ▸ slot.isLt, ?_⟩
        rw [encode_size hencoded]
        decide
      simp only [hencoded, dif_pos hvalid] at ht hconsumed ⊢
      refine ⟨List.getElem?_set_self hlt, ?_, hconsumed⟩
      simp [lastStaged, ht, CanEvent.stagedFor, hroute, hslot]

omit [SinglePrecision F] in
/-- A step that stages nothing and sends nothing for the slot. -/
theorem SlotView.keep {after : CanState F}
    (h : SlotView buses index route.transportIndex slot history state view)
    (hactuators : after.actuators = state.actuators)
    (hconsumed : (after.slot route.transportIndex slot).consumedSequence =
      (state.slot route.transportIndex slot).consumedSequence)
    (hnone : t.output.stagedFor buses route.transportIndex slot = none) :
    SlotView buses index route.transportIndex slot (history ++ [t]) after
      view where
  actuator := by
    rw [hactuators]
    exact h.actuator
  mailbox := by
    rw [lastStaged_append_of_none hnone]
    exact h.mailbox
  consumed := by
    rw [hconsumed]
    exact h.consumed

/-- A history with a run of the slot that sends the same frames. -/
def SlotFollows (buses : DamiaoBuses) (index runtime : ℕ)
    (slot : Fin kActuatorSlots) (motor : MotorProfile F)
    (history : List (CanTransition F)) (state : CanState F) : Prop :=
  ∃ inputs, SlotView buses index runtime slot history state
      ((slotMachine F).final (.configured motor) inputs) ∧
    history.filterMap (·.output.sentCan runtime slot) =
      ((slotMachine F).trace (.configured motor) inputs).filterMap
        (·.output.sentCan)

variable {motor : MotorProfile F}

/-- A step the motor's run does not see. -/
theorem SlotFollows.keep {after : CanState F} {runtime : ℕ}
    (h : SlotFollows buses index runtime slot motor history state)
    (hview : ∀ view, SlotView buses index runtime slot history state view →
      SlotView buses index runtime slot (history ++ [t]) after view)
    (hquiet : t.output.sentCan runtime slot = none) :
    SlotFollows buses index runtime slot motor (history ++ [t]) after := by
  obtain ⟨inputs, hbefore, hsent⟩ := h
  refine ⟨inputs, hview _ hbefore, ?_⟩
  rw [List.filterMap_append, hsent]
  simp [hquiet]

/-- A step the motor takes too. -/
theorem SlotFollows.extend {after : CanState F} {runtime : ℕ}
    (h : SlotFollows buses index runtime slot motor history state)
    (input : SlotInput F)
    (hview : ∀ view, SlotView buses index runtime slot history state view →
      SlotView buses index runtime slot (history ++ [t]) after
        ((slotMachine F).step view input).1 ∧
      t.output.sentCan runtime slot =
        ((slotMachine F).step view input).2.sentCan) :
    SlotFollows buses index runtime slot motor (history ++ [t]) after := by
  obtain ⟨inputs, hbefore, hsent⟩ := h
  obtain ⟨hafter, hevent⟩ := hview _ hbefore
  refine ⟨inputs ++ [input], ?_, ?_⟩
  · rw [Machine.final_append]
    exact hafter
  · rw [List.filterMap_append, Machine.trace_append, List.filterMap_append,
      hsent]
    congr 1
    simp only [Machine.trace_cons, Machine.trace_nil, List.filterMap_cons,
      Machine.fire_output, hevent, List.filterMap_nil]

theorem stage_sentCan (state : CanState F) (other : ℕ)
    (value : DamiaoCommandValue F) (runtime : ℕ) :
    (state.stage buses other value).2.sentCan runtime slot = none := by
  obtain ⟨_, _, hquiet⟩ | ⟨_, _, _, _, _, _, _, _, hstaged⟩ :=
    state.stage_cases buses other value
  · rw [hquiet]
    rfl
  · rw [hstaged]
    rfl

theorem SlotFollows.stage
    (h : SlotFollows buses index route.transportIndex slot motor history state)
    (hroute : buses.route index = some route)
    (hslot : slot.val = route.transmitSlot)
    (hpath : route.transportIndex < buses.paths.length)
    (hunique : ∀ other route', buses.route other = some route' →
      route'.transportIndex = route.transportIndex →
      route'.transmitSlot = route.transmitSlot → other = index)
    {other : ℕ} {value : DamiaoCommandValue F}
    (ht : t.output = (state.stage buses other value).2) :
    SlotFollows buses index route.transportIndex slot motor (history ++ [t])
      (state.stage buses other value).1 := by
  have hquiet : t.output.sentCan route.transportIndex slot = none := by
    rw [ht]
    exact stage_sentCan state other value route.transportIndex
  by_cases hother : other = index
  · subst hother
    cases hstager : state.stager with
    | none =>
        refine h.extend (.command value) ?_
        intro view hview
        refine ⟨hview.stage_own hroute hslot hpath hstager ht, ?_⟩
        rw [hquiet]
        change none = (view.command value).2.sentCan
        unfold MotorSlot.command
        simp only
        split <;> rfl
    | some busy =>
        have hsame : state.stage buses other value = (state, .quiet) := by
          unfold CanState.stage
          rw [hstager]
        rw [hsame] at ht ⊢
        refine h.keep ?_ hquiet
        intro view hview
        exact hview.keep rfl rfl (by rw [ht]; rfl)
  · refine h.keep ?_ hquiet
    intro view hview
    refine hview.stage_other value hother ?_
    obtain ⟨_, _, hevent⟩ | ⟨route', frame, target, hroute', _, _, _, _,
      hevent⟩ := state.stage_cases buses other value
    · rw [ht, hevent]
      rfl
    · simp only [ht, hevent, CanEvent.stagedFor, hroute', Option.any_some,
        Bool.and_eq_true, decide_eq_true_eq, ite_eq_right_iff]
      rintro ⟨htransport, hsame⟩
      exact absurd (hunique other route' hroute' htransport
        (hsame.trans hslot)) hother

omit [SinglePrecision F] in
theorem cycle_actuators (state : CanState F) (runtime : ℕ) :
    (state.cycle runtime).1.actuators = state.actuators := by
  unfold CanState.cycle
  simp only
  split
  · rfl
  · rfl
  · split <;> rfl

omit [SinglePrecision F] in
theorem store_actuators (state : CanState F) :
    state.store.actuators = state.actuators := by
  unfold CanState.store
  split <;> rfl

omit [SinglePrecision F] in
theorem store_consumed (state : CanState F) (runtime : ℕ) :
    (state.store.slot runtime slot).consumedSequence =
      (state.slot runtime slot).consumedSequence := by
  obtain ⟨hsame, _⟩ | ⟨runtime', target, _, hchanged, _⟩ := state.store_cases
  · rw [hsame]
  · by_cases hsame : (runtime, slot) = (runtime', target)
    · cases hsame
      rw [hchanged.changed]
    · rw [hchanged.unchanged hsame]

theorem SlotFollows.cycle
    (h : SlotFollows buses index route.transportIndex slot motor history state)
    (hsound : CanSound buses history state) {runtime : ℕ}
    (hfresh : ∀ frame can, (state.cycle runtime).2 =
        .sent route.transportIndex slot frame can →
      (state.slot route.transportIndex slot).mailbox.Fresh 64)
    (ht : t.output = (state.cycle runtime).2) :
    SlotFollows buses index route.transportIndex slot motor (history ++ [t])
      (state.cycle runtime).1 := by
  have hactuators := cycle_actuators state runtime
  obtain ⟨target, consumed, _, hchanged, _, hcase⟩ :=
    state.cycle_cases runtime
  have hnone : t.output.stagedFor buses route.transportIndex slot = none := by
    obtain ⟨_, hquiet⟩ | ⟨_, _, _, _, hsent⟩ := hcase
    · rw [ht, hquiet]
      rfl
    · rw [ht, hsent]
      rfl
  by_cases hsame : (route.transportIndex, slot) = (runtime, target)
  · cases hsame
    obtain ⟨rfl, hquiet⟩ | ⟨value, hloaded, hvalue, hnewer, hsent⟩ := hcase
    · refine h.keep ?_ (by rw [ht, hquiet]; rfl)
      intro view hview
      exact hview.keep hactuators (by rw [hchanged.changed]) hnone
    · have hmachine : ((canMachine buses).step state
          (.cycle route.transportIndex)).2 = _ := hsent
      obtain ⟨_, motorIndex, hlast⟩ :=
        hsound.sent hmachine (hfresh _ _ hsent)
      refine h.extend (.drain true) ?_
      intro view hview
      have hmailbox := hview.mailbox
      rw [hlast, Option.map_some] at hmailbox
      have hold : ¬ (DeviceFrame.ofObject value).sequence ≤
          view.consumedSequence := by
        rw [hview.consumed, ← hvalue]
        exact BitVec.not_le.mpr hnewer
      have hdrain : (slotMachine F).step view (.drain true) =
          ({ view with consumedSequence :=
              (DeviceFrame.ofObject value).sequence },
            .sent (DeviceFrame.ofObject value).toCan) := by
        change view.drain = _
        unfold MotorSlot.drain
        rw [hmailbox]
        exact if_neg hold
      rw [hdrain]
      refine ⟨⟨?_, ?_, ?_⟩, ?_⟩
      · rw [hactuators]
        exact hview.actuator
      · rw [lastStaged_append_of_none hnone]
        exact hview.mailbox
      · rw [hchanged.changed]
        exact hvalue.symm
      · rw [ht, hsent]
        simp [CanEvent.sentCan, SlotEvent.sentCan]
  · have hquiet : t.output.sentCan route.transportIndex slot = none := by
      obtain ⟨_, hquiet⟩ | ⟨_, _, _, _, hsent⟩ := hcase
      · rw [ht, hquiet]
        rfl
      · rw [ht, hsent]
        refine if_neg ?_
        rintro ⟨rfl, rfl⟩
        exact hsame rfl
    refine h.keep ?_ hquiet
    intro view hview
    exact hview.keep hactuators (by rw [hchanged.unchanged hsame]) hnone

end View

section Refinement

variable {D F : Type} [DoubleArithmetic D] [SinglePrecision F]
  {profile : RobotProfile D F} {buses : DamiaoBuses} {index : ℕ}
  {motor : MotorProfile F} {route : DeviceBinding}
  {slot : Fin kActuatorSlots}

/-- Between its callback and its slot, a motor of the CAN machine behaves like
the motor on its own. -/
theorem slotFollows_final (hrouted : Routed profile buses)
    (hmotor : profile.motors[index]? = some motor)
    (hroute : buses.route index = some route)
    (hslot : slot.val = route.transmitSlot) {inputs : List (CanInput F)}
    (hfresh : ∀ t ∈ (canMachine buses).trace (.configured profile.motors)
      inputs, ∀ frame can,
      t.output = .sent route.transportIndex slot frame can →
      (t.before.slot route.transportIndex slot).mailbox.Fresh 64) :
    SlotFollows buses index route.transportIndex slot motor
      ((canMachine buses).trace (.configured profile.motors) inputs)
      ((canMachine buses).final (.configured profile.motors) inputs) := by
  induction inputs using List.reverseRecOn with
  | nil =>
      refine ⟨[], ⟨?_, rfl, rfl⟩, rfl⟩
      simp [CanState.configured, MotorSlot.configured, hmotor]
  | append_singleton inputs input ih =>
      rw [Machine.trace_append, Machine.final_append]
      rw [Machine.trace_append] at hfresh
      have hsound := canSound_final buses profile.motors inputs
      have hfollows := ih fun t ht => hfresh t (List.mem_append_left _ ht)
      cases input with
      | stage other value =>
          obtain ⟨owner, _, hpath⟩ := hrouted.owner hroute
          have hlt := (List.getElem?_eq_some_iff.mp hpath).1
          refine hfollows.stage hroute hslot hlt ?_ rfl
          intro other route' hother htransport hsame
          exact hrouted.unique hother hroute htransport hsame
      | store =>
          refine hfollows.keep ?_ rfl
          intro view hview
          exact hview.keep (store_actuators _) (store_consumed _ _) rfl
      | cycle runtime =>
          refine hfollows.cycle hsound ?_ rfl
          intro frame can hsent
          exact hfresh _ (List.mem_append_right _ (List.mem_singleton_self _))
            frame can hsent

end Refinement

/-! ## The first enabled command -/

/-- An enabled command at rest. -/
def holdCommand : DamiaoCommandValue ℚ :=
  ⟨true, false, 0, 0, 0, 0, 0, 1⟩

def shoulderMotor : MotorProfile ℚ where
  sensorName := "shoulder_state"
  actuatorName := "shoulder_target"
  path := "can0"
  transport := .socketcan
  motorId := 1
  limits := ⟨12, 45, 18⟩
  feedbackTimeout := 100
  safetyGroup := ""

/-- A motor that is only disabled. -/
theorem mit_frames_enabled_disabled :
    Handshake (sentPayloads ((slotMachine ℚ).trace
      (.configured shoulderMotor)
      [.command (stopSample false 1), .drain true])) := by
  refine (mit_frames_enabled shoulderMotor _).1 ?_
  intro t ht hdrain frame hmailbox _
  simp only [Machine.trace_cons, Machine.trace_nil, List.mem_cons,
    List.not_mem_nil, or_false] at ht
  obtain rfl | rfl := ht
  · cases hdrain
  · refine ⟨.disable, ?_⟩
    cases hmailbox
    decide

/-- The first frame on the bus is an MIT frame. -/
theorem mit_frame_before_enable :
    ¬ Handshake (sentPayloads ((slotMachine ℚ).trace
      (.configured shoulderMotor) [.command holdCommand, .drain true])) := by
  intro hhandshake
  have hsent : sentPayloads ((slotMachine ℚ).trace
      (.configured shoulderMotor) [.command holdCommand, .drain true]) =
      [![0x80, 0, 0x80, 0, 0, 0, 0x08, 0]] := by
    decide +kernel
  obtain ⟨before, after, hnil, _⟩ :=
    hhandshake [] ![0x80, 0, 0x80, 0, 0, 0, 0x08, 0] [] hsent (by
      rintro ⟨control, hcontrol⟩
      exact absurd (congrFun hcontrol 0) (by cases control <;> decide))
  simp at hnil

end PolicyRuntime
