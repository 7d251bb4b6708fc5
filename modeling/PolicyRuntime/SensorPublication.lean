import PolicyRuntime.FaultMask

/-!
# Serial sensor samples

A daemon cycle drives every serial bus once and then offers the endpoint the
feedback of every servo which is valid and not stale.  The feedback is the one
published last, so a servo which was not answered in the cycle is offered its
old feedback again until it turns stale.
-/

namespace PolicyRuntime

open FloatingPoint

variable {D τ ε : Type} [DoubleArithmetic D]

/-- One sample for the endpoint. -/
structure St3215SensorEvent (D : Type) where
  sequence : ℕ
  timestampNs : ℤ
  busCycle : ℕ
  flags : BitVec 32
  positionRad : D
  rawPosition : ℕ
  statusError : ℕ

/-- The turn of a bus in a cycle, with the time that passes before it. -/
structure BusTurn (D ε : Type) where
  elapsed : ℕ
  pollReadable : Bool
  staged : List (StageInput D)
  dispatchReadable : Bool
  environment : ε

/-- Inputs of the serial part of a daemon.  A cycle names whether the registry
runs, the turns of the buses and the time until the feedback is read. -/
inductive SensorInput (D ε : Type)
  | tick (elapsed : ℕ)
  | stage (servo : ℕ) (command : St3215ServoCommand D)
  | start (bus : ℕ) (permitted : Bool)
  | stop (bus : ℕ)
  | cycle (sequence : ℕ) (running : Bool) (turns : ℕ → BusTurn D ε)
      (elapsed : ℕ)

/-- The events of a cycle, each with its servo and its sensor index. -/
structure SensorSample (D : Type) where
  servo : ℕ
  sensor : ℕ
  event : St3215SensorEvent D

/-- `serial_devices_.cycle` and the clock up to the reading of the feedback. -/
def turnInputs (busCount : ℕ) (running : Bool) (turns : ℕ → BusTurn D ε)
    (elapsed : ℕ) : List (RegistryInput D ε) :=
  (if running then
    (List.range busCount).flatMap fun bus =>
      [.tick (turns bus).elapsed,
        .cycle bus (turns bus).pollReadable (turns bus).staged
          (turns bus).dispatchReadable (turns bus).environment]
  else []) ++ [.tick elapsed]

def St3215ServoFeedback.offered (feedback : St3215ServoFeedback D) : Bool :=
  feedback.flags &&& kSt3215FeedbackValid != 0 &&
    feedback.flags &&& kSt3215FeedbackStale == 0

/-- The event that a cycle enqueues for a servo. -/
def RegistryState.sample (state : RegistryState D τ) (sensors : ℕ → Option ℕ)
    (sequence servo : ℕ) : Option (SensorSample D) :=
  (sensors servo).bind fun sensor =>
    let feedback := (state.registry.servo servo).feedback state.clockNs
    if feedback.offered then
      some ⟨servo, sensor, feedback.feedbackSequence, feedback.timestampNs,
        sequence, feedback.flags, feedback.positionRad,
        feedback.rawPosition % 2 ^ 16, feedback.statusError % 2 ^ 16⟩
    else none

def RegistryState.samples (state : RegistryState D τ)
    (sensors : ℕ → Option ℕ) (sequence : ℕ) : List (SensorSample D) :=
  (List.range state.registry.servoCount).filterMap
    (state.sample sensors sequence)

/-- `sensors` are the `st3215_dds_sensor_indices_`. -/
def sensorMachine (port : SerialPort τ ε) (sensors : ℕ → Option ℕ) :
    Machine (RegistryState D τ) (SensorInput D ε) (List (SensorSample D)) where
  step := fun state input =>
    match input with
    | .tick elapsed => ((registryMachine port).final state [.tick elapsed], [])
    | .stage servo command =>
        ((registryMachine port).final state [.stage servo command], [])
    | .start bus permitted =>
        ((registryMachine port).final state [.start bus permitted], [])
    | .stop bus => ((registryMachine port).final state [.stop bus], [])
    | .cycle sequence running turns elapsed =>
        let next := (registryMachine port).final state
          (turnInputs state.registry.busCount running turns elapsed)
        (next, next.samples sensors sequence)

abbrev SensorTransition (D τ ε : Type) :=
  Transition (RegistryState D τ) (SensorInput D ε) (List (SensorSample D))

/-- The feedback sequences enqueued for a servo. -/
def enqueued (servo : ℕ) (history : List (SensorTransition D τ ε)) : List ℕ :=
  history.flatMap fun t =>
    (t.output.filter (·.servo = servo)).map (·.event.sequence)

/-! ## What a servo publishes -/

/-- Published feedback carries a number below the count of the servo. -/
def ServoRuntime.Counted (runtime : ServoRuntime D) : Prop :=
  runtime.servo.latestFeedback.feedbackSequence ≤ runtime.feedbackSequence

/-- The feedback stays, or a later one of the present time replaces it. -/
def Sequenced (nowNs : ℤ) (before after : ServoRuntime D) : Prop :=
  after.servo.config = before.servo.config ∧
    (before.Counted → after.Counted ∧
      (after.servo.latestFeedback = before.servo.latestFeedback ∨
        before.servo.latestFeedback.feedbackSequence <
            after.servo.latestFeedback.feedbackSequence ∧
          after.servo.latestFeedback.timestampNs = nowNs))

omit [DoubleArithmetic D] in
theorem Sequenced.trans {nowNs : ℤ} {first second third : ServoRuntime D}
    (h : Sequenced nowNs first second) (h' : Sequenced nowNs second third) :
    Sequenced nowNs first third := by
  refine ⟨h'.1.trans h.1, fun hcounted => ?_⟩
  obtain ⟨hsecond, hold⟩ := h.2 hcounted
  obtain ⟨hthird, hnew⟩ := h'.2 hsecond
  refine ⟨hthird, ?_⟩
  obtain hsame | ⟨hless, htime⟩ := hnew
  · rw [hsame]
    exact hold
  · refine Or.inr ⟨?_, htime⟩
    obtain hsame | ⟨hless', _⟩ := hold
    · rw [← hsame]
      exact hless
    · exact hless'.trans hless

omit [DoubleArithmetic D] in
theorem sequenced_of_same {nowNs : ℤ} {before after : ServoRuntime D}
    (hconfig : after.servo.config = before.servo.config)
    (hfeedback : after.servo.latestFeedback = before.servo.latestFeedback)
    (hcount : before.feedbackSequence ≤ after.feedbackSequence) :
    Sequenced nowNs before after := by
  refine ⟨hconfig, fun hcounted => ⟨?_, Or.inl hfeedback⟩⟩
  unfold ServoRuntime.Counted at hcounted ⊢
  rw [hfeedback]
  exact hcounted.trans hcount

omit [DoubleArithmetic D] in
theorem refreshStaged_feedbackSequence (runtime : ServoRuntime D)
    (readable : Bool) (nowNs : ℤ) :
    (runtime.refreshStaged readable nowNs).feedbackSequence =
      runtime.feedbackSequence := by
  unfold ServoRuntime.refreshStaged ServoRuntime.expireCommand
    ServoRuntime.takeStaged
  split <;> split <;> rfl

theorem consumeResponse_feedbackSequence (port : SerialPort τ ε)
    (transport : τ) (runtime : ServoRuntime D) (nowNs : ℤ) :
    runtime.feedbackSequence ≤ (runtime.consumeResponse port transport
      nowNs).2.1.feedbackSequence := by
  unfold ServoRuntime.consumeResponse
  split
  · exact le_rfl
  · exact le_rfl
  · unfold ServoRuntime.responseFeedback
    split
    · exact le_rfl
    · split
      · exact le_rfl
      · exact Nat.le_succ _

theorem applyPosition_feedbackSequence {config : St3215ServoConfig}
    {status : St3215Status} {feedback placed : St3215ServoFeedback D}
    (hplaced : applyPosition config status feedback = .value placed) :
    placed.feedbackSequence = feedback.feedbackSequence := by
  unfold applyPosition at hplaced
  split at hplaced
  · split at hplaced
    · cases hplaced
    · split at hplaced
      · cases hplaced
      · cases hplaced
        rfl
  · cases hplaced
    rfl

/-- A response carries the next number of the servo. -/
theorem consumeResponse_counts {port : SerialPort τ ε} {transport : τ}
    {runtime : ServoRuntime D} {nowNs : ℤ} {feedback : St3215ServoFeedback D}
    (hvalue : (runtime.consumeResponse port transport nowNs).2.2 =
      .value feedback) :
    feedback.feedbackSequence = runtime.feedbackSequence + 1 ∧
      (runtime.consumeResponse port transport nowNs).2.1.feedbackSequence =
        runtime.feedbackSequence + 1 := by
  unfold ServoRuntime.consumeResponse at hvalue ⊢
  split at hvalue
  · cases hvalue
  · cases hvalue
  · unfold ServoRuntime.responseFeedback at hvalue ⊢
    split at hvalue
    · cases hvalue
    · split at hvalue
      · cases hvalue
      · next hdevice =>
          rw [if_neg hdevice]
          exact ⟨applyPosition_feedbackSequence hvalue, rfl⟩

omit [DoubleArithmetic D] in
theorem acceptResponse_feedbackSequence (runtime : ServoRuntime D)
    (feedback : St3215ServoFeedback D) (nowNs : ℤ) :
    (runtime.acceptResponse feedback
        nowNs).servo.latestFeedback.feedbackSequence =
      feedback.feedbackSequence := by
  unfold ServoRuntime.acceptResponse ServoRuntime.publishFeedback
    St3215Servo.publishFeedback
  simp only
  split <;> split <;> rfl

theorem sequenced_changes (port : SerialPort τ ε) (nowNs : ℤ) :
    ServoChanges port nowNs (Sequenced (D := D) nowNs) where
  refl := fun _ => sequenced_of_same rfl rfl le_rfl
  trans := Sequenced.trans
  stage := fun runtime command atNs =>
    sequenced_of_same (stage_servo runtime command atNs).1
      (stage_servo runtime command atNs).2 le_rfl
  refresh := by
    intro runtime readable
    refine sequenced_of_same ?_ ?_
      (refreshStaged_feedbackSequence runtime readable nowNs).ge
    · rw [refreshStaged_servo]
    · rw [refreshStaged_servo]
  consume := by
    intro runtime transport
    refine sequenced_of_same ?_ ?_
      (consumeResponse_feedbackSequence port transport runtime nowNs)
    · rw [consumeResponse_servo]
    · rw [consumeResponse_servo]
  respond := by
    intro runtime transport feedback hvalue
    obtain ⟨hfeedback, hcount⟩ := consumeResponse_counts hvalue
    have hsequence := acceptResponse_feedbackSequence
      (runtime.consumeResponse port transport nowNs).2.1 feedback nowNs
    have hconfig : ((runtime.consumeResponse port transport
        nowNs).2.1.acceptResponse feedback nowNs).servo.config =
        runtime.servo.config := by
      change (runtime.consumeResponse port transport nowNs).2.1.servo.config = _
      rw [consumeResponse_servo]
    refine ⟨hconfig, fun hcounted => ⟨?_, Or.inr ⟨?_, ?_⟩⟩⟩
    · unfold ServoRuntime.Counted
      rw [hsequence, hfeedback]
      exact hcount.ge
    · rw [hsequence, hfeedback]
      exact Nat.lt_succ_of_le hcounted
    · rw [acceptResponse_timestamp]
      exact consumeResponse_timestamp hvalue
  fail := by
    intro runtime transport flags
    refine ⟨rfl, fun hcounted => ⟨le_refl _, Or.inr ⟨?_, rfl⟩⟩⟩
    exact Nat.lt_succ_of_le hcounted
  mark := fun _ => sequenced_of_same rfl rfl le_rfl

/-! ## Runs of the registry -/

def RegistryState.runtime (state : RegistryState D τ) (servo : ℕ) :
    ServoRuntime D :=
  (state.registry.buses (state.registry.places servo).bus).servos
    (state.registry.places servo).slot

/-- The feedback of a servo stays, or a later one replaces it that was
published in between. -/
structure Progress (servo : ℕ) (before after : RegistryState D τ) : Prop where
  layout : SameLayout before after
  config : (after.runtime servo).servo.config =
    (before.runtime servo).servo.config
  counted : (before.runtime servo).Counted → (after.runtime servo).Counted
  feedback : (before.runtime servo).Counted →
    (after.runtime servo).servo.latestFeedback =
        (before.runtime servo).servo.latestFeedback ∨
      (before.runtime servo).servo.latestFeedback.feedbackSequence <
          (after.runtime servo).servo.latestFeedback.feedbackSequence ∧
        (after.runtime servo).servo.latestFeedback.timestampNs ≤
          after.clockNs

omit [DoubleArithmetic D] in
theorem Progress.refl (servo : ℕ) (state : RegistryState D τ) :
    Progress servo state state :=
  ⟨⟨rfl, rfl, rfl, le_rfl⟩, rfl, id, fun _ => Or.inl rfl⟩

omit [DoubleArithmetic D] in
theorem Progress.trans {servo : ℕ} {first second third : RegistryState D τ}
    (h : Progress servo first second) (h' : Progress servo second third) :
    Progress servo first third where
  layout :=
    ⟨h'.layout.servoCount.trans h.layout.servoCount,
      h'.layout.places.trans h.layout.places,
      h'.layout.safetyGroups.trans h.layout.safetyGroups,
      h.layout.clock.trans h'.layout.clock⟩
  config := h'.config.trans h.config
  counted := fun hcounted => h'.counted (h.counted hcounted)
  feedback := by
    intro hcounted
    obtain hsame' | ⟨hless', htime'⟩ := h'.feedback (h.counted hcounted)
    · obtain hsame | ⟨hless, htime⟩ := h.feedback hcounted
      · exact Or.inl (hsame'.trans hsame)
      · rw [hsame']
        exact Or.inr ⟨hless, htime.trans h'.layout.clock⟩
    · refine Or.inr ⟨?_, htime'⟩
      obtain hsame | ⟨hless, _⟩ := h.feedback hcounted
      · rw [← hsame]
        exact hless'
      · exact hless.trans hless'

theorem progress_step (port : SerialPort τ ε) (servo : ℕ)
    (state : RegistryState D τ) (input : RegistryInput D ε) :
    Progress servo state ((registryMachine port).step state input).1 := by
  have hlayout := sameLayout_step port state input
  have hruntime : Sequenced state.clockNs (state.runtime servo)
      (((registryMachine port).step state input).1.runtime servo) := by
    unfold RegistryState.runtime
    rw [hlayout.places]
    obtain hsame | ⟨busInput, htime, hstep⟩ :=
      registry_bus_step port state input (state.registry.places servo).bus
    · rw [hsame]
      exact sequenced_of_same rfl rfl le_rfl
    · rw [hstep]
      exact (sequenced_changes port state.clockNs).step _ htime _
  refine ⟨hlayout, hruntime.1, fun hcounted => (hruntime.2 hcounted).1, ?_⟩
  intro hcounted
  obtain hsame | ⟨hless, htime⟩ := (hruntime.2 hcounted).2
  · exact Or.inl hsame
  · exact Or.inr ⟨hless, htime.le.trans hlayout.clock⟩

theorem progress_final (port : SerialPort τ ε) (servo : ℕ)
    (state : RegistryState D τ) (inputs : List (RegistryInput D ε)) :
    Progress servo state ((registryMachine port).final state inputs) := by
  refine Machine.invariant_final (Progress servo state) ?_
    (Progress.refl servo state) inputs
  intro current input hprogress
  exact hprogress.trans (progress_step port servo current input)

theorem progress_sensorStep (port : SerialPort τ ε) (sensors : ℕ → Option ℕ)
    (servo : ℕ) (state : RegistryState D τ) (input : SensorInput D ε) :
    Progress servo state ((sensorMachine port sensors).step state input).1 := by
  cases input with
  | tick elapsed => exact progress_final port servo state _
  | stage index command => exact progress_final port servo state _
  | start bus permitted => exact progress_final port servo state _
  | stop bus => exact progress_final port servo state _
  | cycle sequence running turns elapsed =>
      exact progress_final port servo state _

/-! ## Samples of a servo -/

/-- The samples of a list of numbered ones which carry a given number. -/
theorem filter_filterMap_range {α : Type} (number : α → ℕ)
    (sample : ℕ → Option α) (hnumber : ∀ i a, sample i = some a → number a = i)
    (n i : ℕ) :
    ((List.range n).filterMap sample).filter (number · = i) =
      if i < n then (sample i).toList else [] := by
  induction n with
  | zero => simp
  | succ n ih =>
      rw [List.range_succ, List.filterMap_append, List.filter_append, ih]
      cases hsample : sample n with
      | none =>
          by_cases hi : i = n
          · subst hi
            simp [hsample]
          · have hlt : i < n + 1 ↔ i < n := by omega
            simp [hsample, hlt]
      | some a =>
          have ha := hnumber n a hsample
          by_cases hi : i = n
          · subst hi
            simp [hsample, ha]
          · have hlt : i < n + 1 ↔ i < n := by omega
            simp [hsample, ha, hlt, Ne.symm hi]

omit [DoubleArithmetic D] in
theorem sample_servo {state : RegistryState D τ} {sensors : ℕ → Option ℕ}
    {sequence servo : ℕ} {sample : SensorSample D}
    (hsample : state.sample sensors sequence servo = some sample) :
    sample.servo = servo := by
  unfold RegistryState.sample at hsample
  obtain ⟨sensor, _, hsample⟩ := Option.bind_eq_some_iff.mp hsample
  simp only at hsample
  split at hsample
  · cases hsample
    rfl
  · cases hsample

/-- The servo is mapped, and its feedback is offered in this state. -/
def Offered (sensors : ℕ → Option ℕ) (servo : ℕ) (state : RegistryState D τ) :
    Prop :=
  (sensors servo).isSome = true ∧ servo < state.registry.servoCount ∧
    ((state.runtime servo).servo.feedback state.clockNs).offered = true

instance (sensors : ℕ → Option ℕ) (servo : ℕ) (state : RegistryState D τ) :
    Decidable (Offered sensors servo state) :=
  inferInstanceAs (Decidable (_ ∧ _ ∧ _))

omit [DoubleArithmetic D] in
theorem feedback_feedbackSequence (servo : St3215Servo D) (nowNs : ℤ) :
    (servo.feedback nowNs).feedbackSequence =
      servo.latestFeedback.feedbackSequence := by
  unfold St3215Servo.feedback
  simp only
  split <;> rfl

omit [DoubleArithmetic D] in
theorem samples_of_servo (state : RegistryState D τ) (sensors : ℕ → Option ℕ)
    (sequence servo : ℕ) :
    ((state.samples sensors sequence).filter
        (·.servo = servo)).map (·.event.sequence) =
      if Offered sensors servo state then
        [(state.runtime servo).servo.latestFeedback.feedbackSequence]
      else [] := by
  unfold RegistryState.samples
  rw [filter_filterMap_range SensorSample.servo _
    (fun _ _ => sample_servo)]
  by_cases hoffered : Offered sensors servo state
  · obtain ⟨hmapped, hlt, hvalid⟩ := hoffered
    obtain ⟨sensor, hsensor⟩ := Option.isSome_iff_exists.mp hmapped
    have hregistry : ((state.registry.servo servo).feedback
        state.clockNs).offered = true := hvalid
    rw [if_pos hlt, if_pos ⟨hmapped, hlt, hvalid⟩]
    unfold RegistryState.sample
    rw [hsensor, Option.bind_some]
    simp only [hregistry, if_true]
    exact congrArg (fun n => [n]) (feedback_feedbackSequence _ _)
  · rw [if_neg hoffered]
    split
    · next hlt =>
        cases hsample : state.sample sensors sequence servo with
        | none => rfl
        | some sample =>
            exfalso
            apply hoffered
            unfold RegistryState.sample at hsample
            obtain ⟨sensor, hsensor, hsample⟩ :=
              Option.bind_eq_some_iff.mp hsample
            simp only at hsample
            split at hsample
            · next hvalid => exact ⟨by rw [hsensor]; rfl, hlt, hvalid⟩
            · cases hsample
    · rfl

/-- The cycle publishes nothing new for the servo, while its old feedback is
still valid when the daemon reads it. -/
def Republishes (sensors : ℕ → Option ℕ) (servo : ℕ)
    (t : SensorTransition D τ ε) : Prop :=
  (∃ sequence running turns elapsed,
    t.input = .cycle sequence running turns elapsed) ∧
  (t.after.runtime servo).servo.latestFeedback.feedbackSequence =
    (t.before.runtime servo).servo.latestFeedback.feedbackSequence ∧
  (sensors servo).isSome = true ∧ servo < t.before.registry.servoCount ∧
  ((t.before.runtime servo).servo.feedback t.after.clockNs).offered = true

omit [DoubleArithmetic D] in
/-- Feedback which is offered later was offered since it was published. -/
theorem offered_earlier {servo : St3215Servo D} {earlier later : ℤ}
    (hle : earlier ≤ later)
    (htime : servo.latestFeedback.offered = true →
      servo.latestFeedback.timestampNs ≤ earlier)
    (hoffered : (servo.feedback later).offered = true) :
    servo.latestFeedback.offered = true ∧
      (servo.feedback earlier).offered = true := by
  have hmarked (flags : BitVec 32) :
      ((flags ||| kSt3215FeedbackStale) &&& ~~~kSt3215FeedbackValid) &&&
        kSt3215FeedbackValid = 0 := by
    rw [BitVec.and_assoc]
    simp
  unfold St3215Servo.feedback at hoffered ⊢
  simp only at hoffered ⊢
  split at hoffered
  · simp [St3215ServoFeedback.offered, hmarked] at hoffered
  · next hcurrent =>
      refine ⟨hoffered, ?_⟩
      have hpublished := htime hoffered
      rw [if_neg ?_]
      · exact hoffered
      · intro hold
        apply hcurrent
        simp only [Bool.and_eq_true, Bool.or_eq_true, decide_eq_true_eq]
          at hold ⊢
        omega

/-! ## Runs of a daemon -/

/-- The samples of a servo after a history. -/
structure Enqueues (sensors : ℕ → Option ℕ) (servo : ℕ)
    (history : List (SensorTransition D τ ε)) (state : RegistryState D τ) :
    Prop where
  counted : (state.runtime servo).Counted
  bounded : ∀ sequence ∈ enqueued servo history,
    sequence ≤ (state.runtime servo).servo.latestFeedback.feedbackSequence
  timely : (state.runtime servo).servo.latestFeedback.offered = true →
    (state.runtime servo).servo.latestFeedback.timestampNs ≤ state.clockNs
  kept : Offered sensors servo state →
    (state.runtime servo).servo.latestFeedback.feedbackSequence ∈
      enqueued servo history
  increasing : (enqueued servo history).Pairwise (· < ·) ↔
    ∀ t ∈ history, ¬ Republishes sensors servo t

section Steps

variable {sensors : ℕ → Option ℕ} {servo : ℕ}
  {history : List (SensorTransition D τ ε)} {state after : RegistryState D τ}
  {t : SensorTransition D τ ε}

omit [DoubleArithmetic D] in
theorem enqueued_append :
    enqueued servo (history ++ [t]) = enqueued servo history ++
      (t.output.filter (·.servo = servo)).map (·.event.sequence) := by
  simp [enqueued]

omit [DoubleArithmetic D] in
theorem Progress.timely (h : Progress servo state after)
    (hcounted : (state.runtime servo).Counted)
    (htimely : (state.runtime servo).servo.latestFeedback.offered = true →
      (state.runtime servo).servo.latestFeedback.timestampNs ≤
        state.clockNs) :
    (after.runtime servo).servo.latestFeedback.offered = true →
      (after.runtime servo).servo.latestFeedback.timestampNs ≤
        after.clockNs := by
  intro hoffered
  obtain hsame | ⟨_, htime⟩ := h.feedback hcounted
  · rw [hsame] at hoffered ⊢
    exact (htimely hoffered).trans h.layout.clock
  · exact htime

omit [DoubleArithmetic D] in
theorem Progress.bound (h : Progress servo state after)
    (hcounted : (state.runtime servo).Counted) :
    (state.runtime servo).servo.latestFeedback.feedbackSequence ≤
      (after.runtime servo).servo.latestFeedback.feedbackSequence := by
  obtain hsame | ⟨hless, _⟩ := h.feedback hcounted
  · rw [hsame]
  · exact hless.le

omit [DoubleArithmetic D] in
/-- Feedback that is still offered and was not replaced is in the history. -/
theorem Enqueues.offered_before (h : Enqueues sensors servo history state)
    (hprogress : Progress servo state after)
    (hsame : (after.runtime servo).servo.latestFeedback =
      (state.runtime servo).servo.latestFeedback)
    (hoffered : Offered sensors servo after) :
    (state.runtime servo).servo.latestFeedback.feedbackSequence ∈
        enqueued servo history ∧
      ((state.runtime servo).servo.feedback after.clockNs).offered = true := by
  obtain ⟨hmapped, hlt, hvalid⟩ := hoffered
  have hfeedback : ((state.runtime servo).servo.feedback
      after.clockNs).offered = true := by
    unfold St3215Servo.feedback at hvalid ⊢
    rw [hsame, hprogress.config] at hvalid
    exact hvalid
  refine ⟨h.kept ⟨hmapped, ?_, ?_⟩, hfeedback⟩
  · rw [← hprogress.layout.servoCount]
    exact hlt
  · exact (offered_earlier hprogress.layout.clock h.timely hfeedback).2

omit [DoubleArithmetic D] in
theorem Enqueues.quiet (h : Enqueues sensors servo history state)
    (hprogress : Progress servo state t.after) (hsilent : t.output = [])
    (hinput : ∀ sequence running turns elapsed,
      t.input ≠ .cycle sequence running turns elapsed)
    (hkept : (t.after.runtime servo).servo.latestFeedback =
      (state.runtime servo).servo.latestFeedback) :
    Enqueues sensors servo (history ++ [t]) t.after := by
  have hsamples : enqueued servo (history ++ [t]) = enqueued servo history := by
    rw [enqueued_append, hsilent]
    simp
  refine ⟨hprogress.counted h.counted, ?_,
    hprogress.timely h.counted h.timely, ?_, ?_⟩
  · intro sequence hsequence
    rw [hsamples] at hsequence
    exact (h.bounded sequence hsequence).trans (hprogress.bound h.counted)
  · intro hoffered
    rw [hsamples, hkept]
    exact (h.offered_before hprogress hkept hoffered).1
  · rw [hsamples, h.increasing, List.forall_mem_append]
    refine ⟨fun hall => ⟨hall, ?_⟩, fun hall => hall.1⟩
    intro u hu
    rw [List.mem_singleton] at hu
    subst hu
    rintro ⟨⟨sequence, running, turns, elapsed, hcycle⟩, _⟩
    exact hinput sequence running turns elapsed hcycle

omit [DoubleArithmetic D] in
theorem Enqueues.cycle (h : Enqueues sensors servo history state)
    (hbefore : t.before = state) (hprogress : Progress servo state t.after)
    (hinput : ∃ sequence running turns elapsed,
      t.input = .cycle sequence running turns elapsed)
    (hsamples : (t.output.filter (·.servo = servo)).map (·.event.sequence) =
      if Offered sensors servo t.after then
        [(t.after.runtime servo).servo.latestFeedback.feedbackSequence]
      else []) :
    Enqueues sensors servo (history ++ [t]) t.after := by
  have happend : enqueued servo (history ++ [t]) = _ := enqueued_append
  rw [hsamples] at happend
  have hbound := hprogress.bound h.counted
  refine ⟨hprogress.counted h.counted, ?_,
    hprogress.timely h.counted h.timely, ?_, ?_⟩
  · intro sequence hsequence
    rw [happend, List.mem_append] at hsequence
    obtain hold | hnew := hsequence
    · exact (h.bounded sequence hold).trans hbound
    · split at hnew
      · rw [List.mem_singleton.mp hnew]
      · cases hnew
  · intro hoffered
    rw [happend, if_pos hoffered]
    simp
  · rw [happend, List.forall_mem_append, List.forall_mem_singleton,
      ← h.increasing]
    by_cases hoffered : Offered sensors servo t.after
    · rw [if_pos hoffered, List.pairwise_append]
      obtain hsame | ⟨hless, _⟩ := hprogress.feedback h.counted
      · obtain ⟨hmem, hvalid⟩ := h.offered_before hprogress hsame hoffered
        have hrepublished : Republishes sensors servo t := by
          rw [← hbefore] at hsame hvalid
          refine ⟨hinput, by rw [hsame], hoffered.1, ?_, hvalid⟩
          rw [hbefore, ← hprogress.layout.servoCount]
          exact hoffered.2.1
        constructor
        · rintro ⟨_, _, hbelow⟩
          have hlt := hbelow _ hmem _ (List.mem_singleton_self _)
          rw [hsame] at hlt
          exact absurd hlt (lt_irrefl _)
        · rintro ⟨_, hnot⟩
          exact absurd hrepublished hnot
      · constructor
        · rintro ⟨hpairwise, _, _⟩
          refine ⟨hpairwise, ?_⟩
          rintro ⟨_, hsame, _⟩
          rw [hbefore] at hsame
          omega
        · rintro ⟨hpairwise, _⟩
          refine ⟨hpairwise, List.pairwise_singleton _ _, ?_⟩
          intro sequence hsequence last hlast
          rw [List.mem_singleton.mp hlast]
          exact (h.bounded sequence hsequence).trans_lt hless
    · rw [if_neg hoffered, List.append_nil]
      refine ⟨fun hpairwise => ⟨hpairwise, ?_⟩, fun hboth => hboth.1⟩
      rintro ⟨_, hsame, hmapped, hlt, hvalid⟩
      rw [hbefore] at hsame hlt hvalid
      obtain hkept | ⟨hless, _⟩ := hprogress.feedback h.counted
      · apply hoffered
        refine ⟨hmapped, ?_, ?_⟩
        · rw [hprogress.layout.servoCount]
          exact hlt
        · unfold St3215Servo.feedback at hvalid ⊢
          rw [hkept, hprogress.config]
          exact hvalid
      · omega

end Steps

/-- Staging leaves the feedback of all servos. -/
theorem stage_latestFeedback (bus : St3215Bus D τ) (input : StageInput D)
    (slot : ℕ) :
    ((bus.stage input).servos slot).servo.latestFeedback =
      (bus.servos slot).servo.latestFeedback := by
  unfold St3215Bus.stage
  split
  · by_cases hslot : slot = input.servo
    · subst hslot
      rw [St3215Bus.setServo_self]
      exact (stage_servo (bus.servos input.servo) input.command
        input.nowNs).2
    · rw [St3215Bus.setServo_of_ne _ _ _ hslot]
  · rfl

omit [DoubleArithmetic D] in
/-- A bus is replaced by one with the same feedback. -/
theorem setBus_latestFeedback (state : RegistryState D τ) (servo index : ℕ)
    {bus : St3215Bus D τ}
    (hbus : ∀ slot, (bus.servos slot).servo.latestFeedback =
      ((state.registry.buses index).servos slot).servo.latestFeedback) :
    ((state.setBus index bus).runtime servo).servo.latestFeedback =
      (state.runtime servo).servo.latestFeedback := by
  unfold RegistryState.runtime RegistryState.setBus
  simp only
  by_cases hindex : (state.registry.places servo).bus = index
  · rw [hindex, Function.update_self]
    exact hbus _
  · rw [Function.update_of_ne hindex]

theorem Enqueues.step {port : SerialPort τ ε} {sensors : ℕ → Option ℕ}
    {servo : ℕ} {history : List (SensorTransition D τ ε)}
    {state : RegistryState D τ} (h : Enqueues sensors servo history state)
    (input : SensorInput D ε) :
    Enqueues sensors servo
      (history ++ [(sensorMachine port sensors).fire state input])
      ((sensorMachine port sensors).step state input).1 := by
  have hprogress := progress_sensorStep port sensors servo state input
  cases input with
  | tick elapsed =>
      exact h.quiet hprogress rfl (by intros; simp) rfl
  | stage index command =>
      refine h.quiet hprogress rfl (by intros; simp) ?_
      change (((registryMachine port).step state
        (.stage index command)).1.runtime servo).servo.latestFeedback = _
      simp only [registryMachine]
      split
      · exact setBus_latestFeedback state servo _
          (stage_latestFeedback _ _)
      · rfl
  | start bus permitted =>
      refine h.quiet hprogress rfl (by intros; simp) ?_
      refine setBus_latestFeedback state servo bus fun slot => ?_
      rw [(sameFaults_start port _ state.clockNs permitted).2]
  | stop bus =>
      refine h.quiet hprogress rfl (by intros; simp) ?_
      refine setBus_latestFeedback state servo bus fun slot => ?_
      rw [(sameFaults_stop port _).2]
  | cycle sequence running turns elapsed =>
      exact h.cycle rfl hprogress ⟨sequence, running, turns, elapsed, rfl⟩
        (samples_of_servo _ sensors sequence servo)

/-! ## Configured registries -/

end PolicyRuntime
