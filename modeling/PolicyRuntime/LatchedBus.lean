import PolicyRuntime.DeviceRegistry
import PolicyRuntime.ServoCommands

/-!
# Latched buses in the safety snapshot

A latched bus publishes failed feedback for the servo at its cursor and leaves
the feedback of its other servos as it was.  So whether a snapshot marks all of
them is decided by what the others had published before.
-/

namespace PolicyRuntime

open FloatingPoint

variable {D τ ε : Type} [DoubleArithmetic D]

/-! ## What a cycle does to a servo -/

/-- A relation between states of a servo which every move of a cycle keeps. -/
structure ServoMoves (port : SerialPort τ ε) (nowNs : ℤ)
    (Moves : ServoRuntime D → ServoRuntime D → Prop) : Prop where
  refl : ∀ runtime, Moves runtime runtime
  trans : ∀ {first second third}, Moves first second → Moves second third →
    Moves first third
  stage : ∀ runtime command atNs, Moves runtime (runtime.stage command atNs)
  refresh : ∀ runtime readable,
    Moves runtime (runtime.refreshStaged readable nowNs)
  consume : ∀ runtime transport,
    Moves runtime (runtime.consumeResponse port transport nowNs).2.1
  accept : ∀ runtime feedback, feedback.timestampNs = nowNs →
    Moves runtime (runtime.acceptResponse feedback nowNs)
  fail : ∀ runtime transport flags,
    Moves runtime (runtime.publishFailure port transport flags nowNs)
  mark : ∀ runtime, Moves runtime runtime.markGoal

/-- The same for a relation which asks where an accepted feedback comes from. -/
structure ServoChanges (port : SerialPort τ ε) (nowNs : ℤ)
    (Moves : ServoRuntime D → ServoRuntime D → Prop) : Prop where
  refl : ∀ runtime, Moves runtime runtime
  trans : ∀ {first second third}, Moves first second → Moves second third →
    Moves first third
  stage : ∀ runtime command atNs, Moves runtime (runtime.stage command atNs)
  refresh : ∀ runtime readable,
    Moves runtime (runtime.refreshStaged readable nowNs)
  consume : ∀ runtime transport,
    Moves runtime (runtime.consumeResponse port transport nowNs).2.1
  respond : ∀ runtime transport feedback,
    (runtime.consumeResponse port transport nowNs).2.2 = .value feedback →
    Moves runtime ((runtime.consumeResponse port transport
      nowNs).2.1.acceptResponse feedback nowNs)
  fail : ∀ runtime transport flags,
    Moves runtime (runtime.publishFailure port transport flags nowNs)
  mark : ∀ runtime, Moves runtime runtime.markGoal

/-- A response carries the time at which it was polled. -/
theorem consumeResponse_timestamp {port : SerialPort τ ε} {transport : τ}
    {runtime : ServoRuntime D} {nowNs : ℤ} {feedback : St3215ServoFeedback D}
    (hvalue : (runtime.consumeResponse port transport nowNs).2.2 =
      .value feedback) :
    feedback.timestampNs = nowNs := by
  unfold ServoRuntime.consumeResponse at hvalue
  split at hvalue
  · cases hvalue
  · cases hvalue
  · unfold ServoRuntime.responseFeedback at hvalue
    split at hvalue
    · cases hvalue
    · split at hvalue
      · cases hvalue
      · simp only at hvalue
        unfold applyPosition at hvalue
        split at hvalue
        · split at hvalue
          · cases hvalue
          · split at hvalue
            · cases hvalue
            · cases hvalue
              rfl
        · cases hvalue
          rfl

section Moves

variable {port : SerialPort τ ε} {nowNs : ℤ}
  {Moves : ServoRuntime D → ServoRuntime D → Prop}
  (hmoves : ServoChanges port nowNs Moves)

include hmoves

theorem ServoChanges.setServo (bus : St3215Bus D τ) {index : ℕ}
    {runtime : ServoRuntime D} (hruntime : Moves (bus.servos index) runtime)
    (servo : ℕ) :
    Moves (bus.servos servo) ((bus.setServo index runtime).servos servo) := by
  by_cases hservo : servo = index
  · subst hservo
    rw [St3215Bus.setServo_self]
    exact hruntime
  · rw [St3215Bus.setServo_of_ne _ _ _ hservo]
    exact hmoves.refl _

theorem ServoChanges.latchFault (bus : St3215Bus D τ) (index : ℕ)
    (flags : BitVec 32) (servo : ℕ) :
    Moves (bus.servos servo)
      ((bus.latchFault port index flags nowNs).servos servo) :=
  hmoves.setServo bus (hmoves.fail (bus.servos index) bus.transport flags)
    servo

theorem ServoChanges.stages (bus : St3215Bus D τ) (inputs : List (StageInput D))
    (servo : ℕ) :
    Moves (bus.servos servo)
      ((inputs.foldl St3215Bus.stage bus).servos servo) := by
  induction inputs generalizing bus with
  | nil => exact hmoves.refl _
  | cons input rest ih =>
      refine hmoves.trans ?_ (ih (bus.stage input))
      unfold St3215Bus.stage
      split
      · exact hmoves.setServo bus (hmoves.stage (bus.servos input.servo)
          input.command input.nowNs) servo
      · exact hmoves.refl _

theorem ServoChanges.pollResponse (bus : St3215Bus D τ) (index : ℕ)
    (readable : Bool) (servo : ℕ) :
    Moves (bus.servos servo)
      ((bus.pollResponse port index readable nowNs).1.servos servo) := by
  have hrefresh := hmoves.refresh (bus.servos index) readable
  have hconsume := hmoves.trans hrefresh
    (hmoves.consume ((bus.servos index).refreshStaged readable nowNs)
      bus.transport)
  have hrespond := hmoves.respond
    ((bus.servos index).refreshStaged readable nowNs) bus.transport
  unfold St3215Bus.pollResponse
  simp only
  generalize ((bus.servos index).refreshStaged readable nowNs).consumeResponse
    port bus.transport nowNs = consumed at hconsume hrespond ⊢
  have hconsumed := hmoves.setServo bus hconsume servo
  cases hresult : consumed.2.2 with
  | value feedback =>
      have haccepted := hmoves.setServo bus
        (hmoves.trans hrefresh (hrespond feedback hresult)) servo
      by_cases hservo : servo = index
      · subst hservo
        simpa [St3215Bus.settleResponse, St3215Bus.setTransport,
          St3215Bus.setServo] using haccepted
      · simpa [St3215Bus.settleResponse, St3215Bus.setTransport,
          St3215Bus.setServo, hservo] using haccepted
  | exception => exact hconsumed
  | failure error =>
      unfold St3215Bus.settleResponse
      simp only
      split
      · exact hmoves.trans hconsumed (hmoves.latchFault
          ((bus.setServo index consumed.2.1).setTransport consumed.1) index _
          servo)
      · split
        · exact hmoves.trans hconsumed (hmoves.latchFault
          ((bus.setServo index consumed.2.1).setTransport consumed.1) index _
          servo)
        · exact hconsumed

theorem ServoChanges.request {runtime after : ServoRuntime D} {request : Bytes}
    {goal : Option ℕ}
    (hrequest : runtime.request = .ok (after, request, goal)) :
    Moves runtime after := by
  unfold ServoRuntime.request at hrequest
  split at hrequest
  · split at hrequest
    · cases hrequest
    · cases hrequest
      exact hmoves.mark runtime
  · cases hrequest
    exact hmoves.refl runtime

theorem ServoChanges.dispatchRequest (bus : St3215Bus D τ) (index : ℕ)
    (environment : ε) (servo : ℕ) :
    Moves (bus.servos servo)
      ((bus.dispatchRequest port index nowNs environment).1.servos servo) := by
  unfold St3215Bus.dispatchRequest
  cases hrequest : (bus.servos index).request with
  | error error => exact hmoves.latchFault bus index _ servo
  | ok result =>
      obtain ⟨runtime, request, goal⟩ := result
      have hmarked := hmoves.setServo bus (hmoves.request hrequest) servo
      simp only
      split
      · exact hmarked
      · rename_i transport error _
        exact hmoves.trans hmarked (hmoves.latchFault
          ((bus.setServo index runtime).setTransport transport) index _ servo)
      · exact hmarked

theorem ServoChanges.pollPhase (bus : St3215Bus D τ) (input : BusCycle D ε)
    (hnow : input.nowNs = nowNs) (servo : ℕ) :
    Moves (bus.servos servo) ((bus.pollPhase port input).1.servos servo) := by
  subst hnow
  unfold St3215Bus.pollPhase
  split
  · exact hmoves.pollResponse bus bus.pendingIndex input.pollReadable servo
  · exact hmoves.refl _

theorem ServoChanges.cycle (bus : St3215Bus D τ) (input : BusCycle D ε)
    (hnow : input.nowNs = nowNs) (servo : ℕ) :
    Moves (bus.servos servo) ((bus.cycle port input).1.servos servo) := by
  subst hnow
  unfold St3215Bus.cycle
  split
  · exact hmoves.stages bus input.staged servo
  simp only
  split
  · refine hmoves.trans ?_ (hmoves.stages _ input.staged servo)
    exact hmoves.latchFault { bus with cycleSequence := bus.cycleSequence + 1 }
      bus.cursor _ servo
  have hpolled := hmoves.pollPhase
    { bus with cycleSequence := bus.cycleSequence + 1 } input rfl servo
  have hstaged := hmoves.trans hpolled (hmoves.stages _ input.staged servo)
  split
  · exact hmoves.trans hstaged (hmoves.latchFault _ _ _ servo)
  split
  · exact hstaged
  refine hmoves.trans hstaged ?_
  unfold St3215Bus.dispatchPhase
  simp only
  generalize input.staged.foldl St3215Bus.stage _ = staged
  generalize (if staged.dispatched then
    (staged.pendingIndex + 1) % staged.servoCount else 0) = cursor
  have hrefreshed := hmoves.setServo { staged with cursor := cursor }
    (hmoves.refresh (staged.servos cursor) input.dispatchReadable) servo
  have hsent := hmoves.trans hrefreshed
    (hmoves.dispatchRequest _ cursor input.environment servo)
  split
  · exact hmoves.trans hsent (hmoves.latchFault _ _ _ servo)
  · exact hsent

end Moves

theorem ServoMoves.changes {port : SerialPort τ ε} {nowNs : ℤ}
    {Moves : ServoRuntime D → ServoRuntime D → Prop}
    (hmoves : ServoMoves port nowNs Moves) :
    ServoChanges port nowNs Moves where
  refl := hmoves.refl
  trans := hmoves.trans
  stage := hmoves.stage
  refresh := hmoves.refresh
  consume := hmoves.consume
  respond := fun runtime transport feedback hvalue =>
    hmoves.trans (hmoves.consume runtime transport)
      (hmoves.accept _ feedback (consumeResponse_timestamp hvalue))
  fail := hmoves.fail
  mark := hmoves.mark

/-- What a servo last published stays, or it is from the present cycle. -/
def Published (nowNs : ℤ) (before after : ServoRuntime D) : Prop :=
  after.servo.config = before.servo.config ∧
    (after.servo.latestFeedback = before.servo.latestFeedback ∨
      after.servo.latestFeedback.timestampNs = nowNs)

omit [DoubleArithmetic D] in
theorem refreshStaged_servo (runtime : ServoRuntime D) (readable : Bool)
    (nowNs : ℤ) :
    (runtime.refreshStaged readable nowNs).servo = runtime.servo := by
  unfold ServoRuntime.refreshStaged ServoRuntime.expireCommand
    ServoRuntime.takeStaged
  split <;> split <;> rfl

theorem stage_servo (runtime : ServoRuntime D)
    (command : St3215ServoCommand D) (atNs : ℤ) :
    (runtime.stage command atNs).servo.config = runtime.servo.config ∧
      (runtime.stage command atNs).servo.latestFeedback =
        runtime.servo.latestFeedback := by
  unfold ServoRuntime.stage St3215Servo.stageCommand St3215Servo.tryLockCommand
  simp only
  split
  · exact ⟨rfl, rfl⟩
  · split <;> exact ⟨rfl, rfl⟩

theorem consumeResponse_servo (port : SerialPort τ ε) (transport : τ)
    (runtime : ServoRuntime D) (nowNs : ℤ) :
    (runtime.consumeResponse port transport nowNs).2.1.servo =
      runtime.servo := by
  unfold ServoRuntime.consumeResponse
  split
  · rfl
  · rfl
  · unfold ServoRuntime.responseFeedback
    split
    · rfl
    · split <;> rfl

omit [DoubleArithmetic D] in
theorem acceptResponse_timestamp (runtime : ServoRuntime D)
    (feedback : St3215ServoFeedback D) (nowNs : ℤ) :
    (runtime.acceptResponse feedback nowNs).servo.latestFeedback.timestampNs =
      feedback.timestampNs := by
  unfold ServoRuntime.acceptResponse ServoRuntime.publishFeedback
    St3215Servo.publishFeedback
  simp only
  split <;> split <;> rfl

theorem published_moves (port : SerialPort τ ε) (nowNs : ℤ) :
    ServoMoves port nowNs (Published (D := D) nowNs) where
  refl := fun _ => ⟨rfl, Or.inl rfl⟩
  trans := by
    intro first second third hfirst hsecond
    refine ⟨hsecond.1.trans hfirst.1, ?_⟩
    rcases hsecond.2 with hsame | hnow
    · rw [hsame]
      exact hfirst.2
    · exact Or.inr hnow
  stage := fun runtime command atNs =>
    ⟨(stage_servo runtime command atNs).1,
      Or.inl (stage_servo runtime command atNs).2⟩
  refresh := by
    intro runtime readable
    unfold Published
    rw [refreshStaged_servo]
    exact ⟨rfl, Or.inl rfl⟩
  consume := by
    intro runtime transport
    unfold Published
    rw [consumeResponse_servo]
    exact ⟨rfl, Or.inl rfl⟩
  accept := by
    intro runtime feedback htime
    refine ⟨rfl, Or.inr ?_⟩
    rw [acceptResponse_timestamp, htime]
  fail := fun _ _ _ => ⟨rfl, Or.inr rfl⟩
  mark := fun _ => ⟨rfl, Or.inl rfl⟩

/-! ## The servo which the latch is charged to -/

/-- The feedback of a servo carries the stale flag. -/
def MarkedStale (runtime : ServoRuntime D) : Prop :=
  runtime.servo.latestFeedback.flags.getLsbD 1 = true

structure Charged (bus : St3215Bus D τ) : Prop where
  pending : bus.faultLatched = false → bus.dispatched = true →
    bus.cursor = bus.pendingIndex
  stale : bus.faultLatched = true → MarkedStale (bus.servos bus.cursor)

omit [DoubleArithmetic D] in
theorem markedStale_latchFault (port : SerialPort τ ε) (bus : St3215Bus D τ)
    (index : ℕ) (flags : BitVec 32) (nowNs : ℤ) :
    MarkedStale ((bus.latchFault port index flags nowNs).servos index) := by
  unfold St3215Bus.latchFault MarkedStale
  simp only [Function.update_self]
  show (((bus.servos index).servo.feedback 0).flags &&& ~~~kSt3215FeedbackValid
    ||| (kSt3215FeedbackStale ||| flags)).getLsbD 1 = true
  simp [kSt3215FeedbackStale]

omit [DoubleArithmetic D] in
theorem charged_latchFault (port : SerialPort τ ε) {bus : St3215Bus D τ}
    {index : ℕ} (hcursor : bus.cursor = index) (flags : BitVec 32)
    (nowNs : ℤ) : Charged (bus.latchFault port index flags nowNs) := by
  subst hcursor
  refine ⟨fun hunlatched => ?_, fun _ => ?_⟩
  · exact absurd hunlatched (by simp [St3215Bus.latchFault])
  · exact markedStale_latchFault port bus bus.cursor flags nowNs

/-- Staging leaves the latch and all feedback. -/
structure SameFaults (before after : St3215Bus D τ) : Prop where
  faultLatched : after.faultLatched = before.faultLatched
  dispatched : after.dispatched = before.dispatched
  cursor : after.cursor = before.cursor
  pendingIndex : after.pendingIndex = before.pendingIndex
  feedback : ∀ servo, (after.servos servo).servo.latestFeedback =
    (before.servos servo).servo.latestFeedback

theorem sameFaults_stage (bus : St3215Bus D τ) (input : StageInput D) :
    SameFaults bus (bus.stage input) := by
  unfold St3215Bus.stage
  split
  · refine ⟨rfl, rfl, rfl, rfl, fun servo => ?_⟩
    by_cases hservo : servo = input.servo
    · subst hservo
      rw [St3215Bus.setServo_self]
      exact (stage_servo (bus.servos input.servo) input.command
        input.nowNs).2
    · rw [St3215Bus.setServo_of_ne _ _ _ hservo]
  · exact ⟨rfl, rfl, rfl, rfl, fun _ => rfl⟩

theorem sameFaults_stages (bus : St3215Bus D τ)
    (inputs : List (StageInput D)) :
    SameFaults bus (inputs.foldl St3215Bus.stage bus) := by
  induction inputs generalizing bus with
  | nil => exact ⟨rfl, rfl, rfl, rfl, fun _ => rfl⟩
  | cons input rest ih =>
      have hfirst := sameFaults_stage bus input
      have hrest := ih (bus.stage input)
      exact ⟨hrest.faultLatched.trans hfirst.faultLatched,
        hrest.dispatched.trans hfirst.dispatched,
        hrest.cursor.trans hfirst.cursor,
        hrest.pendingIndex.trans hfirst.pendingIndex,
        fun servo => (hrest.feedback servo).trans (hfirst.feedback servo)⟩

omit [DoubleArithmetic D] in
theorem SameFaults.charged {before after : St3215Bus D τ}
    (hsame : SameFaults before after) (hcharged : Charged before) :
    Charged after := by
  refine ⟨?_, ?_⟩
  · rw [hsame.faultLatched, hsame.dispatched, hsame.cursor, hsame.pendingIndex]
    exact hcharged.pending
  · rw [hsame.faultLatched, hsame.cursor]
    unfold MarkedStale
    rw [hsame.feedback]
    exact hcharged.stale

omit [DoubleArithmetic D] in
theorem charged_settleResponse (port : SerialPort τ ε) (bus : St3215Bus D τ)
    (hunlatched : bus.faultLatched = false)
    (hpending : bus.cursor = bus.pendingIndex)
    (response : CallResult (St3215ServoFeedback D)) (nowNs : ℤ) :
    Charged (bus.settleResponse port bus.pendingIndex response nowNs).1 := by
  have hkept : ∀ after : St3215Bus D τ, after.faultLatched = false →
      after.cursor = after.pendingIndex → Charged after := by
    intro after hafter hcursor
    refine ⟨fun _ _ => hcursor, fun hlatched => ?_⟩
    rw [hafter] at hlatched
    exact absurd hlatched Bool.false_ne_true
  cases response with
  | value feedback => exact hkept _ hunlatched hpending
  | exception => exact hkept _ hunlatched hpending
  | failure error =>
      unfold St3215Bus.settleResponse
      simp only
      split
      · exact charged_latchFault port hpending _ nowNs
      · split
        · exact charged_latchFault port hpending _ nowNs
        · exact hkept _ hunlatched hpending

theorem charged_dispatchRequest (port : SerialPort τ ε)
    {bus : St3215Bus D τ} (hunlatched : bus.faultLatched = false)
    (nowNs : ℤ) (environment : ε) :
    (bus.dispatchRequest port bus.cursor nowNs environment).1.cursor =
        bus.cursor ∧
      ((bus.dispatchRequest port bus.cursor nowNs
          environment).1.faultLatched = true →
        MarkedStale ((bus.dispatchRequest port bus.cursor nowNs
          environment).1.servos bus.cursor)) := by
  unfold St3215Bus.dispatchRequest
  cases hrequest : (bus.servos bus.cursor).request with
  | error error =>
      exact ⟨rfl, fun _ => markedStale_latchFault port bus bus.cursor _ nowNs⟩
  | ok result =>
      obtain ⟨runtime, request, goal⟩ := result
      simp only
      split
      · refine ⟨rfl, fun hlatched => ?_⟩
        exact absurd (hunlatched.symm.trans hlatched) Bool.false_ne_true
      · exact ⟨rfl, fun _ => markedStale_latchFault port _ bus.cursor _ nowNs⟩
      · refine ⟨rfl, fun hlatched => ?_⟩
        exact absurd (hunlatched.symm.trans hlatched) Bool.false_ne_true

theorem charged_dispatchPhase (port : SerialPort τ ε) {bus : St3215Bus D τ}
    (hunlatched : bus.faultLatched = false) (input : BusCycle D ε) :
    Charged (bus.dispatchPhase port input).1 := by
  unfold St3215Bus.dispatchPhase
  simp only
  generalize (if bus.dispatched then (bus.pendingIndex + 1) % bus.servoCount
    else 0) = cursor
  generalize hrefreshed : ({ bus with cursor := cursor } :
    St3215Bus D τ).setServo cursor _ = refreshed
  have hcursor : refreshed.cursor = cursor := by
    rw [← hrefreshed]
    rfl
  have hfree : refreshed.faultLatched = false := by
    rw [← hrefreshed]
    exact hunlatched
  obtain ⟨hkept, hstale⟩ := charged_dispatchRequest port hfree input.nowNs
    input.environment
  rw [hcursor] at hkept hstale
  split
  · exact charged_latchFault port rfl _ input.nowNs
  · refine ⟨fun _ _ => hkept, fun hlatched => ?_⟩
    show MarkedStale _
    simp only [hkept]
    exact hstale hlatched

theorem charged_pollPhase (port : SerialPort τ ε) (bus : St3215Bus D τ)
    (hcharged : Charged bus) (hunlatched : bus.faultLatched = false)
    (input : BusCycle D ε) : Charged (bus.pollPhase port input).1 := by
  unfold St3215Bus.pollPhase
  split
  · rename_i hdispatched
    have hpending := hcharged.pending hunlatched hdispatched
    unfold St3215Bus.pollResponse
    simp only
    generalize ((bus.servos bus.pendingIndex).refreshStaged input.pollReadable
      input.nowNs).consumeResponse port bus.transport input.nowNs = consumed
    exact charged_settleResponse port
      ((bus.setServo bus.pendingIndex consumed.2.1).setTransport consumed.1)
      hunlatched hpending consumed.2.2 input.nowNs
  · exact hcharged

theorem Charged.cycle (port : SerialPort τ ε) {bus : St3215Bus D τ}
    (hcharged : Charged bus) (input : BusCycle D ε) :
    Charged (bus.cycle port input).1 := by
  unfold St3215Bus.cycle
  split
  · exact (sameFaults_stages bus input.staged).charged hcharged
  simp only
  split
  · exact (sameFaults_stages _ input.staged).charged
      (charged_latchFault port rfl _ input.nowNs)
  rename_i hunlatched
  rw [Bool.not_eq_true] at hunlatched
  have hpolled := charged_pollPhase port
    { bus with cycleSequence := bus.cycleSequence + 1 }
    ⟨hcharged.pending, hcharged.stale⟩ hunlatched input
  have hstaged := (sameFaults_stages _ input.staged).charged hpolled
  split
  · exact charged_latchFault port rfl _ input.nowNs
  split
  · exact hstaged
  · rename_i hfree
    rw [Bool.not_eq_true] at hfree
    exact charged_dispatchPhase port hfree input

/-! ## Steps of a bus -/

def BusInput.AtTime (nowNs : ℤ) : BusInput D ε → Prop
  | .cycle input => input.nowNs = nowNs
  | _ => True

omit [DoubleArithmetic D] in
theorem sameFaults_start (port : SerialPort τ ε) (bus : St3215Bus D τ)
    (nowNs : ℤ) (permitted : Bool) :
    SameFaults bus (bus.start port nowNs permitted) ∧
      (bus.start port nowNs permitted).servos = bus.servos := by
  unfold St3215Bus.start
  split
  · exact ⟨⟨rfl, rfl, rfl, rfl, fun _ => rfl⟩, rfl⟩
  · simp only
    split
    · exact ⟨⟨rfl, rfl, rfl, rfl, fun _ => rfl⟩, rfl⟩
    · exact ⟨⟨rfl, rfl, rfl, rfl, fun _ => rfl⟩, rfl⟩

omit [DoubleArithmetic D] in
theorem sameFaults_stop (port : SerialPort τ ε) (bus : St3215Bus D τ) :
    SameFaults bus (bus.stop port) ∧ (bus.stop port).servos = bus.servos := by
  unfold St3215Bus.stop
  split
  · exact ⟨⟨rfl, rfl, rfl, rfl, fun _ => rfl⟩, rfl⟩
  · exact ⟨⟨rfl, rfl, rfl, rfl, fun _ => rfl⟩, rfl⟩

theorem Charged.step (port : SerialPort τ ε) {bus : St3215Bus D τ}
    (hcharged : Charged bus) (input : BusInput D ε) :
    Charged ((busMachine port).step bus input).1 := by
  cases input with
  | stage input => exact (sameFaults_stage bus input).charged hcharged
  | start nowNs permitted =>
      exact (sameFaults_start port bus nowNs permitted).1.charged hcharged
  | stop => exact (sameFaults_stop port bus).1.charged hcharged
  | cycle input => exact hcharged.cycle port input

theorem ServoChanges.step {port : SerialPort τ ε} {nowNs : ℤ}
    {Moves : ServoRuntime D → ServoRuntime D → Prop}
    (hmoves : ServoChanges port nowNs Moves) (bus : St3215Bus D τ)
    {input : BusInput D ε} (htime : input.AtTime nowNs) (servo : ℕ) :
    Moves (bus.servos servo)
      (((busMachine port).step bus input).1.servos servo) := by
  cases input with
  | stage input => exact hmoves.stages bus [input] servo
  | start atNs permitted =>
      show Moves _ ((bus.start port atNs permitted).servos servo)
      rw [(sameFaults_start port bus atNs permitted).2]
      exact hmoves.refl _
  | stop =>
      show Moves _ ((bus.stop port).servos servo)
      rw [(sameFaults_stop port bus).2]
      exact hmoves.refl _
  | cycle input => exact hmoves.cycle bus input htime servo

theorem published_step (port : SerialPort τ ε) (bus : St3215Bus D τ)
    {input : BusInput D ε} {nowNs : ℤ} (htime : input.AtTime nowNs)
    (servo : ℕ) :
    Published nowNs (bus.servos servo)
      (((busMachine port).step bus input).1.servos servo) :=
  (published_moves port nowNs).changes.step bus htime servo

/-- A latched bus keeps its latch, its cursor and what its other servos last
published. -/
structure Frozen (before after : St3215Bus D τ) : Prop where
  faultLatched : after.faultLatched = true
  cursor : after.cursor = before.cursor
  feedback : ∀ servo, servo ≠ before.cursor →
    (after.servos servo).servo.latestFeedback =
      (before.servos servo).servo.latestFeedback

omit [DoubleArithmetic D] in
theorem SameFaults.frozen {before after : St3215Bus D τ}
    (hsame : SameFaults before after)
    (hlatched : before.faultLatched = true) : Frozen before after :=
  ⟨hsame.faultLatched.trans hlatched, hsame.cursor,
    fun servo _ => hsame.feedback servo⟩

omit [DoubleArithmetic D] in
theorem Frozen.trans {first second third : St3215Bus D τ}
    (hfirst : Frozen first second) (hsecond : Frozen second third) :
    Frozen first third := by
  refine ⟨hsecond.faultLatched, hsecond.cursor.trans hfirst.cursor, ?_⟩
  intro servo hservo
  rw [hsecond.feedback servo (by rw [hfirst.cursor]; exact hservo)]
  exact hfirst.feedback servo hservo

theorem frozen_cycle (port : SerialPort τ ε) {bus : St3215Bus D τ}
    (hlatched : bus.faultLatched = true) (input : BusCycle D ε) :
    Frozen bus (bus.cycle port input).1 := by
  unfold St3215Bus.cycle
  split
  · exact (sameFaults_stages bus input.staged).frozen hlatched
  · simp only [hlatched]
    refine Frozen.trans ?_ ((sameFaults_stages _ input.staged).frozen rfl)
    refine ⟨rfl, rfl, fun servo hservo => ?_⟩
    unfold St3215Bus.latchFault
    simp only [Function.update_of_ne hservo]

theorem frozen_step (port : SerialPort τ ε) {bus : St3215Bus D τ}
    (hlatched : bus.faultLatched = true) (input : BusInput D ε) :
    Frozen bus ((busMachine port).step bus input).1 := by
  cases input with
  | stage input => exact (sameFaults_stage bus input).frozen hlatched
  | start nowNs permitted =>
      exact (sameFaults_start port bus nowNs permitted).1.frozen hlatched
  | stop => exact (sameFaults_stop port bus).1.frozen hlatched
  | cycle input => exact frozen_cycle port hlatched input

end PolicyRuntime
