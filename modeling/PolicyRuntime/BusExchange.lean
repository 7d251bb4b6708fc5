import PolicyRuntime.LatchedBus
import PolicyRuntime.SerialLine

/-!
# The phases of a bus cycle on a serial line

A poll reads one answer of the servo which the bus waits for, or it finds none
yet.  The next request is then written to the line, which answers it.
-/

namespace PolicyRuntime

open FloatingPoint

variable {D τ ε : Type} [DoubleArithmetic D]

/-! ## Requests -/

/-- Every goal of the servo can be sent. -/
structure ServoRuntime.Convertible (runtime : ServoRuntime D) : Prop where
  units : runtime.servo.config.maxPositionUnits ≠ 0
  staged : ∀ staged, runtime.servo.commands = some staged →
    isfinite staged.command.targetPositionRad = true
  command : runtime.hasCommand = true →
    isfinite runtime.command.targetPositionRad = true

namespace ServoRuntime.Convertible

variable {runtime : ServoRuntime D}

theorem create {config : St3215ServoConfig}
    (hunits : config.maxPositionUnits ≠ 0) :
    (ServoRuntime.create (.create config) : ServoRuntime D).Convertible where
  units := hunits
  staged := fun _ hstaged => by cases hstaged
  command := fun hhas => by cases hhas

theorem stage (hruntime : runtime.Convertible)
    (command : St3215ServoCommand D) (nowNs : ℤ) :
    (runtime.stage command nowNs).Convertible := by
  unfold ServoRuntime.stage St3215Servo.stageCommand
    St3215Servo.tryLockCommand
  simp only
  split
  · exact ⟨hruntime.units, hruntime.staged, hruntime.command⟩
  split
  · rename_i haccepted
    refine ⟨hruntime.units, ?_, hruntime.command⟩
    intro staged hstaged
    cases hstaged
    exact St3215Servo.isfinite_of_accepted haccepted
  · exact ⟨hruntime.units, hruntime.staged, hruntime.command⟩

theorem refreshStaged (hruntime : runtime.Convertible) (readable : Bool)
    (nowNs : ℤ) : (runtime.refreshStaged readable nowNs).Convertible := by
  have htaken : (runtime.takeStaged readable).Convertible := by
    rcases runtime.takeStaged_cases readable with hsame | hcases
    · rw [hsame]
      exact hruntime
    · obtain ⟨staged, hcommands, _, htaken⟩ := hcases
      rw [htaken]
      exact ⟨hruntime.units, hruntime.staged,
        fun _ => hruntime.staged staged hcommands⟩
  unfold ServoRuntime.refreshStaged ServoRuntime.expireCommand
  split
  · exact ⟨htaken.units, htaken.staged, fun hhas => by cases hhas⟩
  · exact htaken

theorem consumeResponse (hruntime : runtime.Convertible)
    (port : SerialPort τ ε) (transport : τ) (nowNs : ℤ) :
    (runtime.consumeResponse port transport nowNs).2.1.Convertible := by
  unfold ServoRuntime.consumeResponse
  split
  · exact hruntime
  · exact hruntime
  · unfold ServoRuntime.responseFeedback
    split
    · exact hruntime
    · split
      · exact hruntime
      · exact ⟨hruntime.units, hruntime.staged, hruntime.command⟩

end ServoRuntime.Convertible

theorem convertible_moves (port : SerialPort τ ε) (nowNs : ℤ) :
    ServoMoves port nowNs (fun before after : ServoRuntime D =>
      before.Convertible → after.Convertible) where
  refl := fun _ hruntime => hruntime
  trans := fun hfirst hsecond hruntime => hsecond (hfirst hruntime)
  stage := fun _ command atNs hruntime => hruntime.stage command atNs
  refresh := fun _ readable hruntime => hruntime.refreshStaged readable nowNs
  consume := fun _ transport hruntime =>
    hruntime.consumeResponse port transport nowNs
  accept := fun _ _ _ hruntime =>
    ⟨hruntime.units, hruntime.staged, hruntime.command⟩
  fail := fun _ _ _ hruntime =>
    ⟨hruntime.units, hruntime.staged, hruntime.command⟩
  mark := fun _ hruntime =>
    ⟨hruntime.units, hruntime.staged, hruntime.command⟩

/-- A request which a line can carry to a servo. -/
structure RequestFor (deviceId : UInt8) (request : Bytes) : Prop where
  addressed : request.getD 2 0 = deviceId
  length : 0 < request.length ∧ request.length ≤ 13

theorem requestFor_goal (deviceId : UInt8)
    (positionUnits timeUnits speedUnits : UInt16) :
    RequestFor deviceId (St3215Protocol.goalPositionCommand deviceId
      positionUnits timeUnits speedUnits) := by
  have hlength : (St3215Protocol.goalPositionCommand deviceId positionUnits
      timeUnits speedUnits).length = 13 := rfl
  exact ⟨rfl, by omega, by omega⟩

theorem requestFor_read (deviceId : UInt8) :
    RequestFor deviceId
      (St3215Protocol.readPresentPositionCommand deviceId) := by
  have hlength :
      (St3215Protocol.readPresentPositionCommand deviceId).length = 8 := rfl
  exact ⟨rfl, by omega, by omega⟩

theorem ServoRuntime.Convertible.request {runtime : ServoRuntime D}
    (hruntime : runtime.Convertible) :
    ∃ after request goal, runtime.request = .ok (after, request, goal) ∧
      RequestFor runtime.servo.config.deviceId request ∧
      after.servo = runtime.servo ∧
      after.lastResponseNs = runtime.lastResponseNs := by
  unfold ServoRuntime.request
  split
  · rename_i hsend
    have hhas : runtime.hasCommand = true := by
      unfold ServoRuntime.sendGoal ServoRuntime.commandActive at hsend
      simp only [Bool.and_eq_true] at hsend
      exact hsend.1.1.1
    obtain ⟨units, hunits⟩ := radiansToPositionUnits_ok
      (hruntime.command hhas) hruntime.units
    rw [hunits]
    exact ⟨_, _, _, rfl, requestFor_goal _ _ _ _, rfl, rfl⟩
  · exact ⟨_, _, _, rfl, requestFor_read _, rfl, rfl⟩

/-! ## Answers -/

/-- What an answer with the parameters makes of the feedback before.  An answer
without a position keeps the last one. -/
structure Carries (config : St3215ServoConfig) (parameters : Bytes)
    (before after : St3215ServoFeedback D) : Prop where
  status : after.statusError = 0
  position : 2 ≤ parameters.length →
    ∃ raw, readSt3215U16Le parameters = .ok raw ∧
      after.rawPosition = raw.toNat ∧
      positionUnitsToRadians raw config.maxPositionUnits =
        .ok after.positionRad
  acknowledged : parameters.length < 2 →
    after.rawPosition = before.rawPosition ∧
      after.positionRad = before.positionRad

theorem applyPosition_carries {config : St3215ServoConfig}
    (hunits : config.maxPositionUnits ≠ 0) (deviceId : UInt8)
    (parameters : Bytes) (before feedback : St3215ServoFeedback D)
    (hstatus : feedback.statusError = 0)
    (hraw : feedback.rawPosition = before.rawPosition)
    (hposition : feedback.positionRad = before.positionRad) :
    ∃ after, applyPosition config ⟨deviceId, 0, parameters⟩ feedback =
        .value after ∧ Carries config parameters before after := by
  unfold applyPosition
  by_cases hlength : 2 ≤ parameters.length
  · have hread : readSt3215U16Le parameters =
        .ok ((parameters.getD 0 0).toUInt16 |||
          ((parameters.getD 1 0).toUInt16 <<< 8)) := by
      unfold readSt3215U16Le
      rw [if_neg (not_lt.mpr hlength)]
    generalize (parameters.getD 0 0).toUInt16 |||
      ((parameters.getD 1 0).toUInt16 <<< 8) = raw at hread
    rw [if_pos ⟨rfl, hlength⟩]
    simp only [hread]
    have hradians : ∃ radians : D, positionUnitsToRadians raw
        config.maxPositionUnits = .ok radians := by
      unfold positionUnitsToRadians
      rw [if_neg hunits]
      exact ⟨_, rfl⟩
    obtain ⟨radians, hradians⟩ := hradians
    rw [hradians]
    refine ⟨_, rfl, hstatus, fun _ => ⟨raw, hread, rfl, hradians⟩, ?_⟩
    intro hshort
    omega
  · rw [if_neg (fun hboth => hlength hboth.2)]
    exact ⟨feedback, rfl, hstatus, fun hlong => absurd hlong hlength,
      fun _ => ⟨hraw, hposition⟩⟩

/-- A servo accepts an answer of its own. -/
theorem responseFeedback_carries (port : SerialPort τ ε) (transport : τ)
    {runtime : ServoRuntime D}
    (hunits : runtime.servo.config.maxPositionUnits ≠ 0) {parameters : Bytes}
    (hlength : parameters.length ≤ kSt3215MaximumParameters) (nowNs : ℤ) :
    ∃ after feedback,
      runtime.responseFeedback port transport
          (St3215Protocol.statusPacket runtime.servo.config.deviceId 0
            parameters) nowNs = (after, .value feedback) ∧
        after.servo = runtime.servo ∧
        Carries runtime.servo.config parameters runtime.servo.latestFeedback
          feedback := by
  unfold ServoRuntime.responseFeedback
  rw [St3215Protocol.parseStatus_statusPacket _ _ hlength]
  simp only [ne_eq, not_true_eq_false, if_false]
  have hcarries := applyPosition_carries hunits
    runtime.servo.config.deviceId parameters runtime.servo.latestFeedback
    { runtime.servo.feedback 0 with
      feedbackSequence := runtime.feedbackSequence + 1
      commandSequence := runtime.commandSequence
      timestampNs := nowNs
      statusError := 0
      transportHealth := (port.health transport).value
      flags := kSt3215FeedbackValid
      timeoutCount := port.timeoutCount transport
      ioErrorCount := port.ioErrorCount transport } rfl rfl rfl
  obtain ⟨feedback, hvalue, hcarries⟩ := hcarries
  exact ⟨_, feedback, Prod.ext rfl hvalue, rfl, hcarries⟩

theorem consumeResponse_answered {config : SerialConfig} {line : SerialLine}
    {runtime : ServoRuntime D}
    (hunits : runtime.servo.config.maxPositionUnits ≠ 0) {parameters : Bytes}
    (hfits : AnswerFits config parameters) {outstanding : List Bytes}
    (hline : LineOk config line [St3215Protocol.statusPacket
      runtime.servo.config.deviceId 0 parameters] outstanding) (nowNs : ℤ) :
    ∃ left after feedback,
      runtime.consumeResponse linePort line nowNs =
          (left, after, .value feedback) ∧
        LineOk config left [] outstanding ∧ after.servo = runtime.servo ∧
        Carries runtime.servo.config parameters runtime.servo.latestFeedback
          feedback := by
  have hsize : (St3215Protocol.statusPacket runtime.servo.config.deviceId 0
      parameters).length ≤ kSt3215MaximumFrameSize :=
    (hfits.wellFramed runtime.servo.config.deviceId).stored
  obtain ⟨left, hread, hleft⟩ := hline.read hsize
  obtain ⟨after, feedback, hvalue, hservo, hcarries⟩ :=
    responseFeedback_carries linePort left hunits hfits.count nowNs
  refine ⟨left, after, feedback, ?_, hleft, hservo, hcarries⟩
  unfold ServoRuntime.consumeResponse
  rw [hread]
  simp only [hvalue]

theorem consumeResponse_late {config : SerialConfig} {line : SerialLine}
    {outstanding : List Bytes} (hline : LineOk config line [] outstanding)
    (hlate : line.transport.lastError = .timeout) (runtime : ServoRuntime D)
    (nowNs : ℤ) :
    runtime.consumeResponse linePort line nowNs =
      (line, runtime, .failure ⟨.timeout, "serial response timed out"⟩) := by
  unfold ServoRuntime.consumeResponse
  rw [hline.read_late hlate]

omit [DoubleArithmetic D] in
theorem acceptResponse_position (runtime : ServoRuntime D)
    (feedback : St3215ServoFeedback D) (nowNs : ℤ) :
    ∃ commandSequence flags,
      (runtime.acceptResponse feedback nowNs).servo.latestFeedback =
        { feedback with
          commandSequence := commandSequence
          flags := flags } := by
  unfold ServoRuntime.acceptResponse ServoRuntime.publishFeedback
    St3215Servo.publishFeedback
  simp only
  split <;> split <;> exact ⟨_, _, rfl⟩

theorem Carries.accept {config : St3215ServoConfig} {parameters : Bytes}
    {before feedback : St3215ServoFeedback D}
    (hcarries : Carries config parameters before feedback)
    (runtime : ServoRuntime D) (nowNs : ℤ) :
    Carries config parameters before
      (runtime.acceptResponse feedback nowNs).servo.latestFeedback := by
  obtain ⟨commandSequence, flags, haccepted⟩ :=
    acceptResponse_position runtime feedback nowNs
  rw [haccepted]
  exact ⟨hcarries.status, hcarries.position, hcarries.acknowledged⟩

/-! ## The phases of a cycle -/

/-- What a poll and staging leave of a bus. -/
structure SameBus (before after : St3215Bus D τ) : Prop where
  running : after.running = before.running
  servoCount : after.servoCount = before.servoCount
  startedNs : after.startedNs = before.startedNs
  faultLatched : after.faultLatched = before.faultLatched
  dispatched : after.dispatched = before.dispatched
  pendingIndex : after.pendingIndex = before.pendingIndex

omit [DoubleArithmetic D] in
theorem SameBus.trans {first second third : St3215Bus D τ}
    (hfirst : SameBus first second) (hsecond : SameBus second third) :
    SameBus first third :=
  ⟨hsecond.running.trans hfirst.running,
    hsecond.servoCount.trans hfirst.servoCount,
    hsecond.startedNs.trans hfirst.startedNs,
    hsecond.faultLatched.trans hfirst.faultLatched,
    hsecond.dispatched.trans hfirst.dispatched,
    hsecond.pendingIndex.trans hfirst.pendingIndex⟩

/-- The feedback of a servo stays, or it comes from an answer. -/
def FeedbackFrom (Sent : Bytes → Prop) (before after : ServoRuntime D) :
    Prop :=
  after.servo.latestFeedback = before.servo.latestFeedback ∨
    ∃ parameters, Sent parameters ∧ Carries before.servo.config parameters
      before.servo.latestFeedback after.servo.latestFeedback

/-- The answer of the servo which the bus waits for. -/
def St3215Bus.answer (bus : St3215Bus D τ) (parameters : Bytes) : Bytes :=
  St3215Protocol.statusPacket
    (bus.servos bus.pendingIndex).servo.config.deviceId 0 parameters

theorem pollPhase_answered {config : SerialConfig}
    {bus : St3215Bus D SerialLine} (hdispatched : bus.dispatched = true)
    (hunits :
      (bus.servos bus.pendingIndex).servo.config.maxPositionUnits ≠ 0)
    {parameters : Bytes} (hfits : AnswerFits config parameters)
    {outstanding : List Bytes}
    (hline : LineOk config bus.transport [bus.answer parameters] outstanding)
    (input : BusCycle D LineAnswer) :
    ∃ after, bus.pollPhase linePort input = (after, false) ∧
      SameBus bus after ∧ LineOk config after.transport [] outstanding ∧
      (after.servos bus.pendingIndex).lastResponseNs = input.nowNs ∧
      Carries (bus.servos bus.pendingIndex).servo.config parameters
        (bus.servos bus.pendingIndex).servo.latestFeedback
        (after.servos bus.pendingIndex).servo.latestFeedback ∧
      ∀ servo ≠ bus.pendingIndex, after.servos servo = bus.servos servo := by
  unfold St3215Bus.pollPhase
  rw [if_pos hdispatched]
  unfold St3215Bus.pollResponse
  simp only
  have hservo := refreshStaged_servo (bus.servos bus.pendingIndex)
    input.pollReadable input.nowNs
  generalize (bus.servos bus.pendingIndex).refreshStaged input.pollReadable
    input.nowNs = refreshed at hservo ⊢
  rw [← hservo] at hunits
  unfold St3215Bus.answer at hline
  rw [← hservo] at hline ⊢
  obtain ⟨left, counted, feedback, hconsumed, hleft, hkept, hcarries⟩ :=
    consumeResponse_answered hunits hfits hline input.nowNs
  rw [hconsumed]
  refine ⟨_, rfl, ⟨rfl, rfl, rfl, rfl, rfl, rfl⟩, hleft, ?_, ?_, ?_⟩
  · simp [St3215Bus.setTransport, ServoRuntime.acceptResponse,
      ServoRuntime.publishFeedback]
  · rw [St3215Bus.setServo_self]
    exact hcarries.accept _ input.nowNs
  · intro servo hother
    rw [St3215Bus.setServo_of_ne _ _ _ hother]
    exact St3215Bus.setServo_of_ne _ _ _ hother

omit [DoubleArithmetic D] in
theorem refreshStaged_lastResponseNs (runtime : ServoRuntime D)
    (readable : Bool) (nowNs : ℤ) :
    (runtime.refreshStaged readable nowNs).lastResponseNs =
      runtime.lastResponseNs := by
  unfold ServoRuntime.refreshStaged ServoRuntime.expireCommand
    ServoRuntime.takeStaged
  split <;> split <;> rfl

theorem pollPhase_late {config : SerialConfig} {bus : St3215Bus D SerialLine}
    (hdispatched : bus.dispatched = true) {outstanding : List Bytes}
    (hline : LineOk config bus.transport [] outstanding)
    (hlate : bus.transport.transport.lastError = .timeout)
    (input : BusCycle D LineAnswer)
    (hrecent : input.nowNs - max
        (bus.servos bus.pendingIndex).lastResponseNs bus.startedNs ≤
      (bus.servos bus.pendingIndex).servo.config.feedbackTimeout *
        1000000) :
    ∃ after, bus.pollPhase linePort input = (after, false) ∧
      SameBus bus after ∧ after.transport = bus.transport ∧
      ∀ servo, (after.servos servo).servo = (bus.servos servo).servo := by
  unfold St3215Bus.pollPhase
  rw [if_pos hdispatched]
  unfold St3215Bus.pollResponse
  simp only
  have hservo := refreshStaged_servo (bus.servos bus.pendingIndex)
    input.pollReadable input.nowNs
  have hresponse := refreshStaged_lastResponseNs
    (bus.servos bus.pendingIndex) input.pollReadable input.nowNs
  generalize (bus.servos bus.pendingIndex).refreshStaged input.pollReadable
    input.nowNs = refreshed at hservo hresponse ⊢
  rw [consumeResponse_late hline hlate]
  unfold St3215Bus.settleResponse
  simp only [ne_eq, not_true_eq_false, if_false]
  rw [if_neg]
  · refine ⟨_, rfl, ⟨rfl, rfl, rfl, rfl, rfl, rfl⟩, rfl, ?_⟩
    intro servo
    by_cases hpending : servo = bus.pendingIndex
    · rw [hpending, ← hservo]
      exact congrArg ServoRuntime.servo (St3215Bus.setServo_self _ _ _)
    · exact congrArg ServoRuntime.servo
        (St3215Bus.setServo_of_ne _ _ _ hpending)
  · simp only [St3215Bus.setTransport, St3215Bus.setServo_self, hservo,
      hresponse]
    exact not_lt.mpr hrecent

theorem sameBus_stages (bus : St3215Bus D τ) (inputs : List (StageInput D)) :
    SameBus bus (inputs.foldl St3215Bus.stage bus) ∧
      (inputs.foldl St3215Bus.stage bus).transport = bus.transport ∧
      ∀ servo, ((inputs.foldl St3215Bus.stage bus).servos
        servo).lastResponseNs = (bus.servos servo).lastResponseNs := by
  induction inputs generalizing bus with
  | nil => exact ⟨⟨rfl, rfl, rfl, rfl, rfl, rfl⟩, rfl, fun _ => rfl⟩
  | cons input rest ih =>
      have hfirst : SameBus bus (bus.stage input) ∧
          (bus.stage input).transport = bus.transport ∧
          ∀ servo, ((bus.stage input).servos servo).lastResponseNs =
            (bus.servos servo).lastResponseNs := by
        unfold St3215Bus.stage
        split
        · refine ⟨⟨rfl, rfl, rfl, rfl, rfl, rfl⟩, rfl, fun servo => ?_⟩
          by_cases hservo : servo = input.servo
          · rw [hservo, St3215Bus.setServo_self]
          · rw [St3215Bus.setServo_of_ne _ _ _ hservo]
        · exact ⟨⟨rfl, rfl, rfl, rfl, rfl, rfl⟩, rfl, fun _ => rfl⟩
      have hrest := ih (bus.stage input)
      exact ⟨hfirst.1.trans hrest.1, hrest.2.1.trans hfirst.2.1,
        fun servo => (hrest.2.2 servo).trans (hfirst.2.2 servo)⟩

/-- A convertible request is written, and the line answers it. -/
theorem dispatchPhase_written {config : SerialConfig}
    {bus : St3215Bus D SerialLine} {outstanding : List Bytes}
    (hline : LineOk config bus.transport [] outstanding)
    (hrequest : 13 ≤ config.maximumFrameSize) {cursor : ℕ}
    (hcursor : cursor =
      if bus.dispatched then (bus.pendingIndex + 1) % bus.servoCount else 0)
    (hconvertible : (bus.servos cursor).Convertible)
    (input : BusCycle D LineAnswer) :
    ∃ after events request goal,
      bus.dispatchPhase linePort input = (after, events) ∧
      .write cursor request goal ∈ events ∧
      request.getD 2 0 = (bus.servos cursor).servo.config.deviceId ∧
      after.transport =
        linePort.cycle (bus.transport.queue request) input.environment ∧
      after.running = bus.running ∧ after.servoCount = bus.servoCount ∧
      after.startedNs = bus.startedNs ∧
      after.faultLatched = bus.faultLatched ∧ after.dispatched = true ∧
      after.pendingIndex = cursor ∧
      ∀ servo, (after.servos servo).servo = (bus.servos servo).servo ∧
        (after.servos servo).lastResponseNs =
          (bus.servos servo).lastResponseNs := by
  have hrefreshed := hconvertible.refreshStaged input.dispatchReadable
    input.nowNs
  have hservo := refreshStaged_servo (bus.servos cursor)
    input.dispatchReadable input.nowNs
  have hresponse := refreshStaged_lastResponseNs (bus.servos cursor)
    input.dispatchReadable input.nowNs
  unfold St3215Bus.dispatchPhase
  simp only [← hcursor]
  generalize (bus.servos cursor).refreshStaged input.dispatchReadable
    input.nowNs = refreshed at hrefreshed hservo hresponse ⊢
  obtain ⟨marked, request, goal, hok, hfor, hkept, hnow⟩ := hrefreshed.request
  have hwrite := hline.write request
    (List.ne_nil_of_length_pos hfor.length.1)
    (hfor.length.2.trans hrequest)
    (hfor.length.2.trans (by decide))
  unfold St3215Bus.dispatchRequest
  rw [St3215Bus.setServo_self, hok]
  simp only [St3215Bus.setServo_setServo]
  have htransport : (St3215Bus.setServo { bus with cursor := cursor } cursor
      refreshed).transport = bus.transport := rfl
  rw [htransport, hwrite]
  simp only [Bool.false_eq_true, if_false]
  refine ⟨_, _, request, goal, rfl, by simp, ?_, rfl, rfl, rfl, rfl, rfl, rfl,
    rfl, ?_⟩
  · rw [hfor.addressed, hservo]
  · intro servo
    by_cases hother : servo = cursor
    · subst hother
      simp only [St3215Bus.setTransport, St3215Bus.setServo_self]
      exact ⟨hkept.trans hservo, hnow.trans hresponse⟩
    · simp [St3215Bus.setTransport, St3215Bus.setServo_of_ne _ _ _ hother]

theorem cycle_of_polled {port : SerialPort τ ε} {bus polled : St3215Bus D τ}
    {input : BusCycle D ε} (hrunning : bus.running = true)
    (hcount : 0 < bus.servoCount) (hfree : bus.faultLatched = false)
    (hpolled : { bus with cycleSequence := bus.cycleSequence + 1 }.pollPhase
      port input = (polled, false))
    (hunlatched : polled.faultLatched = false) :
    bus.cycle port input =
      (input.staged.foldl St3215Bus.stage polled).dispatchPhase port input := by
  have hstaged : (input.staged.foldl St3215Bus.stage polled).faultLatched =
      false := by
    rw [(sameBus_stages polled input.staged).1.faultLatched]
    exact hunlatched
  unfold St3215Bus.cycle
  rw [if_neg (by simp [hrunning]; omega)]
  simp only
  rw [if_neg (by simp [hfree]), hpolled]
  simp only [hstaged, Bool.false_eq_true, if_false]

end PolicyRuntime
