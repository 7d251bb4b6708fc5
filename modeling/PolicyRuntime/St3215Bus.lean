import PolicyRuntime.Machine
import PolicyRuntime.St3215Protocol
import PolicyRuntime.St3215Servo

/-!
# Shared ST3215 buses

A bus serves its servos in turn.  A cycle polls the answer to the request of the
cycle before, sends the next servo one request and runs the transport once.  The
first failure latches the bus.

The transport is a parameter with its own state; every call to it may change the
state, and its cycles also read an environment.
-/

namespace PolicyRuntime

open FloatingPoint DoubleArithmetic

inductive TransportHealth
  | healthy
  | degraded
  | failed
  deriving DecidableEq, Repr

def TransportHealth.value : TransportHealth → ℕ
  | .healthy => 0
  | .degraded => 1
  | .failed => 2

/-- How a call which may throw returns. -/
inductive CallResult (α : Type)
  | value (result : α)
  | failure (error : Error)
  | exception

/-- The virtual functions of a serial transport which a bus calls. -/
structure SerialPort (τ ε : Type) where
  openPort : τ → τ × Bool
  closePort : τ → τ
  read : τ → τ × CallResult Bytes
  write : τ → Bytes → τ × CallResult Unit
  cycle : τ → ε → τ
  health : τ → TransportHealth
  timeoutCount : τ → ℕ
  ioErrorCount : τ → ℕ

structure ServoRuntime (D : Type) where
  servo : St3215Servo D
  consumedPublication : ℕ
  feedbackSequence : ℕ
  goalSequence : ℕ
  goalDispatched : Bool
  lastResponseNs : ℤ
  command : St3215ServoCommand D
  hasCommand : Bool
  commandTimedOut : Bool

/-- The servos are those below `servoCount`. -/
structure St3215Bus (D τ : Type) where
  transport : τ
  servoCount : ℕ
  servos : ℕ → ServoRuntime D
  running : Bool
  storedHealth : TransportHealth
  cycleSequence : ℕ
  cursor : ℕ
  pendingIndex : ℕ
  dispatched : Bool
  startedNs : ℤ
  faultLatched : Bool

structure StageInput (D : Type) where
  servo : ℕ
  command : St3215ServoCommand D
  nowNs : ℤ

/-- What a cycle meets: the time, whether the bounded reads of the two command
snapshots succeed, what producers stage between these reads, and the
environment of the transport. -/
structure BusCycle (D ε : Type) where
  nowNs : ℤ
  pollReadable : Bool
  staged : List (StageInput D)
  dispatchReadable : Bool
  environment : ε

inductive BusInput (D ε : Type)
  | stage (input : StageInput D)
  | start (nowNs : ℤ) (permitted : Bool)
  | stop
  | cycle (input : BusCycle D ε)

/-- A transport call of a cycle.  A write of a goal names the sequence of its
command. -/
inductive BusEvent
  | write (servo : ℕ) (request : Bytes) (goal : Option ℕ)
  | transportCycle
  deriving DecidableEq, Repr

def errorFlag : ErrorCode → BitVec 32
  | .timeout => kSt3215FeedbackTimeout
  | .protocol => kSt3215FeedbackProtocol
  | .invalidArgument => kSt3215FeedbackProtocol
  | .io => kSt3215FeedbackIo
  | .unavailable => kSt3215FeedbackIo
  | .internal => kSt3215FeedbackIo

variable {D τ ε : Type}

/-! ## One servo of a bus -/

namespace ServoRuntime

def create [FloatingPoint D] (servo : St3215Servo D) : ServoRuntime D where
  servo := servo
  consumedPublication := 0
  feedbackSequence := 0
  goalSequence := 0
  goalDispatched := false
  lastResponseNs := 0
  command := .empty
  hasCommand := false
  commandTimedOut := false

def takeStaged (runtime : ServoRuntime D) (readable : Bool) :
    ServoRuntime D :=
  match runtime.servo.readStaged readable runtime.consumedPublication with
  | none => runtime
  | some staged =>
      { runtime with
        consumedPublication := staged.publication
        command := staged.command
        hasCommand := true
        commandTimedOut := false }

def expireCommand (runtime : ServoRuntime D) (nowNs : ℤ) : ServoRuntime D :=
  if runtime.hasCommand && 0 < runtime.servo.config.commandTimeout &&
      (nowNs < runtime.command.timestampNs ||
        runtime.servo.config.commandTimeout <
          nowNs - runtime.command.timestampNs) then
    { runtime with
      hasCommand := false
      command := { runtime.command with enabled := false }
      commandTimedOut := true }
  else
    runtime

def refreshStaged (runtime : ServoRuntime D) (readable : Bool) (nowNs : ℤ) :
    ServoRuntime D :=
  (runtime.takeStaged readable).expireCommand nowNs

def commandActive (runtime : ServoRuntime D) : Bool :=
  runtime.hasCommand && runtime.command.enabled &&
    !runtime.command.emergencyStop

/-- A command sequence is written to the device once. -/
def sendGoal (runtime : ServoRuntime D) : Bool :=
  runtime.commandActive &&
    (!runtime.goalDispatched ||
      runtime.goalSequence ≠ runtime.command.sequence)

def markGoal (runtime : ServoRuntime D) : ServoRuntime D :=
  { runtime with
    goalDispatched := true
    goalSequence := runtime.command.sequence }

def publishFeedback (runtime : ServoRuntime D)
    (feedback : St3215ServoFeedback D) : ServoRuntime D :=
  { runtime with servo := runtime.servo.publishFeedback feedback }

def commandSequence (runtime : ServoRuntime D) : ℕ :=
  if runtime.hasCommand then runtime.command.sequence else 0

/-- `failed_feedback` with the increment of the feedback sequence it makes. -/
def failedFeedback (port : SerialPort τ ε) (transport : τ)
    (runtime : ServoRuntime D) (flags : BitVec 32) (nowNs : ℤ) :
    ServoRuntime D × St3215ServoFeedback D :=
  let counted :=
    { runtime with feedbackSequence := runtime.feedbackSequence + 1 }
  let current := runtime.servo.feedback 0
  (counted,
    { current with
      feedbackSequence := counted.feedbackSequence
      commandSequence := runtime.commandSequence
      timestampNs := nowNs
      flags := (current.flags &&& ~~~kSt3215FeedbackValid) |||
        (kSt3215FeedbackStale ||| flags)
      transportHealth := (port.health transport).value
      timeoutCount := port.timeoutCount transport
      ioErrorCount := port.ioErrorCount transport })

def publishFailure (port : SerialPort τ ε) (transport : τ)
    (runtime : ServoRuntime D) (flags : BitVec 32) (nowNs : ℤ) :
    ServoRuntime D :=
  let (counted, feedback) := runtime.failedFeedback port transport flags nowNs
  counted.publishFeedback feedback

end ServoRuntime

variable [DoubleArithmetic D]

/-- The position of a status with parameters; an empty one acknowledges a
write. -/
def applyPosition (config : St3215ServoConfig) (status : St3215Status)
    (feedback : St3215ServoFeedback D) :
    CallResult (St3215ServoFeedback D) :=
  if status.error = 0 ∧ 2 ≤ status.parameters.length then
    match readSt3215U16Le status.parameters with
    | .error error => .failure error
    | .ok raw =>
        match positionUnitsToRadians raw config.maxPositionUnits with
        | .error error => .failure error
        | .ok radians =>
            .value { feedback with
              rawPosition := raw.toNat
              positionRad := radians }
  else
    .value feedback

/-- What `consume_response` makes of a frame which was read. -/
def ServoRuntime.responseFeedback (port : SerialPort τ ε) (transport : τ)
    (runtime : ServoRuntime D) (response : Bytes) (nowNs : ℤ) :
    ServoRuntime D × CallResult (St3215ServoFeedback D) :=
  match St3215Protocol.parseStatus response with
  | .error error => (runtime, .failure error)
  | .ok status =>
      if status.deviceId ≠ runtime.servo.config.deviceId then
        (runtime, .failure
          ⟨.protocol, "ST3215 response device ID does not match request"⟩)
      else
        let counted :=
          { runtime with feedbackSequence := runtime.feedbackSequence + 1 }
        let feedback : St3215ServoFeedback D :=
          { runtime.servo.feedback 0 with
            feedbackSequence := counted.feedbackSequence
            commandSequence := runtime.commandSequence
            timestampNs := nowNs
            statusError := status.error.toNat
            transportHealth := (port.health transport).value
            flags :=
              if status.error = 0 then kSt3215FeedbackValid
              else kSt3215FeedbackStale ||| kSt3215FeedbackDeviceError
            timeoutCount := port.timeoutCount transport
            ioErrorCount := port.ioErrorCount transport }
        (counted, applyPosition runtime.servo.config status feedback)

def ServoRuntime.consumeResponse (port : SerialPort τ ε) (transport : τ)
    (runtime : ServoRuntime D) (nowNs : ℤ) :
    τ × ServoRuntime D × CallResult (St3215ServoFeedback D) :=
  match port.read transport with
  | (after, .exception) => (after, runtime, .exception)
  | (after, .failure error) => (after, runtime, .failure error)
  | (after, .value response) =>
      (after, runtime.responseFeedback port after response nowNs)

/-- A response as it is published: a timed out command and a servo without an
active command show in the flags. -/
def ServoRuntime.acceptResponse (runtime : ServoRuntime D)
    (feedback : St3215ServoFeedback D) (nowNs : ℤ) : ServoRuntime D :=
  let timed : St3215ServoFeedback D :=
    if runtime.commandTimedOut then
      { feedback with
        commandSequence := runtime.command.sequence
        flags := (feedback.flags &&& ~~~kSt3215FeedbackValid) |||
          (kSt3215FeedbackStale ||| kSt3215FeedbackTimeout) }
    else
      feedback
  let flagged : St3215ServoFeedback D :=
    if !runtime.commandActive then
      { timed with flags := timed.flags ||| kSt3215FeedbackDisabled }
    else
      timed
  { runtime with lastResponseNs := nowNs }.publishFeedback flagged

/-- The request to a servo: its frame, and the runtime after the bookkeeping of
a goal. -/
def ServoRuntime.request (runtime : ServoRuntime D) :
    Except Error (ServoRuntime D × Bytes × Option ℕ) :=
  if runtime.sendGoal then
    match radiansToPositionUnits runtime.command.targetPositionRad
        runtime.servo.config.maxPositionUnits with
    | .error error => .error error
    | .ok position =>
        .ok (runtime.markGoal,
          St3215Protocol.goalPositionCommand runtime.servo.config.deviceId
            position runtime.servo.config.timeUnits
            runtime.servo.config.speedUnits,
          some runtime.command.sequence)
  else
    .ok (runtime,
      St3215Protocol.readPresentPositionCommand runtime.servo.config.deviceId,
      none)

/-! ## The bus -/

namespace St3215Bus

omit [DoubleArithmetic D] in
def setServo (bus : St3215Bus D τ) (index : ℕ) (runtime : ServoRuntime D) :
    St3215Bus D τ :=
  { bus with servos := Function.update bus.servos index runtime }

omit [DoubleArithmetic D] in
def setTransport (bus : St3215Bus D τ) (transport : τ) : St3215Bus D τ :=
  { bus with transport := transport }

/-- The fault latch with the feedback of the servo it is charged to. -/
def latchFault (port : SerialPort τ ε) (bus : St3215Bus D τ) (index : ℕ)
    (flags : BitVec 32) (nowNs : ℤ) : St3215Bus D τ :=
  { bus with
    servos := Function.update bus.servos index
      ((bus.servos index).publishFailure port bus.transport flags nowNs)
    faultLatched := true
    storedHealth := port.health bus.transport }

/-- What `poll_response` makes of the result of `consume_response`.  The flag
tells that a call threw. -/
def settleResponse (port : SerialPort τ ε) (bus : St3215Bus D τ) (index : ℕ)
    (response : CallResult (St3215ServoFeedback D)) (nowNs : ℤ) :
    St3215Bus D τ × Bool :=
  match response with
  | .value feedback =>
      (bus.setServo index ((bus.servos index).acceptResponse feedback nowNs),
        false)
  | .exception => (bus, true)
  | .failure error =>
      if error.code ≠ .timeout then
        (bus.latchFault port index (errorFlag error.code) nowNs, false)
      else
        -- Staleness counts from the last response or the start of the bus.
        let reference := max (bus.servos index).lastResponseNs bus.startedNs
        let timeoutNs :=
          (bus.servos index).servo.config.feedbackTimeout * 1000000
        if timeoutNs < nowNs - reference then
          (bus.latchFault port index kSt3215FeedbackTimeout nowNs, false)
        else
          (bus, false)

/-- The answer to the request of the last cycle. -/
def pollResponse (port : SerialPort τ ε) (bus : St3215Bus D τ) (index : ℕ)
    (readable : Bool) (nowNs : ℤ) : St3215Bus D τ × Bool :=
  let refreshed := (bus.servos index).refreshStaged readable nowNs
  let consumed := refreshed.consumeResponse port bus.transport nowNs
  ((bus.setServo index consumed.2.1).setTransport consumed.1).settleResponse
    port index consumed.2.2 nowNs

/-- The next request.  The flag tells that a call threw. -/
def dispatchRequest (port : SerialPort τ ε) (bus : St3215Bus D τ) (index : ℕ)
    (nowNs : ℤ) (environment : ε) :
    St3215Bus D τ × List BusEvent × Bool :=
  match (bus.servos index).request with
  | .error error =>
      (bus.latchFault port index (errorFlag error.code) nowNs, [], false)
  | .ok (runtime, request, goal) =>
      let marked := bus.setServo index runtime
      let event := BusEvent.write index request goal
      match port.write bus.transport request with
      | (transport, .exception) =>
          (marked.setTransport transport, [event], true)
      | (transport, .failure error) =>
          ((marked.setTransport transport).latchFault port index
            (errorFlag error.code) nowNs, [event], false)
      | (transport, .value _) =>
          (marked.setTransport (port.cycle transport environment),
            [event, .transportCycle], false)

def stage (bus : St3215Bus D τ) (input : StageInput D) : St3215Bus D τ :=
  if input.servo < bus.servoCount then
    bus.setServo input.servo
      { bus.servos input.servo with
        servo := ((bus.servos input.servo).servo.stageCommand input.command
          input.nowNs).1 }
  else
    bus

/-- The poll of a cycle.  The flag tells that a call threw. -/
def pollPhase (port : SerialPort τ ε) (bus : St3215Bus D τ)
    (input : BusCycle D ε) : St3215Bus D τ × Bool :=
  if bus.dispatched then
    bus.pollResponse port bus.pendingIndex input.pollReadable input.nowNs
  else
    (bus, false)

/-- The request of a cycle.  Without an exception the servo becomes the pending
one; an exception latches the bus. -/
def dispatchPhase (port : SerialPort τ ε) (bus : St3215Bus D τ)
    (input : BusCycle D ε) : St3215Bus D τ × List BusEvent :=
  let cursor :=
    if bus.dispatched then (bus.pendingIndex + 1) % bus.servoCount else 0
  let refreshed := { bus with cursor := cursor }.setServo cursor
    ((bus.servos cursor).refreshStaged input.dispatchReadable input.nowNs)
  let (sent, events, threw) :=
    refreshed.dispatchRequest port cursor input.nowNs input.environment
  if threw then
    (sent.latchFault port sent.cursor kSt3215FeedbackIo input.nowNs, events)
  else
    ({ sent with pendingIndex := cursor, dispatched := true }, events)

def cycle (port : SerialPort τ ε) (bus : St3215Bus D τ)
    (input : BusCycle D ε) : St3215Bus D τ × List BusEvent :=
  if !bus.running || bus.servoCount = 0 then
    (input.staged.foldl stage bus, [])
  else
    let counted := { bus with cycleSequence := bus.cycleSequence + 1 }
    if bus.faultLatched then
      (input.staged.foldl stage
        (counted.latchFault port bus.cursor kSt3215FeedbackIo input.nowNs), [])
    else
      let (polled, threw) := counted.pollPhase port input
      let staged := input.staged.foldl stage polled
      if threw then
        (staged.latchFault port staged.cursor kSt3215FeedbackIo input.nowNs, [])
      else if staged.faultLatched then
        (staged, [])
      else
        staged.dispatchPhase port input

/-- `permitted` is the outcome of the checks of the service period, of the
snapshots and of the scheduler. -/
def start (port : SerialPort τ ε) (bus : St3215Bus D τ) (nowNs : ℤ)
    (permitted : Bool) : St3215Bus D τ :=
  if bus.running || bus.servoCount = 0 || !permitted then
    bus
  else
    let (transport, opened) := port.openPort bus.transport
    if opened then
      { bus with
        transport := transport
        storedHealth := .healthy
        startedNs := nowNs
        running := true }
    else
      { bus with transport := transport }

def stop (port : SerialPort τ ε) (bus : St3215Bus D τ) : St3215Bus D τ :=
  if bus.running then
    { bus with
      transport := port.closePort bus.transport
      running := false
      storedHealth := .failed }
  else
    bus

omit [DoubleArithmetic D] in
def health (bus : St3215Bus D τ) : TransportHealth :=
  if bus.faultLatched then .failed else bus.storedHealth

/-- A bus to which the servos were added. -/
def create (transport : τ) (servos : List St3215ServoConfig) :
    St3215Bus D τ where
  transport := transport
  servoCount := servos.length
  servos := fun index =>
    .create (.create (servos.getD index ⟨"", 0, 0, 0, 0, 0, 0, 0⟩))
  running := false
  storedHealth := .failed
  cycleSequence := 0
  cursor := 0
  pendingIndex := 0
  dispatched := false
  startedNs := 0
  faultLatched := false

section Servos

omit [DoubleArithmetic D]

variable (bus : St3215Bus D τ) (index : ℕ) (runtime : ServoRuntime D)

@[simp] theorem setServo_self :
    (bus.setServo index runtime).servos index = runtime := by
  simp [setServo]

theorem setServo_of_ne {other : ℕ} (hother : other ≠ index) :
    (bus.setServo index runtime).servos other = bus.servos other := by
  simp [setServo, hother]

theorem setServo_setServo (later : ServoRuntime D) :
    (bus.setServo index runtime).setServo index later =
      bus.setServo index later := by
  simp [setServo]

end Servos

end St3215Bus

def busMachine (port : SerialPort τ ε) :
    Machine (St3215Bus D τ) (BusInput D ε) (List BusEvent) where
  step := fun bus input =>
    match input with
    | .stage input => (bus.stage input, [])
    | .start nowNs permitted => (bus.start port nowNs permitted, [])
    | .stop => (bus.stop port, [])
    | .cycle input => bus.cycle port input

end PolicyRuntime
