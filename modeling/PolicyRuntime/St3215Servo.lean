import PolicyRuntime.Messages

/-!
# ST3215 servos

A servo keeps the last accepted command and publishes it, numbered, to the bus
which drives it.  Commands enter through a gate which is tried, never waited
for.
-/

namespace PolicyRuntime

open FloatingPoint

structure St3215ServoConfig where
  name : String
  deviceId : UInt8
  maxPositionUnits : UInt16
  speedUnits : UInt16
  timeUnits : UInt16
  /-- milliseconds -/
  feedbackTimeout : ℤ
  /-- nanoseconds -/
  commandTimeout : ℤ
  /-- nanoseconds -/
  maximumCommandFuture : ℤ
  deriving DecidableEq

structure St3215ServoCommand (D : Type) where
  sequence : ℕ
  timestampNs : ℤ
  targetPositionRad : D
  enabled : Bool
  emergencyStop : Bool
  reserved : BitVec 48

structure St3215ServoFeedback (D : Type) where
  feedbackSequence : ℕ
  commandSequence : ℕ
  timestampNs : ℤ
  positionRad : D
  rawPosition : ℕ
  flags : BitVec 32
  transportHealth : ℕ
  statusError : ℕ
  timeoutCount : ℕ
  ioErrorCount : ℕ

def kSt3215FeedbackValid : BitVec 32 := 1#32 <<< 0
def kSt3215FeedbackStale : BitVec 32 := 1#32 <<< 1
def kSt3215FeedbackTimeout : BitVec 32 := 1#32 <<< 2
def kSt3215FeedbackIo : BitVec 32 := 1#32 <<< 3
def kSt3215FeedbackProtocol : BitVec 32 := 1#32 <<< 4
def kSt3215FeedbackDeviceError : BitVec 32 := 1#32 <<< 5
def kSt3215FeedbackDisabled : BitVec 32 := 1#32 <<< 6

structure St3215StagedCommand (D : Type) where
  publication : ℕ
  command : St3215ServoCommand D

/-- `commands` and `latestFeedback` are the published snapshots. -/
structure St3215Servo (D : Type) where
  config : St3215ServoConfig
  commands : Option (St3215StagedCommand D)
  latestFeedback : St3215ServoFeedback D
  commandGate : Bool
  nextPublication : ℕ
  lastCommandSequence : ℕ
  lastCommandTimestampNs : ℤ
  lastCommand : St3215ServoCommand D
  hasCommand : Bool

inductive St3215CommandAcceptance
  | accepted
  | duplicate
  | rejected
  deriving DecidableEq, Repr

variable {D : Type} [FloatingPoint D]

/-- A value-initialized command. -/
def St3215ServoCommand.empty : St3215ServoCommand D where
  sequence := 0
  timestampNs := 0
  targetPositionRad := zero
  enabled := false
  emergencyStop := false
  reserved := 0

/-- A value-initialized feedback, which is stale. -/
def St3215ServoFeedback.empty : St3215ServoFeedback D where
  feedbackSequence := 0
  commandSequence := 0
  timestampNs := 0
  positionRad := zero
  rawPosition := 0
  flags := kSt3215FeedbackStale
  transportHealth := 0
  statusError := 0
  timeoutCount := 0
  ioErrorCount := 0

def sameCommand (left right : St3215ServoCommand D) : Bool :=
  left.sequence = right.sequence && left.timestampNs = right.timestampNs &&
    eq left.targetPositionRad right.targetPositionRad &&
    left.enabled = right.enabled &&
    left.emergencyStop = right.emergencyStop &&
    left.reserved = right.reserved

namespace St3215Servo

def create (config : St3215ServoConfig) : St3215Servo D where
  config := config
  commands := none
  latestFeedback := .empty
  commandGate := false
  nextPublication := 0
  lastCommandSequence := 0
  lastCommandTimestampNs := 0
  lastCommand := .empty
  hasCommand := false

def inspectCommand (servo : St3215Servo D) (command : St3215ServoCommand D)
    (nowNs : ℤ) : St3215CommandAcceptance :=
  if command.timestampNs < 0 || !isfinite command.targetPositionRad ||
      command.reserved ≠ 0 then
    .rejected
  else if 0 < servo.config.commandTimeout &&
      (nowNs + servo.config.maximumCommandFuture < command.timestampNs ||
        servo.config.commandTimeout < nowNs - command.timestampNs) then
    .rejected
  else if servo.hasCommand && (command.sequence < servo.lastCommandSequence ||
      command.timestampNs < servo.lastCommandTimestampNs) then
    .rejected
  else if servo.hasCommand && command.sequence = servo.lastCommandSequence then
    if sameCommand command servo.lastCommand then .duplicate else .rejected
  else
    .accepted

def commitCommand (servo : St3215Servo D) (command : St3215ServoCommand D) :
    St3215Servo D :=
  { servo with
    lastCommand := command
    lastCommandSequence := command.sequence
    lastCommandTimestampNs := command.timestampNs
    hasCommand := true
    nextPublication := servo.nextPublication + 1
    commands := some ⟨servo.nextPublication + 1, command⟩ }

/-- `test_and_set` of the gate. -/
def tryLockCommand (servo : St3215Servo D) : St3215Servo D × Bool :=
  ({ servo with commandGate := true }, !servo.commandGate)

def unlockCommand (servo : St3215Servo D) : St3215Servo D :=
  { servo with commandGate := false }

/-- A call of `stage_command` which nothing interrupts. -/
def stageCommand (servo : St3215Servo D) (command : St3215ServoCommand D)
    (nowNs : ℤ) : St3215Servo D × St3215CommandAcceptance :=
  let (locked, free) := servo.tryLockCommand
  if !free then
    (locked, .rejected)
  else
    let acceptance := locked.inspectCommand command nowNs
    let committed :=
      if acceptance = .accepted then locked.commitCommand command else locked
    (committed.unlockCommand, acceptance)

/-- The published feedback, marked stale when it is too old.  A time of zero
asks for the value as it is. -/
def feedback (servo : St3215Servo D) (nowNs : ℤ) : St3215ServoFeedback D :=
  let value := servo.latestFeedback
  if 0 < nowNs && 0 < servo.config.feedbackTimeout &&
      (value.timestampNs ≤ 0 || nowNs < value.timestampNs ||
        servo.config.feedbackTimeout * 1000000 <
          nowNs - value.timestampNs) then
    { value with
      flags := (value.flags ||| kSt3215FeedbackStale) &&&
        ~~~kSt3215FeedbackValid }
  else
    value

/-- The staged command, unless it is the one consumed last.  The bounded read of
the snapshot may fail. -/
def readStaged (servo : St3215Servo D) (readable : Bool)
    (consumedPublication : ℕ) : Option (St3215StagedCommand D) :=
  match servo.commands with
  | none => none
  | some staged =>
      if !readable || staged.publication = consumedPublication then none
      else some staged

def publishFeedback (servo : St3215Servo D)
    (feedback : St3215ServoFeedback D) : St3215Servo D :=
  { servo with latestFeedback := feedback }

theorem isfinite_of_accepted
    {servo : St3215Servo D} {command : St3215ServoCommand D} {nowNs : ℤ}
    (haccepted : servo.inspectCommand command nowNs = .accepted) :
    isfinite command.targetPositionRad = true := by
  unfold inspectCommand at haccepted
  split at haccepted
  · cases haccepted
  · rename_i hvalid
    simp only [Bool.or_eq_true, Bool.not_eq_true', not_or,
      Bool.not_eq_false] at hvalid
    exact hvalid.1.2

/-- An accepted command is newer than the last one. -/
theorem lt_of_accepted
    {servo : St3215Servo D} {command : St3215ServoCommand D} {nowNs : ℤ}
    (hhas : servo.hasCommand = true)
    (haccepted : servo.inspectCommand command nowNs = .accepted) :
    servo.lastCommandSequence < command.sequence ∧
      servo.lastCommandTimestampNs ≤ command.timestampNs := by
  unfold inspectCommand at haccepted
  split at haccepted
  · cases haccepted
  split at haccepted
  · cases haccepted
  split at haccepted
  · cases haccepted
  rename_i horder
  split at haccepted
  · split at haccepted <;> cases haccepted
  rename_i hnew
  simp only [hhas, Bool.true_and, Bool.or_eq_true, decide_eq_true_eq,
    not_or, not_lt] at horder hnew
  exact ⟨lt_of_le_of_ne horder.1 (Ne.symm hnew), horder.2⟩

end St3215Servo

end PolicyRuntime
