import PolicyRuntime.DamiaoActuator
import PolicyRuntime.Machine
import PolicyRuntime.RobotProfiles

/-!
# The policy host

A host answers one request at a time.  An observation request reads the robot,
runs the policy and publishes its action as commands: first for the axes and
servos, then for the Damiao motors.  Every call outside the host may fail or
throw, and the counters of the commands move behind the last call.
-/

namespace PolicyRuntime

open FloatingPoint

/-! ## JSON values -/

inductive Json (D : Type)
  | null
  | bool (value : Bool)
  | integer (value : ℤ)
  | number (value : D)
  | string (value : String)
  | array (items : List (Json D))
  | object (fields : List (String × Json D))

/-- The members of a JSON object. -/
abbrev Fields (D : Type) := List (String × Json D)

def Fields.set {D : Type} (fields : Fields D) (key : String)
    (value : Json D) : Fields D :=
  if key ∈ fields.map Prod.fst then
    fields.map fun field => if field.1 = key then (key, value) else field
  else
    fields ++ [(key, value)]

def Fields.erase {D : Type} (fields : Fields D) (key : String) : Fields D :=
  fields.filter (·.1 ≠ key)

namespace Json

variable {D : Type}

/-- `find` of a value that may not be an object -/
def find (value : Json D) (key : String) : Option (Json D) :=
  match value with
  | .object fields => fields.lookup key
  | _ => none

def isNull : Json D → Bool
  | .null => true
  | _ => false

section Numbers

variable [FloatingPoint D]

/-- `get<double>` of a number -/
def toDouble : Json D → Option D
  | .integer value => some (narrow (ofInt value))
  | .number value => some value
  | _ => none

def asDouble (value : Json D) : Json D :=
  match value.toDouble with
  | some double => .number double
  | none => value

def normalizeJointStateNumbers (value : Json D) : Json D :=
  match value with
  | .object fields =>
      match fields.lookup "values" with
      | some (.array items) =>
          .object (Fields.set fields "values" (.array (items.map asDouble)))
      | _ => value
  | _ => value

def normalizeGripperNumber (value : Json D) : Json D :=
  match value with
  | .object fields =>
      match fields.lookup "value" with
      | some scalar => .object (Fields.set fields "value" scalar.asDouble)
      | none => value
  | _ => value

end Numbers

end Json

section Host

variable {D F : Type} [DoubleArithmetic D] [SinglePrecision F]

/-- One member of an object is rewritten when it is there. -/
def Fields.modify (fields : Fields D) (key : String)
    (change : Json D → Json D) : Fields D :=
  match fields.lookup key with
  | some value => Fields.set fields key (change value)
  | none => fields

def addDefault (fields : Fields D) (key : String) (value : Json D) :
    Fields D :=
  match fields.lookup key with
  | some _ => fields
  | none => Fields.set fields key value

def dropNulls (fields : Fields D) : Fields D :=
  ["joint_position", "gripper_width", "task_text", "image"].foldl
    (fun fields key =>
      if (fields.lookup key).any Json.isNull then Fields.erase fields key
      else fields) fields

def normalizeImage (value : Json D) : Json D :=
  match value with
  | .object fields =>
      .object (addDefault (addDefault fields "encoding" (.string "base64"))
        "mime_type" (.string "image/jpeg"))
  | _ => value

/-- The exception of a value that is no object is `none`. -/
def normalizedObservation (input : Json D) : Option (Fields D) :=
  let normalize (fields : Fields D) : Fields D :=
    Fields.modify (Fields.modify (Fields.modify
      (addDefault (dropNulls fields) "meta" (.object []))
      "joint_position" Json.normalizeJointStateNumbers)
      "gripper_width" Json.normalizeGripperNumber)
      "image" normalizeImage
  match input with
  | .object fields => some (normalize fields)
  | .null => some (normalize [])
  | _ => none

def normalizedAction (input : Json D) : Option (Fields D) :=
  let defaults : Fields D :=
    [("joint_position_delta", .null), ("gripper_command", .null),
      ("action_chunk", .array []), ("meta", .object [])]
  let normalize (fields : Fields D) : Fields D :=
    Fields.modify (Fields.modify
      (fields.foldl (fun action field => Fields.set action field.1 field.2)
        defaults)
      "joint_position_delta" Json.normalizeJointStateNumbers)
      "gripper_command" Json.normalizeGripperNumber
  match input with
  | .object fields => some (normalize fields)
  | .null => some (normalize [])
  | .array [] => some (normalize [])
  | _ => none

/-! ## What the host calls -/

/-- `rpc::kSchemaVersion` -/
def kSchemaVersion : String := "embodied-policy-runtime/v1alpha1"

structure RobotPolicyBinding where
  robotData : String
  canonicalField : String

structure SemanticField where
  name : String
  isOptional : Bool

structure PolicySession where
  sessionId : String
  stepId : ℕ

/-- Values for the devices of one kind, in the order of the profile. -/
structure ValueSnapshot (T : Type) where
  count : ℕ
  values : ℕ → T

structure DamiaoFeedback (F : Type) where
  motorId : ℕ
  errorCode : ℕ
  position : F
  velocity : F
  torque : F
  mosTemperature : ℤ
  rotorTemperature : ℤ

/-- The host's profile and the code it calls.  Validation, processors and the
policy are parameters. -/
structure HostSetup (D F σ : Type) [DoubleArithmetic D] [SinglePrecision F]
    where
  policyId : String
  inputs : List RobotPolicyBinding
  outputs : List RobotPolicyBinding
  schema : List SemanticField
  robot : RobotProfile D F
  axisActuatorNames : List String
  hasRobotIo : Bool
  floatOfDouble : D → F
  floatOfInt : ℤ → F
  doubleOfFloat : F → D
  validatePayload : String → Json D → Except Error Unit
  validateAction : Fields D → Except Error Unit
  preprocess : Fields D → CallResult (Fields D)
  infer : σ → Fields D → PolicySession → σ × CallResult (Json D)
  reset : σ → String → σ
  postprocess : Json D → CallResult (Json D)

/-- What one request meets: the clock and the answers of the robot. -/
structure HostAnswers (D F : Type) where
  monotonicNs : BitVec 64
  feedback : CallResult (ValueSnapshot (AxisFeedback D))
  servoFeedback : CallResult (ValueSnapshot (St3215ServoFeedback D))
  damiaoFeedback : CallResult (ValueSnapshot (DamiaoFeedback F))
  publishCommands : CallResult Unit
  publishDamiao : CallResult Unit

structure HostRequest (D : Type) where
  type : String
  sessionId : String
  payload : Json D

/-- The errors of a request.  An exception carries a text of its own. -/
inductive HostFailure
  | runtimeError (message : String)
  | internalError

inductive HostResponse (D : Type)
  | unavailable
  | response (type : String) (payload : Json D)
  | error (type : String) (failure : HostFailure)

/-- A call of a publishing function. -/
inductive HostCall (D F : Type)
  | publishCommands (axes : List (AxisCommand D))
      (servos : List (St3215ServoCommand D)) (sequence : ℕ)
      (timestampNs : ℤ) (succeeded : Bool)
  | publishDamiao (commands : List (DamiaoMitCommand F))
      (enabled : List Bool) (sequence : ℕ) (timestampNs : ℤ)
      (succeeded : Bool)

structure RuntimeHost (σ : Type) where
  isOpen : Bool
  policy : σ
  sessions : String → Option PolicySession
  commandSequence : ℕ
  lastCommandTimestampNs : ℤ

/-! ## Sensor fields -/

def feedbackValue (axis : AxisProfile D) (feedback : AxisFeedback D) : D :=
  match axis.config.mode with
  | .csp => feedback.position
  | .csv => feedback.velocity
  | .cst => feedback.effort
  | .other _ => feedback.position

def axisFields (axes : List (AxisProfile D))
    (snapshot : ValueSnapshot (AxisFeedback D)) : Fields D :=
  axes.zipIdx.map fun entry =>
    (entry.1.name,
      .number (feedbackValue entry.1 (snapshot.values entry.2)))

def servoField (servo : ServoProfile) (value : St3215ServoFeedback D) :
    Json D :=
  .object
    [("servo_id", .integer servo.servoId),
      ("position_rad", .number value.positionRad),
      ("raw_position", .integer value.rawPosition),
      ("status_error", .integer value.statusError)]

def servoFields (servos : List ServoProfile)
    (snapshot : ValueSnapshot (St3215ServoFeedback D)) : Fields D :=
  servos.zipIdx.map fun entry =>
    (entry.1.sensorName, servoField entry.1 (snapshot.values entry.2))

def motorField (doubleOfFloat : F → D) (value : DamiaoFeedback F) : Json D :=
  .object
    [("motor_id", .integer value.motorId),
      ("position", .number (doubleOfFloat value.position)),
      ("velocity", .number (doubleOfFloat value.velocity)),
      ("torque", .number (doubleOfFloat value.torque)),
      ("error_code", .integer value.errorCode)]

def motorFields (doubleOfFloat : F → D) (motors : List (MotorProfile F))
    (snapshot : ValueSnapshot (DamiaoFeedback F)) : Fields D :=
  motors.zipIdx.map fun entry =>
    (entry.1.sensorName, motorField doubleOfFloat (snapshot.values entry.2))

/-- `sensor_fields[key] = value` for every entry -/
def setFields (fields entries : Fields D) : Fields D :=
  entries.foldl (fun fields entry => Fields.set fields entry.1 entry.2) fields

/-- The text of an error, or a default for an empty one. -/
def Error.messageOr (error : Error) (default : String) : String :=
  if error.message = "" then default else error.message

/-- A value of a call, or its failure under a text. -/
def CallResult.orFail {α : Type} (result : CallResult α)
    (text : Error → String) : Except HostFailure α :=
  match result with
  | .value answer => .ok answer
  | .failure error => .error (.runtimeError (text error))
  | .exception => .error .internalError

section Observation

variable {σ : Type} (setup : HostSetup D F σ) (answers : HostAnswers D F)

def readAxes (fields : Fields D) : Except HostFailure (Fields D) :=
  if setup.hasRobotIo ∧ setup.robot.axes ≠ [] then do
    let feedback ← answers.feedback.orFail
      (·.messageOr "robot feedback is unavailable")
    if feedback.count ≠ setup.robot.axes.length then
      .error (.runtimeError
        "robot feedback axis count does not match robot profile")
    else
      .ok (setFields fields (axisFields setup.robot.axes feedback))
  else
    .ok fields

def readServos (fields : Fields D) : Except HostFailure (Fields D) :=
  if setup.hasRobotIo ∧ setup.robot.servos ≠ [] then do
    let feedback ← answers.servoFeedback.orFail
      (·.messageOr "robot servo feedback is unavailable")
    if feedback.count ≠ setup.robot.servos.length then
      .error (.runtimeError
        "robot feedback servo count does not match robot profile")
    else
      .ok (setFields fields (servoFields setup.robot.servos feedback))
  else
    .ok fields

def readMotors (fields : Fields D) : Except HostFailure (Fields D) :=
  if setup.hasRobotIo ∧ setup.robot.motors ≠ [] then do
    let feedback ← answers.damiaoFeedback.orFail
      (fun _ => "Damiao feedback is unavailable")
    .ok (setFields fields
      (motorFields setup.doubleOfFloat setup.robot.motors feedback))
  else
    .ok fields

/-- `sensor_fields` -/
def sensorFields (fields : Fields D) : Except HostFailure (Fields D) := do
  let fields ← readAxes setup answers fields
  let fields ← readServos setup answers fields
  readMotors setup answers fields

def canonicalObservation (fields requested : Fields D) : Fields D :=
  let observation : Fields D := setup.inputs.foldl (fun observation binding =>
    match (fields.lookup binding.robotData).or
        (fields.lookup binding.canonicalField) with
    | some value => Fields.set observation binding.canonicalField value
    | none => observation) []
  if observation.isEmpty then requested else observation

def missingFieldsMessage (names : List String) : String :=
  "missing required canonical observation fields: [" ++
    ", ".intercalate (names.map fun name => "'" ++ name ++ "'") ++ "]"

/-- The observation of a request, read and processed. -/
def processedObservation (payload : Json D) :
    Except HostFailure (Fields D) := do
  let requested ←
    match (payload.find "observation").bind normalizedObservation with
    | some fields => .ok fields
    | none => .error .internalError
  let fields ← sensorFields setup answers requested
  let observation := canonicalObservation setup fields requested
  let missing := setup.schema.filter fun field =>
    !field.isOptional && (observation.lookup field.name).isNone
  if missing.isEmpty then
    (setup.preprocess observation).orFail Error.message
  else
    .error (.runtimeError
      (missingFieldsMessage (missing.map SemanticField.name)))

end Observation

/-! ## Commands of an action -/

/-- The action field of an actuator. -/
def actionField (outputs : List RobotPolicyBinding) (actuatorName : String) :
    String :=
  match outputs.find? (·.robotData = actuatorName) with
  | some binding => binding.canonicalField
  | none => actuatorName

/-- The first of some members that is a number. -/
def firstNumber (value : Json D) (keys : List String) : Option D :=
  keys.findSome? fun key => (value.find key).bind Json.toDouble

def actionTarget (value : Json D) (mode : Cia402Mode) : Option D :=
  match value.toDouble with
  | some target => some target
  | none =>
      let keys := match mode with
        | .csp => ["target_position", "target_position_rad", "position"]
        | .csv => ["target_velocity", "velocity"]
        | .cst => ["target_effort", "target_torque", "effort", "torque"]
        | .other _ => []
      firstNumber value (keys ++ ["target", "value"])

def servoTarget (value : Json D) : Option D :=
  match value.toDouble with
  | some target => some target
  | none => firstNumber value ["position_rad", "target_position_rad"]

/-- A target, or the error that names the actuator. -/
def targetOf (outputs : List RobotPolicyBinding) (output : Fields D)
    (actuatorName : String) (target : Json D → Option D) :
    Except HostFailure D :=
  match (output.lookup (actionField outputs actuatorName)).bind target with
  | some value => .ok value
  | none =>
      .error (.runtimeError
        ("action does not contain a numeric target for robot field: " ++
          actuatorName))

section Publication

variable {σ : Type} (setup : HostSetup D F σ)

def axisCommands (output : Fields D) (sequence : ℕ) (timestampNs : ℤ) :
    Except HostFailure (List (AxisCommand D)) :=
  (setup.robot.axes.zip setup.axisActuatorNames).mapM fun entry => do
    let target ← targetOf setup.outputs output entry.2
      (actionTarget · entry.1.config.mode)
    .ok ⟨sequence, timestampNs, target, kAxisCommandEnable, 0⟩

def servoCommands (output : Fields D) (sequence : ℕ) (timestampNs : ℤ) :
    Except HostFailure (List (St3215ServoCommand D)) :=
  setup.robot.servos.mapM fun servo => do
    let target ← targetOf setup.outputs output servo.actuatorName servoTarget
    .ok ⟨sequence, timestampNs, target, true, false, 0⟩

def actionCommands (output : Fields D) (sequence : ℕ) (timestampNs : ℤ) :
    Except HostFailure (List (AxisCommand D) × List (St3215ServoCommand D)) :=
  do
    let axes ← axisCommands setup output sequence timestampNs
    let servos ← servoCommands setup output sequence timestampNs
    .ok (axes, servos)

/-- `number` of a Damiao action -/
def floatMember (value : Json D) (key : String) : F :=
  match value.find key with
  | some (.integer number) => setup.floatOfInt number
  | some (.number number) => setup.floatOfDouble number
  | _ => SinglePrecision.ofNat 0

/-- A missing or malformed action leaves a zero command, not enabled. -/
def damiaoCommand (output : Fields D) (motor : MotorProfile F) :
    DamiaoMitCommand F × Bool :=
  match output.lookup (actionField setup.outputs motor.actuatorName) with
  | some (.object fields) =>
      let value : Json D := .object fields
      (⟨floatMember setup value "position", floatMember setup value "velocity",
        floatMember setup value "kp", floatMember setup value "kd",
        floatMember setup value "torque"⟩,
        match value.find "enabled" with
        | some (.bool enabled) => enabled
        | _ => true)
  | _ =>
      let nothing := SinglePrecision.ofNat 0
      (⟨nothing, nothing, nothing, nothing, nothing⟩, false)

def CallResult.succeeded {α : Type} : CallResult α → Bool
  | .value _ => true
  | _ => false

/-- `monotonic_now_ns` -/
def monotonicNowNs (clock : BitVec 64) : ℤ :=
  if clock.toInt < 0 then 0 else clock.toInt

namespace RuntimeHost

def nextSequence (host : RuntimeHost σ) : ℕ :=
  (host.commandSequence + 1) % 2 ^ 64

def nextTimestamp (host : RuntimeHost σ) (clock : BitVec 64) : ℤ :=
  if monotonicNowNs clock ≤ host.lastCommandTimestampNs then
    (BitVec.ofInt 64 (host.lastCommandTimestampNs + 1)).toInt
  else
    monotonicNowNs clock

/-- The publications of an action, and the counters behind them. -/
def publish (host : RuntimeHost σ) (answers : HostAnswers D F)
    (output : Fields D) :
    RuntimeHost σ × Option HostFailure × List (HostCall D F) :=
  let sequence := host.nextSequence
  let timestampNs := host.nextTimestamp answers.monotonicNs
  match actionCommands setup output sequence timestampNs with
  | .error failure => (host, some failure, [])
  | .ok (axes, servos) =>
      let published : HostCall D F := .publishCommands axes servos sequence
        timestampNs answers.publishCommands.succeeded
      match answers.publishCommands.orFail
          (·.messageOr "robot command publication failed") with
      | .error failure => (host, some failure, [published])
      | .ok _ =>
          let damiao := setup.robot.motors.map (damiaoCommand setup output)
          let motors : HostCall D F := .publishDamiao (damiao.map Prod.fst)
            (damiao.map Prod.snd) sequence timestampNs
            answers.publishDamiao.succeeded
          match answers.publishDamiao.orFail Error.message with
          | .error failure => (host, some failure, [published, motors])
          | .ok _ =>
              ({ host with
                  commandSequence := sequence
                  lastCommandTimestampNs := timestampNs },
                none, [published, motors])

/-! ## Requests -/

/-- `sessions_.try_emplace` -/
def ensureSession (host : RuntimeHost σ) (sessionId : String) :
    RuntimeHost σ :=
  { host with
    sessions := fun name =>
      if name = sessionId ∧ host.sessions name = none then
        some ⟨sessionId, 0⟩
      else host.sessions name }

def stepSession (host : RuntimeHost σ) (sessionId : String) :
    RuntimeHost σ :=
  { host with
    sessions := fun name =>
      if name = sessionId then
        (host.sessions name).map fun session =>
          { session with stepId := (session.stepId + 1) % 2 ^ 64 }
      else host.sessions name }

/-- The output of an action, normalised and valid. -/
def processedAction (action : Json D) : Except HostFailure (Fields D) := do
  let processed ← (setup.postprocess action).orFail Error.message
  match normalizedAction processed with
  | none => .error .internalError
  | some output =>
      match setup.validateAction output with
      | .error error => .error (.runtimeError error.message)
      | .ok _ => .ok output

/-- An action is published and answered. -/
def act (host : RuntimeHost σ) (request : HostRequest D)
    (answers : HostAnswers D F) (output : Fields D) :
    RuntimeHost σ × Except HostFailure (Json D) × List (HostCall D F) :=
  let published :=
    if setup.hasRobotIo then host.publish setup answers output
    else (host, none, [])
  match published.2.1 with
  | some failure => (published.1, .error failure, published.2.2)
  | none =>
      (published.1.stepSession request.sessionId,
        .ok (.object [("ok", .bool true), ("action", .object output)]),
        published.2.2)

def observe (host : RuntimeHost σ) (request : HostRequest D)
    (answers : HostAnswers D F) :
    RuntimeHost σ × Except HostFailure (Json D) × List (HostCall D F) :=
  match processedObservation setup answers request.payload with
  | .error failure => (host, .error failure, [])
  | .ok observation =>
      let ready := host.ensureSession request.sessionId
      let session := (ready.sessions request.sessionId).getD
        ⟨request.sessionId, 0⟩
      let inferred := setup.infer ready.policy observation session
      let ready := { ready with policy := inferred.1 }
      match inferred.2.orFail Error.message with
      | .error failure => (ready, .error failure, [])
      | .ok action =>
          match processedAction setup action with
          | .error failure => (ready, .error failure, [])
          | .ok output => ready.act setup request answers output

/-- `payload.value("hard", false)` -/
def hardReset (payload : Json D) : Option Bool :=
  match payload with
  | .object fields =>
      match fields.lookup "hard" with
      | some (.bool hard) => some hard
      | some _ => none
      | none => some false
  | _ => none

def resetSession (host : RuntimeHost σ) (sessionId : String) :
    RuntimeHost σ :=
  { host with
    policy := setup.reset host.policy sessionId
    sessions := fun name =>
      if name = sessionId then some ⟨sessionId, 0⟩ else host.sessions name }

def payloadError (request : HostRequest D) : Option Error :=
  if request.type = "health_request" ∨ request.type = "reset_request" ∨
      request.type = "observation_request" then
    match setup.validatePayload request.type request.payload with
    | .error error => some error
    | .ok _ => none
  else
    none

def handle (host : RuntimeHost σ) (request : HostRequest D)
    (answers : HostAnswers D F) :
    RuntimeHost σ × HostResponse D × List (HostCall D F) :=
  let fail (failure : HostFailure) : HostResponse D :=
    .error (request.type ++ "_error") failure
  if !host.isOpen then
    (host, .unavailable, [])
  else
    match payloadError setup request with
    | some error => (host, fail (.runtimeError error.message), [])
    | none =>
        if request.type = "health_request" then
          (host, .response "health_response" (.object
            [("ok", .bool true), ("policy_id", .string setup.policyId)]), [])
        else if request.type = "server_info_request" then
          (host, .response "server_info_response" (.object
            [("server_name", .string "policy_embodied_runtime"),
              ("server_version", .string "0.1.0"),
              ("supported_schema", .string kSchemaVersion),
              ("transports", .array [.string "zmq+json"])]), [])
        else if request.type = "reset_request" then
          match hardReset request.payload with
          | none => (host, fail .internalError, [])
          | some hard =>
              (host.resetSession setup request.sessionId,
                .response "reset_response" (.object
                  [("ok", .bool true), ("hard", .bool hard)]), [])
        else if request.type ≠ "observation_request" then
          (host, fail (.runtimeError
            ("unknown request type: " ++ request.type)), [])
        else
          let result := host.observe setup request answers
          match result.2.1 with
          | .ok payload =>
              (result.1, .response "action_response" payload, result.2.2)
          | .error failure => (result.1, fail failure, result.2.2)

/-! ## The host as a machine -/

/-- The counts are those of the robot's connection. -/
def openHost (host : RuntimeHost σ)
    (axisCount servoCount damiaoCount : ℕ) :
    RuntimeHost σ × Except Error Unit :=
  if (setup.robot.axes ≠ [] ∨ setup.robot.servos ≠ []) ∧
      !setup.hasRobotIo then
    (host, .error ⟨.unavailable,
      "robot profile requires a robot I/O daemon connection"⟩)
  else if setup.hasRobotIo ∧ axisCount ≠ setup.robot.axes.length then
    (host, .error ⟨.invalidArgument,
      "robot I/O axis count does not match robot profile"⟩)
  else if setup.hasRobotIo ∧ servoCount ≠ setup.robot.servos.length then
    (host, .error ⟨.invalidArgument,
      "robot I/O servo count does not match robot profile"⟩)
  else if setup.hasRobotIo ∧ damiaoCount ≠ setup.robot.motors.length then
    (host, .error ⟨.invalidArgument,
      "robot I/O Damiao count does not match robot profile"⟩)
  else
    ({ host with isOpen := true }, .ok ())

def close (host : RuntimeHost σ) : RuntimeHost σ :=
  { host with isOpen := false }

/-- A host behind its constructor. -/
def fresh (policy : σ) : RuntimeHost σ where
  isOpen := false
  policy := policy
  sessions := fun _ => none
  commandSequence := 0
  lastCommandTimestampNs := 0

end RuntimeHost

inductive HostInput (D F : Type)
  | openHost (axisCount servoCount damiaoCount : ℕ)
  | close
  | handle (request : HostRequest D) (answers : HostAnswers D F)

/-- The outputs of a run are the publishing calls. -/
def hostMachine :
    Machine (RuntimeHost σ) (HostInput D F) (List (HostCall D F)) where
  step host
    | .openHost axisCount servoCount damiaoCount =>
        ((host.openHost setup axisCount servoCount damiaoCount).1, [])
    | .close => (host.close, [])
    | .handle request answers =>
        ((host.handle setup request answers).1,
          (host.handle setup request answers).2.2)

end Publication

end Host

end PolicyRuntime
