import PolicyRuntime.JsonValues
import PolicyRuntime.Messages

/-!
# The RPC codec

Envelopes are encoded without any check and decoded with a check of every
member.  The decoder for a peer also checks the payload against its type; the
decoder for dispatch leaves that to the handler.
-/

namespace PolicyRuntime

/-- `rpc::kSchemaVersion` -/
def rpcSchemaVersion : String := "embodied-policy-runtime/v1alpha1"

structure ErrorPayload (D : Type) where
  code : String
  message : String
  details : JsonValue D

/-- An envelope; the timestamp is a signed number. -/
structure MessageEnvelope (D : Type) where
  schema : String
  type : String
  requestId : String
  sessionId : String
  stepId : BitVec 64
  timestampNs : BitVec 64
  payload : JsonValue D
  error : Option (ErrorPayload D)

namespace RpcCodec

variable {D : Type}

/-- `std::isspace` of the C locale -/
def isSpace (character : Char) : Bool :=
  character = ' ' || (9 ≤ character.val && character.val ≤ 13)

def isBlank (value : String) : Bool := value.toList.all isSpace

/-! ## Validators

The error is the text which the source leaves in its `error` argument. -/

def onlyKeys (object : JsonValue D) (allowed : List String) (name : String) :
    Except String Unit :=
  match object.keys.find? fun key => !allowed.contains key with
  | some key => .error (name ++ " contains unknown key: " ++ key)
  | none => .ok ()

def requireString (object : JsonValue D) (key name : String) :
    Except String Unit :=
  match object.member key with
  | some value =>
      if value.isString then .ok ()
      else .error (name ++ " requires string " ++ key)
  | none => .error (name ++ " requires string " ++ key)

/-- A member which may be missing, but has to pass a test. -/
def optionalMember (object : JsonValue D) (key : String)
    (test : JsonValue D → Bool) (message : String) : Except String Unit :=
  match object.member key with
  | some value => if test value then .ok () else .error message
  | none => .ok ()

/-- A member which may be missing or null. -/
def nullableMember (object : JsonValue D) (key : String)
    (validate : JsonValue D → Except String Unit) : Except String Unit :=
  match object.member key with
  | some value => if value.isNull then .ok () else validate value
  | none => .ok ()

def validateJointState (value : JsonValue D) : Except String Unit := do
  if !value.isObject then
    .error "joint state must be an object"
  else
    onlyKeys value ["values", "joint_names", "unit"] "joint state"
    match (value.member "values").bind JsonValue.items,
        (value.member "joint_names").bind JsonValue.items with
    | some values, some jointNames =>
        requireString value "unit" "joint state"
        if !values.all JsonValue.isStrictNumber then
          .error "joint state values must be numbers"
        else if !jointNames.all JsonValue.isString then
          .error "joint state joint_names must contain strings"
        else if values.length ≠ jointNames.length then
          .error "values and joint_names must have the same length"
        else
          .ok ()
    | _, _ => .error "joint state requires values, joint_names, and unit"

def validateGripper (value : JsonValue D) : Except String Unit := do
  if !value.isObject then
    .error "gripper value must be an object"
  else
    onlyKeys value ["value", "unit"] "gripper value"
    if !(value.member "value").any JsonValue.isStrictNumber then
      .error "gripper value requires numeric value and string unit"
    else
      requireString value "unit" "gripper value"

def validateTaskText (value : JsonValue D) : Except String Unit := do
  if !value.isObject then
    .error "task text requires string text"
  else
    onlyKeys value ["text"] "task text"
    requireString value "text" "task text"

/-- The encodings of an image. -/
def imageEncoding (value : JsonValue D) : Bool :=
  value.text = some "base64" || value.text = some "uri" ||
    value.text = some "inline_json"

def validateImage (value : JsonValue D) : Except String Unit := do
  if !value.isObject then
    .error "image requires string data"
  else
    onlyKeys value ["encoding", "data", "mime_type"] "image"
    requireString value "data" "image"
    optionalMember value "encoding" imageEncoding
      "image encoding must be base64, uri, or inline_json"
    optionalMember value "mime_type" JsonValue.isString
      "image mime_type must be a string"

def validateObservation (value : JsonValue D) : Except String Unit := do
  if !value.isObject then
    .error "observation must be an object"
  else
    nullableMember value "joint_position" validateJointState
    nullableMember value "gripper_width" validateGripper
    nullableMember value "task_text" validateTaskText
    nullableMember value "image" validateImage
    optionalMember value "meta" JsonValue.isObject
      "observation meta must be an object"

def validateActionChunk (chunk : JsonValue D) : Except String Unit :=
  match chunk.items with
  | none => .error "action_chunk must be an array"
  | some items =>
      if items.all JsonValue.isObject then .ok ()
      else .error "action_chunk must contain objects"

/-- A member is there and not null. -/
def present (object : JsonValue D) (key : String) : Bool :=
  (object.member key).any fun value => !value.isNull

def actionKeys : List String :=
  ["joint_position_delta", "gripper_command", "action_chunk", "meta"]

/-- The action has a single step, a chunk, or a member of its own. -/
def hasAction (action : JsonValue D) : Bool :=
  present action "joint_position_delta" ||
    present action "gripper_command" ||
    ((action.member "action_chunk").bind JsonValue.items).any
      (fun items => !items.isEmpty) ||
    action.keys.any fun key => !actionKeys.contains key

def validateAction (action : JsonValue D) : Except String Unit := do
  if !action.isObject then
    .error "action must be an object"
  else
    nullableMember action "joint_position_delta" validateJointState
    nullableMember action "gripper_command" validateGripper
    match action.member "action_chunk" with
    | some chunk => validateActionChunk chunk
    | none => .ok ()
    optionalMember action "meta" JsonValue.isObject
      "action meta must be an object"
    if hasAction action then .ok ()
    else
      .error
        "action payload must contain a single-step action or an action_chunk"

def validateErrorPayload (value : JsonValue D) :
    Except String (ErrorPayload D) := do
  if !value.isObject then
    .error "error requires string code and message"
  else
    onlyKeys value ["code", "message", "details"] "error"
    requireString value "code" "error"
    requireString value "message" "error"
    optionalMember value "details" JsonValue.isObject
      "error details must be an object"
    .ok
      { code := ((value.member "code").bind JsonValue.text).getD ""
        message := ((value.member "message").bind JsonValue.text).getD ""
        details := (value.member "details").getD (.object []) }

def validateObservationRequest (payload : JsonValue D) :
    Except String Unit := do
  onlyKeys payload ["observation"] "observation request"
  match payload.member "observation" with
  | some observation =>
      if observation.isNull then
        .error "observation request requires observation"
      else
        validateObservation observation
  | none => .error "observation request requires observation"

def validateActionResponse (payload : JsonValue D) : Except String Unit := do
  onlyKeys payload ["ok", "action"] "action response"
  match payload.member "ok", payload.member "action" with
  | some ok, some action =>
      if !ok.isBoolean || action.isNull then
        .error "action response requires boolean ok and action"
      else
        validateAction action
  | _, _ => .error "action response requires boolean ok and action"

def validateHealthRequest (payload : JsonValue D) : Except String Unit := do
  onlyKeys payload ["verbose"] "health request"
  optionalMember payload "verbose" JsonValue.isBoolean
    "health request verbose must be a boolean"

def validateHealthResponse (payload : JsonValue D) : Except String Unit := do
  onlyKeys payload ["ok", "policy_id"] "health response"
  if !(payload.member "ok").any JsonValue.isBoolean then
    .error "health response requires boolean ok and string policy_id"
  else
    requireString payload "policy_id" "health response"

def validateResetRequest (payload : JsonValue D) : Except String Unit := do
  onlyKeys payload ["hard"] "reset request"
  optionalMember payload "hard" JsonValue.isBoolean
    "reset request hard must be a boolean"

def validateTransports (transports : JsonValue D) : Except String Unit :=
  match transports.items with
  | none => .error "server info response transports must be an array"
  | some items =>
      if items.all JsonValue.isString then .ok ()
      else .error "server info response transports must contain strings"

def validateServerInfoResponse (payload : JsonValue D) :
    Except String Unit := do
  onlyKeys payload
    ["server_name", "server_version", "supported_schema", "transports"]
    "server info response"
  requireString payload "server_name" "server info response"
  requireString payload "server_version" "server info response"
  optionalMember payload "supported_schema" JsonValue.isString
    "server info response supported_schema must be a string"
  match payload.member "transports" with
  | some transports => validateTransports transports
  | none => .ok ()

def validatePayloadForType (type : String) (payload : JsonValue D) :
    Except String Unit :=
  if !payload.isObject then .error "payload must be an object"
  else if type = "observation_request" then validateObservationRequest payload
  else if type = "action_response" then validateActionResponse payload
  else if type = "health_request" then validateHealthRequest payload
  else if type = "health_response" then validateHealthResponse payload
  else if type = "reset_request" then validateResetRequest payload
  else if type = "server_info_response" then validateServerInfoResponse payload
  else .ok ()

/-- A failed check with the code of the protocol. -/
def protocolError {α : Type} (result : Except String α) : Except Error α :=
  result.mapError fun message => ⟨.protocol, message⟩

def validateActionPayload (action : JsonValue D) : Except Error Unit :=
  protocolError (validateAction action)

def validatePayload (type : String) (payload : JsonValue D) :
    Except Error Unit :=
  protocolError (validatePayloadForType type payload)

/-! ## Decoding -/

def topLevelKeys : List String :=
  ["schema", "type", "request_id", "session_id", "step_id", "timestamp_ns",
    "payload", "error"]

/-- A member which has to be a string. -/
def stringMember (message : JsonValue D) (key failure : String) :
    Except String String :=
  match (message.member key).bind JsonValue.text with
  | some value => .ok value
  | none => .error failure

def decodeSchema (message : JsonValue D) : Except String String :=
  match message.member "schema" with
  | none => .ok rpcSchemaVersion
  | some _ => stringMember message "schema" "schema must be a string"

/-- A signed timestamp has to be non-negative, an unsigned one in range. -/
def decodeTimestamp (timestamp : JsonValue D) :
    Except String (BitVec 64) :=
  match timestamp with
  | .numberInteger value =>
      if value.toInt < 0 then .error "timestamp_ns must be >= 0"
      else .ok value
  | .numberUnsigned value =>
      if 2 ^ 63 - 1 < value.toNat then .error "timestamp_ns is out of range"
      else .ok value
  | _ => .error "timestamp_ns must be an integer"

def decodeStepId (message : JsonValue D) : Except String (BitVec 64) :=
  match message.member "step_id" with
  | none => .ok 0
  | some (.numberInteger value) =>
      if value.toInt < 0 then
        .error "step_id must be a non-negative integer"
      else
        .ok value
  | some (.numberUnsigned value) => .ok value
  | some _ => .error "step_id must be a non-negative integer"

def decodeError (message : JsonValue D) :
    Except String (Option (ErrorPayload D)) :=
  match message.member "error" with
  | none => .ok none
  | some error =>
      if error.isNull then .ok none
      else (validateErrorPayload error).map some

/-- A failed check of the decoder -/
def reject (failed : Bool) (message : String) : Except String Unit :=
  if failed then .error message else .ok ()

def requireTopLevelKeys (message : JsonValue D) : Except String Unit :=
  match message.keys.find? fun key => !topLevelKeys.contains key with
  | some key => .error ("unknown top-level key: " ++ key)
  | none => .ok ()

def checkTypedPayload (validateTypedPayload : Bool) (type : String)
    (payload : JsonValue D) : Except String Unit :=
  if validateTypedPayload then validatePayloadForType type payload else .ok ()

/-- `decode_envelope_impl`, behind the parser. -/
def decodeMessage (validateTypedPayload : Bool) (message : JsonValue D) :
    Except String (MessageEnvelope D) := do
  reject (!message.isObject) "message envelope must be an object"
  requireTopLevelKeys message
  let schema ← decodeSchema message
  let type ← stringMember message "type" "type must be a string"
  let requestId ←
    stringMember message "request_id" "request_id must be a string"
  let sessionId ←
    stringMember message "session_id" "session_id must be a string"
  reject (!(message.member "timestamp_ns").any JsonValue.isStrictInteger)
    "timestamp_ns must be an integer"
  reject (isBlank type) "type must be non-empty"
  reject (isBlank requestId) "request_id must be non-empty"
  reject (isBlank sessionId) "session_id must be non-empty"
  let timestampNs ←
    decodeTimestamp ((message.member "timestamp_ns").getD .null)
  let stepId ← decodeStepId message
  let payload := (message.member "payload").getD (.object [])
  reject (!payload.isObject) "payload must be an object"
  checkTypedPayload validateTypedPayload type payload
  let error ← decodeError message
  .ok { schema, type, requestId, sessionId, stepId, timestampNs, payload,
        error }

variable {τ : Type}

def decodeEnvelopeImpl (text : JsonText D τ) (validateTypedPayload : Bool)
    (input : τ) : Except Error (MessageEnvelope D) :=
  match text.parse input with
  | none => .error ⟨.protocol, "invalid JSON message"⟩
  | some message => protocolError (decodeMessage validateTypedPayload message)

def decodeEnvelope (text : JsonText D τ) (input : τ) :
    Except Error (MessageEnvelope D) :=
  decodeEnvelopeImpl text true input

def decodeEnvelopeForDispatch (text : JsonText D τ) (input : τ) :
    Except Error (MessageEnvelope D) :=
  decodeEnvelopeImpl text false input

/-! ## Encoding -/

def encodeError (error : Option (ErrorPayload D)) : JsonValue D :=
  match error with
  | some error =>
      .object
        [("code", .string error.code), ("details", error.details),
          ("message", .string error.message)]
  | none => .null

/-- The message of an envelope, in the order of its keys. -/
def encodeMessage (envelope : MessageEnvelope D) : JsonValue D :=
  .object
    [("error", encodeError envelope.error), ("payload", envelope.payload),
      ("request_id", .string envelope.requestId),
      ("schema", .string envelope.schema),
      ("session_id", .string envelope.sessionId),
      ("step_id", .numberUnsigned envelope.stepId),
      ("timestamp_ns", .numberInteger envelope.timestampNs),
      ("type", .string envelope.type)]

def encodeEnvelope (text : JsonText D τ) (envelope : MessageEnvelope D) : τ :=
  text.dump (encodeMessage envelope)

end RpcCodec

end PolicyRuntime
