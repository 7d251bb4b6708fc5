import PolicyRuntime.HostValues
import PolicyRuntime.SessionSteps

/-!
# Requests and replies as texts

A text that is no envelope is answered by a protocol error.  Every other one
is handled without a check of its payload beforehand, and the reply carries
the identifiers of the request.  Whatever the host does, a peer accepts the
reply.
-/

namespace PolicyRuntime

open RpcCodec

section Host

variable {D F σ τ : Type} [DoubleArithmetic D] [SinglePrecision F]

/-- A host that validates with the codec. -/
def HostSetup.withCodec (setup : HostSetup D F σ) : HostSetup D F σ :=
  { setup with
    validatePayload := fun type payload =>
      RpcCodec.validatePayload type payload.ofHost
    validateAction := fun fields =>
      validateActionPayload (Json.object fields).ofHost }

/-- The host checks a decoded payload as the codec does. -/
theorem HostSetup.withCodec_validatePayload (setup : HostSetup D F σ)
    {payload : JsonValue D} (hpayload : payload.Representable)
    (type : String) :
    setup.withCodec.validatePayload type payload.toHost =
      RpcCodec.validatePayload type payload := by
  change RpcCodec.validatePayload type payload.toHost.ofHost = _
  rw [JsonValue.ofHost_toHost hpayload, RpcCodec.validatePayload,
    validatePayloadForType_renumber, RpcCodec.validatePayload]

/-- What the answer to a text meets besides the answers of the robot. -/
structure TextAnswers (D F : Type) extends HostAnswers D F where
  /-- the clock that stamps the reply -/
  realtimeNs : BitVec 64
  /-- `what()` of an exception -/
  exceptionText : String

/-- `realtime_now_ns` -/
def realtimeNowNs (clock : BitVec 64) : BitVec 64 :=
  if clock.toInt < 0 then 0 else clock

def errorEnvelope (request : MessageEnvelope D) (code message : String)
    (clock : BitVec 64) : MessageEnvelope D where
  schema := rpcSchemaVersion
  type := request.type ++ "_error"
  requestId := request.requestId
  sessionId := request.sessionId
  stepId := request.stepId
  timestampNs := realtimeNowNs clock
  payload := .object []
  error := some ⟨code, message, .object []⟩

def HostFailure.errorPayload (failure : HostFailure)
    (exceptionText : String) : String × String :=
  match failure with
  | .runtimeError message => ("runtime_error", message)
  | .internalError => ("internal_error", exceptionText)

/-- The envelope of a response to a request. -/
def replyEnvelope (request : MessageEnvelope D) (response : HostResponse D)
    (answers : TextAnswers D F) : MessageEnvelope D :=
  match response with
  | .unavailable =>
      errorEnvelope request "internal_error" "runtime host is not open"
        answers.realtimeNs
  | .response type payload =>
      { schema := rpcSchemaVersion
        type := type
        requestId := request.requestId
        sessionId := request.sessionId
        stepId := request.stepId
        timestampNs := realtimeNowNs answers.realtimeNs
        payload := payload.ofHost
        error := none }
  | .error _ failure =>
      let error := failure.errorPayload answers.exceptionText
      errorEnvelope request error.1 error.2 answers.realtimeNs

/-- The request which stands for a text that is not decoded. -/
def undecodedRequest : MessageEnvelope D where
  schema := rpcSchemaVersion
  type := "protocol"
  requestId := "unknown"
  sessionId := "unknown"
  stepId := 0
  timestampNs := 0
  payload := .object []
  error := none

def MessageEnvelope.hostRequest (request : MessageEnvelope D) :
    HostRequest D :=
  ⟨request.type, request.sessionId, request.payload.toHost⟩

variable (setup : HostSetup D F σ) (text : JsonText D τ)

namespace RuntimeHost

/-- The envelope which `handle_text` encodes. -/
def answerText (host : RuntimeHost σ) (input : τ)
    (answers : TextAnswers D F) :
    RuntimeHost σ × MessageEnvelope D × List (HostCall D F) :=
  match decodeEnvelopeForDispatch text input with
  | .error error =>
      (host,
        errorEnvelope undecodedRequest "protocol_error" error.message
          answers.realtimeNs,
        [])
  | .ok request =>
      let handled := host.handle setup.withCodec request.hostRequest
        answers.toHostAnswers
      (handled.1, replyEnvelope request handled.2.1 answers, handled.2.2)

def handleText (host : RuntimeHost σ) (input : τ)
    (answers : TextAnswers D F) : RuntimeHost σ × τ × List (HostCall D F) :=
  let answer := host.answerText setup text input answers
  (answer.1, encodeEnvelope text answer.2.1, answer.2.2)

end RuntimeHost

/-! ## Responses of the host -/

/-- The type of the response to a request. -/
def responseType (requestType : String) : Option String :=
  if requestType = "health_request" then some "health_response"
  else if requestType = "server_info_request" then some "server_info_response"
  else if requestType = "reset_request" then some "reset_response"
  else if requestType = "observation_request" then some "action_response"
  else none

/-- What the processors make of the action which the policy infers. -/
def RuntimeHost.processedOutcome (host : RuntimeHost σ)
    (request : HostRequest D) (answers : HostAnswers D F) : Option (Json D) :=
  match processedObservation setup answers request.payload with
  | .error _ => none
  | .ok observation =>
      let session := ((host.ensureSession request.sessionId).sessions
        request.sessionId).getD ⟨request.sessionId, 0⟩
      match (setup.infer host.policy observation session).2 with
      | .value action =>
          match setup.postprocess action with
          | .value processed => some processed
          | _ => none
      | _ => none

/-- The payloads of the responses, by the type of the response. -/
inductive ResponsePayload (outcome : Option (Json D)) : String → Json D → Prop
  | health :
      ResponsePayload outcome "health_response"
        (.object [("ok", .bool true), ("policy_id", .string setup.policyId)])
  | serverInfo :
      ResponsePayload outcome "server_info_response"
        (.object
          [("server_name", .string "policy_embodied_runtime"),
            ("server_version", .string "0.1.0"),
            ("supported_schema", .string kSchemaVersion),
            ("transports", .array [.string "zmq+json"])])
  | reset (hard : Bool) :
      ResponsePayload outcome "reset_response"
        (.object [("ok", .bool true), ("hard", .bool hard)])
  | action (processed : Json D) (output : Fields D)
      (hprocessed : outcome = some processed)
      (hnormalized : normalizedAction processed = some output)
      (hvalid : setup.validateAction output = .ok ()) :
      ResponsePayload outcome "action_response"
        (.object [("ok", .bool true), ("action", .object output)])

namespace RuntimeHost

variable {setup} {host : RuntimeHost σ}

theorem act_payload {request : HostRequest D} {answers : HostAnswers D F}
    {output : Fields D} {payload : Json D}
    (hpayload : (host.act setup request answers output).2.1 = .ok payload) :
    payload =
      .object [("ok", .bool true), ("action", .object output)] := by
  rw [act] at hpayload
  split at hpayload
  · contradiction
  · exact (Except.ok.inj hpayload).symm

omit [DoubleArithmetic D] [SinglePrecision F] in
theorem eq_value_of_orFail {α : Type} {result : CallResult α}
    {message : Error → String} {value : α}
    (hvalue : result.orFail message = .ok value) : result = .value value := by
  cases result with
  | value answer => exact congrArg CallResult.value (Except.ok.inj hvalue)
  | failure error => contradiction
  | exception => contradiction

theorem processedAction_ok {action : Json D} {output : Fields D}
    (houtput : processedAction setup action = .ok output) :
    ∃ processed, setup.postprocess action = .value processed ∧
      normalizedAction processed = some output ∧
      setup.validateAction output = .ok () := by
  rw [processedAction] at houtput
  cases hprocessed : setup.postprocess action with
  | failure error =>
      rw [hprocessed] at houtput
      contradiction
  | exception =>
      rw [hprocessed] at houtput
      contradiction
  | value processed =>
      rw [hprocessed] at houtput
      simp only [CallResult.orFail, bind, Except.bind] at houtput
      cases hnormalized : normalizedAction processed with
      | none =>
          rw [hnormalized] at houtput
          contradiction
      | some normalized =>
          rw [hnormalized] at houtput
          dsimp only at houtput
          cases hvalid : setup.validateAction normalized with
          | error error =>
              rw [hvalid] at houtput
              contradiction
          | ok _ =>
              rw [hvalid] at houtput
              cases houtput
              exact ⟨processed, rfl, hnormalized, hvalid⟩

theorem observe_payload {request : HostRequest D}
    {answers : HostAnswers D F} {payload : Json D}
    (hpayload : (host.observe setup request answers).2.1 = .ok payload) :
    ResponsePayload setup (host.processedOutcome setup request answers)
      "action_response" payload := by
  rw [observe] at hpayload
  rw [processedOutcome]
  cases hobservation : processedObservation setup answers request.payload with
  | error failure =>
      rw [hobservation] at hpayload
      contradiction
  | ok observation =>
      rw [hobservation] at hpayload
      dsimp only at hpayload ⊢
      split at hpayload
      · contradiction
      · case _ action haction =>
          split at hpayload
          · contradiction
          · case _ output houtput =>
              obtain ⟨processed, hprocessed, hnormalized, hvalid⟩ :=
                processedAction_ok houtput
              have hpolicy : (host.ensureSession request.sessionId).policy =
                  host.policy := rfl
              rw [hpolicy] at haction
              rw [act_payload hpayload, eq_value_of_orFail haction]
              dsimp only
              rw [hprocessed]
              exact .action processed output rfl hnormalized hvalid

/-- A response has the type and a payload for the request. -/
theorem handle_response {request : HostRequest D} {answers : HostAnswers D F}
    {type : String} {payload : Json D}
    (hresponse :
      (host.handle setup request answers).2.1 = .response type payload) :
    responseType request.type = some type ∧
      ResponsePayload setup (host.processedOutcome setup request answers) type
        payload := by
  rw [handle] at hresponse
  dsimp only at hresponse
  split at hresponse
  · contradiction
  · split at hresponse
    · contradiction
    · split_ifs at hresponse with hhealth hinfo hreset hobserve
      · cases hresponse
        exact ⟨by rw [hhealth]; rfl, .health⟩
      · cases hresponse
        exact ⟨by rw [hinfo]; rfl, .serverInfo⟩
      · split at hresponse
        · contradiction
        · case _ hard _ =>
            cases hresponse
            exact ⟨by rw [hreset]; rfl, .reset hard⟩
      · split at hresponse
        · case _ found hfound =>
            cases hresponse
            rw [not_not] at hobserve
            exact ⟨by rw [hobserve]; rfl, observe_payload hfound⟩
        · contradiction

end RuntimeHost

/-! ## Replies are acceptable -/

section Replies

omit [DoubleArithmetic D] in
theorem ofHost_healthPayload (policyId : String) :
    (Json.object [("ok", .bool true), ("policy_id", .string policyId)] :
      Json D).ofHost =
      .object [("ok", .boolean true), ("policy_id", .string policyId)] := by
  simp [Json.ofHost, ofHostFields, assignMember, -String.lt_iff_ltb]

omit [DoubleArithmetic D] in
theorem ofHost_serverInfoPayload :
    (Json.object
      [("server_name", .string "policy_embodied_runtime"),
        ("server_version", .string "0.1.0"),
        ("supported_schema", .string kSchemaVersion),
        ("transports", .array [.string "zmq+json"])] : Json D).ofHost =
      .object
        [("server_name", .string "policy_embodied_runtime"),
          ("server_version", .string "0.1.0"),
          ("supported_schema", .string kSchemaVersion),
          ("transports", .array [.string "zmq+json"])] := by
  simp [Json.ofHost, ofHostFields, ofHostItems, assignMember,
    -String.lt_iff_ltb]

omit [DoubleArithmetic D] in
theorem ofHost_actionPayload (output : Fields D) :
    (Json.object [("ok", .bool true), ("action", .object output)]).ofHost =
      .object
        [("action", (Json.object output).ofHost), ("ok", .boolean true)] := by
  simp [Json.ofHost, ofHostFields, assignMember, -String.lt_iff_ltb]

omit [DoubleArithmetic D] in
/-- A valid action is a valid payload of a response. -/
theorem validatePayload_action {output : Fields D}
    (hvalid : validateActionPayload (Json.object output).ofHost = .ok ()) :
    RpcCodec.validatePayload "action_response"
      (Json.object [("ok", .bool true), ("action", .object output)]).ofHost =
        .ok () := by
  rw [ofHost_actionPayload, RpcCodec.validatePayload, protocolError_eq_ok_iff]
  change validateAction (Json.object output).ofHost = .ok ()
  exact protocolError_eq_ok_iff.mp hvalid

variable {setup}

theorem ResponsePayload.valid {outcome : Option (Json D)} {type : String}
    {payload : Json D}
    (hpayload : ResponsePayload setup.withCodec outcome type payload) :
    isBlank type = false ∧ payload.ofHost.isObject = true ∧
      RpcCodec.validatePayload type payload.ofHost = .ok () := by
  cases hpayload with
  | health =>
      rw [ofHost_healthPayload]
      exact ⟨by decide, rfl, rfl⟩
  | serverInfo =>
      rw [ofHost_serverInfoPayload]
      exact ⟨by decide, rfl, rfl⟩
  | reset hard => exact ⟨by decide, rfl, rfl⟩
  | action processed output hprocessed hnormalized hvalid =>
      exact ⟨by decide, rfl, validatePayload_action hvalid⟩

theorem ResponsePayload.finite (hintegers : IntegersFinite D)
    {outcome : Option (Json D)}
    (hfinite : ∀ processed ∈ outcome, processed.Finite)
    {type : String} {payload : Json D}
    (hpayload : ResponsePayload setup outcome type payload) :
    payload.Finite := by
  cases hpayload with
  | health => exact ⟨trivial, trivial, trivial⟩
  | serverInfo =>
      exact ⟨trivial, trivial, trivial, ⟨trivial, trivial⟩, trivial⟩
  | reset hard => exact ⟨trivial, trivial, trivial⟩
  | action processed output hprocessed hnormalized hvalid =>
      have houtput := finite_normalizedAction hintegers
        (hfinite processed hprocessed) hnormalized
      exact ⟨trivial, houtput, trivial⟩

theorem append_error_ne (type : String) {name : String}
    (hname : ¬"_error".toList <:+ name.toList) : type ++ "_error" ≠ name := by
  rintro rfl
  apply hname
  rw [String.toList_append]
  exact List.suffix_append _ _

theorem isBlank_append_error (type : String) :
    isBlank (type ++ "_error") = false := by
  rw [isBlank, String.toList_append, List.all_append]
  have herror : "_error".toList.all isSpace = false := by decide
  rw [herror, Bool.and_false]

theorem realtimeNowNs_nonneg (clock : BitVec 64) :
    0 ≤ (realtimeNowNs clock).toInt := by
  rw [realtimeNowNs]
  split
  · exact le_rfl
  · case _ hnonneg => exact not_lt.mp hnonneg

/-- The identifiers of a request are not blank. -/
structure MessageEnvelope.Identified (request : MessageEnvelope D) :
    Prop where
  requestId : isBlank request.requestId = false
  sessionId : isBlank request.sessionId = false

omit [DoubleArithmetic D] in
theorem errorEnvelope_acceptable {request : MessageEnvelope D}
    (hrequest : request.Identified) (code message : String)
    (clock : BitVec 64) :
    (errorEnvelope request code message clock).Acceptable where
  type := isBlank_append_error request.type
  requestId := hrequest.requestId
  sessionId := hrequest.sessionId
  timestampNs := realtimeNowNs_nonneg clock
  isObject := rfl
  payload := by
    rw [RpcCodec.validatePayload, protocolError_eq_ok_iff, errorEnvelope,
      validatePayloadForType]
    dsimp only
    have hobject : (!(.object [] : JsonValue D).isObject) = false := rfl
    rw [hobject, if_neg Bool.false_ne_true,
      if_neg (append_error_ne request.type (by decide)),
      if_neg (append_error_ne request.type (by decide)),
      if_neg (append_error_ne request.type (by decide)),
      if_neg (append_error_ne request.type (by decide)),
      if_neg (append_error_ne request.type (by decide)),
      if_neg (append_error_ne request.type (by decide))]
  details := rfl

theorem errorEnvelope_representable (request : MessageEnvelope D)
    (code message : String) (clock : BitVec 64) :
    (errorEnvelope request code message clock).Representable where
  payload := ⟨List.Pairwise.nil, trivial⟩
  details := by
    rintro error ⟨⟩
    exact ⟨List.Pairwise.nil, trivial⟩

/-- How a reply answers a request. -/
structure MessageEnvelope.Answers (reply request : MessageEnvelope D) :
    Prop where
  requestId : reply.requestId = request.requestId
  sessionId : reply.sessionId = request.sessionId
  stepId : reply.stepId = request.stepId
  type :
    responseType request.type = some reply.type ∧ reply.error.isNone ∨
      reply.type = request.type ++ "_error" ∧ reply.error.isSome

omit [DoubleArithmetic D] in
theorem MessageEnvelope.Answers.renumbered
    {reply request : MessageEnvelope D} (hreply : reply.Answers request) :
    reply.renumbered.Answers request where
  requestId := hreply.requestId
  sessionId := hreply.sessionId
  stepId := hreply.stepId
  type := by
    have htype := hreply.type
    rw [MessageEnvelope.renumbered]
    cases herror : reply.error with
    | none => simpa [herror] using htype
    | some error => simpa [herror] using htype

omit [DoubleArithmetic D] in
theorem errorEnvelope_answers (request : MessageEnvelope D)
    (code message : String) (clock : BitVec 64) :
    (errorEnvelope request code message clock).Answers request where
  requestId := rfl
  sessionId := rfl
  stepId := rfl
  type := .inr ⟨rfl, rfl⟩

theorem replyEnvelope_answers (request : MessageEnvelope D)
    (host : RuntimeHost σ) (answers : TextAnswers D F) :
    (replyEnvelope request
      (host.handle setup request.hostRequest answers.toHostAnswers).2.1
      answers).Answers request := by
  cases hresponse :
      (host.handle setup request.hostRequest answers.toHostAnswers).2.1 with
  | unavailable => exact errorEnvelope_answers request _ _ _
  | error type failure => exact errorEnvelope_answers request _ _ _
  | response type payload =>
      have htype := (RuntimeHost.handle_response hresponse).1
      exact
        { requestId := rfl
          sessionId := rfl
          stepId := rfl
          type := .inl ⟨htype, rfl⟩ }

theorem replyEnvelope_acceptable {request : MessageEnvelope D}
    (hrequest : request.Identified) (host : RuntimeHost σ)
    (answers : TextAnswers D F) :
    (replyEnvelope request
      (host.handle setup.withCodec request.hostRequest
        answers.toHostAnswers).2.1 answers).Acceptable := by
  cases hresponse : (host.handle setup.withCodec request.hostRequest
      answers.toHostAnswers).2.1 with
  | unavailable => exact errorEnvelope_acceptable hrequest _ _ _
  | error type failure => exact errorEnvelope_acceptable hrequest _ _ _
  | response type payload =>
      obtain ⟨_, hpayload⟩ := RuntimeHost.handle_response hresponse
      obtain ⟨htype, hobject, hvalid⟩ := hpayload.valid
      exact
        { type := htype
          requestId := hrequest.requestId
          sessionId := hrequest.sessionId
          timestampNs := realtimeNowNs_nonneg answers.realtimeNs
          isObject := hobject
          payload := hvalid
          details := rfl }

theorem replyEnvelope_representable (hintegers : IntegersFinite D)
    {request : MessageEnvelope D} {host : RuntimeHost σ}
    {answers : TextAnswers D F}
    (hfinite : ∀ processed ∈ host.processedOutcome setup request.hostRequest
      answers.toHostAnswers, processed.Finite) :
    (replyEnvelope request
      (host.handle setup.withCodec request.hostRequest
        answers.toHostAnswers).2.1 answers).Representable := by
  cases hresponse : (host.handle setup.withCodec request.hostRequest
      answers.toHostAnswers).2.1 with
  | unavailable => exact errorEnvelope_representable request _ _ _
  | error type failure => exact errorEnvelope_representable request _ _ _
  | response type payload =>
      obtain ⟨_, hpayload⟩ := RuntimeHost.handle_response hresponse
      have hpayloadFinite := hpayload.finite hintegers hfinite
      exact
        { payload := hpayloadFinite.representable
          details := fun _ hnone => nomatch hnone }

end Replies

/-! ## Replies are envelopes -/

/-- The reply to a text, decoded by a peer. -/
def RepliesTo (decoded : Except Error (MessageEnvelope D))
    (reply : MessageEnvelope D) : Prop :=
  match decoded with
  | .ok request => reply.Answers request
  | .error _ =>
      reply.type = "protocol_error" ∧
        reply.error.map ErrorPayload.code = some "protocol_error"

/-- Every text is answered by an envelope which a peer accepts. -/
theorem handleText_reply (setup : HostSetup D F σ) {text : JsonText D τ}
    (htext : text.Inverse) (hintegers : IntegersFinite D)
    (host : RuntimeHost σ) (input : τ) (answers : TextAnswers D F)
    (hfinite : ∀ request, decodeEnvelopeForDispatch text input = .ok request →
      ∀ processed ∈ host.processedOutcome setup request.hostRequest
        answers.toHostAnswers, processed.Finite) :
    ∃ reply,
      decodeEnvelope text (host.handleText setup text input answers).2.1 =
          .ok reply ∧
        RepliesTo (decodeEnvelopeForDispatch text input) reply := by
  have haccepted {envelope : MessageEnvelope D}
      (henvelope : envelope.Representable) (hacceptable : envelope.Acceptable) :
      decodeEnvelope text (encodeEnvelope text envelope) =
        .ok envelope.renumbered := by
    rw [decodeEnvelope_encodeEnvelope_eq_ok_iff htext henvelope]
    exact ⟨hacceptable, rfl⟩
  rw [RuntimeHost.handleText, RuntimeHost.answerText]
  cases hdecoded : decodeEnvelopeForDispatch text input with
  | error error =>
      have hunknown : isBlank "unknown" = false := by decide
      have hidentified : (undecodedRequest : MessageEnvelope D).Identified :=
        ⟨hunknown, hunknown⟩
      refine ⟨_, haccepted (errorEnvelope_representable _ _ _ _)
        (errorEnvelope_acceptable hidentified _ _ _), ?_⟩
      exact ⟨rfl, rfl⟩
  | ok request =>
      obtain ⟨message, _, hmessage⟩ := exists_decodeMessage hdecoded
      have hfrom := decodedFrom hmessage
      have hidentified : request.Identified :=
        ⟨hfrom.requestId, hfrom.sessionId⟩
      refine ⟨_, haccepted
        (replyEnvelope_representable hintegers (hfinite request hdecoded))
        (replyEnvelope_acceptable hidentified host answers), ?_⟩
      exact (replyEnvelope_answers request host answers).renumbered

end Host

/-! ## An observation request -/

/-- A host without a robot, whose policy closes the gripper. -/
def gripperHost : HostSetup ℚ ℚ Unit :=
  { motorHost with
    policyId := "gripper"
    hasRobotIo := false
    infer := fun _ _ _ =>
      ((), .value (.object
        [("gripper_command",
          .object [("unit", .string "m"), ("value", .integer 1)])])) }

def observationMessage : JsonValue ℚ :=
  .object
    [("payload", .object [("observation", .object [])]),
      ("request_id", .string "request-1"), ("session_id", .string "arm"),
      ("timestamp_ns", .numberUnsigned 12),
      ("type", .string "observation_request")]

def observationText : String :=
  "\x7b\"payload\":\x7b\"observation\":\x7b\x7d\x7d," ++
    "\"request_id\":\"request-1\",\"session_id\":\"arm\"," ++
    "\"timestamp_ns\":12,\"type\":\"observation_request\"\x7d"

def gripperReply : MessageEnvelope ℚ where
  schema := rpcSchemaVersion
  type := "action_response"
  requestId := "request-1"
  sessionId := "arm"
  stepId := 0
  timestampNs := 20
  payload :=
    .object
      [("action", .object
        [("action_chunk", .array []),
          ("gripper_command",
            .object [("unit", .string "m"), ("value", .numberFloat 1)]),
          ("joint_position_delta", .null), ("meta", .object [])]),
        ("ok", .boolean true)]
  error := none

def gripperReplyText : String :=
  "\x7b\"error\":null,\"payload\":\x7b\"action\":\x7b\"action_chunk\":[]," ++
    "\"gripper_command\":\x7b\"unit\":\"m\",\"value\":1.0\x7d," ++
    "\"joint_position_delta\":null,\"meta\":\x7b\x7d\x7d,\"ok\":true\x7d," ++
    "\"request_id\":\"request-1\"," ++
    "\"schema\":\"embodied-policy-runtime/v1alpha1\"," ++
    "\"session_id\":\"arm\",\"step_id\":0,\"timestamp_ns\":20," ++
    "\"type\":\"action_response\"\x7d"

theorem observationMessage_representable :
    observationMessage.Representable := by
  have hkeys : ["payload", "request_id", "session_id", "timestamp_ns",
      "type"].Pairwise (· < ·) := by decide
  exact ⟨hkeys,
    ⟨List.pairwise_singleton _ _, ⟨List.Pairwise.nil, trivial⟩, trivial⟩,
    trivial, trivial, trivial, trivial, trivial⟩

theorem gripperReply_representable : gripperReply.Representable where
  payload := by
    have houter : ["action", "ok"].Pairwise (· < ·) := by decide
    have haction : ["action_chunk", "gripper_command", "joint_position_delta",
        "meta"].Pairwise (· < ·) := by decide
    have hgripper : ["unit", "value"].Pairwise (· < ·) := by decide
    exact ⟨houter,
      ⟨haction, trivial, ⟨hgripper, trivial, rfl, trivial⟩, trivial,
        ⟨List.Pairwise.nil, trivial⟩, trivial⟩,
      trivial, trivial⟩
  details _ herror := nomatch herror

def writtenObservation : WrittenValues where
  entries :=
    [(observationMessage, observationText),
      (encodeMessage gripperReply, gripperReplyText)]
  representable := by
    intro entry hentry
    rcases List.mem_pair.mp hentry with rfl | rfl
    · exact observationMessage_representable
    · exact gripperReply_representable.encodeMessage
  distinct := by decide

def gripperAnswers : TextAnswers ℚ ℚ where
  toHostAnswers := motorAnswers 1000 .exception
  realtimeNs := 20
  exceptionText := ""

def openGripperHost : RuntimeHost Unit :=
  (RuntimeHost.openHost gripperHost (RuntimeHost.fresh ()) 0 0 0).1

def observationRequest : MessageEnvelope ℚ where
  schema := rpcSchemaVersion
  type := "observation_request"
  requestId := "request-1"
  sessionId := "arm"
  stepId := 0
  timestampNs := 12
  payload := .object [("observation", .object [])]
  error := none

theorem observation_decoded :
    decodeEnvelopeForDispatch writtenObservation.text (.inl observationText) =
      .ok observationRequest := by
  have hparsed : writtenObservation.text.parse (.inl observationText) =
      some observationMessage := by
    simp [WrittenValues.text, writtenObservation, observationMessage,
      JsonValue.renumber, JsonValue.renumberMembers]
  rw [decodeEnvelopeForDispatch, decodeEnvelopeImpl, hparsed]
  rfl

def gripperOutput : Fields ℚ :=
  [("joint_position_delta", .null),
    ("gripper_command",
      .object [("unit", .string "m"), ("value", .number 1)]),
    ("action_chunk", .array []), ("meta", .object [])]

theorem ofHost_gripperOutput :
    (Json.object gripperOutput).ofHost =
      .object
        [("action_chunk", .array []),
          ("gripper_command",
            .object [("unit", .string "m"), ("value", .numberFloat 1)]),
          ("joint_position_delta", .null), ("meta", .object [])] := by
  simp [gripperOutput, Json.ofHost, ofHostFields, ofHostItems, assignMember,
    -String.lt_iff_ltb]

theorem gripperHost_processedAction :
    RuntimeHost.processedAction gripperHost.withCodec
      (.object [("gripper_command",
        .object [("unit", .string "m"), ("value", .integer 1)])]) =
      .ok gripperOutput := by
  have hvalid : gripperHost.withCodec.validateAction gripperOutput =
      .ok () := by
    change validateActionPayload (Json.object gripperOutput).ofHost = _
    rw [ofHost_gripperOutput]
    rfl
  have hprocessed : (gripperHost.withCodec.postprocess
      (.object [("gripper_command",
        .object [("unit", .string "m"), ("value", .integer 1)])])).orFail
        Error.message =
      .ok (.object [("gripper_command",
        .object [("unit", .string "m"), ("value", .integer 1)])]) := rfl
  have hnormalized : normalizedAction
      (.object [("gripper_command",
        .object [("unit", .string "m"), ("value", .integer 1)])]) =
      some gripperOutput := rfl
  rw [RuntimeHost.processedAction, hprocessed]
  simp only [bind, Except.bind, hnormalized, hvalid]

theorem gripperHost_handle :
    (openGripperHost.handle gripperHost.withCodec
      observationRequest.hostRequest gripperAnswers.toHostAnswers).2.1 =
      .response "action_response"
        (.object [("ok", .bool true), ("action", .object gripperOutput)]) := by
  have hrequest : (Json.object [("observation", .object [])] :
      Json ℚ).ofHost = .object [("observation", .object [])] := by
    simp [Json.ofHost, ofHostFields, assignMember, -String.lt_iff_ltb]
  have hpayload : RuntimeHost.payloadError gripperHost.withCodec
      observationRequest.hostRequest = none := by
    have hvalid : gripperHost.withCodec.validatePayload "observation_request"
        (.object [("observation", .object [])]) = .ok () := by
      change RpcCodec.validatePayload "observation_request"
        (Json.object [("observation", .object [])] : Json ℚ).ofHost = .ok ()
      rw [hrequest]
      rfl
    have htype : observationRequest.hostRequest.type = "health_request" ∨
        observationRequest.hostRequest.type = "reset_request" ∨
        observationRequest.hostRequest.type = "observation_request" :=
      .inr (.inr rfl)
    have hcall : gripperHost.withCodec.validatePayload
        observationRequest.hostRequest.type
        observationRequest.hostRequest.payload = .ok () := hvalid
    rw [RuntimeHost.payloadError, if_pos htype, hcall]
  have hobserve : (openGripperHost.observe gripperHost.withCodec
      observationRequest.hostRequest gripperAnswers.toHostAnswers).2.1 =
      .ok (.object
        [("ok", .bool true), ("action", .object gripperOutput)]) := by
    have hobservation : processedObservation gripperHost.withCodec
        gripperAnswers.toHostAnswers observationRequest.hostRequest.payload =
        .ok [("meta", .object [])] := rfl
    have hinferred (host : RuntimeHost Unit) (session : PolicySession) :
        (gripperHost.withCodec.infer host.policy [("meta", .object [])]
          session).2.orFail Error.message =
        .ok (.object [("gripper_command",
          .object [("unit", .string "m"), ("value", .integer 1)])]) := rfl
    rw [RuntimeHost.observe, hobservation]
    dsimp only
    rw [hinferred]
    dsimp only
    rw [gripperHost_processedAction]
    rfl
  rw [RuntimeHost.handle]
  dsimp only
  rw [hpayload, hobserve]
  rfl

theorem handleText_gripperReply :
    (openGripperHost.handleText gripperHost writtenObservation.text
        (.inl observationText) gripperAnswers).2.1 = .inl gripperReplyText ∧
      ∃ reply,
        decodeEnvelope writtenObservation.text (.inl gripperReplyText) =
            .ok reply ∧
          reply.Answers observationRequest := by
  have hreply : (openGripperHost.handleText gripperHost
      writtenObservation.text (.inl observationText) gripperAnswers).2.1 =
      .inl gripperReplyText := by
    have hpayload : (Json.object
        [("ok", .bool true), ("action", .object gripperOutput)]).ofHost =
        gripperReply.payload := by
      rw [ofHost_actionPayload, ofHost_gripperOutput]
      rfl
    rw [RuntimeHost.handleText, RuntimeHost.answerText, observation_decoded]
    dsimp only
    rw [gripperHost_handle, replyEnvelope, hpayload]
    change encodeEnvelope writtenObservation.text gripperReply = _
    rw [encodeEnvelope, WrittenValues.text, writtenObservation]
    simp [observationMessage, encodeMessage]
  have hfinite (request : MessageEnvelope ℚ)
      (hrequest : decodeEnvelopeForDispatch writtenObservation.text
        (.inl observationText) = .ok request) :
      ∀ processed ∈ openGripperHost.processedOutcome gripperHost
        request.hostRequest gripperAnswers.toHostAnswers, processed.Finite := by
    rw [observation_decoded] at hrequest
    cases hrequest
    rintro processed ⟨⟩
    exact ⟨⟨trivial, ⟨by decide, by decide⟩, trivial⟩, trivial⟩
  have hexists := handleText_reply gripperHost writtenObservation.inverse
    (fun _ _ _ => rfl) openGripperHost (.inl observationText) gripperAnswers
    hfinite
  rw [hreply, observation_decoded] at hexists
  exact ⟨hreply, hexists⟩

end PolicyRuntime
