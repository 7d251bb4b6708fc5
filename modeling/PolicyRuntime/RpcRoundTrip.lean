import PolicyRuntime.RpcCodec

/-!
# Encoded envelopes

The encoder writes any envelope.  The decoder of a peer gives it back exactly
when the envelope satisfies the checks of the protocol, with the integers of
its payload in the representation of the parser.
-/

namespace PolicyRuntime

theorem Except.bind_eq_ok_iff {ε α β : Type} {first : Except ε α}
    {next : α → Except ε β} {result : β} :
    first >>= next = .ok result ↔
      ∃ value, first = .ok value ∧ next value = .ok result := by
  cases first with
  | error failure =>
      constructor
      · intro hresult
        contradiction
      · rintro ⟨_, hfirst, _⟩
        contradiction
  | ok value =>
      constructor
      · intro hresult
        exact ⟨value, rfl, hresult⟩
      · rintro ⟨_, hfirst, hresult⟩
        cases hfirst
        exact hresult

namespace RpcCodec

variable {D : Type}

open JsonValue (renumber)

/-! ## Validators do not see the representation of integers -/

section Renumbered

variable (value : JsonValue D)

@[simp] theorem onlyKeys_renumber (allowed : List String) (name : String) :
    onlyKeys value.renumber allowed name = onlyKeys value allowed name := by
  rw [onlyKeys, JsonValue.keys_renumber, onlyKeys]

@[simp] theorem requireString_renumber (key name : String) :
    requireString value.renumber key name = requireString value key name := by
  rw [requireString, requireString, JsonValue.member_renumber]
  cases value.member key with
  | none => rfl
  | some found =>
      dsimp only [Option.map_some]
      rw [JsonValue.isString_renumber]

theorem optionalMember_renumber {test : JsonValue D → Bool}
    (htest : ∀ found, test (renumber found) = test found)
    (key message : String) :
    optionalMember value.renumber key test message =
      optionalMember value key test message := by
  rw [optionalMember, optionalMember, JsonValue.member_renumber]
  cases value.member key with
  | none => rfl
  | some found =>
      dsimp only [Option.map_some]
      rw [htest]

theorem nullableMember_renumber {validate : JsonValue D → Except String Unit}
    (hvalidate : ∀ found, validate (renumber found) = validate found)
    (key : String) :
    nullableMember value.renumber key validate =
      nullableMember value key validate := by
  rw [nullableMember, nullableMember, JsonValue.member_renumber]
  cases value.member key with
  | none => rfl
  | some found =>
      dsimp only [Option.map_some]
      rw [hvalidate, JsonValue.isNull_renumber]

theorem bind_items_renumber (key : String) :
    (value.renumber.member key).bind JsonValue.items =
      ((value.member key).bind JsonValue.items).map (List.map renumber) := by
  rw [JsonValue.member_renumber]
  cases value.member key with
  | none => rfl
  | some found => exact JsonValue.items_renumber found

theorem any_member_renumber {test : JsonValue D → Bool}
    (htest : ∀ found, test (renumber found) = test found) (key : String) :
    (value.renumber.member key).any test = (value.member key).any test := by
  rw [JsonValue.member_renumber]
  cases value.member key with
  | none => rfl
  | some found => exact htest found

theorem all_map_renumber {test : JsonValue D → Bool}
    (htest : ∀ found, test (renumber found) = test found)
    (items : List (JsonValue D)) :
    (items.map renumber).all test = items.all test := by
  rw [List.all_map]
  exact congrArg items.all (funext htest)

@[simp] theorem validateJointState_renumber :
    validateJointState value.renumber = validateJointState value := by
  rw [validateJointState, validateJointState, JsonValue.isObject_renumber,
    onlyKeys_renumber, bind_items_renumber, bind_items_renumber]
  cases (value.member "values").bind JsonValue.items with
  | none => rfl
  | some values =>
      cases (value.member "joint_names").bind JsonValue.items with
      | none => rfl
      | some names =>
          dsimp only [Option.map_some]
          rw [requireString_renumber,
            all_map_renumber JsonValue.isStrictNumber_renumber,
            all_map_renumber JsonValue.isString_renumber, List.length_map,
            List.length_map]

@[simp] theorem validateGripper_renumber :
    validateGripper value.renumber = validateGripper value := by
  rw [validateGripper, validateGripper, JsonValue.isObject_renumber,
    onlyKeys_renumber, requireString_renumber,
    any_member_renumber value JsonValue.isStrictNumber_renumber]

@[simp] theorem validateTaskText_renumber :
    validateTaskText value.renumber = validateTaskText value := by
  rw [validateTaskText, validateTaskText, JsonValue.isObject_renumber,
    onlyKeys_renumber, requireString_renumber]

theorem imageEncoding_renumber :
    imageEncoding value.renumber = imageEncoding value := by
  rw [imageEncoding, imageEncoding, JsonValue.text_renumber]

@[simp] theorem validateImage_renumber :
    validateImage value.renumber = validateImage value := by
  rw [validateImage, validateImage, JsonValue.isObject_renumber,
    onlyKeys_renumber, requireString_renumber,
    optionalMember_renumber value imageEncoding_renumber,
    optionalMember_renumber value JsonValue.isString_renumber]

@[simp] theorem validateObservation_renumber :
    validateObservation value.renumber = validateObservation value := by
  rw [validateObservation, validateObservation, JsonValue.isObject_renumber,
    nullableMember_renumber value validateJointState_renumber,
    nullableMember_renumber value validateGripper_renumber,
    nullableMember_renumber value validateTaskText_renumber,
    nullableMember_renumber value validateImage_renumber,
    optionalMember_renumber value JsonValue.isObject_renumber]

theorem validateActionChunk_renumber :
    validateActionChunk value.renumber = validateActionChunk value := by
  rw [validateActionChunk, validateActionChunk, JsonValue.items_renumber]
  cases value.items with
  | none => rfl
  | some items =>
      dsimp only [Option.map_some]
      rw [all_map_renumber JsonValue.isObject_renumber]

theorem present_renumber (key : String) :
    present value.renumber key = present value key := by
  apply any_member_renumber
  intro found
  rw [JsonValue.isNull_renumber]

theorem hasAction_renumber :
    hasAction value.renumber = hasAction value := by
  rw [hasAction, hasAction, present_renumber, present_renumber,
    bind_items_renumber, JsonValue.keys_renumber]
  cases (value.member "action_chunk").bind JsonValue.items with
  | none => rfl
  | some items => simp

@[simp] theorem validateAction_renumber :
    validateAction value.renumber = validateAction value := by
  rw [validateAction, validateAction, JsonValue.isObject_renumber,
    nullableMember_renumber value validateJointState_renumber,
    nullableMember_renumber value validateGripper_renumber,
    JsonValue.member_renumber,
    optionalMember_renumber value JsonValue.isObject_renumber,
    hasAction_renumber]
  cases value.member "action_chunk" with
  | none => rfl
  | some chunk =>
      dsimp only [Option.map_some]
      rw [validateActionChunk_renumber]

@[simp] theorem validateObservationRequest_renumber :
    validateObservationRequest value.renumber =
      validateObservationRequest value := by
  rw [validateObservationRequest, validateObservationRequest,
    onlyKeys_renumber, JsonValue.member_renumber]
  cases value.member "observation" with
  | none => rfl
  | some observation =>
      dsimp only [Option.map_some]
      rw [JsonValue.isNull_renumber, validateObservation_renumber]

@[simp] theorem validateActionResponse_renumber :
    validateActionResponse value.renumber = validateActionResponse value := by
  rw [validateActionResponse, validateActionResponse, onlyKeys_renumber,
    JsonValue.member_renumber, JsonValue.member_renumber]
  cases value.member "ok" with
  | none => rfl
  | some ok =>
      cases value.member "action" with
      | none => rfl
      | some action =>
          dsimp only [Option.map_some]
          rw [JsonValue.isBoolean_renumber, JsonValue.isNull_renumber,
            validateAction_renumber]

@[simp] theorem validateHealthRequest_renumber :
    validateHealthRequest value.renumber = validateHealthRequest value := by
  rw [validateHealthRequest, validateHealthRequest, onlyKeys_renumber,
    optionalMember_renumber value JsonValue.isBoolean_renumber]

@[simp] theorem validateHealthResponse_renumber :
    validateHealthResponse value.renumber = validateHealthResponse value := by
  rw [validateHealthResponse, validateHealthResponse, onlyKeys_renumber,
    requireString_renumber,
    any_member_renumber value JsonValue.isBoolean_renumber]

@[simp] theorem validateResetRequest_renumber :
    validateResetRequest value.renumber = validateResetRequest value := by
  rw [validateResetRequest, validateResetRequest, onlyKeys_renumber,
    optionalMember_renumber value JsonValue.isBoolean_renumber]

theorem validateTransports_renumber :
    validateTransports value.renumber = validateTransports value := by
  rw [validateTransports, validateTransports, JsonValue.items_renumber]
  cases value.items with
  | none => rfl
  | some items =>
      dsimp only [Option.map_some]
      rw [all_map_renumber JsonValue.isString_renumber]

@[simp] theorem validateServerInfoResponse_renumber :
    validateServerInfoResponse value.renumber =
      validateServerInfoResponse value := by
  rw [validateServerInfoResponse, validateServerInfoResponse,
    onlyKeys_renumber, requireString_renumber, requireString_renumber,
    optionalMember_renumber value JsonValue.isString_renumber,
    JsonValue.member_renumber]
  cases value.member "transports" with
  | none => rfl
  | some transports =>
      dsimp only [Option.map_some]
      rw [validateTransports_renumber]

theorem validatePayloadForType_renumber (type : String) :
    validatePayloadForType type value.renumber =
      validatePayloadForType type value := by
  simp [validatePayloadForType]

end Renumbered

end RpcCodec

/-! ## The encoded message -/

variable {D : Type}

/-- The error with the details of the parser. -/
def ErrorPayload.renumbered (error : ErrorPayload D) : ErrorPayload D :=
  { error with details := error.details.renumber }

/-- The envelope with the payload and the details of the parser. -/
def MessageEnvelope.renumbered (envelope : MessageEnvelope D) :
    MessageEnvelope D :=
  { envelope with
    payload := envelope.payload.renumber
    error := envelope.error.map ErrorPayload.renumbered }

namespace RpcCodec

open JsonValue (renumber)

theorem stringMember_renumber {message : JsonValue D} {key value : String}
    (hmember : message.member key = some (.string value)) (failure : String) :
    stringMember message.renumber key failure = .ok value := by
  rw [stringMember, JsonValue.member_renumber, hmember]
  rfl

theorem decodeTimestamp_renumber (timestampNs : BitVec 64) :
    decodeTimestamp (renumber (.numberInteger timestampNs : JsonValue D)) = (do
      reject (timestampNs.toInt < 0) "timestamp_ns must be >= 0"
      .ok timestampNs) := by
  by_cases hnegative : timestampNs.toInt < 0
  · rw [renumber, if_pos hnegative, decodeTimestamp, if_pos hnegative, reject,
      if_pos (decide_eq_true hnegative)]
    rfl
  · have hrange : ¬2 ^ 63 - 1 < timestampNs.toNat := by
      rw [BitVec.toInt_eq_toNat_cond] at hnegative
      have hbound := timestampNs.isLt
      split at hnegative <;> omega
    rw [renumber, if_neg hnegative, decodeTimestamp, if_neg hrange, reject,
      if_neg (by simpa using hnegative)]
    rfl

theorem validateErrorPayload_encodeError (error : ErrorPayload D) :
    validateErrorPayload (encodeError (some error)).renumber = (do
      reject (!error.details.isObject) "error details must be an object"
      .ok error.renumbered) := by
  have hkeys : onlyKeys (encodeError (some error)).renumber
      ["code", "message", "details"] "error" = .ok () := by
    rw [onlyKeys_renumber]
    rfl
  have hcode : requireString (encodeError (some error)).renumber "code"
      "error" = .ok () := by
    rw [requireString_renumber]
    rfl
  have hmessage : requireString (encodeError (some error)).renumber "message"
      "error" = .ok () := by
    rw [requireString_renumber]
    rfl
  have hdetails : optionalMember (encodeError (some error)).renumber "details"
      JsonValue.isObject "error details must be an object" =
        reject (!error.details.isObject) "error details must be an object" := by
    rw [optionalMember_renumber _ JsonValue.isObject_renumber]
    change (if error.details.isObject then _ else _) = _
    cases error.details.isObject with
    | false => rfl
    | true => rfl
  rw [validateErrorPayload, JsonValue.isObject_renumber, hkeys, hcode,
    hmessage, hdetails, JsonValue.member_renumber, JsonValue.member_renumber,
    JsonValue.member_renumber]
  rfl

/-- The details of an error have to be an object. -/
def hasObjectDetails (error : Option (ErrorPayload D)) : Bool :=
  error.all fun payload => payload.details.isObject

theorem decodeError_encodeMessage (envelope : MessageEnvelope D) :
    decodeError (encodeMessage envelope).renumber = (do
      reject (!hasObjectDetails envelope.error)
        "error details must be an object"
      .ok envelope.renumbered.error) := by
  have hmember : (encodeMessage envelope).renumber.member "error" =
      some (encodeError envelope.error).renumber := by
    rw [JsonValue.member_renumber]
    rfl
  rw [decodeError, hmember]
  dsimp only
  rw [JsonValue.isNull_renumber]
  cases herror : envelope.error with
  | none =>
      simp only [MessageEnvelope.renumbered, herror]
      rfl
  | some error =>
      simp only [MessageEnvelope.renumbered, herror]
      have hnull : (encodeError (some error)).isNull = false := rfl
      rw [hnull, if_neg Bool.false_ne_true, validateErrorPayload_encodeError,
        hasObjectDetails, Option.all_some]
      cases error.details.isObject with
      | false => rfl
      | true => rfl

/-- The decoder makes the checks which depend on the envelope. -/
theorem decodeMessage_encodeMessage (envelope : MessageEnvelope D) :
    decodeMessage true (encodeMessage envelope).renumber = (do
      reject (isBlank envelope.type) "type must be non-empty"
      reject (isBlank envelope.requestId) "request_id must be non-empty"
      reject (isBlank envelope.sessionId) "session_id must be non-empty"
      reject (envelope.timestampNs.toInt < 0) "timestamp_ns must be >= 0"
      reject (!envelope.payload.isObject) "payload must be an object"
      validatePayloadForType envelope.type envelope.payload
      reject (!hasObjectDetails envelope.error)
        "error details must be an object"
      .ok envelope.renumbered) := by
  have hkeys : requireTopLevelKeys (encodeMessage envelope).renumber =
      .ok () := by
    rw [requireTopLevelKeys, JsonValue.keys_renumber]
    rfl
  have hschema : decodeSchema (encodeMessage envelope).renumber =
      .ok envelope.schema := by
    have hmember : (encodeMessage envelope).member "schema" =
        some (.string envelope.schema) := rfl
    rw [decodeSchema, stringMember_renumber hmember,
      JsonValue.member_renumber]
    rfl
  have htype : (encodeMessage envelope).member "type" =
      some (.string envelope.type) := rfl
  have hrequestId : (encodeMessage envelope).member "request_id" =
      some (.string envelope.requestId) := rfl
  have hsessionId : (encodeMessage envelope).member "session_id" =
      some (.string envelope.sessionId) := rfl
  have hstepId : decodeStepId (encodeMessage envelope).renumber =
      .ok envelope.stepId := by
    rw [decodeStepId, JsonValue.member_renumber]
    rfl
  have htimestamp : (encodeMessage envelope).renumber.member "timestamp_ns" =
      some (renumber (.numberInteger envelope.timestampNs)) := by
    rw [JsonValue.member_renumber]
    rfl
  have hpayload : (encodeMessage envelope).renumber.member "payload" =
      some envelope.payload.renumber := by
    rw [JsonValue.member_renumber]
    rfl
  have hinteger :
      (some (renumber
        (.numberInteger envelope.timestampNs : JsonValue D))).any
          JsonValue.isStrictInteger = true := by
    rw [Option.any_some, JsonValue.isStrictInteger, JsonValue.kind_renumber]
    rfl
  rw [decodeMessage, JsonValue.isObject_renumber, hkeys, hschema,
    stringMember_renumber htype, stringMember_renumber hrequestId,
    stringMember_renumber hsessionId, htimestamp, hinteger,
    Option.getD_some, decodeTimestamp_renumber, hstepId, hpayload,
    Option.getD_some, decodeError_encodeMessage]
  simp only [JsonValue.isObject_renumber, checkTypedPayload, if_true,
    validatePayloadForType_renumber, bind_assoc]
  rfl

/-! ## Acceptable envelopes -/

theorem reject_eq_ok_iff {failed : Bool} {message : String} {result : Unit} :
    reject failed message = .ok result ↔ failed = false := by
  cases failed with
  | false => simp [reject]
  | true => simp [reject]

end RpcCodec

open RpcCodec

/-- The checks which the protocol makes on an envelope. -/
structure MessageEnvelope.Acceptable (envelope : MessageEnvelope D) :
    Prop where
  type : isBlank envelope.type = false
  requestId : isBlank envelope.requestId = false
  sessionId : isBlank envelope.sessionId = false
  timestampNs : 0 ≤ envelope.timestampNs.toInt
  isObject : envelope.payload.isObject = true
  payload : validatePayload envelope.type envelope.payload = .ok ()
  details : hasObjectDetails envelope.error = true

theorem RpcCodec.protocolError_eq_ok_iff {α : Type}
    {result : Except String α} {value : α} :
    protocolError result = .ok value ↔ result = .ok value := by
  cases result with
  | error message => simp [protocolError, Except.mapError]
  | ok found => simp [protocolError, Except.mapError]

/-- A decoder of the encoded message accepts the acceptable envelopes. -/
theorem RpcCodec.decodeMessage_encodeMessage_eq_ok_iff
    {envelope decoded : MessageEnvelope D} :
    decodeMessage true (encodeMessage envelope).renumber = .ok decoded ↔
      envelope.Acceptable ∧ decoded = envelope.renumbered := by
  rw [decodeMessage_encodeMessage]
  simp only [Except.bind_eq_ok_iff, reject_eq_ok_iff, Except.ok.injEq,
    exists_const]
  constructor
  · rintro ⟨htype, hrequestId, hsessionId, htimestampNs, hobject, ⟨⟩,
      hpayload, hdetails, hdecoded⟩
    constructor
    · exact
        { type := htype
          requestId := hrequestId
          sessionId := hsessionId
          timestampNs := by simpa using htimestampNs
          isObject := by simpa using hobject
          payload := protocolError_eq_ok_iff.mpr hpayload
          details := by simpa using hdetails }
    · exact hdecoded.symm
  · rintro ⟨hacceptable, hdecoded⟩
    apply And.intro hacceptable.type
    apply And.intro hacceptable.requestId
    apply And.intro hacceptable.sessionId
    apply And.intro (by simpa using hacceptable.timestampNs)
    apply And.intro (by simpa using hacceptable.isObject)
    apply Exists.intro ()
    apply And.intro (protocolError_eq_ok_iff.mp hacceptable.payload)
    exact ⟨by simpa using hacceptable.details, hdecoded.symm⟩

/-! ## Decoded envelopes -/

/-- What a decoder has checked of an envelope. -/
structure MessageEnvelope.DecodedFrom (validateTypedPayload : Bool)
    (message : JsonValue D) (envelope : MessageEnvelope D) : Prop where
  type : isBlank envelope.type = false
  requestId : isBlank envelope.requestId = false
  sessionId : isBlank envelope.sessionId = false
  timestampNs : 0 ≤ envelope.timestampNs.toInt
  payload : envelope.payload = (message.member "payload").getD (.object [])
  isObject : envelope.payload.isObject = true
  typedPayload :
    checkTypedPayload validateTypedPayload envelope.type envelope.payload =
      .ok ()
  error : decodeError message = .ok envelope.error

namespace RpcCodec

theorem nonneg_of_decodeTimestamp {timestamp : JsonValue D}
    {timestampNs : BitVec 64}
    (hdecoded : decodeTimestamp timestamp = .ok timestampNs) :
    0 ≤ timestampNs.toInt := by
  cases timestamp with
  | numberInteger value =>
      rw [decodeTimestamp] at hdecoded
      split at hdecoded
      · contradiction
      · case _ hnonneg =>
          cases hdecoded
          exact not_lt.mp hnonneg
  | numberUnsigned value =>
      rw [decodeTimestamp] at hdecoded
      split at hdecoded
      · contradiction
      · case _ hrange =>
          cases hdecoded
          rw [BitVec.toInt_eq_toNat_of_lt (by omega)]
          exact Int.natCast_nonneg _
  | _ => contradiction

theorem decodedFrom {validateTypedPayload : Bool} {message : JsonValue D}
    {envelope : MessageEnvelope D}
    (hdecoded : decodeMessage validateTypedPayload message = .ok envelope) :
    envelope.DecodedFrom validateTypedPayload message := by
  rw [decodeMessage] at hdecoded
  simp only [Except.bind_eq_ok_iff, reject_eq_ok_iff, exists_const]
    at hdecoded
  obtain ⟨_, _, _, schema, _, type, _, requestId, _, sessionId, _, _, htype,
    hrequestId, hsessionId, timestampNs, htimestampNs, stepId, _, hobject, _,
    htypedPayload, error, herror, henvelope⟩ := hdecoded
  cases henvelope
  exact
    { type := htype
      requestId := hrequestId
      sessionId := hsessionId
      timestampNs := nonneg_of_decodeTimestamp htimestampNs
      payload := rfl
      isObject := by simpa using hobject
      typedPayload := htypedPayload
      error := herror }

theorem validateErrorPayload_details {value : JsonValue D}
    {error : ErrorPayload D} (herror : validateErrorPayload value = .ok error) :
    error.details.isObject = true ∧
      error.details = (value.member "details").getD (.object []) := by
  rw [validateErrorPayload] at herror
  split at herror
  · contradiction
  simp only [Except.bind_eq_ok_iff] at herror
  obtain ⟨_, _, _, _, _, _, _, hdetails, hresult⟩ := herror
  cases hresult
  constructor
  · rw [optionalMember] at hdetails
    dsimp only
    cases hmember : value.member "details" with
    | none => rfl
    | some details =>
        rw [hmember] at hdetails
        dsimp only at hdetails
        by_cases hobject : details.isObject = true
        · exact hobject
        · rw [if_neg hobject] at hdetails
          contradiction
  · rfl

theorem exists_validateErrorPayload {message : JsonValue D}
    {error : ErrorPayload D} (herror : decodeError message = .ok (some error)) :
    ∃ value, message.member "error" = some value ∧
      validateErrorPayload value = .ok error := by
  rw [decodeError] at herror
  cases hmember : message.member "error" with
  | none =>
      rw [hmember] at herror
      cases herror
  | some value =>
      rw [hmember] at herror
      dsimp only at herror
      split at herror
      · cases herror
      · cases hvalidated : validateErrorPayload value with
        | error failure =>
            rw [hvalidated] at herror
            contradiction
        | ok payload =>
            rw [hvalidated] at herror
            cases herror
            exact ⟨value, rfl, hvalidated⟩

theorem hasObjectDetails_of_decodeError {message : JsonValue D}
    {error : Option (ErrorPayload D)}
    (herror : decodeError message = .ok error) :
    hasObjectDetails error = true := by
  cases error with
  | none => rfl
  | some payload =>
      obtain ⟨value, _, hvalidated⟩ := exists_validateErrorPayload herror
      exact (validateErrorPayload_details hvalidated).1

theorem acceptable_of_decodeMessage {message : JsonValue D}
    {envelope : MessageEnvelope D}
    (hdecoded : decodeMessage true message = .ok envelope) :
    envelope.Acceptable :=
  have hfrom := decodedFrom hdecoded
  { type := hfrom.type
    requestId := hfrom.requestId
    sessionId := hfrom.sessionId
    timestampNs := hfrom.timestampNs
    isObject := hfrom.isObject
    payload := protocolError_eq_ok_iff.mpr hfrom.typedPayload
    details := hasObjectDetails_of_decodeError hfrom.error }

end RpcCodec

/-! ## The round trip -/

section RoundTrip

variable [FloatingPoint D]

/-- The numbers of the payload and of the details are finite. -/
structure MessageEnvelope.Representable (envelope : MessageEnvelope D) :
    Prop where
  payload : envelope.payload.Representable
  details : ∀ error ∈ envelope.error, error.details.Representable

/-- Equality of all members, with the equality of the JSON library. -/
def ErrorPayload.equal (left right : ErrorPayload D) : Bool :=
  left.code == right.code && left.message == right.message &&
    left.details.equal right.details

def equalErrors : Option (ErrorPayload D) → Option (ErrorPayload D) → Bool
  | none, none => true
  | some left, some right => left.equal right
  | _, _ => false

def MessageEnvelope.equal (left right : MessageEnvelope D) : Bool :=
  left.schema == right.schema && left.type == right.type &&
    left.requestId == right.requestId && left.sessionId == right.sessionId &&
    left.stepId == right.stepId && left.timestampNs == right.timestampNs &&
    left.payload.equal right.payload && equalErrors left.error right.error

theorem MessageEnvelope.Representable.equal_renumbered
    {envelope : MessageEnvelope D} (henvelope : envelope.Representable) :
    envelope.equal envelope.renumbered = true := by
  have herror : equalErrors envelope.error envelope.renumbered.error = true := by
    rw [MessageEnvelope.renumbered]
    dsimp only
    cases herror : envelope.error with
    | none => rfl
    | some error =>
        have hequal :=
          JsonValue.equal_renumber (henvelope.details error herror)
        simp [equalErrors, ErrorPayload.equal, ErrorPayload.renumbered, hequal]
  have hpayload := JsonValue.equal_renumber henvelope.payload
  rw [MessageEnvelope.equal, herror]
  simp [MessageEnvelope.renumbered, hpayload]

theorem RpcCodec.representable_encodeError
    {error : Option (ErrorPayload D)}
    (hdetails : ∀ payload ∈ error, payload.details.Representable) :
    (encodeError error).Representable := by
  cases error with
  | none => trivial
  | some payload =>
      have hkeys : ["code", "details", "message"].Pairwise (· < ·) := by decide
      exact ⟨hkeys, trivial, hdetails payload rfl, trivial, trivial⟩

theorem MessageEnvelope.Representable.encodeMessage
    {envelope : MessageEnvelope D} (henvelope : envelope.Representable) :
    (RpcCodec.encodeMessage envelope).Representable := by
  have hkeys : ["error", "payload", "request_id", "schema", "session_id",
      "step_id", "timestamp_ns", "type"].Pairwise (· < ·) := by decide
  exact ⟨hkeys, representable_encodeError henvelope.details,
    henvelope.payload, trivial, trivial, trivial, trivial, trivial, trivial,
    trivial⟩

namespace RpcCodec

/-- The envelope of a representable message is representable. -/
theorem representable_of_decodeMessage {validateTypedPayload : Bool}
    {message : JsonValue D} {envelope : MessageEnvelope D}
    (hmessage : message.Representable)
    (hdecoded : decodeMessage validateTypedPayload message = .ok envelope) :
    envelope.Representable := by
  have hfrom := decodedFrom hdecoded
  have hdefault : (.object [] : JsonValue D).Representable :=
    ⟨List.Pairwise.nil, trivial⟩
  have hmember {object : JsonValue D} (hobject : object.Representable)
      (name : String) :
      ((object.member name).getD (.object [])).Representable := by
    cases hvalue : object.member name with
    | none => exact hdefault
    | some value => exact hobject.member hvalue
  constructor
  · rw [hfrom.payload]
    exact hmember hmessage "payload"
  · intro error herror
    have hdecodedError := hfrom.error
    rw [herror] at hdecodedError
    obtain ⟨value, hvalue, hvalidated⟩ :=
      exists_validateErrorPayload hdecodedError
    rw [(validateErrorPayload_details hvalidated).2]
    exact hmember (hmessage.member hvalue) "details"

variable {τ : Type} {text : JsonText D τ}

theorem decodeEnvelope_encodeEnvelope_eq_ok_iff (htext : text.Inverse)
    {envelope decoded : MessageEnvelope D}
    (henvelope : envelope.Representable) :
    decodeEnvelope text (encodeEnvelope text envelope) = .ok decoded ↔
      envelope.Acceptable ∧ decoded = envelope.renumbered := by
  rw [decodeEnvelope, decodeEnvelopeImpl, encodeEnvelope,
    htext.parse_dump _ henvelope.encodeMessage]
  dsimp only
  rw [protocolError_eq_ok_iff, decodeMessage_encodeMessage_eq_ok_iff]

omit [FloatingPoint D] in
theorem exists_decodeMessage {validateTypedPayload : Bool} {input : τ}
    {envelope : MessageEnvelope D}
    (hdecoded :
      decodeEnvelopeImpl text validateTypedPayload input = .ok envelope) :
    ∃ message, text.parse input = some message ∧
      decodeMessage validateTypedPayload message = .ok envelope := by
  rw [decodeEnvelopeImpl] at hdecoded
  cases hparsed : text.parse input with
  | none =>
      rw [hparsed] at hdecoded
      contradiction
  | some message =>
      rw [hparsed] at hdecoded
      exact ⟨message, rfl, protocolError_eq_ok_iff.mp hdecoded⟩

/-- An encoded envelope is decoded exactly when it is acceptable, and then to
itself; a decoded envelope is encoded and decoded to itself. -/
theorem envelope_roundTrip (htext : text.Inverse) :
    (∀ envelope : MessageEnvelope D, envelope.Representable →
      ((decodeEnvelope text (encodeEnvelope text envelope)).isOk = true ↔
        envelope.Acceptable) ∧
      (envelope.Acceptable →
        decodeEnvelope text (encodeEnvelope text envelope) =
            .ok envelope.renumbered ∧
          envelope.equal envelope.renumbered = true)) ∧
    ∀ input envelope, decodeEnvelope text input = .ok envelope →
      decodeEnvelope text (encodeEnvelope text envelope) =
          .ok envelope.renumbered ∧
        envelope.equal envelope.renumbered = true := by
  have hdecode (envelope : MessageEnvelope D)
      (henvelope : envelope.Representable)
      (hacceptable : envelope.Acceptable) :
      decodeEnvelope text (encodeEnvelope text envelope) =
          .ok envelope.renumbered ∧
        envelope.equal envelope.renumbered = true := by
    constructor
    · rw [decodeEnvelope_encodeEnvelope_eq_ok_iff htext henvelope]
      exact ⟨hacceptable, rfl⟩
    · exact henvelope.equal_renumbered
  constructor
  · intro envelope henvelope
    constructor
    · constructor
      · intro hok
        cases hdecoded :
            decodeEnvelope text (encodeEnvelope text envelope) with
        | error failure =>
            rw [hdecoded] at hok
            contradiction
        | ok decoded =>
            rw [decodeEnvelope_encodeEnvelope_eq_ok_iff htext henvelope]
              at hdecoded
            exact hdecoded.1
      · intro hacceptable
        rw [(hdecode envelope henvelope hacceptable).1]
        rfl
    · exact hdecode envelope henvelope
  · intro input envelope hdecoded
    obtain ⟨message, hparsed, hmessage⟩ := exists_decodeMessage hdecoded
    have hrepresentable := htext.parsed input message hparsed
    exact hdecode envelope
      (representable_of_decodeMessage hrepresentable hmessage)
      (acceptable_of_decodeMessage hmessage)

end RpcCodec

end RoundTrip

/-! ## A health response -/

/-- Values with their literal texts. -/
structure WrittenValues where
  entries : List (JsonValue ℚ × String)
  representable : ∀ entry ∈ entries, entry.1.Representable
  distinct : (entries.map Prod.snd).Nodup

open Classical in
/-- A value without a literal text stands for its text. -/
noncomputable def WrittenValues.text (written : WrittenValues) :
    JsonText ℚ (String ⊕ JsonValue ℚ) where
  parse input :=
    match input with
    | .inl literal =>
        (written.entries.find? (·.2 = literal)).map (·.1.renumber)
    | .inr value => if value.Representable then some value.renumber else none
  dump value :=
    match written.entries.find? (·.1 = value) with
    | some entry => .inl entry.2
    | none => .inr value

theorem WrittenValues.find_literal (written : WrittenValues)
    {entry : JsonValue ℚ × String} (hentry : entry ∈ written.entries) :
    written.entries.find? (·.2 = entry.2) = some entry := by
  cases hfound : written.entries.find? (·.2 = entry.2) with
  | none =>
      rw [List.find?_eq_none] at hfound
      simpa using hfound entry hentry
  | some found =>
      have hliteral : found.2 = entry.2 := by
        simpa using List.find?_some hfound
      have hsame := List.inj_on_of_nodup_map written.distinct
        (List.mem_of_find?_eq_some hfound) hentry hliteral
      rw [hsame]

theorem WrittenValues.inverse (written : WrittenValues) :
    written.text.Inverse := by
  classical
  constructor
  · intro value hvalue
    cases hfound : written.entries.find? (·.1 = value) with
    | none =>
        simp only [text, hfound]
        exact if_pos hvalue
    | some entry =>
        have hentry : entry.1 = value := by
          simpa using List.find?_some hfound
        simp only [text, hfound]
        rw [written.find_literal (List.mem_of_find?_eq_some hfound),
          Option.map_some, hentry]
  · intro input value hparsed
    cases input with
    | inl literal =>
        obtain ⟨entry, hfound, rfl⟩ := Option.map_eq_some_iff.mp hparsed
        have hmem := List.mem_of_find?_eq_some hfound
        exact (written.representable entry hmem).renumber
    | inr other =>
        simp only [text, Option.ite_none_right_eq_some,
          Option.some.injEq] at hparsed
        rw [← hparsed.2]
        exact hparsed.1.renumber

def healthResponse : MessageEnvelope ℚ where
  schema := rpcSchemaVersion
  type := "health_response"
  requestId := "request-1"
  sessionId := "session-1"
  stepId := 7
  timestampNs := 12
  payload := .object [("ok", .boolean true), ("policy_id", .string "hold")]
  error := none

def healthResponseText : String :=
  "\x7b\"error\":null,\"payload\":\x7b\"ok\":true,\"policy_id\":\"hold\"\x7d," ++
    "\"request_id\":\"request-1\"," ++
    "\"schema\":\"embodied-policy-runtime/v1alpha1\"," ++
    "\"session_id\":\"session-1\",\"step_id\":7,\"timestamp_ns\":12," ++
    "\"type\":\"health_response\"\x7d"

theorem healthResponse_representable : healthResponse.Representable where
  payload := by
    have hkeys : ["ok", "policy_id"].Pairwise (· < ·) := by decide
    exact ⟨hkeys, trivial, trivial, trivial⟩
  details _ herror := nomatch herror

theorem healthResponse_acceptable : healthResponse.Acceptable where
  type := by decide
  requestId := by decide
  sessionId := by decide
  timestampNs := by decide
  isObject := rfl
  payload := by rfl
  details := rfl

def writtenHealthResponse : WrittenValues where
  entries := [(encodeMessage healthResponse, healthResponseText)]
  representable := by
    intro entry hentry
    rw [List.mem_singleton.mp hentry]
    exact healthResponse_representable.encodeMessage
  distinct := List.nodup_singleton _

theorem RpcCodec.envelope_roundTrip_healthResponse :
    encodeEnvelope writtenHealthResponse.text healthResponse =
        .inl healthResponseText ∧
      decodeEnvelope writtenHealthResponse.text (.inl healthResponseText) =
        .ok healthResponse.renumbered := by
  have hwritten : encodeEnvelope writtenHealthResponse.text healthResponse =
      .inl healthResponseText := by
    simp [encodeEnvelope, WrittenValues.text, writtenHealthResponse]
  have hround := ((envelope_roundTrip writtenHealthResponse.inverse).1
    healthResponse healthResponse_representable).2 healthResponse_acceptable
  rw [hwritten] at hround
  exact ⟨hwritten, hround.1⟩

end PolicyRuntime
