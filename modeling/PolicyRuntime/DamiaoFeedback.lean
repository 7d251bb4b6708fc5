import PolicyRuntime.DamiaoFrames
import PolicyRuntime.SensorNetwork

/-!
# Feedback frames of both languages

The simulated motor encodes feedback in Python, the runtime decodes it in C++.
The nibbles, the signed temperatures and the rounding of the two agree:
decoding returns the feedback up to half a step of each value, and encoding a
decoded frame gives the frame again.
-/

namespace PolicyRuntime

open Quantization
open scoped DamiaoPayload

/-! ## The two codecs -/

section Decoder

variable {F : Type} [SinglePrecision F]

/-- `DamiaoProtocol::decode_feedback`, of a frame of eight bytes. -/
def decodeFeedback (canId : ℕ) (frame : DamiaoPayload) (length : ℕ)
    (limits : DamiaoLimits F) : Except Error (DamiaoFeedback F) :=
  let positive := fun value => SinglePrecision.lt (SinglePrecision.ofNat 0)
    (value : F)
  if 0x7FF < canId || length ≠ 8 ||
      !(positive limits.positionMax && positive limits.velocityMax &&
        positive limits.torqueMax) then
    .error ⟨.invalidArgument, "invalid CAN feedback frame"⟩
  else
    let byte := fun i : Fin 8 => (frame i).toNat
    let idError := byte 0
    let position := byte 1 <<< 8 ||| byte 2
    let velocity := byte 3 <<< 4 ||| byte 4 >>> 4
    let torque := (byte 4 &&& 0x0F) <<< 8 ||| byte 5
    .ok
      { motorId := idError &&& 0x0F
        errorCode := idError >>> 4
        position := decodeCode position 0xFFFF
          (SinglePrecision.neg limits.positionMax) limits.positionMax
        velocity := decodeCode velocity 0x0FFF
          (SinglePrecision.neg limits.velocityMax) limits.velocityMax
        torque := decodeCode torque 0x0FFF
          (SinglePrecision.neg limits.torqueMax) limits.torqueMax
        mosTemperature := (frame 6).toInt
        rotorTemperature := (frame 7).toInt }

end Decoder

/-- `_encode` of the simulated motor.  It divides by zero when its interval is
empty; the integer is the floor of a value which is not negative. -/
def encodeValue (value minimum maximum : ℚ) (maximumCode : ℕ) : Option ℕ :=
  if maximum - minimum = 0 then none
  else
    let ratio := min 1 (max 0 ((value - minimum) / (maximum - minimum)))
    some ⌊ratio * maximumCode + 1 / 2⌋₊

/-- Python's `bytes` of integers, which have to be below 256. -/
def pythonBytes (values : Fin 8 → ℕ) : Option DamiaoPayload :=
  if ∀ i, values i < 256 then some fun i => BitVec.ofNat 8 (values i)
  else none

def encodeFeedback (feedback : DamiaoFeedback ℚ) (limits : DamiaoLimits ℚ) :
    Option DamiaoPayload := do
  let p ← encodeValue feedback.position (-limits.positionMax)
    limits.positionMax 0xFFFF
  let v ← encodeValue feedback.velocity (-limits.velocityMax)
    limits.velocityMax 0xFFF
  let t ← encodeValue feedback.torque (-limits.torqueMax) limits.torqueMax
    0xFFF
  pythonBytes
    ![(feedback.errorCode &&& 0x0F) <<< 4 ||| feedback.motorId &&& 0x0F,
      p >>> 8,
      p &&& 0xFF,
      v >>> 4,
      (v &&& 0x0F) <<< 4 ||| t >>> 8,
      t &&& 0xFF,
      (feedback.mosTemperature % 256).toNat,
      (feedback.rotorTemperature % 256).toNat]

/-! ## The sensor -/

theorem payload_length_le : 8 ≤ 256 := by decide

/-- The payload of a device frame. -/
def DeviceFrame.payload (frame : DeviceFrame) : DamiaoPayload :=
  fun i => frame.bytes (i.castLE payload_length_le)

/-- The bytes of a decoded frame by division. -/
theorem decodeFeedback_fields (frame : DamiaoPayload) :
    (frame 0).toNat &&& 0x0F = (frame 0).toNat % 16 ∧
      (frame 0).toNat >>> 4 = (frame 0).toNat / 16 ∧
      (frame 1).toNat <<< 8 ||| (frame 2).toNat =
        (frame 1).toNat * 256 + (frame 2).toNat ∧
      (frame 3).toNat <<< 4 ||| (frame 4).toNat >>> 4 =
        (frame 3).toNat * 16 + (frame 4).toNat / 16 ∧
      ((frame 4).toNat &&& 0x0F) <<< 8 ||| (frame 5).toNat =
        (frame 4).toNat % 16 * 256 + (frame 5).toNat := by
  have hfour : (frame 4).toNat / 16 < 16 := by omega
  have hnibble := nat_and_nibble
  have hshift := fun value => nat_shiftRight_eq value 4
  refine ⟨hnibble _, hshift _, nat_shiftLeft_or 8 (frame 2).isLt, ?_, ?_⟩
  · rw [hshift]
    exact nat_shiftLeft_or 4 hfour
  · rw [hnibble]
    exact nat_shiftLeft_or 8 (frame 5).isLt

/-- The sensor decodes the frames which it accepts with the protocol's
decoder. -/
theorem MotorProfile.decode_eq
    {F : Type} [SinglePrecision F] (motor : MotorProfile F)
    (frame : DeviceFrame) :
    motor.decode frame =
      if motor.accepts frame then
        (decodeFeedback frame.address.toNat frame.payload frame.size.toNat
          motor.limits).toOption
      else none := by
  obtain ⟨hid, herror, hposition, hvelocity, htorque⟩ :=
    decodeFeedback_fields frame.payload
  have hsize : (frame.size.toNat ≠ 8) ↔ frame.size ≠ 8 := by
    rw [not_iff_not, ← BitVec.toNat_inj]
    rfl
  unfold MotorProfile.decode decodeFeedback
  simp only [hid, herror, hposition, hvelocity, htorque, hsize]
  cases motor.accepts frame with
  | false => rfl
  | true =>
      simp only [Bool.not_true, Bool.false_eq_true, if_false, if_true]
      split
      · rfl
      · rfl

/-! ## Codes -/

theorem encodeValue_eq
    (scale : Scale ℚ) {value : ℚ} (hleast : scale.least ≤ value)
    (hgreatest : value ≤ scale.greatest) :
    encodeValue value scale.least scale.greatest scale.steps =
      some (scale.code value).toNat := by
  have hrange := scale.range_pos
  obtain ⟨hzero, hposition⟩ := scale.position_mem hleast hgreatest
  have hlow : 0 ≤ (value - scale.least) / (scale.greatest - scale.least) :=
    div_nonneg (by linarith) hrange.le
  have hhigh : (value - scale.least) / (scale.greatest - scale.least) ≤ 1 := by
    rw [div_le_one hrange]
    linarith
  rw [encodeValue, if_neg hrange.ne', max_eq_right hlow, min_eq_right hhigh,
    Scale.code, round_eq, Int.floor_toNat]
  rfl

/-- The integers which become the bytes of a feedback frame. -/
def feedbackBytes (feedback : DamiaoFeedback ℚ) (p v t : ℕ) : Fin 8 → ℕ :=
  ![feedback.errorCode % 16 * 16 + feedback.motorId % 16,
    p / 256,
    p % 256,
    v / 16,
    v % 16 * 16 + t / 256,
    t % 256,
    (feedback.mosTemperature % 256).toNat,
    (feedback.rotorTemperature % 256).toNat]

theorem feedbackBytes_lt
    (feedback : DamiaoFeedback ℚ) {p v t : ℕ} (hp : p < 65536)
    (hv : v < 4096) (ht : t < 4096) (i : Fin 8) :
    feedbackBytes feedback p v t i < 256 := by
  fin_cases i <;> simp [feedbackBytes] <;> omega

theorem encodeFeedback_eq
    {feedback : DamiaoFeedback ℚ} {limits : DamiaoLimits ℚ} {p v t : ℕ}
    (hposition : encodeValue feedback.position (-limits.positionMax)
      limits.positionMax 0xFFFF = some p)
    (hvelocity : encodeValue feedback.velocity (-limits.velocityMax)
      limits.velocityMax 0xFFF = some v)
    (htorque : encodeValue feedback.torque (-limits.torqueMax)
      limits.torqueMax 0xFFF = some t)
    (hp : p < 65536) (hv : v < 4096) (ht : t < 4096) :
    encodeFeedback feedback limits =
      some fun i => BitVec.ofNat 8 (feedbackBytes feedback p v t i) := by
  have hid : (feedback.errorCode % 16) <<< 4 ||| feedback.motorId % 16 =
      feedback.errorCode % 16 * 16 + feedback.motorId % 16 :=
    nat_shiftLeft_or 4 (Nat.mod_lt _ (by decide))
  have hshared : (v % 16) <<< 4 ||| t / 2 ^ 8 = v % 16 * 16 + t / 256 :=
    nat_shiftLeft_or 4 (by omega)
  unfold encodeFeedback
  rw [hposition, hvelocity, htorque]
  simp only [Option.bind_eq_bind, Option.bind_some, nat_and_nibble,
    nat_and_byte, nat_shiftRight_eq, hid, hshared]
  exact if_pos (feedbackBytes_lt feedback hp hv ht)

/-! ## The decoder -/

namespace PositiveLimits

variable {limits : DamiaoLimits ℚ} (hlimits : PositiveLimits limits)

/-- What the decoder makes of a frame. -/
def decoded (frame : DamiaoPayload) : DamiaoFeedback ℚ where
  motorId := (frame 0).toNat % 16
  errorCode := (frame 0).toNat / 16
  position := hlimits.positionScale.level
    (((frame 1).toNat * 256 + (frame 2).toNat : ℕ) : ℤ)
  velocity := hlimits.velocityScale.level
    (((frame 3).toNat * 16 + (frame 4).toNat / 16 : ℕ) : ℤ)
  torque := hlimits.torqueScale.level
    (((frame 4).toNat % 16 * 256 + (frame 5).toNat : ℕ) : ℤ)
  mosTemperature := (frame 6).toInt
  rotorTemperature := (frame 7).toInt

theorem decodeCode_eq (scale : Scale ℚ) (code : ℕ) :
    decodeCode code scale.steps scale.least scale.greatest =
      scale.level (code : ℤ) := by
  change scale.least -
    -((code : ℚ) / scale.steps * (scale.greatest - scale.least)) = _
  rw [sub_neg_eq_add]
  rfl

theorem decodeFeedback_eq {canId : ℕ} (hcanId : canId ≤ 0x7FF)
    (frame : DamiaoPayload) :
    decodeFeedback canId frame 8 limits = .ok (hlimits.decoded frame) := by
  obtain ⟨hid, herror, hposition, hvelocity, htorque⟩ :=
    decodeFeedback_fields frame
  have hchecks : ¬ (decide (0x7FF < canId) || decide (8 ≠ 8) ||
      !(SinglePrecision.lt (SinglePrecision.ofNat 0) limits.positionMax &&
        SinglePrecision.lt (SinglePrecision.ofNat 0) limits.velocityMax &&
        SinglePrecision.lt (SinglePrecision.ofNat 0)
          limits.torqueMax)) = true := by
    simp [SinglePrecision.lt, SinglePrecision.ofNat, hcanId,
      hlimits.positionMax, hlimits.velocityMax, hlimits.torqueMax]
  unfold decodeFeedback
  simp only [hid, herror, hposition, hvelocity, htorque]
  rw [if_neg hchecks]
  have hp := decodeCode_eq hlimits.positionScale
    ((frame 1).toNat * 256 + (frame 2).toNat)
  have hv := decodeCode_eq hlimits.velocityScale
    ((frame 3).toNat * 16 + (frame 4).toNat / 16)
  have ht := decodeCode_eq hlimits.torqueScale
    ((frame 4).toNat % 16 * 256 + (frame 5).toNat)
  unfold decoded
  rw [← hp, ← hv, ← ht]
  rfl

end PositiveLimits

/-! ## Round trips -/

/-- A feedback which the encoder's frame can carry. -/
structure DamiaoFeedback.InRange (limits : DamiaoLimits ℚ)
    (feedback : DamiaoFeedback ℚ) : Prop where
  motorId : feedback.motorId < 16
  errorCode : feedback.errorCode < 16
  position : -limits.positionMax ≤ feedback.position ∧
    feedback.position ≤ limits.positionMax
  velocity : -limits.velocityMax ≤ feedback.velocity ∧
    feedback.velocity ≤ limits.velocityMax
  torque : -limits.torqueMax ≤ feedback.torque ∧
    feedback.torque ≤ limits.torqueMax
  mosTemperature : -128 ≤ feedback.mosTemperature ∧
    feedback.mosTemperature ≤ 127
  rotorTemperature : -128 ≤ feedback.rotorTemperature ∧
    feedback.rotorTemperature ≤ 127

/-- The same feedback up to half a step of each value. -/
structure DamiaoFeedback.Near (limits : DamiaoLimits ℚ)
    (sent received : DamiaoFeedback ℚ) : Prop where
  motorId : received.motorId = sent.motorId
  errorCode : received.errorCode = sent.errorCode
  position : |received.position - sent.position| ≤
    1 / 2 * (2 * limits.positionMax / 0xFFFF)
  velocity : |received.velocity - sent.velocity| ≤
    1 / 2 * (2 * limits.velocityMax / 0xFFF)
  torque : |received.torque - sent.torque| ≤
    1 / 2 * (2 * limits.torqueMax / 0xFFF)
  mosTemperature : received.mosTemperature = sent.mosTemperature
  rotorTemperature : received.rotorTemperature = sent.rotorTemperature

/-- Three codes out of the five bytes which they share. -/
theorem codes_of_bytes (p v : ℕ) {t : ℕ} (ht : t < 4096) :
    p / 256 * 256 + p % 256 = p ∧
      v / 16 * 16 + (v % 16 * 16 + t / 256) / 16 = v ∧
      (v % 16 * 16 + t / 256) % 16 * 256 + t % 256 = t := by
  omega

/-- A temperature survives its byte. -/
theorem toInt_temperature {temperature : ℤ} (hlow : -128 ≤ temperature)
    (hhigh : temperature ≤ 127) :
    (BitVec.ofNat 8 (temperature % 256).toNat).toInt = temperature := by
  rw [BitVec.toInt_eq_toNat_bmod, BitVec.toNat_ofNat]
  simp only [Int.bmod]
  omega

theorem toNat_temperature (byte : BitVec 8) :
    (byte.toInt % 256).toNat = byte.toNat := by
  have hbyte := byte.isLt
  rw [BitVec.toInt_eq_toNat_bmod]
  simp only [Int.bmod]
  omega

/-- A code which the encoder computes is in range. -/
theorem toNat_code_le (scale : Scale ℚ) {value : ℚ}
    (hleast : scale.least ≤ value) (hgreatest : value ≤ scale.greatest) :
    (scale.code value).toNat ≤ scale.steps ∧
      ((scale.code value).toNat : ℤ) = scale.code value := by
  obtain ⟨hzero, hlast⟩ := scale.code_mem hleast hgreatest
  omega

/-- The encoder returns the code of a level. -/
theorem encodeValue_level (scale : Scale ℚ) {code : ℕ}
    (hcode : code ≤ scale.steps) :
    encodeValue (scale.level (code : ℤ)) scale.least scale.greatest
      scale.steps = some code := by
  have hmem := scale.level_mem (Int.natCast_nonneg code)
    (Int.ofNat_le.mpr hcode)
  rw [encodeValue_eq scale hmem.1 hmem.2, Scale.code_level, Int.toNat_natCast]

namespace PositiveLimits

variable {limits : DamiaoLimits ℚ} (hlimits : PositiveLimits limits)

theorem decoded_encodeFeedback
    {sent : DamiaoFeedback ℚ} (hsent : sent.InRange limits) :
    ∃ frame, encodeFeedback sent limits = some frame ∧
      sent.Near limits (hlimits.decoded frame) := by
  have hp := toNat_code_le hlimits.positionScale hsent.position.1
    hsent.position.2
  have hv := toNat_code_le hlimits.velocityScale hsent.velocity.1
    hsent.velocity.2
  have ht := toNat_code_le hlimits.torqueScale hsent.torque.1 hsent.torque.2
  generalize hpCode :
    (hlimits.positionScale.code sent.position).toNat = p at hp
  generalize hvCode :
    (hlimits.velocityScale.code sent.velocity).toNat = v at hv
  generalize htCode :
    (hlimits.torqueScale.code sent.torque).toNat = t at ht
  have hposition := encodeValue_eq hlimits.positionScale hsent.position.1
    hsent.position.2
  have hvelocity := encodeValue_eq hlimits.velocityScale hsent.velocity.1
    hsent.velocity.2
  have htorque := encodeValue_eq hlimits.torqueScale hsent.torque.1
    hsent.torque.2
  rw [hpCode] at hposition
  rw [hvCode] at hvelocity
  rw [htCode] at htorque
  have hpLe : p ≤ 0xFFFF := hp.1
  have hvLe : v ≤ 0xFFF := hv.1
  have htLe : t ≤ 0xFFF := ht.1
  have hpLt : p < 65536 := by omega
  have hvLt : v < 4096 := by omega
  have htLt : t < 4096 := by omega
  refine ⟨_, encodeFeedback_eq hposition hvelocity htorque hpLt hvLt htLt, ?_⟩
  have hbytes : ∀ i, (BitVec.ofNat 8 (feedbackBytes sent p v t i)).toNat =
      feedbackBytes sent p v t i := by
    intro i
    rw [BitVec.toNat_ofNat]
    exact Nat.mod_eq_of_lt (feedbackBytes_lt sent hpLt hvLt htLt i)
  have hid := hsent.motorId
  have herror := hsent.errorCode
  have hpError := abs_decodeValue_sub _ hp.2
  have hvError := abs_decodeValue_sub _ hv.2
  have htError := abs_decodeValue_sub _ ht.2
  rw [hlimits.step_positionScale, decodeValue_eq] at hpError
  rw [hlimits.step_velocityScale, decodeValue_eq] at hvError
  rw [hlimits.step_torqueScale, decodeValue_eq] at htError
  obtain ⟨hpBytes, hvBytes, htBytes⟩ := codes_of_bytes p v htLt
  constructor
  · change (BitVec.ofNat 8 (feedbackBytes sent p v t 0)).toNat % 16 = _
    rw [hbytes]
    change (sent.errorCode % 16 * 16 + sent.motorId % 16) % 16 = _
    omega
  · change (BitVec.ofNat 8 (feedbackBytes sent p v t 0)).toNat / 16 = _
    rw [hbytes]
    change (sent.errorCode % 16 * 16 + sent.motorId % 16) / 16 = _
    omega
  · unfold decoded
    simp only [hbytes]
    change |hlimits.positionScale.level
      ((p / 256 * 256 + p % 256 : ℕ) : ℤ) - sent.position| ≤ _
    rw [hpBytes]
    exact hpError
  · unfold decoded
    simp only [hbytes]
    change |hlimits.velocityScale.level
      ((v / 16 * 16 + (v % 16 * 16 + t / 256) / 16 : ℕ) : ℤ) -
        sent.velocity| ≤ _
    rw [hvBytes]
    exact hvError
  · unfold decoded
    simp only [hbytes]
    change |hlimits.torqueScale.level
      (((v % 16 * 16 + t / 256) % 16 * 256 + t % 256 : ℕ) : ℤ) -
        sent.torque| ≤ _
    rw [htBytes]
    exact htError
  · exact toInt_temperature hsent.mosTemperature.1 hsent.mosTemperature.2
  · exact toInt_temperature hsent.rotorTemperature.1 hsent.rotorTemperature.2

theorem encodeFeedback_decoded (frame : DamiaoPayload) :
    encodeFeedback (hlimits.decoded frame) limits = some frame := by
  have hbyte : ∀ i, (frame i).toNat < 256 := fun i => (frame i).isLt
  have hone := hbyte 1
  have htwo := hbyte 2
  have hthree := hbyte 3
  have hfour := hbyte 4
  have hfive := hbyte 5
  generalize hp : (frame 1).toNat * 256 + (frame 2).toNat = p
  generalize hv : (frame 3).toNat * 16 + (frame 4).toNat / 16 = v
  generalize ht : (frame 4).toNat % 16 * 256 + (frame 5).toNat = t
  have hpLt : p < 65536 := by omega
  have hvLt : v < 4096 := by omega
  have htLt : t < 4096 := by omega
  have hposition : encodeValue (hlimits.decoded frame).position
      (-limits.positionMax) limits.positionMax 0xFFFF = some p := by
    rw [← hp]
    exact encodeValue_level hlimits.positionScale
      (show _ ≤ 0xFFFF by omega)
  have hvelocity : encodeValue (hlimits.decoded frame).velocity
      (-limits.velocityMax) limits.velocityMax 0xFFF = some v := by
    rw [← hv]
    exact encodeValue_level hlimits.velocityScale
      (show _ ≤ 0xFFF by omega)
  have htorque : encodeValue (hlimits.decoded frame).torque
      (-limits.torqueMax) limits.torqueMax 0xFFF = some t := by
    rw [← ht]
    exact encodeValue_level hlimits.torqueScale
      (show _ ≤ 0xFFF by omega)
  rw [encodeFeedback_eq hposition hvelocity htorque hpLt hvLt htLt,
    Option.some.injEq]
  funext i
  apply BitVec.eq_of_toNat_eq
  rw [BitVec.toNat_ofNat,
    Nat.mod_eq_of_lt (feedbackBytes_lt _ hpLt hvLt htLt i)]
  have hzero := hbyte 0
  fin_cases i
  · change (frame 0).toNat / 16 % 16 * 16 + (frame 0).toNat % 16 % 16 =
      (frame 0).toNat
    omega
  · change p / 256 = (frame 1).toNat
    omega
  · change p % 256 = (frame 2).toNat
    omega
  · change v / 16 = (frame 3).toNat
    omega
  · change v % 16 * 16 + t / 256 = (frame 4).toNat
    omega
  · change t % 256 = (frame 5).toNat
    omega
  · exact toNat_temperature (frame 6)
  · exact toNat_temperature (frame 7)

end PositiveLimits

/-- Decoding an encoded feedback gives it back up to half a step of each
value, and encoding a decoded frame gives the frame. -/
theorem feedback_roundTrip
    {canId : ℕ} (hcanId : canId ≤ 0x7FF) {limits : DamiaoLimits ℚ}
    (hlimits : PositiveLimits limits) :
    (∀ sent : DamiaoFeedback ℚ, sent.InRange limits →
      ∃ frame received, encodeFeedback sent limits = some frame ∧
        decodeFeedback canId frame 8 limits = .ok received ∧
        sent.Near limits received) ∧
    (∀ frame : DamiaoPayload, ∃ received,
      decodeFeedback canId frame 8 limits = .ok received ∧
        encodeFeedback received limits = some frame) := by
  constructor
  · intro sent hsent
    obtain ⟨frame, hencode, hnear⟩ := hlimits.decoded_encodeFeedback hsent
    exact ⟨frame, _, hencode, hlimits.decodeFeedback_eq hcanId frame, hnear⟩
  · intro frame
    exact ⟨_, hlimits.decodeFeedback_eq hcanId frame,
      hlimits.encodeFeedback_decoded frame⟩

/-- The zero position payload as feedback of the example motor. -/
theorem feedback_roundTrip_example :
    ∃ received,
      decodeFeedback 1 zeroPositionPayload 8 exampleLimits = .ok received ∧
        encodeFeedback received exampleLimits = some zeroPositionPayload :=
  (feedback_roundTrip (by decide)
    ⟨by norm_num [exampleLimits], by norm_num [exampleLimits],
      by norm_num [exampleLimits]⟩).2 zeroPositionPayload

end PolicyRuntime
