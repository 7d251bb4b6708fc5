import PolicyRuntime.DamiaoActuator
import PolicyRuntime.Quantization

/-!
# MIT frames at their receiver

The simulated bus tells control frames from motion commands by their payload.
Every MIT frame unpacks to the codes which were packed, each within half a
step of its commanded value.  A command with four saturated codes and a torque
near its limit has the payload of a control frame.
-/

namespace PolicyRuntime

open Quantization

/-- The bytes of a payload are named by numerals. -/
scoped instance DamiaoPayload.neZero_length : NeZero (8 : ℕ) := ⟨by decide⟩

open scoped DamiaoPayload

/-! ## The receiver -/

/-- The control payloads of the simulated motor. -/
def enablePayload : DamiaoPayload :=
  ![0xff, 0xff, 0xff, 0xff, 0xff, 0xff, 0xff, 0xfc]

def disablePayload : DamiaoPayload :=
  ![0xff, 0xff, 0xff, 0xff, 0xff, 0xff, 0xff, 0xfd]

def zeroPositionPayload : DamiaoPayload :=
  ![0xff, 0xff, 0xff, 0xff, 0xff, 0xff, 0xff, 0xfe]

/-- The five codes of an MIT frame. -/
@[ext]
structure MitCodes where
  position : ℕ
  velocity : ℕ
  kp : ℕ
  kd : ℕ
  torque : ℕ
  deriving DecidableEq, Repr

def unpackMit (payload : DamiaoPayload) : MitCodes where
  position := (payload 0).toNat <<< 8 ||| (payload 1).toNat
  velocity := (payload 2).toNat <<< 4 ||| (payload 3).toNat >>> 4
  kp := ((payload 3).toNat &&& 0x0F) <<< 8 ||| (payload 4).toNat
  kd := (payload 5).toNat <<< 4 ||| (payload 6).toNat >>> 4
  torque := ((payload 6).toNat &&& 0x0F) <<< 8 ||| (payload 7).toNat

/-- `_decode` of the simulated motor -/
def decodeValue (code maximumCode : ℕ) (minimum maximum : ℚ) : ℚ :=
  minimum + (code : ℚ) / maximumCode * (maximum - minimum)

def decodeMit (payload : DamiaoPayload) (limits : DamiaoLimits ℚ) :
    DamiaoMitCommand ℚ :=
  let codes := unpackMit payload
  { position := decodeValue codes.position 0xFFFF (-limits.positionMax)
      limits.positionMax
    velocity := decodeValue codes.velocity 0xFFF (-limits.velocityMax)
      limits.velocityMax
    kp := decodeValue codes.kp 0xFFF 0 500
    kd := decodeValue codes.kd 0xFFF 0 5
    torque := decodeValue codes.torque 0xFFF (-limits.torqueMax)
      limits.torqueMax }

/-- What the bus does with the payload of a frame to one of its motors. -/
inductive BusAction
  | setEnabled (enabled : Bool)
  | zeroPosition
  | stageMit (command : DamiaoMitCommand ℚ)
  | none

/-- The dispatch of `DamiaoSocketCanBus.poll` -/
def dispatch (limits : DamiaoLimits ℚ) (enabled : Bool)
    (payload : DamiaoPayload) : BusAction :=
  if payload = enablePayload then .setEnabled true
  else if payload = disablePayload then .setEnabled false
  else if payload = zeroPositionPayload then .zeroPosition
  else if enabled then .stageMit (decodeMit payload limits)
  else .none

/-! ## Packing -/

theorem nat_shiftLeft_or {high low : ℕ} (shift : ℕ) (hlow : low < 2 ^ shift) :
    high <<< shift ||| low = high * 2 ^ shift + low := by
  rw [← Nat.shiftLeft_add_eq_or_of_lt hlow, Nat.shiftLeft_eq]

theorem nat_shiftRight_eq (value shift : ℕ) :
    value >>> shift = value / 2 ^ shift :=
  Nat.shiftRight_eq_div_pow value shift

theorem nat_and_nibble (value : ℕ) : value &&& 0x0F = value % 16 :=
  Nat.and_two_pow_sub_one_eq_mod value 4

theorem nat_and_byte (value : ℕ) : value &&& 0xFF = value % 256 :=
  Nat.and_two_pow_sub_one_eq_mod value 8

theorem unpackMit_eq (payload : DamiaoPayload) :
    unpackMit payload =
      { position := (payload 0).toNat * 256 + (payload 1).toNat
        velocity := (payload 2).toNat * 16 + (payload 3).toNat / 16
        kp := (payload 3).toNat % 16 * 256 + (payload 4).toNat
        kd := (payload 5).toNat * 16 + (payload 6).toNat / 16
        torque := (payload 6).toNat % 16 * 256 + (payload 7).toNat } := by
  have hthree : (payload 3).toNat / 16 < 16 := by omega
  have hsix : (payload 6).toNat / 16 < 16 := by omega
  unfold unpackMit
  simp only [nat_and_nibble, nat_shiftRight_eq]
  rw [nat_shiftLeft_or 8 (by omega), nat_shiftLeft_or 4 (by omega),
    nat_shiftLeft_or 8 (by omega), nat_shiftLeft_or 4 (by omega),
    nat_shiftLeft_or 8 (by omega)]
  norm_num

theorem toNat_highByte (code : BitVec 16) :
    ((code >>> 8).setWidth 8).toNat = code.toNat / 256 := by
  rw [BitVec.toNat_setWidth, BitVec.toNat_ushiftRight, nat_shiftRight_eq]
  omega

theorem toNat_lowByte (code : BitVec 16) :
    ((code &&& 0xFF).setWidth 8).toNat = code.toNat % 256 := by
  rw [BitVec.toNat_setWidth, BitVec.toNat_and]
  change (code.toNat &&& 0xFF) % 2 ^ 8 = code.toNat % 256
  rw [nat_and_byte]
  omega

theorem toNat_upperByte {code : BitVec 16} (hcode : code.toNat < 4096) :
    ((code >>> 4).setWidth 8).toNat = code.toNat / 16 := by
  rw [BitVec.toNat_setWidth, BitVec.toNat_ushiftRight, nat_shiftRight_eq]
  omega

/-- A byte shared by the end of one code and the beginning of the next. -/
theorem toNat_sharedByte (upper : BitVec 16) {lower : BitVec 16}
    (hlower : lower.toNat < 4096) :
    ((((upper &&& 0x0F) <<< 4) ||| (lower >>> 8)).setWidth 8).toNat =
      upper.toNat % 16 * 16 + lower.toNat / 256 := by
  have hnibble : (upper &&& 0x0F).toNat = upper.toNat % 16 := by
    rw [BitVec.toNat_and]
    exact nat_and_nibble upper.toNat
  have hshifted : ((upper &&& 0x0F) <<< 4).toNat =
      (upper.toNat % 16) <<< 4 := by
    rw [BitVec.toNat_shiftLeft, hnibble, Nat.shiftLeft_eq]
    omega
  rw [BitVec.toNat_setWidth, BitVec.toNat_or, hshifted,
    BitVec.toNat_ushiftRight, nat_shiftRight_eq,
    nat_shiftLeft_or 4 (by omega)]
  omega

/-- The bytes of a packed frame. -/
theorem toNat_packMit {p v kp kd t : BitVec 16}
    (hv : v.toNat < 4096) (hkp : kp.toNat < 4096) (hkd : kd.toNat < 4096)
    (ht : t.toNat < 4096) :
    (packMit p v kp kd t 0).toNat = p.toNat / 256 ∧
      (packMit p v kp kd t 1).toNat = p.toNat % 256 ∧
      (packMit p v kp kd t 2).toNat = v.toNat / 16 ∧
      (packMit p v kp kd t 3).toNat = v.toNat % 16 * 16 + kp.toNat / 256 ∧
      (packMit p v kp kd t 4).toNat = kp.toNat % 256 ∧
      (packMit p v kp kd t 5).toNat = kd.toNat / 16 ∧
      (packMit p v kp kd t 6).toNat = kd.toNat % 16 * 16 + t.toNat / 256 ∧
      (packMit p v kp kd t 7).toNat = t.toNat % 256 :=
  ⟨toNat_highByte p, toNat_lowByte p, toNat_upperByte hv,
    toNat_sharedByte v hkp, toNat_lowByte kp, toNat_upperByte hkd,
    toNat_sharedByte kd ht, toNat_lowByte t⟩

/-- Unpacking returns the codes. -/
theorem unpackMit_packMit {p v kp kd t : BitVec 16}
    (hv : v.toNat < 4096) (hkp : kp.toNat < 4096) (hkd : kd.toNat < 4096)
    (ht : t.toNat < 4096) :
    unpackMit (packMit p v kp kd t) =
      ⟨p.toNat, v.toNat, kp.toNat, kd.toNat, t.toNat⟩ := by
  obtain ⟨hzero, hone, htwo, hthree, hfour, hfive, hsix, hseven⟩ :=
    @toNat_packMit p v kp kd t hv hkp hkd ht
  rw [unpackMit_eq, hzero, hone, htwo, hthree, hfour, hfive, hsix, hseven]
  ext <;> dsimp only <;> omega

/-- Two payloads with the same codes are the same. -/
theorem unpackMit_injective {payload other : DamiaoPayload}
    (hcodes : unpackMit payload = unpackMit other) : payload = other := by
  rw [unpackMit_eq, unpackMit_eq, MitCodes.mk.injEq] at hcodes
  obtain ⟨hposition, hvelocity, hkp, hkd, htorque⟩ := hcodes
  have hbyte : ∀ i : Fin 8, (payload i).toNat = (other i).toNat := by
    have hpayload : ∀ i : Fin 8, (payload i).toNat < 256 :=
      fun i => (payload i).isLt
    have hother : ∀ i : Fin 8, (other i).toNat < 256 :=
      fun i => (other i).isLt
    have hzero := hpayload 0
    have hone := hpayload 1
    have hthree := hpayload 3
    have hfour := hpayload 4
    have hsix := hpayload 6
    have hseven := hpayload 7
    have hzero' := hother 0
    have hone' := hother 1
    have hthree' := hother 3
    have hfour' := hother 4
    have hsix' := hother 6
    have hseven' := hother 7
    intro i
    fin_cases i <;> simp only [Fin.isValue, Fin.reduceFinMk] <;> omega
  funext i
  exact BitVec.eq_of_toNat_eq (hbyte i)

/-! ## Scales -/

/-- The scale of a value which is limited on both sides. -/
def symmetricScale (maximum : ℚ) (hmaximum : 0 < maximum) (steps : ℕ)
    (hsteps : 0 < steps) : Scale ℚ where
  least := -maximum
  greatest := maximum
  steps := steps
  least_lt_greatest := by linarith
  steps_pos := hsteps

theorem step_symmetricScale {maximum : ℚ} (hmaximum : 0 < maximum)
    {steps : ℕ} (hsteps : 0 < steps) :
    (symmetricScale maximum hmaximum steps hsteps).step =
      2 * maximum / steps := by
  change (maximum - -maximum) / (steps : ℚ) = _
  ring

/-- The scale of a gain. -/
def gainScale (maximum : ℚ) (hmaximum : 0 < maximum) : Scale ℚ where
  least := 0
  greatest := maximum
  steps := 0xFFF
  least_lt_greatest := hmaximum
  steps_pos := by decide

theorem roundHalfAway_of_nonneg {x : ℚ} (hx : 0 ≤ x) :
    roundHalfAway x = round x := by
  rw [roundHalfAway, if_pos hx, round_eq]

theorem toNat_clampCode
    (scale : Scale ℚ) (hsteps : scale.steps < 2 ^ 16) {value : ℚ}
    (hleast : scale.least ≤ value) (hgreatest : value ≤ scale.greatest) :
    ((clampCode value scale.least scale.greatest scale.steps).toNat : ℤ) =
      scale.code value := by
  have hrange := scale.range_pos
  obtain ⟨hzero, hposition⟩ := scale.position_mem hleast hgreatest
  obtain ⟨hcode, hlast⟩ := scale.code_mem hleast hgreatest
  have hlow : 0 ≤ (value - scale.least) / (scale.greatest - scale.least) :=
    div_nonneg (by linarith) hrange.le
  have hhigh : (value - scale.least) / (scale.greatest - scale.least) ≤ 1 := by
    rw [div_le_one hrange]
    linarith
  have hclamp : clampUnit
        ((value - scale.least) / (scale.greatest - scale.least)) =
      (value - scale.least) / (scale.greatest - scale.least) := by
    simp only [clampUnit, SinglePrecision.lt, SinglePrecision.ofNat,
      Nat.cast_zero, Nat.cast_one, decide_eq_true_eq, if_neg hlow.not_gt,
      if_neg hhigh.not_gt]
  have hscaled : clampCode value scale.least scale.greatest scale.steps =
      BitVec.ofInt 16 (scale.code value) := by
    change BitVec.ofInt 16 (roundHalfAway (clampUnit
      ((value - scale.least) / (scale.greatest - scale.least)) *
        (scale.steps : ℚ))) = _
    rw [hclamp]
    change BitVec.ofInt 16 (roundHalfAway (scale.position value)) = _
    rw [roundHalfAway_of_nonneg hzero]
    rfl
  rw [hscaled, BitVec.toNat_ofInt]
  omega

theorem toNat_clampCode_le
    (scale : Scale ℚ) (hsteps : scale.steps < 2 ^ 16) {value : ℚ}
    (hleast : scale.least ≤ value) (hgreatest : value ≤ scale.greatest) :
    (clampCode value scale.least scale.greatest scale.steps).toNat ≤
      scale.steps := by
  have hcode := toNat_clampCode scale hsteps hleast hgreatest
  have hlast := (scale.code_mem hleast hgreatest).2
  omega

theorem decodeValue_eq (scale : Scale ℚ) (code : ℕ) :
    decodeValue code scale.steps scale.least scale.greatest =
      scale.level code := by
  rfl

/-! ## Accepted commands -/

structure PositiveLimits (limits : DamiaoLimits ℚ) : Prop where
  positionMax : 0 < limits.positionMax
  velocityMax : 0 < limits.velocityMax
  torqueMax : 0 < limits.torqueMax

namespace PositiveLimits

variable {limits : DamiaoLimits ℚ} (hlimits : PositiveLimits limits)

def positionScale : Scale ℚ :=
  symmetricScale limits.positionMax hlimits.positionMax 0xFFFF (by decide)

def velocityScale : Scale ℚ :=
  symmetricScale limits.velocityMax hlimits.velocityMax 0xFFF (by decide)

def torqueScale : Scale ℚ :=
  symmetricScale limits.torqueMax hlimits.torqueMax 0xFFF (by decide)

theorem step_positionScale :
    hlimits.positionScale.step = 2 * limits.positionMax / 0xFFFF :=
  (step_symmetricScale hlimits.positionMax (by decide)).trans (by norm_num)

theorem step_velocityScale :
    hlimits.velocityScale.step = 2 * limits.velocityMax / 0xFFF :=
  (step_symmetricScale hlimits.velocityMax (by decide)).trans (by norm_num)

theorem step_torqueScale :
    hlimits.torqueScale.step = 2 * limits.torqueMax / 0xFFF :=
  (step_symmetricScale hlimits.torqueMax (by decide)).trans (by norm_num)

end PositiveLimits

/-- The limits are positive and the command lies within them. -/
structure WithinLimits (limits : DamiaoLimits ℚ)
    (command : DamiaoMitCommand ℚ) : Prop extends PositiveLimits limits where
  position : -limits.positionMax ≤ command.position ∧
    command.position ≤ limits.positionMax
  velocity : -limits.velocityMax ≤ command.velocity ∧
    command.velocity ≤ limits.velocityMax
  torque : -limits.torqueMax ≤ command.torque ∧
    command.torque ≤ limits.torqueMax
  kp : 0 ≤ command.kp ∧ command.kp ≤ 500
  kd : 0 ≤ command.kd ∧ command.kd ≤ 5

theorem withinLimits_iff
    {limits : DamiaoLimits ℚ} {command : DamiaoMitCommand ℚ} :
    withinLimits command limits = true ↔ WithinLimits limits command := by
  simp only [withinLimits, finiteAndInRange, SinglePrecision.lt,
    SinglePrecision.le, SinglePrecision.isfinite, SinglePrecision.ofNat,
    SinglePrecision.neg, Bool.true_and, Bool.and_eq_true, decide_eq_true_eq,
    Nat.cast_zero, Nat.cast_ofNat]
  constructor
  · rintro ⟨⟨⟨⟨⟨⟨⟨hposition, hvelocity⟩, htorque⟩, hp⟩, hv⟩, ht⟩, hkp⟩, hkd⟩
    exact ⟨⟨hposition, hvelocity, htorque⟩, hp, hv, ht, hkp, hkd⟩
  · rintro ⟨⟨hposition, hvelocity, htorque⟩, hp, hv, ht, hkp, hkd⟩
    exact ⟨⟨⟨⟨⟨⟨⟨hposition, hvelocity⟩, htorque⟩, hp⟩, hv⟩, ht⟩, hkp⟩, hkd⟩

def kpScale : Scale ℚ := gainScale 500 (by norm_num)

def kdScale : Scale ℚ := gainScale 5 (by norm_num)

/-- The codes of an accepted command, as its frame carries them. -/
theorem unpackMit_encodeMit
    {limits : DamiaoLimits ℚ} {command : DamiaoMitCommand ℚ}
    {frame : DamiaoPayload} (hencode : encodeMit command limits = .ok frame) :
    ∃ hwithin : WithinLimits limits command,
      ((unpackMit frame).position : ℤ) =
          hwithin.positionScale.code command.position ∧
        ((unpackMit frame).velocity : ℤ) =
          hwithin.velocityScale.code command.velocity ∧
        ((unpackMit frame).kp : ℤ) = kpScale.code command.kp ∧
        ((unpackMit frame).kd : ℤ) = kdScale.code command.kd ∧
        ((unpackMit frame).torque : ℤ) =
          hwithin.torqueScale.code command.torque := by
  unfold encodeMit at hencode
  split at hencode
  · rename_i haccepted
    have hwithin := withinLimits_iff.mp haccepted
    refine ⟨hwithin, ?_⟩
    have hlong : 0xFFFF < 2 ^ 16 := by decide
    have hshort : 0xFFF < 2 ^ 16 := by decide
    have hv := toNat_clampCode_le hwithin.velocityScale hshort
      hwithin.velocity.1 hwithin.velocity.2
    have hkp := toNat_clampCode_le kpScale hshort hwithin.kp.1 hwithin.kp.2
    have hkd := toNat_clampCode_le kdScale hshort hwithin.kd.1 hwithin.kd.2
    have ht := toNat_clampCode_le hwithin.torqueScale hshort
      hwithin.torque.1 hwithin.torque.2
    have hframe := unpackMit_packMit
      (p := clampCode command.position (-limits.positionMax)
        limits.positionMax 0xFFFF)
      (Nat.lt_succ_of_le hv) (Nat.lt_succ_of_le hkp)
      (Nat.lt_succ_of_le hkd) (Nat.lt_succ_of_le ht)
    rw [← Except.ok.inj hencode]
    refine ⟨?_, ?_, ?_, ?_, ?_⟩
    · exact (congrArg (fun codes => (codes.position : ℤ)) hframe).trans
        (toNat_clampCode hwithin.positionScale hlong hwithin.position.1
          hwithin.position.2)
    · exact (congrArg (fun codes => (codes.velocity : ℤ)) hframe).trans
        (toNat_clampCode hwithin.velocityScale hshort hwithin.velocity.1
          hwithin.velocity.2)
    · exact (congrArg (fun codes => (codes.kp : ℤ)) hframe).trans
        (toNat_clampCode kpScale hshort hwithin.kp.1 hwithin.kp.2)
    · exact (congrArg (fun codes => (codes.kd : ℤ)) hframe).trans
        (toNat_clampCode kdScale hshort hwithin.kd.1 hwithin.kd.2)
    · exact (congrArg (fun codes => (codes.torque : ℤ)) hframe).trans
        (toNat_clampCode hwithin.torqueScale hshort hwithin.torque.1
          hwithin.torque.2)
  · cases hencode

/-! ## Control payloads -/

theorem unpackMit_encodeControl (control : DamiaoControl) :
    unpackMit (encodeControl control) =
      ⟨0xFFFF, 0xFFF, 0xFFF, 0xFFF, 0xF00 + control.code.toNat⟩ := by
  cases control <;> decide

theorem eq_encodeControl_iff {frame : DamiaoPayload} :
    (∃ control, frame = encodeControl control) ↔
      (unpackMit frame).position = 0xFFFF ∧
        (unpackMit frame).velocity = 0xFFF ∧ (unpackMit frame).kp = 0xFFF ∧
        (unpackMit frame).kd = 0xFFF ∧ 0xFFC ≤ (unpackMit frame).torque ∧
        (unpackMit frame).torque ≤ 0xFFE := by
  constructor
  · rintro ⟨control, rfl⟩
    rw [unpackMit_encodeControl]
    cases control <;> decide
  · rintro ⟨hp, hv, hkp, hkd, hlow, hhigh⟩
    have hcontrol : ∃ control : DamiaoControl,
        (unpackMit frame).torque = 0xF00 + control.code.toNat := by
      have hcases : (unpackMit frame).torque = 0xFFC ∨
          (unpackMit frame).torque = 0xFFD ∨
          (unpackMit frame).torque = 0xFFE := by omega
      rcases hcases with h | h | h
      · exact ⟨.enable, h⟩
      · exact ⟨.disable, h⟩
      · exact ⟨.zeroPosition, h⟩
    obtain ⟨control, htorque⟩ := hcontrol
    refine ⟨control, unpackMit_injective ?_⟩
    rw [unpackMit_encodeControl, MitCodes.ext_iff]
    exact ⟨hp, hv, hkp, hkd, htorque⟩

theorem enablePayload_eq : enablePayload = encodeControl .enable := by
  decide

theorem disablePayload_eq : disablePayload = encodeControl .disable := by
  decide

theorem zeroPositionPayload_eq :
    zeroPositionPayload = encodeControl .zeroPosition := by
  decide

/-- A payload which is no control frame is a motion command for an enabled
motor. -/
theorem dispatch_motion
    {frame : DamiaoPayload} (limits : DamiaoLimits ℚ)
    (hcontrol : ∀ control, frame ≠ encodeControl control) :
    dispatch limits true frame = .stageMit (decodeMit frame limits) := by
  unfold dispatch
  rw [enablePayload_eq, disablePayload_eq, zeroPositionPayload_eq,
    if_neg (hcontrol .enable), if_neg (hcontrol .disable),
    if_neg (hcontrol .zeroPosition), if_pos rfl]

/-! ## Frames which are received as they were sent -/

/-- The four first values are within half a step of their limits, and the
torque is below its limit by more than half a step and at most three and a
half. -/
structure NearControlFrame (limits : DamiaoLimits ℚ)
    (command : DamiaoMitCommand ℚ) : Prop where
  position : limits.positionMax - command.position ≤
    1 / 2 * (2 * limits.positionMax / 0xFFFF)
  velocity : limits.velocityMax - command.velocity ≤
    1 / 2 * (2 * limits.velocityMax / 0xFFF)
  kp : 500 - command.kp ≤ 1 / 2 * (500 / 0xFFF)
  kd : 5 - command.kd ≤ 1 / 2 * (5 / 0xFFF)
  torqueAbove : 1 / 2 * (2 * limits.torqueMax / 0xFFF) <
    limits.torqueMax - command.torque
  torqueBelow : limits.torqueMax - command.torque ≤
    7 / 2 * (2 * limits.torqueMax / 0xFFF)

/-- The frame is a motion command for its receiver, and decodes to the
command up to half a step of each value. -/
structure ReceivedAs (limits : DamiaoLimits ℚ) (command : DamiaoMitCommand ℚ)
    (frame : DamiaoPayload) : Prop where
  noControl : ∀ control, frame ≠ encodeControl control
  motion : dispatch limits true frame = .stageMit (decodeMit frame limits)
  position : |(decodeMit frame limits).position - command.position| ≤
    1 / 2 * (2 * limits.positionMax / 0xFFFF)
  velocity : |(decodeMit frame limits).velocity - command.velocity| ≤
    1 / 2 * (2 * limits.velocityMax / 0xFFF)
  kp : |(decodeMit frame limits).kp - command.kp| ≤ 1 / 2 * (500 / 0xFFF)
  kd : |(decodeMit frame limits).kd - command.kd| ≤ 1 / 2 * (5 / 0xFFF)
  torque : |(decodeMit frame limits).torque - command.torque| ≤
    1 / 2 * (2 * limits.torqueMax / 0xFFF)

/-- A code decodes to a value at most half a step away. -/
theorem abs_decodeValue_sub (scale : Scale ℚ) {code : ℕ} {value : ℚ}
    (hcode : (code : ℤ) = scale.code value) :
    |decodeValue code scale.steps scale.least scale.greatest - value| ≤
      1 / 2 * scale.step := by
  rw [decodeValue_eq, hcode]
  exact scale.abs_level_code_sub value

/-- A value has the last code when it is within half a step of the greatest
one. -/
theorem code_eq_steps_iff (scale : Scale ℚ) {code : ℕ} {value : ℚ}
    (hcode : (code : ℤ) = scale.code value) (hleast : scale.least ≤ value)
    (hgreatest : value ≤ scale.greatest) :
    code = scale.steps ↔
      scale.greatest - value ≤ 1 / 2 * scale.step := by
  have hlast := (scale.code_mem hleast hgreatest).2
  have hnear := scale.steps_sub_le_code_iff value 0
  rw [sub_zero, Int.cast_zero, zero_add, ← hcode] at hnear
  rw [← hcode] at hlast
  rw [← hnear]
  omega

theorem step_kpScale : kpScale.step = 500 / 0xFFF := by
  change ((500 : ℚ) - 0) / ((0xFFF : ℕ) : ℚ) = _
  norm_num

theorem step_kdScale : kdScale.step = 5 / 0xFFF := by
  change ((5 : ℚ) - 0) / ((0xFFF : ℕ) : ℚ) = _
  norm_num

/-- A frame is a control frame exactly for the commands near one. -/
theorem encodeMit_control_iff
    {limits : DamiaoLimits ℚ} {command : DamiaoMitCommand ℚ}
    {frame : DamiaoPayload} (hencode : encodeMit command limits = .ok frame) :
    (∃ control, frame = encodeControl control) ↔
      NearControlFrame limits command := by
  obtain ⟨hwithin, hp, hv, hkp, hkd, ht⟩ := unpackMit_encodeMit hencode
  have hposition := code_eq_steps_iff _ hp hwithin.position.1
    hwithin.position.2
  have hvelocity := code_eq_steps_iff _ hv hwithin.velocity.1
    hwithin.velocity.2
  have hkpNear := code_eq_steps_iff _ hkp hwithin.kp.1 hwithin.kp.2
  have hkdNear := code_eq_steps_iff _ hkd hwithin.kd.1 hwithin.kd.2
  have hbelow := hwithin.torqueScale.steps_sub_le_code_iff command.torque 3
  have habove := hwithin.torqueScale.steps_sub_le_code_iff command.torque 0
  rw [hwithin.step_positionScale] at hposition
  rw [hwithin.step_velocityScale] at hvelocity
  rw [step_kpScale] at hkpNear
  rw [step_kdScale] at hkdNear
  rw [hwithin.step_torqueScale, ← ht] at hbelow habove
  have htorqueLow : 0xFFC ≤ (unpackMit frame).torque ↔
      limits.torqueMax - command.torque ≤
        7 / 2 * (2 * limits.torqueMax / 0xFFF) := by
    have hcount : ((3 : ℤ) : ℚ) + 1 / 2 = 7 / 2 := by norm_num
    rw [hcount] at hbelow
    refine Iff.trans ?_ hbelow
    change _ ↔ ((0xFFF : ℕ) : ℤ) - 3 ≤ ((unpackMit frame).torque : ℤ)
    omega
  have htorqueHigh : (unpackMit frame).torque ≤ 0xFFE ↔
      1 / 2 * (2 * limits.torqueMax / 0xFFF) <
        limits.torqueMax - command.torque := by
    rw [Int.cast_zero, zero_add] at habove
    refine Iff.trans ?_ (not_iff_not.mpr habove |>.trans not_le)
    change _ ↔ ¬ ((0xFFF : ℕ) : ℤ) - 0 ≤ ((unpackMit frame).torque : ℤ)
    omega
  rw [eq_encodeControl_iff]
  constructor
  · rintro ⟨hpLast, hvLast, hkpLast, hkdLast, hlow, hhigh⟩
    exact ⟨hposition.mp hpLast, hvelocity.mp hvLast, hkpNear.mp hkpLast,
      hkdNear.mp hkdLast, htorqueHigh.mp hhigh, htorqueLow.mp hlow⟩
  · rintro ⟨hpNear, hvNear, hkpLast, hkdLast, hhigh, hlow⟩
    exact ⟨hposition.mpr hpNear, hvelocity.mpr hvNear, hkpNear.mpr hkpLast,
      hkdNear.mpr hkdLast, htorqueLow.mpr hlow, htorqueHigh.mpr hhigh⟩

/-- An accepted command is received as it was sent exactly when it is not
near a control frame. -/
theorem mit_received_iff
    {limits : DamiaoLimits ℚ} {command : DamiaoMitCommand ℚ}
    {frame : DamiaoPayload} (hencode : encodeMit command limits = .ok frame) :
    ReceivedAs limits command frame ↔ ¬ NearControlFrame limits command := by
  rw [← encodeMit_control_iff hencode]
  constructor
  · rintro hreceived ⟨control, hcontrol⟩
    exact hreceived.noControl control hcontrol
  · intro hnone
    have hcontrol : ∀ control, frame ≠ encodeControl control :=
      fun control heq => hnone ⟨control, heq⟩
    obtain ⟨hwithin, hp, hv, hkp, hkd, ht⟩ := unpackMit_encodeMit hencode
    have hposition := abs_decodeValue_sub _ hp
    have hvelocity := abs_decodeValue_sub _ hv
    have hkpError := abs_decodeValue_sub _ hkp
    have hkdError := abs_decodeValue_sub _ hkd
    have htorque := abs_decodeValue_sub _ ht
    rw [hwithin.step_positionScale] at hposition
    rw [hwithin.step_velocityScale] at hvelocity
    rw [step_kpScale] at hkpError
    rw [step_kdScale] at hkdError
    rw [hwithin.step_torqueScale] at htorque
    exact ⟨hcontrol, dispatch_motion limits hcontrol, hposition, hvelocity,
      hkpError, hkdError, htorque⟩

/-! ## A command which disables its motor -/

def exampleLimits : DamiaoLimits ℚ := ⟨25 / 2, 30, 10⟩

def restCommand : DamiaoMitCommand ℚ := ⟨0, 0, 0, 0, 0⟩

/-- Every value at its limit, and the torque a little below it. -/
def saturatedCommand : DamiaoMitCommand ℚ := ⟨25 / 2, 30, 500, 5, 999 / 100⟩

theorem mit_received_rest :
    ∃ frame, encodeMit restCommand exampleLimits = .ok frame ∧
      ReceivedAs exampleLimits restCommand frame := by
  have haccepted : withinLimits restCommand exampleLimits = true := by
    decide +kernel
  have hencode : ∃ frame, encodeMit restCommand exampleLimits = .ok frame :=
    ⟨_, if_pos haccepted⟩
  obtain ⟨frame, hframe⟩ := hencode
  refine ⟨frame, hframe, (mit_received_iff hframe).mpr ?_⟩
  intro hnear
  have hposition := hnear.position
  norm_num [exampleLimits, restCommand] at hposition

theorem saturated_frame_disables :
    encodeMit saturatedCommand exampleLimits = .ok (encodeControl .disable) ∧
      ¬ ReceivedAs exampleLimits saturatedCommand (encodeControl .disable) := by
  have haccepted : withinLimits saturatedCommand exampleLimits = true := by
    decide +kernel
  constructor
  · refine (if_pos haccepted).trans (congrArg Except.ok ?_)
    decide +kernel
  · intro hreceived
    exact hreceived.noControl .disable rfl

end PolicyRuntime
