import PolicyRuntime.RobotProfiles

/-!
# Damiao frames

A command sample becomes one frame of eight payload bytes: the control frame
that sets the zero position, the control frame that disables the motor, or an
MIT frame.  The encoder of the enable control frame stands beside them and has
no caller.
-/

namespace PolicyRuntime

abbrev Byte := BitVec 8

/-- Eight bytes of payload. -/
abbrev DamiaoPayload := Fin 8 → Byte

structure DeviceFrame where
  sequence : BitVec 64
  address : BitVec 32
  size : BitVec 16
  bytes : Fin 256 → Byte

def DeviceFrame.setSequence (frame : DeviceFrame) (sequence : BitVec 64) :
    DeviceFrame :=
  { frame with sequence := sequence }

@[ext]
structure CanFrame where
  id : BitVec 32
  data : DamiaoPayload
  dlc : Byte

/-- The copy the cycle loop sends. -/
def DeviceFrame.toCan (frame : DeviceFrame) : CanFrame where
  id := frame.address
  dlc := frame.size.setWidth 8
  data := fun i =>
    if i.val < (frame.size.setWidth 8).toNat then
      frame.bytes (i.castLE (by decide))
    else 0

inductive DamiaoControl
  | enable
  | disable
  | zeroPosition
  deriving DecidableEq

def DamiaoControl.code : DamiaoControl → Byte
  | .enable => 0xFC
  | .disable => 0xFD
  | .zeroPosition => 0xFE

structure DamiaoMitCommand (F : Type) where
  position : F
  velocity : F
  kp : F
  kd : F
  torque : F

/-- `DamiaoProtocol::encode_control` -/
def encodeControl (control : DamiaoControl) : DamiaoPayload :=
  fun i => if i = 7 then control.code else 0xFF

section Protocol

variable {F : Type} [SinglePrecision F]
open SinglePrecision

/-- `std::clamp(ratio, 0, 1)` -/
def clampUnit (ratio : F) : F :=
  if lt ratio (ofNat 0) then ofNat 0
  else if lt (ofNat 1) ratio then ofNat 1
  else ratio

def clampCode (value minValue maxValue : F) (maxCode : ℕ) : BitVec 16 :=
  let ratio := div (sub value minValue) (sub maxValue minValue)
  let scaled := mul (clampUnit ratio) (ofNat maxCode)
  BitVec.ofInt 16 (lround scaled)

def finiteAndInRange (value minValue maxValue : F) : Bool :=
  isfinite value && le minValue value && le value maxValue

/-- The test at the head of `DamiaoProtocol::encode_mit`. -/
def withinLimits (command : DamiaoMitCommand F) (limits : DamiaoLimits F) :
    Bool :=
  lt (ofNat 0) limits.positionMax && lt (ofNat 0) limits.velocityMax &&
    lt (ofNat 0) limits.torqueMax &&
    finiteAndInRange command.position (neg limits.positionMax)
      limits.positionMax &&
    finiteAndInRange command.velocity (neg limits.velocityMax)
      limits.velocityMax &&
    finiteAndInRange command.torque (neg limits.torqueMax) limits.torqueMax &&
    finiteAndInRange command.kp (ofNat 0) (ofNat 500) &&
    finiteAndInRange command.kd (ofNat 0) (ofNat 5)

/-- The five codes of an MIT frame, packed. -/
def packMit (p v kp kd t : BitVec 16) : DamiaoPayload :=
  ![(p >>> 8).setWidth 8,
    (p &&& 0xFF).setWidth 8,
    (v >>> 4).setWidth 8,
    (((v &&& 0x0F) <<< 4) ||| (kp >>> 8)).setWidth 8,
    (kp &&& 0xFF).setWidth 8,
    (kd >>> 4).setWidth 8,
    (((kd &&& 0x0F) <<< 4) ||| (t >>> 8)).setWidth 8,
    (t &&& 0xFF).setWidth 8]

/-- `DamiaoProtocol::encode_mit` -/
def encodeMit (command : DamiaoMitCommand F) (limits : DamiaoLimits F) :
    Except Error DamiaoPayload :=
  if withinLimits command limits then
    .ok (packMit
      (clampCode command.position (neg limits.positionMax) limits.positionMax
        0xFFFF)
      (clampCode command.velocity (neg limits.velocityMax) limits.velocityMax
        0x0FFF)
      (clampCode command.kp (ofNat 0) (ofNat 500) 0x0FFF)
      (clampCode command.kd (ofNat 0) (ofNat 5) 0x0FFF)
      (clampCode command.torque (neg limits.torqueMax) limits.torqueMax
        0x0FFF))
  else
    .error ⟨.invalidArgument, "MIT command is outside configured limits"⟩

/-! ## The actuator -/

structure DamiaoActuator (F : Type) where
  motorId : Byte
  limits : DamiaoLimits F
  command : DamiaoMitCommand F
  enabled : Bool
  zeroRequested : Bool

namespace DamiaoActuator

def configured (motor : MotorProfile F) : DamiaoActuator F where
  motorId := BitVec.ofNat 8 motor.motorId
  limits := motor.limits
  command := ⟨ofNat 0, ofNat 0, ofNat 0, ofNat 0, ofNat 0⟩
  enabled := false
  zeroRequested := false

variable (actuator : DamiaoActuator F)

def clearZeroPosition : DamiaoActuator F :=
  { actuator with zeroRequested := false }

/-- A frame of the motor which carries a payload. -/
def frame (payload : DamiaoPayload) : DeviceFrame where
  sequence := 0
  address := actuator.motorId.setWidth 32
  size := 8
  bytes := fun i => if h : i.val < 8 then payload ⟨i.val, h⟩ else 0

def encodeFrame : Except Error DeviceFrame :=
  if actuator.zeroRequested then
    .ok (actuator.frame (encodeControl .zeroPosition))
  else if !actuator.enabled then
    .ok (actuator.frame (encodeControl .disable))
  else
    match encodeMit actuator.command actuator.limits with
    | .error error => .error error
    | .ok payload => .ok (actuator.frame payload)

def encodeEnable : DeviceFrame :=
  actuator.frame (encodeControl .enable)

omit [SinglePrecision F] in
/-- Eight bytes pass unchanged from the actuator to the bus. -/
theorem toCan_frame (payload : DamiaoPayload) (sequence : BitVec 64) :
    ((actuator.frame payload).setSequence sequence).toCan =
      ⟨actuator.motorId.setWidth 32, payload, 8⟩ := by
  ext i
  · rfl
  · simp [DeviceFrame.toCan, DeviceFrame.setSequence, frame]
  · rfl

end DamiaoActuator

/-! ## The callback -/

structure DamiaoCommandValue (F : Type) where
  enabled : Bool
  faultReset : Bool
  position : F
  velocity : F
  kp : F
  kd : F
  torque : F
  sequence : BitVec 64

namespace DamiaoCommandValue

variable (value : DamiaoCommandValue F)

def mitCommand : DamiaoMitCommand F :=
  ⟨value.position, value.velocity, value.kp, value.kd, value.torque⟩

/-- The actuator when the callback encodes its frame. -/
def applyTo (actuator : DamiaoActuator F) : DamiaoActuator F :=
  { actuator with
    enabled := value.enabled
    command := value.mitCommand
    zeroRequested := value.faultReset || actuator.zeroRequested }

/-- The actuator behind the callback, which clears the zero request, and the
frame it stages. -/
def encode (actuator : DamiaoActuator F) :
    DamiaoActuator F × Option DeviceFrame :=
  let applied := value.applyTo actuator
  match applied.encodeFrame with
  | .error _ => (applied.clearZeroPosition, none)
  | .ok frame =>
      (applied.clearZeroPosition, some (frame.setSequence value.sequence))

/-- The payload a sample stands for. -/
def payload (limits : DamiaoLimits F) : Option DamiaoPayload :=
  if value.faultReset then some (encodeControl .zeroPosition)
  else if !value.enabled then some (encodeControl .disable)
  else (encodeMit value.mitCommand limits).toOption

/-- No sample sees what earlier samples left in the actuator. -/
theorem encode_eq {actuator : DamiaoActuator F}
    (hclear : actuator.zeroRequested = false) :
    value.encode actuator =
      ((value.applyTo actuator).clearZeroPosition,
        (value.payload actuator.limits).map fun payload =>
          (actuator.frame payload).setSequence value.sequence) := by
  unfold encode payload DamiaoActuator.encodeFrame applyTo
  rw [hclear, Bool.or_false]
  cases value.faultReset with
  | true => rfl
  | false =>
      cases value.enabled with
      | false => rfl
      | true =>
          simp only [Bool.false_eq_true, if_false, Bool.not_true]
          cases encodeMit value.mitCommand actuator.limits with
          | error error => rfl
          | ok payload => rfl

end DamiaoCommandValue

end Protocol

end PolicyRuntime
