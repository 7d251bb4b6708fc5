import PolicyRuntime.Messages

/-!
# ST3215 packets

A packet is two header bytes, the device, a length, an instruction or a status,
the parameters and a checksum.  Positions are sent in units of a turn.
-/

namespace PolicyRuntime

open FloatingPoint

abbrev Bytes := List UInt8

def kHeaderByte : UInt8 := 0xff
def kSt3215BroadcastId : UInt8 := 0xfe
def kSt3215MaximumParameters : ℕ := 253
def kSt3215MaximumFrameSize : ℕ := 259

structure St3215Packet where
  deviceId : UInt8
  instructionOrStatus : UInt8
  parameters : Bytes
  deriving DecidableEq, Repr

structure St3215Status where
  deviceId : UInt8
  error : UInt8
  parameters : Bytes
  deriving DecidableEq, Repr

inductive St3215Instruction
  | readData
  | writeData

def St3215Instruction.value : St3215Instruction → UInt8
  | .readData => 0x02
  | .writeData => 0x03

inductive St3215Register
  | goalPosition
  | presentPosition

def St3215Register.value : St3215Register → UInt8
  | .goalPosition => 0x2a
  | .presentPosition => 0x38

namespace St3215Protocol

def checksum (deviceId length instructionOrStatus : UInt8)
    (parameters : Bytes) : UInt8 :=
  let total := parameters.foldl
    (fun total parameter => total + parameter.toUInt32)
    (deviceId.toUInt32 + length.toUInt32 + instructionOrStatus.toUInt32)
  (~~~total &&& 0xff).toUInt8

def encodePacket (deviceId instructionOrStatus : UInt8)
    (parameters : Bytes) : Except Error Bytes :=
  if kSt3215MaximumParameters < parameters.length then
    .error ⟨.invalidArgument, "too many ST3215 parameters"⟩
  else
    let length := UInt8.ofNat (parameters.length + 2)
    .ok ([kHeaderByte, kHeaderByte, deviceId, length, instructionOrStatus] ++
      parameters ++
      [checksum deviceId length instructionOrStatus parameters])

def decodePacket (packet : Bytes) : Except Error St3215Packet :=
  if packet.length < 6 then
    .error ⟨.protocol, "ST3215 packet is too short"⟩
  else if packet.getD 0 0 ≠ kHeaderByte || packet.getD 1 0 ≠ kHeaderByte then
    .error ⟨.protocol, "invalid ST3215 packet header"⟩
  else
    let length := packet.getD 3 0
    if length < 2 || length.toNat + 4 ≠ packet.length then
      .error ⟨.protocol, "invalid ST3215 packet length"⟩
    else
      let deviceId := packet.getD 2 0
      let instructionOrStatus := packet.getD 4 0
      let parameters := (packet.drop 5).take (packet.length - 6)
      let expected := checksum deviceId length instructionOrStatus parameters
      if packet.getLastD 0 ≠ expected then
        .error ⟨.protocol, "invalid ST3215 checksum"⟩
      else
        .ok ⟨deviceId, instructionOrStatus, parameters⟩

def parseStatus (packet : Bytes) : Except Error St3215Status :=
  match decodePacket packet with
  | .error error => .error error
  | .ok decoded =>
      .ok ⟨decoded.deviceId, decoded.instructionOrStatus, decoded.parameters⟩

def requireEncoded (deviceId instructionOrStatus : UInt8)
    (parameters : Bytes) : Bytes :=
  match encodePacket deviceId instructionOrStatus parameters with
  | .ok encoded => encoded
  | .error _ => []

def readDataCommand (deviceId : UInt8) (address : St3215Register)
    (length : UInt8) : Bytes :=
  requireEncoded deviceId St3215Instruction.readData.value
    [address.value, length]

def writeDataCommand (deviceId : UInt8) (address : St3215Register)
    (data : Bytes) : Bytes :=
  if kSt3215MaximumParameters < data.length + 1 then
    []
  else
    requireEncoded deviceId St3215Instruction.writeData.value
      (address.value :: data)

def appendU16 (output : Bytes) (value : UInt16) : Bytes :=
  output ++ [(value &&& 0xff).toUInt8, ((value >>> 8) &&& 0xff).toUInt8]

def goalPositionCommand (deviceId : UInt8)
    (positionUnits timeUnits speedUnits : UInt16) : Bytes :=
  writeDataCommand deviceId .goalPosition
    (appendU16 (appendU16 (appendU16 [] positionUnits) timeUnits) speedUnits)

def readPresentPositionCommand (deviceId : UInt8) : Bytes :=
  readDataCommand deviceId .presentPosition 2

def statusPacket (deviceId error : UInt8) (parameters : Bytes) : Bytes :=
  requireEncoded deviceId error parameters

theorem encodePacket_ok
    (deviceId instructionOrStatus : UInt8) {parameters : Bytes}
    (hlength : parameters.length ≤ kSt3215MaximumParameters) :
    encodePacket deviceId instructionOrStatus parameters =
      .ok ([kHeaderByte, kHeaderByte, deviceId,
          UInt8.ofNat (parameters.length + 2), instructionOrStatus] ++
        parameters ++
        [checksum deviceId (UInt8.ofNat (parameters.length + 2))
          instructionOrStatus parameters]) := by
  unfold encodePacket
  rw [if_neg (Nat.not_lt.mpr hlength)]

theorem toNat_length {parameters : Bytes}
    (hlength : parameters.length ≤ kSt3215MaximumParameters) :
    (UInt8.ofNat (parameters.length + 2)).toNat = parameters.length + 2 := by
  unfold kSt3215MaximumParameters at hlength
  rw [UInt8.toNat_ofNat']
  omega

/-- A packet which was encoded decodes to what it was made from. -/
theorem decodePacket_encodePacket
    (deviceId instructionOrStatus : UInt8) {parameters packet : Bytes}
    (hencoded :
      encodePacket deviceId instructionOrStatus parameters = .ok packet) :
    decodePacket packet =
      .ok ⟨deviceId, instructionOrStatus, parameters⟩ := by
  have hlength : parameters.length ≤ kSt3215MaximumParameters := by
    by_contra hlong
    unfold encodePacket at hencoded
    rw [if_pos (Nat.not_le.mp hlong)] at hencoded
    cases hencoded
  rw [encodePacket_ok deviceId instructionOrStatus hlength] at hencoded
  cases hencoded
  have hnat := toNat_length hlength
  generalize UInt8.ofNat (parameters.length + 2) = length at hnat
  have hsmall : ¬ length < 2 := by
    rw [UInt8.lt_iff_toNat_lt, hnat]
    simp
  generalize hsum : checksum deviceId length instructionOrStatus parameters =
    sum
  have hlast : ([kHeaderByte, kHeaderByte, deviceId, length,
      instructionOrStatus] ++ parameters ++ [sum]).getLastD 0 = sum :=
    List.getLastD_concat
  unfold decodePacket
  rw [if_neg (by simp), if_neg (by simp)]
  simp only [hlast]
  simp [hnat, hsmall, hsum]

theorem parseStatus_statusPacket
    (deviceId error : UInt8) {parameters : Bytes}
    (hlength : parameters.length ≤ kSt3215MaximumParameters) :
    parseStatus (statusPacket deviceId error parameters) =
      .ok ⟨deviceId, error, parameters⟩ := by
  have hencoded := encodePacket_ok deviceId error hlength
  unfold statusPacket requireEncoded parseStatus
  rw [hencoded]
  simp only
  rw [decodePacket_encodePacket deviceId error hencoded]

end St3215Protocol

/-! ## Conversions -/

/-- The further operations on `double` which the unit conversions use. -/
class DoubleArithmetic (D : Type) extends FloatingPoint D where
  /-- `std::numbers::pi` -/
  pi : D
  one : D
  two : D
  half : D
  ofNat : ℕ → D
  /-- `static_cast` to an unsigned integer type, on values inside its range -/
  toNat : D → ℕ
  multiply : D → D → D
  divide : D → D → D
  fmod : D → D → D
  floor : D → D

open DoubleArithmetic

def readSt3215U16Le (data : Bytes) : Except Error UInt16 :=
  if data.length < 2 then
    .error ⟨.protocol, "expected at least two ST3215 bytes"⟩
  else
    .ok ((data.getD 0 0).toUInt16 ||| ((data.getD 1 0).toUInt16 <<< 8))

variable {D : Type} [DoubleArithmetic D]

def radiansToPositionUnits (positionRad : D) (maxPositionUnits : UInt16) :
    Except Error UInt16 :=
  if !isfinite positionRad || maxPositionUnits = 0 then
    .error ⟨.invalidArgument, "invalid ST3215 position conversion"⟩
  else
    let tau : D := multiply two pi
    let remainder := fmod positionRad tau
    let wrapped := if lt remainder zero then add remainder tau else remainder
    let scaled := multiply (divide wrapped tau) (ofNat maxPositionUnits.toNat)
    let integral := floor scaled
    let fractional := sub scaled integral
    let rounded :=
      if lt half fractional ||
          (eq fractional half && DoubleArithmetic.toNat integral % 2 ≠ 0) then
        add integral one
      else
        integral
    let clamped := clamp rounded zero (ofNat maxPositionUnits.toNat)
    .ok (UInt16.ofNat (DoubleArithmetic.toNat clamped))

def positionUnitsToRadians (positionUnits maxPositionUnits : UInt16) :
    Except Error D :=
  if maxPositionUnits = 0 then
    .error ⟨.invalidArgument, "invalid ST3215 position conversion"⟩
  else
    .ok (multiply
      (multiply (divide (ofNat positionUnits.toNat) (ofNat maxPositionUnits.toNat))
        two) pi)

theorem radiansToPositionUnits_ok {positionRad : D} {maxPositionUnits : UInt16}
    (hfinite : isfinite positionRad = true) (hmax : maxPositionUnits ≠ 0) :
    ∃ units, radiansToPositionUnits positionRad maxPositionUnits =
      .ok units := by
  unfold radiansToPositionUnits
  rw [if_neg (by simp [hfinite, hmax])]
  exact ⟨_, rfl⟩

/-- `std::numbers::pi` is the double closest to the number. -/
instance exactDouble : DoubleArithmetic ℚ where
  toFloatingPoint := exactArithmetic
  pi := 884279719003555 / 281474976710656
  one := 1
  two := 2
  half := 1 / 2
  ofNat := fun n => (n : ℚ)
  toNat := fun x => ⌊x⌋.toNat
  multiply := fun x y => x * y
  divide := fun x y => x / y
  fmod := fun x y => x - y * (if 0 ≤ x / y then ⌊x / y⌋ else ⌈x / y⌉ : ℤ)
  floor := fun x => (⌊x⌋ : ℤ)

end PolicyRuntime
