import PolicyRuntime.St3215Protocol

/-!
# The packet codecs of the ST3215

The bytes of a packet after its header add up to `0xff`.  The daemon and the
Python package encode and decode packets independently of each other; both
accept the same packets.
-/

namespace PolicyRuntime

/-! ## The Python codec

A `bytes` value is a list of bytes, and an item of it is an integer. -/

namespace St3215Python

structure DecodedPacket where
  deviceId : ℤ
  instructionOrStatus : ℤ
  parameters : Bytes
  deriving DecidableEq, Repr

def header : Bytes := [0xff, 0xff]

/-- `bytes([value])`, for a value which is a byte -/
def byteOf (value : ℤ) : UInt8 := UInt8.ofNat value.toNat

/-- An item of `bytes`. -/
def item (data : Bytes) (index : ℕ) : ℤ := (data.getD index 0).toNat

def hexDigit (digit : ℕ) : Char :=
  if digit < 10 then Char.ofNat (48 + digit) else Char.ofNat (87 + digit)

/-- A byte in the format `02x`. -/
def hexByte (value : ℤ) : String :=
  String.ofList [hexDigit (value.toNat / 16), hexDigit (value.toNat % 16)]

def validateByte (name : String) (value : ℤ) : Except String ℤ :=
  if 0 ≤ value ∧ value ≤ 0xff then .ok value
  else .error ("invalid ST3215 " ++ name ++ ": " ++ toString value)

/-- Masking an integer with `0xFF` is its remainder. -/
def checksum (deviceId length instructionOrStatus : ℤ)
    (parameters : Bytes) : ℤ :=
  let total := (deviceId + length + instructionOrStatus +
    (parameters.map fun parameter => (parameter.toNat : ℤ)).sum) % 256
  (-total - 1) % 256

def encodePacket (deviceId instructionOrStatus : ℤ) (parameters : Bytes) :
    Except String Bytes := do
  let deviceId ← validateByte "device_id" deviceId
  let instructionOrStatus ←
    validateByte "instruction_or_status" instructionOrStatus
  if 253 < parameters.length then
    throw ("too many ST3215 parameters: " ++ toString parameters.length)
  let length : ℤ := parameters.length + 2
  return header ++
    [byteOf deviceId, byteOf length, byteOf instructionOrStatus] ++
    parameters ++
    [byteOf (checksum deviceId length instructionOrStatus parameters)]

def decodePacket (packet : Bytes) : Except String DecodedPacket :=
  if packet.length < 6 then
    .error ("ST3215 packet is too short: " ++ toString packet.length)
  else if packet.take 2 ≠ header then
    .error "invalid ST3215 packet header"
  else
    let deviceId := item packet 2
    let length := item packet 3
    let expectedLen := length + 4
    if (packet.length : ℤ) ≠ expectedLen then
      .error ("invalid ST3215 packet length: expected " ++
        toString expectedLen ++ ", got " ++ toString packet.length)
    else
      let instructionOrStatus := item packet 4
      let parameters := (packet.drop 5).dropLast
      let expected := checksum deviceId length instructionOrStatus parameters
      let actual : ℤ := (packet.getLastD 0).toNat
      if actual ≠ expected then
        .error ("invalid ST3215 checksum: expected 0x" ++ hexByte expected ++
          ", got 0x" ++ hexByte actual)
      else
        .ok ⟨deviceId, instructionOrStatus, parameters⟩

end St3215Python

namespace St3215Protocol

/-! ## Sums of bytes -/

def byteSum : Bytes → UInt8
  | [] => 0
  | byte :: rest => byte + byteSum rest

theorem byteSum_append (left right : Bytes) :
    byteSum (left ++ right) = byteSum left + byteSum right := by
  induction left with
  | nil => exact (UInt8.zero_add _).symm
  | cons byte rest ih =>
      rw [List.cons_append, byteSum, byteSum, ih, UInt8.add_assoc]

theorem byteSum_set {bytes : Bytes} {index : ℕ} {old : UInt8}
    (hold : bytes[index]? = some old) (new : UInt8) :
    byteSum (bytes.set index new) + old = byteSum bytes + new := by
  induction bytes generalizing index with
  | nil => cases hold
  | cons byte rest ih =>
      cases index with
      | zero =>
          cases hold
          rw [List.set_cons_zero, byteSum, byteSum]
          grind
      | succ index =>
          have hrest := ih hold
          rw [List.set_cons_succ, byteSum, byteSum]
          grind

theorem toUInt8_foldl (total : UInt32) (parameters : Bytes) :
    (parameters.foldl (fun total parameter => total + parameter.toUInt32)
      total).toUInt8 = total.toUInt8 + byteSum parameters := by
  induction parameters generalizing total with
  | nil => exact (UInt8.add_zero _).symm
  | cons parameter rest ih =>
      rw [List.foldl_cons, ih, UInt32.toUInt8_add, UInt8.toUInt8_toUInt32,
        byteSum, UInt8.add_assoc]

theorem checksum_eq (deviceId length instructionOrStatus : UInt8)
    (parameters : Bytes) :
    checksum deviceId length instructionOrStatus parameters =
      ~~~(deviceId + length + instructionOrStatus + byteSum parameters) := by
  have hmask : ∀ total : UInt32,
      (~~~total &&& 0xff).toUInt8 = ~~~total.toUInt8 := by
    intro total
    rw [UInt32.toUInt8_and, UInt32.toUInt8_not]
    exact UInt8.and_neg_one
  unfold checksum
  dsimp only
  rw [hmask, toUInt8_foldl, UInt32.toUInt8_add, UInt32.toUInt8_add,
    UInt8.toUInt8_toUInt32, UInt8.toUInt8_toUInt32, UInt8.toUInt8_toUInt32]

theorem add_complement (total : UInt8) : total + ~~~total = 255 := by
  rw [UInt8.not_eq_neg_sub]
  grind

theorem toNat_byteSum (bytes : Bytes) :
    ((byteSum bytes).toNat : ℤ) =
      (bytes.map fun byte => (byte.toNat : ℤ)).sum % 256 := by
  induction bytes with
  | nil => rfl
  | cons byte rest ih =>
      rw [byteSum, UInt8.toNat_add, List.map_cons, List.sum_cons]
      push_cast
      rw [ih]
      omega

/-! ## Shapes of packets -/

/-- The bytes of a packet. -/
def layout (first second deviceId length instructionOrStatus : UInt8)
    (parameters : Bytes) (sum : UInt8) : Bytes :=
  [first, second, deviceId, length, instructionOrStatus] ++ parameters ++ [sum]

theorem exists_layout {packet : Bytes} (hlength : 6 ≤ packet.length) :
    ∃ first second deviceId length instructionOrStatus parameters sum,
      packet = layout first second deviceId length instructionOrStatus
        parameters sum := by
  match packet with
  | first :: second :: deviceId :: length :: instructionOrStatus :: sixth ::
      rest =>
      have hne : sixth :: rest ≠ [] := List.cons_ne_nil _ _
      refine ⟨first, second, deviceId, length, instructionOrStatus,
        (sixth :: rest).dropLast, (sixth :: rest).getLast hne, ?_⟩
      unfold layout
      rw [List.append_assoc, List.dropLast_concat_getLast]
      rfl

section Layout

variable (first second deviceId length instructionOrStatus : UInt8)
  (parameters : Bytes) (sum : UInt8)

theorem length_layout :
    (layout first second deviceId length instructionOrStatus parameters
      sum).length = parameters.length + 6 := by
  unfold layout
  simp

theorem getLastD_layout :
    (layout first second deviceId length instructionOrStatus parameters
      sum).getLastD 0 = sum :=
  List.getLastD_concat

theorem decodePacket_layout :
    decodePacket (layout first second deviceId length instructionOrStatus
      parameters sum) =
      if first ≠ kHeaderByte || second ≠ kHeaderByte then
        .error ⟨.protocol, "invalid ST3215 packet header"⟩
      else if length < 2 || length.toNat + 4 ≠ parameters.length + 6 then
        .error ⟨.protocol, "invalid ST3215 packet length"⟩
      else if sum ≠ checksum deviceId length instructionOrStatus
          parameters then
        .error ⟨.protocol, "invalid ST3215 checksum"⟩
      else
        .ok ⟨deviceId, instructionOrStatus, parameters⟩ := by
  have hparameters : ((layout first second deviceId length instructionOrStatus
      parameters sum).drop 5).take (parameters.length + 6 - 6) =
        parameters := by
    unfold layout
    simp
  unfold decodePacket
  rw [getLastD_layout, length_layout, if_neg (by omega), hparameters]
  rfl

end Layout

/-- What an accepted packet looks like. -/
theorem layout_of_decodePacket {packet : Bytes} {decoded : St3215Packet}
    (h : decodePacket packet = .ok decoded) :
    decoded.parameters.length ≤ kSt3215MaximumParameters ∧
      packet = layout kHeaderByte kHeaderByte decoded.deviceId
        (UInt8.ofNat (decoded.parameters.length + 2))
        decoded.instructionOrStatus decoded.parameters
        (checksum decoded.deviceId
          (UInt8.ofNat (decoded.parameters.length + 2))
          decoded.instructionOrStatus decoded.parameters) := by
  have hlong : 6 ≤ packet.length := by
    by_contra hshort
    unfold decodePacket at h
    rw [if_pos (by omega)] at h
    cases h
  obtain ⟨first, second, deviceId, length, instructionOrStatus, parameters,
    sum, rfl⟩ := exists_layout hlong
  rw [decodePacket_layout] at h
  split_ifs at h with hheader hlength hsum
  cases h
  simp only [Bool.or_eq_true, decide_eq_true_eq, not_or, not_not]
    at hheader hlength hsum
  have hbound := length.toNat_lt
  have hlen : length = UInt8.ofNat (parameters.length + 2) := by
    apply UInt8.toNat_inj.mp
    rw [UInt8.toNat_ofNat']
    omega
  dsimp only
  rw [hheader.1, hheader.2, hsum, ← hlen]
  refine ⟨?_, rfl⟩
  unfold kSt3215MaximumParameters
  omega

/-- A packet which decodes is the encoding of what it decodes to. -/
theorem encodePacket_decodePacket {packet : Bytes} {decoded : St3215Packet}
    (h : decodePacket packet = .ok decoded) :
    encodePacket decoded.deviceId decoded.instructionOrStatus
      decoded.parameters = .ok packet := by
  obtain ⟨hlength, hpacket⟩ := layout_of_decodePacket h
  rw [encodePacket_ok _ _ hlength, hpacket]
  rfl

theorem sum_of_decodePacket {packet : Bytes} {decoded : St3215Packet}
    (h : decodePacket packet = .ok decoded) :
    packet.take 2 = [kHeaderByte, kHeaderByte] ∧
      byteSum (packet.drop 2) = 255 := by
  obtain ⟨-, hpacket⟩ := layout_of_decodePacket h
  rw [hpacket]
  refine ⟨rfl, ?_⟩
  unfold layout
  rw [checksum_eq]
  simp only [List.cons_append, List.nil_append, List.drop_succ_cons,
    List.drop_zero, byteSum, byteSum_append]
  rw [UInt8.add_zero]
  have hcomplement := add_complement (decoded.deviceId +
    UInt8.ofNat (decoded.parameters.length + 2) +
    decoded.instructionOrStatus + byteSum decoded.parameters)
  rw [← hcomplement]
  grind

/-- No accepted packet differs from another one in a single byte. -/
theorem decodePacket_set {packet : Bytes} {decoded : St3215Packet}
    (h : decodePacket packet = .ok decoded) {index : ℕ} {old new : UInt8}
    (hold : packet[index]? = some old) (hne : new ≠ old) :
    ∃ error, decodePacket (packet.set index new) = .error error := by
  cases hset : decodePacket (packet.set index new) with
  | error error => exact ⟨error, rfl⟩
  | ok other =>
      exfalso
      obtain ⟨hheader, hsum⟩ := sum_of_decodePacket h
      obtain ⟨hheader', hsum'⟩ := sum_of_decodePacket hset
      have hat : (packet.set index new)[index]? = some new := by
        rw [List.getElem?_set_self']
        rw [hold]
        rfl
      by_cases hindex : index < 2
      · have hbefore := List.getElem?_take_of_lt hindex (l := packet)
        have hafter :=
          List.getElem?_take_of_lt hindex (l := packet.set index new)
        rw [hheader, hold] at hbefore
        rw [hheader', hat, hbefore] at hafter
        cases hafter
        exact hne rfl
      · have hdrop : (packet.set index new).drop 2 =
            (packet.drop 2).set (index - 2) new := by
          rw [List.drop_set, if_neg hindex]
        have hbyte : (packet.drop 2)[index - 2]? = some old := by
          rw [List.getElem?_drop, ← hold]
          congr 1
          omega
        have hbalance := byteSum_set hbyte new
        rw [← hdrop, hsum, hsum'] at hbalance
        apply hne
        grind

/-! ## Agreement -/

theorem toNat_checksum (deviceId length instructionOrStatus : UInt8)
    (parameters : Bytes) :
    St3215Python.checksum deviceId.toNat length.toNat
        instructionOrStatus.toNat parameters =
      (checksum deviceId length instructionOrStatus parameters).toNat := by
  have hsum := toNat_byteSum parameters
  have hbound := (byteSum parameters).toNat_lt
  rw [checksum_eq, UInt8.toNat_not, UInt8.toNat_add, UInt8.toNat_add,
    UInt8.toNat_add]
  have hsize : UInt8.size = 256 := rfl
  unfold St3215Python.checksum
  rw [hsize]
  dsimp only
  omega

theorem byteOf_toNat (byte : UInt8) : St3215Python.byteOf byte.toNat = byte := by
  unfold St3215Python.byteOf
  rw [Int.toNat_natCast, UInt8.ofNat_toNat]

theorem validateByte_eq_ok_iff (name : String) (value checked : ℤ) :
    St3215Python.validateByte name value = .ok checked ↔
      checked = value ∧ ∃ byte : UInt8, value = byte.toNat := by
  unfold St3215Python.validateByte
  constructor
  · intro h
    split_ifs at h with hrange
    cases h
    refine ⟨rfl, UInt8.ofNat value.toNat, ?_⟩
    rw [UInt8.toNat_ofNat']
    omega
  · rintro ⟨rfl, byte, rfl⟩
    have hbound := byte.toNat_lt
    rw [if_pos (by omega)]

theorem python_encodePacket_ok (deviceId instructionOrStatus : UInt8)
    (parameters : Bytes) :
    (St3215Python.encodePacket deviceId.toNat instructionOrStatus.toNat
      parameters).toOption =
      (encodePacket deviceId instructionOrStatus parameters).toOption := by
  have hdevice := (validateByte_eq_ok_iff "device_id" deviceId.toNat _).mpr
    ⟨rfl, deviceId, rfl⟩
  have hinstruction := (validateByte_eq_ok_iff "instruction_or_status"
    instructionOrStatus.toNat _).mpr ⟨rfl, instructionOrStatus, rfl⟩
  unfold St3215Python.encodePacket
  rw [hdevice]
  dsimp only [bind, Except.bind]
  rw [hinstruction]
  dsimp only
  by_cases hlong : 253 < parameters.length
  · rw [if_pos hlong]
    unfold encodePacket
    rw [if_pos (show kSt3215MaximumParameters < parameters.length from hlong)]
    rfl
  · rw [if_neg hlong, encodePacket_ok _ _ (Nat.not_lt.mp hlong)]
    have hlength := toNat_length (Nat.not_lt.mp hlong)
    have hcast : ((parameters.length : ℤ) + 2) =
        ((UInt8.ofNat (parameters.length + 2)).toNat : ℤ) := by
      rw [hlength]
      rfl
    dsimp only [pure, Except.pure]
    rw [hcast, toNat_checksum, byteOf_toNat, byteOf_toNat, byteOf_toNat,
      byteOf_toNat]
    rfl

/-- Both encoders accept the same arguments. -/
theorem python_encodePacket (deviceId instructionOrStatus : ℤ)
    (parameters packet : Bytes) :
    St3215Python.encodePacket deviceId instructionOrStatus parameters =
        .ok packet ↔
      ∃ device instruction : UInt8, deviceId = device.toNat ∧
        instructionOrStatus = instruction.toNat ∧
        encodePacket device instruction parameters = .ok packet := by
  have hoption : ∀ {ε : Type} {result : Except ε Bytes},
      result = .ok packet ↔ result.toOption = some packet := by
    intro ε result
    cases result with
    | error error => exact iff_of_false (by simp) (by simp [Except.toOption])
    | ok value => simp [Except.toOption]
  constructor
  · intro h
    have hbytes : (∃ byte : UInt8, deviceId = byte.toNat) ∧
        ∃ byte : UInt8, instructionOrStatus = byte.toNat := by
      unfold St3215Python.encodePacket at h
      dsimp only [bind, Except.bind] at h
      cases hdevice : St3215Python.validateByte "device_id" deviceId with
      | error error =>
          rw [hdevice] at h
          cases h
      | ok device =>
          rw [hdevice] at h
          dsimp only at h
          cases hinstruction : St3215Python.validateByte
              "instruction_or_status" instructionOrStatus with
          | error error =>
              rw [hinstruction] at h
              cases h
          | ok instruction =>
              exact ⟨((validateByte_eq_ok_iff _ _ _).mp hdevice).2,
                ((validateByte_eq_ok_iff _ _ _).mp hinstruction).2⟩
    obtain ⟨⟨device, rfl⟩, instruction, rfl⟩ := hbytes
    refine ⟨device, instruction, rfl, rfl, ?_⟩
    rw [hoption] at h ⊢
    rw [← python_encodePacket_ok, h]
  · rintro ⟨device, instruction, rfl, rfl, h⟩
    rw [hoption] at h ⊢
    rw [python_encodePacket_ok, h]

/-- The packet as the Python package represents it. -/
def pythonPacket (decoded : St3215Packet) : St3215Python.DecodedPacket :=
  ⟨decoded.deviceId.toNat, decoded.instructionOrStatus.toNat,
    decoded.parameters⟩

theorem python_decodePacket_layout
    (first second deviceId length instructionOrStatus : UInt8)
    (parameters : Bytes) (sum : UInt8) :
    (St3215Python.decodePacket (layout first second deviceId length
      instructionOrStatus parameters sum)).toOption =
      if first = kHeaderByte ∧ second = kHeaderByte ∧
          length.toNat = parameters.length + 2 ∧
          sum = checksum deviceId length instructionOrStatus parameters then
        some ⟨deviceId.toNat, instructionOrStatus.toNat, parameters⟩
      else none := by
  have hdrop : ((layout first second deviceId length instructionOrStatus
      parameters sum).drop 5).dropLast = parameters := by
    unfold layout
    simp
  have htake : (layout first second deviceId length instructionOrStatus
      parameters sum).take 2 = [first, second] := rfl
  have hdevice : St3215Python.item (layout first second deviceId length
      instructionOrStatus parameters sum) 2 = deviceId.toNat := rfl
  have hlen : St3215Python.item (layout first second deviceId length
      instructionOrStatus parameters sum) 3 = length.toNat := rfl
  have hinstruction : St3215Python.item (layout first second deviceId length
      instructionOrStatus parameters sum) 4 = instructionOrStatus.toNat := rfl
  unfold St3215Python.decodePacket
  dsimp only
  rw [getLastD_layout, length_layout, if_neg (by omega), hdrop, htake,
    hdevice, hlen, hinstruction, toNat_checksum]
  by_cases hheader : [first, second] ≠ St3215Python.header
  · rw [if_pos hheader, if_neg]
    · rfl
    · rintro ⟨rfl, rfl, -⟩
      exact hheader rfl
  · rw [if_neg hheader]
    obtain ⟨rfl, rfl⟩ : first = kHeaderByte ∧ second = kHeaderByte := by
      have heq := not_not.mp hheader
      cases heq
      exact ⟨rfl, rfl⟩
    by_cases hlength : length.toNat = parameters.length + 2
    · rw [if_neg (by push_cast; omega)]
      by_cases hsum :
          sum = checksum deviceId length instructionOrStatus parameters
      · rw [if_neg (by rw [hsum]; simp), if_pos ⟨rfl, rfl, hlength, hsum⟩]
        rfl
      · rw [if_pos, if_neg]
        · rfl
        · exact fun h => hsum h.2.2.2
        · intro h
          exact hsum (UInt8.toNat_inj.mp (Nat.cast_injective h))
    · rw [if_pos (by push_cast; omega), if_neg]
      · rfl
      · exact fun h => hlength h.2.2.1

theorem toOption_decodePacket_layout
    (first second deviceId length instructionOrStatus : UInt8)
    (parameters : Bytes) (sum : UInt8) :
    (decodePacket (layout first second deviceId length instructionOrStatus
      parameters sum)).toOption =
      if first = kHeaderByte ∧ second = kHeaderByte ∧
          length.toNat = parameters.length + 2 ∧
          sum = checksum deviceId length instructionOrStatus parameters then
        some ⟨deviceId, instructionOrStatus, parameters⟩
      else none := by
  have htwo : (2 : UInt8).toNat = 2 := rfl
  rw [decodePacket_layout]
  simp only [Bool.or_eq_true, decide_eq_true_eq, UInt8.lt_iff_toNat_lt, htwo]
  split_ifs with hheader haccepted hlength haccepted hsum haccepted haccepted
  · exact absurd haccepted.1 (by tauto)
  · rfl
  · omega
  · rfl
  · exact absurd haccepted.2.2.2 hsum
  · rfl
  · rfl
  · exfalso
    apply haccepted
    refine ⟨by tauto, by tauto, by omega, not_not.mp hsum⟩

/-- Both decoders accept the same packets, with the same contents. -/
theorem python_decodePacket (packet : Bytes) :
    (St3215Python.decodePacket packet).toOption =
      (decodePacket packet).toOption.map pythonPacket := by
  by_cases hshort : packet.length < 6
  · unfold St3215Python.decodePacket decodePacket
    rw [if_pos hshort, if_pos hshort]
    rfl
  · obtain ⟨first, second, deviceId, length, instructionOrStatus, parameters,
      sum, rfl⟩ := exists_layout (Nat.not_lt.mp hshort)
    rw [python_decodePacket_layout, toOption_decodePacket_layout]
    split
    · rfl
    · rfl

/-- Packets round trip, detect every changed byte, and mean the same to both
implementations. -/
theorem codec_exact :
    (∀ deviceId instructionOrStatus parameters,
      parameters.length ≤ kSt3215MaximumParameters →
      ∃ packet,
        encodePacket deviceId instructionOrStatus parameters = .ok packet ∧
        decodePacket packet =
          .ok ⟨deviceId, instructionOrStatus, parameters⟩) ∧
    (∀ packet decoded, decodePacket packet = .ok decoded →
      encodePacket decoded.deviceId decoded.instructionOrStatus
        decoded.parameters = .ok packet) ∧
    (∀ deviceId instructionOrStatus parameters packet,
      encodePacket deviceId instructionOrStatus parameters = .ok packet →
      ∀ index old new, packet[index]? = some old → new ≠ old →
        ∃ error, decodePacket (packet.set index new) = .error error) ∧
    (∀ deviceId instructionOrStatus parameters packet,
      St3215Python.encodePacket deviceId instructionOrStatus parameters =
          .ok packet ↔
        ∃ device instruction : UInt8, deviceId = device.toNat ∧
          instructionOrStatus = instruction.toNat ∧
          encodePacket device instruction parameters = .ok packet) ∧
    ∀ packet, (St3215Python.decodePacket packet).toOption =
      (decodePacket packet).toOption.map pythonPacket := by
  refine ⟨?_, ?_, ?_, python_encodePacket, python_decodePacket⟩
  · intro deviceId instructionOrStatus parameters hlength
    have hencoded := encodePacket_ok deviceId instructionOrStatus hlength
    exact ⟨_, hencoded,
      decodePacket_encodePacket deviceId instructionOrStatus hencoded⟩
  · intro packet decoded h
    exact encodePacket_decodePacket h
  · intro deviceId instructionOrStatus parameters packet hencoded index old new
      hold hne
    have hdecoded :=
      decodePacket_encodePacket deviceId instructionOrStatus hencoded
    exact decodePacket_set hdecoded hold hne

/-- A ping of device one, with its length byte changed. -/
theorem codec_exact_ping :
    encodePacket 1 1 [] = .ok [0xff, 0xff, 1, 2, 1, 0xfb] ∧
      decodePacket [0xff, 0xff, 1, 2, 1, 0xfb] = .ok ⟨1, 1, []⟩ ∧
      ∃ error,
        decodePacket [0xff, 0xff, 1, 3, 1, 0xfb] = .error error := by
  have hencoded : encodePacket 1 1 [] =
      .ok [0xff, 0xff, 1, 2, 1, 0xfb] := by rfl
  obtain ⟨hround, -, hchanged, -, -⟩ := codec_exact
  refine ⟨hencoded, ?_, ?_⟩
  · obtain ⟨packet, hpacket, hdecoded⟩ := hround 1 1 [] (by decide)
    rw [hencoded] at hpacket
    cases hpacket
    exact hdecoded
  · exact hchanged 1 1 [] _ hencoded 3 2 3 rfl (by decide)

end St3215Protocol

end PolicyRuntime
