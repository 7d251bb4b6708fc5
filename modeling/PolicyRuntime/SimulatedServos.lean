import PolicyRuntime.Machine
import PolicyRuntime.Quantization
import PolicyRuntime.St3215Stream

/-!
# The simulated servo bus

The simulator of the arm reads requests from a serial line, answers them, and
steps the physics between two polls.  The joint angles are whatever the physics
makes them.
-/

namespace PolicyRuntime

namespace SoArm101

/-! ## Packets -/

inductive DecodeResult
  | missing
  | packet (packet : St3215Packet)
  | packetError (message : String)
  /-- an access behind the end of the packet -/
  | indexError
  deriving DecidableEq

def encodeStatus (deviceId : UInt8) (error : ℤ) (parameters : Bytes) : Bytes :=
  let length : ℤ := parameters.length + 2
  St3215Python.header ++
    [deviceId, St3215Python.byteOf length, St3215Python.byteOf error] ++
    parameters ++
    [St3215Python.byteOf
      (St3215Python.checksum deviceId.toNat length error parameters)]

/-- The first packet of a buffer, and the buffer after it. -/
def tryDecodePacket (buffer : Bytes) : DecodeResult × Bytes :=
  let buffer := St3215StreamParser.seekHeader buffer
  if buffer.length < 6 then
    (.missing, buffer)
  else
    let length := buffer.getD 3 0
    let packetLen := length.toNat + 4
    if buffer.length < packetLen then
      (.missing, buffer)
    else
      let raw := buffer.take packetLen
      let buffer := buffer.drop packetLen
      match raw[4]? with
      | none => (.indexError, buffer)
      | some instruction =>
          let deviceId := raw.getD 2 0
          let parameters := (raw.drop 5).dropLast
          let expected := St3215Python.checksum deviceId.toNat length.toNat
            instruction.toNat parameters
          let actual : ℤ := (raw.getLastD 0).toNat
          if actual ≠ expected then
            (.packetError ("bad checksum: expected 0x" ++
              St3215Python.hexByte expected ++ ", got 0x" ++
              St3215Python.hexByte actual), buffer)
          else
            (.packet ⟨deviceId, instruction, parameters⟩, buffer)

def readU16Le (data : Bytes) : ℕ :=
  (data.getD 0 0).toNat + 256 * (data.getD 1 0).toNat

def writeU16Le (value : ℤ) : Bytes :=
  [St3215Python.byteOf (value % 256), St3215Python.byteOf (value / 256 % 256)]

/-! ## Simulator -/

def PING : UInt8 := 0x01
def READ_DATA : UInt8 := 0x02
def WRITE_DATA : UInt8 := 0x03
def ADDR_GOAL_POSITION : UInt8 := 0x2a
def ADDR_PRESENT_POSITION : UInt8 := 0x38

/-- The ids of `SERVO_NAMES`, counted from one. -/
def servos : List UInt8 := [1, 2, 3, 4, 5, 6]

/-- The control range of an actuator in the model file. -/
structure ServoRange (K : Type) [LT K] where
  low : K
  high : K
  low_lt_high : low < high

/-- The control of each actuator, and the angle of its joint. -/
structure Sim (K : Type) where
  ctrl : UInt8 → K
  qpos : UInt8 → K

variable {K : Type} [Field K] [LinearOrder K] [FloorRing K]

def unitsToRadians (range : ServoRange K) (positionUnits : ℕ) : K :=
  let normalized := ((min positionUnits 4095 : ℕ) : K) / 4095
  range.low + normalized * (range.high - range.low)

def radiansToUnits (range : ServoRange K) (radians : K) : ℤ :=
  let clipped := min (max radians range.low) range.high
  let normalized := (clipped - range.low) / (range.high - range.low)
  Quantization.roundHalfEven (normalized * 4095)

namespace Sim

def setGoalUnits (sim : Sim K) (ranges : UInt8 → ServoRange K)
    (deviceId : UInt8) (positionUnits : ℕ) : Sim K :=
  { sim with
    ctrl := Function.update sim.ctrl deviceId
      (unitsToRadians (ranges deviceId) positionUnits) }

def getPositionUnits (sim : Sim K) (ranges : UInt8 → ServoRange K)
    (deviceId : UInt8) : ℤ :=
  radiansToUnits (ranges deviceId) (sim.qpos deviceId)

end Sim

/-! ## Bus -/

def handleRead (ranges : UInt8 → ServoRange K) (sim : Sim K)
    (packet : St3215Packet) : Bytes :=
  match packet.parameters with
  | [address, length] =>
      if address = ADDR_PRESENT_POSITION ∧ length = 2 then
        encodeStatus packet.deviceId 0
          (writeU16Le (sim.getPositionUnits ranges packet.deviceId))
      else
        encodeStatus packet.deviceId 1 []
  | _ => encodeStatus packet.deviceId 1 []

def handleWrite (ranges : UInt8 → ServoRange K) (sim : Sim K)
    (packet : St3215Packet) (respond : Bool) : Sim K × List Bytes :=
  if packet.parameters.length < 3 then
    (sim, if respond then [encodeStatus packet.deviceId 1 []] else [])
  else
    let sim :=
      if packet.parameters.getD 0 0 = ADDR_GOAL_POSITION then
        let position := readU16Le ((packet.parameters.drop 1).take 2)
        if packet.deviceId = kSt3215BroadcastId then
          servos.foldl
            (fun sim deviceId => sim.setGoalUnits ranges deviceId position) sim
        else
          sim.setGoalUnits ranges packet.deviceId position
      else sim
    (sim, if respond then [encodeStatus packet.deviceId 0 []] else [])

def handlePacket (ranges : UInt8 → ServoRange K) (sim : Sim K)
    (packet : St3215Packet) : Sim K × List Bytes :=
  if packet.deviceId = kSt3215BroadcastId then
    if packet.instructionOrStatus = WRITE_DATA then
      handleWrite ranges sim packet false
    else
      (sim, [])
  else if packet.deviceId ∉ servos then
    (sim, [])
  else if packet.instructionOrStatus = PING then
    (sim, [encodeStatus packet.deviceId 0 []])
  else if packet.instructionOrStatus = READ_DATA then
    (sim, [handleRead ranges sim packet])
  else if packet.instructionOrStatus = WRITE_DATA then
    handleWrite ranges sim packet true
  else
    (sim, [])

/-- The bus.  A simulator which has crashed polls no more. -/
structure St3215SerialBus (K : Type) where
  sim : Sim K
  buffer : Bytes
  crashed : Bool

/-- The packets which a poll has handled, and what it has written. -/
structure PollReport where
  handled : List St3215Packet
  written : List Bytes

/-- The loop of `poll`, with as many rounds as it can need. -/
def pollLoop (ranges : UInt8 → ServoRange K) :
    ℕ → Sim K → Bytes → St3215SerialBus K × PollReport
  | 0, sim, buffer => (⟨sim, buffer, false⟩, ⟨[], []⟩)
  | rounds + 1, sim, buffer =>
      match tryDecodePacket buffer with
      | (.packetError _, _) => (⟨sim, [], false⟩, ⟨[], []⟩)
      | (.indexError, buffer) => (⟨sim, buffer, true⟩, ⟨[], []⟩)
      | (.missing, buffer) => (⟨sim, buffer, false⟩, ⟨[], []⟩)
      | (.packet packet, buffer) =>
          let (sim, written) := handlePacket ranges sim packet
          let (bus, report) := pollLoop ranges rounds sim buffer
          (bus, ⟨packet :: report.handled, written ++ report.written⟩)

def St3215SerialBus.poll (ranges : UInt8 → ServoRange K)
    (bus : St3215SerialBus K) (incoming : Bytes) :
    St3215SerialBus K × PollReport :=
  if bus.crashed then
    (bus, ⟨[], []⟩)
  else
    let buffer := bus.buffer ++ incoming
    pollLoop ranges (buffer.length + 1) bus.sim buffer

/-- The loop of the simulator: the line is polled, and the physics stepped. -/
inductive SimInput (K : Type)
  | poll (incoming : Bytes)
  | step (qpos : UInt8 → K)

def machine (ranges : UInt8 → ServoRange K) :
    Machine (St3215SerialBus K) (SimInput K) PollReport where
  step := fun bus input =>
    match input with
    | .poll incoming => bus.poll ranges incoming
    | .step qpos =>
        ({ bus with sim := { bus.sim with qpos := qpos } }, ⟨[], []⟩)

/-- Every joint is where its actuator holds it. -/
def start (qpos : UInt8 → K) : St3215SerialBus K where
  sim := ⟨qpos, qpos⟩
  buffer := []
  crashed := false

/-! ## Decoding -/

theorem encodeStatus_eq (deviceId error : UInt8) {parameters : Bytes}
    (hlength : parameters.length ≤ kSt3215MaximumParameters) :
    encodeStatus deviceId error.toNat parameters =
      St3215Protocol.statusPacket deviceId error parameters := by
  have hnat := St3215Protocol.toNat_length hlength
  have hcast : ((parameters.length : ℤ) + 2) =
      ((UInt8.ofNat (parameters.length + 2)).toNat : ℤ) := by
    rw [hnat]
    rfl
  unfold encodeStatus St3215Protocol.statusPacket
    St3215Protocol.requireEncoded
  rw [St3215Protocol.encodePacket_ok deviceId error hlength]
  dsimp only
  rw [hcast, St3215Protocol.toNat_checksum, St3215Protocol.byteOf_toNat,
    St3215Protocol.byteOf_toNat, St3215Protocol.byteOf_toNat]
  rfl

/-- A buffer which starts with a header and a length, and goes on. -/
theorem tryDecodePacket_header (id length : UInt8) (body : Bytes)
    (hbody : 2 ≤ body.length) :
    tryDecodePacket (0xff :: 0xff :: id :: length :: body) =
      if body.length < length.toNat then
        (.missing, 0xff :: 0xff :: id :: length :: body)
      else
        match (body.take length.toNat)[0]? with
        | none => (.indexError, body.drop length.toNat)
        | some instruction =>
            let parameters := ((body.take length.toNat).drop 1).dropLast
            let expected := St3215Python.checksum id.toNat length.toNat
              instruction.toNat parameters
            let actual : ℤ := ((0xff :: 0xff :: id :: length ::
              body.take length.toNat : Bytes).getLastD 0).toNat
            if actual ≠ expected then
              (.packetError ("bad checksum: expected 0x" ++
                St3215Python.hexByte expected ++ ", got 0x" ++
                St3215Python.hexByte actual), body.drop length.toNat)
            else
              (.packet ⟨id, instruction, parameters⟩,
                body.drop length.toNat) := by
  have hseek : St3215StreamParser.seekHeader
      (0xff :: 0xff :: id :: length :: body) =
        0xff :: 0xff :: id :: length :: body := if_pos ⟨rfl, rfl⟩
  have hget : (0xff :: 0xff :: id :: length :: body : Bytes).getD 3 0 =
      length := rfl
  have hcount : (0xff :: 0xff :: id :: length :: body : Bytes).length =
      body.length + 4 := rfl
  unfold tryDecodePacket
  dsimp only
  rw [hseek, hget, hcount, if_neg (by omega)]
  by_cases hpartial : body.length < length.toNat
  · rw [if_pos (by omega), if_pos hpartial]
  · rw [if_neg (by omega), if_neg hpartial]
    rfl

/-- A packet whose length is that of its parameters. -/
theorem frame_eq {packet : St3215Packet}
    (hpacket : packet.parameters.length ≤ kSt3215MaximumParameters) :
    packet.frame = 0xff :: 0xff :: packet.deviceId ::
      UInt8.ofNat (packet.parameters.length + 2) ::
      packet.instructionOrStatus :: (packet.parameters ++
        [St3215Protocol.checksum packet.deviceId
          (UInt8.ofNat (packet.parameters.length + 2))
          packet.instructionOrStatus packet.parameters]) := by
  unfold St3215Packet.frame St3215Protocol.requireEncoded
  rw [St3215Protocol.encodePacket_ok _ _ hpacket]
  rfl

/-- A packet at the head of the buffer. -/
theorem tryDecodePacket_frame {packet : St3215Packet}
    (hpacket : packet.parameters.length ≤ kSt3215MaximumParameters)
    (rest : Bytes) :
    tryDecodePacket (packet.frame ++ rest) = (.packet packet, rest) := by
  obtain ⟨deviceId, instruction, parameters⟩ := packet
  have hlength := St3215Protocol.toNat_length hpacket
  rw [frame_eq hpacket]
  simp only at hpacket hlength ⊢
  generalize hsize : UInt8.ofNat (parameters.length + 2) = length at hlength ⊢
  generalize hchecksum : St3215Protocol.checksum deviceId length instruction
    parameters = expected
  have hbody : (instruction :: (parameters ++ [expected])).length =
      length.toNat := by
    rw [hlength, List.length_cons, List.length_append]
    rfl
  rw [List.cons_append, List.cons_append, List.cons_append, List.cons_append,
    tryDecodePacket_header _ _ _ (by
      rw [List.length_append, hbody, hlength]
      omega),
    if_neg (by rw [List.length_append]; omega), ← hbody, List.take_left,
    List.drop_left]
  have hparameters :
      ((instruction :: (parameters ++ [expected])).drop 1).dropLast =
        parameters := List.dropLast_concat
  dsimp only [List.getElem?_cons_zero]
  rw [hparameters, hbody, St3215Protocol.toNat_checksum, hchecksum]
  have hlast : (0xff :: 0xff :: deviceId :: length :: instruction ::
      (parameters ++ [expected]) : Bytes).getLastD 0 = expected :=
    St3215Protocol.getLastD_layout 0xff 0xff deviceId length instruction
      parameters expected
  rw [hlast, if_neg (fun hne => hne rfl)]

/-- A packet which has only begun to arrive. -/
theorem tryDecodePacket_begun {packet : St3215Packet}
    (hpacket : packet.parameters.length ≤ kSt3215MaximumParameters)
    {left missing : Bytes} (hsplit : left ++ missing = packet.frame)
    (hmissing : missing ≠ []) :
    tryDecodePacket left = (.missing, left) := by
  have hlength := St3215Protocol.toNat_length hpacket
  rw [frame_eq hpacket] at hsplit
  match left with
  | [] => rfl
  | [first] => rfl
  | [first, second] =>
      simp only [List.cons_append, List.cons.injEq] at hsplit
      obtain ⟨rfl, rfl, _⟩ := hsplit
      rfl
  | [first, second, third] =>
      simp only [List.cons_append, List.cons.injEq] at hsplit
      obtain ⟨rfl, rfl, _⟩ := hsplit
      rfl
  | [first, second, third, fourth] =>
      simp only [List.cons_append, List.cons.injEq] at hsplit
      obtain ⟨rfl, rfl, _⟩ := hsplit
      rfl
  | [first, second, third, fourth, fifth] =>
      simp only [List.cons_append, List.cons.injEq] at hsplit
      obtain ⟨rfl, rfl, _⟩ := hsplit
      rfl
  | first :: second :: third :: fourth :: fifth :: sixth :: begun =>
      simp only [List.cons_append, List.cons.injEq] at hsplit
      obtain ⟨rfl, rfl, rfl, rfl, rfl, hrest⟩ := hsplit
      have hcount := congrArg List.length hrest
      have hpos := List.length_pos_of_ne_nil hmissing
      simp only [List.length_append, List.length_cons, List.length_nil]
        at hcount
      rw [tryDecodePacket_header _ _ _ (by simp), if_pos]
      rw [hlength]
      simp only [List.length_cons]
      omega

theorem tryDecodePacket_of_begun {packets : List St3215Packet}
    (hpackets : ∀ packet ∈ packets,
      packet.parameters.length ≤ kSt3215MaximumParameters)
    {left : Bytes} (hbegun : Begun left (packets.map St3215Packet.frame)) :
    tryDecodePacket left = (.missing, left) := by
  cases packets with
  | nil =>
      have hempty : left = [] := hbegun
      rw [hempty]
      rfl
  | cons packet rest =>
      obtain ⟨missing, hmissing, hsplit⟩ := hbegun
      exact tryDecodePacket_begun (hpackets packet (List.mem_cons_self ..))
        hsplit hmissing

/-! ## One poll -/

variable {ranges : UInt8 → ServoRange K}

/-- The packets of a poll, handled one after the other. -/
def handleAll (ranges : UInt8 → ServoRange K) :
    Sim K → List St3215Packet → Sim K × List Bytes
  | sim, [] => (sim, [])
  | sim, packet :: rest =>
      let (sim, written) := handlePacket ranges sim packet
      let (sim, later) := handleAll ranges sim rest
      (sim, written ++ later)

/-- A poll handles the complete packets, and keeps the beginning of the next
one. -/
theorem pollLoop_frames {complete : List St3215Packet} {left : Bytes}
    (hcomplete : ∀ packet ∈ complete,
      packet.parameters.length ≤ kSt3215MaximumParameters)
    (hleft : tryDecodePacket left = (.missing, left)) (sim : Sim K)
    {rounds : ℕ} (hrounds : complete.length < rounds) :
    pollLoop ranges rounds sim
        ((complete.map St3215Packet.frame).flatten ++ left) =
      (⟨(handleAll ranges sim complete).1, left, false⟩,
        ⟨complete, (handleAll ranges sim complete).2⟩) := by
  induction complete generalizing sim rounds with
  | nil =>
      cases rounds with
      | zero => exact absurd hrounds (Nat.not_lt_zero _)
      | succ rounds =>
          rw [List.map_nil, List.flatten_nil, List.nil_append, pollLoop, hleft]
          rfl
  | cons packet rest ih =>
      cases rounds with
      | zero => exact absurd hrounds (Nat.not_lt_zero _)
      | succ rounds =>
          rw [List.map_cons, List.flatten_cons, List.append_assoc, pollLoop,
            tryDecodePacket_frame (hcomplete packet (List.mem_cons_self ..))]
          dsimp only
          rw [ih (fun other hother =>
            hcomplete other (List.mem_cons_of_mem _ hother)) _
              (Nat.lt_of_succ_lt_succ hrounds)]
          rfl

/-- A poll of bytes which continue some packets. -/
theorem poll_frames (ranges : UInt8 → ServoRange K)
    {bus : St3215SerialBus K} {packets : List St3215Packet}
    {incoming future : Bytes} (hrunning : bus.crashed = false)
    (hpackets : ∀ packet ∈ packets,
      packet.parameters.length ≤ kSt3215MaximumParameters)
    (hbytes : bus.buffer ++ incoming ++ future =
      (packets.map St3215Packet.frame).flatten) :
    ∃ complete waiting left, packets = complete ++ waiting ∧
      left ++ future = (waiting.map St3215Packet.frame).flatten ∧
      Begun left (waiting.map St3215Packet.frame) ∧
      bus.poll ranges incoming =
        (⟨(handleAll ranges bus.sim complete).1, left, false⟩,
          ⟨complete, (handleAll ranges bus.sim complete).2⟩) := by
  obtain ⟨complete, rest, left, hframes, hbuffer, hrest, hbegun⟩ :=
    exists_complete hbytes
  obtain ⟨done, waiting, rfl, rfl, rfl⟩ := List.map_eq_append_iff.mp hframes
  have hdone : ∀ packet ∈ done,
      packet.parameters.length ≤ kSt3215MaximumParameters :=
    fun packet hmem => hpackets packet (List.mem_append_left _ hmem)
  have hwaiting : ∀ packet ∈ waiting,
      packet.parameters.length ≤ kSt3215MaximumParameters :=
    fun packet hmem => hpackets packet (List.mem_append_right _ hmem)
  refine ⟨done, waiting, left, rfl, hrest, hbegun, ?_⟩
  have hcount := St3215StreamParser.length_le_flatten hdone
  unfold St3215SerialBus.poll
  rw [hrunning, if_neg Bool.false_ne_true]
  dsimp only
  rw [hbuffer]
  refine pollLoop_frames hdone (tryDecodePacket_of_begun hwaiting hbegun)
    bus.sim ?_
  rw [List.length_append]
  omega

end SoArm101

end PolicyRuntime
