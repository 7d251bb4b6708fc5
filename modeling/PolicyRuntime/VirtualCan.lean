import PolicyRuntime.DamiaoActuator
import PolicyRuntime.Framing

/-!
# CAN frames over a virtual serial port

A frame travels as a header, its identifier, its length, its payload and a
checksum.  The receiver keeps the beginning of a frame in a buffer of fifteen
bytes.  A read may complete two frames, of which only the first is returned.
-/

namespace PolicyRuntime

namespace VirtualCan

def kHeader : Byte := 0xAA
def kHeaderSize : ℕ := 6
def kEncodedFrameSize : ℕ := 7 + 8

/-- The sum of the bytes, masked. -/
def checksum (data : List Byte) : Byte :=
  BitVec.ofNat 8 (data.map BitVec.toNat).sum

/-- What `write` returns. -/
inductive WriteAnswer
  | failed (error : Error)
  | written (count : ℕ)

/-- What `read` returns. -/
inductive ReadAnswer
  | failed (error : Error)
  | read (bytes : List Byte)

def idByte (id : BitVec 32) (index : ℕ) : Byte :=
  ((id >>> (8 * index)) &&& 0xFF#32).setWidth 8

/-- The header, the identifier, the length and the payload. -/
def encodedBody (frame : CanFrame) : List Byte :=
  [kHeader, idByte frame.id 0, idByte frame.id 1, idByte frame.id 2,
    idByte frame.id 3, frame.dlc] ++
    (List.ofFn frame.data).take frame.dlc.toNat

def encoded (frame : CanFrame) : List Byte :=
  encodedBody frame ++ [checksum (encodedBody frame)]

/-- The identifier in the bytes after the header. -/
def parsedId (bytes : List Byte) : BitVec 32 :=
  (List.range 4).foldl (fun id index =>
    id ||| ((bytes.getD (1 + index) 0).setWidth 32 <<< (8 * index))) 0

/-- The first `length` bytes, and zeros after them. -/
def parsedData (bytes : List Byte) (length : ℕ) : DamiaoPayload :=
  fun index =>
    if index.val < length then bytes.getD (kHeaderSize + index.val) 0 else 0

def parsedFrame (bytes : List Byte) : CanFrame where
  id := parsedId bytes
  data := parsedData bytes (bytes.getD 5 0).toNat
  dlc := bytes.getD 5 0

/-- The frames at the beginning of the bytes.  The first one is kept, the others
are dropped. -/
def parseFrames (bytes : List Byte) (frame : Option CanFrame) :
    Except Error (Option CanFrame × List Byte) :=
  if hlong : bytes.length < kHeaderSize + 1 then
    .ok (frame, bytes)
  else
    let dlc := bytes.getD 5 0
    if bytes.getD 0 0 ≠ kHeader ∨ 8 < dlc.toNat then
      .error ⟨.protocol, "malformed virtual CAN frame"⟩
    else
      let length := kHeaderSize + dlc.toNat + 1
      if bytes.length < length then
        .ok (frame, bytes)
      else if checksum (bytes.take (length - 1)) ≠
          bytes.getD (length - 1) 0 then
        .error ⟨.protocol, "virtual CAN checksum mismatch"⟩
      else
        parseFrames (bytes.drop length)
          (some (frame.getD (parsedFrame bytes)))
  termination_by bytes.length
  decreasing_by
    rw [List.length_drop]
    omega

end VirtualCan

open VirtualCan

/-- The descriptor is valid or not; the buffer holds `buffer_length_` bytes. -/
structure VirtualCanTransport where
  valid : Bool
  buffer : List Byte

namespace VirtualCanTransport

def pendingBytes (transport : VirtualCanTransport) : ℕ :=
  transport.buffer.length

/-- A send, with the bytes it puts on the wire. -/
def sendFrame (transport : VirtualCanTransport) (frame : CanFrame)
    (answer : WriteAnswer) : Except Error Unit × List Byte :=
  if !transport.valid ∨ 0x1FFFFFFF < frame.id.toNat ∨ 8 < frame.dlc.toNat then
    (.error ⟨.invalidArgument, "invalid CAN frame"⟩, [])
  else
    match answer with
    | .failed error => (.error error, [])
    | .written count =>
        if count ≠ (encoded frame).length then
          (.error ⟨.io, "virtual CAN short write"⟩,
            (encoded frame).take count)
        else (.ok (), encoded frame)

def receiveFrame (transport : VirtualCanTransport) (answer : ReadAnswer) :
    VirtualCanTransport × Except Error (Option CanFrame) :=
  if !transport.valid then
    (transport, .error ⟨.invalidArgument, "invalid virtual CAN descriptor"⟩)
  else if transport.buffer.length = kEncodedFrameSize then
    (transport, .error ⟨.protocol, "virtual CAN frame overflow"⟩)
  else
    match answer with
    | .failed error => (transport, .error error)
    | .read bytes =>
        let filled := { transport with buffer := transport.buffer ++ bytes }
        match parseFrames filled.buffer none with
        | .error error => (filled, .error error)
        | .ok (frame, left) => ({ transport with buffer := left }, .ok frame)

/-- What the receiver sees of a frame. -/
def visible (frame : CanFrame) : CanFrame where
  id := frame.id
  data := fun index => if index.val < frame.dlc.toNat then frame.data index else 0
  dlc := frame.dlc

end VirtualCanTransport

/-! ## One frame -/

namespace VirtualCan

/-- A frame which `send_frame` accepts. -/
def Sendable (frame : CanFrame) : Prop :=
  frame.id.toNat ≤ 0x1FFFFFFF ∧ frame.dlc.toNat ≤ 8

theorem parsedId_encoded (frame : CanFrame) (rest : List Byte) :
    parsedId (encoded frame ++ rest) = frame.id := by
  have hfold : parsedId (encoded frame ++ rest) =
      (((0#32 ||| (idByte frame.id 0).setWidth 32 <<< 0) |||
        (idByte frame.id 1).setWidth 32 <<< 8) |||
        (idByte frame.id 2).setWidth 32 <<< 16) |||
        (idByte frame.id 3).setWidth 32 <<< 24 := rfl
  rw [hfold]
  unfold idByte
  ext i hi
  simp
  interval_cases i <;> simp

theorem length_encodedBody {frame : CanFrame} (h : frame.dlc.toNat ≤ 8) :
    (encodedBody frame).length = kHeaderSize + frame.dlc.toNat := by
  unfold encodedBody kHeaderSize
  rw [List.length_append, List.length_take, List.length_ofFn,
    Nat.min_eq_left h]
  rfl

theorem length_encoded {frame : CanFrame} (h : frame.dlc.toNat ≤ 8) :
    (encoded frame).length = kHeaderSize + frame.dlc.toNat + 1 := by
  unfold encoded
  rw [List.length_append, length_encodedBody h]
  rfl

theorem dlc_encoded (frame : CanFrame) (rest : List Byte) :
    (encoded frame ++ rest).getD 5 0 = frame.dlc := rfl

theorem header_encoded (frame : CanFrame) (rest : List Byte) :
    (encoded frame ++ rest).getD 0 0 = kHeader := rfl

theorem getD_payload (first second third fourth fifth sixth : Byte)
    (rest : List Byte) (index : ℕ) :
    (first :: second :: third :: fourth :: fifth :: sixth :: rest).getD
      (kHeaderSize + index) 0 = rest.getD index 0 := by
  unfold kHeaderSize
  rw [Nat.add_comm]
  rfl

theorem parsedFrame_encoded {frame : CanFrame} (h : frame.dlc.toNat ≤ 8)
    (rest : List Byte) :
    parsedFrame (encoded frame ++ rest) =
      VirtualCanTransport.visible frame := by
  have hdata : parsedData (encoded frame ++ rest) frame.dlc.toNat =
      (VirtualCanTransport.visible frame).data := by
    funext index
    unfold parsedData VirtualCanTransport.visible
    dsimp only
    split
    · next hlt =>
        have hsplit : encoded frame ++ rest =
            kHeader :: idByte frame.id 0 :: idByte frame.id 1 ::
              idByte frame.id 2 :: idByte frame.id 3 :: frame.dlc ::
              ((List.ofFn frame.data).take frame.dlc.toNat ++
                ([checksum (encodedBody frame)] ++ rest)) := by
          unfold encoded encodedBody
          simp only [List.append_assoc]
          rfl
        have hget : ((List.ofFn frame.data).take frame.dlc.toNat)[index.val]? =
            some (frame.data index) := by
          rw [List.getElem?_take_of_lt hlt, List.getElem?_ofFn,
            dif_pos index.isLt]
        rw [hsplit, getD_payload, List.getD_eq_getElem?_getD,
          List.getElem?_append_left, hget]
        · rfl
        · rw [List.length_take, List.length_ofFn, Nat.min_eq_left h]
          exact hlt
    · rfl
  unfold parsedFrame
  rw [parsedId_encoded, dlc_encoded, hdata]
  rfl

/-- A complete frame at the beginning of the bytes. -/
theorem parseFrames_encoded {frame : CanFrame} (h : Sendable frame)
    (rest : List Byte) (kept : Option CanFrame) :
    parseFrames (encoded frame ++ rest) kept =
      parseFrames rest
        (some (kept.getD (VirtualCanTransport.visible frame))) := by
  have hlength := length_encoded h.2
  have htake : (encoded frame ++ rest).take
      (kHeaderSize + frame.dlc.toNat + 1 - 1) = encodedBody frame := by
    rw [Nat.add_sub_cancel, ← length_encodedBody h.2]
    unfold encoded
    rw [List.append_assoc, List.take_left]
  have hlast : (encoded frame ++ rest).getD
      (kHeaderSize + frame.dlc.toNat + 1 - 1) 0 =
        checksum (encodedBody frame) := by
    rw [Nat.add_sub_cancel, ← length_encodedBody h.2]
    unfold encoded
    rw [List.append_assoc, List.getD_eq_getElem?_getD,
      List.getElem?_append_right le_rfl, Nat.sub_self]
    rfl
  have hdrop : (encoded frame ++ rest).drop
      (kHeaderSize + frame.dlc.toNat + 1) = rest := by
    rw [← hlength, List.drop_left]
  conv => lhs; rw [parseFrames]
  dsimp only
  rw [dlc_encoded, header_encoded, List.length_append, hlength, htake, hlast,
    hdrop, parsedFrame_encoded h.2, dif_neg (by omega),
    if_neg (by rintro (hne | hlong)
               · exact hne rfl
               · exact absurd h.2 (Nat.not_le.mpr hlong)),
    if_neg (by omega), if_neg (not_not.mpr rfl)]

/-- The beginning of a frame stays in the buffer. -/
theorem parseFrames_begun {frames : List CanFrame}
    (hframes : ∀ frame ∈ frames, Sendable frame) {left : List Byte}
    (hbegun : Begun left (frames.map encoded)) (kept : Option CanFrame) :
    parseFrames left kept = .ok (kept, left) := by
  rw [parseFrames]
  split
  · rfl
  · next hlong =>
      cases frames with
      | nil =>
          have hempty : left = [] := hbegun
          rw [hempty] at hlong
          exact absurd (Nat.zero_lt_succ _) hlong
      | cons frame rest =>
          have hsendable := hframes frame (List.mem_cons_self ..)
          have hlt := Begun.length_lt hbegun
          obtain ⟨missing, -, hsplit⟩ := hbegun
          have hget : ∀ index, index < 6 →
              left.getD index 0 = (encoded frame ++ []).getD index 0 := by
            intro index hindex
            rw [List.append_nil, ← hsplit, List.getD_eq_getElem?_getD,
              List.getD_eq_getElem?_getD, List.getElem?_append_left]
            unfold kHeaderSize at hlong
            omega
          rw [length_encoded hsendable.2] at hlt
          dsimp only
          rw [hget 5 (by decide), hget 0 (by decide), dlc_encoded,
            header_encoded, if_neg, if_pos hlt]
          rintro (hne | hlong)
          · exact hne rfl
          · exact absurd hsendable.2 (Nat.not_le.mpr hlong)

theorem parseFrames_stream {complete rest : List CanFrame}
    (hcomplete : ∀ frame ∈ complete, Sendable frame)
    (hrest : ∀ frame ∈ rest, Sendable frame) {left : List Byte}
    (hbegun : Begun left (rest.map encoded)) (kept : Option CanFrame) :
    parseFrames ((complete.map encoded).flatten ++ left) kept =
      .ok (kept <|> complete.head?.map VirtualCanTransport.visible, left) := by
  induction complete generalizing kept with
  | nil =>
      rw [List.map_nil, List.flatten_nil, List.nil_append,
        parseFrames_begun hrest hbegun]
      cases kept <;> rfl
  | cons frame more ih =>
      rw [List.map_cons, List.flatten_cons, List.append_assoc,
        parseFrames_encoded (hcomplete frame (List.mem_cons_self ..)),
        ih fun other hother => hcomplete other (List.mem_cons_of_mem _ hother)]
      cases kept <;> rfl

theorem encoded_ne_nil (frame : CanFrame) : encoded frame ≠ [] :=
  List.cons_ne_nil _ _

end VirtualCan

/-! ## Streams -/

namespace VirtualCanTransport

def opened : VirtualCanTransport := ⟨true, []⟩

/-- The bytes which complete sends put on the wire. -/
def sentBytes (frames : List CanFrame) : List Byte :=
  (frames.map fun frame =>
    (opened.sendFrame frame (.written (encoded frame).length)).2).flatten

/-- A call for each read. -/
def receiveAll :
    VirtualCanTransport → List (List Byte) →
      List (Except Error (Option CanFrame))
  | _, [] => []
  | transport, piece :: rest =>
      let (next, result) := transport.receiveFrame (.read piece)
      result :: receiveAll next rest

/-- No read asks for more than the buffer has room for. -/
def ReadsFit : VirtualCanTransport → List (List Byte) → Prop
  | _, [] => True
  | transport, piece :: rest =>
      piece.length ≤ kEncodedFrameSize - transport.buffer.length ∧
        ReadsFit (transport.receiveFrame (.read piece)).1 rest

def returned (results : List (Except Error (Option CanFrame))) :
    List CanFrame :=
  results.filterMap fun result => result.toOption.join

/-- All frames come back in order, and no call fails. -/
def Delivers (frames : List CanFrame) (pieces : List (List Byte)) : Prop :=
  (∀ result ∈ receiveAll opened pieces, ∃ frame, result = .ok frame) ∧
    returned (receiveAll opened pieces) = frames.map visible

theorem sentBytes_eq {frames : List CanFrame}
    (hframes : ∀ frame ∈ frames, Sendable frame) :
    sentBytes frames = (frames.map encoded).flatten := by
  unfold sentBytes
  congr 1
  apply List.map_congr_left
  intro frame hframe
  obtain ⟨hid, hdlc⟩ := hframes frame hframe
  unfold sendFrame
  rw [if_neg]
  · dsimp only
    rw [if_neg (not_not.mpr rfl)]
  · rintro (hinvalid | hlarge | hlong)
    · exact Bool.false_ne_true hinvalid
    · exact absurd hid (Nat.not_le.mpr hlarge)
    · exact absurd hdlc (Nat.not_le.mpr hlong)

/-- A call returns the first of the frames which its read completes. -/
theorem receiveFrame_stream {complete rest : List CanFrame}
    (hcomplete : ∀ frame ∈ complete, Sendable frame)
    (hrest : ∀ frame ∈ rest, Sendable frame) {begun piece left : List Byte}
    (hbegun : Begun begun ((complete ++ rest).map encoded))
    (hbytes : begun ++ piece = (complete.map encoded).flatten ++ left)
    (hleft : Begun left (rest.map encoded)) :
    receiveFrame ⟨true, begun⟩ (.read piece) =
      (⟨true, left⟩, .ok (complete.head?.map visible)) := by
  have hroom : begun.length ≠ kEncodedFrameSize := by
    cases hall : complete ++ rest with
    | nil =>
        rw [hall] at hbegun
        have hempty : begun = [] := hbegun
        rw [hempty]
        decide
    | cons frame more =>
        have hmem : frame ∈ complete ++ rest := by
          rw [hall]
          exact List.mem_cons_self ..
        have hsendable : Sendable frame := by
          rcases List.mem_append.mp hmem with hin | hin
          · exact hcomplete frame hin
          · exact hrest frame hin
        rw [hall] at hbegun
        have hlt := Begun.length_lt hbegun
        have hdlc := hsendable.2
        rw [length_encoded hdlc] at hlt
        unfold kHeaderSize at hlt
        unfold kEncodedFrameSize
        omega
  have hvalid : ¬ (!true) = true := by decide
  unfold receiveFrame
  dsimp only
  rw [if_neg hvalid, if_neg hroom, hbytes, parseFrames_stream hcomplete hrest hleft]
  rfl

theorem receiveAll_stream {frames : List CanFrame}
    {pieces : List (List Byte)} {begun : List Byte}
    (hframes : ∀ frame ∈ frames, Sendable frame)
    (hbytes : begun ++ pieces.flatten = (frames.map encoded).flatten)
    (hbegun : Begun begun (frames.map encoded)) :
    (∀ result ∈ receiveAll ⟨true, begun⟩ pieces,
        ∃ frame, result = .ok frame) ∧
      (returned (receiveAll ⟨true, begun⟩ pieces)).length ≤ frames.length ∧
      (returned (receiveAll ⟨true, begun⟩ pieces) = frames.map visible ↔
        OneAtATimeFrom begun.length (frames.map encoded) pieces) := by
  induction pieces generalizing frames begun with
  | nil =>
      have hnone : frames = [] := by
        cases frames with
        | nil => rfl
        | cons frame rest =>
            have hlt := Begun.length_lt hbegun
            rw [List.flatten_nil, List.append_nil] at hbytes
            rw [hbytes, List.map_cons, List.flatten_cons,
              List.length_append] at hlt
            omega
      rw [hnone]
      refine ⟨?_, le_rfl, iff_of_true rfl ?_⟩
      · intro result hresult
        cases hresult
      · intro count
        exact Nat.zero_le _
  | cons piece pieces ih =>
      rw [List.flatten_cons, ← List.append_assoc] at hbytes
      obtain ⟨done, waiting, left, hsplit, hbuffer, hlater, hleft⟩ :=
        exists_complete hbytes
      obtain ⟨complete, rest, rfl, rfl, rfl⟩ := List.map_eq_append_iff.mp hsplit
      have hcomplete : ∀ frame ∈ complete, Sendable frame :=
        fun frame hmem => hframes frame (List.mem_append_left _ hmem)
      have hrest : ∀ frame ∈ rest, Sendable frame :=
        fun frame hmem => hframes frame (List.mem_append_right _ hmem)
      have hcall :=
        receiveFrame_stream hcomplete hrest hbegun hbuffer hleft
      obtain ⟨hok, hcount, hiff⟩ := ih hrest hlater hleft
      have hall : receiveAll ⟨true, begun⟩ (piece :: pieces) =
          .ok (complete.head?.map visible) ::
            receiveAll ⟨true, left⟩ pieces := by
        rw [receiveAll, hcall]
      have hreturned : returned (receiveAll ⟨true, begun⟩ (piece :: pieces)) =
          (complete.head?.map visible).toList ++
            returned (receiveAll ⟨true, left⟩ pieces) := by
        rw [hall]
        cases complete with
        | nil => rfl
        | cons frame more => rfl
      rw [List.map_append] at hbegun
      have hone :=
        @oneAtATimeFrom_cons _ _ _ _ _ _ pieces hbegun hleft hbuffer
      rw [List.length_map, ← hiff] at hone
      rw [List.map_append, List.map_append, hone, hreturned]
      refine ⟨?_, ?_, ?_⟩
      · rw [hall]
        intro result hresult
        rcases List.mem_cons.mp hresult with rfl | hin
        · exact ⟨_, rfl⟩
        · exact hok result hin
      · cases complete with
        | nil =>
            rw [List.nil_append]
            exact hcount
        | cons frame more =>
            rw [List.length_append, List.length_append, List.length_cons]
            exact Nat.add_le_add (Nat.le_add_left 1 _) hcount
      · match complete with
        | [] =>
            constructor
            · intro h
              exact ⟨Nat.zero_le 1, h⟩
            · exact fun h => h.2
        | [frame] =>
            constructor
            · intro h
              exact ⟨le_rfl, (List.cons.inj h).2⟩
            · intro h
              exact congrArg (visible frame :: ·) h.2
        | first :: second :: more =>
            constructor
            · intro h
              have hlength := congrArg List.length h
              simp only [List.head?_cons, Option.map_some, Option.toList_some,
                List.length_append, List.length_map, List.length_cons,
                List.length_nil] at hlength
              omega
            · rintro ⟨hone, -⟩
              simp only [List.length_cons] at hone
              omega

/-- Frames come back if and only if no read completes two of them. -/
theorem delivers_iff {frames : List CanFrame} {pieces : List (List Byte)}
    (hframes : ∀ frame ∈ frames,
      frame.id.toNat ≤ 0x1FFFFFFF ∧ frame.dlc.toNat ≤ 8)
    (hbytes : pieces.flatten = sentBytes frames) :
    Delivers frames pieces ↔ OneAtATime (frames.map encoded) pieces := by
  have hbegun : Begun [] (frames.map encoded) := by
    apply begun_nil
    intro bytes hmem
    obtain ⟨frame, -, rfl⟩ := List.mem_map.mp hmem
    exact encoded_ne_nil frame
  rw [sentBytes_eq hframes] at hbytes
  obtain ⟨hok, -, hiff⟩ := receiveAll_stream hframes hbytes hbegun
  unfold Delivers
  rw [oneAtATime_iff]
  constructor
  · intro h
    exact hiff.mp h.2
  · intro h
    exact ⟨hok, hiff.mpr h⟩

/-- A frame without payload. -/
def emptyFrame (id : BitVec 32) : CanFrame where
  id := id
  data := fun _ => 0
  dlc := 0

/-- One frame in two reads. -/
theorem delivers_iff_two :
    Delivers [emptyFrame 1] [(sentBytes [emptyFrame 1]).take 3,
        (sentBytes [emptyFrame 1]).drop 3] ↔
      OneAtATime ([emptyFrame 1].map encoded)
        [(sentBytes [emptyFrame 1]).take 3,
          (sentBytes [emptyFrame 1]).drop 3] := by
  apply delivers_iff
  · decide
  · decide

/-- Two frames without payload fit into one read, and the second is lost. -/
theorem emptyFrames_lost :
    ReadsFit opened [sentBytes [emptyFrame 1, emptyFrame 2]] ∧
      ¬ Delivers [emptyFrame 1, emptyFrame 2]
        [sentBytes [emptyFrame 1, emptyFrame 2]] := by
  constructor
  · exact ⟨by decide, trivial⟩
  · rintro ⟨-, h⟩
    have hlength := congrArg List.length h
    have hone : (returned (receiveAll opened
        [sentBytes [emptyFrame 1, emptyFrame 2]])).length ≤ 1 :=
      List.length_filterMap_le ..
    rw [hlength] at hone
    exact absurd hone (by decide)

end VirtualCanTransport

end PolicyRuntime
