import PolicyRuntime.Framing
import PolicyRuntime.St3215Codec
import PolicyRuntime.SerialTransport

/-!
# The ST3215 stream parser

The parser keeps the bytes it has not used yet.  It skips to the next header,
and takes a packet once all of its bytes are there.  A header with a bad length
and a packet with a bad checksum are dropped with an error.
-/

namespace PolicyRuntime

open St3215Protocol

/-- The first `size_` bytes of the buffer. -/
structure St3215StreamParser where
  buffer : Bytes
  deriving DecidableEq, Repr

namespace St3215StreamParser

def kCapacity : ℕ := 2 * kSt3215MaximumFrameSize

def reset (_ : St3215StreamParser) : St3215StreamParser := ⟨[]⟩

def discardPrefix (parser : St3215StreamParser) (count : ℕ) :
    St3215StreamParser :=
  ⟨parser.buffer.drop count⟩

def append (parser : St3215StreamParser) (data : Bytes) :
    St3215StreamParser × Except Error Unit :=
  if kCapacity - parser.buffer.length < data.length then
    (parser.reset,
      .error ⟨.protocol, "ST3215 stream buffer capacity exceeded"⟩)
  else
    (⟨parser.buffer ++ data⟩, .ok ())

/-- The bytes from the first header on, or the last byte when there is none. -/
def seekHeader : Bytes → Bytes
  | first :: second :: rest =>
      if first = kHeaderByte ∧ second = kHeaderByte then
        first :: second :: rest
      else seekHeader (second :: rest)
  | short => short

def next (parser : St3215StreamParser) :
    St3215StreamParser × Except Error (Option St3215Packet) :=
  let sought : St3215StreamParser := ⟨seekHeader parser.buffer⟩
  if sought.buffer.length < 2 then
    (sought, .ok none)
  else if sought.buffer.length < 4 then
    (sought, .ok none)
  else
    let length := sought.buffer.getD 3 0
    if length < 2 then
      (sought.discardPrefix 2,
        .error ⟨.protocol, "invalid ST3215 packet length"⟩)
    else
      let frameSize := length.toNat + 4
      if kSt3215MaximumFrameSize < frameSize then
        (sought.discardPrefix 2,
          .error ⟨.protocol, "ST3215 frame exceeds maximum size"⟩)
      else if sought.buffer.length < frameSize then
        (sought, .ok none)
      else
        match decodePacket (sought.buffer.take frameSize) with
        | .error error => (sought.discardPrefix frameSize, .error error)
        | .ok decoded => (sought.discardPrefix frameSize, .ok (some decoded))

/-- Calls of `next` until it returns an empty success, with their other
results.  No more than the given number of calls are made. -/
def drain : ℕ → St3215StreamParser →
    Option (List (Except Error St3215Packet) × St3215StreamParser)
  | 0, _ => none
  | calls + 1, parser =>
      match parser.next with
      | (after, .ok none) => some ([], after)
      | (after, .ok (some packet)) =>
          (drain calls after).map fun (results, last) =>
            (.ok packet :: results, last)
      | (after, .error error) =>
          (drain calls after).map fun (results, last) =>
            (.error error :: results, last)

/-- Each chunk is appended, and the parser drained after it. -/
def receive (calls : ℕ) : St3215StreamParser → List Bytes →
    Option (List (Except Error St3215Packet) × St3215StreamParser)
  | parser, [] => some ([], parser)
  | parser, chunk :: rest =>
      let (appended, result) := parser.append chunk
      let failure : List (Except Error St3215Packet) :=
        match result with
        | .error error => [.error error]
        | .ok () => []
      (drain calls appended).bind fun (results, after) =>
        (receive calls after rest).map fun (later, last) =>
          (failure ++ results ++ later, last)

/-! ## Progress -/

theorem length_seekHeader_le (bytes : Bytes) :
    (seekHeader bytes).length ≤ bytes.length := by
  induction bytes using seekHeader.induct with
  | case1 first second rest hheader =>
      rw [seekHeader, if_pos hheader]
  | case2 first second rest hheader ih =>
      rw [seekHeader, if_neg hheader, List.length_cons]
      exact Nat.le_succ_of_le ih
  | case3 short hshort =>
      rw [seekHeader]
      exact hshort

theorem length_discardPrefix (parser : St3215StreamParser) (count : ℕ) :
    (parser.discardPrefix count).buffer.length =
      parser.buffer.length - count :=
  List.length_drop

/-- Every call but an empty success shortens the buffer. -/
theorem next_length (parser : St3215StreamParser) :
    (parser.next).2 = .ok none ∨
      (parser.next).1.buffer.length < parser.buffer.length := by
  have hseek := length_seekHeader_le parser.buffer
  unfold next
  dsimp only
  split_ifs with hshort hsmall hlength hlong hpartial
  · exact Or.inl rfl
  · exact Or.inl rfl
  · right
    rw [length_discardPrefix]
    dsimp only
    omega
  · right
    rw [length_discardPrefix]
    dsimp only
    omega
  · exact Or.inl rfl
  · right
    split
    · rw [length_discardPrefix]
      dsimp only
      omega
    · rw [length_discardPrefix]
      dsimp only
      omega

theorem next_shortens {parser after : St3215StreamParser}
    {result : Except Error (Option St3215Packet)}
    (hnext : parser.next = (after, result)) (hresult : result ≠ .ok none) :
    after.buffer.length < parser.buffer.length := by
  have hprogress := parser.next_length
  rw [hnext] at hprogress
  rcases hprogress with hempty | hshorter
  · exact absurd hempty hresult
  · exact hshorter

theorem drain_ends (parser : St3215StreamParser) {calls : ℕ}
    (hcalls : parser.buffer.length < calls) :
    ∃ results last, drain calls parser = some (results, last) := by
  induction calls generalizing parser with
  | zero => omega
  | succ calls ih =>
      unfold drain
      split
      · exact ⟨_, _, rfl⟩
      · next after packet hnext =>
          have hshorter := next_shortens hnext (by simp)
          obtain ⟨results, last, hdrain⟩ := ih after (by omega)
          rw [hdrain]
          exact ⟨_, _, rfl⟩
      · next after error hnext =>
          have hshorter := next_shortens hnext (by simp)
          obtain ⟨results, last, hdrain⟩ := ih after (by omega)
          rw [hdrain]
          exact ⟨_, _, rfl⟩

/-! ## Packets of a stream -/

end St3215StreamParser

/-- The bytes of a packet on the wire. -/
def St3215Packet.frame (packet : St3215Packet) : Bytes :=
  requireEncoded packet.deviceId packet.instructionOrStatus packet.parameters

theorem St3215Packet.encode_frame {packet : St3215Packet}
    (hpacket : packet.parameters.length ≤ kSt3215MaximumParameters) :
    encodePacket packet.deviceId packet.instructionOrStatus
      packet.parameters = .ok packet.frame := by
  have hencoded :=
    encodePacket_ok packet.deviceId packet.instructionOrStatus hpacket
  unfold frame requireEncoded
  rw [hencoded]

theorem St3215Packet.decode_frame {packet : St3215Packet}
    (hpacket : packet.parameters.length ≤ kSt3215MaximumParameters) :
    decodePacket packet.frame = .ok packet :=
  decodePacket_encodePacket _ _ (encode_frame hpacket)

theorem St3215Packet.wellFramed_frame {packet : St3215Packet}
    (hpacket : packet.parameters.length ≤ kSt3215MaximumParameters) :
    WellFramed kSt3215MaximumFrameSize packet.frame := by
  apply wellFramed_statusPacket _ _ hpacket
  unfold kSt3215MaximumParameters at hpacket
  unfold kSt3215MaximumFrameSize
  omega

namespace St3215StreamParser

/-- A header with a length which a packet may have. -/
theorem next_header (id length : UInt8) (body : Bytes)
    (hlength : 2 ≤ length.toNat) :
    next ⟨0xff :: 0xff :: id :: length :: body⟩ =
      if body.length < length.toNat then
        (⟨0xff :: 0xff :: id :: length :: body⟩, .ok none)
      else
        match decodePacket
            (0xff :: 0xff :: id :: length :: body.take length.toNat) with
        | .error error => (⟨body.drop length.toNat⟩, .error error)
        | .ok decoded => (⟨body.drop length.toNat⟩, .ok (some decoded)) := by
  have hsmall : ¬ length < 2 := by
    rw [UInt8.lt_iff_toNat_lt]
    exact not_lt.mpr hlength
  have hbound := length.toNat_lt
  have hseek : seekHeader (0xff :: 0xff :: id :: length :: body) =
      0xff :: 0xff :: id :: length :: body :=
    if_pos ⟨rfl, rfl⟩
  have hget : (0xff :: 0xff :: id :: length :: body : Bytes).getD 3 0 =
      length := rfl
  have hcount : (0xff :: 0xff :: id :: length :: body : Bytes).length =
      body.length + 4 := rfl
  unfold next
  dsimp only
  rw [hseek, hget, hcount, if_neg (by omega), if_neg (by omega),
    if_neg hsmall, if_neg (by unfold kSt3215MaximumFrameSize; omega)]
  by_cases hpartial : body.length < length.toNat
  · rw [if_pos (by omega), if_pos hpartial]
  · rw [if_neg (by omega), if_neg hpartial]
    rfl

/-- A packet at the head of the buffer. -/
theorem next_frame {packet : St3215Packet}
    (hpacket : packet.parameters.length ≤ kSt3215MaximumParameters)
    (rest : Bytes) :
    next ⟨packet.frame ++ rest⟩ = (⟨rest⟩, .ok (some packet)) := by
  have hdecode := St3215Packet.decode_frame hpacket
  obtain ⟨⟨id, length, body, hframe, hbody, hlength⟩, -, -⟩ :=
    St3215Packet.wellFramed_frame hpacket
  rw [hframe] at hdecode ⊢
  rw [List.cons_append, List.cons_append, List.cons_append, List.cons_append,
    next_header id length (body ++ rest) hlength,
    if_neg (by rw [List.length_append]; omega), ← hbody, List.take_left,
    List.drop_left, hdecode]

/-- A packet which has only begun to arrive. -/
theorem next_begun {packet : St3215Packet}
    (hpacket : packet.parameters.length ≤ kSt3215MaximumParameters)
    {left missing : Bytes} (hsplit : left ++ missing = packet.frame)
    (hmissing : missing ≠ []) : next ⟨left⟩ = (⟨left⟩, .ok none) := by
  obtain ⟨⟨id, length, body, hframe, hbody, hlength⟩, -, -⟩ :=
    St3215Packet.wellFramed_frame hpacket
  rw [hframe] at hsplit
  match left with
  | [] => rfl
  | [first] => rfl
  | [first, second] =>
      simp only [List.cons_append, List.cons.injEq] at hsplit
      obtain ⟨rfl, rfl, _⟩ := hsplit
      rfl
  | [first, second, third] =>
      simp only [List.cons_append, List.cons.injEq] at hsplit
      obtain ⟨rfl, rfl, _⟩ := hsplit
      rfl
  | first :: second :: third :: fourth :: begun =>
      simp only [List.cons_append, List.cons.injEq] at hsplit
      obtain ⟨rfl, rfl, rfl, rfl, hrest⟩ := hsplit
      have hcount := congrArg List.length hrest
      rw [List.length_append, hbody] at hcount
      have hpos := List.length_pos_of_ne_nil hmissing
      rw [next_header third fourth begun hlength, if_pos (by omega)]

theorem next_of_begun {packets : List St3215Packet}
    (hpackets : ∀ packet ∈ packets,
      packet.parameters.length ≤ kSt3215MaximumParameters)
    {left : Bytes} (hbegun : Begun left (packets.map St3215Packet.frame)) :
    next ⟨left⟩ = (⟨left⟩, .ok none) := by
  cases packets with
  | nil =>
      have hempty : left = [] := hbegun
      rw [hempty]
      rfl
  | cons packet rest =>
      obtain ⟨missing, hmissing, hsplit⟩ := hbegun
      exact next_begun (hpackets packet (List.mem_cons_self ..)) hsplit hmissing

/-- Complete packets are drained, and the beginning of the next one stays. -/
theorem drain_frames {complete : List St3215Packet} {left : Bytes}
    (hcomplete : ∀ packet ∈ complete,
      packet.parameters.length ≤ kSt3215MaximumParameters)
    (hleft : next ⟨left⟩ = (⟨left⟩, .ok none)) {calls : ℕ}
    (hcalls : complete.length < calls) :
    drain calls ⟨(complete.map St3215Packet.frame).flatten ++ left⟩ =
      some (complete.map .ok, ⟨left⟩) := by
  induction complete generalizing calls with
  | nil =>
      cases calls with
      | zero => exact absurd hcalls (Nat.not_lt_zero _)
      | succ calls =>
          rw [List.map_nil, List.flatten_nil, List.nil_append]
          unfold drain
          rw [hleft]
          rfl
  | cons packet rest ih =>
      cases calls with
      | zero => exact absurd hcalls (Nat.not_lt_zero _)
      | succ calls =>
          have hrest := ih (fun other hother =>
            hcomplete other (List.mem_cons_of_mem _ hother))
            (Nat.lt_of_succ_lt_succ hcalls)
          rw [List.map_cons, List.flatten_cons, List.append_assoc]
          unfold drain
          rw [next_frame (hcomplete packet (List.mem_cons_self ..))]
          dsimp only
          rw [hrest]
          rfl

theorem length_le_flatten {packets : List St3215Packet}
    (hpackets : ∀ packet ∈ packets,
      packet.parameters.length ≤ kSt3215MaximumParameters) :
    packets.length ≤ (packets.map St3215Packet.frame).flatten.length := by
  induction packets with
  | nil => exact le_rfl
  | cons packet rest ih =>
      obtain ⟨⟨id, length, body, hframe, -, -⟩, -, -⟩ :=
        St3215Packet.wellFramed_frame (hpackets packet
          (List.mem_cons_self ..))
      have hrest := ih fun other hother =>
        hpackets other (List.mem_cons_of_mem _ hother)
      rw [List.map_cons, List.flatten_cons, List.length_append, hframe]
      simp only [List.length_cons]
      omega

/-- The buffer holds the beginning of the next packet between the chunks. -/
theorem receive_frames {packets : List St3215Packet} {left : Bytes}
    {chunks : List Bytes} {calls : ℕ} (hcalls : kCapacity < calls)
    (hpackets : ∀ packet ∈ packets,
      packet.parameters.length ≤ kSt3215MaximumParameters)
    (hchunks : ∀ chunk ∈ chunks, chunk.length ≤ kSt3215MaximumFrameSize)
    (hbytes : left ++ chunks.flatten =
      (packets.map St3215Packet.frame).flatten)
    (hbegun : Begun left (packets.map St3215Packet.frame)) :
    receive calls ⟨left⟩ chunks = some (packets.map .ok, ⟨[]⟩) := by
  induction chunks generalizing packets left with
  | nil =>
      rw [List.flatten_nil, List.append_nil] at hbytes
      cases packets with
      | nil =>
          have hempty : left = [] := hbegun
          rw [hempty]
          rfl
      | cons packet rest =>
          have hlt := Begun.length_lt hbegun
          rw [hbytes, List.map_cons, List.flatten_cons,
            List.length_append] at hlt
          omega
  | cons chunk later ih =>
      have hroom : left.length + chunk.length ≤ kCapacity := by
        have hchunk := hchunks chunk (List.mem_cons_self ..)
        cases packets with
        | nil =>
            have hempty : left = [] := hbegun
            rw [hempty, List.length_nil]
            unfold kCapacity kSt3215MaximumFrameSize at *
            omega
        | cons packet rest =>
            have hlt := Begun.length_lt hbegun
            have hfits := (St3215Packet.wellFramed_frame (hpackets packet
              (List.mem_cons_self ..))).fits
            unfold kCapacity kSt3215MaximumFrameSize at *
            omega
      rw [List.flatten_cons, ← List.append_assoc] at hbytes
      obtain ⟨complete, rest, begun, hframes, hbuffer, hrest, hnext⟩ :=
        exists_complete hbytes
      obtain ⟨done, waiting, rfl, rfl, rfl⟩ := List.map_eq_append_iff.mp hframes
      have hdone : ∀ packet ∈ done,
          packet.parameters.length ≤ kSt3215MaximumParameters :=
        fun packet hmem => hpackets packet (List.mem_append_left _ hmem)
      have hwaiting : ∀ packet ∈ waiting,
          packet.parameters.length ≤ kSt3215MaximumParameters :=
        fun packet hmem => hpackets packet (List.mem_append_right _ hmem)
      have hcount : done.length < calls := by
        have hle := length_le_flatten hdone
        have htotal := congrArg List.length hbuffer
        rw [List.length_append, List.length_append] at htotal
        omega
      have hdrain := drain_frames hdone (next_of_begun hwaiting hnext) hcount
      have hlater := ih hwaiting
        (fun other hother => hchunks other (List.mem_cons_of_mem _ hother))
        hrest hnext
      unfold receive append
      dsimp only
      rw [if_neg (by omega)]
      dsimp only
      rw [hbuffer, hdrain]
      dsimp only [Option.bind]
      rw [hlater, List.map_append]
      rfl

/-- Packets survive every chunking, and draining always ends. -/
theorem parser_delivers :
    (∀ (packets : List St3215Packet) (chunks : List Bytes) (calls : ℕ),
      kCapacity < calls →
      (∀ packet ∈ packets,
        packet.parameters.length ≤ kSt3215MaximumParameters) →
      (∀ chunk ∈ chunks, chunk.length ≤ kSt3215MaximumFrameSize) →
      chunks.flatten = (packets.map St3215Packet.frame).flatten →
      receive calls ⟨[]⟩ chunks = some (packets.map .ok, ⟨[]⟩)) ∧
    ∀ parser : St3215StreamParser,
      (∀ calls, parser.buffer.length < calls →
        ∃ results last, drain calls parser = some (results, last)) ∧
      ∀ after error, parser.next = (after, .error error) →
        after.buffer.length < parser.buffer.length := by
  constructor
  · intro packets chunks calls hcalls hpackets hchunks hbytes
    apply receive_frames hcalls hpackets hchunks hbytes
    apply begun_nil
    intro frame hframe
    obtain ⟨packet, hmem, rfl⟩ := List.mem_map.mp hframe
    obtain ⟨⟨id, length, body, hshape, -, -⟩, -, -⟩ :=
      St3215Packet.wellFramed_frame (hpackets packet hmem)
    rw [hshape]
    exact List.cons_ne_nil _ _
  · intro parser
    constructor
    · intro calls hcalls
      exact parser.drain_ends hcalls
    · intro after error hnext
      exact next_shortens hnext (by simp)

/-- Two packets in three chunks, cut inside their headers. -/
theorem parser_delivers_two :
    receive 600 ⟨[]⟩ [[0xff], [0xff, 1, 2, 1, 0xfb, 0xff],
        [0xff, 2, 2, 1, 0xfa]] =
      some ([.ok ⟨1, 1, []⟩, .ok ⟨2, 1, []⟩], ⟨[]⟩) := by
  apply parser_delivers.1 [⟨1, 1, []⟩, ⟨2, 1, []⟩]
  · decide
  · decide
  · decide
  · rfl

end St3215StreamParser

end PolicyRuntime
