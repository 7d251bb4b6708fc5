import PolicyRuntime.SerialTransport

/-!
# A serial line with answering servos

Every request which is written is answered once by the addressed servo.  Some of
the bytes of the answer are readable when the transport polls in the same cycle,
the others before the next cycle.  The frames on a line are then either in the
receive queue or a stretch of bytes in the stream and in the kernel.
-/

namespace PolicyRuntime

/-- A transport with zero timeouts and the bytes which its port has ready. -/
structure SerialLine where
  transport : SerialTransport
  kernel : Bytes

structure LineAnswer where
  parameters : Bytes
  arrived : ℕ

namespace SerialLine

/-- The size of a read. -/
def capacity (line : SerialLine) : ℕ :=
  min line.transport.config.readBufferSize kMaximumReadBuffer

/-- The single poll of a receive which may not wait. -/
def receives (line : SerialLine) (available : Bytes) : List ReceiveEvent :=
  if available.isEmpty then [.idle]
  else [.received (available.take line.capacity)]

/-- What stays in the kernel after a receive. -/
def remaining (line : SerialLine) (available : Bytes)
    (unused : List ReceiveEvent) : Bytes :=
  if unused.isEmpty then available.drop line.capacity else available

/-- A transport cycle on the line.  The third byte of a request addresses the
servo. -/
def cycle (line : SerialLine) (answer : LineAnswer) : SerialLine :=
  match line.transport.txQueue with
  | [] =>
      let result := line.transport.cycle ⟨[], [], line.receives line.kernel⟩
      ⟨result.1, line.remaining line.kernel result.2⟩
  | outgoing :: _ =>
      let response := St3215Protocol.statusPacket (outgoing.data.getD 2 0) 0
        answer.parameters
      let available := line.kernel ++ response.take answer.arrived
      let result := line.transport.cycle
        ⟨[.accepted outgoing.data.length], [], line.receives available⟩
      ⟨result.1, line.remaining available result.2 ++
        response.drop answer.arrived⟩

/-- The line with one request to send. -/
def queue (line : SerialLine) (request : Bytes) : SerialLine :=
  { line with transport :=
      { line.transport with txQueue := [⟨0, request⟩] } }

/-- The line after one receive, with the bytes which come later. -/
def receive (line : SerialLine) (available later : Bytes) : SerialLine :=
  let result := line.transport.receiveOne 0 (line.receives available)
  ⟨result.1.publishError result.2.1,
    line.remaining available result.2.2 ++ later⟩

def openPort (line : SerialLine) : SerialLine × Bool :=
  let result := line.transport.openPort
  (⟨result.1, if line.transport.opened then line.kernel else []⟩, result.2)

end SerialLine

def linePort : SerialPort SerialLine LineAnswer where
  openPort := SerialLine.openPort
  closePort := fun line => { line with transport := line.transport.closePort }
  read := fun line =>
    let result := line.transport.read 0 kSt3215MaximumFrameSize
    ({ line with transport := result.1 }, result.2)
  write := fun line data =>
    let result := line.transport.write 0 data
    ({ line with transport := result.1 }, result.2)
  cycle := SerialLine.cycle
  health := fun line => line.transport.health
  timeoutCount := fun line => line.transport.timeoutCount
  ioErrorCount := fun line => line.transport.ioErrorCount

/-! ## Receiving -/

section Receive

variable {transport : SerialTransport} {frame : Bytes}
  (hframe : WellFramed transport.config.maximumFrameSize frame)
  (hroom : transport.rxQueue.length < kQueueCapacity)

include hframe

theorem receiveOne_idle {begun missing : Bytes}
    (hstream : transport.stream = begun) (hsplit : begun ++ missing = frame)
    (hmissing : missing ≠ []) :
    transport.receiveOne 0 [.idle] = (transport, .timeout, []) := by
  unfold SerialTransport.receiveOne
  rw [hstream, hframe.extract_partial hsplit hmissing]
  simp only [SerialTransport.receiveLoop, SerialTransport.expired]
  rw [← hstream]
  rfl

/-- A read which does not complete the frame. -/
theorem receiveOne_partial {begun chunk missing : Bytes}
    (hstream : transport.stream = begun)
    (hsplit : begun ++ chunk ++ missing = frame) (hmissing : missing ≠ []) :
    transport.receiveOne 0 [.received chunk] =
      ({ transport with stream := begun ++ chunk }, .timeout, []) := by
  have hstored := hframe.stored
  have hcount := congrArg List.length hsplit
  simp only [List.length_append] at hcount
  have hempty : chunk ++ missing ≠ [] := by
    intro hnil
    exact hmissing (List.append_eq_nil_iff.mp hnil).2
  unfold SerialTransport.receiveOne
  rw [hstream, hframe.extract_partial (by rw [← hsplit, List.append_assoc])
    hempty]
  simp only [SerialTransport.receiveLoop, decide_true, if_true]
  have happend : SerialTransport.appendStream begun chunk false =
      (begun ++ chunk, false) := by
    unfold SerialTransport.appendStream
    rw [if_neg (by omega)]
  simp only [happend]
  rw [hframe.extract_partial hsplit hmissing]
  rfl

include hroom

/-- A frame which the stream already holds. -/
theorem receiveOne_buffered {rest : Bytes}
    (hstream : transport.stream = frame ++ rest)
    (events : List ReceiveEvent) :
    transport.receiveOne 0 events =
      ({ transport with
          stream := rest
          rxQueue := transport.rxQueue ++ [⟨0, frame⟩] }, .none, events) := by
  unfold SerialTransport.receiveOne
  rw [hstream, hframe.extract rest false]
  simp only [SerialTransport.pushReceived]
  rw [if_neg (not_le.mpr hroom)]

/-- A read which completes the frame. -/
theorem receiveOne_completed {begun missing chunk rest : Bytes}
    (hstream : transport.stream = begun) (hsplit : begun ++ missing = frame)
    (hmissing : missing ≠ []) (hread : begun ++ chunk = frame ++ rest)
    (hsize : begun.length + chunk.length ≤ 2 * kMaximumFrameStorage) :
    transport.receiveOne 0 [.received chunk] =
      ({ transport with
          stream := rest
          rxQueue := transport.rxQueue ++ [⟨0, frame⟩] }, .none, []) := by
  unfold SerialTransport.receiveOne
  rw [hstream, hframe.extract_partial hsplit hmissing]
  simp only [SerialTransport.receiveLoop]
  have happend : SerialTransport.appendStream begun chunk false =
      (frame ++ rest, false) := by
    unfold SerialTransport.appendStream
    rw [if_neg (by omega), hread]
  simp only [happend]
  rw [hframe.extract rest false]
  simp only [SerialTransport.pushReceived]
  rw [if_neg (not_le.mpr hroom)]

end Receive

/-! ## Frames on the line -/

/-- The frames on a line: those received, and those outstanding as one stretch of
bytes. -/
structure LineOk (config : SerialConfig) (line : SerialLine)
    (received outstanding : List Bytes) : Prop where
  config : line.transport.config = config
  opened : line.transport.opened = true
  sent : line.transport.txQueue = []
  received : line.transport.rxQueue = received.map (SerialFrame.mk 0)
  outstanding : line.transport.stream ++ line.kernel = outstanding.flatten

/-- An answer fits the frames and the reads of a transport. -/
structure AnswerFits (config : SerialConfig) (parameters : Bytes) : Prop where
  count : parameters.length ≤ kSt3215MaximumParameters
  frame : parameters.length + 6 ≤ config.maximumFrameSize
  read : parameters.length + 6 ≤ config.readBufferSize

theorem LineOk.read {config : SerialConfig} {line : SerialLine}
    {frame : Bytes} {outstanding : List Bytes}
    (hline : LineOk config line [frame] outstanding)
    (hsize : frame.length ≤ kSt3215MaximumFrameSize) :
    ∃ after, linePort.read line = (after, .value frame) ∧
      LineOk config after [] outstanding := by
  refine ⟨{ line with transport := { line.transport with rxQueue := [] } },
    ?_, hline.config, hline.opened, hline.sent, rfl, hline.outstanding⟩
  simp only [linePort, SerialTransport.read, hline.opened, hline.received,
    List.map_cons, List.map_nil, Bool.not_true, Bool.false_eq_true, if_false,
    ne_eq, not_true_eq_false, if_neg (not_lt.mpr hsize)]

theorem LineOk.read_late {config : SerialConfig} {line : SerialLine}
    {outstanding : List Bytes} (hline : LineOk config line [] outstanding)
    (hlate : line.transport.lastError = .timeout) :
    linePort.read line =
      (line, .failure ⟨.timeout, "serial response timed out"⟩) := by
  simp only [linePort, SerialTransport.read, hline.opened, hline.received,
    List.map_nil, Bool.not_true, Bool.false_eq_true, if_false, hlate, if_true]

theorem LineOk.write {config : SerialConfig} {line : SerialLine}
    {outstanding : List Bytes} (hline : LineOk config line [] outstanding)
    (request : Bytes) (hrequest : request ≠ [])
    (hfits : request.length ≤ config.maximumFrameSize)
    (hstored : request.length ≤ kMaximumFrameStorage) :
    linePort.write line request = (line.queue request, .value ()) := by
  have hsize : ¬ ((request.isEmpty ||
      decide (config.maximumFrameSize < request.length) ||
      decide (kMaximumFrameStorage < request.length)) = true) := by
    simp only [Bool.or_eq_true, decide_eq_true_eq, List.isEmpty_iff, not_or,
      not_lt]
    exact ⟨⟨hrequest, hfits⟩, hstored⟩
  have hroom : ¬ kQueueCapacity ≤ ([] : List SerialFrame).length := by
    decide
  simp only [linePort, SerialTransport.write, hline.opened, hline.sent,
    hline.config, Bool.not_true, Bool.false_eq_true, if_false]
  rw [if_neg hsize, if_neg hroom, ← hline.config, ← hline.opened]
  rfl

/-- Without a read timeout a transport cycle writes its frame and receives
once. -/
theorem cycle_written (transport : SerialTransport) {request : Bytes}
    (hopened : transport.opened = true)
    (hsent : transport.txQueue = [⟨0, request⟩])
    (htimeout : transport.config.readTimeout = 0) (quarantine receives) :
    transport.cycle ⟨[.accepted request.length], quarantine, receives⟩ =
      ((({ transport with txQueue := [] }.receiveOne 0 receives).1).publishError
        ({ transport with txQueue := [] }.receiveOne 0 receives).2.1,
        ({ transport with txQueue := [] }.receiveOne 0 receives).2.2) := by
  have hwritten : SerialTransport.writeAll transport.config.writeTimeout
      [.accepted request.length] request.length = .none := by
    cases request.length with
    | zero => rfl
    | succ count =>
        rw [SerialTransport.writeAll, Nat.sub_self, SerialTransport.writeAll]
  unfold SerialTransport.cycle
  simp only [hopened, hsent, htimeout, hwritten, lt_irrefl, decide_false,
    Bool.false_and, Bool.not_true, Bool.false_eq_true, if_false, ne_eq,
    not_true_eq_false]

/-- A request which was written is answered while the line receives once. -/
theorem LineOk.cycle_request {config : SerialConfig} {line : SerialLine}
    {outstanding : List Bytes} (hline : LineOk config line [] outstanding)
    (htimeout : config.readTimeout = 0) (request : Bytes)
    (answer : LineAnswer) :
    linePort.cycle (line.queue request) answer =
      line.receive
        (line.kernel ++ (St3215Protocol.statusPacket (request.getD 2 0) 0
          answer.parameters).take answer.arrived)
        ((St3215Protocol.statusPacket (request.getD 2 0) 0
          answer.parameters).drop answer.arrived) := by
  have hsent : { line.transport with txQueue := [] } = line.transport := by
    rw [← hline.sent]
  have hzero : line.transport.config.readTimeout = 0 := by
    rw [hline.config, htimeout]
  simp only [linePort, SerialLine.cycle, SerialLine.queue]
  rw [cycle_written { line.transport with txQueue := [⟨0, request⟩] }
    hline.opened rfl hzero]
  simp only [hsent]
  rfl

section Exchange

variable {config : SerialConfig} {line : SerialLine}
  {outstanding : List Bytes} (hline : LineOk config line [] outstanding)
  {frame : Bytes} (hframe : WellFramed config.maximumFrameSize frame)
  (hread : frame.length ≤ config.readBufferSize)

include hframe hread in
theorem length_le_capacity (hconfig : line.transport.config = config) :
    frame.length ≤ line.capacity := by
  have hstored := hframe.stored
  unfold SerialLine.capacity
  rw [hconfig]
  unfold kMaximumFrameStorage at hstored
  unfold kMaximumReadBuffer
  omega

include hline hframe hread

/-- The first frame on the line is received as soon as it is complete. -/
theorem LineOk.receive_first {available later : Bytes} (rest : Bytes)
    (hbytes : line.transport.stream ++ available = frame ++ rest)
    (hrest : rest.length ≤ kMaximumFrameStorage) {left : List Bytes}
    (hleft : rest ++ later = left.flatten) :
    LineOk config (line.receive available later) [frame] left := by
  have hcapacity := length_le_capacity hframe hread hline.config
  have hwell : WellFramed line.transport.config.maximumFrameSize frame := by
    rw [hline.config]
    exact hframe
  have hroom : line.transport.rxQueue.length < kQueueCapacity := by
    rw [hline.received]
    decide
  have hqueued : line.transport.rxQueue ++ [⟨0, frame⟩] =
      [frame].map (SerialFrame.mk 0) := by
    rw [hline.received]
    rfl
  -- The stream holds the frame, or it has to be read.
  have hcases : (∃ held, line.transport.stream = frame ++ held ∧
      rest = held ++ available) ∨
      ∃ missing, line.transport.stream ++ missing = frame ∧ missing ≠ [] ∧
        available = missing ++ rest := by
    rcases List.append_eq_append_iff.mp hbytes with hread | hheld
    · obtain ⟨missing, hsplit, havailable⟩ := hread
      by_cases hmissing : missing = []
      · left
        refine ⟨[], ?_, ?_⟩
        · rw [hsplit, hmissing, List.append_nil, List.append_nil]
        · rw [havailable, hmissing]
          rfl
      · right
        exact ⟨missing, hsplit.symm, hmissing, havailable⟩
    · obtain ⟨held, hstream, hrest⟩ := hheld
      exact Or.inl ⟨held, hstream, hrest⟩
  rcases hcases with hheld | hpart
  · obtain ⟨held, hstream, hrest⟩ := hheld
    have hreceives : (line.receives available).isEmpty = false := by
      unfold SerialLine.receives
      split <;> rfl
    unfold SerialLine.receive
    rw [receiveOne_buffered hwell hroom hstream]
    refine ⟨hline.config, hline.opened, hline.sent, hqueued, ?_⟩
    show held ++ (line.remaining available (line.receives available) ++ later) =
      left.flatten
    unfold SerialLine.remaining
    rw [hreceives, if_neg Bool.false_ne_true, ← hleft, hrest,
      List.append_assoc]
  · obtain ⟨missing, hsplit, hmissing, havailable⟩ := hpart
    have hcount := congrArg List.length hsplit
    rw [List.length_append] at hcount
    have hchunk : available.take line.capacity =
        missing ++ rest.take (line.capacity - missing.length) := by
      rw [havailable, List.take_append, List.take_of_length_le (by omega)]
    have hkept : available.drop line.capacity =
        rest.drop (line.capacity - missing.length) := by
      rw [havailable, List.drop_append, List.drop_eq_nil_of_le (by omega),
        List.nil_append]
    have hreceives : line.receives available =
        [.received (available.take line.capacity)] := by
      unfold SerialLine.receives
      rw [if_neg]
      rw [havailable]
      simp [hmissing]
    have hstored := hframe.stored
    have hsize : line.transport.stream.length +
        (available.take line.capacity).length ≤ 2 * kMaximumFrameStorage := by
      rw [hchunk, List.length_append, List.length_take]
      omega
    unfold SerialLine.receive
    rw [hreceives, receiveOne_completed hwell hroom rfl hsplit hmissing
      (by rw [hchunk, ← List.append_assoc, hsplit]) hsize]
    refine ⟨hline.config, hline.opened, hline.sent, hqueued, ?_⟩
    show rest.take (line.capacity - missing.length) ++
      (line.remaining available [] ++ later) = left.flatten
    unfold SerialLine.remaining
    rw [List.isEmpty_nil, if_pos rfl, hkept, ← List.append_assoc,
      List.take_append_drop, hleft]

/-- A frame which is not complete stays outstanding. -/
theorem LineOk.receive_partial {available later : Bytes} (missing : Bytes)
    (hsplit : line.transport.stream ++ available ++ missing = frame)
    (hmissing : missing ≠ []) {left : List Bytes}
    (hleft : line.transport.stream ++ available ++ later = left.flatten) :
    LineOk config (line.receive available later) [] left ∧
      (line.receive available later).transport.lastError = .timeout := by
  have hcapacity := length_le_capacity hframe hread hline.config
  have hwell : WellFramed line.transport.config.maximumFrameSize frame := by
    rw [hline.config]
    exact hframe
  have hcount := congrArg List.length hsplit
  simp only [List.length_append] at hcount
  by_cases hempty : available = []
  · subst hempty
    have hreceives : line.receives [] = [.idle] := rfl
    unfold SerialLine.receive
    rw [hreceives, receiveOne_idle hwell rfl
      (by rw [← hsplit, List.append_nil]) hmissing]
    refine ⟨⟨hline.config, hline.opened, hline.sent, hline.received, ?_⟩, rfl⟩
    rw [List.append_nil] at hleft
    rw [← hleft]
    simp [SerialTransport.publishError, SerialLine.remaining]
  · have hreceives : line.receives available = [.received available] := by
      unfold SerialLine.receives
      rw [if_neg (by simpa using hempty), List.take_of_length_le (by omega)]
    unfold SerialLine.receive
    rw [hreceives, receiveOne_partial hwell rfl hsplit hmissing]
    refine ⟨⟨hline.config, hline.opened, hline.sent, hline.received, ?_⟩, rfl⟩
    rw [← hleft]
    have hdrop : available.drop line.capacity = [] :=
      List.drop_eq_nil_of_le (by omega)
    simp [SerialTransport.publishError, SerialLine.remaining, hdrop]

end Exchange

theorem AnswerFits.wellFramed {config : SerialConfig} {parameters : Bytes}
    (hfits : AnswerFits config parameters) (deviceId : UInt8) :
    WellFramed config.maximumFrameSize
      (St3215Protocol.statusPacket deviceId 0 parameters) :=
  wellFramed_statusPacket deviceId 0 hfits.count hfits.frame

theorem AnswerFits.length_le {config : SerialConfig} {parameters : Bytes}
    (hfits : AnswerFits config parameters) (deviceId : UInt8) :
    (St3215Protocol.statusPacket deviceId 0 parameters).length ≤
      config.readBufferSize := by
  rw [length_statusPacket deviceId 0 hfits.count]
  exact hfits.read

section Answer

variable {config : SerialConfig} {line : SerialLine}
  (htimeout : config.readTimeout = 0) (request : Bytes) {answer : LineAnswer}
  (hfits : AnswerFits config answer.parameters)

include htimeout hfits

/-- On an idle line a prompt answer is received with its request. -/
theorem LineOk.answer_prompt (hline : LineOk config line [] [])
    (hprompt : answer.parameters.length + 6 ≤ answer.arrived) :
    LineOk config (linePort.cycle (line.queue request) answer)
      [St3215Protocol.statusPacket (request.getD 2 0) 0 answer.parameters]
      [] := by
  have hempty := List.append_eq_nil_iff.mp hline.outstanding
  rw [← length_statusPacket (request.getD 2 0) 0 hfits.count] at hprompt
  rw [hline.cycle_request htimeout, List.take_of_length_le hprompt,
    List.drop_eq_nil_of_le hprompt]
  refine hline.receive_first (hfits.wellFramed _) (hfits.length_le _) [] ?_
    (Nat.zero_le _) rfl
  rw [hempty.1, hempty.2, List.append_nil]
  rfl

/-- On an idle line a late answer stays outstanding. -/
theorem LineOk.answer_late (hline : LineOk config line [] [])
    (hlate : answer.arrived < answer.parameters.length + 6) :
    LineOk config (linePort.cycle (line.queue request) answer) []
        [St3215Protocol.statusPacket (request.getD 2 0) 0
          answer.parameters] ∧
      (linePort.cycle (line.queue request) answer).transport.lastError =
        .timeout := by
  have hempty := List.append_eq_nil_iff.mp hline.outstanding
  rw [← length_statusPacket (request.getD 2 0) 0 hfits.count] at hlate
  rw [hline.cycle_request htimeout]
  refine hline.receive_partial (hfits.wellFramed (request.getD 2 0))
    (hfits.length_le _)
    ((St3215Protocol.statusPacket (request.getD 2 0) 0
      answer.parameters).drop answer.arrived) ?_ ?_ ?_
  · rw [hempty.1, hempty.2, List.nil_append, List.nil_append,
      List.take_append_drop]
  · intro hnone
    have hle := List.drop_eq_nil_iff.mp hnone
    omega
  · rw [hempty.1, hempty.2, List.nil_append, List.nil_append,
      List.take_append_drop]
    simp

/-- An outstanding frame is received before the answer to the request. -/
theorem LineOk.answer_backlog {frame : Bytes}
    (hline : LineOk config line [] [frame])
    (hframe : WellFramed config.maximumFrameSize frame)
    (hread : frame.length ≤ config.readBufferSize) :
    LineOk config (linePort.cycle (line.queue request) answer) [frame]
      [St3215Protocol.statusPacket (request.getD 2 0) 0
        answer.parameters] := by
  have hbytes := hline.outstanding
  rw [List.flatten_singleton] at hbytes
  have hstored := (hfits.wellFramed (request.getD 2 0)).stored
  rw [hline.cycle_request htimeout]
  refine hline.receive_first hframe hread
    ((St3215Protocol.statusPacket (request.getD 2 0) 0
      answer.parameters).take answer.arrived) ?_ ?_ ?_
  · rw [← List.append_assoc, hbytes]
  · rw [List.length_take]
    omega
  · rw [List.take_append_drop, List.flatten_singleton]

end Answer

end PolicyRuntime
