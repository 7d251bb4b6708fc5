import PolicyRuntime.St3215Bus

/-!
# Serial transport

The transport queues outgoing frames, and collects the bytes it reads in a
stream from which it cuts frames by header and length.  What the operating
system answers to polls, reads and writes is given by events.
-/

namespace PolicyRuntime

def kMaximumFrameStorage : ℕ := 259
def kMaximumReadBuffer : ℕ := 4096
def kQueueCapacity : ℕ := 64

structure SerialConfig where
  path : String
  baudRate : ℕ
  readBufferSize : ℕ
  maximumFrameSize : ℕ
  /-- milliseconds -/
  readTimeout : ℤ
  /-- milliseconds -/
  writeTimeout : ℤ
  deriving DecidableEq

inductive SerialError
  | none
  | timeout
  | framing
  | io
  | closed
  | queueFull
  | internal
  deriving DecidableEq, Repr

structure SerialFrame where
  channel : ℕ
  data : Bytes
  deriving DecidableEq

structure SerialTransport where
  config : SerialConfig
  txQueue : List SerialFrame
  rxQueue : List SerialFrame
  stream : Bytes
  opened : Bool
  health : TransportHealth
  lastError : SerialError
  timeoutCount : ℕ
  ioErrorCount : ℕ

/-- One round of the write loop.  A write which would block waits for the port
to become writable. -/
inductive WriteEvent
  | accepted (count : ℕ)
  | interrupted
  | failed
  | blocked (ready : SerialError)

/-- One round of the receive loop. -/
inductive ReceiveEvent
  | idle
  | failed
  | stopped
  | spurious
  | received (bytes : Bytes)

/-- What the operating system does during a transport cycle. -/
structure SerialIo where
  writes : List WriteEvent
  quarantine : List ReceiveEvent
  receives : List ReceiveEvent

/-- The first frame of a stream, and the stream after it.  Bytes before a header
are dropped, and so is a header whose length does not fit; the flag tells that
this happened. -/
def extractFrame (maximumFrameSize : ℕ) :
    Bytes → Bool → Option Bytes × Bytes × Bool
  | first :: second :: rest, sawFramingError =>
      if first = 0xff && second = 0xff then
        if rest.length < 2 then
          (none, first :: second :: rest, sawFramingError)
        else
          let length := rest.getD 1 0
          let frameSize := length.toNat + 4
          if length < 2 || maximumFrameSize < frameSize ||
              kMaximumFrameStorage < frameSize then
            extractFrame maximumFrameSize rest true
          else if rest.length + 2 < frameSize then
            (none, first :: second :: rest, sawFramingError)
          else
            (some ((first :: second :: rest).take frameSize),
              (first :: second :: rest).drop frameSize, sawFramingError)
      else
        extractFrame maximumFrameSize (second :: rest) sawFramingError
  | short, sawFramingError => (none, short, sawFramingError)

namespace SerialTransport

def create (config : SerialConfig) : SerialTransport where
  config := config
  txQueue := []
  rxQueue := []
  stream := []
  opened := false
  health := .failed
  lastError := .closed
  timeoutCount := 0
  ioErrorCount := 0

def pushReceived (transport : SerialTransport) (frame stream : Bytes) :
    SerialTransport × SerialError :=
  if kQueueCapacity ≤ transport.rxQueue.length then
    ({ transport with stream := stream }, .queueFull)
  else
    ({ transport with
        stream := stream
        rxQueue := transport.rxQueue ++ [⟨0, frame⟩] }, .none)

def expired (sawFramingError : Bool) : SerialError :=
  if sawFramingError then .framing else .timeout

/-- The bytes of a read.  More than the stream can hold discard what it held. -/
def appendStream (stream bytes : Bytes) (sawFramingError : Bool) :
    Bytes × Bool :=
  if 2 * kMaximumFrameStorage - stream.length < bytes.length then
    if 2 * kMaximumFrameStorage < bytes.length then ([], true)
    else (bytes, true)
  else
    (stream ++ bytes, sawFramingError)

/-- The receive loop, with the events it leaves unused.  A receive which may not
wait polls once. -/
def receiveLoop (nonblocking : Bool) :
    List ReceiveEvent → SerialTransport → Bool →
      SerialTransport × SerialError × List ReceiveEvent
  | [], transport, saw => (transport, expired saw, [])
  | .idle :: rest, transport, saw => (transport, expired saw, rest)
  | .failed :: rest, transport, _ => (transport, .io, rest)
  | .stopped :: rest, transport, _ => (transport, .closed, rest)
  | .spurious :: rest, transport, saw =>
      if nonblocking then (transport, expired saw, rest)
      else receiveLoop nonblocking rest transport saw
  | .received bytes :: rest, transport, saw =>
      let (stream, sawOverflow) := appendStream transport.stream bytes saw
      match extractFrame transport.config.maximumFrameSize stream
          sawOverflow with
      | (some frame, left, _) =>
          let (pushed, error) := transport.pushReceived frame left
          (pushed, error, rest)
      | (none, left, sawFraming) =>
          if nonblocking then
            ({ transport with stream := left }, expired sawFraming, rest)
          else
            receiveLoop nonblocking rest { transport with stream := left }
              sawFraming

def receiveOne (transport : SerialTransport) (timeout : ℤ)
    (events : List ReceiveEvent) :
    SerialTransport × SerialError × List ReceiveEvent :=
  match extractFrame transport.config.maximumFrameSize transport.stream
      false with
  | (some frame, left, _) =>
      let (pushed, error) := transport.pushReceived frame left
      (pushed, error, events)
  | (none, left, saw) =>
      receiveLoop (timeout = 0) events { transport with stream := left } saw

def writeAll (writeTimeout : ℤ) : List WriteEvent → ℕ → SerialError
  | _, 0 => .none
  | [], _ + 1 => .timeout
  | .accepted count :: rest, remaining + 1 =>
      writeAll writeTimeout rest (remaining + 1 - count)
  | .interrupted :: rest, remaining + 1 =>
      writeAll writeTimeout rest (remaining + 1)
  | .failed :: _, _ + 1 => .io
  | .blocked ready :: rest, remaining + 1 =>
      if writeTimeout = 0 then .timeout
      else if ready = .none then writeAll writeTimeout rest (remaining + 1)
      else ready

def publishError (transport : SerialTransport) (error : SerialError) :
    SerialTransport :=
  match error with
  | .none => { transport with lastError := .none, health := .healthy }
  | .timeout =>
      { transport with
        lastError := .timeout
        timeoutCount := transport.timeoutCount + 1
        health := .degraded }
  | .framing => { transport with lastError := .framing, health := .degraded }
  | .queueFull =>
      { transport with lastError := .queueFull, health := .degraded }
  | error =>
      { transport with
        lastError := error
        ioErrorCount := transport.ioErrorCount + 1
        health := .failed }

/-- A late response is discarded after a receive deadline has passed. -/
def resynchronizeAfterTimeout (transport : SerialTransport)
    (events : List ReceiveEvent) : SerialTransport :=
  let (received, _, _) :=
    transport.receiveOne transport.config.readTimeout events
  { received with stream := [], rxQueue := [] }

/-- A transport cycle, with the events its receive leaves unused. -/
def cycle (transport : SerialTransport) (io : SerialIo) :
    SerialTransport × List ReceiveEvent :=
  if !transport.opened then
    (transport.publishError .closed, io.receives)
  else
    let ready :=
      if 0 < transport.config.readTimeout && transport.lastError = .timeout then
        { transport.resynchronizeAfterTimeout io.quarantine with
          lastError := .none }
      else
        transport
    match ready.txQueue with
    | [] =>
        let (received, error, unused) := ready.receiveOne 0 io.receives
        if error = .timeout then (received, unused)
        else (received.publishError error, unused)
    | outgoing :: rest =>
        let popped := { ready with txQueue := rest }
        let written :=
          writeAll ready.config.writeTimeout io.writes outgoing.data.length
        if written ≠ .none then
          (popped.publishError written, io.receives)
        else
          let (received, error, unused) :=
            popped.receiveOne popped.config.readTimeout io.receives
          (received.publishError error, unused)

def write (transport : SerialTransport) (channel : ℕ) (data : Bytes) :
    SerialTransport × CallResult Unit :=
  if !transport.opened then
    (transport, .failure ⟨.unavailable, "serial port is closed"⟩)
  else if data.isEmpty || transport.config.maximumFrameSize < data.length ||
      kMaximumFrameStorage < data.length then
    (transport, .failure ⟨.invalidArgument, "invalid serial frame size"⟩)
  else if kQueueCapacity ≤ transport.txQueue.length then
    ({ transport with lastError := .queueFull, health := .degraded },
      .failure ⟨.unavailable, "serial transmit queue is full"⟩)
  else
    ({ transport with txQueue := transport.txQueue ++ [⟨channel, data⟩] },
      .value ())

def read (transport : SerialTransport) (channel bufferSize : ℕ) :
    SerialTransport × CallResult Bytes :=
  if !transport.opened then
    (transport, .failure ⟨.unavailable, "serial port is closed"⟩)
  else
    match transport.rxQueue with
    | [] =>
        if transport.lastError = .timeout then
          (transport, .failure ⟨.timeout, "serial response timed out"⟩)
        else
          (transport, .failure ⟨.unavailable, "no serial frame is available"⟩)
    | frame :: rest =>
        if frame.channel ≠ channel then
          (transport, .failure ⟨.unavailable, "no serial frame for channel"⟩)
        else if bufferSize < frame.data.length then
          (transport,
            .failure ⟨.invalidArgument, "serial receive buffer is too small"⟩)
        else
          ({ transport with rxQueue := rest }, .value frame.data)

/-- The rates which the operating system supports. -/
def serialSpeed (baudRate : ℕ) : Bool :=
  baudRate ∈ [9600, 19200, 38400, 57600, 115200, 230400, 460800, 500000,
    576000, 921600, 1000000, 1152000, 2000000]

def validConfig (config : SerialConfig) : Bool :=
  !(config.path.isEmpty || !serialSpeed config.baudRate ||
    config.readBufferSize = 0 || kMaximumReadBuffer < config.readBufferSize ||
    config.maximumFrameSize < 6 ||
    kMaximumFrameStorage < config.maximumFrameSize ||
    config.readTimeout < 0 || config.writeTimeout < 0 ||
    100 < config.readTimeout || 100 < config.writeTimeout)

/-- `open` on a port which the operating system grants. -/
def openPort (transport : SerialTransport) : SerialTransport × Bool :=
  if transport.opened then
    (transport, true)
  else if validConfig transport.config then
    ({ transport with
        txQueue := []
        rxQueue := []
        stream := []
        opened := true
        health := .healthy
        lastError := .none }, true)
  else
    (transport, false)

def closePort (transport : SerialTransport) : SerialTransport :=
  if transport.opened then
    { transport with opened := false, lastError := .closed, health := .failed }
  else
    transport

end SerialTransport

/-! ## Frames -/

/-- A frame which the transport can cut from a stream. -/
structure WellFramed (maximumFrameSize : ℕ) (frame : Bytes) : Prop where
  shape : ∃ id length body, frame = 0xff :: 0xff :: id :: length :: body ∧
    body.length = length.toNat ∧ 2 ≤ length.toNat
  fits : frame.length ≤ maximumFrameSize
  stored : frame.length ≤ kMaximumFrameStorage

theorem wellFramed_statusPacket {maximumFrameSize : ℕ} (deviceId error : UInt8)
    {parameters : Bytes}
    (hlength : parameters.length ≤ kSt3215MaximumParameters)
    (hfits : parameters.length + 6 ≤ maximumFrameSize) :
    WellFramed maximumFrameSize
      (St3215Protocol.statusPacket deviceId error parameters) := by
  have hnat := St3215Protocol.toNat_length hlength
  unfold St3215Protocol.statusPacket St3215Protocol.requireEncoded
  rw [St3215Protocol.encodePacket_ok deviceId error hlength]
  unfold kSt3215MaximumParameters at hlength
  refine ⟨⟨deviceId, _, _, rfl, ?_, ?_⟩, ?_, ?_⟩
  · rw [hnat]
    simp
  · rw [hnat]
    omega
  · simp only [List.cons_append, List.nil_append, List.length_cons,
      List.length_append, List.length_nil]
    omega
  · simp only [List.cons_append, List.nil_append, List.length_cons,
      List.length_append, List.length_nil, kMaximumFrameStorage]
    omega

theorem length_statusPacket (deviceId error : UInt8) {parameters : Bytes}
    (hlength : parameters.length ≤ kSt3215MaximumParameters) :
    (St3215Protocol.statusPacket deviceId error parameters).length =
      parameters.length + 6 := by
  unfold St3215Protocol.statusPacket St3215Protocol.requireEncoded
  rw [St3215Protocol.encodePacket_ok deviceId error hlength]
  simp

section Extract

variable {maximumFrameSize : ℕ} {frame : Bytes}

theorem extractFrame_header (id length : UInt8) (body : Bytes)
    (hlength : 2 ≤ length.toNat) (hfits : length.toNat + 4 ≤ maximumFrameSize)
    (hstored : length.toNat + 4 ≤ kMaximumFrameStorage) (saw : Bool) :
    extractFrame maximumFrameSize (0xff :: 0xff :: id :: length :: body) saw =
      if body.length < length.toNat then
        (none, 0xff :: 0xff :: id :: length :: body, saw)
      else
        (some (0xff :: 0xff :: id :: length :: body.take length.toNat),
          body.drop length.toNat, saw) := by
  have hsmall : ¬ length < 2 := by
    rw [UInt8.lt_iff_toNat_lt]
    exact not_lt.mpr hlength
  have hguard : ¬ ((decide (length < 2) ||
      decide (maximumFrameSize < length.toNat + 4) ||
      decide (kMaximumFrameStorage < length.toNat + 4)) = true) := by
    simp only [Bool.or_eq_true, decide_eq_true_eq, not_or, not_lt]
    exact ⟨⟨hsmall, hfits⟩, hstored⟩
  rw [extractFrame]
  simp only [decide_true, Bool.and_self, if_true, List.length_cons,
    List.getD_cons_succ, List.getD_cons_zero]
  rw [if_neg (by omega), if_neg hguard]
  by_cases hpartial : body.length < length.toNat
  · rw [if_pos (by omega), if_pos hpartial]
  · rw [if_neg (by omega), if_neg hpartial]
    simp

/-- A frame at the head of a stream is cut off. -/
theorem WellFramed.extract (hframe : WellFramed maximumFrameSize frame)
    (rest : Bytes) (saw : Bool) :
    extractFrame maximumFrameSize (frame ++ rest) saw =
      (some frame, rest, saw) := by
  obtain ⟨⟨id, length, body, rfl, hbody, hlength⟩, hfits, hstored⟩ := hframe
  simp only [List.length_cons, hbody] at hfits hstored
  rw [List.cons_append, List.cons_append, List.cons_append, List.cons_append,
    extractFrame_header id length (body ++ rest) hlength hfits hstored,
    if_neg (by rw [List.length_append]; omega), ← hbody, List.take_left,
    List.drop_left]

/-- A stream which ends inside a frame stays as it is. -/
theorem WellFramed.extract_partial (hframe : WellFramed maximumFrameSize frame)
    {begun missing : Bytes} (hsplit : begun ++ missing = frame)
    (hmissing : missing ≠ []) (saw : Bool) :
    extractFrame maximumFrameSize begun saw = (none, begun, saw) := by
  obtain ⟨⟨id, length, body, rfl, hbody, hlength⟩, hfits, hstored⟩ := hframe
  simp only [List.length_cons, hbody] at hfits hstored
  match begun with
  | [] => rfl
  | [first] => rfl
  | [first, second] =>
      simp only [List.cons_append, List.cons.injEq] at hsplit
      obtain ⟨rfl, rfl, _⟩ := hsplit
      rfl
  | [first, second, third] =>
      simp only [List.cons_append, List.cons.injEq] at hsplit
      obtain ⟨rfl, rfl, _⟩ := hsplit
      rfl
  | first :: second :: third :: fourth :: begunBody =>
      simp only [List.cons_append, List.cons.injEq] at hsplit
      obtain ⟨rfl, rfl, rfl, rfl, hrest⟩ := hsplit
      have hcount := congrArg List.length hrest
      rw [List.length_append, hbody] at hcount
      have hpos := List.length_pos_of_ne_nil hmissing
      rw [extractFrame_header third fourth begunBody hlength hfits hstored,
        if_pos (by omega)]

end Extract

end PolicyRuntime
