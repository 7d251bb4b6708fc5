import PolicyRuntime.SerialFraming

/-!
# Frames through the serial transport

The transport receives, one call at a time, what the kernel hands out in reads.
A read meets at most the beginning of a frame in the stream, so nothing is lost
as long as the stream can hold such a beginning and a full read.
-/

namespace PolicyRuntime

open St3215Protocol

/-- Reads which return what a working kernel may return. -/
def ReceiveEvent.orderly (config : SerialConfig) : ReceiveEvent → Prop
  | .idle => True
  | .spurious => True
  | .received bytes => bytes ≠ [] ∧ bytes.length ≤ config.readBufferSize
  | .failed => False
  | .stopped => False

instance (config : SerialConfig) (event : ReceiveEvent) :
    Decidable (event.orderly config) :=
  match event with
  | .idle => .isTrue trivial
  | .spurious => .isTrue trivial
  | .received bytes =>
      inferInstanceAs
        (Decidable (bytes ≠ [] ∧ bytes.length ≤ config.readBufferSize))
  | .failed => .isFalse id
  | .stopped => .isFalse id

theorem ReceiveEvent.orderly_mono {small config : SerialConfig}
    (hsize : small.readBufferSize ≤ config.readBufferSize)
    {event : ReceiveEvent} (h : event.orderly small) :
    event.orderly config := by
  cases event with
  | received bytes => exact ⟨h.1, h.2.trans hsize⟩
  | _ => exact h

def ReceiveEvent.bytes : ReceiveEvent → Bytes
  | .received bytes => bytes
  | _ => []

namespace SerialTransport

/-- Calls of `receive_one`, one for each timeout.  After each call the receive
queue is popped until it is empty. -/
def deliveries :
    List ℤ → SerialTransport → List ReceiveEvent → List Bytes
  | [], _, _ => []
  | timeout :: later, transport, events =>
      let (received, _, unused) := transport.receiveOne timeout events
      received.rxQueue.map SerialFrame.data ++
        deliveries later { received with rxQueue := [] } unused

/-- A transport just opened. -/
def justOpened (config : SerialConfig) : SerialTransport :=
  (create config).openPort.1

/-- The bytes of all reads. -/
def readBytes (events : List ReceiveEvent) : Bytes :=
  (events.map ReceiveEvent.bytes).flatten

theorem readBytes_cons (event : ReceiveEvent) (events : List ReceiveEvent) :
    readBytes (event :: events) = event.bytes ++ readBytes events := rfl

/-! ## One call -/

/-- What a call of `receive_one` leaves: the next frame in the queue and the
rest of the bytes, or no frame and fewer reads to come. -/
def Progress (transport : SerialTransport) (frames : List Bytes)
    (events : List ReceiveEvent) (received : SerialTransport)
    (unused : List ReceiveEvent) : Prop :=
  received.config = transport.config ∧
    (∃ used, events = used ++ unused) ∧
    ((∃ frame rest, frames = frame :: rest ∧
        received.rxQueue = [⟨0, frame⟩] ∧
        received.stream ++ readBytes unused = rest.flatten) ∨
      (received.rxQueue = [] ∧
        received.stream ++ readBytes unused = frames.flatten ∧
        (unused.length < events.length ∨ frames = [] ∧ events = [])))

section Call

variable {frames : List Bytes} {transport : SerialTransport}
  (hframes : ∀ frame ∈ frames,
    WellFramed transport.config.maximumFrameSize frame)
  (hqueue : transport.rxQueue = [])

include hframes

/-- The framer at the beginning of the stream: the first frame, or nothing. -/
theorem extractFrame_stream {stream future : Bytes}
    (hbytes : stream ++ future = frames.flatten) (saw : Bool) :
    (∃ frame rest left, frames = frame :: rest ∧
        extractFrame transport.config.maximumFrameSize stream saw =
          (some frame, left, saw) ∧
        left ++ future = rest.flatten) ∨
      (Begun stream frames ∧
        extractFrame transport.config.maximumFrameSize stream saw =
          (none, stream, saw)) := by
  obtain ⟨complete, rest, left, hsplit, hstream, hrest, hbegun⟩ :=
    exists_complete hbytes
  cases complete with
  | nil =>
      rw [List.nil_append] at hsplit
      rw [List.flatten_nil, List.nil_append] at hstream
      rw [← hstream, ← hsplit] at hbegun
      right
      refine ⟨hbegun, ?_⟩
      cases frames with
      | nil =>
          have hempty : stream = [] := hbegun
          rw [hempty]
          rfl
      | cons frame tail =>
          obtain ⟨missing, hmissing, hframe⟩ := hbegun
          exact WellFramed.extract_partial
            (hframes frame (List.mem_cons_self ..)) hframe hmissing saw
  | cons frame more =>
      left
      refine ⟨frame, more ++ rest, more.flatten ++ left, hsplit, ?_, ?_⟩
      · rw [hstream, List.flatten_cons, List.append_assoc]
        apply (hframes frame ?_).extract
        rw [hsplit]
        exact List.mem_cons_self ..
      · rw [List.append_assoc, hrest, List.flatten_append]

include hqueue

omit hframes in
theorem pushReceived_progress {frame left : Bytes} {rest : List Bytes}
    {events unused : List ReceiveEvent} (hsplit : frames = frame :: rest)
    (hleft : left ++ readBytes unused = rest.flatten)
    (hunused : ∃ used, events = used ++ unused) :
    Progress transport frames events (transport.pushReceived frame left).1
      unused := by
  unfold pushReceived
  rw [if_neg (by rw [hqueue]; decide)]
  refine ⟨rfl, hunused, Or.inl ⟨frame, rest, hsplit, ?_, hleft⟩⟩
  dsimp only
  rw [hqueue]
  rfl

end Call

theorem Progress.cons {transport received : SerialTransport}
    {frames : List Bytes} {events unused : List ReceiveEvent}
    (h : Progress transport frames events received unused)
    (event : ReceiveEvent) :
    Progress transport frames (event :: events) received unused := by
  obtain ⟨hconfig, ⟨used, rfl⟩, hcase⟩ := h
  refine ⟨hconfig, ⟨event :: used, rfl⟩, ?_⟩
  rcases hcase with hframe | ⟨hqueue, hbytes, -⟩
  · exact Or.inl hframe
  · refine Or.inr ⟨hqueue, hbytes, Or.inl ?_⟩
    rw [List.length_cons, List.length_append]
    omega

/-- The largest read which a stream with the beginning of a frame can hold. -/
def safeReadSize : ℕ := 260

section Receive

variable {config : SerialConfig} (hmaximum : config.maximumFrameSize = 259)
  (hsize : config.readBufferSize ≤ safeReadSize) {frames : List Bytes}
  (hframes : ∀ frame ∈ frames, WellFramed config.maximumFrameSize frame)

include hmaximum hsize hframes

/-- No read overflows the stream. -/
theorem appendStream_begun {stream bytes : Bytes}
    (hbegun : Begun stream frames)
    (hbytes : bytes.length ≤ config.readBufferSize) (saw : Bool) :
    appendStream stream bytes saw = (stream ++ bytes, saw) := by
  have hstream : stream.length ≤ 258 := by
    cases frames with
    | nil =>
        have hempty : stream = [] := hbegun
        rw [hempty]
        exact Nat.zero_le _
    | cons frame rest =>
        have hlt := hbegun.length_lt
        have hfits := (hframes frame (List.mem_cons_self ..)).fits
        omega
  unfold appendStream kMaximumFrameStorage
  unfold safeReadSize at hsize
  rw [if_neg (by omega)]

theorem receiveLoop_progress (nonblocking : Bool)
    {events : List ReceiveEvent} {transport : SerialTransport} {saw : Bool}
    (hevents : ∀ event ∈ events, event.orderly config)
    (hconfig : transport.config = config) (hqueue : transport.rxQueue = [])
    (hbytes : transport.stream ++ readBytes events = frames.flatten)
    (hbegun : Begun transport.stream frames) :
    Progress transport frames events
      (receiveLoop nonblocking events transport saw).1
      (receiveLoop nonblocking events transport saw).2.2 := by
  induction events generalizing transport saw with
  | nil =>
      refine ⟨rfl, ⟨[], rfl⟩, Or.inr ⟨hqueue, hbytes, Or.inr ⟨?_, rfl⟩⟩⟩
      cases frames with
      | nil => rfl
      | cons frame rest =>
          have hlt := hbegun.length_lt
          have hcount := congrArg List.length hbytes
          simp only [readBytes, List.map_nil, List.flatten_nil,
            List.append_nil, List.flatten_cons, List.length_append] at hcount
          omega
  | cons event rest ih =>
      have hrest : ∀ other ∈ rest, other.orderly config :=
        fun other hother => hevents other (List.mem_cons_of_mem _ hother)
      have horderly := hevents event (List.mem_cons_self ..)
      cases event with
      | failed => exact horderly.elim
      | stopped => exact horderly.elim
      | idle =>
          exact ⟨rfl, ⟨[.idle], rfl⟩,
            Or.inr ⟨hqueue, hbytes, Or.inl (Nat.lt_succ_self _)⟩⟩
      | spurious =>
          have hlater := @ih transport saw hrest hconfig hqueue hbytes hbegun
          rw [receiveLoop]
          cases nonblocking with
          | true =>
              exact ⟨rfl, ⟨[.spurious], rfl⟩,
                Or.inr ⟨hqueue, hbytes, Or.inl (Nat.lt_succ_self _)⟩⟩
          | false => exact hlater.cons .spurious
      | received bytes =>
          have happend := appendStream_begun hmaximum hsize hframes hbegun
            horderly.2 saw
          have hahead : (transport.stream ++ bytes) ++ readBytes rest =
              frames.flatten := by
            rw [← hbytes, readBytes_cons, List.append_assoc]
            rfl
          rw [← hconfig] at hframes
          rw [receiveLoop]
          dsimp only
          rw [happend]
          dsimp only
          rcases extractFrame_stream hframes hahead saw with
            ⟨frame, others, left, hsplit, hextract, hleft⟩ |
              ⟨hstill, hextract⟩
          · rw [hextract]
            exact pushReceived_progress hqueue hsplit hleft
              ⟨[.received bytes], rfl⟩
          · rw [hextract]
            dsimp only
            cases nonblocking with
            | true =>
                exact ⟨rfl, ⟨[.received bytes], rfl⟩,
                  Or.inr ⟨hqueue, hahead, Or.inl (Nat.lt_succ_self _)⟩⟩
            | false =>
                have hlater := @ih { transport with
                  stream := transport.stream ++ bytes } saw hrest hconfig
                  hqueue hahead hstill
                exact hlater.cons (.received bytes)

theorem receiveOne_progress (timeout : ℤ) {events : List ReceiveEvent}
    {transport : SerialTransport}
    (hevents : ∀ event ∈ events, event.orderly config)
    (hconfig : transport.config = config) (hqueue : transport.rxQueue = [])
    (hbytes : transport.stream ++ readBytes events = frames.flatten) :
    Progress transport frames events
      (transport.receiveOne timeout events).1
      (transport.receiveOne timeout events).2.2 := by
  have hown : ∀ frame ∈ frames,
      WellFramed transport.config.maximumFrameSize frame := by
    rw [hconfig]
    exact hframes
  unfold receiveOne
  rcases extractFrame_stream hown hbytes false with
    ⟨frame, others, left, hsplit, hextract, hleft⟩ | ⟨hbegun, hextract⟩
  · rw [hextract]
    exact pushReceived_progress hqueue hsplit hleft ⟨[], rfl⟩
  · rw [hextract]
    exact receiveLoop_progress hmaximum hsize hframes _ hevents hconfig hqueue
      hbytes hbegun

theorem deliveries_frames {timeouts : List ℤ} {events : List ReceiveEvent}
    {transport : SerialTransport}
    (hevents : ∀ event ∈ events, event.orderly config)
    (hconfig : transport.config = config) (hqueue : transport.rxQueue = [])
    (hbytes : transport.stream ++ readBytes events = frames.flatten)
    (hcalls : frames.length + events.length ≤ timeouts.length) :
    deliveries timeouts transport events = frames := by
  induction timeouts generalizing frames transport events with
  | nil =>
      have hnone : frames = [] := by
        apply List.eq_nil_of_length_eq_zero
        rw [List.length_nil] at hcalls
        omega
      rw [hnone]
      rfl
  | cons timeout later ih =>
      have hprogress := receiveOne_progress hmaximum hsize hframes timeout
        hevents hconfig hqueue hbytes
      unfold deliveries
      rcases hcall : transport.receiveOne timeout events with
        ⟨received, error, unused⟩
      rw [hcall] at hprogress
      obtain ⟨hsame, ⟨used, hused⟩, hcase⟩ := hprogress
      dsimp only at hused hcase
      have hunused : ∀ event ∈ unused, event.orderly config := by
        intro event hevent
        apply hevents
        rw [hused]
        exact List.mem_append_right _ hevent
      have hcount := congrArg List.length hused
      rw [List.length_append] at hcount
      rw [List.length_cons] at hcalls
      dsimp only
      rcases hcase with ⟨frame, rest, hsplit, hreceived, hleft⟩ |
        ⟨hreceived, hleft, hless⟩
      · have hrest : ∀ other ∈ rest,
            WellFramed config.maximumFrameSize other := by
          intro other hother
          apply hframes
          rw [hsplit]
          exact List.mem_cons_of_mem _ hother
        have hlater := @ih rest hrest unused { received with rxQueue := [] }
          hunused (hsame.trans hconfig) rfl hleft (by
            rw [hsplit, List.length_cons] at hcalls
            omega)
        rw [hlater, hreceived, hsplit]
        rfl
      · have hlater := @ih frames hframes unused
          { received with rxQueue := [] } hunused (hsame.trans hconfig) rfl
          hleft (by
            rcases hless with hless | ⟨hnone, hempty⟩
            · omega
            · rw [hempty, List.length_nil] at hcount
              rw [hnone, List.length_nil]
              omega)
        rw [hlater, hreceived]
        rfl

end Receive

/-! ## Reads which overflow the stream -/

/-- Transports which receive alike. -/
structure SameStream (left right : SerialTransport) : Prop where
  maximum : left.config.maximumFrameSize = right.config.maximumFrameSize
  stream : left.stream = right.stream
  rxQueue : left.rxQueue = right.rxQueue

section Same

variable {left right : SerialTransport} (h : SameStream left right)

include h

theorem SameStream.push (frame stream : Bytes) :
    SameStream (left.pushReceived frame stream).1
      (right.pushReceived frame stream).1 := by
  unfold pushReceived
  rw [h.rxQueue]
  split
  · exact ⟨h.maximum, rfl, rfl⟩
  · exact ⟨h.maximum, rfl, rfl⟩

theorem SameStream.withStream (stream : Bytes) :
    SameStream { left with stream := stream } { right with stream := stream } :=
  ⟨h.maximum, rfl, h.rxQueue⟩

theorem SameStream.receiveLoop (nonblocking : Bool)
    (events : List ReceiveEvent) (saw : Bool) :
    SameStream (SerialTransport.receiveLoop nonblocking events left saw).1
        (SerialTransport.receiveLoop nonblocking events right saw).1 ∧
      (SerialTransport.receiveLoop nonblocking events left saw).2.2 =
        (SerialTransport.receiveLoop nonblocking events right saw).2.2 := by
  induction events generalizing left right saw with
  | nil => exact ⟨h, rfl⟩
  | cons event rest ih =>
      cases event with
      | idle => exact ⟨h, rfl⟩
      | failed => exact ⟨h, rfl⟩
      | stopped => exact ⟨h, rfl⟩
      | spurious =>
          rw [SerialTransport.receiveLoop, SerialTransport.receiveLoop]
          cases nonblocking with
          | true => exact ⟨h, rfl⟩
          | false => exact ih h saw
      | received bytes =>
          rw [SerialTransport.receiveLoop, SerialTransport.receiveLoop,
            h.stream, h.maximum]
          dsimp only
          split
          · exact ⟨h.push _ _, rfl⟩
          · cases nonblocking with
            | true => exact ⟨h.withStream _, rfl⟩
            | false => exact ih (h.withStream _) _

theorem SameStream.receiveOne (timeout : ℤ) (events : List ReceiveEvent) :
    SameStream (left.receiveOne timeout events).1
        (right.receiveOne timeout events).1 ∧
      (left.receiveOne timeout events).2.2 =
        (right.receiveOne timeout events).2.2 := by
  unfold SerialTransport.receiveOne
  rw [h.stream, h.maximum]
  split
  · exact ⟨h.push _ _, rfl⟩
  · exact (h.withStream _).receiveLoop _ _ _

theorem SameStream.deliveries (timeouts : List ℤ)
    (events : List ReceiveEvent) :
    SerialTransport.deliveries timeouts left events =
      SerialTransport.deliveries timeouts right events := by
  induction timeouts generalizing left right events with
  | nil => rfl
  | cons timeout later ih =>
      obtain ⟨hsame, hunused⟩ := h.receiveOne timeout events
      unfold SerialTransport.deliveries
      dsimp only
      rw [hsame.rxQueue, hunused]
      congr 1
      refine ih ?_ _
      exact ⟨hsame.maximum, hsame.stream, rfl⟩

end Same

theorem justOpened_state (config : SerialConfig) :
    (justOpened config).config = config ∧ (justOpened config).stream = [] ∧
      (justOpened config).rxQueue = [] := by
  have hclosed : ¬ (create config).opened = true := Bool.false_ne_true
  unfold justOpened openPort
  rw [if_neg hclosed]
  split
  · exact ⟨rfl, rfl, rfl⟩
  · exact ⟨rfl, rfl, rfl⟩

theorem justOpened_same {config other : SerialConfig}
    (hmaximum : config.maximumFrameSize = other.maximumFrameSize) :
    SameStream (justOpened config) (justOpened other) := by
  obtain ⟨hconfig, hempty, hnone⟩ := justOpened_state config
  obtain ⟨hconfig', hempty', hnone'⟩ := justOpened_state other
  refine ⟨?_, ?_, ?_⟩
  · rw [hconfig, hconfig', hmaximum]
  · rw [hempty, hempty']
  · rw [hnone, hnone']

/-- Every list of packets arrives, however the kernel splits its bytes. -/
def DeliversAll (config : SerialConfig) : Prop :=
  ∀ (packets : List St3215Packet) (events : List ReceiveEvent)
    (timeouts : List ℤ),
    (∀ packet ∈ packets,
      packet.parameters.length ≤ kSt3215MaximumParameters) →
    (∀ event ∈ events, event.orderly config) →
    readBytes events = (packets.map St3215Packet.frame).flatten →
    packets.length + events.length ≤ timeouts.length →
    deliveries timeouts (justOpened config) events =
      packets.map St3215Packet.frame

theorem deliversAll_of_safe {config : SerialConfig}
    (hmaximum : config.maximumFrameSize = 259)
    (hsize : config.readBufferSize ≤ safeReadSize) : DeliversAll config := by
  intro packets events timeouts hpackets hevents hbytes hcalls
  obtain ⟨hconfig, hempty, hnone⟩ := justOpened_state config
  have hframes : ∀ frame ∈ packets.map St3215Packet.frame,
      WellFramed config.maximumFrameSize frame := by
    intro frame hframe
    obtain ⟨packet, hmem, rfl⟩ := List.mem_map.mp hframe
    rw [hmaximum]
    exact St3215Packet.wellFramed_frame (hpackets packet hmem)
  apply deliveries_frames hmaximum hsize hframes hevents hconfig hnone
  · rw [hempty]
    exact hbytes
  · rw [List.length_map]
    exact hcalls

/-- Three packets of the largest size. -/
def largestPackets : List St3215Packet :=
  List.replicate 3 ⟨1, 3, List.replicate kSt3215MaximumParameters 0⟩

/-- All but one byte of the first frame, and then one byte more than the stream
still holds. -/
def overflowingReads : List ReceiveEvent :=
  let bytes := (largestPackets.map St3215Packet.frame).flatten
  [.received (bytes.take 258), .received ((bytes.drop 258).take 261),
    .received (bytes.drop 519)]

def fullReadConfig : SerialConfig where
  path := "/dev/ttyUSB0"
  baudRate := 1000000
  readBufferSize := 4096
  maximumFrameSize := 259
  readTimeout := 20
  writeTimeout := 20

/-- The first frame is lost. -/
theorem deliveries_overflowing :
    deliveries (List.replicate 6 0) (justOpened fullReadConfig)
        overflowingReads =
      (largestPackets.map St3215Packet.frame).drop 1 := by
  decide +kernel

theorem overflowingReads_orderly :
    ∀ event ∈ overflowingReads,
      event.orderly { fullReadConfig with readBufferSize := 261 } := by
  decide +kernel

theorem not_deliversAll_of_large {config : SerialConfig}
    (hmaximum : config.maximumFrameSize = 259)
    (hsize : safeReadSize < config.readBufferSize) :
    ¬ DeliversAll config := by
  intro h
  have horderly : ∀ event ∈ overflowingReads, event.orderly config := by
    intro event hevent
    have hsmall := overflowingReads_orderly event hevent
    apply ReceiveEvent.orderly_mono _ hsmall
    exact hsize
  have hall := h largestPackets overflowingReads (List.replicate 6 0)
    (by decide +kernel) horderly (by decide +kernel) (by decide +kernel)
  rw [(justOpened_same (hmaximum.trans
      (show 259 = fullReadConfig.maximumFrameSize from rfl))).deliveries,
    deliveries_overflowing] at hall
  exact absurd (congrArg List.length hall) (by decide +kernel)

/-- Every list of packets arrives if and only if the stream can hold a full read
after the beginning of a frame. -/
theorem deliversAll_iff {config : SerialConfig}
    (hmaximum : config.maximumFrameSize = 259) :
    DeliversAll config ↔ config.readBufferSize ≤ safeReadSize := by
  constructor
  · intro h
    by_contra hlarge
    exact not_deliversAll_of_large hmaximum (Nat.not_le.mp hlarge) h
  · exact deliversAll_of_safe hmaximum

/-- A read of 4096 bytes is accepted. -/
theorem deliversAll_fullRead :
    validConfig fullReadConfig = true ∧
      fullReadConfig.maximumFrameSize = 259 ∧ ¬ DeliversAll fullReadConfig :=
  ⟨by decide +kernel, rfl, not_deliversAll_of_large rfl (by decide)⟩

theorem deliversAll_iff_fullRead :
    DeliversAll fullReadConfig ↔
      fullReadConfig.readBufferSize ≤ safeReadSize :=
  deliversAll_iff rfl

end SerialTransport

end PolicyRuntime
