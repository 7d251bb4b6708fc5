import PolicyRuntime.SerialDelivery
import PolicyRuntime.ServedRequests

/-!
# Transmission on the serial line

Accepted frames reach the line in their order, one at a time, and a frame which
is cut off ends there.  While no write fails, the line carries the frames and
nothing else, and the simulated bus serves them.
-/

namespace PolicyRuntime

/-- The data of a call which succeeds. -/
def CallResult.accepts {α : Type} (data : Bytes) : CallResult α → Option Bytes
  | .value _ => some data
  | _ => none

namespace SerialTransport

/-! ## One write -/

/-- The bytes which the write loop gets onto the line. -/
def sentBytes (writeTimeout : ℤ) : List WriteEvent → Bytes → Bytes
  | _, [] => []
  | [], _ :: _ => []
  | .accepted count :: rest, byte :: more =>
      (byte :: more).take count ++
        sentBytes writeTimeout rest ((byte :: more).drop count)
  | .interrupted :: rest, byte :: more =>
      sentBytes writeTimeout rest (byte :: more)
  | .failed :: _, _ :: _ => []
  | .blocked ready :: rest, byte :: more =>
      if writeTimeout = 0 then []
      else if ready = .none then sentBytes writeTimeout rest (byte :: more)
      else []

theorem sentBytes_isPrefix (writeTimeout : ℤ) (events : List WriteEvent)
    (data : Bytes) : sentBytes writeTimeout events data <+: data := by
  induction events generalizing data with
  | nil => cases data <;> simp [sentBytes]
  | cons event rest ih =>
      cases data with
      | nil => simp [sentBytes]
      | cons byte more =>
          cases event with
          | accepted count =>
              obtain ⟨left, hleft⟩ := ih ((byte :: more).drop count)
              refine ⟨left, ?_⟩
              rw [sentBytes, List.append_assoc, hleft, List.take_append_drop]
          | interrupted => exact ih (byte :: more)
          | failed => simp [sentBytes]
          | blocked ready =>
              rw [sentBytes]
              split_ifs
              · exact List.nil_prefix
              · exact ih (byte :: more)
              · exact List.nil_prefix

/-- The loop succeeds when every byte has been written. -/
theorem writeAll_eq_none_iff (writeTimeout : ℤ) (events : List WriteEvent)
    (data : Bytes) :
    writeAll writeTimeout events data.length = .none ↔
      sentBytes writeTimeout events data = data := by
  induction events generalizing data with
  | nil => cases data <;> simp [sentBytes, writeAll]
  | cons event rest ih =>
      cases data with
      | nil => simp [sentBytes, writeAll]
      | cons byte more =>
          cases event with
          | accepted count =>
              have hdrop := ih ((byte :: more).drop count)
              rw [List.length_drop] at hdrop
              rw [sentBytes, List.length_cons, writeAll, ← List.length_cons,
                hdrop]
              have hsplit := List.take_append_drop count (byte :: more)
              constructor
              · intro hrest
                rw [hrest, hsplit]
              · intro hall
                exact List.append_cancel_left (hall.trans hsplit.symm)
          | interrupted => exact ih (byte :: more)
          | failed => simp [sentBytes, writeAll]
          | blocked ready =>
              rw [sentBytes, List.length_cons, writeAll, ← List.length_cons]
              split_ifs with hzero hready
              · simp
              · exact ih (byte :: more)
              · simp [hready]

/-! ## One cycle -/

theorem txQueue_publishError (transport : SerialTransport)
    (error : SerialError) :
    (transport.publishError error).txQueue = transport.txQueue := by
  cases error <;> rfl

theorem txQueue_pushReceived (transport : SerialTransport)
    (frame stream : Bytes) :
    (transport.pushReceived frame stream).1.txQueue = transport.txQueue := by
  unfold pushReceived
  split_ifs <;> rfl

theorem txQueue_receiveLoop (nonblocking : Bool) (events : List ReceiveEvent)
    (transport : SerialTransport) (saw : Bool) :
    (receiveLoop nonblocking events transport saw).1.txQueue =
      transport.txQueue := by
  induction events generalizing transport saw with
  | nil => rfl
  | cons event rest ih =>
      cases event with
      | idle => rfl
      | failed => rfl
      | stopped => rfl
      | spurious =>
          rw [receiveLoop]
          split_ifs
          · rfl
          · exact ih transport saw
      | received bytes =>
          rw [receiveLoop]
          dsimp only
          split
          · exact txQueue_pushReceived transport _ _
          · split_ifs
            · rfl
            · exact ih _ _

theorem txQueue_receiveOne (transport : SerialTransport) (timeout : ℤ)
    (events : List ReceiveEvent) :
    (transport.receiveOne timeout events).1.txQueue = transport.txQueue := by
  unfold receiveOne
  split
  · exact txQueue_pushReceived transport _ _
  · exact txQueue_receiveLoop _ _ _ _

/-- The frame which a cycle takes from the queue. -/
def popped (transport : SerialTransport) : Option Bytes :=
  if transport.opened then transport.txQueue.head?.map SerialFrame.data
  else none

/-- A cycle takes one frame from the queue. -/
theorem txQueue_cycle (transport : SerialTransport) (io : SerialIo) :
    transport.txQueue.map SerialFrame.data =
      transport.popped.toList ++
        (transport.cycle io).1.txQueue.map SerialFrame.data := by
  unfold cycle popped
  cases hopened : transport.opened with
  | false => simp [txQueue_publishError]
  | true =>
      simp only [Bool.not_true, Bool.false_eq_true, if_false, if_true]
      generalize hready : (if (decide (0 < transport.config.readTimeout) &&
          decide (transport.lastError = .timeout)) = true then _ else _) = ready
      have hqueue : ready.txQueue = transport.txQueue := by
        rw [← hready]
        split
        · exact txQueue_receiveOne transport _ _
        · rfl
      rw [← hqueue]
      cases hfirst : ready.txQueue with
      | nil =>
          dsimp only
          split_ifs <;> simp [txQueue_publishError, txQueue_receiveOne, hfirst]
      | cons outgoing rest =>
          dsimp only
          split_ifs <;> simp [txQueue_publishError, txQueue_receiveOne]

/-! ## A run -/

/-- The calls on an open transport. -/
inductive WireInput
  | write (channel : ℕ) (data : Bytes)
  | read (channel bufferSize : ℕ)
  | cycle (io : SerialIo)

/-- What a call accepts, takes from the queue and puts on the line. -/
structure WireOutput where
  accepted : Option Bytes
  popped : Option Bytes
  line : Bytes

def wireMachine : Machine SerialTransport WireInput WireOutput where
  step := fun transport input =>
    match input with
    | .write channel data =>
        ((transport.write channel data).1,
          ⟨(transport.write channel data).2.accepts data, none, []⟩)
    | .read channel bufferSize =>
        ((transport.read channel bufferSize).1, ⟨none, none, []⟩)
    | .cycle io =>
        ((transport.cycle io).1,
          ⟨none, transport.popped, sentBytes transport.config.writeTimeout
            io.writes (transport.popped.getD [])⟩)

abbrev WireTransition := Transition SerialTransport WireInput WireOutput

def accepted (history : List WireTransition) : List Bytes :=
  history.filterMap fun t => t.output.accepted

def poppedFrames (history : List WireTransition) : List Bytes :=
  history.filterMap fun t => t.output.popped

/-- The bytes on the line. -/
def line (history : List WireTransition) : Bytes :=
  history.flatMap fun t => t.output.line

/-- The write of a cycle gets its whole frame out. -/
def Wrote (t : WireTransition) : Prop :=
  ∀ io frame, t.input = .cycle io → t.output.popped = some frame →
    writeAll t.before.config.writeTimeout io.writes frame.length = .none

/-- Frames which are accepted wait in order, and leave in order. -/
structure Transmitted (history : List WireTransition)
    (transport : SerialTransport) : Prop where
  ordered : accepted history =
    poppedFrames history ++ transport.txQueue.map SerialFrame.data
  bounded : transport.txQueue.length ≤ kQueueCapacity
  pieces : ∃ pieces, List.Forall₂ (· <+: ·) pieces (poppedFrames history) ∧
    line history = pieces.flatten
  whole : (∀ t ∈ history, Wrote t) →
    line history = (poppedFrames history).flatten

theorem write_txQueue (transport : SerialTransport) (channel : ℕ)
    (data : Bytes) :
    (transport.write channel data).1.txQueue.map SerialFrame.data =
        transport.txQueue.map SerialFrame.data ++
          ((transport.write channel data).2.accepts data).toList ∧
      (transport.txQueue.length ≤ kQueueCapacity →
        (transport.write channel data).1.txQueue.length ≤ kQueueCapacity) := by
  unfold write
  split_ifs with hclosed hsize hfull
  · simp [CallResult.accepts]
  · simp [CallResult.accepts]
  · simp [CallResult.accepts]
  · simp only [CallResult.accepts, List.map_append, List.length_append,
      List.length_singleton, Option.toList_some]
    exact ⟨rfl, fun _ => by omega⟩

theorem read_txQueue (transport : SerialTransport) (channel bufferSize : ℕ) :
    (transport.read channel bufferSize).1.txQueue = transport.txQueue := by
  unfold read
  cases hqueue : transport.rxQueue with
  | nil =>
      dsimp only
      split_ifs <;> rfl
  | cons frame rest =>
      dsimp only
      split_ifs <;> rfl

section Run

variable {history : List WireTransition} {transport : SerialTransport}

/-- What a call has to do for the frames to stay in order. -/
theorem Transmitted.extend (h : Transmitted history transport)
    {t : WireTransition} (hqueue : transport.txQueue.map SerialFrame.data ++
        t.output.accepted.toList = t.output.popped.toList ++
          t.after.txQueue.map SerialFrame.data)
    (hbounded : t.after.txQueue.length ≤ kQueueCapacity)
    (hpiece : t.output.line <+: t.output.popped.getD [])
    (hwhole : Wrote t → t.output.line = t.output.popped.getD []) :
    Transmitted (history ++ [t]) t.after := by
  have haccepted : accepted (history ++ [t]) =
      accepted history ++ t.output.accepted.toList := by
    unfold accepted
    cases hout : t.output.accepted <;> simp [hout]
  have hpopped : poppedFrames (history ++ [t]) =
      poppedFrames history ++ t.output.popped.toList := by
    unfold poppedFrames
    cases hout : t.output.popped <;> simp [hout]
  have hline : line (history ++ [t]) = line history ++ t.output.line := by
    simp [line]
  obtain ⟨pieces, hpieces, hflatten⟩ := h.pieces
  refine ⟨?_, hbounded, ?_, ?_⟩
  · rw [haccepted, hpopped, h.ordered, List.append_assoc, hqueue,
      List.append_assoc]
  · rw [hpopped, hline, hflatten]
    cases hout : t.output.popped with
    | none =>
        rw [hout, Option.getD_none, List.prefix_nil] at hpiece
        exact ⟨pieces, by simpa using hpieces, by simp [hpiece]⟩
    | some frame =>
        rw [hout, Option.getD_some] at hpiece
        exact ⟨pieces ++ [t.output.line],
          List.rel_append hpieces (List.Forall₂.cons hpiece .nil), by simp⟩
  · intro hall
    have hold := h.whole fun s hs => hall s (List.mem_append_left _ hs)
    have hnew := hwhole (hall t (List.mem_append_right _ (by simp)))
    rw [hline, hpopped, hold, hnew]
    cases t.output.popped <;> simp

theorem Transmitted.step (h : Transmitted history transport)
    (input : WireInput) :
    Transmitted (history ++ [wireMachine.fire transport input])
      (wireMachine.step transport input).1 := by
  cases input with
  | write channel data =>
      obtain ⟨hqueue, hbounded⟩ := transport.write_txQueue channel data
      exact h.extend (t := wireMachine.fire transport (.write channel data))
        hqueue.symm (hbounded h.bounded) List.nil_prefix fun _ => rfl
  | read channel bufferSize =>
      have hqueue := transport.read_txQueue channel bufferSize
      refine h.extend
        (t := wireMachine.fire transport (.read channel bufferSize))
        ?_ ?_ List.nil_prefix fun _ => rfl
      · simp [wireMachine, Machine.fire, hqueue]
      · simpa [wireMachine, Machine.fire, hqueue] using h.bounded
  | cycle io =>
      have hqueue := transport.txQueue_cycle io
      have hlength := congrArg List.length hqueue
      have hbounded := h.bounded
      simp only [List.length_append, List.length_map] at hlength
      refine h.extend (t := wireMachine.fire transport (.cycle io)) ?_ ?_
        (sentBytes_isPrefix _ _ _) ?_
      · simpa [wireMachine, Machine.fire] using hqueue
      · have hshorter : (transport.cycle io).1.txQueue.length ≤
            transport.txQueue.length := by omega
        exact hshorter.trans hbounded
      · intro hwrote
        change sentBytes _ io.writes (transport.popped.getD []) =
          transport.popped.getD []
        cases hpopped : transport.popped with
        | none => simp [sentBytes]
        | some frame =>
            exact (writeAll_eq_none_iff _ _ _).mp (hwrote io frame rfl hpopped)

/-- In every run of an open transport. -/
theorem transmitted_final (config : SerialConfig) (inputs : List WireInput) :
    Transmitted (wireMachine.trace (justOpened config) inputs)
      (wireMachine.final (justOpened config) inputs) := by
  refine Machine.history_final Transmitted ?_ ?_ inputs
  · have hempty : (justOpened config).txQueue = [] := by
      unfold justOpened openPort
      split_ifs <;> rfl
    refine ⟨?_, ?_, ⟨[], .nil, rfl⟩, fun _ => rfl⟩
    · simp [accepted, poppedFrames, hempty]
    · simp [hempty]
  · intro history transport input h
    exact h.step input

/-- The bytes of accepted frames are on the line, or wait in the queue. -/
theorem frames_transmitted (config : SerialConfig) (inputs : List WireInput) :
    Transmitted (wireMachine.trace (justOpened config) inputs)
        (wireMachine.final (justOpened config) inputs) ∧
      ((∀ t ∈ wireMachine.trace (justOpened config) inputs, Wrote t) →
        (accepted (wireMachine.trace (justOpened config) inputs)).flatten =
          line (wireMachine.trace (justOpened config) inputs) ++
            ((wireMachine.final (justOpened config) inputs).txQueue.map
              SerialFrame.data).flatten) := by
  have hfinal := transmitted_final config inputs
  refine ⟨hfinal, fun hwrote => ?_⟩
  rw [hfinal.ordered, List.flatten_append, hfinal.whole hwrote]

end Run

/-! ## The line of the simulated bus -/

section Served

open SoArm101

variable {K : Type} [Field K] [LinearOrder K] [IsStrictOrderedRing K]
  [FloorRing K]

/-- While no write fails, the simulated bus serves the accepted requests in
their order, and all of them once the line has been read to its end. -/
theorem accepted_requests_served (ranges : UInt8 → ServoRange K)
    (qpos : UInt8 → K) (config : SerialConfig) (calls : List WireInput)
    (polls : List (SimInput K)) {requests : List St3215Packet}
    (hrequests : ∀ request ∈ requests,
      request.parameters.length ≤ kSt3215MaximumParameters)
    (haccepted : accepted (wireMachine.trace (justOpened config) calls) =
      requests.map St3215Packet.frame)
    (hwrote : ∀ t ∈ wireMachine.trace (justOpened config) calls, Wrote t)
    (hpolled : (polls.map SimInput.incoming).flatten <+:
      line (wireMachine.trace (justOpened config) calls)) :
    ∃ future,
      Served ranges qpos requests future
        ((machine ranges).trace (start qpos) polls)
        ((machine ranges).final (start qpos) polls) ∧
      ((wireMachine.final (justOpened config) calls).txQueue = [] →
        (polls.map SimInput.incoming).flatten =
          line (wireMachine.trace (justOpened config) calls) →
        handled ((machine ranges).trace (start qpos) polls) = requests) := by
  have hfinal := transmitted_final config calls
  have hbytes := congrArg List.flatten hfinal.ordered
  rw [haccepted, List.flatten_append, ← hfinal.whole hwrote] at hbytes
  obtain ⟨unread, hunread⟩ := hpolled
  have hsplit : (polls.map SimInput.incoming).flatten ++
      (unread ++ ((wireMachine.final (justOpened config) calls).txQueue.map
        SerialFrame.data).flatten) =
      (requests.map St3215Packet.frame).flatten := by
    rw [← List.append_assoc, hunread, hbytes]
  have hserved := served_final ranges qpos polls hrequests hsplit
  refine ⟨_, hserved, fun hqueue hall => ?_⟩
  have hnone : unread = [] := by
    rw [← hunread, List.self_eq_append_right] at hall
    exact hall
  rw [hnone, hqueue] at hserved
  exact hserved.complete.1

/-- A goal which goes out in two pieces, and is polled with the second. -/
theorem accepted_requests_served_goal :
    ∃ future,
      Served (fun _ => unitRange) (fun _ => (0 : ℚ)) [goalPacket 2 4095 0 0]
        future
        ((machine fun _ => unitRange).trace (start fun _ => 0)
          [.poll (goalPacket 2 4095 0 0).frame])
        ((machine fun _ => unitRange).final (start fun _ => 0)
          [.poll (goalPacket 2 4095 0 0).frame]) ∧
      ((wireMachine.final (justOpened fullReadConfig)
          [.write 0 (goalPacket 2 4095 0 0).frame,
            .cycle ⟨[.accepted 5, .interrupted, .accepted 8], [], []⟩]).txQueue
          = [] →
        (([.poll (goalPacket 2 4095 0 0).frame] : List (SimInput ℚ)).map
          SimInput.incoming).flatten =
          line (wireMachine.trace (justOpened fullReadConfig)
            [.write 0 (goalPacket 2 4095 0 0).frame,
              .cycle ⟨[.accepted 5, .interrupted, .accepted 8], [], []⟩]) →
        handled ((machine fun _ => unitRange).trace (start fun _ => (0 : ℚ))
          [.poll (goalPacket 2 4095 0 0).frame]) =
            [goalPacket 2 4095 0 0]) := by
  refine accepted_requests_served (fun _ => unitRange) (fun _ => 0)
    fullReadConfig _ _ (by decide) (by decide +kernel) ?_ (by decide +kernel)
  simp only [Machine.trace_cons, Machine.trace_nil, List.forall_mem_cons]
  refine ⟨fun _ _ hcycle _ => (nomatch hcycle), ?_,
    fun t ht => absurd ht List.not_mem_nil⟩
  intro io frame hcycle hpopped
  obtain rfl := WireInput.cycle.inj hcycle
  have hfirst : ((wireMachine.step (justOpened fullReadConfig)
      (.write 0 (goalPacket 2 4095 0 0).frame)).1).popped =
        some (goalPacket 2 4095 0 0).frame := by
    decide +kernel
  obtain rfl := Option.some.inj (hfirst.symm.trans hpopped)
  decide +kernel

end Served

end SerialTransport

end PolicyRuntime
