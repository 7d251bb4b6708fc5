import PolicyRuntime.ServedRequests

/-!
# Noise on the simulated bus

Whatever the bytes of the line are, a servo only acts on a packet which stands
in them whole and with its checksum.  A packet of length zero ends the
simulator.
-/

namespace PolicyRuntime

namespace SoArm101

variable {K : Type} [Field K] [LinearOrder K] [FloorRing K]
  {ranges : UInt8 → ServoRange K}

/-- A packet which reaches a servo. -/
def Acts (packet : St3215Packet) : Prop :=
  packet.deviceId ∈ servos ∧
      packet.instructionOrStatus ∈ [PING, READ_DATA, WRITE_DATA] ∨
    packet.deviceId = kSt3215BroadcastId ∧
      packet.instructionOrStatus = WRITE_DATA

instance (packet : St3215Packet) : Decidable (Acts packet) :=
  inferInstanceAs (Decidable (_ ∨ _))

theorem handlePacket_of_not_acts (sim : Sim K) {packet : St3215Packet}
    (hacts : ¬ Acts packet) : handlePacket ranges sim packet = (sim, []) := by
  unfold Acts at hacts
  push Not at hacts
  obtain ⟨hservo, hbroadcast⟩ := hacts
  unfold handlePacket
  by_cases hall : packet.deviceId = kSt3215BroadcastId
  · rw [if_pos hall, if_neg (hbroadcast hall)]
  rw [if_neg hall]
  by_cases hmember : packet.deviceId ∈ servos
  · have hnone := hservo hmember
    simp only [List.mem_cons, List.not_mem_nil, or_false, not_or] at hnone
    rw [if_neg (not_not_intro hmember), if_neg hnone.1, if_neg hnone.2.1,
      if_neg hnone.2.2]
  · rw [if_pos hmember]

/-! ## The shape of what is decoded -/

theorem exists_gap_seekHeader (bytes : Bytes) :
    ∃ gap, bytes = gap ++ St3215StreamParser.seekHeader bytes := by
  induction bytes using St3215StreamParser.seekHeader.induct with
  | case1 first second rest hheader =>
      rw [St3215StreamParser.seekHeader, if_pos hheader]
      exact ⟨[], rfl⟩
  | case2 first second rest hheader ih =>
      obtain ⟨gap, hgap⟩ := ih
      rw [St3215StreamParser.seekHeader, if_neg hheader]
      exact ⟨first :: gap, congrArg (first :: ·) hgap⟩
  | case3 short hshort =>
      rw [St3215StreamParser.seekHeader]
      · exact ⟨[], rfl⟩
      · exact hshort

theorem seekHeader_idem (bytes : Bytes) :
    St3215StreamParser.seekHeader (St3215StreamParser.seekHeader bytes) =
      St3215StreamParser.seekHeader bytes := by
  induction bytes using St3215StreamParser.seekHeader.induct with
  | case1 first second rest hheader =>
      rw [St3215StreamParser.seekHeader, if_pos hheader,
        St3215StreamParser.seekHeader, if_pos hheader]
  | case2 first second rest hheader ih =>
      rw [St3215StreamParser.seekHeader, if_neg hheader]
      exact ih
  | case3 short hshort =>
      have hself : St3215StreamParser.seekHeader short = short := by
        rw [St3215StreamParser.seekHeader]
        exact hshort
      rw [hself, hself]

/-- A header with a length behind it, somewhere in the buffer, or nothing to
decode. -/
theorem tryDecodePacket_shape (buffer : Bytes) :
    (∃ gap after, buffer = gap ++ after ∧
      tryDecodePacket buffer = (.missing, after)) ∨
    ∃ gap id length body,
      buffer = gap ++ 0xff :: 0xff :: id :: length :: body ∧
      2 ≤ body.length ∧
      tryDecodePacket buffer =
        tryDecodePacket (0xff :: 0xff :: id :: length :: body) := by
  obtain ⟨gap, hgap⟩ := exists_gap_seekHeader buffer
  have hsame : tryDecodePacket buffer =
      tryDecodePacket (St3215StreamParser.seekHeader buffer) := by
    unfold tryDecodePacket
    rw [seekHeader_idem]
  have hheader := seekHeader_idem buffer
  generalize St3215StreamParser.seekHeader buffer = sought at hgap hsame hheader
  by_cases hshort : sought.length < 6
  · refine Or.inl ⟨gap, sought, hgap, ?_⟩
    rw [hsame]
    unfold tryDecodePacket
    dsimp only
    rw [hheader, if_pos hshort]
  · right
    obtain ⟨first, second, id, length, body, rfl⟩ :
        ∃ first second id length body,
          sought = first :: second :: id :: length :: body := by
      match sought with
      | first :: second :: id :: length :: body =>
          exact ⟨first, second, id, length, body, rfl⟩
      | [] | [_] | [_, _] | [_, _, _] =>
          exact absurd (by simp) hshort
    have hff : first = kHeaderByte ∧ second = kHeaderByte := by
      by_contra hno
      rw [St3215StreamParser.seekHeader, if_neg hno] at hheader
      have hle := St3215StreamParser.length_seekHeader_le
        (second :: id :: length :: body)
      rw [hheader] at hle
      simp at hle
    obtain ⟨rfl, rfl⟩ := hff
    refine ⟨gap, id, length, body, hgap, ?_, hsame⟩
    simp only [List.length_cons] at hshort
    omega

/-- A packet without parameters whose checksum is also its instruction. -/
theorem not_acts_of_own_checksum {id instruction : UInt8}
    (hchecksum : instruction = St3215Protocol.checksum id 1 instruction []) :
    ¬ Acts ⟨id, instruction, []⟩ := by
  rintro (⟨hid, hinstruction⟩ | ⟨hid, hinstruction⟩)
  · simp only [servos, List.mem_cons, List.not_mem_nil, or_false]
      at hid hinstruction
    rcases hid with rfl | rfl | rfl | rfl | rfl | rfl <;>
      rcases hinstruction with rfl | rfl | rfl <;>
      exact absurd hchecksum (by decide)
  · dsimp only at hid hinstruction
    subst hid hinstruction
    exact absurd hchecksum (by decide)

/-- What a packet in the buffer was decoded from. -/
theorem frame_of_decoded {buffer after : Bytes} {packet : St3215Packet}
    (h : tryDecodePacket buffer = (.packet packet, after)) :
    ∃ gap raw, buffer = gap ++ raw ++ after ∧
      (Acts packet → raw = packet.frame ∧
        packet.parameters.length ≤ kSt3215MaximumParameters) := by
  rcases tryDecodePacket_shape buffer with
    ⟨gap, left, _, hmissing⟩ | ⟨gap, id, length, body, rfl, hbody, hsame⟩
  · rw [hmissing] at h
    cases h
  rw [hsame, tryDecodePacket_header _ _ _ hbody] at h
  by_cases hpartial : body.length < length.toNat
  · rw [if_pos hpartial] at h
    cases h
  rw [if_neg hpartial] at h
  have hsplit := List.take_append_drop length.toNat body
  have hlength : (body.take length.toNat).length = length.toNat :=
    List.length_take_of_le (Nat.le_of_not_lt hpartial)
  generalize body.take length.toNat = payload at h hsplit hlength
  generalize body.drop length.toNat = left at h hsplit
  subst hsplit
  refine ⟨gap, 0xff :: 0xff :: id :: length :: payload, ?_⟩
  cases payload with
  | nil => cases h
  | cons instruction tail =>
      dsimp only [List.getElem?_cons_zero] at h
      by_cases hsum : (((0xff :: 0xff :: id :: length :: instruction ::
          tail : Bytes).getLastD 0).toNat : ℤ) =
            St3215Python.checksum id.toNat length.toNat instruction.toNat
              ((instruction :: tail).drop 1).dropLast
      swap
      · rw [if_pos hsum] at h
        cases h
      rw [if_neg (not_not_intro hsum)] at h
      cases h
      refine ⟨by simp, fun hacts => ?_⟩
      rw [St3215Protocol.toNat_checksum] at hsum
      rcases List.eq_nil_or_concat tail with rfl | ⟨parameters, sum, rfl⟩
      · have hone : length = 1 := UInt8.toNat_inj.mp hlength.symm
        subst hone
        have hown : instruction =
            St3215Protocol.checksum id 1 instruction [] :=
          UInt8.toNat_inj.mp (by exact_mod_cast hsum)
        exact absurd hacts (not_acts_of_own_checksum hown)
      · have hparameters : ((instruction :: parameters.concat sum).drop
            1).dropLast = parameters := by
          rw [List.concat_eq_append]
          exact List.dropLast_concat
        have hlast : (0xff :: 0xff :: id :: length :: instruction ::
            parameters.concat sum : Bytes).getLastD 0 = sum := by
          rw [List.concat_eq_append]
          exact St3215Protocol.getLastD_layout 0xff 0xff id length
            instruction parameters sum
        rw [hparameters, hlast] at hsum
        rw [hparameters]
        have hcount : length.toNat = parameters.length + 2 := by
          rw [← hlength]
          simp
        have hbound : parameters.length ≤ kSt3215MaximumParameters := by
          have hbyte := length.toNat_lt
          unfold kSt3215MaximumParameters
          omega
        have hbyte : length = UInt8.ofNat (parameters.length + 2) := by
          rw [← UInt8.toNat_inj, St3215Protocol.toNat_length hbound]
          exact hcount
        have hchecksum : sum =
            St3215Protocol.checksum id length instruction parameters :=
          UInt8.toNat_inj.mp (by exact_mod_cast hsum)
        refine ⟨?_, hbound⟩
        rw [frame_eq hbound, List.concat_eq_append, hchecksum, hbyte]

theorem suffix_of_missing {buffer after : Bytes}
    (h : tryDecodePacket buffer = (.missing, after)) :
    ∃ gap, buffer = gap ++ after := by
  rcases tryDecodePacket_shape buffer with
    ⟨gap, left, hsplit, hmissing⟩ | ⟨gap, id, length, body, rfl, hbody, hsame⟩
  · rw [hmissing] at h
    cases h
    exact ⟨gap, hsplit⟩
  rw [hsame, tryDecodePacket_header _ _ _ hbody] at h
  refine ⟨gap, congrArg (gap ++ ·) ?_⟩
  by_cases hpartial : body.length < length.toNat
  · rw [if_pos hpartial] at h
    cases h
    rfl
  · rw [if_neg hpartial] at h
    generalize (body.take length.toNat)[0]? = first at h
    cases first with
    | none => cases h
    | some instruction =>
        dsimp only at h
        split_ifs at h <;> cases h

/-- A length of zero behind a header. -/
theorem header_of_indexError {buffer after : Bytes}
    (h : tryDecodePacket buffer = (.indexError, after)) :
    ∃ gap id, buffer = gap ++ 0xff :: 0xff :: id :: 0 :: after := by
  rcases tryDecodePacket_shape buffer with
    ⟨gap, left, _, hmissing⟩ | ⟨gap, id, length, body, rfl, hbody, hsame⟩
  · rw [hmissing] at h
    cases h
  rw [hsame, tryDecodePacket_header _ _ _ hbody] at h
  refine ⟨gap, id, ?_⟩
  by_cases hzero : length = 0
  · subst hzero
    have hnone : ¬ body.length < (0 : UInt8).toNat := Nat.not_lt_zero _
    rw [if_neg hnone] at h
    cases h
    rfl
  · have hpos : 0 < length.toNat := by
      rw [Nat.pos_iff_ne_zero]
      exact fun hnat => hzero (UInt8.toNat_inj.mp hnat)
    by_cases hpartial : body.length < length.toNat
    · rw [if_pos hpartial] at h
      cases h
    rw [if_neg hpartial] at h
    have hsome : (body.take length.toNat)[0]? = some (body.getD 0 0) := by
      rw [List.getElem?_take_of_lt hpos, List.getD_eq_getElem?_getD,
        List.getElem?_eq_getElem (by omega)]
      rfl
    rw [hsome] at h
    dsimp only at h
    split_ifs at h <;> cases h

/-! ## A run over any bytes -/

/-- The packets which reach a servo stand in the bytes, with their checksums. -/
structure HeardIn (packets : List St3215Packet) (bytes : Bytes) : Prop where
  within : FramesWithin
    ((packets.filter (Acts ·)).map St3215Packet.frame) bytes
  encoded : ∀ packet ∈ packets, Acts packet →
    packet.parameters.length ≤ kSt3215MaximumParameters

theorem heardIn_nil (bytes : Bytes) : HeardIn [] bytes where
  within := FramesWithin.nil bytes
  encoded := fun _ hmem => absurd hmem List.not_mem_nil

theorem HeardIn.append {earlier later : List St3215Packet}
    {left right : Bytes} (h : HeardIn earlier left)
    (hlater : HeardIn later right) :
    HeardIn (earlier ++ later) (left ++ right) where
  within := by
    rw [List.filter_append, List.map_append]
    exact h.within.append hlater.within
  encoded := fun packet hmem =>
    (List.mem_append.mp hmem).elim (h.encoded packet) (hlater.encoded packet)

theorem heardIn_packet {packet : St3215Packet} {gap raw : Bytes}
    (h : Acts packet → raw = packet.frame ∧
      packet.parameters.length ≤ kSt3215MaximumParameters) :
    HeardIn [packet] (gap ++ raw) where
  within := by
    by_cases hacts : Acts packet
    · have hpass : [packet].filter (Acts ·) = [packet] :=
        List.filter_cons_of_pos (decide_eq_true hacts)
      rw [hpass, (h hacts).1, List.map_singleton, ← List.append_nil (gap ++ _)]
      exact FramesWithin.cons gap _ (FramesWithin.nil [])
    · have hstop : [packet].filter (Acts ·) = [] :=
        List.filter_cons_of_neg (by simpa using hacts)
      rw [hstop]
      exact FramesWithin.nil _
  encoded := by
    intro other hmem hacts
    rw [List.mem_singleton.mp hmem] at hacts ⊢
    exact (h hacts).2

/-- The bytes end in a packet whose length is zero. -/
def EndsInZeroLength (bytes : Bytes) : Prop :=
  ∃ earlier id, bytes = earlier ++ [0xff, 0xff, id, 0]

/-- What one poll does with the bytes in its buffer. -/
structure Polled (ranges : UInt8 → ServoRange K) (sim : Sim K)
    (buffer consumed : Bytes) (bus : St3215SerialBus K)
    (report : PollReport) : Prop where
  split : buffer = consumed ++ bus.buffer
  heard : HeardIn report.handled consumed
  effect : (bus.sim, report.written) = handleAll ranges sim report.handled
  crashed : bus.crashed = true → EndsInZeroLength consumed

theorem pollLoop_polled (rounds : ℕ) (sim : Sim K) (buffer : Bytes) :
    ∃ consumed, Polled ranges sim buffer consumed
      (pollLoop ranges rounds sim buffer).1
      (pollLoop ranges rounds sim buffer).2 := by
  induction rounds generalizing sim buffer with
  | zero =>
      exact ⟨[], rfl, heardIn_nil _, rfl, fun h => absurd h Bool.false_ne_true⟩
  | succ rounds ih =>
      rw [pollLoop]
      rcases hdecode : tryDecodePacket buffer with ⟨result, after⟩
      cases result with
      | missing =>
          obtain ⟨gap, hgap⟩ := suffix_of_missing hdecode
          exact ⟨gap, hgap, heardIn_nil _, rfl,
            fun h => absurd h Bool.false_ne_true⟩
      | packetError message =>
          exact ⟨buffer, (List.append_nil _).symm, heardIn_nil _, rfl,
            fun h => absurd h Bool.false_ne_true⟩
      | indexError =>
          obtain ⟨gap, id, rfl⟩ := header_of_indexError hdecode
          refine ⟨gap ++ [0xff, 0xff, id, 0], ?_, heardIn_nil _, rfl,
            fun _ => ⟨gap, id, rfl⟩⟩
          dsimp only
          rw [List.append_assoc]
          rfl
      | packet packet =>
          obtain ⟨gap, raw, rfl, hraw⟩ := frame_of_decoded hdecode
          obtain ⟨consumed, hlater⟩ :=
            ih (handlePacket ranges sim packet).1 after
          refine ⟨gap ++ raw ++ consumed, ?_, ?_, ?_, ?_⟩
          · rw [List.append_assoc (gap ++ raw)]
            exact congrArg (gap ++ raw ++ ·) hlater.split
          · exact (heardIn_packet hraw).append hlater.heard
          · exact congrArg (fun result : Sim K × List Bytes =>
              (result.1, (handlePacket ranges sim packet).2 ++ result.2))
              hlater.effect
          · intro hcrashed
            obtain ⟨earlier, id, hends⟩ := hlater.crashed hcrashed
            refine ⟨gap ++ raw ++ earlier, id, ?_⟩
            rw [hends, List.append_assoc (gap ++ raw)]

theorem poll_polled (ranges : UInt8 → ServoRange K)
    (bus : St3215SerialBus K) (incoming : Bytes)
    (hrunning : bus.crashed = false) :
    ∃ consumed, Polled ranges bus.sim (bus.buffer ++ incoming) consumed
      (bus.poll ranges incoming).1 (bus.poll ranges incoming).2 := by
  unfold St3215SerialBus.poll
  rw [hrunning, if_neg Bool.false_ne_true]
  exact pollLoop_polled _ _ _

/-- What has been heard on the line, and what it has done. -/
structure Heard (ranges : UInt8 → ServoRange K) (qpos : UInt8 → K)
    (history : SimHistory K) (bus : St3215SerialBus K) : Prop where
  /-- bytes which come after a crash are lost -/
  heard : ∃ consumed lost, received history = consumed ++ bus.buffer ++ lost ∧
    HeardIn (handled history) consumed ∧
    (if bus.crashed then EndsInZeroLength consumed else lost = [])
  answered : ∀ t ∈ history, Answered ranges t
  held : ∀ device ∈ servos, bus.sim.ctrl device =
    commanded ranges device (qpos device) ((handled history).filter (Acts ·))

omit [FloorRing K] in
/-- A packet which acts on no servo gives no goal. -/
theorem commanded_filter_acts {device : UInt8} (hdevice : device ∈ servos)
    (held : K) (packets : List St3215Packet) :
    commanded ranges device held (packets.filter (Acts ·)) =
      commanded ranges device held packets := by
  have hgoals : (packets.filter (Acts ·)).filterMap (goalUnits device) =
      packets.filterMap (goalUnits device) := by
    rw [List.filterMap_filter]
    refine List.filterMap_congr fun packet _ => ?_
    by_cases hacts : Acts packet
    · exact if_pos (decide_eq_true hacts)
    · rw [if_neg (by simpa using hacts)]
      refine (if_neg ?_).symm
      rintro ⟨hid | hid, hinstruction, _⟩
      · refine hacts (Or.inl ⟨hid ▸ hdevice, ?_⟩)
        rw [hinstruction]
        decide
      · exact hacts (Or.inr ⟨hid, hinstruction⟩)
  unfold commanded
  rw [hgoals]

theorem Heard.step {qpos joints : UInt8 → K} {history : SimHistory K}
    {bus : St3215SerialBus K} (h : Heard ranges qpos history bus) :
    Heard ranges qpos (history ++ [(machine ranges).fire bus (.step joints)])
      { bus with sim := { bus.sim with qpos := joints } } := by
  have hhandled : handled
      (history ++ [(machine ranges).fire bus (.step joints)]) =
        handled history := by
    rw [handled_append]
    exact List.append_nil _
  have hreceived : received
      (history ++ [(machine ranges).fire bus (.step joints)]) =
        received history := by
    rw [received_append]
    exact List.append_nil _
  refine ⟨?_, ?_, ?_⟩
  · rw [hhandled, hreceived]
    exact h.heard
  · intro t ht
    rcases List.mem_append.mp ht with hold | hnew
    · exact h.answered t hold
    · rw [List.mem_singleton.mp hnew]
      exact ⟨[], List.Forall₂.nil, rfl⟩
  · rw [hhandled]
    exact h.held

theorem Heard.poll_crashed {qpos : UInt8 → K} {incoming : Bytes}
    {history : SimHistory K} {bus : St3215SerialBus K}
    (hcrashed : bus.crashed = true) (h : Heard ranges qpos history bus) :
    Heard ranges qpos (history ++ [(machine ranges).fire bus (.poll incoming)])
      (bus.poll ranges incoming).1 := by
  have hpoll : bus.poll ranges incoming = (bus, ⟨[], []⟩) := if_pos hcrashed
  have hfire : (machine ranges).fire bus (.poll incoming) =
      ⟨bus, .poll incoming, ⟨[], []⟩, bus⟩ := by
    unfold Machine.fire machine
    dsimp only
    rw [hpoll]
  obtain ⟨consumed, lost, hbytes, hheard, hends⟩ := h.heard
  rw [hfire, hpoll]
  refine ⟨⟨consumed, lost ++ incoming, ?_, ?_, ?_⟩, ?_, ?_⟩
  · rw [received_append, hbytes, List.append_assoc]
    rfl
  · rw [handled_append]
    exact (List.append_nil (handled history)).symm ▸ hheard
  · rw [if_pos hcrashed] at hends ⊢
    exact hends
  · intro t ht
    rcases List.mem_append.mp ht with hold | hnew
    · exact h.answered t hold
    · rw [List.mem_singleton.mp hnew]
      exact ⟨[], List.Forall₂.nil, rfl⟩
  · rw [handled_append]
    exact (List.append_nil (handled history)).symm ▸ h.held

section Noise

variable [IsStrictOrderedRing K]

theorem Heard.poll_running {qpos : UInt8 → K} {incoming : Bytes}
    {history : SimHistory K} {bus : St3215SerialBus K}
    (hrunning : bus.crashed = false) (h : Heard ranges qpos history bus) :
    Heard ranges qpos (history ++ [(machine ranges).fire bus (.poll incoming)])
      (bus.poll ranges incoming).1 := by
  obtain ⟨consumed, lost, hbytes, hheard, hlost⟩ := h.heard
  rw [hrunning, if_neg Bool.false_ne_true] at hlost
  subst hlost
  obtain ⟨more, hpolled⟩ := poll_polled ranges bus incoming hrunning
  have hfire : (machine ranges).fire bus (.poll incoming) =
      ⟨bus, .poll incoming, (bus.poll ranges incoming).2,
        (bus.poll ranges incoming).1⟩ := rfl
  rw [hfire]
  generalize bus.poll ranges incoming = result at hpolled ⊢
  obtain ⟨after, report⟩ := result
  have heffect := hpolled.effect
  dsimp only at hpolled heffect ⊢
  refine ⟨⟨consumed ++ more, [], ?_, ?_, ?_⟩, ?_, ?_⟩
  · rw [received_append, hbytes, List.append_nil, List.append_nil,
      List.append_assoc, List.append_assoc]
    exact congrArg (consumed ++ ·) hpolled.split
  · rw [handled_append]
    exact hheard.append hpolled.heard
  · by_cases hcrashed : after.crashed = true
    · rw [if_pos hcrashed]
      obtain ⟨earlier, id, hends⟩ := hpolled.crashed hcrashed
      exact ⟨consumed ++ earlier, id, by rw [hends, List.append_assoc]⟩
    · rw [if_neg hcrashed]
  · intro t ht
    rcases List.mem_append.mp ht with hold | hnew
    · exact h.answered t hold
    · rw [List.mem_singleton.mp hnew]
      obtain ⟨statuses, hstatuses, hwritten⟩ :=
        answered_handleAll ranges bus.sim report.handled
      rw [← heffect] at hwritten
      exact ⟨statuses, hstatuses, hwritten⟩
  · intro device hdevice
    have hsim : after.sim = (handleAll ranges bus.sim report.handled).1 :=
      congrArg Prod.fst heffect
    rw [handled_append, commanded_filter_acts hdevice, commanded_append,
      ← commanded_filter_acts hdevice _ (handled history),
      ← h.held device hdevice, hsim]
    exact handleAll_ctrl bus.sim report.handled hdevice

/-- Only packets which stand whole in the bytes, with their checksums, move or
answer anything. -/
theorem noise_unheard (ranges : UInt8 → ServoRange K) (qpos : UInt8 → K)
    (inputs : List (SimInput K)) :
    Heard ranges qpos ((machine ranges).trace (start qpos) inputs)
      ((machine ranges).final (start qpos) inputs) := by
  refine Machine.history_final (Heard ranges qpos) ?_ ?_ inputs
  · exact ⟨⟨[], [], rfl, heardIn_nil _, rfl⟩,
      fun _ ht => absurd ht List.not_mem_nil, fun _ _ => rfl⟩
  · intro history bus input h
    cases input with
    | step joints => exact h.step
    | poll incoming =>
        by_cases hcrashed : bus.crashed = true
        · exact h.poll_crashed hcrashed
        · exact h.poll_running (Bool.eq_false_of_not_eq_true hcrashed)

/-- Noise, a goal, and a packet of length zero. -/
theorem noise_unheard_goal :
    Heard (fun _ => unitRange) (fun _ => (0 : ℚ))
      ((machine fun _ => unitRange).trace (start fun _ => 0)
        [.poll [0x00, 0xff, 0x03],
          .poll ((goalPacket 2 4095 0 0).frame ++ [0xff, 0xff, 1, 0]),
          .poll [0, 0]])
      ((machine fun _ => unitRange).final (start fun _ => 0)
        [.poll [0x00, 0xff, 0x03],
          .poll ((goalPacket 2 4095 0 0).frame ++ [0xff, 0xff, 1, 0]),
          .poll [0, 0]]) :=
  noise_unheard _ _ _

end Noise

end SoArm101

end PolicyRuntime
