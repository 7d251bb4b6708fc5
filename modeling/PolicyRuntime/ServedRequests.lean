import PolicyRuntime.SimulatedServos

/-!
# Requests on the simulated bus

Every request which arrives is handled once and in order, and answered as the
host expects, however its bytes are cut.
-/

namespace PolicyRuntime

namespace SoArm101

variable {K : Type} [Field K] [LinearOrder K] [FloorRing K]
  {ranges : UInt8 → ServoRange K}

/-! ## What a packet does -/

/-- The goal which a packet gives to a servo. -/
def goalUnits (device : UInt8) (packet : St3215Packet) : Option ℕ :=
  if (packet.deviceId = device ∨ packet.deviceId = kSt3215BroadcastId) ∧
      packet.instructionOrStatus = WRITE_DATA ∧
      3 ≤ packet.parameters.length ∧
      packet.parameters.getD 0 0 = ADDR_GOAL_POSITION then
    some (readU16Le ((packet.parameters.drop 1).take 2))
  else
    none

/-- Where the actuator of a servo holds its joint after some packets. -/
def commanded (ranges : UInt8 → ServoRange K) (device : UInt8) (held : K)
    (packets : List St3215Packet) : K :=
  ((packets.filterMap (goalUnits device)).getLast?.map
    (unitsToRadians (ranges device))).getD held

omit [FloorRing K] in
theorem commanded_append (ranges : UInt8 → ServoRange K) (device : UInt8)
    (held : K) (earlier later : List St3215Packet) :
    commanded ranges device held (earlier ++ later) =
      commanded ranges device (commanded ranges device held earlier) later := by
  unfold commanded
  rw [List.filterMap_append, List.getLast?_append]
  cases (later.filterMap (goalUnits device)).getLast? <;> rfl

omit [FloorRing K] in
theorem ctrl_broadcast (sim : Sim K) (position : ℕ) (devices : List UInt8)
    (device : UInt8) :
    (devices.foldl (fun sim deviceId =>
        sim.setGoalUnits ranges deviceId position) sim).ctrl device =
      if device ∈ devices then unitsToRadians (ranges device) position
      else sim.ctrl device := by
  induction devices generalizing sim with
  | nil => rfl
  | cons first rest ih =>
      rw [List.foldl_cons, ih]
      unfold Sim.setGoalUnits
      dsimp only
      rw [Function.update_apply]
      by_cases hrest : device ∈ rest
      · rw [if_pos hrest, if_pos (List.mem_cons_of_mem _ hrest)]
      · rw [if_neg hrest]
        by_cases hfirst : device = first
        · rw [if_pos hfirst, hfirst, if_pos (List.mem_cons_self ..)]
        · rw [if_neg hfirst, if_neg (by simp [hfirst, hrest])]

omit [FloorRing K] in
theorem qpos_broadcast (sim : Sim K) (position : ℕ) (devices : List UInt8) :
    (devices.foldl (fun sim deviceId =>
      sim.setGoalUnits ranges deviceId position) sim).qpos = sim.qpos := by
  induction devices generalizing sim with
  | nil => rfl
  | cons first rest ih => exact ih _

omit [FloorRing K] in
theorem handleWrite_qpos (sim : Sim K) (packet : St3215Packet)
    (respond : Bool) :
    (handleWrite ranges sim packet respond).1.qpos = sim.qpos := by
  unfold handleWrite
  dsimp only
  by_cases hshort : packet.parameters.length < 3
  · rw [if_pos hshort]
  · rw [if_neg hshort]
    dsimp only
    by_cases haddress : packet.parameters.getD 0 0 = ADDR_GOAL_POSITION
    · rw [if_pos haddress]
      by_cases hbroadcast : packet.deviceId = kSt3215BroadcastId
      · rw [if_pos hbroadcast]
        exact qpos_broadcast sim _ servos
      · rw [if_neg hbroadcast]
        rfl
    · rw [if_neg haddress]

omit [FloorRing K] in
/-- A write moves the goal of the servo it is for, and of every servo when it
is for all. -/
theorem handleWrite_ctrl (sim : Sim K) {packet : St3215Packet}
    (respond : Bool) {device : UInt8} (hdevice : device ∈ servos)
    (hinstruction : packet.instructionOrStatus = WRITE_DATA) :
    (handleWrite ranges sim packet respond).1.ctrl device =
      commanded ranges device (sim.ctrl device) [packet] := by
  have hsingle : commanded ranges device (sim.ctrl device) [packet] =
      ((goalUnits device packet).map
        (unitsToRadians (ranges device))).getD (sim.ctrl device) := by
    unfold commanded
    rw [List.filterMap_cons]
    cases goalUnits device packet <;> rfl
  rw [hsingle]
  unfold handleWrite goalUnits
  dsimp only
  by_cases hshort : packet.parameters.length < 3
  · have hgoal : ¬ 3 ≤ packet.parameters.length := Nat.not_le_of_lt hshort
    rw [if_pos hshort]
    dsimp only
    rw [if_neg fun h => hgoal h.2.2.1]
    rfl
  · rw [if_neg hshort]
    dsimp only
    by_cases haddress : packet.parameters.getD 0 0 = ADDR_GOAL_POSITION
    · rw [if_pos haddress]
      by_cases hbroadcast : packet.deviceId = kSt3215BroadcastId
      · rw [if_pos hbroadcast, ctrl_broadcast, if_pos hdevice,
          if_pos ⟨Or.inr hbroadcast, hinstruction, by omega, haddress⟩]
        rfl
      · rw [if_neg hbroadcast]
        unfold Sim.setGoalUnits
        dsimp only
        rw [Function.update_apply]
        by_cases hself : device = packet.deviceId
        · rw [if_pos hself, hself,
            if_pos ⟨Or.inl rfl, hinstruction, by omega, haddress⟩]
          rfl
        · rw [if_neg hself, if_neg]
          · rfl
          · rintro ⟨hid | hid, _⟩
            · exact hself hid.symm
            · exact hbroadcast hid
    · rw [if_neg haddress, if_neg fun hgoal => haddress hgoal.2.2.2]
      rfl

theorem handlePacket_qpos (sim : Sim K) (packet : St3215Packet) :
    (handlePacket ranges sim packet).1.qpos = sim.qpos := by
  unfold handlePacket
  split_ifs <;> first
    | rfl
    | exact handleWrite_qpos sim packet _

omit [FloorRing K] in
/-- A packet which writes nothing moves no goal. -/
theorem commanded_of_not_write {device : UInt8} {packet : St3215Packet}
    (held : K) (hinstruction : packet.instructionOrStatus ≠ WRITE_DATA) :
    commanded ranges device held [packet] = held := by
  unfold commanded goalUnits
  rw [List.filterMap_cons, if_neg fun hgoal => hinstruction hgoal.2.1]
  rfl

theorem handlePacket_ctrl (sim : Sim K) (packet : St3215Packet)
    {device : UInt8} (hdevice : device ∈ servos) :
    (handlePacket ranges sim packet).1.ctrl device =
      commanded ranges device (sim.ctrl device) [packet] := by
  by_cases hinstruction : packet.instructionOrStatus = WRITE_DATA
  · by_cases hbroadcast : packet.deviceId = kSt3215BroadcastId
    · rw [handlePacket, if_pos hbroadcast, if_pos hinstruction]
      exact handleWrite_ctrl sim false hdevice hinstruction
    · by_cases hservo : packet.deviceId ∉ servos
      · rw [handlePacket, if_neg hbroadcast, if_pos hservo]
        unfold commanded goalUnits
        rw [List.filterMap_cons, if_neg]
        · rfl
        · rintro ⟨hid | hid, _⟩
          · exact hservo (hid ▸ hdevice)
          · exact hbroadcast hid
      · rw [handlePacket, if_neg hbroadcast, if_neg hservo,
          if_neg (by rw [hinstruction]; decide),
          if_neg (by rw [hinstruction]; decide), if_pos hinstruction]
        exact handleWrite_ctrl sim true hdevice hinstruction
  · rw [commanded_of_not_write _ hinstruction]
    unfold handlePacket
    rw [if_neg hinstruction, if_neg hinstruction]
    split_ifs <;> rfl

/-! ## What a servo answers -/

def statusBytes (status : St3215Status) : Bytes :=
  St3215Protocol.statusPacket status.deviceId status.error status.parameters

/-- A request whose answer reports no error. -/
def Accepted (packet : St3215Packet) : Prop :=
  packet.instructionOrStatus = PING ∨
    packet.instructionOrStatus = READ_DATA ∧
      packet.parameters = [ADDR_PRESENT_POSITION, 2] ∨
    packet.instructionOrStatus = WRITE_DATA ∧ 3 ≤ packet.parameters.length

theorem byteOf_natCast (value : ℕ) :
    (St3215Python.byteOf value).toNat = value % 256 := by
  unfold St3215Python.byteOf
  rw [Int.toNat_natCast, UInt8.toNat_ofNat']

/-- The two bytes of a number, put together by the host. -/
theorem readU16_writeU16 {count : ℕ} (hbound : count < 65536) :
    ((writeU16Le count).getD 0 0).toUInt16 |||
        (((writeU16Le count).getD 1 0).toUInt16 <<< 8) =
      UInt16.ofNat count := by
  have hlow : ((writeU16Le count).getD 0 0).toNat = count % 256 := by
    have h := byteOf_natCast (count % 256)
    rw [Nat.mod_mod] at h
    exact_mod_cast h
  have hhigh : ((writeU16Le count).getD 1 0).toNat = count / 256 := by
    have h := byteOf_natCast (count / 256 % 256)
    have hsmall : count / 256 % 256 = count / 256 := by omega
    rw [Nat.mod_mod] at h
    exact (by exact_mod_cast h : _ = count / 256 % 256).trans hsmall
  rw [← UInt16.toNat_inj, UInt16.toNat_or, UInt16.toNat_shiftLeft,
    UInt8.toNat_toUInt16, UInt8.toNat_toUInt16, hlow, hhigh,
    UInt16.toNat_ofNat_of_lt' hbound]
  have hshift : (count / 256) <<< ((8 : UInt16).toNat % 16) % 2 ^ 16 =
      (count / 256) <<< 8 := by
    have hamount : (8 : UInt16).toNat % 16 = 8 := rfl
    rw [hamount, Nat.shiftLeft_eq]
    omega
  rw [hshift, Nat.or_comm, ← Nat.shiftLeft_add_eq_or_of_lt (by omega),
    Nat.shiftLeft_eq]
  omega

theorem length_writeU16Le (value : ℤ) :
    (writeU16Le value).length ≤ kSt3215MaximumParameters :=
  (by decide : 2 ≤ kSt3215MaximumParameters)

section Positions

variable [IsStrictOrderedRing K]

theorem maximumUnits_pos : 0 < 4095 := by decide

/-- The positions of a servo, as the levels of a scale. -/
def ServoRange.scale (range : ServoRange K) : Quantization.Scale K where
  least := range.low
  greatest := range.high
  steps := 4095
  least_lt_greatest := range.low_lt_high
  steps_pos := maximumUnits_pos

def ServoRange.clip (range : ServoRange K) (radians : K) : K :=
  min (max radians range.low) range.high

omit [Field K] [IsStrictOrderedRing K] [FloorRing K] in
theorem ServoRange.clip_mem (range : ServoRange K) (radians : K) :
    range.low ≤ range.clip radians ∧ range.clip radians ≤ range.high :=
  ⟨le_min (le_max_right _ _) range.low_lt_high.le, min_le_right _ _⟩

omit [IsStrictOrderedRing K] in
theorem radiansToUnits_eq (range : ServoRange K) (radians : K) :
    radiansToUnits range radians =
      range.scale.evenCode (range.clip radians) := rfl

omit [IsStrictOrderedRing K] [FloorRing K] in
theorem unitsToRadians_eq (range : ServoRange K) (positionUnits : ℕ) :
    unitsToRadians range positionUnits =
      range.scale.level ((min positionUnits 4095 : ℕ) : ℤ) := by
  unfold unitsToRadians Quantization.Scale.level
  rw [Int.cast_natCast]
  rfl

/-- What the present position of a servo says about the angle of its joint. -/
structure Reads (range : ServoRange K) (radians : K) (units : UInt16) :
    Prop where
  le_steps : units.toNat ≤ 4095
  close : |range.scale.level units.toNat - range.clip radians| ≤
    1 / 2 * range.scale.step
  goal : ∀ positionUnits, radians = unitsToRadians range positionUnits →
    units.toNat = min positionUnits 4095

theorem reads_of_code {range : ServoRange K} {radians : K} {units : UInt16}
    (hcode : radiansToUnits range radians = units.toNat) :
    Reads range radians units := by
  rw [radiansToUnits_eq] at hcode
  obtain ⟨hleast, hgreatest⟩ := range.clip_mem radians
  obtain ⟨_, hsteps⟩ := range.scale.evenCode_mem hleast hgreatest
  refine ⟨?_, ?_, ?_⟩
  · rw [hcode] at hsteps
    exact_mod_cast hsteps
  · have hclose := range.scale.abs_level_evenCode_sub (range.clip radians)
    rw [hcode] at hclose
    exact_mod_cast hclose
  · rintro positionUnits rfl
    rw [unitsToRadians_eq] at hcode
    have hmem := range.scale.level_mem
      (Int.natCast_nonneg (min positionUnits 4095))
      (by exact_mod_cast min_le_right positionUnits 4095)
    have hclip : range.clip (range.scale.level
        ((min positionUnits 4095 : ℕ) : ℤ)) =
          range.scale.level ((min positionUnits 4095 : ℕ) : ℤ) := by
      exact (congrArg (min · range.high) (max_eq_left hmem.1)).trans
        (min_eq_left hmem.2)
    rw [hclip, range.scale.evenCode_level] at hcode
    exact_mod_cast hcode.symm

/-- The host reads back the position which the simulator writes. -/
theorem exists_units (range : ServoRange K) (radians : K) :
    ∃ units, readSt3215U16Le (writeU16Le (radiansToUnits range radians)) =
      .ok units ∧ Reads range radians units := by
  obtain ⟨hleast, hgreatest⟩ := range.clip_mem radians
  obtain ⟨hzero, hsteps⟩ := range.scale.evenCode_mem hleast hgreatest
  rw [← radiansToUnits_eq] at hzero hsteps
  obtain ⟨count, hcount⟩ := Int.eq_ofNat_of_zero_le hzero
  have hbound : count < 65536 := by
    have hle : radiansToUnits range radians ≤ 4095 := hsteps
    omega
  refine ⟨UInt16.ofNat count, ?_, reads_of_code ?_⟩
  · rw [hcount]
    exact congrArg Except.ok (readU16_writeU16 hbound)
  · rw [hcount, UInt16.toNat_ofNat_of_lt' hbound]

/-- The status which a request gets, if any. -/
structure Answers (ranges : UInt8 → ServoRange K) (qpos : UInt8 → K)
    (packet : St3215Packet) (status : Option St3215Status) : Prop where
  isSome_iff : status.isSome ↔ packet.deviceId ∈ servos ∧
    packet.instructionOrStatus ∈ [PING, READ_DATA, WRITE_DATA]
  parsed : ∀ answer ∈ status,
    St3215Protocol.parseStatus (statusBytes answer) = .ok answer
  own : ∀ answer ∈ status, answer.deviceId = packet.deviceId
  error_eq_zero_iff : ∀ answer ∈ status, answer.error = 0 ↔ Accepted packet
  position : ∀ answer ∈ status,
    packet.instructionOrStatus = READ_DATA → Accepted packet →
      ∃ units, readSt3215U16Le answer.parameters = .ok units ∧
        Reads (ranges packet.deviceId) (qpos packet.deviceId) units

omit [FloorRing K] [IsStrictOrderedRing K] in
theorem answers_none {qpos : UInt8 → K} {packet : St3215Packet}
    (hnone : ¬ (packet.deviceId ∈ servos ∧
      packet.instructionOrStatus ∈ [PING, READ_DATA, WRITE_DATA])) :
    Answers ranges qpos packet none where
  isSome_iff := ⟨fun h => absurd h Bool.false_ne_true,
    fun h => absurd h hnone⟩
  parsed := fun _ h => nomatch h
  own := fun _ h => nomatch h
  error_eq_zero_iff := fun _ h => nomatch h
  position := fun _ h => nomatch h

omit [FloorRing K] [IsStrictOrderedRing K] in
/-- An answer which carries no position. -/
theorem answers_empty {qpos : UInt8 → K} {packet : St3215Packet}
    {error : UInt8} (hservo : packet.deviceId ∈ servos)
    (hinstruction :
      packet.instructionOrStatus ∈ [PING, READ_DATA, WRITE_DATA])
    (herror : error = 0 ↔ Accepted packet)
    (hread : packet.instructionOrStatus = READ_DATA → ¬ Accepted packet) :
    Answers ranges qpos packet (some ⟨packet.deviceId, error, []⟩) where
  isSome_iff := ⟨fun _ => ⟨hservo, hinstruction⟩, fun _ => rfl⟩
  parsed := by
    rintro answer ⟨⟩
    exact St3215Protocol.parseStatus_statusPacket _ _ (Nat.zero_le _)
  own := by
    rintro answer ⟨⟩
    rfl
  error_eq_zero_iff := by
    rintro answer ⟨⟩
    exact herror
  position := by
    rintro answer ⟨⟩ hinstruction haccepted
    exact absurd haccepted (hread hinstruction)

theorem answers_position {sim : Sim K} {packet : St3215Packet}
    (hservo : packet.deviceId ∈ servos)
    (hinstruction : packet.instructionOrStatus = READ_DATA)
    (haccepted : Accepted packet) :
    Answers ranges sim.qpos packet (some ⟨packet.deviceId, 0,
      writeU16Le (sim.getPositionUnits ranges packet.deviceId)⟩) where
  isSome_iff := by
    refine ⟨fun _ => ⟨hservo, ?_⟩, fun _ => rfl⟩
    rw [hinstruction]
    decide
  parsed := by
    rintro answer ⟨⟩
    exact St3215Protocol.parseStatus_statusPacket _ _ (length_writeU16Le _)
  own := by
    rintro answer ⟨⟩
    rfl
  error_eq_zero_iff := by
    rintro answer ⟨⟩
    exact ⟨fun _ => haccepted, fun _ => rfl⟩
  position := by
    rintro answer ⟨⟩ _ _
    exact exists_units _ _

omit [IsStrictOrderedRing K] in
theorem handleRead_eq (sim : Sim K) (packet : St3215Packet) :
    handleRead ranges sim packet =
      if packet.parameters = [ADDR_PRESENT_POSITION, 2] then
        statusBytes ⟨packet.deviceId, 0,
          writeU16Le (sim.getPositionUnits ranges packet.deviceId)⟩
      else
        statusBytes ⟨packet.deviceId, 1, []⟩ := by
  have hrefused : encodeStatus packet.deviceId 1 [] =
      statusBytes ⟨packet.deviceId, 1, []⟩ :=
    encodeStatus_eq packet.deviceId 1 (Nat.zero_le _)
  have hposition := encodeStatus_eq packet.deviceId 0
    (length_writeU16Le (sim.getPositionUnits ranges packet.deviceId))
  unfold handleRead
  split
  · next address length hparameters =>
      rw [hparameters]
      by_cases haddress : address = ADDR_PRESENT_POSITION ∧ length = 2
      · rw [if_pos haddress, if_pos (by rw [haddress.1, haddress.2])]
        exact hposition
      · rw [if_neg haddress, if_neg (by
          rintro ⟨⟩
          exact haddress ⟨rfl, rfl⟩)]
        exact hrefused
  · next hparameters =>
      rw [if_neg (hparameters _ _)]
      exact hrefused

omit [FloorRing K] [IsStrictOrderedRing K] in
theorem handleWrite_written (sim : Sim K) (packet : St3215Packet)
    (respond : Bool) :
    (handleWrite ranges sim packet respond).2 =
      if respond then
        [statusBytes ⟨packet.deviceId,
          if packet.parameters.length < 3 then 1 else 0, []⟩]
      else [] := by
  have hempty : ∀ error : UInt8, encodeStatus packet.deviceId error.toNat [] =
      statusBytes ⟨packet.deviceId, error, []⟩ :=
    fun error => encodeStatus_eq packet.deviceId error (Nat.zero_le _)
  unfold handleWrite
  by_cases hshort : packet.parameters.length < 3
  · rw [if_pos hshort, if_pos hshort, ← hempty]
    rfl
  · rw [if_neg hshort, if_neg hshort, ← hempty]
    rfl

/-- A packet is answered at most once, by the servo which it is for. -/
theorem handlePacket_written (ranges : UInt8 → ServoRange K) (sim : Sim K)
    (packet : St3215Packet) :
    ∃ status, Answers ranges sim.qpos packet status ∧
      (handlePacket ranges sim packet).2 = status.toList.map statusBytes := by
  by_cases hbroadcast : packet.deviceId = kSt3215BroadcastId
  · refine ⟨none, answers_none fun h => ?_, ?_⟩
    · rw [hbroadcast] at h
      exact absurd h.1 (by decide)
    · rw [handlePacket, if_pos hbroadcast]
      by_cases hwrite : packet.instructionOrStatus = WRITE_DATA
      · rw [if_pos hwrite, handleWrite_written]
        rfl
      · rw [if_neg hwrite]
        rfl
  rw [handlePacket, if_neg hbroadcast]
  by_cases hservo : packet.deviceId ∈ servos
  swap
  · exact ⟨none, answers_none fun h => hservo h.1, by rw [if_pos hservo]; rfl⟩
  rw [if_neg (not_not_intro hservo)]
  by_cases hping : packet.instructionOrStatus = PING
  · have haccepted : Accepted packet := Or.inl hping
    rw [if_pos hping]
    refine ⟨_, answers_empty hservo (by rw [hping]; decide)
      (iff_of_true rfl haccepted) fun hread => ?_, ?_⟩
    · exact absurd (hping.symm.trans hread) (by decide)
    · exact congrArg (fun bytes => [bytes])
        (encodeStatus_eq packet.deviceId 0 (Nat.zero_le _))
  rw [if_neg hping]
  by_cases hread : packet.instructionOrStatus = READ_DATA
  · rw [if_pos hread, handleRead_eq]
    have hiff : Accepted packet ↔
        packet.parameters = [ADDR_PRESENT_POSITION, 2] := by
      unfold Accepted
      rw [hread]
      simp [show READ_DATA ≠ PING by decide,
        show READ_DATA ≠ WRITE_DATA by decide]
    by_cases hparameters : packet.parameters = [ADDR_PRESENT_POSITION, 2]
    · rw [if_pos hparameters]
      exact ⟨_, answers_position hservo hread (hiff.mpr hparameters), rfl⟩
    · have hrefused : ¬ Accepted packet := mt hiff.mp hparameters
      rw [if_neg hparameters]
      exact ⟨_, answers_empty hservo (by rw [hread]; decide)
        (iff_of_false (by decide) hrefused) fun _ => hrefused, rfl⟩
  rw [if_neg hread]
  by_cases hwrite : packet.instructionOrStatus = WRITE_DATA
  · rw [if_pos hwrite, handleWrite_written]
    have hiff : Accepted packet ↔ ¬ packet.parameters.length < 3 := by
      unfold Accepted
      rw [hwrite]
      simp [show WRITE_DATA ≠ PING by decide,
        show WRITE_DATA ≠ READ_DATA by decide]
    refine ⟨_, answers_empty hservo (by rw [hwrite]; decide) ?_
      fun h => absurd h hread, rfl⟩
    rw [hiff]
    by_cases hshort : packet.parameters.length < 3
    · rw [if_pos hshort]
      exact iff_of_false (by decide) (not_not_intro hshort)
    · rw [if_neg hshort]
      exact iff_of_true rfl hshort
  · rw [if_neg hwrite]
    refine ⟨none, answers_none fun h => ?_, rfl⟩
    simp [hping, hread, hwrite] at h

/-! ## A run -/

def SimInput.incoming : SimInput K → Bytes
  | .poll incoming => incoming
  | .step _ => []

abbrev SimHistory (K : Type) :=
  List (Transition (St3215SerialBus K) (SimInput K) PollReport)

def received (history : SimHistory K) : Bytes :=
  (history.map fun t => t.input.incoming).flatten

def handled (history : SimHistory K) : List St3215Packet :=
  history.flatMap fun t => t.output.handled

omit [IsStrictOrderedRing K] in
theorem received_trace (ranges : UInt8 → ServoRange K)
    (bus : St3215SerialBus K) (inputs : List (SimInput K)) :
    received ((machine ranges).trace bus inputs) =
      (inputs.map SimInput.incoming).flatten := by
  induction inputs generalizing bus with
  | nil => rfl
  | cons input rest ih => exact congrArg (input.incoming ++ ·) (ih _)

omit [Field K] [LinearOrder K] [FloorRing K] [IsStrictOrderedRing K] in
theorem received_append (history : SimHistory K)
    (t : Transition (St3215SerialBus K) (SimInput K) PollReport) :
    received (history ++ [t]) = received history ++ t.input.incoming := by
  simp [received]

omit [Field K] [LinearOrder K] [FloorRing K] [IsStrictOrderedRing K] in
theorem handled_append (history : SimHistory K)
    (t : Transition (St3215SerialBus K) (SimInput K) PollReport) :
    handled (history ++ [t]) = handled history ++ t.output.handled := by
  simp [handled]

/-- Every poll answers the requests which it handles, in their order. -/
def Answered (ranges : UInt8 → ServoRange K)
    (t : Transition (St3215SerialBus K) (SimInput K) PollReport) : Prop :=
  ∃ statuses,
    List.Forall₂ (Answers ranges t.before.sim.qpos) t.output.handled
      statuses ∧
    t.output.written = statuses.flatMap fun status =>
      status.toList.map statusBytes

/-- The requests which are complete have each been served once. -/
structure Served (ranges : UInt8 → ServoRange K) (qpos : UInt8 → K)
    (requests : List St3215Packet) (future : Bytes) (history : SimHistory K)
    (bus : St3215SerialBus K) : Prop where
  running : bus.crashed = false
  handled : ∃ waiting, requests = handled history ++ waiting ∧
    bus.buffer ++ future = (waiting.map St3215Packet.frame).flatten ∧
    Begun bus.buffer (waiting.map St3215Packet.frame)
  answered : ∀ t ∈ history, Answered ranges t
  held : ∀ device ∈ servos, bus.sim.ctrl device =
    commanded ranges device (qpos device) (SoArm101.handled history)

theorem answered_handleAll (ranges : UInt8 → ServoRange K) (sim : Sim K)
    (packets : List St3215Packet) :
    ∃ statuses, List.Forall₂ (Answers ranges sim.qpos) packets statuses ∧
      (handleAll ranges sim packets).2 = statuses.flatMap fun status =>
        status.toList.map statusBytes := by
  induction packets generalizing sim with
  | nil => exact ⟨[], List.Forall₂.nil, rfl⟩
  | cons packet rest ih =>
      obtain ⟨status, hanswers, hwritten⟩ :=
        handlePacket_written ranges sim packet
      obtain ⟨statuses, hrest, hlater⟩ :=
        ih (handlePacket ranges sim packet).1
      rw [handlePacket_qpos] at hrest
      refine ⟨status :: statuses, List.Forall₂.cons hanswers hrest, ?_⟩
      rw [handleAll, List.flatMap_cons, ← hwritten, ← hlater]

omit [IsStrictOrderedRing K] in
theorem handleAll_ctrl (sim : Sim K) (packets : List St3215Packet)
    {device : UInt8} (hdevice : device ∈ servos) :
    (handleAll ranges sim packets).1.ctrl device =
      commanded ranges device (sim.ctrl device) packets := by
  induction packets generalizing sim with
  | nil => rfl
  | cons packet rest ih =>
      rw [handleAll, ← List.singleton_append, commanded_append,
        ← handlePacket_ctrl sim packet hdevice]
      exact ih _

theorem Served.poll {qpos : UInt8 → K} {requests : List St3215Packet}
    {incoming future : Bytes} {history : SimHistory K}
    {bus : St3215SerialBus K}
    (hrequests : ∀ request ∈ requests,
      request.parameters.length ≤ kSt3215MaximumParameters)
    (h : Served ranges qpos requests (incoming ++ future) history bus) :
    Served ranges qpos requests future
      (history ++ [(machine ranges).fire bus (.poll incoming)])
      (bus.poll ranges incoming).1 := by
  obtain ⟨waiting, hsplit, hbytes, _⟩ := h.handled
  have hwaiting : ∀ packet ∈ waiting,
      packet.parameters.length ≤ kSt3215MaximumParameters := by
    intro packet hmem
    refine hrequests packet ?_
    rw [hsplit]
    exact List.mem_append_right _ hmem
  obtain ⟨complete, later, left, rfl, hleft, hbegun, hpoll⟩ :=
    poll_frames ranges h.running hwaiting
      (by rw [List.append_assoc]; exact hbytes)
  have hfire : (machine ranges).fire bus (.poll incoming) =
      ⟨bus, .poll incoming,
        ⟨complete, (handleAll ranges bus.sim complete).2⟩,
        ⟨(handleAll ranges bus.sim complete).1, left, false⟩⟩ := by
    unfold Machine.fire machine
    dsimp only
    rw [hpoll]
  rw [hfire, hpoll]
  refine ⟨rfl, ⟨later, ?_, hleft, hbegun⟩, ?_, ?_⟩
  · rw [handled_append, List.append_assoc]
    exact hsplit
  · intro t ht
    rcases List.mem_append.mp ht with hold | hnew
    · exact h.answered t hold
    · rw [List.mem_singleton.mp hnew]
      exact answered_handleAll ranges bus.sim complete
  · intro device hdevice
    rw [handled_append, commanded_append, ← h.held device hdevice]
    exact handleAll_ctrl bus.sim complete hdevice

omit [IsStrictOrderedRing K] in
theorem Served.step {qpos joints : UInt8 → K} {requests : List St3215Packet}
    {future : Bytes} {history : SimHistory K} {bus : St3215SerialBus K}
    (h : Served ranges qpos requests future history bus) :
    Served ranges qpos requests future
      (history ++ [(machine ranges).fire bus (.step joints)])
      { bus with sim := { bus.sim with qpos := joints } } := by
  have hhandled : SoArm101.handled
      (history ++ [(machine ranges).fire bus (.step joints)]) =
        SoArm101.handled history := by
    rw [handled_append]
    exact List.append_nil _
  refine ⟨h.running, ?_, ?_, ?_⟩
  · rw [hhandled]
    exact h.handled
  · intro t ht
    rcases List.mem_append.mp ht with hold | hnew
    · exact h.answered t hold
    · rw [List.mem_singleton.mp hnew]
      exact ⟨[], List.Forall₂.nil, rfl⟩
  · rw [hhandled]
    exact h.held

omit [FloorRing K] [IsStrictOrderedRing K] in
theorem served_start {qpos : UInt8 → K} {requests : List St3215Packet}
    {future : Bytes}
    (hrequests : ∀ request ∈ requests,
      request.parameters.length ≤ kSt3215MaximumParameters)
    (hbytes : future = (requests.map St3215Packet.frame).flatten) :
    Served ranges qpos requests future [] (start qpos) := by
  refine ⟨rfl, ⟨requests, rfl, hbytes, begun_nil ?_⟩,
    fun _ ht => absurd ht List.not_mem_nil, fun _ _ => rfl⟩
  intro frame hframe
  obtain ⟨packet, hmem, rfl⟩ := List.mem_map.mp hframe
  rw [frame_eq (hrequests packet hmem)]
  exact List.cons_ne_nil _ _

theorem served_final (ranges : UInt8 → ServoRange K) (qpos : UInt8 → K)
    {requests : List St3215Packet} {future : Bytes}
    (inputs : List (SimInput K))
    (hrequests : ∀ request ∈ requests,
      request.parameters.length ≤ kSt3215MaximumParameters)
    (hbytes : (inputs.map SimInput.incoming).flatten ++ future =
      (requests.map St3215Packet.frame).flatten) :
    Served ranges qpos requests future
      ((machine ranges).trace (start qpos) inputs)
      ((machine ranges).final (start qpos) inputs) := by
  rw [← received_trace ranges (start qpos)] at hbytes
  revert future
  refine Machine.history_final
    (fun history bus => ∀ {future : Bytes}, received history ++ future =
      (requests.map St3215Packet.frame).flatten →
        Served ranges qpos requests future history bus) ?_ ?_ inputs
  · intro future hbytes
    exact served_start hrequests hbytes
  · intro history bus input ih future hbytes
    rw [received_append, List.append_assoc] at hbytes
    cases input with
    | poll incoming => exact (ih hbytes).poll hrequests
    | step joints => exact (ih hbytes).step

omit [FloorRing K] [IsStrictOrderedRing K] in
/-- Nothing is left when every byte has arrived. -/
theorem Served.complete {qpos : UInt8 → K} {requests : List St3215Packet}
    {history : SimHistory K} {bus : St3215SerialBus K}
    (h : Served ranges qpos requests [] history bus) :
    SoArm101.handled history = requests ∧ bus.buffer = [] := by
  obtain ⟨waiting, hsplit, hbytes, hbegun⟩ := h.handled
  rw [List.append_nil] at hbytes
  cases waiting with
  | nil =>
      rw [List.append_nil] at hsplit
      exact ⟨hsplit.symm, hbytes⟩
  | cons packet rest =>
      rw [List.map_cons] at hbegun hbytes
      have hlt := hbegun.length_lt
      rw [hbytes, List.flatten_cons, List.length_append] at hlt
      omega

end Positions

/-! ## The requests of the host -/

def goalPacket (deviceId : UInt8)
    (positionUnits timeUnits speedUnits : UInt16) :
    St3215Packet :=
  ⟨deviceId, WRITE_DATA, ADDR_GOAL_POSITION ::
    St3215Protocol.appendU16 (St3215Protocol.appendU16
      (St3215Protocol.appendU16 [] positionUnits) timeUnits) speedUnits⟩

def positionPacket (deviceId : UInt8) : St3215Packet :=
  ⟨deviceId, READ_DATA, [ADDR_PRESENT_POSITION, 2]⟩

theorem goalPacket_frame (deviceId : UInt8)
    (positionUnits timeUnits speedUnits : UInt16) :
    (goalPacket deviceId positionUnits timeUnits speedUnits).frame =
      St3215Protocol.goalPositionCommand deviceId positionUnits timeUnits
        speedUnits := rfl

theorem positionPacket_frame (deviceId : UInt8) :
    (positionPacket deviceId).frame =
      St3215Protocol.readPresentPositionCommand deviceId := rfl

/-- The simulator takes the goal which the host has put into its command. -/
theorem goalUnits_goalPacket (deviceId : UInt8)
    (positionUnits timeUnits speedUnits : UInt16) :
    goalUnits deviceId
        (goalPacket deviceId positionUnits timeUnits speedUnits) =
      some positionUnits.toNat := by
  have hlow : (positionUnits &&& 0xff).toUInt8.toNat =
      positionUnits.toNat % 256 := by
    rw [UInt16.toNat_toUInt8, UInt16.toNat_and]
    exact (congrArg (· % 256) (Nat.and_two_pow_sub_one_eq_mod _ 8)).trans
      (Nat.mod_mod _ _)
  have hhigh : ((positionUnits >>> 8) &&& 0xff).toUInt8.toNat =
      positionUnits.toNat / 256 := by
    have hbound := positionUnits.toNat_lt
    rw [UInt16.toNat_toUInt8, UInt16.toNat_and, UInt16.toNat_shiftRight]
    refine (congrArg (· % 256)
      (Nat.and_two_pow_sub_one_eq_mod _ 8)).trans ?_
    rw [Nat.mod_mod, Nat.shiftRight_eq_div_pow]
    have hamount : (8 : UInt16).toNat % 16 = 8 := rfl
    rw [hamount]
    exact Nat.mod_eq_of_lt (by omega)
  unfold goalUnits
  rw [if_pos ⟨Or.inl rfl, rfl, (by decide : 3 ≤ 7), rfl⟩]
  refine congrArg some ?_
  have hread : readU16Le (((goalPacket deviceId positionUnits timeUnits
      speedUnits).parameters.drop 1).take 2) =
        (positionUnits &&& 0xff).toUInt8.toNat +
          256 * ((positionUnits >>> 8) &&& 0xff).toUInt8.toNat := rfl
  rw [hread, hlow, hhigh]
  omega

theorem unit_low_lt_high : (-1 : ℚ) < 1 := by norm_num

def unitRange : ServoRange ℚ := ⟨-1, 1, unit_low_lt_high⟩

end SoArm101

end PolicyRuntime
