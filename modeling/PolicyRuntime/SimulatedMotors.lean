import PolicyRuntime.DamiaoFeedback
import PolicyRuntime.DamiaoHandshake

/-!
# The simulated motor bus

The simulator of the arm receives CAN frames, and answers every frame to one of
its motors.  A step of the physics is driven by the last motion command which
an enabled motor has received.
-/

namespace PolicyRuntime

open Quantization
open scoped DamiaoPayload

namespace OpenArm

/-! ## Simulator -/

/-- `CAN_FRAME` -/
structure SocketFrame where
  canId : BitVec 32
  length : Byte
  data : DamiaoPayload

/-- The identifier without the flags above it. -/
def SocketFrame.motorId (frame : SocketFrame) : ℕ := frame.canId.toNat % 0x800

/-- The motors of `JOINT_NAMES`, counted from one. -/
def motors : List ℕ := [1, 2, 3, 4, 5, 6, 7]

/-- The control range of an actuator in the model file. -/
structure MotorRange where
  low : ℚ
  high : ℚ
  low_le_high : low ≤ high

structure Sim where
  enabled : ℕ → Bool
  command : ℕ → DamiaoMitCommand ℚ
  ctrl : ℕ → ℚ
  qpos : ℕ → ℚ
  qvel : ℕ → ℚ

namespace Sim

variable (sim : Sim) (motorId : ℕ)

def setEnabled (enabled : Bool) : Sim :=
  { sim with
    enabled := Function.update sim.enabled motorId enabled
    ctrl := if enabled then sim.ctrl else Function.update sim.ctrl motorId 0 }

def zeroPosition : Sim :=
  { sim with
    qpos := Function.update sim.qpos motorId 0
    qvel := Function.update sim.qvel motorId 0 }

def stageMit (command : DamiaoMitCommand ℚ) : Sim :=
  { sim with command := Function.update sim.command motorId command }

end Sim

/-- The torque of a command at a position and a velocity. -/
def demand (command : DamiaoMitCommand ℚ) (position velocity : ℚ) : ℚ :=
  command.kp * (command.position - position) +
    command.kd * (command.velocity - velocity) + command.torque

def MotorRange.clip (range : MotorRange) (torque : ℚ) : ℚ :=
  min range.high (max range.low torque)

/-- What `step` writes to an actuator. -/
def Sim.control (sim : Sim) (range : MotorRange) (motorId : ℕ) : ℚ :=
  if sim.enabled motorId then
    range.clip (demand (sim.command motorId) (sim.qpos motorId)
      (sim.qvel motorId))
  else
    0

/-- The joints after a step are whatever the physics makes them. -/
def Sim.step (sim : Sim) (ranges : ℕ → MotorRange) (qpos qvel : ℕ → ℚ) : Sim :=
  { sim with
    ctrl := motors.foldl
      (fun ctrl motorId =>
        Function.update ctrl motorId (sim.control (ranges motorId) motorId))
      sim.ctrl
    qpos := qpos
    qvel := qvel }

/-! ## Bus -/

/-- The payload of a feedback, none when its encoding divides by zero. -/
def publishFeedback (limits : DamiaoLimits ℚ) (sim : Sim) (motorId : ℕ) :
    Option SocketFrame :=
  (encodeFeedback
    { motorId := motorId
      errorCode := if sim.enabled motorId then 0 else 1
      position := sim.qpos motorId
      velocity := sim.qvel motorId
      torque := sim.ctrl motorId
      mosTemperature := 25
      rotorTemperature := 25 } limits).map fun payload =>
    ⟨BitVec.ofNat 32 motorId, 8, payload⟩

/-- What a frame to a motor does before it is answered. -/
def handlePayload (limits : DamiaoLimits ℚ) (sim : Sim) (motorId : ℕ)
    (payload : DamiaoPayload) : Sim :=
  match dispatch limits (sim.enabled motorId) payload with
  | .setEnabled enabled => sim.setEnabled motorId enabled
  | .zeroPosition => sim.zeroPosition motorId
  | .stageMit command => sim.stageMit motorId command
  | .none => sim

/-- The frames which a received one is answered with; `ZeroDivisionError` ends
the simulator. -/
inductive Answer
  | skipped
  | published (feedback : SocketFrame)
  | raised

def Answer.feedback : Answer → Option SocketFrame
  | .published feedback => some feedback
  | _ => none

def handleFrame (limits : DamiaoLimits ℚ) (sim : Sim) (frame : SocketFrame) :
    Sim × Answer :=
  if frame.motorId ∉ motors ∨ frame.length ≠ 8 then
    (sim, .skipped)
  else
    let sim := handlePayload limits sim frame.motorId frame.data
    match publishFeedback limits sim frame.motorId with
    | some feedback => (sim, .published feedback)
    | none => (sim, .raised)

/-- The frames which wait, one after the other, and the count of the answered
ones. -/
def poll (limits : DamiaoLimits ℚ) :
    Sim → List SocketFrame → Sim × List SocketFrame × Option ℕ
  | sim, [] => (sim, [], some 0)
  | sim, frame :: rest =>
      match handleFrame limits sim frame with
      | (sim, .skipped) => poll limits sim rest
      | (sim, .published feedback) =>
          let (sim, sent, processed) := poll limits sim rest
          (sim, feedback :: sent, processed.map (· + 1))
      | (sim, .raised) => (sim, [], none)

/-- A frame is received, or the physics is stepped. -/
inductive SimInput
  | frame (frame : SocketFrame)
  | step (qpos qvel : ℕ → ℚ)

def machine (limits : DamiaoLimits ℚ) (ranges : ℕ → MotorRange) :
    Machine Sim SimInput Answer where
  step := fun sim input =>
    match input with
    | .frame frame => handleFrame limits sim frame
    | .step qpos qvel => (sim.step ranges qpos qvel, .skipped)

def start (qpos qvel : ℕ → ℚ) : Sim where
  enabled := fun _ => false
  command := fun _ => restCommand
  ctrl := fun _ => 0
  qpos := qpos
  qvel := qvel

theorem poll_eq_run (limits : DamiaoLimits ℚ) (ranges : ℕ → MotorRange)
    (sim : Sim) (frames : List SocketFrame)
    (hrun : ∀ t ∈ (machine limits ranges).trace sim (frames.map .frame),
      t.output ≠ .raised) :
    (poll limits sim frames).1 =
        (machine limits ranges).final sim (frames.map .frame) ∧
      (poll limits sim frames).2.1 =
        ((machine limits ranges).trace sim (frames.map .frame)).filterMap
          (fun t => t.output.feedback) ∧
      (poll limits sim frames).2.2 =
        some (poll limits sim frames).2.1.length := by
  induction frames generalizing sim with
  | nil => exact ⟨rfl, rfl, rfl⟩
  | cons frame rest ih =>
      simp only [List.map_cons, Machine.trace_cons, List.forall_mem_cons]
        at hrun
      obtain ⟨hfirst, hlater⟩ := hrun
      obtain ⟨hsim, hsent, hcount⟩ := ih _ hlater
      have hfire : ((machine limits ranges).fire sim (.frame frame)).output =
          (handleFrame limits sim frame).2 := rfl
      have hstep : ((machine limits ranges).step sim (.frame frame)).1 =
          (handleFrame limits sim frame).1 := rfl
      simp only [List.map_cons, Machine.trace_cons, Machine.final_cons,
        List.filterMap_cons, hfire, hstep] at hfirst hsim hsent hcount ⊢
      rw [poll]
      generalize handleFrame limits sim frame = result
        at hfirst hsim hsent hcount ⊢
      obtain ⟨after, answer⟩ := result
      cases answer with
      | skipped => exact ⟨hsim, hsent, hcount⟩
      | published feedback =>
          simp [hsim, hsent, hcount, Answer.feedback]
      | raised => exact absurd rfl hfirst

/-! ## One frame -/

section Frame

variable {limits : DamiaoLimits ℚ} {sim : Sim} {motorId : ℕ}
  {payload : DamiaoPayload}

@[simp] theorem encodeControl_inj (control other : DamiaoControl) :
    encodeControl control = encodeControl other ↔ control = other := by
  cases control <;> cases other <;> decide

theorem isControl_iff : IsControl payload ↔
    payload = encodeControl .enable ∨ payload = encodeControl .disable ∨
      payload = encodeControl .zeroPosition := by
  constructor
  · rintro ⟨control, rfl⟩
    cases control <;> simp
  · rintro (rfl | rfl | rfl)
    · exact ⟨.enable, rfl⟩
    · exact ⟨.disable, rfl⟩
    · exact ⟨.zeroPosition, rfl⟩

/-- The cases of a payload, one for each branch of the bus. -/
theorem handlePayload_cases (limits : DamiaoLimits ℚ) (sim : Sim)
    (motorId : ℕ) (payload : DamiaoPayload) :
    (payload = encodeControl .enable ∧
      handlePayload limits sim motorId payload =
        sim.setEnabled motorId true) ∨
    (payload = encodeControl .disable ∧
      handlePayload limits sim motorId payload =
        sim.setEnabled motorId false) ∨
    (payload = encodeControl .zeroPosition ∧
      handlePayload limits sim motorId payload = sim.zeroPosition motorId) ∨
    (¬ IsControl payload ∧ sim.enabled motorId = true ∧
      handlePayload limits sim motorId payload =
        sim.stageMit motorId (decodeMit payload limits)) ∨
    (¬ IsControl payload ∧ sim.enabled motorId = false ∧
      handlePayload limits sim motorId payload = sim) := by
  unfold handlePayload dispatch
  rw [enablePayload_eq, disablePayload_eq, zeroPositionPayload_eq,
    isControl_iff]
  by_cases henable : payload = encodeControl .enable
  · simp [henable]
  by_cases hdisable : payload = encodeControl .disable
  · simp [hdisable]
  by_cases hzero : payload = encodeControl .zeroPosition
  · simp [hzero]
  cases henabled : sim.enabled motorId with
  | true => simp [henable, hdisable, hzero]
  | false => simp [henable, hdisable, hzero]

end Frame

/-! ## The payloads of a motor -/

theorem enabled_concat (payloads : List DamiaoPayload)
    (payload : DamiaoPayload) :
    Enabled (payloads ++ [payload]) ↔
      payload = encodeControl .enable ∨
        Enabled payloads ∧ payload ≠ encodeControl .disable := by
  constructor
  · rintro ⟨before, after, hsplit, hafter⟩
    rcases List.eq_nil_or_concat after with rfl | ⟨more, last, rfl⟩
    · exact Or.inl (List.append_inj_right' hsplit rfl |> List.cons.inj).1
    · rw [List.concat_eq_append] at hsplit hafter
      rw [← List.cons_append, ← List.append_assoc] at hsplit
      obtain ⟨hpayloads, hlast⟩ := List.append_inj' hsplit rfl
      obtain rfl : payload = last := (List.cons.inj hlast).1
      simp only [List.mem_append, List.mem_singleton, not_or] at hafter
      exact Or.inr ⟨⟨before, more, hpayloads, hafter.1⟩, Ne.symm hafter.2⟩
  · rintro (rfl | ⟨⟨before, after, rfl, hafter⟩, hdisable⟩)
    · exact ⟨payloads, [], rfl, List.not_mem_nil⟩
    · refine ⟨before, after ++ [payload], by simp, ?_⟩
      simp [hafter, Ne.symm hdisable]

/-- A payload which an enabled motor takes for a motion command. -/
structure MotionAfter (payloads earlier : List DamiaoPayload)
    (payload : DamiaoPayload) : Prop where
  arrives : earlier ++ [payload] <+: payloads
  enabled : Enabled earlier
  motion : ¬ IsControl payload

/-- The last motion command among some payloads. -/
def LastMotion (payloads : List DamiaoPayload) : Option DamiaoPayload → Prop
  | none => ∀ earlier payload, ¬ MotionAfter payloads earlier payload
  | some last => ∃ before, MotionAfter payloads before last ∧
      ∀ earlier payload, MotionAfter payloads earlier payload →
        earlier.length ≤ before.length

theorem MotionAfter.concat_cases {payloads earlier : List DamiaoPayload}
    {last payload : DamiaoPayload}
    (h : MotionAfter (payloads ++ [last]) earlier payload) :
    MotionAfter payloads earlier payload ∨
      earlier = payloads ∧ payload = last := by
  obtain ⟨after, hafter⟩ := h.arrives
  rcases List.eq_nil_or_concat after with rfl | ⟨more, other, rfl⟩
  · rw [List.append_nil] at hafter
    obtain ⟨hearlier, hlast⟩ := List.append_inj' hafter rfl
    exact Or.inr ⟨hearlier, (List.cons.inj hlast).1⟩
  · rw [List.concat_eq_append, ← List.append_assoc] at hafter
    obtain ⟨hpayloads, _⟩ := List.append_inj' hafter rfl
    exact Or.inl ⟨⟨more, hpayloads⟩, h.enabled, h.motion⟩

theorem MotionAfter.concat {payloads earlier : List DamiaoPayload}
    {payload : DamiaoPayload} (h : MotionAfter payloads earlier payload)
    (last : DamiaoPayload) :
    MotionAfter (payloads ++ [last]) earlier payload :=
  ⟨h.arrives.trans (List.prefix_append _ _), h.enabled, h.motion⟩

/-- A further payload which is no motion command. -/
theorem LastMotion.keep {payloads : List DamiaoPayload}
    {motion : Option DamiaoPayload} (h : LastMotion payloads motion)
    {last : DamiaoPayload} (hlast : Enabled payloads → IsControl last) :
    LastMotion (payloads ++ [last]) motion := by
  have hold : ∀ earlier payload,
      MotionAfter (payloads ++ [last]) earlier payload →
        MotionAfter payloads earlier payload := by
    intro earlier payload hmotion
    rcases hmotion.concat_cases with hbefore | ⟨rfl, rfl⟩
    · exact hbefore
    · exact absurd (hlast hmotion.enabled) hmotion.motion
  cases motion with
  | none =>
      exact fun earlier payload hmotion =>
        h earlier payload (hold earlier payload hmotion)
  | some first =>
      obtain ⟨before, hbefore, hgreatest⟩ := h
      exact ⟨before, hbefore.concat last, fun earlier payload hmotion =>
        hgreatest earlier payload (hold earlier payload hmotion)⟩

theorem lastMotion_concat {payloads : List DamiaoPayload}
    {last : DamiaoPayload} (henabled : Enabled payloads)
    (hlast : ¬ IsControl last) :
    LastMotion (payloads ++ [last]) (some last) := by
  refine ⟨payloads, ⟨List.prefix_rfl, henabled, hlast⟩, ?_⟩
  intro earlier payload hmotion
  have hle := hmotion.arrives.length_le
  simpa using hle

/-! ## One motor -/

def stagedCommand (limits : DamiaoLimits ℚ) :
    Option DamiaoPayload → DamiaoMitCommand ℚ
  | none => restCommand
  | some payload => decodeMit payload limits

/-- What a motor is after the payloads which it has received. -/
structure Follows (limits : DamiaoLimits ℚ) (range : MotorRange)
    (payloads : List DamiaoPayload) (enabled : Bool)
    (command : DamiaoMitCommand ℚ) (ctrl : ℚ) : Prop where
  enabled_iff : enabled = true ↔ Enabled payloads
  staged : ∃ motion, LastMotion payloads motion ∧
    command = stagedCommand limits motion
  off : enabled = false → ctrl = 0
  ctrl_mem : ctrl = 0 ∨ range.low ≤ ctrl ∧ ctrl ≤ range.high

abbrev FollowsMotor (limits : DamiaoLimits ℚ) (range : MotorRange)
    (payloads : List DamiaoPayload) (sim : Sim) (motorId : ℕ) : Prop :=
  Follows limits range payloads (sim.enabled motorId) (sim.command motorId)
    (sim.ctrl motorId)

section Motor

variable {limits : DamiaoLimits ℚ} {range : MotorRange}
  {payloads : List DamiaoPayload} {sim : Sim} {motorId : ℕ}

theorem FollowsMotor.payload
    (h : FollowsMotor limits range payloads sim motorId)
    (payload : DamiaoPayload) :
    FollowsMotor limits range (payloads ++ [payload])
      (handlePayload limits sim motorId payload) motorId := by
  obtain ⟨motion, hmotion, hcommand⟩ := h.staged
  have hcontrol : IsControl payload →
      ∃ motion, LastMotion (payloads ++ [payload]) motion ∧
        sim.command motorId = stagedCommand limits motion :=
    fun hcontrol => ⟨motion, hmotion.keep fun _ => hcontrol, hcommand⟩
  have hsame : ¬ IsControl payload →
      (sim.enabled motorId = true ↔ Enabled (payloads ++ [payload])) := by
    intro hnone
    rw [isControl_iff] at hnone
    simp only [not_or] at hnone
    simpa [enabled_concat, hnone.1, hnone.2.1] using h.enabled_iff
  rcases handlePayload_cases limits sim motorId payload with
    ⟨rfl, heq⟩ | ⟨rfl, heq⟩ | ⟨rfl, heq⟩ | ⟨hnone, henabled, heq⟩ |
      ⟨hnone, hdisabled, heq⟩
  · rw [heq]
    constructor
    · simp [Sim.setEnabled, enabled_concat]
    · exact hcontrol ⟨_, rfl⟩
    · simp [Sim.setEnabled]
    · exact h.ctrl_mem
  · rw [heq]
    constructor
    · simp [Sim.setEnabled, enabled_concat]
    · exact hcontrol ⟨_, rfl⟩
    · simp [Sim.setEnabled]
    · simp [Sim.setEnabled]
  · rw [heq]
    constructor
    · simpa [enabled_concat, Sim.zeroPosition] using h.enabled_iff
    · exact hcontrol ⟨_, rfl⟩
    · exact h.off
    · exact h.ctrl_mem
  · rw [heq]
    constructor
    · exact hsame hnone
    · exact ⟨some payload,
        lastMotion_concat (h.enabled_iff.mp henabled) hnone,
        by simp [Sim.stageMit, stagedCommand]⟩
    · exact h.off
    · exact h.ctrl_mem
  · rw [heq]
    constructor
    · exact hsame hnone
    · refine ⟨motion, hmotion.keep fun hactive => ?_, hcommand⟩
      simp [h.enabled_iff.mpr hactive] at hdisabled
    · exact h.off
    · exact h.ctrl_mem

theorem handlePayload_other (limits : DamiaoLimits ℚ) (sim : Sim)
    {motorId other : ℕ} (hother : motorId ≠ other) (payload : DamiaoPayload) :
    (handlePayload limits sim other payload).enabled motorId =
        sim.enabled motorId ∧
      (handlePayload limits sim other payload).command motorId =
        sim.command motorId ∧
      (handlePayload limits sim other payload).ctrl motorId =
        sim.ctrl motorId := by
  rcases handlePayload_cases limits sim other payload with
    ⟨_, heq⟩ | ⟨_, heq⟩ | ⟨_, heq⟩ | ⟨_, _, heq⟩ | ⟨_, _, heq⟩ <;>
    simp [heq, Sim.setEnabled, Sim.zeroPosition, Sim.stageMit, hother]

/-- A step writes its own value to every actuator. -/
theorem ctrl_step (sim : Sim) (ranges : ℕ → MotorRange) (qpos qvel : ℕ → ℚ)
    {motorId : ℕ} (hmotor : motorId ∈ motors) :
    (sim.step ranges qpos qvel).ctrl motorId =
      sim.control (ranges motorId) motorId := by
  have hloop : ∀ (ids : List ℕ) (ctrl : ℕ → ℚ),
      (ids.foldl
        (fun ctrl id =>
          Function.update ctrl id (sim.control (ranges id) id)) ctrl) motorId =
        if motorId ∈ ids then sim.control (ranges motorId) motorId
        else ctrl motorId := by
    intro ids
    induction ids with
    | nil => simp
    | cons first rest ih =>
        intro ctrl
        rw [List.foldl_cons, ih]
        by_cases hfirst : motorId = first
        · simp [hfirst]
        · simp [hfirst]
  exact (hloop motors sim.ctrl).trans (if_pos hmotor)

theorem MotorRange.clip_mem (range : MotorRange) (torque : ℚ) :
    range.low ≤ range.clip torque ∧ range.clip torque ≤ range.high :=
  ⟨le_min range.low_le_high (le_max_left _ _), min_le_left _ _⟩

theorem FollowsMotor.step {ranges : ℕ → MotorRange}
    (h : FollowsMotor limits (ranges motorId) payloads sim motorId)
    (hmotor : motorId ∈ motors) (qpos qvel : ℕ → ℚ) :
    FollowsMotor limits (ranges motorId) payloads
      (sim.step ranges qpos qvel) motorId where
  enabled_iff := h.enabled_iff
  staged := h.staged
  off := by
    intro hdisabled
    have hoff : sim.enabled motorId = false := hdisabled
    simp [ctrl_step sim ranges qpos qvel hmotor, Sim.control, hoff]
  ctrl_mem := by
    rw [ctrl_step sim ranges qpos qvel hmotor, Sim.control]
    split
    · exact Or.inr ((ranges motorId).clip_mem _)
    · exact Or.inl rfl

end Motor

/-! ## Feedback -/

/-- The value which a scale of both signs can carry. -/
def clipTo (maximum value : ℚ) : ℚ := min maximum (max (-maximum) value)

theorem clipTo_mem {maximum : ℚ} (hmaximum : 0 < maximum) (value : ℚ) :
    -maximum ≤ clipTo maximum value ∧ clipTo maximum value ≤ maximum :=
  ⟨le_min (by linarith) (le_max_left _ _), min_le_left _ _⟩

theorem encodeValue_clipTo {maximum : ℚ} (hmaximum : 0 < maximum)
    (value : ℚ) (maximumCode : ℕ) :
    encodeValue (clipTo maximum value) (-maximum) maximum maximumCode =
      encodeValue value (-maximum) maximum maximumCode := by
  have hrange : 0 < maximum - -maximum := by linarith
  have hratio :
      min 1 (max 0 ((clipTo maximum value - -maximum) /
        (maximum - -maximum))) =
        min 1 (max 0 ((value - -maximum) / (maximum - -maximum))) := by
    rcases le_total value (-maximum) with hlow | hlow
    · have hclip : clipTo maximum value = -maximum := by
        rw [clipTo, max_eq_left hlow, min_eq_right (by linarith)]
      have hneg : (value - -maximum) / (maximum - -maximum) ≤ 0 :=
        div_nonpos_of_nonpos_of_nonneg (by linarith) hrange.le
      rw [hclip, sub_self, zero_div, max_self, max_eq_left hneg]
    rcases le_total value maximum with hhigh | hhigh
    · rw [clipTo, max_eq_right hlow, min_eq_right hhigh]
    · have hclip : clipTo maximum value = maximum := by
        rw [clipTo, max_eq_right hlow, min_eq_left hhigh]
      have hone : 1 ≤ (value - -maximum) / (maximum - -maximum) := by
        rw [one_le_div hrange]
        linarith
      rw [hclip, div_self hrange.ne', max_eq_right zero_le_one, min_self,
        max_eq_right (zero_le_one.trans hone), min_eq_left hone]
  unfold encodeValue
  rw [hratio]

/-- The state of a motor, as far as a feedback can carry it. -/
def clippedState (limits : DamiaoLimits ℚ) (sim : Sim) (motorId : ℕ) :
    DamiaoFeedback ℚ where
  motorId := motorId
  errorCode := if sim.enabled motorId then 0 else 1
  position := clipTo limits.positionMax (sim.qpos motorId)
  velocity := clipTo limits.velocityMax (sim.qvel motorId)
  torque := clipTo limits.torqueMax (sim.ctrl motorId)
  mosTemperature := 25
  rotorTemperature := 25

/-- The host decodes the state of the motor. -/
theorem exists_feedback {limits : DamiaoLimits ℚ}
    (hlimits : PositiveLimits limits) (sim : Sim) {motorId : ℕ}
    (hmotor : motorId ∈ motors) :
    ∃ data received,
      publishFeedback limits sim motorId =
        some ⟨BitVec.ofNat 32 motorId, 8, data⟩ ∧
      decodeFeedback motorId data 8 limits = .ok received ∧
      (clippedState limits sim motorId).Near limits received := by
  have hsmall : motorId < 16 := by
    simp only [motors, List.mem_cons, List.not_mem_nil, or_false] at hmotor
    omega
  have hrange : (clippedState limits sim motorId).InRange limits := by
    refine ⟨hsmall, ?_, clipTo_mem hlimits.positionMax _,
      clipTo_mem hlimits.velocityMax _, clipTo_mem hlimits.torqueMax _,
      (by decide : -128 ≤ (25 : ℤ) ∧ (25 : ℤ) ≤ 127),
      (by decide : -128 ≤ (25 : ℤ) ∧ (25 : ℤ) ≤ 127)⟩
    unfold clippedState
    dsimp only
    split <;> decide
  obtain ⟨data, hencode, hnear⟩ := hlimits.decoded_encodeFeedback hrange
  refine ⟨data, hlimits.decoded data, ?_,
    hlimits.decodeFeedback_eq (by omega) data, hnear⟩
  unfold clippedState encodeFeedback at hencode
  simp only [encodeValue_clipTo hlimits.positionMax,
    encodeValue_clipTo hlimits.velocityMax,
    encodeValue_clipTo hlimits.torqueMax] at hencode
  unfold publishFeedback encodeFeedback
  exact congrArg (Option.map _) hencode

/-! ## A run -/

def SimInput.payloadFor (motorId : ℕ) : SimInput → Option DamiaoPayload
  | .frame sent =>
      if sent.motorId = motorId ∧ sent.length = 8 then some sent.data
      else none
  | .step _ _ => none

abbrev SimTransition := Transition Sim SimInput Answer

/-- The payloads which have come for a motor. -/
def payloads (motorId : ℕ) (history : List SimTransition) :
    List DamiaoPayload :=
  history.filterMap fun t => t.input.payloadFor motorId

theorem payloads_concat (motorId : ℕ) (history : List SimTransition)
    (t : SimTransition) :
    payloads motorId (history ++ [t]) =
      payloads motorId history ++ (t.input.payloadFor motorId).toList := by
  unfold payloads
  cases hpayload : t.input.payloadFor motorId <;> simp [hpayload]

section Run

variable {limits : DamiaoLimits ℚ} {ranges : ℕ → MotorRange}

/-- Every motor follows its payloads. -/
def Tracked (limits : DamiaoLimits ℚ) (ranges : ℕ → MotorRange)
    (history : List SimTransition) (sim : Sim) : Prop :=
  ∀ motorId ∈ motors,
    FollowsMotor limits (ranges motorId) (payloads motorId history) sim motorId

theorem handleFrame_accepted (hlimits : PositiveLimits limits) (sim : Sim)
    {frame : SocketFrame} (hmotor : frame.motorId ∈ motors)
    (hlength : frame.length = 8) :
    ∃ feedback, publishFeedback limits
        (handlePayload limits sim frame.motorId frame.data) frame.motorId =
          some feedback ∧
      handleFrame limits sim frame =
        (handlePayload limits sim frame.motorId frame.data,
          .published feedback) := by
  obtain ⟨data, _, hpublish, _⟩ := exists_feedback hlimits
    (handlePayload limits sim frame.motorId frame.data) hmotor
  refine ⟨_, hpublish, ?_⟩
  unfold handleFrame
  rw [if_neg (by simp [hmotor, hlength])]
  dsimp only
  rw [hpublish]

theorem handleFrame_skipped (limits : DamiaoLimits ℚ) (sim : Sim)
    {frame : SocketFrame}
    (hskipped : ¬ (frame.motorId ∈ motors ∧ frame.length = 8)) :
    handleFrame limits sim frame = (sim, .skipped) := by
  unfold handleFrame
  rw [if_pos]
  by_cases hmotor : frame.motorId ∈ motors
  · exact Or.inr fun hlength => hskipped ⟨hmotor, hlength⟩
  · exact Or.inl hmotor

theorem Tracked.frame (hlimits : PositiveLimits limits)
    {history : List SimTransition} {sim : Sim}
    (h : Tracked limits ranges history sim) (frame : SocketFrame) :
    Tracked limits ranges
      (history ++ [(machine limits ranges).fire sim (.frame frame)])
      (handleFrame limits sim frame).1 := by
  intro motorId hmotor
  have hfollows := h motorId hmotor
  rw [payloads_concat, Machine.fire_input, SimInput.payloadFor]
  by_cases haccepted : frame.motorId ∈ motors ∧ frame.length = 8
  · obtain ⟨feedback, _, hhandle⟩ :=
      handleFrame_accepted hlimits sim haccepted.1 haccepted.2
    rw [hhandle]
    by_cases hself : frame.motorId = motorId
    · rw [if_pos ⟨hself, haccepted.2⟩, hself]
      exact hfollows.payload frame.data
    · rw [if_neg fun hown => hself hown.1]
      obtain ⟨henabled, hcommand, hctrl⟩ :=
        handlePayload_other limits sim (Ne.symm hself) frame.data
      unfold FollowsMotor
      rw [henabled, hcommand, hctrl]
      simpa using hfollows
  · rw [handleFrame_skipped limits sim haccepted, if_neg]
    · simpa using hfollows
    · rintro ⟨rfl, hlength⟩
      exact haccepted ⟨hmotor, hlength⟩

end Run

end OpenArm

end PolicyRuntime
