import PolicyRuntime.ServoCommands

/-!
# Goals on a bus

Every step of a bus acts on each of its servos by steps of that servo, and the
goals it writes are the goals of these steps.  So what holds of the goals of one
servo on all of its runs holds on every run of the bus, whatever the transport
answers and the producers stage.
-/

namespace PolicyRuntime

open FloatingPoint

variable {D τ ε : Type}

/-! ## The goals of one servo -/

section Servo

variable [FloatingPoint D]

def runtimeGoals
    (history : List (Transition (ServoRuntime D) (RuntimeInput D)
      (Option ℕ))) : List ℕ :=
  history.filterMap (·.output)

omit [FloatingPoint D] in
theorem ServoRuntime.Consistent.goal_lt {runtime : ServoRuntime D}
    (hruntime : runtime.Consistent) (hsend : runtime.sendGoal = true)
    (hdispatched : runtime.goalDispatched = true) :
    runtime.goalSequence < runtime.command.sequence := by
  have hle := hruntime.goal hdispatched
  unfold ServoRuntime.sendGoal at hsend
  simp only [hdispatched, Bool.not_true, Bool.false_or, Bool.and_eq_true,
    decide_eq_true_eq] at hsend
  exact lt_of_le_of_ne hle hsend.2

/-- The goals sent so far increase up to the one on record. -/
structure GoalsRecorded
    (history : List (Transition (ServoRuntime D) (RuntimeInput D)
      (Option ℕ))) (runtime : ServoRuntime D) : Prop where
  consistent : runtime.Consistent
  increasing : (runtimeGoals history).Pairwise (· < ·)
  recorded : ∀ goal ∈ runtimeGoals history,
    runtime.goalDispatched = true ∧ goal ≤ runtime.goalSequence

omit [FloatingPoint D] in
theorem refreshStaged_goal (runtime : ServoRuntime D) (readable : Bool)
    (nowNs : ℤ) :
    (runtime.refreshStaged readable nowNs).goalDispatched =
        runtime.goalDispatched ∧
      (runtime.refreshStaged readable nowNs).goalSequence =
        runtime.goalSequence := by
  unfold ServoRuntime.refreshStaged ServoRuntime.expireCommand
    ServoRuntime.takeStaged
  split <;> split <;> exact ⟨rfl, rfl⟩

theorem GoalsRecorded.step
    {history : List (Transition (ServoRuntime D) (RuntimeInput D)
      (Option ℕ))} {runtime : ServoRuntime D}
    (hrecorded : GoalsRecorded history runtime) (input : RuntimeInput D) :
    GoalsRecorded (history ++ [runtimeMachine.fire runtime input])
      (runtimeMachine.step runtime input).1 := by
  have hconsistent := hrecorded.consistent.step input
  have hgoals : runtimeGoals
      (history ++ [runtimeMachine.fire runtime input]) =
        runtimeGoals history ++
          (runtimeMachine.step runtime input).2.toList := by
    unfold runtimeGoals
    rw [List.filterMap_append]
    cases hout : (runtimeMachine.step runtime input).2 with
    | none => simp [hout]
    | some goal => simp [hout]
  cases input with
  | stage command nowNs =>
      refine ⟨hconsistent, ?_, ?_⟩
      · rw [hgoals]
        simpa [runtimeMachine] using hrecorded.increasing
      · rw [hgoals]
        simpa [runtimeMachine, ServoRuntime.stage] using hrecorded.recorded
  | refresh readable nowNs =>
      obtain ⟨hsent, hsequence⟩ := refreshStaged_goal runtime readable nowNs
      refine ⟨hconsistent, ?_, ?_⟩
      · rw [hgoals]
        simpa [runtimeMachine] using hrecorded.increasing
      · rw [hgoals]
        simpa [runtimeMachine, hsent, hsequence] using hrecorded.recorded
  | dispatch =>
      cases hsend : runtime.sendGoal with
      | false =>
          refine ⟨hconsistent, ?_, ?_⟩
          · rw [hgoals]
            simpa [runtimeMachine, hsend] using hrecorded.increasing
          · rw [hgoals]
            simpa [runtimeMachine, hsend] using hrecorded.recorded
      | true =>
          have hbelow : ∀ goal ∈ runtimeGoals history,
              goal < runtime.command.sequence := by
            intro goal hgoal
            obtain ⟨hdispatched, hle⟩ := hrecorded.recorded goal hgoal
            exact lt_of_le_of_lt hle
              (hrecorded.consistent.goal_lt hsend hdispatched)
          refine ⟨hconsistent, ?_, ?_⟩
          · rw [hgoals]
            simp only [runtimeMachine, hsend, if_true, Option.toList_some]
            rw [List.pairwise_append]
            refine ⟨hrecorded.increasing, List.pairwise_singleton _ _, ?_⟩
            intro goal hgoal next hnext
            rw [List.mem_singleton.mp hnext]
            exact hbelow goal hgoal
          · rw [hgoals]
            intro goal hgoal
            simp only [runtimeMachine, hsend, if_true, Option.toList_some,
              List.mem_append, List.mem_singleton] at hgoal ⊢
            refine ⟨rfl, ?_⟩
            rcases hgoal with hold | rfl
            · exact (hbelow goal hold).le
            · exact le_rfl
  | record feedbackSequence lastResponseNs feedback =>
      refine ⟨hconsistent, ?_, ?_⟩
      · rw [hgoals]
        simpa [runtimeMachine] using hrecorded.increasing
      · rw [hgoals]
        simpa [runtimeMachine, ServoRuntime.publishFeedback] using
          hrecorded.recorded

theorem runtimeGoals_increasing {runtime : ServoRuntime D}
    (hruntime : runtime.Consistent) (inputs : List (RuntimeInput D)) :
    (runtimeGoals (runtimeMachine.trace runtime inputs)).Pairwise (· < ·) := by
  have hrecorded : GoalsRecorded (runtimeMachine.trace runtime inputs)
      (runtimeMachine.final runtime inputs) := by
    refine Machine.history_final GoalsRecorded ?_ ?_ inputs
    · exact ⟨hruntime, List.Pairwise.nil, by simp [runtimeGoals]⟩
    · intro history current input hgood
      exact hgood.step input
  exact hrecorded.increasing

/-! ## Servos along a run of a bus -/

/-- One state of a servo leads to another while the goals are sent. -/
def Follows (before after : ServoRuntime D) (goals : List ℕ) : Prop :=
  ∃ inputs, after = runtimeMachine.final before inputs ∧
    goals = runtimeGoals (runtimeMachine.trace before inputs)

theorem Follows.refl (runtime : ServoRuntime D) : Follows runtime runtime [] :=
  ⟨[], rfl, rfl⟩

theorem Follows.trans {first second third : ServoRuntime D}
    {earlier later : List ℕ} (hfirst : Follows first second earlier)
    (hsecond : Follows second third later) :
    Follows first third (earlier ++ later) := by
  obtain ⟨before, hbefore, hearlier⟩ := hfirst
  obtain ⟨after, hafter, hlater⟩ := hsecond
  refine ⟨before ++ after, ?_, ?_⟩
  · rw [Machine.final_append, ← hbefore, hafter]
  · rw [Machine.trace_append, ← hbefore]
    unfold runtimeGoals at hearlier hlater ⊢
    rw [List.filterMap_append, hearlier, hlater]

theorem Follows.step (runtime : ServoRuntime D) (input : RuntimeInput D) :
    Follows runtime (runtimeMachine.step runtime input).1
      (runtimeMachine.step runtime input).2.toList := by
  refine ⟨[input], rfl, ?_⟩
  unfold runtimeGoals
  simp only [Machine.trace_cons, Machine.trace_nil]
  cases hout : (runtimeMachine.step runtime input).2 with
  | none => simp [hout]
  | some goal => simp [hout]

theorem Follows.refresh (runtime : ServoRuntime D) (readable : Bool)
    (nowNs : ℤ) :
    Follows runtime (runtime.refreshStaged readable nowNs) [] :=
  Follows.step runtime (.refresh readable nowNs)

theorem Follows.stage (runtime : ServoRuntime D)
    (command : St3215ServoCommand D) (nowNs : ℤ) :
    Follows runtime (runtime.stage command nowNs) [] :=
  Follows.step runtime (.stage command nowNs)

theorem Follows.record (runtime : ServoRuntime D) (feedbackSequence : ℕ)
    (lastResponseNs : ℤ) (feedback : St3215ServoFeedback D) :
    Follows runtime
      ({ runtime with
          feedbackSequence := feedbackSequence
          lastResponseNs := lastResponseNs }.publishFeedback feedback) [] :=
  Follows.step runtime (.record feedbackSequence lastResponseNs feedback)

theorem Follows.publishFailure (port : SerialPort τ ε) (transport : τ)
    (runtime : ServoRuntime D) (flags : BitVec 32) (nowNs : ℤ) :
    Follows runtime (runtime.publishFailure port transport flags nowNs) [] :=
  Follows.record runtime (runtime.feedbackSequence + 1) runtime.lastResponseNs
    (runtime.failedFeedback port transport flags nowNs).2

end Servo

variable [DoubleArithmetic D]

theorem Follows.consumeResponse (port : SerialPort τ ε) (transport : τ)
    (runtime : ServoRuntime D) (nowNs : ℤ) :
    Follows runtime (runtime.consumeResponse port transport nowNs).2.1 [] := by
  unfold ServoRuntime.consumeResponse
  split
  · exact Follows.refl runtime
  · exact Follows.refl runtime
  · unfold ServoRuntime.responseFeedback
    split
    · exact Follows.refl runtime
    · split
      · exact Follows.refl runtime
      · exact Follows.record runtime (runtime.feedbackSequence + 1)
          runtime.lastResponseNs runtime.servo.latestFeedback

theorem Follows.acceptResponse (runtime : ServoRuntime D)
    (feedback : St3215ServoFeedback D) (nowNs : ℤ) :
    Follows runtime (runtime.acceptResponse feedback nowNs) [] :=
  Follows.record runtime runtime.feedbackSequence nowNs _

/-- The request marks the goal which it carries. -/
theorem request_cases {runtime after : ServoRuntime D} {request : Bytes}
    {goal : Option ℕ} (hrequest : runtime.request = .ok (after, request, goal)) :
    (runtime.sendGoal = true ∧ after = runtime.markGoal ∧
        goal = some runtime.command.sequence) ∨
      (runtime.sendGoal = false ∧ after = runtime ∧ goal = none) := by
  unfold ServoRuntime.request at hrequest
  cases hsend : runtime.sendGoal with
  | true =>
      rw [if_pos hsend] at hrequest
      split at hrequest
      · cases hrequest
      · cases hrequest
        exact Or.inl ⟨rfl, rfl, rfl⟩
  | false =>
      rw [if_neg (by simp [hsend])] at hrequest
      cases hrequest
      exact Or.inr ⟨rfl, rfl, rfl⟩

theorem Follows.request {runtime after : ServoRuntime D} {request : Bytes}
    {goal : Option ℕ} (hrequest : runtime.request = .ok (after, request, goal)) :
    Follows runtime after goal.toList := by
  have hstep := Follows.step runtime .dispatch
  rcases request_cases hrequest with ⟨hsend, rfl, rfl⟩ | ⟨hsend, rfl, rfl⟩
  · simpa [runtimeMachine, hsend] using hstep
  · exact Follows.refl _

def BusEvent.goalTo (index : ℕ) : BusEvent → Option ℕ
  | .write servo _ goal => if servo = index then goal else none
  | .transportCycle => none

def goalsTo (index : ℕ) (events : List BusEvent) : List ℕ :=
  events.filterMap (BusEvent.goalTo index)

/-- Every servo of a bus follows its own steps. -/
def BusFollows (before after : St3215Bus D τ) (events : List BusEvent) : Prop :=
  ∀ index, Follows (before.servos index) (after.servos index)
    (goalsTo index events)

theorem BusFollows.refl (bus : St3215Bus D τ) : BusFollows bus bus [] :=
  fun index => Follows.refl (bus.servos index)

theorem BusFollows.trans {first second third : St3215Bus D τ}
    {earlier later : List BusEvent} (hfirst : BusFollows first second earlier)
    (hsecond : BusFollows second third later) :
    BusFollows first third (earlier ++ later) := by
  intro index
  unfold goalsTo
  rw [List.filterMap_append]
  exact (hfirst index).trans (hsecond index)

theorem BusFollows.of_servos {before after after' : St3215Bus D τ}
    {events : List BusEvent} (hfollows : BusFollows before after events)
    (hservos : after'.servos = after.servos) :
    BusFollows before after' events := by
  intro index
  rw [hservos]
  exact hfollows index

theorem goalsTo_write (index servo : ℕ) (request : Bytes) (goal : Option ℕ) :
    goalsTo index [.write servo request goal] =
      if servo = index then goal.toList else [] := by
  unfold goalsTo
  by_cases hservo : servo = index
  · cases goal <;> simp [BusEvent.goalTo, hservo]
  · simp [BusEvent.goalTo, hservo]

theorem goalsTo_append_transportCycle (index : ℕ) (events : List BusEvent) :
    goalsTo index (events ++ [.transportCycle]) = goalsTo index events := by
  unfold goalsTo
  simp [BusEvent.goalTo]

theorem BusFollows.setServo {bus : St3215Bus D τ} {index : ℕ}
    {runtime : ServoRuntime D} (hfollows : Follows (bus.servos index) runtime []) :
    BusFollows bus (bus.setServo index runtime) [] := by
  intro other
  by_cases hother : other = index
  · subst hother
    rw [St3215Bus.setServo_self]
    exact hfollows
  · rw [St3215Bus.setServo_of_ne _ _ _ hother]
    exact Follows.refl _

theorem BusFollows.write {bus : St3215Bus D τ} {index : ℕ}
    {runtime : ServoRuntime D} {request : Bytes} {goal : Option ℕ}
    (hfollows : Follows (bus.servos index) runtime goal.toList) :
    BusFollows bus (bus.setServo index runtime)
      [.write index request goal] := by
  intro other
  rw [goalsTo_write]
  by_cases hother : index = other
  · subst hother
    rw [St3215Bus.setServo_self, if_pos rfl]
    exact hfollows
  · rw [St3215Bus.setServo_of_ne _ _ _ (Ne.symm hother), if_neg hother]
    exact Follows.refl _

theorem BusFollows.transportCycle {before after : St3215Bus D τ}
    {events : List BusEvent} (hfollows : BusFollows before after events) :
    BusFollows before after (events ++ [.transportCycle]) := by
  intro index
  rw [goalsTo_append_transportCycle]
  exact hfollows index

theorem BusFollows.latchFault (port : SerialPort τ ε) (bus : St3215Bus D τ)
    (index : ℕ) (flags : BitVec 32) (nowNs : ℤ) :
    BusFollows bus (bus.latchFault port index flags nowNs) [] :=
  (BusFollows.setServo
    (Follows.publishFailure port bus.transport (bus.servos index) flags
      nowNs)).of_servos rfl

theorem BusFollows.stage (bus : St3215Bus D τ) (input : StageInput D) :
    BusFollows bus (bus.stage input) [] := by
  unfold St3215Bus.stage
  split
  · exact BusFollows.setServo
      (Follows.stage (bus.servos input.servo) input.command input.nowNs)
  · exact BusFollows.refl bus

theorem BusFollows.stages (bus : St3215Bus D τ) (inputs : List (StageInput D)) :
    BusFollows bus (inputs.foldl St3215Bus.stage bus) [] := by
  induction inputs generalizing bus with
  | nil => exact BusFollows.refl bus
  | cons input rest ih => exact (BusFollows.stage bus input).trans (ih _)

theorem BusFollows.settleResponse (port : SerialPort τ ε)
    (bus : St3215Bus D τ) (index : ℕ)
    (response : CallResult (St3215ServoFeedback D)) (nowNs : ℤ) :
    BusFollows bus (bus.settleResponse port index response nowNs).1 [] := by
  cases response with
  | value feedback =>
      exact BusFollows.setServo
        (Follows.acceptResponse (bus.servos index) feedback nowNs)
  | exception => exact BusFollows.refl bus
  | failure error =>
      unfold St3215Bus.settleResponse
      simp only
      split
      · exact BusFollows.latchFault port bus index _ nowNs
      · split
        · exact BusFollows.latchFault port bus index _ nowNs
        · exact BusFollows.refl bus

theorem BusFollows.pollResponse (port : SerialPort τ ε) (bus : St3215Bus D τ)
    (index : ℕ) (readable : Bool) (nowNs : ℤ) :
    BusFollows bus (bus.pollResponse port index readable nowNs).1 [] := by
  have hread := (Follows.refresh (bus.servos index) readable nowNs).trans
    (Follows.consumeResponse port bus.transport
      ((bus.servos index).refreshStaged readable nowNs) nowNs)
  have hset : BusFollows bus
      ((bus.setServo index (((bus.servos index).refreshStaged readable
        nowNs).consumeResponse port bus.transport nowNs).2.1).setTransport
          (((bus.servos index).refreshStaged readable nowNs).consumeResponse
            port bus.transport nowNs).1) [] :=
    (BusFollows.setServo hread).of_servos rfl
  exact hset.trans (BusFollows.settleResponse port _ index _ nowNs)

theorem BusFollows.dispatchRequest (port : SerialPort τ ε)
    (bus : St3215Bus D τ) (index : ℕ) (nowNs : ℤ) (environment : ε) :
    BusFollows bus (bus.dispatchRequest port index nowNs environment).1
      (bus.dispatchRequest port index nowNs environment).2.1 := by
  unfold St3215Bus.dispatchRequest
  cases hrequest : (bus.servos index).request with
  | error error => exact BusFollows.latchFault port bus index _ nowNs
  | ok result =>
      obtain ⟨runtime, request, goal⟩ := result
      have hmarked : BusFollows bus (bus.setServo index runtime)
          [.write index request goal] :=
        BusFollows.write (Follows.request hrequest)
      simp only
      split
      · exact hmarked.of_servos rfl
      · exact (hmarked.of_servos rfl).trans
          (BusFollows.latchFault port _ index _ nowNs)
      · exact (hmarked.of_servos rfl).transportCycle

theorem BusFollows.dispatchPhase (port : SerialPort τ ε)
    (bus : St3215Bus D τ) (input : BusCycle D ε) :
    BusFollows bus (bus.dispatchPhase port input).1
      (bus.dispatchPhase port input).2 := by
  unfold St3215Bus.dispatchPhase
  simp only
  generalize (if bus.dispatched then (bus.pendingIndex + 1) % bus.servoCount
    else 0) = cursor
  have hrefreshed : BusFollows bus
      ({ bus with cursor := cursor }.setServo cursor
        ((bus.servos cursor).refreshStaged input.dispatchReadable
          input.nowNs)) [] :=
    BusFollows.of_servos (BusFollows.setServo
      (Follows.refresh (bus.servos cursor) input.dispatchReadable
        input.nowNs)) rfl
  have hsent := hrefreshed.trans (BusFollows.dispatchRequest port _ cursor
    input.nowNs input.environment)
  split
  · rw [← List.append_nil (Prod.fst _)]
    exact hsent.trans (BusFollows.latchFault port _ _ _ input.nowNs)
  · exact hsent.of_servos rfl

theorem BusFollows.cycle (port : SerialPort τ ε) (bus : St3215Bus D τ)
    (input : BusCycle D ε) :
    BusFollows bus (bus.cycle port input).1 (bus.cycle port input).2 := by
  unfold St3215Bus.cycle
  split
  · exact BusFollows.stages bus input.staged
  simp only
  have hcounted : BusFollows bus
      { bus with cycleSequence := bus.cycleSequence + 1 } [] :=
    (BusFollows.refl bus).of_servos rfl
  split
  · exact (hcounted.trans (BusFollows.latchFault port _ bus.cursor _
      input.nowNs)).trans (BusFollows.stages _ input.staged)
  have hpolled : BusFollows bus
      ({ bus with cycleSequence := bus.cycleSequence + 1 }.pollPhase port
        input).1 [] := by
    refine hcounted.trans ?_
    unfold St3215Bus.pollPhase
    split
    · exact BusFollows.pollResponse port _ _ input.pollReadable input.nowNs
    · exact BusFollows.refl _
  have hstaged := hpolled.trans (BusFollows.stages _ input.staged)
  split
  · exact hstaged.trans (BusFollows.latchFault port _ _ _ input.nowNs)
  split
  · exact hstaged
  · exact hstaged.trans (BusFollows.dispatchPhase port _ input)

theorem BusFollows.step (port : SerialPort τ ε) (bus : St3215Bus D τ)
    (input : BusInput D ε) :
    BusFollows bus ((busMachine port).step bus input).1
      ((busMachine port).step bus input).2 := by
  cases input with
  | stage input => exact BusFollows.stage bus input
  | start nowNs permitted =>
      refine (BusFollows.refl bus).of_servos ?_
      show (bus.start port nowNs permitted).servos = bus.servos
      unfold St3215Bus.start
      split
      · rfl
      · simp only
        split <;> rfl
  | stop =>
      refine (BusFollows.refl bus).of_servos ?_
      show (bus.stop port).servos = bus.servos
      unfold St3215Bus.stop
      split <;> rfl
  | cycle input => exact BusFollows.cycle port bus input

def busEvents
    (history : List (Transition (St3215Bus D τ) (BusInput D ε)
      (List BusEvent))) : List BusEvent :=
  history.flatMap (·.output)

theorem BusFollows.run (port : SerialPort τ ε) (bus : St3215Bus D τ)
    (inputs : List (BusInput D ε)) :
    BusFollows bus ((busMachine port).final bus inputs)
      (busEvents ((busMachine port).trace bus inputs)) := by
  induction inputs generalizing bus with
  | nil => exact BusFollows.refl bus
  | cons input rest ih =>
      exact (BusFollows.step port bus input).trans (ih _)

theorem goalsTo_increasing (port : SerialPort τ ε) (transport : τ)
    (configs : List St3215ServoConfig) (inputs : List (BusInput D ε))
    (index : ℕ) :
    (goalsTo index (busEvents ((busMachine port).trace
      (St3215Bus.create transport configs : St3215Bus D τ) inputs))).Pairwise
        (· < ·) := by
  obtain ⟨steps, _, hgoals⟩ :=
    BusFollows.run port (St3215Bus.create transport configs) inputs index
  rw [hgoals]
  exact runtimeGoals_increasing (ServoRuntime.consistent_create _) steps

/-! ## The command behind a goal -/

/-- The current command of a servo is one whose goal may be sent. -/
structure GoalAllowed (runtime : ServoRuntime D) (nowNs : ℤ) (goal : ℕ) :
    Prop where
  hasCommand : runtime.hasCommand = true
  enabled : runtime.command.enabled = true
  notEmergencyStop : runtime.command.emergencyStop = false
  sequence : runtime.command.sequence = goal
  inWindow : 0 < runtime.servo.config.commandTimeout →
    ServoRuntime.InWindow runtime.servo.config runtime.command nowNs

omit [DoubleArithmetic D] in
theorem refreshStaged_inWindow {runtime : ServoRuntime D} {readable : Bool}
    {nowNs : ℤ}
    (hhas : (runtime.refreshStaged readable nowNs).hasCommand = true)
    (htimeout : 0 <
      (runtime.refreshStaged readable nowNs).servo.config.commandTimeout) :
    ServoRuntime.InWindow (runtime.refreshStaged readable nowNs).servo.config
      (runtime.refreshStaged readable nowNs).command nowNs := by
  unfold ServoRuntime.refreshStaged ServoRuntime.expireCommand
    at hhas htimeout ⊢
  generalize runtime.takeStaged readable = taken at hhas htimeout ⊢
  split at hhas
  · cases hhas
  · rename_i hinside
    rw [if_neg hinside] at htimeout ⊢
    simp only [hhas, htimeout, Bool.true_and, Bool.or_eq_true, decide_eq_true_eq,
      decide_true, not_or, not_lt] at hinside
    exact ⟨hinside.1, by omega⟩

omit [DoubleArithmetic D] in
theorem GoalAllowed.publishFailure {runtime : ServoRuntime D} {nowNs : ℤ}
    {goal : ℕ} (hallowed : GoalAllowed runtime nowNs goal)
    (port : SerialPort τ ε) (transport : τ) (flags : BitVec 32) (atNs : ℤ) :
    GoalAllowed (runtime.publishFailure port transport flags atNs) nowNs goal :=
  ⟨hallowed.hasCommand, hallowed.enabled, hallowed.notEmergencyStop,
    hallowed.sequence, hallowed.inWindow⟩

omit [DoubleArithmetic D] in
theorem GoalAllowed.latchFault {bus : St3215Bus D τ} {index : ℕ} {nowNs : ℤ}
    {goal : ℕ} (hallowed : GoalAllowed (bus.servos index) nowNs goal)
    (port : SerialPort τ ε) (other : ℕ) (flags : BitVec 32) (atNs : ℤ) :
    GoalAllowed ((bus.latchFault port other flags atNs).servos index)
      nowNs goal := by
  by_cases hother : index = other
  · subst hother
    unfold St3215Bus.latchFault
    simp only [Function.update_self]
    exact hallowed.publishFailure port bus.transport flags atNs
  · unfold St3215Bus.latchFault
    simp only [Function.update_of_ne hother]
    exact hallowed

theorem GoalAllowed.of_request {runtime after : ServoRuntime D}
    {request : Bytes} {goal : ℕ} {nowNs : ℤ}
    (hrequest : runtime.request = .ok (after, request, some goal))
    (hwindow : runtime.hasCommand = true →
      0 < runtime.servo.config.commandTimeout →
      ServoRuntime.InWindow runtime.servo.config runtime.command nowNs) :
    GoalAllowed after nowNs goal := by
  rcases request_cases hrequest with ⟨hsend, rfl, hgoal⟩ | ⟨_, _, hgoal⟩
  · simp only [ServoRuntime.sendGoal, ServoRuntime.commandActive,
      Bool.and_eq_true, Bool.not_eq_true'] at hsend
    obtain ⟨⟨⟨hhas, henabled⟩, hstop⟩, _⟩ := hsend
    refine ⟨hhas, henabled, hstop, ?_, hwindow hhas⟩
    exact (Option.some.inj hgoal).symm
  · cases hgoal

theorem dispatchRequest_goal {port : SerialPort τ ε} {bus : St3215Bus D τ}
    {index servo : ℕ} {nowNs : ℤ} {environment : ε} {request : Bytes}
    {goal : ℕ}
    (hwindow : (bus.servos index).hasCommand = true →
      0 < (bus.servos index).servo.config.commandTimeout →
      ServoRuntime.InWindow (bus.servos index).servo.config
        (bus.servos index).command nowNs)
    (hevent : BusEvent.write servo request (some goal) ∈
      (bus.dispatchRequest port index nowNs environment).2.1) :
    GoalAllowed
      ((bus.dispatchRequest port index nowNs environment).1.servos servo)
      nowNs goal := by
  unfold St3215Bus.dispatchRequest at hevent ⊢
  cases hrequest : (bus.servos index).request with
  | error error => simp [hrequest] at hevent
  | ok result =>
      obtain ⟨after, sent, sentGoal⟩ := result
      simp only [hrequest] at hevent ⊢
      have hsame : servo = index ∧ sentGoal = some goal := by
        split at hevent <;> simp_all
      obtain ⟨rfl, rfl⟩ := hsame
      have hallowed := GoalAllowed.of_request hrequest hwindow
      split
      · simpa [St3215Bus.setTransport] using hallowed
      · refine GoalAllowed.latchFault ?_ port servo _ nowNs
        simpa [St3215Bus.setTransport] using hallowed
      · simpa [St3215Bus.setTransport] using hallowed

theorem dispatchPhase_goal {port : SerialPort τ ε} {bus : St3215Bus D τ}
    {input : BusCycle D ε} {servo : ℕ} {request : Bytes} {goal : ℕ}
    (hevent : BusEvent.write servo request (some goal) ∈
      (bus.dispatchPhase port input).2) :
    GoalAllowed ((bus.dispatchPhase port input).1.servos servo) input.nowNs
      goal := by
  unfold St3215Bus.dispatchPhase at hevent ⊢
  simp only at hevent ⊢
  generalize (if bus.dispatched then (bus.pendingIndex + 1) % bus.servoCount
    else 0) = cursor at hevent ⊢
  split at hevent
  · rename_i hthrew
    rw [if_pos hthrew]
    refine GoalAllowed.latchFault ?_ port _ _ input.nowNs
    refine dispatchRequest_goal ?_ hevent
    rw [St3215Bus.setServo_self]
    exact refreshStaged_inWindow
  · rename_i hreturned
    rw [if_neg hreturned]
    refine dispatchRequest_goal ?_ hevent
    rw [St3215Bus.setServo_self]
    exact refreshStaged_inWindow

theorem cycle_goal {port : SerialPort τ ε} {bus : St3215Bus D τ}
    {input : BusCycle D ε} {servo : ℕ} {request : Bytes} {goal : ℕ}
    (hevent : BusEvent.write servo request (some goal) ∈
      (bus.cycle port input).2) :
    GoalAllowed ((bus.cycle port input).1.servos servo) input.nowNs goal := by
  unfold St3215Bus.cycle at hevent ⊢
  split at hevent
  · cases hevent
  rename_i hready
  rw [if_neg hready]
  simp only at hevent ⊢
  split at hevent
  · cases hevent
  rename_i hunlatched
  rw [if_neg hunlatched]
  split at hevent
  · cases hevent
  rename_i hreturned
  rw [if_neg hreturned]
  split at hevent
  · cases hevent
  rename_i hpolled
  rw [if_neg hpolled]
  exact dispatchPhase_goal hevent

/-! ## The latch -/

theorem stage_faultLatched (bus : St3215Bus D τ) (input : StageInput D) :
    (bus.stage input).faultLatched = bus.faultLatched := by
  unfold St3215Bus.stage
  split <;> rfl

theorem stages_faultLatched (bus : St3215Bus D τ)
    (inputs : List (StageInput D)) :
    (inputs.foldl St3215Bus.stage bus).faultLatched = bus.faultLatched := by
  induction inputs generalizing bus with
  | nil => rfl
  | cons input rest ih => rw [List.foldl_cons, ih, stage_faultLatched]

/-- A latched bus stays latched and calls its transport no more. -/
theorem latched_step {port : SerialPort τ ε} {bus : St3215Bus D τ}
    (hlatched : bus.faultLatched = true) (input : BusInput D ε) :
    ((busMachine port).step bus input).1.faultLatched = true ∧
      ((busMachine port).step bus input).2 = [] := by
  cases input with
  | stage input =>
      refine ⟨?_, rfl⟩
      show (bus.stage input).faultLatched = true
      rw [stage_faultLatched, hlatched]
  | start nowNs permitted =>
      refine ⟨?_, rfl⟩
      show (bus.start port nowNs permitted).faultLatched = true
      unfold St3215Bus.start
      split
      · exact hlatched
      · simp only
        split <;> exact hlatched
  | stop =>
      refine ⟨?_, rfl⟩
      show (bus.stop port).faultLatched = true
      unfold St3215Bus.stop
      split <;> exact hlatched
  | cycle input =>
      show (bus.cycle port input).1.faultLatched = true ∧
        (bus.cycle port input).2 = []
      unfold St3215Bus.cycle
      split
      · refine ⟨?_, rfl⟩
        rw [stages_faultLatched, hlatched]
      · simp only [hlatched, and_true]
        rw [stages_faultLatched]
        rfl

omit [DoubleArithmetic D] in
theorem health_of_latched {bus : St3215Bus D τ}
    (hlatched : bus.faultLatched = true) : bus.health = .failed := by
  unfold St3215Bus.health
  rw [if_pos hlatched]

theorem latched_trace {port : SerialPort τ ε} {bus : St3215Bus D τ}
    (hlatched : bus.faultLatched = true) (inputs : List (BusInput D ε)) :
    ∀ t ∈ (busMachine port).trace bus inputs,
      t.output = [] ∧ t.after.health = .failed := by
  induction inputs generalizing bus with
  | nil =>
      intro t ht
      cases ht
  | cons input rest ih =>
      obtain ⟨hstill, hsilent⟩ := latched_step hlatched input
      intro t ht
      rcases List.mem_cons.mp ht with rfl | hrest
      · exact ⟨hsilent, health_of_latched hstill⟩
      · exact ih hstill t hrest

/-- On every run of a bus, whatever its transport answers: after the latch no
transport call is made and the bus stays failed; the goals of a servo carry
increasing sequences, so none is sent twice; and the current command at a goal
is enabled, no emergency stop and inside its window. -/
theorem goal_discipline (port : SerialPort τ ε) (transport : τ)
    (configs : List St3215ServoConfig) (inputs : List (BusInput D ε)) :
    (∀ before after, inputs = before ++ after →
      ((busMachine port).final (St3215Bus.create transport configs :
        St3215Bus D τ) before).faultLatched = true →
      ((busMachine port).final (St3215Bus.create transport configs :
        St3215Bus D τ) before).health = .failed ∧
      ∀ t ∈ (busMachine port).trace ((busMachine port).final
          (St3215Bus.create transport configs : St3215Bus D τ) before) after,
        t.output = [] ∧ t.after.health = .failed) ∧
    (∀ index, (goalsTo index (busEvents ((busMachine port).trace
        (St3215Bus.create transport configs : St3215Bus D τ)
          inputs))).Pairwise (· < ·)) ∧
    (∀ index sequence, (goalsTo index (busEvents ((busMachine port).trace
        (St3215Bus.create transport configs : St3215Bus D τ)
          inputs))).count sequence ≤ 1) ∧
    ∀ t ∈ (busMachine port).trace
        (St3215Bus.create transport configs : St3215Bus D τ) inputs,
      ∀ index request goal,
        BusEvent.write index request (some goal) ∈ t.output →
        ∃ input, t.input = .cycle input ∧
          GoalAllowed (t.after.servos index) input.nowNs goal := by
  refine ⟨?_, ?_, ?_, ?_⟩
  · intro before after _ hlatched
    exact ⟨health_of_latched hlatched, latched_trace hlatched after⟩
  · exact goalsTo_increasing port transport configs inputs
  · intro index sequence
    have hincreasing := goalsTo_increasing (D := D) port transport configs
      inputs index
    exact List.nodup_iff_count_le_one.mp (hincreasing.imp ne_of_lt) sequence
  · intro t ht index request goal hevent
    obtain ⟨before, input, _, hfire⟩ := Machine.exists_fire_of_mem_trace ht
    subst hfire
    cases input with
    | stage input => cases hevent
    | start nowNs permitted => cases hevent
    | stop => cases hevent
    | cycle input => exact ⟨input, rfl, cycle_goal hevent⟩

end PolicyRuntime
