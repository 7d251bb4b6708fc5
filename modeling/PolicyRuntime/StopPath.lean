import PolicyRuntime.SupervisorRuns
import PolicyRuntime.Sequences

/-!
# The stop path of an axis over whole runs

Every call is one step of the stop machine of an axis, or leaves its latch
alone.  Along a run this orders the outputs of a stop, ties the next enable to
a newer command, and relates the standstill counter to the velocities which
were really observed.
-/

namespace PolicyRuntime

open SafetySupervisor

variable {D : Type}

/-- The request an evaluation puts out for an axis. -/
def SupervisorStep.request? (axis : Axis) (step : SupervisorStep D) :
    Option AxisRequest :=
  match step.output with
  | .evaluation result => some (result.requests axis)
  | _ => none

/-- The velocity an evaluation observes on an axis. -/
def SupervisorStep.velocity? (axis : Axis) (step : SupervisorStep D) :
    Option ℤ :=
  match step.input with
  | .evaluate _ view _ => some (view axis).actualVelocity
  | _ => none

def SupervisorStep.accepted? (step : SupervisorStep D) :
    Option (Snapshot (AxisCommand D)) :=
  match step.input, step.output with
  | .acceptCommands snapshot _, .acceptance .accepted => some snapshot
  | _, _ => none

def axisOutputs (axis : Axis) (steps : List (SupervisorStep D)) :
    List AxisRequest :=
  steps.filterMap (SupervisorStep.request? axis)

def axisVelocities (axis : Axis) (steps : List (SupervisorStep D)) : List ℤ :=
  steps.filterMap (SupervisorStep.velocity? axis)

def phaseBefore (axis : Axis) (step : SupervisorStep D) : StopPhase :=
  (step.before.states axis).phase

def phaseAfter (axis : Axis) (step : SupervisorStep D) : StopPhase :=
  (step.after.states axis).phase

/-- The axis leaves the running phase in this step. -/
def SupervisorStep.Leaves (axis : Axis) (step : SupervisorStep D) : Prop :=
  phaseBefore axis step = .running ∧ phaseAfter axis step ≠ .running

instance (axis : Axis) (step : SupervisorStep D) :
    Decidable (step.Leaves axis) :=
  inferInstanceAs (Decidable (_ ∧ _))

theorem axisOutputs_append
    (axis : Axis) (left right : List (SupervisorStep D)) :
    axisOutputs axis (left ++ right) =
      axisOutputs axis left ++ axisOutputs axis right :=
  List.filterMap_append

theorem axisVelocities_append
    (axis : Axis) (left right : List (SupervisorStep D)) :
    axisVelocities axis (left ++ right) =
      axisVelocities axis left ++ axisVelocities axis right :=
  List.filterMap_append

theorem axisOutputs_singleton (axis : Axis) (step : SupervisorStep D) :
    axisOutputs axis [step] = (step.request? axis).toList := by
  cases hrequest : step.request? axis <;> simp [axisOutputs, hrequest]

theorem axisVelocities_singleton (axis : Axis) (step : SupervisorStep D) :
    axisVelocities axis [step] = (step.velocity? axis).toList := by
  cases hvelocity : step.velocity? axis <;> simp [axisVelocities, hvelocity]

variable [FloatingPoint D]

/-- An evaluation finds a stop cause for the axis. -/
def SupervisorStep.Triggers (axis : Axis) (step : SupervisorStep D) : Prop :=
  ∃ bus view nowNs, step.input = .evaluate bus view nowNs ∧
    (step.before.groupMarks bus (step.before.span view) nowNs).triggers axis =
      true

/-! ## Calls seen from the stop latch -/

/-- What a call does to the stop latch of one axis. -/
inductive LatchStep (axis : Axis) (step : SupervisorStep D) : Prop
  | evaluation (bus : SafetyBusState) (view : Axis → Cia402PdoView)
      (nowNs : ℤ) (request : AxisRequest)
      (hinput : step.input = .evaluate bus view nowNs)
      (hrequest : step.request? axis = some request)
      (hcommands : step.before.SameCommands step.after)
      (hstep : StopStep step.before.options
        (step.before.axisInputs bus (step.before.span view) nowNs axis)
        (step.before.states axis).stopLatch
        (step.after.states axis).stopLatch request)
  | silent
      (hrequest : step.request? axis = none)
      (hvelocity : step.velocity? axis = none)
      (hlatch : (step.after.states axis).stopLatch =
        (step.before.states axis).stopLatch)

theorem fire_latchStep
    {state : SafetySupervisor D} (hconfigured : state.configured = true)
    {axis : Axis} (haxis : axis.val < state.axisCount)
    (call : SupervisorCall D) :
    LatchStep axis (supervisorMachine.fire state call) := by
  cases call with
  | acceptCommands snapshot nowNs =>
      apply LatchStep.silent rfl rfl
      have hprogress := acceptCommands_sameProgress state snapshot nowNs
      simp only [Machine.fire_after, Machine.fire_before, supervisorMachine]
      rw [hprogress.states]
  | requestShutdown nowNs => exact LatchStep.silent rfl rfl rfl
  | evaluate bus view nowNs =>
      exact LatchStep.evaluation bus view nowNs _ rfl rfl
        (state.evaluate_sameCommands bus (state.span view) nowNs)
        (evaluate_stopStep hconfigured rfl bus nowNs haxis)

/-! ## Outputs between leaving and running again -/

theorem StopStep.of_leaves
    {options : SafetyOptions} {inputs : AxisInputs}
    {latch next : StopLatch} {request : AxisRequest}
    (hstep : StopStep options inputs latch next request)
    (hbefore : latch.phase = .running) (hafter : next.phase ≠ .running) :
    inputs.trigger = true ∧ request = .quickStop ∧
      next = ⟨.quickStop, inputs.nowNs, 0, inputs.lastCommandSequence⟩ := by
  cases hstep with
  | enter htrigger _ hnext hrequest => exact ⟨htrigger, hrequest, hnext⟩
  | reset _ _ _ hnext _ =>
      rw [hnext] at hafter
      contradiction
  | brake hphase _ _ _ _ =>
      rw [hbefore] at hphase
      contradiction
  | standstill hphase _ _ _ =>
      rw [hbefore] at hphase
      contradiction
  | hold hphase _ _ =>
      rw [hbefore] at hphase
      contradiction
  | rearm _ hphase _ _ _ _ _ =>
      rw [hbefore] at hphase
      contradiction
  | pass _ _ hnext _ =>
      rw [hnext] at hafter
      contradiction

/-- The steps of a stopped axis: quick stop falls to disabled with a disable
output, and only a newer enable command leaves disabled. -/
theorem StopStep.of_stopped
    {options : SafetyOptions} {inputs : AxisInputs}
    {latch next : StopLatch} {request : AxisRequest}
    (hstep : StopStep options inputs latch next request)
    (hbefore : latch.phase ≠ .running) :
    next.sequence = latch.sequence ∧
      (request = .enable ∧ latch.phase = .disabled ∧
          latch.sequence < inputs.lastCommandSequence ∨
        (request = .quickStop ∨ request = .faultReset) ∧
          latch.phase = .quickStop ∧ next.phase = .quickStop ∨
        (request = .disable ∨ request = .faultReset) ∧
          latch.phase = .disabled ∧ next.phase = .disabled ∨
        request = .disable ∧
          latch.phase = .quickStop ∧ next.phase = .disabled) := by
  cases hstep with
  | enter _ hphase _ _ => contradiction
  | reset _ _ _ hnext hrequest =>
      subst hnext hrequest
      cases hphase : next.phase with
      | running => contradiction
      | quickStop => simp
      | disabled => simp
  | brake hphase _ _ hnext hrequest =>
      subst hnext hrequest
      simp [hphase]
  | standstill hphase _ hnext hrequest =>
      subst hnext hrequest
      simp [hphase]
  | hold hphase hnext hrequest =>
      subst hnext hrequest
      simp [hphase]
  | rearm _ hphase _ hnewer _ hnext hrequest =>
      subst hnext hrequest
      simp [hphase, hnewer]
  | pass _ hphase _ _ => contradiction

/-- The steps of a braking axis. -/
theorem StopStep.of_quickStop
    {options : SafetyOptions} {inputs : AxisInputs}
    {latch next : StopLatch} {request : AxisRequest}
    (hstep : StopStep options inputs latch next request)
    (hbefore : latch.phase = .quickStop) :
    (inputs.trigger = false ∧ inputs.drive = .fault ∧
        inputs.requested = .faultReset ∧ next = latch ∧
        request = .faultReset) ∨
      (latch.countedCycles options inputs <
          options.zeroVelocityConfirmationCycles ∧
        ¬ latch.TimedOut options inputs.nowNs ∧
        next = { latch with
          zeroCycles := latch.countedCycles options inputs } ∧
        request = .quickStop) ∨
      ((options.zeroVelocityConfirmationCycles ≤
            latch.countedCycles options inputs ∨
          latch.TimedOut options inputs.nowNs) ∧
        next = { latch with
          phase := .disabled
          zeroCycles := latch.countedCycles options inputs } ∧
        request = .disable) := by
  cases hstep with
  | enter _ hphase _ _ =>
      rw [hbefore] at hphase
      contradiction
  | reset htrigger hdrive hrequested hnext hrequest =>
      exact .inl ⟨htrigger, hdrive, hrequested, hnext, hrequest⟩
  | brake _ hcycles htime hnext hrequest =>
      exact .inr (.inl ⟨hcycles, htime, hnext, hrequest⟩)
  | standstill _ hconfirmed hnext hrequest =>
      exact .inr (.inr ⟨hconfirmed, hnext, hrequest⟩)
  | hold hphase _ _ =>
      rw [hbefore] at hphase
      contradiction
  | rearm _ hphase _ _ _ _ _ =>
      rw [hbefore] at hphase
      contradiction
  | pass _ hphase _ _ =>
      rw [hbefore] at hphase
      contradiction

/-- The state of a stop which has not yet seen an enable output. -/
structure StoppedSince (axis : Axis) (sequence : ℕ)
    (steps : List (SupervisorStep D)) (state : SafetySupervisor D) :
    Prop where
  stopped : (state.states axis).stopLatch.sequence = sequence
  outputs : ∀ request ∈ axisOutputs axis steps,
    request = .quickStop ∨ request = .faultReset ∨ request = .disable
  order : (axisOutputs axis steps).Pairwise fun earlier later =>
    earlier = .disable → later ≠ .quickStop
  phase : (state.states axis).stopLatch.phase = .quickStop ∧
      .disable ∉ axisOutputs axis steps ∨
    (state.states axis).stopLatch.phase = .disabled ∧
      .disable ∈ axisOutputs axis steps

omit [FloatingPoint D] in
theorem StoppedSince.not_running
    {axis : Axis} {sequence : ℕ} {steps : List (SupervisorStep D)}
    {state : SafetySupervisor D}
    (hstop : StoppedSince axis sequence steps state) :
    (state.states axis).stopLatch.phase ≠ .running := by
  intro hrunning
  rcases hstop.phase with ⟨hphase, _⟩ | ⟨hphase, _⟩ <;>
    rw [hrunning] at hphase <;> contradiction

theorem StoppedSince.append
    {axis : Axis} {sequence : ℕ} {steps : List (SupervisorStep D)}
    {step : SupervisorStep D}
    (hstop : StoppedSince axis sequence steps step.before)
    (hlatch : LatchStep axis step)
    (hnone : .enable ∉ axisOutputs axis [step]) :
    StoppedSince axis sequence (steps ++ [step]) step.after := by
  cases hlatch with
  | silent hrequest _ hsame =>
      have hsilent : axisOutputs axis (steps ++ [step]) =
          axisOutputs axis steps := by
        rw [axisOutputs_append, axisOutputs_singleton, hrequest]
        simp
      constructor
      · rw [hsame]
        exact hstop.stopped
      · rw [hsilent]
        exact hstop.outputs
      · rw [hsilent]
        exact hstop.order
      · rw [hsilent, hsame]
        exact hstop.phase
  | evaluation bus view nowNs request _ hrequest _ hstep =>
      have houtput : axisOutputs axis (steps ++ [step]) =
          axisOutputs axis steps ++ [request] := by
        rw [axisOutputs_append, axisOutputs_singleton, hrequest]
        simp
      have hnot : request ≠ .enable := by
        rw [axisOutputs_singleton, hrequest] at hnone
        intro henable
        simp [henable] at hnone
      obtain ⟨hsequence, hmove⟩ := hstep.of_stopped hstop.not_running
      constructor
      · rw [hsequence]
        exact hstop.stopped
      · rw [houtput]
        intro other hother
        rcases List.mem_append.mp hother with hold | hnew
        · exact hstop.outputs other hold
        · rw [List.mem_singleton] at hnew
          subst hnew
          cases other with
          | enable => contradiction
          | disable => simp
          | quickStop => simp
          | faultReset => simp
      · rw [houtput, List.pairwise_append]
        refine ⟨hstop.order, List.pairwise_singleton _ _, ?_⟩
        intro earlier hearlier later hlater hdisable
        rw [List.mem_singleton] at hlater
        subst hlater hdisable
        intro hquick
        rcases hstop.phase with ⟨_, hno⟩ | ⟨hphase, _⟩
        · contradiction
        · rw [hphase, hquick] at hmove
          simp at hmove
      · rw [houtput, List.mem_append, List.mem_singleton]
        rcases hmove with ⟨henable, _⟩ | ⟨houts, hquick, hnext⟩ |
          ⟨_, hdisabled, hnext⟩ | ⟨hdisable, _, hnext⟩
        · contradiction
        · left
          refine ⟨hnext, ?_⟩
          rcases hstop.phase with ⟨_, hno⟩ | ⟨hphase, _⟩
          · rintro (hmem | heq)
            · contradiction
            · subst heq
              simp at houts
          · rw [hquick] at hphase
            contradiction
        · right
          refine ⟨hnext, .inl ?_⟩
          rcases hstop.phase with ⟨hphase, _⟩ | ⟨_, hmem⟩
          · rw [hdisabled] at hphase
            contradiction
          · exact hmem
        · right
          exact ⟨hnext, .inr hdisable.symm⟩

theorem StoppedSince.of_leaves
    {axis : Axis} {leave : SupervisorStep D}
    (hlatch : LatchStep axis leave) (hleave : leave.Leaves axis) :
    leave.request? axis = some .quickStop ∧
      leave.after.lastCommandSequence = leave.before.lastCommandSequence ∧
      StoppedSince axis leave.before.lastCommandSequence [] leave.after := by
  cases hlatch with
  | silent _ _ hsame =>
      have hphase : phaseAfter axis leave = phaseBefore axis leave :=
        congrArg StopLatch.phase hsame
      rw [SupervisorStep.Leaves, hphase] at hleave
      exact absurd hleave.1 hleave.2
  | evaluation bus view nowNs request _ hrequest hcommands hstep =>
      obtain ⟨_, hquick, hnext⟩ := hstep.of_leaves hleave.1 hleave.2
      refine ⟨hquick ▸ hrequest, hcommands.lastCommandSequence, ?_⟩
      constructor
      · rw [hnext]
        rfl
      · simp [axisOutputs]
      · simp [axisOutputs]
      · left
        rw [hnext]
        simp [axisOutputs]

section Run

variable {setup : SupervisorSetup D} {axis : Axis}
  (haxis : axis.val < setup.axes.length)

include haxis

theorem Configured.latchStep
    {state : SafetySupervisor D} (hstate : Configured setup state)
    (call : SupervisorCall D) :
    LatchStep axis (supervisorMachine.fire state call) := by
  apply fire_latchStep hstate.configured
  rw [hstate.axisCount]
  exact haxis

/-- From a stop on, the stop is tracked until the next enable output. -/
theorem StoppedSince.run
    {sequence : ℕ} {state : SafetySupervisor D}
    (hconfigured : Configured setup state)
    (hstop : StoppedSince axis sequence [] state)
    (calls : List (SupervisorCall D))
    (hnone : .enable ∉ axisOutputs axis (supervisorMachine.trace state calls)) :
    StoppedSince axis sequence (supervisorMachine.trace state calls)
      (supervisorMachine.final state calls) := by
  have hgood : Configured setup (supervisorMachine.final state calls) ∧
      (.enable ∉ axisOutputs axis (supervisorMachine.trace state calls) →
        StoppedSince axis sequence (supervisorMachine.trace state calls)
          (supervisorMachine.final state calls)) := by
    refine Machine.history_final
      (fun steps next => Configured setup next ∧
        (.enable ∉ axisOutputs axis steps →
          StoppedSince axis sequence steps next))
      ⟨hconfigured, fun _ => hstop⟩ ?_ calls
    rintro steps next call ⟨hnext, hsince⟩
    refine ⟨hnext.step call, ?_⟩
    intro hquiet
    rw [axisOutputs_append, List.mem_append, not_or] at hquiet
    exact (hsince hquiet.1).append (hnext.latchStep haxis call) hquiet.2
  exact hgood.2 hnone

/-- A stop starts in the step in which the axis leaves the running phase. -/
theorem StoppedSince.start
    {calls : List (SupervisorCall D)} {past rest : List (SupervisorStep D)}
    {leave : SupervisorStep D}
    (hsplit : setup.run calls = past ++ leave :: rest)
    (hleave : leave.Leaves axis) :
    Configured setup leave.after ∧ leave.request? axis = some .quickStop ∧
      leave.after.lastCommandSequence = leave.before.lastCommandSequence ∧
      StoppedSince axis leave.before.lastCommandSequence [] leave.after ∧
      ∃ after, rest = supervisorMachine.trace leave.after after := by
  obtain ⟨before, call, after, _, _, hfire, hrest⟩ :=
    Machine.trace_split hsplit
  have hconfigured : Configured setup (supervisorMachine.final
      setup.supervisor before) := setup.configured_after before
  have hlatch := hconfigured.latchStep haxis call
  rw [← hfire] at hlatch
  obtain ⟨hquick, hsame, hstart⟩ := StoppedSince.of_leaves hlatch hleave
  refine ⟨?_, hquick, hsame, hstart, after, hrest⟩
  rw [hfire]
  exact hconfigured.step call

/-- An enable output ends a stop which has seen a disable, under a command
newer than the stop. -/
theorem StoppedSince.enable
    {sequence : ℕ} {steps : List (SupervisorStep D)}
    {state : SafetySupervisor D} (hconfigured : Configured setup state)
    (hstop : StoppedSince axis sequence steps state)
    {call : SupervisorCall D}
    (henable : SupervisorStep.request? axis
      (supervisorMachine.fire state call) = some .enable) :
    .disable ∈ axisOutputs axis steps ∧
      sequence < state.lastCommandSequence := by
  cases hconfigured.latchStep haxis call with
  | silent hrequest _ _ =>
      rw [henable] at hrequest
      contradiction
  | evaluation bus view nowNs request _ hrequest _ hstep =>
      rw [henable, Option.some.injEq] at hrequest
      subst hrequest
      obtain ⟨_, hmove⟩ := hstep.of_stopped hstop.not_running
      simp only [reduceCtorEq, true_and, false_and, or_false] at hmove
      rw [← hstop.stopped]
      refine ⟨?_, hmove.2⟩
      rcases hstop.phase with ⟨hphase, _⟩ | ⟨_, hmem⟩
      · have hdisabled := hmove.1
        rw [Machine.fire_before, hphase] at hdisabled
        contradiction
      · exact hmem

end Run

/-- The outputs for an axis from the step `leave` in which it left the running
phase, over the steps `between`, up to an enable output at the head of
`later`. -/
structure StopPathOrder (axis : Axis) (leave : SupervisorStep D)
    (between later : List (SupervisorStep D)) : Prop where
  quickStop : leave.request? axis = some .quickStop
  outputs : ∀ request ∈ axisOutputs axis between,
    request = .quickStop ∨ request = .faultReset ∨ request = .disable
  order : (axisOutputs axis between).Pairwise fun earlier later =>
    earlier = .disable → later ≠ .quickStop
  stored : (leave.after.states axis).stoppedCommandSequence =
    leave.before.lastCommandSequence
  enabled : ∀ next ∈ later.head?, next.request? axis = some .enable →
    .disable ∈ axisOutputs axis between ∧
      (leave.after.states axis).stoppedCommandSequence <
        next.before.lastCommandSequence

/-- A stop runs through quick stop and disable before the next enable, which
needs a newer command. -/
theorem stop_path_order
    (setup : SupervisorSetup D) (calls : List (SupervisorCall D))
    (axis : Axis) (haxis : axis.val < setup.axes.length)
    (earlier between later : List (SupervisorStep D))
    (leave : SupervisorStep D)
    (hsplit : setup.run calls = earlier ++ leave :: (between ++ later))
    (hleave : leave.Leaves axis)
    (hnone : .enable ∉ axisOutputs axis between) :
    StopPathOrder axis leave between later := by
  obtain ⟨hafter, hquick, _, hstart, after, hrest⟩ :=
    StoppedSince.start haxis hsplit hleave
  obtain ⟨during, rest, _, hbetween, hlater⟩ :=
    Machine.trace_prefix hrest.symm
  have hstop := StoppedSince.run haxis hafter hstart during
    (hbetween ▸ hnone)
  rw [← hbetween] at hstop
  have hstored : (leave.after.states axis).stoppedCommandSequence =
      leave.before.lastCommandSequence := hstart.stopped
  refine ⟨hquick, hstop.outputs, hstop.order, hstored, ?_⟩
  intro next hnext henable
  cases rest with
  | nil => simp [hlater] at hnext
  | cons call rest =>
      rw [hlater, Machine.trace_cons, List.head?_cons,
        Option.mem_some_iff] at hnext
      subst hnext
      rw [hstored]
      exact hstop.enable haxis
        (hafter.of_sameSetup (final_sameSetup leave.after during)) henable

/-- A run which enables, stops, confirms standstill and recovers. -/
def armStarts : List (SupervisorCall ℚ) := [
  .acceptCommands (armCommand 1 10 kAxisCommandEnable) 10,
  .evaluate healthyBus (armView 0x0027 0) 20]

def armStops : SupervisorCall ℚ :=
  .evaluate stoppedBus (armView 0x0027 0) 30

def armRests : List (SupervisorCall ℚ) := [
  .evaluate healthyBus (armView 0x0027 0) 40,
  .acceptCommands (armCommand 2 50 kAxisCommandEnable) 50]

def armRecovers : SupervisorCall ℚ :=
  .evaluate healthyBus (armView 0x0027 0) 60

theorem stop_path_order_singleAxisArm :
    let leave := supervisorMachine.fire (singleAxisArm.after armStarts) armStops
    let next := supervisorMachine.fire
      (supervisorMachine.final leave.after armRests) armRecovers
    StopPathOrder 0 leave (supervisorMachine.trace leave.after armRests)
      [next] ∧ SupervisorStep.request? 0 next = some .enable :=
  ⟨stop_path_order singleAxisArm
    (armStarts ++ armStops :: (armRests ++ [armRecovers])) 0 (by decide)
    (singleAxisArm.run armStarts) _ _ _ rfl (by decide +kernel)
    (by decide +kernel), by decide +kernel⟩

/-! ## Recovery needs a newer command -/

/-- The stored sequence only grows by accepted snapshots. -/
theorem exists_accepted_of_newer
    {sequence : ℕ} {state : SafetySupervisor D}
    (hold : state.lastCommandSequence ≤ sequence)
    (calls : List (SupervisorCall D))
    (hnew : sequence <
      (supervisorMachine.final state calls).lastCommandSequence) :
    ∃ step ∈ supervisorMachine.trace state calls,
      ∃ snapshot ∈ SupervisorStep.accepted? step,
        sequence < snapshot.sequence := by
  induction calls generalizing state with
  | nil =>
      rw [Machine.final_nil] at hnew
      omega
  | cons call rest ih =>
      by_cases hstored : (supervisorMachine.step state
          call).1.lastCommandSequence ≤ sequence
      · obtain ⟨step, hmem, hsnapshot⟩ := ih hstored hnew
        exact ⟨step, List.mem_cons_of_mem _ hmem, hsnapshot⟩
      · refine ⟨supervisorMachine.fire state call, List.mem_cons_self, ?_⟩
        cases call with
        | acceptCommands snapshot nowNs =>
            simp only [supervisorMachine] at hstored
            rcases acceptCommands_cases state snapshot nowNs with
              hcase | ⟨hcase, _⟩ | ⟨hcase, _⟩
            · rw [hcase] at hstored
              contradiction
            · rw [hcase] at hstored
              contradiction
            · refine ⟨snapshot, ?_, ?_⟩
              · simp [SupervisorStep.accepted?, supervisorMachine, hcase]
              · rw [hcase] at hstored
                exact not_le.mp hstored
        | requestShutdown nowNs => contradiction
        | evaluate bus view nowNs =>
            simp only [supervisorMachine] at hstored
            rw [(state.evaluate_sameCommands bus _ nowNs).lastCommandSequence]
              at hstored
            contradiction

theorem StopStep.not_running_of_trigger
    {options : SafetyOptions} {inputs : AxisInputs}
    {latch next : StopLatch} {request : AxisRequest}
    (hstep : StopStep options inputs latch next request)
    (htrigger : inputs.trigger = true) : next.phase ≠ .running := by
  cases hstep with
  | enter _ _ hnext _ => simp [hnext]
  | reset hquiet _ _ _ _ =>
      rw [htrigger] at hquiet
      contradiction
  | brake hphase _ _ hnext _ => simp [hnext, hphase]
  | standstill _ _ hnext _ => simp [hnext]
  | hold hphase hnext _ => simp [hnext, hphase]
  | rearm hquiet _ _ _ _ _ _ =>
      rw [htrigger] at hquiet
      contradiction
  | pass hquiet _ _ _ =>
      rw [htrigger] at hquiet
      contradiction

theorem StopStep.running_of_enable
    {options : SafetyOptions} {inputs : AxisInputs} {latch next : StopLatch}
    (hstep : StopStep options inputs latch next .enable) :
    next.phase = .running := by
  cases hstep with
  | enter _ _ _ hrequest => contradiction
  | reset _ _ _ _ hrequest => contradiction
  | brake _ _ _ _ hrequest => contradiction
  | standstill _ _ _ hrequest => contradiction
  | hold _ _ hrequest => contradiction
  | rearm _ _ _ _ _ hnext _ => simp [hnext]
  | pass _ hphase hnext _ => simp [hnext, hphase]

theorem LatchStep.not_enable_of_stopped
    {axis : Axis} {step : SupervisorStep D} (hlatch : LatchStep axis step)
    (hstopped : phaseAfter axis step ≠ .running) :
    .enable ∉ axisOutputs axis [step] := by
  rw [axisOutputs_singleton]
  cases hlatch with
  | silent hrequest _ _ => simp [hrequest]
  | evaluation bus view nowNs request _ hrequest _ hstep =>
      rw [hrequest, Option.toList_some, List.mem_singleton]
      intro henable
      subst henable
      exact hstopped hstep.running_of_enable

/-- The axis was last stopped in the step `leave`, and not enabled since. -/
structure StoppedBy (axis : Axis) (steps past : List (SupervisorStep D))
    (leave : SupervisorStep D) (since : List (SupervisorStep D)) : Prop where
  split : steps = past ++ leave :: since
  leaves : leave.Leaves axis
  notEnabled : .enable ∉ axisOutputs axis since

/-- A stopped axis has left the running phase, and was not enabled since. -/
theorem SupervisorSetup.exists_stoppedBy
    (setup : SupervisorSetup D) {axis : Axis}
    (haxis : axis.val < setup.axes.length) (calls : List (SupervisorCall D))
    (hstopped : ((setup.after calls).states axis).phase ≠ .running) :
    ∃ past leave since,
      StoppedBy axis (setup.run calls) past leave since := by
  have hgood : Configured setup (setup.after calls) ∧
      (((setup.after calls).states axis).phase ≠ .running →
        ∃ past leave since,
          StoppedBy axis (setup.run calls) past leave since) := by
    refine Machine.history_final
      (fun steps state => Configured setup state ∧
        ((state.states axis).phase ≠ .running →
          ∃ past leave since, StoppedBy axis steps past leave since))
      ⟨setup.configured_after [], ?_⟩ ?_ calls
    · intro hphase
      exfalso
      apply hphase
      show (setup.supervisor.states axis).phase = .running
      rw [setup.supervisor_states]
      rfl
    · rintro steps state call ⟨hstate, hsince⟩
      refine ⟨hstate.step call, ?_⟩
      intro hphase
      have hnone :=
        (hstate.latchStep haxis call).not_enable_of_stopped hphase
      by_cases hrunning : (state.states axis).phase = .running
      · refine ⟨steps, supervisorMachine.fire state call, [], rfl,
          ⟨hrunning, hphase⟩, ?_⟩
        simp [axisOutputs]
      · obtain ⟨past, leave, since, hstop⟩ := hsince hrunning
        refine ⟨past, leave, since ++ [supervisorMachine.fire state call],
          ?_, hstop.leaves, ?_⟩
        · simp [hstop.split]
        · rw [axisOutputs_append, List.mem_append, not_or]
          exact ⟨hstop.notEnabled, hnone⟩
  exact hgood.2 hstopped

omit [FloatingPoint D] in
theorem exists_first_enable
    {axis : Axis} {steps : List (SupervisorStep D)}
    (henable : .enable ∈ axisOutputs axis steps) :
    ∃ before first after, steps = before ++ first :: after ∧
      SupervisorStep.request? axis first = some .enable ∧
      .enable ∉ axisOutputs axis before := by
  induction steps with
  | nil => simp [axisOutputs] at henable
  | cons step rest ih =>
      by_cases hfirst : SupervisorStep.request? axis step = some .enable
      · exact ⟨[], step, rest, rfl, hfirst, by simp [axisOutputs]⟩
      · have hhead : .enable ∉ axisOutputs axis [step] := by
          rw [axisOutputs_singleton, Option.mem_toList]
          exact hfirst
        rw [← List.singleton_append, axisOutputs_append,
          List.mem_append] at henable
        obtain ⟨before, first, after, hsplit, hrequest, hnone⟩ :=
          ih (henable.resolve_left hhead)
        refine ⟨step :: before, first, after, ?_, hrequest, ?_⟩
        · simp [hsplit]
        · rw [← List.singleton_append, axisOutputs_append, List.mem_append,
            not_or]
          exact ⟨hhead, hnone⟩

/-- An enable output after a stop follows the acceptance of a command newer
than the one stored when the axis left the running phase. -/
theorem exists_newer_of_enable
    {setup : SupervisorSetup D} {calls : List (SupervisorCall D)}
    {axis : Axis} (haxis : axis.val < setup.axes.length)
    {past between later : List (SupervisorStep D)}
    {leave enable : SupervisorStep D}
    (hsplit : setup.run calls =
      past ++ leave :: (between ++ enable :: later))
    (hleave : leave.Leaves axis)
    (henable : enable.request? axis = some .enable) :
    ∃ step ∈ between, ∃ snapshot ∈ SupervisorStep.accepted? step,
      leave.before.lastCommandSequence < snapshot.sequence := by
  obtain ⟨before, first, after, hprefix, hfirst, hrequest, hnone⟩ :
      ∃ before first after, before <+: between ∧
        between ++ enable :: later = before ++ first :: after ∧
        SupervisorStep.request? axis first = some .enable ∧
        .enable ∉ axisOutputs axis before := by
    by_cases hmem : .enable ∈ axisOutputs axis between
    · obtain ⟨before, first, after, hbetween, hrequest, hnone⟩ :=
        exists_first_enable hmem
      refine ⟨before, first, after ++ enable :: later, ?_, ?_, hrequest, hnone⟩
      · rw [hbetween]
        exact List.prefix_append _ _
      · simp [hbetween]
    · exact ⟨between, enable, later, List.prefix_rfl, rfl, henable, hmem⟩
  obtain ⟨hafter, _, hsame, hstart, calls, hrest⟩ :=
    StoppedSince.start haxis hsplit hleave
  obtain ⟨during, call, _, _, hduring, hfire, _⟩ :=
    Machine.trace_split (hrest.symm.trans hfirst)
  have hstop := StoppedSince.run haxis hafter hstart during
    (hduring ▸ hnone)
  rw [hfire] at hrequest
  have hnewer := (hstop.enable haxis
    (hafter.of_sameSetup (final_sameSetup leave.after during)) hrequest).2
  obtain ⟨step, hmem, hsnapshot⟩ :=
    exists_accepted_of_newer hsame.le during hnewer
  rw [← hduring] at hmem
  exact ⟨step, hprefix.subset hmem, hsnapshot⟩

/-- A stop cause blocks the axis until a command is accepted which is newer
than the one stored when the axis last left the running phase. -/
theorem no_automatic_reenable
    (setup : SupervisorSetup D) (calls : List (SupervisorCall D))
    (axis : Axis) (haxis : axis.val < setup.axes.length)
    (earlier between later : List (SupervisorStep D))
    (stop enable : SupervisorStep D)
    (hsplit : setup.run calls =
      earlier ++ stop :: (between ++ enable :: later))
    (hstop : stop.Triggers axis)
    (henable : enable.request? axis = some .enable) :
    ∃ past leave since,
      StoppedBy axis (earlier ++ [stop]) past leave since ∧
      (phaseBefore axis stop = .running → since = []) ∧
      ∃ step ∈ since ++ between, ∃ snapshot ∈ SupervisorStep.accepted? step,
        leave.before.lastCommandSequence < snapshot.sequence := by
  obtain ⟨before, call, after, _, hbefore, hfire, _⟩ :=
    Machine.trace_split hsplit
  change earlier = setup.run before at hbefore
  change stop = supervisorMachine.fire (setup.after before) call at hfire
  have hlatch : LatchStep axis stop := by
    rw [hfire]
    exact (setup.configured_after before).latchStep haxis call
  have hblocked : phaseAfter axis stop ≠ .running := by
    obtain ⟨bus, view, nowNs, hinput, htrigger⟩ := hstop
    cases hlatch with
    | silent _ hvelocity _ =>
        simp [SupervisorStep.velocity?, hinput] at hvelocity
    | evaluation bus' view' nowNs' request hinput' _ _ hstep =>
        rw [hinput, SupervisorCall.evaluate.injEq] at hinput'
        obtain ⟨rfl, rfl, rfl⟩ := hinput'
        exact hstep.not_running_of_trigger htrigger
  obtain ⟨past, leave, since, hstopped, hfirst⟩ :
      ∃ past leave since,
        StoppedBy axis (earlier ++ [stop]) past leave since ∧
        (phaseBefore axis stop = .running → since = []) := by
    by_cases hrunning : phaseBefore axis stop = .running
    · exact ⟨earlier, stop, [], ⟨rfl, ⟨hrunning, hblocked⟩,
        by simp [axisOutputs]⟩, fun _ => rfl⟩
    · rw [hbefore, hfire, ← setup.run_concat]
      rw [hfire, phaseAfter, ← setup.after_concat] at hblocked
      obtain ⟨past, leave, since, hstopped⟩ :=
        setup.exists_stoppedBy haxis (before ++ [call]) hblocked
      rw [hfire] at hrunning
      exact ⟨past, leave, since, hstopped, fun h => absurd h hrunning⟩
  refine ⟨past, leave, since, hstopped, hfirst, ?_⟩
  have hwhole : setup.run calls =
      past ++ leave :: ((since ++ between) ++ enable :: later) := by
    rw [hsplit, List.append_cons, hstopped.split]
    simp
  exact exists_newer_of_enable haxis hwhole hstopped.leaves henable

theorem no_automatic_reenable_singleAxisArm :
    let leave := supervisorMachine.fire (singleAxisArm.after armStarts) armStops
    let between := supervisorMachine.trace leave.after armRests
    ∃ past stopped since,
      StoppedBy 0 (singleAxisArm.run armStarts ++ [leave]) past stopped since ∧
      (phaseBefore 0 leave = .running → since = []) ∧
      ∃ step ∈ since ++ between, ∃ snapshot ∈ SupervisorStep.accepted? step,
        stopped.before.lastCommandSequence < snapshot.sequence :=
  no_automatic_reenable singleAxisArm
    (armStarts ++ armStops :: (armRests ++ [armRecovers])) 0 (by decide)
    (singleAxisArm.run armStarts) _ [] _
    (supervisorMachine.fire (singleAxisArm.after
      (armStarts ++ armStops :: armRests)) armRecovers) rfl
    ⟨stoppedBus, armView 0x0027 0, 30, rfl, by decide +kernel⟩
    (by decide +kernel)

/-- The reading without the stop machine: whatever the phase of the axis, an
enable output needs a command newer than every earlier stop cause. -/
def NewerThanEveryTrigger (axis : Axis) (steps : List (SupervisorStep D)) :
    Prop :=
  ∀ earlier stop between enable later,
    steps = earlier ++ stop :: (between ++ enable :: later) →
    SupervisorStep.Triggers axis stop →
    SupervisorStep.request? axis enable = some .enable →
    ∃ step ∈ earlier ++ stop :: between,
      ∃ snapshot ∈ SupervisorStep.accepted? step,
        stop.before.lastCommandSequence < snapshot.sequence

/-- A command which arrives during the stop is pending when the last stop cause
is observed, and enables the axis afterwards. -/
def armPending : List (SupervisorCall ℚ) := [
  .acceptCommands (armCommand 1 10 kAxisCommandEnable) 10,
  .evaluate stoppedBus (armView 0x0027 0) 20,
  .acceptCommands (armCommand 2 30 kAxisCommandEnable) 30]

def armStillStopped : SupervisorCall ℚ :=
  .evaluate stoppedBus (armView 0x0027 0) 40

def armClears : SupervisorCall ℚ :=
  .evaluate healthyBus (armView 0x0027 0) 50

theorem pending_command_reenables :
    ¬ NewerThanEveryTrigger 0
      (singleAxisArm.run (armPending ++ [armStillStopped, armClears])) := by
  intro hclaim
  have htrigger : SupervisorStep.Triggers 0
      (supervisorMachine.fire (singleAxisArm.after armPending)
        armStillStopped) :=
    ⟨stoppedBus, armView 0x0027 0, 40, rfl, by decide +kernel⟩
  have henable : SupervisorStep.request? 0
      (supervisorMachine.fire (singleAxisArm.after
        (armPending ++ [armStillStopped])) armClears) = some .enable := by
    decide +kernel
  have hnone : ∀ step ∈ singleAxisArm.run (armPending ++ [armStillStopped]),
      ∀ snapshot ∈ SupervisorStep.accepted? step,
        ¬ (singleAxisArm.after armPending).lastCommandSequence <
          snapshot.sequence := by
    decide +kernel
  obtain ⟨step, hmem, snapshot, haccepted, hnewer⟩ :=
    hclaim (singleAxisArm.run armPending) _ [] _ [] rfl htrigger henable
  exact hnone step hmem snapshot haccepted hnewer

end PolicyRuntime
