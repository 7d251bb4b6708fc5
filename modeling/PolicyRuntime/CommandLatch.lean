import PolicyRuntime.CommandIngress

/-!
# The command acceptance latch

A supervisor is called with arbitrary snapshots and arbitrary process data, in
any order.  It keeps the commands of the last snapshot it accepted; a refused
snapshot leaves them in place but forbids motion until a newer snapshot is
accepted.
-/

namespace PolicyRuntime

open SafetySupervisor

variable {D : Type}

/-- A call with any span of process data views. -/
inductive AcceptanceCall (D : Type)
  | acceptCommands (snapshot : Snapshot (AxisCommand D)) (nowNs : ℤ)
  | requestShutdown (nowNs : ℤ)
  | evaluate (bus : SafetyBusState) (pdos : PdoSpan) (nowNs : ℤ)

abbrev AcceptanceStep (D : Type) :=
  Transition (SafetySupervisor D) (AcceptanceCall D) (SupervisorAnswer D)

def AcceptanceStep.accepted? (step : AcceptanceStep D) :
    Option (Snapshot (AxisCommand D)) :=
  match step.input, step.output with
  | .acceptCommands snapshot _, .acceptance .accepted => some snapshot
  | _, _ => none

/-- The snapshots a history accepted, oldest first. -/
def acceptedSnapshots (history : List (AcceptanceStep D)) :
    List (Snapshot (AxisCommand D)) :=
  history.filterMap AcceptanceStep.accepted?

structure Snapshot.Precedes (earlier later : Snapshot (AxisCommand D)) :
    Prop where
  sequence : earlier.sequence < later.sequence
  timestamp : earlier.timestampNs ≤ later.timestampNs

/-- The step accepts a snapshot newer than the last one of a history. -/
def AcceptanceStep.Supersedes (step : AcceptanceStep D)
    (history : List (AcceptanceStep D)) : Prop :=
  ∃ snapshot, step.accepted? = some snapshot ∧
    ∀ last, (acceptedSnapshots history).getLast? = some last →
      last.sequence < snapshot.sequence

/-- The output moves no axis, neither by its requests nor by the flags of its
commands. -/
structure SafetyEvaluation.Motionless (result : SafetyEvaluation D) :
    Prop where
  noEnable : ∀ axis, result.requests axis ≠ .enable
  noFaultReset : ∀ axis, result.requests axis ≠ .faultReset
  noFlag : ∀ axis, (result.commands axis).flags &&&
    (kAxisCommandEnable ||| kAxisCommandFaultReset) = 0

theorem acceptedSnapshots_append
    (earlier later : List (AcceptanceStep D)) :
    acceptedSnapshots (earlier ++ later) =
      acceptedSnapshots earlier ++ acceptedSnapshots later :=
  List.filterMap_append

theorem acceptedSnapshots_concat
    (history : List (AcceptanceStep D)) (step : AcceptanceStep D) :
    acceptedSnapshots (history ++ [step]) =
      acceptedSnapshots history ++ step.accepted?.toList := by
  rw [acceptedSnapshots_append]
  cases hstep : step.accepted? <;> simp [acceptedSnapshots, hstep]

variable [FloatingPoint D]

def latchMachine :
    Machine (SafetySupervisor D) (AcceptanceCall D) (SupervisorAnswer D) where
  step := fun supervisor call =>
    match call with
    | .acceptCommands snapshot nowNs =>
        let result := supervisor.acceptCommands snapshot nowNs
        (result.1, .acceptance result.2)
    | .requestShutdown nowNs => (supervisor.requestShutdown nowNs, .shutdown)
    | .evaluate bus pdos nowNs =>
        let result := supervisor.evaluate bus pdos nowNs
        (result.1, .evaluation result.2)

/-! ## One call -/

section Call

variable {setup : SupervisorSetup D} {state : SafetySupervisor D}

/-- The stored commands are those of the last accepted snapshot. -/
def SafetySupervisor.Latches (supervisor : SafetySupervisor D)
    (accepted : List (Snapshot (AxisCommand D))) : Prop :=
  match accepted.getLast? with
  | none => supervisor.hasCommand = false
  | some last => supervisor.Holds last

theorem SafetySupervisor.Latches.of_same
    {supervisor next : SafetySupervisor D}
    {accepted : List (Snapshot (AxisCommand D))}
    (hlatches : supervisor.Latches accepted)
    (hhas : next.hasCommand = supervisor.hasCommand)
    (hholds : ∀ snapshot, supervisor.Holds snapshot → next.Holds snapshot) :
    next.Latches accepted := by
  unfold Latches at hlatches ⊢
  cases hlast : accepted.getLast? with
  | none =>
      rw [hlast] at hlatches
      exact hhas.trans hlatches
  | some last =>
      rw [hlast] at hlatches
      exact hholds last hlatches

theorem Configured.acceptanceStep
    (hstate : Configured setup state) (call : AcceptanceCall D) :
    Configured setup (latchMachine.step state call).1 := by
  cases call with
  | acceptCommands snapshot nowNs =>
      exact hstate.of_sameSetup
        (step_sameSetup state (.acceptCommands snapshot nowNs))
  | requestShutdown nowNs =>
      exact hstate.of_sameSetup (step_sameSetup state (.requestShutdown nowNs))
  | evaluate bus pdos nowNs =>
      have hsame := state.evaluate_sameCommands bus pdos nowNs
      exact hstate.of_sameSetup
        ⟨hsame.options, hsame.configs, hsame.axisCount, hsame.configured⟩

/-- What one call may do to the latch: store a newer valid snapshot, or keep
the commands which are stored. -/
inductive LatchMove (state : SafetySupervisor D) (call : AcceptanceCall D) : Prop
  | store (snapshot : Snapshot (AxisCommand D)) (nowNs : ℤ)
      (hcall : call = .acceptCommands snapshot nowNs)
      (hstep : latchMachine.step state call =
        (state.storeCommands snapshot, .acceptance .accepted))
      (hvalid : state.validSnapshot snapshot nowNs = true)
      (hnewer : state.hasCommand = true →
        state.lastCommandSequence < snapshot.sequence ∧
          state.lastCommandTimestampNs ≤ snapshot.timestampNs)
  | keep
      (hanswer : (latchMachine.step state call).2 ≠ .acceptance .accepted)
      (hhas : (latchMachine.step state call).1.hasCommand = state.hasCommand)
      (hvalid : state.commandsValid = false →
        (latchMachine.step state call).1.commandsValid = false)
      (hholds : ∀ snapshot, state.Holds snapshot →
        (latchMachine.step state call).1.Holds snapshot)

theorem latchMove (state : SafetySupervisor D) (call : AcceptanceCall D) :
    LatchMove state call := by
  cases call with
  | acceptCommands snapshot nowNs =>
      rcases acceptCommands_cases state snapshot nowNs with
        hcase | ⟨hcase, _⟩ | ⟨hcase, hvalid, hnewer⟩
      · apply LatchMove.keep
        · simp [latchMachine, hcase]
        · simp [latchMachine, hcase]
        · simp [latchMachine, hcase]
        · intro stored hholds
          simp only [latchMachine, hcase]
          exact hholds.invalidated
      · apply LatchMove.keep
        · simp [latchMachine, hcase]
        · simp [latchMachine, hcase]
        · simp [latchMachine, hcase]
        · intro stored hholds
          simp only [latchMachine, hcase]
          exact hholds
      · apply LatchMove.store snapshot nowNs rfl _ hvalid hnewer
        simp [latchMachine, hcase]
  | requestShutdown nowNs =>
      apply LatchMove.keep
      · simp [latchMachine]
      · rfl
      · exact id
      · intro stored hholds
        exact ⟨hholds.hasCommand, hholds.sequence, hholds.timestamp,
          hholds.commands, hholds.valid⟩
  | evaluate bus pdos nowNs =>
      have hsame := state.evaluate_sameCommands bus pdos nowNs
      apply LatchMove.keep
      · simp [latchMachine]
      · exact hsame.hasCommand
      · intro hinvalid
        exact hsame.commandsValid.trans hinvalid
      · intro stored hholds
        exact hsame.holds hholds

omit [FloatingPoint D] in
theorem AcceptanceStep.accepted?_of_answer
    {step : AcceptanceStep D} (hanswer : step.output ≠ .acceptance .accepted) :
    step.accepted? = none := by
  unfold AcceptanceStep.accepted?
  split
  · rename_i hacceptance
    exact absurd hacceptance hanswer
  · rfl

omit [FloatingPoint D] in
theorem AcceptanceStep.accepted?_of_store
    {step : AcceptanceStep D} {snapshot : Snapshot (AxisCommand D)} {nowNs : ℤ}
    (hinput : step.input = .acceptCommands snapshot nowNs)
    (houtput : step.output = .acceptance .accepted) :
    step.accepted? = some snapshot := by
  unfold AcceptanceStep.accepted?
  rw [hinput, houtput]

end Call

/-! ## The latch over a run -/

structure LatchInvariant (setup : SupervisorSetup D)
    (history : List (AcceptanceStep D)) (state : SafetySupervisor D) : Prop where
  configured : Configured setup state
  ordered : (acceptedSnapshots history).Pairwise Snapshot.Precedes
  latches : state.Latches (acceptedSnapshots history)

section Run

variable {setup : SupervisorSetup D} {history : List (AcceptanceStep D)}
  {state : SafetySupervisor D}

theorem LatchInvariant.initial (setup : SupervisorSetup D) :
    LatchInvariant setup [] setup.supervisor := by
  obtain ⟨configs, lastRequests, hframe⟩ := setup.supervisor_frame
  constructor
  · exact setup.configured_after []
  · exact List.Pairwise.nil
  · change setup.supervisor.hasCommand = false
    rw [hframe]
    rfl

/-- A snapshot newer than the stored one is newer than every accepted one. -/
theorem LatchInvariant.precedes
    (hgood : LatchInvariant setup history state)
    {snapshot earlier : Snapshot (AxisCommand D)}
    (hnewer : state.hasCommand = true →
      state.lastCommandSequence < snapshot.sequence ∧
        state.lastCommandTimestampNs ≤ snapshot.timestampNs)
    (hearlier : earlier ∈ acceptedSnapshots history) :
    earlier.Precedes snapshot := by
  have hlatches := hgood.latches
  have hordered := hgood.ordered
  unfold SafetySupervisor.Latches at hlatches
  cases hlast : (acceptedSnapshots history).getLast? with
  | none =>
      rw [List.getLast?_eq_none_iff.mp hlast] at hearlier
      contradiction
  | some last =>
      rw [hlast] at hlatches
      have hafter := hnewer hlatches.hasCommand
      rw [hlatches.sequence, hlatches.timestamp] at hafter
      obtain ⟨front, hfront⟩ := List.getLast?_eq_some_iff.mp hlast
      rw [hfront] at hearlier hordered
      rcases List.mem_append.mp hearlier with hold | hnew
      · have hbefore := (List.pairwise_append.mp hordered).2.2 earlier hold
          last (List.mem_singleton_self last)
        exact ⟨hbefore.sequence.trans hafter.1,
          hbefore.timestamp.trans hafter.2⟩
      · rw [List.mem_singleton] at hnew
        rw [hnew]
        exact ⟨hafter.1, hafter.2⟩

theorem LatchInvariant.step
    (hgood : LatchInvariant setup history state) (call : AcceptanceCall D) :
    LatchInvariant setup (history ++ [latchMachine.fire state call])
      (latchMachine.step state call).1 := by
  have hconfigured := hgood.configured.acceptanceStep call
  cases latchMove state call with
  | store snapshot nowNs hcall hstep hvalid hnewer =>
      have haccepted : AcceptanceStep.accepted? (latchMachine.fire state call) =
          some snapshot :=
        AcceptanceStep.accepted?_of_store hcall (by rw [Machine.fire_output, hstep])
      have hsnapshots : acceptedSnapshots
          (history ++ [latchMachine.fire state call]) =
            acceptedSnapshots history ++ [snapshot] := by
        rw [acceptedSnapshots_concat, haccepted, Option.toList_some]
      refine ⟨hconfigured, ?_, ?_⟩
      · rw [hsnapshots, List.pairwise_append]
        refine ⟨hgood.ordered, List.pairwise_singleton _ _, ?_⟩
        intro earlier hearlier later hlater
        rw [List.mem_singleton] at hlater
        rw [hlater]
        exact hgood.precedes hnewer hearlier
      · rw [hsnapshots, hstep]
        simp only [SafetySupervisor.Latches, List.getLast?_concat]
        exact storeCommands_holds hvalid
  | keep hanswer hhas _ hholds =>
      have hsnapshots : acceptedSnapshots
          (history ++ [latchMachine.fire state call]) =
            acceptedSnapshots history := by
        rw [acceptedSnapshots_concat,
          AcceptanceStep.accepted?_of_answer hanswer, Option.toList_none,
          List.append_nil]
      refine ⟨hconfigured, ?_, ?_⟩
      · rw [hsnapshots]
        exact hgood.ordered
      · rw [hsnapshots]
        exact hgood.latches.of_same hhas hholds

end Run

def SupervisorSetup.latched (setup : SupervisorSetup D)
    (calls : List (AcceptanceCall D)) : List (AcceptanceStep D) :=
  latchMachine.trace setup.supervisor calls

def SupervisorSetup.afterLatch (setup : SupervisorSetup D)
    (calls : List (AcceptanceCall D)) : SafetySupervisor D :=
  latchMachine.final setup.supervisor calls

theorem SupervisorSetup.latchInvariant
    (setup : SupervisorSetup D) (calls : List (AcceptanceCall D)) :
    LatchInvariant setup (setup.latched calls) (setup.afterLatch calls) := by
  refine Machine.history_final (LatchInvariant setup)
    (LatchInvariant.initial setup) ?_ calls
  intro history state call hgood
  exact hgood.step call

/-! ## Motion after a refusal -/

section Refusal

variable {setup : SupervisorSetup D} {state : SafetySupervisor D}

/-- Without valid commands every axis in use is triggered. -/
theorem groupMarks_trigger_of_invalid
    (hinvalid : state.commandsValid = false) (bus : SafetyBusState)
    (pdos : PdoSpan) (nowNs : ℤ) {axis : Axis}
    (haxis : axis.val < state.axisCount) :
    (state.groupMarks bus pdos nowNs).triggers axis = true := by
  apply groupMarks_trigger_of_reason haxis
  intro hnone
  have hvalid := hnone.commandsValid
  rw [hinvalid] at hvalid
  contradiction

omit [FloatingPoint D] in
theorem SafetyEvaluation.motionless_of_requests
    {result : SafetyEvaluation D}
    (hrequests : ∀ axis, (result.requests axis = .quickStop ∨
      result.requests axis = .disable) ∧
      ((result.commands axis).flags = flagsForRequest (result.requests axis) ∨
        (result.commands axis).flags = 0)) : result.Motionless := by
  constructor
  · intro axis henable
    rcases (hrequests axis).1 with hrequest | hrequest
    · rw [henable] at hrequest
      contradiction
    · rw [henable] at hrequest
      contradiction
  · intro axis hreset
    rcases (hrequests axis).1 with hrequest | hrequest
    · rw [hreset] at hrequest
      contradiction
    · rw [hreset] at hrequest
      contradiction
  · intro axis
    obtain ⟨hrequest, hflags⟩ := hrequests axis
    rcases hflags with hflags | hflags
    · rw [hflags]
      rcases hrequest with hrequest | hrequest
      · rw [hrequest]
        decide
      · rw [hrequest]
        decide
    · rw [hflags]
      decide

/-- Without valid commands an evaluation moves no axis, whatever it is given. -/
theorem evaluate_motionless
    (hinvalid : state.commandsValid = false) (bus : SafetyBusState)
    (pdos : PdoSpan) (nowNs : ℤ) :
    (state.evaluate bus pdos nowNs).2.Motionless := by
  apply SafetyEvaluation.motionless_of_requests
  intro axis
  by_cases hmatch : state.configured = true ∧ pdos.size = state.axisCount
  · obtain ⟨hconfigured, hsize⟩ := hmatch
    by_cases haxis : axis.val < state.axisCount
    · have hstep := evaluate_stopStep hconfigured hsize bus nowNs haxis
      have htrigger :=
        groupMarks_trigger_of_invalid hinvalid bus pdos nowNs haxis
      have hflags : ((state.evaluate bus pdos nowNs).2.commands axis).flags =
          flagsForRequest ((state.evaluate bus pdos nowNs).2.requests
            axis) := by
        rw [evaluate_commands hconfigured hsize bus nowNs haxis,
          evaluate_requests hconfigured hsize bus nowNs haxis]
      refine ⟨?_, .inl hflags⟩
      rcases hstep.of_trigger htrigger with
        ⟨_, _, hquick⟩ | ⟨_, _, _, hquick⟩ | ⟨_, _, hdisable⟩
      · exact .inl hquick
      · exact .inl hquick
      · exact .inr hdisable
    · simp [evaluate, hconfigured, hsize, haxis, AxisCommand.empty]
  · have hrefuse : state.evaluate bus pdos nowNs = state.refuseEvaluation := by
      unfold evaluate
      rw [if_pos]
      rw [not_and_or] at hmatch
      simpa using hmatch
    rw [hrefuse]
    by_cases haxis : axis.val < state.axisCount
    · simp [refuseEvaluation, haxis, flagsForRequest]
    · simp [refuseEvaluation, haxis, AxisCommand.empty]

/-- Refused commands stay invalid until a snapshot is accepted. -/
theorem final_invalid
    (hinvalid : state.commandsValid = false) {calls : List (AcceptanceCall D)}
    (hnone : ∀ step ∈ latchMachine.trace state calls,
      AcceptanceStep.accepted? step = none) :
    (latchMachine.final state calls).commandsValid = false := by
  refine Machine.kept_until (fun state => state.commandsValid = false)
    (fun step : AcceptanceStep D => step.accepted? ≠ none) ?_ hinvalid ?_
  · intro state call hinvalid hquiet
    cases latchMove state call with
    | store snapshot nowNs hcall hstep _ _ =>
        have haccepted : AcceptanceStep.accepted? (latchMachine.fire state call) =
            some snapshot :=
          AcceptanceStep.accepted?_of_store hcall
            (by rw [Machine.fire_output, hstep])
        rw [not_not, haccepted] at hquiet
        contradiction
    | keep _ _ hvalid _ => exact hvalid hinvalid
  · intro step hstep
    rw [not_not]
    exact hnone step hstep

end Refusal

/-! ## The latch -/

/-- What every run of a configured supervisor satisfies. -/
structure AcceptanceLatch (setup : SupervisorSetup D)
    (calls : List (AcceptanceCall D)) : Prop where
  ordered : (acceptedSnapshots (setup.latched calls)).Pairwise
    Snapshot.Precedes
  timely : ∀ step ∈ setup.latched calls, ∀ snapshot nowNs,
    step.input = .acceptCommands snapshot nowNs →
    step.output = .acceptance .accepted → snapshot.timestampNs ≤ nowNs
  stored : ∀ last,
    (acceptedSnapshots (setup.latched calls)).getLast? = some last →
    ∀ axis : Axis, axis.val < setup.axes.length →
      (setup.afterLatch calls).commands axis = last.axes axis
  duplicate : ∀ step ∈ setup.latched calls,
    step.output = .acceptance .duplicate → step.after = step.before
  refused : ∀ earlier rejection between evaluation later result,
    setup.latched calls =
      earlier ++ rejection :: (between ++ evaluation :: later) →
    rejection.output = .acceptance .rejected →
    (∀ step ∈ between, ¬ step.Supersedes earlier) →
    evaluation.output = .evaluation result → result.Motionless

section Latch

variable {setup : SupervisorSetup D}

theorem timely_of_accepted
    {state : SafetySupervisor D} {call : AcceptanceCall D}
    {snapshot : Snapshot (AxisCommand D)} {nowNs : ℤ}
    (hcall : call = .acceptCommands snapshot nowNs)
    (hanswer : (latchMachine.step state call).2 = .acceptance .accepted) :
    snapshot.timestampNs ≤ nowNs := by
  cases latchMove state call with
  | store stored storedNs hstored _ hvalid _ =>
      rw [hcall, AcceptanceCall.acceptCommands.injEq] at hstored
      rw [hstored.1, hstored.2]
      exact ((state.validSnapshot_iff stored storedNs).mp hvalid).2.2.2.1
  | keep hother _ _ _ => exact absurd hanswer hother

theorem state_of_duplicate
    {state : SafetySupervisor D} {call : AcceptanceCall D}
    (hanswer : (latchMachine.step state call).2 = .acceptance .duplicate) :
    (latchMachine.step state call).1 = state := by
  cases call with
  | acceptCommands snapshot nowNs =>
      rcases acceptCommands_cases state snapshot nowNs with
        hcase | ⟨hcase, _⟩ | ⟨hcase, _⟩
      · simp [latchMachine, hcase] at hanswer
      · simp [latchMachine, hcase]
      · simp [latchMachine, hcase] at hanswer
  | requestShutdown nowNs => simp [latchMachine] at hanswer
  | evaluate bus pdos nowNs => simp [latchMachine] at hanswer

theorem invalid_of_rejected
    {state : SafetySupervisor D} {call : AcceptanceCall D}
    (hanswer : (latchMachine.step state call).2 = .acceptance .rejected) :
    (latchMachine.step state call).1.commandsValid = false := by
  cases call with
  | acceptCommands snapshot nowNs =>
      rcases acceptCommands_cases state snapshot nowNs with
        hcase | ⟨hcase, _⟩ | ⟨hcase, _⟩
      · simp [latchMachine, hcase]
      · simp [latchMachine, hcase] at hanswer
      · simp [latchMachine, hcase] at hanswer
  | requestShutdown nowNs => simp [latchMachine] at hanswer
  | evaluate bus pdos nowNs => simp [latchMachine] at hanswer

theorem evaluated_of_evaluation
    {state : SafetySupervisor D} {call : AcceptanceCall D}
    {result : SafetyEvaluation D}
    (hanswer : (latchMachine.step state call).2 = .evaluation result) :
    ∃ bus pdos nowNs, result = (state.evaluate bus pdos nowNs).2 := by
  cases call with
  | acceptCommands snapshot nowNs => simp [latchMachine] at hanswer
  | requestShutdown nowNs => simp [latchMachine] at hanswer
  | evaluate bus pdos nowNs =>
      simp only [latchMachine, SupervisorAnswer.evaluation.injEq] at hanswer
      exact ⟨bus, pdos, nowNs, hanswer.symm⟩

/-- A later acceptance is newer than all acceptances before. -/
theorem supersedes_of_accepted
    {calls : List (AcceptanceCall D)} {earlier later : List (AcceptanceStep D)}
    (hsplit : setup.latched calls = earlier ++ later)
    {step : AcceptanceStep D} (hstep : step ∈ later)
    {snapshot : Snapshot (AxisCommand D)}
    (haccepted : step.accepted? = some snapshot) : step.Supersedes earlier := by
  refine ⟨snapshot, haccepted, ?_⟩
  intro last hlast
  have hordered := (setup.latchInvariant calls).ordered
  rw [hsplit, acceptedSnapshots_append, List.pairwise_append] at hordered
  have hafter : snapshot ∈ acceptedSnapshots later :=
    List.mem_filterMap.mpr ⟨step, hstep, haccepted⟩
  exact (hordered.2.2 last (List.mem_of_getLast? hlast) snapshot
    hafter).sequence

/-- After a refusal no axis is moved before a newer snapshot is accepted. -/
theorem motionless_of_refused
    {calls : List (AcceptanceCall D)}
    {earlier between later : List (AcceptanceStep D)}
    {rejection evaluation : AcceptanceStep D} {result : SafetyEvaluation D}
    (hsplit : setup.latched calls =
      earlier ++ rejection :: (between ++ evaluation :: later))
    (hrejected : rejection.output = .acceptance .rejected)
    (hbetween : ∀ step ∈ between, ¬ step.Supersedes earlier)
    (hevaluation : evaluation.output = .evaluation result) :
    result.Motionless := by
  have hnone : ∀ step ∈ between, step.accepted? = none := by
    intro step hstep
    cases haccepted : step.accepted? with
    | none => rfl
    | some snapshot =>
        have hlater : step ∈
            rejection :: (between ++ evaluation :: later) := by
          simp [hstep]
        exact absurd (supersedes_of_accepted hsplit hlater haccepted)
          (hbetween step hstep)
  obtain ⟨before, call, after, _, _, hfire, hrest⟩ :=
    Machine.trace_split hsplit
  obtain ⟨middle, last, _, _, htrace, hlast, _⟩ :=
    Machine.trace_split hrest.symm
  have hinvalid : rejection.after.commandsValid = false := by
    rw [hfire] at hrejected ⊢
    exact invalid_of_rejected hrejected
  rw [htrace] at hnone
  have hstill := final_invalid hinvalid hnone
  rw [hlast] at hevaluation
  obtain ⟨bus, pdos, nowNs, hresult⟩ := evaluated_of_evaluation hevaluation
  rw [hresult]
  exact evaluate_motionless hstill bus pdos nowNs

end Latch

/-- The command acceptance latch holds over every run. -/
theorem acceptanceLatch
    (setup : SupervisorSetup D) (calls : List (AcceptanceCall D)) :
    AcceptanceLatch setup calls := by
  have hgood := setup.latchInvariant calls
  constructor
  · exact hgood.ordered
  · intro step hstep snapshot nowNs hinput hanswer
    obtain ⟨before, call, _, hfire⟩ := Machine.exists_fire_of_mem_trace hstep
    rw [hfire] at hinput hanswer
    exact timely_of_accepted hinput hanswer
  · intro last hlast axis haxis
    have hlatches := hgood.latches
    simp only [SafetySupervisor.Latches, hlast] at hlatches
    apply hlatches.commands
    rw [hgood.configured.axisCount]
    exact haxis
  · intro step hstep hanswer
    obtain ⟨before, call, _, hfire⟩ := Machine.exists_fire_of_mem_trace hstep
    rw [hfire] at hanswer ⊢
    exact state_of_duplicate hanswer
  · intro earlier rejection between evaluation later result hsplit hrejected
      hbetween hevaluation
    exact motionless_of_refused hsplit hrejected hbetween hevaluation

end PolicyRuntime
