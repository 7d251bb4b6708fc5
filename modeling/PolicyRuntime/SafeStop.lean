import PolicyRuntime.CommandHandoff

/-!
# Safe stops after a rejected publication

A drain which observes a new rejection invalidates the stored commands.  The
stop becomes visible in the next evaluation, if that comes before the next
drain: a cycle drains the hand-off twice, and only its second drain is followed
by the evaluation at once.
-/

namespace PolicyRuntime

open SafetySupervisor RobotIoDaemon

variable {D : Type} [FloatingPoint D] {setup : SupervisorSetup D}
  {daemon next : RobotIoDaemon D}

/-! ## The reported reason -/

theorem getLsbD_raiseFlag
    (condition : Bool) (flag flags : BitVec 32) (bit : ℕ) :
    (raiseFlag condition flag flags).getLsbD bit =
      (flags.getLsbD bit || (condition && flag.getLsbD bit)) := by
  cases condition <;> simp [raiseFlag]

theorem assess_invalidCommand
    {supervisor : SafetySupervisor D}
    (hinvalid : supervisor.commandsValid = false) (bus : SafetyBusState)
    (pdos : PdoSpan) (nowNs : ℤ) (axis : Axis) :
    (supervisor.assess bus pdos nowNs axis).reasons.getLsbD 22 = true := by
  have hbit : kAxisFeedbackSafetyInvalidCommand.getLsbD 22 = true := by decide
  simp only [assess, getLsbD_raiseFlag, hinvalid, hbit, Bool.not_false,
    Bool.and_self, Bool.or_true, Bool.true_or]

/-- Without valid commands every axis in use reports it. -/
theorem evaluate_invalidCommand
    {supervisor : SafetySupervisor D} {pdos : PdoSpan}
    (hconfigured : supervisor.configured = true)
    (hsize : pdos.size = supervisor.axisCount)
    (hinvalid : supervisor.commandsValid = false) (bus : SafetyBusState)
    (nowNs : ℤ) {axis : Axis} (haxis : axis.val < supervisor.axisCount) :
    (supervisor.evaluate bus pdos nowNs).2.feedbackFlags axis &&&
      kAxisFeedbackSafetyInvalidCommand ≠ 0 := by
  have hown := assess_invalidCommand hinvalid bus pdos nowNs axis
  have hmarked : ((supervisor.groupMarks bus pdos nowNs).reasons
      axis).getLsbD 22 = true := by
    rcases supervisor.groupMarks_extends bus pdos nowNs axis with
      ⟨_, hsame⟩ | ⟨_, hmore⟩
    · rw [hsame]
      simpa [ownMarks, haxis] using hown
    · rw [hmore]
      simp [ownMarks, haxis, hown]
  rw [evaluate_feedbackFlags hconfigured hsize bus nowNs haxis]
  intro hzero
  have hbit := congrArg (fun flags : BitVec 32 => flags.getLsbD 22) hzero
  simp only [BitVec.getLsbD_and, hmarked] at hbit
  revert hbit
  decide

/-! ## The required stop -/

def DaemonStep.Evaluates (step : DaemonStep D) : Prop :=
  ∃ result, step.output = .cycled result

/-- An evaluation without valid commands, reported on every axis in use. -/
def DaemonStep.SafeStopCycle (step : DaemonStep D) : Prop :=
  ∃ result, step.output = .cycled result ∧
    step.before.safety.commandsValid = false ∧
    ∀ axis : Axis, axis.val < step.before.safety.axisCount →
      result.decisions.feedbackFlags axis &&&
        kAxisFeedbackSafetyInvalidCommand ≠ 0

/-- Between the acknowledgement of a rejection and the adoption of a newer
publication there is a safe-stop cycle. -/
def RejectionForcesSafeStop (steps : List (DaemonStep D)) : Prop :=
  ∀ earlier observe middle adopt later rejection event,
    steps = earlier ++ observe :: (middle ++ adopt :: later) →
    observe.output = .acknowledged rejection →
    adopt.output = .consumed event .accepted →
    rejection < event.publication →
    ∃ step ∈ middle, DaemonStep.SafeStopCycle step

/-- The drain at the head of a cycle, or of `refresh_commands`, meets a new
rejection. -/
def DaemonStep.RefreshMeetsRejection (step : DaemonStep D) : Prop :=
  step.input = .ownerStep ∧
    ∃ rejectedPublication event,
      step.before.owner = .settle .refresh rejectedPublication event ∧
      rejectedPublication ≠ step.before.acknowledgedRejectionPublication

/-- A drain without a new rejection meets a publication behind the barrier
which is newer than the stored commands. -/
def DaemonStep.MeetsNewerCommand (step : DaemonStep D) : Prop :=
  step.input = .ownerStep ∧
    ∃ site event,
      step.before.owner =
        .settle site step.before.acknowledgedRejectionPublication
          (some event) ∧
      step.before.acknowledgedRejectionPublication < event.publication ∧
      (step.before.safety.hasCommand = true →
        step.before.safety.lastCommandSequence < event.snapshot.sequence)

/-- After a rejection met at the head of a cycle, no drain before the next
evaluation meets a newer command. -/
def QuietUntilEvaluation (steps : List (DaemonStep D)) : Prop :=
  ∀ earlier observe middle drain later,
    steps = earlier ++ observe :: (middle ++ drain :: later) →
    DaemonStep.RefreshMeetsRejection observe →
    (∀ step ∈ middle, ¬ DaemonStep.Evaluates step) →
    ¬ DaemonStep.MeetsNewerCommand drain

/-! ## Drains in a schedule -/

/-- A displayed step of a schedule, with the invariant before it. -/
theorem DeviceSetup.schedule_split
    {setup : DeviceSetup D} {clock : ℤ} {actions : List (DaemonAction D)}
    {earlier later : List (DaemonStep D)} {step : DaemonStep D}
    (hsplit : setup.schedule clock actions = earlier ++ step :: later) :
    ∃ daemon action rest,
      HandoffInvariant setup.toSupervisorSetup earlier daemon ∧
      step = daemonMachine.fire daemon action ∧
      later = daemonMachine.trace (daemonMachine.step daemon action).1 rest := by
  obtain ⟨before, action, after, _, hearlier, hfire, hlater⟩ :=
    Machine.trace_split hsplit
  refine ⟨daemonMachine.final (setup.daemon clock) before, action, after, ?_,
    hfire, ?_⟩
  · rw [hearlier]
    exact setup.handoffInvariant clock before
  · rw [hlater, hfire, Machine.fire_after]

/-- An adopting drain meets a command newer than the stored one. -/
theorem HandoffInvariant.meetsNewerCommand
    {steps : List (DaemonStep D)}
    (hgood : HandoffInvariant setup steps daemon) {action : DaemonAction D}
    {event : StagedCommandEvent D}
    (houtput : (daemonMachine.step daemon action).2 =
      .consumed event .accepted) :
    DaemonStep.MeetsNewerCommand (daemonMachine.fire daemon action) := by
  have haction : action = .ownerStep := by
    apply eq_ownerStep_of_not_fromIngress
    rw [houtput]
    rfl
  have hdrain : (daemonMachine.step daemon action).2.fromDrain = true := by
    rw [houtput]
    rfl
  obtain ⟨site, rejectedPublication, found, howner, hstep⟩ :=
    exists_settle_of_fromDrain hdrain
  rw [hstep] at houtput
  have houtcome := hgood.owner.drainOutcome hgood.ingress howner
  generalize daemon.consumeStagedCommands rejectedPublication found = result
    at houtcome houtput
  cases houtcome with
  | adopt read hread hknown hbarrier hvalid hnewer =>
      refine ⟨haction, site, read, ?_, hbarrier, ?_⟩
      · rw [Machine.fire_before, howner, hknown, hread]
      · intro hcommand
        have hstored := hgood.owner.stored
        cases hlast : (adoptedEvents steps).getLast? with
        | none =>
            simp only [StoresLast, hlast] at hstored
            rw [Machine.fire_before, hstored] at hcommand
            contradiction
        | some last =>
            simp only [StoresLast, hlast] at hstored
            rw [Machine.fire_before, hstored.sequence]
            exact (hnewer last (List.mem_of_getLast? hlast)).sequence
  | _ => cases houtput

/-- A drain which meets a newer command adopts it. -/
theorem HandoffInvariant.adopts
    {steps : List (DaemonStep D)}
    (hgood : HandoffInvariant setup steps daemon) {action : DaemonAction D}
    (hmeets : DaemonStep.MeetsNewerCommand
      (daemonMachine.fire daemon action)) :
    ∃ event, (daemonMachine.step daemon action).2 =
      .consumed event .accepted := by
  obtain ⟨haction, site, event, howner, hbarrier, hnewer⟩ := hmeets
  rw [Machine.fire_input] at haction
  rw [Machine.fire_before] at howner hbarrier hnewer
  rw [haction, step_settle howner]
  have hnot_stored : ∀ last, (adoptedEvents steps).getLast? = some last →
      last.publication ≠ event.publication := by
    intro last hlast hsame
    have hstored := hgood.owner.stored
    simp only [StoresLast, hlast] at hstored
    have hsequence := hnewer hstored.hasCommand
    have hsubset := hgood.ingress.published_subset
    have heq : last = event := StagedCommandEvent.eq_of_publication
      hgood.ingress.ordered
      (hsubset (hgood.owner.adoptedPublished (List.mem_of_getLast? hlast)))
      (hsubset ((hgood.owner.found site _ _ howner).2.2 event rfl).1) hsame
    rw [hstored.sequence, heq] at hsequence
    omega
  have houtcome := hgood.owner.drainOutcome hgood.ingress howner
  generalize daemon.consumeStagedCommands _ (some event) = result
    at houtcome ⊢
  cases houtcome with
  | acknowledge hnew => omega
  | quiet hknown hstale =>
      rcases hstale event rfl with hstale | hconsumed
      · omega
      · rw [hconsumed] at hbarrier
        obtain ⟨last, hlast, hsame⟩ := hgood.owner.consumed hbarrier
        exact absurd (hsame.trans hconsumed.symm) (hnot_stored last hlast)
  | adopt read hread hknown hbarrier hvalid hnewer => exact ⟨read, rfl⟩
  | replay read hread hknown hbarrier hlast =>
      cases hread
      exact absurd rfl (hnot_stored event hlast)

/-! ## Waiting for the stop -/

/-- Invalid commands stay stored and invalid under a drain which adopts
nothing. -/
theorem Configured.drain_sameCommands
    (hconfigured : Configured setup daemon.safety)
    (hinvalid : daemon.safety.commandsValid = false)
    {rejectedPublication : ℕ} {event : Option (StagedCommandEvent D)}
    (hnone : (daemon.consumeStagedCommands rejectedPublication
      event).2.adopted? = none) :
    daemon.safety.SameCommands
      (daemon.consumeStagedCommands rejectedPublication event).1.safety := by
  have hrejected : daemon.safety.SameCommands
      { daemon.safety with commandsValid := false } :=
    ⟨rfl, rfl, rfl, rfl, rfl, rfl, rfl, rfl, hinvalid.symm⟩
  unfold consumeStagedCommands at hnone ⊢
  split
  · rw [hconfigured.acceptCommands_invalidSnapshot daemon.clock]
    exact hrejected
  · rename_i hknown
    rw [if_neg hknown] at hnone
    cases event with
    | none => exact SameCommands.refl _
    | some read =>
        dsimp only at hnone ⊢
        split
        · exact SameCommands.refl _
        · rename_i hbarrier
          rw [if_neg hbarrier] at hnone
          split
          · exact SameCommands.refl _
          · rename_i hnew
            rw [if_neg hnew] at hnone
            rcases acceptCommands_cases daemon.safety read.snapshot
              daemon.clock with hcase | ⟨hcase, _⟩ | ⟨hcase, _⟩
            · rw [hcase]
              exact hrejected
            · rw [hcase]
              exact SameCommands.refl _
            · rw [hcase] at hnone
              contradiction

/-- The owner is past the last drain before an evaluation. -/
def OwnerPhase.evaluating : OwnerPhase D → Bool
  | .readClock _ | .checkStop _ _ | .evaluate _ _ => true
  | .idle | .loopHead | .loadRejection _ | .readHandoff _ _ | .settle _ _ _ |
    .transports | .admitDevice _ | .stopTransports => false

/-- The stored commands are invalid.  After the drain of a device cycle the
evaluation comes next. -/
structure AwaitsStop (setup : SupervisorSetup D) (site : DrainSite)
    (daemon : RobotIoDaemon D) : Prop where
  configured : Configured setup daemon.safety
  invalid : daemon.safety.commandsValid = false
  phase : site = .refresh ∨ daemon.owner.evaluating = true

theorem AwaitsStop.safeStopCycle
    {site : DrainSite} (hwaits : AwaitsStop setup site daemon)
    {action : DaemonAction D}
    (hevaluates : DaemonStep.Evaluates (daemonMachine.fire daemon action)) :
    DaemonStep.SafeStopCycle (daemonMachine.fire daemon action) := by
  obtain ⟨result, hresult⟩ := hevaluates
  rw [Machine.fire_output] at hresult
  obtain ⟨input, nowNs, _, hstep⟩ := exists_evaluate_of_cycled hresult
  refine ⟨(daemon.device.cycle input.bus input.view nowNs).2, ?_,
    hwaits.invalid, ?_⟩
  · rw [Machine.fire_output, hstep]
    rfl
  · intro axis haxis
    exact evaluate_invalidCommand hwaits.configured.configured rfl
      hwaits.invalid input.bus nowNs haxis

omit [FloatingPoint D] in
theorem OwnerMove.evaluating
    {before after : OwnerPhase D} (hmove : OwnerMove daemon before after)
    (hbefore : before.evaluating = true) : after.evaluating = true := by
  cases hmove with
  | clock input => rfl
  | pass input nowNs => rfl
  | _ => contradiction

theorem AwaitsStop.of_sameCommands
    {site : DrainSite} (hwaits : AwaitsStop setup site daemon)
    (hsame : daemon.safety.SameCommands next.safety)
    (hphase : site = .refresh ∨ next.owner.evaluating = true) :
    AwaitsStop setup site next := by
  refine ⟨?_, ?_, hphase⟩
  · exact hwaits.configured.of_sameSetup
      ⟨hsame.options, hsame.configs, hsame.axisCount, hsame.configured⟩
  · rw [hsame.commandsValid]
    exact hwaits.invalid

/-- Until something is adopted or evaluated the daemon keeps waiting. -/
theorem AwaitsStop.step
    {site : DrainSite} (hwaits : AwaitsStop setup site daemon)
    {action : DaemonAction D}
    (hnone : (daemonMachine.step daemon action).2.adopted? = none)
    (hevaluates : ¬ DaemonStep.Evaluates (daemonMachine.fire daemon action)) :
    AwaitsStop setup site (daemonMachine.step daemon action).1 := by
  have hstep := step_ownerStep daemon action
  have hcycled : ∀ result, (daemonMachine.step daemon action).2 ≠
      .cycled result := fun result hresult => hevaluates ⟨result, hresult⟩
  generalize daemonMachine.step daemon action = outcome
    at hstep hnone hcycled ⊢
  cases hstep with
  | rest hkept howner hentry hevent =>
      apply hwaits.of_sameCommands hkept.sameCommands
      rw [howner]
      exact hwaits.phase
  | moved hkept hmove hentry hrun =>
      apply hwaits.of_sameCommands hkept.sameCommands
      exact hwaits.phase.imp_right hmove.evaluating
  | drained drainSite rejectedPublication event howner =>
      apply hwaits.of_sameCommands
      · exact hwaits.configured.drain_sameCommands hwaits.invalid hnone
      · rcases hwaits.phase with hsite | hevaluating
        · exact .inl hsite
        · rw [howner] at hevaluating
          contradiction
  | shutdown input nowNs howner =>
      apply hwaits.of_sameCommands
      · exact ⟨rfl, rfl, rfl, rfl, rfl, rfl, rfl, rfl, rfl⟩
      · exact .inr rfl
  | cycled input nowNs howner => exact absurd rfl (hcycled _)
  | stopped howner =>
      apply hwaits.of_sameCommands
      · exact SameCommands.refl daemon.safety
      · rcases hwaits.phase with hsite | hevaluating
        · exact .inl hsite
        · rw [howner] at hevaluating
          contradiction

theorem AwaitsStop.run
    {site : DrainSite} (hwaits : AwaitsStop setup site daemon)
    (actions : List (DaemonAction D))
    (hnone : ∀ step ∈ daemonMachine.trace daemon actions,
      step.output.adopted? = none) :
    (∃ step ∈ daemonMachine.trace daemon actions,
      DaemonStep.SafeStopCycle step) ∨
    ((∀ step ∈ daemonMachine.trace daemon actions,
      ¬ DaemonStep.Evaluates step) ∧
      AwaitsStop setup site (daemonMachine.final daemon actions)) := by
  induction actions generalizing daemon with
  | nil =>
      right
      refine ⟨?_, hwaits⟩
      intro step hstep
      exact absurd hstep List.not_mem_nil
  | cons action rest ih =>
      rw [Machine.trace_cons] at hnone ⊢
      rw [List.forall_mem_cons] at hnone
      by_cases hevaluates :
          DaemonStep.Evaluates (daemonMachine.fire daemon action)
      · left
        exact ⟨_, List.mem_cons_self, hwaits.safeStopCycle hevaluates⟩
      · rcases ih (hwaits.step hnone.1 hevaluates) hnone.2 with
          ⟨step, hmem, hcycle⟩ | ⟨hquiet, hlast⟩
        · left
          exact ⟨step, List.mem_cons_of_mem _ hmem, hcycle⟩
        · right
          rw [List.forall_mem_cons]
          exact ⟨⟨hevaluates, hquiet⟩, hlast⟩

/-- A drain which acknowledges a rejection starts the wait. -/
theorem HandoffInvariant.awaitsStop
    {steps : List (DaemonStep D)}
    (hgood : HandoffInvariant setup steps daemon) {action : DaemonAction D}
    {rejection : ℕ}
    (houtput : (daemonMachine.step daemon action).2 =
      .acknowledged rejection) :
    ∃ site, AwaitsStop setup site (daemonMachine.step daemon action).1 ∧
      (site = .refresh → DaemonStep.RefreshMeetsRejection
        (daemonMachine.fire daemon action)) := by
  have haction : action = .ownerStep := by
    apply eq_ownerStep_of_not_fromIngress
    rw [houtput]
    rfl
  have hdrain : (daemonMachine.step daemon action).2.fromDrain = true := by
    rw [houtput]
    rfl
  obtain ⟨site, rejectedPublication, found, howner, hstep⟩ :=
    exists_settle_of_fromDrain hdrain
  refine ⟨site, ?_, ?_⟩
  · rw [hstep] at houtput ⊢
    have houtcome := hgood.owner.drainOutcome hgood.ingress howner
    generalize daemon.consumeStagedCommands rejectedPublication found = result
      at houtcome houtput ⊢
    cases houtcome with
    | acknowledge hnew =>
        refine ⟨?_, rfl, ?_⟩
        · exact hgood.owner.configured.of_sameSetup ⟨rfl, rfl, rfl, rfl⟩
        · cases site with
          | refresh => exact .inl rfl
          | device input => exact .inr rfl
    | _ => cases houtput
  · intro hsite
    refine ⟨haction, rejectedPublication, found, ?_, ?_⟩
    · rw [Machine.fire_before, howner, hsite]
    · intro hknown
      rw [Machine.fire_before] at hknown
      rw [hstep] at houtput
      have houtcome := hgood.owner.drainOutcome hgood.ingress howner
      generalize daemon.consumeStagedCommands rejectedPublication found =
        result at houtcome houtput
      cases houtcome with
      | acknowledge hnew => omega
      | _ => cases houtput

/-- The stop is forced before the first adoption, if no newer command is met
before an evaluation. -/
theorem QuietUntilEvaluation.first
    {setup : DeviceSetup D} {clock : ℤ} {actions : List (DaemonAction D)}
    (hquiet : QuietUntilEvaluation (setup.schedule clock actions))
    {earlier before later : List (DaemonStep D)} {observe adopt : DaemonStep D}
    {rejection : ℕ} {event : StagedCommandEvent D}
    (hsplit : setup.schedule clock actions =
      earlier ++ observe :: (before ++ adopt :: later))
    (hrejection : observe.output = .acknowledged rejection)
    (hadopt : adopt.output = .consumed event .accepted)
    (hnone : ∀ step ∈ before, DaemonEvent.adopted? step.output = none) :
    ∃ step ∈ before, DaemonStep.SafeStopCycle step := by
  obtain ⟨daemon, action, rest, hgood, hobserve, htail⟩ :=
    DeviceSetup.schedule_split hsplit
  rw [hobserve] at hrejection
  obtain ⟨site, hwaits, hrefresh⟩ := hgood.awaitsStop hrejection
  obtain ⟨passed, input, _, _, hbefore, hfire, _⟩ :=
    Machine.trace_split htail.symm
  rw [hbefore] at hnone
  rcases hwaits.run passed hnone with hstop | ⟨hsilent, hlast⟩
  · rw [hbefore]
    exact hstop
  · have hsplit' : setup.schedule clock actions =
        (earlier ++ observe :: before) ++ adopt :: later := by
      rw [hsplit]
      simp
    obtain ⟨reached, chosen, _, hreached, hadopts, _⟩ :=
      DeviceSetup.schedule_split hsplit'
    have hsame : reached = daemonMachine.final
        (daemonMachine.step daemon action).1 passed := by
      rw [hfire] at hadopts
      exact (congrArg Transition.before hadopts).symm
    have hmeets : DaemonStep.MeetsNewerCommand adopt := by
      rw [hadopts] at hadopt ⊢
      exact hreached.meetsNewerCommand hadopt
    rcases hlast.phase with hsite | hevaluating
    · rw [← hobserve] at hrefresh
      rw [← hbefore] at hsilent
      exact absurd hmeets
        (hquiet earlier observe before adopt later hsplit (hrefresh hsite)
          hsilent)
    · obtain ⟨_, settleSite, read, howner, _⟩ := hmeets
      rw [hfire, Machine.fire_before] at howner
      rw [howner] at hevaluating
      contradiction

theorem QuietUntilEvaluation.forces
    {setup : DeviceSetup D} {clock : ℤ} {actions : List (DaemonAction D)}
    (hquiet : QuietUntilEvaluation (setup.schedule clock actions)) :
    RejectionForcesSafeStop (setup.schedule clock actions) := by
  intro earlier observe middle adopt later rejection event hsplit hrejection
    hadopt _
  have hsome : ∃ step ∈ middle ++ [adopt],
      (DaemonEvent.adopted? step.output).isSome = true := by
    refine ⟨adopt, by simp, ?_⟩
    rw [hadopt]
    rfl
  obtain ⟨first, hfirst⟩ := Option.isSome_iff_exists.mp
    (List.find?_isSome.mpr hsome)
  obtain ⟨hadopted, before, after, hfound, hnone⟩ :=
    List.find?_eq_some_iff_append.mp hfirst
  obtain ⟨newer, hnewer⟩ : ∃ newer, first.output = .consumed newer .accepted := by
    cases houtput : first.output with
    | consumed newer answer =>
        cases answer with
        | accepted => exact ⟨newer, rfl⟩
        | _ =>
            rw [houtput] at hadopted
            contradiction
    | _ =>
        rw [houtput] at hadopted
        contradiction
  have hsplit' : setup.schedule clock actions =
      earlier ++ observe :: (before ++ first :: (after ++ later)) := by
    have htail : middle ++ adopt :: later =
        before ++ first :: (after ++ later) := by
      rw [List.append_cons middle adopt later, hfound]
      simp
    rw [hsplit, htail]
  obtain ⟨stop, hmem, hcycle⟩ := hquiet.first hsplit' hrejection hnewer (by
    intro step hstep
    simpa using hnone step hstep)
  have hprefix : before <+: middle := by
    rcases List.prefix_concat_iff.mp ⟨first :: after, hfound.symm⟩ with
      hall | hprefix
    · have hlength := congrArg List.length hfound
      rw [hall] at hlength
      simp at hlength
    · exact hprefix
  exact ⟨stop, hprefix.subset hmem, hcycle⟩

/-- A newer command met before the evaluation is adopted without a stop. -/
theorem RejectionForcesSafeStop.quiet
    {setup : DeviceSetup D} {clock : ℤ} {actions : List (DaemonAction D)}
    (hforces : RejectionForcesSafeStop (setup.schedule clock actions)) :
    QuietUntilEvaluation (setup.schedule clock actions) := by
  intro earlier observe middle drain later hsplit hrefresh hsilent hmeets
  obtain ⟨daemon, action, _, hgood, hobserve, _⟩ :=
    DeviceSetup.schedule_split hsplit
  have hsplit' : setup.schedule clock actions =
      (earlier ++ observe :: middle) ++ drain :: later := by
    rw [hsplit]
    simp
  obtain ⟨reached, chosen, _, hreached, hdrain, _⟩ :=
    DeviceSetup.schedule_split hsplit'
  rw [hdrain] at hmeets
  obtain ⟨event, hadopt⟩ := hreached.adopts hmeets
  obtain ⟨hinput, rejectedPublication, found, howner, hnew⟩ := hrefresh
  have hrejection : observe.output = .acknowledged rejectedPublication := by
    rw [hobserve] at hinput howner hnew ⊢
    rw [Machine.fire_input] at hinput
    rw [Machine.fire_before] at howner hnew
    rw [Machine.fire_output, hinput, step_settle howner]
    unfold consumeStagedCommands
    rw [if_pos hnew]
  have hadopt' : drain.output = .consumed event .accepted := by
    rw [hdrain]
    exact hadopt
  have hnewer : rejectedPublication < event.publication := by
    have hbarrier := hreached.barrier observe (by simp) rejectedPublication
      hrejection
    have hconsumed := (hreached.barrierStep chosen).consumed event .accepted
      hadopt
    omega
  obtain ⟨stop, hmem, result, hcycle, _⟩ :=
    hforces earlier observe middle drain later rejectedPublication event hsplit
      hrejection hadopt' hnewer
  exact hsilent stop hmem ⟨result, hcycle⟩

/-- A rejection forces a safe-stop cycle in exactly those schedules in which no
drain between a rejection met at the head of a cycle and the next evaluation
meets a newer command. -/
theorem rejection_forces_safe_stop_iff
    (setup : DeviceSetup D) (clock : ℤ) (actions : List (DaemonAction D)) :
    RejectionForcesSafeStop (setup.schedule clock actions) ↔
      QuietUntilEvaluation (setup.schedule clock actions) :=
  ⟨RejectionForcesSafeStop.quiet, QuietUntilEvaluation.forces⟩

/-! ## A rejection without a stop -/

def DaemonEvent.acknowledged? : DaemonEvent D → Option ℕ
  | .acknowledged rejection => some rejection
  | _ => none

def DaemonEvent.cycled? : DaemonEvent D → Option (DeviceCycle D)
  | .cycled result => some result
  | _ => none

omit [FloatingPoint D] in
theorem DaemonEvent.eq_acknowledged
    {event : DaemonEvent D} {rejection : ℕ}
    (hevent : event.acknowledged? = some rejection) :
    event = .acknowledged rejection := by
  cases event with
  | acknowledged found =>
      simp only [DaemonEvent.acknowledged?, Option.some.injEq] at hevent
      rw [hevent]
  | _ => contradiction

omit [FloatingPoint D] in
theorem DaemonEvent.exists_consumed
    {event : DaemonEvent D} {publication : ℕ}
    (hevent : event.adopted?.map StagedCommandEvent.publication =
      some publication) :
    ∃ read, event = .consumed read .accepted ∧
      read.publication = publication := by
  cases event with
  | consumed read answer =>
      cases answer with
      | accepted => exact ⟨read, rfl, Option.some.inj hevent⟩
      | _ => contradiction
  | _ => contradiction

/-- A run with an adoption behind a rejection has to evaluate in between. -/
theorem RejectionForcesSafeStop.evaluates
    {start : RobotIoDaemon D} {first second third : List (DaemonAction D)}
    (hforces : RejectionForcesSafeStop (daemonMachine.trace start
      (first ++ .ownerStep :: (second ++ .ownerStep :: third))))
    {observed drained met : RobotIoDaemon D}
    (hobserved : observed = daemonMachine.final start first)
    (hdrained : drained = (daemonMachine.step observed .ownerStep).1)
    (hmet : met = daemonMachine.final drained second)
    {rejection publication : ℕ}
    (hrejection : (daemonMachine.step observed .ownerStep).2.acknowledged? =
      some rejection)
    (hadopt : (daemonMachine.step met .ownerStep).2.adopted?.map
      StagedCommandEvent.publication = some publication)
    (hnewer : rejection < publication) :
    ∃ step ∈ daemonMachine.trace drained second,
      step.output.cycled? ≠ none := by
  obtain ⟨event, hconsumed, hpublication⟩ := DaemonEvent.exists_consumed hadopt
  obtain ⟨stop, hmem, result, hcycle, _⟩ := hforces
    (daemonMachine.trace start first)
    (daemonMachine.fire observed .ownerStep)
    (daemonMachine.trace drained second) (daemonMachine.fire met .ownerStep)
    (daemonMachine.trace (daemonMachine.step met .ownerStep).1 third)
    rejection event (by
      simp only [Machine.trace_append, Machine.trace_cons, hmet, hdrained,
        hobserved])
    (DaemonEvent.eq_acknowledged hrejection) hconsumed (by
      rw [hpublication]
      exact hnewer)
  refine ⟨stop, hmem, ?_⟩
  rw [hcycle]
  nofun

/-- A producer call from its arrival to its return. -/
def armStage (snapshot : Snapshot (AxisCommand ℚ)) : List (DaemonAction ℚ) :=
  .stage 0 snapshot :: List.replicate 6 (.produce 0)

def armInput : DeviceInput where
  bus := healthyBus
  view := armView 0x0027 0

/-- A call of `cycle` up to its first drain. -/
def armRefresh : List (DaemonAction ℚ) :=
  [.beginCycle, .ownerStep, .ownerRead true]

/-- From the first drain of a cycle to its second. -/
def armAdmits : List (DaemonAction ℚ) :=
  [.ownerTransports (some armInput), .ownerStep, .ownerStep, .ownerRead true]

/-- From the second drain to the end of the cycle. -/
def armEvaluates : List (DaemonAction ℚ) :=
  [.ownerStep, .ownerStep, .ownerStep]

/-- A valid, a rejected and a newer valid snapshot are staged. -/
def armStages : List (DaemonAction ℚ) :=
  .start :: (armStage (armCommand 1 10 kAxisCommandEnable) ++
    armStage (armCommand 2 (-1) kAxisCommandEnable) ++
    armStage (armCommand 3 10 kAxisCommandEnable))

/-- One call of `cycle` acknowledges the rejection and adopts the newer
command before it evaluates. -/
theorem rejection_without_safe_stop :
    ¬ RejectionForcesSafeStop (singleAxisDevice.schedule 20
      ((armStages ++ armRefresh) ++ .ownerStep ::
        (armAdmits ++ .ownerStep :: armEvaluates))) := by
  intro hforces
  have hrejection : (daemonMachine.step
      (daemonMachine.final (singleAxisDevice.daemon 20)
        (armStages ++ armRefresh)) .ownerStep).2.acknowledged? = some 2 := by
    decide +kernel
  have hadopt : (daemonMachine.step
      (daemonMachine.final (daemonMachine.step
        (daemonMachine.final (singleAxisDevice.daemon 20)
          (armStages ++ armRefresh)) .ownerStep).1 armAdmits)
      .ownerStep).2.adopted?.map StagedCommandEvent.publication = some 3 := by
    decide +kernel
  have hsilent : (daemonMachine.trace (daemonMachine.step
      (daemonMachine.final (singleAxisDevice.daemon 20)
        (armStages ++ armRefresh)) .ownerStep).1 armAdmits).all
      (fun step => step.output.cycled?.isNone) = true := by
    decide +kernel
  obtain ⟨stop, hmem, hcycle⟩ := hforces.evaluates rfl rfl rfl hrejection
    hadopt (by decide)
  have hnone := List.all_eq_true.mp hsilent stop hmem
  rw [Option.isNone_iff_eq_none] at hnone
  exact hcycle hnone

end PolicyRuntime
