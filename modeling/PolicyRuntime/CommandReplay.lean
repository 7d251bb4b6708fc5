import PolicyRuntime.SafeStop

/-!
# The replay of a raced command

The owner loads the rejection counter before it reads the hand-off, so it can
adopt a command ahead of a rejection with a smaller number.  When it
acknowledges that rejection it forgets the publication, in order to pass the
command to the supervisor again.  The supervisor stored the command already and
answers the repetition without making it valid.
-/

namespace PolicyRuntime

open SafetySupervisor RobotIoDaemon

variable {D : Type} [FloatingPoint D] {setup : SupervisorSetup D}
  {daemon next : RobotIoDaemon D} {event : StagedCommandEvent D}

/-- The owner consumed an accepted publication, acknowledges an older rejection
afterwards, and nothing is published any more. -/
structure RacedRejection (earlier : List (DaemonStep D))
    (observe : DaemonStep D) (later : List (DaemonStep D)) (rejection : ℕ)
    (event : StagedCommandEvent D) : Prop where
  consumed : ∃ step ∈ earlier, step.output = .consumed event .accepted
  acknowledged : observe.output = .acknowledged rejection
  raced : rejection < event.publication
  newest : observe.before.commandHandoff = some event
  unpublished : ∀ step ∈ later, ∀ newer, step.output ≠ .published newer
  unrejected : ∀ step ∈ later, ∀ publication,
    step.output ≠ .rejectionStored publication

/-- The supervisor of the owner holds the command again, and it is valid. -/
def ReplayTakesEffect (later : List (DaemonStep D))
    (event : StagedCommandEvent D) : Prop :=
  ∃ step ∈ later, step.after.safety.Holds event.snapshot ∧
    step.after.safety.commandsValid = true

/-! ## The stored command -/

theorem SafetySupervisor.Holds.not_accepted
    {supervisor : SafetySupervisor D} {snapshot : Snapshot (AxisCommand D)}
    (hholds : supervisor.Holds snapshot) (nowNs : ℤ) :
    (supervisor.acceptCommands snapshot nowNs).2 ≠ .accepted := by
  rcases acceptCommands_cases supervisor snapshot nowNs with
    hcase | ⟨hcase, _⟩ | ⟨hcase, _, hnewer⟩
  · rw [hcase]
    nofun
  · rw [hcase]
    nofun
  · have hlt := (hnewer hholds.hasCommand).1
    rw [hholds.sequence] at hlt
    exact absurd hlt (Nat.lt_irrefl _)

/-- The last event of the hand-off, once adopted, is the stored one. -/
theorem HandoffInvariant.holds_newest
    {steps : List (DaemonStep D)}
    (hgood : HandoffInvariant setup steps daemon)
    (hnewest : daemon.commandHandoff = some event)
    (hadopted : event ∈ adoptedEvents steps) :
    daemon.safety.Holds event.snapshot := by
  have hstored := hgood.owner.stored
  cases hlast : (adoptedEvents steps).getLast? with
  | none =>
      rw [List.getLast?_eq_none_iff] at hlast
      rw [hlast] at hadopted
      contradiction
  | some last =>
      simp only [StoresLast, hlast] at hstored
      have hmem : last ∈ publishedEvents steps :=
        hgood.owner.adoptedPublished (List.mem_of_getLast? hlast)
      have hle := StagedCommandEvent.le_getLast hgood.owner.ordered hlast
        hadopted
      rw [hgood.ingress.handoff] at hnewest
      have hge := StagedCommandEvent.le_getLast
        hgood.ingress.published_ordered hnewest hmem
      have hsame : last = event := StagedCommandEvent.eq_of_publication
        hgood.ingress.published_ordered hmem
        (hgood.owner.adoptedPublished hadopted) (by omega)
      rw [← hsame]
      exact hstored

/-! ## Stuck states -/

/-- The stored command is invalid and the hand-off offers nothing else. -/
structure ReplayStuck (setup : SupervisorSetup D)
    (event : StagedCommandEvent D) (daemon : RobotIoDaemon D) : Prop where
  configured : Configured setup daemon.safety
  holds : daemon.safety.Holds event.snapshot
  invalid : daemon.safety.commandsValid = false
  handoff : daemon.commandHandoff = some event
  found : ∀ site rejectedPublication found,
    daemon.owner = .settle site rejectedPublication found →
      ∀ read ∈ found, read = event

theorem handoff_of_unpublished
    {action : DaemonAction D}
    (hunpublished : ∀ newer, (daemonMachine.step daemon action).2 ≠
      .published newer) :
    (daemonMachine.step daemon action).1.commandHandoff =
      daemon.commandHandoff := by
  cases step_ingressStep daemon action with
  | produced producer haction =>
      subst haction
      simp only [daemonMachine, RobotIoDaemon.step, RobotIoDaemon.produce]
        at hunpublished ⊢
      cases hproducer : daemon.producers producer with
      | publishing newer =>
          rw [hproducer] at hunpublished
          exact absurd rfl (hunpublished newer)
      | arriving snapshot | spinning snapshot | holding snapshot =>
          dsimp only
          split <;> rfl
      | deciding snapshot =>
          dsimp only
          split <;> rfl
      | _ => rfl
  | staged producer snapshot haction =>
      subst haction
      simp only [daemonMachine, RobotIoDaemon.step, RobotIoDaemon.stage]
      split <;> rfl
  | kept hsame hevent => exact hsame.handoff

/-- A drain of a stuck daemon adopts nothing. -/
theorem ReplayStuck.adopted?_eq_none
    (hstuck : ReplayStuck setup event daemon) {site : DrainSite}
    {rejectedPublication : ℕ} {found : Option (StagedCommandEvent D)}
    (howner : daemon.owner = .settle site rejectedPublication found) :
    (daemon.consumeStagedCommands rejectedPublication
      found).2.adopted? = none := by
  unfold consumeStagedCommands
  split
  · rfl
  · cases found with
    | none => rfl
    | some read =>
        have hread := hstuck.found site rejectedPublication _ howner read rfl
        have hanswer := hstuck.holds.not_accepted daemon.clock
        rw [← hread] at hanswer
        dsimp only
        split
        · rfl
        · split
          · rfl
          · cases hcase : (daemon.safety.acceptCommands read.snapshot
              daemon.clock).2 with
            | accepted => exact absurd hcase hanswer
            | _ => rfl

theorem ReplayStuck.of_sameCommands
    (hstuck : ReplayStuck setup event daemon)
    (hsame : daemon.safety.SameCommands next.safety)
    (hhandoff : next.commandHandoff = some event)
    (hfound : ∀ site rejectedPublication found,
      next.owner = .settle site rejectedPublication found →
        ∀ read ∈ found, read = event) : ReplayStuck setup event next := by
  refine ⟨?_, hsame.holds hstuck.holds, ?_, hhandoff, hfound⟩
  · exact hstuck.configured.of_sameSetup
      ⟨hsame.options, hsame.configs, hsame.axisCount, hsame.configured⟩
  · rw [hsame.commandsValid]
    exact hstuck.invalid

theorem ReplayStuck.outside
    (hstuck : ReplayStuck setup event daemon)
    (hsame : daemon.safety.SameCommands next.safety)
    (hhandoff : next.commandHandoff = some event)
    (hphase : next.owner.draining = false) : ReplayStuck setup event next := by
  apply hstuck.of_sameCommands hsame hhandoff
  intro site rejectedPublication found hsettle
  rw [hsettle] at hphase
  contradiction

/-- The invariant of a stuck daemon, kept while nothing is published. -/
theorem ReplayStuck.step
    (hstuck : ReplayStuck setup event daemon) {action : DaemonAction D}
    (hunpublished : ∀ newer, (daemonMachine.step daemon action).2 ≠
      .published newer) :
    ReplayStuck setup event (daemonMachine.step daemon action).1 := by
  have hhandoff := (handoff_of_unpublished hunpublished).trans hstuck.handoff
  have hstep := step_ownerStep daemon action
  generalize daemonMachine.step daemon action = outcome at hstep hhandoff ⊢
  cases hstep with
  | rest hkept howner hentry hevent =>
      apply hstuck.of_sameCommands hkept.sameCommands hhandoff
      rw [howner]
      exact hstuck.found
  | moved hkept hmove hentry hrun =>
      apply hstuck.of_sameCommands hkept.sameCommands hhandoff
      intro site rejectedPublication found hsettle read hread
      generalize daemon.owner = before at hmove
      generalize hafter : RobotIoDaemon.owner _ = after at hmove
      rw [hsettle] at hafter
      cases hmove with
      | read =>
          cases hafter
          rw [hstuck.handoff, Option.mem_some_iff] at hread
          exact hread.symm
      | giveUp =>
          cases hafter
          contradiction
      | skip | refuse => split at hafter <;> contradiction
      | _ => contradiction
  | drained site rejectedPublication found howner =>
      exact hstuck.outside
        (hstuck.configured.drain_sameCommands hstuck.invalid
          (hstuck.adopted?_eq_none howner)) hhandoff
        (afterDrain_draining daemon site)
  | shutdown input nowNs howner =>
      exact hstuck.outside ⟨rfl, rfl, rfl, rfl, rfl, rfl, rfl, rfl, rfl⟩
        hhandoff rfl
  | cycled input nowNs howner =>
      exact hstuck.outside (evaluate_sameCommands _ _ _ _) hhandoff
        (finishCycle_draining _)
  | stopped howner => exact hstuck.outside (SameCommands.refl _) hhandoff rfl

theorem ReplayStuck.run
    (hstuck : ReplayStuck setup event daemon) (actions : List (DaemonAction D))
    (hunpublished : ∀ step ∈ daemonMachine.trace daemon actions,
      ∀ newer, step.output ≠ .published newer) :
    ∀ step ∈ daemonMachine.trace daemon actions,
      ReplayStuck setup event step.after := by
  induction actions generalizing daemon with
  | nil =>
      intro step hstep
      exact absurd hstep List.not_mem_nil
  | cons action rest ih =>
      rw [Machine.trace_cons, List.forall_mem_cons] at hunpublished ⊢
      have hnext := hstuck.step hunpublished.1
      exact ⟨hnext, ih hnext hunpublished.2⟩

/-- The acknowledgement of the raced rejection leaves the daemon stuck. -/
theorem HandoffInvariant.replayStuck
    {steps : List (DaemonStep D)}
    (hgood : HandoffInvariant setup steps daemon) {action : DaemonAction D}
    {rejection : ℕ}
    (houtput : (daemonMachine.step daemon action).2 =
      .acknowledged rejection)
    (hnewest : daemon.commandHandoff = some event)
    (hadopted : event ∈ adoptedEvents steps) :
    ReplayStuck setup event (daemonMachine.step daemon action).1 := by
  have hholds := hgood.holds_newest hnewest hadopted
  have hdrain : (daemonMachine.step daemon action).2.fromDrain = true := by
    rw [houtput]
    rfl
  obtain ⟨site, rejectedPublication, found, howner, hstep⟩ :=
    exists_settle_of_fromDrain hdrain
  rw [hstep] at houtput ⊢
  have hphase := afterDrain_draining daemon site
  have houtcome := hgood.owner.drainOutcome hgood.ingress howner
  generalize daemon.consumeStagedCommands rejectedPublication found = result
    at houtcome houtput ⊢
  cases houtcome with
  | acknowledge hnew =>
      refine ⟨?_, hholds.invalidated, rfl, hnewest, ?_⟩
      · exact hgood.owner.configured.of_sameSetup ⟨rfl, rfl, rfl, rfl⟩
      · intro drainSite loaded read hsettle
        have hsettle' : daemon.afterDrain site =
          .settle drainSite loaded read := hsettle
        rw [hsettle'] at hphase
        contradiction
  | _ => cases houtput

/-- The replayed command never becomes valid again. -/
theorem replay_never_takes_effect
    (setup : DeviceSetup D) (clock : ℤ) (actions : List (DaemonAction D))
    (earlier : List (DaemonStep D)) (observe : DaemonStep D)
    (later : List (DaemonStep D)) (rejection : ℕ)
    (event : StagedCommandEvent D)
    (hsplit : setup.schedule clock actions = earlier ++ observe :: later)
    (hraced : RacedRejection earlier observe later rejection event) :
    ¬ ReplayTakesEffect later event ∧
      ∀ step ∈ later, step.after.safety.Holds event.snapshot ∧
        step.after.safety.commandsValid = false := by
  obtain ⟨daemon, action, rest, hgood, hobserve, hlater⟩ :=
    DeviceSetup.schedule_split hsplit
  have hadopted : event ∈ adoptedEvents earlier := by
    obtain ⟨step, hmem, houtput⟩ := hraced.consumed
    refine List.mem_filterMap.mpr ⟨step, hmem, ?_⟩
    rw [houtput]
    rfl
  have hnewest := hraced.newest
  have hrejection := hraced.acknowledged
  have hunpublished := hraced.unpublished
  rw [hobserve] at hnewest hrejection
  rw [hlater] at hunpublished
  have hstuck := (hgood.replayStuck hrejection hnewest hadopted).run rest
    hunpublished
  rw [← hlater] at hstuck
  refine ⟨?_, fun step hstep => ⟨(hstuck step hstep).holds,
    (hstuck step hstep).invalid⟩⟩
  rintro ⟨step, hstep, _, hvalid⟩
  rw [(hstuck step hstep).invalid] at hvalid
  contradiction

/-! ## A raced rejection -/

/-- The publication which a drain passed to the supervisor of the owner. -/
def DaemonEvent.consumed? : DaemonEvent D → Option ℕ
  | .consumed event _ => some event.publication
  | _ => none

/-- The required stop is over and the owner has replayed the command. -/
def Replayed (later : List (DaemonStep D)) (event : StagedCommandEvent D) :
    Prop :=
  ∃ first stop second drain rest,
    later = first ++ stop :: (second ++ drain :: rest) ∧
    DaemonStep.SafeStopCycle stop ∧
    DaemonEvent.consumed? drain.output = some event.publication

/-- A command which raced ahead of a rejection takes effect by its replay. -/
def RacedCommandsTakeEffect (steps : List (DaemonStep D)) : Prop :=
  ∀ earlier observe later rejection event,
    steps = earlier ++ observe :: later →
    RacedRejection earlier observe later rejection event →
    Replayed later event → ReplayTakesEffect later event

theorem HandoffInvariant.handoff_eq
    {steps : List (DaemonStep D)}
    (hgood : HandoffInvariant setup steps daemon)
    (hadopted : event ∈ adoptedEvents steps)
    (hsame : daemon.commandHandoff.map StagedCommandEvent.publication =
      some event.publication) : daemon.commandHandoff = some event := by
  obtain ⟨newest, hnewest, hpublication⟩ := Option.map_eq_some_iff.mp hsame
  have hmem : newest ∈ publishedEvents steps := by
    rw [hgood.ingress.handoff] at hnewest
    exact List.mem_of_getLast? hnewest
  rw [hnewest, StagedCommandEvent.eq_of_publication
    hgood.ingress.published_ordered hmem
    (hgood.owner.adoptedPublished hadopted) hpublication]

/-- The conditions of a raced rejection, by publication numbers. -/
theorem exists_racedRejection
    (setup : DeviceSetup D) (clock : ℤ) (before after : List (DaemonAction D))
    {rejection publication : ℕ}
    (hadopted : publication ∈ (adoptedEvents
      (setup.schedule clock before)).map StagedCommandEvent.publication)
    (hrejection : (daemonMachine.step (daemonMachine.final
      (setup.daemon clock) before) .ownerStep).2.acknowledged? =
        some rejection)
    (hraced : rejection < publication)
    (hnewest : (daemonMachine.final (setup.daemon clock)
      before).commandHandoff.map StagedCommandEvent.publication =
        some publication)
    (hquiet : (daemonMachine.trace (daemonMachine.step (daemonMachine.final
      (setup.daemon clock) before) .ownerStep).1 after).all
        (fun step => step.output.fromOwner) = true) :
    ∃ event, event.publication = publication ∧
      RacedRejection (setup.schedule clock before)
        (daemonMachine.fire
          (daemonMachine.final (setup.daemon clock) before) .ownerStep)
        (daemonMachine.trace (daemonMachine.step (daemonMachine.final
          (setup.daemon clock) before) .ownerStep).1 after)
        rejection event := by
  obtain ⟨event, hevent, hpublication⟩ := List.mem_map.mp hadopted
  rw [← hpublication] at hnewest hraced
  refine ⟨event, hpublication, ?_⟩
  constructor
  · obtain ⟨step, hstep, houtput⟩ := List.mem_filterMap.mp hevent
    refine ⟨step, hstep, ?_⟩
    obtain ⟨read, hread, _⟩ := DaemonEvent.exists_consumed
      (congrArg (Option.map StagedCommandEvent.publication) houtput)
    rw [hread] at houtput ⊢
    rw [Option.some.inj houtput]
  · exact DaemonEvent.eq_acknowledged hrejection
  · exact hraced
  · exact (setup.handoffInvariant clock before).handoff_eq hevent hnewest
  · intro step hstep newer houtput
    have howner := List.all_eq_true.mp hquiet step hstep
    rw [houtput] at howner
    contradiction
  · intro step hstep number houtput
    have howner := List.all_eq_true.mp hquiet step hstep
    rw [houtput] at howner
    contradiction

omit [FloatingPoint D] in
theorem DaemonStep.safeStopCycle_of_cycled
    {step : DaemonStep D}
    (hinvalid : step.before.safety.commandsValid = false)
    (hcycled : (step.output.cycled?.any fun result =>
      decide (∀ axis : Axis, axis.val < step.before.safety.axisCount →
        result.decisions.feedbackFlags axis &&&
          kAxisFeedbackSafetyInvalidCommand ≠ 0)) = true) :
    DaemonStep.SafeStopCycle step := by
  cases houtput : step.output with
  | cycled result =>
      rw [houtput] at hcycled
      exact ⟨result, houtput, hinvalid, of_decide_eq_true hcycled⟩
  | _ =>
      rw [houtput] at hcycled
      contradiction

/-- The owner has loaded the rejection counter when a snapshot is rejected and
a newer one accepted, and meets the rejection in its second drain. -/
def armRaces : List (DaemonAction ℚ) :=
  [.start, .beginCycle, .ownerStep] ++
    armStage (armCommand 1 (-1) kAxisCommandEnable) ++
    armStage (armCommand 2 10 kAxisCommandEnable) ++
    [.ownerRead true, .ownerStep] ++ armAdmits

/-- The stop, and a second cycle which replays the command. -/
def armReplays : List (DaemonAction ℚ) :=
  [.ownerStep, .ownerStep] ++ .ownerStep :: (armRefresh ++ .ownerStep ::
    (armAdmits ++ .ownerStep :: armEvaluates))

/-- The daemon which meets the rejection. -/
def armRaced : RobotIoDaemon ℚ :=
  daemonMachine.final (singleAxisDevice.daemon 20) armRaces

def armStopping : RobotIoDaemon ℚ :=
  (daemonMachine.step armRaced .ownerStep).1

theorem armRaces_racedRejection :
    ∃ event, event.publication = 2 ∧
      RacedRejection (singleAxisDevice.schedule 20 armRaces)
        (daemonMachine.fire armRaced .ownerStep)
        (daemonMachine.trace armStopping armReplays) 1 event := by
  have hadopted : 2 ∈ (adoptedEvents (singleAxisDevice.schedule 20
      armRaces)).map StagedCommandEvent.publication := by
    decide +kernel
  have hrejection : (daemonMachine.step armRaced .ownerStep).2.acknowledged? =
      some 1 := by
    decide +kernel
  have hnewest : armRaced.commandHandoff.map StagedCommandEvent.publication =
      some 2 := by
    decide +kernel
  have hquiet : (daemonMachine.trace armStopping armReplays).all
      (fun step => step.output.fromOwner) = true := by
    decide +kernel
  exact exists_racedRejection singleAxisDevice 20 armRaces armReplays hadopted
    hrejection (by decide) hnewest hquiet

theorem replay_never_takes_effect_singleAxisDevice :
    ∃ event, event.publication = 2 ∧
      ¬ ReplayTakesEffect (daemonMachine.trace armStopping armReplays)
        event := by
  obtain ⟨event, hpublication, hraced⟩ := armRaces_racedRejection
  refine ⟨event, hpublication, ?_⟩
  exact (replay_never_takes_effect singleAxisDevice 20
    (armRaces ++ .ownerStep :: armReplays) _ _ _ 1 event
    (Machine.trace_append _ _ _ _) hraced).1

theorem Replayed.of_run
    {start stopping replaying : RobotIoDaemon D}
    {first second third : List (DaemonAction D)}
    (hstopping : stopping = daemonMachine.final start first)
    (hreplaying : replaying = daemonMachine.final
      (daemonMachine.step stopping .ownerStep).1 second)
    (hstop : DaemonStep.SafeStopCycle
      (daemonMachine.fire stopping .ownerStep))
    (hdrain : (daemonMachine.step replaying .ownerStep).2.consumed? =
      some event.publication) :
    Replayed (daemonMachine.trace start
      (first ++ .ownerStep :: (second ++ .ownerStep :: third))) event := by
  refine ⟨daemonMachine.trace start first, _, daemonMachine.trace
    (daemonMachine.step stopping .ownerStep).1 second,
    daemonMachine.fire replaying .ownerStep, daemonMachine.trace
      (daemonMachine.step replaying .ownerStep).1 third, ?_, hstop, hdrain⟩
  simp only [Machine.trace_append, Machine.trace_cons, hreplaying, hstopping]

/-- The owner replays the command after a safe-stop cycle, and it stays
invalid. -/
theorem raced_command_stays_invalid :
    ¬ RacedCommandsTakeEffect (singleAxisDevice.schedule 20
      (armRaces ++ .ownerStep :: armReplays)) := by
  intro hclaim
  obtain ⟨event, hpublication, hraced⟩ := armRaces_racedRejection
  have hinvalid : (daemonMachine.final armStopping
      [.ownerStep, .ownerStep]).safety.commandsValid = false := by
    decide +kernel
  have hcycled : ((daemonMachine.step (daemonMachine.final armStopping
      [.ownerStep, .ownerStep]) .ownerStep).2.cycled?.any fun result =>
        decide (∀ axis : Axis, axis.val < (daemonMachine.final armStopping
          [.ownerStep, .ownerStep]).safety.axisCount →
            result.decisions.feedbackFlags axis &&&
              kAxisFeedbackSafetyInvalidCommand ≠ 0)) = true := by
    decide +kernel
  have hdrain : (daemonMachine.step (daemonMachine.final
      (daemonMachine.step (daemonMachine.final armStopping
        [.ownerStep, .ownerStep]) .ownerStep).1 armRefresh)
      .ownerStep).2.consumed? = some 2 := by
    decide +kernel
  have hnever : (daemonMachine.trace armStopping armReplays).all
      (fun step => !step.after.safety.commandsValid) = true := by
    decide +kernel
  rw [← hpublication] at hdrain
  obtain ⟨step, hstep, _, hvalid⟩ := hclaim _ _ _ 1 event
    (Machine.trace_append _ _ _ _) hraced
    (Replayed.of_run rfl rfl
      (DaemonStep.safeStopCycle_of_cycled hinvalid hcycled) hdrain)
  have hstays := List.all_eq_true.mp hnever step hstep
  rw [hvalid] at hstays
  exact Bool.false_ne_true hstays

end PolicyRuntime
