import PolicyRuntime.CommandIngress

/-!
# The command hand-off

Two copies of the acceptance latch run at different times: the ingress answers
the producers, the owner answers what it finds in the hand-off.  What the owner
adopts is a subsequence of what the ingress accepted, because the owner reads
the hand-off after the rejection counter and both only grow.
-/

namespace PolicyRuntime

open SafetySupervisor RobotIoDaemon

variable {D : Type} [FloatingPoint D] {setup : SupervisorSetup D}
  {accepted published adopted : List (StagedCommandEvent D)}
  {daemon next : RobotIoDaemon D}

/-! ## The owner invariant -/

/-- What the owner has stored is the newest event it adopted, and what it is
about to settle is at least as new. -/
structure OwnerInvariant (setup : SupervisorSetup D)
    (published adopted : List (StagedCommandEvent D))
    (daemon : RobotIoDaemon D) : Prop where
  configured : Configured setup daemon.safety
  adoptedPublished : adopted ⊆ published
  ordered : adopted.Pairwise StagedCommandEvent.Before
  stored : daemon.safety.StoresLast adopted
  acknowledged : daemon.acknowledgedRejectionPublication ≤
    daemon.rejectedCommandPublication
  loaded : ∀ site rejectedPublication,
    daemon.owner = .readHandoff site rejectedPublication →
      daemon.acknowledgedRejectionPublication ≤ rejectedPublication ∧
        rejectedPublication ≤ daemon.rejectedCommandPublication
  found : ∀ site rejectedPublication event,
    daemon.owner = .settle site rejectedPublication event →
      daemon.acknowledgedRejectionPublication ≤ rejectedPublication ∧
        rejectedPublication ≤ daemon.rejectedCommandPublication ∧
        ∀ read ∈ event, read ∈ published ∧
          ∀ older ∈ adopted, older.publication ≤ read.publication
  consumed : daemon.acknowledgedRejectionPublication <
      daemon.consumedCommandPublication →
    ∃ last, adopted.getLast? = some last ∧
      last.publication = daemon.consumedCommandPublication

theorem OwnerInvariant.rest
    (hgood : OwnerInvariant setup published adopted daemon)
    (hkept : SameBooks daemon next) (howner : next.owner = daemon.owner)
    (hrejected : daemon.rejectedCommandPublication ≤
      next.rejectedCommandPublication)
    {later : List (StagedCommandEvent D)} (hlater : published ⊆ later) :
    OwnerInvariant setup later adopted next := by
  have hsafety := hkept.safety
  constructor
  · rw [hsafety]
    exact hgood.configured
  · exact List.Subset.trans hgood.adoptedPublished hlater
  · exact hgood.ordered
  · rw [hsafety]
    exact hgood.stored
  · rw [hkept.acknowledged]
    exact hgood.acknowledged.trans hrejected
  · intro site rejectedPublication hread
    rw [howner] at hread
    rw [hkept.acknowledged]
    have hloaded := hgood.loaded site rejectedPublication hread
    exact ⟨hloaded.1, hloaded.2.trans hrejected⟩
  · intro site rejectedPublication event hsettle
    rw [howner] at hsettle
    rw [hkept.acknowledged]
    have hfound := hgood.found site rejectedPublication event hsettle
    refine ⟨hfound.1, hfound.2.1.trans hrejected, ?_⟩
    intro read hread
    have hevent := hfound.2.2 read hread
    exact ⟨hlater hevent.1, hevent.2⟩
  · rw [hkept.acknowledged, hkept.consumed]
    exact hgood.consumed

/-- The owner loads the rejection counter before it reads the hand-off. -/
theorem OwnerInvariant.moved
    (hgood : OwnerInvariant setup published adopted daemon)
    (hingress : IngressInvariant setup accepted published daemon)
    (hkept : SameBooks daemon next)
    (hmove : OwnerMove daemon daemon.owner next.owner)
    (hrejected : daemon.rejectedCommandPublication ≤
      next.rejectedCommandPublication) :
    OwnerInvariant setup published adopted next := by
  have hsafety := hkept.safety
  generalize hbefore : daemon.owner = before at hmove
  generalize hafter : next.owner = after at hmove
  constructor
  · rw [hsafety]
    exact hgood.configured
  · exact hgood.adoptedPublished
  · exact hgood.ordered
  · rw [hsafety]
    exact hgood.stored
  · rw [hkept.acknowledged]
    exact hgood.acknowledged.trans hrejected
  · intro site rejectedPublication hread
    rw [hread] at hafter
    rw [hkept.acknowledged]
    cases hmove with
    | load =>
        cases hafter
        exact ⟨hgood.acknowledged, hrejected⟩
    | skip | refuse => split at hafter <;> contradiction
    | _ => contradiction
  · intro site rejectedPublication event hsettle
    rw [hsettle] at hafter
    rw [hkept.acknowledged]
    cases hmove with
    | read =>
        cases hafter
        have hloaded := hgood.loaded site rejectedPublication hbefore
        refine ⟨hloaded.1, hloaded.2.trans hrejected, ?_⟩
        intro read hread
        rw [hingress.handoff] at hread
        refine ⟨List.mem_of_getLast? hread, ?_⟩
        intro older holder
        exact StagedCommandEvent.le_getLast hingress.published_ordered hread
          (hgood.adoptedPublished holder)
    | giveUp =>
        cases hafter
        have hloaded := hgood.loaded site rejectedPublication hbefore
        exact ⟨hloaded.1, hloaded.2.trans hrejected, by simp⟩
    | skip | refuse => split at hafter <;> contradiction
    | _ => contradiction
  · rw [hkept.acknowledged, hkept.consumed]
    exact hgood.consumed

/-! ## One drain -/

/-- What `consumeStagedCommands` can do once the invariants hold. -/
inductive DrainOutcome (daemon : RobotIoDaemon D)
    (adopted : List (StagedCommandEvent D)) (rejectedPublication : ℕ)
    (event : Option (StagedCommandEvent D)) :
    RobotIoDaemon D × DaemonEvent D → Prop
  | acknowledge
      (hnew : daemon.acknowledgedRejectionPublication < rejectedPublication) :
      DrainOutcome daemon adopted rejectedPublication event
        ({ daemon with
            acknowledgedRejectionPublication := rejectedPublication
            consumedCommandPublication :=
              if rejectedPublication < daemon.consumedCommandPublication then
                rejectedPublication
              else
                daemon.consumedCommandPublication }.setSafety
            { daemon.safety with commandsValid := false },
          .acknowledged rejectedPublication)
  | quiet
      (hknown : rejectedPublication = daemon.acknowledgedRejectionPublication)
      (hstale : ∀ read ∈ event,
        read.publication ≤ daemon.acknowledgedRejectionPublication ∨
          read.publication = daemon.consumedCommandPublication) :
      DrainOutcome daemon adopted rejectedPublication event (daemon, .silent)
  | adopt (read : StagedCommandEvent D) (hread : event = some read)
      (hknown : rejectedPublication = daemon.acknowledgedRejectionPublication)
      (hbarrier : daemon.acknowledgedRejectionPublication < read.publication)
      (hvalid :
        daemon.safety.validSnapshot read.snapshot daemon.clock = true)
      (hnewer : ∀ older ∈ adopted, older.Before read) :
      DrainOutcome daemon adopted rejectedPublication event
        ({ daemon with
            consumedCommandPublication := read.publication }.setSafety
            (daemon.safety.storeCommands read.snapshot),
          .consumed read .accepted)
  | replay (read : StagedCommandEvent D) (hread : event = some read)
      (hknown : rejectedPublication = daemon.acknowledgedRejectionPublication)
      (hbarrier : daemon.acknowledgedRejectionPublication < read.publication)
      (hlast : adopted.getLast? = some read) :
      DrainOutcome daemon adopted rejectedPublication event
        ({ daemon with
            consumedCommandPublication := read.publication }.setSafety
            daemon.safety,
          .consumed read .duplicate)

/-- The owner meets what it reads with the answer of the ingress, or with a
repetition. -/
theorem OwnerInvariant.answer
    (hgood : OwnerInvariant setup published adopted daemon)
    (hingress : IngressInvariant setup accepted published daemon)
    {read : StagedCommandEvent D} (hread : read ∈ published)
    (hnewest : ∀ older ∈ adopted, older.publication ≤ read.publication) :
    daemon.safety.validSnapshot read.snapshot daemon.clock = true ∧
      ((daemon.safety.acceptCommands read.snapshot daemon.clock =
          (daemon.safety.storeCommands read.snapshot, .accepted) ∧
        ∀ older ∈ adopted, older.Before read) ∨
      (daemon.safety.acceptCommands read.snapshot daemon.clock =
          (daemon.safety, .duplicate) ∧
        adopted.getLast? = some read)) := by
  have hsubset := hingress.published_subset
  have hvalid :
      daemon.safety.validSnapshot read.snapshot daemon.clock = true :=
    hingress.configured.validSnapshot hgood.configured
      (hingress.valid read (hsubset hread))
  refine ⟨hvalid, ?_⟩
  have hstored := hgood.stored
  cases hlast : adopted.getLast? with
  | none =>
      simp only [StoresLast, hlast] at hstored
      rw [List.getLast?_eq_none_iff] at hlast
      left
      constructor
      · apply acceptCommands_of_newer hvalid
        rw [hstored]
        intro hcommand
        contradiction
      · rw [hlast]
        intro older holder
        contradiction
  | some last =>
      simp only [StoresLast, hlast] at hstored
      have hmem : last ∈ adopted := List.mem_of_getLast? hlast
      have haccepted : last ∈ accepted :=
        hsubset (hgood.adoptedPublished hmem)
      rcases (hnewest last hmem).lt_or_eq with hlt | heq
      · left
        have hbefore := StagedCommandEvent.before_of_lt hingress.ordered
          haccepted (hsubset hread) hlt
        constructor
        · apply acceptCommands_of_newer hvalid
          intro _
          rw [hstored.sequence, hstored.timestamp]
          exact ⟨hbefore.sequence, hbefore.timestamp⟩
        · intro older holder
          apply StagedCommandEvent.before_of_lt hingress.ordered
            (hsubset (hgood.adoptedPublished holder)) (hsubset hread)
          have hle := StagedCommandEvent.le_getLast hgood.ordered hlast holder
          omega
      · right
        have hsame : last = read := StagedCommandEvent.eq_of_publication
          hingress.ordered haccepted (hsubset hread) heq
        rw [hsame] at hstored
        exact ⟨hstored.acceptCommands hvalid, congrArg some hsame⟩

theorem OwnerInvariant.drainOutcome
    (hgood : OwnerInvariant setup published adopted daemon)
    (hingress : IngressInvariant setup accepted published daemon)
    {site : DrainSite} {rejectedPublication : ℕ}
    {event : Option (StagedCommandEvent D)}
    (howner : daemon.owner = .settle site rejectedPublication event) :
    DrainOutcome daemon adopted rejectedPublication event
      (daemon.consumeStagedCommands rejectedPublication event) := by
  obtain ⟨hacknowledged, _, hfound⟩ :=
    hgood.found site rejectedPublication event howner
  unfold consumeStagedCommands
  by_cases hknown :
      rejectedPublication = daemon.acknowledgedRejectionPublication
  · rw [if_neg (not_not_intro hknown)]
    cases event with
    | none => exact .quiet hknown (by simp)
    | some read =>
        dsimp only
        by_cases hstale :
            read.publication ≤ daemon.acknowledgedRejectionPublication
        · rw [if_pos hstale]
          apply DrainOutcome.quiet hknown
          intro other hother
          rw [Option.mem_some_iff] at hother
          rw [← hother]
          exact .inl hstale
        · rw [if_neg hstale]
          by_cases hconsumed :
              read.publication = daemon.consumedCommandPublication
          · rw [if_pos hconsumed]
            apply DrainOutcome.quiet hknown
            intro other hother
            rw [Option.mem_some_iff] at hother
            rw [← hother]
            exact .inr hconsumed
          · rw [if_neg hconsumed]
            rw [not_le] at hstale
            obtain ⟨hread, hnewest⟩ := hfound read rfl
            obtain ⟨hvalid, hanswer⟩ := hgood.answer hingress hread hnewest
            rcases hanswer with ⟨hanswer, hnewer⟩ | ⟨hanswer, hlast⟩
            · rw [hanswer]
              exact .adopt read rfl hknown hstale hvalid hnewer
            · rw [hanswer]
              exact .replay read rfl hknown hstale hlast
  · rw [if_pos hknown,
      hgood.configured.acceptCommands_invalidSnapshot daemon.clock]
    exact .acknowledge (by omega)

/-! ## Steps of the owner -/

/-- The owner holds values which it read from the hand-off. -/
def OwnerPhase.draining : OwnerPhase D → Bool
  | .readHandoff _ _ | .settle _ _ _ => true
  | .idle | .loopHead | .loadRejection _ | .transports | .admitDevice _ |
    .readClock _ | .checkStop _ _ | .evaluate _ _ | .stopTransports => false

omit [FloatingPoint D] in
theorem afterDrain_draining
    (daemon : RobotIoDaemon D) (site : DrainSite) :
    (daemon.afterDrain site).draining = false := by
  cases site with
  | refresh =>
      dsimp only [afterDrain]
      split <;> rfl
  | device input => rfl

omit [FloatingPoint D] in
theorem finishCycle_draining (daemon : RobotIoDaemon D) :
    daemon.finishCycle.owner.draining = false := by
  simp only [finishCycle, setOwner]
  split <;> rfl

/-- Outside a drain the invariant does not read the phase. -/
theorem OwnerInvariant.outside
    (hphase : next.owner.draining = false)
    (hconfigured : Configured setup next.safety)
    (hadopted : adopted ⊆ published)
    (hordered : adopted.Pairwise StagedCommandEvent.Before)
    (hstored : next.safety.StoresLast adopted)
    (hacknowledged : next.acknowledgedRejectionPublication ≤
      next.rejectedCommandPublication)
    (hconsumed : next.acknowledgedRejectionPublication <
        next.consumedCommandPublication →
      ∃ last, adopted.getLast? = some last ∧
        last.publication = next.consumedCommandPublication) :
    OwnerInvariant setup published adopted next := by
  refine ⟨hconfigured, hadopted, hordered, hstored, hacknowledged, ?_, ?_,
    hconsumed⟩
  · intro site rejectedPublication hread
    rw [hread] at hphase
    contradiction
  · intro site rejectedPublication event hsettle
    rw [hsettle] at hphase
    contradiction

theorem OwnerInvariant.drain
    (hgood : OwnerInvariant setup published adopted daemon)
    (hingress : IngressInvariant setup accepted published daemon)
    {site : DrainSite} {rejectedPublication : ℕ}
    {event : Option (StagedCommandEvent D)}
    (howner : daemon.owner = .settle site rejectedPublication event) :
    OwnerInvariant setup published
      (adopted ++
        (daemon.consumeStagedCommands rejectedPublication
          event).2.adopted?.toList)
      ((daemon.consumeStagedCommands rejectedPublication event).1.setOwner
        (daemon.afterDrain site)) := by
  obtain ⟨_, hloaded, hfound⟩ :=
    hgood.found site rejectedPublication event howner
  have houtcome := hgood.drainOutcome hingress howner
  generalize daemon.consumeStagedCommands rejectedPublication event = result
    at houtcome ⊢
  cases houtcome with
  | acknowledge hnew =>
      simp only [DaemonEvent.adopted?, Option.toList_none, List.append_nil]
      apply OwnerInvariant.outside (afterDrain_draining daemon site)
      · exact hgood.configured.of_sameSetup ⟨rfl, rfl, rfl, rfl⟩
      · exact hgood.adoptedPublished
      · exact hgood.ordered
      · exact hgood.stored.invalidated
      · exact hloaded
      · intro hconsumed
        simp only [setOwner, setSafety] at hconsumed
        split at hconsumed <;> omega
  | quiet hknown hstale =>
      simp only [DaemonEvent.adopted?, Option.toList_none, List.append_nil]
      exact OwnerInvariant.outside (afterDrain_draining daemon site)
        hgood.configured hgood.adoptedPublished hgood.ordered hgood.stored
        hgood.acknowledged hgood.consumed
  | adopt read hread hknown hbarrier hvalid hnewer =>
      simp only [DaemonEvent.adopted?, Option.toList_some]
      apply OwnerInvariant.outside (afterDrain_draining daemon site)
      · exact hgood.configured.of_sameSetup ⟨rfl, rfl, rfl, rfl⟩
      · intro older holder
        rcases List.mem_append.mp holder with hold | hlast
        · exact hgood.adoptedPublished hold
        · rw [List.mem_singleton] at hlast
          rw [hlast]
          exact (hfound read hread).1
      · rw [List.pairwise_append]
        refine ⟨hgood.ordered, List.pairwise_singleton _ _, ?_⟩
        intro older holder last hlast
        rw [List.mem_singleton] at hlast
        rw [hlast]
        exact hnewer older holder
      · simp only [StoresLast, List.getLast?_concat]
        exact storeCommands_holds hvalid
      · exact hgood.acknowledged
      · intro _
        exact ⟨read, List.getLast?_concat, rfl⟩
  | replay read hread hknown hbarrier hlast =>
      simp only [DaemonEvent.adopted?, Option.toList_none, List.append_nil]
      apply OwnerInvariant.outside (afterDrain_draining daemon site)
      · exact hgood.configured
      · exact hgood.adoptedPublished
      · exact hgood.ordered
      · exact hgood.stored
      · exact hgood.acknowledged
      · intro _
        exact ⟨read, hlast, rfl⟩

theorem OwnerInvariant.sameCommands
    (hgood : OwnerInvariant setup published adopted daemon)
    (hphase : next.owner.draining = false)
    (hsame : daemon.safety.SameCommands next.safety)
    (hconsumed :
      next.consumedCommandPublication = daemon.consumedCommandPublication)
    (hacknowledged : next.acknowledgedRejectionPublication =
      daemon.acknowledgedRejectionPublication)
    (hrejected : next.rejectedCommandPublication =
      daemon.rejectedCommandPublication) :
    OwnerInvariant setup published adopted next := by
  apply OwnerInvariant.outside hphase
  · exact hgood.configured.of_sameSetup ⟨hsame.options, hsame.configs,
      hsame.axisCount, hsame.configured⟩
  · exact hgood.adoptedPublished
  · exact hgood.ordered
  · exact hgood.stored.of_sameCommands hsame
  · rw [hacknowledged, hrejected]
    exact hgood.acknowledged
  · rw [hacknowledged, hconsumed]
    exact hgood.consumed

omit [FloatingPoint D] in
theorem DaemonEvent.adopted?_of_fromIngress
    {event : DaemonEvent D} (hevent : event.fromIngress = true) :
    event.adopted? = none := by
  cases event with
  | consumed event answer => contradiction
  | _ => rfl

/-- The owner invariant is kept by every step. -/
theorem OwnerInvariant.step
    {steps : List (DaemonStep D)}
    (hgood : OwnerInvariant setup (publishedEvents steps)
      (adoptedEvents steps) daemon)
    (hingress : IngressInvariant setup (acceptedEvents steps)
      (publishedEvents steps) daemon) (action : DaemonAction D) :
    OwnerInvariant setup
      (publishedEvents (steps ++ [daemonMachine.fire daemon action]))
      (adoptedEvents (steps ++ [daemonMachine.fire daemon action]))
      (daemonMachine.step daemon action).1 := by
  have hrejected := hingress.rejected_le action
  have hstep := step_ownerStep daemon action
  unfold publishedEvents adoptedEvents
  rw [filterMap_concat, filterMap_concat, Machine.fire_output]
  generalize daemonMachine.step daemon action = result at hstep hrejected ⊢
  cases hstep with
  | rest hkept howner hentry hevent =>
      rw [DaemonEvent.adopted?_of_fromIngress hevent, Option.toList_none,
        List.append_nil]
      exact hgood.rest hkept howner hrejected
        (List.subset_append_left _ _)
  | moved hkept hmove hentry hrun =>
      simp only [DaemonEvent.adopted?, DaemonEvent.published?,
        Option.toList_none, List.append_nil]
      exact hgood.moved hingress hkept hmove hrejected
  | drained site rejectedPublication event howner =>
      have hevent := (consumeStagedCommands_sameIngress daemon
        rejectedPublication event).2
      rw [DaemonEvent.published?_of_fromOwner hevent, Option.toList_none,
        List.append_nil]
      exact hgood.drain hingress howner
  | shutdown input nowNs howner =>
      simp only [DaemonEvent.adopted?, DaemonEvent.published?,
        Option.toList_none, List.append_nil]
      exact hgood.sameCommands rfl ⟨rfl, rfl, rfl, rfl, rfl, rfl, rfl, rfl, rfl⟩
        rfl rfl rfl
  | cycled input nowNs howner =>
      simp only [evaluateDevices, DaemonEvent.adopted?, DaemonEvent.published?,
        Option.toList_none, List.append_nil]
      exact hgood.sameCommands (finishCycle_draining _)
        (evaluate_sameCommands _ _ _ _) rfl rfl rfl
  | stopped howner =>
      simp only [DaemonEvent.adopted?, DaemonEvent.published?,
        Option.toList_none, List.append_nil]
      exact hgood.sameCommands rfl ⟨rfl, rfl, rfl, rfl, rfl, rfl, rfl, rfl, rfl⟩
        rfl rfl rfl

/-! ## Schedules -/

/-- Both sides of the hand-off, and what the drains so far have answered. -/
structure HandoffInvariant (setup : SupervisorSetup D)
    (steps : List (DaemonStep D)) (daemon : RobotIoDaemon D) : Prop where
  ingress : IngressInvariant setup (acceptedEvents steps)
    (publishedEvents steps) daemon
  owner : OwnerInvariant setup (publishedEvents steps) (adoptedEvents steps)
    daemon
  answers : ∀ step ∈ steps, ∀ event, step.output ≠ .consumed event .rejected
  barrier : ∀ step ∈ steps, ∀ rejection,
    step.output = .acknowledged rejection →
      rejection ≤ daemon.acknowledgedRejectionPublication
  stale : steps.Pairwise fun earlier later => ∀ rejection event answer,
    earlier.output = .acknowledged rejection →
      later.output = .consumed event answer → rejection < event.publication

/-- What a step may answer, and what it does to the barrier. -/
structure BarrierStep (daemon : RobotIoDaemon D)
    (result : RobotIoDaemon D × DaemonEvent D) : Prop where
  mono : daemon.acknowledgedRejectionPublication ≤
    result.1.acknowledgedRejectionPublication
  acknowledged : ∀ rejection, result.2 = .acknowledged rejection →
    rejection ≤ result.1.acknowledgedRejectionPublication
  consumed : ∀ event answer, result.2 = .consumed event answer →
    answer ≠ .rejected ∧
      daemon.acknowledgedRejectionPublication < event.publication

theorem HandoffInvariant.barrierStep
    {steps : List (DaemonStep D)}
    (hgood : HandoffInvariant setup steps daemon) (action : DaemonAction D) :
    BarrierStep daemon (daemonMachine.step daemon action) := by
  have hstep := step_ownerStep daemon action
  generalize daemonMachine.step daemon action = result at hstep ⊢
  cases hstep with
  | rest hkept howner hentry hevent =>
      constructor
      · exact hkept.acknowledged.ge
      · intro rejection houtput
        subst houtput
        contradiction
      · intro event answer houtput
        subst houtput
        contradiction
  | moved hkept hmove hentry hrun =>
      exact ⟨hkept.acknowledged.ge, nofun, nofun⟩
  | drained site rejectedPublication event howner =>
      have houtcome := hgood.owner.drainOutcome hgood.ingress howner
      generalize daemon.consumeStagedCommands rejectedPublication event =
        drained at houtcome ⊢
      cases houtcome with
      | acknowledge hnew =>
          refine ⟨hnew.le, ?_, nofun⟩
          intro rejection houtput
          cases houtput
          exact le_refl _
      | quiet hknown hstale => exact ⟨le_refl _, nofun, nofun⟩
      | adopt read hread hknown hbarrier hvalid hnewer =>
          refine ⟨le_refl _, nofun, ?_⟩
          intro event answer houtput
          cases houtput
          exact ⟨nofun, hbarrier⟩
      | replay read hread hknown hbarrier hlast =>
          refine ⟨le_refl _, nofun, ?_⟩
          intro event answer houtput
          cases houtput
          exact ⟨nofun, hbarrier⟩
  | shutdown input nowNs howner => exact ⟨le_refl _, nofun, nofun⟩
  | cycled input nowNs howner => exact ⟨le_refl _, nofun, nofun⟩
  | stopped howner => exact ⟨le_refl _, nofun, nofun⟩

theorem HandoffInvariant.step
    {steps : List (DaemonStep D)}
    (hgood : HandoffInvariant setup steps daemon) (action : DaemonAction D) :
    HandoffInvariant setup (steps ++ [daemonMachine.fire daemon action])
      (daemonMachine.step daemon action).1 := by
  have hbarrier := hgood.barrierStep action
  constructor
  · exact hgood.ingress.step action
  · exact hgood.owner.step hgood.ingress action
  · intro step hmem event houtput
    rcases List.mem_append.mp hmem with hold | hnew
    · exact hgood.answers step hold event houtput
    · rw [List.mem_singleton] at hnew
      rw [hnew] at houtput
      exact (hbarrier.consumed event .rejected houtput).1 rfl
  · intro step hmem rejection houtput
    rcases List.mem_append.mp hmem with hold | hnew
    · exact (hgood.barrier step hold rejection houtput).trans hbarrier.mono
    · rw [List.mem_singleton] at hnew
      rw [hnew] at houtput
      exact hbarrier.acknowledged rejection houtput
  · rw [List.pairwise_append]
    refine ⟨hgood.stale, List.pairwise_singleton _ _, ?_⟩
    intro earlier hearlier later hlater rejection event answer hrejection
      hconsumed
    rw [List.mem_singleton] at hlater
    rw [hlater] at hconsumed
    have hle := hgood.barrier earlier hearlier rejection hrejection
    have hlt := (hbarrier.consumed event answer hconsumed).2
    omega

theorem SupervisorSetup.supervisor_hasCommand (setup : SupervisorSetup D) :
    setup.supervisor.hasCommand = false := by
  obtain ⟨configs, lastRequests, hframe⟩ := setup.supervisor_frame
  rw [hframe]
  rfl

theorem DeviceSetup.ingressInvariant_daemon
    (setup : DeviceSetup D) (clock : ℤ) :
    IngressInvariant setup.toSupervisorSetup [] [] (setup.daemon clock) where
  configured := setup.configured_after []
  gate := ⟨nofun, nofun⟩
  ordered := List.Pairwise.nil
  numbered := nofun
  valid := nofun
  stored := setup.supervisor_hasCommand
  publishing := nofun
  settled := fun _ => rfl
  handoff := rfl
  rejected := le_refl 0
  rejecting := nofun

theorem DeviceSetup.ownerInvariant_daemon
    (setup : DeviceSetup D) (clock : ℤ) :
    OwnerInvariant setup.toSupervisorSetup [] [] (setup.daemon clock) where
  configured := setup.configured_after []
  adoptedPublished := List.Subset.refl []
  ordered := List.Pairwise.nil
  stored := setup.supervisor_hasCommand
  acknowledged := le_refl 0
  loaded := nofun
  found := nofun
  consumed := fun hlt => absurd hlt (Nat.lt_irrefl 0)

theorem DeviceSetup.handoffInvariant
    (setup : DeviceSetup D) (clock : ℤ) (actions : List (DaemonAction D)) :
    HandoffInvariant setup.toSupervisorSetup (setup.schedule clock actions)
      (daemonMachine.final (setup.daemon clock) actions) := by
  apply Machine.history_final (HandoffInvariant setup.toSupervisorSetup)
  · constructor
    · exact setup.ingressInvariant_daemon clock
    · exact setup.ownerInvariant_daemon clock
    · intro step hstep
      exact absurd hstep List.not_mem_nil
    · intro step hstep
      exact absurd hstep List.not_mem_nil
    · exact List.Pairwise.nil
  · intro steps daemon action hgood
    exact hgood.step action

/-- The owner agrees with the ingress. -/
structure OwnerAgreement (steps : List (DaemonStep D)) : Prop where
  subsequence : List.Sublist
    ((adoptedEvents steps).map StagedCommandEvent.snapshot)
    ((acceptedEvents steps).map StagedCommandEvent.snapshot)
  increasing : ((adoptedEvents steps).map StagedCommandEvent.snapshot).Pairwise
    fun earlier later => earlier.sequence < later.sequence ∧
      earlier.timestampNs ≤ later.timestampNs
  neverRejected : ∀ step ∈ steps, ∀ event,
    step.output ≠ .consumed event .rejected
  neverStale : steps.Pairwise fun earlier later =>
    ∀ rejection event answer, earlier.output = .acknowledged rejection →
      later.output = .consumed event answer → rejection < event.publication

/-- Under every schedule the supervisors of ingress and owner agree. -/
theorem owner_agrees_with_ingress
    (setup : DeviceSetup D) (clock : ℤ) (actions : List (DaemonAction D)) :
    OwnerAgreement (setup.schedule clock actions) := by
  have hgood := setup.handoffInvariant clock actions
  have hsubset : adoptedEvents (setup.schedule clock actions) ⊆
      acceptedEvents (setup.schedule clock actions) :=
    List.Subset.trans hgood.owner.adoptedPublished
      hgood.ingress.published_subset
  constructor
  · apply List.Sublist.map
    exact sublist_of_increasing_of_subset
      (hgood.owner.ordered.imp fun hbefore => hbefore.publication)
      (hgood.ingress.ordered.imp fun hbefore => hbefore.publication) hsubset
  · rw [List.pairwise_map]
    exact hgood.owner.ordered.imp fun hbefore =>
      ⟨hbefore.sequence, hbefore.timestamp⟩
  · exact hgood.answers
  · exact hgood.stale

end PolicyRuntime
