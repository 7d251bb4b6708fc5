import PolicyRuntime.Daemon

/-!
# Steps of the daemon

What one scheduled step does, seen from the two sides of the hand-off.  The
owner side is a transition relation with one constructor per access; on the
ingress side only the producers write.
-/

namespace PolicyRuntime

open SafetySupervisor RobotIoDaemon

variable {D : Type}

/-! ## The owner side -/

/-- What a step of the owner leaves alone unless it drains, cycles or stops. -/
structure SameBooks (daemon next : RobotIoDaemon D) : Prop where
  device : next.device = daemon.device
  consumed :
    next.consumedCommandPublication = daemon.consumedCommandPublication
  acknowledged : next.acknowledgedRejectionPublication =
    daemon.acknowledgedRejectionPublication
  shutdownComplete : next.shutdownComplete = daemon.shutdownComplete
  running : daemon.running = true → next.running = true

/-- The phases which the owner passes without writing its books. -/
inductive OwnerMove (daemon : RobotIoDaemon D) :
    OwnerPhase D → OwnerPhase D → Prop
  | enterRun (hrunning : daemon.running = true) : OwnerMove daemon .idle .loopHead
  | loop (hrunning : daemon.running = true)
      (hopen : daemon.shutdownComplete = false) :
      OwnerMove daemon .loopHead (.loadRejection .refresh)
  | leave (hdone : daemon.running = false ∨ daemon.shutdownComplete = true) :
      OwnerMove daemon .loopHead .stopTransports
  | enterRefresh : OwnerMove daemon .idle (.loadRejection .refresh)
  | enterDevice (input : DeviceInput) :
      OwnerMove daemon .idle (.admitDevice input)
  | load (site : DrainSite) : OwnerMove daemon (.loadRejection site)
      (.readHandoff site daemon.rejectedCommandPublication)
  | read (site : DrainSite) (rejectedPublication : ℕ) :
      OwnerMove daemon (.readHandoff site rejectedPublication)
        (.settle site rejectedPublication daemon.commandHandoff)
  | giveUp (site : DrainSite) (rejectedPublication : ℕ) :
      OwnerMove daemon (.readHandoff site rejectedPublication)
        (.settle site rejectedPublication none)
  | supply (input : DeviceInput) :
      OwnerMove daemon .transports (.admitDevice input)
  | skip : OwnerMove daemon .transports
      (if daemon.entry = .run then .loopHead else .idle)
  | proceed (input : DeviceInput) :
      OwnerMove daemon (.admitDevice input) (.loadRejection (.device input))
  | refuse (input : DeviceInput) : OwnerMove daemon (.admitDevice input)
      (if daemon.entry = .run then .loopHead else .idle)
  | clock (input : DeviceInput) : OwnerMove daemon (.readClock input)
      (.checkStop input daemon.clock)
  | pass (input : DeviceInput) (nowNs : ℤ) :
      OwnerMove daemon (.checkStop input nowNs) (.evaluate input nowNs)

/-- An event in which the owner takes no part. -/
def DaemonEvent.fromIngress : DaemonEvent D → Bool
  | .silent | .ingressAnswered _ _ | .published _ | .rejectionStored _ => true
  | .acknowledged _ | .consumed _ _ | .cycled _ | .transportsStopped => false

/-- An event in which no producer takes part. -/
def DaemonEvent.fromOwner : DaemonEvent D → Bool
  | .silent | .acknowledged _ | .consumed _ _ | .cycled _ |
    .transportsStopped => true
  | .ingressAnswered _ _ | .published _ | .rejectionStored _ => false

/-- What only the producers write.  Time passes. -/
structure SameIngress (daemon next : RobotIoDaemon D) : Prop where
  clock : daemon.clock ≤ next.clock
  ingress : next.commandIngress = daemon.commandIngress
  handoff : next.commandHandoff = daemon.commandHandoff
  gate : next.commandIngressGate = daemon.commandIngressGate
  publication : next.commandPublication = daemon.commandPublication
  rejected :
    next.rejectedCommandPublication = daemon.rejectedCommandPublication
  producers : next.producers = daemon.producers

variable [FloatingPoint D]

/-- What a step is to the owner. -/
inductive OwnerStep (daemon : RobotIoDaemon D) :
    RobotIoDaemon D × DaemonEvent D → Prop
  | rest {next : RobotIoDaemon D} {event : DaemonEvent D}
      (hkept : SameBooks daemon next) (howner : next.owner = daemon.owner)
      (hentry : next.entry = daemon.entry)
      (hevent : event.fromIngress = true) : OwnerStep daemon (next, event)
  | moved {next : RobotIoDaemon D} (hkept : SameBooks daemon next)
      (hmove : OwnerMove daemon daemon.owner next.owner)
      (hentry : daemon.owner ≠ .idle → next.entry = daemon.entry)
      (hrun : daemon.owner = .idle → next.entry = .run →
        daemon.running = true)
      (hloop : daemon.owner = .idle → next.owner = .loopHead →
        next.entry = .run) : OwnerStep daemon (next, .silent)
  | drained (site : DrainSite) (rejectedPublication : ℕ)
      (event : Option (StagedCommandEvent D))
      (howner : daemon.owner = .settle site rejectedPublication event) :
      OwnerStep daemon
        ((daemon.consumeStagedCommands rejectedPublication event).1.setOwner
          (daemon.afterDrain site),
          (daemon.consumeStagedCommands rejectedPublication event).2)
  | shutdown (input : DeviceInput) (nowNs : ℤ)
      (howner : daemon.owner = .checkStop input nowNs) :
      OwnerStep daemon
        (({ daemon with acceptingCommands := false }.setSafety
          (daemon.safety.requestShutdown nowNs)).setOwner
            (.evaluate input nowNs), .silent)
  | cycled (input : DeviceInput) (nowNs : ℤ)
      (howner : daemon.owner = .evaluate input nowNs) :
      OwnerStep daemon (daemon.evaluateDevices input nowNs)
  | stopped (howner : daemon.owner = .stopTransports) :
      OwnerStep daemon
        ({ daemon with running := false }.setOwner .idle, .transportsStopped)

omit [FloatingPoint D] in
theorem SameBooks.refl (daemon : RobotIoDaemon D) : SameBooks daemon daemon :=
  ⟨rfl, rfl, rfl, rfl, id⟩

omit [FloatingPoint D] in
theorem SameBooks.safety
    {daemon next : RobotIoDaemon D} (hkept : SameBooks daemon next) :
    next.safety = daemon.safety :=
  congrArg DeviceState.safety hkept.device

omit [FloatingPoint D] in
theorem SameBooks.sameCommands
    {daemon next : RobotIoDaemon D} (hkept : SameBooks daemon next) :
    daemon.safety.SameCommands next.safety := by
  rw [hkept.safety]
  exact SameCommands.refl daemon.safety

theorem OwnerStep.silent (daemon : RobotIoDaemon D) :
    OwnerStep daemon (daemon, .silent) :=
  .rest (.refl daemon) rfl rfl rfl

/-- What a drain leaves alone. -/
structure SameLoop (daemon next : RobotIoDaemon D) : Prop where
  setup : SameSetup daemon.safety next.safety
  shutdownComplete : next.shutdownComplete = daemon.shutdownComplete
  running : next.running = daemon.running
  entry : next.entry = daemon.entry

theorem consumeStagedCommands_sameLoop
    (daemon : RobotIoDaemon D) (rejectedPublication : ℕ)
    (event : Option (StagedCommandEvent D)) :
    SameLoop daemon
      (daemon.consumeStagedCommands rejectedPublication event).1 := by
  unfold consumeStagedCommands
  split
  · exact ⟨step_sameSetup daemon.safety (.acceptCommands _ _), rfl, rfl, rfl⟩
  · cases event with
    | none => exact ⟨SameSetup.refl _, rfl, rfl, rfl⟩
    | some event =>
        dsimp only
        split
        · exact ⟨SameSetup.refl _, rfl, rfl, rfl⟩
        · split
          · exact ⟨SameSetup.refl _, rfl, rfl, rfl⟩
          · exact ⟨step_sameSetup daemon.safety (.acceptCommands _ _), rfl,
              rfl, rfl⟩

theorem produce_ownerStep (daemon : RobotIoDaemon D) (producer : ℕ) :
    OwnerStep daemon (daemon.produce producer) := by
  unfold produce
  cases daemon.producers producer with
  | idle => exact .silent daemon
  | arriving snapshot =>
      dsimp only
      split <;> exact .rest ⟨rfl, rfl, rfl, rfl, id⟩ rfl rfl rfl
  | spinning snapshot =>
      dsimp only
      split
      · exact .silent daemon
      · exact .rest ⟨rfl, rfl, rfl, rfl, id⟩ rfl rfl rfl
  | holding snapshot =>
      dsimp only
      split <;> exact .rest ⟨rfl, rfl, rfl, rfl, id⟩ rfl rfl rfl
  | deciding snapshot =>
      dsimp only
      split <;> exact .rest ⟨rfl, rfl, rfl, rfl, id⟩ rfl rfl rfl
  | publishing event => exact .rest ⟨rfl, rfl, rfl, rfl, id⟩ rfl rfl rfl
  | rejecting publication => exact .rest ⟨rfl, rfl, rfl, rfl, id⟩ rfl rfl rfl
  | releasing => exact .rest ⟨rfl, rfl, rfl, rfl, id⟩ rfl rfl rfl

theorem begin_ownerStep
    (daemon : RobotIoDaemon D) {entry : OwnerEntry} {phase : OwnerPhase D}
    (hmove : OwnerMove daemon .idle phase)
    (hrun : entry = .run → daemon.running = true)
    (hloop : phase = .loopHead → entry = .run) :
    OwnerStep daemon (daemon.begin entry phase) := by
  have hkept : SameBooks daemon
      (({ daemon with entry := entry } : RobotIoDaemon D).setOwner phase) :=
    ⟨rfl, rfl, rfl, rfl, id⟩
  unfold RobotIoDaemon.begin
  split
  · rename_i howner
    apply OwnerStep.moved hkept
    · rw [howner]
      exact hmove
    · intro hbusy
      exact absurd howner hbusy
    · intro _ hentry
      exact hrun hentry
    · intro _ hphase
      exact hloop hphase
  · exact .silent daemon

/-- A move inside a call. -/
theorem OwnerStep.within
    {daemon next : RobotIoDaemon D} {phase : OwnerPhase D}
    (howner : daemon.owner = phase) (hbusy : phase ≠ .idle)
    (hkept : SameBooks daemon next) (hentry : next.entry = daemon.entry)
    (hmove : OwnerMove daemon phase next.owner) :
    OwnerStep daemon (next, .silent) := by
  apply OwnerStep.moved hkept
  · rw [howner]
    exact hmove
  · intro _
    exact hentry
  · intro hidle
    rw [howner] at hidle
    contradiction
  · intro hidle
    rw [howner] at hidle
    contradiction

theorem ownerLoop_ownerStep (daemon : RobotIoDaemon D) (stop : Bool) :
    OwnerStep daemon (daemon.ownerLoop stop) := by
  unfold ownerLoop
  cases howner : daemon.owner with
  | loopHead =>
      dsimp only
      split
      · rename_i hcontinue
        rw [Bool.and_eq_true, Bool.not_eq_true'] at hcontinue
        exact .within howner (by simp) ⟨rfl, rfl, rfl, rfl, id⟩ rfl
          (.loop hcontinue.1 hcontinue.2)
      · rename_i hleave
        have hdone : daemon.running = false ∨ daemon.shutdownComplete = true := by
          simpa [-not_and, not_and_or] using hleave
        exact .within howner (by simp) ⟨rfl, rfl, rfl, rfl, id⟩ rfl
          (.leave hdone)
  | _ => exact .silent daemon

theorem ownerRead_ownerStep (daemon : RobotIoDaemon D) (succeeded : Bool) :
    OwnerStep daemon (daemon.ownerRead succeeded) := by
  unfold ownerRead
  cases howner : daemon.owner with
  | readHandoff site rejectedPublication =>
      cases succeeded with
      | true =>
          exact .within howner (by simp) ⟨rfl, rfl, rfl, rfl, id⟩ rfl
            (.read site rejectedPublication)
      | false =>
          exact .within howner (by simp) ⟨rfl, rfl, rfl, rfl, id⟩ rfl
            (.giveUp site rejectedPublication)
  | _ => exact .silent daemon

theorem ownerTransports_ownerStep
    (daemon : RobotIoDaemon D) (device : Option DeviceInput) :
    OwnerStep daemon (daemon.ownerTransports device) := by
  unfold ownerTransports
  cases howner : daemon.owner with
  | transports =>
      cases device with
      | none =>
          exact .within howner (by simp) ⟨rfl, rfl, rfl, rfl, id⟩ rfl .skip
      | some input =>
          exact .within howner (by simp) ⟨rfl, rfl, rfl, rfl, id⟩ rfl
            (.supply input)
  | _ => cases device <;> exact .silent daemon

theorem ownerStep_ownerStep (daemon : RobotIoDaemon D) :
    OwnerStep daemon daemon.ownerStep := by
  unfold RobotIoDaemon.ownerStep
  cases howner : daemon.owner with
  | loadRejection site =>
      exact .within howner (by simp) ⟨rfl, rfl, rfl, rfl, id⟩ rfl (.load site)
  | settle site rejectedPublication event =>
      have hafter :
          (daemon.consumeStagedCommands rejectedPublication event).1.afterDrain
            site = daemon.afterDrain site := by
        cases site with
        | refresh =>
            unfold afterDrain
            rw [(consumeStagedCommands_sameLoop daemon _ _).entry]
        | device input => rfl
      dsimp only
      rw [hafter]
      exact .drained site rejectedPublication event howner
  | admitDevice input =>
      dsimp only
      split
      · exact .within howner (by simp) ⟨rfl, rfl, rfl, rfl, id⟩ rfl
          (.proceed input)
      · exact .within howner (by simp) ⟨rfl, rfl, rfl, rfl, id⟩ rfl
          (.refuse input)
  | readClock input =>
      exact .within howner (by simp) ⟨rfl, rfl, rfl, rfl, id⟩ rfl (.clock input)
  | checkStop input nowNs =>
      dsimp only
      split
      · exact .shutdown input nowNs howner
      · exact .within howner (by simp) ⟨rfl, rfl, rfl, rfl, id⟩ rfl
          (.pass input nowNs)
  | evaluate input nowNs => exact .cycled input nowNs howner
  | stopTransports => exact .stopped howner
  | _ => exact .silent daemon

/-- Every scheduled step is one of the steps of the owner. -/
theorem step_ownerStep (daemon : RobotIoDaemon D) (action : DaemonAction D) :
    OwnerStep daemon (daemonMachine.step daemon action) := by
  cases action with
  | tick elapsed => exact .rest ⟨rfl, rfl, rfl, rfl, id⟩ rfl rfl rfl
  | start =>
      simp only [daemonMachine, RobotIoDaemon.step, RobotIoDaemon.start]
      split
      · exact .silent daemon
      · exact .rest ⟨rfl, rfl, rfl, rfl, fun _ => rfl⟩ rfl rfl rfl
  | requestStop => exact .rest ⟨rfl, rfl, rfl, rfl, id⟩ rfl rfl rfl
  | closeCommands =>
      simp only [daemonMachine, RobotIoDaemon.step, RobotIoDaemon.closeCommands]
      split
      · exact .rest ⟨rfl, rfl, rfl, rfl, id⟩ rfl rfl rfl
      · exact .silent daemon
  | stage producer snapshot =>
      simp only [daemonMachine, RobotIoDaemon.step, RobotIoDaemon.stage]
      split
      · exact .rest ⟨rfl, rfl, rfl, rfl, id⟩ rfl rfl rfl
      · exact .silent daemon
  | produce producer => exact produce_ownerStep daemon producer
  | beginRun =>
      simp only [daemonMachine, RobotIoDaemon.step]
      split
      · rename_i hrunning
        exact begin_ownerStep daemon (.enterRun hrunning) (fun _ => hrunning)
          (fun _ => rfl)
      · exact .silent daemon
  | beginCycle => exact begin_ownerStep daemon .enterRefresh nofun nofun
  | beginRefresh => exact begin_ownerStep daemon .enterRefresh nofun nofun
  | beginDevice input =>
      exact begin_ownerStep daemon (.enterDevice input) nofun nofun
  | ownerLoop stop => exact ownerLoop_ownerStep daemon stop
  | ownerRead succeeded => exact ownerRead_ownerStep daemon succeeded
  | ownerTransports device => exact ownerTransports_ownerStep daemon device
  | ownerStep => exact ownerStep_ownerStep daemon

theorem produce_fromIngress (daemon : RobotIoDaemon D) (producer : ℕ) :
    (daemon.produce producer).2.fromIngress = true := by
  unfold produce
  cases daemon.producers producer with
  | arriving snapshot | spinning snapshot | holding snapshot =>
      dsimp only
      split <;> rfl
  | deciding snapshot =>
      dsimp only
      split <;> rfl
  | _ => rfl

omit [FloatingPoint D] in
theorem begin_fromIngress
    (daemon : RobotIoDaemon D) (entry : OwnerEntry) (phase : OwnerPhase D) :
    (daemon.begin entry phase).2.fromIngress = true := by
  unfold RobotIoDaemon.begin
  split <;> rfl

/-- Only `ownerStep` drains, cycles or stops. -/
theorem eq_ownerStep_of_not_fromIngress
    {daemon : RobotIoDaemon D} {action : DaemonAction D}
    (hevent : (daemonMachine.step daemon action).2.fromIngress = false) :
    action = .ownerStep := by
  by_contra haction
  have hsilent : (daemonMachine.step daemon action).2.fromIngress = true := by
    cases action with
    | ownerStep => contradiction
    | produce producer => exact produce_fromIngress daemon producer
    | beginRun =>
        simp only [daemonMachine, RobotIoDaemon.step]
        split
        · exact begin_fromIngress daemon _ _
        · rfl
    | beginCycle | beginRefresh | beginDevice input =>
        exact begin_fromIngress daemon _ _
    | ownerLoop stop =>
        simp only [daemonMachine, RobotIoDaemon.step, RobotIoDaemon.ownerLoop]
        split
        · split <;> rfl
        · rfl
    | ownerRead succeeded =>
        simp only [daemonMachine, RobotIoDaemon.step, RobotIoDaemon.ownerRead]
        split <;> rfl
    | ownerTransports device =>
        simp only [daemonMachine, RobotIoDaemon.step,
          RobotIoDaemon.ownerTransports]
        split <;> rfl
    | _ => rfl
  rw [hevent] at hsilent
  contradiction

/-- A drain as a step of the daemon. -/
theorem step_settle
    {daemon : RobotIoDaemon D} {site : DrainSite} {rejectedPublication : ℕ}
    {event : Option (StagedCommandEvent D)}
    (howner : daemon.owner = .settle site rejectedPublication event) :
    (daemonMachine.step daemon .ownerStep).2 =
      (daemon.consumeStagedCommands rejectedPublication event).2 := by
  simp only [daemonMachine, RobotIoDaemon.step, RobotIoDaemon.ownerStep,
    howner]

/-- The events of a drain which does something. -/
def DaemonEvent.fromDrain : DaemonEvent D → Bool
  | .acknowledged _ | .consumed _ _ => true
  | .silent | .ingressAnswered _ _ | .published _ | .rejectionStored _ |
    .cycled _ | .transportsStopped => false

theorem exists_settle_of_fromDrain
    {daemon : RobotIoDaemon D} {action : DaemonAction D}
    (hevent : (daemonMachine.step daemon action).2.fromDrain = true) :
    ∃ site rejectedPublication event,
      daemon.owner = .settle site rejectedPublication event ∧
      daemonMachine.step daemon action =
        ((daemon.consumeStagedCommands rejectedPublication event).1.setOwner
          (daemon.afterDrain site),
          (daemon.consumeStagedCommands rejectedPublication event).2) := by
  have hstep := step_ownerStep daemon action
  generalize daemonMachine.step daemon action = result at hstep hevent ⊢
  cases hstep with
  | rest hkept howner hentry hrest =>
      rename_i next event
      cases event <;> contradiction
  | drained site rejectedPublication event howner =>
      exact ⟨site, rejectedPublication, event, howner, rfl⟩
  | _ => contradiction

theorem consumeStagedCommands_event
    {daemon : RobotIoDaemon D} {rejectedPublication : ℕ}
    {event : Option (StagedCommandEvent D)} {outcome : DaemonEvent D}
    (houtcome : (daemon.consumeStagedCommands rejectedPublication event).2 =
      outcome) : outcome = .silent ∨ outcome.fromDrain = true := by
  rw [← houtcome]
  unfold consumeStagedCommands
  split
  · exact .inr rfl
  · cases event with
    | none => exact .inl rfl
    | some event =>
        dsimp only
        split
        · exact .inl rfl
        · split
          · exact .inl rfl
          · exact .inr rfl

theorem exists_evaluate_of_cycled
    {daemon : RobotIoDaemon D} {action : DaemonAction D}
    {result : DeviceCycle D}
    (hevent : (daemonMachine.step daemon action).2 = .cycled result) :
    ∃ input nowNs, daemon.owner = .evaluate input nowNs ∧
      daemonMachine.step daemon action =
        daemon.evaluateDevices input nowNs := by
  have hstep := step_ownerStep daemon action
  generalize daemonMachine.step daemon action = outcome at hstep hevent ⊢
  cases hstep with
  | rest hkept howner hentry hrest =>
      subst hevent
      contradiction
  | drained site rejectedPublication event howner =>
      rcases consumeStagedCommands_event hevent with hsilent | hdrain <;>
        contradiction
  | cycled input nowNs howner => exact ⟨input, nowNs, howner, rfl⟩
  | _ => contradiction

theorem stopTransports_of_stopped
    {daemon : RobotIoDaemon D} {action : DaemonAction D}
    (hevent : (daemonMachine.step daemon action).2 = .transportsStopped) :
    daemon.owner = .stopTransports := by
  have hstep := step_ownerStep daemon action
  generalize daemonMachine.step daemon action = outcome at hstep hevent
  cases hstep with
  | rest hkept howner hentry hrest =>
      subst hevent
      contradiction
  | drained site rejectedPublication event howner =>
      rcases consumeStagedCommands_event hevent with hsilent | hdrain <;>
        contradiction
  | stopped howner => exact howner
  | _ => contradiction

/-! ## The ingress side -/

omit [FloatingPoint D] in
theorem SameIngress.refl (daemon : RobotIoDaemon D) :
    SameIngress daemon daemon :=
  ⟨le_refl _, rfl, rfl, rfl, rfl, rfl, rfl⟩

theorem consumeStagedCommands_sameIngress
    (daemon : RobotIoDaemon D) (rejectedPublication : ℕ)
    (event : Option (StagedCommandEvent D)) :
    SameIngress daemon
        (daemon.consumeStagedCommands rejectedPublication event).1 ∧
      (daemon.consumeStagedCommands rejectedPublication event).2.fromOwner =
        true := by
  unfold consumeStagedCommands
  split
  · exact ⟨⟨le_refl _, rfl, rfl, rfl, rfl, rfl, rfl⟩, rfl⟩
  · cases event with
    | none => exact ⟨.refl daemon, rfl⟩
    | some event =>
        dsimp only
        split
        · exact ⟨.refl daemon, rfl⟩
        · split
          · exact ⟨.refl daemon, rfl⟩
          · exact ⟨⟨le_refl _, rfl, rfl, rfl, rfl, rfl, rfl⟩, rfl⟩

omit [FloatingPoint D] in
theorem begin_sameIngress
    (daemon : RobotIoDaemon D) (entry : OwnerEntry) (phase : OwnerPhase D) :
    SameIngress daemon (daemon.begin entry phase).1 ∧
      (daemon.begin entry phase).2.fromOwner = true := by
  unfold RobotIoDaemon.begin
  split <;> exact ⟨⟨le_refl _, rfl, rfl, rfl, rfl, rfl, rfl⟩, rfl⟩

omit [FloatingPoint D] in
theorem ownerLoop_sameIngress (daemon : RobotIoDaemon D) (stop : Bool) :
    SameIngress daemon (daemon.ownerLoop stop).1 ∧
      (daemon.ownerLoop stop).2.fromOwner = true := by
  unfold RobotIoDaemon.ownerLoop
  split
  · split <;> exact ⟨⟨le_refl _, rfl, rfl, rfl, rfl, rfl, rfl⟩, rfl⟩
  · exact ⟨.refl daemon, rfl⟩

omit [FloatingPoint D] in
theorem ownerRead_sameIngress (daemon : RobotIoDaemon D) (succeeded : Bool) :
    SameIngress daemon (daemon.ownerRead succeeded).1 ∧
      (daemon.ownerRead succeeded).2.fromOwner = true := by
  unfold RobotIoDaemon.ownerRead
  split <;> exact ⟨⟨le_refl _, rfl, rfl, rfl, rfl, rfl, rfl⟩, rfl⟩

omit [FloatingPoint D] in
theorem ownerTransports_sameIngress
    (daemon : RobotIoDaemon D) (device : Option DeviceInput) :
    SameIngress daemon (daemon.ownerTransports device).1 ∧
      (daemon.ownerTransports device).2.fromOwner = true := by
  unfold RobotIoDaemon.ownerTransports
  split <;> exact ⟨⟨le_refl _, rfl, rfl, rfl, rfl, rfl, rfl⟩, rfl⟩

theorem ownerStep_sameIngress (daemon : RobotIoDaemon D) :
    SameIngress daemon daemon.ownerStep.1 ∧
      daemon.ownerStep.2.fromOwner = true := by
  unfold RobotIoDaemon.ownerStep
  cases daemon.owner with
  | settle site rejectedPublication event =>
      have hdrain := consumeStagedCommands_sameIngress daemon
        rejectedPublication event
      obtain ⟨hclock, hingress, hhandoff, hgate, hnumber, hrejected,
        hproducers⟩ := hdrain.1
      exact ⟨⟨hclock, hingress, hhandoff, hgate, hnumber, hrejected,
        hproducers⟩, hdrain.2⟩
  | admitDevice input =>
      dsimp only
      split <;> exact ⟨⟨le_refl _, rfl, rfl, rfl, rfl, rfl, rfl⟩, rfl⟩
  | checkStop input nowNs =>
      dsimp only
      split <;> exact ⟨⟨le_refl _, rfl, rfl, rfl, rfl, rfl, rfl⟩, rfl⟩
  | _ => exact ⟨⟨le_refl _, rfl, rfl, rfl, rfl, rfl, rfl⟩, rfl⟩

/-- A step moves a producer, or leaves the ingress alone. -/
inductive IngressStep (daemon : RobotIoDaemon D) (action : DaemonAction D) :
    Prop
  | produced (producer : ℕ) (haction : action = .produce producer)
  | staged (producer : ℕ) (snapshot : Snapshot (AxisCommand D))
      (haction : action = .stage producer snapshot)
  | kept (hsame : SameIngress daemon (daemonMachine.step daemon action).1)
      (hevent : (daemonMachine.step daemon action).2.fromOwner = true)

theorem step_ingressStep (daemon : RobotIoDaemon D) (action : DaemonAction D) :
    IngressStep daemon action := by
  cases action with
  | tick elapsed =>
      have hclock : daemon.clock ≤ daemon.clock + (elapsed : ℤ) := by omega
      exact .kept ⟨hclock, rfl, rfl, rfl, rfl, rfl, rfl⟩ rfl
  | start =>
      apply IngressStep.kept
      · simp only [daemonMachine, RobotIoDaemon.step, RobotIoDaemon.start]
        split <;> exact ⟨le_refl _, rfl, rfl, rfl, rfl, rfl, rfl⟩
      · rfl
  | requestStop => exact .kept ⟨le_refl _, rfl, rfl, rfl, rfl, rfl, rfl⟩ rfl
  | closeCommands =>
      apply IngressStep.kept
      · simp only [daemonMachine, RobotIoDaemon.step,
          RobotIoDaemon.closeCommands]
        split <;> exact ⟨le_refl _, rfl, rfl, rfl, rfl, rfl, rfl⟩
      · rfl
  | stage producer snapshot => exact .staged producer snapshot rfl
  | produce producer => exact .produced producer rfl
  | beginRun =>
      have hkept : SameIngress daemon
            (daemonMachine.step daemon .beginRun).1 ∧
          (daemonMachine.step daemon .beginRun).2.fromOwner = true := by
        simp only [daemonMachine, RobotIoDaemon.step]
        split
        · exact begin_sameIngress daemon _ _
        · exact ⟨.refl daemon, rfl⟩
      exact .kept hkept.1 hkept.2
  | beginCycle =>
      have hkept := begin_sameIngress daemon .cycle (.loadRejection .refresh)
      exact .kept hkept.1 hkept.2
  | beginRefresh =>
      have hkept := begin_sameIngress daemon .refreshCommands
        (.loadRejection .refresh)
      exact .kept hkept.1 hkept.2
  | beginDevice input =>
      have hkept := begin_sameIngress daemon .processDeviceCycle
        (.admitDevice input)
      exact .kept hkept.1 hkept.2
  | ownerLoop stop =>
      have hkept := ownerLoop_sameIngress daemon stop
      exact .kept hkept.1 hkept.2
  | ownerRead succeeded =>
      have hkept := ownerRead_sameIngress daemon succeeded
      exact .kept hkept.1 hkept.2
  | ownerTransports device =>
      have hkept := ownerTransports_sameIngress daemon device
      exact .kept hkept.1 hkept.2
  | ownerStep =>
      have hkept := ownerStep_sameIngress daemon
      exact .kept hkept.1 hkept.2

end PolicyRuntime
