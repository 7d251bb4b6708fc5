import PolicyRuntime.DaemonSteps
import PolicyRuntime.EnableSoundness

/-!
# The command ingress

Producers pass the gate one at a time, ask the ingress supervisor for its
answer and make one store before they leave.  The invariant compares the events
which the ingress accepted with those which reached the hand-off.
-/

namespace PolicyRuntime

open SafetySupervisor RobotIoDaemon

variable {D : Type}

/-! ## Acceptance -/

section Acceptance

variable [FloatingPoint D]

theorem SafetySupervisor.validSnapshot_iff
    (supervisor : SafetySupervisor D) (snapshot : Snapshot (AxisCommand D))
    (nowNs : ℤ) :
    supervisor.validSnapshot snapshot nowNs = true ↔
      supervisor.configured = true ∧
        snapshot.axisCount = supervisor.axisCount ∧
        0 ≤ snapshot.timestampNs ∧ snapshot.timestampNs ≤ nowNs ∧
        ∀ axis : Axis, axis.val < supervisor.axisCount →
          validCommand snapshot (snapshot.axes axis) = true := by
  unfold validSnapshot
  split
  · rename_i hbad
    simp only [Bool.or_eq_true, Bool.not_eq_true', bne_iff_ne,
      decide_eq_true_eq] at hbad
    constructor
    · intro hfalse
      contradiction
    · rintro ⟨hconfigured, hcount, hpast, hnow, _⟩
      rcases hbad with ((hbad | hbad) | hbad) | hbad
      · rw [hconfigured] at hbad
        contradiction
      · contradiction
      · omega
      · omega
  · rename_i hgood
    simp only [Bool.or_eq_true, Bool.not_eq_true', bne_iff_ne,
      decide_eq_true_eq, not_or, Bool.not_eq_false, not_not, not_lt] at hgood
    obtain ⟨⟨⟨hconfigured, hcount⟩, hpast⟩, hnow⟩ := hgood
    simp [hconfigured, hcount, hpast, hnow, List.all_eq_true, mem_axes]

/-- A snapshot once found valid stays valid. -/
theorem SafetySupervisor.validSnapshot_of_le
    {supervisor : SafetySupervisor D} {snapshot : Snapshot (AxisCommand D)}
    {nowNs laterNs : ℤ}
    (hvalid : supervisor.validSnapshot snapshot nowNs = true)
    (hle : nowNs ≤ laterNs) :
    supervisor.validSnapshot snapshot laterNs = true := by
  rw [validSnapshot_iff] at hvalid ⊢
  obtain ⟨hconfigured, hcount, hpast, hnow, hcommands⟩ := hvalid
  exact ⟨hconfigured, hcount, hpast, hnow.trans hle, hcommands⟩

/-- Supervisors of one setup agree on what a valid snapshot is. -/
theorem Configured.validSnapshot
    {setup : SupervisorSetup D} {left right : SafetySupervisor D}
    (hleft : Configured setup left) (hright : Configured setup right)
    {snapshot : Snapshot (AxisCommand D)} {nowNs : ℤ}
    (hvalid : left.validSnapshot snapshot nowNs = true) :
    right.validSnapshot snapshot nowNs = true := by
  rw [SafetySupervisor.validSnapshot_iff] at hvalid ⊢
  rw [hleft.configured, hleft.axisCount] at hvalid
  rw [hright.configured, hright.axisCount]
  exact hvalid

theorem SafetySupervisor.Holds.sameCommands
    {supervisor : SafetySupervisor D} {snapshot : Snapshot (AxisCommand D)}
    (hholds : supervisor.Holds snapshot) :
    supervisor.sameCommands snapshot = true := by
  have hcommand : ∀ axis ∈ supervisor.axes,
      commandEquals (snapshot.axes axis) (supervisor.commands axis) = true := by
    intro axis haxis
    rw [mem_axes] at haxis
    have hvalid := hholds.valid axis haxis
    simp only [validCommand, Bool.not_eq_true', Bool.or_eq_false_iff,
      Bool.not_eq_false'] at hvalid
    have hfinite := hvalid.1.1.2
    rw [hholds.commands axis haxis]
    simp [commandEquals, FloatingPoint.eq_self_of_isfinite _ hfinite]
  unfold SafetySupervisor.sameCommands
  rw [hholds.timestamp, List.all_eq_true.mpr hcommand]
  simp

/-- The stored snapshot is a duplicate, whether its commands are still valid or
not. -/
theorem SafetySupervisor.Holds.acceptCommands
    {supervisor : SafetySupervisor D} {snapshot : Snapshot (AxisCommand D)}
    {nowNs : ℤ} (hholds : supervisor.Holds snapshot)
    (hvalid : supervisor.validSnapshot snapshot nowNs = true) :
    supervisor.acceptCommands snapshot nowNs = (supervisor, .duplicate) := by
  simp [SafetySupervisor.acceptCommands, hvalid, hholds.hasCommand,
    hholds.sequence, hholds.timestamp, hholds.sameCommands]

theorem SafetySupervisor.acceptCommands_of_newer
    {supervisor : SafetySupervisor D} {snapshot : Snapshot (AxisCommand D)}
    {nowNs : ℤ} (hvalid : supervisor.validSnapshot snapshot nowNs = true)
    (hnewer : supervisor.hasCommand = true →
      supervisor.lastCommandSequence < snapshot.sequence ∧
        supervisor.lastCommandTimestampNs ≤ snapshot.timestampNs) :
    supervisor.acceptCommands snapshot nowNs =
      (supervisor.storeCommands snapshot, .accepted) := by
  by_cases hcommand : supervisor.hasCommand = true
  · obtain ⟨hsequence, htimestamp⟩ := hnewer hcommand
    simp [SafetySupervisor.acceptCommands, hvalid, hcommand, hsequence.not_gt,
      htimestamp.not_gt, hsequence.ne']
  · simp [SafetySupervisor.acceptCommands, hvalid, hcommand]

/-- No configuration has as many axes as the invalidating snapshot. -/
theorem Configured.acceptCommands_invalidSnapshot
    {setup : SupervisorSetup D} {state : SafetySupervisor D}
    (hstate : Configured setup state) (nowNs : ℤ) :
    state.acceptCommands invalidSnapshot nowNs =
      ({ state with commandsValid := false }, .rejected) := by
  have hinvalid : ¬ state.validSnapshot invalidSnapshot nowNs = true := by
    rw [SafetySupervisor.validSnapshot_iff]
    rintro ⟨_, hcount, _⟩
    have hle := setup.axisCount_le
    rw [hstate.axisCount] at hcount
    simp only [invalidSnapshot] at hcount
    omega
  rw [Bool.not_eq_true] at hinvalid
  simp [SafetySupervisor.acceptCommands, hinvalid]

theorem SafetySupervisor.Holds.invalidated
    {supervisor : SafetySupervisor D} {snapshot : Snapshot (AxisCommand D)}
    (hholds : supervisor.Holds snapshot) :
    ({ supervisor with commandsValid := false } :
      SafetySupervisor D).Holds snapshot :=
  ⟨hholds.hasCommand, hholds.sequence, hholds.timestamp, hholds.commands,
    hholds.valid⟩

/-- The latest event of a sequence is the one whose commands are stored. -/
def SafetySupervisor.StoresLast (supervisor : SafetySupervisor D)
    (events : List (StagedCommandEvent D)) : Prop :=
  match events.getLast? with
  | none => supervisor.hasCommand = false
  | some event => supervisor.Holds event.snapshot

theorem SafetySupervisor.StoresLast.of_sameCommands
    {supervisor next : SafetySupervisor D}
    {events : List (StagedCommandEvent D)}
    (hstored : supervisor.StoresLast events)
    (hsame : supervisor.SameCommands next) : next.StoresLast events := by
  unfold StoresLast at hstored ⊢
  cases hlast : events.getLast? with
  | none =>
      rw [hlast] at hstored
      exact hsame.hasCommand.trans hstored
  | some last =>
      rw [hlast] at hstored
      exact hsame.holds hstored

theorem SafetySupervisor.StoresLast.invalidated
    {supervisor : SafetySupervisor D} {events : List (StagedCommandEvent D)}
    (hstored : supervisor.StoresLast events) :
    ({ supervisor with commandsValid := false } :
      SafetySupervisor D).StoresLast events := by
  unfold StoresLast at hstored ⊢
  cases hlast : events.getLast? with
  | none =>
      rw [hlast] at hstored
      exact hstored
  | some last =>
      rw [hlast] at hstored
      exact hstored.invalidated

end Acceptance

/-! ## Events of a schedule -/

def DaemonEvent.accepted? : DaemonEvent D → Option (StagedCommandEvent D)
  | .ingressAnswered event .accepted => some event
  | _ => none

def DaemonEvent.published? : DaemonEvent D → Option (StagedCommandEvent D)
  | .published event => some event
  | _ => none

def DaemonEvent.adopted? : DaemonEvent D → Option (StagedCommandEvent D)
  | .consumed event .accepted => some event
  | _ => none

/-- What the ingress accepted. -/
def acceptedEvents (steps : List (DaemonStep D)) :
    List (StagedCommandEvent D) :=
  steps.filterMap fun step => step.output.accepted?

/-- What reached the hand-off. -/
def publishedEvents (steps : List (DaemonStep D)) :
    List (StagedCommandEvent D) :=
  steps.filterMap fun step => step.output.published?

/-- What the supervisor of the owner accepted. -/
def adoptedEvents (steps : List (DaemonStep D)) :
    List (StagedCommandEvent D) :=
  steps.filterMap fun step => step.output.adopted?

theorem filterMap_concat
    (view : DaemonEvent D → Option (StagedCommandEvent D))
    (steps : List (DaemonStep D)) (step : DaemonStep D) :
    (steps ++ [step]).filterMap (fun step => view step.output) =
      (steps.filterMap fun step => view step.output) ++
        (view step.output).toList := by
  rw [List.filterMap_append]
  cases hevent : view step.output <;> simp [hevent]

theorem DaemonEvent.accepted?_of_fromOwner
    {event : DaemonEvent D} (hevent : event.fromOwner = true) :
    event.accepted? = none := by
  cases event with
  | ingressAnswered event answer => contradiction
  | _ => rfl

theorem DaemonEvent.published?_of_fromOwner
    {event : DaemonEvent D} (hevent : event.fromOwner = true) :
    event.published? = none := by
  cases event with
  | published event => contradiction
  | _ => rfl

/-- The order in which events are accepted. -/
structure StagedCommandEvent.Before (earlier later : StagedCommandEvent D) :
    Prop where
  publication : earlier.publication < later.publication
  sequence : earlier.snapshot.sequence < later.snapshot.sequence
  timestamp : earlier.snapshot.timestampNs ≤ later.snapshot.timestampNs

theorem StagedCommandEvent.ordered_cases
    {events : List (StagedCommandEvent D)}
    (hordered : events.Pairwise StagedCommandEvent.Before)
    {left right : StagedCommandEvent D} (hleft : left ∈ events)
    (hright : right ∈ events) :
    left = right ∨ left.Before right ∨ right.Before left := by
  by_cases heq : left = right
  · exact .inl heq
  · right
    have hpair : events.Pairwise fun earlier later : StagedCommandEvent D =>
        earlier.Before later ∨ later.Before earlier :=
      hordered.imp Or.inl
    have hsymm : Std.Symm fun earlier later : StagedCommandEvent D =>
        earlier.Before later ∨ later.Before earlier :=
      ⟨fun _ _ h => h.symm⟩
    exact hpair.forall hleft hright heq

/-- Publications order the events of an ordered sequence. -/
theorem StagedCommandEvent.before_of_lt
    {events : List (StagedCommandEvent D)}
    (hordered : events.Pairwise StagedCommandEvent.Before)
    {left right : StagedCommandEvent D} (hleft : left ∈ events)
    (hright : right ∈ events)
    (hlt : left.publication < right.publication) : left.Before right := by
  rcases ordered_cases hordered hleft hright with heq | hbefore | hafter
  · rw [heq] at hlt
    omega
  · exact hbefore
  · have hpublication := hafter.publication
    omega

theorem StagedCommandEvent.eq_of_publication
    {events : List (StagedCommandEvent D)}
    (hordered : events.Pairwise StagedCommandEvent.Before)
    {left right : StagedCommandEvent D} (hleft : left ∈ events)
    (hright : right ∈ events)
    (hsame : left.publication = right.publication) : left = right := by
  rcases ordered_cases hordered hleft hright with heq | hbefore | hafter
  · exact heq
  · have hpublication := hbefore.publication
    omega
  · have hpublication := hafter.publication
    omega

/-- The last event of an ordered sequence is the newest. -/
theorem StagedCommandEvent.le_getLast
    {events : List (StagedCommandEvent D)}
    (hordered : events.Pairwise StagedCommandEvent.Before)
    {last event : StagedCommandEvent D} (hlast : events.getLast? = some last)
    (hevent : event ∈ events) : event.publication ≤ last.publication := by
  obtain ⟨front, hfront⟩ := List.getLast?_eq_some_iff.mp hlast
  rw [hfront] at hordered hevent
  rcases List.mem_append.mp hevent with hold | hnew
  · have hbefore := (List.pairwise_append.mp hordered).2.2 event hold last
      (by simp)
    exact hbefore.publication.le
  · rw [List.mem_singleton] at hnew
    rw [hnew]

/-! ## The ingress gate -/

/-- The producer holds the ingress gate. -/
def ProducerPhase.inside : ProducerPhase D → Bool
  | .idle | .arriving _ | .spinning _ => false
  | .holding _ | .deciding _ | .publishing _ | .rejecting _ | .releasing =>
      true

/-- At most one producer is behind the gate. -/
structure GateExclusive (daemon : RobotIoDaemon D) : Prop where
  taken : ∀ producer, (daemon.producers producer).inside = true →
    daemon.commandIngressGate = true
  unique : ∀ left right, (daemon.producers left).inside = true →
    (daemon.producers right).inside = true → left = right

theorem GateExclusive.of_same
    {daemon next : RobotIoDaemon D} (hgate : GateExclusive daemon)
    (hsame : next.commandIngressGate = daemon.commandIngressGate)
    (hinside : ∀ producer, (next.producers producer).inside = true →
      (daemon.producers producer).inside = true) : GateExclusive next := by
  constructor
  · intro producer hproducer
    rw [hsame]
    exact hgate.taken producer (hinside producer hproducer)
  · intro left right hleft hright
    exact hgate.unique left right (hinside left hleft) (hinside right hright)

theorem GateExclusive.setProducer
    {daemon : RobotIoDaemon D} (hgate : GateExclusive daemon)
    {producer : ℕ} {phase : ProducerPhase D}
    (hinside : phase.inside = true →
      (daemon.producers producer).inside = true) :
    GateExclusive (daemon.setProducer producer phase) := by
  have hsame : (daemon.setProducer producer phase).commandIngressGate =
      daemon.commandIngressGate := rfl
  apply hgate.of_same hsame
  intro other hother
  by_cases heq : other = producer
  · subst heq
    simp only [RobotIoDaemon.setProducer, Function.update_self] at hother
    exact hinside hother
  · simpa [RobotIoDaemon.setProducer, Function.update_of_ne heq] using hother

theorem GateExclusive.acquire
    {daemon : RobotIoDaemon D} (hgate : GateExclusive daemon)
    (hfree : daemon.commandIngressGate = false) (producer : ℕ)
    (phase : ProducerPhase D) :
    GateExclusive ({ daemon with commandIngressGate := true }.setProducer
      producer phase) := by
  have hnobody : ∀ other, (daemon.producers other).inside = false := by
    intro other
    by_contra hinside
    rw [Bool.not_eq_false] at hinside
    have htaken := hgate.taken other hinside
    rw [hfree] at htaken
    contradiction
  have honly : ∀ other, ((({ daemon with
      commandIngressGate := true } : RobotIoDaemon D).setProducer producer
        phase).producers other).inside = true → other = producer := by
    intro other hother
    by_contra hne
    simp [RobotIoDaemon.setProducer, Function.update_of_ne hne,
      hnobody other] at hother
  constructor
  · intro other _
    rfl
  · intro left right hleft hright
    rw [honly left hleft, honly right hright]

theorem GateExclusive.release
    {daemon : RobotIoDaemon D} (hgate : GateExclusive daemon)
    {producer : ℕ} (hinside : (daemon.producers producer).inside = true) :
    GateExclusive ({ daemon with commandIngressGate := false }.setProducer
      producer .idle) := by
  have hnobody : ∀ other, ((({ daemon with
      commandIngressGate := false } : RobotIoDaemon D).setProducer producer
        .idle).producers other).inside = false := by
    intro other
    by_cases heq : other = producer
    · simp [RobotIoDaemon.setProducer, heq, ProducerPhase.inside]
    · simp only [RobotIoDaemon.setProducer, Function.update_of_ne heq]
      by_contra hother
      rw [Bool.not_eq_false] at hother
      exact heq (hgate.unique other producer hother hinside)
  constructor
  · intro other hother
    rw [hnobody other] at hother
    contradiction
  · intro left right hleft _
    rw [hnobody left] at hleft
    contradiction

/-- While one producer is behind the gate, no other is in a phase behind it. -/
theorem GateExclusive.eq_of_inside
    {daemon : RobotIoDaemon D} (hgate : GateExclusive daemon)
    {left right : ℕ} {leftPhase rightPhase : ProducerPhase D}
    (hleft : daemon.producers left = leftPhase)
    (hright : daemon.producers right = rightPhase)
    (hleftInside : leftPhase.inside = true)
    (hrightInside : rightPhase.inside = true) : left = right := by
  apply hgate.unique
  · rw [hleft]
    exact hleftInside
  · rw [hright]
    exact hrightInside

/-! ## The ingress invariant -/

/-- The producer still has a store to make. -/
def ProducerPhase.pending : ProducerPhase D → Bool
  | .publishing _ | .rejecting _ => true
  | .idle | .arriving _ | .spinning _ | .holding _ | .deciding _ |
    .releasing => false

variable [FloatingPoint D] {setup : SupervisorSetup D}
  {accepted published : List (StagedCommandEvent D)} {daemon : RobotIoDaemon D}

/-- The hand-off follows the acceptances of the ingress, one event behind at
most. -/
structure IngressInvariant (setup : SupervisorSetup D)
    (accepted published : List (StagedCommandEvent D))
    (daemon : RobotIoDaemon D) : Prop where
  configured : Configured setup daemon.commandIngress
  gate : GateExclusive daemon
  ordered : accepted.Pairwise StagedCommandEvent.Before
  numbered : ∀ event ∈ accepted,
    event.publication ≤ daemon.commandPublication
  valid : ∀ event ∈ accepted,
    daemon.commandIngress.validSnapshot event.snapshot daemon.clock = true
  stored : daemon.commandIngress.StoresLast accepted
  publishing : ∀ producer event,
    daemon.producers producer = .publishing event →
      accepted = published ++ [event]
  settled : (∀ producer event,
    daemon.producers producer ≠ .publishing event) → accepted = published
  handoff : daemon.commandHandoff = published.getLast?
  rejected :
    daemon.rejectedCommandPublication ≤ daemon.commandPublication
  rejecting : ∀ producer publication,
    daemon.producers producer = .rejecting publication →
      daemon.rejectedCommandPublication ≤ publication ∧
        publication ≤ daemon.commandPublication

theorem IngressInvariant.published_subset
    (hgood : IngressInvariant setup accepted published daemon) :
    published ⊆ accepted := by
  by_cases hbusy : ∃ producer event,
      daemon.producers producer = .publishing event
  · obtain ⟨producer, event, hproducer⟩ := hbusy
    rw [hgood.publishing producer event hproducer]
    exact List.subset_append_left published [event]
  · simp only [not_exists] at hbusy
    rw [hgood.settled hbusy]
    exact List.Subset.refl published

/-- The producers wait or leave, and time passes. -/
theorem IngressInvariant.of_same
    (hgood : IngressInvariant setup accepted published daemon)
    {next : RobotIoDaemon D} (hgate : GateExclusive next)
    (hclock : daemon.clock ≤ next.clock)
    (hingress : next.commandIngress = daemon.commandIngress)
    (hhandoff : next.commandHandoff = daemon.commandHandoff)
    (hnumber : next.commandPublication = daemon.commandPublication)
    (hrejected :
      next.rejectedCommandPublication = daemon.rejectedCommandPublication)
    (hpending : ∀ producer, (daemon.producers producer).pending = true ∨
      (next.producers producer).pending = true →
        next.producers producer = daemon.producers producer) :
    IngressInvariant setup accepted published next := by
  constructor
  · rw [hingress]
    exact hgood.configured
  · exact hgate
  · exact hgood.ordered
  · rw [hnumber]
    exact hgood.numbered
  · intro event hevent
    rw [hingress]
    exact validSnapshot_of_le (hgood.valid event hevent) hclock
  · rw [hingress]
    exact hgood.stored
  · intro producer event hproducer
    have hsame := hpending producer (.inr (by rw [hproducer]; rfl))
    exact hgood.publishing producer event (hsame.symm.trans hproducer)
  · intro hnobody
    apply hgood.settled
    intro producer event hproducer
    have hsame := hpending producer (.inl (by rw [hproducer]; rfl))
    exact hnobody producer event (hsame.trans hproducer)
  · rw [hhandoff]
    exact hgood.handoff
  · rw [hnumber, hrejected]
    exact hgood.rejected
  · intro producer publication hproducer
    have hsame := hpending producer (.inr (by rw [hproducer]; rfl))
    rw [hnumber, hrejected]
    exact hgood.rejecting producer publication (hsame.symm.trans hproducer)

theorem IngressInvariant.requeue
    (hgood : IngressInvariant setup accepted published daemon)
    {producer : ℕ} {phase : ProducerPhase D} {gate : Bool}
    (hold : (daemon.producers producer).pending = false)
    (hnew : phase.pending = false)
    (hgate : GateExclusive ({ daemon with
      commandIngressGate := gate }.setProducer producer phase)) :
    IngressInvariant setup accepted published ({ daemon with
      commandIngressGate := gate }.setProducer producer phase) := by
  apply hgood.of_same hgate (le_refl _) rfl rfl rfl rfl
  intro other hother
  by_cases heq : other = producer
  · subst heq
    simp only [RobotIoDaemon.setProducer, Function.update_self, hold,
      hnew, Bool.false_eq_true, or_self] at hother
  · simp [RobotIoDaemon.setProducer, Function.update_of_ne heq]

/-- A producer behind the gate is the only one which can be publishing. -/
theorem IngressInvariant.alone
    (hgood : IngressInvariant setup accepted published daemon)
    {producer : ℕ} {phase : ProducerPhase D}
    (hproducer : daemon.producers producer = phase)
    (hinside : phase.inside = true) (hidle : phase.pending = false) :
    accepted = published := by
  apply hgood.settled
  intro other event hother
  have heq : other = producer :=
    hgood.gate.eq_of_inside hother hproducer rfl hinside
  rw [heq, hproducer] at hother
  rw [hother] at hidle
  contradiction

/-- What the ingress accepts is newer than everything it accepted before. -/
theorem IngressInvariant.before_of_newer
    (hgood : IngressInvariant setup accepted published daemon)
    {snapshot : Snapshot (AxisCommand D)}
    (hnewer : daemon.commandIngress.hasCommand = true →
      daemon.commandIngress.lastCommandSequence < snapshot.sequence ∧
        daemon.commandIngress.lastCommandTimestampNs ≤ snapshot.timestampNs)
    {event : StagedCommandEvent D} (hevent : event ∈ accepted) :
    event.Before ⟨daemon.commandPublication + 1, snapshot⟩ := by
  have hnumbered := hgood.numbered event hevent
  have hstored := hgood.stored
  cases hlast : accepted.getLast? with
  | none =>
      rw [List.getLast?_eq_none_iff] at hlast
      rw [hlast] at hevent
      contradiction
  | some last =>
      simp only [StoresLast, hlast] at hstored
      obtain ⟨hsequence, htimestamp⟩ := hnewer hstored.hasCommand
      rw [hstored.sequence] at hsequence
      rw [hstored.timestamp] at htimestamp
      have hmem : last ∈ accepted := List.mem_of_getLast? hlast
      have hle := StagedCommandEvent.le_getLast hgood.ordered hlast hevent
      rcases StagedCommandEvent.ordered_cases hgood.ordered hevent hmem with
        heq | hbefore | hafter
      · rw [heq] at hnumbered ⊢
        exact ⟨Nat.lt_succ_of_le hnumbered, hsequence, htimestamp⟩
      · exact ⟨Nat.lt_succ_of_le hnumbered,
          hbefore.sequence.trans hsequence,
          hbefore.timestamp.trans htimestamp⟩
      · have hpublication := hafter.publication
        omega

section Decide

variable {producer : ℕ} {snapshot : Snapshot (AxisCommand D)}

/-- After a move behind the gate the moved producer is the only one which can
have a store to make. -/
theorem IngressInvariant.only_pending
    (hgood : IngressInvariant setup accepted published daemon)
    {phase next found : ProducerPhase D}
    (hproducer : daemon.producers producer = phase)
    (hinside : phase.inside = true) {other : ℕ}
    (hother : Function.update daemon.producers producer next other = found)
    (hfound : found.pending = true) : next = found := by
  by_cases heq : other = producer
  · rw [heq, Function.update_self] at hother
    exact hother
  · rw [Function.update_of_ne heq] at hother
    have hbehind : found.inside = true := by
      cases found with
      | publishing event => rfl
      | rejecting publication => rfl
      | _ => contradiction
    exact absurd (hgood.gate.eq_of_inside hother hproducer hbehind hinside) heq

theorem IngressInvariant.accept
    (hgood : IngressInvariant setup accepted published daemon)
    (hproducer : daemon.producers producer = .deciding snapshot)
    (hvalid : daemon.commandIngress.validSnapshot snapshot daemon.clock = true)
    (hnewer : daemon.commandIngress.hasCommand = true →
      daemon.commandIngress.lastCommandSequence < snapshot.sequence ∧
        daemon.commandIngress.lastCommandTimestampNs ≤ snapshot.timestampNs) :
    IngressInvariant setup
      (accepted ++ [⟨daemon.commandPublication + 1, snapshot⟩]) published
      ({ daemon with
        commandIngress := daemon.commandIngress.storeCommands snapshot
        commandPublication := daemon.commandPublication + 1 }.setProducer
          producer (.publishing ⟨daemon.commandPublication + 1, snapshot⟩)) := by
  have hconfigured : Configured setup
      (daemon.commandIngress.storeCommands snapshot) :=
    hgood.configured.of_sameSetup ⟨rfl, rfl, rfl, rfl⟩
  have halone := hgood.alone hproducer rfl rfl
  constructor
  · exact hconfigured
  · apply GateExclusive.setProducer
    · exact hgood.gate.of_same rfl fun _ hinside => hinside
    · intro _
      simp only [hproducer]
      rfl
  · rw [List.pairwise_append]
    refine ⟨hgood.ordered, List.pairwise_singleton _ _, ?_⟩
    intro event hevent new hnew
    rw [List.mem_singleton] at hnew
    rw [hnew]
    exact hgood.before_of_newer hnewer hevent
  · intro event hevent
    rcases List.mem_append.mp hevent with hold | hnew
    · exact (hgood.numbered event hold).trans (Nat.le_succ _)
    · rw [List.mem_singleton] at hnew
      rw [hnew]
      exact le_refl _
  · intro event hevent
    apply hgood.configured.validSnapshot hconfigured
    rcases List.mem_append.mp hevent with hold | hnew
    · exact hgood.valid event hold
    · rw [List.mem_singleton] at hnew
      rw [hnew]
      exact hvalid
  · simp only [StoresLast, List.getLast?_concat]
    exact storeCommands_holds hvalid
  · intro other event hother
    have hsame := hgood.only_pending hproducer rfl hother rfl
    rw [ProducerPhase.publishing.injEq] at hsame
    rw [halone, hsame]
  · intro hnobody
    have hsomebody := hnobody producer
      ⟨daemon.commandPublication + 1, snapshot⟩
    simp [RobotIoDaemon.setProducer] at hsomebody
  · exact hgood.handoff
  · exact hgood.rejected.trans (Nat.le_succ _)
  · intro other publication hother
    have hsame := hgood.only_pending hproducer rfl hother rfl
    contradiction

theorem IngressInvariant.refuse
    (hgood : IngressInvariant setup accepted published daemon)
    (hproducer : daemon.producers producer = .deciding snapshot) :
    IngressInvariant setup accepted published
      ({ daemon with
        commandIngress := { daemon.commandIngress with commandsValid := false }
        commandPublication := daemon.commandPublication + 1 }.setProducer
          producer (.rejecting (daemon.commandPublication + 1))) := by
  have hconfigured : Configured setup
      { daemon.commandIngress with commandsValid := false } :=
    hgood.configured.of_sameSetup ⟨rfl, rfl, rfl, rfl⟩
  have halone := hgood.alone hproducer rfl rfl
  constructor
  · exact hconfigured
  · apply GateExclusive.setProducer
    · exact hgood.gate.of_same rfl fun _ hinside => hinside
    · intro _
      simp only [hproducer]
      rfl
  · exact hgood.ordered
  · intro event hevent
    exact (hgood.numbered event hevent).trans (Nat.le_succ _)
  · intro event hevent
    exact hgood.configured.validSnapshot hconfigured
      (hgood.valid event hevent)
  · exact hgood.stored.invalidated
  · intro other event hother
    have hsame := hgood.only_pending hproducer rfl hother rfl
    contradiction
  · intro _
    exact halone
  · exact hgood.handoff
  · exact hgood.rejected.trans (Nat.le_succ _)
  · intro other publication hother
    have hsame := hgood.only_pending hproducer rfl hother rfl
    rw [ProducerPhase.rejecting.injEq] at hsame
    rw [← hsame]
    exact ⟨hgood.rejected.trans (Nat.le_succ _), le_refl _⟩

theorem IngressInvariant.publish
    (hgood : IngressInvariant setup accepted published daemon)
    {event : StagedCommandEvent D}
    (hproducer : daemon.producers producer = .publishing event) :
    IngressInvariant setup accepted (published ++ [event])
      ({ daemon with commandHandoff := some event }.setProducer producer
        .releasing) := by
  have haccepted := hgood.publishing producer event hproducer
  constructor
  · exact hgood.configured
  · apply GateExclusive.setProducer
    · exact hgood.gate.of_same rfl fun _ hinside => hinside
    · intro _
      simp only [hproducer]
      rfl
  · exact hgood.ordered
  · exact hgood.numbered
  · exact hgood.valid
  · exact hgood.stored
  · intro other newer hother
    have hsame := hgood.only_pending hproducer rfl hother rfl
    contradiction
  · intro _
    exact haccepted
  · simp [RobotIoDaemon.setProducer]
  · exact hgood.rejected
  · intro other publication hother
    have hsame := hgood.only_pending hproducer rfl hother rfl
    contradiction

theorem IngressInvariant.storeRejection
    (hgood : IngressInvariant setup accepted published daemon)
    {publication : ℕ}
    (hproducer : daemon.producers producer = .rejecting publication) :
    IngressInvariant setup accepted published
      ({ daemon with rejectedCommandPublication := publication }.setProducer
        producer .releasing) := by
  have hnumber := (hgood.rejecting producer publication hproducer).2
  constructor
  · exact hgood.configured
  · apply GateExclusive.setProducer
    · exact hgood.gate.of_same rfl fun _ hinside => hinside
    · intro _
      simp only [hproducer]
      rfl
  · exact hgood.ordered
  · exact hgood.numbered
  · exact hgood.valid
  · exact hgood.stored
  · intro other newer hother
    have hsame := hgood.only_pending hproducer rfl hother rfl
    contradiction
  · intro _
    apply hgood.settled
    intro other event hother
    have heq : other = producer :=
      hgood.gate.eq_of_inside hother hproducer rfl rfl
    rw [heq, hproducer] at hother
    contradiction
  · exact hgood.handoff
  · exact hnumber
  · intro other newer hother
    have hsame := hgood.only_pending hproducer rfl hother rfl
    contradiction

end Decide

/-- A producer waits or leaves without passing the gate inwards. -/
theorem IngressInvariant.wait
    (hgood : IngressInvariant setup accepted published daemon)
    {producer : ℕ} {phase waiting : ProducerPhase D}
    (hproducer : daemon.producers producer = phase)
    (hold : phase.pending = false) (hnew : waiting.pending = false)
    (hinside : waiting.inside = true → phase.inside = true) :
    IngressInvariant setup accepted published
      (daemon.setProducer producer waiting) := by
  rw [← hproducer] at hold hinside
  exact hgood.requeue hold hnew (hgood.gate.setProducer hinside)

/-- A step which neither accepts nor publishes. -/
theorem IngressInvariant.quiet
    (hgood : IngressInvariant setup accepted published daemon)
    {event : DaemonEvent D} (haccepted : event.accepted? = none)
    (hpublished : event.published? = none) :
    IngressInvariant setup (accepted ++ event.accepted?.toList)
      (published ++ event.published?.toList) daemon := by
  rw [haccepted, hpublished, Option.toList_none, List.append_nil,
    List.append_nil]
  exact hgood

theorem IngressInvariant.produce
    (hgood : IngressInvariant setup accepted published daemon)
    (producer : ℕ) :
    IngressInvariant setup
      (accepted ++ (daemon.produce producer).2.accepted?.toList)
      (published ++ (daemon.produce producer).2.published?.toList)
      (daemon.produce producer).1 := by
  unfold RobotIoDaemon.produce
  cases hproducer : daemon.producers producer with
  | idle => exact hgood.quiet rfl rfl
  | arriving snapshot =>
      dsimp only
      split
      · apply IngressInvariant.quiet _ rfl rfl
        exact hgood.wait hproducer rfl rfl id
      · apply IngressInvariant.quiet _ rfl rfl
        exact hgood.wait hproducer rfl rfl id
  | spinning snapshot =>
      dsimp only
      split
      · exact hgood.quiet rfl rfl
      · rename_i hfree
        rw [Bool.not_eq_true] at hfree
        have hidle : (daemon.producers producer).pending = false := by
          rw [hproducer]
          rfl
        exact (hgood.requeue hidle rfl (hgood.gate.acquire hfree producer
          (.holding snapshot))).quiet rfl rfl
  | holding snapshot =>
      dsimp only
      split
      · apply IngressInvariant.quiet _ rfl rfl
        exact hgood.wait hproducer rfl rfl id
      · apply IngressInvariant.quiet _ rfl rfl
        exact hgood.wait hproducer rfl rfl id
  | deciding snapshot =>
      rcases acceptCommands_cases daemon.commandIngress snapshot daemon.clock
        with hcase | ⟨hcase, _⟩ | ⟨hcase, hvalid, hnewer⟩
      · simp only [hcase]
        exact (hgood.refuse hproducer).quiet rfl rfl
      · simp only [hcase]
        apply IngressInvariant.quiet _ rfl rfl
        exact hgood.wait hproducer rfl rfl id
      · simp only [hcase, DaemonEvent.accepted?, DaemonEvent.published?,
          Option.toList_none, Option.toList_some, List.append_nil]
        exact hgood.accept hproducer hvalid hnewer
  | publishing event =>
      simp only [DaemonEvent.accepted?, DaemonEvent.published?,
        Option.toList_none, Option.toList_some, List.append_nil]
      exact hgood.publish hproducer
  | rejecting publication =>
      exact (hgood.storeRejection hproducer).quiet rfl rfl
  | releasing =>
      have hidle : (daemon.producers producer).pending = false := by
        rw [hproducer]
        rfl
      have hinside : (daemon.producers producer).inside = true := by
        rw [hproducer]
        rfl
      exact (hgood.requeue hidle rfl (hgood.gate.release hinside)).quiet rfl
        rfl

theorem IngressInvariant.stage
    (hgood : IngressInvariant setup accepted published daemon)
    (producer : ℕ) (snapshot : Snapshot (AxisCommand D)) :
    IngressInvariant setup accepted published
      (daemon.stage producer snapshot) := by
  unfold RobotIoDaemon.stage
  split
  · rename_i hidle
    exact hgood.wait hidle rfl rfl id
  · exact hgood

theorem IngressInvariant.of_sameIngress
    (hgood : IngressInvariant setup accepted published daemon)
    {next : RobotIoDaemon D} (hsame : SameIngress daemon next) :
    IngressInvariant setup accepted published next := by
  have hgate : GateExclusive next := by
    apply hgood.gate.of_same hsame.gate
    intro producer hinside
    rw [hsame.producers] at hinside
    exact hinside
  apply hgood.of_same hgate hsame.clock hsame.ingress hsame.handoff
    hsame.publication hsame.rejected
  intro producer _
  rw [hsame.producers]

/-- The ingress invariant is kept by every step. -/
theorem IngressInvariant.step
    {steps : List (DaemonStep D)}
    (hgood : IngressInvariant setup (acceptedEvents steps)
      (publishedEvents steps) daemon) (action : DaemonAction D) :
    IngressInvariant setup
      (acceptedEvents (steps ++ [daemonMachine.fire daemon action]))
      (publishedEvents (steps ++ [daemonMachine.fire daemon action]))
      (daemonMachine.step daemon action).1 := by
  unfold acceptedEvents publishedEvents
  rw [filterMap_concat, filterMap_concat]
  cases step_ingressStep daemon action with
  | produced producer haction =>
      subst haction
      exact hgood.produce producer
  | staged producer snapshot haction =>
      subst haction
      exact (hgood.stage producer snapshot).quiet rfl rfl
  | kept hsame hevent =>
      exact (hgood.of_sameIngress hsame).quiet
        (DaemonEvent.accepted?_of_fromOwner hevent)
        (DaemonEvent.published?_of_fromOwner hevent)

theorem IngressInvariant.published_ordered
    (hgood : IngressInvariant setup accepted published daemon) :
    published.Pairwise StagedCommandEvent.Before := by
  by_cases hbusy : ∃ producer event,
      daemon.producers producer = .publishing event
  · obtain ⟨producer, event, hproducer⟩ := hbusy
    have hordered := hgood.ordered
    rw [hgood.publishing producer event hproducer] at hordered
    exact (List.pairwise_append.mp hordered).1
  · simp only [not_exists] at hbusy
    rw [← hgood.settled hbusy]
    exact hgood.ordered

/-- Rejections are stored in the order of their numbers. -/
theorem IngressInvariant.rejected_le
    (hgood : IngressInvariant setup accepted published daemon)
    (action : DaemonAction D) :
    daemon.rejectedCommandPublication ≤
      (daemonMachine.step daemon action).1.rejectedCommandPublication := by
  cases step_ingressStep daemon action with
  | produced producer haction =>
      subst haction
      simp only [daemonMachine, RobotIoDaemon.step, RobotIoDaemon.produce]
      cases hproducer : daemon.producers producer with
      | rejecting publication =>
          exact (hgood.rejecting producer publication hproducer).1
      | arriving snapshot | spinning snapshot | holding snapshot =>
          dsimp only
          split <;> exact le_refl _
      | deciding snapshot =>
          dsimp only
          split <;> exact le_refl _
      | _ => exact le_refl _
  | staged producer snapshot haction =>
      subst haction
      simp only [daemonMachine, RobotIoDaemon.step, RobotIoDaemon.stage]
      split <;> exact le_refl _
  | kept hsame hevent => rw [hsame.rejected]

end PolicyRuntime
