import PolicyRuntime.Machine
import PolicyRuntime.Sequences

/-!
# Command epochs

A group of axes takes its commands in epochs: every member stages a command
under a common epoch number, and a commit hands the complete batch on.  The
protocol is implemented twice.  `EthercatGroup` is the staging of the DDS
endpoint, in which every change of the epoch starts a new batch;
`EthercatEpochMailbox` refuses commands of older epochs.  The two agree as long
as the epochs of the staged commands never decrease.
-/

namespace PolicyRuntime

structure EpochBatch (T : Type) where
  epoch : ℕ
  commands : List T
  deriving DecidableEq

inductive EpochEvent (T : Type)
  | stage (member epoch : ℕ) (command : T)
  | commit (epoch : ℕ)

/-- One entry of `commands` and `staged` per member below `size`. -/
structure EthercatGroup (T : Type) where
  name : String
  size : ℕ
  epoch : ℕ
  commands : ℕ → T
  staged : ℕ → Bool

structure EthercatEpochMailbox (T : Type) where
  size : ℕ
  stagingEpoch : ℕ
  commands : ℕ → T
  staged : ℕ → Bool
  committed : Option (EpochBatch T)

variable {T : Type}

/-! ## The group of the DDS endpoint -/

namespace EthercatGroup

def create [Inhabited T] (name : String) (size : ℕ) : EthercatGroup T where
  name := name
  size := size
  epoch := 0
  commands := fun _ => default
  staged := fun _ => false

/-- A command of another epoch discards what was staged. -/
def enterEpoch (group : EthercatGroup T) (epoch : ℕ) : EthercatGroup T :=
  if group.epoch ≠ epoch then
    { group with epoch := epoch, staged := fun _ => false }
  else
    group

def stage (group : EthercatGroup T) (member epoch : ℕ) (command : T) :
    EthercatGroup T :=
  let entered := group.enterEpoch epoch
  { entered with
    commands := Function.update entered.commands member command
    staged := Function.update entered.staged member true }

def allStaged (group : EthercatGroup T) : Bool :=
  (List.range group.size).all group.staged

def batch (group : EthercatGroup T) : EpochBatch T where
  epoch := group.epoch
  commands := (List.range group.size).map group.commands

/-- A commit which does not match the staged epoch is dropped. -/
def commit (group : EthercatGroup T) (epoch : ℕ) :
    EthercatGroup T × Option (EpochBatch T) :=
  if epoch = 0 || epoch ≠ group.epoch || !group.allStaged then
    (group, none)
  else
    ({ group with staged := fun _ => false }, some group.batch)

theorem allStaged_iff (group : EthercatGroup T) :
    group.allStaged = true ↔
      ∀ member < group.size, group.staged member = true := by
  simp [allStaged]

theorem commit_eq_some_iff
    (group : EthercatGroup T) (epoch : ℕ) (batch : EpochBatch T) :
    (group.commit epoch).2 = some batch ↔
      epoch ≠ 0 ∧ epoch = group.epoch ∧ group.allStaged = true ∧
        batch = group.batch := by
  unfold commit
  split
  · rename_i hrefused
    simp only [Bool.or_eq_true, decide_eq_true_eq, Bool.not_eq_true'] at hrefused
    constructor
    · intro hnone
      contradiction
    · rintro ⟨hepoch, hsame, hstaged, _⟩
      rcases hrefused with (hzero | hother) | hmissing
      · exact absurd hzero hepoch
      · exact absurd hsame hother
      · rw [hstaged] at hmissing
        contradiction
  · rename_i hready
    simp only [Bool.or_eq_true, decide_eq_true_eq, Bool.not_eq_true', not_or,
      Bool.not_eq_false, not_not] at hready
    simp only [Option.some.injEq, hready.2, true_and]
    constructor
    · intro hbatch
      exact ⟨hready.1.1, hready.1.2, hbatch.symm⟩
    · rintro ⟨_, _, hbatch⟩
      exact hbatch.symm

/-- What a commit does to the group besides handing the batch on. -/
theorem commit_fst (group : EthercatGroup T) (epoch : ℕ) :
    (group.commit epoch).1 =
      if (group.commit epoch).2.isSome then
        { group with staged := fun _ => false }
      else group := by
  unfold commit
  split <;> simp

end EthercatGroup

/-- A group driven by staged commands and commits. -/
def groupMachine :
    Machine (EthercatGroup T) (EpochEvent T) (Option (EpochBatch T)) where
  step := fun group event =>
    match event with
    | .stage member epoch command => (group.stage member epoch command, none)
    | .commit epoch => group.commit epoch

/-! ## The mailbox -/

namespace EthercatEpochMailbox

def create [Inhabited T] (maximumMembers memberCount : ℕ) :
    EthercatEpochMailbox T where
  size := if memberCount ≤ maximumMembers then memberCount else 0
  stagingEpoch := 0
  commands := fun _ => default
  staged := fun _ => false
  committed := none

def stage (mailbox : EthercatEpochMailbox T) (index epoch : ℕ) (command : T) :
    EthercatEpochMailbox T × Bool :=
  if mailbox.size = 0 || mailbox.size ≤ index || epoch = 0 ||
      epoch < mailbox.stagingEpoch then
    (mailbox, false)
  else
    let entered :=
      if epoch ≠ mailbox.stagingEpoch then
        { mailbox with stagingEpoch := epoch, staged := fun _ => false }
      else
        mailbox
    ({ entered with
        commands := Function.update entered.commands index command
        staged := Function.update entered.staged index true },
      true)

def allStaged (mailbox : EthercatEpochMailbox T) : Bool :=
  (List.range mailbox.size).all mailbox.staged

def batch (mailbox : EthercatEpochMailbox T) (epoch : ℕ) : EpochBatch T where
  epoch := epoch
  commands := (List.range mailbox.size).map mailbox.commands

def commit (mailbox : EthercatEpochMailbox T) (epoch : ℕ) :
    EthercatEpochMailbox T × Bool :=
  if mailbox.size = 0 || epoch = 0 || epoch ≠ mailbox.stagingEpoch then
    (mailbox, false)
  else if !mailbox.allStaged then
    (mailbox, false)
  else
    ({ mailbox with
        committed := some (mailbox.batch epoch)
        staged := fun _ => false },
      true)

end EthercatEpochMailbox

/-- A mailbox driven by the same events.  The output is the batch stored by a
commit which returns true. -/
def mailboxMachine :
    Machine (EthercatEpochMailbox T) (EpochEvent T)
      (Option (EpochBatch T)) where
  step := fun mailbox event =>
    match event with
    | .stage member epoch command =>
        ((mailbox.stage member epoch command).1, none)
    | .commit epoch =>
        let (next, done) := mailbox.commit epoch
        (next, if done then next.committed else none)

/-! ## Agreement -/

/-- The events of a group of `size` members: member indices in range, and no
command of the epoch zero. -/
def EpochEvent.Valid (size : ℕ) : EpochEvent T → Prop
  | .stage member epoch _ => member < size ∧ epoch ≠ 0
  | .commit _ => True

def EpochEvent.stagedEpoch? : EpochEvent T → Option ℕ
  | .stage _ epoch _ => some epoch
  | .commit _ => none

def batches {σ : Type} (machine : Machine σ (EpochEvent T)
    (Option (EpochBatch T))) (start : σ) (events : List (EpochEvent T)) :
    List (EpochBatch T) :=
  (machine.trace start events).filterMap Transition.output

/-- Group and mailbox have staged the same. -/
structure SameStaging (group : EthercatGroup T)
    (mailbox : EthercatEpochMailbox T) : Prop where
  size : mailbox.size = group.size
  epoch : mailbox.stagingEpoch = group.epoch
  commands : mailbox.commands = group.commands
  staged : mailbox.staged = group.staged

theorem SameStaging.allStaged
    {group : EthercatGroup T} {mailbox : EthercatEpochMailbox T}
    (hsame : SameStaging group mailbox) :
    mailbox.allStaged = group.allStaged := by
  unfold EthercatEpochMailbox.allStaged EthercatGroup.allStaged
  rw [hsame.size, hsame.staged]

theorem SameStaging.batch
    {group : EthercatGroup T} {mailbox : EthercatEpochMailbox T}
    (hsame : SameStaging group mailbox) :
    mailbox.batch group.epoch = group.batch := by
  unfold EthercatEpochMailbox.batch EthercatGroup.batch
  rw [hsame.size, hsame.commands]

/-- A command of the current or a newer epoch is staged by both. -/
theorem SameStaging.stage
    {group : EthercatGroup T} {mailbox : EthercatEpochMailbox T}
    (hsame : SameStaging group mailbox) {member epoch : ℕ}
    (hmember : member < group.size) (hepoch : epoch ≠ 0)
    (hnewer : group.epoch ≤ epoch) (command : T) :
    SameStaging (group.stage member epoch command)
      (mailbox.stage member epoch command).1 := by
  have haccepted : ¬ (mailbox.size = 0 || mailbox.size ≤ member ||
      epoch = 0 || epoch < mailbox.stagingEpoch) = true := by
    have hsize := hsame.size
    have hstaging := hsame.epoch
    simp only [Bool.or_eq_true, decide_eq_true_eq]
    omega
  unfold EthercatEpochMailbox.stage EthercatGroup.stage
    EthercatGroup.enterEpoch
  rw [if_neg haccepted]
  dsimp only
  by_cases hother : group.epoch ≠ epoch
  · have hmailbox : epoch ≠ mailbox.stagingEpoch := by
      rw [hsame.epoch]
      exact hother.symm
    rw [if_pos hother, if_pos hmailbox]
    exact ⟨hsame.size, rfl, by rw [hsame.commands], rfl⟩
  · have hmailbox : ¬ epoch ≠ mailbox.stagingEpoch := by
      rw [hsame.epoch]
      exact fun hne => hother hne.symm
    rw [if_neg hother, if_neg hmailbox]
    exact ⟨hsame.size, hsame.epoch, by rw [hsame.commands],
      by rw [hsame.staged]⟩

/-- A commit is answered alike by both. -/
theorem SameStaging.commit
    {group : EthercatGroup T} {mailbox : EthercatEpochMailbox T}
    (hsame : SameStaging group mailbox) (hsize : 0 < group.size)
    (epoch : ℕ) :
    SameStaging (group.commit epoch).1
        (mailboxMachine.step mailbox (.commit epoch)).1 ∧
      (mailboxMachine.step mailbox (.commit epoch)).2 =
        (group.commit epoch).2 := by
  have hempty : (mailbox.size = 0 || epoch = 0 ||
      epoch ≠ mailbox.stagingEpoch) =
      (decide (epoch = 0) || decide (epoch ≠ group.epoch)) := by
    rw [hsame.size, hsame.epoch, decide_eq_false hsize.ne', Bool.false_or]
  unfold mailboxMachine EthercatEpochMailbox.commit EthercatGroup.commit
  dsimp only
  rw [hempty, hsame.allStaged]
  by_cases hrefused : (decide (epoch = 0) ||
      decide (epoch ≠ group.epoch)) = true
  · simp only [hrefused, Bool.true_or, if_true, Bool.false_eq_true, if_false]
    exact ⟨hsame, trivial⟩
  · cases hstaged : group.allStaged with
    | false =>
        simp only [hrefused, Bool.not_false, Bool.or_true, Bool.false_eq_true,
          if_false, if_true]
        exact ⟨hsame, trivial⟩
    | true =>
        have hepoch : epoch = group.epoch := by
          simp only [Bool.or_eq_true, decide_eq_true_eq, not_or,
            not_not] at hrefused
          exact hrefused.2
        simp only [hrefused, Bool.not_true, Bool.or_false, Bool.false_eq_true,
          if_false, if_true]
        refine ⟨⟨hsame.size, hsame.epoch, hsame.commands, rfl⟩, ?_⟩
        rw [hepoch, hsame.batch]

theorem EthercatGroup.stage_epoch
    (group : EthercatGroup T) (member epoch : ℕ) (command : T) :
    (group.stage member epoch command).epoch = epoch := by
  unfold stage enterEpoch
  by_cases hother : group.epoch = epoch
  · simp [hother]
  · simp [hother]

theorem EthercatGroup.stage_size
    (group : EthercatGroup T) (member epoch : ℕ) (command : T) :
    (group.stage member epoch command).size = group.size := by
  unfold stage enterEpoch
  split <;> rfl

theorem EthercatGroup.commit_epoch (group : EthercatGroup T) (epoch : ℕ) :
    (group.commit epoch).1.epoch = group.epoch ∧
      (group.commit epoch).1.size = group.size := by
  unfold commit
  split <;> exact ⟨rfl, rfl⟩

theorem groupMachine_step_name
    (group : EthercatGroup T) (event : EpochEvent T) :
    (groupMachine.step group event).1.name = group.name := by
  cases event with
  | stage member epoch command =>
      change (group.stage member epoch command).name = group.name
      unfold EthercatGroup.stage EthercatGroup.enterEpoch
      split <;> rfl
  | commit epoch =>
      change (group.commit epoch).1.name = group.name
      unfold EthercatGroup.commit
      split <;> rfl

theorem groupMachine_step_size
    (group : EthercatGroup T) (event : EpochEvent T) :
    (groupMachine.step group event).1.size = group.size := by
  cases event with
  | stage member epoch command => exact group.stage_size member epoch command
  | commit epoch => exact (group.commit_epoch epoch).2

theorem groupMachine_final_size
    (group : EthercatGroup T) (events : List (EpochEvent T)) :
    (groupMachine.final group events).size = group.size := by
  induction events generalizing group with
  | nil => rfl
  | cons event rest ih =>
      exact (ih _).trans (groupMachine_step_size group event)

theorem groupMachine_final_name
    (group : EthercatGroup T) (events : List (EpochEvent T)) :
    (groupMachine.final group events).name = group.name := by
  induction events generalizing group with
  | nil => rfl
  | cons event rest ih =>
      exact (ih _).trans (groupMachine_step_name group event)

/-- From states which have staged the same, events whose epochs never decrease
produce the same batches. -/
theorem SameStaging.batches_eq
    {group : EthercatGroup T} {mailbox : EthercatEpochMailbox T}
    (hsame : SameStaging group mailbox) (hsize : 0 < group.size)
    {events : List (EpochEvent T)}
    (hvalid : ∀ event ∈ events, event.Valid group.size)
    (hnewer : ∀ epoch ∈ events.filterMap EpochEvent.stagedEpoch?,
      group.epoch ≤ epoch)
    (horder : (events.filterMap EpochEvent.stagedEpoch?).Pairwise (· ≤ ·)) :
    batches groupMachine group events =
      batches mailboxMachine mailbox events := by
  induction events generalizing group mailbox with
  | nil => rfl
  | cons event rest ih =>
      have hrest := fun next hnext =>
        hvalid next (List.mem_cons_of_mem event hnext)
      cases event with
      | stage member epoch command =>
          obtain ⟨hmember, hepoch⟩ := hvalid _ List.mem_cons_self
          simp only [List.filterMap_cons, EpochEvent.stagedEpoch?,
            List.mem_cons, forall_eq_or_imp] at hnewer
          simp only [List.filterMap_cons, EpochEvent.stagedEpoch?,
            List.pairwise_cons] at horder
          have hnext := hsame.stage hmember hepoch hnewer.1 command
          have hih := ih hnext (by rwa [EthercatGroup.stage_size])
            (by rwa [EthercatGroup.stage_size])
            (by rw [EthercatGroup.stage_epoch]; exact horder.1) horder.2
          exact hih
      | commit epoch =>
          obtain ⟨hnext, houtput⟩ := hsame.commit hsize epoch
          have hkept := group.commit_epoch epoch
          simp only [List.filterMap_cons,
            EpochEvent.stagedEpoch?] at hnewer horder
          have hih := ih hnext (by rwa [hkept.2]) (by rwa [hkept.2])
            (by rwa [hkept.1]) horder
          unfold batches at hih ⊢
          simp only [Machine.trace_cons, List.filterMap_cons,
            Machine.fire_output]
          rw [houtput, ← hih]
          rfl

/-! ## Where a staged command comes from -/

/-- Events after which a command of `member` is still staged under `epoch`. -/
def EpochEvent.Undisturbed (member epoch : ℕ) : EpochEvent T → Prop
  | .stage other newer _ => other ≠ member ∧ newer = epoch
  | .commit committed => committed ≠ epoch

def EthercatGroup.Holds (group : EthercatGroup T) (member epoch : ℕ)
    (command : T) : Prop :=
  group.staged member = true ∧ group.epoch = epoch ∧
    group.commands member = command

theorem batches_append {σ : Type}
    (machine : Machine σ (EpochEvent T) (Option (EpochBatch T))) (start : σ)
    (earlier later : List (EpochEvent T)) :
    batches machine start (earlier ++ later) =
      batches machine start earlier ++
        batches machine (machine.final start earlier) later := by
  unfold batches
  rw [Machine.trace_append, List.filterMap_append]

theorem batches_cons {σ : Type}
    (machine : Machine σ (EpochEvent T) (Option (EpochBatch T))) (start : σ)
    (event : EpochEvent T) (rest : List (EpochEvent T)) :
    batches machine start (event :: rest) =
      (machine.step start event).2.toList ++
        batches machine (machine.step start event).1 rest := by
  unfold batches
  rw [Machine.trace_cons, filterMap_cons_toList, Machine.fire_output]

theorem EthercatGroup.stage_holds
    (group : EthercatGroup T) (member epoch : ℕ) (command : T) :
    (group.stage member epoch command).Holds member epoch command := by
  refine ⟨?_, group.stage_epoch member epoch command, ?_⟩
  · exact Function.update_self ..
  · exact Function.update_self ..

theorem EthercatGroup.stage_staged_of_ne
    (group : EthercatGroup T) {member other : ℕ} (epoch : ℕ) (command : T)
    (hne : other ≠ member) :
    ((group.stage other epoch command).staged member = true ↔
        group.epoch = epoch ∧ group.staged member = true) ∧
      (group.stage other epoch command).commands member =
        group.commands member := by
  unfold stage enterEpoch
  by_cases hepoch : group.epoch = epoch
  · simp [hepoch, Function.update_of_ne hne.symm]
  · simp [hepoch, Function.update_of_ne hne.symm]

theorem EthercatGroup.Holds.step
    {group : EthercatGroup T} {member epoch : ℕ} {command : T}
    (hholds : group.Holds member epoch command) {event : EpochEvent T}
    (hevent : event.Undisturbed member epoch) :
    (groupMachine.step group event).1.Holds member epoch command := by
  obtain ⟨hstaged, hepoch, hcommand⟩ := hholds
  cases event with
  | stage other newer value =>
      obtain ⟨hother, hnewer⟩ := hevent
      have hkept := group.stage_staged_of_ne newer value hother
      refine ⟨hkept.1.mpr ⟨by rw [hepoch, hnewer], hstaged⟩, ?_, ?_⟩
      · rw [← hnewer]
        exact group.stage_epoch other newer value
      · rw [← hcommand]
        exact hkept.2
  | commit committed =>
      have hrefused : (group.commit committed).1 = group := by
        unfold commit
        rw [if_pos]
        simp only [EpochEvent.Undisturbed] at hevent
        simp [hepoch, hevent]
      exact hrefused.symm ▸ ⟨hstaged, hepoch, hcommand⟩

/-- A command stays staged along undisturbed events. -/
theorem EthercatGroup.Holds.final
    {group : EthercatGroup T} {member epoch : ℕ} {command : T}
    (hholds : group.Holds member epoch command)
    {events : List (EpochEvent T)}
    (hevents : ∀ event ∈ events, event.Undisturbed member epoch) :
    (groupMachine.final group events).Holds member epoch command := by
  induction events generalizing group with
  | nil => exact hholds
  | cons event rest ih =>
      refine ih (hholds.step (hevents event List.mem_cons_self)) ?_
      intro next hnext
      exact hevents next (List.mem_cons_of_mem event hnext)

/-- The latest command of a member was taken after `before`; since then its
group took no command of another epoch and handed on no batch. -/
structure StagedFrom (start : EthercatGroup T) (events : List (EpochEvent T))
    (member epoch : ℕ) (command : T)
    (before after : List (EpochEvent T)) : Prop where
  split : events = before ++ .stage member epoch command :: after
  kept : ∀ other newer value, .stage other newer value ∈ after →
    other ≠ member ∧ newer = epoch
  unbatched : batches groupMachine (groupMachine.final start
    (before ++ [.stage member epoch command])) after = []

theorem StagedFrom.append
    {start : EthercatGroup T} {events before after : List (EpochEvent T)}
    {member epoch : ℕ} {command : T}
    (hfrom : StagedFrom start events member epoch command before after)
    {event : EpochEvent T}
    (hkept : ∀ other newer value, event = .stage other newer value →
      other ≠ member ∧ newer = epoch)
    (hbatch :
      (groupMachine.step (groupMachine.final start events) event).2 = none) :
    StagedFrom start (events ++ [event]) member epoch command before
      (after ++ [event]) := by
  refine ⟨?_, ?_, ?_⟩
  · rw [hfrom.split]
    simp
  · intro other newer value hmem
    rcases List.mem_append.mp hmem with hafter | hlast
    · exact hfrom.kept other newer value hafter
    · exact hkept other newer value (List.mem_singleton.mp hlast).symm
  · rw [batches_append, hfrom.unbatched, ← Machine.final_append,
      List.append_assoc, List.singleton_append, ← hfrom.split]
    simp [batches, hbatch]

theorem exists_stagedFrom
    {start : EthercatGroup T} (hstart : ∀ member, start.staged member = false)
    {events : List (EpochEvent T)} {member epoch : ℕ} {command : T}
    (hholds :
      (groupMachine.final start events).Holds member epoch command) :
    ∃ before after,
      StagedFrom start events member epoch command before after := by
  induction events using List.reverseRecOn with
  | nil =>
      have hstaged := hholds.1
      rw [Machine.final_nil, hstart member] at hstaged
      contradiction
  | append_singleton events event ih =>
      rw [groupMachine.final_append] at hholds
      cases event with
      | stage other newer value =>
          have hnewer : newer = epoch := by
            rw [← hholds.2.1]
            exact (EthercatGroup.stage_epoch _ other newer value).symm
          by_cases hother : other = member
          · have hvalue : value = command := by
              rw [← hholds.2.2, ← hother]
              exact (EthercatGroup.stage_holds _ other newer value).2.2.symm
            subst hother hnewer hvalue
            refine ⟨events, [], rfl, ?_, rfl⟩
            intro _ _ _ hmem
            exact absurd hmem List.not_mem_nil
          · have hkept := EthercatGroup.stage_staged_of_ne
              (groupMachine.final start events) newer value hother
            obtain ⟨hepoch, hstaged⟩ := hkept.1.mp hholds.1
            obtain ⟨before, after, hfrom⟩ :=
              ih ⟨hstaged, hepoch.trans hnewer, hkept.2.symm.trans hholds.2.2⟩
            refine ⟨before, _, hfrom.append ?_ rfl⟩
            intro _ _ _ hevent
            cases hevent
            exact ⟨hother, hnewer⟩
      | commit committed =>
          have hnone : ((groupMachine.final start events).commit
              committed).2 = none := by
            by_contra hsome
            have hcleared :=
              (groupMachine.final start events).commit_fst committed
            rw [if_pos (Option.isSome_iff_ne_none.mpr hsome)] at hcleared
            have hstaged := hholds.1
            rw [show (groupMachine.final (groupMachine.final start events)
              [.commit committed]) = _ from hcleared] at hstaged
            contradiction
          have hsame :=
            (groupMachine.final start events).commit_fst committed
          rw [hnone] at hsame
          rw [show (groupMachine.final (groupMachine.final start events)
            [.commit committed]) = _ from hsame] at hholds
          obtain ⟨before, after, hfrom⟩ := ih hholds
          refine ⟨before, _, hfrom.append ?_ hnone⟩
          intro _ _ _ hevent
          cases hevent

section Runs

variable [Inhabited T]

def groupBatches (size : ℕ) (events : List (EpochEvent T)) :
    List (EpochBatch T) :=
  batches groupMachine (EthercatGroup.create "" size) events

def mailboxBatches (maximumMembers size : ℕ) (events : List (EpochEvent T)) :
    List (EpochBatch T) :=
  batches mailboxMachine (EthercatEpochMailbox.create maximumMembers size)
    events

/-- As long as no command is older than an earlier one, endpoint and mailbox
hand on the same batches. -/
theorem epoch_batches_agree
    (maximumMembers size : ℕ) (hsize : 1 ≤ size)
    (hfits : size ≤ maximumMembers) (events : List (EpochEvent T))
    (hvalid : ∀ event ∈ events, event.Valid size)
    (horder : (events.filterMap EpochEvent.stagedEpoch?).Pairwise (· ≤ ·)) :
    groupBatches size events = mailboxBatches maximumMembers size events := by
  have hsame : SameStaging (EthercatGroup.create (T := T) "" size)
      (EthercatEpochMailbox.create maximumMembers size) :=
    ⟨if_pos hfits, rfl, rfl, rfl⟩
  exact hsame.batches_eq hsize hvalid (fun epoch _ => Nat.zero_le epoch)
    horder

end Runs

theorem epoch_batches_agree_twoMembers :
    groupBatches 2 [.stage 0 9 10, .stage 1 9 20, .commit 9] =
        [⟨9, [10, 20]⟩] ∧
      groupBatches 2 [.stage 0 9 10, .stage 1 9 20, .commit 9] =
        mailboxBatches 4 2 [.stage 0 9 10, .stage 1 9 20, .commit 9] := by
  refine ⟨by decide, epoch_batches_agree 4 2 (by decide) (by decide) _ ?_
    (by decide)⟩
  intro event hevent
  simp only [List.mem_cons, List.not_mem_nil, or_false] at hevent
  rcases hevent with rfl | rfl | rfl
  · exact ⟨by decide, by decide⟩
  · exact ⟨by decide, by decide⟩
  · trivial

/-- A command of an older epoch is handed on by the endpoint and refused by the
mailbox. -/
theorem older_epoch_separates :
    groupBatches 1 [.stage 0 5 10, .stage 0 3 20, .commit 3] ≠
      mailboxBatches 4 1 [.stage 0 5 10, .stage 0 3 20, .commit 3] := by
  decide

end PolicyRuntime
