import PolicyRuntime.Machine
import PolicyRuntime.Sequences
import PolicyRuntime.St3215Servo

/-!
# Staging commands in the device registry

Any number of threads stage commands for single servos and for all servos at
once.  Each servo has a gate which is tried, never waited for; a batch takes all
gates before it inspects a servo and gives them back on every path.  The steps
of the threads are interleaved in any order.
-/

namespace PolicyRuntime

open FloatingPoint

variable {D : Type}

/-- The arguments of `stage_commands`: a snapshot of commands and the time.  The
array of a snapshot has room for every servo of a registry. -/
structure StageBatch (D : Type) where
  sequence : ℕ
  timestampNs : ℤ
  axisCount : ℕ
  axes : ℕ → St3215ServoCommand D
  nowNs : ℤ

inductive StageRequest (D : Type)
  | single (index : ℕ) (command : St3215ServoCommand D)
  | all (batch : StageBatch D)

/-- Where a thread stands in its call. -/
inductive StageProgress (D : Type)
  | lock (index : ℕ) (command : St3215ServoCommand D)
  | inspect (index : ℕ) (command : St3215ServoCommand D)
  | commit (index : ℕ) (command : St3215ServoCommand D)
  | unlock (index : ℕ) (command : St3215ServoCommand D)
      (acceptance : St3215CommandAcceptance)
  | batchLock (batch : StageBatch D) (locked : ℕ)
  | batchRelease (batch : StageBatch D) (locked index : ℕ)
  | batchInspect (batch : StageBatch D) (index : ℕ)
      (first : St3215CommandAcceptance) (uniform : Bool)
  | batchCommit (batch : StageBatch D) (index : ℕ)
  | batchUnlock (batch : StageBatch D) (index : ℕ)
      (acceptance : St3215CommandAcceptance)

def StageProgress.request : StageProgress D → StageRequest D
  | .lock index command => .single index command
  | .inspect index command => .single index command
  | .commit index command => .single index command
  | .unlock index command _ => .single index command
  | .batchLock batch _ => .all batch
  | .batchRelease batch _ _ => .all batch
  | .batchInspect batch _ _ _ => .all batch
  | .batchCommit batch _ => .all batch
  | .batchUnlock batch _ _ => .all batch

/-- What a step does to a servo. -/
inductive StageEffect (D : Type)
  | locked (index : ℕ)
  | unlocked (index : ℕ)
  | committed (index : ℕ) (command : St3215ServoCommand D)

/-- One step of a thread: its effect and where it stands then.  A call which
stands nowhere has returned its result. -/
structure StageMove (D : Type) where
  effect : Option (StageEffect D)
  next : StageProgress D ⊕ St3215CommandAcceptance

structure StagingState (D : Type) where
  servoCount : ℕ
  servos : ℕ → St3215Servo D
  calls : ℕ → Option (StageProgress D)

inductive StagingInput (D : Type)
  | call (thread : ℕ) (request : StageRequest D)
  | step (thread : ℕ) (nowNs : ℤ)

def StagingInput.thread : StagingInput D → ℕ
  | .call thread _ => thread
  | .step thread _ => thread

structure StagingOutput (D : Type) where
  effect : Option (StageEffect D)
  returned : Option (StageRequest D × St3215CommandAcceptance)

def applyEffect (servos : ℕ → St3215Servo D) :
    Option (StageEffect D) → ℕ → St3215Servo D
  | none => servos
  | some (.locked index) =>
      Function.update servos index (servos index).tryLockCommand.1
  | some (.unlocked index) =>
      Function.update servos index (servos index).unlockCommand
  | some (.committed index command) =>
      Function.update servos index ((servos index).commitCommand command)

/-- The checks of `stage_commands` before it takes a gate. -/
def StageBatch.admissible (batch : StageBatch D) (servoCount : ℕ) : Bool :=
  !(batch.axisCount ≠ servoCount || servoCount = 0 ||
      batch.timestampNs < 0 ||
      batch.nowNs < batch.timestampNs) &&
    (List.range servoCount).all fun index =>
      (batch.axes index).sequence = batch.sequence &&
        (batch.axes index).timestampNs = batch.timestampNs

/-- How a call begins. -/
def StageRequest.enter (request : StageRequest D) (servoCount : ℕ) :
    StageProgress D ⊕ St3215CommandAcceptance :=
  match request with
  | .single index command =>
      if index < servoCount then .inl (.lock index command)
      else .inr .rejected
  | .all batch =>
      if batch.admissible servoCount then .inl (.batchLock batch 0)
      else .inr .rejected

variable [FloatingPoint D]

/-- The next step of a thread.  Only the inspection of a single command reads
the clock. -/
def StageProgress.move (servoCount : ℕ) (servos : ℕ → St3215Servo D)
    (progress : StageProgress D) (nowNs : ℤ) : StageMove D :=
  match progress with
  | .lock index command =>
      if (servos index).tryLockCommand.2 then
        ⟨some (.locked index), .inl (.inspect index command)⟩
      else
        ⟨none, .inr .rejected⟩
  | .inspect index command =>
      let acceptance := (servos index).inspectCommand command nowNs
      if acceptance = .accepted then
        ⟨none, .inl (.commit index command)⟩
      else
        ⟨none, .inl (.unlock index command acceptance)⟩
  | .commit index command =>
      ⟨some (.committed index command),
        .inl (.unlock index command .accepted)⟩
  | .unlock index _ acceptance =>
      ⟨some (.unlocked index), .inr acceptance⟩
  | .batchLock batch locked =>
      if locked < servoCount then
        if (servos locked).tryLockCommand.2 then
          ⟨some (.locked locked), .inl (.batchLock batch (locked + 1))⟩
        else
          ⟨none, .inl (.batchRelease batch locked 0)⟩
      else
        let first :=
          (servos 0).inspectCommand (batch.axes 0) batch.nowNs
        ⟨none, .inl (.batchInspect batch 1 first (first ≠ .rejected))⟩
  | .batchRelease batch locked index =>
      if index < locked then
        ⟨some (.unlocked index), .inl (.batchRelease batch locked (index + 1))⟩
      else
        ⟨none, .inr .rejected⟩
  | .batchInspect batch index first uniform =>
      if index < servoCount then
        let same := (servos index).inspectCommand (batch.axes index)
          batch.nowNs = first
        ⟨none, .inl (.batchInspect batch (index + 1) first (uniform && same))⟩
      else if uniform && first = .accepted then
        ⟨none, .inl (.batchCommit batch 0)⟩
      else
        ⟨none, .inl (.batchUnlock batch 0
          (if uniform then first else .rejected))⟩
  | .batchCommit batch index =>
      if index < servoCount then
        ⟨some (.committed index (batch.axes index)),
          .inl (.batchCommit batch (index + 1))⟩
      else
        ⟨none, .inl (.batchUnlock batch 0 .accepted)⟩
  | .batchUnlock batch index acceptance =>
      if index < servoCount then
        ⟨some (.unlocked index),
          .inl (.batchUnlock batch (index + 1) acceptance)⟩
      else
        ⟨none, .inr acceptance⟩

/-- A thread calls while it is in no call, and steps while it is in one. -/
def stagingMachine :
    Machine (StagingState D) (StagingInput D) (StagingOutput D) where
  step := fun state input =>
    match input, state.calls input.thread with
    | .call thread request, none =>
        match request.enter state.servoCount with
        | .inl progress =>
            ({ state with
                calls := Function.update state.calls thread (some progress) },
              ⟨none, none⟩)
        | .inr acceptance => (state, ⟨none, some (request, acceptance)⟩)
    | .step thread nowNs, some progress =>
        let move := progress.move state.servoCount state.servos nowNs
        ({ state with
            servos := applyEffect state.servos move.effect
            calls := Function.update state.calls thread move.next.getLeft? },
          ⟨move.effect, move.next.getRight?.map (progress.request, ·)⟩)
    | _, _ => (state, ⟨none, none⟩)

def StagingState.create (configs : List St3215ServoConfig) :
    StagingState D where
  servoCount := configs.length
  servos := fun index => .create (configs.getD index ⟨"", 0, 0, 0, 0, 0, 0, 0⟩)
  calls := fun _ => none

/-! ## Gates -/

/-- The gates which a thread has taken and not given back. -/
def StageProgress.Holds (servoCount : ℕ) : StageProgress D → ℕ → Prop
  | .lock _ _, _ => False
  | .inspect index _, gate => gate = index
  | .commit index _, gate => gate = index
  | .unlock index _ _, gate => gate = index
  | .batchLock _ locked, gate => gate < locked
  | .batchRelease _ locked index, gate => index ≤ gate ∧ gate < locked
  | .batchInspect _ _ _ _, gate => gate < servoCount
  | .batchCommit _ _, gate => gate < servoCount
  | .batchUnlock _ index _, gate => index ≤ gate ∧ gate < servoCount

def HoldsGate (servoCount : ℕ) (call : Option (StageProgress D))
    (gate : ℕ) : Prop :=
  ∃ progress, call = some progress ∧ progress.Holds servoCount gate

/-- A call is where its loop counters and its inspections say. -/
def StageProgress.Sound (servoCount : ℕ) (servos : ℕ → St3215Servo D) :
    StageProgress D → Prop
  | .lock _ _ => True
  | .inspect _ _ => True
  | .commit index command =>
      ∃ nowNs, (servos index).inspectCommand command nowNs = .accepted
  | .unlock _ _ _ => True
  | .batchLock _ locked => 0 < servoCount ∧ locked ≤ servoCount
  | .batchRelease _ locked index => index ≤ locked ∧ locked ≤ servoCount
  | .batchInspect batch index first uniform =>
      index ≤ servoCount ∧ (uniform = true → first ≠ .rejected ∧
        ∀ gate < index, (servos gate).inspectCommand (batch.axes gate)
          batch.nowNs = first)
  | .batchCommit batch index =>
      index ≤ servoCount ∧ ∀ gate < servoCount, index ≤ gate →
        (servos gate).inspectCommand (batch.axes gate) batch.nowNs = .accepted
  | .batchUnlock _ index _ => index ≤ servoCount

/-- How a step changes which gates its thread holds. -/
def EffectHolds (servos : ℕ → St3215Servo D) (before after : ℕ → Prop) :
    Option (StageEffect D) → Prop
  | none => ∀ gate, after gate ↔ before gate
  | some (.locked index) => (servos index).commandGate = false ∧
      ∀ gate, after gate ↔ before gate ∨ gate = index
  | some (.unlocked index) => before index ∧
      ∀ gate, after gate ↔ before gate ∧ gate ≠ index
  | some (.committed index _) => before index ∧
      ∀ gate, after gate ↔ before gate

omit [FloatingPoint D] in
theorem tryLockCommand_snd (servo : St3215Servo D) :
    servo.tryLockCommand.2 = true ↔ servo.commandGate = false := by
  simp [St3215Servo.tryLockCommand]

omit [FloatingPoint D] in
@[simp] theorem holdsGate_some (servoCount : ℕ) (progress : StageProgress D)
    (gate : ℕ) :
    HoldsGate servoCount (some progress) gate ↔
      progress.Holds servoCount gate := by
  simp [HoldsGate]

omit [FloatingPoint D] in
@[simp] theorem holdsGate_none (servoCount gate : ℕ) :
    ¬ HoldsGate servoCount (none : Option (StageProgress D)) gate := by
  simp [HoldsGate]

theorem move_holds {servoCount : ℕ} {servos : ℕ → St3215Servo D}
    {progress : StageProgress D}
    (hsound : progress.Sound servoCount servos) (nowNs : ℤ) :
    EffectHolds servos (progress.Holds servoCount)
      (HoldsGate servoCount
        (progress.move servoCount servos nowNs).next.getLeft?)
      (progress.move servoCount servos nowNs).effect := by
  cases progress with
  | lock index command =>
      by_cases hfree : (servos index).tryLockCommand.2 = true
      · simp only [StageProgress.move, if_pos hfree]
        refine ⟨(tryLockCommand_snd _).mp hfree, fun gate => ?_⟩
        simp [StageProgress.Holds]
      · simp only [StageProgress.move, if_neg hfree]
        intro gate
        simp [StageProgress.Holds]
  | inspect index command =>
      simp only [StageProgress.move]
      split
      · intro gate
        simp [StageProgress.Holds]
      · intro gate
        simp [StageProgress.Holds]
  | commit index command =>
      refine ⟨rfl, fun gate => ?_⟩
      simp [StageProgress.move, StageProgress.Holds]
  | unlock index command acceptance =>
      refine ⟨rfl, fun gate => ?_⟩
      simp [StageProgress.move, StageProgress.Holds]
  | batchLock batch locked =>
      simp only [StageProgress.Sound] at hsound
      by_cases hmore : locked < servoCount
      · by_cases hfree : (servos locked).tryLockCommand.2 = true
        · simp only [StageProgress.move, if_pos hmore, if_pos hfree]
          refine ⟨(tryLockCommand_snd _).mp hfree, fun gate => ?_⟩
          simp only [Sum.getLeft?_inl, holdsGate_some, StageProgress.Holds]
          omega
        · simp only [StageProgress.move, if_pos hmore, if_neg hfree]
          intro gate
          simp [StageProgress.Holds]
      · simp only [StageProgress.move, if_neg hmore]
        intro gate
        simp only [Sum.getLeft?_inl, holdsGate_some, StageProgress.Holds]
        omega
  | batchRelease batch locked index =>
      by_cases hmore : index < locked
      · simp only [StageProgress.move, if_pos hmore]
        refine ⟨⟨le_rfl, hmore⟩, fun gate => ?_⟩
        simp only [Sum.getLeft?_inl, holdsGate_some, StageProgress.Holds]
        omega
      · simp only [StageProgress.move, if_neg hmore]
        intro gate
        simp only [Sum.getLeft?_inr, holdsGate_none, StageProgress.Holds,
          false_iff]
        omega
  | batchInspect batch index first uniform =>
      simp only [StageProgress.move]
      split
      · intro gate
        simp [StageProgress.Holds]
      · split
        · intro gate
          simp [StageProgress.Holds]
        · intro gate
          simp [StageProgress.Holds]
  | batchCommit batch index =>
      by_cases hmore : index < servoCount
      · simp only [StageProgress.move, if_pos hmore]
        refine ⟨hmore, fun gate => ?_⟩
        simp [StageProgress.Holds]
      · simp only [StageProgress.move, if_neg hmore]
        intro gate
        simp [StageProgress.Holds]
  | batchUnlock batch index acceptance =>
      by_cases hmore : index < servoCount
      · simp only [StageProgress.move, if_pos hmore]
        refine ⟨⟨le_rfl, hmore⟩, fun gate => ?_⟩
        simp only [Sum.getLeft?_inl, holdsGate_some, StageProgress.Holds]
        omega
      · simp only [StageProgress.move, if_neg hmore]
        intro gate
        simp only [Sum.getLeft?_inr, holdsGate_none, StageProgress.Holds,
          false_iff]
        omega

/-- What an inspection finds does not depend on the gates. -/
theorem inspectCommand_applyEffect
    {servos : ℕ → St3215Servo D} {effect : Option (StageEffect D)} {gate : ℕ}
    (huntouched : ∀ command, effect ≠ some (.committed gate command))
    (command : St3215ServoCommand D) (nowNs : ℤ) :
    (applyEffect servos effect gate).inspectCommand command nowNs =
      (servos gate).inspectCommand command nowNs := by
  cases effect with
  | none => rfl
  | some effect =>
      cases effect with
      | locked index =>
          by_cases hgate : gate = index
          · subst hgate
            simp only [applyEffect, Function.update_self]
            rfl
          · simp only [applyEffect, Function.update_of_ne hgate]
      | unlocked index =>
          by_cases hgate : gate = index
          · subst hgate
            simp only [applyEffect, Function.update_self]
            rfl
          · simp only [applyEffect, Function.update_of_ne hgate]
      | committed index committed =>
          have hgate : gate ≠ index := by
            intro hsame
            exact huntouched committed (by rw [hsame])
          simp only [applyEffect, Function.update_of_ne hgate]

/-- A call stays sound while nothing is committed behind the gates it holds. -/
theorem StageProgress.Sound.applyEffect {servoCount : ℕ}
    {servos : ℕ → St3215Servo D} {progress : StageProgress D}
    (hsound : progress.Sound servoCount servos)
    {effect : Option (StageEffect D)}
    (huntouched : ∀ gate, progress.Holds servoCount gate →
      ∀ command, effect ≠ some (.committed gate command)) :
    progress.Sound servoCount (applyEffect servos effect) := by
  cases progress with
  | lock index command => trivial
  | inspect index command => trivial
  | commit index command =>
      obtain ⟨nowNs, haccepted⟩ := hsound
      refine ⟨nowNs, ?_⟩
      rw [inspectCommand_applyEffect (huntouched index rfl)]
      exact haccepted
  | unlock index command acceptance => trivial
  | batchLock batch locked => exact hsound
  | batchRelease batch locked index => exact hsound
  | batchInspect batch index first uniform =>
      refine ⟨hsound.1, fun huniform => ⟨(hsound.2 huniform).1, ?_⟩⟩
      intro gate hgate
      rw [inspectCommand_applyEffect
        (huntouched gate (lt_of_lt_of_le hgate hsound.1))]
      exact (hsound.2 huniform).2 gate hgate
  | batchCommit batch index =>
      refine ⟨hsound.1, fun gate hgate hindex => ?_⟩
      rw [inspectCommand_applyEffect (huntouched gate hgate)]
      exact hsound.2 gate hgate hindex
  | batchUnlock batch index acceptance => exact hsound

theorem move_sound {servoCount : ℕ} {servos : ℕ → St3215Servo D}
    {progress next : StageProgress D}
    (hsound : progress.Sound servoCount servos) {nowNs : ℤ}
    (hnext : (progress.move servoCount servos nowNs).next = .inl next) :
    next.Sound servoCount
      (applyEffect servos (progress.move servoCount servos nowNs).effect) := by
  cases progress with
  | lock index command =>
      by_cases hfree : (servos index).tryLockCommand.2 = true
      · simp only [StageProgress.move, if_pos hfree] at hnext
        cases hnext
        trivial
      · simp only [StageProgress.move, if_neg hfree] at hnext
        cases hnext
  | inspect index command =>
      by_cases haccepted :
          (servos index).inspectCommand command nowNs = .accepted
      · simp only [StageProgress.move, if_pos haccepted] at hnext ⊢
        cases hnext
        exact ⟨nowNs, haccepted⟩
      · simp only [StageProgress.move, if_neg haccepted] at hnext
        cases hnext
        trivial
  | commit index command =>
      simp only [StageProgress.move] at hnext
      cases hnext
      trivial
  | unlock index command acceptance =>
      simp only [StageProgress.move] at hnext
      cases hnext
  | batchLock batch locked =>
      by_cases hmore : locked < servoCount
      · by_cases hfree : (servos locked).tryLockCommand.2 = true
        · simp only [StageProgress.move, if_pos hmore, if_pos hfree] at hnext
          cases hnext
          exact ⟨hsound.1, hmore⟩
        · simp only [StageProgress.move, if_pos hmore, if_neg hfree] at hnext
          cases hnext
          exact ⟨Nat.zero_le locked, hsound.2⟩
      · simp only [StageProgress.move, if_neg hmore] at hnext ⊢
        cases hnext
        refine ⟨hsound.1, fun huniform => ⟨by simpa using huniform, ?_⟩⟩
        intro gate hgate
        rw [Nat.lt_one_iff.mp hgate]
        rfl
  | batchRelease batch locked index =>
      by_cases hmore : index < locked
      · simp only [StageProgress.move, if_pos hmore] at hnext
        cases hnext
        exact ⟨hmore, hsound.2⟩
      · simp only [StageProgress.move, if_neg hmore] at hnext
        cases hnext
  | batchInspect batch index first uniform =>
      by_cases hmore : index < servoCount
      · simp only [StageProgress.move, if_pos hmore] at hnext ⊢
        cases hnext
        refine ⟨hmore, fun huniform => ?_⟩
        simp only [Bool.and_eq_true, decide_eq_true_eq] at huniform
        obtain ⟨hrejected, hsame⟩ := hsound.2 huniform.1
        refine ⟨hrejected, fun gate hgate => ?_⟩
        rcases Nat.lt_succ_iff_lt_or_eq.mp hgate with hlt | rfl
        · exact hsame gate hlt
        · exact huniform.2
      · simp only [StageProgress.move, if_neg hmore] at hnext ⊢
        split at hnext
        · rename_i hall
          rw [if_pos hall]
          cases hnext
          simp only [Bool.and_eq_true, decide_eq_true_eq] at hall
          refine ⟨Nat.zero_le _, fun gate hgate _ => ?_⟩
          rw [← hall.2]
          exact (hsound.2 hall.1).2 gate (by have := hsound.1; omega)
        · cases hnext
          exact Nat.zero_le _
  | batchCommit batch index =>
      by_cases hmore : index < servoCount
      · simp only [StageProgress.move, if_pos hmore] at hnext ⊢
        cases hnext
        refine ⟨hmore, fun gate hgate hindex => ?_⟩
        have hother : ∀ command, some (StageEffect.committed index
            (batch.axes index)) ≠ some (.committed gate command) := by
          intro command hsame
          cases hsame
          omega
        rw [inspectCommand_applyEffect hother]
        exact hsound.2 gate hgate (by omega)
      · simp only [StageProgress.move, if_neg hmore] at hnext
        cases hnext
        exact Nat.zero_le _
  | batchUnlock batch index acceptance =>
      by_cases hmore : index < servoCount
      · simp only [StageProgress.move, if_pos hmore] at hnext
        cases hnext
        exact hmore
      · simp only [StageProgress.move, if_neg hmore] at hnext
        cases hnext

structure StagingOk (state : StagingState D) : Prop where
  taken : ∀ gate, (state.servos gate).commandGate = true ↔
    ∃ thread, HoldsGate state.servoCount (state.calls thread) gate
  unique : ∀ first second gate,
    HoldsGate state.servoCount (state.calls first) gate →
    HoldsGate state.servoCount (state.calls second) gate → first = second
  sound : ∀ thread progress, state.calls thread = some progress →
    progress.Sound state.servoCount state.servos

theorem stagingOk_create (configs : List St3215ServoConfig) :
    StagingOk (StagingState.create configs : StagingState D) := by
  constructor <;> simp [StagingState.create, St3215Servo.create]

omit [FloatingPoint D] in
theorem commandGate_applyEffect (servos : ℕ → St3215Servo D)
    (effect : Option (StageEffect D)) (gate : ℕ) :
    (applyEffect servos effect gate).commandGate =
      match effect with
      | some (.locked index) =>
          if gate = index then true else (servos gate).commandGate
      | some (.unlocked index) =>
          if gate = index then false else (servos gate).commandGate
      | _ => (servos gate).commandGate := by
  cases effect with
  | none => rfl
  | some effect =>
      cases effect with
      | locked index =>
          by_cases hgate : gate = index
          · subst hgate
            simp [applyEffect, St3215Servo.tryLockCommand]
          · simp [applyEffect, hgate]
      | unlocked index =>
          by_cases hgate : gate = index
          · subst hgate
            simp [applyEffect, St3215Servo.unlockCommand]
          · simp [applyEffect, hgate]
      | committed index command =>
          by_cases hgate : gate = index
          · subst hgate
            simp [applyEffect, St3215Servo.commitCommand]
          · simp [applyEffect, hgate]

omit [FloatingPoint D] in
theorem StageBatch.pos_of_admissible (batch : StageBatch D) {servoCount : ℕ}
    (hadmissible : batch.admissible servoCount = true) : 0 < servoCount := by
  simp only [StageBatch.admissible, Bool.and_eq_true, Bool.not_eq_true',
    Bool.or_eq_false_iff, decide_eq_false_iff_not] at hadmissible
  exact Nat.pos_of_ne_zero hadmissible.1.1.1.2

section Step

variable {state : StagingState D} {thread : ℕ} {progress : StageProgress D}

/-- The state after a thread in a call makes a step. -/
def StagingState.afterMove (state : StagingState D) (thread : ℕ)
    (progress : StageProgress D) (nowNs : ℤ) : StagingState D :=
  let move := progress.move state.servoCount state.servos nowNs
  { state with
    servos := applyEffect state.servos move.effect
    calls := Function.update state.calls thread move.next.getLeft? }

theorem StagingOk.effectHolds (hok : StagingOk state)
    (hcall : state.calls thread = some progress) (nowNs : ℤ) :
    EffectHolds state.servos (HoldsGate state.servoCount (state.calls thread))
      (HoldsGate state.servoCount
        ((state.afterMove thread progress nowNs).calls thread))
      (progress.move state.servoCount state.servos nowNs).effect := by
  have hmove := move_holds (hok.sound thread progress hcall) nowNs
  have hbefore : HoldsGate state.servoCount (state.calls thread) =
      progress.Holds state.servoCount := by
    funext gate
    rw [hcall]
    exact propext (holdsGate_some _ _ _)
  rw [hbefore]
  simp only [StagingState.afterMove, Function.update_self]
  exact hmove

theorem afterMove_calls_of_ne {other : ℕ} (hother : other ≠ thread)
    (nowNs : ℤ) :
    (state.afterMove thread progress nowNs).calls other =
      state.calls other := by
  simp only [StagingState.afterMove, Function.update_of_ne hother]

/-- Only the thread which steps changes what it holds; it never takes a gate
which is taken. -/
theorem StagingOk.holds_afterMove (hok : StagingOk state)
    (hcall : state.calls thread = some progress) (nowNs : ℤ) (gate : ℕ) :
    HoldsGate state.servoCount
        ((state.afterMove thread progress nowNs).calls thread) gate →
      HoldsGate state.servoCount (state.calls thread) gate ∨
        (state.servos gate).commandGate = false := by
  have hmove := hok.effectHolds hcall nowNs
  intro hholds
  cases heffect :
      (progress.move state.servoCount state.servos nowNs).effect with
  | none =>
      rw [heffect] at hmove
      exact Or.inl ((hmove gate).mp hholds)
  | some effect =>
      rw [heffect] at hmove
      cases effect with
      | locked index =>
          rcases (hmove.2 gate).mp hholds with hheld | rfl
          · exact Or.inl hheld
          · exact Or.inr hmove.1
      | unlocked index => exact Or.inl ((hmove.2 gate).mp hholds).1
      | committed index command => exact Or.inl ((hmove.2 gate).mp hholds)

theorem StagingOk.afterMove_unique (hok : StagingOk state)
    (hcall : state.calls thread = some progress) (nowNs : ℤ)
    {first second gate : ℕ}
    (hfirst : HoldsGate state.servoCount
      ((state.afterMove thread progress nowNs).calls first) gate)
    (hsecond : HoldsGate state.servoCount
      ((state.afterMove thread progress nowNs).calls second) gate) :
    first = second := by
  have hmine : ∀ other, other ≠ thread →
      HoldsGate state.servoCount (state.calls other) gate →
      ¬ HoldsGate state.servoCount
        ((state.afterMove thread progress nowNs).calls thread) gate := by
    intro other hother hheld hholds
    rcases hok.holds_afterMove hcall nowNs gate hholds with hbefore | hfree
    · exact hother (hok.unique other thread gate hheld hbefore)
    · have htaken := (hok.taken gate).mpr ⟨other, hheld⟩
      rw [hfree] at htaken
      cases htaken
  by_cases hone : first = thread
  · by_cases htwo : second = thread
    · rw [hone, htwo]
    · rw [afterMove_calls_of_ne htwo] at hsecond
      rw [hone] at hfirst
      exact absurd hfirst (hmine second htwo hsecond)
  · rw [afterMove_calls_of_ne hone] at hfirst
    by_cases htwo : second = thread
    · rw [htwo] at hsecond
      exact absurd hsecond (hmine first hone hfirst)
    · rw [afterMove_calls_of_ne htwo] at hsecond
      exact hok.unique first second gate hfirst hsecond

/-- What a step does to the gate of a thread which does not step. -/
theorem StagingOk.afterMove_taken (hok : StagingOk state)
    (hcall : state.calls thread = some progress) (nowNs : ℤ) (gate : ℕ) :
    ((state.afterMove thread progress nowNs).servos gate).commandGate = true ↔
      ∃ other, HoldsGate state.servoCount
        ((state.afterMove thread progress nowNs).calls other) gate := by
  have hmove := hok.effectHolds hcall nowNs
  have hothers : ∀ other, other ≠ thread →
      (HoldsGate state.servoCount
        ((state.afterMove thread progress nowNs).calls other) gate ↔
          HoldsGate state.servoCount (state.calls other) gate) := by
    intro other hother
    rw [afterMove_calls_of_ne hother]
  have hgate : ((state.afterMove thread progress nowNs).servos
      gate).commandGate = (applyEffect state.servos
        (progress.move state.servoCount state.servos nowNs).effect
          gate).commandGate := rfl
  rw [hgate, commandGate_applyEffect]
  -- Where the step keeps what its thread holds, all holders stay.
  have hkept : (HoldsGate state.servoCount
        ((state.afterMove thread progress nowNs).calls thread) gate ↔
          HoldsGate state.servoCount (state.calls thread) gate) →
      ((state.servos gate).commandGate = true ↔
        ∃ other, HoldsGate state.servoCount
          ((state.afterMove thread progress nowNs).calls other) gate) := by
    intro hsame
    rw [hok.taken gate]
    apply exists_congr
    intro other
    by_cases hother : other = thread
    · rw [hother]
      exact hsame.symm
    · exact (hothers other hother).symm
  cases heffect :
      (progress.move state.servoCount state.servos nowNs).effect with
  | none =>
      rw [heffect] at hmove
      exact hkept (hmove gate)
  | some effect =>
      rw [heffect] at hmove
      cases effect with
      | locked index =>
          by_cases hindex : gate = index
          · simp only [hindex, if_true, true_iff]
            exact ⟨thread, (hmove.2 index).mpr (Or.inr rfl)⟩
          · simp only [if_neg hindex]
            apply hkept
            rw [hmove.2 gate]
            simp [hindex]
      | unlocked index =>
          by_cases hindex : gate = index
          · subst hindex
            simp only [if_true, Bool.false_eq_true, false_iff, not_exists]
            intro other hholds
            by_cases hother : other = thread
            · rw [hother] at hholds
              exact ((hmove.2 gate).mp hholds).2 rfl
            · have hheld := (hothers other hother).mp hholds
              exact hother (hok.unique other thread gate hheld hmove.1)
          · simp only [if_neg hindex]
            apply hkept
            rw [hmove.2 gate]
            simp [hindex]
      | committed index command =>
          exact hkept (hmove.2 gate)

theorem StagingOk.afterMove (hok : StagingOk state)
    (hcall : state.calls thread = some progress) (nowNs : ℤ) :
    StagingOk (state.afterMove thread progress nowNs) where
  taken := hok.afterMove_taken hcall nowNs
  unique := fun _ _ _ => hok.afterMove_unique hcall nowNs
  sound := by
    intro other current hcurrent
    by_cases hother : other = thread
    · subst hother
      simp only [StagingState.afterMove, Function.update_self] at hcurrent
      exact move_sound (hok.sound other progress hcall)
        (Sum.getLeft?_eq_some_iff.mp hcurrent)
    · rw [afterMove_calls_of_ne hother] at hcurrent
      refine (hok.sound other current hcurrent).applyEffect ?_
      intro gate hholds command hcommitted
      have hmove := hok.effectHolds hcall nowNs
      rw [hcommitted] at hmove
      have hheld : HoldsGate state.servoCount (state.calls other) gate := by
        rw [hcurrent]
        exact (holdsGate_some _ _ _).mpr hholds
      exact hother (hok.unique other thread gate hheld hmove.1)

theorem StagingOk.enter (hok : StagingOk state) {request : StageRequest D}
    (hidle : state.calls thread = none)
    (henter : request.enter state.servoCount = .inl progress) :
    StagingOk { state with
      calls := Function.update state.calls thread (some progress) } := by
  have hnothing : ∀ gate, ¬ progress.Holds state.servoCount gate := by
    intro gate
    cases request with
    | single index command =>
        simp only [StageRequest.enter] at henter
        split at henter <;> cases henter
        simp [StageProgress.Holds]
    | all batch =>
        simp only [StageRequest.enter] at henter
        split at henter <;> cases henter
        simp [StageProgress.Holds]
  have hholds : ∀ other gate, HoldsGate state.servoCount
      (Function.update state.calls thread (some progress) other) gate ↔
        HoldsGate state.servoCount (state.calls other) gate := by
    intro other gate
    by_cases hother : other = thread
    · subst hother
      simp [hidle, hnothing gate]
    · rw [Function.update_of_ne hother]
  constructor
  · intro gate
    simp only [hholds]
    exact hok.taken gate
  · intro first second gate
    simp only [hholds]
    exact hok.unique first second gate
  · intro other current hcurrent
    by_cases hother : other = thread
    · subst hother
      simp only [Function.update_self, Option.some.injEq] at hcurrent
      subst hcurrent
      cases request with
      | single index command =>
          simp only [StageRequest.enter] at henter
          split at henter <;> cases henter
          trivial
      | all batch =>
          simp only [StageRequest.enter] at henter
          split at henter
          · rename_i hadmissible
            cases henter
            exact ⟨batch.pos_of_admissible hadmissible, Nat.zero_le _⟩
          · cases henter
    · simp only [Function.update_of_ne hother] at hcurrent
      exact hok.sound other current hcurrent

end Step

/-- What a step of the registry can be. -/
theorem stagingMachine_cases (state : StagingState D) (input : StagingInput D) :
    (stagingMachine.step state input = (state, ⟨none, none⟩)) ∨
    (∃ thread request progress, input = .call thread request ∧
      state.calls thread = none ∧
      request.enter state.servoCount = .inl progress ∧
      stagingMachine.step state input =
        ({ state with
            calls := Function.update state.calls thread (some progress) },
          ⟨none, none⟩)) ∨
    (∃ thread request acceptance, input = .call thread request ∧
      state.calls thread = none ∧
      request.enter state.servoCount = .inr acceptance ∧
      stagingMachine.step state input =
        (state, ⟨none, some (request, acceptance)⟩)) ∨
    ∃ thread nowNs progress, input = .step thread nowNs ∧
      state.calls thread = some progress ∧
      stagingMachine.step state input =
        (state.afterMove thread progress nowNs,
          ⟨(progress.move state.servoCount state.servos nowNs).effect,
            (progress.move state.servoCount state.servos
              nowNs).next.getRight?.map (progress.request, ·)⟩) := by
  cases input with
  | call thread request =>
      cases hcall : state.calls thread with
      | none =>
          cases henter : request.enter state.servoCount with
          | inl progress =>
              refine Or.inr (Or.inl ⟨thread, request, progress, rfl, hcall,
                henter, ?_⟩)
              simp [stagingMachine, StagingInput.thread, hcall, henter]
          | inr acceptance =>
              refine Or.inr (Or.inr (Or.inl ⟨thread, request, acceptance, rfl,
                hcall, henter, ?_⟩))
              simp [stagingMachine, StagingInput.thread, hcall, henter]
      | some progress =>
          left
          simp [stagingMachine, StagingInput.thread, hcall]
  | step thread nowNs =>
      cases hcall : state.calls thread with
      | none =>
          left
          simp [stagingMachine, StagingInput.thread, hcall]
      | some progress =>
          refine Or.inr (Or.inr (Or.inr ⟨thread, nowNs, progress, rfl, hcall,
            ?_⟩))
          simp [stagingMachine, StagingInput.thread, hcall,
            StagingState.afterMove]

end PolicyRuntime
