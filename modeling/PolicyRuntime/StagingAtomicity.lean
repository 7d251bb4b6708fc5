import PolicyRuntime.RegistryStaging

/-!
# What a staging call does

The effects of a call on the servos are collected from its begin to its return.
They are all locks, all commits and all unlocks, or the locks of some gates and
their unlocks; so a call commits everywhere or nowhere and leaves no gate taken,
in every interleaving with other calls.
-/

namespace PolicyRuntime

open FloatingPoint

variable {D : Type}

abbrev StagingHistory (D : Type) :=
  List (Transition (StagingState D) (StagingInput D) (StagingOutput D))

/-- The effects of the call which a thread is in or has just finished. -/
def callLog (thread : ℕ) (history : StagingHistory D) :
    List (StageEffect D) :=
  history.foldl
    (fun log t =>
      if t.input.thread = thread then
        match t.input, t.before.calls thread with
        | .call _ _, none => []
        | _, _ => log ++ t.output.effect.toList
      else
        log) []

def lockAll (count : ℕ) : List (StageEffect D) :=
  (List.range count).map .locked

def unlockAll (count : ℕ) : List (StageEffect D) :=
  (List.range count).map .unlocked

def commitAll (batch : StageBatch D) (count : ℕ) : List (StageEffect D) :=
  (List.range count).map fun index => .committed index (batch.axes index)

/-- The effects which a call may have when it returns. -/
def CallEffects (servoCount : ℕ) :
    StageRequest D → St3215CommandAcceptance → List (StageEffect D) → Prop
  | .single index command, .accepted, log =>
      log = [.locked index, .committed index command, .unlocked index]
  | .single index _, _, log => log = [] ∨ log = [.locked index, .unlocked index]
  | .all batch, .accepted, log =>
      log = lockAll servoCount ++ commitAll batch servoCount ++
        unlockAll servoCount
  | .all _, _, log => ∃ count ≤ servoCount, log = lockAll count ++ unlockAll count

/-- The effects of a call so far. -/
def StageProgress.log (servoCount : ℕ) : StageProgress D → List (StageEffect D)
  | .lock _ _ => []
  | .inspect index _ => [.locked index]
  | .commit index _ => [.locked index]
  | .unlock index command .accepted =>
      [.locked index, .committed index command]
  | .unlock index _ _ => [.locked index]
  | .batchLock _ locked => lockAll locked
  | .batchRelease _ locked index => lockAll locked ++ unlockAll index
  | .batchInspect _ _ _ _ => lockAll servoCount
  | .batchCommit batch index => lockAll servoCount ++ commitAll batch index
  | .batchUnlock batch index .accepted =>
      lockAll servoCount ++ commitAll batch servoCount ++ unlockAll index
  | .batchUnlock _ index _ => lockAll servoCount ++ unlockAll index

theorem lockAll_succ (count : ℕ) :
    lockAll (count + 1) = lockAll count ++ [StageEffect.locked (D := D) count] := by
  simp [lockAll, List.range_succ]

theorem unlockAll_succ (count : ℕ) :
    unlockAll (count + 1) =
      unlockAll count ++ [StageEffect.unlocked (D := D) count] := by
  simp [unlockAll, List.range_succ]

theorem commitAll_succ (batch : StageBatch D) (count : ℕ) :
    commitAll batch (count + 1) =
      commitAll batch count ++ [.committed count (batch.axes count)] := by
  simp [commitAll, List.range_succ]

@[simp] theorem unlockAll_zero : unlockAll 0 = ([] : List (StageEffect D)) := rfl

@[simp] theorem commitAll_zero (batch : StageBatch D) :
    commitAll batch 0 = [] := rfl

variable [FloatingPoint D]

/-- A step which does not return extends the effects of its call. -/
theorem move_log {servoCount : ℕ} {servos : ℕ → St3215Servo D}
    {progress next : StageProgress D}
    (hsound : progress.Sound servoCount servos) {nowNs : ℤ}
    (hnext : (progress.move servoCount servos nowNs).next = .inl next) :
    next.log servoCount = progress.log servoCount ++
        (progress.move servoCount servos nowNs).effect.toList ∧
      next.request = progress.request := by
  cases progress with
  | lock index command =>
      by_cases hfree : (servos index).tryLockCommand.2 = true
      · simp only [StageProgress.move, if_pos hfree] at hnext ⊢
        cases hnext
        exact ⟨rfl, rfl⟩
      · simp only [StageProgress.move, if_neg hfree] at hnext
        cases hnext
  | inspect index command =>
      simp only [StageProgress.move] at hnext ⊢
      split at hnext
      · rename_i haccepted
        rw [if_pos haccepted]
        cases hnext
        exact ⟨rfl, rfl⟩
      · rename_i hrefused
        rw [if_neg hrefused]
        cases hnext
        cases hacceptance : (servos index).inspectCommand command nowNs with
        | accepted => exact absurd hacceptance hrefused
        | duplicate => exact ⟨rfl, rfl⟩
        | rejected => exact ⟨rfl, rfl⟩
  | commit index command =>
      simp only [StageProgress.move] at hnext ⊢
      cases hnext
      exact ⟨rfl, rfl⟩
  | unlock index command acceptance =>
      simp only [StageProgress.move] at hnext
      cases hnext
  | batchLock batch locked =>
      by_cases hmore : locked < servoCount
      · by_cases hfree : (servos locked).tryLockCommand.2 = true
        · simp only [StageProgress.move, if_pos hmore, if_pos hfree]
            at hnext ⊢
          cases hnext
          exact ⟨lockAll_succ locked, rfl⟩
        · simp only [StageProgress.move, if_pos hmore, if_neg hfree]
            at hnext ⊢
          cases hnext
          exact ⟨rfl, rfl⟩
      · simp only [StageProgress.move, if_neg hmore] at hnext ⊢
        cases hnext
        have hall : locked = servoCount := le_antisymm hsound.2 (not_lt.mp hmore)
        refine ⟨?_, rfl⟩
        simp [StageProgress.log, hall]
  | batchRelease batch locked index =>
      by_cases hmore : index < locked
      · simp only [StageProgress.move, if_pos hmore] at hnext ⊢
        cases hnext
        refine ⟨?_, rfl⟩
        simp [StageProgress.log, unlockAll_succ]
      · simp only [StageProgress.move, if_neg hmore] at hnext
        cases hnext
  | batchInspect batch index first uniform =>
      by_cases hmore : index < servoCount
      · simp only [StageProgress.move, if_pos hmore] at hnext ⊢
        cases hnext
        refine ⟨?_, rfl⟩
        simp [StageProgress.log]
      · simp only [StageProgress.move, if_neg hmore] at hnext ⊢
        split at hnext
        · rename_i hall
          rw [if_pos hall]
          cases hnext
          refine ⟨?_, rfl⟩
          simp [StageProgress.log]
        · rename_i hmixed
          rw [if_neg hmixed]
          cases hnext
          refine ⟨?_, rfl⟩
          cases uniform <;> cases first <;> simp_all [StageProgress.log]
  | batchCommit batch index =>
      by_cases hmore : index < servoCount
      · simp only [StageProgress.move, if_pos hmore] at hnext ⊢
        cases hnext
        refine ⟨?_, rfl⟩
        simp [StageProgress.log, commitAll_succ]
      · simp only [StageProgress.move, if_neg hmore] at hnext ⊢
        cases hnext
        have hall : index = servoCount := le_antisymm hsound.1 (not_lt.mp hmore)
        refine ⟨?_, rfl⟩
        simp [StageProgress.log, hall]
  | batchUnlock batch index acceptance =>
      by_cases hmore : index < servoCount
      · simp only [StageProgress.move, if_pos hmore] at hnext ⊢
        cases hnext
        refine ⟨?_, rfl⟩
        cases acceptance <;> simp [StageProgress.log, unlockAll_succ]
      · simp only [StageProgress.move, if_neg hmore] at hnext
        cases hnext

/-- When a call returns, its effects are those of its result. -/
theorem move_returned {servoCount : ℕ} {servos : ℕ → St3215Servo D}
    {progress : StageProgress D}
    (hsound : progress.Sound servoCount servos) {nowNs : ℤ}
    {acceptance : St3215CommandAcceptance}
    (hreturned :
      (progress.move servoCount servos nowNs).next = .inr acceptance) :
    CallEffects servoCount progress.request acceptance
      (progress.log servoCount ++
        (progress.move servoCount servos nowNs).effect.toList) := by
  cases progress with
  | lock index command =>
      by_cases hfree : (servos index).tryLockCommand.2 = true
      · simp only [StageProgress.move, if_pos hfree] at hreturned
        cases hreturned
      · simp only [StageProgress.move, if_neg hfree] at hreturned ⊢
        cases hreturned
        exact Or.inl rfl
  | inspect index command =>
      simp only [StageProgress.move] at hreturned
      split at hreturned <;> cases hreturned
  | commit index command =>
      simp only [StageProgress.move] at hreturned
      cases hreturned
  | unlock index command result =>
      simp only [StageProgress.move] at hreturned ⊢
      cases hreturned
      cases acceptance with
      | accepted => rfl
      | duplicate => exact Or.inr rfl
      | rejected => exact Or.inr rfl
  | batchLock batch locked =>
      simp only [StageProgress.move] at hreturned
      split at hreturned
      · split at hreturned <;> cases hreturned
      · cases hreturned
  | batchRelease batch locked index =>
      by_cases hmore : index < locked
      · simp only [StageProgress.move, if_pos hmore] at hreturned
        cases hreturned
      · simp only [StageProgress.move, if_neg hmore] at hreturned ⊢
        cases hreturned
        have hall : index = locked := le_antisymm hsound.1 (not_lt.mp hmore)
        refine ⟨locked, hsound.2, ?_⟩
        simp [StageProgress.log, hall]
  | batchInspect batch index first uniform =>
      simp only [StageProgress.move] at hreturned
      split at hreturned
      · cases hreturned
      · split at hreturned <;> cases hreturned
  | batchCommit batch index =>
      simp only [StageProgress.move] at hreturned
      split at hreturned <;> cases hreturned
  | batchUnlock batch index result =>
      by_cases hmore : index < servoCount
      · simp only [StageProgress.move, if_pos hmore] at hreturned
        cases hreturned
      · simp only [StageProgress.move, if_neg hmore] at hreturned ⊢
        cases hreturned
        have hall : index = servoCount := le_antisymm hsound (not_lt.mp hmore)
        cases acceptance with
        | accepted =>
            show _ = _
            simp [StageProgress.log, hall]
        | duplicate =>
            refine ⟨servoCount, le_rfl, ?_⟩
            simp [StageProgress.log, hall]
        | rejected =>
            refine ⟨servoCount, le_rfl, ?_⟩
            simp [StageProgress.log, hall]

/-- A commit puts an accepted command in force. -/
theorem move_committed {servoCount : ℕ} {servos : ℕ → St3215Servo D}
    {progress : StageProgress D}
    (hsound : progress.Sound servoCount servos) {nowNs : ℤ} {index : ℕ}
    {command : St3215ServoCommand D}
    (heffect : (progress.move servoCount servos nowNs).effect =
      some (.committed index command)) :
    ∃ atNs, (servos index).inspectCommand command atNs = .accepted := by
  cases progress with
  | lock index command =>
      simp only [StageProgress.move] at heffect
      split at heffect <;> cases heffect
  | inspect index command =>
      simp only [StageProgress.move] at heffect
      split at heffect <;> cases heffect
  | commit index command =>
      simp only [StageProgress.move] at heffect
      cases heffect
      exact hsound
  | unlock index command acceptance =>
      simp only [StageProgress.move] at heffect
      cases heffect
  | batchLock batch locked =>
      simp only [StageProgress.move] at heffect
      split at heffect
      · split at heffect <;> cases heffect
      · cases heffect
  | batchRelease batch locked index =>
      simp only [StageProgress.move] at heffect
      split at heffect <;> cases heffect
  | batchInspect batch index first uniform =>
      simp only [StageProgress.move] at heffect
      split at heffect
      · cases heffect
      · split at heffect <;> cases heffect
  | batchCommit batch index =>
      by_cases hmore : index < servoCount
      · simp only [StageProgress.move, if_pos hmore] at heffect
        cases heffect
        exact ⟨batch.nowNs, hsound.2 index hmore le_rfl⟩
      · simp only [StageProgress.move, if_neg hmore] at heffect
        cases heffect
  | batchUnlock batch index acceptance =>
      simp only [StageProgress.move] at heffect
      split at heffect <;> cases heffect

/-- An upper bound of the steps a call still makes. -/
def StageProgress.remaining (servoCount : ℕ) : StageProgress D → ℕ
  | .lock _ _ => 4
  | .inspect _ _ => 3
  | .commit _ _ => 2
  | .unlock _ _ _ => 1
  | .batchLock _ locked => 4 * servoCount + 4 - locked
  | .batchRelease _ locked index => locked - index + 1
  | .batchInspect _ index _ _ => 3 * servoCount + 3 - index
  | .batchCommit _ index => 2 * servoCount + 2 - index
  | .batchUnlock _ index _ => servoCount + 1 - index

/-- Every step brings a call closer to its return. -/
theorem move_remaining {servoCount : ℕ} {servos : ℕ → St3215Servo D}
    {progress next : StageProgress D}
    (hsound : progress.Sound servoCount servos) {nowNs : ℤ}
    (hnext : (progress.move servoCount servos nowNs).next = .inl next) :
    next.remaining servoCount < progress.remaining servoCount := by
  cases progress with
  | lock index command =>
      simp only [StageProgress.move] at hnext
      split at hnext <;> cases hnext
      simp [StageProgress.remaining]
  | inspect index command =>
      simp only [StageProgress.move] at hnext
      split at hnext <;> cases hnext <;> simp [StageProgress.remaining]
  | commit index command =>
      simp only [StageProgress.move] at hnext
      cases hnext
      simp [StageProgress.remaining]
  | unlock index command acceptance =>
      simp only [StageProgress.move] at hnext
      cases hnext
  | batchLock batch locked =>
      obtain ⟨hpos, hle⟩ := hsound
      simp only [StageProgress.move] at hnext
      split at hnext
      · split at hnext <;> cases hnext <;>
          simp only [StageProgress.remaining] <;> omega
      · cases hnext
        simp only [StageProgress.remaining]
        omega
  | batchRelease batch locked index =>
      simp only [StageProgress.move] at hnext
      split at hnext <;> cases hnext
      simp only [StageProgress.remaining]
      omega
  | batchInspect batch index first uniform =>
      have hle := hsound.1
      simp only [StageProgress.move] at hnext
      split at hnext
      · cases hnext
        simp only [StageProgress.remaining]
        omega
      · split at hnext <;> cases hnext <;>
          simp only [StageProgress.remaining] <;> omega
  | batchCommit batch index =>
      have hle := hsound.1
      simp only [StageProgress.move] at hnext
      split at hnext <;> cases hnext <;>
        simp only [StageProgress.remaining] <;> omega
  | batchUnlock batch index acceptance =>
      simp only [StageProgress.move] at hnext
      split at hnext <;> cases hnext
      simp only [StageProgress.remaining]
      omega

/-! ## Histories -/

section Log

omit [FloatingPoint D]

variable {thread : ℕ} {history : StagingHistory D}
  {t : Transition (StagingState D) (StagingInput D) (StagingOutput D)}

theorem callLog_of_ne (hthread : t.input.thread ≠ thread) :
    callLog thread (history ++ [t]) = callLog thread history := by
  unfold callLog
  rw [List.foldl_append, List.foldl_cons, List.foldl_nil, if_neg hthread]

theorem callLog_call {request : StageRequest D}
    (hinput : t.input = .call thread request)
    (hidle : t.before.calls thread = none) :
    callLog thread (history ++ [t]) = [] := by
  unfold callLog
  rw [List.foldl_append, List.foldl_cons, List.foldl_nil,
    if_pos (by rw [hinput]; rfl), hinput, hidle]

theorem callLog_busy {progress : StageProgress D}
    (hthread : t.input.thread = thread)
    (hbusy : t.before.calls thread = some progress) :
    callLog thread (history ++ [t]) =
      callLog thread history ++ t.output.effect.toList := by
  unfold callLog
  rw [List.foldl_append, List.foldl_cons, List.foldl_nil, if_pos hthread, hbusy]
  simp

end Log

/-- Sequence and timestamp of the commands committed to a servo. -/
def committedTo (index : ℕ) (history : StagingHistory D) : List (ℕ × ℤ) :=
  history.filterMap fun t =>
    match t.output.effect with
    | some (.committed servo command) =>
        if servo = index then some (command.sequence, command.timestampNs)
        else none
    | _ => none

def Newer (older newer : ℕ × ℤ) : Prop :=
  older.1 < newer.1 ∧ older.2 ≤ newer.2

/-- The commands committed to a servo increase up to the one in force. -/
structure CommitsOrdered (index : ℕ) (history : StagingHistory D)
    (servo : St3215Servo D) : Prop where
  ordered : (committedTo index history).Pairwise Newer
  inForce : ∀ entry ∈ committedTo index history, servo.hasCommand = true ∧
    entry.1 ≤ servo.lastCommandSequence ∧
    entry.2 ≤ servo.lastCommandTimestampNs

structure StagingRecord (history : StagingHistory D)
    (state : StagingState D) : Prop where
  ok : StagingOk state
  logged : ∀ thread progress, state.calls thread = some progress →
    callLog thread history = progress.log state.servoCount
  ordered : ∀ index, CommitsOrdered index history (state.servos index)

omit [FloatingPoint D] in
theorem committedTo_append (index : ℕ) (history : StagingHistory D)
    (t : Transition (StagingState D) (StagingInput D) (StagingOutput D)) :
    committedTo index (history ++ [t]) =
      committedTo index history ++ committedTo index [t] := by
  unfold committedTo
  rw [List.filterMap_append]

omit [FloatingPoint D] in
theorem CommitsOrdered.append_other {index : ℕ} {history : StagingHistory D}
    {servo after : St3215Servo D}
    (hordered : CommitsOrdered index history servo)
    {t : Transition (StagingState D) (StagingInput D) (StagingOutput D)}
    (hnone : committedTo index [t] = [])
    (hhas : after.hasCommand = servo.hasCommand)
    (hsequence : after.lastCommandSequence = servo.lastCommandSequence)
    (htimestamp :
      after.lastCommandTimestampNs = servo.lastCommandTimestampNs) :
    CommitsOrdered index (history ++ [t]) after := by
  have hsame : committedTo index (history ++ [t]) =
      committedTo index history := by
    rw [committedTo_append, hnone, List.append_nil]
  constructor
  · rw [hsame]
    exact hordered.ordered
  · rw [hsame, hhas, hsequence, htimestamp]
    exact hordered.inForce

theorem CommitsOrdered.append_committed {index : ℕ}
    {history : StagingHistory D} {servo : St3215Servo D}
    (hordered : CommitsOrdered index history servo)
    {t : Transition (StagingState D) (StagingInput D) (StagingOutput D)}
    {command : St3215ServoCommand D} {nowNs : ℤ}
    (heffect : t.output.effect = some (.committed index command))
    (haccepted : servo.inspectCommand command nowNs = .accepted) :
    CommitsOrdered index (history ++ [t]) (servo.commitCommand command) := by
  have hnew : committedTo index [t] =
      [(command.sequence, command.timestampNs)] := by
    simp [committedTo, heffect]
  have hbelow : ∀ entry ∈ committedTo index history,
      Newer entry (command.sequence, command.timestampNs) := by
    intro entry hentry
    obtain ⟨hhas, hsequence, htimestamp⟩ := hordered.inForce entry hentry
    obtain ⟨hnewer, hlater⟩ := St3215Servo.lt_of_accepted hhas haccepted
    exact ⟨lt_of_le_of_lt hsequence hnewer, le_trans htimestamp hlater⟩
  constructor
  · rw [committedTo_append, hnew, List.pairwise_append]
    refine ⟨hordered.ordered, List.pairwise_singleton _ _, ?_⟩
    intro entry hentry last hlast
    rw [List.mem_singleton.mp hlast]
    exact hbelow entry hentry
  · intro entry hentry
    rw [committedTo_append, hnew, List.mem_append, List.mem_singleton]
      at hentry
    refine ⟨rfl, ?_⟩
    rcases hentry with hold | rfl
    · exact ⟨(hbelow entry hold).1.le, (hbelow entry hold).2⟩
    · exact ⟨le_rfl, le_rfl⟩

theorem CommitsOrdered.move {state : StagingState D} {thread : ℕ}
    {progress : StageProgress D} {nowNs : ℤ} {index : ℕ}
    {history : StagingHistory D}
    (hsound : progress.Sound state.servoCount state.servos)
    (hordered : CommitsOrdered index history (state.servos index))
    {t : Transition (StagingState D) (StagingInput D) (StagingOutput D)}
    (houtput : t.output.effect =
      (progress.move state.servoCount state.servos nowNs).effect) :
    CommitsOrdered index (history ++ [t])
      ((state.afterMove thread progress nowNs).servos index) := by
  show CommitsOrdered index (history ++ [t])
    (applyEffect state.servos _ index)
  cases heffect :
      (progress.move state.servoCount state.servos nowNs).effect with
  | none =>
      refine hordered.append_other ?_ rfl rfl rfl
      simp [committedTo, houtput, heffect]
  | some effect =>
      rw [heffect] at houtput
      cases effect with
      | locked gate =>
          have hnone : committedTo index [t] = [] := by
            simp [committedTo, houtput]
          by_cases hgate : index = gate
          · subst hgate
            simp only [applyEffect, Function.update_self]
            exact hordered.append_other hnone rfl rfl rfl
          · simp only [applyEffect, Function.update_of_ne hgate]
            exact hordered.append_other hnone rfl rfl rfl
      | unlocked gate =>
          have hnone : committedTo index [t] = [] := by
            simp [committedTo, houtput]
          by_cases hgate : index = gate
          · subst hgate
            simp only [applyEffect, Function.update_self]
            exact hordered.append_other hnone rfl rfl rfl
          · simp only [applyEffect, Function.update_of_ne hgate]
            exact hordered.append_other hnone rfl rfl rfl
      | committed gate command =>
          by_cases hgate : index = gate
          · subst hgate
            obtain ⟨atNs, haccepted⟩ := move_committed hsound heffect
            simp only [applyEffect, Function.update_self]
            exact hordered.append_committed houtput haccepted
          · simp only [applyEffect, Function.update_of_ne hgate]
            refine hordered.append_other ?_ rfl rfl rfl
            simp [committedTo, houtput, Ne.symm hgate]

theorem StagingRecord.step {history : StagingHistory D}
    {state : StagingState D} (hrecord : StagingRecord history state)
    (input : StagingInput D) :
    StagingRecord (history ++ [stagingMachine.fire state input])
      (stagingMachine.step state input).1 := by
  rcases stagingMachine_cases state input with
    hidle | ⟨thread, request, progress, rfl, hcall, henter, hstep⟩ |
    ⟨thread, request, acceptance, rfl, hcall, henter, hstep⟩ |
    ⟨thread, nowNs, progress, rfl, hcall, hstep⟩
  · -- The input finds its thread in the wrong place.
    have hlog : ∀ thread progress, state.calls thread = some progress →
        callLog thread (history ++ [stagingMachine.fire state input]) =
          callLog thread history := by
      intro thread progress hprogress
      by_cases hthread : input.thread = thread
      · rw [callLog_busy hthread hprogress, Machine.fire_output, hidle]
        exact List.append_nil _
      · exact callLog_of_ne hthread
    rw [hidle]
    refine ⟨hrecord.ok, ?_, ?_⟩
    · intro thread progress hprogress
      rw [hlog thread progress hprogress]
      exact hrecord.logged thread progress hprogress
    · intro index
      refine (hrecord.ordered index).append_other ?_ rfl rfl rfl
      simp [committedTo, hidle]
  · rw [hstep]
    refine ⟨hrecord.ok.enter hcall henter, ?_, ?_⟩
    · intro other current hcurrent
      by_cases hother : thread = other
      · subst hother
        simp only [Function.update_self, Option.some.injEq] at hcurrent
        subst hcurrent
        refine Eq.trans (callLog_call rfl hcall) ?_
        cases request with
        | single index command =>
            simp only [StageRequest.enter] at henter
            split at henter <;> cases henter
            rfl
        | all batch =>
            simp only [StageRequest.enter] at henter
            split at henter <;> cases henter
            rfl
      · simp only [Function.update_of_ne (Ne.symm hother)] at hcurrent
        exact Eq.trans (callLog_of_ne hother)
          (hrecord.logged other current hcurrent)
    · intro index
      refine (hrecord.ordered index).append_other ?_ rfl rfl rfl
      simp [committedTo, hstep]
  · rw [hstep]
    refine ⟨hrecord.ok, ?_, ?_⟩
    · intro other current hcurrent
      have hother : thread ≠ other := by
        intro hsame
        rw [hsame] at hcall
        simp only [hcall] at hcurrent
        cases hcurrent
      exact Eq.trans (callLog_of_ne hother)
        (hrecord.logged other current hcurrent)
    · intro index
      refine (hrecord.ordered index).append_other ?_ rfl rfl rfl
      simp [committedTo, hstep]
  · have hsound := hrecord.ok.sound thread progress hcall
    have houtput : (stagingMachine.fire state
        (.step thread nowNs)).output.effect =
          (progress.move state.servoCount state.servos nowNs).effect := by
      rw [Machine.fire_output, hstep]
    rw [hstep]
    refine ⟨hrecord.ok.afterMove hcall nowNs, ?_, ?_⟩
    · intro other current hcurrent
      by_cases hother : thread = other
      · subst hother
        simp only [StagingState.afterMove, Function.update_self] at hcurrent
        obtain ⟨hlog, _⟩ := move_log hsound
          (Sum.getLeft?_eq_some_iff.mp hcurrent)
        refine Eq.trans (callLog_busy rfl hcall) ?_
        rw [houtput, hrecord.logged thread progress hcall]
        exact hlog.symm
      · simp only [afterMove_calls_of_ne (Ne.symm hother)] at hcurrent
        exact Eq.trans (callLog_of_ne hother)
          (hrecord.logged other current hcurrent)
    · intro index
      exact (hrecord.ordered index).move hsound houtput

theorem stagingRecord (configs : List St3215ServoConfig)
    (inputs : List (StagingInput D)) :
    StagingRecord (stagingMachine.trace (StagingState.create configs) inputs)
      (stagingMachine.final (StagingState.create configs) inputs) := by
  refine Machine.history_final StagingRecord ?_ ?_ inputs
  · refine ⟨stagingOk_create configs, ?_, ?_⟩
    · intro thread progress hprogress
      cases hprogress
    · intro index
      exact ⟨List.Pairwise.nil, by simp [committedTo]⟩
  · intro history state input hrecord
    exact hrecord.step input

theorem stagingMachine_servoCount (configs : List St3215ServoConfig)
    (inputs : List (StagingInput D)) :
    (stagingMachine.final (StagingState.create configs : StagingState D)
      inputs).servoCount = configs.length := by
  refine Machine.invariant_final
    (fun state : StagingState D => state.servoCount = configs.length)
    ?_ rfl inputs
  intro state input hcount
  rcases stagingMachine_cases state input with
    hidle | ⟨_, _, _, _, _, _, hstep⟩ | ⟨_, _, _, _, _, _, hstep⟩ |
    ⟨_, _, _, _, _, hstep⟩
  · rw [hidle]
    exact hcount
  · rw [hstep]
    exact hcount
  · rw [hstep]
    exact hcount
  · rw [hstep]
    exact hcount

/-- The effects of a call when it returns. -/
theorem StagingRecord.returned {history : StagingHistory D}
    {state : StagingState D} (hrecord : StagingRecord history state)
    {input : StagingInput D} {request : StageRequest D}
    {acceptance : St3215CommandAcceptance}
    (hreturned : (stagingMachine.fire state input).output.returned =
      some (request, acceptance)) :
    CallEffects state.servoCount request acceptance
      (callLog input.thread
        (history ++ [stagingMachine.fire state input])) := by
  rw [Machine.fire_output] at hreturned
  rcases stagingMachine_cases state input with
    hidle | ⟨thread, entered, progress, rfl, hcall, henter, hstep⟩ |
    ⟨thread, entered, result, rfl, hcall, henter, hstep⟩ |
    ⟨thread, nowNs, progress, rfl, hcall, hstep⟩
  · rw [hidle] at hreturned
    cases hreturned
  · rw [hstep] at hreturned
    cases hreturned
  · rw [hstep] at hreturned
    cases hreturned
    have hlog : callLog thread (history ++ [stagingMachine.fire state
        (.call thread request)]) = [] := callLog_call rfl hcall
    show CallEffects _ _ _ (callLog thread _)
    rw [hlog]
    cases request with
    | single index command =>
        simp only [StageRequest.enter] at henter
        split at henter <;> cases henter
        exact Or.inl rfl
    | all batch =>
        simp only [StageRequest.enter] at henter
        split at henter <;> cases henter
        exact ⟨0, Nat.zero_le _, rfl⟩
  · have heffect : (stagingMachine.fire state
        (.step thread nowNs)).output.effect =
          (progress.move state.servoCount state.servos nowNs).effect := by
      rw [Machine.fire_output, hstep]
    rw [hstep] at hreturned
    simp only [Option.map_eq_some_iff, Prod.mk.injEq] at hreturned
    obtain ⟨result, hresult, rfl, rfl⟩ := hreturned
    have hlog : callLog thread (history ++ [stagingMachine.fire state
        (.step thread nowNs)]) = callLog thread history ++
          (stagingMachine.fire state (.step thread
            nowNs)).output.effect.toList := callLog_busy rfl hcall
    show CallEffects _ _ _ (callLog thread _)
    rw [hlog, heffect, hrecord.logged thread progress hcall]
    exact move_returned (hrecord.ok.sound thread progress hcall)
      (Sum.getRight?_eq_some_iff.mp hresult)

/-- A step of a thread inside a call returns or brings the return closer, and
moves no other call. -/
theorem StagingOk.progress {state : StagingState D} (hok : StagingOk state)
    {thread : ℕ} {progress : StageProgress D}
    (hcall : state.calls thread = some progress) (nowNs : ℤ) :
    (∀ next,
        (stagingMachine.step state (.step thread nowNs)).1.calls thread =
          some next →
        next.remaining state.servoCount < progress.remaining state.servoCount) ∧
      ∀ other, other ≠ thread →
        (stagingMachine.step state (.step thread nowNs)).1.calls other =
          state.calls other := by
  have hstep : (stagingMachine.step state (.step thread nowNs)).1 =
      state.afterMove thread progress nowNs := by
    simp [stagingMachine, StagingInput.thread, hcall, StagingState.afterMove]
  rw [hstep]
  constructor
  · intro next hnext
    simp only [StagingState.afterMove, Function.update_self] at hnext
    exact move_remaining (hok.sound thread progress hcall)
      (Sum.getLeft?_eq_some_iff.mp hnext)
  · intro other hother
    exact afterMove_calls_of_ne hother nowNs

/-- The servos change by the effect of a step and in no other way. -/
theorem stagingMachine_servos (state : StagingState D)
    (input : StagingInput D) :
    (stagingMachine.step state input).1.servos =
      applyEffect state.servos (stagingMachine.step state input).2.effect := by
  rcases stagingMachine_cases state input with
    hidle | ⟨_, _, _, _, _, _, hstep⟩ | ⟨_, _, _, _, _, _, hstep⟩ |
    ⟨_, _, _, _, _, hstep⟩
  · rw [hidle]
    rfl
  · rw [hstep]
    rfl
  · rw [hstep]
    rfl
  · rw [hstep]
    rfl

/-- In every interleaving of staging calls: the servos change by recorded
effects only; a call which returns accepted has committed to every servo it
names, any other call has committed to none, and either has given back the
gates it took; a gate is taken only while a call holds it, and every step of a
call brings its return closer; and the commands committed to a servo increase
in sequence and do not decrease in time. -/
theorem registry_staging_atomic (configs : List St3215ServoConfig)
    (inputs : List (StagingInput D)) :
    (∀ t ∈ stagingMachine.trace (StagingState.create configs) inputs,
      t.after.servos = applyEffect t.before.servos t.output.effect) ∧
    (∀ earlier t later,
      stagingMachine.trace (StagingState.create configs) inputs =
        earlier ++ t :: later →
      ∀ request acceptance,
        t.output.returned = some (request, acceptance) →
        CallEffects configs.length request acceptance
          (callLog t.input.thread (earlier ++ [t]))) ∧
    (∀ gate, ((stagingMachine.final (StagingState.create configs :
        StagingState D) inputs).servos gate).commandGate = true ↔
      ∃ thread, HoldsGate configs.length ((stagingMachine.final
        (StagingState.create configs : StagingState D) inputs).calls thread)
          gate) ∧
    (∀ thread progress nowNs,
      (stagingMachine.final (StagingState.create configs) inputs).calls thread =
        some progress →
      (∀ next, (stagingMachine.step (stagingMachine.final
          (StagingState.create configs) inputs)
            (.step thread nowNs)).1.calls thread = some next →
        next.remaining configs.length < progress.remaining configs.length) ∧
      ∀ other, other ≠ thread →
        (stagingMachine.step (stagingMachine.final
          (StagingState.create configs) inputs)
            (.step thread nowNs)).1.calls other =
          (stagingMachine.final (StagingState.create configs) inputs).calls
            other) ∧
    ∀ index, (committedTo index (stagingMachine.trace
      (StagingState.create configs : StagingState D) inputs)).Pairwise
        Newer := by
  have hrecord := stagingRecord (D := D) configs inputs
  have hcount := stagingMachine_servoCount (D := D) configs inputs
  refine ⟨?_, ?_, ?_, ?_, ?_⟩
  · intro t ht
    obtain ⟨before, input, _, hfire⟩ := Machine.exists_fire_of_mem_trace ht
    subst hfire
    exact stagingMachine_servos _ input
  · intro earlier t later hsplit request acceptance hreturned
    obtain ⟨before, input, after, _, hearlier, hfire, _⟩ :=
      Machine.trace_split hsplit
    subst hearlier hfire
    have heffects := (stagingRecord configs before).returned hreturned
    rw [stagingMachine_servoCount] at heffects
    exact heffects
  · have htaken := hrecord.ok.taken
    rw [hcount] at htaken
    exact htaken
  · intro thread progress nowNs hcall
    have hprogress := hrecord.ok.progress hcall nowNs
    rw [hcount] at hprogress
    exact hprogress
  · intro index
    exact (hrecord.ordered index).ordered

end PolicyRuntime
