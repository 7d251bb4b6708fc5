import PolicyRuntime.St3215Bus

/-!
# The life of a servo command

A command is accepted by the servo, taken over by the bus at a refresh, expires
outside its time window and is sent as a goal once.  These steps, in any order,
are the runs of one servo on a bus.
-/

namespace PolicyRuntime

open FloatingPoint

variable {D : Type}

/-- What can happen to one servo.  `record` stands for the bookkeeping of
feedback, which no command depends on. -/
inductive RuntimeInput (D : Type)
  | stage (command : St3215ServoCommand D) (nowNs : ℤ)
  | refresh (readable : Bool) (nowNs : ℤ)
  | dispatch
  | record (feedbackSequence : ℕ) (lastResponseNs : ℤ)
      (feedback : St3215ServoFeedback D)

namespace ServoRuntime

/-! ## What holds of a servo on every run -/

structure Consistent (runtime : ServoRuntime D) : Prop where
  gate : runtime.servo.commandGate = false
  staged : ∀ staged, runtime.servo.commands = some staged →
    runtime.servo.hasCommand = true ∧
      staged.publication = runtime.servo.nextPublication ∧
      staged.command.sequence = runtime.servo.lastCommandSequence
  unstaged : runtime.servo.commands = none →
    runtime.servo.hasCommand = false ∧ runtime.servo.nextPublication = 0
  consumed_le : runtime.consumedPublication ≤ runtime.servo.nextPublication
  current : 0 < runtime.consumedPublication →
    runtime.consumedPublication = runtime.servo.nextPublication →
    runtime.command.sequence = runtime.servo.lastCommandSequence
  older : 0 < runtime.consumedPublication →
    runtime.consumedPublication < runtime.servo.nextPublication →
    runtime.command.sequence < runtime.servo.lastCommandSequence
  unused : runtime.consumedPublication = 0 →
    runtime.hasCommand = false ∧ runtime.goalDispatched = false
  goal : runtime.goalDispatched = true →
    runtime.goalSequence ≤ runtime.command.sequence

theorem Consistent.hasCommand_of_pos {runtime : ServoRuntime D}
    (hruntime : runtime.Consistent)
    (hpos : 0 < runtime.servo.nextPublication) :
    runtime.servo.hasCommand = true := by
  cases hcommands : runtime.servo.commands with
  | none =>
      have hzero := (hruntime.unstaged hcommands).2
      omega
  | some staged => exact (hruntime.staged staged hcommands).1

/-- A refresh takes the command which is staged, unless it was taken before. -/
theorem takeStaged_cases (runtime : ServoRuntime D) (readable : Bool) :
    runtime.takeStaged readable = runtime ∨
      ∃ staged, runtime.servo.commands = some staged ∧
        staged.publication ≠ runtime.consumedPublication ∧
        runtime.takeStaged readable =
          { runtime with
            consumedPublication := staged.publication
            command := staged.command
            hasCommand := true
            commandTimedOut := false } := by
  cases hread : runtime.servo.readStaged readable
      runtime.consumedPublication with
  | none =>
      left
      unfold takeStaged
      rw [hread]
  | some staged =>
      right
      refine ⟨staged, ?_⟩
      unfold takeStaged
      rw [hread]
      unfold St3215Servo.readStaged at hread
      cases hcommands : runtime.servo.commands with
      | none => simp [hcommands] at hread
      | some current =>
          simp only [hcommands] at hread
          split at hread
          · cases hread
          · rename_i hnew
            cases hread
            simp only [Bool.or_eq_true, decide_eq_true_eq, not_or] at hnew
            exact ⟨rfl, hnew.2, rfl⟩

theorem Consistent.takeStaged {runtime : ServoRuntime D}
    (hruntime : runtime.Consistent) (readable : Bool) :
    (runtime.takeStaged readable).Consistent := by
  rcases runtime.takeStaged_cases readable with hsame | hcases
  · rw [hsame]
    exact hruntime
  · obtain ⟨staged, hcommands, hnew, htaken⟩ := hcases
    obtain ⟨_, hpublication, hsequence⟩ := hruntime.staged staged hcommands
    have hle := hruntime.consumed_le
    rw [htaken]
    constructor
    · exact hruntime.gate
    · exact hruntime.staged
    · exact hruntime.unstaged
    · exact hpublication.le
    · intro _ _
      exact hsequence
    · intro _ hlt
      simp only at hlt
      omega
    · intro hzero
      simp only at hzero
      omega
    · intro hgoal
      simp only at hgoal ⊢
      have hpos : 0 < runtime.consumedPublication := by
        by_contra hzero
        have hunused := hruntime.unused (by omega)
        rw [hunused.2] at hgoal
        cases hgoal
      have holder := hruntime.older hpos (by omega)
      have hbelow := hruntime.goal hgoal
      omega

theorem Consistent.expireCommand {runtime : ServoRuntime D}
    (hruntime : runtime.Consistent) (nowNs : ℤ) :
    (runtime.expireCommand nowNs).Consistent := by
  unfold ServoRuntime.expireCommand
  split
  · constructor
    · exact hruntime.gate
    · exact hruntime.staged
    · exact hruntime.unstaged
    · exact hruntime.consumed_le
    · exact hruntime.current
    · exact hruntime.older
    · intro hzero
      exact ⟨rfl, (hruntime.unused hzero).2⟩
    · exact hruntime.goal
  · exact hruntime

theorem Consistent.refreshStaged {runtime : ServoRuntime D}
    (hruntime : runtime.Consistent) (readable : Bool) (nowNs : ℤ) :
    (runtime.refreshStaged readable nowNs).Consistent :=
  (hruntime.takeStaged readable).expireCommand nowNs

theorem Consistent.pos_of_sendGoal {runtime : ServoRuntime D}
    (hruntime : runtime.Consistent) (hsend : runtime.sendGoal = true) :
    0 < runtime.consumedPublication := by
  by_contra hzero
  have hunused := hruntime.unused (by omega)
  simp [sendGoal, commandActive, hunused.1] at hsend

theorem Consistent.markGoal {runtime : ServoRuntime D}
    (hruntime : runtime.Consistent) (hsend : runtime.sendGoal = true) :
    runtime.markGoal.Consistent where
  gate := hruntime.gate
  staged := hruntime.staged
  unstaged := hruntime.unstaged
  consumed_le := hruntime.consumed_le
  current := hruntime.current
  older := hruntime.older
  unused := by
    intro hzero
    have hpos := hruntime.pos_of_sendGoal hsend
    simp only [ServoRuntime.markGoal] at hzero
    omega
  goal := by
    intro _
    exact le_rfl

theorem Consistent.record {runtime : ServoRuntime D}
    (hruntime : runtime.Consistent) (feedbackSequence : ℕ)
    (lastResponseNs : ℤ) (feedback : St3215ServoFeedback D) :
    ({ runtime with
        feedbackSequence := feedbackSequence
        lastResponseNs := lastResponseNs }.publishFeedback
          feedback).Consistent where
  gate := hruntime.gate
  staged := hruntime.staged
  unstaged := hruntime.unstaged
  consumed_le := hruntime.consumed_le
  current := hruntime.current
  older := hruntime.older
  unused := hruntime.unused
  goal := hruntime.goal

end ServoRuntime

variable [FloatingPoint D]

def ServoRuntime.stage (runtime : ServoRuntime D)
    (command : St3215ServoCommand D) (nowNs : ℤ) : ServoRuntime D :=
  { runtime with servo := (runtime.servo.stageCommand command nowNs).1 }

/-- The output is the sequence of a goal which is sent. -/
def runtimeMachine :
    Machine (ServoRuntime D) (RuntimeInput D) (Option ℕ) where
  step := fun runtime input =>
    match input with
    | .stage command nowNs => (runtime.stage command nowNs, none)
    | .refresh readable nowNs => (runtime.refreshStaged readable nowNs, none)
    | .dispatch =>
        if runtime.sendGoal then
          (runtime.markGoal, some runtime.command.sequence)
        else
          (runtime, none)
    | .record feedbackSequence lastResponseNs feedback =>
        ({ runtime with
            feedbackSequence := feedbackSequence
            lastResponseNs := lastResponseNs }.publishFeedback feedback, none)

namespace ServoRuntime

/-! ## Staging -/

theorem stage_of_accepted
    {runtime : ServoRuntime D} {command : St3215ServoCommand D} {nowNs : ℤ}
    (hgate : runtime.servo.commandGate = false)
    (haccepted : runtime.servo.inspectCommand command nowNs = .accepted) :
    runtime.stage command nowNs =
      { runtime with servo := runtime.servo.commitCommand command } := by
  have hlocked : { runtime.servo with commandGate := true }.inspectCommand
      command nowNs = .accepted := haccepted
  unfold stage St3215Servo.stageCommand St3215Servo.tryLockCommand
  simp only [hgate, Bool.not_false, Bool.not_true, Bool.false_eq_true, if_false]
  rw [hlocked, if_pos rfl]
  unfold St3215Servo.commitCommand St3215Servo.unlockCommand
  rw [← hgate]

theorem stage_of_not_accepted
    {runtime : ServoRuntime D} {command : St3215ServoCommand D} {nowNs : ℤ}
    (hgate : runtime.servo.commandGate = false)
    (hrefused : runtime.servo.inspectCommand command nowNs ≠ .accepted) :
    runtime.stage command nowNs = runtime := by
  have hlocked : { runtime.servo with commandGate := true }.inspectCommand
      command nowNs ≠ .accepted := hrefused
  unfold stage St3215Servo.stageCommand St3215Servo.tryLockCommand
  simp only [hgate, Bool.not_false, Bool.not_true, Bool.false_eq_true, if_false]
  rw [if_neg hlocked]
  unfold St3215Servo.unlockCommand
  rw [← hgate]

theorem consistent_create (config : St3215ServoConfig) :
    (ServoRuntime.create (.create config) : ServoRuntime D).Consistent := by
  constructor <;> simp [ServoRuntime.create, St3215Servo.create]

theorem Consistent.commit {runtime : ServoRuntime D}
    (hruntime : runtime.Consistent) {command : St3215ServoCommand D}
    {nowNs : ℤ}
    (haccepted : runtime.servo.inspectCommand command nowNs = .accepted) :
    ({ runtime with servo := runtime.servo.commitCommand command } :
      ServoRuntime D).Consistent where
  gate := hruntime.gate
  staged := by
    intro staged hstaged
    simp only [St3215Servo.commitCommand, Option.some.injEq] at hstaged ⊢
    rw [← hstaged]
    simp
  unstaged := by
    intro hnone
    simp [St3215Servo.commitCommand] at hnone
  consumed_le := Nat.le_succ_of_le hruntime.consumed_le
  current := by
    intro _ hequal
    have hle := hruntime.consumed_le
    simp only [St3215Servo.commitCommand] at hequal
    omega
  older := by
    intro hpos _
    have hle := hruntime.consumed_le
    simp only at hpos
    have hhas := hruntime.hasCommand_of_pos (by omega)
    have hnewer := (St3215Servo.lt_of_accepted hhas haccepted).1
    have hbelow : runtime.command.sequence ≤
        runtime.servo.lastCommandSequence := by
      rcases hle.lt_or_eq with hlt | hequal
      · exact (hruntime.older hpos hlt).le
      · exact (hruntime.current hpos hequal).le
    exact lt_of_le_of_lt hbelow hnewer
  unused := hruntime.unused
  goal := hruntime.goal

theorem Consistent.stage {runtime : ServoRuntime D}
    (hruntime : runtime.Consistent) (command : St3215ServoCommand D)
    (nowNs : ℤ) : (runtime.stage command nowNs).Consistent := by
  by_cases haccepted :
      runtime.servo.inspectCommand command nowNs = .accepted
  · rw [stage_of_accepted hruntime.gate haccepted]
    exact hruntime.commit haccepted
  · rw [stage_of_not_accepted hruntime.gate haccepted]
    exact hruntime

theorem Consistent.step {runtime : ServoRuntime D}
    (hruntime : runtime.Consistent) (input : RuntimeInput D) :
    (runtimeMachine.step runtime input).1.Consistent := by
  cases input with
  | stage command nowNs => exact hruntime.stage command nowNs
  | refresh readable nowNs => exact hruntime.refreshStaged readable nowNs
  | dispatch =>
      cases hsend : runtime.sendGoal with
      | false => simpa [runtimeMachine, hsend] using hruntime
      | true => simpa [runtimeMachine, hsend] using hruntime.markGoal hsend
  | record feedbackSequence lastResponseNs feedback =>
      exact hruntime.record feedbackSequence lastResponseNs feedback

theorem Consistent.final {runtime : ServoRuntime D}
    (hruntime : runtime.Consistent) (inputs : List (RuntimeInput D)) :
    (runtimeMachine.final runtime inputs).Consistent :=
  Machine.invariant_final Consistent
    (fun _ input hgood => hgood.step input) hruntime inputs

/-! ## The window of a command -/

def InWindow (config : St3215ServoConfig) (command : St3215ServoCommand D)
    (nowNs : ℤ) : Prop :=
  command.timestampNs ≤ nowNs ∧
    nowNs ≤ command.timestampNs + config.commandTimeout

/-- The bus holds the command as active. -/
structure Active (runtime : ServoRuntime D)
    (command : St3215ServoCommand D) : Prop where
  hasCommand : runtime.hasCommand = true
  notTimedOut : runtime.commandTimedOut = false
  command : runtime.command = command

/-- The command is staged and either not taken yet or active. -/
structure Available (runtime : ServoRuntime D) (config : St3215ServoConfig)
    (command : St3215ServoCommand D) (publication : ℕ) : Prop where
  config : runtime.servo.config = config
  staged : runtime.servo.commands = some ⟨publication, command⟩
  active : runtime.consumedPublication = publication →
    runtime.Active command

/-- The command was taken and has expired. -/
structure Expired (runtime : ServoRuntime D)
    (command : St3215ServoCommand D) (publication : ℕ) : Prop where
  staged : runtime.servo.commands = some ⟨publication, command⟩
  consumed : runtime.consumedPublication = publication
  hasCommand : runtime.hasCommand = false

section Window

variable {runtime : ServoRuntime D} {config : St3215ServoConfig}
  {command : St3215ServoCommand D} {publication : ℕ}

omit [FloatingPoint D]

theorem readStaged_of_staged {servo : St3215Servo D}
    {staged : St3215StagedCommand D} (hstaged : servo.commands = some staged)
    (consumed : ℕ) :
    servo.readStaged true consumed =
      if staged.publication = consumed then none else some staged := by
  unfold St3215Servo.readStaged
  rw [hstaged]
  simp

theorem Available.take
    (hruntime : runtime.Available config command publication) :
    (runtime.takeStaged true).Active command ∧
      (runtime.takeStaged true).servo = runtime.servo ∧
      (runtime.takeStaged true).consumedPublication = publication := by
  unfold takeStaged
  rw [readStaged_of_staged hruntime.staged]
  by_cases hconsumed : publication = runtime.consumedPublication
  · rw [if_pos hconsumed]
    exact ⟨hruntime.active hconsumed.symm, rfl, hconsumed.symm⟩
  · rw [if_neg hconsumed]
    exact ⟨⟨rfl, rfl, rfl⟩, rfl, rfl⟩

theorem Available.refresh_inWindow
    (hruntime : runtime.Available config command publication) {nowNs : ℤ}
    (hwindow : InWindow config command nowNs) :
    (runtime.refreshStaged true nowNs).Active command ∧
      (runtime.refreshStaged true nowNs).Available config command
        publication := by
  obtain ⟨hactive, hservo, hconsumed⟩ := hruntime.take
  have hkept : (runtime.takeStaged true).expireCommand nowNs =
      runtime.takeStaged true := by
    unfold expireCommand
    rw [if_neg]
    rw [hactive.command, hservo, hruntime.config]
    obtain ⟨hstarted, hended⟩ := hwindow
    simp only [Bool.and_eq_true, Bool.or_eq_true, decide_eq_true_eq, not_and,
      not_or, not_lt]
    intro _
    exact ⟨hstarted, by omega⟩
  unfold refreshStaged
  rw [hkept]
  refine ⟨hactive, ?_, ?_, ?_⟩
  · rw [hservo]
    exact hruntime.config
  · rw [hservo]
    exact hruntime.staged
  · intro _
    exact hactive

theorem Available.refresh_outside
    (hruntime : runtime.Available config command publication) {nowNs : ℤ}
    (htimeout : 0 < config.commandTimeout)
    (houtside : ¬ InWindow config command nowNs) :
    (runtime.refreshStaged true nowNs).Expired command publication := by
  obtain ⟨hactive, hservo, hconsumed⟩ := hruntime.take
  unfold refreshStaged expireCommand
  rw [if_pos]
  · refine ⟨?_, hconsumed, rfl⟩
    simp only [hservo]
    exact hruntime.staged
  · rw [hactive.hasCommand, hactive.command, hservo, hruntime.config]
    simp only [Bool.true_and, Bool.and_eq_true, Bool.or_eq_true,
      decide_eq_true_eq]
    refine ⟨htimeout, ?_⟩
    by_contra hinside
    apply houtside
    constructor <;> omega

theorem Expired.refresh
    (hruntime : runtime.Expired command publication) (nowNs : ℤ) :
    (runtime.refreshStaged true nowNs).Expired command publication := by
  have hsame : runtime.takeStaged true = runtime := by
    unfold takeStaged
    rw [readStaged_of_staged hruntime.staged, if_pos hruntime.consumed.symm]
  have hkept : runtime.expireCommand nowNs = runtime := by
    unfold expireCommand
    simp [hruntime.hasCommand]
  unfold refreshStaged
  rw [hsame, hkept]
  exact hruntime

end Window

/-! ## Refreshes after a command was accepted -/

def refreshes (runtime : ServoRuntime D) (times : List ℤ) : ServoRuntime D :=
  runtimeMachine.final runtime (times.map (RuntimeInput.refresh true))

theorem refreshes_append (runtime : ServoRuntime D) (earlier later : List ℤ) :
    runtime.refreshes (earlier ++ later) =
      (runtime.refreshes earlier).refreshes later := by
  unfold refreshes
  rw [List.map_append, Machine.final_append]

theorem refreshes_singleton (runtime : ServoRuntime D) (nowNs : ℤ) :
    runtime.refreshes [nowNs] = runtime.refreshStaged true nowNs := rfl

theorem Available.refreshes_inWindow
    {runtime : ServoRuntime D} {config : St3215ServoConfig}
    {command : St3215ServoCommand D} {publication : ℕ} {times : List ℤ}
    (hruntime : runtime.Available config command publication)
    (hwindow : ∀ nowNs ∈ times, InWindow config command nowNs) :
    (runtime.refreshes times).Available config command publication := by
  induction times generalizing runtime with
  | nil => exact hruntime
  | cons nowNs rest ih =>
      have hnext := (hruntime.refresh_inWindow
        (hwindow nowNs List.mem_cons_self)).2
      exact ih hnext (fun later hlater =>
        hwindow later (List.mem_cons_of_mem nowNs hlater))

theorem Expired.refreshes
    {runtime : ServoRuntime D} {command : St3215ServoCommand D}
    {publication : ℕ} (hruntime : runtime.Expired command publication)
    (times : List ℤ) :
    (runtime.refreshes times).Expired command publication := by
  induction times generalizing runtime with
  | nil => exact hruntime
  | cons nowNs rest ih => exact ih (hruntime.refresh nowNs)

/-- One refresh outside the window ends the command. -/
theorem Available.refreshes_outside
    {runtime : ServoRuntime D} {config : St3215ServoConfig}
    {command : St3215ServoCommand D} {publication : ℕ}
    (hruntime : runtime.Available config command publication)
    (htimeout : 0 < config.commandTimeout) {times : List ℤ}
    (houtside : ∃ nowNs ∈ times, ¬ InWindow config command nowNs) :
    (runtime.refreshes times).Expired command publication := by
  induction times generalizing runtime with
  | nil =>
      obtain ⟨nowNs, hmem, _⟩ := houtside
      exact absurd hmem List.not_mem_nil
  | cons first rest ih =>
      by_cases hfirst : InWindow config command first
      · have hnext := (hruntime.refresh_inWindow hfirst).2
        obtain ⟨nowNs, hmem, hout⟩ := houtside
        rcases List.mem_cons.mp hmem with rfl | hrest
        · exact absurd hfirst hout
        · exact ih hnext ⟨nowNs, hrest, hout⟩
      · exact (hruntime.refresh_outside htimeout hfirst).refreshes rest

theorem Consistent.available_of_accepted {runtime : ServoRuntime D}
    (hruntime : runtime.Consistent) {command : St3215ServoCommand D}
    {nowNs : ℤ}
    (haccepted : runtime.servo.inspectCommand command nowNs = .accepted) :
    (runtime.stage command nowNs).Available runtime.servo.config command
      (runtime.servo.nextPublication + 1) := by
  rw [stage_of_accepted hruntime.gate haccepted]
  refine ⟨rfl, rfl, ?_⟩
  intro hconsumed
  have hle := hruntime.consumed_le
  simp only at hconsumed
  omega

end ServoRuntime

theorem runtimeMachine_config
    (runtime : ServoRuntime D) (inputs : List (RuntimeInput D)) :
    (runtimeMachine.final runtime inputs).servo.config =
      runtime.servo.config := by
  refine Machine.invariant_final
    (fun current : ServoRuntime D =>
      current.servo.config = runtime.servo.config) ?_ rfl inputs
  intro current input hcurrent
  rw [← hcurrent]
  cases input with
  | stage command nowNs =>
      show (current.servo.stageCommand command nowNs).1.config = _
      unfold St3215Servo.stageCommand St3215Servo.tryLockCommand
      simp only
      split
      · rfl
      · split <;> rfl
  | refresh readable nowNs =>
      show (current.refreshStaged readable nowNs).servo.config = _
      unfold ServoRuntime.refreshStaged ServoRuntime.expireCommand
        ServoRuntime.takeStaged
      split <;> split <;> rfl
  | dispatch =>
      simp only [runtimeMachine]
      split <;> rfl
  | record feedbackSequence lastResponseNs feedback => rfl

/-- After any history of a servo a command is accepted, and the bus refreshes
at increasing times; no newer command is staged, so every read of the snapshot
succeeds.  The command is active at every refresh inside its window exactly if
no refresh inside the window comes after one before the timestamp. -/
theorem command_active_iff
    (config : St3215ServoConfig) (htimeout : 0 < config.commandTimeout)
    (history : List (RuntimeInput D)) (command : St3215ServoCommand D)
    (acceptedNs : ℤ) (times : List ℤ)
    (hsorted : times.Pairwise (· ≤ ·))
    (haccepted : (runtimeMachine.final (ServoRuntime.create (.create config))
      history).servo.inspectCommand command acceptedNs = .accepted) :
    (∀ earlier nowNs later, times = earlier ++ nowNs :: later →
        ServoRuntime.InWindow config command nowNs →
        (((runtimeMachine.final (ServoRuntime.create (.create config))
            history).stage command acceptedNs).refreshes
          (earlier ++ [nowNs])).Active command) ↔
      ∀ early ∈ times, early < command.timestampNs →
        ∀ nowNs ∈ times, ¬ ServoRuntime.InWindow config command nowNs := by
  have hconsistent := (ServoRuntime.consistent_create (D := D) config).final
    history
  have hconfig := runtimeMachine_config
    (ServoRuntime.create (.create config) : ServoRuntime D) history
  generalize runtimeMachine.final (ServoRuntime.create (.create config))
    history = runtime at haccepted hconsistent hconfig ⊢
  have havailable := hconsistent.available_of_accepted haccepted
  rw [show runtime.servo.config = config from hconfig] at havailable
  constructor
  · intro hactive early hearly hbefore nowNs hnow hwindow
    obtain ⟨older, newer, hsplit⟩ := List.mem_iff_append.mp hearly
    have horder := hsorted
    rw [hsplit, List.pairwise_append, List.pairwise_cons] at horder
    have hlater : nowNs ∈ newer := by
      rw [hsplit, List.mem_append, List.mem_cons] at hnow
      rcases hnow with holder | rfl | hnewer
      · have hle := horder.2.2 nowNs holder early List.mem_cons_self
        have hstart := hwindow.1
        omega
      · have hstart := hwindow.1
        omega
      · exact hnewer
    obtain ⟨between, last, hbetween⟩ := List.mem_iff_append.mp hlater
    have hheld := hactive (older ++ early :: between) nowNs last
      (by rw [hsplit, hbetween]; simp) hwindow
    have houtside : ∃ other ∈ older ++ early :: between ++ [nowNs],
        ¬ ServoRuntime.InWindow config command other :=
      ⟨early, by simp, fun hin => absurd hin.1 (not_le.mpr hbefore)⟩
    have hexpired := havailable.refreshes_outside htimeout houtside
    have hhas := hheld.hasCommand
    rw [hexpired.hasCommand] at hhas
    exact Bool.false_ne_true hhas
  · intro hcondition earlier nowNs later hsplit hwindow
    have horder := hsorted
    rw [hsplit, List.pairwise_append] at horder
    have hinside : ∀ other ∈ earlier,
        ServoRuntime.InWindow config command other := by
      intro other hother
      have hle := horder.2.2 other hother nowNs List.mem_cons_self
      have hstart : ¬ other < command.timestampNs := by
        intro hbefore
        exact hcondition other (by simp [hsplit, hother]) hbefore nowNs
          (by simp [hsplit]) hwindow
      exact ⟨not_lt.mp hstart, le_trans hle hwindow.2⟩
    rw [ServoRuntime.refreshes_append, ServoRuntime.refreshes_singleton]
    exact ((havailable.refreshes_inWindow hinside).refresh_inWindow hwindow).1

def earlyServo : St3215ServoConfig where
  name := "gripper"
  deviceId := 1
  maxPositionUnits := 4095
  speedUnits := 0
  timeUnits := 0
  feedbackTimeout := 250
  commandTimeout := 100
  maximumCommandFuture := 50

def earlyCommand : St3215ServoCommand ℚ where
  sequence := 1
  timestampNs := 10
  targetPositionRad := 1
  enabled := true
  emergencyStop := false
  reserved := 0

theorem command_active_iff_late :
    (∀ earlier nowNs later, [10, 110] = earlier ++ nowNs :: later →
        ServoRuntime.InWindow earlyServo earlyCommand nowNs →
        (((runtimeMachine.final (ServoRuntime.create (.create earlyServo))
            []).stage earlyCommand 0).refreshes
          (earlier ++ [nowNs])).Active earlyCommand) ↔
      ∀ early ∈ [(10 : ℤ), 110], early < 10 → ∀ nowNs ∈ [(10 : ℤ), 110],
        ¬ ServoRuntime.InWindow earlyServo earlyCommand nowNs :=
  command_active_iff earlyServo (by decide) [] earlyCommand 0 [10, 110]
    (by decide) (by decide +kernel)

/-- A command of the near future is accepted, refreshed before its timestamp and
never active again. -/
theorem early_refresh_ends_command :
    0 < earlyServo.commandTimeout ∧
      (ServoRuntime.create (.create earlyServo) : ServoRuntime ℚ).servo.inspectCommand
        earlyCommand 0 = .accepted ∧
      [(0 : ℤ), 10].Pairwise (· ≤ ·) ∧
      ServoRuntime.InWindow earlyServo earlyCommand 10 ∧
      ¬ (((ServoRuntime.create (.create earlyServo)).stage earlyCommand
        0).refreshes [0, 10]).Active earlyCommand := by
  refine ⟨by decide, by decide +kernel, by decide, ⟨by decide, by decide⟩, ?_⟩
  intro hactive
  have hhas : (((ServoRuntime.create (.create earlyServo)).stage earlyCommand
      0).refreshes [0, 10]).hasCommand = false := by
    decide +kernel
  rw [hactive.hasCommand] at hhas
  exact Bool.false_ne_true hhas.symm

end PolicyRuntime
