import PolicyRuntime.Machine
import PolicyRuntime.Messages
import PolicyRuntime.Ownership
import PolicyRuntime.RealtimeLoop

/-!
# Real-time setup of a thread

`prepare` captures the scheduling of the calling thread, locks the memory of the
process, and asks for one processor and the FIFO policy; `release` undoes this.
The loops of all daemons in a process share one `LinuxRealtimeSystem`.  What the
kernel answers to a call is an input.
-/

namespace PolicyRuntime

def CPU_SETSIZE : ℤ := 1024
def schedFifo : ℤ := 1

/-- `sched_get_priority_min(SCHED_FIFO)` -/
def fifoPriorityMin : ℤ := 1

/-- `sched_get_priority_max(SCHED_FIFO)` -/
def fifoPriorityMax : ℤ := 99

/-- What the kernel keeps for a thread. -/
structure ThreadScheduling where
  affinity : Finset ℤ
  policy : ℤ
  priority : ℤ
  deriving DecidableEq

structure Kernel (τ : Type*) where
  threads : τ → ThreadScheduling
  memoryLocked : Bool

structure LinuxRealtimeSystem where
  originalAffinity : Finset ℤ := ∅
  originalSchedPolicy : ℤ := 0
  originalSchedParameter : ℤ := 0
  threadStateCaptured : Bool := false
  memoryLocked : Bool := false

structure RealtimeLoopConfig where
  period : ℤ := 1000000
  cpu : ℤ := 0
  priority : ℤ := 80
  deriving DecidableEq

structure RealtimeSetupStatus where
  threadStateCaptured : Bool := false
  preemptRt : Bool := false
  memoryLocked : Bool := false
  affinitySet : Bool := false
  schedFifo : Bool := false
  realtimeGuarantee : Bool := false
  deriving DecidableEq

/-- What the calls of `restore_current_thread_state` return. -/
structure RestoreAnswers where
  setschedparam : Bool
  setaffinity : Bool
  deriving DecidableEq

/-- What the calls of `prepare` return.  The file is what could be read of
`/sys/kernel/realtime`, and the names are the release and the version. -/
structure SetupAnswers where
  getaffinity : Bool
  getschedparam : Bool
  realtimeFile : Option (List Char)
  uname : Option (List Char × List Char)
  mlockall : Bool
  setaffinity : Bool
  setschedparam : Bool
  restore : RestoreAnswers
  deriving DecidableEq

/-! ## The system calls -/

section Calls

variable {τ : Type*} [DecidableEq τ]

def Kernel.setThread (kernel : Kernel τ) (thread : τ)
    (scheduling : ThreadScheduling) : Kernel τ :=
  { kernel with threads := Function.update kernel.threads thread scheduling }

def containsPreemptRt (text : List Char) : Bool :=
  decide ("PREEMPT_RT".toList <:+: text) ||
    decide ("PREEMPT RT".toList <:+: text)

def preemptRtKernel (answers : SetupAnswers) : Bool :=
  match answers.realtimeFile with
  | some (first :: _) => first = '1'
  | _ =>
      match answers.uname with
      | some (release, version) =>
          containsPreemptRt release || containsPreemptRt version
      | none => false

/-- The state which a loop and the system share with the kernel. -/
structure RealtimeContext (τ : Type*) where
  kernel : Kernel τ
  system : LinuxRealtimeSystem

namespace RealtimeContext

def captureCurrentThreadState (context : RealtimeContext τ) (thread : τ)
    (answers : SetupAnswers) : RealtimeContext τ × Bool :=
  let scheduling := context.kernel.threads thread
  if context.system.threadStateCaptured then
    (context, false)
  else if !answers.getaffinity then
    (context, false)
  else
    let system :=
      { context.system with originalAffinity := scheduling.affinity }
    if !answers.getschedparam then
      ({ context with system := system }, false)
    else
      ({ context with
          system := { system with
            originalSchedPolicy := scheduling.policy
            originalSchedParameter := scheduling.priority
            threadStateCaptured := true } }, true)

def lockProcessMemory (context : RealtimeContext τ) (answers : SetupAnswers) :
    RealtimeContext τ × Bool :=
  ({ kernel := { context.kernel with
       memoryLocked := context.kernel.memoryLocked || answers.mlockall }
     system := { context.system with memoryLocked := answers.mlockall } },
    answers.mlockall)

def pinCurrentThread (context : RealtimeContext τ) (thread : τ) (cpu : ℤ)
    (answers : SetupAnswers) : RealtimeContext τ × Bool :=
  if cpu < 0 || CPU_SETSIZE ≤ cpu then
    (context, false)
  else if answers.setaffinity then
    ({ context with
        kernel := context.kernel.setThread thread
          { context.kernel.threads thread with affinity := {cpu} } }, true)
  else
    (context, false)

def setCurrentThreadFifo (context : RealtimeContext τ) (thread : τ)
    (priority : ℤ) (answers : SetupAnswers) : RealtimeContext τ × Bool :=
  if priority < fifoPriorityMin || fifoPriorityMax < priority then
    (context, false)
  else if answers.setschedparam then
    ({ context with
        kernel := context.kernel.setThread thread
          { context.kernel.threads thread with
            policy := schedFifo
            priority := priority } }, true)
  else
    (context, false)

def restoreCurrentThreadState (context : RealtimeContext τ) (thread : τ)
    (answers : RestoreAnswers) : RealtimeContext τ :=
  if !context.system.threadStateCaptured then
    context
  else
    let scheduled :=
      if answers.setschedparam then
        context.kernel.setThread thread
          { context.kernel.threads thread with
            policy := context.system.originalSchedPolicy
            priority := context.system.originalSchedParameter }
      else
        context.kernel
    let restored :=
      if answers.setaffinity then
        scheduled.setThread thread
          { scheduled.threads thread with
            affinity := context.system.originalAffinity }
      else
        scheduled
    { kernel := restored
      system := { context.system with threadStateCaptured := false } }

def unlockProcessMemory (context : RealtimeContext τ) : RealtimeContext τ :=
  if context.system.memoryLocked then
    { kernel := { context.kernel with memoryLocked := false }
      system := { context.system with memoryLocked := false } }
  else
    context

end RealtimeContext

/-! ## Prepare and release -/

/-- A `RealtimeLoop` with the members which `prepare` and `release` use. -/
structure PreparedLoop where
  config : RealtimeLoopConfig
  schedule : RealtimeLoop
  setupActive : Bool := false
  capturedThreadState : Bool := false
  lockedMemory : Bool := false
  deriving DecidableEq

def RealtimeLoopConfig.valid (config : RealtimeLoopConfig) : Bool :=
  !(config.period ≤ 0 || config.cpu < 0 ||
    config.priority < fifoPriorityMin || fifoPriorityMax < config.priority)

namespace PreparedLoop

def create (config : RealtimeLoopConfig) : PreparedLoop where
  config := config
  schedule := { period := config.period }

def release (loop : PreparedLoop) (context : RealtimeContext τ) (thread : τ)
    (answers : RestoreAnswers) : PreparedLoop × RealtimeContext τ :=
  let (loop, context) :=
    if loop.capturedThreadState then
      ({ loop with capturedThreadState := false },
        context.restoreCurrentThreadState thread answers)
    else
      (loop, context)
  let (loop, context) :=
    if loop.lockedMemory then
      ({ loop with lockedMemory := false }, context.unlockProcessMemory)
    else
      (loop, context)
  ({ loop with setupActive := false }, context)

/-- The calls of `prepare` which need the captured state. -/
def acquire (loop : PreparedLoop) (context : RealtimeContext τ) (thread : τ)
    (answers : SetupAnswers) (status : RealtimeSetupStatus) :
    PreparedLoop × RealtimeContext τ × RealtimeSetupStatus :=
  let (context, memoryLocked) := context.lockProcessMemory answers
  let (context, affinitySet) :=
    context.pinCurrentThread thread loop.config.cpu answers
  let (context, fifo) :=
    context.setCurrentThreadFifo thread loop.config.priority answers
  ({ loop with lockedMemory := memoryLocked }, context,
    { status with
      memoryLocked := memoryLocked
      affinitySet := affinitySet
      schedFifo := fifo })

/-- The schedule starts over with every setup. -/
def reschedule (loop : PreparedLoop) (guarantee : Bool) : PreparedLoop :=
  { loop with
    setupActive := guarantee
    schedule := loop.schedule.resetSchedule }

/-- The end of `prepare`: a setup which is not complete is released. -/
def conclude (loop : PreparedLoop) (context : RealtimeContext τ) (thread : τ)
    (status : RealtimeSetupStatus) (answers : RestoreAnswers) :
    PreparedLoop × RealtimeContext τ × Except Error RealtimeSetupStatus :=
  let guarantee := status.threadStateCaptured && status.preemptRt &&
    status.memoryLocked && status.affinitySet && status.schedFifo
  let status := { status with realtimeGuarantee := guarantee }
  let loop := loop.reschedule guarantee
  if !guarantee then
    let (loop, context) := loop.release context thread answers
    (loop, context, .ok status)
  else
    (loop, context, .ok status)

def prepare (loop : PreparedLoop) (context : RealtimeContext τ) (thread : τ)
    (answers : SetupAnswers) :
    PreparedLoop × RealtimeContext τ × Except Error RealtimeSetupStatus :=
  if !loop.config.valid then
    (loop, context, .error
      ⟨.invalidArgument, "invalid real-time loop configuration"⟩)
  else if loop.setupActive || loop.capturedThreadState ||
      loop.lockedMemory then
    (loop, context, .error
      ⟨.invalidArgument, "real-time loop setup is already active"⟩)
  else
    let (context, captured) :=
      context.captureCurrentThreadState thread answers
    let status : RealtimeSetupStatus :=
      { threadStateCaptured := captured
        preemptRt := preemptRtKernel answers }
    let loop := { loop with capturedThreadState := captured }
    if captured then
      let (loop, context, status) :=
        loop.acquire context thread answers status
      loop.conclude context thread status answers.restore
    else
      loop.conclude context thread status answers.restore

end PreparedLoop

end Calls

/-! ## The daemons of a process -/

/-- The loops `ρ` of the daemons, the thread which each `run` is on, and the
daemon whose `run` each thread is inside of. -/
structure RealtimeProcess (ρ τ : Type*) where
  context : RealtimeContext τ
  loops : ρ → PreparedLoop
  cycleOwnerToken : ρ → Option τ
  inside : τ → Option ρ

/-- `run` prepares the loop when it is entered, and releases it on the same
thread before it returns. -/
inductive RealtimeCall (ρ τ : Type*)
  | enter (daemon : ρ) (thread : τ) (answers : SetupAnswers)
  | leave (thread : τ) (answers : RestoreAnswers)

inductive RealtimeAnswer
  | refused
  | prepared (result : Except Error RealtimeSetupStatus)
  | released

namespace RealtimeProcess

variable {ρ τ : Type*} [DecidableEq ρ] [DecidableEq τ]

def start (kernel : Kernel τ) (configs : ρ → RealtimeLoopConfig) :
    RealtimeProcess ρ τ where
  context := ⟨kernel, {}⟩
  loops := fun daemon => .create (configs daemon)
  cycleOwnerToken := fun _ => none
  inside := fun _ => none

/-- The owner guard of `run` admits one thread, and a thread inside of a `run`
calls no other one. -/
def enter (process : RealtimeProcess ρ τ) (daemon : ρ) (thread : τ)
    (answers : SetupAnswers) : RealtimeProcess ρ τ × RealtimeAnswer :=
  if process.cycleOwnerToken daemon = none ∧ process.inside thread = none then
    let (loop, context, result) :=
      (process.loops daemon).prepare process.context thread answers
    ({ context := context
       loops := Function.update process.loops daemon loop
       cycleOwnerToken :=
         Function.update process.cycleOwnerToken daemon (some thread)
       inside := Function.update process.inside thread (some daemon) },
      .prepared result)
  else
    (process, .refused)

def leave (process : RealtimeProcess ρ τ) (thread : τ)
    (answers : RestoreAnswers) : RealtimeProcess ρ τ × RealtimeAnswer :=
  match process.inside thread with
  | none => (process, .refused)
  | some daemon =>
      let (loop, context) :=
        (process.loops daemon).release process.context thread answers
      ({ context := context
         loops := Function.update process.loops daemon loop
         cycleOwnerToken :=
           Function.update process.cycleOwnerToken daemon none
         inside := Function.update process.inside thread none },
        .released)

def machine :
    Machine (RealtimeProcess ρ τ) (RealtimeCall ρ τ) RealtimeAnswer where
  step := fun process call =>
    match call with
    | .enter daemon thread answers => process.enter daemon thread answers
    | .leave thread answers => process.leave thread answers

end RealtimeProcess

/-! ## What one call does -/

section Effects

variable {τ : Type*} [DecidableEq τ]

def RestoreAnswers.Granted (answers : RestoreAnswers) : Prop :=
  answers.setschedparam = true ∧ answers.setaffinity = true

/-- The scheduling which a loop asks for. -/
def RealtimeLoopConfig.scheduling (config : RealtimeLoopConfig) :
    ThreadScheduling where
  affinity := {config.cpu}
  policy := schedFifo
  priority := config.priority

/-- The system remembers the scheduling. -/
structure LinuxRealtimeSystem.Remembers (system : LinuxRealtimeSystem)
    (scheduling : ThreadScheduling) : Prop where
  captured : system.threadStateCaptured = true
  affinity : system.originalAffinity = scheduling.affinity
  policy : system.originalSchedPolicy = scheduling.policy
  priority : system.originalSchedParameter = scheduling.priority

/-- Nobody holds the captured state or the lock. -/
structure LinuxRealtimeSystem.Free (system : LinuxRealtimeSystem) : Prop where
  captured : system.threadStateCaptured = false
  memory : system.memoryLocked = false

namespace Kernel

@[simp] theorem threads_setThread_self (kernel : Kernel τ) (thread : τ)
    (scheduling : ThreadScheduling) :
    (kernel.setThread thread scheduling).threads thread = scheduling :=
  Function.update_self ..

theorem threads_setThread_of_ne (kernel : Kernel τ) {thread other : τ}
    (hne : other ≠ thread) (scheduling : ThreadScheduling) :
    (kernel.setThread thread scheduling).threads other =
      kernel.threads other :=
  Function.update_of_ne hne ..

@[simp] theorem memoryLocked_setThread (kernel : Kernel τ) (thread : τ)
    (scheduling : ThreadScheduling) :
    (kernel.setThread thread scheduling).memoryLocked = kernel.memoryLocked :=
  rfl

@[simp] theorem setThread_setThread (kernel : Kernel τ) (thread : τ)
    (first second : ThreadScheduling) :
    (kernel.setThread thread first).setThread thread second =
      kernel.setThread thread second := by
  simp [setThread]

@[simp] theorem setThread_threads (kernel : Kernel τ) (thread : τ) :
    kernel.setThread thread (kernel.threads thread) = kernel := by
  simp [setThread]

theorem restored (kernel : Kernel τ) (thread : τ)
    (scheduling : ThreadScheduling) (locked : Bool) :
    { Kernel.setThread
        { kernel.setThread thread scheduling with memoryLocked := locked }
        thread (kernel.threads thread) with
      memoryLocked := kernel.memoryLocked } = kernel := by
  simp [setThread]

end Kernel

namespace RealtimeContext

variable {context : RealtimeContext τ} {thread : τ}

/-- A granted restore gives the thread what the system remembers. -/
theorem restore_of_remembers {scheduling : ThreadScheduling}
    (hsystem : context.system.Remembers scheduling) {answers : RestoreAnswers}
    (hgranted : answers.Granted) :
    context.restoreCurrentThreadState thread answers =
      ⟨context.kernel.setThread thread scheduling,
        { context.system with threadStateCaptured := false }⟩ := by
  unfold restoreCurrentThreadState
  simp [hsystem.captured, hsystem.affinity, hsystem.policy, hsystem.priority,
    hgranted.1, hgranted.2]

theorem unchanged (context : RealtimeContext τ) (thread : τ) :
    context = { context with
      kernel := context.kernel.setThread thread
        (context.kernel.threads thread) } := by
  rw [Kernel.setThread_threads]

omit [DecidableEq τ] in
/-- The capture is refused, or it remembers the scheduling of the thread. -/
theorem capture_cases (context : RealtimeContext τ) (thread : τ)
    (answers : SetupAnswers) :
    let captured := context.captureCurrentThreadState thread answers
    (captured.2 = false ∧ captured.1.kernel = context.kernel ∧
      (context.system.Free → captured.1.system.Free) ∧
      (context.system.threadStateCaptured = true → captured.1 = context)) ∨
    (captured.2 = true ∧ context.system.threadStateCaptured = false ∧
      captured.1.kernel = context.kernel ∧
      captured.1.system.Remembers (context.kernel.threads thread)) := by
  intro captured
  unfold captured captureCurrentThreadState
  dsimp only
  split_ifs with hcaptured haffinity hparameter
  · exact Or.inl ⟨rfl, rfl, id, fun _ => rfl⟩
  · exact Or.inl ⟨rfl, rfl, id, fun _ => rfl⟩
  · refine Or.inl ⟨rfl, rfl, ?_, fun h => absurd h hcaptured⟩
    exact fun hfree => ⟨hfree.captured, hfree.memory⟩
  · rw [Bool.not_eq_true] at hcaptured
    exact Or.inr ⟨rfl, hcaptured, rfl, rfl, rfl, rfl, rfl⟩

theorem pin_effect (context : RealtimeContext τ) (thread : τ) (cpu : ℤ)
    (answers : SetupAnswers) :
    let pinned := context.pinCurrentThread thread cpu answers
    ∃ affinity,
      pinned.1 = { context with
        kernel := context.kernel.setThread thread
          { context.kernel.threads thread with affinity := affinity } } ∧
      (pinned.2 = true → affinity = {cpu}) := by
  intro pinned
  unfold pinned pinCurrentThread
  split_ifs with hrange hanswer
  · exact ⟨_, context.unchanged thread, by simp⟩
  · exact ⟨{cpu}, rfl, fun _ => rfl⟩
  · exact ⟨_, context.unchanged thread, by simp⟩

theorem fifo_effect (context : RealtimeContext τ) (thread : τ) (level : ℤ)
    (answers : SetupAnswers) :
    let fifo := context.setCurrentThreadFifo thread level answers
    ∃ policy priority,
      fifo.1 = { context with
        kernel := context.kernel.setThread thread
          { context.kernel.threads thread with
            policy := policy
            priority := priority } } ∧
      (fifo.2 = true → policy = schedFifo ∧ priority = level) := by
  intro fifo
  unfold fifo setCurrentThreadFifo
  split_ifs with hrange hanswer
  · exact ⟨_, _, context.unchanged thread, by simp⟩
  · exact ⟨schedFifo, level, rfl, fun _ => ⟨rfl, rfl⟩⟩
  · exact ⟨_, _, context.unchanged thread, by simp⟩

end RealtimeContext

namespace PreparedLoop

variable {context : RealtimeContext τ} {loop : PreparedLoop} {thread : τ}

/-- The loop holds nothing. -/
structure Idle (loop : PreparedLoop) : Prop where
  active : loop.setupActive = false
  captured : loop.capturedThreadState = false
  memory : loop.lockedMemory = false

/-- The loop holds all of its setup. -/
structure Active (loop : PreparedLoop) : Prop where
  active : loop.setupActive = true
  captured : loop.capturedThreadState = true
  memory : loop.lockedMemory = true

theorem Idle.not_active (hidle : loop.Idle) : ¬ loop.Active := by
  intro hactive
  exact Bool.false_ne_true (hidle.active.symm.trans hactive.active)

omit [DecidableEq τ] in
theorem Active.not_idle (hactive : loop.Active) : ¬ loop.Idle :=
  fun hidle => hidle.not_active hactive

theorem release_idle (hidle : loop.Idle) (answers : RestoreAnswers) :
    loop.release context thread answers = (loop, context) := by
  obtain ⟨config, schedule, active, captured, memory⟩ := loop
  obtain ⟨rfl, rfl, rfl⟩ := hidle
  rfl

/-- A release takes back all that the loop has changed. -/
theorem release_of_remembers (loop : PreparedLoop) (thread : τ)
    {scheduling : ThreadScheduling}
    (hcaptured : loop.capturedThreadState = true)
    (hsystem : context.system.Remembers scheduling)
    (hmemory : context.system.memoryLocked = loop.lockedMemory)
    {answers : RestoreAnswers} (hgranted : answers.Granted) :
    let released := loop.release context thread answers
    released.1.Idle ∧ released.1.config = loop.config ∧
      released.2.system.Free ∧
      released.2.kernel =
        { context.kernel.setThread thread scheduling with
          memoryLocked :=
            !loop.lockedMemory && context.kernel.memoryLocked } := by
  obtain ⟨config, schedule, active, captured, memory⟩ := loop
  obtain rfl : captured = true := hcaptured
  intro released
  unfold released release
  dsimp only
  rw [if_pos rfl, RealtimeContext.restore_of_remembers hsystem hgranted]
  cases memory with
  | true =>
      unfold RealtimeContext.unlockProcessMemory
      dsimp only
      rw [if_pos rfl, if_pos hmemory]
      exact ⟨⟨rfl, rfl, rfl⟩, rfl, ⟨rfl, rfl⟩, rfl⟩
  | false => exact ⟨⟨rfl, rfl, rfl⟩, rfl, ⟨rfl, hmemory⟩, rfl⟩

/-- What the setup calls leave behind, whichever of them are refused. -/
structure Acquired (loop : PreparedLoop) (context : RealtimeContext τ)
    (thread : τ) (status : RealtimeSetupStatus)
    (acquired : PreparedLoop × RealtimeContext τ × RealtimeSetupStatus)
    (scheduling : ThreadScheduling) : Prop where
  kernel : acquired.2.1.kernel =
    { context.kernel.setThread thread scheduling with
      memoryLocked := context.kernel.memoryLocked || acquired.1.lockedMemory }
  system : acquired.2.1.system =
    { context.system with memoryLocked := acquired.1.lockedMemory }
  setup : acquired.1 =
    { loop with lockedMemory := acquired.1.lockedMemory }
  captured : acquired.2.2.threadStateCaptured = status.threadStateCaptured
  memory : acquired.2.2.memoryLocked = acquired.1.lockedMemory
  scheduled : acquired.2.2.affinitySet = true →
    acquired.2.2.schedFifo = true → scheduling = loop.config.scheduling

theorem acquire_effect (loop : PreparedLoop) (context : RealtimeContext τ)
    (thread : τ) (answers : SetupAnswers) (status : RealtimeSetupStatus) :
    ∃ scheduling, loop.Acquired context thread status
      (loop.acquire context thread answers status) scheduling := by
  obtain ⟨affinity, hpin, hcpu⟩ :=
    (context.lockProcessMemory answers).1.pin_effect thread loop.config.cpu
      answers
  obtain ⟨policy, priority, hfifo, hlevel⟩ :=
    ((context.lockProcessMemory answers).1.pinCurrentThread thread
      loop.config.cpu answers).1.fifo_effect thread loop.config.priority
        answers
  refine ⟨⟨affinity, policy, priority⟩, ?_⟩
  constructor
  · unfold acquire
    dsimp only
    rw [hfifo, hpin]
    simp [RealtimeContext.lockProcessMemory, Kernel.setThread]
  · unfold acquire
    dsimp only
    rw [hfifo, hpin]
    rfl
  · rfl
  · rfl
  · rfl
  · intro haffinity hpolicy
    rw [hcpu haffinity, (hlevel hpolicy).1, (hlevel hpolicy).2]
    rfl

/-- A `prepare` which has left the kernel as it was. -/
structure RolledBack (loop : PreparedLoop) (context : RealtimeContext τ)
    (prepared : PreparedLoop × RealtimeContext τ ×
      Except Error RealtimeSetupStatus) : Prop where
  idle : prepared.1.Idle
  config : prepared.1.config = loop.config
  kernel : prepared.2.1.kernel = context.kernel
  free : context.system.Free → prepared.2.1.system.Free
  taken : context.system.threadStateCaptured = true →
    prepared.2.1.system = context.system
  status : ∀ status, prepared.2.2 = .ok status →
    status.realtimeGuarantee = false

/-- A `prepare` which has changed all that it was asked to. -/
structure Granted (loop : PreparedLoop) (context : RealtimeContext τ)
    (thread : τ)
    (prepared : PreparedLoop × RealtimeContext τ ×
      Except Error RealtimeSetupStatus) : Prop where
  active : prepared.1.Active
  config : prepared.1.config = loop.config
  found : context.system.threadStateCaptured = false
  kernel : prepared.2.1.kernel =
    { context.kernel.setThread thread loop.config.scheduling with
      memoryLocked := true }
  remembers : prepared.2.1.system.Remembers (context.kernel.threads thread)
  locked : prepared.2.1.system.memoryLocked = true
  status : ∃ status, prepared.2.2 = .ok status ∧
    status.realtimeGuarantee = true

theorem conclude_incomplete {status : RealtimeSetupStatus}
    (hincomplete : (status.threadStateCaptured && status.preemptRt &&
      status.memoryLocked && status.affinitySet && status.schedFifo) = false)
    (answers : RestoreAnswers) :
    loop.conclude context thread status answers =
      (((loop.reschedule false).release context thread answers).1,
        ((loop.reschedule false).release context thread answers).2,
        .ok { status with realtimeGuarantee := false }) := by
  unfold conclude
  rw [hincomplete]
  rfl

theorem conclude_complete {status : RealtimeSetupStatus}
    (hcomplete : (status.threadStateCaptured && status.preemptRt &&
      status.memoryLocked && status.affinitySet && status.schedFifo) = true)
    (answers : RestoreAnswers) :
    loop.conclude context thread status answers =
      (loop.reschedule true, context,
        .ok { status with realtimeGuarantee := true }) := by
  unfold conclude
  rw [hcomplete]
  rfl

/-- Without the captured state nothing has to be taken back. -/
theorem rolledBack_uncaptured {captured : RealtimeContext τ}
    (hidle : loop.Idle) (hkernel : captured.kernel = context.kernel)
    (hfree : context.system.Free → captured.system.Free)
    (htaken : context.system.threadStateCaptured = true → captured = context)
    {status : RealtimeSetupStatus}
    (hstatus : status.threadStateCaptured = false)
    (answers : RestoreAnswers) :
    loop.RolledBack context
      (PreparedLoop.conclude { loop with capturedThreadState := false }
        captured thread status answers) := by
  have hrescheduled : (PreparedLoop.reschedule
      { loop with capturedThreadState := false } false).Idle :=
    ⟨rfl, rfl, hidle.memory⟩
  rw [conclude_incomplete (by rw [hstatus]; rfl), release_idle hrescheduled]
  refine ⟨⟨rfl, rfl, hidle.memory⟩, rfl, hkernel, hfree, fun h => ?_, ?_⟩
  · rw [htaken h]
  · rintro _ ⟨rfl⟩
    rfl

/-- With the captured state everything is kept or taken back. -/
theorem concluded_acquired {captured : RealtimeContext τ}
    (hkernel : captured.kernel = context.kernel)
    (hremembers : captured.system.Remembers (context.kernel.threads thread))
    (hfound : context.system.threadStateCaptured = false)
    (hunlocked : context.kernel.memoryLocked = false)
    {acquired : PreparedLoop × RealtimeContext τ × RealtimeSetupStatus}
    {status : RealtimeSetupStatus} {scheduling : ThreadScheduling}
    (hacquired : PreparedLoop.Acquired { loop with capturedThreadState := true }
      captured thread status acquired scheduling)
    {answers : RestoreAnswers} (hgranted : answers.Granted) :
    loop.RolledBack context
        (acquired.1.conclude acquired.2.1 thread acquired.2.2 answers) ∨
      loop.Granted context thread
        (acquired.1.conclude acquired.2.1 thread acquired.2.2 answers) := by
  have hcaptured : acquired.1.capturedThreadState = true := by
    rw [hacquired.setup]
  have hconfig : acquired.1.config = loop.config := by
    rw [hacquired.setup]
  have hsystem : acquired.2.1.system.Remembers
      (context.kernel.threads thread) := by
    rw [hacquired.system]
    exact ⟨hremembers.captured, hremembers.affinity, hremembers.policy,
      hremembers.priority⟩
  have hmemory : acquired.2.1.system.memoryLocked =
      acquired.1.lockedMemory := by
    rw [hacquired.system]
  cases hall : (acquired.2.2.threadStateCaptured && acquired.2.2.preemptRt &&
      acquired.2.2.memoryLocked && acquired.2.2.affinitySet &&
      acquired.2.2.schedFifo) with
  | false =>
      obtain ⟨hidle, hsame, hfree, hrestored⟩ :=
        release_of_remembers (acquired.1.reschedule false) thread hcaptured
          hsystem hmemory hgranted
      left
      rw [conclude_incomplete hall]
      refine ⟨hidle, hsame.trans hconfig, ?_, fun _ => hfree,
        fun h => absurd h (by rw [hfound]; exact Bool.false_ne_true), ?_⟩
      · dsimp only
        have hbefore : (!(acquired.1.reschedule false).lockedMemory &&
            (captured.kernel.memoryLocked || acquired.1.lockedMemory)) =
              context.kernel.memoryLocked := by
          rw [hkernel, hunlocked]
          cases hlocked : acquired.1.lockedMemory with
          | false => simp [reschedule, hlocked]
          | true => simp [reschedule, hlocked]
        rw [hrestored, hacquired.kernel]
        dsimp only
        rw [hbefore, hkernel]
        exact context.kernel.restored thread scheduling _
      · rintro _ ⟨rfl⟩
        rfl
  | true =>
      have hcomplete := hall
      simp only [Bool.and_eq_true] at hall
      obtain ⟨⟨⟨⟨-, -⟩, hlocked⟩, haffinity⟩, hfifo⟩ := hall
      rw [hacquired.memory] at hlocked
      right
      rw [conclude_complete hcomplete]
      refine ⟨⟨rfl, hcaptured, hlocked⟩, hconfig, hfound, ?_, hsystem,
        hmemory.trans hlocked, ?_⟩
      · dsimp only
        rw [hacquired.kernel, hlocked, Bool.or_true, hkernel,
          hacquired.scheduled haffinity hfifo]
      · exact ⟨_, rfl, rfl⟩

/-- Nothing in between: a setup is granted as a whole or taken back as a
whole. -/
theorem prepare_cases (thread : τ) (hidle : loop.Idle)
    (hunlocked : context.system.threadStateCaptured = false →
      context.kernel.memoryLocked = false)
    {answers : SetupAnswers} (hgranted : answers.restore.Granted) :
    loop.RolledBack context (loop.prepare context thread answers) ∨
      loop.Granted context thread
        (loop.prepare context thread answers) := by
  have hbusy : (loop.setupActive || loop.capturedThreadState ||
      loop.lockedMemory) = false := by
    rw [hidle.active, hidle.captured, hidle.memory]
    rfl
  unfold prepare
  split_ifs with hvalid hactive
  · exact Or.inl ⟨hidle, rfl, rfl, id, fun _ => rfl, fun _ h => nomatch h⟩
  · exact absurd hactive (by rw [hbusy]; exact Bool.false_ne_true)
  · obtain ⟨hfalse, hkernel, hfree, htaken⟩ |
        ⟨htrue, hfound, hkernel, hremembers⟩ :=
      context.capture_cases thread answers
    · left
      dsimp only
      rw [hfalse, if_neg Bool.false_ne_true]
      exact rolledBack_uncaptured hidle hkernel hfree htaken rfl _
    · dsimp only
      rw [htrue, if_pos rfl]
      obtain ⟨scheduling, hacquired⟩ := acquire_effect
        { loop with capturedThreadState := true }
        (context.captureCurrentThreadState thread answers).1 thread answers
        { threadStateCaptured := true
          preemptRt := preemptRtKernel answers }
      exact concluded_acquired hkernel hremembers hfound (hunlocked hfound)
        hacquired hgranted

end PreparedLoop

end Effects

/-! ## Runs -/

namespace RealtimeProcess

variable {ρ τ : Type*}

/-- The loops which hold the captured state. -/
def holding (process : RealtimeProcess ρ τ) (daemon : ρ) : Option Unit :=
  if (process.loops daemon).capturedThreadState then some () else none

/-- Between the calls a loop holds its whole setup or nothing, and at most one
loop of the process holds it.  A thread which is not inside of a prepared `run`
has the scheduling which it had at the start. -/
structure Sound (kernel : Kernel τ) (configs : ρ → RealtimeLoopConfig)
    (process : RealtimeProcess ρ τ) : Prop where
  ledger : Ownership.Ledger
    {_thing : Unit | process.context.system.threadStateCaptured = true}
    process.holding
  whole : ∀ daemon, (process.loops daemon).Idle ∨ (process.loops daemon).Active
  config : ∀ daemon, (process.loops daemon).config = configs daemon
  frames : Ownership.Paired process.cycleOwnerToken process.inside
  outside : ∀ daemon, process.cycleOwnerToken daemon = none →
    (process.loops daemon).Idle
  memory : process.context.kernel.memoryLocked =
    process.context.system.threadStateCaptured
  system : process.context.system.memoryLocked =
    process.context.system.threadStateCaptured
  prepared : ∀ daemon thread, process.inside thread = some daemon →
    (process.loops daemon).Active →
      process.context.kernel.threads thread = (configs daemon).scheduling ∧
        process.context.system.Remembers (kernel.threads thread)
  untouched : ∀ thread,
    (∀ daemon, process.inside thread = some daemon →
      (process.loops daemon).Idle) →
    process.context.kernel.threads thread = kernel.threads thread

variable {kernel : Kernel τ} {configs : ρ → RealtimeLoopConfig}
  {process : RealtimeProcess ρ τ}

theorem sound_start (configs : ρ → RealtimeLoopConfig)
    (hunlocked : kernel.memoryLocked = false) :
    Sound kernel configs (start kernel configs) where
  ledger := by
    have hempty : {_thing : Unit | (start kernel configs
        ).context.system.threadStateCaptured = true} = ∅ := by
      ext thing
      simp [start]
    rw [hempty]
    exact Ownership.Ledger.empty
  whole := fun daemon => Or.inl ⟨rfl, rfl, rfl⟩
  config := fun daemon => rfl
  frames := Ownership.paired_none
  outside := fun daemon _ => ⟨rfl, rfl, rfl⟩
  memory := hunlocked
  system := rfl
  prepared := fun daemon thread hinside => nomatch hinside
  untouched := fun thread _ => rfl

theorem Sound.holding_of_active (h : Sound kernel configs process)
    {daemon : ρ} (hactive : (process.loops daemon).Active) :
    process.context.system.threadStateCaptured = true := by
  have htaken := (h.ledger.recorded ()).mpr
    ⟨daemon, if_pos hactive.captured⟩
  exact htaken

variable [DecidableEq ρ] [DecidableEq τ]

def RestoreGranted : RealtimeCall ρ τ → Prop
  | .enter _ _ answers => answers.restore.Granted
  | .leave _ answers => answers.Granted

omit [DecidableEq τ] in
theorem holding_update (process : RealtimeProcess ρ τ) (daemon : ρ)
    (loop : PreparedLoop) (context : RealtimeContext τ)
    (token : ρ → Option τ) (inside : τ → Option ρ) :
    holding ⟨context, Function.update process.loops daemon loop, token,
      inside⟩ =
      Function.update process.holding daemon
        (if loop.capturedThreadState then some () else none) := by
  funext other
  unfold holding
  rw [Function.update_apply]
  split_ifs with hother hcaptured <;> simp_all

omit [DecidableEq τ] in
theorem Sound.loops_update (h : Sound kernel configs process) (daemon : ρ)
    {loop : PreparedLoop} (hloop : loop.Idle ∨ loop.Active)
    (hconfig : loop.config = (process.loops daemon).config) (other : ρ) :
    ((Function.update process.loops daemon loop other).Idle ∨
      (Function.update process.loops daemon loop other).Active) ∧
    (Function.update process.loops daemon loop other).config =
      configs other := by
  rw [Function.update_apply]
  split_ifs with hother
  · rw [hother]
    exact ⟨hloop, hconfig.trans (h.config daemon)⟩
  · exact ⟨h.whole other, h.config other⟩

/-- A `run` whose setup was rolled back changes nothing but its frame. -/
theorem Sound.enter_rolledBack (h : Sound kernel configs process)
    {daemon : ρ} {thread : τ} (htoken : process.cycleOwnerToken daemon = none)
    (hinside : process.inside thread = none)
    {prepared : PreparedLoop × RealtimeContext τ ×
      Except Error RealtimeSetupStatus}
    (hrolled : (process.loops daemon).RolledBack process.context prepared) :
    Sound kernel configs
      ⟨prepared.2.1, Function.update process.loops daemon prepared.1,
        Function.update process.cycleOwnerToken daemon (some thread),
        Function.update process.inside thread (some daemon)⟩ := by
  have hidle := h.outside daemon htoken
  have hloops := h.loops_update daemon (Or.inl hrolled.idle) hrolled.config
  have hsystem : prepared.2.1.system.threadStateCaptured =
        process.context.system.threadStateCaptured ∧
      prepared.2.1.system.memoryLocked =
        process.context.system.memoryLocked := by
    cases hcaptured : process.context.system.threadStateCaptured with
    | true =>
        rw [hrolled.taken hcaptured]
        exact ⟨hcaptured, rfl⟩
    | false =>
        have hmemory := h.system.trans hcaptured
        have hfree := hrolled.free ⟨hcaptured, hmemory⟩
        exact ⟨hfree.captured, hfree.memory.trans hmemory.symm⟩
  have hholding : holding ⟨prepared.2.1,
      Function.update process.loops daemon prepared.1,
      Function.update process.cycleOwnerToken daemon (some thread),
      Function.update process.inside thread (some daemon)⟩ =
        process.holding := by
    have hnone : process.holding daemon = none :=
      if_neg (by rw [hidle.captured]; exact Bool.false_ne_true)
    rw [holding_update, hrolled.idle.captured, if_neg Bool.false_ne_true,
      ← hnone, Function.update_eq_self]
  constructor
  · rw [hholding, hsystem.1]
    exact h.ledger
  · exact fun other => (hloops other).1
  · exact fun other => (hloops other).2
  · exact h.frames.claim htoken hinside
  · intro other hother
    dsimp only at hother ⊢
    rw [Function.update_apply] at hother
    split_ifs at hother with hsame
    rw [Function.update_of_ne hsame]
    exact h.outside other hother
  · rw [hrolled.kernel, hsystem.1]
    exact h.memory
  · rw [hsystem.1, hsystem.2]
    exact h.system
  · intro other found hfound hactive
    dsimp only at hfound hactive ⊢
    have hne : other ≠ daemon := by
      rintro rfl
      rw [Function.update_self] at hactive
      exact hrolled.idle.not_active hactive
    rw [Function.update_of_ne hne] at hactive
    have hthread : found ≠ thread := by
      rintro rfl
      rw [Function.update_self] at hfound
      exact hne (Option.some.inj hfound).symm
    rw [Function.update_of_ne hthread] at hfound
    rw [hrolled.kernel, hrolled.taken (h.holding_of_active hactive)]
    exact h.prepared other found hfound hactive
  · intro found hfound
    rw [hrolled.kernel]
    apply h.untouched
    intro other hother
    by_cases hne : other = daemon
    · rw [hne]
      exact hidle
    · have hthread : found ≠ thread := by
        rintro rfl
        exact nomatch hinside.symm.trans hother
      have hkept := hfound other
        ((Function.update_of_ne hthread ..).trans hother)
      dsimp only at hkept
      rw [Function.update_of_ne hne] at hkept
      exact hkept

/-- A granted setup is the only one of the process. -/
theorem Sound.enter_granted (h : Sound kernel configs process)
    {daemon : ρ} {thread : τ} (htoken : process.cycleOwnerToken daemon = none)
    (hinside : process.inside thread = none)
    {prepared : PreparedLoop × RealtimeContext τ ×
      Except Error RealtimeSetupStatus}
    (hgranted : (process.loops daemon).Granted process.context thread
      prepared) :
    Sound kernel configs
      ⟨prepared.2.1, Function.update process.loops daemon prepared.1,
        Function.update process.cycleOwnerToken daemon (some thread),
        Function.update process.inside thread (some daemon)⟩ := by
  have hidle := h.outside daemon htoken
  have hloops := h.loops_update daemon (Or.inr hgranted.active)
    hgranted.config
  have hothers : ∀ other, (process.loops other).Idle := by
    intro other
    apply (h.whole other).resolve_right
    intro hactive
    exact Bool.false_ne_true
      (hgranted.found.symm.trans (h.holding_of_active hactive))
  have hbefore : process.context.kernel.threads thread =
      kernel.threads thread := by
    apply h.untouched
    intro other hother
    exact hothers other
  constructor
  · have hnone : process.holding daemon = none :=
      if_neg (by rw [hidle.captured]; exact Bool.false_ne_true)
    have hclaimed := h.ledger.claim () hnone
      (by rw [hgranted.found]; exact Bool.false_ne_true)
    rw [holding_update, hgranted.active.captured, if_pos rfl]
    convert hclaimed using 1
    ext thing
    simp [hgranted.remembers.captured]
  · exact fun other => (hloops other).1
  · exact fun other => (hloops other).2
  · exact h.frames.claim htoken hinside
  · intro other hother
    dsimp only at hother ⊢
    rw [Function.update_apply] at hother
    split_ifs at hother with hsame
    rw [Function.update_of_ne hsame]
    exact h.outside other hother
  · rw [hgranted.kernel, hgranted.remembers.captured]
  · rw [hgranted.locked, hgranted.remembers.captured]
  · intro other found hfound hactive
    dsimp only at hfound hactive ⊢
    have hsame : other = daemon := by
      by_contra hne
      rw [Function.update_of_ne hne] at hactive
      exact (hothers other).not_active hactive
    subst hsame
    have hthread : found = thread := by
      by_contra hne
      rw [Function.update_of_ne hne] at hfound
      exact nomatch htoken.symm.trans ((h.frames other found).mpr hfound)
    subst hthread
    rw [hgranted.kernel]
    refine ⟨?_, ?_⟩
    · rw [← h.config other]
      exact Kernel.threads_setThread_self ..
    · rw [← hbefore]
      exact hgranted.remembers
  · intro found hfound
    have hne : found ≠ thread := by
      rintro rfl
      have hkept := hfound daemon (Function.update_self ..)
      dsimp only at hkept
      rw [Function.update_self] at hkept
      exact hkept.not_active hgranted.active
    rw [hgranted.kernel]
    have hthreads := process.context.kernel.threads_setThread_of_ne hne
      (process.loops daemon).config.scheduling
    refine hthreads.trans ?_
    apply h.untouched
    intro other hother
    exact hothers other

theorem Sound.enter (h : Sound kernel configs process) (daemon : ρ)
    (thread : τ) {answers : SetupAnswers}
    (hgranted : answers.restore.Granted) :
    Sound kernel configs (process.enter daemon thread answers).1 := by
  unfold RealtimeProcess.enter
  split_ifs with hfree
  · obtain ⟨htoken, hinside⟩ := hfree
    have hunlocked : process.context.system.threadStateCaptured = false →
        process.context.kernel.memoryLocked = false := by
      rw [h.memory]
      exact id
    rcases PreparedLoop.prepare_cases thread
        (h.outside daemon htoken) hunlocked hgranted with
      hrolled | hprepared
    · exact h.enter_rolledBack htoken hinside hrolled
    · exact h.enter_granted htoken hinside hprepared
  · exact h

/-- The end of a `run` which holds nothing. -/
theorem Sound.leave_idle (h : Sound kernel configs process) {daemon : ρ}
    {thread : τ} (hinside : process.inside thread = some daemon)
    (hidle : (process.loops daemon).Idle) :
    Sound kernel configs
      { process with
        cycleOwnerToken :=
          Function.update process.cycleOwnerToken daemon none
        inside := Function.update process.inside thread none } := by
  have htoken := (h.frames daemon thread).mpr hinside
  refine ⟨h.ledger, h.whole, h.config, h.frames.release htoken, ?_, h.memory,
    h.system, ?_, ?_⟩
  · intro other hother
    dsimp only at hother ⊢
    rw [Function.update_apply] at hother
    split_ifs at hother with hsame
    · rw [hsame]
      exact hidle
    · exact h.outside other hother
  · intro other found hfound hactive
    dsimp only at hfound hactive ⊢
    rw [Function.update_apply] at hfound
    split_ifs at hfound
    exact h.prepared other found hfound hactive
  · intro found hfound
    apply h.untouched
    intro other hother
    by_cases hne : found = thread
    · rw [hne] at hother
      rw [← Option.some.inj (hinside.symm.trans hother)]
      exact hidle
    · exact hfound other ((Function.update_of_ne hne ..).trans hother)

/-- The end of a prepared `run` gives the thread its scheduling back. -/
theorem Sound.leave_active (h : Sound kernel configs process) {daemon : ρ}
    {thread : τ} (hinside : process.inside thread = some daemon)
    (hactive : (process.loops daemon).Active)
    {released : PreparedLoop × RealtimeContext τ} (hidle : released.1.Idle)
    (hconfig : released.1.config = (process.loops daemon).config)
    (hfree : released.2.system.Free)
    (hkernel : released.2.kernel =
      { process.context.kernel.setThread thread (kernel.threads thread) with
        memoryLocked := false }) :
    Sound kernel configs
      ⟨released.2, Function.update process.loops daemon released.1,
        Function.update process.cycleOwnerToken daemon none,
        Function.update process.inside thread none⟩ := by
  have htoken := (h.frames daemon thread).mpr hinside
  have hheld : process.holding daemon = some () := if_pos hactive.captured
  have hothers : ∀ other, other ≠ daemon →
      (process.loops other).Idle := by
    intro other hne
    apply (h.whole other).resolve_right
    intro hother
    exact hne (h.ledger.exclusive other daemon () (if_pos hother.captured)
      hheld)
  have hloops := h.loops_update daemon (Or.inl hidle) hconfig
  have hafter : ∀ other,
      (Function.update process.loops daemon released.1 other).Idle := by
    intro other
    rw [Function.update_apply]
    split_ifs with hsame
    · exact hidle
    · exact hothers other hsame
  constructor
  · rw [holding_update, hidle.captured, if_neg Bool.false_ne_true]
    convert h.ledger.release hheld using 1
    ext thing
    simp [hfree.captured]
  · exact fun other => (hloops other).1
  · exact fun other => (hloops other).2
  · exact h.frames.release htoken
  · exact fun other _ => hafter other
  · rw [hkernel, hfree.captured]
  · rw [hfree.memory, hfree.captured]
  · intro other found _ hother
    exact absurd hother (hafter other).not_active
  · intro found _
    rw [hkernel]
    by_cases hne : found = thread
    · rw [hne]
      exact Kernel.threads_setThread_self ..
    · have hthreads := process.context.kernel.threads_setThread_of_ne hne
        (kernel.threads thread)
      refine hthreads.trans ?_
      apply h.untouched
      intro other hother
      apply hothers other
      rintro rfl
      exact hne (Option.some.inj
        (((h.frames other found).mpr hother).symm.trans htoken))

theorem Sound.leave (h : Sound kernel configs process) (thread : τ)
    {answers : RestoreAnswers} (hgranted : answers.Granted) :
    Sound kernel configs (process.leave thread answers).1 := by
  unfold RealtimeProcess.leave
  cases hinside : process.inside thread with
  | none => exact h
  | some daemon =>
      dsimp only
      rcases h.whole daemon with hidle | hactive
      · rw [PreparedLoop.release_idle hidle, Function.update_eq_self]
        exact h.leave_idle hinside hidle
      · have hsystem := (h.prepared daemon thread hinside hactive).2
        have hmemory : process.context.system.memoryLocked =
            (process.loops daemon).lockedMemory := by
          rw [h.system, h.holding_of_active hactive, hactive.memory]
        obtain ⟨hidle, hconfig, hfree, hkernel⟩ :=
          PreparedLoop.release_of_remembers _ thread hactive.captured hsystem
            hmemory hgranted
        rw [hactive.memory] at hkernel
        exact h.leave_active hinside hactive hidle hconfig hfree hkernel

theorem Sound.final (h : Sound kernel configs process)
    {calls : List (RealtimeCall ρ τ)}
    (hgranted : ∀ call ∈ calls, RestoreGranted call) :
    Sound kernel configs (machine.final process calls) := by
  induction calls generalizing process with
  | nil => exact h
  | cons call rest ih =>
      rw [List.forall_mem_cons] at hgranted
      refine ih ?_ hgranted.2
      cases call with
      | enter daemon thread answers => exact h.enter daemon thread hgranted.1
      | leave thread answers => exact h.leave thread hgranted.1

/-- The answer of a `run` to its setup. -/
def Answered (daemon : ρ) (result : Except Error RealtimeSetupStatus)
    (before after : RealtimeProcess ρ τ) : Prop :=
  (∃ status, result = .ok status ∧ status.realtimeGuarantee = true ∧
    (after.loops daemon).Active) ∨
  ((∀ status, result = .ok status → status.realtimeGuarantee = false) ∧
    after.context.kernel = before.context.kernel)

theorem Sound.answered (h : Sound kernel configs process) (daemon : ρ)
    (thread : τ) {answers : SetupAnswers}
    (hgranted : answers.restore.Granted)
    {result : Except Error RealtimeSetupStatus}
    (hresult : (process.enter daemon thread answers).2 = .prepared result) :
    Answered daemon result process
      (process.enter daemon thread answers).1 := by
  unfold RealtimeProcess.enter at hresult ⊢
  split_ifs at hresult ⊢ with hfree
  obtain ⟨htoken, -⟩ := hfree
  have hunlocked : process.context.system.threadStateCaptured = false →
      process.context.kernel.memoryLocked = false := by
    rw [h.memory]
    exact id
  injection hresult with hresult
  rcases PreparedLoop.prepare_cases thread
      (h.outside daemon htoken) hunlocked hgranted with
    hrolled | hprepared
  · rw [← hresult]
    exact Or.inr ⟨hrolled.status, hrolled.kernel⟩
  · obtain ⟨status, hstatus, hguarantee⟩ := hprepared.status
    refine Or.inl ⟨status, hresult.symm.trans hstatus, hguarantee, ?_⟩
    dsimp only
    rw [Function.update_self]
    exact hprepared.active

end RealtimeProcess

end PolicyRuntime
