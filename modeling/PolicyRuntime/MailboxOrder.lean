import PolicyRuntime.MailboxSteps

/-!
# The order of a mailbox

The owner is inside only while the master admits cycles or waits for them.
With the locks and the generations this is all that the steps of a mailbox say
about each other, and it fixes in which order a request is staged, progressed
and closed.
-/

namespace PolicyRuntime

namespace MailboxSystem

variable {σ κ ρ : Type}

/-! ## Threads -/

/-- While the owner is inside, the master waits for it. -/
def Hosted (system : MailboxSystem σ ρ) : Prop :=
  system.owner ≠ .outside →
    system.master.hosts system.admissionOpen = true

structure Sound (system : MailboxSystem σ ρ) : Prop where
  locked : Locked system.clients system.lifecycle system.requestsMutex
  era : system.EraKept
  hosted : system.Hosted

theorem sound_constructed (backend : σ) :
    (constructed backend : MailboxSystem σ ρ).Sound where
  locked := locked_constructed backend
  era := eraOk_constructed
  hosted := fun hinside => absurd rfl hinside

theorem hosted_masterStep (calls : SdoBackend σ κ) (succeeds : Bool)
    (answer : κ) {system : MailboxSystem σ ρ} (h : system.Hosted) :
    (system.masterStep calls succeeds answer).1.Hosted := by
  have hframe := masterFrame calls succeeds answer system
  unfold Hosted at h ⊢
  rw [hframe.owner]
  intro hinside
  have hhosts := h hinside
  clear h hframe
  unfold masterStep
  cases hphase : system.master with
  | idle =>
      rw [hphase] at hhosts
      dsimp only
      rw [hphase]
      exact hhosts
  | openCalled =>
      rw [hphase] at hhosts
      dsimp only
      split
      · exact hhosts
      · next hclosed => exact absurd hhosts hclosed
  | closeCalled =>
      rw [hphase] at hhosts
      dsimp only
      split
      · rfl
      · next hclosed => exact absurd hhosts hclosed
  | unpublishing => rfl
  | closing generation rollback =>
      rw [hphase] at hhosts
      dsimp only
      unfold callMailbox
      split
      · exact hhosts
      · rw [hphase]
        exact hhosts
  | closed generation rollback =>
      have hrollback : rollback = false := by
        rw [hphase] at hhosts
        exact Bool.not_eq_true' rollback ▸ hhosts
      dsimp only
      unfold takeReturn
      split
      · rw [hrollback]
        rfl
      · rw [hphase, hrollback]
        rfl
  | waiting =>
      dsimp only
      split
      · next houtside => exact absurd houtside hinside
      · rw [hphase]
        rfl
  | _ =>
      rw [hphase] at hhosts
      exact absurd hhosts Bool.false_ne_true

theorem sound_ownerStep (calls : SdoBackend σ κ)
    (slave : EthercatSlaveAddress) (answer : κ)
    {system : MailboxSystem σ ρ} (h : system.Sound)
    (hinside : system.owner ≠ .outside) :
    (system.ownerStep calls slave answer).1.Sound := by
  have hframe := ownerFrame calls slave answer system
  constructor
  · rw [hframe.clients, hframe.lifecycle, hframe.requestsMutex]
    exact h.locked
  · unfold EraKept
    rw [hframe.openGeneration, hframe.activeGeneration, hframe.generation,
      hframe.admissionOpen, hframe.lifecycle, hframe.master]
    exact h.era
  · intro _
    rw [hframe.master, hframe.admissionOpen]
    exact h.hosted hinside

theorem sound_masterStep (calls : SdoBackend σ κ) (succeeds : Bool)
    (answer : κ) {system : MailboxSystem σ ρ} (h : system.Sound) :
    (system.masterStep calls succeeds answer).1.Sound where
  locked := h.locked.masterStep calls succeeds answer
  era := eraKept_masterStep calls succeeds answer h.era
  hosted := hosted_masterStep calls succeeds answer h.hosted

theorem sound_lifecycleStep (spurious : Bool) {system : MailboxSystem σ ρ}
    (h : system.Sound) : (system.lifecycleStep spurious).1.Sound where
  locked := h.locked.lifecycleStep spurious
  era := eraKept_lifecycleStep spurious h.era
  hosted := by
    have hframe := lifecycleFrame spurious system
    unfold Hosted
    rw [hframe.owner, hframe.master, hframe.admissionOpen]
    exact h.hosted

theorem sound_callLifecycle {system : MailboxSystem σ ρ} (h : system.Sound)
    {phase : LifecyclePhase} (hphase : phase = .openCalled ∨
      phase = .closeCalled) : (system.callLifecycle phase).Sound := by
  have hholds : phase.holds = false := by
    rcases hphase with heq | heq
    all_goals
      rw [heq]
      rfl
  have hclient : phase.byParent = false := by
    rcases hphase with heq | heq
    all_goals
      rw [heq]
      rfl
  unfold callLifecycle
  split
  · next hfree =>
      have hera := h.era
      unfold EraKept at hera
      rw [hfree] at hera
      constructor
      · apply h.locked.of_lifecycle
        rw [hfree]
        exact hholds
      · apply hera.of_client rfl hclient hera.open_era
        rcases hphase with heq | heq
        all_goals
          rw [heq]
          trivial
      · exact h.hosted
  · exact h

theorem sound_callMaster {system : MailboxSystem σ ρ} (h : system.Sound)
    {phase : MasterPhase} (hphase : phase = .openCalled ∨
      phase = .closeCalled) : (system.callMaster phase).Sound := by
  have hera := h.era
  unfold EraKept at hera
  unfold callMaster
  split
  · next hidle =>
      have hosted := h.hosted
      unfold Hosted at hosted
      rw [hidle] at hera hosted
      rcases hphase with heq | heq
      · rw [heq]
        refine ⟨h.locked, ?_, hosted⟩
        exact hera.of_master hera.master_ok rfl hera.active_era
          (fun _ => Or.inr (Or.inl rfl)) hera.master_ok
      · rw [heq]
        refine ⟨h.locked, ?_, hosted⟩
        exact hera.of_master hera.master_ok rfl hera.active_era
          (fun _ => Or.inr (Or.inr rfl)) hera.master_ok
  · exact h

section Machine

variable [DecidableEq ρ]

theorem sound_clientStep {system : MailboxSystem σ ρ} (h : system.Sound)
    (client : ρ) : (system.clientStep client).1.Sound := by
  have hframe := clientFrame system client
  constructor
  · exact h.locked.clientStep client
  · unfold EraKept
    rw [hframe.openGeneration, hframe.activeGeneration, hframe.generation,
      hframe.admissionOpen, hframe.lifecycle, hframe.master]
    exact h.era
  · unfold Hosted
    rw [hframe.owner, hframe.master, hframe.admissionOpen]
    exact h.hosted

theorem sound_callClient {system : MailboxSystem σ ρ} (h : system.Sound)
    (client : ρ) {phase : ClientPhase} (hholds : phase.holds = false) :
    (system.callClient client phase).Sound := by
  unfold callClient
  split
  · next hidle =>
      refine ⟨?_, h.era, h.hosted⟩
      apply h.locked.of_client
      rw [hidle]
      exact hholds
  · exact h

theorem sound_step (calls : SdoBackend σ κ) (slave : EthercatSlaveAddress)
    {system : MailboxSystem σ ρ} (h : system.Sound)
    (input : MailboxInput κ ρ) : (system.step calls slave input).1.Sound := by
  have hmove : ∀ phase, (phase ≠ .outside →
      system.master.hosts system.admissionOpen = true) →
      (system.setOwner phase).Sound :=
    fun phase hhosted => ⟨h.locked, h.era, hhosted⟩
  cases input with
  | enqueue client arguments => exact sound_callClient h client rfl
  | cycle client => exact sound_callClient h client rfl
  | status client request => exact sound_callClient h client rfl
  | client client => exact sound_clientStep h client
  | openMailbox => exact sound_callLifecycle h (Or.inl rfl)
  | closeMailbox => exact sound_callLifecycle h (Or.inr rfl)
  | lifecycle spurious => exact sound_lifecycleStep spurious h
  | openMaster => exact sound_callMaster h (Or.inl rfl)
  | closeMaster => exact sound_callMaster h (Or.inr rfl)
  | master succeeds answer => exact sound_masterStep calls succeeds answer h
  | ownerCycle =>
      unfold step
      dsimp only
      split
      · split
        · next hopen =>
            apply hmove
            intro _
            rcases h.era.admission_phase hopen with heq | heq | heq
            all_goals
              rw [heq]
              exact hopen
        · exact h
      · exact h
  | ownerReach reaches =>
      unfold step
      dsimp only
      split
      · next howner =>
          split
          · apply hmove
            intro _
            apply h.hosted
            rw [howner]
            intro heq
            cases heq
          · exact hmove _ fun hinside => absurd rfl hinside
      · exact hmove _ fun hinside => absurd rfl hinside
      · exact h
  | ownerOther other answer transfer =>
      unfold step
      dsimp only
      split
      · exact ⟨h.locked, h.era, h.hosted⟩
      · exact h
  | owner answer =>
      by_cases houtside : system.owner = .outside
      · unfold step ownerStep
        dsimp only
        rw [houtside]
        exact h
      · exact sound_ownerStep calls slave answer h houtside

end Machine

end MailboxSystem

/-! ## Requests in order -/

/-- The phases which closing a mailbox ends. -/
def RequestPhase.live : RequestPhase → Bool
  | .queued => true
  | .staged => true
  | .active => true
  | .terminalizing => true
  | _ => false

/-- The phases between staging a request and its result. -/
def RequestPhase.placed : RequestPhase → Bool
  | .staged => true
  | .active => true
  | _ => false

/-- The phases which no request leaves for an earlier one. -/
def RequestPhase.ended : RequestPhase → Bool
  | .terminalizing => true
  | .completed => true
  | .failed => true
  | _ => false

/-- Whether `close_generation` waits for `requests_mutex_`. -/
def LifecyclePhase.awaits : LifecyclePhase → Bool
  | .closing _ _ => true
  | _ => false

/-- The live request which `fail_request` has found. -/
def LifecyclePhase.tried : LifecyclePhase → Option ℕ
  | .failing _ _ request (.trying _) => some request
  | .failing _ _ request .claimed => some request
  | _ => none

namespace MailboxView

variable {ρ : Type}

/-- What the threads say about each other. -/
structure Steady (view : MailboxView ρ) : Prop where
  unique : ∀ client other, (view.clients client).holds = true →
    (view.clients other).holds = true → client = other
  exclusive : ∀ client, (view.clients client).holds = true →
    view.lifecycle.holds = false
  closed : view.lifecycle.closes = true → view.opened = 0
  cancelling : ∀ generation, view.lifecycle = .cancelling generation →
    view.opened = 0
  opening : ∀ generation byParent,
    view.lifecycle = .opening generation [] byParent → view.opened = 0
  clearing : ∀ generation, view.lifecycle = .parentClearing generation →
    view.opened = generation
  resetting : ∀ stage, view.lifecycle = .resetting stage →
    view.opened = 0 ∧ view.owner = .outside

/-- A generation which a holder of `requests_mutex_` has seen open. -/
def Seen (view : MailboxView ρ) (generation : ℕ) : Prop :=
  view.opened = generation ∨
    ∃ requestCancel, view.lifecycle = .closing generation requestCancel

/-- A live request waits for a generation which is open or being closed. -/
def Guarded (view : MailboxView ρ) (request generation : ℕ) : Prop :=
  view.Seen generation ∨ ∃ requestCancel reached phase,
    view.lifecycle = .failing generation requestCancel reached phase ∧
      reached ≤ request

def Live (view : MailboxView ρ) (request : ℕ) : Prop :=
  ∃ phase, view.phases request = some phase ∧ phase.live = true

def Placed (view : MailboxView ρ) (request : ℕ) : Prop :=
  ∃ phase, view.phases request = some phase ∧ phase.placed = true

def Ended (view : MailboxView ρ) (request : ℕ) : Prop :=
  ∃ phase, view.phases request = some phase ∧ phase.ended = true

def ClientOk (view : MailboxView ρ) : ClientPhase → Prop
  | .enqueueOpened _ generation => generation ≠ 0
  | .enqueueReady _ generation => generation ≠ 0
  | .enqueueLocked _ generation => generation ≠ 0
  | .enqueueChecked _ generation => generation ≠ 0 ∧ view.Seen generation
  | .stageOpened _ => ∃ generation, generation ≠ 0 ∧ view.Seen generation
  | .stageCurrent _ => ∃ generation, generation ≠ 0 ∧ view.Seen generation
  | .stageSearching _ _ => view.staged = none ∧
      ∃ generation, generation ≠ 0 ∧ view.Seen generation
  | .stageFound _ => view.staged = none ∧
      ∃ generation, generation ≠ 0 ∧ view.Seen generation
  | .stagePublishing _ => view.staged = none ∧
      ∃ generation, generation ≠ 0 ∧ view.Seen generation
  | .stageReverting _ => False
  | .statusTerminalizing request => view.Ended request ∧
      ∃ generation, view.generations request = some generation ∧
        generation ≠ 0 ∧ view.Seen generation
  | _ => True

def OwnerOk (view : MailboxView ρ) : MailboxOwnerPhase → Prop
  | .cancelling => view.cancel ≠ 0
  | .cancelled => view.cancel ≠ 0
  | .unstaged => view.cancel ≠ 0
  | .loaded _ request => view.staged = some request
  | .current parent request => view.staged = some request ∧
      view.generations request = some parent
  | .opened parent request => view.staged = some request ∧
      view.generations request = some parent
  | .claiming parent request => view.staged = some request ∧
      view.generations request = some parent
  | .progressing parent request => view.staged = some request ∧
      view.generations request = some parent
  | .progressed parent request _ => view.staged = some request ∧
      view.generations request = some parent
  | .terminalizing parent request _ => view.staged = some request ∧
      view.generations request = some parent ∧
      view.phases request = some .terminalizing
  | .deciding parent request _ => view.staged = some request ∧
      view.generations request = some parent ∧
      view.phases request = some .terminalizing
  | .storing request _ _ => view.staged = some request ∧
      view.phases request = some .terminalizing
  | .clearing request => view.staged = some request ∧ view.Ended request
  | _ => True

def FailOk (view : MailboxView ρ) (generation request : ℕ) :
    FailPhase → Prop
  | .start => True
  | .trying seen => view.generations request = some generation ∧
      (seen = .failed → view.phases request = some .failed)
  | .claimed => view.phases request = some .terminalizing

def CloserOk (view : MailboxView ρ) : LifecyclePhase → Prop
  | .opening _ checks _ => .uncancelled ∉ checks → view.cancel = 0
  | .closing generation requestCancel =>
      requestCancel = true → generation ≠ 0
  | .failing generation requestCancel request phase =>
      (requestCancel = true → generation ≠ 0) ∧
        view.FailOk generation request phase
  | .cancelling generation => generation ≠ 0
  | _ => True

/-- A pending cancellation keeps the mailbox closed and empty. -/
structure CancelOk (view : MailboxView ρ) : Prop where
  closed : view.opened = 0
  empty : ∀ request, ¬ view.Live request
  unseen : ∀ client, (view.clients client).seen = false
  rests : view.lifecycle.tried = none

structure Orderly (view : MailboxView ρ) : Prop where
  numbered : ∀ request generation,
    view.generations request = some generation → generation ≠ 0
  live : ∀ request, view.Live request →
    ∃ generation, view.generations request = some generation ∧
      view.Guarded request generation
  clients : ∀ client, view.ClientOk (view.clients client)
  owner : view.OwnerOk view.owner
  closer : view.CloserOk view.lifecycle
  exclusive : ∀ request, view.owner.claim = some request →
    view.lifecycle.claim ≠ some request
  cancel : view.cancel ≠ 0 → view.CancelOk
  placed : ∀ request, view.Placed request →
    view.staged = some request ∨
      ∃ client, (view.clients client).publishing = some request

end MailboxView

namespace MailboxSystem

variable {σ ρ : Type}

theorem Sound.steady {system : MailboxSystem σ ρ} (h : system.Sound) :
    system.view.Steady := by
  have hera := h.era
  unfold EraKept at hera
  have hok := hera.lifecycle_ok
  constructor
  · exact fun client other => h.locked.unique
  · exact fun client => h.locked.exclusive
  · intro hcloses
    change system.lifecycle.closes = true at hcloses
    cases hphase : system.lifecycle with
    | closing generation requestCancel =>
        rw [hphase] at hok
        exact hok
    | failing generation requestCancel request phase =>
        rw [hphase] at hok
        exact hok
    | _ =>
        rw [hphase] at hcloses
        exact absurd hcloses Bool.false_ne_true
  · intro generation hphase
    rw [show system.lifecycle = _ from hphase] at hok
    exact hok
  · intro generation byParent hphase
    rw [show system.lifecycle = _ from hphase] at hok
    exact hok.2.2 List.not_mem_nil
  · intro generation hphase
    rw [show system.lifecycle = _ from hphase] at hok
    exact hok
  · intro stage hphase
    have hmaster := hera.master_ok
    rw [show system.lifecycle = _ from hphase] at hmaster
    obtain ⟨rollback, hreset⟩ := hmaster.eq_reset
    constructor
    · by_contra hne
      have hopen := hera.open_era hne
      rw [hreset] at hopen
      cases hopen
    · by_contra hinside
      have hhosts := h.hosted hinside
      rw [hreset] at hhosts
      exact Bool.false_ne_true hhosts

end MailboxSystem

/-! ## Changes of a phase -/

namespace MailboxView

variable {ρ : Type}

section SetPhase

variable {view : MailboxView ρ} {request other : ℕ}
  {phase old new : RequestPhase}

theorem setPhase_self (view : MailboxView ρ) (request : ℕ)
    (phase : RequestPhase) :
    (view.setPhase request phase).phases request = some phase :=
  Function.update_self _ _ _

theorem setPhase_of_ne (hne : other ≠ request) :
    (view.setPhase request phase).phases other = view.phases other :=
  Function.update_of_ne hne _ _

/-- A request is where it was, or it is the one which has moved. -/
theorem setPhase_cases
    (h : (view.setPhase request new).phases other = some phase) :
    view.phases other = some phase ∨ other = request ∧ phase = new := by
  by_cases heq : other = request
  · rw [heq, setPhase_self] at h
    exact Or.inr ⟨heq, (Option.some.inj h).symm⟩
  · rw [setPhase_of_ne heq] at h
    exact Or.inl h

theorem setPhase_keeps (hold : view.phases request = some old)
    (hne : phase ≠ old) (h : view.phases other = some phase) :
    (view.setPhase request new).phases other = some phase := by
  rw [setPhase_of_ne]
  · exact h
  · intro heq
    rw [heq, hold] at h
    exact hne (Option.some.inj h).symm

theorem live_of_setPhase (hold : view.phases request = some old)
    (hlive : new.live = true → old.live = true)
    (h : (view.setPhase request new).Live other) : view.Live other := by
  obtain ⟨phase, hphase, htrue⟩ := h
  rcases setPhase_cases hphase with hsame | ⟨heq, hnew⟩
  · exact ⟨phase, hsame, htrue⟩
  · rw [heq]
    rw [hnew] at htrue
    exact ⟨old, hold, hlive htrue⟩

theorem not_live (hphase : view.phases request = some phase)
    (hdead : phase.live = false) : ¬ view.Live request := by
  rintro ⟨now, hnow, htrue⟩
  rw [hphase] at hnow
  rw [← Option.some.inj hnow, hdead] at htrue
  exact Bool.false_ne_true htrue

theorem placed_of_setPhase (hold : view.phases request = some old)
    (hplaced : new.placed = true → old.placed = true)
    (h : (view.setPhase request new).Placed other) : view.Placed other := by
  obtain ⟨phase, hphase, htrue⟩ := h
  rcases setPhase_cases hphase with hsame | ⟨heq, hnew⟩
  · exact ⟨phase, hsame, htrue⟩
  · rw [heq]
    rw [hnew] at htrue
    exact ⟨old, hold, hplaced htrue⟩

theorem ended_setPhase
    (hended : ∀ phase, view.phases request = some phase →
      phase.ended = true → new.ended = true)
    (h : view.Ended other) : (view.setPhase request new).Ended other := by
  obtain ⟨phase, hphase, htrue⟩ := h
  by_cases heq : other = request
  · rw [heq] at hphase ⊢
    exact ⟨new, setPhase_self view request new, hended phase hphase htrue⟩
  · exact ⟨phase, (setPhase_of_ne heq).trans hphase, htrue⟩

end SetPhase

/-! ## Steps -/

section Steps

variable [DecidableEq ρ] {view next : MailboxView ρ}

theorem generations_step (h : view.Orderly) (hstep : view.Step next)
    {request generation : ℕ}
    (hsame : view.generations request = some generation) :
    next.generations request = some generation := by
  cases hstep with
  | owner hstep => cases hstep <;> exact hsame
  | lifecycle hstep => cases hstep <;> exact hsame
  | @client client next hstep =>
      cases hstep with
      | @enqueue arguments now added hclient hnew hfresh completes
          hcompletes =>
          refine (Function.update_of_ne ?_ _ _).trans hsame
          intro heq
          rw [heq, hfresh] at hsame
          cases hsame
      | revert hclient =>
          have hfalse := h.clients client
          rw [hclient] at hfalse
          exact hfalse.elim
      | _ => exact hsame

/-- No request goes back once its result is being written. -/
theorem ended_step (h : view.Orderly) (hstep : view.Step next)
    {request : ℕ} (hended : view.Ended request) : next.Ended request := by
  cases hstep with
  | owner hstep =>
      cases hstep with
      | claim howner hphase =>
          apply ended_setPhase _ hended
          intro phase hsame
          rw [hphase] at hsame
          cases hsame
          exact id
      | take howner hphase => exact ended_setPhase (fun _ _ _ => rfl) hended
      | finish howner hknown =>
          apply ended_setPhase _ hended
          intro _ _ _
          split <;> rfl
      | _ => exact hended
  | lifecycle hstep =>
      cases hstep with
      | takes => exact ended_setPhase (fun _ _ _ => rfl) hended
      | fails => exact ended_setPhase (fun _ _ _ => rfl) hended
      | _ => exact hended
  | @client client next hstep =>
      cases hstep with
      | enqueue hclient hnew =>
          apply ended_setPhase _ hended
          intro phase hsame
          rw [hnew] at hsame
          cases hsame
      | stage hclient hphase =>
          apply ended_setPhase _ hended
          intro phase hsame
          rw [hphase] at hsame
          cases hsame
          exact id
      | revert hclient =>
          have hfalse := h.clients client
          rw [hclient] at hfalse
          exact hfalse.elim
      | _ => exact hended

omit [DecidableEq ρ] in
theorem Seen.opened {generation : ℕ} (hseen : view.Seen generation)
    (hphase : view.lifecycle.awaits = false) : view.opened = generation := by
  rcases hseen with hopen | ⟨requestCancel, hclosing⟩
  · exact hopen
  · rw [hclosing] at hphase
    exact absurd hphase Bool.false_ne_true.symm

omit [DecidableEq ρ] in
/-- Closing a generation waits for the clients which have seen it open. -/
theorem seen_lifecycleStep (hsteady : view.Steady)
    (hstep : view.LifecycleStep next) {client : ρ}
    (hholds : (view.clients client).holds = true) {generation : ℕ}
    (hne : generation ≠ 0) (hseen : view.Seen generation) :
    next.Seen generation := by
  have hopened : ∀ {phase : LifecyclePhase}, view.lifecycle = phase →
      phase.awaits = false → view.opened = generation := by
    intro phase hphase hawaits
    apply hseen.opened
    rw [hphase]
    exact hawaits
  cases hstep with
  | stay => exact hseen
  | move hnext =>
      cases hnext with
      | plain hplain hkeeps =>
          refine Or.inl (hopened rfl ?_)
          cases hphase : view.lifecycle with
          | closing other requestCancel =>
              rw [hphase] at hkeeps
              exact absurd hkeeps Bool.false_ne_true.symm
          | _ => rfl
      | passed hphase => exact Or.inl (hopened hphase rfl)
      | closing hphase => exact Or.inl (hopened hphase rfl)
      | skip hphase => exact Or.inl (hopened hphase rfl)
      | loads hphase => exact Or.inl (hopened hphase rfl)
  | opens hphase =>
      have hopen := hopened hphase rfl
      rw [hsteady.opening _ _ hphase] at hopen
      exact absurd hopen.symm hne
  | closes hphase =>
      have hopen := hopened hphase rfl
      refine Or.inr ⟨true, ?_⟩
      rw [← hopen]
      rfl
  | clears hphase =>
      have hopen := hopened hphase rfl
      refine Or.inr ⟨false, ?_⟩
      rw [← hopen, hsteady.clearing _ hphase]
      rfl
  | locks hphase hfree =>
      rw [hfree client] at hholds
      exact absurd hholds Bool.false_ne_true
  | takes hphase => exact Or.inl (hopened hphase rfl)
  | fails hphase => exact Or.inl (hopened hphase rfl)
  | finishes hphase => exact Or.inl (hopened hphase rfl)
  | cancels hphase => exact Or.inl (hopened hphase rfl)
  | unstages hphase => exact Or.inl (hopened hphase rfl)
  | uncancels hphase => exact Or.inl (hopened hphase rfl)
  | resets hphase =>
      have hopen := hopened hphase rfl
      rw [(hsteady.resetting _ hphase).1] at hopen
      exact absurd hopen.symm hne

omit [DecidableEq ρ] in
theorem ClientOk.mono {phase : ClientPhase} (hok : view.ClientOk phase)
    (hseen : phase.holds = true → ∀ generation, generation ≠ 0 →
      view.Seen generation → next.Seen generation)
    (hstaged : phase.holds = true → view.staged = none →
      next.staged = none)
    (hended : ∀ request, view.Ended request → next.Ended request)
    (hgenerations : ∀ request generation,
      view.generations request = some generation →
      next.generations request = some generation) :
    next.ClientOk phase := by
  have hexists : phase.holds = true →
      (∃ generation, generation ≠ 0 ∧ view.Seen generation) →
      ∃ generation, generation ≠ 0 ∧ next.Seen generation := by
    rintro hholds ⟨generation, hne, hopen⟩
    exact ⟨generation, hne, hseen hholds generation hne hopen⟩
  cases phase with
  | enqueueChecked arguments generation =>
      exact ⟨hok.1, hseen rfl generation hok.1 hok.2⟩
  | stageOpened generation => exact hexists rfl hok
  | stageCurrent generation => exact hexists rfl hok
  | stageSearching generation request =>
      exact ⟨hstaged rfl hok.1, hexists rfl hok.2⟩
  | stageFound request => exact ⟨hstaged rfl hok.1, hexists rfl hok.2⟩
  | stagePublishing request => exact ⟨hstaged rfl hok.1, hexists rfl hok.2⟩
  | statusTerminalizing request =>
      obtain ⟨hend, generation, hsame, hne, hopen⟩ := hok
      exact ⟨hended request hend, generation,
        hgenerations request generation hsame, hne,
        hseen rfl generation hne hopen⟩
  | _ => exact hok

theorem numbered_step (h : view.Orderly) (hstep : view.Step next)
    {request generation : ℕ}
    (hnext : next.generations request = some generation) :
    generation ≠ 0 := by
  cases hstep with
  | owner hstep => cases hstep <;> exact h.numbered _ _ hnext
  | lifecycle hstep => cases hstep <;> exact h.numbered _ _ hnext
  | @client client next hstep =>
      have hok := h.clients client
      cases hstep with
      | @enqueue arguments now added hclient hnew hfresh completes
          hcompletes =>
          change Function.update view.generations added (some now) request =
            some generation at hnext
          by_cases heq : request = added
          · rw [heq, Function.update_self] at hnext
            rw [hclient] at hok
            rw [← Option.some.inj hnext]
            exact hok.1
          · rw [Function.update_of_ne heq] at hnext
            exact h.numbered _ _ hnext
      | revert hclient =>
          rw [hclient] at hok
          exact hok.elim
      | _ => exact h.numbered _ _ hnext

/-- What a client has seen, once it has taken its own step. -/
theorem clientNext_ok (hsteady : view.Steady) (h : view.Orderly)
    {client : ρ} {phase : ClientPhase} (hnext : view.ClientNext client phase) :
    (view.setClient client phase).ClientOk phase := by
  have hok := h.clients client
  cases hnext with
  | plain hplain hkeeps =>
      cases phase with
      | idle => trivial
      | enqueueCalled arguments => trivial
      | cycleCalled => trivial
      | cycleOpened generation => trivial
      | stageCalled => trivial
      | stageReady => trivial
      | stageLocked => trivial
      | statusCalled request => trivial
      | statusLocked request => trivial
      | _ => exact absurd hplain Bool.false_ne_true
  | enqueueOpened hclient hopen => exact hopen
  | enqueueReady hclient =>
      rw [hclient] at hok
      exact hok
  | enqueueLocked hclient =>
      rw [hclient] at hok
      exact hok
  | enqueueChecked hclient hopen =>
      rw [hclient] at hok
      exact ⟨hok, Or.inl hopen⟩
  | stageOpened hclient hopen => exact ⟨view.opened, hopen, Or.inl rfl⟩
  | stageCurrent hclient =>
      rw [hclient] at hok
      exact hok
  | stageSearching hclient hstaged =>
      rw [hclient] at hok
      exact ⟨hstaged, hok⟩
  | searched hclient =>
      rw [hclient] at hok
      exact hok
  | stageFound hclient =>
      rw [hclient] at hok
      exact hok
  | stageReverting hclient hstaged =>
      rw [hclient] at hok
      exact absurd hok.1 hstaged
  | @statusTerminalizing request hclient hphase =>
      obtain ⟨generation, hsame, hguarded⟩ :=
        h.live request ⟨_, hphase, rfl⟩
      refine ⟨⟨_, hphase, rfl⟩, generation, hsame,
        h.numbered _ _ hsame, ?_⟩
      rcases hguarded with hseen | ⟨requestCancel, reached, phase, heq, -⟩
      · exact hseen
      · have hexclusive := hsteady.exclusive client (by
          rw [hclient]
          rfl)
        rw [heq] at hexclusive
        exact absurd hexclusive Bool.false_ne_true.symm

theorem setClient_self (view : MailboxView ρ) (client : ρ)
    (phase : ClientPhase) :
    (view.setClient client phase).clients client = phase :=
  Function.update_self _ _ _

theorem setClient_of_ne {client other : ρ} (hne : other ≠ client)
    (view : MailboxView ρ) (phase : ClientPhase) :
    (view.setClient client phase).clients other = view.clients other :=
  Function.update_of_ne hne _ _

theorem clients_clientStep (hsteady : view.Steady) (h : view.Orderly)
    {client : ρ} (hstep : view.ClientStep client next) (other : ρ) :
    next.ClientOk (next.clients other) := by
  have hok := h.clients other
  have hended : ∀ request, view.Ended request → next.Ended request :=
    fun request => ended_step h (.client hstep)
  have hgenerations : ∀ request generation,
      view.generations request = some generation →
      next.generations request = some generation :=
    fun request generation => generations_step h (.client hstep)
  cases hstep with
  | stay => exact hok
  | move hnext =>
      by_cases heq : other = client
      · rw [heq, setClient_self]
        exact clientNext_ok hsteady h hnext
      · rw [setClient_of_ne heq]
        exact hok.mono (fun _ _ _ => id) (fun _ => id) hended hgenerations
  | enqueue hclient =>
      by_cases heq : other = client
      · rw [heq]
        show ClientOk _ ((view.setClient client .idle).clients client)
        rw [setClient_self]
        trivial
      · show ClientOk _ ((view.setClient client .idle).clients other)
        rw [setClient_of_ne heq]
        exact hok.mono (fun _ _ _ => id) (fun _ => id) hended hgenerations
  | @stage request hclient hphase =>
      by_cases heq : other = client
      · rw [heq, setClient_self]
        have hfound := h.clients client
        rw [hclient] at hfound
        exact hfound
      · rw [setClient_of_ne heq]
        exact hok.mono (fun _ _ _ => id) (fun _ => id) hended hgenerations
  | @publish request hclient hstaged =>
      by_cases heq : other = client
      · rw [heq]
        show ClientOk _ ((view.setClient client .idle).clients client)
        rw [setClient_self]
        trivial
      · show ClientOk _ ((view.setClient client .idle).clients other)
        rw [setClient_of_ne heq]
        refine hok.mono (fun _ _ _ => id) ?_ hended hgenerations
        -- the publishing client is the only one with the lock
        intro hholds
        have hsame := hsteady.unique other client hholds (by
          rw [hclient]
          rfl)
        exact absurd hsame heq
  | revert hclient =>
      have hfalse := h.clients client
      rw [hclient] at hfalse
      exact hfalse.elim

theorem clients_step (hsteady : view.Steady) (h : view.Orderly)
    (hstep : view.Step next) (client : ρ) :
    next.ClientOk (next.clients client) := by
  have hok := h.clients client
  have hended : ∀ request, view.Ended request → next.Ended request :=
    fun request => ended_step h hstep
  have hgenerations : ∀ request generation,
      view.generations request = some generation →
      next.generations request = some generation :=
    fun request generation => generations_step h hstep
  cases hstep with
  | client hstep => exact clients_clientStep hsteady h hstep client
  | owner hstep =>
      have hstaged : view.staged = none → next.staged = none := by
        intro hnone
        cases hstep with
        | unstage => rfl
        | clear => rfl
        | _ => exact hnone
      have hclients : next.clients = view.clients := by
        cases hstep <;> rfl
      have hseen : ∀ generation, view.Seen generation →
          next.Seen generation := by
        intro generation hopen
        cases hstep <;> exact hopen
      rw [hclients]
      exact hok.mono (fun _ generation _ => hseen generation)
        (fun _ => hstaged) hended hgenerations
  | lifecycle hstep =>
      have hstaged : view.staged = none → next.staged = none := by
        intro hnone
        cases hstep with
        | unstages => rfl
        | _ => exact hnone
      have hclients : next.clients = view.clients := by
        cases hstep <;> rfl
      rw [hclients]
      exact hok.mono
        (fun hholds _ => seen_lifecycleStep hsteady hstep hholds)
        (fun _ => hstaged) hended hgenerations

omit [DecidableEq ρ] in
theorem OwnerOk.claimed {phase : MailboxOwnerPhase}
    (hok : view.OwnerOk phase) {request : ℕ}
    (hclaim : phase.claim = some request) :
    view.phases request = some .terminalizing := by
  cases phase with
  | terminalizing parent own progress =>
      cases hclaim
      exact hok.2.2
  | deciding parent own progress =>
      cases hclaim
      exact hok.2.2
  | storing own progress stillCurrent =>
      cases hclaim
      exact hok.2
  | _ => cases hclaim

omit [DecidableEq ρ] in
theorem OwnerOk.staged {phase : MailboxOwnerPhase}
    (hok : view.OwnerOk phase) {request : ℕ}
    (hrequest : phase.request = some request) :
    view.staged = some request := by
  cases phase with
  | loaded parent own =>
      cases hrequest
      exact hok
  | current parent own =>
      cases hrequest
      exact hok.1
  | opened parent own =>
      cases hrequest
      exact hok.1
  | claiming parent own =>
      cases hrequest
      exact hok.1
  | progressing parent own =>
      cases hrequest
      exact hok.1
  | progressed parent own progress =>
      cases hrequest
      exact hok.1
  | terminalizing parent own progress =>
      cases hrequest
      exact hok.1
  | deciding parent own progress =>
      cases hrequest
      exact hok.1
  | storing own progress stillCurrent =>
      cases hrequest
      exact hok.1
  | clearing own =>
      cases hrequest
      exact hok.1
  | _ => cases hrequest

omit [DecidableEq ρ] in
theorem live_of_ownerStep (h : view.Orderly) (hstep : view.OwnerStep next)
    {request : ℕ} (hlive : next.Live request) : view.Live request := by
  cases hstep with
  | claim howner hphase =>
      exact live_of_setPhase hphase (fun _ => rfl) hlive
  | take howner hphase =>
      exact live_of_setPhase hphase (fun _ => rfl) hlive
  | finish howner hknown =>
      have hclaim := h.owner.claimed
        (congrArg MailboxOwnerPhase.claim howner)
      exact live_of_setPhase hclaim (fun _ => rfl) hlive
  | _ => exact hlive

omit [DecidableEq ρ] in
/-- Without a closing thread at work, a live request has its generation open. -/
theorem Guarded.opened {request generation : ℕ}
    (hguarded : view.Guarded request generation)
    (hphase : view.lifecycle.closes = false) : view.opened = generation := by
  rcases hguarded with (hopen | ⟨requestCancel, heq⟩) | ⟨_, _, _, heq, -⟩
  · exact hopen
  all_goals
    rw [heq] at hphase
    exact absurd hphase Bool.false_ne_true.symm

omit [DecidableEq ρ] in
/-- `close_generation` passes a request once it has ended. -/
theorem guarded_passed {generation reached : ℕ}
    {requestCancel : Bool} {phase : FailPhase}
    (hphase : view.lifecycle =
      .failing generation requestCancel reached phase)
    {request own : ℕ} (hown : view.generations request = some own)
    (hguarded : view.Guarded request own)
    (hpassed : request = reached → own ≠ generation) :
    (view.setLifecycle (.failing generation requestCancel (reached + 1)
      .start)).Guarded request own := by
  rcases hguarded with (hopen | ⟨_, heq⟩) | ⟨_, _, _, heq, hle⟩
  · exact Or.inl (Or.inl hopen)
  · rw [hphase] at heq
    cases heq
  · rw [hphase] at heq
    cases heq
    refine Or.inr ⟨requestCancel, reached + 1, .start, rfl, ?_⟩
    have hne : request ≠ reached := fun hsame => hpassed hsame rfl
    omega

omit [DecidableEq ρ] in
theorem live_lifecycleStep (hsteady : view.Steady) (h : view.Orderly)
    (hstep : view.LifecycleStep next) {request : ℕ}
    (hlive : next.Live request) :
    ∃ generation, next.generations request = some generation ∧
      next.Guarded request generation := by
  cases hstep with
  | stay => exact h.live request hlive
  | move hnext =>
      obtain ⟨own, hown, hguarded⟩ := h.live request hlive
      refine ⟨own, hown, ?_⟩
      cases hnext with
      | plain hplain hkeeps =>
          exact Or.inl (Or.inl (hguarded.opened hkeeps))
      | passed hphase =>
          refine Or.inl (Or.inl (hguarded.opened ?_))
          exact congrArg LifecyclePhase.closes hphase
      | closing hphase =>
          refine Or.inl (Or.inl (hguarded.opened ?_))
          exact congrArg LifecyclePhase.closes hphase
      | @skip generation requestCancel reached phase hphase hskip =>
          apply guarded_passed hphase hown hguarded
          rintro rfl rfl
          have hbefore : view.Live request := hlive
          rcases hskip with hfailed | hsettled
          · have hcloser := h.closer
            rw [hphase, hfailed] at hcloser
            exact not_live (hcloser.2.2 rfl) rfl hbefore
          · rcases hsettled hown with hdone | hdone
            · exact not_live hdone rfl hbefore
            · exact not_live hdone rfl hbefore
      | loads hphase =>
          rcases hguarded with (hopen | ⟨_, heq⟩) | ⟨_, _, _, heq, hle⟩
          · exact Or.inl (Or.inl hopen)
          · rw [hphase] at heq
            cases heq
          · rw [hphase] at heq
            cases heq
            exact Or.inr ⟨_, _, _, rfl, hle⟩
  | opens hphase =>
      obtain ⟨own, hown, hguarded⟩ := h.live request hlive
      have hopen := hguarded.opened (congrArg LifecyclePhase.closes hphase)
      rw [hsteady.opening _ _ hphase] at hopen
      exact absurd hopen.symm (h.numbered _ _ hown)
  | closes hphase hopen =>
      obtain ⟨own, hown, hguarded⟩ := h.live request hlive
      refine ⟨own, hown, Or.inl (Or.inr ⟨true, ?_⟩)⟩
      rw [← hguarded.opened (congrArg LifecyclePhase.closes hphase)]
      rfl
  | clears hphase =>
      obtain ⟨own, hown, hguarded⟩ := h.live request hlive
      refine ⟨own, hown, Or.inl (Or.inr ⟨false, ?_⟩)⟩
      rw [← hguarded.opened (congrArg LifecyclePhase.closes hphase),
        hsteady.clearing _ hphase]
      rfl
  | locks hphase =>
      obtain ⟨own, hown, hguarded⟩ := h.live request hlive
      refine ⟨own, hown, ?_⟩
      rcases hguarded with (hopen | ⟨_, heq⟩) | ⟨_, _, _, heq, -⟩
      · exact Or.inl (Or.inl hopen)
      · rw [hphase] at heq
        cases heq
        exact Or.inr ⟨_, 0, .start, rfl, Nat.zero_le _⟩
      · rw [hphase] at heq
        cases heq
  | @takes generation requestCancel reached seen hphase hseen =>
      by_cases heq : request = reached
      · have hcloser := h.closer
        rw [hphase] at hcloser
        rw [heq]
        exact ⟨generation, hcloser.2.1, Or.inr ⟨_, _, _, rfl, le_rfl⟩⟩
      · obtain ⟨phase, hnow, htrue⟩ := hlive
        have hsame := (setPhase_of_ne heq).symm.trans hnow
        obtain ⟨own, hown, hguarded⟩ := h.live request ⟨phase, hsame, htrue⟩
        refine ⟨own, hown, ?_⟩
        rcases hguarded with (hopen | ⟨_, hclosing⟩) | ⟨_, _, _, hfail, hle⟩
        · exact Or.inl (Or.inl hopen)
        · rw [hphase] at hclosing
          cases hclosing
        · rw [hphase] at hfail
          cases hfail
          exact Or.inr ⟨_, _, _, rfl, hle⟩
  | @fails generation requestCancel reached hphase hknown =>
      have hcloser := h.closer
      rw [hphase] at hcloser
      have hbefore : view.Live request :=
        live_of_setPhase hcloser.2 (fun _ => rfl) hlive
      obtain ⟨own, hown, hguarded⟩ := h.live request hbefore
      refine ⟨own, hown, guarded_passed hphase hown hguarded ?_⟩
      rintro rfl
      exact absurd hlive
        (not_live (setPhase_self view request .failed) rfl)
  | finishes hphase hend =>
      obtain ⟨own, hown, hguarded⟩ := h.live request hlive
      refine ⟨own, hown, ?_⟩
      rcases hguarded with (hopen | ⟨_, heq⟩) | ⟨_, _, _, heq, hle⟩
      · exact Or.inl (Or.inl hopen)
      · rw [hphase] at heq
        cases heq
      · rw [hphase] at heq
        cases heq
        obtain ⟨phase, hnow, -⟩ := hlive
        exact absurd ((hend request hle).symm.trans hnow)
          (Option.some_ne_none _).symm
  | cancels hphase =>
      obtain ⟨own, hown, hguarded⟩ := h.live request hlive
      refine ⟨own, hown, Or.inl (Or.inl ?_)⟩
      exact hguarded.opened (congrArg LifecyclePhase.closes hphase)
  | unstages hphase =>
      obtain ⟨own, hown, hguarded⟩ := h.live request hlive
      refine ⟨own, hown, Or.inl (Or.inl ?_)⟩
      exact hguarded.opened (congrArg LifecyclePhase.closes hphase)
  | uncancels hphase =>
      obtain ⟨own, hown, hguarded⟩ := h.live request hlive
      refine ⟨own, hown, Or.inl (Or.inl ?_)⟩
      exact hguarded.opened (congrArg LifecyclePhase.closes hphase)
  | resets hphase =>
      obtain ⟨own, hown, hguarded⟩ := h.live request hlive
      have hopen := hguarded.opened (congrArg LifecyclePhase.closes hphase)
      rw [(hsteady.resetting _ hphase).1] at hopen
      exact absurd hopen.symm (h.numbered _ _ hown)

theorem live_clientStep (h : view.Orderly) {client : ρ}
    (hstep : view.ClientStep client next) {request : ℕ}
    (hlive : next.Live request) :
    ∃ generation, next.generations request = some generation ∧
      next.Guarded request generation := by
  cases hstep with
  | stay => exact h.live request hlive
  | move hnext => exact h.live request hlive
  | publish hclient hstaged => exact h.live request hlive
  | stage hclient hphase =>
      exact h.live request (live_of_setPhase hphase (fun _ => rfl) hlive)
  | @enqueue arguments generation added hclient hnew hfresh completes
      hcompletes =>
      by_cases heq : request = added
      · have hok := h.clients client
        rw [hclient] at hok
        refine ⟨generation, ?_, Or.inl hok.2⟩
        rw [heq]
        exact Function.update_self _ _ _
      · obtain ⟨phase, hnow, htrue⟩ := hlive
        have hsame := (setPhase_of_ne heq).symm.trans hnow
        obtain ⟨own, hown, hguarded⟩ := h.live request ⟨phase, hsame, htrue⟩
        exact ⟨own, (Function.update_of_ne heq _ _).trans hown, hguarded⟩
  | revert hclient =>
      have hfalse := h.clients client
      rw [hclient] at hfalse
      exact hfalse.elim

theorem live_step (hsteady : view.Steady) (h : view.Orderly)
    (hstep : view.Step next) {request : ℕ} (hlive : next.Live request) :
    ∃ generation, next.generations request = some generation ∧
      next.Guarded request generation := by
  cases hstep with
  | client hstep => exact live_clientStep h hstep hlive
  | lifecycle hstep => exact live_lifecycleStep hsteady h hstep hlive
  | owner hstep =>
      have hbefore := live_of_ownerStep h hstep hlive
      cases hstep <;> exact h.live request hbefore

/-! ## The owner -/

omit [DecidableEq ρ] in
theorem ownerNext_ok (h : view.Orderly) {phase : MailboxOwnerPhase}
    (hnext : view.OwnerNext phase) : view.OwnerOk phase := by
  have hok := h.owner
  cases hnext with
  | plain hplain hclaim =>
      cases phase with
      | outside => trivial
      | admitted => trivial
      | called parent => trivial
      | uncancelled parent => trivial
      | returned => trivial
      | _ => exact absurd hplain Bool.false_ne_true
  | cancelling howner hcancel => exact hcancel
  | cancelled howner =>
      rw [howner] at hok
      exact hok
  | loaded howner hstaged => exact hstaged
  | current howner hgeneration =>
      rw [howner] at hok
      exact ⟨hok, hgeneration⟩
  | opened howner =>
      rw [howner] at hok
      exact hok
  | claiming howner =>
      rw [howner] at hok
      exact hok
  | progressing howner =>
      rw [howner] at hok
      exact hok
  | deciding howner =>
      rw [howner] at hok
      exact hok
  | abandoned howner =>
      rw [howner] at hok
      exact ⟨hok.1, hok.2.2⟩
  | decided howner =>
      rw [howner] at hok
      exact ⟨hok.1, hok.2.2⟩

omit [DecidableEq ρ] in
theorem owner_ownerStep (h : view.Orderly) (hstep : view.OwnerStep next) :
    next.OwnerOk next.owner := by
  have hok := h.owner
  cases hstep with
  | stay => exact hok
  | move hnext => exact ownerNext_ok h hnext
  | unstage howner =>
      rw [howner] at hok
      exact hok
  | uncancel howner => trivial
  | claim howner hphase =>
      rw [howner] at hok
      exact hok
  | progress howner completes hnext =>
      rw [howner] at hok
      rcases hnext with rfl | ⟨progress, rfl⟩
      · trivial
      · exact hok
  | take howner hphase =>
      rw [howner] at hok
      exact ⟨hok.1, hok.2, setPhase_self _ _ _⟩
  | finish howner hknown =>
      rw [howner] at hok
      refine ⟨hok.1, _, setPhase_self _ _ _, ?_⟩
      split <;> rfl
  | vanish howner hunknown =>
      rw [howner] at hok
      rw [hok.2] at hunknown
      cases hunknown
  | clear howner hstaged => trivial

omit [DecidableEq ρ] in
theorem OwnerOk.mono {phase : MailboxOwnerPhase} (hok : view.OwnerOk phase)
    (hcancel : phase ≠ .outside → view.cancel ≠ 0 → next.cancel ≠ 0)
    (hstaged : phase ≠ .outside → ∀ request,
      view.staged = some request → next.staged = some request)
    (hgenerations : ∀ request generation,
      view.generations request = some generation →
      next.generations request = some generation)
    (hclaim : ∀ request, phase.claim = some request →
      view.phases request = some .terminalizing →
      next.phases request = some .terminalizing)
    (hended : ∀ request, view.Ended request → next.Ended request) :
    next.OwnerOk phase := by
  cases phase with
  | cancelling => exact hcancel (by simp) hok
  | cancelled => exact hcancel (by simp) hok
  | unstaged => exact hcancel (by simp) hok
  | loaded parent request => exact hstaged (by simp) request hok
  | current parent request =>
      exact ⟨hstaged (by simp) request hok.1, hgenerations _ _ hok.2⟩
  | opened parent request =>
      exact ⟨hstaged (by simp) request hok.1, hgenerations _ _ hok.2⟩
  | claiming parent request =>
      exact ⟨hstaged (by simp) request hok.1, hgenerations _ _ hok.2⟩
  | progressing parent request =>
      exact ⟨hstaged (by simp) request hok.1, hgenerations _ _ hok.2⟩
  | progressed parent request progress =>
      exact ⟨hstaged (by simp) request hok.1, hgenerations _ _ hok.2⟩
  | terminalizing parent request progress =>
      exact ⟨hstaged (by simp) request hok.1, hgenerations _ _ hok.2.1,
        hclaim request rfl hok.2.2⟩
  | deciding parent request progress =>
      exact ⟨hstaged (by simp) request hok.1, hgenerations _ _ hok.2.1,
        hclaim request rfl hok.2.2⟩
  | storing request progress stillCurrent =>
      exact ⟨hstaged (by simp) request hok.1, hclaim request rfl hok.2⟩
  | clearing request =>
      exact ⟨hstaged (by simp) request hok.1, hended request hok.2⟩
  | _ => trivial

omit [DecidableEq ρ] in
theorem CloserOk.claimed {phase : LifecyclePhase}
    (hok : view.CloserOk phase) {request : ℕ}
    (hclaim : phase.claim = some request) :
    view.phases request = some .terminalizing := by
  cases phase with
  | failing generation requestCancel own fail =>
      cases fail with
      | claimed =>
          cases hclaim
          exact hok.2
      | _ => cases hclaim
  | _ => cases hclaim

theorem owner_step (hsteady : view.Steady) (h : view.Orderly)
    (hstep : view.Step next) : next.OwnerOk next.owner := by
  have hok := h.owner
  have hended : ∀ request, view.Ended request → next.Ended request :=
    fun request => ended_step h hstep
  have hgenerations : ∀ request generation,
      view.generations request = some generation →
      next.generations request = some generation :=
    fun request generation => generations_step h hstep
  cases hstep with
  | owner hstep => exact owner_ownerStep h hstep
  | @client client next hstep =>
      cases hstep with
      | enqueue hclient hnew =>
          refine hok.mono (fun _ => id) (fun _ _ => id) hgenerations ?_ hended
          intro request _ hphase
          refine (setPhase_of_ne ?_).trans hphase
          intro heq
          rw [heq, hnew] at hphase
          cases hphase
      | stage hclient hqueued =>
          refine hok.mono (fun _ => id) (fun _ _ => id) hgenerations ?_ hended
          intro request _ hphase
          exact setPhase_keeps hqueued (by simp) hphase
      | publish hclient hnone =>
          refine hok.mono (fun _ => id) ?_ hgenerations (fun _ _ => id) hended
          intro _ request hstaged
          rw [hnone] at hstaged
          cases hstaged
      | revert hclient =>
          have hfalse := h.clients client
          rw [hclient] at hfalse
          exact hfalse.elim
      | _ => exact hok
  | lifecycle hstep =>
      have hcloser := h.closer
      cases hstep with
      | takes hphase hseen hfailed hterminalizing =>
          refine hok.mono (fun _ => id) (fun _ _ => id) hgenerations ?_ hended
          intro request _ hnow
          exact setPhase_keeps hseen (Ne.symm hterminalizing) hnow
      | fails hphase hknown =>
          refine hok.mono (fun _ => id) (fun _ _ => id) hgenerations ?_ hended
          intro request hclaim hnow
          refine (setPhase_of_ne ?_).trans hnow
          intro heq
          apply h.exclusive request hclaim
          rw [hphase, heq]
          rfl
      | cancels hphase =>
          rw [hphase] at hcloser
          exact hok.mono (fun _ _ => hcloser) (fun _ _ => id) hgenerations
            (fun _ _ => id) hended
      | unstages hphase =>
          refine hok.mono (fun _ => id) ?_ hgenerations (fun _ _ => id) hended
          exact fun hinside => absurd (hsteady.resetting _ hphase).2 hinside
      | uncancels hphase =>
          refine hok.mono ?_ (fun _ _ => id) hgenerations (fun _ _ => id)
            hended
          exact fun hinside => absurd (hsteady.resetting _ hphase).2 hinside
      | _ => exact hok

/-! ## Closing -/

omit [DecidableEq ρ] in
theorem closerOk_plain {phase : LifecyclePhase}
    (hplain : phase.plain = true) : view.CloserOk phase := by
  cases phase with
  | opening generation checks byParent =>
      intro hmissing
      exact absurd (List.contains_iff_mem.mp hplain) hmissing
  | closing generation requestCancel =>
      exact absurd hplain Bool.false_ne_true
  | failing generation requestCancel request phase =>
      exact absurd hplain Bool.false_ne_true
  | cancelling generation => exact absurd hplain Bool.false_ne_true
  | _ => trivial

omit [DecidableEq ρ] in
theorem closer_lifecycleStep (h : view.Orderly)
    (hstep : view.LifecycleStep next) : next.CloserOk next.lifecycle := by
  have hok := h.closer
  cases hstep with
  | stay => exact hok
  | move hnext =>
      cases hnext with
      | plain hplain hkeeps => exact closerOk_plain hplain
      | @passed generation check rest byParent hphase hpasses =>
          rw [hphase] at hok
          intro hmissing
          by_cases hcheck : check = .uncancelled
          · exact hpasses hcheck
          · apply hok
            intro hmem
            rcases List.mem_cons.mp hmem with heq | hrest
            · exact hcheck heq.symm
            · exact hmissing hrest
      | closing hphase => exact fun hfalse => by cases hfalse
      | skip hphase =>
          rw [hphase] at hok
          exact ⟨hok.1, trivial⟩
      | loads hphase hgeneration hseen =>
          rw [hphase] at hok
          refine ⟨hok.1, hgeneration, ?_⟩
          rintro rfl
          exact hseen
  | opens hphase hplain => exact closerOk_plain hplain
  | closes hphase hopen => exact fun _ => hopen
  | clears hphase => exact fun hfalse => by cases hfalse
  | locks hphase =>
      rw [hphase] at hok
      exact ⟨hok, trivial⟩
  | takes hphase =>
      rw [hphase] at hok
      exact ⟨hok.1, setPhase_self _ _ _⟩
  | fails hphase =>
      rw [hphase] at hok
      exact ⟨hok.1, trivial⟩
  | @finishes generation requestCancel request phase hphase hend =>
      rw [hphase] at hok
      cases requestCancel with
      | true => exact hok.1 rfl
      | false => trivial
  | cancels hphase => trivial
  | unstages hphase => trivial
  | uncancels hphase => trivial
  | resets hphase => trivial

omit [DecidableEq ρ] in
theorem CloserOk.mono {phase : LifecyclePhase} (hok : view.CloserOk phase)
    (hcancel : view.cancel = 0 → next.cancel = 0)
    (hgenerations : ∀ request generation,
      view.generations request = some generation →
      next.generations request = some generation)
    (hfailed : ∀ request, view.phases request = some .failed →
      next.phases request = some .failed)
    (hclaim : ∀ request, phase.claim = some request →
      view.phases request = some .terminalizing →
      next.phases request = some .terminalizing) :
    next.CloserOk phase := by
  cases phase with
  | opening generation checks byParent =>
      exact fun hmissing => hcancel (hok hmissing)
  | failing generation requestCancel request fail =>
      refine ⟨hok.1, ?_⟩
      cases fail with
      | start => trivial
      | trying seen =>
          obtain ⟨hgeneration, hseen⟩ := hok.2
          exact ⟨hgenerations _ _ hgeneration,
            fun heq => hfailed request (hseen heq)⟩
      | claimed => exact hclaim request rfl hok.2
  | _ => exact hok

theorem closer_step (h : view.Orderly) (hstep : view.Step next) :
    next.CloserOk next.lifecycle := by
  have hok := h.closer
  have hgenerations : ∀ request generation,
      view.generations request = some generation →
      next.generations request = some generation :=
    fun request generation => generations_step h hstep
  cases hstep with
  | lifecycle hstep => exact closer_lifecycleStep h hstep
  | owner hstep =>
      cases hstep with
      | uncancel howner =>
          exact hok.mono (fun _ => rfl) hgenerations (fun _ => id)
            (fun _ _ => id)
      | claim howner hphase =>
          refine hok.mono id hgenerations ?_ ?_
          · exact fun _ => setPhase_keeps hphase (by simp)
          · exact fun _ _ => setPhase_keeps hphase (by simp)
      | take howner hphase =>
          refine hok.mono id hgenerations ?_ ?_
          · exact fun _ => setPhase_keeps hphase (by simp)
          · exact fun _ _ => setPhase_keeps hphase (by simp)
      | finish howner hknown =>
          have hclaim := congrArg MailboxOwnerPhase.claim howner
          refine hok.mono id hgenerations ?_ ?_
          · exact fun _ => setPhase_keeps (h.owner.claimed hclaim) (by simp)
          · intro request hother hphase
            refine (setPhase_of_ne ?_).trans hphase
            rintro rfl
            exact h.exclusive _ hclaim hother
      | _ => exact hok
  | @client client next hstep =>
      cases hstep with
      | @enqueue arguments now added hclient hnew hfresh completes
          hcompletes =>
          have hkeeps : ∀ request phase, view.phases request = some phase →
              (view.setPhase added .queued).phases request = some phase := by
            intro request phase hphase
            refine (setPhase_of_ne ?_).trans hphase
            rintro rfl
            rw [hnew] at hphase
            cases hphase
          exact hok.mono id hgenerations (fun request => hkeeps request _)
            (fun request _ => hkeeps request _)
      | stage hclient hqueued =>
          refine hok.mono id hgenerations ?_ ?_
          · exact fun _ => setPhase_keeps hqueued (by simp)
          · exact fun _ _ => setPhase_keeps hqueued (by simp)
      | revert hclient =>
          have hfalse := h.clients client
          rw [hclient] at hfalse
          exact hfalse.elim
      | _ => exact hok

/-! ## Exclusion -/

theorem plain_claim {phase : LifecyclePhase} (hplain : phase.plain = true) :
    phase.claim = none := by
  cases phase with
  | failing generation requestCancel request fail =>
      exact absurd hplain Bool.false_ne_true
  | _ => rfl

theorem plain_tried {phase : LifecyclePhase} (hplain : phase.plain = true) :
    phase.tried = none := by
  cases phase with
  | failing generation requestCancel request fail =>
      exact absurd hplain Bool.false_ne_true
  | _ => rfl

omit [DecidableEq ρ] in
theorem ownerNext_claim {phase : MailboxOwnerPhase}
    (hnext : view.OwnerNext phase) {request : ℕ}
    (hclaim : phase.claim = some request) :
    view.owner.claim = some request := by
  cases hnext with
  | plain hplain hnone =>
      cases phase with
      | terminalizing parent own progress =>
          exact absurd hplain Bool.false_ne_true
      | deciding parent own progress =>
          exact absurd hplain Bool.false_ne_true
      | storing own progress stillCurrent =>
          exact absurd hplain Bool.false_ne_true
      | _ => cases hclaim
  | deciding howner =>
      rw [howner]
      exact hclaim
  | abandoned howner =>
      rw [howner]
      exact hclaim
  | decided howner =>
      rw [howner]
      exact hclaim
  | _ => cases hclaim

/-- The owner and the closing thread never write the result of one request. -/
theorem exclusive_step (h : view.Orderly) (hstep : view.Step next)
    {request : ℕ} (hclaim : next.owner.claim = some request) :
    next.lifecycle.claim ≠ some request := by
  cases hstep with
  | owner hstep =>
      cases hstep with
      | stay => exact h.exclusive request hclaim
      | move hnext => exact h.exclusive request (ownerNext_claim hnext hclaim)
      | progress howner completes hnext =>
          rcases hnext with rfl | ⟨progress, rfl⟩ <;> cases hclaim
      | take howner hphase =>
          cases hclaim
          intro hcloser
          have hterminalizing := h.closer.claimed hcloser
          rw [hphase] at hterminalizing
          cases hterminalizing
      | _ => cases hclaim
  | @client client next hstep =>
      cases hstep with
      | revert hclient =>
          have hfalse := h.clients client
          rw [hclient] at hfalse
          exact hfalse.elim
      | _ => exact h.exclusive request hclaim
  | lifecycle hstep =>
      have hnone : ∀ phase : LifecyclePhase, phase.claim = none →
          phase.claim ≠ some request := by
        intro phase heq
        rw [heq]
        exact (Option.some_ne_none _).symm
      cases hstep with
      | stay => exact h.exclusive request hclaim
      | move hnext =>
          cases hnext with
          | plain hplain hkeeps => exact hnone _ (plain_claim hplain)
          | _ => exact hnone _ rfl
      | opens hphase hplain => exact hnone _ (plain_claim hplain)
      | takes hphase hseen hfailed hterminalizing =>
          intro hsame
          cases hsame
          have howner := h.owner.claimed hclaim
          rw [hseen] at howner
          exact hterminalizing (Option.some.inj howner)
      | @finishes generation requestCancel own phase hphase hend =>
          apply hnone
          cases requestCancel <;> rfl
      | _ => exact hnone _ rfl

/-! ## Cancellation -/

omit [DecidableEq ρ] in
theorem clientNext_seen {client : ρ} (hclosed : view.opened = 0)
    (hempty : ∀ request, ¬ view.Live request)
    (hunseen : (view.clients client).seen = false) {phase : ClientPhase}
    (hok : view.ClientOk (view.clients client))
    (hnext : view.ClientNext client phase) : phase.seen = false := by
  cases hnext with
  | plain hplain hkeeps =>
      cases phase with
      | idle => rfl
      | enqueueCalled arguments => rfl
      | cycleCalled => rfl
      | cycleOpened generation => rfl
      | stageCalled => rfl
      | stageReady => rfl
      | stageLocked => rfl
      | statusCalled request => rfl
      | statusLocked request => rfl
      | _ => exact absurd hplain Bool.false_ne_true
  | enqueueOpened hclient hopen => rfl
  | enqueueReady hclient => rfl
  | enqueueLocked hclient => rfl
  | enqueueChecked hclient hopen =>
      rw [hclient] at hok
      exact absurd (hopen.symm.trans hclosed) hok
  | stageOpened hclient hopen => exact absurd hclosed hopen
  | statusTerminalizing hclient hphase =>
      exact absurd ⟨_, hphase, rfl⟩ (hempty _)
  | stageCurrent hclient =>
      rw [hclient] at hunseen
      exact absurd hunseen.symm Bool.false_ne_true
  | stageSearching hclient hstaged =>
      rw [hclient] at hunseen
      exact absurd hunseen.symm Bool.false_ne_true
  | searched hclient =>
      rw [hclient] at hunseen
      exact absurd hunseen.symm Bool.false_ne_true
  | stageFound hclient =>
      rw [hclient] at hunseen
      exact absurd hunseen.symm Bool.false_ne_true
  | stageReverting hclient hstaged =>
      rw [hclient] at hunseen
      exact absurd hunseen.symm Bool.false_ne_true

theorem cancel_clientStep (h : view.Orderly) {client : ρ}
    (hstep : view.ClientStep client next) (hcancel : view.CancelOk) :
    next.CancelOk := by
  have hunseen := hcancel.unseen client
  cases hstep with
  | stay => exact hcancel
  | move hnext =>
      refine ⟨hcancel.closed, hcancel.empty, ?_, hcancel.rests⟩
      intro other
      by_cases heq : other = client
      · rw [heq, setClient_self]
        exact clientNext_seen hcancel.closed hcancel.empty hunseen
          (h.clients client) hnext
      · rw [setClient_of_ne heq]
        exact hcancel.unseen other
  | enqueue hclient =>
      rw [hclient] at hunseen
      exact absurd hunseen.symm Bool.false_ne_true
  | stage hclient =>
      rw [hclient] at hunseen
      exact absurd hunseen.symm Bool.false_ne_true
  | publish hclient =>
      rw [hclient] at hunseen
      exact absurd hunseen.symm Bool.false_ne_true
  | revert hclient =>
      rw [hclient] at hunseen
      exact absurd hunseen.symm Bool.false_ne_true

omit [DecidableEq ρ] in
/-- Nothing is left to do for a generation which has been closed. -/
theorem closed_empty (h : view.Orderly) (hclosed : view.opened = 0)
    (hphase : view.lifecycle.closes = false) (request : ℕ) :
    ¬ view.Live request := by
  intro hlive
  obtain ⟨generation, hown, hguarded⟩ := h.live request hlive
  have hopen := hguarded.opened hphase
  rw [hclosed] at hopen
  exact h.numbered _ _ hown hopen.symm

omit [DecidableEq ρ] in
theorem ClientOk.unseen {phase : ClientPhase} (hok : view.ClientOk phase)
    (hclosed : view.opened = 0) (hphase : view.lifecycle.awaits = false) :
    phase.seen = false := by
  have hnot : ∀ generation, generation ≠ 0 → ¬ view.Seen generation := by
    intro generation hne hseen
    have hopen := hseen.opened hphase
    rw [hclosed] at hopen
    exact hne hopen.symm
  cases phase with
  | enqueueChecked arguments generation => exact absurd hok.2 (hnot _ hok.1)
  | stageOpened own =>
      obtain ⟨generation, hne, hseen⟩ := hok
      exact absurd hseen (hnot generation hne)
  | stageCurrent own =>
      obtain ⟨generation, hne, hseen⟩ := hok
      exact absurd hseen (hnot generation hne)
  | stageSearching own request =>
      obtain ⟨-, generation, hne, hseen⟩ := hok
      exact absurd hseen (hnot generation hne)
  | stageFound request =>
      obtain ⟨-, generation, hne, hseen⟩ := hok
      exact absurd hseen (hnot generation hne)
  | stagePublishing request =>
      obtain ⟨-, generation, hne, hseen⟩ := hok
      exact absurd hseen (hnot generation hne)
  | stageReverting request => exact hok.elim
  | statusTerminalizing request =>
      obtain ⟨-, generation, -, hne, hseen⟩ := hok
      exact absurd hseen (hnot generation hne)
  | _ => rfl

omit [DecidableEq ρ] in
theorem cancel_lifecycleStep (hsteady : view.Steady) (h : view.Orderly)
    (hstep : view.LifecycleStep next) (hne : next.cancel ≠ 0) :
    next.CancelOk := by
  cases hstep with
  | stay => exact h.cancel hne
  | move hnext =>
      have hcancel := h.cancel hne
      refine ⟨hcancel.closed, hcancel.empty, hcancel.unseen, ?_⟩
      cases hnext with
      | plain hplain hkeeps => exact plain_tried hplain
      | passed hphase => rfl
      | closing hphase => rfl
      | skip hphase => rfl
      | @loads generation requestCancel request phase seen hphase
          hgeneration hseen hstart =>
          have hrests := hcancel.rests
          rw [hphase] at hrests
          cases phase with
          | trying before => cases hrests
          | claimed => cases hrests
          | start =>
              have hlive : view.Live request := by
                refine ⟨seen, hseen, ?_⟩
                obtain ⟨hcompleted, hfailed⟩ := hstart rfl
                cases seen with
                | completed => exact absurd rfl hcompleted
                | failed => exact absurd rfl hfailed
                | _ => rfl
              exact absurd hlive (hcancel.empty request)
  | opens hphase =>
      have hcloser := h.closer
      rw [hphase] at hcloser
      exact absurd (hcloser List.not_mem_nil) hne
  | closes hphase hopen => exact absurd (h.cancel hne).closed hopen
  | clears hphase =>
      have hcancel := h.cancel hne
      exact ⟨rfl, hcancel.empty, hcancel.unseen, rfl⟩
  | locks hphase =>
      have hcancel := h.cancel hne
      exact ⟨hcancel.closed, hcancel.empty, hcancel.unseen, rfl⟩
  | takes hphase =>
      have hrests := (h.cancel hne).rests
      rw [hphase] at hrests
      cases hrests
  | fails hphase =>
      have hrests := (h.cancel hne).rests
      rw [hphase] at hrests
      cases hrests
  | @finishes generation requestCancel request phase hphase hend =>
      have hcancel := h.cancel hne
      refine ⟨hcancel.closed, hcancel.empty, hcancel.unseen, ?_⟩
      cases requestCancel <;> rfl
  | cancels hphase =>
      have hclosed := hsteady.cancelling _ hphase
      have hempty := closed_empty h hclosed
        (congrArg LifecyclePhase.closes hphase)
      refine ⟨hclosed, hempty, ?_, rfl⟩
      exact fun client => (h.clients client).unseen hclosed
        (congrArg LifecyclePhase.awaits hphase)
  | unstages hphase =>
      have hcancel := h.cancel hne
      exact ⟨hcancel.closed, hcancel.empty, hcancel.unseen, rfl⟩
  | uncancels hphase => exact absurd rfl hne
  | resets hphase =>
      have hcancel := h.cancel hne
      exact ⟨rfl, hcancel.empty, hcancel.unseen, rfl⟩

theorem cancel_step (hsteady : view.Steady) (h : view.Orderly)
    (hstep : view.Step next) (hne : next.cancel ≠ 0) : next.CancelOk := by
  cases hstep with
  | lifecycle hstep => exact cancel_lifecycleStep hsteady h hstep hne
  | @client client next hstep =>
      have hbefore : view.cancel ≠ 0 := by
        cases hstep with
        | revert hclient =>
            have hfalse := h.clients client
            rw [hclient] at hfalse
            exact hfalse.elim
        | _ => exact hne
      exact cancel_clientStep h hstep (h.cancel hbefore)
  | owner hstep =>
      have hlive : ∀ request, next.Live request → view.Live request :=
        fun request => live_of_ownerStep h hstep
      cases hstep with
      | uncancel howner => exact absurd rfl hne
      | _ =>
          have hcancel := h.cancel hne
          exact ⟨hcancel.closed,
            fun request hnext => hcancel.empty request (hlive request hnext),
            hcancel.unseen, hcancel.rests⟩

/-! ## Staging -/

omit [DecidableEq ρ] in
theorem live_of_placed {request : ℕ} (hplaced : view.Placed request) :
    view.Live request := by
  obtain ⟨phase, hphase, htrue⟩ := hplaced
  refine ⟨phase, hphase, ?_⟩
  cases phase with
  | staged => rfl
  | active => rfl
  | _ => exact absurd htrue Bool.false_ne_true

omit [DecidableEq ρ] in
theorem placed_ownerStep (h : view.Orderly) (hstep : view.OwnerStep next)
    {request : ℕ} (hplaced : next.Placed request) :
    next.staged = some request ∨
      ∃ client, (next.clients client).publishing = some request := by
  have howned := h.owner
  cases hstep with
  | stay => exact h.placed request hplaced
  | move hnext => exact h.placed request hplaced
  | uncancel howner => exact h.placed request hplaced
  | progress howner => exact h.placed request hplaced
  | vanish howner => exact h.placed request hplaced
  | unstage howner =>
      rw [howner] at howned
      exact absurd (live_of_placed hplaced) ((h.cancel howned).empty request)
  | claim howner hphase =>
      exact h.placed request
        (placed_of_setPhase hphase (fun _ => rfl) hplaced)
  | take howner hphase =>
      exact h.placed request
        (placed_of_setPhase hphase (fun _ => rfl) hplaced)
  | finish howner hknown =>
      have hclaim := h.owner.claimed
        (congrArg MailboxOwnerPhase.claim howner)
      apply h.placed request
      apply placed_of_setPhase hclaim _ hplaced
      split <;> exact id
  | @clear own howner hstaged =>
      rw [howner] at howned
      obtain ⟨-, phase, hphase, hended⟩ := howned
      rcases h.placed request hplaced with hsame | hclient
      · rw [hstaged] at hsame
        cases hsame
        obtain ⟨now, hnow, htrue⟩ := hplaced
        rw [show view.phases request = some now from hnow] at hphase
        rw [← Option.some.inj hphase] at hended
        cases now with
        | staged => exact absurd hended Bool.false_ne_true
        | active => exact absurd hended Bool.false_ne_true
        | _ => exact absurd htrue Bool.false_ne_true
      · exact Or.inr hclient

omit [DecidableEq ρ] in
theorem placed_lifecycleStep (hsteady : view.Steady) (h : view.Orderly)
    (hstep : view.LifecycleStep next) {request : ℕ}
    (hplaced : next.Placed request) :
    next.staged = some request ∨
      ∃ client, (next.clients client).publishing = some request := by
  cases hstep with
  | takes hphase hseen =>
      apply h.placed request
      exact placed_of_setPhase hseen
        (fun hfalse : RequestPhase.placed .terminalizing = true =>
          absurd hfalse Bool.false_ne_true) hplaced
  | fails hphase hknown =>
      have hclaim := h.closer.claimed (congrArg LifecyclePhase.claim hphase)
      apply h.placed request
      exact placed_of_setPhase hclaim
        (fun hfalse : RequestPhase.placed .failed = true =>
          absurd hfalse Bool.false_ne_true) hplaced
  | unstages hphase =>
      have hempty := closed_empty h (hsteady.resetting _ hphase).1
        (congrArg LifecyclePhase.closes hphase) request
      exact absurd (live_of_placed hplaced) hempty
  | _ => exact h.placed request hplaced

theorem placed_clientStep (hsteady : view.Steady) (h : view.Orderly)
    {client : ρ} (hstep : view.ClientStep client next) {request : ℕ}
    (hplaced : next.Placed request) :
    next.staged = some request ∨
      ∃ client, (next.clients client).publishing = some request := by
  -- a client which does not publish stays no witness of a placed request
  have hother : ∀ {phase : ClientPhase},
      (view.clients client).publishing = none →
      (view.staged = some request ∨
        ∃ client, (view.clients client).publishing = some request) →
      (view.setClient client phase).staged = some request ∨
        ∃ other, ((view.setClient client phase).clients other).publishing =
          some request := by
    intro phase hnone hbefore
    rcases hbefore with hstaged | ⟨other, hpublishing⟩
    · exact Or.inl hstaged
    · refine Or.inr ⟨other, ?_⟩
      rw [setClient_of_ne]
      · exact hpublishing
      · rintro rfl
        rw [hnone] at hpublishing
        cases hpublishing
  cases hstep with
  | stay => exact h.placed request hplaced
  | move hnext =>
      have hbefore := h.placed request hplaced
      have hok := h.clients client
      cases hnext with
      | plain hplain hkeeps => exact hother hkeeps hbefore
      | stageReverting hclient hstaged =>
          rw [hclient] at hok
          exact absurd hok.1 hstaged
      | enqueueOpened hclient =>
          exact hother (congrArg ClientPhase.publishing hclient) hbefore
      | enqueueReady hclient =>
          exact hother (congrArg ClientPhase.publishing hclient) hbefore
      | enqueueLocked hclient =>
          exact hother (congrArg ClientPhase.publishing hclient) hbefore
      | enqueueChecked hclient =>
          exact hother (congrArg ClientPhase.publishing hclient) hbefore
      | stageOpened hclient =>
          exact hother (congrArg ClientPhase.publishing hclient) hbefore
      | stageCurrent hclient =>
          exact hother (congrArg ClientPhase.publishing hclient) hbefore
      | stageSearching hclient =>
          exact hother (congrArg ClientPhase.publishing hclient) hbefore
      | searched hclient =>
          exact hother (congrArg ClientPhase.publishing hclient) hbefore
      | stageFound hclient =>
          exact hother (congrArg ClientPhase.publishing hclient) hbefore
      | statusTerminalizing hclient =>
          exact hother (congrArg ClientPhase.publishing hclient) hbefore
  | enqueue hclient hnew =>
      have hbefore : view.Placed request := by
        obtain ⟨phase, hphase, htrue⟩ := hplaced
        rcases setPhase_cases hphase with hsame | ⟨-, rfl⟩
        · exact ⟨phase, hsame, htrue⟩
        · exact absurd htrue Bool.false_ne_true
      exact hother (congrArg ClientPhase.publishing hclient)
        (h.placed request hbefore)
  | @stage own hclient hphase =>
      by_cases heq : request = own
      · rw [heq]
        refine Or.inr ⟨client, ?_⟩
        rw [setClient_self]
        rfl
      · have hbefore : view.Placed request := by
          obtain ⟨now, hnow, htrue⟩ := hplaced
          exact ⟨now, (setPhase_of_ne heq).symm.trans hnow, htrue⟩
        exact hother (congrArg ClientPhase.publishing hclient)
          (h.placed request hbefore)
  | @publish own hclient hstaged =>
      rcases h.placed request hplaced with hsame | ⟨other, hpublishing⟩
      · rw [hstaged] at hsame
        cases hsame
      · -- only the client with the lock can be publishing
        have hholds : (view.clients other).holds = true := by
          cases hphase : view.clients other with
          | stagePublishing request => rfl
          | _ =>
              rw [hphase] at hpublishing
              cases hpublishing
        have hsame := hsteady.unique other client hholds (by
          rw [hclient]
          rfl)
        rw [hsame, hclient] at hpublishing
        exact Or.inl hpublishing
  | revert hclient =>
      have hfalse := h.clients client
      rw [hclient] at hfalse
      exact hfalse.elim

theorem orderly_step (hsteady : view.Steady) (h : view.Orderly)
    (hstep : view.Step next) : next.Orderly where
  numbered := fun _ _ => numbered_step h hstep
  live := fun _ => live_step hsteady h hstep
  clients := clients_step hsteady h hstep
  owner := owner_step hsteady h hstep
  closer := closer_step h hstep
  exclusive := fun _ => exclusive_step h hstep
  cancel := cancel_step hsteady h hstep
  placed := by
    intro request hplaced
    cases hstep with
    | owner hstep => exact placed_ownerStep h hstep hplaced
    | client hstep => exact placed_clientStep hsteady h hstep hplaced
    | lifecycle hstep => exact placed_lifecycleStep hsteady h hstep hplaced

end Steps

end MailboxView

namespace MailboxSystem

variable {σ κ ρ : Type}

theorem orderly_constructed (backend : σ) :
    (constructed backend : MailboxSystem σ ρ).view.Orderly where
  numbered := by
    intro _ _ hgeneration
    cases hgeneration
  live := by
    rintro _ ⟨_, hphase, -⟩
    cases hphase
  clients := fun _ => trivial
  owner := trivial
  closer := trivial
  exclusive := by
    intro _ hclaim
    cases hclaim
  cancel := fun hne => absurd rfl hne
  placed := by
    rintro _ ⟨_, hphase, -⟩
    cases hphase

structure Consistent (system : MailboxSystem σ ρ) : Prop where
  sound : system.Sound
  orderly : system.view.Orderly

theorem consistent_constructed (backend : σ) :
    (constructed backend : MailboxSystem σ ρ).Consistent :=
  ⟨sound_constructed backend, orderly_constructed backend⟩

theorem consistent_step [DecidableEq ρ] (calls : SdoBackend σ κ)
    (slave : EthercatSlaveAddress) (system : MailboxSystem σ ρ)
    (input : MailboxInput κ ρ) (h : system.Consistent) :
    (system.step calls slave input).1.Consistent where
  sound := sound_step calls slave h.sound input
  orderly := MailboxView.orderly_step h.sound.steady h.orderly
    (step_view calls slave h.sound.locked input)

/-- What holds in every interleaving. -/
theorem consistent_final [DecidableEq ρ] (calls : SdoBackend σ κ)
    (slave : EthercatSlaveAddress) (backend : σ)
    (inputs : List (MailboxInput κ ρ)) :
    ((machine calls slave).final (constructed backend) inputs).Consistent :=
  Machine.invariant_final Consistent (consistent_step calls slave)
    (consistent_constructed backend) inputs

end MailboxSystem

end PolicyRuntime
