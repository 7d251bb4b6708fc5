import PolicyRuntime.EthercatMailbox

/-!
# Locks and generations of a mailbox

A mailbox is open only for the generation which its master is using.  While the
master closes, the mailbox is closed first, and it stays closed until the master
offers it a new generation.
-/

namespace PolicyRuntime

/-! ## Locks -/

/-- Whether a client holds `requests_mutex_`. -/
def ClientPhase.holds : ClientPhase → Bool
  | .enqueueLocked _ _ => true
  | .enqueueChecked _ _ => true
  | .stageLocked => true
  | .stageOpened _ => true
  | .stageCurrent _ => true
  | .stageSearching _ _ => true
  | .stageFound _ => true
  | .stagePublishing _ => true
  | .stageReverting _ => true
  | .statusLocked _ => true
  | .statusTerminalizing _ => true
  | _ => false

/-- Whether the holder of `lifecycle_mutex_` also holds `requests_mutex_`. -/
def LifecyclePhase.holds : LifecyclePhase → Bool
  | .failing _ _ _ _ => true
  | _ => false

/-- Whether the master has made the call. -/
def LifecyclePhase.byParent : LifecyclePhase → Bool
  | .opening _ _ byParent => byParent
  | .parentCloseCalled _ => true
  | .parentClearing _ => true
  | .closing _ requestCancel => !requestCancel
  | .failing _ requestCancel _ _ => !requestCancel
  | .resetting _ => true
  | .done _ => true
  | _ => false

namespace MailboxSystem

variable {σ κ ρ : Type}

structure Locked (clients : ρ → ClientPhase) (lifecycle : LifecyclePhase)
    (mutex : Option (Option ρ)) : Prop where
  client : ∀ client, (clients client).holds = true ↔
    mutex = some (some client)
  lifecycle : lifecycle.holds = true ↔ mutex = some none

theorem locked_constructed (backend : σ) :
    Locked (constructed backend : MailboxSystem σ ρ).clients .free none where
  client := by
    intro client
    exact iff_of_false Bool.false_ne_true (Option.some_ne_none _).symm
  lifecycle := iff_of_false Bool.false_ne_true (Option.some_ne_none _).symm

section Locked

variable [DecidableEq ρ] {clients : ρ → ClientPhase}
  {lifecycle : LifecyclePhase} {mutex : Option (Option ρ)}

omit [DecidableEq ρ] in
theorem Locked.of_lifecycle (h : Locked clients lifecycle mutex)
    {next : LifecyclePhase} (hsame : next.holds = lifecycle.holds) :
    Locked clients next mutex where
  client := h.client
  lifecycle := by
    rw [hsame]
    exact h.lifecycle

theorem Locked.of_client (h : Locked clients lifecycle mutex) {client : ρ}
    {phase : ClientPhase} (hsame : phase.holds = (clients client).holds) :
    Locked (Function.update clients client phase) lifecycle mutex where
  client := by
    intro other
    by_cases hother : other = client
    · rw [hother, Function.update_self, hsame]
      exact h.client client
    · rw [Function.update_of_ne hother]
      exact h.client other
  lifecycle := h.lifecycle

theorem Locked.lock (h : Locked clients lifecycle none) {client : ρ}
    {phase : ClientPhase} (hholds : phase.holds = true) :
    Locked (Function.update clients client phase) lifecycle
      (some (some client)) where
  client := by
    intro other
    by_cases hother : other = client
    · rw [hother, Function.update_self]
      exact iff_of_true hholds rfl
    · rw [Function.update_of_ne hother]
      refine iff_of_false ?_ ?_
      · rw [h.client other]
        exact (Option.some_ne_none _).symm
      · intro heq
        cases heq
        exact hother rfl
  lifecycle := by
    refine iff_of_false ?_ ?_
    · rw [h.lifecycle]
      exact (Option.some_ne_none _).symm
    · intro heq
      cases heq

theorem Locked.unlock (h : Locked clients lifecycle mutex) {client : ρ}
    (hholds : (clients client).holds = true) :
    Locked (Function.update clients client .idle) lifecycle none where
  client := by
    intro other
    refine iff_of_false ?_ (Option.some_ne_none _).symm
    by_cases hother : other = client
    · rw [hother, Function.update_self]
      exact Bool.false_ne_true
    · rw [Function.update_of_ne hother, h.client other,
        (h.client client).mp hholds]
      intro heq
      cases heq
      exact hother rfl
  lifecycle := by
    refine iff_of_false ?_ (Option.some_ne_none _).symm
    rw [h.lifecycle, (h.client client).mp hholds]
    intro heq
    cases heq

omit [DecidableEq ρ] in
theorem Locked.lockLifecycle (h : Locked clients lifecycle none)
    {next : LifecyclePhase} (hholds : next.holds = true) :
    Locked clients next (some none) where
  client := by
    intro client
    refine iff_of_false ?_ ?_
    · rw [h.client client]
      exact (Option.some_ne_none _).symm
    · intro heq
      cases heq
  lifecycle := iff_of_true hholds rfl

omit [DecidableEq ρ] in
theorem Locked.unlockLifecycle (h : Locked clients lifecycle mutex)
    (hholds : lifecycle.holds = true) {next : LifecyclePhase}
    (hfree : next.holds = false) : Locked clients next none where
  client := by
    intro client
    refine iff_of_false ?_ (Option.some_ne_none _).symm
    rw [h.client client, h.lifecycle.mp hholds]
    intro heq
    cases heq
  lifecycle := by
    rw [hfree]
    exact iff_of_false Bool.false_ne_true (Option.some_ne_none _).symm

omit [DecidableEq ρ] in
/-- Only one thread holds the mutex. -/
theorem Locked.unique (h : Locked clients lifecycle mutex) {client other : ρ}
    (hclient : (clients client).holds = true)
    (hother : (clients other).holds = true) : client = other := by
  rw [h.client] at hclient hother
  rw [hclient] at hother
  cases hother
  rfl

omit [DecidableEq ρ] in
theorem Locked.exclusive (h : Locked clients lifecycle mutex) {client : ρ}
    (hclient : (clients client).holds = true) : lifecycle.holds = false := by
  rw [h.client] at hclient
  rw [← Bool.not_eq_true, h.lifecycle, hclient]
  intro heq
  cases heq

end Locked

/-! ## Frames -/

/-- What the owner leaves alone. -/
structure OwnerFrame (system next : MailboxSystem σ ρ) : Prop where
  openGeneration : next.openGeneration = system.openGeneration
  activeGeneration : next.activeGeneration = system.activeGeneration
  generation : next.generation = system.generation
  admissionOpen : next.admissionOpen = system.admissionOpen
  requestsMutex : next.requestsMutex = system.requestsMutex
  lifecycle : next.lifecycle = system.lifecycle
  master : next.master = system.master
  clients : next.clients = system.clients

theorem ownerFrame (calls : SdoBackend σ κ) (slave : EthercatSlaveAddress)
    (answer : κ) (system : MailboxSystem σ ρ) :
    OwnerFrame system (system.ownerStep calls slave answer).1 := by
  unfold ownerStep
  split
  case h_7 =>
    split <;> constructor <;> rfl
  case h_10 =>
    split <;> constructor <;> rfl
  case h_12 =>
    split <;> constructor <;> rfl
  all_goals first
    | (constructor <;> rfl)
    | (split <;> constructor <;> rfl)

/-- What a client leaves alone. -/
structure ClientFrame (system next : MailboxSystem σ ρ) : Prop where
  openGeneration : next.openGeneration = system.openGeneration
  cancelGeneration : next.cancelGeneration = system.cancelGeneration
  activeGeneration : next.activeGeneration = system.activeGeneration
  generation : next.generation = system.generation
  admissionOpen : next.admissionOpen = system.admissionOpen
  backend : next.backend = system.backend
  owner : next.owner = system.owner
  lifecycle : next.lifecycle = system.lifecycle
  master : next.master = system.master

/-- What the holder of `lifecycle_mutex_` leaves alone. -/
structure LifecycleFrame (system next : MailboxSystem σ ρ) : Prop where
  activeGeneration : next.activeGeneration = system.activeGeneration
  generation : next.generation = system.generation
  admissionOpen : next.admissionOpen = system.admissionOpen
  backend : next.backend = system.backend
  owner : next.owner = system.owner
  master : next.master = system.master
  clients : next.clients = system.clients

/-- What the master leaves alone. -/
structure MasterFrame (system next : MailboxSystem σ ρ) : Prop where
  requests : next.requests = system.requests
  staged : next.staged = system.staged
  openGeneration : next.openGeneration = system.openGeneration
  cancelGeneration : next.cancelGeneration = system.cancelGeneration
  requestsMutex : next.requestsMutex = system.requestsMutex
  owner : next.owner = system.owner
  clients : next.clients = system.clients

theorem masterFrame (calls : SdoBackend σ κ) (succeeds : Bool) (answer : κ)
    (system : MailboxSystem σ ρ) :
    MasterFrame system (system.masterStep calls succeeds answer).1 := by
  have hcall : ∀ call next,
      MasterFrame system (system.callMailbox call next) := by
    intro call next
    unfold callMailbox
    split <;> constructor <;> rfl
  have htake : ∀ next, MasterFrame system (system.takeReturn next) := by
    intro next
    unfold takeReturn
    split <;> constructor <;> rfl
  unfold masterStep
  split
  case h_3 =>
    dsimp only
    split <;> constructor <;> rfl
  case h_5 =>
    split
    · exact hcall _ _
    · constructor <;> rfl
  case h_6 => exact htake _
  case h_12 => exact hcall _ _
  case h_13 => exact htake _
  case h_16 => exact hcall _ _
  case h_17 =>
    split
    · split <;> constructor <;> rfl
    · constructor <;> rfl
  all_goals first
    | (constructor <;> rfl)
    | (split <;> constructor <;> rfl)

theorem lifecycleFrame (spurious : Bool) (system : MailboxSystem σ ρ) :
    LifecycleFrame system (system.lifecycleStep spurious).1 := by
  have hfail : ∀ generation requestCancel request current phase,
      LifecycleFrame system (system.failStep spurious generation requestCancel
        request current phase) := by
    intro generation requestCancel request current phase
    unfold failStep
    dsimp only
    split
    · split <;> constructor <;> rfl
    · split
      · constructor <;> rfl
      · split
        · split <;> constructor <;> rfl
        · split <;> constructor <;> rfl
    · constructor <;> rfl
  unfold lifecycleStep
  split
  case h_3 =>
    split
    · constructor <;> rfl
    · split <;> constructor <;> rfl
  case h_9 =>
    split
    · constructor <;> rfl
    · split
      · exact hfail _ _ _ _ _
      · constructor <;> rfl
  all_goals first
    | (constructor <;> rfl)
    | (split <;> constructor <;> rfl)

section Clients

variable [DecidableEq ρ]

theorem clientFrame_lock (system : MailboxSystem σ ρ) (client : ρ)
    (phase : ClientPhase) :
    ClientFrame system (system.lockRequests client phase) := by
  unfold lockRequests
  split <;> constructor <;> rfl

theorem clientFrame (system : MailboxSystem σ ρ) (client : ρ) :
    ClientFrame system (system.clientStep client).1 := by
  unfold clientStep
  split
  case h_3 =>
    split
    · constructor <;> rfl
    · split <;> constructor <;> rfl
  case h_4 => exact clientFrame_lock _ _ _
  case h_10 => exact clientFrame_lock _ _ _
  case h_14 =>
    split
    · constructor <;> rfl
    · split <;> constructor <;> rfl
  case h_18 => exact clientFrame_lock _ _ _
  case h_19 =>
    split
    · constructor <;> rfl
    · split <;> constructor <;> rfl
  case h_20 =>
    split
    · constructor <;> rfl
    · split <;> constructor <;> rfl
  all_goals first
    | (constructor <;> rfl)
    | (split <;> constructor <;> rfl)

theorem Locked.lockRequests {system : MailboxSystem σ ρ}
    (h : Locked system.clients system.lifecycle system.requestsMutex)
    (client : ρ) {phase : ClientPhase} (hholds : phase.holds = true) :
    Locked (system.lockRequests client phase).clients
      (system.lockRequests client phase).lifecycle
      (system.lockRequests client phase).requestsMutex := by
  unfold MailboxSystem.lockRequests
  cases hmutex : system.requestsMutex with
  | some holder =>
      dsimp only
      rw [hmutex]
      rw [hmutex] at h
      exact h
  | none =>
      rw [hmutex] at h
      exact h.lock hholds

theorem Locked.clientStep {system : MailboxSystem σ ρ}
    (h : Locked system.clients system.lifecycle system.requestsMutex)
    (client : ρ) :
    Locked (system.clientStep client).1.clients
      (system.clientStep client).1.lifecycle
      (system.clientStep client).1.requestsMutex := by
  have hset : ∀ phase, phase.holds = (system.clients client).holds →
      Locked (system.setClient client phase).clients system.lifecycle
        system.requestsMutex := fun phase hsame => h.of_client hsame
  have hunlock : (system.clients client).holds = true →
      Locked (system.unlockRequests client).clients system.lifecycle none :=
    fun hholds => h.unlock hholds
  unfold MailboxSystem.clientStep
  cases hphase : system.clients client with
  | idle => exact h
  | enqueueReady arguments generation => exact h.lockRequests client rfl
  | stageReady => exact h.lockRequests client rfl
  | statusCalled request => exact h.lockRequests client rfl
  | stagePublishing request =>
      rw [hphase] at hset hunlock
      dsimp only
      split
      · exact hunlock rfl
      · exact hset _ rfl
  | stageSearching generation request =>
      rw [hphase] at hset hunlock
      dsimp only
      split
      · exact hunlock rfl
      · split
        · exact hset _ rfl
        · exact hset _ rfl
  | enqueueOpened arguments generation =>
      rw [hphase] at hset
      dsimp only
      split
      · exact hset _ rfl
      · split
        · exact hset _ rfl
        · exact hset _ rfl
  | statusLocked request =>
      rw [hphase] at hset hunlock
      dsimp only
      split
      · exact hunlock rfl
      · split
        · exact hunlock rfl
        · exact hunlock rfl
        · exact hset _ rfl
        · exact hunlock rfl
  | statusTerminalizing request =>
      rw [hphase] at hunlock
      dsimp only
      split
      · exact hunlock rfl
      · split
        · exact hunlock rfl
        · exact hunlock rfl
  | _ =>
      rw [hphase] at hset hunlock
      dsimp only
      split
      all_goals first
        | exact hset _ rfl
        | exact hunlock rfl

end Clients

theorem Locked.lifecycleStep {system : MailboxSystem σ ρ} (spurious : Bool)
    (h : Locked system.clients system.lifecycle system.requestsMutex) :
    Locked (system.lifecycleStep spurious).1.clients
      (system.lifecycleStep spurious).1.lifecycle
      (system.lifecycleStep spurious).1.requestsMutex := by
  have hset : ∀ next : LifecyclePhase,
      next.holds = system.lifecycle.holds →
      Locked system.clients next system.requestsMutex :=
    fun next hsame => h.of_lifecycle hsame
  unfold MailboxSystem.lifecycleStep
  cases hphase : system.lifecycle with
  | closing generation requestCancel =>
      dsimp only
      cases hmutex : system.requestsMutex with
      | some holder => exact h
      | none =>
          rw [hmutex] at h
          exact h.lockLifecycle rfl
  | failing generation requestCancel request phase =>
      rw [hphase] at hset
      dsimp only
      split
      · apply h.unlockLifecycle
        · rw [hphase]
          rfl
        · split <;> rfl
      · split
        · unfold failStep
          dsimp only
          split
          · split <;> exact hset _ rfl
          · split
            · exact hset _ rfl
            · split
              · split
                · exact h
                · exact hset _ rfl
              · split <;> exact hset _ rfl
          · exact hset _ rfl
        · exact hset _ rfl
  | opening generation checks byParent =>
      rw [hphase] at hset
      cases checks with
      | nil =>
          dsimp only
          split <;> exact hset _ rfl
      | cons check rest =>
          dsimp only
          split
          · exact hset _ rfl
          · split <;> exact hset _ rfl
  | resetting stage =>
      rw [hphase] at hset
      split <;> first | exact hset _ rfl | (rename_i heq; cases heq)
  | free => exact h
  | done succeeded => exact h
  | _ =>
      rw [hphase] at hset
      dsimp only
      first
        | exact hset _ rfl
        | (split <;> exact hset _ rfl)

theorem Locked.masterStep {system : MailboxSystem σ ρ}
    (calls : SdoBackend σ κ) (succeeds : Bool) (answer : κ)
    (h : Locked system.clients system.lifecycle system.requestsMutex) :
    Locked (system.masterStep calls succeeds answer).1.clients
      (system.masterStep calls succeeds answer).1.lifecycle
      (system.masterStep calls succeeds answer).1.requestsMutex := by
  have hframe := masterFrame calls succeeds answer system
  rw [hframe.clients, hframe.requestsMutex]
  apply h.of_lifecycle
  have hcall : ∀ call next, call.holds = false →
      (system.callMailbox call next).lifecycle.holds =
        system.lifecycle.holds := by
    intro call next hholds
    unfold callMailbox
    split
    · next hfree =>
        rw [hfree]
        exact hholds
    · rfl
  have htake : ∀ next, (system.takeReturn next).lifecycle.holds =
      system.lifecycle.holds := by
    intro next
    unfold takeReturn
    split
    · next hdone =>
        rw [hdone]
        rfl
    · rfl
  unfold MailboxSystem.masterStep
  cases hphase : system.master with
  | offering generation =>
      dsimp only
      split
      · exact hcall _ _ rfl
      · rfl
  | offered generation => exact htake _
  | closing generation rollback => exact hcall _ _ rfl
  | closed generation rollback => exact htake _
  | resetting rollback => exact hcall _ _ rfl
  | reset rollback =>
      dsimp only
      split
      · next hdone =>
          rw [hdone]
          split <;> rfl
      · rfl
  | _ =>
      first
        | rfl
        | (dsimp only; split <;> rfl)

/-! ## Generations -/

end MailboxSystem

/-- The generation for which the mailboxes of a master may be open. -/
def MasterPhase.era (admissionOpen : Bool) (generation : ℕ) :
    MasterPhase → Option ℕ
  | .idle => if admissionOpen then some generation else none
  | .openCalled => if admissionOpen then some generation else none
  | .closeCalled => if admissionOpen then some generation else none
  | .offered offer => some offer
  | .confirming offer => some offer
  | .publishing offer => some offer
  | .admitting => some generation
  | .unpublishing => some generation
  | .closing offer _ => some offer
  | .closed offer _ => some offer
  | _ => none

/-- Whether `active_generation` may be set. -/
def MasterPhase.published (admissionOpen : Bool) : MasterPhase → Bool
  | .idle => admissionOpen
  | .openCalled => admissionOpen
  | .closeCalled => admissionOpen
  | .admitting => true
  | .unpublishing => true
  | _ => false

/-- Whether a cycle of the owner may be under way. -/
def MasterPhase.hosts (admissionOpen : Bool) : MasterPhase → Bool
  | .idle => admissionOpen
  | .openCalled => admissionOpen
  | .closeCalled => admissionOpen
  | .unpublishing => true
  | .closing _ rollback => !rollback
  | .closed _ rollback => !rollback
  | .waiting => true
  | _ => false

namespace MailboxSystem

variable {σ κ ρ : Type}

/-- What the phase of the master says about the call it has made. -/
def MasterOk (generation : ℕ) (lifecycle : LifecyclePhase) :
    MasterPhase → Prop
  | .offered offer =>
      (∃ checks, lifecycle = .opening offer checks true) ∨
        ∃ succeeded, lifecycle = .done succeeded
  | .publishing offer => generation = offer ∧ lifecycle.byParent = false
  | .closing closing rollback =>
      (rollback = false → closing = generation) ∧ lifecycle.byParent = false
  | .closed closing rollback =>
      (rollback = false → closing = generation) ∧
      (lifecycle = .parentCloseCalled closing ∨
        lifecycle = .parentClearing closing ∨
        lifecycle = .closing closing false ∨
        (∃ request phase, lifecycle = .failing closing false request phase) ∨
        ∃ succeeded, lifecycle = .done succeeded)
  | .reset _ =>
      (∃ stage, lifecycle = .resetting stage) ∨
        ∃ succeeded, lifecycle = .done succeeded
  | _ => lifecycle.byParent = false

/-- What the holder of `lifecycle_mutex_` says about the open generation. -/
def LifecycleOk (opened : ℕ) (era : Option ℕ) (master : MasterPhase) :
    LifecyclePhase → Prop
  | .opening generation checks byParent =>
      era = some generation ∧ (byParent = true → opened = 0) ∧
        (.closed ∉ checks → opened = 0)
  | .parentClearing generation => opened = generation
  | .closing _ _ => opened = 0
  | .failing _ _ _ _ => opened = 0
  | .cancelling _ => opened = 0
  | .done succeeded =>
      (∀ closing rollback, master = .closed closing rollback → opened = 0) ∧
        (∀ offer, master = .offered offer → succeeded = false → opened = 0)
  | _ => True

structure EraOk (opened active generation : ℕ) (admissionOpen : Bool)
    (lifecycle : LifecyclePhase) (master : MasterPhase) : Prop where
  open_era : opened ≠ 0 → master.era admissionOpen generation = some opened
  active_era : active ≠ 0 →
    master.published admissionOpen = true ∧ active = generation
  admission_phase : admissionOpen = true →
    master = .idle ∨ master = .openCalled ∨ master = .closeCalled
  master_ok : MasterOk generation lifecycle master
  lifecycle_ok : LifecycleOk opened (master.era admissionOpen generation) master
    lifecycle

theorem eraOk_constructed : EraOk 0 0 0 false .free .idle where
  open_era := fun h => absurd rfl h
  active_era := fun h => absurd rfl h
  admission_phase := fun h => absurd h Bool.false_ne_true
  master_ok := rfl
  lifecycle_ok := trivial

theorem era_of_published {admissionOpen : Bool} {generation : ℕ}
    {master : MasterPhase} (h : master.published admissionOpen = true) :
    master.era admissionOpen generation = some generation := by
  cases master with
  | idle => exact if_pos h
  | openCalled => exact if_pos h
  | closeCalled => exact if_pos h
  | admitting => rfl
  | unpublishing => rfl
  | _ => exact absurd h Bool.false_ne_true

section MasterOk

variable {generation offer : ℕ} {lifecycle next : LifecyclePhase}
  {master : MasterPhase}

/-- A call of a client leaves the master waiting for nothing. -/
theorem MasterOk.of_client (h : MasterOk generation lifecycle master)
    (hclient : lifecycle.byParent = false) (hnext : next.byParent = false) :
    MasterOk generation next master := by
  have hparent : ∀ other, lifecycle = other → other.byParent = true →
      False := by
    intro other heq htrue
    rw [← heq, hclient] at htrue
    exact Bool.false_ne_true htrue
  cases master with
  | offered offer =>
      rcases h with ⟨checks, heq⟩ | ⟨succeeded, heq⟩
      · exact (hparent _ heq rfl).elim
      · exact (hparent _ heq rfl).elim
  | closed closing rollback =>
      rcases h.2 with heq | heq | heq | ⟨request, phase, heq⟩ | ⟨_, heq⟩
      all_goals exact (hparent _ heq rfl).elim
  | reset rollback =>
      rcases h with ⟨stage, heq⟩ | ⟨succeeded, heq⟩
      · exact (hparent _ heq rfl).elim
      · exact (hparent _ heq rfl).elim
  | publishing offer => exact ⟨h.1, hnext⟩
  | closing closing rollback => exact ⟨h.1, hnext⟩
  | _ => exact hnext

theorem MasterOk.eq_offered {checks : List OpenCheck}
    (h : MasterOk generation (.opening offer checks true) master) :
    master = .offered offer := by
  cases master with
  | offered other =>
      rcases h with ⟨_, heq⟩ | ⟨_, heq⟩
      · cases heq
        rfl
      · cases heq
  | closed closing rollback =>
      rcases h.2 with heq | heq | heq | ⟨_, _, heq⟩ | ⟨_, heq⟩
      all_goals cases heq
  | reset rollback =>
      rcases h with ⟨_, heq⟩ | ⟨_, heq⟩
      all_goals cases heq
  | publishing offer => exact absurd h.2 Bool.false_ne_true.symm
  | closing closing rollback => exact absurd h.2 Bool.false_ne_true.symm
  | _ => exact absurd h Bool.false_ne_true.symm

/-- The calls by which the master closes the mailbox. -/
def ClosesFor (offer : ℕ) (lifecycle : LifecyclePhase) : Prop :=
  lifecycle = .parentCloseCalled offer ∨ lifecycle = .parentClearing offer ∨
    lifecycle = .closing offer false ∨
    ∃ request phase, lifecycle = .failing offer false request phase

theorem MasterOk.eq_closed (h : MasterOk generation lifecycle master)
    (hcloses : ClosesFor offer lifecycle) :
    ∃ rollback, master = .closed offer rollback ∧
      (rollback = false → offer = generation) := by
  have hparent : lifecycle.byParent = true := by
    rcases hcloses with heq | heq | heq | ⟨_, _, heq⟩
    all_goals
      rw [heq]
      rfl
  have hclient : lifecycle.byParent = false → False := by
    intro hfalse
    rw [hparent] at hfalse
    exact Bool.false_ne_true hfalse.symm
  cases master with
  | offered other =>
      rcases h with ⟨_, heq⟩ | ⟨_, heq⟩
      all_goals
        rw [heq] at hcloses
        rcases hcloses with hcase | hcase | hcase | ⟨_, _, hcase⟩
        all_goals cases hcase
  | reset rollback =>
      rcases h with ⟨_, heq⟩ | ⟨_, heq⟩
      all_goals
        rw [heq] at hcloses
        rcases hcloses with hcase | hcase | hcase | ⟨_, _, hcase⟩
        all_goals cases hcase
  | closed closing rollback =>
      obtain ⟨hgeneration, hphase⟩ := h
      have hsame : closing = offer := by
        rcases hphase with heq | heq | heq | ⟨_, _, heq⟩ | ⟨_, heq⟩
        all_goals
          rw [heq] at hcloses
          rcases hcloses with hcase | hcase | hcase | ⟨_, _, hcase⟩
          all_goals cases hcase
          all_goals rfl
      rw [← hsame]
      exact ⟨rollback, rfl, hgeneration⟩
  | publishing offer => exact (hclient h.2).elim
  | closing closing rollback => exact (hclient h.2).elim
  | _ => exact (hclient h).elim

theorem MasterOk.eq_reset {stage : ℕ}
    (h : MasterOk generation (.resetting stage) master) :
    ∃ rollback, master = .reset rollback := by
  cases master with
  | reset rollback => exact ⟨rollback, rfl⟩
  | offered other =>
      rcases h with ⟨_, heq⟩ | ⟨_, heq⟩
      all_goals cases heq
  | closed closing rollback =>
      rcases h.2 with heq | heq | heq | ⟨_, _, heq⟩ | ⟨_, heq⟩
      all_goals cases heq
  | publishing offer => exact absurd h.2 Bool.false_ne_true.symm
  | closing closing rollback => exact absurd h.2 Bool.false_ne_true.symm
  | _ => exact absurd h Bool.false_ne_true.symm

end MasterOk

section EraOk

variable {opened opened' active generation : ℕ} {admissionOpen : Bool}
  {lifecycle next : LifecyclePhase} {master : MasterPhase}

theorem EraOk.of_client
    (h : EraOk opened active generation admissionOpen lifecycle master)
    (hclient : lifecycle.byParent = false) (hnext : next.byParent = false)
    (hopen : opened' ≠ 0 →
      master.era admissionOpen generation = some opened')
    (hok : LifecycleOk opened' (master.era admissionOpen generation) master
      next) :
    EraOk opened' active generation admissionOpen next master :=
  ⟨hopen, h.active_era, h.admission_phase,
    h.master_ok.of_client hclient hnext, hok⟩

theorem EraOk.of_closing {offer : ℕ}
    (h : EraOk opened active generation admissionOpen lifecycle master)
    (hcloses : ClosesFor offer lifecycle) (hnext : ClosesFor offer next)
    (hopen : opened' ≠ 0 → opened' = offer)
    (hok : ∀ era, LifecycleOk opened' era master next) :
    EraOk opened' active generation admissionOpen next master := by
  obtain ⟨rollback, hmaster, hgeneration⟩ := h.master_ok.eq_closed hcloses
  refine ⟨?_, h.active_era, h.admission_phase, ?_, hok _⟩
  · intro hne
    rw [hmaster, hopen hne]
    rfl
  · rw [hmaster]
    refine ⟨hgeneration, ?_⟩
    rcases hnext with heq | heq | heq | hfails
    · exact Or.inl heq
    · exact Or.inr (Or.inl heq)
    · exact Or.inr (Or.inr (Or.inl heq))
    · exact Or.inr (Or.inr (Or.inr (Or.inl hfails)))

theorem EraOk.of_closed {offer : ℕ}
    (h : EraOk opened active generation admissionOpen lifecycle master)
    (hcloses : ClosesFor offer lifecycle) (hopen : opened = 0) :
    EraOk opened active generation admissionOpen (.done true) master := by
  obtain ⟨rollback, hmaster, hgeneration⟩ := h.master_ok.eq_closed hcloses
  refine ⟨h.open_era, h.active_era, h.admission_phase, ?_, ?_⟩
  · rw [hmaster]
    exact ⟨hgeneration, Or.inr (Or.inr (Or.inr (Or.inr ⟨true, rfl⟩)))⟩
  · refine ⟨fun _ _ _ => hopen, ?_⟩
    intro offer _ hfalse
    exact absurd hfalse Bool.false_ne_true.symm

/-- The steps of `close_generation` under `requests_mutex_`. -/
theorem EraOk.of_failing {offer request : ℕ} {requestCancel : Bool}
    {phase : FailPhase} {request' : ℕ} {phase' : FailPhase}
    (h : EraOk opened active generation admissionOpen
      (.failing offer requestCancel request phase) master) :
    EraOk opened active generation admissionOpen
      (.failing offer requestCancel request' phase') master := by
  have hclosed : opened = 0 := h.lifecycle_ok
  cases requestCancel with
  | true => exact h.of_client rfl rfl h.open_era hclosed
  | false =>
      apply h.of_closing (Or.inr (Or.inr (Or.inr ⟨request, phase, rfl⟩)))
        (Or.inr (Or.inr (Or.inr ⟨request', phase', rfl⟩)))
      · exact fun hne => absurd hclosed hne
      · exact fun _ => hclosed

theorem EraOk.opening
    (h : EraOk opened active generation admissionOpen lifecycle master)
    {offer : ℕ} {check : OpenCheck} {rest : List OpenCheck}
    {byParent : Bool}
    (hphase : lifecycle = .opening offer (check :: rest) byParent)
    (hpasses : check = .closed → opened = 0) :
    EraOk opened active generation admissionOpen
      (.opening offer rest byParent) master := by
  have hok := h.lifecycle_ok
  have hmaster := h.master_ok
  rw [hphase] at hok hmaster
  obtain ⟨hera, hparent, hclosed⟩ := hok
  have hnext : LifecycleOk opened (master.era admissionOpen generation)
      master (.opening offer rest byParent) := by
    refine ⟨hera, hparent, ?_⟩
    intro hmissing
    by_cases hcheck : check = .closed
    · exact hpasses hcheck
    · apply hclosed
      intro hmem
      rcases List.mem_cons.mp hmem with heq | hrest
      · exact hcheck heq.symm
      · exact hmissing hrest
  cases byParent with
  | false =>
      rw [hphase] at h
      exact h.of_client rfl rfl h.open_era hnext
  | true =>
      refine ⟨h.open_era, h.active_era, h.admission_phase, ?_, hnext⟩
      rw [hmaster.eq_offered]
      exact Or.inl ⟨rest, rfl⟩

theorem EraOk.stored
    (h : EraOk opened active generation admissionOpen lifecycle master)
    {offer : ℕ} {checks : List OpenCheck} {byParent : Bool}
    (hphase : lifecycle = .opening offer checks byParent) :
    EraOk offer active generation admissionOpen
      (if byParent then .done true else .free) master := by
  have hok := h.lifecycle_ok
  have hmaster := h.master_ok
  rw [hphase] at hok hmaster
  obtain ⟨hera, -, -⟩ := hok
  cases byParent with
  | false =>
      rw [hphase] at h
      exact h.of_client rfl rfl (fun _ => hera) trivial
  | true =>
      refine ⟨fun _ => hera, h.active_era, h.admission_phase, ?_, ?_, ?_⟩
      · rw [hmaster.eq_offered]
        exact Or.inr ⟨true, rfl⟩
      · intro closing rollback hclosed
        rw [hmaster.eq_offered] at hclosed
        cases hclosed
      · intro offer _ hfalse
        exact absurd hfalse Bool.false_ne_true.symm

theorem EraOk.refused
    (h : EraOk opened active generation admissionOpen lifecycle master)
    {offer : ℕ} {checks : List OpenCheck}
    (hphase : lifecycle = .opening offer checks true) :
    EraOk opened active generation admissionOpen (.done false) master := by
  have hok := h.lifecycle_ok
  have hmaster := h.master_ok
  rw [hphase] at hok hmaster
  obtain ⟨-, hparent, -⟩ := hok
  refine ⟨h.open_era, h.active_era, h.admission_phase, ?_, ?_, ?_⟩
  · rw [hmaster.eq_offered]
    exact Or.inr ⟨false, rfl⟩
  · intro _ _ _
    exact hparent rfl
  · intro _ _ _
    exact hparent rfl

theorem EraOk.of_reset {stage : ℕ}
    (h : EraOk opened active generation admissionOpen (.resetting stage)
      master)
    (hnext : (∃ stage, next = .resetting stage) ∨
      ∃ succeeded, next = .done succeeded)
    (hopen : opened' = opened ∨ opened' = 0) :
    EraOk opened' active generation admissionOpen next master := by
  obtain ⟨rollback, hmaster⟩ := h.master_ok.eq_reset
  have hzero : opened = 0 := by
    by_contra hne
    have hera := h.open_era hne
    rw [hmaster] at hera
    cases hera
  have hzero' : opened' = 0 := by
    rcases hopen with heq | heq
    · exact heq.trans hzero
    · exact heq
  refine ⟨fun hne => absurd hzero' hne, h.active_era, h.admission_phase, ?_,
    ?_⟩
  · rw [hmaster]
    exact hnext
  · rcases hnext with ⟨stage, rfl⟩ | ⟨succeeded, rfl⟩
    · trivial
    · exact ⟨fun _ _ _ => hzero', fun _ _ _ => hzero'⟩

theorem EraOk.parent_closed {offer : ℕ}
    (h : EraOk opened active generation admissionOpen
      (.parentCloseCalled offer) master)
    (hne : opened ≠ offer) : opened = 0 := by
  by_contra hopen
  obtain ⟨rollback, hmaster, -⟩ := h.master_ok.eq_closed (Or.inl rfl)
  have hera := h.open_era hopen
  rw [hmaster] at hera
  cases hera
  exact hne rfl

theorem EraOk.active_zero
    (h : EraOk opened active generation admissionOpen lifecycle master)
    (hpublished : master.published admissionOpen = false) : active = 0 := by
  by_contra hne
  obtain ⟨htrue, -⟩ := h.active_era hne
  rw [hpublished] at htrue
  exact Bool.false_ne_true htrue

theorem EraOk.refuses
    (h : EraOk opened active generation admissionOpen lifecycle master)
    (hidle : master ≠ .idle) (hopen : master ≠ .openCalled)
    (hclose : master ≠ .closeCalled) : admissionOpen = false := by
  rw [← Bool.not_eq_true]
  intro htrue
  rcases h.admission_phase htrue with heq | heq | heq
  · exact hidle heq
  · exact hopen heq
  · exact hclose heq

end EraOk

theorem LifecycleOk.of_master {opened : ℕ} {era : Option ℕ}
    {master next : MasterPhase} {lifecycle : LifecyclePhase}
    (h : LifecycleOk opened era master lifecycle)
    (hclient : lifecycle.byParent = false) :
    LifecycleOk opened era next lifecycle := by
  cases lifecycle with
  | done succeeded => exact absurd hclient Bool.false_ne_true.symm
  | _ => exact h

/-- A step of the master while it waits for no mailbox. -/
theorem EraOk.of_master {opened active active' generation generation' : ℕ}
    {admissionOpen admissionOpen' : Bool} {lifecycle : LifecyclePhase}
    {master next : MasterPhase}
    (h : EraOk opened active generation admissionOpen lifecycle master)
    (hclient : lifecycle.byParent = false)
    (hera : next.era admissionOpen' generation' =
      master.era admissionOpen generation)
    (hactive : active' ≠ 0 →
      next.published admissionOpen' = true ∧ active' = generation')
    (hadmission : admissionOpen' = true →
      next = .idle ∨ next = .openCalled ∨ next = .closeCalled)
    (hok : MasterOk generation' lifecycle next) :
    EraOk opened active' generation' admissionOpen' lifecycle next := by
  refine ⟨?_, hactive, hadmission, hok, ?_⟩
  · rw [hera]
    exact h.open_era
  · rw [hera]
    exact h.lifecycle_ok.of_master hclient

/-- The same, while the master has published nothing. -/
theorem EraOk.of_quiet {opened active generation generation' : ℕ}
    {admissionOpen : Bool} {lifecycle : LifecyclePhase}
    {master next : MasterPhase}
    (h : EraOk opened active generation admissionOpen lifecycle master)
    (hclient : lifecycle.byParent = false)
    (hpublished : master.published admissionOpen = false)
    (hadmission : admissionOpen = false)
    (hera : next.era admissionOpen generation' =
      master.era admissionOpen generation)
    (hok : MasterOk generation' lifecycle next) :
    EraOk opened active generation' admissionOpen lifecycle next := by
  refine h.of_master hclient hera ?_ ?_ hok
  · intro hne
    exact absurd (h.active_zero hpublished) hne
  · intro htrue
    exact absurd (hadmission.symm.trans htrue) Bool.false_ne_true

/-- The return of a call of the master. -/
theorem EraOk.of_return {opened active generation generation' : ℕ}
    {admissionOpen : Bool} {lifecycle : LifecyclePhase}
    {master next : MasterPhase}
    (h : EraOk opened active generation admissionOpen lifecycle master)
    (hpublished : master.published admissionOpen = false)
    (hadmission : admissionOpen = false)
    (hera : opened ≠ 0 → next.era admissionOpen generation' = some opened)
    (hok : MasterOk generation' .free next) :
    EraOk opened active generation' admissionOpen .free next := by
  refine ⟨hera, ?_, ?_, hok, trivial⟩
  · intro hne
    exact absurd (h.active_zero hpublished) hne
  · intro htrue
    exact absurd (hadmission.symm.trans htrue) Bool.false_ne_true

/-! ## Steps -/

def EraKept (system : MailboxSystem σ ρ) : Prop :=
  EraOk system.openGeneration system.activeGeneration system.generation
    system.admissionOpen system.lifecycle system.master

theorem eraKept_lifecycleStep (spurious : Bool)
    {system : MailboxSystem σ ρ} (h : system.EraKept) :
    (system.lifecycleStep spurious).1.EraKept := by
  unfold EraKept at h
  unfold lifecycleStep
  cases hphase : system.lifecycle with
  | free =>
      dsimp only
      unfold EraKept
      exact h
  | openCalled =>
      rw [hphase] at h
      dsimp only
      split
      · exact h.of_client rfl rfl h.open_era trivial
      · next hactive =>
          obtain ⟨hpublished, heq⟩ := h.active_era hactive
          apply h.of_client rfl rfl h.open_era
          refine ⟨?_, fun hfalse => absurd hfalse Bool.false_ne_true, ?_⟩
          · rw [heq]
            exact era_of_published hpublished
          · intro hmissing
            exact absurd (List.mem_cons_self ..) hmissing
  | opening generation checks byParent =>
      cases checks with
      | nil =>
          have hnext := h.stored hphase
          cases byParent with
          | false => exact hnext
          | true => exact hnext
      | cons check rest =>
          dsimp only
          split
          · next hpasses =>
              apply h.opening hphase
              intro hcheck
              rw [hcheck] at hpasses
              exact of_decide_eq_true hpasses
          · cases byParent with
            | true => exact h.refused hphase
            | false =>
                rw [hphase] at h
                exact h.of_client rfl rfl h.open_era trivial
  | closeCalled =>
      rw [hphase] at h
      dsimp only
      split
      · exact h.of_client rfl rfl h.open_era trivial
      · exact h.of_client rfl rfl (fun hne => absurd rfl hne) rfl
  | parentCloseCalled generation =>
      rw [hphase] at h
      dsimp only
      split
      · next heq =>
          exact h.of_closing (Or.inl rfl) (Or.inr (Or.inl rfl))
            (fun _ => heq) (fun _ => heq)
      · next hne =>
          have hzero := h.parent_closed hne
          exact h.of_closing (Or.inl rfl) (Or.inr (Or.inr (Or.inl rfl)))
            (fun hopen => absurd hzero hopen) (fun _ => hzero)
  | parentClearing generation =>
      rw [hphase] at h
      exact h.of_closing (Or.inr (Or.inl rfl)) (Or.inr (Or.inr (Or.inl rfl)))
        (fun hne => absurd rfl hne) (fun _ => rfl)
  | closing generation requestCancel =>
      rw [hphase] at h
      have hzero : system.openGeneration = 0 := h.lifecycle_ok
      dsimp only
      split
      · unfold EraKept
        rw [hphase]
        exact h
      · cases requestCancel with
        | true => exact h.of_client rfl rfl h.open_era hzero
        | false =>
            exact h.of_closing (Or.inr (Or.inr (Or.inl rfl)))
              (Or.inr (Or.inr (Or.inr ⟨0, .start, rfl⟩)))
              (fun hne => absurd hzero hne) (fun _ => hzero)
  | failing generation requestCancel request phase =>
      rw [hphase] at h
      have hzero : system.openGeneration = 0 := h.lifecycle_ok
      dsimp only
      split
      · cases requestCancel with
        | true => exact h.of_client rfl rfl h.open_era hzero
        | false =>
            exact h.of_closed
              (Or.inr (Or.inr (Or.inr ⟨request, phase, rfl⟩))) hzero
      · split
        · unfold failStep
          dsimp only
          split
          · split <;> exact h.of_failing
          · split
            · exact h.of_failing
            · split
              · split
                · unfold EraKept
                  rw [hphase]
                  exact h
                · exact h.of_failing
              · split <;> exact h.of_failing
          · exact h.of_failing
        · exact h.of_failing
  | cancelling generation =>
      rw [hphase] at h
      exact h.of_client rfl rfl h.open_era trivial
  | resetting stage =>
      rw [hphase] at h
      match stage with
      | 0 => exact h.of_reset (Or.inl ⟨1, rfl⟩) (Or.inl rfl)
      | 1 => exact h.of_reset (Or.inl ⟨2, rfl⟩) (Or.inl rfl)
      | stage + 2 => exact h.of_reset (Or.inr ⟨true, rfl⟩) (Or.inr rfl)
  | done succeeded =>
      dsimp only
      unfold EraKept
      exact h

/-- The master calls the mailbox. -/
theorem eraKept_callMailbox {system : MailboxSystem σ ρ} (h : system.EraKept)
    {call : LifecyclePhase} {next : MasterPhase}
    (hera : ∀ opened, opened ≠ 0 →
      system.master.era system.admissionOpen system.generation =
        some opened →
      next.era system.admissionOpen system.generation = some opened)
    (hpublished : system.master.published system.admissionOpen = false)
    (hadmission : system.admissionOpen = false)
    (hmaster : system.lifecycle.byParent = false →
      MasterOk system.generation call next)
    (hok : LifecycleOk system.openGeneration
      (next.era system.admissionOpen system.generation) next call) :
    (system.callMailbox call next).EraKept := by
  unfold EraKept at h
  unfold callMailbox
  split
  · next hfree =>
      have hactive := h.active_zero hpublished
      refine ⟨?_, fun hne => absurd hactive hne, ?_, hmaster ?_, hok⟩
      · intro hne
        exact hera _ hne (h.open_era hne)
      · intro htrue
        rw [hadmission] at htrue
        exact absurd htrue Bool.false_ne_true
      · rw [hfree]
        rfl
  · exact h

theorem eraKept_masterStep (calls : SdoBackend σ κ) (succeeds : Bool)
    (answer : κ) {system : MailboxSystem σ ρ} (h : system.EraKept) :
    (system.masterStep calls succeeds answer).1.EraKept := by
  have hkept := h
  unfold EraKept at h
  -- outside of these three phases the master refuses cycles
  have hrefuses : system.master ≠ .idle → system.master ≠ .openCalled →
      system.master ≠ .closeCalled → system.admissionOpen = false := h.refuses
  unfold masterStep
  cases hphase : system.master with
  | idle => exact hkept
  | openCalled =>
      rw [hphase] at h
      dsimp only
      split
      · exact h.of_master h.master_ok rfl h.active_era
          (fun _ => Or.inl rfl) h.master_ok
      · next hclosed =>
          have hfalse := Bool.eq_false_of_not_eq_true hclosed
          refine h.of_quiet h.master_ok hfalse hfalse ?_ h.master_ok
          rw [hfalse]
          rfl
  | closeCalled =>
      rw [hphase] at h
      dsimp only
      split
      · next hopen =>
          refine h.of_master h.master_ok ?_ ?_ ?_ h.master_ok
          · rw [hopen]
            rfl
          · exact fun hne => ⟨rfl, (h.active_era hne).2⟩
          · exact fun htrue => absurd htrue Bool.false_ne_true
      · exact h.of_master h.master_ok rfl h.active_era
          (fun _ => Or.inl rfl) h.master_ok
  | starting =>
      have hfalse := by
        apply hrefuses <;> (rw [hphase]; intro heq; cases heq)
      rw [hphase] at h
      dsimp only
      split
      · exact h.of_quiet h.master_ok rfl hfalse rfl h.master_ok
      · refine h.of_quiet h.master_ok rfl hfalse ?_ h.master_ok
        rw [hfalse]
        rfl
  | numbering =>
      have hfalse := by
        apply hrefuses <;> (rw [hphase]; intro heq; cases heq)
      rw [hphase] at h
      exact h.of_quiet h.master_ok rfl hfalse rfl h.master_ok
  | offering generation =>
      have hfalse := by
        apply hrefuses <;> (rw [hphase]; intro heq; cases heq)
      dsimp only
      split
      · have hzero : system.openGeneration = 0 := by
          by_contra hne
          have hera := h.open_era hne
          rw [hphase] at hera
          cases hera
        apply eraKept_callMailbox hkept
        · intro opened _ hera
          rw [hphase] at hera
          cases hera
        · rw [hphase]
          rfl
        · exact hfalse
        · exact fun _ => Or.inl ⟨openForParentChecks, rfl⟩
        · exact ⟨rfl, fun _ => hzero, fun _ => hzero⟩
      · rw [hphase] at h
        exact h.of_quiet h.master_ok rfl hfalse rfl h.master_ok
  | offered generation =>
      have hfalse := by
        apply hrefuses <;> (rw [hphase]; intro heq; cases heq)
      rw [hphase] at h
      dsimp only
      unfold takeReturn
      split
      · next succeeded hdone =>
          rw [hdone] at h
          cases succeeded with
          | true => exact h.of_return rfl hfalse h.open_era rfl
          | false =>
              have hzero := h.lifecycle_ok.2 generation rfl rfl
              exact h.of_return rfl hfalse (fun hne => absurd hzero hne) rfl
      · exact hkept
  | confirming generation =>
      have hfalse := by
        apply hrefuses <;> (rw [hphase]; intro heq; cases heq)
      rw [hphase] at h
      dsimp only
      split
      · exact h.of_quiet h.master_ok rfl hfalse rfl ⟨rfl, h.master_ok⟩
      · exact h.of_quiet h.master_ok rfl hfalse rfl
          ⟨fun htrue => absurd htrue Bool.false_ne_true.symm, h.master_ok⟩
  | publishing generation =>
      have hfalse := by
        apply hrefuses <;> (rw [hphase]; intro heq; cases heq)
      rw [hphase] at h
      obtain ⟨hgeneration, hclient⟩ := h.master_ok
      refine h.of_master hclient ?_ ?_ ?_ hclient
      · exact congrArg some hgeneration
      · exact fun _ => ⟨rfl, hgeneration.symm⟩
      · intro htrue
        exact absurd (hfalse.symm.trans htrue) Bool.false_ne_true
  | admitting =>
      rw [hphase] at h
      refine h.of_master h.master_ok rfl ?_ (fun _ => Or.inl rfl) h.master_ok
      exact fun hne => ⟨rfl, (h.active_era hne).2⟩
  | unpublishing =>
      have hfalse := by
        apply hrefuses <;> (rw [hphase]; intro heq; cases heq)
      rw [hphase] at h
      refine h.of_master h.master_ok rfl (fun hne => absurd rfl hne) ?_
        ⟨fun _ => rfl, h.master_ok⟩
      intro htrue
      exact absurd (hfalse.symm.trans htrue) Bool.false_ne_true
  | closing generation rollback =>
      have hfalse := by
        apply hrefuses <;> (rw [hphase]; intro heq; cases heq)
      have hmaster := h.master_ok
      rw [hphase] at hmaster
      apply eraKept_callMailbox hkept
      · intro opened _ hera
        rw [hphase] at hera
        exact hera
      · rw [hphase]
        rfl
      · exact hfalse
      · exact fun _ => ⟨hmaster.1, Or.inl rfl⟩
      · trivial
  | closed generation rollback =>
      have hfalse := by
        apply hrefuses <;> (rw [hphase]; intro heq; cases heq)
      rw [hphase] at h
      dsimp only
      unfold takeReturn
      split
      · next succeeded hdone =>
          rw [hdone] at h
          have hzero := h.lifecycle_ok.1 generation rollback rfl
          cases rollback with
          | true =>
              exact h.of_return rfl hfalse (fun hne => absurd hzero hne) rfl
          | false =>
              exact h.of_return rfl hfalse (fun hne => absurd hzero hne) rfl
      · exact hkept
  | waiting =>
      have hfalse := by
        apply hrefuses <;> (rw [hphase]; intro heq; cases heq)
      rw [hphase] at h
      dsimp only
      split
      · exact h.of_quiet h.master_ok rfl hfalse rfl h.master_ok
      · exact hkept
  | deactivating rollback =>
      have hfalse := by
        apply hrefuses <;> (rw [hphase]; intro heq; cases heq)
      rw [hphase] at h
      exact h.of_quiet h.master_ok rfl hfalse rfl h.master_ok
  | resetting rollback =>
      have hfalse := by
        apply hrefuses <;> (rw [hphase]; intro heq; cases heq)
      apply eraKept_callMailbox hkept
      · intro opened _ hera
        rw [hphase] at hera
        exact hera
      · rw [hphase]
        rfl
      · exact hfalse
      · exact fun _ => Or.inl ⟨0, rfl⟩
      · trivial
  | reset rollback =>
      have hfalse := by
        apply hrefuses <;> (rw [hphase]; intro heq; cases heq)
      rw [hphase] at h
      have hzero : system.openGeneration = 0 := by
        by_contra hne
        cases h.open_era hne
      dsimp only
      split
      · split
        · exact h.of_return rfl hfalse (fun hne => absurd hzero hne) rfl
        · exact h.of_return rfl hfalse (fun hne => absurd hzero hne) rfl
      · exact hkept

end MailboxSystem

end PolicyRuntime
