import PolicyRuntime.MailboxOrder

/-!
# Results of mailbox requests

`mailbox_status` reports a request in `terminalizing` as failed once its
generation is no longer open.  The owner may have decided before that the
request is still current, and then it stores a completion afterwards.  Apart
from this, what has been reported stays.
-/

namespace PolicyRuntime

namespace MailboxView

variable {ρ : Type}

/-- Whether a request belongs to a generation which is not open. -/
def Shut (view : MailboxView ρ) (request : ℕ) : Prop :=
  ∃ generation, view.generations request = some generation ∧
    view.opened ≠ generation

/-- Whether the owner can no longer complete a request. -/
def Doomed (view : MailboxView ρ) (request : ℕ) : Prop :=
  ∀ progress stillCurrent,
    view.owner = .storing request progress stillCurrent →
    view.completes request progress stillCurrent = false

theorem doomed_of_claim {view : MailboxView ρ} {request : ℕ}
    (hclaim : view.owner.claim = none) : view.Doomed request := by
  intro progress stillCurrent howner
  rw [howner] at hclaim
  cases hclaim

/-- A completed request which no thread is about to change. -/
structure KeepsCompleted (view : MailboxView ρ) (request : ℕ) : Prop where
  completed : view.phases request = some .completed
  untried : view.lifecycle.tried ≠ some request
  unseen : ∀ client, view.clients client ≠ .statusTerminalizing request

/-- A request which has failed, or which can only fail. -/
structure KeepsFailed (view : MailboxView ρ) (request : ℕ) : Prop where
  phase : view.phases request = some .failed ∨
    view.phases request = some .terminalizing ∧ view.Shut request ∧
      view.Doomed request
  shut : ∀ client, view.clients client = .statusTerminalizing request →
    view.Shut request

section Steps

variable [DecidableEq ρ] {view next : MailboxView ρ} {request : ℕ}

/-- A settled phase changes only when `fail_request` takes it. -/
theorem settled_step (h : view.Orderly) (hstep : view.Step next)
    {phase : RequestPhase} (hsettled : phase = .completed ∨ phase = .failed)
    (hphase : view.phases request = some phase)
    (huntried : phase = .completed → view.lifecycle.tried ≠ some request) :
    next.phases request = some phase := by
  have hother : ∀ {own : ℕ} {old new : RequestPhase},
      view.phases own = some old → old.live = true →
      (view.setPhase own new).phases request = some phase := by
    intro own old new hold hlive
    apply setPhase_keeps hold _ hphase
    rintro rfl
    rcases hsettled with rfl | rfl <;> cases hlive
  cases hstep with
  | owner hstep =>
      cases hstep with
      | claim howner hstaged => exact hother hstaged rfl
      | take howner hactive => exact hother hactive rfl
      | finish howner hknown =>
          exact hother (h.owner.claimed
            (congrArg MailboxOwnerPhase.claim howner)) rfl
      | _ => exact hphase
  | @client client next hstep =>
      cases hstep with
      | enqueue hclient hnew =>
          refine (setPhase_of_ne ?_).trans hphase
          rintro rfl
          rw [hnew] at hphase
          cases hphase
      | stage hclient hqueued => exact hother hqueued rfl
      | revert hclient =>
          have hfalse := h.clients client
          rw [hclient] at hfalse
          exact hfalse.elim
      | _ => exact hphase
  | lifecycle hstep =>
      cases hstep with
      | takes hlifecycle hseen hfailed =>
          refine (setPhase_of_ne ?_).trans hphase
          rintro rfl
          rcases hsettled with rfl | rfl
          · apply huntried rfl
            rw [hlifecycle]
            rfl
          · rw [hphase] at hseen
            exact hfailed (Option.some.inj hseen).symm
      | fails hlifecycle =>
          exact hother (h.closer.claimed
            (congrArg LifecyclePhase.claim hlifecycle)) rfl
      | _ => exact hphase

theorem clients_statusTerminalizing (h : view.Orderly)
    (hstep : view.Step next) {client : ρ}
    (hnext : next.clients client = .statusTerminalizing request) :
    view.clients client = .statusTerminalizing request ∨
      view.phases request = some .terminalizing := by
  cases hstep with
  | owner hstep => cases hstep <;> exact Or.inl hnext
  | lifecycle hstep => cases hstep <;> exact Or.inl hnext
  | @client moving next hstep =>
      have hset : ∀ phase : ClientPhase,
          phase ≠ .statusTerminalizing request →
          (view.setClient moving phase).clients client =
            .statusTerminalizing request →
          view.clients client = .statusTerminalizing request := by
        intro phase hne hclient
        by_cases heq : client = moving
        · rw [heq, setClient_self] at hclient
          exact absurd hclient hne
        · rw [setClient_of_ne heq] at hclient
          exact hclient
      cases hstep with
      | stay => exact Or.inl hnext
      | move hmove =>
          by_cases hphase : view.phases request = some .terminalizing
          · exact Or.inr hphase
          · refine Or.inl (hset _ ?_ hnext)
            rintro rfl
            cases hmove with
            | plain hplain => exact Bool.false_ne_true hplain
            | statusTerminalizing hclient hseen => exact hphase hseen
      | enqueue => exact Or.inl (hset .idle (by simp) hnext)
      | stage => exact Or.inl (hset _ (by simp) hnext)
      | publish => exact Or.inl (hset .idle (by simp) hnext)
      | revert hclient =>
          have hfalse := h.clients moving
          rw [hclient] at hfalse
          exact hfalse.elim

theorem keepsCompleted_step (h : view.Orderly) (hstep : view.Step next)
    (hkeeps : view.KeepsCompleted request) :
    next.KeepsCompleted request := by
  obtain ⟨hcompleted, huntried, hunseen⟩ := hkeeps
  refine ⟨settled_step h hstep (Or.inl rfl) hcompleted fun _ => huntried,
    ?_, ?_⟩
  · have hnone : ∀ phase : LifecyclePhase, phase.tried = none →
        phase.tried ≠ some request := by
      intro phase heq
      rw [heq]
      exact (Option.some_ne_none _).symm
    cases hstep with
    | owner hstep => cases hstep <;> exact huntried
    | @client client next hstep =>
        cases hstep with
        | revert hclient =>
            have hfalse := h.clients client
            rw [hclient] at hfalse
            exact hfalse.elim
        | _ => exact huntried
    | lifecycle hstep =>
        cases hstep with
        | stay => exact huntried
        | move hnext =>
            cases hnext with
            | plain hplain hkeeps => exact hnone _ (plain_tried hplain)
            | @loads generation requestCancel own phase seen hphase
                hgeneration hseen hstart =>
                intro hsame
                cases hsame
                rw [hcompleted] at hseen
                cases hseen
                cases phase with
                | start => exact (hstart rfl).1 rfl
                | _ =>
                    apply huntried
                    rw [hphase]
                    rfl
            | _ => exact hnone _ rfl
        | opens hphase hplain => exact hnone _ (plain_tried hplain)
        | takes hphase =>
            intro hsame
            apply huntried
            rw [hphase]
            exact hsame
        | @finishes generation requestCancel own phase hphase hend =>
            apply hnone
            cases requestCancel <;> rfl
        | _ => exact hnone _ rfl
  · intro client hnext
    rcases clients_statusTerminalizing h hstep hnext with hsame | hphase
    · exact hunseen client hsame
    · rw [hcompleted] at hphase
      cases hphase

/-- A generation which is being closed stays closed until its requests have
ended. -/
theorem shut_step (h : view.Orderly) (hstep : view.Step next) {generation : ℕ}
    (hown : view.generations request = some generation)
    (hguarded : view.Guarded request generation)
    (hshut : view.Shut request) : next.Shut request := by
  have hnext := generations_step h hstep hown
  obtain ⟨own, hsame, hclosed⟩ := hshut
  rw [hown] at hsame
  cases hsame
  have hzero : (0 : ℕ) ≠ generation := Ne.symm (h.numbered _ _ hown)
  refine ⟨generation, hnext, ?_⟩
  cases hstep with
  | owner hstep => cases hstep <;> exact hclosed
  | @client client next hstep =>
      cases hstep with
      | revert hclient =>
          have hfalse := h.clients client
          rw [hclient] at hfalse
          exact hfalse.elim
      | _ => exact hclosed
  | lifecycle hstep =>
      cases hstep with
      | opens hphase =>
          have hopen :=
            hguarded.opened (congrArg LifecyclePhase.closes hphase)
          exact absurd hopen hclosed
      | closes hphase => exact hzero
      | clears hphase => exact hzero
      | resets hphase => exact hzero
      | _ => exact hclosed

omit [DecidableEq ρ] in
theorem doomed_ownerNext (h : view.Orderly) {phase : MailboxOwnerPhase}
    (hnext : view.OwnerNext phase)
    (habandoned : ∀ progress, view.completes request progress false = false)
    (hshut : view.Shut request) (progress : SdoTransferProgress)
    (stillCurrent : Bool)
    (hphase : phase = .storing request progress stillCurrent) :
    view.completes request progress stillCurrent = false := by
  have hok := h.owner
  cases hnext with
  | plain hplain hclaim =>
      rw [hphase] at hplain
      exact absurd hplain Bool.false_ne_true
  | abandoned howner =>
      cases hphase
      exact habandoned progress
  | @decided parent own seen howner =>
      cases hphase
      rw [howner] at hok
      obtain ⟨generation, hown, hclosed⟩ := hshut
      have hparent := hok.2.1
      rw [hown] at hparent
      rw [← Option.some.inj hparent, decide_eq_false hclosed]
      exact habandoned progress
  | _ => cases hphase

/-- Once its generation is shut, a request in `terminalizing` only fails. -/
theorem doomed_step (h : view.Orderly) (hstep : view.Step next)
    (habandoned : ∀ progress, view.completes request progress false = false)
    (hterminalizing : view.phases request = some .terminalizing)
    (hshut : view.Shut request) (hdoomed : view.Doomed request) :
    next.phases request = some .failed ∨
      next.phases request = some .terminalizing ∧ next.Doomed request := by
  have hkeeps : ∀ {own : ℕ} {old new : RequestPhase},
      view.phases own = some old → old ≠ .terminalizing →
      (view.setPhase own new).phases request = some .terminalizing := by
    intro own old new hold hne
    exact setPhase_keeps hold (Ne.symm hne) hterminalizing
  cases hstep with
  | owner hstep =>
      cases hstep with
      | stay => exact Or.inr ⟨hterminalizing, hdoomed⟩
      | move hnext =>
          exact Or.inr ⟨hterminalizing,
            doomed_ownerNext h hnext habandoned hshut⟩
      | unstage howner => exact Or.inr ⟨hterminalizing, doomed_of_claim rfl⟩
      | uncancel howner => exact Or.inr ⟨hterminalizing, doomed_of_claim rfl⟩
      | claim howner hphase =>
          exact Or.inr ⟨hkeeps hphase (by simp), doomed_of_claim rfl⟩
      | progress howner completes hnext =>
          refine Or.inr ⟨hterminalizing, doomed_of_claim ?_⟩
          rcases hnext with rfl | ⟨progress, rfl⟩ <;> rfl
      | take howner hphase =>
          refine Or.inr ⟨hkeeps hphase (by simp), ?_⟩
          intro progress stillCurrent hstoring
          cases hstoring
      | @finish own progress stillCurrent howner hknown =>
          by_cases heq : request = own
          · rw [← heq] at howner
            refine Or.inl ?_
            rw [← heq, hdoomed _ _ howner]
            exact setPhase_self _ _ _
          · exact Or.inr ⟨(setPhase_of_ne heq).trans hterminalizing,
              doomed_of_claim rfl⟩
      | vanish howner => exact Or.inr ⟨hterminalizing, doomed_of_claim rfl⟩
      | clear howner => exact Or.inr ⟨hterminalizing, doomed_of_claim rfl⟩
  | @client client next hstep =>
      cases hstep with
      | stay => exact Or.inr ⟨hterminalizing, hdoomed⟩
      | move hnext => exact Or.inr ⟨hterminalizing, hdoomed⟩
      | publish hclient => exact Or.inr ⟨hterminalizing, hdoomed⟩
      | stage hclient hqueued =>
          exact Or.inr ⟨hkeeps hqueued (by simp), hdoomed⟩
      | @enqueue arguments generation added hclient hnew hfresh completes
          hcompletes =>
          have hne : request ≠ added := by
            rintro rfl
            rw [hterminalizing] at hnew
            cases hnew
          refine Or.inr ⟨(setPhase_of_ne hne).trans hterminalizing, ?_⟩
          intro progress stillCurrent howner
          show completes request progress stillCurrent = false
          rw [hcompletes request hne]
          exact hdoomed progress stillCurrent howner
      | revert hclient =>
          have hfalse := h.clients client
          rw [hclient] at hfalse
          exact hfalse.elim
  | lifecycle hstep =>
      cases hstep with
      | takes hphase hseen hfailed hne =>
          exact Or.inr ⟨hkeeps hseen hne, hdoomed⟩
      | @fails generation requestCancel own hphase hknown =>
          by_cases heq : request = own
          · rw [heq]
            exact Or.inl (setPhase_self _ _ _)
          · exact Or.inr ⟨(setPhase_of_ne heq).trans hterminalizing, hdoomed⟩
      | _ => exact Or.inr ⟨hterminalizing, hdoomed⟩

theorem keepsFailed_step (h : view.Orderly) (hstep : view.Step next)
    (habandoned : ∀ progress, view.completes request progress false = false)
    (hkeeps : view.KeepsFailed request) : next.KeepsFailed request := by
  obtain ⟨hphase, hshut⟩ := hkeeps
  constructor
  · rcases hphase with hfailed | ⟨hterminalizing, hclosed, hdoomed⟩
    · refine Or.inl (settled_step h hstep (Or.inr rfl) hfailed ?_)
      intro hfalse
      cases hfalse
    · obtain ⟨generation, hown, hguarded⟩ :=
        h.live request ⟨_, hterminalizing, rfl⟩
      have hnext := shut_step h hstep hown hguarded hclosed
      rcases doomed_step h hstep habandoned hterminalizing hclosed hdoomed with
        hfailed | ⟨hphase, hdoomed⟩
      · exact Or.inl hfailed
      · exact Or.inr ⟨hphase, hnext, hdoomed⟩
  · intro client hclient
    rcases clients_statusTerminalizing h hstep hclient with hsame | hnow
    · have hok := h.clients client
      rw [hsame] at hok
      obtain ⟨-, generation, hown, -, hseen⟩ := hok
      exact shut_step h hstep hown (Or.inl hseen)
        (hshut client hsame)
    · obtain ⟨generation, hown, hguarded⟩ := h.live request ⟨_, hnow, rfl⟩
      rcases hphase with hfailed | ⟨-, hclosed, -⟩
      · rw [hnow] at hfailed
        cases hfailed
      · exact shut_step h hstep hown hguarded hclosed

end Steps

end MailboxView

/-! ## Reports -/

def MailboxOutput.reportedState {ρ : Type} :
    MailboxOutput ρ → Option (ℕ × Option MailboxRequestState)
  | .reported _ request status =>
      some (request, status.map MailboxRequestStatus.state)
  | _ => none

namespace MailboxSystem

variable {σ κ ρ : Type}

/-- What a client reports, and where it stands before. -/
inductive Reports (system : MailboxSystem σ ρ) (client : ρ) (request : ℕ) :
    Option MailboxRequestStatus → Prop
  | unknown (hget : system.requests[request]? = none) :
      Reports system client request none
  | completed {current : MailboxRequest}
      (hclient : system.clients client = .statusLocked request)
      (hget : system.requests[request]? = some current)
      (hphase : current.phase = .completed) :
      Reports system client request (some current.completedStatus)
  | failed {current : MailboxRequest}
      (hclient : system.clients client = .statusLocked request)
      (hget : system.requests[request]? = some current)
      (hphase : current.phase = .failed) :
      Reports system client request (some current.failedStatus)
  | queued {current : MailboxRequest}
      (hclient : system.clients client = .statusLocked request)
      (hget : system.requests[request]? = some current)
      (hcompleted : current.phase ≠ .completed)
      (hfailed : current.phase ≠ .failed)
      (hterminalizing : current.phase ≠ .terminalizing) :
      Reports system client request (some .queued)
  | shut {current : MailboxRequest}
      (hclient : system.clients client = .statusTerminalizing request)
      (hget : system.requests[request]? = some current)
      (hclosed : system.openGeneration ≠ current.generation) :
      Reports system client request (some current.failedStatus)
  | open_ {current : MailboxRequest}
      (hclient : system.clients client = .statusTerminalizing request)
      (hget : system.requests[request]? = some current)
      (hopen : system.openGeneration = current.generation) :
      Reports system client request (some .queued)

section Machine

variable [DecidableEq ρ]

theorem clientStep_reports {system : MailboxSystem σ ρ} {client other : ρ}
    {request : ℕ} {status : Option MailboxRequestStatus}
    (hreport : (system.clientStep client).2 =
      .reported other request status) :
    other = client ∧ system.Reports client request status := by
  unfold clientStep at hreport
  cases hclient : system.clients client with
  | statusLocked own =>
      rw [hclient] at hreport
      dsimp only at hreport
      split at hreport
      · next hget =>
          cases hreport
          exact ⟨rfl, .unknown hget⟩
      · next current hget =>
          split at hreport
          · next hphase =>
              cases hreport
              exact ⟨rfl, .completed hclient hget hphase⟩
          · next hphase =>
              cases hreport
              exact ⟨rfl, .failed hclient hget hphase⟩
          · cases hreport
          · next hcompleted hfailed hterminalizing =>
              cases hreport
              exact ⟨rfl, .queued hclient hget hcompleted hfailed
                hterminalizing⟩
  | statusTerminalizing own =>
      rw [hclient] at hreport
      dsimp only at hreport
      split at hreport
      · next hget =>
          cases hreport
          exact ⟨rfl, .unknown hget⟩
      · next current hget =>
          split at hreport
          · next hclosed =>
              cases hreport
              exact ⟨rfl, .shut hclient hget hclosed⟩
          · next hopen =>
              cases hreport
              exact ⟨rfl, .open_ hclient hget (not_not.mp hopen)⟩
  | enqueueOpened arguments generation =>
      rw [hclient] at hreport
      dsimp only at hreport
      split at hreport
      · cases hreport
      · split at hreport <;> cases hreport
  | stageSearching generation own =>
      rw [hclient] at hreport
      dsimp only at hreport
      split at hreport
      · cases hreport
      · split at hreport <;> cases hreport
  | _ =>
      rw [hclient] at hreport
      dsimp only at hreport
      first
        | cases hreport
        | (split at hreport <;> cases hreport)

theorem step_reports {calls : SdoBackend σ κ} {slave : EthercatSlaveAddress}
    {system : MailboxSystem σ ρ} {input : MailboxInput κ ρ} {client : ρ}
    {request : ℕ} {status : Option MailboxRequestStatus}
    (hreport : (system.step calls slave input).2 =
      .reported client request status) :
    input = .client client ∧ system.Reports client request status := by
  cases input with
  | client own =>
      obtain ⟨rfl, hreports⟩ := clientStep_reports hreport
      exact ⟨rfl, hreports⟩
  | lifecycle spurious =>
      have hthread := lifecycleStep_thread spurious system
      rw [show (system.lifecycleStep spurious).2 = _ from hreport] at hthread
      rcases hthread with heq | heq <;> cases heq
  | master succeeds answer =>
      have hthread := masterStep_thread calls succeeds answer system
      rw [show (system.masterStep calls succeeds answer).2 = _ from
        hreport] at hthread
      rcases hthread with heq | heq <;> cases heq
  | owner answer =>
      have hthread := ownerStep_thread calls slave answer system
      rw [show (system.ownerStep calls slave answer).2 = _ from
        hreport] at hthread
      rcases hthread with heq | heq <;> cases heq
  | ownerCycle =>
      unfold step at hreport
      dsimp only at hreport
      split at hreport
      · split at hreport <;> cases hreport
      · cases hreport
  | ownerReach reaches =>
      unfold step at hreport
      dsimp only at hreport
      split at hreport
      · split at hreport <;> cases hreport
      · cases hreport
      · cases hreport
  | ownerOther other answer transfer =>
      unfold step at hreport
      dsimp only at hreport
      split at hreport <;> cases hreport
  | _ => cases hreport

/-! ## Runs -/

omit [DecidableEq ρ] in
theorem completes_abandoned (system : MailboxSystem σ ρ) (request : ℕ)
    (progress : SdoTransferProgress) :
    system.view.completes request progress false = false := by
  show completesAt system.requests request progress false = false
  unfold completesAt MailboxRequest.completes
  cases system.requests[request]? with
  | none => rfl
  | some current => simp

omit [DecidableEq ρ] in
theorem phases_of_get {system : MailboxSystem σ ρ} {request : ℕ}
    {current : MailboxRequest}
    (hget : system.requests[request]? = some current) :
    system.view.phases request = some current.phase :=
  congrArg (Option.map MailboxRequest.phase) hget

omit [DecidableEq ρ] in
theorem generations_of_get {system : MailboxSystem σ ρ} {request : ℕ}
    {current : MailboxRequest}
    (hget : system.requests[request]? = some current) :
    system.view.generations request = some current.generation :=
  congrArg (Option.map MailboxRequest.generation) hget

/-- Whether the owner is about to complete a request. -/
def completing (system : MailboxSystem σ ρ) (request : ℕ)
    (current : MailboxRequest) : Bool :=
  match system.owner with
  | .storing own progress stillCurrent =>
      own = request && current.completes progress stillCurrent
  | _ => false

/-- A `mailbox_status` which has read `terminalizing` finds another open
generation, although the owner has completed the request or is about to. -/
def overlooksCompletion (system : MailboxSystem σ ρ) :
    MailboxInput κ ρ → Bool
  | .client client =>
      match system.clients client with
      | .statusTerminalizing request =>
          system.requests[request]?.any fun current =>
            system.openGeneration ≠ current.generation &&
              (current.phase = .completed ||
                system.completing request current)
      | _ => false
  | _ => false

omit [DecidableEq ρ] in
theorem overlooksCompletion_eq {system : MailboxSystem σ ρ} {client : ρ}
    {request : ℕ} {current : MailboxRequest}
    (hclient : system.clients client = .statusTerminalizing request)
    (hget : system.requests[request]? = some current)
    (hclosed : system.openGeneration ≠ current.generation)
    (hcompletes : current.phase = .completed ∨
      system.completing request current = true) :
    system.overlooksCompletion (.client client : MailboxInput κ ρ) = true := by
  unfold overlooksCompletion
  dsimp only
  rw [hclient]
  dsimp only
  rw [hget, Option.any_some, decide_eq_true hclosed, Bool.true_and,
    Bool.or_eq_true, decide_eq_true_iff]
  exact hcompletes

omit [DecidableEq ρ] in
/-- While a client holds `requests_mutex_`, no other one is in
`mailbox_status`. -/
theorem only_status {system : MailboxSystem σ ρ} (h : system.Consistent)
    {client other : ρ} {own request : ℕ}
    (hclient : system.clients client = .statusLocked own) :
    system.clients other ≠ .statusTerminalizing request := by
  intro hother
  have hsame : client = other := by
    apply h.sound.locked.unique
    · rw [hclient]
      rfl
    · rw [hother]
      rfl
  rw [hsame, hother] at hclient
  cases hclient

omit [DecidableEq ρ] in
theorem keepsCompleted_of_reports {system : MailboxSystem σ ρ}
    (h : system.Consistent) {client : ρ} {request : ℕ}
    {status : MailboxRequestStatus}
    (hreports : system.Reports client request (some status))
    (hstate : status.state = .completed) :
    system.view.KeepsCompleted request := by
  cases hreports with
  | @completed current hclient hget hphase =>
      refine ⟨?_, ?_, fun other => only_status h hclient⟩
      · rw [phases_of_get hget, hphase]
      · have hholds := h.sound.locked.exclusive (by
          rw [hclient]
          rfl)
        intro htried
        cases hlifecycle : system.lifecycle with
        | failing generation requestCancel own phase =>
            rw [hlifecycle] at hholds
            exact Bool.false_ne_true hholds.symm
        | _ =>
            rw [show system.view.lifecycle = _ from hlifecycle] at htried
            cases htried
  | failed => cases hstate
  | queued => cases hstate
  | shut => cases hstate
  | open_ => cases hstate

omit [DecidableEq ρ] in
theorem keepsFailed_of_reports {system : MailboxSystem σ ρ}
    (h : system.Consistent) {client : ρ} {request : ℕ}
    {status : MailboxRequestStatus}
    (hreports : system.Reports client request (some status))
    (hstate : status.state = .failed)
    (hsees : system.overlooksCompletion
      (.client client : MailboxInput κ ρ) = false) :
    system.view.KeepsFailed request := by
  cases hreports with
  | @failed current hclient hget hphase =>
      refine ⟨Or.inl ?_, ?_⟩
      · rw [phases_of_get hget, hphase]
      · exact fun other hother => absurd hother (only_status h hclient)
  | @shut current hclient hget hclosed =>
      have hshut : system.view.Shut request :=
        ⟨current.generation, generations_of_get hget, hclosed⟩
      refine ⟨?_, fun _ _ => hshut⟩
      have hok := h.orderly.clients client
      rw [show system.view.clients client = _ from hclient] at hok
      obtain ⟨⟨phase, hphase, hended⟩, -⟩ := hok
      have hnow := phases_of_get hget
      rw [hphase] at hnow
      cases phase with
      | failed => exact Or.inl hphase
      | completed =>
          rw [overlooksCompletion_eq hclient hget hclosed
            (Or.inl (Option.some.inj hnow).symm)] at hsees
          exact absurd hsees.symm Bool.false_ne_true
      | terminalizing =>
          refine Or.inr ⟨hphase, hshut, ?_⟩
          intro progress stillCurrent howner
          rw [← Bool.not_eq_true]
          intro hcompletes
          have hsame : system.view.completes request progress stillCurrent =
              current.completes progress stillCurrent := by
            show completesAt system.requests request progress stillCurrent = _
            unfold completesAt
            rw [hget]
            rfl
          have hcompleting : system.completing request current = true := by
            unfold completing
            rw [show system.owner = _ from howner]
            dsimp only
            rw [← hsame, hcompletes, decide_eq_true rfl]
            rfl
          rw [overlooksCompletion_eq hclient hget hclosed
            (Or.inr hcompleting)] at hsees
          exact absurd hsees.symm Bool.false_ne_true
      | queued => exact absurd hended Bool.false_ne_true
      | staged => exact absurd hended Bool.false_ne_true
      | active => exact absurd hended Bool.false_ne_true
  | completed => cases hstate
  | queued => cases hstate
  | open_ => cases hstate

omit [DecidableEq ρ] in
theorem reports_of_keepsCompleted {system : MailboxSystem σ ρ} {client : ρ}
    {request : ℕ} {status : Option MailboxRequestStatus}
    (hkeeps : system.view.KeepsCompleted request)
    (hreports : system.Reports client request status) :
    status.map MailboxRequestStatus.state = some .completed := by
  obtain ⟨hcompleted, -, hunseen⟩ := hkeeps
  have hphase : ∀ {current : MailboxRequest},
      system.requests[request]? = some current →
      current.phase = .completed := by
    intro current hget
    rw [phases_of_get hget] at hcompleted
    exact Option.some.inj hcompleted
  cases hreports with
  | unknown hget =>
      rw [show system.view.phases request = none from
        congrArg (Option.map MailboxRequest.phase) hget] at hcompleted
      cases hcompleted
  | completed => rfl
  | failed hclient hget hfailed =>
      rw [hphase hget] at hfailed
      cases hfailed
  | queued hclient hget hne => exact absurd (hphase hget) hne
  | shut hclient => exact absurd hclient (hunseen client)
  | open_ hclient => exact absurd hclient (hunseen client)

omit [DecidableEq ρ] in
theorem reports_of_keepsFailed {system : MailboxSystem σ ρ} {client : ρ}
    {request : ℕ} {status : Option MailboxRequestStatus}
    (hkeeps : system.view.KeepsFailed request)
    (hreports : system.Reports client request status) :
    status.map MailboxRequestStatus.state = some .failed := by
  obtain ⟨hphase, hshut⟩ := hkeeps
  have hnow : ∀ {current : MailboxRequest},
      system.requests[request]? = some current →
      current.phase = .failed ∨ current.phase = .terminalizing := by
    intro current hget
    rw [phases_of_get hget] at hphase
    rcases hphase with hfailed | ⟨hterminalizing, -⟩
    · exact Or.inl (Option.some.inj hfailed)
    · exact Or.inr (Option.some.inj hterminalizing)
  cases hreports with
  | unknown hget =>
      rw [show system.view.phases request = none from
        congrArg (Option.map MailboxRequest.phase) hget] at hphase
      rcases hphase with hfailed | ⟨hterminalizing, -⟩
      · cases hfailed
      · cases hterminalizing
  | completed hclient hget hcompleted =>
      rcases hnow hget with heq | heq
      all_goals
        rw [hcompleted] at heq
        cases heq
  | failed => rfl
  | queued hclient hget hcompleted hfailed hterminalizing =>
      rcases hnow hget with heq | heq
      · exact absurd heq hfailed
      · exact absurd heq hterminalizing
  | shut => rfl
  | open_ hclient hget hopen =>
      obtain ⟨generation, hown, hclosed⟩ := hshut client hclient
      rw [generations_of_get hget] at hown
      exact absurd (hopen.trans (Option.some.inj hown)) hclosed

/-- The state which a step reports, if any. -/
def reportedAt
    (steps : List (Transition (MailboxSystem σ ρ) (MailboxInput κ ρ)
      (MailboxOutput ρ))) (position : ℕ) :
    Option (ℕ × Option MailboxRequestState) :=
  steps[position]?.bind fun t => t.output.reportedState

/-- Once a request has been reported as completed or failed, every later report
gives the same state. -/
def ReportsStay
    (steps : List (Transition (MailboxSystem σ ρ) (MailboxInput κ ρ)
      (MailboxOutput ρ))) : Prop :=
  ∀ first last request state result, first < last →
    reportedAt steps first = some (request, some state) →
    state ≠ .queued →
    reportedAt steps last = some (request, result) →
    result = some state

theorem reportedAt_trace {calls : SdoBackend σ κ}
    {slave : EthercatSlaveAddress} {system : MailboxSystem σ ρ}
    {inputs : List (MailboxInput κ ρ)} {position request : ℕ}
    {state : Option MailboxRequestState}
    (hreport : reportedAt ((machine calls slave).trace system inputs)
      position = some (request, state)) :
    ∃ client status,
      inputs[position]? = some (.client client) ∧
      Reports ((machine calls slave).final system (inputs.take position))
        client request status ∧
      status.map MailboxRequestStatus.state = state := by
  unfold reportedAt at hreport
  rw [Machine.trace_getElem?] at hreport
  cases hinput : inputs[position]? with
  | none =>
      rw [hinput] at hreport
      cases hreport
  | some input =>
      rw [hinput] at hreport
      change MailboxOutput.reportedState (step calls slave
        ((machine calls slave).final system (inputs.take position))
        input).2 = _ at hreport
      cases houtput : (step calls slave ((machine calls slave).final system
        (inputs.take position)) input).2 with
      | reported client own status =>
          obtain ⟨hclient, hreports⟩ := step_reports houtput
          rw [houtput] at hreport
          cases hreport
          exact ⟨client, status, congrArg some hclient, hreports, rfl⟩
      | _ =>
          rw [houtput] at hreport
          cases hreport

/-- What every step of the threads keeps stays for the rest of a run. -/
theorem kept_final {calls : SdoBackend σ κ} {slave : EthercatSlaveAddress}
    (Keeps : MailboxSystem σ ρ → Prop)
    (hkeeps : ∀ system next : MailboxSystem σ ρ, system.Consistent →
      MailboxView.Step system.view next.view → Keeps system → Keeps next)
    {system : MailboxSystem σ ρ} (h : system.Consistent)
    (hkept : Keeps system) (inputs : List (MailboxInput κ ρ)) :
    Keeps ((machine calls slave).final system inputs) := by
  have hgood : Consistent ((machine calls slave).final system inputs) ∧
      Keeps ((machine calls slave).final system inputs) := by
    refine Machine.invariant_final (fun s => s.Consistent ∧ Keeps s) ?_
      ⟨h, hkept⟩ inputs
    rintro s input ⟨hs, hk⟩
    exact ⟨consistent_step calls slave s input hs,
      hkeeps s _ hs (step_view calls slave hs.sound.locked input) hk⟩
  exact hgood.2

/-- What a result says stays, unless a status call overlooks a completion. -/
theorem mailbox_status_stays (calls : SdoBackend σ κ)
    (slave : EthercatSlaveAddress) (backend : σ)
    (inputs : List (MailboxInput κ ρ))
    (hsees : ∀ t ∈ (machine calls slave).trace (constructed backend) inputs,
      overlooksCompletion t.before t.input = false) :
    ReportsStay
      ((machine calls slave).trace (constructed backend) inputs) := by
  intro first last request state result hlt hfirst hresult hlast
  obtain ⟨client, status, hinput, hreports, hstate⟩ :=
    reportedAt_trace hfirst
  obtain ⟨other, later, -, hlater, rfl⟩ := reportedAt_trace hlast
  obtain ⟨between, hfinal, -⟩ :=
    (machine calls slave).exists_between (constructed backend) hlt hinput
  rw [hfinal] at hlater
  have hbefore := consistent_final calls slave backend (inputs.take first)
  have hok : overlooksCompletion ((machine calls slave).final
      (constructed backend) (inputs.take first))
      (.client client : MailboxInput κ ρ) = false := by
    apply hsees (Machine.fire _ _ _)
    apply List.mem_of_getElem? (i := first)
    rw [Machine.trace_getElem?, hinput]
    rfl
  change Reports ((machine calls slave).final (step calls slave _ _).1
    between) other request later at hlater
  generalize (machine calls slave).final (constructed backend)
    (inputs.take first) = system at hreports hlater hbefore hok
  have hafter := consistent_step calls slave _ (.client client) hbefore
  obtain ⟨seen, rfl, heq⟩ := Option.map_eq_some_iff.mp hstate
  have hstep := step_view calls slave hbefore.sound.locked (.client client)
  rw [← heq] at hresult ⊢
  cases hseen : seen.state with
  | queued => exact absurd hseen hresult
  | completed =>
      have hkept := keepsCompleted_of_reports hbefore hreports hseen
      apply reports_of_keepsCompleted _ hlater
      exact kept_final (fun system => system.view.KeepsCompleted request)
        (fun _ _ hsystem hview => MailboxView.keepsCompleted_step
          hsystem.orderly hview) hafter
        (MailboxView.keepsCompleted_step hbefore.orderly hstep hkept) between
  | failed =>
      have hkept := keepsFailed_of_reports hbefore hreports hseen hok
      apply reports_of_keepsFailed _ hlater
      exact kept_final (fun system => system.view.KeepsFailed request)
        (fun system _ hsystem hview => MailboxView.keepsFailed_step
          hsystem.orderly hview (completes_abandoned system request)) hafter
        (MailboxView.keepsFailed_step hbefore.orderly hstep
          (completes_abandoned system request) hkept) between

/-- A backend which gives the answers of its environment. -/
def answeringBackend : SdoBackend Unit SdoTransferProgress where
  start := fun _ _ => ((), true)
  deactivate := fun _ => ()
  progressDownload := fun _ answer _ _ => ((), some answer)
  progressUpload := fun _ answer _ _ data => ((), data, some answer)
  progressCancel := fun _ answer _ => ((), some answer)

/-- A master is opened and a download is enqueued, staged and finished, up to
the owner's decision that it is still current. -/
def decidedDownload : List (MailboxInput SdoTransferProgress Bool) :=
  let answer := sdoCompleted 0
  [[.openMaster], List.replicate 4 (.master true answer),
    List.replicate 4 (.lifecycle false),
    List.replicate 4 (.master true answer),
    [.enqueue false ⟨false, ⟨0x2000, 0⟩, [1#8]⟩],
    List.replicate 5 (.client false),
    [.cycle false], List.replicate 10 (.client false),
    [.ownerCycle, .ownerReach true],
    List.replicate 10 (.owner answer)].flatten

/-- The owner stores the completion before the first status. -/
def completedDownload : List (MailboxInput SdoTransferProgress Bool) :=
  decidedDownload ++
    [.owner (sdoCompleted 0), .status true 0, .client true, .client true,
      .closeMailbox, .lifecycle false, .status true 0, .client true,
      .client true]

theorem completedDownload_stays :
    reportedAt ((machine answeringBackend ⟨0, 0⟩).trace
        (constructed ()) completedDownload) 45 =
        some (0, some .completed) ∧
      ReportsStay ((machine answeringBackend ⟨0, 0⟩).trace
        (constructed ()) completedDownload) :=
  ⟨by decide +kernel,
    mailbox_status_stays answeringBackend ⟨0, 0⟩ () completedDownload
      (by decide +kernel)⟩

/-- The mailbox is closed and a first status is asked for before the owner
stores the completion. -/
def overtakenDownload : List (MailboxInput SdoTransferProgress Bool) :=
  decidedDownload ++
    [.closeMailbox, .lifecycle false, .status true 0, .client true,
      .client true, .client true, .owner (sdoCompleted 0), .status true 0,
      .client true, .client true]

theorem overtakenDownload_changes :
    ¬ ReportsStay ((machine answeringBackend ⟨0, 0⟩).trace
      (constructed ()) overtakenDownload) := by
  intro h
  have hstate := h 47 51 0 .failed (some .completed) (by decide)
    (by decide +kernel) (by decide) (by decide +kernel)
  cases hstate

end Machine

end MailboxSystem

end PolicyRuntime
