import PolicyRuntime.MailboxLifecycle

/-!
# Steps of a mailbox

What the owner, a client and the holder of `lifecycle_mutex_` can do to the
phases and the generations of the requests, to the place for the staged
request and to the generation words.
-/

namespace PolicyRuntime

/-! ## Requests -/

def phaseAt (requests : List MailboxRequest) (request : ℕ) :
    Option RequestPhase :=
  requests[request]?.map MailboxRequest.phase

def generationAt (requests : List MailboxRequest) (request : ℕ) : Option ℕ :=
  requests[request]?.map MailboxRequest.generation

def completesAt (requests : List MailboxRequest) (request : ℕ)
    (progress : SdoTransferProgress) (stillCurrent : Bool) : Bool :=
  requests[request]?.any fun current => current.completes progress stillCurrent

section Changes

variable {requests : List MailboxRequest} {request : ℕ}
  {change : MailboxRequest → MailboxRequest}

theorem generationAt_modify
    (hsame : ∀ r, requests[request]? = some r →
      (change r).generation = r.generation) :
    generationAt (requests.modify request change) = generationAt requests := by
  funext other
  unfold generationAt
  by_cases heq : request = other
  · rw [← heq, List.getElem?_modify_eq]
    cases hget : requests[request]? with
    | none => rfl
    | some r => exact congrArg some (hsame r hget)
  · rw [List.getElem?_modify_ne _ _ heq]

theorem completesAt_modify
    (hsame : ∀ r, requests[request]? = some r →
      (change r).completes = r.completes) :
    completesAt (requests.modify request change) = completesAt requests := by
  funext other progress stillCurrent
  unfold completesAt
  by_cases heq : request = other
  · rw [← heq, List.getElem?_modify_eq]
    cases hget : requests[request]? with
    | none => rfl
    | some r =>
        exact congrFun (congrFun (hsame r hget) progress) stillCurrent
  · rw [List.getElem?_modify_ne _ _ heq]

theorem phaseAt_modify_same
    (hsame : ∀ r, requests[request]? = some r → (change r).phase = r.phase) :
    phaseAt (requests.modify request change) = phaseAt requests := by
  funext other
  unfold phaseAt
  by_cases heq : request = other
  · rw [← heq, List.getElem?_modify_eq]
    cases hget : requests[request]? with
    | none => rfl
    | some r => exact congrArg some (hsame r hget)
  · rw [List.getElem?_modify_ne _ _ heq]

theorem phaseAt_modify {new : RequestPhase}
    (hknown : phaseAt requests request ≠ none)
    (hnew : ∀ r, requests[request]? = some r → (change r).phase = new) :
    phaseAt (requests.modify request change) =
      Function.update (phaseAt requests) request (some new) := by
  funext other
  by_cases heq : other = request
  · rw [heq, Function.update_self]
    unfold phaseAt at hknown ⊢
    rw [List.getElem?_modify_eq]
    cases hget : requests[request]? with
    | none =>
        rw [hget] at hknown
        exact absurd rfl hknown
    | some r => exact congrArg some (hnew r hget)
  · rw [Function.update_of_ne heq]
    unfold phaseAt
    rw [List.getElem?_modify_ne _ _ (Ne.symm heq)]

theorem getElem?_concat_ne {α : Type} (items : List α) (item : α)
    {position : ℕ} (hne : position ≠ items.length) :
    (items ++ [item])[position]? = items[position]? := by
  rcases Nat.lt_or_gt_of_ne hne with hlt | hgt
  · exact List.getElem?_append_left hlt
  · rw [List.getElem?_eq_none, List.getElem?_eq_none hgt.le]
    rw [List.length_append, List.length_singleton]
    exact hgt

theorem phaseAt_concat (added : MailboxRequest) :
    phaseAt (requests ++ [added]) =
      Function.update (phaseAt requests) requests.length
        (some added.phase) := by
  funext position
  unfold phaseAt
  by_cases heq : position = requests.length
  · rw [heq, Function.update_self, List.getElem?_concat_length]
    rfl
  · rw [Function.update_of_ne heq, getElem?_concat_ne _ _ heq]

theorem generationAt_concat (added : MailboxRequest) :
    generationAt (requests ++ [added]) =
      Function.update (generationAt requests) requests.length
        (some added.generation) := by
  funext position
  unfold generationAt
  by_cases heq : position = requests.length
  · rw [heq, Function.update_self, List.getElem?_concat_length]
    rfl
  · rw [Function.update_of_ne heq, getElem?_concat_ne _ _ heq]

theorem phaseAt_eq_none {position : ℕ} (h : requests.length ≤ position) :
    phaseAt requests position = none := by
  unfold phaseAt
  rw [List.getElem?_eq_none h]
  rfl

theorem generationAt_eq_none {position : ℕ}
    (h : requests.length ≤ position) :
    generationAt requests position = none := by
  unfold generationAt
  rw [List.getElem?_eq_none h]
  rfl

theorem phaseAt_eq_none_of_le {position other : ℕ}
    (h : requests[position]? = none) (hle : position ≤ other) :
    phaseAt requests other = none :=
  phaseAt_eq_none (le_trans (List.getElem?_eq_none_iff.mp h) hle)

theorem finish_phase (current : MailboxRequest)
    (progress : SdoTransferProgress) (stillCurrent : Bool) :
    (current.finish progress stillCurrent).phase =
      if current.completes progress stillCurrent then .completed
      else .failed := by
  unfold MailboxRequest.finish
  split
  · rfl
  · split <;> rfl

theorem finish_generation (current : MailboxRequest)
    (progress : SdoTransferProgress) (stillCurrent : Bool) :
    (current.finish progress stillCurrent).generation =
      current.generation := by
  unfold MailboxRequest.finish
  split
  · rfl
  · split <;> rfl

theorem finish_completes (current : MailboxRequest)
    (progress : SdoTransferProgress) (stillCurrent : Bool) :
    (current.finish progress stillCurrent).completes = current.completes := by
  unfold MailboxRequest.finish
  split
  · rfl
  · split <;> rfl

end Changes

/-! ## Phases of the threads -/

/-- The request which the owner has loaded. -/
def MailboxOwnerPhase.request : MailboxOwnerPhase → Option ℕ
  | .loaded _ request => some request
  | .current _ request => some request
  | .opened _ request => some request
  | .claiming _ request => some request
  | .progressing _ request => some request
  | .progressed _ request _ => some request
  | .terminalizing _ request _ => some request
  | .deciding _ request _ => some request
  | .storing request _ _ => some request
  | .clearing request => some request
  | _ => none

/-- The request which the owner has put into `terminalizing`. -/
def MailboxOwnerPhase.claim : MailboxOwnerPhase → Option ℕ
  | .terminalizing _ request _ => some request
  | .deciding _ request _ => some request
  | .storing request _ _ => some request
  | _ => none

/-- The request which `fail_request` has put into `terminalizing`. -/
def LifecyclePhase.claim : LifecyclePhase → Option ℕ
  | .failing _ _ request .claimed => some request
  | _ => none

/-- The phases of the owner which say nothing about the mailbox. -/
def MailboxOwnerPhase.plain : MailboxOwnerPhase → Bool
  | .outside => true
  | .admitted => true
  | .called _ => true
  | .uncancelled _ => true
  | .returned => true
  | _ => false

/-- The phases of the holder of `lifecycle_mutex_` which say nothing about the
requests. -/
def LifecyclePhase.plain : LifecyclePhase → Bool
  | .opening _ checks _ => checks.contains .uncancelled
  | .closing _ _ => false
  | .failing _ _ _ _ => false
  | .cancelling _ => false
  | _ => true

/-- Whether the requests of a generation are being closed. -/
def LifecyclePhase.closes : LifecyclePhase → Bool
  | .closing _ _ => true
  | .failing _ _ _ _ => true
  | _ => false

/-- Whether a client has seen its generation open and holds the lock. -/
def ClientPhase.seen : ClientPhase → Bool
  | .enqueueChecked _ _ => true
  | .stageOpened _ => true
  | .stageCurrent _ => true
  | .stageSearching _ _ => true
  | .stageFound _ => true
  | .stagePublishing _ => true
  | .stageReverting _ => true
  | .statusTerminalizing _ => true
  | _ => false

/-- The phases of a client which say nothing about the mailbox. -/
def ClientPhase.plain : ClientPhase → Bool
  | .idle => true
  | .enqueueCalled _ => true
  | .cycleCalled => true
  | .cycleOpened _ => true
  | .stageCalled => true
  | .stageReady => true
  | .stageLocked => true
  | .statusCalled _ => true
  | .statusLocked _ => true
  | _ => false

/-- The request which a client has put into `staged` but not published. -/
def ClientPhase.publishing : ClientPhase → Option ℕ
  | .stagePublishing request => some request
  | _ => none

/-- The part of a mailbox which its requests depend on. -/
structure MailboxView (ρ : Type) where
  phases : ℕ → Option RequestPhase
  generations : ℕ → Option ℕ
  completes : ℕ → SdoTransferProgress → Bool → Bool
  staged : Option ℕ
  opened : ℕ
  cancel : ℕ
  owner : MailboxOwnerPhase
  lifecycle : LifecyclePhase
  clients : ρ → ClientPhase

def MailboxSystem.view {σ ρ : Type} (system : MailboxSystem σ ρ) :
    MailboxView ρ where
  phases := phaseAt system.requests
  generations := generationAt system.requests
  completes := completesAt system.requests
  staged := system.staged
  opened := system.openGeneration
  cancel := system.cancelGeneration
  owner := system.owner
  lifecycle := system.lifecycle
  clients := system.clients

namespace MailboxView

variable {ρ : Type}

def setPhase (view : MailboxView ρ) (request : ℕ) (phase : RequestPhase) :
    MailboxView ρ :=
  { view with phases := Function.update view.phases request (some phase) }

/-! ## The owner -/

/-- The next phase of the owner in a step which only moves the owner. -/
inductive OwnerNext (view : MailboxView ρ) : MailboxOwnerPhase → Prop
  | cancelling {parent : ℕ} (howner : view.owner = .called parent)
      (hcancel : view.cancel ≠ 0) : OwnerNext view .cancelling
  | plain {next : MailboxOwnerPhase} (hplain : next.plain = true)
      (hclaim : view.owner.claim = none) : OwnerNext view next
  | cancelled (howner : view.owner = .cancelling) : OwnerNext view .cancelled
  | loaded {parent request : ℕ} (howner : view.owner = .uncancelled parent)
      (hstaged : view.staged = some request) :
      OwnerNext view (.loaded parent request)
  | current {parent request : ℕ} (howner : view.owner = .loaded parent request)
      (hgeneration : view.generations request = some parent) :
      OwnerNext view (.current parent request)
  | opened {parent request : ℕ}
      (howner : view.owner = .current parent request) :
      OwnerNext view (.opened parent request)
  | claiming {parent request : ℕ}
      (howner : view.owner = .opened parent request) :
      OwnerNext view (.claiming parent request)
  | progressing {parent request : ℕ}
      (howner : view.owner = .opened parent request) :
      OwnerNext view (.progressing parent request)
  | deciding {parent request : ℕ} {progress : SdoTransferProgress}
      (howner : view.owner = .terminalizing parent request progress) :
      OwnerNext view (.deciding parent request progress)
  | abandoned {parent request : ℕ} {progress : SdoTransferProgress}
      (howner : view.owner = .terminalizing parent request progress) :
      OwnerNext view (.storing request progress false)
  | decided {parent request : ℕ} {progress : SdoTransferProgress}
      (howner : view.owner = .deciding parent request progress) :
      OwnerNext view (.storing request progress (view.opened = parent))

inductive OwnerStep (view : MailboxView ρ) : MailboxView ρ → Prop
  | stay : OwnerStep view view
  | move {next : MailboxOwnerPhase} (hnext : OwnerNext view next) :
      OwnerStep view { view with owner := next }
  | unstage (howner : view.owner = .cancelled) :
      OwnerStep view { view with staged := none, owner := .unstaged }
  | uncancel (howner : view.owner = .unstaged) :
      OwnerStep view { view with cancel := 0, owner := .returned }
  | claim {parent request : ℕ}
      (howner : view.owner = .claiming parent request)
      (hphase : view.phases request = some .staged) :
      OwnerStep view
        { view.setPhase request .active with
          owner := .progressing parent request }
  | progress {parent request : ℕ}
      (howner : view.owner = .progressing parent request)
      (completes : ℕ → SdoTransferProgress → Bool → Bool)
      {next : MailboxOwnerPhase}
      (hnext : next = .returned ∨
        ∃ progress, next = .progressed parent request progress) :
      OwnerStep view { view with completes := completes, owner := next }
  | take {parent request : ℕ} {progress : SdoTransferProgress}
      (howner : view.owner = .progressed parent request progress)
      (hphase : view.phases request = some .active) :
      OwnerStep view
        { view.setPhase request .terminalizing with
          owner := .terminalizing parent request progress }
  | finish {request : ℕ} {progress : SdoTransferProgress}
      {stillCurrent : Bool}
      (howner : view.owner = .storing request progress stillCurrent)
      (hknown : view.phases request ≠ none) :
      OwnerStep view
        { view.setPhase request
            (if view.completes request progress stillCurrent then .completed
            else .failed) with
          owner := .clearing request }
  | vanish {request : ℕ} {progress : SdoTransferProgress}
      {stillCurrent : Bool}
      (howner : view.owner = .storing request progress stillCurrent)
      (hunknown : view.phases request = none) :
      OwnerStep view { view with owner := .clearing request }
  | clear {request : ℕ} (howner : view.owner = .clearing request)
      (hstaged : view.staged = some request) :
      OwnerStep view { view with staged := none, owner := .returned }

end MailboxView

namespace MailboxSystem

variable {σ κ ρ : Type}

theorem view_modifyRequest {system : MailboxSystem σ ρ} {request : ℕ}
    {change : MailboxRequest → MailboxRequest} {phase : RequestPhase}
    (hknown : system.view.phases request ≠ none)
    (hphase : ∀ r, system.requests[request]? = some r →
      (change r).phase = phase)
    (hgeneration : ∀ r, (change r).generation = r.generation)
    (hcompletes : ∀ r, (change r).completes = r.completes) :
    (system.modifyRequest request change).view =
      system.view.setPhase request phase := by
  unfold view modifyRequest MailboxView.setPhase
  dsimp only
  rw [phaseAt_modify hknown hphase,
    generationAt_modify fun r _ => hgeneration r,
    completesAt_modify fun r _ => hcompletes r]

theorem view_setPhase {system : MailboxSystem σ ρ} {request : ℕ}
    {old : RequestPhase} (phase : RequestPhase)
    (hold : system.phaseOf request = some old) :
    (system.modifyRequest request fun r => r.setPhase phase).view =
      system.view.setPhase request phase := by
  apply view_modifyRequest
  · intro hnone
    rw [show system.view.phases request = some old from hold] at hnone
    cases hnone
  · exact fun _ _ => rfl
  · exact fun _ => rfl
  · exact fun _ => rfl

theorem progressRequest_same (calls : SdoBackend σ κ)
    (slave : EthercatSlaveAddress) (answer : κ) (backend : σ)
    (request : MailboxRequest) :
    (progressRequest calls slave answer backend request).2.1.phase =
        request.phase ∧
      (progressRequest calls slave answer backend request).2.1.generation =
        request.generation := by
  unfold progressRequest
  dsimp only
  split
  · exact ⟨rfl, rfl⟩
  · exact ⟨rfl, rfl⟩

theorem progress_next (progress : SdoTransferProgress)
    (parent request : ℕ) :
    (if progress.state = .pending then MailboxOwnerPhase.returned
      else .progressed parent request progress) = .returned ∨
    ∃ reached, (if progress.state = .pending then MailboxOwnerPhase.returned
      else .progressed parent request progress) =
        .progressed parent request reached := by
  split
  · exact Or.inl rfl
  · exact Or.inr ⟨progress, rfl⟩

theorem view_progress {system : MailboxSystem σ ρ} {request : ℕ}
    {current changed : MailboxRequest} {backend : σ}
    {owner : MailboxOwnerPhase}
    (hget : system.requests[request]? = some current)
    (hphase : changed.phase = current.phase)
    (hgeneration : changed.generation = current.generation) :
    MailboxSystem.view { system with
        backend := backend
        requests := system.requests.modify request fun _ => changed
        owner := owner } =
      { system.view with
        completes :=
          completesAt (system.requests.modify request fun _ => changed)
        owner := owner } := by
  have hsame : ∀ r, system.requests[request]? = some r → r = current := by
    intro r hr
    rw [hget] at hr
    exact (Option.some.inj hr).symm
  unfold view
  dsimp only
  rw [phaseAt_modify_same, generationAt_modify]
  · intro r hr
    rw [hsame r hr]
    exact hgeneration
  · intro r hr
    rw [hsame r hr]
    exact hphase

theorem view_finish {system : MailboxSystem σ ρ} {request : ℕ}
    {progress : SdoTransferProgress} {stillCurrent : Bool}
    (hknown : system.view.phases request ≠ none) :
    (system.modifyRequest request fun r => r.finish progress
        stillCurrent).view =
      system.view.setPhase request
        (if system.view.completes request progress stillCurrent then
          .completed
        else .failed) := by
  apply view_modifyRequest hknown
  · intro r hget
    have hcompletes : system.view.completes request progress stillCurrent =
        r.completes progress stillCurrent := by
      show completesAt system.requests request progress stillCurrent = _
      unfold completesAt
      rw [hget]
      rfl
    rw [hcompletes]
    exact finish_phase r progress stillCurrent
  · exact fun r => finish_generation r progress stillCurrent
  · exact fun r => finish_completes r progress stillCurrent

theorem view_vanished {system : MailboxSystem σ ρ} {request : ℕ}
    (change : MailboxRequest → MailboxRequest)
    (hunknown : system.view.phases request = none) :
    (system.modifyRequest request change).view = system.view := by
  have hnone : system.requests[request]? = none :=
    Option.map_eq_none_iff.mp hunknown
  unfold modifyRequest
  rw [List.modify_eq_self (List.getElem?_eq_none_iff.mp hnone)]

theorem ownerStep_view (calls : SdoBackend σ κ)
    (slave : EthercatSlaveAddress) (answer : κ)
    (system : MailboxSystem σ ρ) :
    MailboxView.OwnerStep system.view
      (system.ownerStep calls slave answer).1.view := by
  have hreturn : system.owner.claim = none →
      MailboxView.OwnerStep system.view (system.setOwner .returned).view :=
    fun hclaim => .move (.plain rfl hclaim)
  unfold ownerStep
  cases howner : system.owner with
  | outside => exact .stay
  | admitted => exact .stay
  | returned => exact .stay
  | called parent =>
      dsimp only
      split
      · next hcancel => exact .move (.cancelling howner hcancel)
      · exact .move (.plain rfl (congrArg MailboxOwnerPhase.claim howner))
  | cancelling =>
      dsimp only
      split
      · exact .move (.cancelled howner)
      · exact .move (.plain rfl (congrArg MailboxOwnerPhase.claim howner))
  | cancelled => exact .unstage howner
  | unstaged => exact .uncancel howner
  | uncancelled parent =>
      rw [howner] at hreturn
      dsimp only
      split
      · exact hreturn rfl
      · next request hstaged => exact .move (.loaded howner hstaged)
  | loaded parent request =>
      rw [howner] at hreturn
      dsimp only
      split
      · next hcurrent => exact .move (.current howner hcurrent.1)
      · exact hreturn rfl
  | current parent request =>
      rw [howner] at hreturn
      dsimp only
      split
      · exact .move (.opened howner)
      · exact hreturn rfl
  | opened parent request =>
      rw [howner] at hreturn
      dsimp only
      split
      · exact .move (.claiming howner)
      · exact .move (.progressing howner)
      · exact hreturn rfl
  | claiming parent request =>
      rw [howner] at hreturn
      dsimp only
      split
      · next hphase =>
          have hnext : MailboxView.OwnerStep system.view _ :=
            .claim howner hphase
          rw [← view_setPhase _ hphase] at hnext
          exact hnext
      · exact hreturn rfl
  | progressing parent request =>
      rw [howner] at hreturn
      dsimp only
      split
      · exact hreturn rfl
      · next current hget =>
          obtain ⟨hphase, hgeneration⟩ :=
            progressRequest_same calls slave answer system.backend current
          generalize progressRequest calls slave answer system.backend
            current = progressed at hphase hgeneration ⊢
          obtain ⟨backend, changed, progress⟩ := progressed
          have hnext : MailboxView.OwnerStep system.view _ :=
            .progress howner
              (completesAt (system.requests.modify request fun _ => changed))
              (progress_next progress parent request)
          rw [← view_progress hget hphase hgeneration] at hnext
          exact hnext
  | progressed parent request progress =>
      rw [howner] at hreturn
      dsimp only
      split
      · next hphase =>
          have hnext : MailboxView.OwnerStep system.view _ :=
            .take howner hphase
          rw [← view_setPhase _ hphase] at hnext
          exact hnext
      · exact hreturn rfl
  | terminalizing parent request progress =>
      dsimp only
      split
      · exact .move (.deciding howner)
      · exact .move (.abandoned howner)
  | deciding parent request progress => exact .move (.decided howner)
  | storing request progress stillCurrent =>
      dsimp only
      cases hknown : system.view.phases request with
      | none =>
          have hview := view_vanished
            (fun r => r.finish progress stillCurrent) hknown
          have hnext : MailboxView.OwnerStep system.view
              { system.view with owner := .clearing request } :=
            .vanish howner hknown
          rw [show ((system.modifyRequest request fun r => r.finish progress
            stillCurrent).setOwner (.clearing request)).view = _ from
              congrArg (fun v : MailboxView ρ =>
                { v with owner := .clearing request }) hview]
          exact hnext
      | some phase =>
          have hsome : system.view.phases request ≠ none := by
            rw [hknown]
            exact Option.some_ne_none _
          have hnext : MailboxView.OwnerStep system.view _ :=
            .finish howner hsome
          rw [← view_finish hsome] at hnext
          exact hnext
  | clearing request =>
      rw [howner] at hreturn
      dsimp only
      split
      · next hstaged => exact .clear howner hstaged
      · exact hreturn rfl

/-! ## Clients -/

end MailboxSystem

namespace MailboxView

variable {ρ : Type} [DecidableEq ρ]

def setClient (view : MailboxView ρ) (client : ρ) (phase : ClientPhase) :
    MailboxView ρ :=
  { view with clients := Function.update view.clients client phase }

/-- The next phase of a client in a step which only moves the client. -/
inductive ClientNext (view : MailboxView ρ) (client : ρ) :
    ClientPhase → Prop
  | plain {next : ClientPhase} (hplain : next.plain = true)
      (hkeeps : (view.clients client).publishing = none) :
      ClientNext view client next
  | enqueueOpened {arguments : EnqueueArguments}
      (hclient : view.clients client = .enqueueCalled arguments)
      (hopen : view.opened ≠ 0) :
      ClientNext view client (.enqueueOpened arguments view.opened)
  | enqueueReady {arguments : EnqueueArguments} {generation : ℕ}
      (hclient : view.clients client = .enqueueOpened arguments generation) :
      ClientNext view client (.enqueueReady arguments generation)
  | enqueueLocked {arguments : EnqueueArguments} {generation : ℕ}
      (hclient : view.clients client = .enqueueReady arguments generation) :
      ClientNext view client (.enqueueLocked arguments generation)
  | enqueueChecked {arguments : EnqueueArguments} {generation : ℕ}
      (hclient : view.clients client = .enqueueLocked arguments generation)
      (hopen : view.opened = generation) :
      ClientNext view client (.enqueueChecked arguments generation)
  | stageOpened (hclient : view.clients client = .stageLocked)
      (hopen : view.opened ≠ 0) :
      ClientNext view client (.stageOpened view.opened)
  | stageCurrent {generation : ℕ}
      (hclient : view.clients client = .stageOpened generation) :
      ClientNext view client (.stageCurrent generation)
  | stageSearching {generation : ℕ}
      (hclient : view.clients client = .stageCurrent generation)
      (hstaged : view.staged = none) :
      ClientNext view client (.stageSearching generation 0)
  | searched {generation request : ℕ}
      (hclient : view.clients client = .stageSearching generation request) :
      ClientNext view client (.stageSearching generation (request + 1))
  | stageFound {generation request : ℕ}
      (hclient : view.clients client = .stageSearching generation request) :
      ClientNext view client (.stageFound request)
  | stageReverting {request : ℕ}
      (hclient : view.clients client = .stagePublishing request)
      (hstaged : view.staged ≠ none) :
      ClientNext view client (.stageReverting request)
  | statusTerminalizing {request : ℕ}
      (hclient : view.clients client = .statusLocked request)
      (hphase : view.phases request = some .terminalizing) :
      ClientNext view client (.statusTerminalizing request)

inductive ClientStep (view : MailboxView ρ) (client : ρ) :
    MailboxView ρ → Prop
  | stay : ClientStep view client view
  | move {next : ClientPhase} (hnext : ClientNext view client next) :
      ClientStep view client (view.setClient client next)
  | enqueue {arguments : EnqueueArguments} {generation request : ℕ}
      (hclient : view.clients client = .enqueueChecked arguments generation)
      (hnew : view.phases request = none)
      (hfresh : view.generations request = none)
      {completes : ℕ → SdoTransferProgress → Bool → Bool}
      (hcompletes : ∀ other, other ≠ request →
        completes other = view.completes other) :
      ClientStep view client
        { (view.setPhase request .queued).setClient client .idle with
          generations :=
            Function.update view.generations request (some generation)
          completes := completes }
  | stage {request : ℕ}
      (hclient : view.clients client = .stageFound request)
      (hphase : view.phases request = some .queued) :
      ClientStep view client
        ((view.setPhase request .staged).setClient client
          (.stagePublishing request))
  | publish {request : ℕ}
      (hclient : view.clients client = .stagePublishing request)
      (hstaged : view.staged = none) :
      ClientStep view client
        { view.setClient client .idle with staged := some request }
  | revert {request : ℕ} {next : MailboxView ρ}
      (hclient : view.clients client = .stageReverting request) :
      ClientStep view client next

end MailboxView

namespace MailboxSystem

variable {σ κ ρ : Type} [DecidableEq ρ]

theorem lockRequests_view {system : MailboxSystem σ ρ} {client : ρ}
    {phase : ClientPhase}
    (hnext : MailboxView.ClientNext system.view client phase) :
    MailboxView.ClientStep system.view client
      (system.lockRequests client phase).view := by
  unfold lockRequests
  split
  · exact .stay
  · exact .move hnext

theorem view_enqueue (system : MailboxSystem σ ρ) (client : ρ)
    (added : MailboxRequest) :
    MailboxSystem.view { system with
        requests := system.requests ++ [added]
        requestsMutex := none
        clients := Function.update system.clients client .idle } =
      { (system.view.setPhase system.requests.length added.phase).setClient
          client .idle with
        generations := Function.update system.view.generations
          system.requests.length (some added.generation)
        completes := completesAt (system.requests ++ [added]) } := by
  unfold view MailboxView.setPhase MailboxView.setClient
  dsimp only
  rw [phaseAt_concat, generationAt_concat]

theorem completesAt_concat {requests : List MailboxRequest}
    (added : MailboxRequest) {position : ℕ}
    (hne : position ≠ requests.length) :
    completesAt (requests ++ [added]) position =
      completesAt requests position := by
  funext progress stillCurrent
  unfold completesAt
  rw [getElem?_concat_ne _ _ hne]

theorem clientStep_view (system : MailboxSystem σ ρ) (client : ρ) :
    MailboxView.ClientStep system.view client
      (system.clientStep client).1.view := by
  have hplain : ∀ phase : ClientPhase, phase.plain = true →
      (system.clients client).publishing = none →
      MailboxView.ClientStep system.view client
        (system.setClient client phase).view :=
    fun phase htrue hkeeps => .move (.plain htrue hkeeps)
  have hunlock : (system.clients client).publishing = none →
      MailboxView.ClientStep system.view client
        (system.unlockRequests client).view :=
    fun hkeeps => .move (.plain rfl hkeeps)
  unfold clientStep
  cases hclient : system.clients client with
  | idle => exact .stay
  | enqueueCalled arguments =>
      rw [hclient] at hplain
      dsimp only
      split
      · exact hplain _ rfl rfl
      · next hopen => exact .move (.enqueueOpened hclient hopen)
  | enqueueOpened arguments generation =>
      rw [hclient] at hplain
      dsimp only
      split
      · exact hplain _ rfl rfl
      · split
        · exact hplain _ rfl rfl
        · exact .move (.enqueueReady hclient)
  | enqueueReady arguments generation =>
      exact lockRequests_view (.enqueueLocked hclient)
  | enqueueLocked arguments generation =>
      rw [hclient] at hunlock
      dsimp only
      split
      · exact hunlock rfl
      · next hopen =>
          exact .move (.enqueueChecked hclient (not_not.mp hopen))
  | enqueueChecked arguments generation =>
      rw [hclient] at hunlock
      dsimp only
      split
      · exact hunlock rfl
      · rw [view_enqueue]
        refine .enqueue hclient (phaseAt_eq_none le_rfl)
          (generationAt_eq_none le_rfl) ?_
        exact fun other hne => completesAt_concat _ hne
  | cycleCalled =>
      rw [hclient] at hplain
      dsimp only
      split
      · exact hplain _ rfl rfl
      · exact hplain _ rfl rfl
  | cycleOpened generation =>
      rw [hclient] at hplain
      dsimp only
      split
      · exact hplain _ rfl rfl
      · exact hplain _ rfl rfl
  | stageCalled =>
      rw [hclient] at hplain
      dsimp only
      split
      · exact hplain _ rfl rfl
      · exact hplain _ rfl rfl
  | stageReady =>
      apply lockRequests_view
      exact .plain rfl (congrArg ClientPhase.publishing hclient)
  | stageLocked =>
      rw [hclient] at hunlock
      dsimp only
      split
      · exact hunlock rfl
      · next hopen => exact .move (.stageOpened hclient hopen)
  | stageOpened generation =>
      rw [hclient] at hunlock
      dsimp only
      split
      · exact hunlock rfl
      · exact .move (.stageCurrent hclient)
  | stageCurrent generation =>
      rw [hclient] at hunlock
      dsimp only
      split
      · exact hunlock rfl
      · next hstaged =>
          refine .move (.stageSearching hclient ?_)
          exact Option.not_isSome_iff_eq_none.mp hstaged
  | stageSearching generation request =>
      rw [hclient] at hunlock
      dsimp only
      split
      · exact hunlock rfl
      · split
        · exact .move (.stageFound hclient)
        · exact .move (.searched hclient)
  | stageFound request =>
      rw [hclient] at hunlock
      dsimp only
      split
      · next hphase =>
          have hnext : MailboxView.ClientStep system.view client _ :=
            .stage hclient hphase
          rw [← view_setPhase _ hphase] at hnext
          exact hnext
      · exact hunlock rfl
  | stagePublishing request =>
      dsimp only
      split
      · next hstaged => exact .publish hclient hstaged
      · next staged hstaged =>
          refine .move (.stageReverting hclient ?_)
          rw [show system.view.staged = some staged from hstaged]
          exact Option.some_ne_none _
  | stageReverting request => exact .revert hclient
  | statusCalled request =>
      apply lockRequests_view
      exact .plain rfl (congrArg ClientPhase.publishing hclient)
  | statusLocked request =>
      rw [hclient] at hunlock
      dsimp only
      split
      · exact hunlock rfl
      · next current hget =>
          split
          · exact hunlock rfl
          · exact hunlock rfl
          · next hphase =>
              refine .move (.statusTerminalizing hclient ?_)
              show phaseAt system.requests request = _
              unfold phaseAt
              rw [hget, Option.map_some, hphase]
          · exact hunlock rfl
  | statusTerminalizing request =>
      rw [hclient] at hunlock
      dsimp only
      split
      · exact hunlock rfl
      · split
        · exact hunlock rfl
        · exact hunlock rfl

end MailboxSystem

/-! ## Opening and closing -/

namespace MailboxView

variable {ρ : Type}

def setLifecycle (view : MailboxView ρ) (phase : LifecyclePhase) :
    MailboxView ρ :=
  { view with lifecycle := phase }

/-- The next phase of the holder of `lifecycle_mutex_` in a step which changes
nothing else. -/
inductive LifecycleNext (view : MailboxView ρ) : LifecyclePhase → Prop
  | plain {next : LifecyclePhase} (hplain : next.plain = true)
      (hkeeps : view.lifecycle.closes = false) : LifecycleNext view next
  | passed {generation : ℕ} {check : OpenCheck} {rest : List OpenCheck}
      {byParent : Bool}
      (hphase : view.lifecycle = .opening generation (check :: rest) byParent)
      (hpasses : check = .uncancelled → view.cancel = 0) :
      LifecycleNext view (.opening generation rest byParent)
  | closing {generation : ℕ}
      (hphase : view.lifecycle = .parentCloseCalled generation) :
      LifecycleNext view (.closing generation false)
  | skip {generation : ℕ} {requestCancel : Bool} {request : ℕ}
      {phase : FailPhase}
      (hphase : view.lifecycle =
        .failing generation requestCancel request phase)
      (hskip : phase = .trying .failed ∨
        (view.generations request = some generation →
          view.phases request = some .completed ∨
            view.phases request = some .failed)) :
      LifecycleNext view
        (.failing generation requestCancel (request + 1) .start)
  | loads {generation : ℕ} {requestCancel : Bool} {request : ℕ}
      {phase : FailPhase} {seen : RequestPhase}
      (hphase : view.lifecycle =
        .failing generation requestCancel request phase)
      (hgeneration : view.generations request = some generation)
      (hseen : view.phases request = some seen)
      (hstart : phase = .start → seen ≠ .completed ∧ seen ≠ .failed) :
      LifecycleNext view
        (.failing generation requestCancel request (.trying seen))

inductive LifecycleStep (view : MailboxView ρ) : MailboxView ρ → Prop
  | stay : LifecycleStep view view
  | move {next : LifecyclePhase} (hnext : LifecycleNext view next) :
      LifecycleStep view (view.setLifecycle next)
  | opens {generation : ℕ} {byParent : Bool} {next : LifecyclePhase}
      (hphase : view.lifecycle = .opening generation [] byParent)
      (hplain : next.plain = true) :
      LifecycleStep view
        { view.setLifecycle next with opened := generation }
  | closes (hphase : view.lifecycle = .closeCalled)
      (hopen : view.opened ≠ 0) :
      LifecycleStep view
        { view.setLifecycle (.closing view.opened true) with opened := 0 }
  | clears {generation : ℕ}
      (hphase : view.lifecycle = .parentClearing generation) :
      LifecycleStep view
        { view.setLifecycle (.closing generation false) with opened := 0 }
  | locks {generation : ℕ} {requestCancel : Bool}
      (hphase : view.lifecycle = .closing generation requestCancel)
      (hfree : ∀ client, (view.clients client).holds = false) :
      LifecycleStep view
        (view.setLifecycle (.failing generation requestCancel 0 .start))
  | takes {generation : ℕ} {requestCancel : Bool} {request : ℕ}
      {seen : RequestPhase}
      (hphase : view.lifecycle =
        .failing generation requestCancel request (.trying seen))
      (hseen : view.phases request = some seen) (hfailed : seen ≠ .failed)
      (hterminalizing : seen ≠ .terminalizing) :
      LifecycleStep view
        ((view.setPhase request .terminalizing).setLifecycle
          (.failing generation requestCancel request .claimed))
  | fails {generation : ℕ} {requestCancel : Bool} {request : ℕ}
      (hphase : view.lifecycle =
        .failing generation requestCancel request .claimed)
      (hknown : view.phases request ≠ none) :
      LifecycleStep view
        ((view.setPhase request .failed).setLifecycle
          (.failing generation requestCancel (request + 1) .start))
  | finishes {generation : ℕ} {requestCancel : Bool} {request : ℕ}
      {phase : FailPhase}
      (hphase : view.lifecycle =
        .failing generation requestCancel request phase)
      (hend : ∀ other, request ≤ other → view.phases other = none) :
      LifecycleStep view
        (view.setLifecycle
          (if requestCancel then .cancelling generation else .done true))
  | cancels {generation : ℕ}
      (hphase : view.lifecycle = .cancelling generation) :
      LifecycleStep view
        { view.setLifecycle .free with cancel := generation }
  | unstages (hphase : view.lifecycle = .resetting 0) :
      LifecycleStep view
        { view.setLifecycle (.resetting 1) with staged := none }
  | uncancels (hphase : view.lifecycle = .resetting 1) :
      LifecycleStep view
        { view.setLifecycle (.resetting 2) with cancel := 0 }
  | resets {stage : ℕ} (hphase : view.lifecycle = .resetting stage) :
      LifecycleStep view
        { view.setLifecycle (.done true) with opened := 0 }

end MailboxView

namespace MailboxSystem

variable {σ κ ρ : Type}

theorem failStep_view (spurious : Bool) {system : MailboxSystem σ ρ}
    {generation : ℕ} {requestCancel : Bool} {request : ℕ}
    {current : MailboxRequest} {phase : FailPhase}
    (hphase : system.lifecycle =
      .failing generation requestCancel request phase)
    (hget : system.requests[request]? = some current)
    (hgeneration : current.generation = generation) :
    MailboxView.LifecycleStep system.view
      (system.failStep spurious generation requestCancel request
        current.phase phase).view := by
  have hnow : system.view.phases request = some current.phase := by
    show phaseAt system.requests request = _
    unfold phaseAt
    rw [hget, Option.map_some]
  have hknown : system.view.phases request ≠ none := by
    rw [hnow]
    exact Option.some_ne_none _
  have hsame : system.view.generations request = some generation := by
    show generationAt system.requests request = _
    unfold generationAt
    rw [hget, Option.map_some, hgeneration]
  unfold failStep
  dsimp only
  cases phase with
  | start =>
      dsimp only
      split
      · next hsettled =>
          refine .move (.skip hphase (Or.inr fun _ => ?_))
          rw [hnow]
          rcases hsettled with heq | heq
          · exact Or.inl (congrArg some heq)
          · exact Or.inr (congrArg some heq)
      · next hlive =>
          refine .move (.loads hphase hsame hnow fun _ => ?_)
          exact not_or.mp hlive
  | trying seen =>
      have htry : MailboxView.LifecycleStep system.view
          (system.setLifecycle (.failing generation requestCancel request
            (.trying current.phase))).view := by
        refine .move (.loads hphase hsame hnow fun heq => ?_)
        cases heq
      dsimp only
      split
      · next hfailed =>
          rw [hfailed] at hphase
          exact .move (.skip hphase (Or.inl rfl))
      · next hfailed =>
          split
          · split
            · exact .stay
            · exact htry
          · next hterminalizing =>
              split
              · next hcurrent =>
                  have hview := view_setPhase .terminalizing hnow
                  have hnext : MailboxView.LifecycleStep system.view _ :=
                    .takes hphase (hcurrent.1 ▸ hnow) hfailed hterminalizing
                  rw [← hview] at hnext
                  exact hnext
              · exact htry
  | claimed =>
      have hview : (system.modifyRequest request fun r =>
          { r with failureKind := .closed, phase := .failed }).view =
          system.view.setPhase request .failed := by
        apply view_modifyRequest hknown
        · exact fun _ _ => rfl
        · exact fun _ => rfl
        · exact fun _ => rfl
      have hnext : MailboxView.LifecycleStep system.view _ :=
        .fails hphase hknown
      rw [← hview] at hnext
      exact hnext

theorem lifecycleStep_view (spurious : Bool) {system : MailboxSystem σ ρ}
    (hlocked : Locked system.clients system.lifecycle system.requestsMutex) :
    MailboxView.LifecycleStep system.view
      (system.lifecycleStep spurious).1.view := by
  have hplain : ∀ next : LifecyclePhase, next.plain = true →
      system.lifecycle.closes = false →
      MailboxView.LifecycleStep system.view
        (system.setLifecycle next).view :=
    fun next htrue hkeeps => .move (.plain htrue hkeeps)
  unfold lifecycleStep
  cases hphase : system.lifecycle with
  | free => exact .stay
  | done succeeded => exact .stay
  | openCalled =>
      rw [hphase] at hplain
      dsimp only
      split
      · exact hplain _ rfl rfl
      · exact hplain _ rfl rfl
  | opening generation checks byParent =>
      rw [hphase] at hplain
      cases checks with
      | nil =>
          dsimp only
          split
          · exact .opens hphase rfl
          · exact .opens hphase rfl
      | cons check rest =>
          dsimp only
          split
          · next hpasses =>
              refine .move (.passed hphase ?_)
              intro hcheck
              rw [hcheck] at hpasses
              exact of_decide_eq_true hpasses
          · split
            · exact hplain _ rfl rfl
            · exact hplain _ rfl rfl
  | closeCalled =>
      rw [hphase] at hplain
      dsimp only
      split
      · exact hplain _ rfl rfl
      · next hopen => exact .closes hphase hopen
  | parentCloseCalled generation =>
      rw [hphase] at hplain
      dsimp only
      split
      · exact hplain _ rfl rfl
      · exact .move (.closing hphase)
  | parentClearing generation => exact .clears hphase
  | closing generation requestCancel =>
      dsimp only
      split
      · exact .stay
      · next hmutex =>
          refine .locks hphase ?_
          intro client
          rw [← Bool.not_eq_true]
          show ¬ (system.clients client).holds = true
          rw [hlocked.client client, hmutex]
          exact (Option.some_ne_none _).symm
  | failing generation requestCancel request phase =>
      dsimp only
      split
      · next hnone =>
          exact .finishes hphase
            fun other hle => phaseAt_eq_none_of_le hnone hle
      · next current hget =>
          split
          · next heq => exact failStep_view spurious hphase hget heq
          · next hne =>
              refine .move (.skip hphase (Or.inr fun hsame => ?_))
              have hgeneration : generationAt system.requests request =
                  some current.generation := by
                unfold generationAt
                rw [hget, Option.map_some]
              rw [show system.view.generations request = some _ from
                hgeneration] at hsame
              exact absurd (Option.some.inj hsame) hne
  | cancelling generation => exact .cancels hphase
  | resetting stage =>
      match stage with
      | 0 => exact .unstages hphase
      | 1 => exact .uncancels hphase
      | stage + 2 => exact .resets hphase

/-- The calls of the master, and their returns. -/
theorem masterStep_lifecycle (calls : SdoBackend σ κ) (succeeds : Bool)
    (answer : κ) (system : MailboxSystem σ ρ) :
    (system.masterStep calls succeeds answer).1.lifecycle =
        system.lifecycle ∨
      (system.masterStep calls succeeds answer).1.lifecycle.plain = true ∧
        system.lifecycle.closes = false := by
  have hcall : ∀ call next, call.plain = true →
      (system.callMailbox call next).lifecycle = system.lifecycle ∨
        (system.callMailbox call next).lifecycle.plain = true ∧
          system.lifecycle.closes = false := by
    intro call next hplain
    unfold callMailbox
    split
    · next hfree =>
        rw [hfree]
        exact Or.inr ⟨hplain, rfl⟩
    · exact Or.inl rfl
  have htake : ∀ next,
      (system.takeReturn next).lifecycle = system.lifecycle ∨
        (system.takeReturn next).lifecycle.plain = true ∧
          system.lifecycle.closes = false := by
    intro next
    unfold takeReturn
    split
    · next hdone =>
        rw [hdone]
        exact Or.inr ⟨rfl, rfl⟩
    · exact Or.inl rfl
  unfold masterStep
  cases system.master with
  | offering generation =>
      dsimp only
      split
      · exact hcall _ _ rfl
      · exact Or.inl rfl
  | offered generation => exact htake _
  | closing generation rollback => exact hcall _ _ rfl
  | closed generation rollback => exact htake _
  | resetting rollback => exact hcall _ _ rfl
  | reset rollback =>
      dsimp only
      split
      · next hdone =>
          rw [hdone]
          split <;> exact Or.inr ⟨rfl, rfl⟩
      · exact Or.inl rfl
  | _ =>
      first
        | exact Or.inl rfl
        | (dsimp only; split <;> exact Or.inl rfl)

theorem masterStep_view (calls : SdoBackend σ κ) (succeeds : Bool)
    (answer : κ) (system : MailboxSystem σ ρ) :
    MailboxView.LifecycleStep system.view
      (system.masterStep calls succeeds answer).1.view := by
  have hframe := masterFrame calls succeeds answer system
  have hview : (system.masterStep calls succeeds answer).1.view =
      system.view.setLifecycle
        (system.masterStep calls succeeds answer).1.lifecycle := by
    unfold view MailboxView.setLifecycle
    rw [hframe.requests, hframe.staged, hframe.openGeneration,
      hframe.cancelGeneration, hframe.owner, hframe.clients]
  rw [hview]
  rcases masterStep_lifecycle calls succeeds answer system with
    heq | ⟨hplain, hkeeps⟩
  · rw [heq]
    exact .stay
  · exact .move (.plain hplain hkeeps)

end MailboxSystem

/-! ## Outputs -/

inductive MailboxThread
  | client
  | lifecycle
  | master
  | owner
  deriving DecidableEq, Repr

/-- The thread which an output comes from. -/
def MailboxOutput.thread {ρ : Type} : MailboxOutput ρ → Option MailboxThread
  | .quiet => none
  | .enqueued _ _ => some .client
  | .reported _ _ _ => some .client
  | .opened _ => some .lifecycle
  | .progressed _ _ => some .owner
  | .cancelled _ => some .owner
  | .deactivated => some .master
  | .masterOpened _ => some .master

namespace MailboxSystem

variable {σ κ ρ : Type}

theorem ownerStep_thread (calls : SdoBackend σ κ)
    (slave : EthercatSlaveAddress) (answer : κ)
    (system : MailboxSystem σ ρ) :
    (system.ownerStep calls slave answer).2.thread = none ∨
      (system.ownerStep calls slave answer).2.thread = some .owner := by
  unfold ownerStep
  split
  case h_4 => exact Or.inr rfl
  case h_12 =>
    split
    · exact Or.inl rfl
    · exact Or.inr rfl
  all_goals first
    | exact Or.inl rfl
    | (split <;> exact Or.inl rfl)

theorem lifecycleStep_thread (spurious : Bool)
    (system : MailboxSystem σ ρ) :
    (system.lifecycleStep spurious).2.thread = none ∨
      (system.lifecycleStep spurious).2.thread = some .lifecycle := by
  unfold lifecycleStep
  split
  case h_2 =>
    split
    · exact Or.inr rfl
    · exact Or.inl rfl
  case h_3 =>
    split
    · exact Or.inl rfl
    · split
      · exact Or.inl rfl
      · exact Or.inr rfl
  case h_4 =>
    split
    · exact Or.inl rfl
    · exact Or.inr rfl
  case h_9 =>
    split
    · exact Or.inl rfl
    · split <;> exact Or.inl rfl
  all_goals first
    | exact Or.inl rfl
    | (split <;> exact Or.inl rfl)

theorem masterStep_thread (calls : SdoBackend σ κ) (succeeds : Bool)
    (answer : κ) (system : MailboxSystem σ ρ) :
    (system.masterStep calls succeeds answer).2.thread = none ∨
      (system.masterStep calls succeeds answer).2.thread = some .master := by
  unfold masterStep
  split
  case h_2 =>
    split
    · exact Or.inr rfl
    · exact Or.inl rfl
  case h_3 =>
    dsimp only
    split
    · exact Or.inl rfl
    · exact Or.inr rfl
  case h_17 =>
    split
    · split
      · exact Or.inr rfl
      · exact Or.inl rfl
    · exact Or.inl rfl
  all_goals first
    | exact Or.inl rfl
    | exact Or.inr rfl
    | (split <;> exact Or.inl rfl)

theorem clientStep_thread [DecidableEq ρ] (system : MailboxSystem σ ρ)
    (client : ρ) :
    (system.clientStep client).2.thread = none ∨
      (system.clientStep client).2.thread = some .client := by
  unfold clientStep
  split
  case h_3 =>
    split
    · exact Or.inr rfl
    · split
      · exact Or.inr rfl
      · exact Or.inl rfl
  case h_14 =>
    split
    · exact Or.inl rfl
    · split <;> exact Or.inl rfl
  case h_19 =>
    split
    · exact Or.inr rfl
    · split
      · exact Or.inr rfl
      · exact Or.inr rfl
      · exact Or.inl rfl
      · exact Or.inr rfl
  case h_20 =>
    split
    · exact Or.inr rfl
    · split <;> exact Or.inr rfl
  all_goals first
    | exact Or.inl rfl
    | (split <;> exact Or.inl rfl)
    | (split <;> exact Or.inr rfl)
    | (split
       · exact Or.inr rfl
       · exact Or.inl rfl)

end MailboxSystem

/-! ## The machine -/

/-- A step of one of the threads. -/
inductive MailboxView.Step {ρ : Type} [DecidableEq ρ] (view : MailboxView ρ) :
    MailboxView ρ → Prop
  | owner {next : MailboxView ρ} (hstep : view.OwnerStep next) :
      Step view next
  | client {client : ρ} {next : MailboxView ρ}
      (hstep : view.ClientStep client next) : Step view next
  | lifecycle {next : MailboxView ρ} (hstep : view.LifecycleStep next) :
      Step view next

namespace MailboxSystem

variable {σ κ ρ : Type} [DecidableEq ρ]

theorem callClient_view (system : MailboxSystem σ ρ) (client : ρ)
    {phase : ClientPhase} (hplain : phase.plain = true) :
    MailboxView.ClientStep system.view client
      (system.callClient client phase).view := by
  unfold callClient
  split
  · next hidle =>
      exact .move (.plain hplain (congrArg ClientPhase.publishing hidle))
  · exact .stay

omit [DecidableEq ρ] in
theorem callLifecycle_view (system : MailboxSystem σ ρ)
    {phase : LifecyclePhase} (hplain : phase.plain = true) :
    MailboxView.LifecycleStep system.view
      (system.callLifecycle phase).view := by
  unfold callLifecycle
  split
  · next hfree =>
      exact .move (.plain hplain (congrArg LifecyclePhase.closes hfree))
  · exact .stay

theorem step_view (calls : SdoBackend σ κ) (slave : EthercatSlaveAddress)
    {system : MailboxSystem σ ρ}
    (hlocked : Locked system.clients system.lifecycle system.requestsMutex)
    (input : MailboxInput κ ρ) :
    MailboxView.Step system.view (system.step calls slave input).1.view := by
  have hmove : ∀ phase : MailboxOwnerPhase, phase.plain = true →
      system.owner.claim = none →
      MailboxView.Step system.view (system.setOwner phase).view :=
    fun phase hplain hclaim => .owner (.move (.plain hplain hclaim))
  cases input with
  | enqueue client arguments => exact .client (callClient_view _ _ rfl)
  | cycle client => exact .client (callClient_view _ _ rfl)
  | status client request => exact .client (callClient_view _ _ rfl)
  | client client => exact .client (clientStep_view system client)
  | openMailbox => exact .lifecycle (callLifecycle_view _ rfl)
  | closeMailbox => exact .lifecycle (callLifecycle_view _ rfl)
  | lifecycle spurious =>
      exact .lifecycle (lifecycleStep_view spurious hlocked)
  | openMaster =>
      unfold step callMaster
      dsimp only
      split <;> exact .owner .stay
  | closeMaster =>
      unfold step callMaster
      dsimp only
      split <;> exact .owner .stay
  | master succeeds answer =>
      exact .lifecycle (masterStep_view calls succeeds answer system)
  | ownerCycle =>
      unfold step
      dsimp only
      split
      · next howner =>
          split
          · exact hmove _ rfl (congrArg MailboxOwnerPhase.claim howner)
          · exact .owner .stay
      · exact .owner .stay
  | ownerReach reaches =>
      unfold step
      dsimp only
      split
      · next howner =>
          have hclaim := congrArg MailboxOwnerPhase.claim howner
          split
          · exact hmove _ rfl hclaim
          · exact hmove _ rfl hclaim
      · next howner =>
          exact hmove _ rfl (congrArg MailboxOwnerPhase.claim howner)
      · exact .owner .stay
  | ownerOther other answer transfer =>
      unfold step
      dsimp only
      split <;> exact .owner .stay
  | owner answer => exact .owner (ownerStep_view calls slave answer system)

end MailboxSystem

end PolicyRuntime
