import PolicyRuntime.MailboxExclusive
import PolicyRuntime.IghSdo

/-!
# Mailboxes on the IgH backend

The transfer which the backend has under way for a slave is that of the request
in flight.  So the owner, who progresses the staged request only, never asks
the backend for another transfer.
-/

namespace PolicyRuntime

/-! ## Payloads -/

/-- The requests ask for the same transfer. -/
def SamePayload (next current : MailboxRequest) : Prop :=
  next.upload = current.upload ∧ next.transfer = current.transfer

def KeepsPayloads (requests next : List MailboxRequest) : Prop :=
  ∀ (request : ℕ) (current : MailboxRequest),
    requests[request]? = some current →
    ∃ changed, next[request]? = some changed ∧ SamePayload changed current

theorem keepsPayloads_refl (requests : List MailboxRequest) :
    KeepsPayloads requests requests :=
  fun _ current hget => ⟨current, hget, rfl, rfl⟩

theorem keepsPayloads_concat (requests : List MailboxRequest)
    (added : MailboxRequest) : KeepsPayloads requests (requests ++ [added]) :=
  fun _ current hget =>
    ⟨current, List.getElem?_append_left (List.getElem?_eq_some_iff.mp hget).1
      ▸ hget, rfl, rfl⟩

theorem keepsPayloads_modify {change : MailboxRequest → MailboxRequest}
    (hsame : ∀ r, SamePayload (change r) r) (requests : List MailboxRequest)
    (request : ℕ) :
    KeepsPayloads requests (requests.modify request change) := by
  intro other current hget
  by_cases heq : request = other
  · refine ⟨change current, ?_, hsame current⟩
    rw [← heq, List.getElem?_modify_eq, heq, hget]
    rfl
  · refine ⟨current, ?_, rfl, rfl⟩
    rw [List.getElem?_modify_ne _ _ heq]
    exact hget

theorem samePayload_finish (current : MailboxRequest)
    (progress : SdoTransferProgress) (stillCurrent : Bool) :
    SamePayload (current.finish progress stillCurrent) current := by
  unfold MailboxRequest.finish
  split
  · exact ⟨rfl, rfl⟩
  · split <;> exact ⟨rfl, rfl⟩

namespace MailboxSystem

variable {σ κ ρ : Type}

/-- Neither the backend nor a payload has changed, and no transfer has
ended. -/
structure Undisturbed (system next : MailboxSystem σ ρ)
    (output : MailboxOutput ρ) : Prop where
  backend : next.backend = system.backend
  payloads : KeepsPayloads system.requests next.requests
  ends : ∀ request, output.ends request = false

theorem undisturbed_of_same {system next : MailboxSystem σ ρ}
    {output : MailboxOutput ρ} (hbackend : next.backend = system.backend)
    (hrequests : next.requests = system.requests)
    (hends : ∀ request, output.ends request = false) :
    Undisturbed system next output :=
  ⟨hbackend, hrequests ▸ keepsPayloads_refl _, hends⟩

theorem ends_of_thread {output : MailboxOutput ρ}
    (howner : output.thread ≠ some .owner)
    (hmaster : output.thread ≠ some .master) (request : ℕ) :
    output.ends request = false := by
  cases output with
  | progressed own progress => exact absurd rfl howner
  | cancelled progress => exact absurd rfl howner
  | deactivated => exact absurd rfl hmaster
  | _ => rfl

theorem ownerStep_undisturbed (calls : SdoBackend σ κ)
    (slave : EthercatSlaveAddress) (answer : κ) {system : MailboxSystem σ ρ}
    (hcancelling : system.owner ≠ .cancelling)
    (hprogressing : ∀ parent request,
      system.owner ≠ .progressing parent request) :
    Undisturbed system (system.ownerStep calls slave answer).1
      (system.ownerStep calls slave answer).2 := by
  have hmodify : ∀ (request : ℕ) (change : MailboxRequest → MailboxRequest)
      (phase : MailboxOwnerPhase), (∀ r, SamePayload (change r) r) →
      Undisturbed system ((system.modifyRequest request change).setOwner phase)
        .quiet :=
    fun request change phase hsame =>
      ⟨rfl, keepsPayloads_modify hsame _ request, fun _ => rfl⟩
  have hmove : ∀ phase,
      Undisturbed system (system.setOwner phase) .quiet :=
    fun phase => undisturbed_of_same rfl rfl fun _ => rfl
  unfold ownerStep
  cases hphase : system.owner with
  | cancelling => exact absurd hphase hcancelling
  | progressing parent request =>
      exact absurd hphase (hprogressing parent request)
  | outside => exact undisturbed_of_same rfl rfl fun _ => rfl
  | admitted => exact undisturbed_of_same rfl rfl fun _ => rfl
  | returned => exact undisturbed_of_same rfl rfl fun _ => rfl
  | cancelled => exact undisturbed_of_same rfl rfl fun _ => rfl
  | unstaged => exact undisturbed_of_same rfl rfl fun _ => rfl
  | deciding parent request progress => exact hmove _
  | claiming parent request =>
      dsimp only
      split
      · exact hmodify _ _ _ fun _ => ⟨rfl, rfl⟩
      · exact hmove _
  | progressed parent request progress =>
      dsimp only
      split
      · exact hmodify _ _ _ fun _ => ⟨rfl, rfl⟩
      · exact hmove _
  | storing request progress stillCurrent =>
      exact hmodify _ _ _ fun r => samePayload_finish r progress stillCurrent
  | clearing request =>
      dsimp only
      split
      · exact undisturbed_of_same rfl rfl fun _ => rfl
      · exact hmove _
  | _ =>
      dsimp only
      split <;> exact hmove _

theorem failStep_payloads (spurious : Bool) (system : MailboxSystem σ ρ)
    (generation : ℕ) (requestCancel : Bool) (request : ℕ)
    (current : RequestPhase) (phase : FailPhase) :
    KeepsPayloads system.requests
      (system.failStep spurious generation requestCancel request current
        phase).requests := by
  have hrefl := keepsPayloads_refl system.requests
  unfold failStep
  cases phase with
  | start =>
      dsimp only
      split <;> exact hrefl
  | trying seen =>
      dsimp only
      split
      · exact hrefl
      · split
        · split <;> exact hrefl
        · split
          · apply keepsPayloads_modify
            exact fun _ => ⟨rfl, rfl⟩
          · exact hrefl
  | claimed =>
      apply keepsPayloads_modify
      exact fun _ => ⟨rfl, rfl⟩

theorem lifecycleStep_undisturbed (spurious : Bool)
    (system : MailboxSystem σ ρ) :
    Undisturbed system (system.lifecycleStep spurious).1
      (system.lifecycleStep spurious).2 where
  backend := (lifecycleFrame spurious system).backend
  payloads := by
    have hrefl := keepsPayloads_refl system.requests
    unfold lifecycleStep
    cases system.lifecycle with
    | opening generation checks byParent =>
        cases checks with
        | nil =>
            dsimp only
            split <;> exact hrefl
        | cons check rest =>
            dsimp only
            split
            · exact hrefl
            · split <;> exact hrefl
    | failing generation requestCancel request phase =>
        dsimp only
        split
        · exact hrefl
        · split
          · exact failStep_payloads spurious system _ _ _ _ _
          · exact hrefl
    | resetting stage =>
        match stage with
        | 0 => exact hrefl
        | 1 => exact hrefl
        | stage + 2 => exact hrefl
    | _ =>
        first
          | exact hrefl
          | (dsimp only; split <;> exact hrefl)
  ends := by
    apply ends_of_thread
    · rcases lifecycleStep_thread spurious system with heq | heq <;>
        rw [heq] <;> exact nofun
    · rcases lifecycleStep_thread spurious system with heq | heq <;>
        rw [heq] <;> exact nofun

theorem masterStep_undisturbed (calls : SdoBackend σ κ) (succeeds : Bool)
    (answer : κ) {system : MailboxSystem σ ρ}
    (hstarting : system.master ≠ .starting)
    (hdeactivating : ∀ rollback, system.master ≠ .deactivating rollback) :
    Undisturbed system (system.masterStep calls succeeds answer).1
      (system.masterStep calls succeeds answer).2 := by
  have hcall : ∀ call next,
      Undisturbed system (system.callMailbox call next) .quiet := by
    intro call next
    unfold callMailbox
    split <;> exact undisturbed_of_same rfl rfl fun _ => rfl
  have htake : ∀ next,
      Undisturbed system (system.takeReturn next) .quiet := by
    intro next
    unfold takeReturn
    split <;> exact undisturbed_of_same rfl rfl fun _ => rfl
  unfold masterStep
  cases hphase : system.master with
  | starting => exact absurd hphase hstarting
  | deactivating rollback => exact absurd hphase (hdeactivating rollback)
  | offering generation =>
      dsimp only
      split
      · exact hcall _ _
      · exact undisturbed_of_same rfl rfl fun _ => rfl
  | offered generation => exact htake _
  | closing generation rollback => exact hcall _ _
  | closed generation rollback => exact htake _
  | resetting rollback => exact hcall _ _
  | reset rollback =>
      dsimp only
      split
      · split <;> exact undisturbed_of_same rfl rfl fun _ => rfl
      · exact undisturbed_of_same rfl rfl fun _ => rfl
  | _ =>
      first
        | exact undisturbed_of_same rfl rfl fun _ => rfl
        | (dsimp only; split <;> exact undisturbed_of_same rfl rfl fun _ => rfl)

theorem masterStep_starting (calls : SdoBackend σ κ) (succeeds : Bool)
    (answer : κ) {system : MailboxSystem σ ρ}
    (hstarting : system.master = .starting) :
    (system.masterStep calls succeeds answer).1.backend =
        (calls.start system.backend answer).1 ∧
      (system.masterStep calls succeeds answer).1.requests =
        system.requests ∧
      ∀ request, MailboxOutput.ends request
        (system.masterStep calls succeeds answer).2 = false := by
  unfold masterStep
  rw [hstarting]
  dsimp only
  split <;> exact ⟨rfl, rfl, fun _ => rfl⟩

section Clients

variable [DecidableEq ρ]

theorem lockRequests_requests (system : MailboxSystem σ ρ) (client : ρ)
    (phase : ClientPhase) :
    (system.lockRequests client phase).requests = system.requests := by
  unfold lockRequests
  split <;> rfl

theorem clientStep_undisturbed (system : MailboxSystem σ ρ) (client : ρ) :
    Undisturbed system (system.clientStep client).1
      (system.clientStep client).2 where
  backend := (clientFrame system client).backend
  payloads := by
    have hrefl := keepsPayloads_refl system.requests
    have hlock : ∀ phase, KeepsPayloads system.requests
        (system.lockRequests client phase).requests := by
      intro phase
      rw [lockRequests_requests]
      exact hrefl
    unfold clientStep
    cases system.clients client with
    | enqueueOpened arguments generation =>
        dsimp only
        split
        · exact hrefl
        · split <;> exact hrefl
    | enqueueReady arguments generation => exact hlock _
    | enqueueChecked arguments generation =>
        dsimp only
        split
        · exact hrefl
        · exact keepsPayloads_concat _ _
    | stageReady => exact hlock _
    | stageSearching generation request =>
        dsimp only
        split
        · exact hrefl
        · split <;> exact hrefl
    | stageFound request =>
        dsimp only
        split
        · apply keepsPayloads_modify
          exact fun _ => ⟨rfl, rfl⟩
        · exact hrefl
    | stageReverting request =>
        dsimp only
        split
        · apply keepsPayloads_modify
          exact fun _ => ⟨rfl, rfl⟩
        · exact hrefl
    | statusCalled request => exact hlock _
    | statusLocked request =>
        dsimp only
        split
        · exact hrefl
        · split <;> exact hrefl
    | statusTerminalizing request =>
        dsimp only
        split
        · exact hrefl
        · split <;> exact hrefl
    | _ =>
        first
          | exact hrefl
          | (dsimp only; split <;> exact hrefl)
  ends := by
    apply ends_of_thread
    · rcases clientStep_thread system client with heq | heq <;>
        rw [heq] <;> exact nofun
    · rcases clientStep_thread system client with heq | heq <;>
        rw [heq] <;> exact nofun

end Clients

/-! ## The transfer under way -/

/-- The backend's transfer for the slave is that of the request in flight. -/
structure TransferOk (slave : EthercatSlaveAddress)
    (system : MailboxSystem IghBackend ρ) : Prop where
  started : system.backend.Started
  inFlight : ∀ own, system.backend.slaves slave = some own →
    own.activeSdo ≠ .none →
    system.backend.activated = true ∧ ∃ request current,
      system.InFlight request ∧ system.requests[request]? = some current ∧
        IghBackend.Serves own current

theorem transferOk_of_idle {slave : EthercatSlaveAddress}
    {system : MailboxSystem IghBackend ρ} (hstarted : system.backend.Started)
    (hidle : system.backend.Idle slave) : system.TransferOk slave :=
  ⟨hstarted, fun own hown hactive => absurd (hidle own hown) hactive⟩

theorem serves_congr {own : IghSlave} {changed current : MailboxRequest}
    (hsame : SamePayload changed current)
    (hserves : IghBackend.Serves own current) :
    IghBackend.Serves own changed where
  request := hserves.request
  kind := by
    rw [hsame.1]
    exact hserves.kind
  address := by
    rw [hsame.2]
    exact hserves.address
  transferable := by
    unfold IghBackend.Transferable
    rw [hsame.1, hsame.2]
    exact hserves.transferable

/-- A request which the owner progresses is the one whose transfer is under
way. -/
theorem TransferOk.carries {slave : EthercatSlaveAddress}
    {system : MailboxSystem IghBackend ρ} (hok : system.TransferOk slave)
    (h : system.Consistent) {parent request : ℕ} {current : MailboxRequest}
    (hphase : system.owner = .progressing parent request)
    (hget : system.requests[request]? = some current) :
    system.backend.Carries slave current := by
  intro own hown hactive
  obtain ⟨hactivated, other, found, hflight, hfound, hserves⟩ :=
    hok.inFlight own hown hactive
  have hsame : request = other := owner_request h hflight.staged
    (congrArg MailboxOwnerPhase.request hphase)
  rw [hsame, hfound] at hget
  cases hget
  exact ⟨hactivated, hserves⟩

theorem ownerStep_progressing {calls : SdoBackend σ κ}
    {slave : EthercatSlaveAddress} {answer : κ} {system : MailboxSystem σ ρ}
    {parent request : ℕ} {current changed : MailboxRequest} {next : σ}
    {progress : SdoTransferProgress}
    (hphase : system.owner = .progressing parent request)
    (hget : system.requests[request]? = some current)
    (hcall : progressRequest calls slave answer system.backend current =
      (next, changed, progress)) :
    system.ownerStep calls slave answer =
      ({ system with
          backend := next
          requests := system.requests.modify request fun _ => changed
          owner :=
            if progress.state = .pending then .returned
            else .progressed parent request progress },
        .progressed request progress) := by
  unfold ownerStep
  rw [hphase]
  dsimp only
  rw [hget]
  dsimp only
  rw [hcall]

section Igh

variable [DecidableEq ρ] (axes : List EthercatSlaveAddress)
  (slave : EthercatSlaveAddress)

/-- A step which does not end the transfer keeps it with its request. -/
theorem TransferOk.of_same {system : MailboxSystem IghBackend ρ}
    (hok : system.TransferOk slave) (h : system.Consistent)
    {input : MailboxInput EcrtAnswer ρ}
    (hsame : IghBackend.SameSlave slave
      (system.step (IghBackend.calls axes) slave input).1.backend
      system.backend)
    (hpayloads : KeepsPayloads system.requests
      (system.step (IghBackend.calls axes) slave input).1.requests)
    (hends : ∀ request, MailboxOutput.ends request
      (system.step (IghBackend.calls axes) slave input).2 = false) :
    TransferOk slave (system.step (IghBackend.calls axes) slave input).1 where
  started := hsame.started hok.started
  inFlight := by
    intro own hown hactive
    rw [hsame.slave] at hown
    obtain ⟨hactivated, request, current, hflight, hget, hserves⟩ :=
      hok.inFlight own hown hactive
    obtain ⟨changed, hchanged, hpayload⟩ := hpayloads request current hget
    rw [hsame.activated]
    exact ⟨hactivated, request, changed,
      inFlight_step _ slave h hflight (hends request), hchanged,
      serves_congr hpayload hserves⟩

theorem TransferOk.of_undisturbed {system : MailboxSystem IghBackend ρ}
    (hok : system.TransferOk slave) (h : system.Consistent)
    {input : MailboxInput EcrtAnswer ρ}
    (hundisturbed : Undisturbed system
      (system.step (IghBackend.calls axes) slave input).1
      (system.step (IghBackend.calls axes) slave input).2) :
    TransferOk slave (system.step (IghBackend.calls axes) slave input).1 :=
  hok.of_same axes slave h
    ⟨congrArg _ hundisturbed.backend, congrArg _ hundisturbed.backend,
      congrArg (fun backend => backend.slaves slave) hundisturbed.backend⟩
    hundisturbed.payloads hundisturbed.ends

/-- A call for the staged request. -/
theorem TransferOk.progressing {system : MailboxSystem IghBackend ρ}
    (hok : system.TransferOk slave) (h : system.Consistent)
    {parent request : ℕ} {current : MailboxRequest} (answer : EcrtAnswer)
    (hphase : system.owner = .progressing parent request)
    (hget : system.requests[request]? = some current) :
    TransferOk slave
      (system.step (IghBackend.calls axes) slave (.owner answer)).1 := by
  have hcarries := hok.carries h hphase hget
  have hprogressed :=
    IghBackend.progressRequest_progressed axes answer hcarries
  obtain ⟨⟨next, changed, progress⟩, hcall⟩ : ∃ result,
      progressRequest (IghBackend.calls axes) slave answer system.backend
        current = result := ⟨_, rfl⟩
  rw [hcall] at hprogressed
  have hstep := ownerStep_progressing hphase hget hcall
  have houtput : (system.step (IghBackend.calls axes) slave
      (.owner answer)).2 = .progressed request progress :=
    congrArg Prod.snd hstep
  have hflight : progress.state = .pending →
      InFlight (system.ownerStep (IghBackend.calls axes) slave answer).1
        request := inFlight_of_pending h houtput
  change TransferOk slave
    (system.ownerStep (IghBackend.calls axes) slave answer).1
  rw [hstep] at hflight ⊢
  dsimp only at hprogressed hflight ⊢
  have hfound : (system.requests.modify request fun _ => current)[request]? =
      some current := by
    rw [List.getElem?_modify_eq, hget]
    rfl
  cases hprogressed with
  | refused hidle hreason => exact transferOk_of_idle hok.started hidle
  | @scheduled own hactivated hserves =>
      refine ⟨hok.started, fun other hother _ => ?_⟩
      rw [IghBackend.setSlave_self, Option.some.injEq] at hother
      rw [← hother]
      exact ⟨hactivated, request, current, hflight rfl, hfound, hserves⟩
  | waiting =>
      refine ⟨hok.started, fun own hown hactive => ?_⟩
      obtain ⟨hactivated, hserves⟩ := hcarries own hown hactive
      exact ⟨hactivated, request, current, hflight rfl, hfound, hserves⟩
  | released hidle hreason =>
      exact transferOk_of_idle hok.started (IghBackend.idle_setSlave hidle)

/-- A cancellation completes once no transfer is under way. -/
theorem TransferOk.cancelling {system : MailboxSystem IghBackend ρ}
    (hok : system.TransferOk slave) (h : system.Consistent)
    (answer : EcrtAnswer) (hphase : system.owner = .cancelling) :
    TransferOk slave
      (system.step (IghBackend.calls axes) slave (.owner answer)).1 := by
  have hrequest : ∀ own, system.backend.slaves slave = some own →
      own.activeSdo ≠ .none → own.activeRequest ≠ none := by
    intro own hown hactive
    obtain ⟨-, request, current, -, -, hserves⟩ :=
      hok.inFlight own hown hactive
    exact hserves.request
  have hstep : system.step (IghBackend.calls axes) slave (.owner answer) =
      ({ system with
          backend := (system.backend.progressCancel answer slave).1
          owner :=
            if some (system.backend.progressCancel answer slave).2.state =
                some .completed then .cancelled else .returned },
        .cancelled (some (system.backend.progressCancel answer slave).2)) := by
    change system.ownerStep (IghBackend.calls axes) slave answer = _
    unfold ownerStep
    rw [hphase]
    rfl
  rcases IghBackend.progressCancel_idle answer hrequest with
    hidle | ⟨hsame, hstate⟩
  · rw [hstep]
    exact transferOk_of_idle (hok.started.of_touched
      (IghBackend.progressCancel_touched answer)) hidle
  · apply hok.of_same axes slave h
    · rw [hstep]
      exact ⟨congrArg _ hsame, congrArg _ hsame,
        congrArg (fun backend => backend.slaves slave) hsame⟩
    · rw [hstep]
      exact keepsPayloads_refl _
    · intro request
      rw [hstep]
      exact decide_eq_false fun heq => hstate (Option.some.inj heq)

/-- Opening and closing the master leave no transfer under way. -/
theorem TransferOk.master {system : MailboxSystem IghBackend ρ}
    (hok : system.TransferOk slave) (h : system.Consistent)
    (succeeds : Bool) (answer : EcrtAnswer) :
    TransferOk slave (system.step (IghBackend.calls axes) slave
      (.master succeeds answer)).1 := by
  have hinitialized : ∀ own, system.backend.slaves slave = some own →
      own.activeSdo ≠ .none → system.backend.initialized = true :=
    fun own hown hactive => hok.started (hok.inFlight own hown hactive).1
  by_cases hstarting : system.master = .starting
  · obtain ⟨hbackend, hrequests, hends⟩ := masterStep_starting
      (IghBackend.calls axes) succeeds answer hstarting
    by_cases hopen : system.backend.initialized = true
    · have hstart : (IghBackend.calls axes).start system.backend answer =
          (system.backend, false) :=
        IghBackend.start_of_initialized axes answer hopen
      rw [hstart] at hbackend
      exact hok.of_undisturbed axes slave h
        (undisturbed_of_same hbackend hrequests hends)
    · have hidle : system.backend.Idle slave := by
        intro own hown
        by_contra hactive
        exact hopen (hinitialized own hown hactive)
      apply transferOk_of_idle
      · exact hbackend ▸ hok.started.start axes answer
      · exact hbackend ▸ IghBackend.start_idle axes answer hidle
  · by_cases hdeactivating : ∃ rollback,
        system.master = .deactivating rollback
    · obtain ⟨rollback, hphase⟩ := hdeactivating
      change TransferOk slave (system.masterStep _ succeeds answer).1
      unfold masterStep
      rw [hphase]
      exact transferOk_of_idle hok.started.deactivate
        (IghBackend.deactivate_idle hinitialized)
    · exact hok.of_undisturbed axes slave h (masterStep_undisturbed _ succeeds
        answer hstarting (not_exists.mp hdeactivating))

theorem transferOk_step {system : MailboxSystem IghBackend ρ}
    (hok : system.TransferOk slave) (h : system.Consistent)
    (input : MailboxInput EcrtAnswer ρ) :
    TransferOk slave
      (system.step (IghBackend.calls axes) slave input).1 := by
  have hquiet : ∀ next : MailboxSystem IghBackend ρ,
      next.backend = system.backend → next.requests = system.requests →
      Undisturbed system next .quiet :=
    fun _ hbackend hrequests =>
      undisturbed_of_same hbackend hrequests fun _ => rfl
  have hclient : ∀ client phase,
      Undisturbed system (system.callClient client phase) .quiet := by
    intro client phase
    unfold callClient
    split <;> exact hquiet _ rfl rfl
  have hlifecycle : ∀ phase,
      Undisturbed system (system.callLifecycle phase) .quiet := by
    intro phase
    unfold callLifecycle
    split <;> exact hquiet _ rfl rfl
  have hmaster : ∀ phase,
      Undisturbed system (system.callMaster phase) .quiet := by
    intro phase
    unfold callMaster
    split <;> exact hquiet _ rfl rfl
  cases input with
  | enqueue client arguments =>
      exact hok.of_undisturbed axes slave h (hclient _ _)
  | cycle client => exact hok.of_undisturbed axes slave h (hclient _ _)
  | status client request =>
      exact hok.of_undisturbed axes slave h (hclient _ _)
  | client client =>
      exact hok.of_undisturbed axes slave h
        (clientStep_undisturbed system client)
  | openMailbox => exact hok.of_undisturbed axes slave h (hlifecycle _)
  | closeMailbox => exact hok.of_undisturbed axes slave h (hlifecycle _)
  | lifecycle spurious =>
      exact hok.of_undisturbed axes slave h
        (lifecycleStep_undisturbed spurious system)
  | openMaster => exact hok.of_undisturbed axes slave h (hmaster _)
  | closeMaster => exact hok.of_undisturbed axes slave h (hmaster _)
  | master succeeds answer => exact hok.master axes slave h succeeds answer
  | ownerCycle =>
      apply hok.of_undisturbed axes slave h
      unfold step
      dsimp only
      split
      · split <;> exact hquiet _ rfl rfl
      · exact hquiet _ rfl rfl
  | ownerReach reaches =>
      apply hok.of_undisturbed axes slave h
      unfold step
      dsimp only
      split
      · split <;> exact hquiet _ rfl rfl
      · exact hquiet _ rfl rfl
      · exact hquiet _ rfl rfl
  | ownerOther other answer transfer =>
      apply hok.of_same axes slave h
      · unfold step
        dsimp only
        split
        · next hother =>
            exact IghBackend.sameSlave_otherCall axes hother.2 answer transfer
        · exact ⟨rfl, rfl, rfl⟩
      · unfold step
        dsimp only
        split <;> exact keepsPayloads_refl _
      · intro request
        unfold step
        dsimp only
        split <;> rfl
  | owner answer =>
      by_cases hcancelling : system.owner = .cancelling
      · exact hok.cancelling axes slave h answer hcancelling
      · by_cases hprogressing : ∃ parent request,
            system.owner = .progressing parent request
        · obtain ⟨parent, request, hphase⟩ := hprogressing
          cases hget : system.requests[request]? with
          | some current =>
              exact hok.progressing axes slave h answer hphase hget
          | none =>
              apply hok.of_undisturbed axes slave h
              change Undisturbed system (system.ownerStep _ slave answer).1
                (system.ownerStep _ slave answer).2
              unfold ownerStep
              rw [hphase]
              dsimp only
              rw [hget]
              exact hquiet _ rfl rfl
        · exact hok.of_undisturbed axes slave h
            (ownerStep_undisturbed _ slave answer hcancelling
              fun parent request heq => hprogressing ⟨parent, request, heq⟩)

theorem transferOk_final (inputs : List (MailboxInput EcrtAnswer ρ)) :
    TransferOk slave ((machine (IghBackend.calls axes) slave).final
      (constructed IghBackend.constructed) inputs) := by
  have hstart : TransferOk slave
      (constructed IghBackend.constructed : MailboxSystem IghBackend ρ) :=
    ⟨IghBackend.started_constructed, nofun⟩
  have hfinal : Consistent ((machine (IghBackend.calls axes) slave).final
        (constructed IghBackend.constructed) inputs) ∧
      TransferOk slave ((machine (IghBackend.calls axes) slave).final
        (constructed IghBackend.constructed) inputs) := by
    refine Machine.invariant_final
      (fun system : MailboxSystem IghBackend ρ =>
        system.Consistent ∧ system.TransferOk slave) ?_
      ⟨consistent_constructed _, hstart⟩ inputs
    intro system input hsystem
    exact ⟨consistent_step _ slave system input hsystem.1,
      transferOk_step axes slave hsystem.2 hsystem.1 input⟩
  exact hfinal.2

theorem not_conflicting {system : MailboxSystem IghBackend ρ}
    (hok : system.TransferOk slave) (h : system.Consistent)
    {input : MailboxInput EcrtAnswer ρ} {request : ℕ}
    {progress : SdoTransferProgress}
    (houtput : (system.step (IghBackend.calls axes) slave input).2 =
      .progressed request progress) :
    progress.failureReason ≠ .conflictingRequest := by
  obtain ⟨answer, parent, rfl, hphase⟩ := progressing_of_output houtput
  change (system.ownerStep (IghBackend.calls axes) slave answer).2 = _
    at houtput
  cases hget : system.requests[request]? with
  | none =>
      unfold ownerStep at houtput
      rw [hphase] at houtput
      dsimp only at houtput
      rw [hget] at houtput
      cases houtput
  | some current =>
      rw [ownerStep_progressing hphase hget rfl] at houtput
      cases houtput
      exact (IghBackend.progressRequest_progressed axes answer
        (hok.carries h hphase hget)).reason

/-- At most one request is staged or active. -/
def AtMostOnePlaced (system : MailboxSystem σ ρ) : Prop :=
  ∀ first second,
    system.phaseOf first = some .staged ∨
      system.phaseOf first = some .active →
    system.phaseOf second = some .staged ∨
      system.phaseOf second = some .active →
    first = second

omit [DecidableEq ρ] in
theorem atMostOnePlaced {system : MailboxSystem σ ρ} (h : system.Consistent) :
    system.AtMostOnePlaced := by
  have hplaced : ∀ {request : ℕ},
      system.phaseOf request = some .staged ∨
        system.phaseOf request = some .active →
      system.view.Placed request := by
    rintro request (hstaged | hactive)
    · exact ⟨.staged, hstaged, rfl⟩
    · exact ⟨.active, hactive, rfl⟩
  intro first second hfirst hsecond
  exact placed_unique h (hplaced hfirst) (hplaced hsecond)

/-- A mailbox has one transfer at a time, on any backend, so that the IgH
backend never refuses a call as a conflicting one. -/
theorem mailbox_exclusive :
    (∀ (σ κ : Type) (calls : SdoBackend σ κ) (backend : σ)
      (inputs : List (MailboxInput κ ρ)),
      AtMostOnePlaced
          ((machine calls slave).final (constructed backend) inputs) ∧
        OneAtATime
          ((machine calls slave).trace (constructed backend) inputs)) ∧
    ∀ inputs : List (MailboxInput EcrtAnswer ρ),
      ∀ t ∈ (machine (IghBackend.calls axes) slave).trace
        (constructed IghBackend.constructed) inputs,
      ∀ request progress, t.output = .progressed request progress →
        progress.failureReason ≠ .conflictingRequest := by
  refine ⟨fun σ κ calls backend inputs => ⟨?_, ?_⟩, ?_⟩
  · exact atMostOnePlaced (consistent_final calls slave backend inputs)
  · exact transfers_oneAtATime calls slave backend inputs
  · intro inputs t ht request progress houtput
    obtain ⟨before, input, -, rfl⟩ := Machine.exists_fire_of_mem_trace ht
    exact not_conflicting axes slave (transferOk_final axes slave before)
      (consistent_final _ slave _ before) houtput

end Igh

end MailboxSystem

end PolicyRuntime
