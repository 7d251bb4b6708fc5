import PolicyRuntime.MailboxOrder

/-!
# One request at a time

The owner progresses the staged request only.  A request leaves the place for
the staged one after its result, after a completed cancellation, or after the
backend has been deactivated.
-/

namespace PolicyRuntime

/-- The phases of the owner between the end of a request and its return. -/
def MailboxOwnerPhase.ending : MailboxOwnerPhase → Bool
  | .cancelled => true
  | .unstaged => true
  | .progressed _ _ _ => true
  | .terminalizing _ _ _ => true
  | .deciding _ _ _ => true
  | .storing _ _ _ => true
  | .clearing _ => true
  | _ => false

/-- The phases of the master between deactivating the backend and its
return. -/
def MasterPhase.ending : MasterPhase → Bool
  | .resetting _ => true
  | .reset _ => true
  | _ => false

/-- Whether a step ends the transfer of a request: its result, a completed
cancellation or the deactivation of the backend. -/
def MailboxOutput.ends {ρ : Type} (request : ℕ) : MailboxOutput ρ → Bool
  | .progressed own progress => own = request && progress.state ≠ .pending
  | .cancelled progress =>
      progress.map SdoTransferProgress.state = some .completed
  | .deactivated => true
  | _ => false

namespace MailboxSystem

variable {σ κ ρ : Type}

/-! ## Staged requests -/

/-- At most one request is staged or active. -/
theorem placed_unique {system : MailboxSystem σ ρ} (h : system.Consistent)
    {first second : ℕ} (hfirst : system.view.Placed first)
    (hsecond : system.view.Placed second) : first = second := by
  have hpublishing : ∀ {client : ρ} {request : ℕ},
      (system.clients client).publishing = some request →
      system.clients client = .stagePublishing request := by
    intro client request heq
    cases hphase : system.clients client with
    | stagePublishing own =>
        rw [hphase] at heq
        cases heq
        rfl
    | _ =>
        rw [hphase] at heq
        cases heq
  have hstaged : ∀ {client : ρ} {request : ℕ},
      (system.clients client).publishing = some request →
      system.staged = none := by
    intro client request heq
    have hok := h.orderly.clients client
    rw [show system.view.clients client = _ from hpublishing heq] at hok
    exact hok.1
  rcases h.orderly.placed first hfirst with hleft | ⟨left, hleft⟩
  · rcases h.orderly.placed second hsecond with hright | ⟨right, hright⟩
    · rw [hleft] at hright
      exact Option.some.inj hright
    · rw [show system.view.staged = none from hstaged hright] at hleft
      cases hleft
  · rcases h.orderly.placed second hsecond with hright | ⟨right, hright⟩
    · rw [show system.view.staged = none from hstaged hleft] at hright
      cases hright
    · have hsame : left = right := by
        apply h.sound.locked.unique
        · rw [hpublishing hleft]
          rfl
        · rw [hpublishing hright]
          rfl
      rw [hsame] at hleft
      exact Option.some.inj (hleft.symm.trans hright)

/-! ## Transfers -/

/-- The request whose transfer the backend may have under way. -/
structure InFlight (system : MailboxSystem σ ρ) (request : ℕ) : Prop where
  staged : system.staged = some request
  owner : system.owner.ending = false
  master : system.master.ending = false

/-- What the owner's step says about the end of a transfer. -/
theorem ownerStep_ending (calls : SdoBackend σ κ)
    (slave : EthercatSlaveAddress) (answer : κ) {system : MailboxSystem σ ρ}
    {request : ℕ} (hrequest : ∀ own, system.owner.request = some own →
      own = request)
    (howner : system.owner.ending = false)
    (hends : (system.ownerStep calls slave answer).2.ends request = false) :
    (system.ownerStep calls slave answer).1.owner.ending = false := by
  unfold ownerStep at hends ⊢
  cases hphase : system.owner with
  | outside =>
      dsimp only
      rw [hphase]
      rfl
  | admitted =>
      dsimp only
      rw [hphase]
      rfl
  | returned =>
      dsimp only
      rw [hphase]
      rfl
  | called parent =>
      dsimp only
      split <;> rfl
  | cancelling =>
      rw [hphase] at hends
      dsimp only at hends ⊢
      rw [if_neg]
      · rfl
      · intro heq
        exact Bool.false_ne_true (hends.symm.trans (decide_eq_true heq))
  | uncancelled parent =>
      dsimp only
      split <;> rfl
  | loaded parent own =>
      dsimp only
      split <;> rfl
  | current parent own =>
      dsimp only
      split <;> rfl
  | opened parent own =>
      dsimp only
      split <;> rfl
  | claiming parent own =>
      dsimp only
      split <;> rfl
  | progressing parent own =>
      have hsame := hrequest own (by
        rw [hphase]
        rfl)
      rw [hphase] at hends
      dsimp only at hends ⊢
      split at hends
      · rfl
      · next current hget =>
          dsimp only at hends ⊢
          rw [if_pos]
          · rfl
          · by_contra hne
            have htrue := Bool.and_eq_true_iff.mpr
              ⟨decide_eq_true hsame, decide_eq_true hne⟩
            exact Bool.false_ne_true (hends.symm.trans htrue)
  | _ =>
      rw [hphase] at howner
      exact absurd howner.symm Bool.false_ne_true

theorem masterStep_ending (calls : SdoBackend σ κ) (succeeds : Bool)
    (answer : κ) {system : MailboxSystem σ ρ} {request : ℕ}
    (hmaster : system.master.ending = false)
    (hends : (system.masterStep calls succeeds answer).2.ends request =
      false) :
    (system.masterStep calls succeeds answer).1.master.ending = false := by
  have hcall : ∀ call next, next.ending = false →
      (system.callMailbox call next).master.ending = false := by
    intro call next hnext
    unfold callMailbox
    split
    · exact hnext
    · exact hmaster
  have htake : ∀ next : Bool → MasterPhase,
      (∀ succeeded, (next succeeded).ending = false) →
      (system.takeReturn next).master.ending = false := by
    intro next hnext
    unfold takeReturn
    split
    · exact hnext _
    · exact hmaster
  unfold masterStep at hends ⊢
  cases hphase : system.master with
  | idle => exact hmaster
  | starting =>
      dsimp only
      split <;> rfl
  | offering generation =>
      dsimp only
      split
      · exact hcall _ _ rfl
      · rfl
  | offered generation =>
      apply htake
      intro succeeded
      cases succeeded <;> rfl
  | closing generation rollback => exact hcall _ _ rfl
  | closed generation rollback =>
      apply htake
      intro succeeded
      cases rollback <;> rfl
  | waiting =>
      dsimp only
      split
      · rfl
      · exact hmaster
  | deactivating rollback =>
      rw [hphase] at hends
      exact absurd hends.symm Bool.false_ne_true
  | resetting rollback =>
      rw [hphase] at hmaster
      exact absurd hmaster.symm Bool.false_ne_true
  | reset rollback =>
      rw [hphase] at hmaster
      exact absurd hmaster.symm Bool.false_ne_true
  | _ =>
      first
        | rfl
        | (dsimp only; split <;> rfl)

section Machine

variable [DecidableEq ρ]

/-- The staged request stays while its transfer may be under way. -/
theorem staged_step (calls : SdoBackend σ κ) (slave : EthercatSlaveAddress)
    {system : MailboxSystem σ ρ} (h : system.Consistent) {request : ℕ}
    (hflight : system.InFlight request) (input : MailboxInput κ ρ) :
    (system.step calls slave input).1.staged = some request := by
  have hstaged : system.view.staged = some request := hflight.staged
  have howner := hflight.owner
  have hstep := step_view calls slave h.sound.locked input
  generalize (system.step calls slave input).1 = next at hstep
  change next.view.staged = some request
  generalize next.view = after at hstep
  cases hstep with
  | owner hstep =>
      cases hstep with
      | unstage hphase =>
          rw [show system.owner = _ from hphase] at howner
          exact absurd howner.symm Bool.false_ne_true
      | clear hphase =>
          rw [show system.owner = _ from hphase] at howner
          exact absurd howner.symm Bool.false_ne_true
      | _ => exact hstaged
  | @client client next hstep =>
      cases hstep with
      | publish hclient hnone =>
          rw [hnone] at hstaged
          cases hstaged
      | revert hclient =>
          have hfalse := h.orderly.clients client
          rw [hclient] at hfalse
          exact hfalse.elim
      | _ => exact hstaged
  | lifecycle hstep =>
      cases hstep with
      | unstages hphase =>
          have hmaster := h.sound.era.master_ok
          rw [show system.lifecycle = _ from hphase] at hmaster
          obtain ⟨rollback, hreset⟩ := hmaster.eq_reset
          have hending := hflight.master
          rw [hreset] at hending
          exact absurd hending.symm Bool.false_ne_true
      | _ => exact hstaged

omit [DecidableEq ρ] in
theorem owner_request {system : MailboxSystem σ ρ} (h : system.Consistent)
    {request own : ℕ} (hstaged : system.staged = some request)
    (hrequest : system.owner.request = some own) : own = request := by
  have hown : system.view.staged = some own :=
    h.orderly.owner.staged hrequest
  rw [show system.view.staged = some request from hstaged] at hown
  exact (Option.some.inj hown).symm

omit [DecidableEq ρ] in
theorem callLifecycle_keeps (system : MailboxSystem σ ρ)
    (phase : LifecyclePhase) :
    (system.callLifecycle phase).owner = system.owner ∧
      (system.callLifecycle phase).master = system.master := by
  unfold callLifecycle
  split <;> exact ⟨rfl, rfl⟩

theorem callClient_keeps (system : MailboxSystem σ ρ) (client : ρ)
    (phase : ClientPhase) :
    (system.callClient client phase).owner = system.owner ∧
      (system.callClient client phase).master = system.master := by
  unfold callClient
  split <;> exact ⟨rfl, rfl⟩

theorem owner_ending_step (calls : SdoBackend σ κ)
    (slave : EthercatSlaveAddress) {system : MailboxSystem σ ρ}
    (h : system.Consistent) {request : ℕ}
    (hflight : system.InFlight request) {input : MailboxInput κ ρ}
    (hends : (system.step calls slave input).2.ends request = false) :
    (system.step calls slave input).1.owner.ending = false := by
  have howner := hflight.owner
  have hsame : ∀ next : MailboxSystem σ ρ, next.owner = system.owner →
      next.owner.ending = false := by
    intro next heq
    rw [heq]
    exact howner
  cases input with
  | owner answer =>
      exact ownerStep_ending calls slave answer
        (fun _ => owner_request h hflight.staged) howner hends
  | client client => exact hsame _ (clientFrame system client).owner
  | lifecycle spurious => exact hsame _ (lifecycleFrame spurious system).owner
  | master succeeds answer =>
      exact hsame _ (masterFrame calls succeeds answer system).owner
  | enqueue client arguments => exact hsame _ (callClient_keeps _ _ _).1
  | cycle client => exact hsame _ (callClient_keeps _ _ _).1
  | status client own => exact hsame _ (callClient_keeps _ _ _).1
  | openMailbox => exact hsame _ (callLifecycle_keeps _ _).1
  | closeMailbox => exact hsame _ (callLifecycle_keeps _ _).1
  | openMaster =>
      unfold step callMaster
      dsimp only
      split <;> exact howner
  | closeMaster =>
      unfold step callMaster
      dsimp only
      split <;> exact howner
  | ownerCycle =>
      unfold step
      dsimp only
      split
      · split
        · rfl
        · exact howner
      · exact howner
  | ownerReach reaches =>
      unfold step
      dsimp only
      split
      · split <;> rfl
      · rfl
      · exact howner
  | ownerOther other answer transfer =>
      unfold step
      dsimp only
      split <;> exact howner

theorem master_ending_step (calls : SdoBackend σ κ)
    (slave : EthercatSlaveAddress) {system : MailboxSystem σ ρ}
    {request : ℕ} (hmaster : system.master.ending = false)
    {input : MailboxInput κ ρ}
    (hends : (system.step calls slave input).2.ends request = false) :
    (system.step calls slave input).1.master.ending = false := by
  have hsame : ∀ next : MailboxSystem σ ρ, next.master = system.master →
      next.master.ending = false := by
    intro next heq
    rw [heq]
    exact hmaster
  cases input with
  | owner answer =>
      exact hsame _ (ownerFrame calls slave answer system).master
  | client client => exact hsame _ (clientFrame system client).master
  | lifecycle spurious =>
      exact hsame _ (lifecycleFrame spurious system).master
  | master succeeds answer =>
      exact masterStep_ending calls succeeds answer hmaster hends
  | enqueue client arguments => exact hsame _ (callClient_keeps _ _ _).2
  | cycle client => exact hsame _ (callClient_keeps _ _ _).2
  | status client own => exact hsame _ (callClient_keeps _ _ _).2
  | openMailbox => exact hsame _ (callLifecycle_keeps _ _).2
  | closeMailbox => exact hsame _ (callLifecycle_keeps _ _).2
  | openMaster =>
      unfold step callMaster
      dsimp only
      split
      · rfl
      · exact hmaster
  | closeMaster =>
      unfold step callMaster
      dsimp only
      split
      · rfl
      · exact hmaster
  | ownerCycle =>
      unfold step
      dsimp only
      split
      · split <;> exact hmaster
      · exact hmaster
  | ownerReach reaches =>
      unfold step
      dsimp only
      split
      · split <;> exact hmaster
      · exact hmaster
      · exact hmaster
  | ownerOther other answer transfer =>
      unfold step
      dsimp only
      split <;> exact hmaster

theorem inFlight_step (calls : SdoBackend σ κ) (slave : EthercatSlaveAddress)
    {system : MailboxSystem σ ρ} (h : system.Consistent) {request : ℕ}
    (hflight : system.InFlight request) {input : MailboxInput κ ρ}
    (hends : (system.step calls slave input).2.ends request = false) :
    (system.step calls slave input).1.InFlight request where
  staged := staged_step calls slave h hflight input
  owner := owner_ending_step calls slave h hflight hends
  master := master_ending_step calls slave hflight.master hends

/-- Only the owner calls the backend for a request. -/
theorem progressing_of_output {calls : SdoBackend σ κ}
    {slave : EthercatSlaveAddress} {system : MailboxSystem σ ρ}
    {input : MailboxInput κ ρ} {request : ℕ} {progress : SdoTransferProgress}
    (houtput : (system.step calls slave input).2 =
      .progressed request progress) :
    ∃ answer parent, input = .owner answer ∧
      system.owner = .progressing parent request := by
  have hthread : ∀ {output : MailboxOutput ρ} {thread : MailboxThread},
      output.thread = none ∨ output.thread = some thread →
      thread ≠ .owner → output ≠ .progressed request progress := by
    rintro output thread hcases hne rfl
    rcases hcases with heq | heq
    · cases heq
    · exact hne (Option.some.inj heq).symm
  cases input with
  | client client =>
      exact absurd houtput (hthread (clientStep_thread _ _) (by simp))
  | lifecycle spurious =>
      exact absurd houtput (hthread (lifecycleStep_thread _ _) (by simp))
  | master succeeds answer =>
      exact absurd houtput (hthread (masterStep_thread _ _ _ _) (by simp))
  | ownerCycle =>
      unfold step at houtput
      dsimp only at houtput
      split at houtput
      · split at houtput <;> cases houtput
      · cases houtput
  | ownerReach reaches =>
      unfold step at houtput
      dsimp only at houtput
      split at houtput
      · split at houtput <;> cases houtput
      · cases houtput
      · cases houtput
  | ownerOther other answer transfer =>
      unfold step at houtput
      dsimp only at houtput
      split at houtput <;> cases houtput
  | owner answer =>
      change (system.ownerStep calls slave answer).2 = _ at houtput
      unfold ownerStep at houtput
      cases hphase : system.owner with
      | progressing parent own =>
          rw [hphase] at houtput
          dsimp only at houtput
          split at houtput
          · cases houtput
          · cases houtput
            exact ⟨answer, parent, rfl, rfl⟩
      | cancelling =>
          rw [hphase] at houtput
          cases houtput
      | _ =>
          rw [hphase] at houtput
          dsimp only at houtput
          first
            | cases houtput
            | (split at houtput <;> cases houtput)
  | _ => cases houtput

/-- A pending call leaves its request in flight. -/
theorem inFlight_of_pending {calls : SdoBackend σ κ}
    {slave : EthercatSlaveAddress} {system : MailboxSystem σ ρ}
    (h : system.Consistent) {input : MailboxInput κ ρ} {request : ℕ}
    {progress : SdoTransferProgress}
    (houtput : (system.step calls slave input).2 =
      .progressed request progress)
    (hpending : progress.state = .pending) :
    (system.step calls slave input).1.InFlight request := by
  obtain ⟨answer, parent, rfl, hphase⟩ := progressing_of_output houtput
  have hflight : system.InFlight request := by
    refine ⟨h.orderly.owner.staged ?_, ?_, ?_⟩
    · show system.owner.request = some request
      rw [hphase]
      rfl
    · rw [hphase]
      rfl
    · have hhosts := h.sound.hosted (by
        rw [hphase]
        intro heq
        cases heq)
      cases hmaster : system.master with
      | resetting rollback =>
          rw [hmaster] at hhosts
          exact absurd hhosts Bool.false_ne_true
      | reset rollback =>
          rw [hmaster] at hhosts
          exact absurd hhosts Bool.false_ne_true
      | _ => rfl
  apply inFlight_step calls slave h hflight
  rw [houtput]
  show (decide _ && decide _) = false
  rw [decide_eq_false (not_not.mpr hpending), Bool.and_false]

def outputAt
    (steps : List (Transition (MailboxSystem σ ρ) (MailboxInput κ ρ)
      (MailboxOutput ρ))) (position : ℕ) : Option (MailboxOutput ρ) :=
  steps[position]?.map Transition.output

/-- Between a pending call for a request and the end of its transfer, the owner
calls the backend for no other request. -/
def OneAtATime
    (steps : List (Transition (MailboxSystem σ ρ) (MailboxInput κ ρ)
      (MailboxOutput ρ))) : Prop :=
  ∀ (first last request own : ℕ) (progress result : SdoTransferProgress),
    first < last →
    outputAt steps first = some (.progressed request progress) →
    progress.state = .pending →
    (∀ position output, first < position → position < last →
      outputAt steps position = some output →
      output.ends request = false) →
    outputAt steps last = some (.progressed own result) →
    own = request

theorem outputAt_trace {calls : SdoBackend σ κ}
    {slave : EthercatSlaveAddress} {system : MailboxSystem σ ρ}
    {inputs : List (MailboxInput κ ρ)} {position : ℕ}
    {output : MailboxOutput ρ}
    (houtput : outputAt ((machine calls slave).trace system inputs)
      position = some output) :
    ∃ input, inputs[position]? = some input ∧
      (step calls slave ((machine calls slave).final system
        (inputs.take position)) input).2 = output := by
  unfold outputAt at houtput
  rw [Machine.trace_getElem?, Option.map_map] at houtput
  exact Option.map_eq_some_iff.mp houtput

theorem transfers_oneAtATime (calls : SdoBackend σ κ)
    (slave : EthercatSlaveAddress) (backend : σ)
    (inputs : List (MailboxInput κ ρ)) :
    OneAtATime
      ((machine calls slave).trace (constructed backend) inputs) := by
  intro first last request own progress result hlt hfirst hpending hbetween
    hlast
  obtain ⟨input, hinput, houtput⟩ := outputAt_trace hfirst
  obtain ⟨later, -, hprogressed⟩ := outputAt_trace hlast
  have hconsistent := consistent_final calls slave backend (inputs.take first)
  have hflight := inFlight_of_pending hconsistent houtput hpending
  obtain ⟨between, hfinal, hsteps⟩ :=
    (machine calls slave).exists_between (constructed backend) hlt hinput
  -- until the end of the transfer the request stays the one in flight
  have hkept : ∀ system : MailboxSystem σ ρ, system.Consistent →
      system.InFlight request →
      (∀ s ∈ (machine calls slave).trace system between,
        ¬ s.output.ends request = true) →
      Consistent ((machine calls slave).final system between) ∧
        InFlight ((machine calls slave).final system between) request := by
    intro system hsystem hin hnone
    refine Machine.kept_until
      (fun s : MailboxSystem σ ρ => s.Consistent ∧ s.InFlight request)
      (fun t => MailboxOutput.ends request t.output = true) ?_
      ⟨hsystem, hin⟩ hnone
    rintro s i ⟨hs, hf⟩ hends
    exact ⟨consistent_step calls slave s i hs,
      inFlight_step calls slave hs hf (Bool.eq_false_of_not_eq_true hends)⟩
  obtain ⟨hlast, hin⟩ := hkept _
    (consistent_step calls slave _ input hconsistent) hflight (by
      intro s hmem
      obtain ⟨position, hafter, hbefore, hget⟩ := hsteps s hmem
      rw [hbetween position s.output hafter hbefore
        (congrArg (Option.map Transition.output) hget)]
      exact Bool.false_ne_true)
  rw [hfinal] at hprogressed
  obtain ⟨answer, parent, -, hphase⟩ := progressing_of_output hprogressed
  exact owner_request hlast hin.staged
    (congrArg MailboxOwnerPhase.request hphase)

end Machine

end MailboxSystem

end PolicyRuntime
