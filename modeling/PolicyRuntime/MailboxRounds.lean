import PolicyRuntime.EthercatCycle
import PolicyRuntime.MailboxSteps
import PolicyRuntime.RoundRobin

/-!
# Mailboxes taken in turn

A cycle of the master calls `owner_step` of its mailboxes from the cursor on,
until one of them has made a backend call.  The other threads may act on every
mailbox before each access of the owner, and the handlers may do anything
before the scan.
-/

namespace PolicyRuntime

/-! ## One call of `owner_step` -/

/-- How many accesses `owner_step` can still make. -/
def MailboxOwnerPhase.remaining : MailboxOwnerPhase → ℕ
  | .outside => 0
  | .admitted => 0
  | .called _ => 12
  | .cancelling => 3
  | .cancelled => 2
  | .unstaged => 1
  | .uncancelled _ => 11
  | .loaded _ _ => 10
  | .current _ _ => 9
  | .opened _ _ => 8
  | .claiming _ _ => 7
  | .progressing _ _ => 6
  | .progressed _ _ _ => 5
  | .terminalizing _ _ _ => 4
  | .deciding _ _ _ => 3
  | .storing _ _ _ => 2
  | .clearing _ => 1
  | .returned => 0

/-- Whether `owner_step` has made its backend call. -/
def MailboxOwnerPhase.afterCall : MailboxOwnerPhase → Bool
  | .cancelled => true
  | .unstaged => true
  | .progressed _ _ _ => true
  | .terminalizing _ _ _ => true
  | .deciding _ _ _ => true
  | .storing _ _ _ => true
  | .clearing _ => true
  | _ => false

/-- Whether the output is that of a backend call for an SDO. -/
def MailboxOutput.isCall {ρ : Type} : MailboxOutput ρ → Bool
  | .progressed _ _ => true
  | .cancelled _ => true
  | _ => false

theorem MailboxOutput.countP_isCall_cons {ρ : Type}
    (output : MailboxOutput ρ) (outputs : List (MailboxOutput ρ)) :
    (output :: outputs).countP MailboxOutput.isCall =
      output.isCall.toNat + outputs.countP MailboxOutput.isCall := by
  rw [List.countP_cons, Nat.add_comm]
  cases output.isCall <;> rfl

namespace MailboxSystem

variable {σ κ ρ : Type}

/-- What `owner_step` returns if its next access is its last one.  A staged
request is never erased, so the owner finds it. -/
def returnValue (system : MailboxSystem σ ρ) : Bool :=
  match system.owner with
  | .cancelling => true
  | .progressing _ request => system.requests[request]?.isSome
  | phase => phase.afterCall

/-- An access of the owner brings the call nearer to its end.  The backend
call is made once, by the accesses which return true or lead to one. -/
structure CallStep (system : MailboxSystem σ ρ)
    (result : MailboxSystem σ ρ × MailboxOutput ρ) : Prop where
  remaining : result.1.owner.remaining < system.owner.remaining
  inside : result.1.owner ≠ .returned → 0 < result.1.owner.remaining
  call : (if result.1.owner = .returned then system.returnValue
      else result.1.owner.afterCall).toNat =
    system.owner.afterCall.toNat + result.2.isCall.toNat

/-- An access which makes no call and does not return. -/
theorem CallStep.quiet {system next : MailboxSystem σ ρ}
    (hremaining : next.owner.remaining < system.owner.remaining)
    (hinside : 0 < next.owner.remaining)
    (hcall : next.owner.afterCall = system.owner.afterCall) :
    system.CallStep (next, .quiet) := by
  have hreturned : next.owner ≠ .returned := by
    intro heq
    rw [heq] at hinside
    exact Nat.lt_irrefl 0 hinside
  refine ⟨hremaining, fun _ => hinside, ?_⟩
  change (if next.owner = .returned then system.returnValue
    else next.owner.afterCall).toNat = _
  rw [if_neg hreturned, hcall]
  rfl

/-- An access which makes no call and returns. -/
theorem CallStep.returns {system next : MailboxSystem σ ρ}
    (howner : next.owner = .returned) (hinside : 0 < system.owner.remaining)
    (hvalue : system.returnValue = system.owner.afterCall) :
    system.CallStep (next, .quiet) := by
  refine ⟨?_, fun hne => absurd howner hne, ?_⟩
  · change next.owner.remaining < _
    rw [howner]
    exact hinside
  · change (if next.owner = .returned then system.returnValue
      else next.owner.afterCall).toNat = _
    rw [if_pos howner, hvalue]
    rfl

theorem remaining_of_afterCall {phase : MailboxOwnerPhase}
    (hafter : phase.afterCall = true) :
    0 < phase.remaining ∧ phase ≠ .returned := by
  cases phase <;> first
    | exact absurd hafter Bool.false_ne_true
    | exact ⟨Nat.succ_pos _, nofun⟩

/-- The access which makes the call. -/
theorem CallStep.calls {system : MailboxSystem σ ρ}
    {result : MailboxSystem σ ρ × MailboxOutput ρ}
    (hinside : 0 < system.owner.remaining)
    (hbefore : system.owner.afterCall = false)
    (hcall : result.2.isCall = true) (hvalue : system.returnValue = true)
    (hnext : result.1.owner = .returned ∨
      result.1.owner.afterCall = true ∧
        result.1.owner.remaining < system.owner.remaining) :
    system.CallStep result := by
  rcases hnext with hreturned | ⟨hafter, hremaining⟩
  · refine ⟨?_, fun hne => absurd hreturned hne, ?_⟩
    · rw [hreturned]
      exact hinside
    · rw [if_pos hreturned, hvalue, hbefore, hcall]
      rfl
  · have hpositive := remaining_of_afterCall hafter
    refine ⟨hremaining, fun _ => hpositive.1, ?_⟩
    rw [if_neg hpositive.2, hafter, hbefore, hcall]
    rfl

theorem ownerStep_call (calls : SdoBackend σ κ)
    (slave : EthercatSlaveAddress) (answer : κ) {system : MailboxSystem σ ρ}
    (hinside : 0 < system.owner.remaining) :
    system.CallStep (system.ownerStep calls slave answer) := by
  have hreturns : ∀ {next : MailboxSystem σ ρ}, next.owner = .returned →
      system.returnValue = system.owner.afterCall →
      system.CallStep (next, .quiet) :=
    fun howner hvalue => .returns howner hinside hvalue
  have hquiet : ∀ {next : MailboxSystem σ ρ},
      decide (0 < next.owner.remaining ∧
        next.owner.remaining < system.owner.remaining) = true →
      next.owner.afterCall = system.owner.afterCall →
      system.CallStep (next, .quiet) :=
    fun hremaining hcall => .quiet (of_decide_eq_true hremaining).2
      (of_decide_eq_true hremaining).1 hcall
  unfold returnValue at hreturns
  unfold ownerStep
  cases howner : system.owner with
  | outside =>
      rw [howner] at hinside
      exact absurd hinside (Nat.lt_irrefl 0)
  | admitted =>
      rw [howner] at hinside
      exact absurd hinside (Nat.lt_irrefl 0)
  | returned =>
      rw [howner] at hinside
      exact absurd hinside (Nat.lt_irrefl 0)
  | called parent =>
      rw [howner] at hquiet
      dsimp only
      split <;> exact hquiet rfl rfl
  | cancelling =>
      refine .calls hinside (by rw [howner]; rfl) rfl
        (by rw [returnValue, howner]) ?_
      rw [howner]
      dsimp only
      split
      · exact Or.inr ⟨rfl, by decide⟩
      · exact Or.inl rfl
  | cancelled =>
      rw [howner] at hquiet
      exact hquiet rfl rfl
  | unstaged =>
      rw [howner] at hreturns
      exact hreturns rfl rfl
  | uncancelled parent =>
      rw [howner] at hquiet hreturns
      dsimp only
      split
      · exact hreturns rfl rfl
      · exact hquiet rfl rfl
  | loaded parent request =>
      rw [howner] at hquiet hreturns
      dsimp only
      split
      · exact hquiet rfl rfl
      · exact hreturns rfl rfl
  | current parent request =>
      rw [howner] at hquiet hreturns
      dsimp only
      split
      · exact hquiet rfl rfl
      · exact hreturns rfl rfl
  | opened parent request =>
      rw [howner] at hquiet hreturns
      dsimp only
      split
      · exact hquiet rfl rfl
      · exact hquiet rfl rfl
      · exact hreturns rfl rfl
  | claiming parent request =>
      rw [howner] at hquiet hreturns
      dsimp only
      split
      · exact hquiet rfl rfl
      · exact hreturns rfl rfl
  | progressing parent request =>
      rw [howner] at hreturns
      dsimp only
      split
      · next hnone => exact hreturns rfl (by dsimp only; rw [hnone]; rfl)
      · next current hsome =>
          refine .calls hinside (by rw [howner]; rfl) rfl
            (by rw [returnValue, howner]; dsimp only; rw [hsome]; rfl) ?_
          rw [howner]
          dsimp only
          split
          · exact Or.inl rfl
          · exact Or.inr ⟨rfl, Nat.lt_succ_self 5⟩
  | progressed parent request progress =>
      rw [howner] at hquiet hreturns
      dsimp only
      split
      · exact hquiet rfl rfl
      · exact hreturns rfl rfl
  | terminalizing parent request progress =>
      rw [howner] at hquiet
      dsimp only
      split <;> exact hquiet rfl rfl
  | deciding parent request progress =>
      rw [howner] at hquiet
      exact hquiet rfl rfl
  | storing request progress stillCurrent =>
      rw [howner] at hquiet
      exact hquiet rfl rfl
  | clearing request =>
      rw [howner] at hreturns
      dsimp only
      split <;> exact hreturns rfl rfl

/-- Steps of the owner, which the other threads do not take. -/
def ownersInput : MailboxInput κ ρ → Bool
  | .ownerCycle => true
  | .ownerReach _ => true
  | .ownerOther _ _ _ => true
  | .owner _ => true
  | _ => false

theorem owner_step_of_others [DecidableEq ρ] (calls : SdoBackend σ κ)
    (slave : EthercatSlaveAddress) (system : MailboxSystem σ ρ)
    {input : MailboxInput κ ρ} (hothers : ownersInput input = false) :
    (system.step calls slave input).1.owner = system.owner := by
  have hclient : ∀ client phase,
      (system.callClient client phase).owner = system.owner := by
    intro client phase
    unfold callClient
    split <;> rfl
  have hlifecycle : ∀ phase,
      (system.callLifecycle phase).owner = system.owner := by
    intro phase
    unfold callLifecycle
    split <;> rfl
  have hmaster : ∀ phase, (system.callMaster phase).owner = system.owner := by
    intro phase
    unfold callMaster
    split <;> rfl
  cases input with
  | enqueue client arguments => exact hclient _ _
  | cycle client => exact hclient _ _
  | status client request => exact hclient _ _
  | client client => exact (clientFrame system client).owner
  | openMailbox => exact hlifecycle _
  | closeMailbox => exact hlifecycle _
  | lifecycle spurious => exact (lifecycleFrame spurious system).owner
  | openMaster => exact hmaster _
  | closeMaster => exact hmaster _
  | master succeeds answer =>
      exact (masterFrame calls succeeds answer system).owner
  | ownerCycle => cases hothers
  | ownerReach reaches => cases hothers
  | ownerOther other answer transfer => cases hothers
  | owner answer => cases hothers

end MailboxSystem

/-! ## The mailboxes of a master -/

/-- The mailboxes of a master, and what the environment will do: the steps of
the other threads before each access of the owner, and the answers of the
backend. -/
structure MailboxBus (σ κ ρ : Type) (n : ℕ) where
  mailboxes : Fin n → MailboxSystem σ ρ
  others : ℕ → Fin n → List (MailboxInput κ ρ)
  answers : ℕ → κ
  clock : ℕ

namespace MailboxBus

variable {σ κ ρ : Type} {n : ℕ} [DecidableEq ρ] (calls : SdoBackend σ κ)
  (slaves : Fin n → EthercatSlaveAddress)

/-- The steps of the other threads before the next access of the owner. -/
def interfere (bus : MailboxBus σ κ ρ n) : MailboxBus σ κ ρ n :=
  { bus with
    mailboxes := fun mailbox =>
      ((bus.others bus.clock mailbox).filter
        fun input => !MailboxSystem.ownersInput input).foldl
        (fun system input =>
          (system.step calls (slaves mailbox) input).1)
        (bus.mailboxes mailbox) }

/-- The next access of the owner, with the backend it leaves to all
mailboxes. -/
def access (mailbox : Fin n) (bus : MailboxBus σ κ ρ n) :
    MailboxBus σ κ ρ n × MailboxOutput ρ :=
  let (after, output) := (bus.mailboxes mailbox).ownerStep calls
    (slaves mailbox) (bus.answers bus.clock)
  ({ bus with
      mailboxes := fun other =>
        if other = mailbox then after
        else { bus.mailboxes other with backend := after.backend }
      clock := bus.clock + 1 }, output)

/-- The accesses of `owner_step` with their outputs, and what it returns. -/
def ownerRun (mailbox : Fin n) :
    ℕ → MailboxBus σ κ ρ n →
      MailboxBus σ κ ρ n × List (MailboxOutput ρ) × Bool
  | 0, bus => (bus, [], false)
  | fuel + 1, bus =>
      let bus := bus.interfere calls slaves
      let (next, output) := bus.access calls slaves mailbox
      if (next.mailboxes mailbox).owner = .returned then
        (next, [output], (bus.mailboxes mailbox).returnValue)
      else
        let (last, outputs, progressed) := ownerRun mailbox fuel next
        (last, output :: outputs, progressed)

/-- The call of `owner_step` with the generation of the master. -/
def enter (mailbox : Fin n) (bus : MailboxBus σ κ ρ n) :
    MailboxBus σ κ ρ n :=
  { bus with
    mailboxes := Function.update bus.mailboxes mailbox
      ((bus.mailboxes mailbox).setOwner
        (.called (bus.mailboxes mailbox).generation)) }

def ownerCall (mailbox : Fin n) (bus : MailboxBus σ κ ρ n) :
    MailboxBus σ κ ρ n × List (MailboxOutput ρ) × Bool :=
  ownerRun calls slaves mailbox 12 (bus.enter mailbox)

def ownerStep (mailbox : Fin n) (bus : MailboxBus σ κ ρ n) :
    MailboxBus σ κ ρ n × Bool :=
  let (next, _, progressed) := bus.ownerCall calls slaves mailbox
  (next, progressed)

/-- The backend calls for SDOs in one call of `owner_step`. -/
def ownerCalls (mailbox : Fin n) (bus : MailboxBus σ κ ρ n) : ℕ :=
  (bus.ownerCall calls slaves mailbox).2.1.countP MailboxOutput.isCall

theorem owner_interfere (bus : MailboxBus σ κ ρ n) (mailbox : Fin n) :
    ((bus.interfere calls slaves).mailboxes mailbox).owner =
      (bus.mailboxes mailbox).owner := by
  have hothers : ∀ (inputs : List (MailboxInput κ ρ)) system,
      (∀ input ∈ inputs, MailboxSystem.ownersInput input = false) →
      (inputs.foldl (fun (system : MailboxSystem σ ρ) input =>
        (system.step calls (slaves mailbox) input).1) system).owner =
        system.owner := by
    intro inputs
    induction inputs with
    | nil => exact fun system _ => rfl
    | cons input rest ih =>
        intro system hinputs
        rw [List.foldl_cons,
          ih _ fun other hother =>
            hinputs other (List.mem_cons_of_mem input hother)]
        exact MailboxSystem.owner_step_of_others calls _ system
          (hinputs input (List.mem_cons_self ..))
  apply hothers
  intro input hinput
  exact (Bool.not_eq_true' _).mp (List.mem_filter.mp hinput).2

omit [DecidableEq ρ] in
theorem access_mailbox (mailbox : Fin n) (bus : MailboxBus σ κ ρ n) :
    (((bus.access calls slaves mailbox).1.mailboxes mailbox),
        (bus.access calls slaves mailbox).2) =
      (bus.mailboxes mailbox).ownerStep calls (slaves mailbox)
        (bus.answers bus.clock) := by
  simp [access]

/-- A call of `owner_step` makes one backend call when it returns true, and
none when it returns false. -/
theorem countP_ownerRun (mailbox : Fin n) (fuel : ℕ)
    (bus : MailboxBus σ κ ρ n)
    (hinside : 0 < (bus.mailboxes mailbox).owner.remaining)
    (hfuel : (bus.mailboxes mailbox).owner.remaining ≤ fuel) :
    (ownerRun calls slaves mailbox fuel bus).2.2.toNat =
      (bus.mailboxes mailbox).owner.afterCall.toNat +
        (ownerRun calls slaves mailbox fuel bus).2.1.countP
          MailboxOutput.isCall := by
  induction fuel generalizing bus with
  | zero => omega
  | succ fuel ih =>
      have howner := owner_interfere calls slaves bus mailbox
      rw [← howner] at hinside hfuel ⊢
      rw [ownerRun]
      generalize bus.interfere calls slaves = start at hinside hfuel ⊢
      have hstep := MailboxSystem.ownerStep_call calls (slaves mailbox)
        (start.answers start.clock) hinside
      rw [← access_mailbox calls slaves] at hstep
      obtain ⟨hremaining, hnext, hcall⟩ := hstep
      dsimp only at hremaining hnext hcall ⊢
      by_cases hreturned : ((start.access calls slaves mailbox).1.mailboxes
          mailbox).owner = .returned
      · rw [if_pos hreturned] at hcall ⊢
        rw [hcall, MailboxOutput.countP_isCall_cons, List.countP_nil,
          Nat.add_zero]
      · rw [if_neg hreturned] at hcall ⊢
        have hrest := ih (start.access calls slaves mailbox).1
          (hnext hreturned) (by omega)
        dsimp only
        rw [hrest, hcall, MailboxOutput.countP_isCall_cons, Nat.add_assoc]

theorem ownerCalls_eq (mailbox : Fin n) (bus : MailboxBus σ κ ρ n) :
    bus.ownerCalls calls slaves mailbox =
      (bus.ownerStep calls slaves mailbox).2.toNat := by
  have hcalled : ((bus.enter mailbox).mailboxes mailbox).owner =
      .called (bus.mailboxes mailbox).generation := by
    simp [enter, MailboxSystem.setOwner]
  have hrun := countP_ownerRun calls slaves mailbox 12 (bus.enter mailbox)
    (by rw [hcalled]; exact Nat.succ_pos 11) (by rw [hcalled]; exact le_rfl)
  rw [hcalled] at hrun
  exact (hrun.trans (Nat.zero_add _)).symm

end MailboxBus

/-! ## Cycles -/

/-- What a cycle of the master meets: whether it is admitted, what has changed
since the last one, and what the backend has received. -/
structure CycleInput (σ : Type) where
  admitted : Bool
  change : σ → σ
  domain : DomainHealth
  size : ℕ
  image : ProcessImage size

namespace CyclicMaster

variable {σ : Type} {n size : ℕ}

/-- The state which the handlers of a cycle leave to the mailboxes. -/
def handled (master : CyclicMaster σ n) (context : σ) (domain : DomainHealth)
    (image : ProcessImage size) : σ :=
  let (views, validImage) := master.readPhase domain image
  (master.runHandlers domain validImage ⟨context, image, views⟩).context

/-- The calls of `owner_step` in the scan of a cycle. -/
def mailboxVisits (master : CyclicMaster σ n) (context : σ) :
    List (RoundRobin.Visit σ n) :=
  if hn : 0 < n then
    RoundRobin.visits master.ownerStep hn master.mailboxCursor context
      (List.range n)
  else []

def cycleVisits (master : CyclicMaster σ n) (context : σ)
    (input : CycleInput σ) : List (RoundRobin.Visit σ n) :=
  if !input.admitted || !master.backendPresent then []
  else
    master.mailboxVisits
      (master.handled (input.change context) input.domain input.image)

/-- The cycles of a master, which answer with their calls of `owner_step`. -/
def cycles : Machine (CyclicMaster σ n × σ) (CycleInput σ)
    (List (RoundRobin.Visit σ n)) where
  step state input :=
    let result := state.1.cycle input.admitted (input.change state.2)
      input.domain input.image
    ((result.master, result.context), state.1.cycleVisits state.2 input)

theorem stepMailboxes_eq (master : CyclicMaster σ n) (hn : 0 < n)
    (context : σ) (offsets : List ℕ) :
    master.stepMailboxes context offsets =
      RoundRobin.scan master.ownerStep hn master.mailboxCursor context
        offsets := by
  induction offsets generalizing context with
  | nil => rfl
  | cons offset rest ih =>
      rw [stepMailboxes, dif_pos hn, RoundRobin.scan]
      dsimp only
      rw [ih]
      rfl

/-- What a cycle does to the parts of the master which the scan uses. -/
theorem cycles_step (state : CyclicMaster σ n × σ) (input : CycleInput σ)
    (hn : 0 < n) :
    (cycles.step state input).1.1.ownerStep = state.1.ownerStep ∧
      (cycles.step state input).1.1.backendPresent =
        state.1.backendPresent ∧
      (cycles.step state input).1.1.mailboxCursor =
        if !input.admitted || !state.1.backendPresent then
          state.1.mailboxCursor
        else
          (RoundRobin.scan state.1.ownerStep hn state.1.mailboxCursor
            (state.1.handled (input.change state.2) input.domain input.image)
            (List.range n)).2 := by
  unfold cycles cycle
  dsimp only
  split
  · exact ⟨rfl, rfl, rfl⟩
  · refine ⟨rfl, rfl, ?_⟩
    dsimp only
    rw [stepMailboxes_eq _ hn]
    rfl

/-- The cycles of a run are rounds over the mailboxes. -/
theorem rounds_trace (hn : 0 < n) (inputs : List (CycleInput σ))
    (state : CyclicMaster σ n × σ) :
    RoundRobin.Rounds state.1.ownerStep hn state.1.mailboxCursor
      ((cycles.trace state inputs).map Transition.output) := by
  induction inputs generalizing state with
  | nil => exact .nil _
  | cons input rest ih =>
      obtain ⟨howner, hbackend, hcursor⟩ := cycles_step state input hn
      have hrest := ih (cycles.step state input).1
      rw [howner, hcursor] at hrest
      rw [Machine.trace_cons, List.map_cons, Machine.fire_output]
      change RoundRobin.Rounds _ hn _
        (state.1.cycleVisits state.2 input :: _)
      unfold cycleVisits
      split
      · next hrefused =>
          rw [if_pos hrefused] at hrest
          exact .idle hrest
      · next hscans =>
          rw [if_neg hscans] at hrest
          rw [mailboxVisits, dif_pos hn]
          exact .round _ hrest

/-- Every admitted cycle is a round in which some mailbox is asked. -/
theorem countP_rounds (hn : 0 < n) (inputs : List (CycleInput σ))
    (state : CyclicMaster σ n × σ) (hbackend : state.1.backendPresent = true) :
    (((cycles.trace state inputs).map Transition.output).countP
        fun round => !round.isEmpty) =
      inputs.countP CycleInput.admitted := by
  induction inputs generalizing state with
  | nil => rfl
  | cons input rest ih =>
      obtain ⟨_, hkept, _⟩ := cycles_step state input hn
      have hrest := ih (cycles.step state input).1 (hkept.trans hbackend)
      have hround : (!(state.1.cycleVisits state.2 input).isEmpty) =
          input.admitted := by
        unfold cycleVisits mailboxVisits
        rw [hbackend, dif_pos hn]
        obtain ⟨count, rfl⟩ : ∃ count, n = count + 1 :=
          ⟨n - 1, by omega⟩
        rw [List.range_succ_eq_map, RoundRobin.visits]
        cases input.admitted <;> rfl
      rw [Machine.trace_cons, List.map_cons, Machine.fire_output,
        List.countP_cons, List.countP_cons, hrest]
      change _ + (if (!(state.1.cycleVisits state.2 input).isEmpty) = true
        then 1 else 0) = _
      rw [hround]

end CyclicMaster

/-! ## Turns -/

namespace MailboxBus

variable {σ κ ρ : Type} {n : ℕ} [DecidableEq ρ] (calls : SdoBackend σ κ)
  (slaves : Fin n → EthercatSlaveAddress)

/-- The backend calls for SDOs in the scan of a cycle. -/
def scanCalls (visits : List (RoundRobin.Visit (MailboxBus σ κ ρ n) n)) :
    ℕ :=
  (visits.map fun visit =>
    visit.before.ownerCalls calls slaves visit.party).sum

/-- Where the scan reaches the mailbox, `owner_step` has work. -/
def HasWork (mailbox : Fin n)
    (visits : List (RoundRobin.Visit (MailboxBus σ κ ρ n) n)) : Prop :=
  ∀ visit ∈ visits, visit.party = mailbox →
    0 < visit.before.ownerCalls calls slaves mailbox

/-- The mailbox has made its backend call in the cycle. -/
def IsServed (mailbox : Fin n)
    (visits : List (RoundRobin.Visit (MailboxBus σ κ ρ n) n)) : Prop :=
  ∃ visit ∈ visits, visit.party = mailbox ∧
    visit.before.ownerCalls calls slaves mailbox = 1

/-- A cycle makes at most one backend call for an SDO, and a mailbox which has
work in as many cycles as there are mailboxes is served in one of them. -/
theorem mailboxes_roundRobin
    {master : CyclicMaster (MailboxBus σ κ ρ n) n}
    (hmailboxes : master.ownerStep = ownerStep calls slaves)
    (hbackend : master.backendPresent = true) (bus : MailboxBus σ κ ρ n)
    (inputs : List (CycleInput (MailboxBus σ κ ρ n))) :
    (∀ t ∈ CyclicMaster.cycles.trace (master, bus) inputs,
      scanCalls calls slaves t.output ≤ 1) ∧
    ∀ mailbox : Fin n, n ≤ inputs.countP CycleInput.admitted →
      (∀ t ∈ CyclicMaster.cycles.trace (master, bus) inputs,
        HasWork calls slaves mailbox t.output) →
      ∃ t ∈ CyclicMaster.cycles.trace (master, bus) inputs,
        IsServed calls slaves mailbox t.output := by
  rcases Nat.eq_zero_or_pos n with rfl | hn
  · refine ⟨?_, fun mailbox => mailbox.elim0⟩
    intro t _
    cases hvisits : t.output with
    | nil => exact Nat.zero_le 1
    | cons visit rest => exact visit.party.elim0
  · have hrounds := CyclicMaster.rounds_trace hn inputs (master, bus)
    change RoundRobin.Rounds master.ownerStep hn _ _ at hrounds
    rw [hmailboxes] at hrounds
    constructor
    · intro t ht
      rcases hrounds.mem (List.mem_map_of_mem ht) with hidle |
        ⟨start, state, hscan⟩
      · rw [hidle]
        exact Nat.zero_le 1
      · rw [hscan]
        exact RoundRobin.sum_visits_le_one _ hn start
          (ownerCalls_eq calls slaves) state (List.range n)
    · intro mailbox hmany hwork
      have hcalls : ∀ t ∈ CyclicMaster.cycles.trace (master, bus) inputs,
          ∀ visit ∈ t.output,
            visit.before.ownerCalls calls slaves visit.party =
              visit.served.toNat := by
        intro t ht visit hvisit
        rw [ownerCalls_eq,
          hrounds.answered (List.mem_map_of_mem ht) hvisit]
      rw [← CyclicMaster.countP_rounds hn inputs (master, bus) hbackend]
        at hmany
      have hserves : ∀ round ∈ (CyclicMaster.cycles.trace (master, bus)
          inputs).map Transition.output, ∀ visit ∈ round,
          visit.party = mailbox → visit.served = true := by
        intro round hround visit hvisit hparty
        obtain ⟨t, ht, rfl⟩ := List.mem_map.mp hround
        have hpositive := hwork t ht visit hvisit hparty
        rw [← hparty, hcalls t ht visit hvisit] at hpositive
        cases hserved : visit.served with
        | false =>
            rw [hserved] at hpositive
            cases hpositive
        | true => rfl
      obtain ⟨round, hround, visit, hvisit, hparty, hserved⟩ :=
        hrounds.served hmany hserves
      obtain ⟨t, ht, rfl⟩ := List.mem_map.mp hround
      refine ⟨t, ht, visit, hvisit, hparty, ?_⟩
      rw [← hparty, hcalls t ht visit hvisit, hserved]
      rfl

/-! ## Two mailboxes -/

/-- A backend whose cancellations never end. -/
def patientBackend : SdoBackend Unit Unit where
  start backend _ := (backend, true)
  deactivate backend := backend
  progressDownload backend _ _ _ := (backend, some sdoPending)
  progressUpload backend _ _ _ data := (backend, data, some sdoPending)
  progressCancel backend _ _ := (backend, some sdoPending)

def closedMailbox : MailboxSystem Unit Unit :=
  { MailboxSystem.constructed () with cancelGeneration := 1 }

/-- Both mailboxes were closed and await their cancellation. -/
def closedMailboxes : MailboxBus Unit Unit Unit 2 where
  mailboxes := fun _ => closedMailbox
  others := fun _ _ => []
  answers := fun _ => ()
  clock := 0

def twoSlaves : Fin 2 → EthercatSlaveAddress :=
  ![⟨0, 0⟩, ⟨0, 1⟩]

def unboundHandles : Cia402PdoHandles :=
  ⟨.unbound, .unbound, .unbound, .unbound, .unbound, .unbound, .unbound,
    .unbound, .unbound⟩

def twoAxisMaster : CyclicMaster (MailboxBus Unit Unit Unit 2) 2 where
  backendPresent := true
  handles := fun _ => unboundHandles
  modes := fun _ => .csp
  views := fun _ => ⟨0, 0, 0, 0, 0, 0, 0, 0, 0⟩
  processImageHandler := none
  cycleHandler := none
  supervisedCycleHandler := none
  ownerStep := ownerStep patientBackend twoSlaves
  mailboxCursor := 0
  health := .healthy

def quietCycle : CycleInput (MailboxBus Unit Unit Unit 2) where
  admitted := true
  change := id
  domain := ⟨0, none, false, false, false, 0, 0⟩
  size := 0
  image := #v[]

/-- The second mailbox is served within two cycles. -/
theorem mailboxes_roundRobin_two :
    ∃ t ∈ CyclicMaster.cycles.trace (twoAxisMaster, closedMailboxes)
        [quietCycle, quietCycle],
      IsServed patientBackend twoSlaves 1 t.output := by
  refine (mailboxes_roundRobin patientBackend twoSlaves rfl rfl
    closedMailboxes [quietCycle, quietCycle]).2 1 (by decide) ?_
  have hwork : ((CyclicMaster.cycles.trace (twoAxisMaster, closedMailboxes)
      [quietCycle, quietCycle]).all fun t => t.output.all fun visit =>
        visit.before.ownerCalls patientBackend twoSlaves 1 == 1) = true := by
    decide +kernel
  intro t ht visit hvisit _
  have hone := List.all_eq_true.mp (List.all_eq_true.mp hwork t ht) visit
    hvisit
  rw [eq_of_beq hone]
  exact Nat.one_pos

end MailboxBus

end PolicyRuntime
