import PolicyRuntime.EthercatLifecycle

/-!
# Balanced activation over whole runs

Every successful initialization of the backend is undone once before the next
one, however the threads are scheduled and whichever call of `open` fails.
-/

namespace PolicyRuntime

namespace EthercatMaster

variable {D τ : Type} [DecidableEq τ] {setup : MasterSetup D}

/-! ## Events -/

/-- A step emits what its thread can emit where it is. -/
theorem fire_emits {master : EthercatMaster τ} (h : master.Balanced)
    (input : MasterInput τ) :
    ∃ thread succeeds,
      Emits master.shared.cycleAdmission succeeds (master.threads thread)
        ((masterMachine setup).fire master input).output ∧
      (((masterMachine setup).fire master input).output = .silent ∨
        input = .step thread succeeds) := by
  cases input with
  | call thread operation =>
      have hsilent : ((masterMachine setup).fire master
          (.call thread operation)).output = .silent := by
        simp only [Machine.fire_output, masterMachine]
        split <;> rfl
      refine ⟨thread, true, ?_, Or.inl hsilent⟩
      rw [hsilent]
      exact .silent _
  | step thread succeeds =>
      exact ⟨thread, succeeds,
        threadStep_emits setup master.shared thread succeeds
          (h.wellFormed thread), Or.inr rfl⟩

theorem fire_backend {master : EthercatMaster τ} (h : master.Balanced)
    (input : MasterInput τ) :
    ((masterMachine setup).step master input).1.shared.backend =
      master.shared.backend.after
        ((masterMachine setup).fire master input).output := by
  cases input with
  | call thread operation =>
      simp only [Machine.fire_output, masterMachine]
      split <;> rfl
  | step thread succeeds =>
      exact threadStep_backend setup master.shared thread succeeds
        (h.wellFormed thread)

section Fired

variable {master : EthercatMaster τ} (h : master.Balanced)
  {input : MasterInput τ} {succeeded : Bool}

include h

theorem activated_of_cyclic {call : BackendCall}
    (houtput : ((masterMachine setup).fire master input).output =
      .called call succeeded)
    (hcyclic : call.cyclic = true) :
    master.shared.backend = .activated := by
  obtain ⟨thread, succeeds, hemits, _⟩ := fire_emits h input
  rw [houtput] at hemits
  exact h.activated
    (hemits.admitted_of_cyclic (h.wellFormed thread) hcyclic)

theorem deactivated_before_setup
    (houtput : ((masterMachine setup).fire master input).output =
      .called .initializeBackend succeeded) :
    master.shared.backend = .deactivated := by
  obtain ⟨thread, succeeds, hemits, _⟩ := fire_emits h input
  rw [houtput] at hemits
  have hpc := hemits.eq_openInitialize (h.wellFormed thread)
  exact (h.agrees_of_holds hpc rfl).2

theorem initialized_of_activate
    (houtput : ((masterMachine setup).fire master input).output =
      .called .activate succeeded) :
    master.shared.backend = .initialized := by
  obtain ⟨thread, succeeds, hemits, _⟩ := fire_emits h input
  rw [houtput] at hemits
  have hpc := hemits.eq_openActivate (h.wellFormed thread)
  exact (h.agrees_of_holds hpc rfl).2

theorem idle_of_deactivate
    (houtput : ((masterMachine setup).fire master input).output =
      .called .deactivate succeeded) :
    master.shared.cycleAdmission = 0#64 ∧
      master.shared.backend ≠ .deactivated := by
  obtain ⟨thread, succeeds, hemits, _⟩ := fire_emits h input
  rw [houtput] at hemits
  obtain hpc | hpc := hemits.of_deactivate (h.wellFormed thread)
  · exact h.agrees_of_holds hpc rfl
  · have hagrees := h.agrees_of_holds hpc rfl
    refine ⟨hagrees.1, ?_⟩
    rw [hagrees.2]
    decide

theorem open_of_admitted
    (houtput : ((masterMachine setup).fire master input).output = .admitted) :
    admissionIsOpen master.shared.cycleAdmission = true := by
  obtain ⟨thread, succeeds, hemits, _⟩ := fire_emits h input
  rw [houtput] at hemits
  generalize master.threads thread = pc at hemits
  cases hemits with
  | admitted hopen => exact hopen

/-- Who returns from `close`, or fails to open, leaves a resting master. -/
theorem rests_of_return
    (houtput : ((masterMachine setup).fire master input).output =
      .openReturned succeeded) :
    (admissionIsOpen master.shared.cycleAdmission = true ∧
      master.shared.backend = .activated) ∨
    (master.shared.cycleAdmission = 0#64 ∧
      master.shared.backend = .deactivated) := by
  obtain ⟨thread, succeeds, hemits, _⟩ := fire_emits h input
  rw [houtput] at hemits
  have hpc : master.threads thread = .openReturn succeeded := by
    generalize master.threads thread = pc at hemits
    cases hemits with
    | openReturned => rfl
  exact h.agrees_of_holds hpc rfl

theorem closed_of_return
    (houtput : ((masterMachine setup).fire master input).output =
      .closeReturned) :
    master.shared.cycleAdmission = 0#64 ∧
      master.shared.backend = .deactivated ∧
      ((masterMachine setup).step master input).1.shared.cycleAdmission =
        0#64 := by
  obtain ⟨thread, succeeds, hemits, hinput⟩ := fire_emits h input
  rw [houtput] at hemits hinput
  have hpc : master.threads thread = .closeReturn := by
    generalize master.threads thread = pc at hemits
    cases hemits with
    | closeReturned => rfl
  have hagrees := h.agrees_of_holds hpc rfl
  refine ⟨hagrees.1, hagrees.2, ?_⟩
  obtain hsilent | rfl := hinput
  · exact absurd hsilent (by simp)
  · simpa [masterMachine, hpc, threadStep] using hagrees.1

theorem closed_of_gateClosed
    (houtput : ((masterMachine setup).fire master input).output =
      .gateClosed) :
    admissionIsOpen
      ((masterMachine setup).step master input).1.shared.cycleAdmission =
        false := by
  obtain ⟨thread, succeeds, hemits, hinput⟩ := fire_emits h input
  rw [houtput] at hemits hinput
  have hpc : master.threads thread = .closeGate := by
    generalize master.threads thread = pc at hemits
    cases hemits with
    | gateClosed => rfl
  obtain hsilent | rfl := hinput
  · exact absurd hsilent (by simp)
  · simp only [masterMachine, hpc, threadStep]
    exact admissionIsOpen_and_countMask _

/-- A closed gate stays closed until `open` stores the open bit. -/
theorem closed_step
    (hclosed : admissionIsOpen master.shared.cycleAdmission = false)
    (houtput : ((masterMachine setup).fire master input).output ≠
      .gateOpened) :
    admissionIsOpen
      ((masterMachine setup).step master input).1.shared.cycleAdmission =
        false := by
  cases input with
  | call thread operation =>
      simp only [masterMachine]
      split <;> exact hclosed
  | step thread succeeds =>
      simp only [Machine.fire_output, masterMachine] at houtput ⊢
      cases hholds : (master.threads thread).holdsLifecycle with
      | true =>
          obtain hword | hword | hopened :=
            threadStep_word setup master.shared thread succeeds hholds
          · rw [hword]
            exact hclosed
          · rw [hword]
            exact admissionIsOpen_and_countMask _
          · exact absurd hopened houtput
      | false =>
          obtain ⟨count, hadmits, hinside⟩ := h.count thread
          obtain hword | ⟨_, hgate⟩ :=
            threadStep_gate setup master.shared thread succeeds hholds
              hadmits hinside
          · rw [hword]
            exact hclosed
          · rw [hgate]
            exact hclosed

theorem left_step
    (houtput : ((masterMachine setup).fire master input).output = .left) :
    admissionIsOpen
        ((masterMachine setup).step master input).1.shared.cycleAdmission =
      admissionIsOpen master.shared.cycleAdmission ∧
    (((masterMachine setup).step master input).1.shared.cycleAdmission &&&
        kCycleCountMask).toNat + 1 =
      (master.shared.cycleAdmission &&& kCycleCountMask).toNat := by
  obtain ⟨thread, succeeds, hemits, hinput⟩ := fire_emits h input
  rw [houtput] at hemits hinput
  have hpc : master.threads thread = .leaveCycle := by
    generalize hpc : master.threads thread = pc at hemits
    cases hemits with
    | left => rfl
  obtain ⟨count, hadmits, hinside⟩ := h.count thread
  have hpos : 0 < count := hinside (by rw [hpc]; rfl)
  have hleft := hadmits.leave hpos
  obtain hsilent | rfl := hinput
  · exact absurd hsilent (by simp)
  · simp only [masterMachine, hpc, threadStep,
      MasterShared.setAdmission_cycleAdmission]
    refine ⟨hleft.isOpen, ?_⟩
    rw [hleft.count_eq, hadmits.count_eq]
    omega

end Fired

/-! ## Backend calls of a run -/

abbrev MasterStep (τ : Type) :=
  Transition (EthercatMaster τ) (MasterInput τ) MasterEvent

def backendCall : MasterEvent → Option (BackendCall × Bool)
  | .called call succeeded => some (call, succeeded)
  | _ => none

theorem output_of_backendCall {event : MasterEvent} {call : BackendCall}
    {succeeded : Bool} (hcall : backendCall event = some (call, succeeded)) :
    event = .called call succeeded := by
  cases event with
  | called other result =>
      cases hcall
      rfl
  | _ => cases hcall

/-- The backend calls of a history with their results, in order. -/
def calls (history : List (MasterStep τ)) : List (BackendCall × Bool) :=
  history.filterMap fun t => backendCall t.output

def initializations (made : List (BackendCall × Bool)) : ℕ :=
  made.countP fun call => call = (.initializeBackend, true)

def deactivations (made : List (BackendCall × Bool)) : ℕ :=
  made.countP fun call => call.1 = .deactivate

/-- A backend which is not deactivated owes one deactivation. -/
def Owes (history : List (MasterStep τ)) (master : EthercatMaster τ) : Prop :=
  initializations (calls history) =
    deactivations (calls history) +
      if master.shared.backend = .deactivated then 0 else 1

section Calls

variable {history : List (MasterStep τ)} {t : MasterStep τ}

omit [DecidableEq τ] in
theorem calls_append_called {call : BackendCall} {succeeded : Bool}
    (houtput : t.output = .called call succeeded) :
    calls (history ++ [t]) = calls history ++ [(call, succeeded)] := by
  simp [calls, backendCall, houtput]

omit [DecidableEq τ] in
theorem calls_append_other (houtput : backendCall t.output = none) :
    calls (history ++ [t]) = calls history := by
  simp [calls, houtput]

omit [DecidableEq τ] in
theorem owes_append_called {master : EthercatMaster τ} {call : BackendCall}
    {succeeded : Bool} (houtput : t.output = .called call succeeded) :
    Owes (history ++ [t]) master ↔
      initializations (calls history) +
          (if call = .initializeBackend ∧ succeeded = true then 1 else 0) =
        deactivations (calls history) +
          (if call = .deactivate then 1 else 0) +
          if master.shared.backend = .deactivated then 0 else 1 := by
  unfold Owes initializations deactivations
  rw [calls_append_called houtput, List.countP_append, List.countP_append,
    List.countP_singleton, List.countP_singleton]
  simp only [Prod.mk.injEq, decide_eq_true_eq]

end Calls

theorem owes_step {master : EthercatMaster τ} (h : master.Balanced)
    {history : List (MasterStep τ)} (howes : Owes history master)
    (input : MasterInput τ) :
    Owes (history ++ [(masterMachine setup).fire master input])
      ((masterMachine setup).step master input).1 := by
  have hbackend :
      ((masterMachine setup).step master input).1.shared.backend =
        master.shared.backend.after
          ((masterMachine setup).fire master input).output :=
    fire_backend h input
  cases houtput : ((masterMachine setup).fire master input).output with
  | called call succeeded =>
      rw [owes_append_called houtput, hbackend, houtput]
      unfold Owes at howes
      cases call with
      | initializeBackend =>
          rw [deactivated_before_setup h houtput] at howes ⊢
          cases succeeded with
          | true => exact congrArg (· + 1) howes
          | false => exact howes
      | activate =>
          rw [initialized_of_activate h houtput] at howes ⊢
          cases succeeded with
          | true => exact howes
          | false => exact howes
      | deactivate =>
          rw [if_neg (idle_of_deactivate h houtput).2] at howes
          exact howes
      | _ => exact howes
  | _ =>
      unfold Owes
      rw [calls_append_other (by rw [houtput]; rfl), hbackend, houtput]
      exact howes

/-- The account of a run, open at any time. -/
theorem owes_final (setup : MasterSetup D)
    (inputs : List (MasterInput τ)) :
    Owes ((masterMachine setup).trace constructed inputs)
      ((masterMachine setup).final constructed inputs) := by
  have hboth :
      Owes ((masterMachine setup).trace constructed inputs)
          ((masterMachine setup).final constructed inputs) ∧
        ((masterMachine setup).final constructed inputs).Balanced :=
    Machine.history_final (fun history master =>
        Owes history master ∧ master.Balanced)
      ⟨by simp [Owes, calls, initializations, deactivations, constructed],
        balanced_constructed⟩
      (fun _ master input hgood =>
        ⟨owes_step hgood.2 hgood.1 input, balanced_machine _ _ hgood.2⟩)
      inputs
  exact hboth.1

/-- Nothing is owed when `initialize` is called. -/
theorem balanced_at_initialize
    {inputs : List (MasterInput τ)}
    {earlier later : List (BackendCall × Bool)} {succeeded : Bool}
    (hcalls : calls ((masterMachine setup).trace constructed inputs) =
      earlier ++ (.initializeBackend, succeeded) :: later) :
    initializations earlier = deactivations earlier := by
  unfold calls at hcalls
  obtain ⟨front, back, hhistory, hfront, hback⟩ :=
    List.filterMap_eq_append_iff.mp hcalls
  obtain ⟨skipped, t, rest, hsplit, hskipped, hcall, _⟩ :=
    List.filterMap_eq_cons_iff.mp hback
  rw [hsplit, ← List.append_assoc] at hhistory
  obtain ⟨before, input, after, _, htrace, hfire, _⟩ :=
    Machine.trace_split hhistory
  have houtput : ((masterMachine setup).fire
      ((masterMachine setup).final constructed before) input).output =
      .called .initializeBackend succeeded := by
    rw [← hfire]
    exact output_of_backendCall hcall
  have howes := owes_final setup before
  have hmade : calls ((masterMachine setup).trace constructed before) =
      earlier := by
    unfold calls
    rw [← htrace, List.filterMap_append, hfront,
      List.filterMap_eq_nil_iff.mpr hskipped, List.append_nil]
  unfold Owes at howes
  rw [hmade, deactivated_before_setup (balanced_final setup before) houtput,
    if_pos rfl] at howes
  exact howes

theorem one_deactivation_between
    {inputs : List (MasterInput τ)}
    {earlier between later : List (BackendCall × Bool)} {again : Bool}
    (hcalls : calls ((masterMachine setup).trace constructed inputs) =
      earlier ++ (.initializeBackend, true) ::
        (between ++ (.initializeBackend, again) :: later))
    (hbetween : ∀ succeeded, (.initializeBackend, succeeded) ∉ between) :
    deactivations between = 1 := by
  have hfirst := balanced_at_initialize hcalls
  have hsecond := balanced_at_initialize
    (hcalls.trans (by simp : _ =
      (earlier ++ (.initializeBackend, true) :: between) ++
        (.initializeBackend, again) :: later))
  have hnone : initializations between = 0 := by
    apply List.countP_eq_zero.mpr
    intro call hcall
    simp only [decide_eq_true_eq]
    rintro rfl
    exact hbetween true hcall
  unfold initializations deactivations at *
  rw [List.countP_append, List.countP_append, List.countP_cons,
    List.countP_cons, hnone, hfirst] at hsecond
  simpa using hsecond.symm

/-- The gate stays closed along steps which do not open it. -/
theorem closed_until_opened
    {master : EthercatMaster τ} (h : master.Balanced)
    (hclosed : admissionIsOpen master.shared.cycleAdmission = false)
    {inputs : List (MasterInput τ)}
    (hnone : ∀ t ∈ (masterMachine setup).trace master inputs,
      t.output ≠ .gateOpened) :
    ((masterMachine setup).final master inputs).Balanced ∧
      admissionIsOpen ((masterMachine setup).final master
        inputs).shared.cycleAdmission = false := by
  refine Machine.kept_until
    (fun master : EthercatMaster τ => master.Balanced ∧
      admissionIsOpen master.shared.cycleAdmission = false)
    (fun t : MasterStep τ => t.output = .gateOpened) ?_ ⟨h, hclosed⟩ hnone
  intro state step hstate hend
  exact ⟨balanced_machine state step hstate.1,
    closed_step hstate.1 hstate.2 hend⟩

theorem opened_between_close_and_admission
    {inputs : List (MasterInput τ)}
    {earlier between later : List (MasterStep τ)}
    {closing admission : MasterStep τ}
    (hsplit : (masterMachine setup).trace constructed inputs =
      earlier ++ closing :: (between ++ admission :: later))
    (hclosing : closing.output = .gateClosed ∨
      closing.output = .closeReturned)
    (hadmission : admission.output = .admitted) :
    ∃ opening ∈ between, opening.output = .gateOpened := by
  obtain ⟨before, input, after, _, _, rfl, hafter⟩ :=
    Machine.trace_split hsplit
  have hbalanced := balanced_final setup before
  have hclosed : admissionIsOpen ((masterMachine setup).step
      ((masterMachine setup).final constructed before)
      input).1.shared.cycleAdmission = false := by
    obtain hgate | hreturn := hclosing
    · exact closed_of_gateClosed hbalanced hgate
    · rw [(closed_of_return hbalanced hreturn).2.2]
      decide
  obtain ⟨middle, entry, _, _, hmiddle, rfl, _⟩ :=
    Machine.trace_split hafter.symm
  by_contra hnone
  have hkept := closed_until_opened (balanced_machine _ input hbalanced)
    hclosed (fun t hmem hopened =>
      hnone ⟨t, by rw [hmiddle]; exact hmem, hopened⟩)
  have hopen := open_of_admitted hkept.1 hadmission
  rw [hkept.2] at hopen
  exact absurd hopen (by decide)

theorem settled_at_return
    {inputs : List (MasterInput τ)} {earlier later : List (MasterStep τ)}
    {t : MasterStep τ}
    (hsplit : (masterMachine setup).trace constructed inputs =
      earlier ++ t :: later)
    (hreturn : (t.output = .openReturned false ∧
        admissionIsOpen t.before.shared.cycleAdmission = false) ∨
      t.output = .closeReturned) :
    initializations (calls earlier) = deactivations (calls earlier) := by
  obtain ⟨before, input, after, _, rfl, rfl, _⟩ := Machine.trace_split hsplit
  have hbalanced := balanced_final setup before
  have hrest : ((masterMachine setup).final constructed
      before).shared.backend = .deactivated := by
    obtain ⟨hfailed, hgate⟩ | hclosed := hreturn
    · obtain ⟨hopen, _⟩ | ⟨_, hbackend⟩ := rests_of_return hbalanced hfailed
      · rw [Machine.fire_before, hopen] at hgate
        exact absurd hgate (by decide)
      · exact hbackend
    · exact (closed_of_return hbalanced hclosed).2.1
  have howes := owes_final setup before
  unfold Owes at howes
  rw [hrest, if_pos rfl] at howes
  exact howes

end EthercatMaster

open EthercatMaster

/-- Admission and activation of a master under any schedule of any threads and
any failures of its backend calls. -/
theorem ethercat_admission_balanced
    {D τ : Type} [DecidableEq τ] (setup : MasterSetup D)
    (inputs : List (MasterInput τ)) :
    -- cyclic calls see an activated backend
    (∀ t ∈ (masterMachine setup).trace constructed inputs,
      ∀ call succeeded, t.output = .called call succeeded →
        call.cyclic = true → t.before.shared.backend = .activated) ∧
    -- no cycle is in flight when the backend is deactivated
    (∀ t ∈ (masterMachine setup).trace constructed inputs,
      ∀ succeeded, t.output = .called .deactivate succeeded →
        ∀ thread, (t.before.threads thread).admitted = false) ∧
    -- no cycle is admitted between a close and the next successful open
    (∀ (earlier :
        List (Transition (EthercatMaster τ) (MasterInput τ) MasterEvent))
      (closing : Transition (EthercatMaster τ) (MasterInput τ) MasterEvent)
      (between :
        List (Transition (EthercatMaster τ) (MasterInput τ) MasterEvent))
      (admission : Transition (EthercatMaster τ) (MasterInput τ) MasterEvent)
      (later :
        List (Transition (EthercatMaster τ) (MasterInput τ) MasterEvent)),
      (masterMachine setup).trace constructed inputs =
        earlier ++ closing :: (between ++ admission :: later) →
      closing.output = .gateClosed ∨ closing.output = .closeReturned →
      admission.output = .admitted →
      ∃ opening ∈ between, opening.output = .gateOpened) ∧
    -- the word is the gate and the number of admitted cycles
    ((∃ members : Finset τ,
      (∀ thread, thread ∈ members ↔
        (((masterMachine setup).final constructed inputs).threads
          thread).admitted = true) ∧
      Admits ((masterMachine setup).final constructed
          inputs).shared.cycleAdmission
        (admissionIsOpen ((masterMachine setup).final constructed
          inputs).shared.cycleAdmission) members.card) ∧
      ∀ t ∈ (masterMachine setup).trace constructed inputs,
        t.output = .left →
        admissionIsOpen t.after.shared.cycleAdmission =
            admissionIsOpen t.before.shared.cycleAdmission ∧
          (t.after.shared.cycleAdmission &&& kCycleCountMask).toNat + 1 =
            (t.before.shared.cycleAdmission &&& kCycleCountMask).toNat) ∧
    -- one deactivation between two initializations
    (∀ (earlier between later : List (BackendCall × Bool)) (again : Bool),
      calls ((masterMachine setup).trace constructed inputs) =
        earlier ++ (.initializeBackend, true) ::
          (between ++ (.initializeBackend, again) :: later) →
      (∀ succeeded, (.initializeBackend, succeeded) ∉ between) →
      deactivations between = 1) ∧
    -- a failed open and a close leave nothing to undo
    (∀ earlier t later,
      (masterMachine setup).trace constructed inputs =
        earlier ++ t :: later →
      (t.output = .openReturned false ∧
          admissionIsOpen t.before.shared.cycleAdmission = false) ∨
        t.output = .closeReturned →
      initializations (calls earlier) = deactivations (calls earlier)) := by
  refine ⟨?_, ?_, ?_, ⟨(balanced_final setup inputs).admits, ?_⟩, ?_, ?_⟩
  · intro t hmem call succeeded houtput hcyclic
    obtain ⟨before, input, _, rfl⟩ := Machine.exists_fire_of_mem_trace hmem
    exact activated_of_cyclic (balanced_final setup before) houtput hcyclic
  · intro t hmem succeeded houtput thread
    obtain ⟨before, input, _, rfl⟩ := Machine.exists_fire_of_mem_trace hmem
    exact (balanced_final setup before).not_admitted_of_zero
      (idle_of_deactivate (balanced_final setup before) houtput).1 thread
  · intro earlier closing between admission later
    exact opened_between_close_and_admission
  · intro t hmem houtput
    obtain ⟨before, input, _, rfl⟩ := Machine.exists_fire_of_mem_trace hmem
    exact left_step (balanced_final setup before) houtput
  · intro earlier between later again
    exact one_deactivation_between
  · intro earlier t later
    exact settled_at_return

end PolicyRuntime
