import PolicyRuntime.EthercatMaster

/-!
# Admission and activation of the EtherCAT master

The admission word is the gate plus the number of threads inside a cycle, and
the thread which holds the lifecycle mutex knows the phase of the backend.
Both facts are kept by every step, so cyclic backend calls see an activated
backend and `deactivate` waits for the admitted cycles.
-/

namespace PolicyRuntime

/-! ## Program counters -/

/-- The calls `open` makes between `initialize` and `activate`. -/
def BackendCall.configures : BackendCall → Bool
  | .configureSlave _ => true
  | .bindPdoEntry _ _ _ => true
  | _ => false

namespace MasterPc

/-- Between `try_enter_cycle` and `leave_cycle`. -/
def admitted : MasterPc → Bool
  | .cycleInputs _ => true
  | .cycleMailbox _ => true
  | .cycleQueue => true
  | .cycleSend => true
  | .leaveCycle => true
  | _ => false

def holdsLifecycle : MasterPc → Bool
  | .openCheck => true
  | .openInitialize => true
  | .openSetup _ => true
  | .openActivate => true
  | .openMailbox _ => true
  | .openAdmit => true
  | .openDeactivate => true
  | .openReturn _ => true
  | .closeGate => true
  | .closeWait => true
  | .closeDeactivate => true
  | .closeReturn => true
  | _ => false

/-- The calls a thread still has to make are of the kind its loop makes. -/
def WellFormed : MasterPc → Prop
  | .openSetup calls => ∀ call ∈ calls, call.configures = true
  | .cycleInputs calls => ∀ call ∈ calls, call.cyclic = true
  | _ => True

/-- The gate and the backend, as the holder of the lifecycle mutex knows them.
Without a holder the master rests, open or closed. -/
def Agrees (word : BitVec 64) (backend : BackendPhase) : MasterPc → Prop
  | .openInitialize => word = 0#64 ∧ backend = .deactivated
  | .openSetup _ => word = 0#64 ∧ backend = .initialized
  | .openActivate => word = 0#64 ∧ backend = .initialized
  | .openMailbox _ => word = 0#64 ∧ backend = .activated
  | .openAdmit => word = 0#64 ∧ backend = .activated
  | .openDeactivate => word = 0#64 ∧ backend ≠ .deactivated
  | .closeWait => admissionIsOpen word = false ∧ backend = .activated
  | .closeDeactivate => word = 0#64 ∧ backend = .activated
  | .closeReturn => word = 0#64 ∧ backend = .deactivated
  | _ => (admissionIsOpen word = true ∧ backend = .activated) ∨
      (word = 0#64 ∧ backend = .deactivated)

variable {word other : BitVec 64} {backend : BackendPhase} {pc : MasterPc}

/-- Admitted cycles come and go without being noticed by the lifecycle. -/
theorem Agrees.of_sameGate
    (h : Agrees word backend pc) (hbusy : word ≠ 0#64)
    (hgate : admissionIsOpen other = admissionIsOpen word) :
    Agrees other backend pc := by
  cases pc <;> simp_all [Agrees]

theorem Agrees.activated
    (h : Agrees word backend pc) (hbusy : word ≠ 0#64) :
    backend = .activated := by
  cases pc <;> simp_all [Agrees]

end MasterPc

/-! ## The threads inside a cycle -/

theorem exists_finset_update
    {τ α : Type} [DecidableEq τ] (inside : α → Bool) (position : τ → α)
    {members : Finset τ}
    (hmembers : ∀ u, u ∈ members ↔ inside (position u) = true)
    (thread : τ) (next : α) :
    ∃ updated : Finset τ,
      (∀ u, u ∈ updated ↔
        inside (Function.update position thread next u) = true) ∧
      updated.card + (inside (position thread)).toNat =
        members.card + (inside next).toNat := by
  have hthread := hmembers thread
  cases hnext : inside next with
  | true =>
      refine ⟨insert thread members, ?_, ?_⟩
      · intro u
        by_cases hu : u = thread
        · simp [hu, hnext]
        · simp [hu, hmembers]
      · cases hbefore : inside (position thread) with
        | true =>
            rw [hbefore] at hthread
            rw [Finset.insert_eq_of_mem (hthread.mpr rfl)]
        | false =>
            rw [hbefore] at hthread
            rw [Finset.card_insert_of_notMem (by simp [hthread])]
            rfl
  | false =>
      refine ⟨members.erase thread, ?_, ?_⟩
      · intro u
        by_cases hu : u = thread
        · simp [hu, hnext]
        · simp [hu, hmembers]
      · cases hbefore : inside (position thread) with
        | true =>
            rw [hbefore] at hthread
            exact Finset.card_erase_add_one (hthread.mpr rfl)
        | false =>
            rw [hbefore] at hthread
            rw [Finset.erase_eq_of_notMem (by simp [hthread])]

/-! ## One thread -/

section Thread

variable {D τ : Type} (setup : MasterSetup D) (shared : MasterShared τ)
  (thread : τ) (succeeds : Bool) {pc : MasterPc}

theorem setupCalls_wellFormed (setup : MasterSetup D) :
    (MasterPc.openSetup (setupCalls setup)).WellFormed := by
  intro call hcall
  unfold setupCalls at hcall
  rw [List.mem_append, List.mem_flatMap, List.mem_map] at hcall
  obtain ⟨configuration, _, hcall⟩ | ⟨field, _, rfl⟩ := hcall
  · unfold configureAxisCalls at hcall
    simp only [List.mem_cons, List.mem_map] at hcall
    obtain rfl | ⟨object, _, rfl⟩ := hcall
    · rfl
    · rfl
  · rfl

theorem threadStep_wellFormed (hpc : pc.WellFormed) :
    (threadStep setup shared thread succeeds pc).2.1.WellFormed := by
  cases pc with
  | openLock | closeLock =>
      simp only [threadStep, lockStep]
      split <;> trivial
  | openCheck =>
      simp only [threadStep]
      split
      · trivial
      · split <;> trivial
  | openInitialize =>
      simp only [threadStep]
      split
      · exact setupCalls_wellFormed setup
      · trivial
  | openSetup calls =>
      cases calls with
      | nil => trivial
      | cons call rest =>
          simp only [threadStep]
          split
          · exact fun later hlater => hpc later (List.mem_cons_of_mem _ hlater)
          · trivial
  | cycleInputs calls =>
      cases calls with
      | nil => trivial
      | cons call rest =>
          exact fun later hlater => hpc later (List.mem_cons_of_mem _ hlater)
  | cycleEnter observed =>
      simp only [threadStep, enterStep]
      split
      · trivial
      · split
        · simp only
          split
          · simp [MasterPc.WellFormed, BackendCall.cyclic]
          · trivial
        · trivial
  | cycleMailbox offset =>
      simp only [threadStep, mailboxStep]
      split
      · split <;> trivial
      · trivial
  | openActivate | closeGate | closeWait | openMailbox _ =>
      simp only [threadStep]
      repeat' split
      all_goals trivial
  | _ => trivial

/-- The holder of the lifecycle mutex keeps it until it returns. -/
theorem threadStep_holding (hpc : pc.holdsLifecycle = true) :
    (threadStep setup shared thread succeeds pc).1.lifecycleMutex =
      if (threadStep setup shared thread succeeds pc).2.1.holdsLifecycle then
        shared.lifecycleMutex
      else
        none := by
  cases pc with
  | openSetup calls => cases calls <;> cases succeeds <;> rfl
  | openInitialize | openActivate => cases succeeds <;> rfl
  | openAdmit | openDeactivate | closeDeactivate => rfl
  | openReturn _ | closeReturn => rfl
  | openCheck | openMailbox _ | closeGate | closeWait =>
      simp only [threadStep]
      repeat' split
      all_goals simp_all [MasterPc.holdsLifecycle]
  | _ => simp [MasterPc.holdsLifecycle] at hpc

/-- Other threads leave the backend alone, and take only a free mutex. -/
theorem threadStep_free (hpc : pc.holdsLifecycle = false) :
    (threadStep setup shared thread succeeds pc).1.backend = shared.backend ∧
    (((threadStep setup shared thread succeeds pc).2.1.holdsLifecycle = false ∧
        (threadStep setup shared thread succeeds pc).1.lifecycleMutex =
          shared.lifecycleMutex) ∨
      (shared.lifecycleMutex = none ∧
        (pc = .openLock ∨ pc = .closeLock) ∧
        threadStep setup shared thread succeeds pc =
          (shared.setMutex (some thread),
            if pc = .openLock then .openCheck else .closeGate, .silent))) := by
  cases pc with
  | cycleInputs calls => cases calls <;> exact ⟨rfl, .inl ⟨rfl, rfl⟩⟩
  | openLock | closeLock =>
      cases hmutex : shared.lifecycleMutex
      · simp [threadStep, lockStep, hmutex]
      · simp [threadStep, lockStep, hmutex, MasterPc.holdsLifecycle]
  | cycleEnter observed =>
      simp only [threadStep, enterStep]
      repeat' split
      all_goals simp [MasterPc.holdsLifecycle]
  | cycleMailbox offset =>
      simp only [threadStep, mailboxStep]
      repeat' split
      all_goals simp [MasterPc.holdsLifecycle]
  | idle | cycleLoad | cycleQueue | cycleSend | leaveCycle =>
      exact ⟨rfl, .inl ⟨rfl, rfl⟩⟩
  | _ => simp [MasterPc.holdsLifecycle] at hpc

theorem admissionIsOpen_and_countMask (word : BitVec 64) :
    admissionIsOpen (word &&& kCycleCountMask) = false := by
  rw [← Bool.not_eq_true, admissionIsOpen_iff, toNat_and_countMask]
  have hmod := Nat.mod_lt word.toNat (show 0 < 2 ^ 63 by decide)
  omega

/-- The holder moves the word only to open and to close the gate. -/
theorem threadStep_word (hpc : pc.holdsLifecycle = true) :
    (threadStep setup shared thread succeeds pc).1.cycleAdmission =
        shared.cycleAdmission ∨
      (threadStep setup shared thread succeeds pc).1.cycleAdmission =
        shared.cycleAdmission &&& kCycleCountMask ∨
      (threadStep setup shared thread succeeds pc).2.2 = .gateOpened := by
  cases pc with
  | openSetup calls => cases calls <;> cases succeeds <;> exact .inl rfl
  | openInitialize | openActivate => cases succeeds <;> exact .inl rfl
  | openAdmit => exact .inr (.inr rfl)
  | closeGate => exact .inr (.inl rfl)
  | openDeactivate | closeDeactivate | openReturn _ | closeReturn =>
      exact .inl rfl
  | openCheck | openMailbox _ | closeWait =>
      simp only [threadStep]
      repeat' split
      all_goals exact .inl rfl
  | _ => simp [MasterPc.holdsLifecycle] at hpc

/-- The phase of the backend stays known to the holder. -/
theorem threadStep_agrees (hpc : pc.holdsLifecycle = true)
    (hagrees : pc.Agrees shared.cycleAdmission shared.backend)
    (hempty : shared.cycleAdmission &&& kCycleCountMask = 0#64 →
      admissionIsOpen shared.cycleAdmission = false →
      shared.cycleAdmission = 0#64) :
    (if (threadStep setup shared thread succeeds pc).2.1.holdsLifecycle then
        (threadStep setup shared thread succeeds pc).2.1
      else
        .idle).Agrees
      (threadStep setup shared thread succeeds pc).1.cycleAdmission
      (threadStep setup shared thread succeeds pc).1.backend := by
  have hclosed := admissionIsOpen_and_countMask shared.cycleAdmission
  cases pc with
  | openSetup calls =>
      cases calls <;> cases succeeds <;>
        simp_all [threadStep, MasterPc.Agrees, MasterPc.holdsLifecycle]
  | openInitialize | openActivate =>
      cases succeeds <;>
        simp_all [threadStep, MasterPc.Agrees, MasterPc.holdsLifecycle]
  | openAdmit =>
      have hopen := admits_openBit.isOpen
      simp_all [threadStep, MasterPc.Agrees, MasterPc.holdsLifecycle]
  | openDeactivate | closeDeactivate | closeReturn | openReturn _ =>
      simp_all [threadStep, MasterPc.Agrees, MasterPc.holdsLifecycle]
  | closeGate =>
      obtain ⟨hopen, hbackend⟩ | ⟨hword, hbackend⟩ := hagrees
      · simp [threadStep, hopen, hbackend, hclosed, MasterPc.holdsLifecycle,
          MasterPc.Agrees]
      · have hshut : admissionIsOpen 0#64 = false := by decide
        simp [threadStep, hword, hshut, hbackend, MasterPc.holdsLifecycle,
          MasterPc.Agrees]
  | openCheck | openMailbox _ | closeWait =>
      simp only [threadStep]
      repeat' split
      all_goals simp_all [MasterPc.holdsLifecycle, MasterPc.Agrees]
  | _ => simp [MasterPc.holdsLifecycle] at hpc

theorem threadStep_admits {count : ℕ}
    (hword : Admits shared.cycleAdmission
      (admissionIsOpen shared.cycleAdmission) count)
    (hinside : pc.admitted = true → 0 < count)
    (hempty : pc = .openAdmit → count = 0) :
    Admits (threadStep setup shared thread succeeds pc).1.cycleAdmission
      (admissionIsOpen
        (threadStep setup shared thread succeeds pc).1.cycleAdmission)
      (count +
        (threadStep setup shared thread succeeds pc).2.1.admitted.toNat -
          pc.admitted.toNat) := by
  cases pc with
  | openSetup calls =>
      cases calls <;> cases succeeds <;> exact hword
  | openInitialize | openActivate => cases succeeds <;> exact hword
  | openCheck | openMailbox _ | closeWait =>
      simp only [threadStep]
      repeat' split
      all_goals exact hword
  | openLock | closeLock =>
      simp only [threadStep, lockStep]
      split <;> exact hword
  | openAdmit =>
      rw [hempty rfl]
      exact admits_openBit.self
  | closeGate =>
      simp only [threadStep, MasterShared.setAdmission_cycleAdmission]
      split <;> exact hword.close.self
  | cycleInputs calls =>
      cases calls with
      | nil => simpa [threadStep, MasterPc.admitted] using hword
      | cons call rest => simpa [threadStep, MasterPc.admitted] using hword
  | cycleMailbox offset =>
      simp only [threadStep, mailboxStep]
      repeat' split
      all_goals simpa [MasterPc.admitted] using hword
  | cycleQueue | cycleSend =>
      simpa [threadStep, MasterPc.admitted] using hword
  | cycleEnter observed =>
      simp only [threadStep, enterStep]
      split
      · exact hword
      · next desired hdesired =>
          split
          · next htaken =>
              simp only [Bool.and_eq_true, decide_eq_true_eq] at htaken
              have hentered := hword.enter (by rw [htaken.2]; exact hdesired)
              simp only [MasterShared.setAdmission_cycleAdmission]
              split <;> exact hentered.2.self
          · exact hword
  | leaveCycle => exact (hword.leave (hinside rfl)).self
  | _ => exact hword


/-- Outside the lifecycle only cycles move the word, and they keep the gate. -/
theorem threadStep_gate {count : ℕ}
    (hpc : pc.holdsLifecycle = false)
    (hword : Admits shared.cycleAdmission
      (admissionIsOpen shared.cycleAdmission) count)
    (hinside : pc.admitted = true → 0 < count) :
    (threadStep setup shared thread succeeds pc).1.cycleAdmission =
        shared.cycleAdmission ∨
      (shared.cycleAdmission ≠ 0#64 ∧
        admissionIsOpen
            (threadStep setup shared thread succeeds pc).1.cycleAdmission =
          admissionIsOpen shared.cycleAdmission) := by
  cases pc with
  | cycleInputs calls => cases calls <;> exact .inl rfl
  | openLock | closeLock =>
      simp only [threadStep, lockStep]
      split <;> exact .inl rfl
  | cycleMailbox offset =>
      simp only [threadStep, mailboxStep]
      repeat' split
      all_goals exact .inl rfl
  | cycleEnter observed =>
      simp only [threadStep, enterStep]
      split
      · exact .inl rfl
      · next desired hdesired =>
          split
          · next htaken =>
              simp only [Bool.and_eq_true, decide_eq_true_eq] at htaken
              have hentered := hword.enter (by rw [htaken.2]; exact hdesired)
              refine .inr ⟨?_, ?_⟩
              · rw [ne_eq, hword.eq_zero_iff, hentered.1]
                simp
              · rw [hentered.1]
                exact hentered.2.isOpen
          · exact .inl rfl
  | leaveCycle =>
      have hpos := hinside rfl
      refine .inr ⟨?_, (hword.leave hpos).isOpen⟩
      rw [ne_eq, hword.eq_zero_iff]
      omega
  | idle | cycleLoad | cycleQueue | cycleSend => exact .inl rfl
  | _ => simp [MasterPc.holdsLifecycle] at hpc

/-- Which event a thread can emit where. -/
inductive Emits (word : BitVec 64) (succeeds : Bool) :
    MasterPc → MasterEvent → Prop
  | silent (pc : MasterPc) : Emits word succeeds pc .silent
  | cyclic {pc : MasterPc} {call : BackendCall}
      (hinside : pc.admitted = true) (hcall : call.cyclic = true) :
      Emits word succeeds pc (.called call true)
  | initialized : Emits word succeeds .openInitialize
      (.called .initializeBackend succeeds)
  | setup {calls : List BackendCall} {call : BackendCall}
      (hcall : call ∈ calls) :
      Emits word succeeds (.openSetup calls) (.called call succeeds)
  | activate : Emits word succeeds .openActivate (.called .activate succeeds)
  | rollBack : Emits word succeeds .openDeactivate (.called .deactivate true)
  | deactivate : Emits word succeeds .closeDeactivate (.called .deactivate true)
  | gateOpened : Emits word succeeds .openAdmit .gateOpened
  | gateClosed : Emits word succeeds .closeGate .gateClosed
  | refused (observed : BitVec 64) :
      Emits word succeeds (.cycleEnter observed) .refused
  | admitted {observed : BitVec 64} (hopen : admissionIsOpen word = true) :
      Emits word succeeds (.cycleEnter observed) .admitted
  | left : Emits word succeeds .leaveCycle .left
  | openReturned (succeeded : Bool) :
      Emits word succeeds (.openReturn succeeded) (.openReturned succeeded)
  | closeReturned : Emits word succeeds .closeReturn .closeReturned

section Emitted

variable {word : BitVec 64} {succeeds : Bool} {pc : MasterPc}
  {call : BackendCall} {succeeded : Bool}

theorem Emits.admitted_of_cyclic
    (h : Emits word succeeds pc (.called call succeeded))
    (hpc : pc.WellFormed) (hcyclic : call.cyclic = true) :
    pc.admitted = true := by
  cases h with
  | cyclic hinside _ => exact hinside
  | setup hcall =>
      have hconfigures := hpc call hcall
      cases call <;> simp_all [BackendCall.configures, BackendCall.cyclic]
  | _ => simp [BackendCall.cyclic] at hcyclic

theorem Emits.eq_openInitialize
    (h : Emits word succeeds pc (.called .initializeBackend succeeded))
    (hpc : pc.WellFormed) :
    pc = .openInitialize := by
  cases h with
  | initialized => rfl
  | cyclic _ hcall => simp [BackendCall.cyclic] at hcall
  | setup hcall =>
      have hconfigures := hpc _ hcall
      simp [BackendCall.configures] at hconfigures

theorem Emits.eq_openActivate
    (h : Emits word succeeds pc (.called .activate succeeded))
    (hpc : pc.WellFormed) :
    pc = .openActivate := by
  cases h with
  | activate => rfl
  | cyclic _ hcall => simp [BackendCall.cyclic] at hcall
  | setup hcall =>
      have hconfigures := hpc _ hcall
      simp [BackendCall.configures] at hconfigures

theorem Emits.of_deactivate
    (h : Emits word succeeds pc (.called .deactivate succeeded))
    (hpc : pc.WellFormed) :
    pc = .openDeactivate ∨ pc = .closeDeactivate := by
  cases h with
  | rollBack => exact .inl rfl
  | deactivate => exact .inr rfl
  | cyclic _ hcall => simp [BackendCall.cyclic] at hcall
  | setup hcall =>
      have hconfigures := hpc _ hcall
      simp [BackendCall.configures] at hconfigures

end Emitted

theorem threadStep_emits (hpc : pc.WellFormed) :
    Emits shared.cycleAdmission succeeds pc
      (threadStep setup shared thread succeeds pc).2.2 := by
  cases pc with
  | openSetup calls =>
      cases calls with
      | nil => exact .silent _
      | cons call rest => exact .setup List.mem_cons_self
  | openInitialize => cases succeeds <;> exact .initialized
  | openActivate => cases succeeds <;> exact .activate
  | openCheck | openMailbox _ | closeWait =>
      simp only [threadStep]
      repeat' split
      all_goals exact .silent _
  | openLock | closeLock =>
      simp only [threadStep, lockStep]
      split <;> exact .silent _
  | cycleInputs calls =>
      cases calls with
      | nil => exact .silent _
      | cons call rest => exact .cyclic rfl (hpc call List.mem_cons_self)
  | cycleMailbox offset =>
      simp only [threadStep, mailboxStep]
      split
      · split
        · exact .cyclic rfl rfl
        · exact .silent _
      · exact .silent _
  | cycleQueue | cycleSend => exact .cyclic rfl rfl
  | cycleEnter observed =>
      simp only [threadStep, enterStep]
      split
      · exact .refused observed
      · next desired hdesired =>
          split
          · next htaken =>
              simp only [Bool.and_eq_true, decide_eq_true_eq] at htaken
              refine .admitted ?_
              rw [htaken.2]
              exact admissionIsOpen_of_successor hdesired
          · exact .silent _
  | openAdmit => exact .gateOpened
  | openDeactivate => exact .rollBack
  | openReturn succeeded => exact .openReturned succeeded
  | closeGate => exact .gateClosed
  | closeDeactivate => exact .deactivate
  | closeReturn => exact .closeReturned
  | leaveCycle => exact .left
  | idle | cycleLoad => exact .silent _

/-- The phase in which an event leaves the backend. -/
def BackendPhase.after (phase : BackendPhase) : MasterEvent → BackendPhase
  | .called .initializeBackend true => .initialized
  | .called .activate true => .activated
  | .called .deactivate _ => .deactivated
  | _ => phase

/-- The backend is where the calls made so far leave it. -/
theorem threadStep_backend (hpc : pc.WellFormed) :
    (threadStep setup shared thread succeeds pc).1.backend =
      shared.backend.after
        (threadStep setup shared thread succeeds pc).2.2 := by
  cases pc with
  | openSetup calls =>
      cases calls with
      | nil => rfl
      | cons call rest =>
          have hcall := hpc call List.mem_cons_self
          cases call <;> simp_all [BackendCall.configures] <;> rfl
  | openInitialize | openActivate => cases succeeds <;> rfl
  | openCheck | openMailbox _ | closeWait =>
      simp only [threadStep]
      repeat' split
      all_goals rfl
  | openLock | closeLock =>
      simp only [threadStep, lockStep]
      split <;> rfl
  | cycleInputs calls =>
      cases calls with
      | nil => rfl
      | cons call rest =>
          have hcall := hpc call List.mem_cons_self
          cases call <;> simp_all [BackendCall.cyclic] <;> rfl
  | cycleMailbox offset =>
      simp only [threadStep, mailboxStep]
      repeat' split
      all_goals rfl
  | cycleEnter observed =>
      simp only [threadStep, enterStep]
      repeat' split
      all_goals rfl
  | _ => rfl

end Thread

/-! ## The master -/

namespace EthercatMaster

variable {D τ : Type} [DecidableEq τ] {setup : MasterSetup D}

/-- The thread whose view of the backend counts. -/
def lifecyclePc (master : EthercatMaster τ) : MasterPc :=
  match master.shared.lifecycleMutex with
  | none => .idle
  | some thread => master.threads thread

structure Balanced (master : EthercatMaster τ) : Prop where
  wellFormed : ∀ thread, (master.threads thread).WellFormed
  holder : ∀ thread, (master.threads thread).holdsLifecycle = true ↔
    master.shared.lifecycleMutex = some thread
  admits : ∃ members : Finset τ,
    (∀ thread, thread ∈ members ↔
      (master.threads thread).admitted = true) ∧
    Admits master.shared.cycleAdmission
      (admissionIsOpen master.shared.cycleAdmission) members.card
  agrees : master.lifecyclePc.Agrees master.shared.cycleAdmission
    master.shared.backend

omit [DecidableEq τ] in
theorem balanced_constructed :
    (EthercatMaster.constructed : EthercatMaster τ).Balanced where
  wellFormed := fun _ => trivial
  holder := fun _ => iff_of_false Bool.false_ne_true (by simp [constructed])
  admits := by
    refine ⟨∅, fun _ => iff_of_false (by simp) Bool.false_ne_true, ?_⟩
    have hshut : admissionIsOpen 0#64 = false := by decide
    constructor
    · simp [constructed, hshut]
    · simp
  agrees := Or.inr ⟨rfl, rfl⟩

namespace Balanced

variable {master : EthercatMaster τ}

omit [DecidableEq τ] in
theorem count (h : master.Balanced) (thread : τ) :
    ∃ count, Admits master.shared.cycleAdmission
        (admissionIsOpen master.shared.cycleAdmission) count ∧
      ((master.threads thread).admitted = true → 0 < count) := by
  obtain ⟨members, hmembers, hadmits⟩ := h.admits
  refine ⟨members.card, hadmits, ?_⟩
  intro hinside
  exact Finset.card_pos.mpr ⟨thread, (hmembers thread).mpr hinside⟩

omit [DecidableEq τ] in
/-- An admitted thread shows in the word. -/
theorem word_ne_zero (h : master.Balanced) {thread : τ}
    (hinside : (master.threads thread).admitted = true) :
    master.shared.cycleAdmission ≠ 0#64 := by
  obtain ⟨count, hadmits, hpos⟩ := h.count thread
  intro hzero
  have hempty := (hadmits.eq_zero_iff.mp hzero).2
  have hcount := hpos hinside
  omega

omit [DecidableEq τ] in
theorem activated (h : master.Balanced) {thread : τ}
    (hinside : (master.threads thread).admitted = true) :
    master.shared.backend = .activated :=
  h.agrees.activated (h.word_ne_zero hinside)

omit [DecidableEq τ] in
theorem agrees_of_holds (h : master.Balanced) {thread : τ} {pc : MasterPc}
    (hpc : master.threads thread = pc) (hholds : pc.holdsLifecycle = true) :
    pc.Agrees master.shared.cycleAdmission master.shared.backend := by
  have hagrees := h.agrees
  rw [← hpc] at hholds ⊢
  unfold lifecyclePc at hagrees
  rw [(h.holder thread).mp hholds] at hagrees
  exact hagrees

omit [DecidableEq τ] in
theorem not_admitted_of_zero (h : master.Balanced)
    (hzero : master.shared.cycleAdmission = 0#64) (thread : τ) :
    (master.threads thread).admitted = false := by
  rw [← Bool.not_eq_true]
  exact fun hinside => h.word_ne_zero hinside hzero

end Balanced

theorem balanced_call {master : EthercatMaster τ} (h : master.Balanced)
    (thread : τ) (operation : MasterOperation)
    (hidle : master.threads thread = .idle) :
    EthercatMaster.Balanced
      { master with
        threads := Function.update master.threads thread operation.entry } := by
  have hentry : operation.entry.holdsLifecycle = false ∧
      operation.entry.admitted = false ∧ operation.entry.WellFormed := by
    cases operation <;> exact ⟨rfl, rfl, trivial⟩
  have hfree : master.shared.lifecycleMutex ≠ some thread := by
    intro hmutex
    have hholds := (h.holder thread).mpr hmutex
    rw [hidle] at hholds
    exact absurd hholds (by decide)
  obtain ⟨members, hmembers, hadmits⟩ := h.admits
  refine ⟨?_, ?_, ⟨members, ?_, hadmits⟩, ?_⟩
  · intro u
    by_cases hu : u = thread
    · simpa [hu] using hentry.2.2
    · simpa [hu] using h.wellFormed u
  · intro u
    by_cases hu : u = thread
    · simp [hu, hentry.1, hfree]
    · simpa [hu] using h.holder u
  · intro u
    by_cases hu : u = thread
    · have hout : thread ∉ members := by
        rw [hmembers, hidle]
        exact Bool.false_ne_true
      simp [hu, hentry.2.1, hout]
    · simpa [hu] using hmembers u
  · have hagrees := h.agrees
    unfold lifecyclePc at hagrees ⊢
    cases hmutex : master.shared.lifecycleMutex with
    | none => simpa [hmutex] using hagrees
    | some u =>
        have hu : u ≠ thread := by
          rintro rfl
          exact hfree hmutex
        simpa [hmutex, hu] using hagrees

section Step

variable {master : EthercatMaster τ} (h : master.Balanced) (thread : τ)
  (succeeds : Bool)

include h in
omit [DecidableEq τ] in
/-- An empty closed gate is the zero word. -/
theorem Balanced.eq_zero
    (hcount : master.shared.cycleAdmission &&& kCycleCountMask = 0#64)
    (hgate : admissionIsOpen master.shared.cycleAdmission = false) :
    master.shared.cycleAdmission = 0#64 := by
  obtain ⟨members, _, hadmits⟩ := h.admits
  have hcard := hadmits.count_eq
  rw [hcount] at hcard
  rw [hadmits.eq_zero_iff]
  exact ⟨hgate, hcard.symm⟩

include h in
theorem Balanced.holder_step (u : τ) :
    (Function.update master.threads thread
        (threadStep setup master.shared thread succeeds
          (master.threads thread)).2.1 u).holdsLifecycle = true ↔
      (threadStep setup master.shared thread succeeds
        (master.threads thread)).1.lifecycleMutex = some u := by
  have hthread := h.holder thread
  have hother := h.holder u
  cases hholds : (master.threads thread).holdsLifecycle with
  | true =>
      have hmutex : master.shared.lifecycleMutex = some thread :=
        hthread.mp hholds
      rw [threadStep_holding setup master.shared thread succeeds hholds, hmutex]
      by_cases hu : u = thread
      · rw [hu, Function.update_self]
        split <;> simp_all
      · rw [Function.update_of_ne hu, hother, hmutex]
        have hne : thread ≠ u := Ne.symm hu
        split <;> simp [hne]
  | false =>
      rw [hholds] at hthread
      obtain ⟨_, ⟨hpc, hmutex⟩ | ⟨hmutex, hlock, hstep⟩⟩ :=
        threadStep_free setup master.shared thread succeeds hholds
      · rw [hmutex]
        by_cases hu : u = thread
        · rw [hu, Function.update_self, hpc]
          exact hthread
        · rw [Function.update_of_ne hu]
          exact hother
      · rw [hstep]
        by_cases hu : u = thread
        · rw [hu, Function.update_self]
          split <;> simp [MasterPc.holdsLifecycle]
        · rw [Function.update_of_ne hu, hother, hmutex]
          simp [Ne.symm hu]

include h in
theorem Balanced.admits_step :
    ∃ members : Finset τ,
      (∀ u, u ∈ members ↔
        (Function.update master.threads thread
          (threadStep setup master.shared thread succeeds
            (master.threads thread)).2.1 u).admitted = true) ∧
      Admits
        (threadStep setup master.shared thread succeeds
          (master.threads thread)).1.cycleAdmission
        (admissionIsOpen (threadStep setup master.shared thread succeeds
          (master.threads thread)).1.cycleAdmission)
        members.card := by
  obtain ⟨members, hmembers, hadmits⟩ := h.admits
  obtain ⟨updated, hupdated, hcard⟩ :=
    exists_finset_update MasterPc.admitted master.threads hmembers thread
      (threadStep setup master.shared thread succeeds
        (master.threads thread)).2.1
  refine ⟨updated, hupdated, ?_⟩
  have hinside : (master.threads thread).admitted = true →
      0 < members.card := fun hin =>
    Finset.card_pos.mpr ⟨thread, (hmembers thread).mpr hin⟩
  have hempty : master.threads thread = .openAdmit → members.card = 0 := by
    intro hpc
    have hagrees := h.agrees_of_holds hpc rfl
    exact (hadmits.eq_zero_iff.mp hagrees.1).2
  have hstep :=
    threadStep_admits setup master.shared thread succeeds hadmits hinside hempty
  have hupdatedCard : updated.card = members.card +
      (threadStep setup master.shared thread succeeds
        (master.threads thread)).2.1.admitted.toNat -
      (master.threads thread).admitted.toNat := by
    omega
  rw [hupdatedCard]
  exact hstep

include h in
theorem Balanced.agrees_step :
    (EthercatMaster.lifecyclePc
      ⟨(threadStep setup master.shared thread succeeds
          (master.threads thread)).1,
        Function.update master.threads thread
          (threadStep setup master.shared thread succeeds
            (master.threads thread)).2.1⟩).Agrees
      (threadStep setup master.shared thread succeeds
        (master.threads thread)).1.cycleAdmission
      (threadStep setup master.shared thread succeeds
        (master.threads thread)).1.backend := by
  have hagrees := h.agrees
  unfold lifecyclePc at hagrees ⊢
  simp only
  cases hholds : (master.threads thread).holdsLifecycle with
  | true =>
      have hmutex := (h.holder thread).mp hholds
      have hview := threadStep_agrees setup master.shared thread succeeds hholds
        (h.agrees_of_holds rfl hholds) h.eq_zero
      rw [threadStep_holding setup master.shared thread succeeds hholds, hmutex]
      split at hview
      · next hpc => simpa [hpc] using hview
      · next hpc => simpa [hpc] using hview
  | false =>
      obtain ⟨hbackend, ⟨hpc, hmutex⟩ | ⟨hmutex, hlock, hstep⟩⟩ :=
        threadStep_free setup master.shared thread succeeds hholds
      · rw [hmutex, hbackend]
        have hview : (match master.shared.lifecycleMutex with
            | none => MasterPc.idle
            | some u => Function.update master.threads thread
                (threadStep setup master.shared thread succeeds
                  (master.threads thread)).2.1 u) =
            (match master.shared.lifecycleMutex with
            | none => MasterPc.idle
            | some u => master.threads u) := by
          cases hm : master.shared.lifecycleMutex with
          | none => rfl
          | some u =>
              have hu : u ≠ thread := by
                rintro rfl
                rw [(h.holder u).mpr hm] at hholds
                exact absurd hholds (by decide)
              simp [hu]
        rw [hview]
        obtain ⟨count, hadmits, hinside⟩ := h.count thread
        obtain hword | ⟨hbusy, hgate⟩ :=
          threadStep_gate setup master.shared thread succeeds hholds hadmits
            hinside
        · rw [hword]
          exact hagrees
        · exact hagrees.of_sameGate hbusy hgate
      · rw [hmutex] at hagrees
        rw [hstep]
        simp only [MasterShared.setMutex_lifecycleMutex,
          Function.update_self, MasterShared.setMutex_cycleAdmission,
          MasterShared.setMutex_backend]
        split <;> exact hagrees

include h in
theorem balanced_step :
    ((masterMachine setup).step master (.step thread succeeds)).1.Balanced where
  wellFormed u := by
    by_cases hu : u = thread
    · simpa [masterMachine, hu] using
        threadStep_wellFormed setup master.shared thread succeeds
          (h.wellFormed thread)
    · simpa [masterMachine, hu] using h.wellFormed u
  holder := h.holder_step thread succeeds
  admits := h.admits_step thread succeeds
  agrees := h.agrees_step thread succeeds

end Step

theorem balanced_machine (master : EthercatMaster τ) (input : MasterInput τ)
    (h : master.Balanced) :
    ((masterMachine setup).step master input).1.Balanced := by
  cases input with
  | call thread operation =>
      simp only [masterMachine]
      split
      · next hidle => exact balanced_call h thread operation hidle
      · exact h
  | step thread succeeds => exact balanced_step h thread succeeds

theorem balanced_final (setup : MasterSetup D)
    (inputs : List (MasterInput τ)) :
    ((masterMachine setup).final EthercatMaster.constructed inputs).Balanced :=
  Machine.invariant_final EthercatMaster.Balanced balanced_machine
    balanced_constructed inputs

end EthercatMaster

end PolicyRuntime
