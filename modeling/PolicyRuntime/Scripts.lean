import Mathlib.Data.List.Basic

/-!
# Scripts of calls

A script makes calls one after the other, hears the answer of each before it
goes on, and may fail.  Whoever answers may look at all calls before.  What a
script leads to is computed backwards through its calls, and a monitor watches
whether each call was permitted after the earlier ones.
-/

namespace Scripts

/-- The calls made so far, each with its answer. -/
abbrev History (κ ρ : Type) := List (κ × ρ)

abbrev Answering (κ ρ : Type) := History κ ρ → κ → ρ

/-- After a call the script goes on with its place in the history and with its
answer. -/
inductive Script (κ ρ ε α : Type)
  | done (value : α)
  | fail (error : ε)
  | call (request : κ) (next : ℕ → ρ → Script κ ρ ε α)

namespace Script

variable {κ ρ ε α β : Type}

def andThen : Script κ ρ ε α → (α → Script κ ρ ε β) → Script κ ρ ε β
  | done value, next => next value
  | fail error, _ => .fail error
  | call request rest, next =>
      .call request fun place answer => (rest place answer).andThen next

instance : Monad (Script κ ρ ε) where
  pure := .done
  bind := andThen

/-- One call. -/
def ask (request : κ) : Script κ ρ ε (ℕ × ρ) :=
  .call request fun place answer => .done (place, answer)

variable (answering : Answering κ ρ)

def run : Script κ ρ ε α → History κ ρ → Except ε α × History κ ρ
  | done value, history => (.ok value, history)
  | fail error, history => (.error error, history)
  | call request next, history =>
      (next history.length (answering history request)).run
        (history ++ [(request, answering history request)])

/-! ## What a script leads to -/

/-- Every way in which the script ends is as required. -/
def Leads : Script κ ρ ε α → (α → History κ ρ → Prop) →
    (ε → History κ ρ → Prop) → History κ ρ → Prop
  | done value, success, _, history => success value history
  | fail error, _, failure, history => failure error history
  | call request next, success, failure, history =>
      (next history.length (answering history request)).Leads success failure
        (history ++ [(request, answering history request)])

section Rules

variable {answering} {success other : α → History κ ρ → Prop}
  {failure otherFailure : ε → History κ ρ → Prop} {history : History κ ρ}

@[simp] theorem leads_pure (value : α) :
    (pure value : Script κ ρ ε α).Leads answering success failure history ↔
      success value history := Iff.rfl

@[simp] theorem leads_fail (error : ε) :
    (fail error : Script κ ρ ε α).Leads answering success failure history ↔
      failure error history := Iff.rfl

@[simp] theorem leads_ask {success : ℕ × ρ → History κ ρ → Prop}
    (request : κ) :
    (ask request : Script κ ρ ε (ℕ × ρ)).Leads answering success failure
        history ↔
      success (history.length, answering history request)
        (history ++ [(request, answering history request)]) := Iff.rfl

@[simp] theorem leads_bind {success : β → History κ ρ → Prop}
    (script : Script κ ρ ε α) (next : α → Script κ ρ ε β) :
    (script >>= next).Leads answering success failure history ↔
      script.Leads answering
        (fun value later => (next value).Leads answering success failure later)
        failure history := by
  change (script.andThen next).Leads answering success failure history ↔ _
  induction script generalizing history with
  | done value => rfl
  | fail error => rfl
  | call request rest ih => exact ih _ _

@[simp] theorem leads_ite (condition : Prop) [Decidable condition]
    (script second : Script κ ρ ε α) :
    (if condition then script else second).Leads answering success failure
        history ↔
      if condition then script.Leads answering success failure history
      else second.Leads answering success failure history := by
  split <;> rfl

/-- Requirements may be weakened. -/
theorem Leads.weaken {script : Script κ ρ ε α}
    (hleads : script.Leads answering success failure history)
    (hsuccess : ∀ value later, success value later → other value later)
    (hfailure : ∀ error later, failure error later →
      otherFailure error later) :
    script.Leads answering other otherFailure history := by
  induction script generalizing history with
  | done value => exact hsuccess value history hleads
  | fail error => exact hfailure error history hleads
  | call request rest ih => exact ih _ _ hleads

/-- What holds of the script's own run. -/
theorem leads_iff_run (script : Script κ ρ ε α) :
    script.Leads answering success failure history ↔
      match script.run answering history with
      | (.ok value, later) => success value later
      | (.error error, later) => failure error later := by
  induction script generalizing history with
  | done value => rfl
  | fail error => rfl
  | call request rest ih => exact ih _ _

theorem Leads.of_ok {script : Script κ ρ ε α}
    (hleads : script.Leads answering success failure history) {value : α}
    {later : History κ ρ}
    (hrun : script.run answering history = (.ok value, later)) :
    success value later := by
  rw [leads_iff_run, hrun] at hleads
  exact hleads

theorem Leads.of_error {script : Script κ ρ ε α}
    (hleads : script.Leads answering success failure history) {error : ε}
    {later : History κ ρ}
    (hrun : script.run answering history = (.error error, later)) :
    failure error later := by
  rw [leads_iff_run, hrun] at hleads
  exact hleads

/-- Calls are only added to the history. -/
theorem leads_extends (script : Script κ ρ ε α) (history : History κ ρ) :
    script.Leads answering (fun _ later => history <+: later)
      (fun _ later => history <+: later) history := by
  induction script generalizing history with
  | done value => exact List.prefix_rfl
  | fail error => exact List.prefix_rfl
  | call request rest ih =>
      have hmore := List.prefix_append history
        [(request, answering history request)]
      exact (ih _ _ _).weaken (fun _ _ hlater => hmore.trans hlater)
        fun _ _ hlater => hmore.trans hlater

theorem Leads.and {script : Script κ ρ ε α}
    (hleads : script.Leads answering success failure history)
    (hother : script.Leads answering other otherFailure history) :
    script.Leads answering
      (fun value later => success value later ∧ other value later)
      (fun error later => failure error later ∧ otherFailure error later)
      history := by
  induction script generalizing history with
  | done value => exact ⟨hleads, hother⟩
  | fail error => exact ⟨hleads, hother⟩
  | call request rest ih => exact ih _ _ hleads hother

end Rules

end Script

/-! ## Monitors -/

/-- What may be called is decided by what was called and answered before. -/
structure Monitor (κ ρ σ : Type) where
  start : σ
  advance : σ → ℕ → κ → ρ → σ
  Permits : σ → κ → Prop

namespace Monitor

variable {κ ρ σ : Type} (monitor : Monitor κ ρ σ)

/-- The state after the calls from a place on. -/
def stateFrom : σ → ℕ → History κ ρ → σ
  | state, _, [] => state
  | state, place, (request, answer) :: rest =>
      stateFrom (monitor.advance state place request answer) (place + 1) rest

def state (history : History κ ρ) : σ :=
  monitor.stateFrom monitor.start 0 history

/-- Every call was permitted when it was made. -/
def Kept (history : History κ ρ) : Prop :=
  ∀ earlier request answer later,
    history = earlier ++ (request, answer) :: later →
    monitor.Permits (monitor.state earlier) request

variable {history : History κ ρ} (request : κ) (answer : ρ)

theorem stateFrom_concat (state : σ) (place : ℕ) (history : History κ ρ) :
    monitor.stateFrom state place (history ++ [(request, answer)]) =
      monitor.advance (monitor.stateFrom state place history)
        (place + history.length) request answer := by
  induction history generalizing state place with
  | nil => rfl
  | cons first rest ih =>
      rw [List.cons_append, stateFrom, stateFrom, ih, List.length_cons,
        Nat.add_right_comm, Nat.add_assoc]

@[simp] theorem state_concat (history : History κ ρ) :
    monitor.state (history ++ [(request, answer)]) =
      monitor.advance (monitor.state history) history.length request
        answer := by
  rw [state, stateFrom_concat, Nat.zero_add]
  rfl

theorem kept_nil : monitor.Kept [] := by
  intro earlier request answer later hsplit
  simp at hsplit

@[simp] theorem kept_concat (history : History κ ρ) :
    monitor.Kept (history ++ [(request, answer)]) ↔
      monitor.Kept history ∧
        monitor.Permits (monitor.state history) request := by
  constructor
  · intro hkept
    refine ⟨fun earlier early found later hsplit => ?_,
      hkept history request answer [] rfl⟩
    apply hkept earlier early found (later ++ [(request, answer)])
    rw [hsplit, List.append_assoc, List.cons_append]
  · rintro ⟨hkept, hpermits⟩ earlier early found later hsplit
    obtain rfl | ⟨later, last, rfl⟩ := List.eq_nil_or_concat later
    · have hparts := List.append_inj' hsplit rfl
      simp only [List.cons.injEq, Prod.mk.injEq, and_true] at hparts
      rw [← hparts.1, ← hparts.2.1]
      exact hpermits
    · rw [List.concat_eq_append, ← List.cons_append, ← List.append_assoc]
        at hsplit
      exact hkept earlier early found later (List.append_inj' hsplit rfl).1

end Monitor

end Scripts
