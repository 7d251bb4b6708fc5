import Mathlib.Tactic

/-!
# Input-driven machines and their histories

A machine answers every input with an output and a next state.  Its runs are
indexed by finite input lists, so a concurrent system is embedded by letting
the inputs name the scheduled step.  The rules below derive facts about whole
histories from one-step facts: state invariants, invariants which also see the
history, and relations kept by two runs in lock step.
-/

namespace PolicyRuntime

structure Machine (σ ι ω : Type*) where
  step : σ → ι → σ × ω

/-- One step of a run, with the states around it. -/
structure Transition (σ ι ω : Type*) where
  before : σ
  input : ι
  output : ω
  after : σ

namespace Machine

variable {σ ι ω : Type*}

def fire (machine : Machine σ ι ω) (state : σ) (input : ι) :
    Transition σ ι ω where
  before := state
  input := input
  output := (machine.step state input).2
  after := (machine.step state input).1

def final (machine : Machine σ ι ω) : σ → List ι → σ
  | state, [] => state
  | state, input :: rest =>
      machine.final (machine.step state input).1 rest

def trace (machine : Machine σ ι ω) : σ → List ι → List (Transition σ ι ω)
  | _, [] => []
  | state, input :: rest =>
      machine.fire state input ::
        machine.trace (machine.step state input).1 rest

@[simp] theorem fire_before
    (machine : Machine σ ι ω) (state : σ) (input : ι) :
    (machine.fire state input).before = state := rfl

@[simp] theorem fire_input
    (machine : Machine σ ι ω) (state : σ) (input : ι) :
    (machine.fire state input).input = input := rfl

@[simp] theorem fire_after
    (machine : Machine σ ι ω) (state : σ) (input : ι) :
    (machine.fire state input).after = (machine.step state input).1 := rfl

@[simp] theorem fire_output
    (machine : Machine σ ι ω) (state : σ) (input : ι) :
    (machine.fire state input).output = (machine.step state input).2 := rfl

@[simp] theorem final_nil (machine : Machine σ ι ω) (state : σ) :
    machine.final state [] = state := rfl

@[simp] theorem final_cons
    (machine : Machine σ ι ω) (state : σ) (input : ι) (rest : List ι) :
    machine.final state (input :: rest) =
      machine.final (machine.step state input).1 rest := rfl

@[simp] theorem trace_nil (machine : Machine σ ι ω) (state : σ) :
    machine.trace state [] = [] := rfl

@[simp] theorem trace_cons
    (machine : Machine σ ι ω) (state : σ) (input : ι) (rest : List ι) :
    machine.trace state (input :: rest) =
      machine.fire state input ::
        machine.trace (machine.step state input).1 rest := rfl

theorem final_append
    (machine : Machine σ ι ω) (state : σ) (earlier later : List ι) :
    machine.final state (earlier ++ later) =
      machine.final (machine.final state earlier) later := by
  induction earlier generalizing state with
  | nil => rfl
  | cons input rest ih => exact ih (machine.step state input).1

theorem trace_append
    (machine : Machine σ ι ω) (state : σ) (earlier later : List ι) :
    machine.trace state (earlier ++ later) =
      machine.trace state earlier ++
        machine.trace (machine.final state earlier) later := by
  induction earlier generalizing state with
  | nil => rfl
  | cons input rest ih =>
      simp only [List.cons_append, trace_cons, final_cons]
      rw [ih]

@[simp] theorem length_trace
    (machine : Machine σ ι ω) (state : σ) (inputs : List ι) :
    (machine.trace state inputs).length = inputs.length := by
  induction inputs generalizing state with
  | nil => rfl
  | cons input rest ih => exact congrArg Nat.succ (ih _)

theorem trace_take
    (machine : Machine σ ι ω) (state : σ) (inputs : List ι) (count : ℕ) :
    (machine.trace state inputs).take count =
      machine.trace state (inputs.take count) := by
  induction inputs generalizing state count with
  | nil => simp
  | cons input rest ih =>
      cases count with
      | zero => rfl
      | succ count =>
          simp only [trace_cons, List.take_succ_cons]
          rw [ih]

theorem trace_getElem?
    (machine : Machine σ ι ω) (state : σ) (inputs : List ι) (position : ℕ) :
    (machine.trace state inputs)[position]? =
      inputs[position]?.map
        (machine.fire (machine.final state (inputs.take position))) := by
  induction inputs generalizing state position with
  | nil => simp
  | cons input rest ih =>
      cases position with
      | zero => rfl
      | succ position =>
          simp only [trace_cons, List.getElem?_cons_succ, List.take_succ_cons,
            final_cons]
          exact ih _ position

/-- A displayed prefix of a run fixes where it ends. -/
theorem trace_prefix
    {machine : Machine σ ι ω} {state : σ} {inputs : List ι}
    {earlier later : List (Transition σ ι ω)}
    (hsplit : machine.trace state inputs = earlier ++ later) :
    ∃ before after,
      inputs = before ++ after ∧
      earlier = machine.trace state before ∧
      later = machine.trace (machine.final state before) after := by
  induction inputs generalizing state earlier with
  | nil =>
      simp only [trace_nil] at hsplit
      have hempty := List.nil_eq_append_iff.mp hsplit
      refine ⟨[], [], rfl, hempty.1, hempty.2⟩
  | cons input rest ih =>
      cases earlier with
      | nil => exact ⟨[], input :: rest, rfl, rfl, hsplit.symm⟩
      | cons head tail =>
          simp only [trace_cons, List.cons_append, List.cons.injEq] at hsplit
          obtain ⟨before, after, hinputs, hbefore, hafter⟩ := ih hsplit.2
          refine ⟨input :: before, after, ?_, ?_, hafter⟩
          · simp [hinputs]
          · simp [hbefore, hsplit.1]

/-- A displayed transition of a run fixes the inputs around it. -/
theorem trace_split
    {machine : Machine σ ι ω} {state : σ} {inputs : List ι}
    {earlier later : List (Transition σ ι ω)} {t : Transition σ ι ω}
    (hsplit : machine.trace state inputs = earlier ++ t :: later) :
    ∃ before input after,
      inputs = before ++ input :: after ∧
      earlier = machine.trace state before ∧
      t = machine.fire (machine.final state before) input ∧
      later = machine.trace t.after after := by
  obtain ⟨before, after, hinputs, hbefore, hafter⟩ := trace_prefix hsplit
  cases after with
  | nil => simp at hafter
  | cons input rest =>
      simp only [trace_cons, List.cons.injEq] at hafter
      refine ⟨before, input, rest, hinputs, hbefore, hafter.1, ?_⟩
      rw [hafter.2, hafter.1]
      rfl

/-- The part of a run between two of its positions. -/
theorem exists_between
    (machine : Machine σ ι ω) (state : σ) {inputs : List ι}
    {first last : ℕ} {input : ι} (hlt : first < last)
    (hinput : inputs[first]? = some input) :
    ∃ between,
      machine.final state (inputs.take last) =
        machine.final
          (machine.step (machine.final state (inputs.take first)) input).1
          between ∧
      ∀ t ∈ machine.trace
          (machine.step (machine.final state (inputs.take first)) input).1
          between,
        ∃ position, first < position ∧ position < last ∧
          (machine.trace state inputs)[position]? = some t := by
  obtain ⟨between, hbetween⟩ : ∃ between,
      inputs.take last = inputs.take first ++ input :: between := by
    refine ⟨(inputs.take last).drop (first + 1), ?_⟩
    have hget : (inputs.take last)[first]? = some input := by
      rw [List.getElem?_take_of_lt hlt]
      exact hinput
    obtain ⟨hfirst, heq⟩ := List.getElem?_eq_some_iff.mp hget
    have htake : inputs.take first = (inputs.take last).take first := by
      rw [List.take_take, min_eq_left hlt.le]
    rw [← heq, ← List.drop_eq_getElem_cons hfirst, htake,
      List.take_append_drop]
  refine ⟨between, ?_, ?_⟩
  · rw [hbetween, final_append, final_cons]
  · intro t hmem
    obtain ⟨offset, hoffset⟩ := List.mem_iff_getElem?.mp hmem
    have hearlier : (machine.trace state inputs).take last =
        machine.trace state (inputs.take first) ++
          machine.fire (machine.final state (inputs.take first)) input ::
            machine.trace (machine.step
              (machine.final state (inputs.take first)) input).1 between := by
      rw [trace_take, hbetween, trace_append, trace_cons]
    have hlength : (machine.trace state (inputs.take first)).length =
        first := by
      rw [length_trace, List.length_take]
      exact min_eq_left (List.getElem?_eq_some_iff.mp hinput).1.le
    have hget : ((machine.trace state inputs).take last)[first + 1 +
        offset]? = some t := by
      rw [hearlier, List.getElem?_append_right (by omega), hlength,
        show first + 1 + offset - first = offset + 1 from by omega]
      exact hoffset
    rw [List.getElem?_take] at hget
    split at hget
    · next hlast => exact ⟨first + 1 + offset, by omega, hlast, hget⟩
    · cases hget

theorem exists_fire_of_mem_trace
    {machine : Machine σ ι ω} {state : σ} {inputs : List ι}
    {t : Transition σ ι ω} (hmem : t ∈ machine.trace state inputs) :
    ∃ before input, before ++ [input] <+: inputs ∧
      t = machine.fire (machine.final state before) input := by
  obtain ⟨earlier, later, hsplit⟩ := List.mem_iff_append.mp hmem
  obtain ⟨before, input, after, hinputs, _, hfire, _⟩ := trace_split hsplit
  refine ⟨before, input, ⟨after, ?_⟩, hfire⟩
  simp [hinputs]

theorem input_mem_of_mem_trace
    {machine : Machine σ ι ω} {state : σ} {inputs : List ι}
    {t : Transition σ ι ω} (hmem : t ∈ machine.trace state inputs) :
    t.input ∈ inputs := by
  obtain ⟨before, input, ⟨after, hinputs⟩, hfire⟩ :=
    exists_fire_of_mem_trace hmem
  rw [hfire, ← hinputs]
  simp

/-! ## Invariants -/

theorem invariant_final
    (Good : σ → Prop) {machine : Machine σ ι ω}
    (hstep : ∀ state input, Good state → Good (machine.step state input).1)
    {state : σ} (hstate : Good state) (inputs : List ι) :
    Good (machine.final state inputs) := by
  induction inputs generalizing state with
  | nil => exact hstate
  | cons input rest ih => exact ih (hstep state input hstate)

/-- A property which only some transitions can end holds until one of them. -/
theorem kept_until
    (Kept : σ → Prop) (Ends : Transition σ ι ω → Prop)
    {machine : Machine σ ι ω}
    (hstep : ∀ state input, Kept state → ¬ Ends (machine.fire state input) →
      Kept (machine.step state input).1)
    {state : σ} (hstate : Kept state) {inputs : List ι}
    (hnone : ∀ t ∈ machine.trace state inputs, ¬ Ends t) :
    Kept (machine.final state inputs) := by
  induction inputs generalizing state with
  | nil => exact hstate
  | cons input rest ih =>
      simp only [trace_cons, List.forall_mem_cons] at hnone
      exact ih (hstep state input hstate hnone.1) hnone.2

/-- Induction on a run for predicates which also read its history. -/
theorem history_final
    (Good : List (Transition σ ι ω) → σ → Prop)
    {machine : Machine σ ι ω} {start : σ}
    (hnil : Good [] start)
    (hstep : ∀ history state input, Good history state →
      Good (history ++ [machine.fire state input])
        (machine.step state input).1)
    (inputs : List ι) :
    Good (machine.trace start inputs) (machine.final start inputs) := by
  induction inputs using List.reverseRecOn with
  | nil => exact hnil
  | append_singleton inputs input ih =>
      rw [trace_append, final_append]
      exact hstep _ _ input ih

/-! ## Two runs in lock step -/

theorem related_runs
    (Same : σ → σ → Prop) (In : ι → ι → Prop) (Out : ω → ω → Prop)
    {machine : Machine σ ι ω}
    (hstep : ∀ left right inputLeft inputRight, Same left right →
      In inputLeft inputRight →
      Same (machine.step left inputLeft).1 (machine.step right inputRight).1 ∧
        Out (machine.step left inputLeft).2 (machine.step right inputRight).2)
    {left right : σ} (hstart : Same left right)
    {inputsLeft inputsRight : List ι}
    (hinputs : List.Forall₂ In inputsLeft inputsRight) :
    List.Forall₂ (fun l r => Out l.output r.output)
      (machine.trace left inputsLeft) (machine.trace right inputsRight) := by
  induction hinputs generalizing left right with
  | nil => exact List.Forall₂.nil
  | cons hin _ ih =>
      have hnext := hstep _ _ _ _ hstart hin
      exact List.Forall₂.cons hnext.2 (ih hnext.1)

end Machine

end PolicyRuntime
