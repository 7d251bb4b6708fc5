import PolicyRuntime.SensorQueue

/-!
# Accounts of the sensor event queue

Every event is popped, still there, or lost.  The producer counts at least the
lost ones, and exactly those when no push overlaps a pop.
-/

namespace PolicyRuntime.SensorEventQueue

variable {n : ℕ} {β α : Type} {layout : Representation (StoredEvent α) n β}
  {capacity : ℕ} {pushes : List α} {positions : List ℕ}
  {queue next : SensorEventQueue n β α}

/-! ## Histories -/

def called? : QueueOutput α → Option α
  | .called value => some value
  | _ => none

def popped? : QueueOutput α → Option α
  | .popped result => result
  | _ => none

/-- The arguments of the pushes. -/
def pushed (outputs : List (QueueOutput α)) : List α :=
  outputs.filterMap called?

/-- The values which pops returned. -/
def popped (outputs : List (QueueOutput α)) : List α :=
  outputs.filterMap popped?

theorem pushed_append (outputs : List (QueueOutput α))
    (output : QueueOutput α) :
    pushed (outputs ++ [output]) =
      pushed outputs ++ (called? output).toList := by
  unfold pushed
  rw [List.filterMap_append, filterMap_cons_toList, List.filterMap_nil,
    List.append_nil]

theorem popped_append (outputs : List (QueueOutput α))
    (output : QueueOutput α) :
    popped (outputs ++ [output]) =
      popped outputs ++ (popped? output).toList := by
  unfold popped
  rw [List.filterMap_append, filterMap_cons_toList, List.filterMap_nil,
    List.append_nil]

/-- No counter has come around in a step. -/
def Unwrapped (capacity : ℕ) (queue next : SensorEventQueue n β α) : Prop :=
  queue.published ≤ next.published ∧ queue.dropped ≤ next.dropped ∧
    ∀ index < capacity, (next.slots index).version < 2 ^ 64

instance (capacity : ℕ) (queue next : SensorEventQueue n β α) :
    Decidable (Unwrapped capacity queue next) :=
  inferInstanceAs (Decidable (_ ∧ _ ∧ _))

/-! ## Lost events -/

/-- The number of events about which the producer has decided. -/
def decided (queue : SensorEventQueue n β α) : ℕ :=
  match queue.producer with
  | .counted _ _ => queue.published + 1
  | .storing _ _ => queue.published + 1
  | _ => queue.published

/-- The events which a pop went over, and those which the next one will. -/
def lost (capacity : ℕ) (positions : List ℕ)
    (queue : SensorEventQueue n β α) : ℕ :=
  (queue.consumed - positions.length) +
    (queue.decided - queue.consumed - capacity)

/-- A push which no pop overlaps has read the index of the consumer as it is. -/
def PushTight (consumed : ℕ) : PushPhase α → Prop
  | .compared _ _ index => index = consumed
  | _ => True

/-- A pop which no push overlaps has chosen the oldest event of the ring. -/
def PopTight (capacity published consumed : ℕ) : PopPhase α → Prop
  | .seen seen => seen = published
  | .loading chosen => chosen = max consumed (published - capacity)
  | .taking chosen _ => chosen = max consumed (published - capacity)
  | _ => True

/-- No push overlaps a pop here. -/
def Alone (queue : SensorEventQueue n β α) : Prop :=
  queue.producer = .idle ∨ queue.consumer = .idle

structure Accounts (alone : Prop) (capacity : ℕ) (positions : List ℕ)
    (queue : SensorEventQueue n β α) : Prop where
  length_le : positions.length ≤ queue.consumed
  dropped_lt : queue.dropped < 2 ^ 64
  lost_le : lost capacity positions queue ≤ queue.dropped
  exact : alone → lost capacity positions queue = queue.dropped
  push : alone → PushTight queue.consumed queue.producer
  pop : alone → PopTight capacity queue.published queue.consumed
    queue.consumer

variable {alone : Prop}

/-- Most steps leave the numbers alone. -/
theorem Accounts.of_same (h : Accounts alone capacity positions queue)
    (hconsumed : next.consumed = queue.consumed)
    (hdecided : next.decided = queue.decided)
    (hdropped : next.dropped = queue.dropped)
    (hpush : alone → PushTight next.consumed next.producer)
    (hpop : alone → PopTight capacity next.published next.consumed
      next.consumer) : Accounts alone capacity positions next := by
  have hlost : lost capacity positions next =
      lost capacity positions queue := by
    unfold lost
    rw [hconsumed, hdecided]
  refine ⟨?_, ?_, ?_, ?_, hpush, hpop⟩
  · rw [hconsumed]
    exact h.length_le
  · rw [hdropped]
    exact h.dropped_lt
  · rw [hlost, hdropped]
    exact h.lost_le
  · intro halone
    rw [hlost, hdropped]
    exact h.exact halone

theorem Accounts.imp {alone' : Prop}
    (h : Accounts alone capacity positions queue) (himp : alone' → alone) :
    Accounts alone' capacity positions queue where
  length_le := h.length_le
  dropped_lt := h.dropped_lt
  lost_le := h.lost_le
  exact := fun halone => h.exact (himp halone)
  push := fun halone => h.push (himp halone)
  pop := fun halone => h.pop (himp halone)

theorem Accounts.of_producer (h : Accounts alone capacity positions queue)
    {phase : PushPhase α}
    (hdecided : (queue.setProducer phase).decided = queue.decided)
    (hpush : alone → PushTight queue.consumed phase) :
    Accounts alone capacity positions (queue.setProducer phase) :=
  h.of_same rfl hdecided rfl hpush h.pop

theorem Accounts.of_consumer (h : Accounts alone capacity positions queue)
    {phase : PopPhase α}
    (hpop : alone →
      PopTight capacity queue.published queue.consumed phase) :
    Accounts alone capacity positions (queue.setConsumer phase) :=
  h.of_same rfl rfl rfl h.push hpop

theorem expected_eq (capacity published consumed : ℕ) :
    expected capacity published consumed =
      max consumed (published - capacity) := by
  unfold expected
  dsimp only
  split_ifs <;> omega

/-- The producer decides about its event. -/
theorem Accounts.compare (h : Accounts alone capacity positions queue)
    {value : α} {index : ℕ}
    (hphase : queue.producer = .compared value queue.published index)
    (hindex : index ≤ queue.consumed)
    (hconsumed : queue.consumed ≤ queue.published)
    (hbound : queue.published < 2 ^ 64)
    (hcount : queue.dropped ≤ (queue.advancePush layout capacity).1.dropped) :
    Accounts alone capacity positions
      (queue.advancePush layout capacity).1 := by
  have hlost := h.lost_le
  have hexact := h.exact
  have hpush := h.push
  have hdropped := h.dropped_lt
  unfold lost decided at hlost hexact
  rw [hphase] at hlost hexact hpush
  dsimp only at hlost hexact
  unfold advancePush at hcount ⊢
  rw [hphase] at hcount ⊢
  dsimp only at hcount ⊢
  have hwindow : (queue.published + 2 ^ 64 - index) % 2 ^ 64 =
      queue.published - index := by omega
  rw [hwindow] at hcount ⊢
  by_cases hfull : capacity ≤ queue.published - index
  · rw [if_pos hfull] at hcount ⊢
    dsimp only at hcount
    have hnext : (queue.dropped + 1) % 2 ^ 64 = queue.dropped + 1 := by omega
    refine ⟨h.length_le, Nat.mod_lt _ (Nat.two_pow_pos 64), ?_, ?_,
      fun _ => trivial, h.pop⟩
    · unfold lost decided
      dsimp only
      omega
    · intro halone
      have heq := hexact halone
      have htight : index = queue.consumed := hpush halone
      unfold lost decided
      dsimp only
      omega
  · rw [if_neg hfull]
    refine ⟨h.length_le, h.dropped_lt, ?_, ?_, fun _ => trivial, h.pop⟩
    · unfold lost decided setProducer
      dsimp only
      omega
    · intro halone
      have heq := hexact halone
      unfold lost decided setProducer
      dsimp only
      omega

/-- An event is popped. -/
theorem Accounts.take (h : Accounts alone capacity positions queue)
    {chosen : ℕ} {value : α}
    (hphase : queue.consumer = .taking chosen value)
    (hchosen : Chosen capacity queue.published queue.consumed chosen)
    (hbound : queue.published < 2 ^ 64)
    (halone : alone → Alone queue) :
    Accounts alone capacity (positions ++ [chosen])
      { queue with
        consumed := (chosen + 1) % 2 ^ 64
        consumer := .idle } := by
  obtain ⟨hle, hlt, hjump⟩ := hchosen
  have hnext : (chosen + 1) % 2 ^ 64 = chosen + 1 := by omega
  have hlength := h.length_le
  have hlost := h.lost_le
  have hdecided : queue.published ≤ queue.decided := by
    unfold decided
    split <;> omega
  have hsame : decided
      { queue with consumed := chosen + 1, consumer := .idle } =
        queue.decided := rfl
  have hidle : alone → queue.producer = .idle := by
    intro h
    cases halone h with
    | inl hidle => exact hidle
    | inr hidle =>
        rw [hphase] at hidle
        cases hidle
  unfold lost at hlost
  rw [hnext]
  refine ⟨?_, h.dropped_lt, ?_, ?_, ?_, fun _ => trivial⟩
  · rw [List.length_append]
    exact Nat.succ_le_succ (hlength.trans hle)
  · unfold lost
    rw [hsame, List.length_append, List.length_singleton]
    dsimp only
    omega
  · intro hal
    have heq := h.exact hal
    have htight := h.pop hal
    rw [hphase] at htight
    have hmax : chosen = max queue.consumed (queue.published - capacity) :=
      htight
    have hpublished : queue.decided = queue.published := by
      unfold decided
      rw [hidle hal]
    unfold lost at heq ⊢
    rw [hsame, List.length_append, List.length_singleton]
    dsimp only
    omega
  · intro hal
    show PushTight (chosen + 1) queue.producer
    rw [hidle hal]
    trivial

/-! ## Runs -/

/-- The state which a history leaves. -/
structure Consistent (layout : Representation (StoredEvent α) n β)
    (capacity : ℕ) (alone : Prop) (outputs : List (QueueOutput α))
    (positions : List ℕ) (queue : SensorEventQueue n β α) : Prop where
  sound : Sound layout capacity (pushed outputs) positions queue
  accounts : Accounts alone capacity positions queue
  values : List.Forall₂
    (fun position value => (pushed outputs)[position]? = some value)
    positions (popped outputs)

variable {outputs : List (QueueOutput α)} {output : QueueOutput α}

/-- The steps which neither begin a push nor pop an event. -/
theorem Consistent.of_quiet
    (h : Consistent layout capacity alone outputs positions queue)
    (hcalled : called? output = none) (hpopped : popped? output = none)
    (hsound : Sound layout capacity (pushed outputs) positions next)
    (haccounts : Accounts alone capacity positions next) :
    Consistent layout capacity alone (outputs ++ [output]) positions next := by
  have hpushed : pushed (outputs ++ [output]) = pushed outputs := by
    rw [pushed_append, hcalled]
    exact List.append_nil _
  have hsame : popped (outputs ++ [output]) = popped outputs := by
    rw [popped_append, hpopped]
    exact List.append_nil _
  refine ⟨?_, haccounts, ?_⟩
  · rw [hpushed]
    exact hsound
  · rw [hpushed, hsame]
    exact h.values

theorem Consistent.quiet
    (h : Consistent layout capacity alone outputs positions queue) :
    Consistent layout capacity alone (outputs ++ [.quiet]) positions queue :=
  h.of_quiet rfl rfl h.sound h.accounts

theorem Consistent.push
    (h : Consistent layout capacity alone outputs positions queue)
    (hidle : queue.producer = .idle) (value : α) :
    Consistent layout capacity alone (outputs ++ [.called value]) positions
      (queue.setProducer (.called value)) where
  sound := by
    rw [pushed_append]
    exact h.sound.push hidle value
  accounts := by
    apply h.accounts.of_producer
    · unfold decided
      rw [hidle]
      rfl
    · intro _
      trivial
  values := by
    rw [popped_append, pushed_append]
    show List.Forall₂ _ positions (popped outputs ++ [])
    rw [List.append_nil]
    exact h.values.imp fun _ _ hvalue =>
      getElem?_of_isPrefix (List.prefix_append _ _) hvalue

/-- The steps of a push which only look. -/
theorem Consistent.of_producer
    (h : Consistent layout capacity alone outputs positions queue)
    {phase : PushPhase α}
    (hphase : PushOk (pushed outputs) queue.published queue.consumed phase)
    (hbegun : (queue.setProducer phase).begun = queue.begun)
    (hdecided : (queue.setProducer phase).decided = queue.decided)
    (hpush : alone → PushTight queue.consumed phase) :
    Consistent layout capacity alone (outputs ++ [.quiet]) positions
      (queue.setProducer phase) :=
  h.of_quiet rfl rfl (h.sound.of_producer queue.dropped hphase hbegun)
    (h.accounts.of_producer hdecided hpush)

/-- A step of the producer. -/
theorem Consistent.advance (hcapacity : 0 < capacity)
    (h : Consistent layout capacity alone outputs positions queue)
    (hkept : Unwrapped capacity queue (queue.advancePush layout capacity).1)
    (halone : alone → Alone queue) :
    Consistent layout capacity alone
      (outputs ++ [(queue.advancePush layout capacity).2]) positions
      (queue.advancePush layout capacity).1 := by
  have hproducer := h.sound.producer
  cases hphase : queue.producer with
  | idle =>
      unfold advancePush
      rw [hphase]
      exact h.quiet
  | called value =>
      rw [hphase] at hproducer
      unfold advancePush
      rw [hphase]
      dsimp only
      apply h.of_producer
      · exact ⟨hproducer, rfl⟩
      · unfold begun
        rw [hphase]
        rfl
      · unfold decided
        rw [hphase]
        rfl
      · intro _
        trivial
  | seen value seen =>
      rw [hphase] at hproducer
      unfold advancePush
      rw [hphase]
      dsimp only
      apply h.of_producer
      · exact ⟨hproducer.1, hproducer.2, le_refl _⟩
      · unfold begun
        rw [hphase]
        rfl
      · unfold decided
        rw [hphase]
        rfl
      · intro _
        rfl
  | compared value seen index =>
      rw [hphase] at hproducer
      obtain ⟨hpushing, rfl, hindex⟩ := hproducer
      have haccounts := h.accounts.compare hphase hindex
        h.sound.consumed_le h.sound.published_lt hkept.2.1
      have hbegun : (queue.setProducer
          (.counted value queue.published)).begun = queue.begun := by
        unfold begun
        rw [hphase]
        rfl
      have hquiet : (queue.advancePush layout capacity).2 = .quiet := by
        unfold advancePush
        rw [hphase]
        dsimp only
        split_ifs <;> rfl
      rw [hquiet]
      apply h.of_quiet rfl rfl ?_ haccounts
      unfold advancePush
      rw [hphase]
      dsimp only
      split_ifs
      · exact h.sound.of_producer _ ⟨hpushing, rfl⟩ hbegun
      · exact h.sound.of_producer _ ⟨hpushing, rfl⟩ hbegun
  | counted value seen =>
      have hsound := h.sound.beginEvent hcapacity hphase hkept.2.2
      unfold advancePush at hsound ⊢
      rw [hphase] at hsound ⊢
      apply h.of_quiet rfl rfl hsound
      refine h.accounts.of_same rfl ?_ rfl (fun _ => trivial) h.accounts.pop
      unfold decided
      rw [hphase]
      rfl
  | storing value seen =>
      cases hstore : (queue.slots (seen % capacity)).store with
      | some stored =>
          have hstep : queue.advancePush layout capacity =
              (queue.setSlot (seen % capacity)
                (queue.slots (seen % capacity)).advanceStore, .quiet) := by
            unfold advancePush
            rw [hphase]
            dsimp only
            rw [hstore]
          rw [hstep] at hkept ⊢
          exact h.of_quiet rfl rfl (h.sound.storeEvent hphase hkept.2.2)
            (h.accounts.of_same rfl rfl rfl h.accounts.push h.accounts.pop)
      | none =>
          have hstep : queue.advancePush layout capacity =
              ({ queue with
                  published := (seen + 1) % 2 ^ 64
                  producer := .idle }, .pushed) := by
            unfold advancePush
            rw [hphase]
            dsimp only
            rw [hstore]
          rw [hstep] at hkept ⊢
          have hroom : queue.published ≤ (seen + 1) % 2 ^ 64 := hkept.1
          have hbound := h.sound.published_lt
          rw [hphase] at hproducer
          have hseen : seen = queue.published := hproducer.2
          apply h.of_quiet rfl rfl (h.sound.endEvent hphase hstore hroom)
          refine h.accounts.of_same rfl ?_ rfl (fun _ => trivial) ?_
          · unfold decided
            rw [hphase]
            dsimp only
            omega
          · intro hal
            cases halone hal with
            | inl hidle =>
                rw [hphase] at hidle
                cases hidle
            | inr hidle =>
                show PopTight _ _ _ queue.consumer
                rw [hidle]
                trivial

/-- The steps of a pop which leave the slots alone. -/
theorem Consistent.of_consumer
    (h : Consistent layout capacity alone outputs positions queue)
    {phase : PopPhase α} (hcalled : called? output = none)
    (hpopped : popped? output = none)
    (hold : ∀ chosen, queue.consumer ≠ .loading chosen)
    (hphase : PopOk capacity (pushed outputs) queue.published queue.consumed
      phase)
    (hpop : alone → PopTight capacity queue.published queue.consumed phase) :
    Consistent layout capacity alone (outputs ++ [output]) positions
      (queue.setConsumer phase) :=
  h.of_quiet hcalled hpopped (h.sound.of_consumer hphase hold)
    (h.accounts.of_consumer hpop)

theorem Consistent.take
    (h : Consistent layout capacity alone outputs positions queue)
    {chosen : ℕ} {value : α}
    (hphase : queue.consumer = .taking chosen value)
    (halone : alone → Alone queue) :
    Consistent layout capacity alone (outputs ++ [.popped (some value)])
      (positions ++ [chosen])
      { queue with
        consumed := (chosen + 1) % 2 ^ 64
        consumer := .idle } := by
  have hconsumer := h.sound.consumer
  rw [hphase] at hconsumer
  have hpushed :
      pushed (outputs ++ [.popped (some value)]) = pushed outputs := by
    rw [pushed_append]
    exact List.append_nil _
  refine ⟨?_, ?_, ?_⟩
  · rw [hpushed]
    exact h.sound.takeEvent hphase
  · exact h.accounts.take hphase hconsumer.1 h.sound.published_lt halone
  · rw [hpushed, popped_append]
    exact List.rel_append h.values
      (List.Forall₂.cons hconsumer.2 List.Forall₂.nil)

variable [Inhabited β]

/-- A step of the load of an event. -/
theorem Consistent.load (hcapacity : 0 < capacity)
    (h : Consistent layout capacity alone outputs positions queue)
    {chosen : ℕ} (hphase : queue.consumer = .loading chosen) :
    Consistent layout capacity alone
      (outputs ++ [(queue.advancePop layout capacity).2]) positions
      (queue.advancePop layout capacity).1 := by
  have hconsumer := h.sound.consumer
  have htight := h.accounts.pop
  rw [hphase] at hconsumer htight
  have haccounts : ∀ slot, ∀ phase : PopPhase α,
      (alone → PopTight capacity queue.published queue.consumed phase) →
      Accounts alone capacity positions
        ((queue.setSlot (chosen % capacity) slot).setConsumer phase) := by
    intro slot phase hpop
    exact h.accounts.of_same rfl rfl rfl h.accounts.push hpop
  unfold advancePop
  rw [hphase]
  dsimp only
  cases hresult :
      ((queue.slots (chosen % capacity)).advanceLoad 64 16).2 with
  | running =>
      have hkept := h.sound.loadEvent hphase hconsumer (Or.inl rfl)
      have hsame : (queue.setSlot (chosen % capacity)
          ((queue.slots (chosen % capacity)).advanceLoad 64 16).1).setConsumer
            (.loading chosen) = queue.setSlot (chosen % capacity)
              ((queue.slots (chosen % capacity)).advanceLoad 64 16).1 := by
        unfold setConsumer setSlot
        rw [hphase]
      rw [hsame] at hkept
      exact h.of_quiet rfl rfl hkept (hsame ▸ haccounts _ _ htight)
  | empty =>
      have hover : ((queue.slots (chosen % capacity)).advanceLoad 64 16).2 ≠
          .running := by
        rw [hresult]
        intro hrunning
        cases hrunning
      apply h.of_quiet rfl rfl
      · exact h.sound.loadEvent hphase trivial (Or.inr hover)
      · exact haccounts _ _ fun _ => trivial
  | loaded bytes =>
      have hover : ((queue.slots (chosen % capacity)).advanceLoad 64 16).2 ≠
          .running := by
        rw [hresult]
        intro hrunning
        cases hrunning
      dsimp only
      by_cases hticket :
          (layout.value bytes).ticket ≠ (chosen + 1) % 2 ^ 64
      · rw [if_pos hticket]
        apply h.of_quiet rfl rfl
        · exact h.sound.loadEvent hphase trivial (Or.inr hover)
        · exact haccounts _ _ fun _ => trivial
      · rw [if_neg hticket]
        push Not at hticket
        apply h.of_quiet rfl rfl
        · apply h.sound.loadEvent hphase ?_ (Or.inr hover)
          exact ⟨hconsumer,
            h.sound.loaded_value hcapacity hconsumer.2.1 hresult hticket⟩
        · exact haccounts _ _ htight

/-- A step of the consumer. -/
theorem Consistent.advancePop (hcapacity : 0 < capacity)
    (h : Consistent layout capacity alone outputs positions queue)
    (halone : alone → Alone queue) :
    ∃ positions', Consistent layout capacity alone
      (outputs ++ [(queue.advancePop layout capacity).2]) positions'
      (queue.advancePop layout capacity).1 := by
  cases hphase : queue.consumer with
  | idle =>
      unfold SensorEventQueue.advancePop
      rw [hphase]
      exact ⟨positions, h.quiet⟩
  | called =>
      unfold SensorEventQueue.advancePop
      rw [hphase]
      refine ⟨positions, h.of_consumer rfl rfl ?_ (le_refl _) fun _ => rfl⟩
      intro chosen hloading
      rw [hphase] at hloading
      cases hloading
  | seen seen =>
      have hconsumer := h.sound.consumer
      have htight := h.accounts.pop
      rw [hphase] at hconsumer htight
      have hold : ∀ chosen, queue.consumer ≠ .loading chosen := by
        intro chosen hloading
        rw [hphase] at hloading
        cases hloading
      unfold SensorEventQueue.advancePop
      rw [hphase]
      dsimp only
      by_cases hempty : seen ≤ queue.consumed
      · rw [if_pos hempty]
        exact ⟨positions, h.of_consumer rfl rfl hold trivial fun _ => trivial⟩
      · rw [if_neg hempty]
        refine ⟨positions, h.of_consumer rfl rfl hold ?_ ?_⟩
        · exact chosen_expected hconsumer (by omega) hcapacity
        · intro hal
          have hseen : seen = queue.published := htight hal
          rw [hseen]
          exact expected_eq capacity queue.published queue.consumed
  | loading chosen => exact ⟨positions, h.load hcapacity hphase⟩
  | taking chosen value =>
      have hstep : queue.advancePop layout capacity =
          ({ queue with
              consumed := (chosen + 1) % 2 ^ 64
              consumer := .idle }, .popped (some value)) := by
        unfold SensorEventQueue.advancePop
        rw [hphase]
      rw [hstep]
      exact ⟨positions ++ [chosen], h.take hphase halone⟩

theorem Consistent.step (hcapacity : 0 < capacity)
    (h : Consistent layout capacity alone outputs positions queue)
    (input : QueueInput α)
    (hkept : Unwrapped capacity queue (queue.step layout capacity input).1)
    (halone : alone → Alone queue) :
    ∃ positions', Consistent layout capacity alone
      (outputs ++ [(queue.step layout capacity input).2]) positions'
      (queue.step layout capacity input).1 := by
  cases input with
  | push value =>
      unfold SensorEventQueue.step
      dsimp only
      cases hphase : queue.producer with
      | idle => exact ⟨positions, h.push hphase value⟩
      | _ => exact ⟨positions, h.quiet⟩
  | advance => exact ⟨positions, h.advance hcapacity hkept halone⟩
  | pop =>
      unfold SensorEventQueue.step
      dsimp only
      cases hphase : queue.consumer with
      | idle =>
          refine ⟨positions,
            h.of_consumer rfl rfl ?_ trivial fun _ => trivial⟩
          intro chosen hloading
          rw [hphase] at hloading
          cases hloading
      | _ => exact ⟨positions, h.quiet⟩
  | take => exact h.advancePop hcapacity halone

end PolicyRuntime.SensorEventQueue
