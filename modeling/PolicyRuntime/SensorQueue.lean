import PolicyRuntime.Machine
import PolicyRuntime.SeqLock
import PolicyRuntime.Sequences

/-!
# The sensor event queue

One producer writes events around a ring of versioned cells and never waits.
One consumer follows it: when the ring has gone over events which it has not
taken, it goes on with the oldest event which may still be there, and a ticket
in the cell tells whether the event is the expected one.

The producer counts an event as dropped from the consumer's index as it was
when the push looked at it.
-/

namespace PolicyRuntime

/-- What `memcpy` makes of a trivially copyable type. -/
structure Representation (α : Type) (n : ℕ) (β : Type) where
  bytes : α → Fin n → β
  value : (Fin n → β) → α
  value_bytes : ∀ a, value (bytes a) = a

structure StoredEvent (α : Type) where
  ticket : ℕ
  value : α

/-- Where the producer stands in `push_realtime`. -/
inductive PushPhase (α : Type)
  | idle
  | called (value : α)
  | seen (value : α) (published : ℕ)
  | compared (value : α) (published consumed : ℕ)
  | counted (value : α) (published : ℕ)
  | storing (value : α) (published : ℕ)

/-- Where the consumer stands in `pop`. -/
inductive PopPhase (α : Type)
  | idle
  | called
  | seen (published : ℕ)
  | loading (consumed : ℕ)
  | taking (consumed : ℕ) (value : α)

/-- The slots are those below the capacity. -/
structure SensorEventQueue (n : ℕ) (β α : Type) where
  slots : ℕ → SeqLock n β
  published : ℕ
  consumed : ℕ
  dropped : ℕ
  producer : PushPhase α
  consumer : PopPhase α

inductive QueueInput (α : Type)
  | push (value : α)
  | advance
  | pop
  | take

inductive QueueOutput (α : Type)
  | quiet
  | called (value : α)
  | pushed
  | opened
  | popped (result : Option α)

namespace SensorEventQueue

variable {n : ℕ} {β α : Type}

def constructed [Inhabited β] : SensorEventQueue n β α where
  slots := fun _ => SeqLock.constructed
  published := 0
  consumed := 0
  dropped := 0
  producer := .idle
  consumer := .idle

def setSlot (queue : SensorEventQueue n β α) (index : ℕ)
    (slot : SeqLock n β) : SensorEventQueue n β α :=
  { queue with slots := Function.update queue.slots index slot }

def setProducer (queue : SensorEventQueue n β α) (phase : PushPhase α) :
    SensorEventQueue n β α :=
  { queue with producer := phase }

def setConsumer (queue : SensorEventQueue n β α) (phase : PopPhase α) :
    SensorEventQueue n β α :=
  { queue with consumer := phase }

section Steps

variable (layout : Representation (StoredEvent α) n β) (capacity : ℕ)

/-- The next step of `push_realtime`. -/
def advancePush (queue : SensorEventQueue n β α) :
    SensorEventQueue n β α × QueueOutput α :=
  match queue.producer with
  | .idle => (queue, .quiet)
  | .called value => (queue.setProducer (.seen value queue.published), .quiet)
  | .seen value published =>
      (queue.setProducer (.compared value published queue.consumed), .quiet)
  | .compared value published consumed =>
      if capacity ≤ (published + 2 ^ 64 - consumed) % 2 ^ 64 then
        ({ queue with
            dropped := (queue.dropped + 1) % 2 ^ 64
            producer := .counted value published }, .quiet)
      else
        (queue.setProducer (.counted value published), .quiet)
  | .counted value published =>
      let index := published % capacity
      let event := ⟨(published + 1) % 2 ^ 64, value⟩
      ((queue.setSlot index
        ((queue.slots index).beginStore (layout.bytes event))).setProducer
          (.storing value published), .quiet)
  | .storing _ published =>
      let index := published % capacity
      match (queue.slots index).store with
      | some _ =>
          (queue.setSlot index (queue.slots index).advanceStore, .quiet)
      | none =>
          ({ queue with
              published := (published + 1) % 2 ^ 64
              producer := .idle }, .pushed)

variable [Inhabited β]

/-- The event which `pop` expects: the next one, or the oldest which the ring
may still hold. -/
def expected (published consumed : ℕ) : ℕ :=
  let oldest := if capacity < published then published - capacity else 0
  if consumed < oldest then oldest else consumed

/-- The next step of `pop`. -/
def advancePop (queue : SensorEventQueue n β α) :
    SensorEventQueue n β α × QueueOutput α :=
  match queue.consumer with
  | .idle => (queue, .quiet)
  | .called => (queue.setConsumer (.seen queue.published), .quiet)
  | .seen published =>
      if published ≤ queue.consumed then
        (queue.setConsumer .idle, .popped none)
      else
        (queue.setConsumer
          (.loading (expected capacity published queue.consumed)), .quiet)
  | .loading consumed =>
      let index := consumed % capacity
      let result := (queue.slots index).advanceLoad 64 16
      let loaded := queue.setSlot index result.1
      match result.2 with
      | .running => (loaded, .quiet)
      | .empty => (loaded.setConsumer .idle, .popped none)
      | .loaded bytes =>
          let event := layout.value bytes
          if event.ticket ≠ (consumed + 1) % 2 ^ 64 then
            (loaded.setConsumer .idle, .popped none)
          else
            (loaded.setConsumer (.taking consumed event.value), .quiet)
  | .taking consumed value =>
      ({ queue with
          consumed := (consumed + 1) % 2 ^ 64
          consumer := .idle }, .popped (some value))

def step (queue : SensorEventQueue n β α) (input : QueueInput α) :
    SensorEventQueue n β α × QueueOutput α :=
  match input with
  | .push value =>
      match queue.producer with
      | .idle => (queue.setProducer (.called value), .called value)
      | _ => (queue, .quiet)
  | .advance => queue.advancePush layout capacity
  | .pop =>
      match queue.consumer with
      | .idle => (queue.setConsumer .called, .opened)
      | _ => (queue, .quiet)
  | .take => queue.advancePop layout capacity

def machine : Machine (SensorEventQueue n β α) (QueueInput α)
    (QueueOutput α) where
  step := step layout capacity

end Steps

@[simp] theorem setSlot_self (queue : SensorEventQueue n β α) (index : ℕ)
    (slot : SeqLock n β) : (queue.setSlot index slot).slots index = slot :=
  Function.update_self ..

theorem setSlot_of_ne (queue : SensorEventQueue n β α) {index other : ℕ}
    (slot : SeqLock n β) (hother : other ≠ index) :
    (queue.setSlot index slot).slots other = queue.slots other :=
  Function.update_of_ne hother ..

/-! ## Invariants

Events are numbered from zero in the order of the pushes. -/

/-- The value of a push which has not ended. -/
def Pushing (pushes : List α) (published : ℕ) (value : α) : Prop :=
  pushes.length = published + 1 ∧ pushes[published]? = some value

def PushOk (pushes : List α) (published consumed : ℕ) : PushPhase α → Prop
  | .idle => pushes.length = published
  | .called value => Pushing pushes published value
  | .seen value seen => Pushing pushes published value ∧ seen = published
  | .compared value seen index =>
      Pushing pushes published value ∧ seen = published ∧ index ≤ consumed
  | .counted value seen => Pushing pushes published value ∧ seen = published
  | .storing value seen => Pushing pushes published value ∧ seen = published

/-- The event which `pop` has chosen.  It is the next one, or the ring has gone
over those before it. -/
def Chosen (capacity published consumed next : ℕ) : Prop :=
  consumed ≤ next ∧ next < published ∧
    (next = consumed ∨ next + capacity ≤ published)

def PopOk (capacity : ℕ) (pushes : List α) (published consumed : ℕ) :
    PopPhase α → Prop
  | .idle => True
  | .called => True
  | .seen seen => seen ≤ published
  | .loading next => Chosen capacity published consumed next
  | .taking next value =>
      Chosen capacity published consumed next ∧ pushes[next]? = some value

/-- The number of events whose store has begun. -/
def begun (queue : SensorEventQueue n β α) : ℕ :=
  match queue.producer with
  | .storing _ _ => queue.published + 1
  | _ => queue.published

/-- The number behind the last event which was popped. -/
def lastPopped (positions : List ℕ) : ℕ :=
  (positions.getLast?.map (· + 1)).getD 0

section Sound

variable (layout : Representation (StoredEvent α) n β) (capacity : ℕ)

/-- The last event of a slot. -/
def LastEvent (pushes : List α) (stores index : ℕ) (bytes : Fin n → β) :
    Prop :=
  ∃ position value, position < stores ∧ stores ≤ position + capacity ∧
    position % capacity = index ∧ pushes[position]? = some value ∧
    bytes = layout.bytes ⟨(position + 1) % 2 ^ 64, value⟩

/-- The state after the pushes of `pushes`, with the events at `positions`
popped. -/
structure Sound (pushes : List α) (positions : List ℕ)
    (queue : SensorEventQueue n β α) : Prop where
  producer : PushOk pushes queue.published queue.consumed queue.producer
  consumer : PopOk capacity pushes queue.published queue.consumed
    queue.consumer
  slots : ∀ index, (queue.slots index).Sound
    (LastEvent layout capacity pushes queue.begun index)
  storing : ∀ index, (queue.slots index).store ≠ none →
    index = queue.published % capacity ∧ queue.begun = queue.published + 1
  loading : ∀ index, (queue.slots index).load ≠ .attempt 0 →
    ∃ next, queue.consumer = .loading next ∧ index = next % capacity
  written : ∀ position < queue.begun,
    0 < (queue.slots (position % capacity)).version
  versions : ∀ index < capacity, (queue.slots index).version < 2 ^ 64
  consumed_le : queue.consumed ≤ queue.published
  published_lt : queue.published < 2 ^ 64
  ordered : positions.Pairwise (· < ·)
  popped : ∀ position ∈ positions, position < queue.consumed
  last : lastPopped positions = queue.consumed

end Sound

variable {layout : Representation (StoredEvent α) n β} {capacity : ℕ}
  {pushes : List α} {positions : List ℕ} {queue : SensorEventQueue n β α}

theorem sound_constructed [Inhabited β] :
    Sound layout capacity [] []
      (constructed : SensorEventQueue n β α) where
  producer := rfl
  consumer := trivial
  slots := fun _ => SeqLock.sound_constructed
  storing := fun _ h => absurd rfl h
  loading := fun _ h => absurd rfl h
  written := fun _ h => absurd h (Nat.not_lt_zero _)
  versions := fun _ _ => Nat.two_pow_pos 64
  consumed_le := le_refl 0
  published_lt := Nat.two_pow_pos 64
  ordered := List.Pairwise.nil
  popped := fun _ h => absurd h List.not_mem_nil
  last := rfl

theorem PopOk.mono {published consumed : ℕ} {phase : PopPhase α}
    (h : PopOk capacity pushes published consumed phase) {later : List α}
    (hlater : pushes <+: later) :
    PopOk capacity later published consumed phase := by
  cases phase with
  | taking next value => exact ⟨h.1, getElem?_of_isPrefix hlater h.2⟩
  | _ => exact h

/-! ### The producer -/

theorem LastEvent.mono {stores index : ℕ} {bytes : Fin n → β}
    (h : LastEvent layout capacity pushes stores index bytes)
    {later : List α} (hlater : pushes <+: later) :
    LastEvent layout capacity later stores index bytes := by
  obtain ⟨position, value, hlt, hle, hindex, hvalue, hbytes⟩ := h
  exact ⟨position, value, hlt, hle, hindex,
    getElem?_of_isPrefix hlater hvalue, hbytes⟩

/-- The other slots keep their last event. -/
theorem LastEvent.next {stores index : ℕ} {bytes : Fin n → β}
    (h : LastEvent layout capacity pushes stores index bytes)
    (hindex : index ≠ stores % capacity) :
    LastEvent layout capacity pushes (stores + 1) index bytes := by
  obtain ⟨position, value, hlt, hle, hposition, hrest⟩ := h
  refine ⟨position, value, by omega, ?_, hposition, hrest⟩
  by_contra hover
  have hwhole : stores = position + capacity := by omega
  rw [hwhole, Nat.add_mod_right] at hindex
  exact hindex hposition.symm

theorem Sound.push (h : Sound layout capacity pushes positions queue)
    (hidle : queue.producer = .idle) (value : α) :
    Sound layout capacity (pushes ++ [value]) positions
      (queue.setProducer (.called value)) := by
  have hproducer := h.producer
  rw [hidle] at hproducer
  have hlength : pushes.length = queue.published := hproducer
  have hbegun : (queue.setProducer (.called value)).begun = queue.begun := by
    unfold begun
    rw [hidle]
    rfl
  have hlater : pushes <+: pushes ++ [value] := List.prefix_append _ _
  refine ⟨⟨?_, ?_⟩, h.consumer.mono hlater, ?_, ?_, h.loading, ?_,
    h.versions, h.consumed_le, h.published_lt, h.ordered, h.popped, h.last⟩
  · rw [List.length_append, hlength]
    rfl
  · show (pushes ++ [value])[queue.published]? = some value
    rw [← hlength]
    exact List.getElem?_concat_length
  · rw [hbegun]
    intro index
    exact (h.slots index).mono fun _ hlast => hlast.mono hlater
  · rw [hbegun]
    exact h.storing
  · rw [hbegun]
    exact h.written

/-- The steps of a push which leave the slots alone. -/
theorem Sound.of_producer (h : Sound layout capacity pushes positions queue)
    {phase : PushPhase α} (count : ℕ)
    (hphase : PushOk pushes queue.published queue.consumed phase)
    (hbegun : (queue.setProducer phase).begun = queue.begun) :
    Sound layout capacity pushes positions
      { queue with dropped := count, producer := phase } where
  producer := hphase
  consumer := h.consumer
  slots := by
    intro index
    exact (show begun { queue with dropped := count, producer := phase } =
      queue.begun from hbegun) ▸ h.slots index
  storing := by
    intro index hstore
    exact (show begun { queue with dropped := count, producer := phase } =
      queue.begun from hbegun) ▸ h.storing index hstore
  loading := h.loading
  written := by
    intro position hposition
    exact h.written position (hbegun ▸ hposition)
  versions := h.versions
  consumed_le := h.consumed_le
  published_lt := h.published_lt
  ordered := h.ordered
  popped := h.popped
  last := h.last

/-- The store of an event begins. -/
theorem Sound.beginEvent (h : Sound layout capacity pushes positions queue)
    (hcapacity : 0 < capacity) {value : α} {seen : ℕ}
    (hphase : queue.producer = .counted value seen)
    (hversions : ∀ index < capacity,
      ((queue.advancePush layout capacity).1.slots index).version <
        2 ^ 64) :
    Sound layout capacity pushes positions
      (queue.advancePush layout capacity).1 := by
  have hproducer := h.producer
  rw [hphase] at hproducer
  obtain ⟨⟨hlength, hvalue⟩, rfl⟩ := hproducer
  have hbegun : queue.begun = queue.published := by
    unfold begun
    rw [hphase]
  have hfree : ∀ index, (queue.slots index).store = none := by
    intro index
    by_contra hstore
    have hcount := (h.storing index hstore).2
    omega
  unfold advancePush at hversions ⊢
  rw [hphase] at hversions ⊢
  dsimp only at hversions ⊢
  refine ⟨⟨⟨hlength, hvalue⟩, rfl⟩, h.consumer, ?_, ?_, ?_, ?_, hversions,
    h.consumed_le, h.published_lt, h.ordered, h.popped, h.last⟩
  · intro index
    by_cases hindex : index = queue.published % capacity
    · rw [hindex]
      show ((queue.setSlot _ _).slots _).Sound _
      rw [setSlot_self]
      apply (h.slots _).beginStore (hfree _)
      refine ⟨queue.published, value, Nat.lt_succ_self _, ?_, rfl, hvalue, rfl⟩
      exact Nat.add_le_add_left hcapacity _
    · show ((queue.setSlot _ _).slots _).Sound _
      rw [setSlot_of_ne _ _ hindex]
      apply (h.slots index).mono
      intro bytes hlast
      rw [hbegun] at hlast
      exact hlast.next hindex
  · intro index hstore
    refine ⟨?_, rfl⟩
    show index = queue.published % capacity
    by_contra hindex
    apply hstore
    show ((queue.setSlot _ _).slots _).store = none
    rw [setSlot_of_ne _ _ hindex]
    exact hfree index
  · intro index hload
    apply h.loading index
    intro hattempt
    apply hload
    show ((queue.setSlot _ _).slots _).load = _
    by_cases hindex : index = queue.published % capacity
    · rw [hindex, setSlot_self]
      rw [hindex] at hattempt
      exact hattempt
    · rw [setSlot_of_ne _ _ hindex]
      exact hattempt
  · intro position hposition
    show 0 < ((queue.setSlot _ _).slots _).version
    by_cases hindex : position % capacity = queue.published % capacity
    · rw [hindex, setSlot_self]
      exact Nat.succ_pos _
    · rw [setSlot_of_ne _ _ hindex]
      apply h.written
      rw [hbegun]
      have hlast : position < queue.published + 1 := hposition
      have hne : position ≠ queue.published := by
        intro heq
        rw [heq] at hindex
        exact hindex rfl
      omega

/-- A cell of the event is stored, or the last count of the version. -/
theorem Sound.storeEvent (h : Sound layout capacity pushes positions queue)
    {value : α} {seen : ℕ} (hphase : queue.producer = .storing value seen)
    (hversions : ∀ index < capacity, ((queue.setSlot (seen % capacity)
      (queue.slots (seen % capacity)).advanceStore).slots index).version <
        2 ^ 64) :
    Sound layout capacity pushes positions
      (queue.setSlot (seen % capacity)
        (queue.slots (seen % capacity)).advanceStore) := by
  have hproducer := h.producer
  rw [hphase] at hproducer
  obtain ⟨-, rfl⟩ := hproducer
  have hcount : queue.begun = queue.published + 1 := by
    unfold begun
    rw [hphase]
  have hbegun : ∀ index slot,
      (queue.setSlot index slot).begun = queue.begun := fun _ _ => rfl
  refine ⟨h.producer, h.consumer, ?_, ?_, ?_, ?_, hversions, h.consumed_le,
    h.published_lt, h.ordered, h.popped, h.last⟩
  · intro index
    rw [hbegun]
    by_cases hindex : index = queue.published % capacity
    · rw [hindex, setSlot_self]
      exact (h.slots _).advanceStore
    · rw [setSlot_of_ne _ _ hindex]
      exact h.slots index
  · intro index hstore
    refine ⟨?_, hcount⟩
    show index = queue.published % capacity
    by_contra hindex
    rw [setSlot_of_ne _ _ hindex] at hstore
    exact hindex (h.storing index hstore).1
  · intro index hload
    apply h.loading index
    by_cases hindex : index = queue.published % capacity
    · rw [hindex, setSlot_self, SeqLock.advanceStore_load] at hload
      rw [hindex]
      exact hload
    · rw [setSlot_of_ne _ _ hindex] at hload
      exact hload
  · intro position hposition
    have hwritten := h.written position hposition
    by_cases hindex : position % capacity = queue.published % capacity
    · rw [hindex, setSlot_self]
      rw [hindex] at hwritten
      exact hwritten.trans_le (SeqLock.version_le_advanceStore _)
    · rw [setSlot_of_ne _ _ hindex]
      exact hwritten

theorem PopOk.published_succ {published consumed : ℕ} {phase : PopPhase α}
    (h : PopOk capacity pushes published consumed phase) :
    PopOk capacity pushes (published + 1) consumed phase := by
  have hchosen : ∀ next, Chosen capacity published consumed next →
      Chosen capacity (published + 1) consumed next := by
    intro next hnext
    obtain ⟨hle, hlt, hjump⟩ := hnext
    refine ⟨hle, by omega, ?_⟩
    omega
  cases phase with
  | idle => trivial
  | called => trivial
  | seen seen => exact Nat.le_succ_of_le h
  | loading next => exact hchosen next h
  | taking next value => exact ⟨hchosen next h.1, h.2⟩

/-- The event becomes visible. -/
theorem Sound.endEvent (h : Sound layout capacity pushes positions queue)
    {value : α} {seen : ℕ} (hphase : queue.producer = .storing value seen)
    (hidle : (queue.slots (seen % capacity)).store = none)
    (hroom : queue.published ≤ (seen + 1) % 2 ^ 64) :
    Sound layout capacity pushes positions
      { queue with
        published := (seen + 1) % 2 ^ 64
        producer := .idle } := by
  have hproducer := h.producer
  rw [hphase] at hproducer
  obtain ⟨⟨hlength, hvalue⟩, rfl⟩ := hproducer
  have hbound := h.published_lt
  have hnext : (queue.published + 1) % 2 ^ 64 = queue.published + 1 := by
    omega
  have hcount : queue.begun = queue.published + 1 := by
    unfold begun
    rw [hphase]
  rw [hnext]
  refine ⟨hlength, h.consumer.published_succ, ?_, ?_, h.loading, ?_,
    h.versions, h.consumed_le.trans (Nat.le_succ _), ?_, h.ordered, h.popped,
    h.last⟩
  · intro index
    show (queue.slots index).Sound
      (LastEvent layout capacity pushes (queue.published + 1) index)
    rw [← hcount]
    exact h.slots index
  · intro index hstore
    have hindex := (h.storing index hstore).1
    rw [hindex] at hstore
    exact absurd hidle hstore
  · intro position hposition
    have hlt : position < queue.published + 1 := hposition
    rw [← hcount] at hlt
    exact h.written position hlt
  · show queue.published + 1 < 2 ^ 64
    omega

/-! ### The consumer -/

theorem chosen_expected {published seen consumed : ℕ}
    (hseen : seen ≤ published) (hmore : consumed < seen)
    (hcapacity : 0 < capacity) :
    Chosen capacity published consumed (expected capacity seen consumed) := by
  unfold expected Chosen
  dsimp only
  split_ifs <;> omega

/-- The steps of a pop which leave the slots alone. -/
theorem Sound.of_consumer (h : Sound layout capacity pushes positions queue)
    {phase : PopPhase α}
    (hphase : PopOk capacity pushes queue.published queue.consumed phase)
    (hold : ∀ next, queue.consumer ≠ .loading next) :
    Sound layout capacity pushes positions (queue.setConsumer phase) where
  producer := h.producer
  consumer := hphase
  slots := h.slots
  storing := h.storing
  loading := by
    intro index hload
    obtain ⟨next, hnext, -⟩ := h.loading index hload
    exact absurd hnext (hold next)
  written := h.written
  versions := h.versions
  consumed_le := h.consumed_le
  published_lt := h.published_lt
  ordered := h.ordered
  popped := h.popped
  last := h.last

variable [Inhabited β]

/-- A step of the load of the event, with what the consumer does after it. -/
theorem Sound.loadEvent (h : Sound layout capacity pushes positions queue)
    {next : ℕ} (hconsumer : queue.consumer = .loading next)
    {phase : PopPhase α}
    (hphase : PopOk capacity pushes queue.published queue.consumed phase)
    (hover : phase = .loading next ∨
      ((queue.slots (next % capacity)).advanceLoad 64 16).2 ≠ .running) :
    Sound layout capacity pushes positions
      ((queue.setSlot (next % capacity)
        ((queue.slots (next % capacity)).advanceLoad 64 16).1).setConsumer
          phase) := by
  have hslots : ∀ slot index,
      ((queue.setSlot (next % capacity) slot).setConsumer phase).slots index =
        (queue.setSlot (next % capacity) slot).slots index :=
    fun _ _ => rfl
  have hbegun : ∀ slot,
      ((queue.setSlot (next % capacity) slot).setConsumer phase).begun =
        queue.begun := fun _ => rfl
  refine ⟨h.producer, hphase, ?_, ?_, ?_, ?_, ?_, h.consumed_le,
    h.published_lt, h.ordered, h.popped, h.last⟩
  · intro index
    rw [hbegun, hslots]
    by_cases hindex : index = next % capacity
    · rw [hindex, setSlot_self]
      exact (h.slots _).advanceLoad (by omega)
    · rw [setSlot_of_ne _ _ hindex]
      exact h.slots index
  · intro index hstore
    rw [hslots] at hstore
    apply h.storing index
    by_cases hindex : index = next % capacity
    · rw [hindex, setSlot_self, SeqLock.advanceLoad_store] at hstore
      rw [hindex]
      exact hstore
    · rw [setSlot_of_ne _ _ hindex] at hstore
      exact hstore
  · intro index hload
    rw [hslots] at hload
    by_cases hindex : index = next % capacity
    · rw [hindex, setSlot_self] at hload
      cases hover with
      | inl hloading => exact ⟨next, hloading, hindex⟩
      | inr hover => exact absurd (SeqLock.advanceLoad_load hover) hload
    · rw [setSlot_of_ne _ _ hindex] at hload
      obtain ⟨other, hother, hat⟩ := h.loading index hload
      rw [hconsumer] at hother
      cases hother
      exact absurd hat hindex
  · intro position hposition
    rw [hslots]
    have hwritten := h.written position hposition
    by_cases hindex : position % capacity = next % capacity
    · rw [hindex, setSlot_self, SeqLock.advanceLoad_version, ← hindex]
      exact hwritten
    · rw [setSlot_of_ne _ _ hindex]
      exact hwritten
  · intro index hlt
    rw [hslots]
    by_cases hindex : index = next % capacity
    · rw [hindex, setSlot_self, SeqLock.advanceLoad_version, ← hindex]
      exact h.versions index hlt
    · rw [setSlot_of_ne _ _ hindex]
      exact h.versions index hlt

/-- An event with the expected ticket is the expected event. -/
theorem Sound.loaded_value (h : Sound layout capacity pushes positions queue)
    {next : ℕ} {bytes : Fin n → β} (hcapacity : 0 < capacity)
    (hnext : next < queue.published)
    (hloaded : ((queue.slots (next % capacity)).advanceLoad 64 16).2 =
      .loaded bytes)
    (hticket : (layout.value bytes).ticket = (next + 1) % 2 ^ 64) :
    pushes[next]? = some (layout.value bytes).value := by
  have hfresh : (queue.slots (next % capacity)).Fresh 64 := by
    intro number before index copy _
    exact (h.versions _ (Nat.mod_lt _ hcapacity)).trans_le
      (Nat.le_add_left _ _)
  obtain ⟨position, value, hlt, -, -, hvalue, hbytes⟩ :=
    (h.slots _).loaded (by omega) hfresh hloaded
  rw [hbytes, layout.value_bytes] at hticket ⊢
  have hbound := h.published_lt
  have hbegun : queue.begun ≤ queue.published + 1 := by
    unfold begun
    split <;> omega
  have hposition : position = next := by
    dsimp only at hticket
    omega
  rw [← hposition]
  exact hvalue

theorem lastPopped_append (positions : List ℕ) (position : ℕ) :
    lastPopped (positions ++ [position]) = position + 1 := by
  unfold lastPopped
  rw [List.getLast?_append]
  rfl

omit [Inhabited β] in
/-- An event is popped. -/
theorem Sound.takeEvent (h : Sound layout capacity pushes positions queue)
    {next : ℕ} {value : α} (hphase : queue.consumer = .taking next value) :
    Sound layout capacity pushes (positions ++ [next])
      { queue with
        consumed := (next + 1) % 2 ^ 64
        consumer := .idle } := by
  have hconsumer := h.consumer
  rw [hphase] at hconsumer
  obtain ⟨⟨hle, hlt, -⟩, -⟩ := hconsumer
  have hbound := h.published_lt
  have hnext : (next + 1) % 2 ^ 64 = next + 1 := by omega
  rw [hnext]
  refine ⟨?_, trivial, h.slots, h.storing, ?_, h.written, h.versions, hlt,
    h.published_lt, ?_, ?_, lastPopped_append positions next⟩
  · have hproducer := h.producer
    show PushOk pushes queue.published (next + 1) queue.producer
    cases hpush : queue.producer with
    | compared pushed seen index =>
        rw [hpush] at hproducer
        exact ⟨hproducer.1, hproducer.2.1, by
          have hindex := hproducer.2.2
          omega⟩
    | _ =>
        rw [hpush] at hproducer
        exact hproducer
  · intro index hload
    obtain ⟨other, hother, -⟩ := h.loading index hload
    rw [hphase] at hother
    cases hother
  · rw [List.pairwise_append]
    refine ⟨h.ordered, List.pairwise_singleton _ _, ?_⟩
    intro position hposition other hother
    rw [List.mem_singleton.mp hother]
    exact (h.popped position hposition).trans_le hle
  · intro position hposition
    show position < next + 1
    rw [List.mem_append, List.mem_singleton] at hposition
    cases hposition with
    | inl hearlier =>
        have hlt := h.popped position hearlier
        omega
    | inr heq => omega

end SensorEventQueue

end PolicyRuntime
