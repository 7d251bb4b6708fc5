import PolicyRuntime.SensorAccounting

/-!
# Draining the sensor event queue

When no call is under way, popping again and again yields the most recent
events, as many as the ring still holds and the consumer has not passed.
-/

namespace PolicyRuntime.SensorEventQueue

variable {n : ℕ} {β α : Type} [Inhabited β]
  {layout : Representation (StoredEvent α) n β} {capacity : ℕ}
  {pushes : List α} {positions : List ℕ}
  {queue middle next : SensorEventQueue n β α}

/-! ## Runs of the consumer -/

def outputsFrom (layout : Representation (StoredEvent α) n β) (capacity : ℕ)
    (queue : SensorEventQueue n β α) (inputs : List (QueueInput α)) :
    List (QueueOutput α) :=
  ((machine layout capacity).trace queue inputs).map Transition.output

/-- The steps of one call of `pop` which nothing disturbs.  A call which ends
earlier is idle for the rest. -/
def popCall (n : ℕ) (α : Type) : List (QueueInput α) :=
  .pop :: List.replicate (n + 5) .take

/-- A number of calls of `pop`, one after the other. -/
def drain (n : ℕ) (α : Type) (count : ℕ) : List (QueueInput α) :=
  (List.replicate count (popCall n α)).flatten

/-- The values which some inputs pop, and the state behind them. -/
structure Pops (layout : Representation (StoredEvent α) n β) (capacity : ℕ)
    (queue : SensorEventQueue n β α) (inputs : List (QueueInput α))
    (values : List α) (next : SensorEventQueue n β α) : Prop where
  final : (machine layout capacity).final queue inputs = next
  popped : popped (outputsFrom layout capacity queue inputs) = values

theorem pops_nil : Pops layout capacity queue [] [] queue := ⟨rfl, rfl⟩

theorem Pops.append {earlier later : List (QueueInput α)}
    {values values' : List α}
    (h : Pops layout capacity queue earlier values middle)
    (h' : Pops layout capacity middle later values' next) :
    Pops layout capacity queue (earlier ++ later) (values ++ values')
      next where
  final := by
    rw [Machine.final_append, h.final, h'.final]
  popped := by
    rw [← h.popped, ← h'.popped]
    unfold outputsFrom SensorEventQueue.popped
    rw [Machine.trace_append, h.final, List.map_append,
      List.filterMap_append]

theorem pops_step {input : QueueInput α} {output : QueueOutput α}
    (hstep : queue.step layout capacity input = (next, output)) :
    Pops layout capacity queue [input] (popped? output).toList next where
  final := by
    show (queue.step layout capacity input).1 = next
    rw [hstep]
  popped := by
    show SensorEventQueue.popped [(queue.step layout capacity input).2] = _
    rw [hstep]
    exact (filterMap_cons_toList popped? output []).trans (List.append_nil _)

theorem Pops.cons {input : QueueInput α} {output : QueueOutput α}
    {rest : List (QueueInput α)} {values : List α}
    (hstep : queue.step layout capacity input = (middle, output))
    (h : Pops layout capacity middle rest values next) :
    Pops layout capacity queue (input :: rest)
      ((popped? output).toList ++ values) next :=
  (pops_step hstep).append h

/-- An idle consumer stays so. -/
theorem pops_idle (hidle : queue.consumer = .idle) (count : ℕ) :
    Pops layout capacity queue (List.replicate count .take) [] queue := by
  induction count with
  | zero => exact pops_nil
  | succ count ih =>
      have hstep : queue.step layout capacity .take = (queue, .quiet) := by
        unfold step advancePop
        dsimp only
        rw [hidle]
      exact Pops.cons hstep ih

/-! ## One call -/

/-- A slot between two stores, with nobody loading it. -/
structure Rests (bytes : Fin n → β) (slot : SeqLock n β) : Prop where
  load : slot.load = .attempt 0
  even : slot.version % 2 = 0
  positive : 0 < slot.version
  bounded : slot.version < 2 ^ 64
  cells : slot.cells = bytes

/-- The first cells of a value. -/
def copyTo (cells : Fin n → β) (index : ℕ) : Fin n → β :=
  fun i => if i.val < index then cells i else default

theorem copyTo_succ (cells : Fin n → β) {index : ℕ} (hindex : index < n) :
    Function.update (copyTo cells index) ⟨index, hindex⟩
      (cells ⟨index, hindex⟩) = copyTo cells (index + 1) := by
  funext i
  unfold copyTo
  by_cases hlast : i = ⟨index, hindex⟩
  · rw [hlast, Function.update_self, if_pos (Nat.lt_succ_self _)]
  · have hne : i.val ≠ index := fun heq => hlast (Fin.ext heq)
    rw [Function.update_of_ne hlast]
    by_cases hlt : i.val < index
    · rw [if_pos hlt, if_pos (by omega)]
    · rw [if_neg hlt, if_neg (by omega)]

theorem copyTo_full (cells : Fin n → β) : copyTo cells n = cells := by
  funext i
  unfold copyTo
  rw [if_pos i.isLt]

omit [Inhabited β] in
theorem setSlot_setSlot (queue : SensorEventQueue n β α) (index : ℕ)
    (slot other : SeqLock n β) :
    (queue.setSlot index slot).setSlot index other =
      queue.setSlot index other := by
  unfold setSlot
  rw [Function.update_idem]

/-- A step of the consumer in the middle of a load. -/
theorem take_running {chosen : ℕ} {slot : SeqLock n β}
    (hphase : queue.consumer = .loading chosen)
    (hload : (queue.slots (chosen % capacity)).advanceLoad 64 16 =
      (slot, .running)) :
    queue.step layout capacity .take =
      (queue.setSlot (chosen % capacity) slot, .quiet) := by
  unfold step advancePop
  dsimp only
  rw [hphase]
  dsimp only
  rw [hload]

/-- The slot of the event while it is copied. -/
def copied (slot : SeqLock n β) (index : ℕ) : SeqLock n β :=
  { slot with load := .reading 0 slot.version index (copyTo slot.cells index) }

theorem Rests.load_copied {slot : SeqLock n β} {bytes : Fin n → β}
    (h : Rests bytes slot) :
    (copied slot n).advanceLoad 64 16 = (slot, .loaded bytes) := by
  have hlast : (copied slot n).advanceLoad 64 16 =
      ({ slot with load := .attempt 0 }, .loaded (copyTo slot.cells n)) :=
    SeqLock.advanceLoad_last rfl h.even h.bounded
  rw [hlast, copyTo_full, ← h.load, ← h.cells]

/-- The consumer has copied the first cells of the slot of an event. -/
def copying (capacity : ℕ) (queue : SensorEventQueue n β α)
    (chosen index : ℕ) : SensorEventQueue n β α :=
  (queue.setSlot (chosen % capacity)
    (copied (queue.slots (chosen % capacity)) index)).setConsumer
      (.loading chosen)

theorem copying_slot (chosen index : ℕ) :
    (queue.copying capacity chosen index).slots (chosen % capacity) =
      copied (queue.slots (chosen % capacity)) index :=
  setSlot_self ..

theorem take_begin {chosen : ℕ} {bytes : Fin n → β}
    (h : Rests bytes (queue.slots (chosen % capacity))) :
    (queue.setConsumer (.loading chosen)).step layout capacity .take =
      (queue.copying capacity chosen 0, .quiet) := by
  have hload : ((queue.setConsumer (.loading chosen)).slots
      (chosen % capacity)).advanceLoad 64 16 =
        (copied (queue.slots (chosen % capacity)) 0, .running) :=
    SeqLock.advanceLoad_attempt h.load h.even h.positive h.bounded
  rw [take_running rfl hload]
  rfl

theorem take_cell {chosen index : ℕ} (hindex : index < n) :
    (queue.copying capacity chosen index).step layout capacity .take =
      (queue.copying capacity chosen (index + 1), .quiet) := by
  have hload : ((queue.copying capacity chosen index).slots
      (chosen % capacity)).advanceLoad 64 16 =
        (copied (queue.slots (chosen % capacity)) (index + 1), .running) := by
    rw [copying_slot, SeqLock.advanceLoad_cell rfl hindex]
    unfold copied
    rw [copyTo_succ]
  rw [take_running rfl hload]
  unfold copying
  rw [← setSlot_setSlot queue (chosen % capacity)
    (copied (queue.slots (chosen % capacity)) index)
    (copied (queue.slots (chosen % capacity)) (index + 1))]
  rfl

theorem take_event {chosen : ℕ} {value : α}
    (h : Rests (layout.bytes ⟨(chosen + 1) % 2 ^ 64, value⟩)
      (queue.slots (chosen % capacity))) :
    (queue.copying capacity chosen n).step layout capacity .take =
      (queue.setConsumer (.taking chosen value), .quiet) := by
  have hload : ((queue.copying capacity chosen n).slots
      (chosen % capacity)).advanceLoad 64 16 =
        (queue.slots (chosen % capacity),
          .loaded (layout.bytes ⟨(chosen + 1) % 2 ^ 64, value⟩)) := by
    rw [copying_slot, h.load_copied]
  unfold step advancePop
  dsimp only
  rw [show (queue.copying capacity chosen n).consumer = .loading chosen
    from rfl]
  dsimp only
  rw [hload]
  dsimp only
  rw [layout.value_bytes, if_neg (by simp)]
  unfold copying setSlot setConsumer
  simp

theorem pops_cells {chosen : ℕ} {count : ℕ} (hcount : count ≤ n) :
    Pops layout capacity (queue.copying capacity chosen 0)
      (List.replicate count .take) [] (queue.copying capacity chosen count) := by
  induction count with
  | zero => exact pops_nil
  | succ count ih =>
      rw [List.replicate_succ']
      exact (ih (by omega)).append (pops_step (take_cell (by omega)))

/-- The queue behind a call of `pop` which returned an event. -/
def pass (queue : SensorEventQueue n β α) (chosen : ℕ) :
    SensorEventQueue n β α :=
  { queue with consumed := (chosen + 1) % 2 ^ 64 }

/-- A call of `pop` on a queue which rests. -/
theorem pops_event {value : α} (hidle : queue.consumer = .idle)
    (hmore : queue.consumed < queue.published)
    (h : Rests (layout.bytes
        ⟨(expected capacity queue.published queue.consumed + 1) % 2 ^ 64,
          value⟩)
      (queue.slots
        (expected capacity queue.published queue.consumed % capacity))) :
    Pops layout capacity queue (popCall n α) [value]
      (queue.pass (expected capacity queue.published queue.consumed)) := by
  have hopen : queue.step layout capacity .pop =
      (queue.setConsumer .called, .opened) := by
    unfold step
    dsimp only
    rw [hidle]
  have hseen : (queue.setConsumer .called).step layout capacity .take =
      (queue.setConsumer (.seen queue.published), .quiet) := rfl
  have hchosen : (queue.setConsumer (.seen queue.published)).step layout
      capacity .take = (queue.setConsumer (.loading
        (expected capacity queue.published queue.consumed)), .quiet) :=
    if_neg (Nat.not_le.mpr hmore)
  generalize expected capacity queue.published queue.consumed = chosen
    at h hchosen ⊢
  have hpass : (queue.setConsumer (.taking chosen value)).step layout capacity
      .take = (queue.pass chosen, .popped (some value)) := by
    unfold step advancePop pass
    dsimp only
    rw [← hidle]
    rfl
  have hlast : Pops layout capacity (queue.copying capacity chosen n)
      [.take, .take] [value] (queue.pass chosen) :=
    Pops.cons (take_event h) (pops_step hpass)
  have hcells : Pops layout capacity (queue.copying capacity chosen 0)
      (List.replicate (n + 2) .take) [value] (queue.pass chosen) := by
    rw [List.replicate_add]
    exact (pops_cells (le_refl n)).append hlast
  exact Pops.cons hopen (Pops.cons hseen (Pops.cons hchosen
    (Pops.cons (take_begin h) hcells)))

/-- A call of `pop` on a queue with nothing new. -/
theorem pops_nothing (hidle : queue.consumer = .idle)
    (hnone : queue.published ≤ queue.consumed) :
    Pops layout capacity queue (popCall n α) [] queue := by
  have hopen : queue.step layout capacity .pop =
      (queue.setConsumer .called, .opened) := by
    unfold step
    dsimp only
    rw [hidle]
  have hseen : (queue.setConsumer .called).step layout capacity .take =
      (queue.setConsumer (.seen queue.published), .quiet) := rfl
  have hreturn : (queue.setConsumer (.seen queue.published)).step layout
      capacity .take = (queue, .popped none) := by
    unfold step advancePop
    dsimp only
    rw [show (queue.setConsumer (.seen queue.published)).consumer =
      .seen queue.published from rfl]
    refine (if_pos hnone).trans ?_
    unfold setConsumer
    rw [← hidle]
  exact Pops.cons hopen (Pops.cons hseen (Pops.cons hreturn
    (pops_idle hidle (n + 3))))

/-! ## Many calls -/

/-- A queue in which no call is under way. -/
structure Ready (layout : Representation (StoredEvent α) n β) (capacity : ℕ)
    (pushes : List α) (queue : SensorEventQueue n β α) : Prop where
  consumer : queue.consumer = .idle
  length : pushes.length = queue.published
  published_lt : queue.published < 2 ^ 64
  consumed_le : queue.consumed ≤ queue.published
  slots : ∀ position < queue.published,
    queue.published ≤ position + capacity →
    ∃ value, pushes[position]? = some value ∧
      Rests (layout.bytes ⟨(position + 1) % 2 ^ 64, value⟩)
        (queue.slots (position % capacity))

omit [Inhabited β] in
theorem Ready.pass (h : Ready layout capacity pushes queue) {chosen : ℕ}
    (hchosen : chosen < queue.published) :
    Ready layout capacity pushes (queue.pass chosen) := by
  have hbound := h.published_lt
  refine ⟨h.consumer, h.length, h.published_lt, ?_, h.slots⟩
  show (chosen + 1) % 2 ^ 64 ≤ queue.published
  omega

/-- Calls of `pop` yield the events from the oldest which is left. -/
theorem Ready.pops_drain (hcapacity : 0 < capacity) (count : ℕ)
    (h : Ready layout capacity pushes queue) :
    ∃ next, Pops layout capacity queue (drain n α count)
      ((pushes.drop (max queue.consumed
        (queue.published - capacity))).take count) next := by
  induction count generalizing queue with
  | zero => exact ⟨queue, pops_nil⟩
  | succ count ih =>
      by_cases hmore : queue.consumed < queue.published
      · have hexpected := expected_eq capacity queue.published queue.consumed
        have hbound := h.published_lt
        obtain ⟨value, hvalue, hrests⟩ :=
          h.slots (expected capacity queue.published queue.consumed)
            (by omega) (by omega)
        have hcall := pops_event h.consumer hmore hrests
        rw [hexpected] at hvalue hcall
        obtain ⟨next, hnext⟩ := ih (h.pass
          (show max queue.consumed (queue.published - capacity) <
            queue.published by omega))
        refine ⟨next, ?_⟩
        have hrest : max (queue.pass (max queue.consumed
              (queue.published - capacity))).consumed
            ((queue.pass (max queue.consumed
              (queue.published - capacity))).published - capacity) =
            max queue.consumed (queue.published - capacity) + 1 := by
          unfold SensorEventQueue.pass
          dsimp only
          omega
        rw [hrest] at hnext
        obtain ⟨hlt, hget⟩ := List.getElem?_eq_some_iff.mp hvalue
        rw [List.drop_eq_getElem_cons hlt, hget, List.take_succ_cons]
        exact hcall.append hnext
      · have hdone : queue.consumed = queue.published := by
          have hle := h.consumed_le
          omega
        obtain ⟨next, hnext⟩ := ih h
        refine ⟨next, ?_⟩
        have hempty : pushes.drop (max queue.consumed
            (queue.published - capacity)) = [] := by
          rw [List.drop_eq_nil_iff, h.length]
          omega
        rw [hempty, List.take_nil] at hnext ⊢
        exact (pops_nothing h.consumer hdone.ge).append hnext

/-! ## Idle queues -/

/-- No call is under way. -/
def Idle (queue : SensorEventQueue n β α) : Prop :=
  queue.producer = .idle ∧ queue.consumer = .idle

/-- Two events of one slot are a whole turn of the ring apart. -/
theorem position_unique {stores position other : ℕ}
    (hlt : position < stores) (hle : stores ≤ position + capacity)
    (hlt' : other < stores) (hle' : stores ≤ other + capacity)
    (hsame : position % capacity = other % capacity) : position = other := by
  rcases Nat.le_total position other with hle | hge
  · have hdvd := (Nat.modEq_iff_dvd' hle).mp hsame
    have hzero := Nat.eq_zero_of_dvd_of_lt hdvd (by omega)
    omega
  · have hdvd := (Nat.modEq_iff_dvd' hge).mp hsame.symm
    have hzero := Nat.eq_zero_of_dvd_of_lt hdvd (by omega)
    omega

omit [Inhabited β] in
theorem Sound.ready (hcapacity : 0 < capacity)
    (h : Sound layout capacity pushes positions queue)
    (hidle : Idle queue) : Ready layout capacity pushes queue := by
  have hbegun : queue.begun = queue.published := by
    unfold begun
    rw [hidle.1]
  have hproducer := h.producer
  rw [hidle.1] at hproducer
  refine ⟨hidle.2, hproducer, h.published_lt, h.consumed_le, ?_⟩
  intro position hposition hrecent
  have hstore : (queue.slots (position % capacity)).store = none := by
    by_contra hstoring
    have hcount := (h.storing _ hstoring).2
    omega
  have hpositive := h.written position (by omega)
  obtain ⟨heven, hstored⟩ := (h.slots (position % capacity)).idle hstore
  obtain ⟨other, value, hlt, hle, hsame, hvalue, hcells⟩ := hstored hpositive
  rw [hbegun] at hlt hle
  have hother := position_unique hlt hle hposition hrecent hsame
  rw [hother] at hvalue hcells
  refine ⟨value, hvalue, ⟨?_, heven, hpositive, h.versions _ (Nat.mod_lt _ hcapacity), hcells⟩⟩
  by_contra hload
  obtain ⟨chosen, hloading, -⟩ := h.loading _ hload
  rw [hidle.2] at hloading
  cases hloading

/-! ## Whole runs -/

theorem consistent_run (hcapacity : 0 < capacity)
    {inputs : List (QueueInput α)}
    (hkept : ∀ t ∈ (machine layout capacity).trace constructed inputs,
      Unwrapped capacity t.before t.after) :
    ∃ positions, Consistent layout capacity
      (∀ t ∈ (machine layout capacity).trace constructed inputs,
        Alone t.after)
      (outputsFrom layout capacity constructed inputs) positions
      ((machine layout capacity).final constructed inputs) := by
  let Good : List (Transition (SensorEventQueue n β α) (QueueInput α)
      (QueueOutput α)) → SensorEventQueue n β α → Prop :=
    fun transitions queue =>
      (∀ t ∈ transitions, Unwrapped capacity t.before t.after) →
        ((∀ t ∈ transitions, Alone t.after) → Alone queue) ∧
        ∃ positions, Consistent layout capacity
          (∀ t ∈ transitions, Alone t.after)
          (transitions.map Transition.output) positions queue
  have hgood : Good ((machine layout capacity).trace constructed inputs)
      ((machine layout capacity).final constructed inputs) := by
    apply Machine.history_final Good
    · intro _
      refine ⟨fun _ => Or.inl rfl, [], sound_constructed, ?_,
        List.Forall₂.nil⟩
      have hzero : lost capacity []
          (constructed : SensorEventQueue n β α) = 0 :=
        (Nat.zero_add _).trans (Nat.zero_sub _)
      exact ⟨le_refl 0, Nat.two_pow_pos 64, hzero.le, fun _ => hzero,
        fun _ => trivial, fun _ => trivial⟩
    · intro transitions queue input ih hall
      rw [List.forall_mem_append] at hall
      obtain ⟨halone, positions, hconsistent⟩ := ih hall.1
      refine ⟨?_, ?_⟩
      · intro hafter
        exact hafter _ (List.mem_append_right _ (List.mem_singleton_self _))
      · have hearlier : (∀ t ∈ transitions ++
              [(machine layout capacity).fire queue input],
              Alone t.after) → ∀ t ∈ transitions, Alone t.after := by
          intro hafter t ht
          exact hafter t (List.mem_append_left _ ht)
        have hweaker := Consistent.mk hconsistent.sound
          (hconsistent.accounts.imp hearlier) hconsistent.values
        rw [List.map_append]
        exact hweaker.step hcapacity input
          (hall.2 _ (List.mem_singleton_self _))
          fun hafter => halone (hearlier hafter)
  exact (hgood hkept).2

/-- The number of events which are still there: at most a ring of them, and
none which the consumer has passed. -/
def poppable (capacity : ℕ) (outputs : List (QueueOutput α))
    (positions : List ℕ) : ℕ :=
  min capacity ((pushed outputs).length - lastPopped positions)

/-- The accounts of an idle queue: what further pops yield, and what was counted
as dropped. -/
structure Settled (layout : Representation (StoredEvent α) n β)
    (capacity : ℕ) (alone : Prop) (outputs : List (QueueOutput α))
    (positions : List ℕ) (queue : SensorEventQueue n β α) : Prop where
  drains : ∀ count,
    popped (outputsFrom layout capacity queue (drain n α count)) =
      ((pushed outputs).drop ((pushed outputs).length -
        poppable capacity outputs positions)).take count
  counted : (pushed outputs).length ≤
    (popped outputs).length + poppable capacity outputs positions +
      queue.dropped
  exact : alone → (pushed outputs).length =
    (popped outputs).length + poppable capacity outputs positions +
      queue.dropped

theorem Consistent.settled (hcapacity : 0 < capacity) {alone : Prop}
    {outputs : List (QueueOutput α)}
    (h : Consistent layout capacity alone outputs positions queue)
    (hidle : Idle queue) :
    Settled layout capacity alone outputs positions queue := by
  have hready := h.sound.ready hcapacity hidle
  have hlength := hready.length
  have hconsumed := h.sound.consumed_le
  have hpositions := h.accounts.length_le
  have hlost := h.accounts.lost_le
  have hexact := h.accounts.exact
  have hdecided : queue.decided = queue.published := by
    unfold decided
    rw [hidle.1]
  have hpoppable : poppable capacity outputs positions =
      min capacity (queue.published - queue.consumed) := by
    unfold poppable
    rw [h.sound.last, hlength]
  unfold lost at hlost hexact
  rw [hdecided] at hlost hexact
  refine ⟨?_, ?_, ?_⟩
  · intro count
    obtain ⟨next, hnext⟩ := hready.pops_drain hcapacity count
    rw [hnext.popped, hpoppable, hlength]
    congr 2
    omega
  · rw [hpoppable, ← h.values.length_eq, hlength]
    omega
  · intro halone
    have hequal := hexact halone
    rw [hpoppable, ← h.values.length_eq, hlength]
    omega

/-- As long as no counter comes around, the popped values are pushed ones in
the order of the pushes.  In an idle queue, further pops yield the most recent
events which the consumer has not passed, and every other event is popped or
counted as dropped.  Nothing else is counted when no push overlaps a pop. -/
theorem queue_keeps_accounts (hcapacity : 0 < capacity)
    {inputs : List (QueueInput α)}
    (hkept : ∀ t ∈ (machine layout capacity).trace constructed inputs,
      Unwrapped capacity t.before t.after) :
    ∃ positions : List ℕ, positions.Pairwise (· < ·) ∧
      List.Forall₂ (fun position value =>
          (pushed (outputsFrom layout capacity constructed inputs))[
            position]? = some value)
        positions (popped (outputsFrom layout capacity constructed inputs)) ∧
      (Idle ((machine layout capacity).final constructed inputs) →
        Settled layout capacity
          (∀ t ∈ (machine layout capacity).trace constructed inputs,
            Alone t.after)
          (outputsFrom layout capacity constructed inputs) positions
          ((machine layout capacity).final constructed inputs)) := by
  obtain ⟨positions, hconsistent⟩ := consistent_run hcapacity hkept
  refine ⟨positions, hconsistent.sound.ordered, hconsistent.values, ?_⟩
  intro hidle
  exact hconsistent.settled hcapacity hidle

/-- Two words: the ticket and the value. -/
def wordPair : Representation (StoredEvent ℕ) 2 ℕ where
  bytes event := ![event.ticket, event.value]
  value words := ⟨words 0, words 1⟩
  value_bytes := fun _ => rfl

def pushCall (value : ℕ) : List (QueueInput ℕ) :=
  .push value :: List.replicate 8 .advance

def threePushes : List (QueueInput ℕ) :=
  pushCall 1 ++ pushCall 2 ++ pushCall 3

theorem threePushes_accounts :
    ∃ positions, Settled wordPair 2
      (∀ t ∈ (machine wordPair 2).trace constructed threePushes,
        Alone t.after)
      (outputsFrom wordPair 2 constructed threePushes) positions
      ((machine wordPair 2).final constructed threePushes) ∧
    pushed (outputsFrom wordPair 2 constructed threePushes) = [1, 2, 3] ∧
    ((machine wordPair 2).final constructed threePushes).dropped = 1 := by
  have hkept : ∀ t ∈ (machine wordPair 2).trace constructed threePushes,
      Unwrapped 2 t.before t.after := by
    decide +kernel
  obtain ⟨positions, -, -, hsettled⟩ :=
    queue_keeps_accounts Nat.two_pos hkept
  exact ⟨positions, hsettled ⟨rfl, rfl⟩, rfl, rfl⟩

example : popped (outputsFrom wordPair 2
    ((machine wordPair 2).final constructed threePushes) (drain 2 ℕ 3)) =
      [2, 3] := by
  decide +kernel

end PolicyRuntime.SensorEventQueue
