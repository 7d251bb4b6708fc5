import PolicyRuntime.Machine
import PolicyRuntime.Sequences

/-!
# Local snapshots

One writer publishes values for any number of readers through two slots.  A
publication fills the slot which is not active, under a guard word that is odd
while the words of the slot change, and then makes it the active one.  A reader
copies the active slot between two readings of its guard and keeps the copy when
neither the guard nor the active slot has changed.

Every load and every store is a step of its own.
-/

namespace PolicyRuntime

/-- `std::numeric_limits<std::uint32_t>::max()` -/
def kNoActiveSlot : ℕ := 2 ^ 32 - 1

structure SnapshotSlot (n : ℕ) (β : Type) where
  guard : ℕ
  words : Fin n → β

/-- Where the writer stands in `publish`, named after its last step. -/
inductive PublishPhase (n : ℕ) (β : Type)
  | idle
  | called (value : Fin n → β)
  | targeted (value : Fin n → β) (target : ℕ)
  | counted (value : Fin n → β) (target epoch : ℕ)
  | copying (value : Fin n → β) (target epoch index : ℕ)
  | guarded (value : Fin n → β) (target : ℕ)

/-- Where a reader stands in `read`. -/
inductive ReadPhase (n : ℕ) (β : Type)
  | idle
  | attempt (number : ℕ)
  | selected (number active : ℕ)
  | copying (number active before index : ℕ) (copy : Fin n → β)
  | copied (number active before after : ℕ) (copy : Fin n → β)

/-- The slots are those below two. -/
structure LocalSnapshot (n : ℕ) (β ρ : Type) where
  slots : ℕ → SnapshotSlot n β
  activeIndex : ℕ
  epoch : ℕ
  writer : PublishPhase n β
  readers : ρ → ReadPhase n β

inductive SnapshotInput (n : ℕ) (β ρ : Type)
  | publish (value : Fin n → β)
  | advance
  | read (reader : ρ)
  | load (reader : ρ)

inductive SnapshotOutput (n : ℕ) (β ρ : Type)
  | quiet
  | called (value : Fin n → β)
  | published (value : Fin n → β)
  | opened (reader : ρ)
  | returned (reader : ρ) (result : Option (Fin n → β))

namespace SnapshotOutput

variable {n : ℕ} {β ρ : Type}

def called? : SnapshotOutput n β ρ → Option (Fin n → β)
  | .called value => some value
  | _ => none

def published? : SnapshotOutput n β ρ → Option (Fin n → β)
  | .published value => some value
  | _ => none

/-- Whether a publication ends with an output. -/
def ends : SnapshotOutput n β ρ → ℕ
  | .published _ => 1
  | _ => 0

end SnapshotOutput

namespace LocalSnapshot

variable {n : ℕ} {β ρ : Type}

def constructed [Inhabited β] : LocalSnapshot n β ρ where
  slots := fun _ => ⟨0, fun _ => default⟩
  activeIndex := kNoActiveSlot
  epoch := 0
  writer := .idle
  readers := fun _ => .idle

def setSlot (snapshot : LocalSnapshot n β ρ) (index : ℕ)
    (slot : SnapshotSlot n β) : LocalSnapshot n β ρ :=
  { snapshot with slots := Function.update snapshot.slots index slot }

def setWriter (snapshot : LocalSnapshot n β ρ) (phase : PublishPhase n β) :
    LocalSnapshot n β ρ :=
  { snapshot with writer := phase }

@[simp] theorem setSlot_self (snapshot : LocalSnapshot n β ρ) (index : ℕ)
    (slot : SnapshotSlot n β) :
    (snapshot.setSlot index slot).slots index = slot :=
  Function.update_self ..

theorem setSlot_of_ne (snapshot : LocalSnapshot n β ρ) {index other : ℕ}
    (slot : SnapshotSlot n β) (hother : other ≠ index) :
    (snapshot.setSlot index slot).slots other = snapshot.slots other :=
  Function.update_of_ne hother ..

/-! ## Publishing -/

/-- The next step of `publish`. -/
def advancePublish (snapshot : LocalSnapshot n β ρ) :
    LocalSnapshot n β ρ × SnapshotOutput n β ρ :=
  match snapshot.writer with
  | .idle => (snapshot, .quiet)
  | .called value =>
      let active := snapshot.activeIndex
      (snapshot.setWriter
        (.targeted value (if active < 2 then 1 - active else 0)), .quiet)
  | .targeted value target =>
      let epoch := (snapshot.epoch + 2) % 2 ^ 64
      ({ snapshot with
          epoch := epoch
          writer := .counted value target epoch }, .quiet)
  | .counted value target epoch =>
      ((snapshot.setSlot target
        ⟨epoch ||| 1, (snapshot.slots target).words⟩).setWriter
          (.copying value target epoch 0), .quiet)
  | .copying value target epoch index =>
      let slot := snapshot.slots target
      if h : index < n then
        ((snapshot.setSlot target ⟨slot.guard,
          Function.update slot.words ⟨index, h⟩ (value ⟨index, h⟩)⟩).setWriter
            (.copying value target epoch (index + 1)), .quiet)
      else
        ((snapshot.setSlot target ⟨epoch, slot.words⟩).setWriter
          (.guarded value target), .quiet)
  | .guarded value target =>
      ({ snapshot with
          activeIndex := target
          writer := .idle }, .published value)

/-! ## Reading -/

/-- `continue`, or the end of the loop. -/
def retry (reader : ρ) (number : ℕ) :
    ReadPhase n β × SnapshotOutput n β ρ :=
  if number + 1 < 16 then (.attempt (number + 1), .quiet)
  else (.idle, .returned reader none)

/-- The next step of `read`. -/
def advanceRead [Inhabited β] (snapshot : LocalSnapshot n β ρ) (reader : ρ) :
    ReadPhase n β × SnapshotOutput n β ρ :=
  match snapshot.readers reader with
  | .idle => (.idle, .quiet)
  | .attempt number =>
      let active := snapshot.activeIndex
      if 2 ≤ active then (.idle, .returned reader none)
      else (.selected number active, .quiet)
  | .selected number active =>
      let before := (snapshot.slots active).guard
      if before &&& 1 ≠ 0 then retry reader number
      else (.copying number active before 0 fun _ => default, .quiet)
  | .copying number active before index copy =>
      if h : index < n then
        (.copying number active before (index + 1)
          (Function.update copy ⟨index, h⟩
            ((snapshot.slots active).words ⟨index, h⟩)), .quiet)
      else
        (.copied number active before (snapshot.slots active).guard copy,
          .quiet)
  | .copied number active before after copy =>
      if before ≠ after ∨ after &&& 1 ≠ 0 ∨ snapshot.activeIndex ≠ active then
        retry reader number
      else (.idle, .returned reader (some copy))

section Steps

variable [DecidableEq ρ]

def setReader (snapshot : LocalSnapshot n β ρ) (reader : ρ)
    (phase : ReadPhase n β) : LocalSnapshot n β ρ :=
  { snapshot with readers := Function.update snapshot.readers reader phase }

def step [Inhabited β] (snapshot : LocalSnapshot n β ρ)
    (input : SnapshotInput n β ρ) :
    LocalSnapshot n β ρ × SnapshotOutput n β ρ :=
  match input with
  | .publish value =>
      match snapshot.writer with
      | .idle => (snapshot.setWriter (.called value), .called value)
      | _ => (snapshot, .quiet)
  | .advance => snapshot.advancePublish
  | .read reader =>
      match snapshot.readers reader with
      | .idle => (snapshot.setReader reader (.attempt 0), .opened reader)
      | _ => (snapshot, .quiet)
  | .load reader =>
      let (phase, output) := snapshot.advanceRead reader
      (snapshot.setReader reader phase, output)

def machine (n : ℕ) (β ρ : Type) [Inhabited β] [DecidableEq ρ] :
    Machine (LocalSnapshot n β ρ) (SnapshotInput n β ρ)
      (SnapshotOutput n β ρ) where
  step := step

end Steps

/-! ## Publications

Publications are numbered from one, in the order of the calls.  Number `k`
counts the epoch to `2 * k` and fills the slot `(k - 1) % 2`. -/

/-- No publication is under way in the slot, whose last one is at most
`bound`. -/
def Closed (begun : List (Fin n → β)) (bound index : ℕ)
    (slot : SnapshotSlot n β) : Prop :=
  ∃ k ≤ bound, slot.guard = 2 * k ∧
    (0 < k → (k - 1) % 2 = index ∧ begun[k - 1]? = some slot.words)

/-- The value of a publication which has not ended. -/
def Calling (begun : List (Fin n → β)) (done : ℕ) (value : Fin n → β) : Prop :=
  begun.length = done + 1 ∧ begun[done]? = some value

/-- The writer after `done` publications, with the slot of the next one. -/
def WriterOk (begun : List (Fin n → β)) (done epoch : ℕ)
    (slot : SnapshotSlot n β) : PublishPhase n β → Prop
  | .idle =>
      begun.length = done ∧ epoch = 2 * done ∧
        Closed begun done (done % 2) slot
  | .called value =>
      Calling begun done value ∧ epoch = 2 * done ∧
        Closed begun done (done % 2) slot
  | .targeted value target =>
      Calling begun done value ∧ epoch = 2 * done ∧
        Closed begun done (done % 2) slot ∧ target = done % 2
  | .counted value target current =>
      Calling begun done value ∧ epoch = 2 * (done + 1) ∧
        Closed begun done (done % 2) slot ∧ target = done % 2 ∧
        current = 2 * (done + 1)
  | .copying value target current index =>
      Calling begun done value ∧ epoch = 2 * (done + 1) ∧
        target = done % 2 ∧ current = 2 * (done + 1) ∧
        slot.guard = 2 * (done + 1) + 1 ∧ index ≤ n ∧
        ∀ i : Fin n, i.val < index → slot.words i = value i
  | .guarded value target =>
      Calling begun done value ∧ epoch = 2 * (done + 1) ∧
        target = done % 2 ∧ slot.guard = 2 * (done + 1) ∧ slot.words = value

/-- The state after `done` of the publications `begun`. -/
structure Sound (begun : List (Fin n → β)) (done : ℕ)
    (snapshot : LocalSnapshot n β ρ) : Prop where
  active : snapshot.activeIndex =
    if done = 0 then kNoActiveSlot else (done + 1) % 2
  standing : (snapshot.slots ((done + 1) % 2)).guard = 2 * done ∧
    (0 < done →
      begun[done - 1]? = some (snapshot.slots ((done + 1) % 2)).words)
  writer : WriterOk begun done snapshot.epoch (snapshot.slots (done % 2))
    snapshot.writer
  epoch : snapshot.epoch < 2 ^ 64

theorem sound_constructed [Inhabited β] :
    Sound [] 0 (constructed : LocalSnapshot n β ρ) where
  active := rfl
  standing := ⟨rfl, fun h => absurd h (lt_irrefl 0)⟩
  writer := ⟨rfl, rfl, 0, le_refl 0, rfl, fun h => absurd h (lt_irrefl 0)⟩
  epoch := Nat.two_pow_pos 64

/-- How a step of the writer changes a slot: its words change only under an odd
guard, and its generation never goes back. -/
def SlotMoves (old new : SnapshotSlot n β) : Prop :=
  new = old ∨ old.guard / 2 < new.guard / 2 ∨
    (old.guard % 2 = 1 ∧ old.guard / 2 ≤ new.guard / 2)

theorem slotMoves_refl (slot : SnapshotSlot n β) : SlotMoves slot slot :=
  Or.inl rfl

theorem slotMoves_setSlot {snapshot : LocalSnapshot n β ρ} {index : ℕ}
    {slot : SnapshotSlot n β}
    (hslot : SlotMoves (snapshot.slots index) slot) (other : ℕ) :
    SlotMoves (snapshot.slots other)
      ((snapshot.setSlot index slot).slots other) := by
  by_cases hother : other = index
  · rw [hother, setSlot_self]
    exact hslot
  · rw [setSlot_of_ne snapshot slot hother]
    exact slotMoves_refl _

variable {begun : List (Fin n → β)} {done : ℕ}
  {snapshot next : LocalSnapshot n β ρ}

/-- Before its last step a publication leaves the active slot alone. -/
theorem Sound.of_writer (h : Sound begun done snapshot)
    (hactive : next.activeIndex = snapshot.activeIndex)
    (hstanding : next.slots ((done + 1) % 2) =
      snapshot.slots ((done + 1) % 2))
    (hwriter : WriterOk begun done next.epoch (next.slots (done % 2))
      next.writer)
    (hepoch : next.epoch < 2 ^ 64) : Sound begun done next where
  active := hactive.trans h.active
  standing := by
    rw [hstanding]
    exact h.standing
  writer := hwriter
  epoch := hepoch

theorem Sound.of_target {slot : SnapshotSlot n β} {phase : PublishPhase n β}
    (h : Sound begun done snapshot)
    (hwriter : WriterOk begun done snapshot.epoch slot phase) :
    Sound begun done
      ((snapshot.setSlot (done % 2) slot).setWriter phase) := by
  apply h.of_writer
  · rfl
  · exact setSlot_of_ne snapshot slot (by omega)
  · unfold setWriter
    dsimp only
    rw [setSlot_self]
    exact hwriter
  · exact h.epoch

/-- What a step of the writer does to the rest. -/
structure Advanced (begun : List (Fin n → β)) (done : ℕ)
    (snapshot : LocalSnapshot n β ρ)
    (result : LocalSnapshot n β ρ × SnapshotOutput n β ρ) : Prop where
  sound : Sound begun (done + SnapshotOutput.ends result.2) result.1
  output : result.2 = .quiet ∨
    ∃ value, result.2 = .published value ∧ begun[done]? = some value
  moves : ∀ index, SlotMoves (snapshot.slots index) (result.1.slots index)
  readers : result.1.readers = snapshot.readers

theorem Sound.advance_called {value : Fin n → β}
    (h : Sound begun done snapshot)
    (hphase : snapshot.writer = .called value) :
    Advanced begun done snapshot snapshot.advancePublish := by
  have hwriter := h.writer
  rw [hphase] at hwriter
  obtain ⟨hcalling, hcount, hclosed⟩ := hwriter
  unfold advancePublish
  rw [hphase]
  refine ⟨h.of_writer rfl rfl ⟨hcalling, hcount, hclosed, ?_⟩ h.epoch,
    Or.inl rfl, fun _ => slotMoves_refl _, rfl⟩
  rw [h.active]
  by_cases hzero : done = 0
  · rw [if_pos hzero, hzero]
    rfl
  · rw [if_neg hzero, if_pos (Nat.mod_lt _ (by omega))]
    omega

theorem Sound.advance_targeted {value : Fin n → β} {target : ℕ}
    (h : Sound begun done snapshot)
    (hepoch : snapshot.epoch ≤ snapshot.advancePublish.1.epoch)
    (hphase : snapshot.writer = .targeted value target) :
    Advanced begun done snapshot snapshot.advancePublish := by
  have hwriter := h.writer
  rw [hphase] at hwriter
  obtain ⟨hcalling, hcount, hclosed, htarget⟩ := hwriter
  have hbound := h.epoch
  unfold advancePublish at hepoch ⊢
  rw [hphase] at hepoch ⊢
  dsimp only at hepoch
  have hnext : (snapshot.epoch + 2) % 2 ^ 64 = 2 * (done + 1) := by
    omega
  exact ⟨h.of_writer rfl rfl ⟨hcalling, hnext, hclosed, htarget, hnext⟩
      (Nat.mod_lt _ (Nat.two_pow_pos 64)),
    Or.inl rfl, fun _ => slotMoves_refl _, rfl⟩

theorem Sound.advance_counted {value : Fin n → β} {target current : ℕ}
    (h : Sound begun done snapshot)
    (hphase : snapshot.writer = .counted value target current) :
    Advanced begun done snapshot snapshot.advancePublish := by
  have hwriter := h.writer
  rw [hphase] at hwriter
  obtain ⟨hcalling, hcount, ⟨k, hk, hguard, -⟩, rfl, rfl⟩ := hwriter
  have hodd : 2 * (done + 1) ||| 1 = 2 * (done + 1) + 1 :=
    (Nat.two_pow_add_eq_or_of_lt (i := 1) (by omega) (done + 1)).symm
  unfold advancePublish
  rw [hphase]
  dsimp only
  rw [hodd]
  refine ⟨h.of_target ⟨hcalling, hcount, rfl, rfl, rfl, Nat.zero_le n, ?_⟩,
    Or.inl rfl, slotMoves_setSlot (Or.inr (Or.inl ?_)), rfl⟩
  · intro i hi
    exact absurd hi (Nat.not_lt_zero _)
  · dsimp only
    omega

theorem Sound.advance_copying {value : Fin n → β}
    {target current index : ℕ} (h : Sound begun done snapshot)
    (hphase : snapshot.writer = .copying value target current index) :
    Advanced begun done snapshot snapshot.advancePublish := by
  have hwriter := h.writer
  rw [hphase] at hwriter
  obtain ⟨hcalling, hcount, rfl, rfl, hguard, hindex, hwords⟩ := hwriter
  unfold advancePublish
  rw [hphase]
  dsimp only
  by_cases hlt : index < n
  · rw [dif_pos hlt]
    refine ⟨h.of_target ⟨hcalling, hcount, rfl, rfl, hguard, hlt, ?_⟩,
      Or.inl rfl, slotMoves_setSlot (Or.inr (Or.inr ⟨by omega, le_refl _⟩)),
      rfl⟩
    intro i hi
    by_cases hlast : i = ⟨index, hlt⟩
    · rw [hlast]
      exact Function.update_self ..
    · have hold : i.val < index := by
        have hne : i.val ≠ index := fun heq => hlast (Fin.ext heq)
        omega
      exact (Function.update_of_ne hlast ..).trans (hwords i hold)
  · rw [dif_neg hlt]
    refine ⟨h.of_target ⟨hcalling, hcount, rfl, rfl, ?_⟩,
      Or.inl rfl, slotMoves_setSlot (Or.inr (Or.inr ⟨by omega, ?_⟩)), rfl⟩
    · funext i
      exact hwords i (by omega)
    · dsimp only
      omega

theorem Sound.advance_guarded {value : Fin n → β} {target : ℕ}
    (h : Sound begun done snapshot)
    (hphase : snapshot.writer = .guarded value target) :
    Advanced begun done snapshot snapshot.advancePublish := by
  have hwriter := h.writer
  rw [hphase] at hwriter
  obtain ⟨⟨hlength, hvalue⟩, hcount, rfl, hguard, hwords⟩ := hwriter
  have hsame : (done + 1 + 1) % 2 = done % 2 := by omega
  have hstep : snapshot.advancePublish =
      ({ snapshot with activeIndex := done % 2, writer := .idle },
        .published value) := by
    unfold advancePublish
    rw [hphase]
  rw [hstep]
  refine ⟨⟨?_, ?_, ⟨hlength, hcount, done, Nat.le_succ done, h.standing.1, ?_⟩,
      h.epoch⟩, Or.inr ⟨value, rfl, hvalue⟩, fun _ => slotMoves_refl _, rfl⟩
  · show done % 2 = if done + 1 = 0 then kNoActiveSlot else (done + 1 + 1) % 2
    rw [if_neg (Nat.succ_ne_zero done), hsame]
  · show (snapshot.slots ((done + 1 + 1) % 2)).guard = 2 * (done + 1) ∧
      (0 < done + 1 → begun[done + 1 - 1]? =
        some (snapshot.slots ((done + 1 + 1) % 2)).words)
    rw [hsame, hguard, hwords]
    exact ⟨rfl, fun _ => hvalue⟩
  · intro hpositive
    have hparity : (done - 1) % 2 = (done + 1) % 2 := by omega
    exact ⟨hparity, h.standing.2 hpositive⟩

/-- A step of the writer. -/
theorem Sound.advancePublish (h : Sound begun done snapshot)
    (hepoch : snapshot.epoch ≤ snapshot.advancePublish.1.epoch) :
    Advanced begun done snapshot snapshot.advancePublish := by
  cases hphase : snapshot.writer with
  | idle =>
      unfold LocalSnapshot.advancePublish
      rw [hphase]
      exact ⟨h, Or.inl rfl, fun _ => slotMoves_refl _, rfl⟩
  | called value => exact h.advance_called hphase
  | targeted value target => exact h.advance_targeted hepoch hphase
  | counted value target current => exact h.advance_counted hphase
  | copying value target current index => exact h.advance_copying hphase
  | guarded value target => exact h.advance_guarded hphase

/-- A call of `publish`. -/
theorem Sound.publish (h : Sound begun done snapshot) (value : Fin n → β)
    (hidle : snapshot.writer = .idle) :
    Sound (begun ++ [value]) done
      (snapshot.setWriter (.called value)) where
  active := h.active
  standing := by
    refine ⟨h.standing.1, ?_⟩
    intro hpositive
    exact getElem?_of_isPrefix (List.prefix_append _ _)
      (h.standing.2 hpositive)
  writer := by
    have hwriter := h.writer
    rw [hidle] at hwriter
    obtain ⟨hlength, hcount, k, hk, hguard, hwords⟩ := hwriter
    refine ⟨⟨?_, ?_⟩, hcount, k, hk, hguard, ?_⟩
    · rw [List.length_append, hlength]
      rfl
    · rw [← hlength]
      exact List.getElem?_concat_length
    · intro hpositive
      exact ⟨(hwords hpositive).1, getElem?_of_isPrefix
        (List.prefix_append _ _) (hwords hpositive).2⟩
  epoch := h.epoch

end LocalSnapshot

end PolicyRuntime
