import Mathlib.Tactic

/-!
# Versioned cells

One writer copies a value into a row of cells and counts its version word up
before and after the copy.  A reader copies the cells out between two readings
of the version word and keeps the copy when both readings are the same even
number.  The word has a fixed width, so the copy is one stored value as long as
the word has not come around between the two readings.
-/

namespace PolicyRuntime

variable {n : ℕ} {β : Type}

/-- Where a reader stands in its attempts. -/
inductive LoadPhase (n : ℕ) (β : Type)
  | attempt (number : ℕ)
  | reading (number before index : ℕ) (copy : Fin n → β)

/-- The version counts without bound.  Readers see it modulo the word. -/
structure SeqLock (n : ℕ) (β : Type) where
  version : ℕ
  cells : Fin n → β
  store : Option ((Fin n → β) × ℕ)
  load : LoadPhase n β

/-- What a step of a reader ends with. -/
inductive LoadResult (n : ℕ) (β : Type)
  | running
  | empty
  | loaded (value : Fin n → β)

namespace SeqLock

def constructed [Inhabited β] : SeqLock n β where
  version := 0
  cells := fun _ => default
  store := none
  load := .attempt 0

def beginStore (lock : SeqLock n β) (value : Fin n → β) : SeqLock n β :=
  { lock with
    version := lock.version + 1
    store := some (value, 0) }

/-- The next cell of the value that is being stored, or the last count of the
version. -/
def advanceStore (lock : SeqLock n β) : SeqLock n β :=
  match lock.store with
  | none => lock
  | some (value, index) =>
      if h : index < n then
        { lock with
          cells := Function.update lock.cells ⟨index, h⟩ (value ⟨index, h⟩)
          store := some (value, index + 1) }
      else
        { lock with
          version := lock.version + 1
          store := none }

section Load

variable [Inhabited β] (width attempts : ℕ)

def retry (lock : SeqLock n β) (number : ℕ) :
    SeqLock n β × LoadResult n β :=
  if number + 1 < attempts then
    ({ lock with load := .attempt (number + 1) }, .running)
  else
    ({ lock with load := .attempt 0 }, .empty)

def advanceLoad (lock : SeqLock n β) : SeqLock n β × LoadResult n β :=
  match lock.load with
  | .attempt number =>
      let before := lock.version % 2 ^ width
      if before % 2 ≠ 0 ∨ before = 0 then
        lock.retry attempts number
      else
        ({ lock with
            load := .reading number lock.version 0 fun _ => default },
          .running)
  | .reading number before index copy =>
      if h : index < n then
        ({ lock with
            load := .reading number before (index + 1)
              (Function.update copy ⟨index, h⟩ (lock.cells ⟨index, h⟩)) },
          .running)
      else
        let after := lock.version % 2 ^ width
        if before % 2 ^ width ≠ after ∨ after % 2 ≠ 0 then
          lock.retry attempts number
        else
          ({ lock with load := .attempt 0 }, .loaded copy)

end Load

/-- Loading leaves the writer's part alone. -/
theorem advanceLoad_store [Inhabited β] (width attempts : ℕ)
    (lock : SeqLock n β) :
    (lock.advanceLoad width attempts).1.store = lock.store := by
  unfold advanceLoad retry
  split
  · simp only
    split
    · split <;> rfl
    · rfl
  · split
    · rfl
    · simp only
      split
      · split <;> rfl
      · rfl

theorem advanceLoad_version [Inhabited β] (width attempts : ℕ)
    (lock : SeqLock n β) :
    (lock.advanceLoad width attempts).1.version = lock.version := by
  unfold advanceLoad retry
  split
  · simp only
    split
    · split <;> rfl
    · rfl
  · split
    · rfl
    · simp only
      split
      · split <;> rfl
      · rfl

theorem retry_load {attempts number : ℕ} {lock : SeqLock n β}
    (hover : (lock.retry attempts number).2 ≠ .running) :
    (lock.retry attempts number).1.load = .attempt 0 := by
  unfold retry at hover ⊢
  by_cases hmore : number + 1 < attempts
  · rw [if_pos hmore] at hover
    exact absurd rfl hover
  · rw [if_neg hmore]

/-- A load which is over leaves the lock ready for the next one. -/
theorem advanceLoad_load [Inhabited β] {width attempts : ℕ}
    {lock : SeqLock n β}
    (hover : (lock.advanceLoad width attempts).2 ≠ .running) :
    (lock.advanceLoad width attempts).1.load = .attempt 0 := by
  generalize hresult : lock.advanceLoad width attempts = result at hover ⊢
  unfold advanceLoad at hresult
  split at hresult
  · simp only at hresult
    split at hresult
    · rw [← hresult] at hover ⊢
      exact retry_load hover
    · rw [← hresult] at hover
      exact absurd rfl hover
  · split at hresult
    · rw [← hresult] at hover
      exact absurd rfl hover
    · simp only at hresult
      split at hresult
      · rw [← hresult] at hover ⊢
        exact retry_load hover
      · rw [← hresult]

/-! ### Loads during which the lock rests -/

theorem advanceLoad_attempt [Inhabited β] {width attempts number : ℕ}
    {lock : SeqLock n β} (hload : lock.load = .attempt number)
    (heven : lock.version % 2 = 0) (hpos : 0 < lock.version)
    (hlt : lock.version < 2 ^ width) :
    lock.advanceLoad width attempts =
      ({ lock with load := .reading number lock.version 0 fun _ => default },
        .running) := by
  unfold advanceLoad
  rw [hload]
  dsimp only
  rw [Nat.mod_eq_of_lt hlt, if_neg (by omega)]

theorem advanceLoad_cell [Inhabited β]
    {width attempts number before index : ℕ} {copy : Fin n → β}
    {lock : SeqLock n β}
    (hload : lock.load = .reading number before index copy)
    (hindex : index < n) :
    lock.advanceLoad width attempts =
      ({ lock with
          load := .reading number before (index + 1)
            (Function.update copy ⟨index, hindex⟩
              (lock.cells ⟨index, hindex⟩)) }, .running) := by
  unfold advanceLoad
  rw [hload]
  dsimp only
  rw [dif_pos hindex]

theorem advanceLoad_last [Inhabited β] {width attempts number : ℕ}
    {copy : Fin n → β} {lock : SeqLock n β}
    (hload : lock.load = .reading number lock.version n copy)
    (heven : lock.version % 2 = 0) (hlt : lock.version < 2 ^ width) :
    lock.advanceLoad width attempts =
      ({ lock with load := .attempt 0 }, .loaded copy) := by
  unfold advanceLoad
  rw [hload]
  dsimp only
  rw [dif_neg (lt_irrefl n), Nat.mod_eq_of_lt hlt, if_neg (by omega)]

theorem advanceStore_load (lock : SeqLock n β) :
    lock.advanceStore.load = lock.load := by
  unfold advanceStore
  split
  · rfl
  · split <;> rfl

theorem version_le_advanceStore (lock : SeqLock n β) :
    lock.version ≤ lock.advanceStore.version := by
  unfold advanceStore
  split
  · exact le_refl _
  · split
    · exact le_refl _
    · exact Nat.le_succ _

/-! ## Stored values -/

/-- The value of the lock has a property, and a copy follows the cells while the
version stands still. -/
structure Sound (Stored : (Fin n → β) → Prop) (lock : SeqLock n β) :
    Prop where
  idle : lock.store = none →
    lock.version % 2 = 0 ∧ (0 < lock.version → Stored lock.cells)
  storing : ∀ {value index}, lock.store = some (value, index) →
    lock.version % 2 = 1 ∧ Stored value ∧ index ≤ n ∧
      ∀ i : Fin n, i.val < index → lock.cells i = value i
  loading : ∀ {number before index copy},
    lock.load = .reading number before index copy →
    before % 2 = 0 ∧ 0 < before ∧ before ≤ lock.version ∧ index ≤ n ∧
      (lock.version = before →
        ∀ i : Fin n, i.val < index → copy i = lock.cells i)

variable {Stored Stored' : (Fin n → β) → Prop} {lock : SeqLock n β}

theorem sound_constructed [Inhabited β] :
    (constructed : SeqLock n β).Sound Stored where
  idle := by
    intro _
    exact ⟨rfl, fun h => absurd h (lt_irrefl 0)⟩
  storing := by
    intro value index h
    cases h
  loading := by
    intro number before index copy h
    cases h

theorem Sound.mono (h : lock.Sound Stored)
    (himp : ∀ value, Stored value → Stored' value) : lock.Sound Stored' where
  idle := by
    intro hidle
    exact ⟨(h.idle hidle).1, fun hpos => himp _ ((h.idle hidle).2 hpos)⟩
  storing := by
    intro value index hstore
    obtain ⟨hodd, hvalue, hrest⟩ := h.storing hstore
    exact ⟨hodd, himp value hvalue, hrest⟩
  loading := h.loading

/-- A store may change what is said about the stored value. -/
theorem Sound.beginStore (h : lock.Sound Stored) (hidle : lock.store = none)
    {value : Fin n → β} (hvalue : Stored' value) :
    (lock.beginStore value).Sound Stored' where
  idle := by
    intro hstore
    cases hstore
  storing := by
    intro stored index hstore
    cases hstore
    have heven := (h.idle hidle).1
    refine ⟨?_, hvalue, Nat.zero_le n, fun i hi => absurd hi (Nat.not_lt_zero _)⟩
    change (lock.version + 1) % 2 = 1
    omega
  loading := by
    intro number before index copy hload
    obtain ⟨heven, hpos, hle, hindex, _⟩ := h.loading hload
    refine ⟨heven, hpos, ?_, hindex, ?_⟩
    · change before ≤ lock.version + 1
      omega
    · intro hversion
      change lock.version + 1 = before at hversion
      omega

theorem Sound.advanceStore (h : lock.Sound Stored) :
    lock.advanceStore.Sound Stored := by
  unfold SeqLock.advanceStore
  split
  · exact h
  · next value index hstore =>
      obtain ⟨hodd, hvalue, hindex, hcells⟩ := h.storing hstore
      split
      · next hlt =>
          refine ⟨fun hnone => (by cases hnone), ?_, ?_⟩
          · intro stored next hnext
            cases hnext
            refine ⟨hodd, hvalue, hlt, ?_⟩
            intro i hi
            by_cases hi' : i = ⟨index, hlt⟩
            · subst hi'
              exact Function.update_self ..
            · have hbelow : i.val < index := by
                have hne : i.val ≠ index := fun heq => hi' (Fin.ext heq)
                omega
              exact (Function.update_of_ne hi' _ _).trans (hcells i hbelow)
          · intro number before position copy hload
            obtain ⟨heven, hpos, hle, hposition, _⟩ := h.loading hload
            refine ⟨heven, hpos, hle, hposition, ?_⟩
            intro hversion
            change lock.version = before at hversion
            omega
      · next hge =>
          have hsame : lock.cells = value := by
            funext i
            exact hcells i (by omega)
          refine ⟨?_, fun hnext => (by cases hnext), ?_⟩
          · intro _
            refine ⟨?_, fun _ => ?_⟩
            · change (lock.version + 1) % 2 = 0
              omega
            · change Stored lock.cells
              rw [hsame]
              exact hvalue
          · intro number before position copy hload
            obtain ⟨heven, hpos, hle, hposition, _⟩ := h.loading hload
            refine ⟨heven, hpos, ?_, hposition, ?_⟩
            · change before ≤ lock.version + 1
              omega
            · intro hversion
              change lock.version + 1 = before at hversion
              omega

section Load

variable [Inhabited β] {width attempts : ℕ}

omit [Inhabited β] in
theorem Sound.attempt (h : lock.Sound Stored) (number : ℕ) :
    { lock with load := .attempt number }.Sound Stored where
  idle := h.idle
  storing := h.storing
  loading := by
    intro number before index copy hload
    cases hload

omit [Inhabited β] in
theorem Sound.retry (h : lock.Sound Stored) (number : ℕ) :
    (lock.retry attempts number).1.Sound Stored := by
  unfold SeqLock.retry
  split
  · exact h.attempt _
  · exact h.attempt _

theorem Sound.advanceLoad (hwidth : 0 < width) (h : lock.Sound Stored) :
    (lock.advanceLoad width attempts).1.Sound Stored := by
  unfold SeqLock.advanceLoad
  split
  · next number hload =>
      simp only
      split
      · exact h.retry number
      · next heven =>
          refine ⟨h.idle, h.storing, ?_⟩
          intro number' before index copy hreading
          cases hreading
          have hparity : lock.version % 2 ^ width % 2 = lock.version % 2 :=
            Nat.mod_mod_of_dvd _ (dvd_pow_self 2 (by omega))
          refine ⟨by omega, ?_, le_rfl, Nat.zero_le n, ?_⟩
          · apply Nat.pos_of_ne_zero
            intro hzero
            rw [hzero, Nat.zero_mod] at heven
            exact heven (Or.inr rfl)
          · intro _ i hi
            exact absurd hi (Nat.not_lt_zero _)
  · next number before index copy hload =>
      obtain ⟨heven, hpos, hle, hindex, hcopy⟩ := h.loading hload
      split
      · next hlt =>
          refine ⟨h.idle, h.storing, ?_⟩
          intro number' before' index' copy' hreading
          cases hreading
          refine ⟨heven, hpos, hle, hlt, ?_⟩
          intro hversion i hi
          by_cases hi' : i = ⟨index, hlt⟩
          · subst hi'
            exact Function.update_self ..
          · have hbelow : i.val < index := by
              have hne : i.val ≠ index := fun heq => hi' (Fin.ext heq)
              omega
            exact (Function.update_of_ne hi' _ _).trans
              (hcopy hversion i hbelow)
      · simp only
        split
        · exact h.retry number
        · exact h.attempt 0

/-- The version word has not come around since the load read it first. -/
def Fresh (width : ℕ) (lock : SeqLock n β) : Prop :=
  ∀ {number before index copy},
    lock.load = .reading number before index copy →
      lock.version < before + 2 ^ width

omit [Inhabited β] in
theorem retry_ne_loaded {number : ℕ} {value : Fin n → β} :
    (lock.retry attempts number).2 ≠ .loaded value := by
  unfold SeqLock.retry
  split <;> simp

/-- What is loaded was stored. -/
theorem Sound.loaded (hwidth : 0 < width) (h : lock.Sound Stored)
    (hfresh : lock.Fresh width) {value : Fin n → β}
    (hloaded : (lock.advanceLoad width attempts).2 = .loaded value) :
    Stored value := by
  unfold SeqLock.advanceLoad at hloaded
  split at hloaded
  · simp only at hloaded
    split at hloaded
    · exact absurd hloaded retry_ne_loaded
    · cases hloaded
  · next number before index copy hload =>
      obtain ⟨heven, hpos, hle, hindex, hcopy⟩ := h.loading hload
      have hbound := hfresh hload
      split at hloaded
      · cases hloaded
      · simp only at hloaded
        split at hloaded
        · exact absurd hloaded retry_ne_loaded
        · next hge hsame =>
            cases hloaded
            have hparity : lock.version % 2 ^ width % 2 = lock.version % 2 :=
              Nat.mod_mod_of_dvd _ (dvd_pow_self 2 (by omega))
            have hversion : lock.version = before := by
              have hmod : before % 2 ^ width = lock.version % 2 ^ width := by
                by_contra hne
                exact hsame (Or.inl hne)
              have hdvd := (Nat.modEq_iff_dvd' hle).mp hmod
              have hzero := Nat.eq_zero_of_dvd_of_lt hdvd (by omega)
              omega
            have hidle : lock.store = none := by
              cases hstore : lock.store with
              | none => rfl
              | some stored =>
                  have hodd := (h.storing hstore).1
                  omega
            have hcells : value = lock.cells := by
              funext i
              exact hcopy hversion i (by omega)
            rw [hcells]
            exact (h.idle hidle).2 (by omega)

end Load

end SeqLock

end PolicyRuntime
