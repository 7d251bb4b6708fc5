import PolicyRuntime.LocalSnapshot

/-!
# Reads of a local snapshot

A read which returns a value has copied one whole publication, and that
publication was the active one at some moment of the call.  Publications are
compared by their numbers, so successive reads of one reader never go back.
-/

namespace PolicyRuntime.LocalSnapshot

variable {n : ℕ} {β ρ : Type}

/-! ## Histories -/

/-- The arguments of the calls of `publish`. -/
def calls (outputs : List (SnapshotOutput n β ρ)) : List (Fin n → β) :=
  outputs.filterMap SnapshotOutput.called?

/-- The publications whose slot has become active.  The last of them is the
active one. -/
def publications (outputs : List (SnapshotOutput n β ρ)) :
    List (Fin n → β) :=
  outputs.filterMap SnapshotOutput.published?

/-- The words of the active slot. -/
def activeWords (snapshot : LocalSnapshot n β ρ) : Option (Fin n → β) :=
  if snapshot.activeIndex < 2 then
    some (snapshot.slots snapshot.activeIndex).words
  else none

/-- The number of the active publication after some steps of a history. -/
def activeNumber (outputs : List (SnapshotOutput n β ρ)) (moment : ℕ) : ℕ :=
  (publications (outputs.take moment)).length

/-- One call of `read`, from the step which opens it to the one which
returns. -/
structure ReadCall (outputs : List (SnapshotOutput n β ρ)) (reader : ρ)
    (start finish : ℕ) (result : Option (Fin n → β)) : Prop where
  before : start < finish
  opened : outputs[start]? = some (.opened reader)
  returned : outputs[finish]? = some (.returned reader result)
  alone : ∀ position, start < position → position < finish →
    ∀ other, outputs[position]? ≠ some (.returned reader other)

theorem activeNumber_mono (outputs : List (SnapshotOutput n β ρ))
    {moment later : ℕ} (hle : moment ≤ later) :
    activeNumber outputs moment ≤ activeNumber outputs later := by
  unfold activeNumber
  exact ((List.take_prefix_take_left hle).sublist.filterMap _).length_le

/-- Calls of one reader do not overlap. -/
theorem ReadCall.le_start {outputs : List (SnapshotOutput n β ρ)}
    {reader : ρ} {start finish start' finish' : ℕ}
    {result result' : Option (Fin n → β)}
    (h : ReadCall outputs reader start finish result)
    (h' : ReadCall outputs reader start' finish' result')
    (hlt : finish < finish') : finish ≤ start' := by
  by_contra hover
  exact h'.alone finish (by omega) hlt result h.returned

/-! ## Copies -/

/-- The slot holds the publication of a generation, or a later one has begun
there. -/
def Generation (value : Fin n → β) (k : ℕ) (slot : SnapshotSlot n β) : Prop :=
  (slot.guard = 2 * k ∧ slot.words = value) ∨ k < slot.guard / 2

/-- A copy is not older than the publication which was active at the beginning
of the call. -/
structure CopiedFrom (begun : List (Fin n → β)) (first active k : ℕ)
    (value : Fin n → β) : Prop where
  fresh : first ≤ k
  positive : 0 < k
  parity : (k - 1) % 2 = active
  begun : begun[k - 1]? = some value

/-- A reader whose call began after `first` publications. -/
def ReaderOk (begun : List (Fin n → β)) (first : ℕ)
    (slots : ℕ → SnapshotSlot n β) : ReadPhase n β → Prop
  | .idle => True
  | .attempt _ => True
  | .selected _ active =>
      active < 2 ∧ first ≤ (slots active).guard / 2 ∧
        0 < (slots active).guard / 2
  | .copying _ active before index copy =>
      index ≤ n ∧ ∃ k value, before = 2 * k ∧
        CopiedFrom begun first active k value ∧
        Generation value k (slots active) ∧
        ((slots active).guard = 2 * k →
          ∀ i : Fin n, i.val < index → copy i = value i)
  | .copied _ active before after copy =>
      before = after → ∃ k, k ≤ (slots active).guard / 2 ∧
        CopiedFrom begun first active k copy

theorem CopiedFrom.mono {begun later : List (Fin n → β)}
    {first active k : ℕ} {value : Fin n → β}
    (h : CopiedFrom begun first active k value) (hlater : begun <+: later) :
    CopiedFrom later first active k value where
  fresh := h.fresh
  positive := h.positive
  parity := h.parity
  begun := getElem?_of_isPrefix hlater h.begun

theorem SlotMoves.generation_le {old new : SnapshotSlot n β}
    (h : SlotMoves old new) : old.guard / 2 ≤ new.guard / 2 := by
  rcases h with rfl | hlt | ⟨-, hle⟩
  · exact le_refl _
  · exact hlt.le
  · exact hle

theorem Generation.of_moves {value : Fin n → β} {k : ℕ}
    {old new : SnapshotSlot n β} (h : Generation value k old)
    (hmoves : SlotMoves old new) : Generation value k new := by
  have hle := hmoves.generation_le
  rcases h with ⟨hguard, hwords⟩ | hlater
  · rcases hmoves with rfl | hlt | ⟨hodd, -⟩
    · exact Or.inl ⟨hguard, hwords⟩
    · exact Or.inr (by omega)
    · omega
  · exact Or.inr (by omega)

/-- A guard which has moved on never comes back. -/
theorem Generation.guard_back {value : Fin n → β} {k : ℕ}
    {old new : SnapshotSlot n β} (h : Generation value k old)
    (hmoves : SlotMoves old new) (hnew : new.guard = 2 * k) :
    old.guard = 2 * k := by
  have hle := hmoves.generation_le
  rcases h with ⟨hguard, -⟩ | hlater
  · exact hguard
  · omega

/-- A reader is right whatever the writer does. -/
theorem ReaderOk.of_moves {begun later : List (Fin n → β)} {first : ℕ}
    {slots slots' : ℕ → SnapshotSlot n β} {phase : ReadPhase n β}
    (h : ReaderOk begun first slots phase) (hlater : begun <+: later)
    (hmoves : ∀ index, SlotMoves (slots index) (slots' index)) :
    ReaderOk later first slots' phase := by
  cases phase with
  | idle => trivial
  | attempt number => trivial
  | selected number active =>
      obtain ⟨hactive, hfirst, hpositive⟩ := h
      have hle := (hmoves active).generation_le
      exact ⟨hactive, hfirst.trans hle, hpositive.trans_le hle⟩
  | copying number active before index copy =>
      obtain ⟨hindex, k, value, hbefore, hcopied, hgeneration, hcopy⟩ := h
      refine ⟨hindex, k, value, hbefore, hcopied.mono hlater,
        hgeneration.of_moves (hmoves active), ?_⟩
      intro hguard
      exact hcopy (hgeneration.guard_back (hmoves active) hguard)
  | copied number active before after copy =>
      intro hsame
      obtain ⟨k, hk, hcopied⟩ := h hsame
      exact ⟨k, hk.trans (hmoves active).generation_le, hcopied.mono hlater⟩

/-! ## Steps of a reader -/

variable {begun : List (Fin n → β)} {done first : ℕ}
  {snapshot : LocalSnapshot n β ρ}

/-- The slot of an active publication, and the slot of the next one before the
copy has begun, hold what their generation says. -/
theorem Sound.of_even (h : Sound begun done snapshot) {active : ℕ}
    (hactive : active < 2)
    (heven : (snapshot.slots active).guard % 2 = 0) :
    ∃ k, (snapshot.slots active).guard = 2 * k ∧
      (0 < k → (k - 1) % 2 = active ∧
        begun[k - 1]? = some (snapshot.slots active).words) := by
  by_cases hstanding : active = (done + 1) % 2
  · rw [hstanding]
    refine ⟨done, h.standing.1, ?_⟩
    intro hpositive
    exact ⟨by omega, h.standing.2 hpositive⟩
  · have htarget : active = done % 2 := by omega
    have hwriter := h.writer
    rw [htarget] at heven ⊢
    cases hphase : snapshot.writer with
    | idle =>
        rw [hphase] at hwriter
        obtain ⟨-, -, k, -, hk⟩ := hwriter
        exact ⟨k, hk⟩
    | called value =>
        rw [hphase] at hwriter
        obtain ⟨-, -, k, -, hk⟩ := hwriter
        exact ⟨k, hk⟩
    | targeted value target =>
        rw [hphase] at hwriter
        obtain ⟨-, -, ⟨k, -, hk⟩, -⟩ := hwriter
        exact ⟨k, hk⟩
    | counted value target current =>
        rw [hphase] at hwriter
        obtain ⟨-, -, ⟨k, -, hk⟩, -⟩ := hwriter
        exact ⟨k, hk⟩
    | copying value target current index =>
        rw [hphase] at hwriter
        have hodd := hwriter.2.2.2.2.1
        omega
    | guarded value target =>
        rw [hphase] at hwriter
        obtain ⟨⟨-, hvalue⟩, -, -, hguard, hwords⟩ := hwriter
        refine ⟨done + 1, hguard, ?_⟩
        intro _
        rw [hwords]
        exact ⟨rfl, hvalue⟩

theorem Sound.active_lt (h : Sound begun done snapshot)
    (hactive : snapshot.activeIndex < 2) :
    0 < done ∧ snapshot.activeIndex = (done + 1) % 2 ∧
      (snapshot.slots snapshot.activeIndex).guard = 2 * done := by
  have hindex := h.active
  by_cases hzero : done = 0
  · rw [if_pos hzero] at hindex
    unfold kNoActiveSlot at hindex
    omega
  · rw [if_neg hzero] at hindex
    rw [hindex]
    exact ⟨Nat.pos_of_ne_zero hzero, rfl, h.standing.1⟩

/-- What a step of a reader leaves, and what it returns. -/
structure Stepped (begun : List (Fin n → β)) (first done : ℕ)
    (slots : ℕ → SnapshotSlot n β) (reader : ρ)
    (result : ReadPhase n β × SnapshotOutput n β ρ) : Prop where
  phase : ReaderOk begun first slots result.1
  output : result.2 = .quiet ∨
    (result.1 = .idle ∧ ∃ value, result.2 = .returned reader value)
  value : ∀ value, result.2 = .returned reader (some value) →
    ∃ k active, k ≤ done ∧ CopiedFrom begun first active k value

theorem stepped_quiet {slots : ℕ → SnapshotSlot n β} {reader : ρ}
    {phase : ReadPhase n β} (hphase : ReaderOk begun first slots phase) :
    Stepped begun first done slots reader (phase, .quiet) where
  phase := hphase
  output := Or.inl rfl
  value := by
    intro value h
    cases h

theorem stepped_none {slots : ℕ → SnapshotSlot n β} {reader : ρ} :
    Stepped begun first done slots reader (.idle, .returned reader none) where
  phase := trivial
  output := Or.inr ⟨rfl, none, rfl⟩
  value := by
    intro value h
    cases h

theorem stepped_retry {slots : ℕ → SnapshotSlot n β} {reader : ρ}
    {number : ℕ} :
    Stepped begun first done slots reader (retry reader number) := by
  unfold retry
  split
  · exact stepped_quiet trivial
  · exact stepped_none

theorem and_one_ne_zero_iff (word : ℕ) : word &&& 1 ≠ 0 ↔ word % 2 = 1 := by
  rw [Nat.and_one_is_mod]
  omega

theorem Sound.read_selected [Inhabited β] {reader : ρ} {number active : ℕ}
    (h : Sound begun done snapshot)
    (hreader : ReaderOk begun first snapshot.slots
      (snapshot.readers reader))
    (hphase : snapshot.readers reader = .selected number active) :
    Stepped begun first done snapshot.slots reader
      (snapshot.advanceRead reader) := by
  rw [hphase] at hreader
  obtain ⟨hactive, hfirst, hpositive⟩ := hreader
  unfold advanceRead
  rw [hphase]
  dsimp only
  by_cases hodd : (snapshot.slots active).guard &&& 1 ≠ 0
  · rw [if_pos hodd]
    exact stepped_retry
  · rw [if_neg hodd]
    rw [and_one_ne_zero_iff] at hodd
    obtain ⟨k, hguard, hk⟩ := h.of_even hactive (by omega)
    rw [hguard] at hfirst hpositive
    obtain ⟨hparity, hwords⟩ := hk (by omega)
    apply stepped_quiet
    refine ⟨Nat.zero_le n, k, _, hguard,
      ⟨by omega, by omega, hparity, hwords⟩, Or.inl ⟨hguard, rfl⟩, ?_⟩
    intro _ i hi
    exact absurd hi (Nat.not_lt_zero _)

theorem Sound.read_copying [Inhabited β] {reader : ρ}
    {number active before index : ℕ} {copy : Fin n → β}
    (hreader : ReaderOk begun first snapshot.slots
      (snapshot.readers reader))
    (hphase : snapshot.readers reader =
      .copying number active before index copy) :
    Stepped begun first done snapshot.slots reader
      (snapshot.advanceRead reader) := by
  rw [hphase] at hreader
  obtain ⟨hindex, k, value, rfl, hcopied, hgeneration, hcopy⟩ := hreader
  unfold advanceRead
  rw [hphase]
  dsimp only
  by_cases hlt : index < n
  · rw [dif_pos hlt]
    apply stepped_quiet
    refine ⟨hlt, k, value, rfl, hcopied, hgeneration, ?_⟩
    intro hguard i hi
    have hwords : (snapshot.slots active).words = value := by
      rcases hgeneration with ⟨-, hwords⟩ | hlater
      · exact hwords
      · omega
    by_cases hlast : i = ⟨index, hlt⟩
    · rw [hlast, Function.update_self, hwords]
    · have hne : i.val ≠ index := fun heq => hlast (Fin.ext heq)
      rw [Function.update_of_ne hlast]
      exact hcopy hguard i (by omega)
  · rw [dif_neg hlt]
    apply stepped_quiet
    intro hafter
    have hvalue : copy = value := by
      funext i
      exact hcopy hafter.symm i (by omega)
    rw [hvalue]
    exact ⟨k, by omega, hcopied⟩

theorem Sound.read_copied [Inhabited β] {reader : ρ}
    {number active before after : ℕ} {copy : Fin n → β}
    (h : Sound begun done snapshot)
    (hreader : ReaderOk begun first snapshot.slots
      (snapshot.readers reader))
    (hphase : snapshot.readers reader =
      .copied number active before after copy) :
    Stepped begun first done snapshot.slots reader
      (snapshot.advanceRead reader) := by
  rw [hphase] at hreader
  unfold advanceRead
  rw [hphase]
  dsimp only
  split
  · exact stepped_retry
  · rename_i hkept
    push Not at hkept
    obtain ⟨k, hk, hcopied⟩ := hreader hkept.1
    refine ⟨trivial, Or.inr ⟨rfl, _, rfl⟩, ?_⟩
    intro value hvalue
    cases hvalue
    have hactive : snapshot.activeIndex < 2 := by
      rw [hkept.2.2, ← hcopied.parity]
      exact Nat.mod_lt _ (by omega)
    have hguard := (h.active_lt hactive).2.2
    rw [hkept.2.2] at hguard
    exact ⟨k, active, by omega, hcopied⟩

/-- A step of a reader. -/
theorem Sound.advanceRead [Inhabited β] {reader : ρ}
    (h : Sound begun done snapshot) (hfirst : first ≤ done)
    (hreader : ReaderOk begun first snapshot.slots
      (snapshot.readers reader)) :
    Stepped begun first done snapshot.slots reader
      (snapshot.advanceRead reader) := by
  cases hphase : snapshot.readers reader with
  | idle =>
      unfold LocalSnapshot.advanceRead
      rw [hphase]
      exact stepped_quiet trivial
  | attempt number =>
      unfold LocalSnapshot.advanceRead
      rw [hphase]
      dsimp only
      split
      · exact stepped_none
      · rename_i hlt
        have hactive : snapshot.activeIndex < 2 := by omega
        obtain ⟨hpositive, -, hguard⟩ := h.active_lt hactive
        apply stepped_quiet
        refine ⟨hactive, ?_, ?_⟩ <;> omega
  | selected number active => exact h.read_selected hreader hphase
  | copying number active before index copy =>
      exact Sound.read_copying hreader hphase
  | copied number active before after copy =>
      exact h.read_copied hreader hphase

/-! ## Runs -/

section Runs

variable {outputs : List (SnapshotOutput n β ρ)}
  {output : SnapshotOutput n β ρ} {reader : ρ}
  {next : LocalSnapshot n β ρ}

theorem calls_append (outputs : List (SnapshotOutput n β ρ))
    (output : SnapshotOutput n β ρ) :
    calls (outputs ++ [output]) =
      calls outputs ++ (SnapshotOutput.called? output).toList := by
  unfold calls
  rw [List.filterMap_append, filterMap_cons_toList, List.filterMap_nil,
    List.append_nil]

theorem publications_append (outputs : List (SnapshotOutput n β ρ))
    (output : SnapshotOutput n β ρ) :
    publications (outputs ++ [output]) =
      publications outputs ++ (SnapshotOutput.published? output).toList := by
  unfold publications
  rw [List.filterMap_append, filterMap_cons_toList, List.filterMap_nil,
    List.append_nil]

theorem calls_isPrefix (outputs : List (SnapshotOutput n β ρ))
    (output : SnapshotOutput n β ρ) :
    calls outputs <+: calls (outputs ++ [output]) := by
  rw [calls_append]
  exact List.prefix_append _ _

theorem publications_take_le (outputs : List (SnapshotOutput n β ρ))
    (moment : ℕ) :
    (publications (outputs.take moment)).length ≤
      (publications outputs).length :=
  ((List.take_sublist moment outputs).filterMap _).length_le

/-- The call of a reader which has not returned. -/
structure Reading (outputs : List (SnapshotOutput n β ρ))
    (snapshot : LocalSnapshot n β ρ) (reader : ρ) (start : ℕ) : Prop where
  opened : outputs[start]? = some (.opened reader)
  unreturned : ∀ position, start < position →
    ∀ other, outputs[position]? ≠ some (.returned reader other)
  phase : ReaderOk (calls outputs)
    (publications (outputs.take (start + 1))).length snapshot.slots
    (snapshot.readers reader)

/-- The state which a history leaves. -/
structure Consistent (outputs : List (SnapshotOutput n β ρ))
    (snapshot : LocalSnapshot n β ρ) : Prop where
  ordered : publications outputs <+: calls outputs
  sound : Sound (calls outputs) (publications outputs).length snapshot
  reading : ∀ reader, snapshot.readers reader = .idle ∨
    ∃ start, Reading outputs snapshot reader start

/-- A call goes on while its reader does not return. -/
theorem Reading.append {start : ℕ} (h : Reading outputs snapshot reader start)
    (hopen : ∀ other, output ≠ .returned reader other)
    (hphase : ReaderOk (calls (outputs ++ [output]))
      (publications (outputs.take (start + 1))).length next.slots
      (next.readers reader)) :
    Reading (outputs ++ [output]) next reader start := by
  have hstart := (List.getElem?_eq_some_iff.mp h.opened).1
  refine ⟨?_, ?_, ?_⟩
  · rw [List.getElem?_append_left hstart]
    exact h.opened
  · intro position hposition other
    rcases Nat.lt_trichotomy position outputs.length with hlt | heq | hgt
    · rw [List.getElem?_append_left hlt]
      exact h.unreturned position hposition other
    · rw [heq, List.getElem?_concat_length]
      exact fun hreturned => hopen other (Option.some.inj hreturned)
    · rw [List.getElem?_eq_none (by rw [List.length_append]; exact hgt)]
      exact (Option.some_ne_none _).symm
  · rw [List.take_append_of_le_length hstart]
    exact hphase

/-- Calls which are not those of the step go on. -/
theorem Consistent.reading_append (h : Consistent outputs snapshot)
    (hopen : ∀ other, output ≠ .returned reader other)
    (hmoves : ∀ index, SlotMoves (snapshot.slots index) (next.slots index))
    (hreaders : next.readers reader = snapshot.readers reader) :
    next.readers reader = .idle ∨
      ∃ start, Reading (outputs ++ [output]) next reader start := by
  cases h.reading reader with
  | inl hidle => exact Or.inl (hreaders.trans hidle)
  | inr hreading =>
      obtain ⟨start, hreading⟩ := hreading
      refine Or.inr ⟨start, hreading.append hopen ?_⟩
      rw [hreaders]
      exact hreading.phase.of_moves (calls_isPrefix outputs output) hmoves

theorem Consistent.publish (h : Consistent outputs snapshot)
    (value : Fin n → β) (hidle : snapshot.writer = .idle) :
    Consistent (outputs ++ [.called value])
      (snapshot.setWriter (.called value)) where
  ordered := by
    rw [publications_append]
    show publications outputs ++ [] <+: _
    rw [List.append_nil]
    exact h.ordered.trans (calls_isPrefix outputs _)
  sound := by
    rw [publications_append, calls_append]
    exact (List.append_nil (publications outputs)).symm ▸
      h.sound.publish value hidle
  reading := by
    intro reader
    apply h.reading_append
    · intro other hother
      cases hother
    · intro index
      exact slotMoves_refl _
    · rfl

/-- The steps which neither begin nor end a publication leave both lists. -/
theorem Consistent.of_sound (h : Consistent outputs snapshot)
    (hcalled : SnapshotOutput.called? output = none)
    (hpublished : SnapshotOutput.published? output = none)
    (hsound : Sound (calls outputs) (publications outputs).length next)
    (hreading : ∀ reader, next.readers reader = .idle ∨
      ∃ start, Reading (outputs ++ [output]) next reader start) :
    Consistent (outputs ++ [output]) next := by
  have hcalls : calls (outputs ++ [output]) = calls outputs := by
    rw [calls_append, hcalled]
    exact List.append_nil _
  have hpublications :
      publications (outputs ++ [output]) = publications outputs := by
    rw [publications_append, hpublished]
    exact List.append_nil _
  refine ⟨?_, ?_, hreading⟩
  · rw [hcalls, hpublications]
    exact h.ordered
  · rw [hcalls, hpublications]
    exact hsound

theorem Consistent.advance (h : Consistent outputs snapshot)
    (hepoch : snapshot.epoch ≤ snapshot.advancePublish.1.epoch) :
    Consistent (outputs ++ [snapshot.advancePublish.2])
      snapshot.advancePublish.1 := by
  have hadvanced := h.sound.advancePublish hepoch
  have hreading : ∀ reader,
      snapshot.advancePublish.1.readers reader = .idle ∨
        ∃ start, Reading (outputs ++ [snapshot.advancePublish.2])
          snapshot.advancePublish.1 reader start := by
    intro reader
    apply h.reading_append
    · intro other hother
      rcases hadvanced.output with hquiet | ⟨value, hvalue, -⟩
      · rw [hquiet] at hother
        cases hother
      · rw [hvalue] at hother
        cases hother
    · exact hadvanced.moves
    · rw [hadvanced.readers]
  have hsound := hadvanced.sound
  rcases hadvanced.output with hquiet | ⟨value, hvalue, hbegun⟩
  · rw [hquiet] at hsound hreading ⊢
    exact h.of_sound rfl rfl hsound hreading
  · rw [hvalue] at hsound hreading ⊢
    refine ⟨?_, ?_, hreading⟩
    · rw [publications_append]
      exact (isPrefix_concat_of_getElem? h.ordered hbegun).trans
        (calls_isPrefix outputs _)
    · rw [publications_append, calls_append]
      rw [List.length_append]
      exact (List.append_nil (calls outputs)).symm ▸ hsound

theorem Consistent.quiet (h : Consistent outputs snapshot) :
    Consistent (outputs ++ [.quiet]) snapshot := by
  apply h.of_sound rfl rfl h.sound
  intro reader
  apply h.reading_append
  · intro result hresult
    cases hresult
  · intro index
    exact slotMoves_refl _
  · rfl

/-- The step of a reader inside its call. -/
theorem Consistent.stepped [Inhabited β] {start : ℕ}
    (h : Consistent outputs snapshot)
    (hreading : Reading outputs snapshot reader start) :
    Stepped (calls outputs) (publications (outputs.take (start + 1))).length
      (publications outputs).length snapshot.slots reader
      (snapshot.advanceRead reader) :=
  h.sound.advanceRead (publications_take_le outputs (start + 1))
    hreading.phase

theorem advanceRead_idle [Inhabited β]
    (hidle : snapshot.readers reader = .idle) :
    snapshot.advanceRead reader = (.idle, .quiet) := by
  unfold LocalSnapshot.advanceRead
  rw [hidle]

theorem advanceRead_output [Inhabited β]
    (h : Consistent outputs snapshot) (reader : ρ) :
    (snapshot.advanceRead reader).2 = .quiet ∨
      ((snapshot.advanceRead reader).1 = .idle ∧
        ∃ value, (snapshot.advanceRead reader).2 = .returned reader value) := by
  rcases h.reading reader with hidle | ⟨start, hreading⟩
  · rw [advanceRead_idle hidle]
    exact Or.inl rfl
  · exact (h.stepped hreading).output

variable [DecidableEq ρ]

theorem setReader_self (snapshot : LocalSnapshot n β ρ) (reader : ρ)
    (phase : ReadPhase n β) :
    (snapshot.setReader reader phase).readers reader = phase :=
  Function.update_self ..

theorem setReader_of_ne (snapshot : LocalSnapshot n β ρ) {reader other : ρ}
    (phase : ReadPhase n β) (hother : other ≠ reader) :
    (snapshot.setReader reader phase).readers other =
      snapshot.readers other :=
  Function.update_of_ne hother ..

theorem Sound.setReader {begun : List (Fin n → β)} {done : ℕ}
    (h : Sound begun done snapshot) (reader : ρ) (phase : ReadPhase n β) :
    Sound begun done (snapshot.setReader reader phase) :=
  h.of_writer rfl rfl h.writer h.epoch

theorem Consistent.read (h : Consistent outputs snapshot) (reader : ρ) :
    Consistent (outputs ++ [.opened reader])
      (snapshot.setReader reader (.attempt 0)) := by
  apply h.of_sound rfl rfl (h.sound.setReader reader _)
  intro other
  by_cases hother : other = reader
  · refine Or.inr ⟨outputs.length, ?_, ?_, ?_⟩
    · rw [List.getElem?_concat_length, hother]
    · intro position hposition result
      rw [List.getElem?_eq_none (by rw [List.length_append]; exact hposition)]
      exact (Option.some_ne_none _).symm
    · rw [hother, setReader_self]
      trivial
  · apply h.reading_append
    · intro result hresult
      cases hresult
    · intro index
      exact slotMoves_refl _
    · exact setReader_of_ne snapshot _ hother

variable [Inhabited β]

theorem Consistent.load (h : Consistent outputs snapshot) (reader : ρ) :
    Consistent (outputs ++ [(snapshot.advanceRead reader).2])
      (snapshot.setReader reader (snapshot.advanceRead reader).1) := by
  have houtput := advanceRead_output h reader
  have hneither :
      SnapshotOutput.called? (snapshot.advanceRead reader).2 = none ∧
        SnapshotOutput.published? (snapshot.advanceRead reader).2 = none := by
    rcases houtput with hquiet | ⟨-, value, hvalue⟩
    · rw [hquiet]
      exact ⟨rfl, rfl⟩
    · rw [hvalue]
      exact ⟨rfl, rfl⟩
  apply h.of_sound hneither.1 hneither.2 (h.sound.setReader reader _)
  intro other
  by_cases hother : other = reader
  · rw [hother, setReader_self]
    rcases h.reading reader with hidle | ⟨start, hreading⟩
    · rw [advanceRead_idle hidle]
      exact Or.inl rfl
    · rcases houtput with hquiet | ⟨hreturned, -⟩
      · refine Or.inr ⟨start, hreading.append ?_ ?_⟩
        · intro result hresult
          rw [hquiet] at hresult
          cases hresult
        · rw [setReader_self]
          exact (h.stepped hreading).phase.of_moves
            (calls_isPrefix outputs _) fun _ => slotMoves_refl _
      · exact Or.inl hreturned
  · apply h.reading_append
    · intro result hresult
      rcases houtput with hquiet | ⟨-, value, hvalue⟩
      · rw [hquiet] at hresult
        cases hresult
      · rw [hvalue] at hresult
        cases hresult
        exact hother rfl
    · intro index
      exact slotMoves_refl _
    · exact setReader_of_ne snapshot _ hother

theorem Consistent.step (h : Consistent outputs snapshot)
    (input : SnapshotInput n β ρ)
    (hepoch : snapshot.epoch ≤ (snapshot.step input).1.epoch) :
    Consistent (outputs ++ [(snapshot.step input).2])
      (snapshot.step input).1 := by
  cases input with
  | publish value =>
      unfold LocalSnapshot.step
      cases hphase : snapshot.writer with
      | idle => exact h.publish value hphase
      | _ => exact h.quiet
  | advance => exact h.advance hepoch
  | read reader =>
      unfold LocalSnapshot.step
      dsimp only
      cases hphase : snapshot.readers reader with
      | idle => exact h.read reader
      | _ => exact h.quiet
  | load reader => exact h.load reader

/-- The outputs of a run from the constructed object. -/
def history (inputs : List (SnapshotInput n β ρ)) :
    List (SnapshotOutput n β ρ) :=
  ((machine n β ρ).trace constructed inputs).map Transition.output

theorem history_take (inputs : List (SnapshotInput n β ρ)) (count : ℕ) :
    (history inputs).take count = history (inputs.take count) := by
  unfold history
  rw [← List.map_take, Machine.trace_take]

theorem consistent_history {inputs : List (SnapshotInput n β ρ)}
    (hepoch : ∀ t ∈ (machine n β ρ).trace constructed inputs,
      t.before.epoch ≤ t.after.epoch) :
    Consistent (history inputs)
      ((machine n β ρ).final constructed inputs) := by
  let Good : List (Transition (LocalSnapshot n β ρ) (SnapshotInput n β ρ)
      (SnapshotOutput n β ρ)) → LocalSnapshot n β ρ → Prop :=
    fun transitions snapshot =>
      (∀ t ∈ transitions, t.before.epoch ≤ t.after.epoch) →
        Consistent (transitions.map Transition.output) snapshot
  have hgood : Good ((machine n β ρ).trace constructed inputs)
      ((machine n β ρ).final constructed inputs) := by
    apply Machine.history_final Good
    · intro _
      exact ⟨List.nil_prefix, sound_constructed, fun _ => Or.inl rfl⟩
    · intro transitions snapshot input ih hall
      rw [List.forall_mem_append] at hall
      rw [List.map_append]
      exact (ih hall.1).step input (hall.2 _ (List.mem_singleton_self _))
  exact hgood hepoch

/-- A step which returns a value ends a call, and the value is that of a
publication between the beginning of the call and the step. -/
theorem Consistent.returned (h : Consistent outputs snapshot)
    {input : SnapshotInput n β ρ} {value : Fin n → β}
    (hepoch : snapshot.epoch ≤ (snapshot.step input).1.epoch)
    (hreturn : (snapshot.step input).2 = .returned reader (some value)) :
    ∃ start active k, Reading outputs snapshot reader start ∧
      k ≤ (publications outputs).length ∧
      CopiedFrom (calls outputs)
        (publications (outputs.take (start + 1))).length active k value := by
  cases input with
  | publish argument =>
      unfold LocalSnapshot.step at hreturn
      dsimp only at hreturn
      split at hreturn <;> cases hreturn
  | advance =>
      rcases (h.sound.advancePublish hepoch).output with
        hquiet | ⟨argument, hargument, -⟩
      · rw [show (snapshot.step .advance).2 = .quiet from hquiet] at hreturn
        cases hreturn
      · rw [show (snapshot.step .advance).2 = .published argument
          from hargument] at hreturn
        cases hreturn
  | read other =>
      unfold LocalSnapshot.step at hreturn
      dsimp only at hreturn
      split at hreturn <;> cases hreturn
  | load other =>
      have hload : (snapshot.advanceRead other).2 =
          .returned reader (some value) := hreturn
      have hother : other = reader := by
        rcases advanceRead_output h other with hquiet | ⟨-, result, hresult⟩
        · rw [hquiet] at hload
          cases hload
        · rw [hresult] at hload
          cases hload
          rfl
      rw [hother] at hload
      rcases h.reading reader with hidle | ⟨start, hreading⟩
      · rw [advanceRead_idle hidle] at hload
        cases hload
      · obtain ⟨k, active, hk, hcopied⟩ :=
          (h.stepped hreading).value value hload
        exact ⟨start, active, k, hreading, hk, hcopied⟩

theorem history_getElem?_of_lt {inputs : List (SnapshotInput n β ρ)}
    {position finish : ℕ} (hlt : position < finish) :
    (history (inputs.take finish))[position]? =
      (history inputs)[position]? := by
  rw [← history_take, List.getElem?_take_of_lt hlt]

theorem history_getElem? (inputs : List (SnapshotInput n β ρ))
    (position : ℕ) :
    (history inputs)[position]? = inputs[position]?.map fun input =>
      (((machine n β ρ).final constructed
        (inputs.take position)).step input).2 := by
  unfold history
  rw [List.getElem?_map, Machine.trace_getElem?, Option.map_map]
  rfl

theorem consistent_take {inputs : List (SnapshotInput n β ρ)}
    (hepoch : ∀ t ∈ (machine n β ρ).trace constructed inputs,
      t.before.epoch ≤ t.after.epoch) (moment : ℕ) :
    Consistent (history (inputs.take moment))
      ((machine n β ρ).final constructed (inputs.take moment)) := by
  apply consistent_history
  intro t ht
  rw [← Machine.trace_take] at ht
  exact hepoch t (List.mem_of_mem_take ht)

/-- The call which a return ends, and a moment of it with the publication whose
value it returns. -/
theorem exists_moment {inputs : List (SnapshotInput n β ρ)} {finish : ℕ}
    {value : Fin n → β}
    (hepoch : ∀ t ∈ (machine n β ρ).trace constructed inputs,
      t.before.epoch ≤ t.after.epoch)
    (hreturn : (history inputs)[finish]? =
      some (.returned reader (some value))) :
    ∃ start moment,
      ReadCall (history inputs) reader start finish (some value) ∧
      start < moment ∧ moment ≤ finish ∧
      0 < activeNumber (history inputs) moment ∧
      (calls (history inputs))[activeNumber (history inputs) moment - 1]? =
        some value := by
  rw [history_getElem?] at hreturn
  obtain ⟨input, hinput, hstep⟩ := Option.map_eq_some_iff.mp hreturn
  have hfire : (machine n β ρ).fire ((machine n β ρ).final constructed
      (inputs.take finish)) input ∈
        (machine n β ρ).trace constructed inputs := by
    apply List.mem_of_getElem? (i := finish)
    rw [Machine.trace_getElem?, hinput]
    rfl
  obtain ⟨start, active, k, hreading, hk, hcopied⟩ :=
    (consistent_take hepoch finish).returned (hepoch _ hfire) hstep
  have hstart : start < finish := by
    have hlt := (List.getElem?_eq_some_iff.mp hreading.opened).1
    rw [← history_take, List.length_take] at hlt
    omega
  have hfresh := hcopied.fresh
  have hbegun := hcopied.begun
  rw [← history_take] at hk hfresh hbegun
  rw [List.take_take, min_eq_left (by omega)] at hfresh
  obtain ⟨moment, hfirst, hlast, hmoment⟩ :=
    exists_take_filterMap_length (by omega) hfresh hk
  have hnumber : activeNumber (history inputs) moment = k := hmoment
  refine ⟨start, moment, ⟨hstart, ?_, ?_, ?_⟩, hfirst, hlast, ?_, ?_⟩
  · rw [← history_getElem?_of_lt hstart]
    exact hreading.opened
  · rw [history_getElem?, hinput, Option.map_some, hstep]
  · intro position hposition hlt other
    rw [← history_getElem?_of_lt hlt]
    exact hreading.unreturned position hposition other
  · rw [hnumber]
    exact hcopied.positive
  · rw [hnumber]
    exact getElem?_of_isPrefix
      ((List.take_prefix finish (history inputs)).filterMap _) hbegun

/-- After some steps the active publication is in the active slot. -/
theorem active_of_number {inputs : List (SnapshotInput n β ρ)} {moment : ℕ}
    {value : Fin n → β}
    (hepoch : ∀ t ∈ (machine n β ρ).trace constructed inputs,
      t.before.epoch ≤ t.after.epoch)
    (hpositive : 0 < activeNumber (history inputs) moment)
    (hvalue : (calls (history inputs))[
      activeNumber (history inputs) moment - 1]? = some value) :
    (publications ((history inputs).take moment)).getLast? = some value ∧
      ((machine n β ρ).final constructed (inputs.take moment)).activeWords =
        some value := by
  have hmoment := consistent_take hepoch moment
  have hcalls : calls (history (inputs.take moment)) <+:
      calls (history inputs) := by
    rw [← history_take]
    exact (List.take_prefix moment (history inputs)).filterMap _
  unfold activeNumber at hpositive hvalue
  rw [history_take] at hpositive hvalue ⊢
  constructor
  · rw [List.getLast?_eq_getElem?]
    have hlast := List.getElem?_eq_getElem
      (Nat.sub_lt hpositive Nat.one_pos)
    rw [getElem?_of_isPrefix (hmoment.ordered.trans hcalls) hlast] at hvalue
    rw [hlast, hvalue]
  · have hstanding := hmoment.sound.standing.2 hpositive
    rw [getElem?_of_isPrefix hcalls hstanding] at hvalue
    have hactive := hmoment.sound.active
    rw [if_neg hpositive.ne'] at hactive
    unfold activeWords
    rw [hactive, if_pos (Nat.mod_lt _ Nat.two_pos)]
    exact hvalue

/-- As long as the epoch does not wrap, every value which a read returns is the
argument of one call of `publish`.  Its publication is the active one at a
moment of the read, and the publications which one reader gets never go
back. -/
theorem reads_linear {inputs : List (SnapshotInput n β ρ)}
    (hepoch : ∀ t ∈ (machine n β ρ).trace constructed inputs,
      t.before.epoch ≤ t.after.epoch) :
    ∃ moment : ℕ → ℕ,
      (∀ reader finish value,
        (history inputs)[finish]? = some (.returned reader (some value)) →
        (∃ start,
          ReadCall (history inputs) reader start finish (some value) ∧
          start < moment finish ∧ moment finish ≤ finish) ∧
        0 < activeNumber (history inputs) (moment finish) ∧
        (calls (history inputs))[
          activeNumber (history inputs) (moment finish) - 1]? = some value ∧
        (publications ((history inputs).take (moment finish))).getLast? =
          some value ∧
        ((machine n β ρ).final constructed
          (inputs.take (moment finish))).activeWords = some value) ∧
      ∀ reader finish finish' value value', finish < finish' →
        (history inputs)[finish]? = some (.returned reader (some value)) →
        (history inputs)[finish']? = some (.returned reader (some value')) →
        activeNumber (history inputs) (moment finish) ≤
          activeNumber (history inputs) (moment finish') := by
  have hmoments : ∀ finish, ∃ moment, ∀ reader value,
      (history inputs)[finish]? = some (.returned reader (some value)) →
      (∃ start, ReadCall (history inputs) reader start finish (some value) ∧
        start < moment ∧ moment ≤ finish) ∧
      0 < activeNumber (history inputs) moment ∧
      (calls (history inputs))[
        activeNumber (history inputs) moment - 1]? = some value := by
    intro finish
    by_cases hreturn : ∃ reader value,
        (history inputs)[finish]? = some (.returned reader (some value))
    · obtain ⟨reader, value, hreturn⟩ := hreturn
      obtain ⟨start, moment, hcall, hstart, hfinish, hnumber, hvalue⟩ :=
        exists_moment hepoch hreturn
      refine ⟨moment, ?_⟩
      intro reader' value' hreturn'
      rw [hreturn] at hreturn'
      cases hreturn'
      exact ⟨⟨start, hcall, hstart, hfinish⟩, hnumber, hvalue⟩
    · refine ⟨0, ?_⟩
      intro reader value hvalue
      exact absurd ⟨reader, value, hvalue⟩ hreturn
  choose moment hmoment using hmoments
  refine ⟨moment, ?_, ?_⟩
  · intro reader finish value hreturn
    obtain ⟨hcall, hnumber, hvalue⟩ := hmoment finish reader value hreturn
    exact ⟨hcall, hnumber, hvalue, active_of_number hepoch hnumber hvalue⟩
  · intro reader finish finish' value value' hlt hreturn hreturn'
    obtain ⟨⟨start, hcall, -, hfinish⟩, -⟩ :=
      hmoment finish reader value hreturn
    obtain ⟨⟨start', hcall', hstart', -⟩, -⟩ :=
      hmoment finish' reader value' hreturn'
    apply activeNumber_mono
    have hdisjoint := hcall.le_start hcall' hlt
    omega

end Runs

/-- One publication and one read after it. -/
def publishThenRead (value : Fin 1 → ℕ) : List (SnapshotInput 1 ℕ Unit) :=
  .publish value :: List.replicate 6 .advance ++
    .read () :: List.replicate 5 (.load ())

theorem publishThenRead_linear :
    ∃ value, (history (publishThenRead fun _ => 7))[12]? =
        some (.returned () (some value)) ∧ value 0 = 7 ∧
      ∃ moment ≤ 12,
        ((machine 1 ℕ Unit).final constructed
          ((publishThenRead fun _ => 7).take moment)).activeWords =
            some value := by
  have hepoch : ∀ t ∈ (machine 1 ℕ Unit).trace constructed
      (publishThenRead fun _ => 7), t.before.epoch ≤ t.after.epoch := by
    decide +kernel
  obtain ⟨moment, hmoment, -⟩ := reads_linear hepoch
  refine ⟨_, rfl, rfl, moment 12, ?_⟩
  obtain ⟨⟨start, -, -, hfinish⟩, -, -, -, hactive⟩ := hmoment () 12 _ rfl
  exact ⟨hfinish, hactive⟩

end PolicyRuntime.LocalSnapshot
