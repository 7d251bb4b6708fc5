import Mathlib.Tactic

/-!
# Round robin scans

A round asks parties for work, one after another from a cursor on, until one
of them is served; the cursor then stands behind that party.  A round serves at
most one party, and a party which never declines is served within as many
rounds as there are parties.
-/

namespace RoundRobin

/-- A party which a round has asked, and its answer. -/
structure Visit (σ : Type*) (n : ℕ) where
  party : Fin n
  before : σ
  served : Bool

variable {σ : Type*} {n : ℕ}

/-- The party which is asked at an offset from the cursor. -/
def turn (hn : 0 < n) (cursor offset : ℕ) : Fin n :=
  ⟨(cursor + offset) % n, Nat.mod_lt _ hn⟩

/-- The state and the cursor after a round over the offsets. -/
def scan (serve : Fin n → σ → σ × Bool) (hn : 0 < n) (cursor : ℕ) :
    σ → List ℕ → σ × ℕ
  | state, [] => (state, cursor)
  | state, offset :: rest =>
      let answer := serve (turn hn cursor offset) state
      if answer.2 then (answer.1, (turn hn cursor offset + 1) % n)
      else scan serve hn cursor answer.1 rest

def visits (serve : Fin n → σ → σ × Bool) (hn : 0 < n) (cursor : ℕ) :
    σ → List ℕ → List (Visit σ n)
  | _, [] => []
  | state, offset :: rest =>
      let answer := serve (turn hn cursor offset) state
      ⟨turn hn cursor offset, state, answer.2⟩ ::
        if answer.2 then [] else visits serve hn cursor answer.1 rest

section Round

variable (serve : Fin n → σ → σ × Bool) (hn : 0 < n) (cursor : ℕ)

/-- A visit says whether its party was served. -/
theorem served_of_mem_visits (state : σ) (offsets : List ℕ)
    {visit : Visit σ n}
    (hvisit : visit ∈ visits serve hn cursor state offsets) :
    visit.served = (serve visit.party visit.before).2 := by
  induction offsets generalizing state with
  | nil => cases hvisit
  | cons offset rest ih =>
      rcases List.mem_cons.mp hvisit with rfl | hlater
      · rfl
      · split at hlater
        · cases hlater
        · exact ih _ hlater

/-- A round which pays only for the party it serves pays at most once. -/
theorem sum_visits_le_one
    {cost : Fin n → σ → ℕ}
    (hcost : ∀ party state, cost party state = (serve party state).2.toNat)
    (state : σ) (offsets : List ℕ) :
    ((visits serve hn cursor state offsets).map
      fun visit => cost visit.party visit.before).sum ≤ 1 := by
  induction offsets generalizing state with
  | nil => exact Nat.zero_le 1
  | cons offset rest ih =>
      rw [visits, List.map_cons, List.sum_cons, hcost]
      cases hserved : (serve (turn hn cursor offset) state).2 with
      | true => simp
      | false =>
          simpa using ih (serve (turn hn cursor offset) state).1

/-- A round which asks a party either serves it, or has it decline, or serves
a party before it. -/
theorem scan_cases {party : Fin n} (state : σ) (earlier : List ℕ)
    {offset : ℕ} (later : List ℕ) (hparty : turn hn cursor offset = party) :
    (∃ visit ∈ visits serve hn cursor state (earlier ++ offset :: later),
        visit.party = party) ∨
      ∃ other ∈ earlier,
        (scan serve hn cursor state (earlier ++ offset :: later)).2 =
          (turn hn cursor other + 1) % n := by
  induction earlier generalizing state with
  | nil => exact Or.inl ⟨_, List.mem_cons_self .., hparty⟩
  | cons other earlier ih =>
      rw [List.cons_append, visits, scan]
      cases hserved : (serve (turn hn cursor other) state).2 with
      | true => exact Or.inr ⟨other, List.mem_cons_self .., rfl⟩
      | false =>
          rcases ih (serve (turn hn cursor other) state).1 with
            ⟨visit, hvisit, hasked⟩ | ⟨served, hmem, hcursor⟩
          · exact Or.inl ⟨visit, List.mem_cons_of_mem _ hvisit, hasked⟩
          · exact Or.inr ⟨served, List.mem_cons_of_mem _ hmem, hcursor⟩

/-- The party is the nearer, the later the round has stopped before it. -/
theorem turn_behind {served offset : ℕ} (hbefore : served < offset) :
    turn hn ((turn hn cursor served + 1) % n) (offset - (served + 1)) =
      turn hn cursor offset := by
  have hsum : cursor + served + 1 + (offset - (served + 1)) =
      cursor + offset := by omega
  apply Fin.ext
  change (((cursor + served) % n + 1) % n + (offset - (served + 1))) % n =
    (cursor + offset) % n
  rw [← hsum]
  simp [Nat.add_mod]

theorem exists_turn (party : Fin n) :
    ∃ offset, offset < n ∧ turn hn cursor offset = party := by
  refine ⟨(party + (n - cursor % n)) % n, Nat.mod_lt _ hn, ?_⟩
  have hcursor : cursor % n < n := Nat.mod_lt _ hn
  apply Fin.ext
  change (cursor + (party + (n - cursor % n)) % n) % n = party
  have hsum : cursor % n + (party + (n - cursor % n)) = party + n := by omega
  rw [Nat.add_mod_mod, ← Nat.mod_add_mod, hsum, Nat.add_mod_right,
    Nat.mod_eq_of_lt party.isLt]

/-- In a round in which the party is not asked, another party is served, and
the party comes nearer to the cursor. -/
theorem turn_nearer {party : Fin n} {offset : ℕ} (state : σ)
    (hoffset : offset < n) (hparty : turn hn cursor offset = party)
    (hnone : ∀ visit ∈ visits serve hn cursor state (List.range n),
      visit.party ≠ party) :
    ∃ nearer < offset,
      turn hn (scan serve hn cursor state (List.range n)).2 nearer =
        party := by
  have hsplit : List.range n = List.range offset ++
      offset :: List.range' (offset + 1) (n - (offset + 1)) := by
    rw [← List.range'_succ, List.range_eq_range', List.range_eq_range']
    have happend := @List.range'_append_1 0 offset (n - (offset + 1) + 1)
    rw [zero_add] at happend
    rw [happend]
    congr 1
    omega
  rw [hsplit] at hnone ⊢
  rcases scan_cases serve hn cursor state (List.range offset)
    (List.range' (offset + 1) (n - (offset + 1))) hparty with
    ⟨visit, hvisit, hasked⟩ | ⟨served, hserved, hcursor⟩
  · exact absurd hasked (hnone visit hvisit)
  · have hbefore := List.mem_range.mp hserved
    refine ⟨offset - (served + 1), by omega, ?_⟩
    rw [hcursor, turn_behind hn cursor hbefore, hparty]

end Round

/-! ## Fairness -/

/-- The visits of a sequence of rounds.  The state may change in any way
between two rounds; in an idle round no party is asked. -/
inductive Rounds (serve : Fin n → σ → σ × Bool) (hn : 0 < n) :
    ℕ → List (List (Visit σ n)) → Prop
  | nil (cursor : ℕ) : Rounds serve hn cursor []
  | idle {cursor : ℕ} {rest : List (List (Visit σ n))}
      (hrest : Rounds serve hn cursor rest) :
      Rounds serve hn cursor ([] :: rest)
  | round {cursor : ℕ} {rest : List (List (Visit σ n))} (state : σ)
      (hrest : Rounds serve hn
        (scan serve hn cursor state (List.range n)).2 rest) :
      Rounds serve hn cursor
        (visits serve hn cursor state (List.range n) :: rest)

/-- A round is idle or a scan from some state. -/
theorem Rounds.mem {serve : Fin n → σ → σ × Bool} {hn : 0 < n} {cursor : ℕ}
    {rounds : List (List (Visit σ n))} (hrounds : Rounds serve hn cursor rounds)
    {round : List (Visit σ n)} (hround : round ∈ rounds) :
    round = [] ∨ ∃ start state,
      round = visits serve hn start state (List.range n) := by
  induction hrounds with
  | nil cursor => cases hround
  | idle hrest ih =>
      rcases List.mem_cons.mp hround with rfl | hlater
      · exact Or.inl rfl
      · exact ih hlater
  | round state hrest ih =>
      rcases List.mem_cons.mp hround with rfl | hlater
      · exact Or.inr ⟨_, state, rfl⟩
      · exact ih hlater

theorem Rounds.answered {serve : Fin n → σ → σ × Bool} {hn : 0 < n}
    {cursor : ℕ} {rounds : List (List (Visit σ n))}
    (hrounds : Rounds serve hn cursor rounds) {round : List (Visit σ n)}
    (hround : round ∈ rounds) {visit : Visit σ n} (hvisit : visit ∈ round) :
    visit.served = (serve visit.party visit.before).2 := by
  rcases hrounds.mem hround with rfl | ⟨start, state, rfl⟩
  · cases hvisit
  · exact served_of_mem_visits serve hn start state (List.range n) hvisit

theorem Rounds.asked {serve : Fin n → σ → σ × Bool} {hn : 0 < n}
    {cursor : ℕ} {rounds : List (List (Visit σ n))}
    (hrounds : Rounds serve hn cursor rounds) {party : Fin n} {offset : ℕ}
    (hoffset : offset < n) (hparty : turn hn cursor offset = party)
    (hmany : offset < rounds.countP fun round => !round.isEmpty) :
    ∃ round ∈ rounds, ∃ visit ∈ round, visit.party = party := by
  induction hrounds generalizing offset with
  | nil cursor => exact absurd hmany (Nat.not_lt_zero offset)
  | idle hrest ih =>
      rw [List.countP_cons_of_neg (by simp)] at hmany
      obtain ⟨round, hround, hvisit⟩ := ih hoffset hparty hmany
      exact ⟨round, List.mem_cons_of_mem _ hround, hvisit⟩
  | @round cursor rest state hrest ih =>
      by_cases hasked : ∃ visit ∈ visits serve hn cursor state
          (List.range n), visit.party = party
      · exact ⟨_, List.mem_cons_self .., hasked⟩
      · have hnone : ∀ visit ∈ visits serve hn cursor state (List.range n),
            visit.party ≠ party :=
          fun visit hvisit heq => hasked ⟨visit, hvisit, heq⟩
        obtain ⟨nearer, hnearer, hturn⟩ :=
          turn_nearer serve hn cursor state hoffset hparty hnone
        have hrest' : nearer < rest.countP fun round => !round.isEmpty := by
          rw [List.countP_cons] at hmany
          split at hmany <;> omega
        obtain ⟨round, hround, hvisit⟩ :=
          ih (hnearer.trans hoffset) hturn hrest'
        exact ⟨round, List.mem_cons_of_mem _ hround, hvisit⟩

/-- A party which does not decline is served within as many rounds as there
are parties. -/
theorem Rounds.served {serve : Fin n → σ → σ × Bool} {hn : 0 < n}
    {cursor : ℕ} {rounds : List (List (Visit σ n))}
    (hrounds : Rounds serve hn cursor rounds) {party : Fin n}
    (hmany : n ≤ rounds.countP fun round => !round.isEmpty)
    (hwork : ∀ round ∈ rounds, ∀ visit ∈ round, visit.party = party →
      visit.served = true) :
    ∃ round ∈ rounds, ∃ visit ∈ round,
      visit.party = party ∧ visit.served = true := by
  obtain ⟨offset, hoffset, hturn⟩ := exists_turn hn cursor party
  obtain ⟨round, hround, visit, hvisit, hasked⟩ :=
    hrounds.asked hoffset hturn (hoffset.trans_le hmany)
  exact ⟨round, hround, visit, hvisit, hasked,
    hwork round hround visit hvisit hasked⟩

end RoundRobin
