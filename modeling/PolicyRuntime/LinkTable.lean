import Mathlib.Tactic

/-!
# Tables of links with two ends

A link is known by its key and has two ends, each of which may be attached
once.  Devices are added one after the other: the first device of a key opens
an entry, the second one completes it.  When all devices of one end come first
and every entry is complete at the end, the table lists the links in the order
of the first end, and the second end is a permutation of it.
-/

namespace PolicyRuntime

structure LinkEntry (κ : Type*) where
  key : κ
  hasSensor : Bool
  hasActuator : Bool
  deriving DecidableEq

namespace LinkEntry

variable {κ : Type*}

/-- Whether the end of the device is taken. -/
def taken (sensor : Bool) (entry : LinkEntry κ) : Bool :=
  (sensor && entry.hasSensor) || (!sensor && entry.hasActuator)

def attach (sensor : Bool) (entry : LinkEntry κ) : LinkEntry κ :=
  ⟨entry.key, entry.hasSensor || sensor, entry.hasActuator || !sensor⟩

end LinkEntry

namespace LinkTable

variable {κ : Type*} [DecidableEq κ]

/-- The table after a device, `none` when the end of its link is taken. -/
def add (sensor : Bool) (table : List (LinkEntry κ)) (key : κ) :
    Option (List (LinkEntry κ)) :=
  let index := table.findIdx (·.key = key)
  match table[index]? with
  | none => some (table ++ [⟨key, sensor, !sensor⟩])
  | some entry =>
      if entry.taken sensor then none
      else some (table.set index (entry.attach sensor))

def addAll (sensor : Bool) :
    List (LinkEntry κ) → List κ → Option (List (LinkEntry κ))
  | table, [] => some table
  | table, key :: rest => do
      let next ← add sensor table key
      addAll sensor next rest

omit [DecidableEq κ] in
theorem nodup_append_singleton {keys : List κ} {key : κ}
    (hkeys : keys.Nodup) (hfresh : key ∉ keys) : (keys ++ [key]).Nodup := by
  rw [List.nodup_append]
  refine ⟨hkeys, List.nodup_singleton key, ?_⟩
  intro a ha b hb
  rw [List.mem_singleton] at hb
  rintro rfl
  exact hfresh (hb ▸ ha)

/-- What adding a device can do. -/
theorem add_cases {sensor : Bool} {table next : List (LinkEntry κ)} {key : κ}
    (hadd : add sensor table key = some next) :
    (key ∉ table.map LinkEntry.key ∧
      next = table ++ [⟨key, sensor, !sensor⟩]) ∨
    ∃ index entry, table[index]? = some entry ∧ entry.key = key ∧
      entry.taken sensor = false ∧
      next = table.set index (entry.attach sensor) := by
  unfold add at hadd
  simp only at hadd
  cases hfound : table[table.findIdx (·.key = key)]? with
  | none =>
      rw [hfound] at hadd
      refine Or.inl ⟨?_, by simpa using hadd.symm⟩
      have hlength := List.getElem?_eq_none_iff.mp hfound
      have hnone := List.findIdx_eq_length.mp
        (Nat.le_antisymm List.findIdx_le_length hlength)
      intro hmem
      obtain ⟨entry, hentry, hkey⟩ := List.mem_map.mp hmem
      have hfalse := hnone entry hentry
      simp [hkey] at hfalse
  | some entry =>
      rw [hfound] at hadd
      simp only at hadd
      split at hadd
      · exact absurd hadd (by simp)
      · next hfree =>
          obtain ⟨hlt, hvalue⟩ := List.getElem?_eq_some_iff.mp hfound
          have hkey := List.findIdx_getElem (w := hlt)
          rw [hvalue] at hkey
          exact Or.inr ⟨_, entry, hfound, by simpa using hkey,
            by simpa using hfree, by simpa using hadd.symm⟩

theorem addAll_append {sensor : Bool}
    {table middle : List (LinkEntry κ)} {first second : List κ}
    (hfirst : addAll sensor table first = some middle) :
    addAll sensor table (first ++ second) =
      addAll sensor middle second := by
  induction first generalizing table with
  | nil =>
      simp only [addAll, Option.some.injEq] at hfirst
      rw [List.nil_append, hfirst]
  | cons key rest ih =>
      simp only [addAll, Option.bind_eq_bind,
        Option.bind_eq_some_iff] at hfirst
      obtain ⟨next, hnext, hrest⟩ := hfirst
      rw [List.cons_append, addAll, hnext]
      exact ih hrest

/-! ## Devices of one end -/

/-- The entries of links with only their sensor. -/
def sensed (keys : List κ) : List (LinkEntry κ) :=
  keys.map (⟨·, true, false⟩)

omit [DecidableEq κ] in
theorem mem_sensed {keys : List κ} {entry : LinkEntry κ}
    (hentry : entry ∈ sensed keys) :
    entry.key ∈ keys ∧ entry.hasSensor = true ∧ entry.hasActuator = false := by
  obtain ⟨key, hkey, rfl⟩ := List.mem_map.mp hentry
  exact ⟨hkey, rfl, rfl⟩

theorem addAll_sensors {known keys : List κ} {table : List (LinkEntry κ)}
    (hknown : known.Nodup)
    (hadd : addAll true (sensed known) keys = some table) :
    table = sensed (known ++ keys) ∧ (known ++ keys).Nodup := by
  induction keys generalizing known with
  | nil =>
      simp only [addAll, Option.some.injEq] at hadd
      simp [hadd.symm, hknown]
  | cons key rest ih =>
      simp only [addAll, Option.bind_eq_bind, Option.bind_eq_some_iff] at hadd
      obtain ⟨next, hfirst, hrest⟩ := hadd
      obtain ⟨hfresh, hnext⟩ | ⟨index, entry, hentry, _, hfree, _⟩ :=
        add_cases hfirst
      · have hkeys : (sensed known).map LinkEntry.key = known := by
          simp [sensed, Function.comp_def]
        rw [hkeys] at hfresh
        have hgrown : next = sensed (known ++ [key]) := by
          rw [hnext]
          simp [sensed]
        rw [hgrown] at hrest
        simpa using ih (nodup_append_singleton hknown hfresh) hrest
      · -- a sensed link has no room for a second sensor
        have htaken := (mem_sensed (List.mem_of_getElem? hentry)).2.1
        simp [LinkEntry.taken, htaken] at hfree

/-- A table in which some actuators have been attached to sensed links. -/
structure Attached (sensors actuators : List κ)
    (table : List (LinkEntry κ)) : Prop where
  keys : ∃ fresh, table.map LinkEntry.key = sensors ++ fresh
  nodup : (table.map LinkEntry.key).Nodup
  sensor : ∀ entry ∈ table, entry.hasSensor = true → entry.key ∈ sensors
  actuator : ∀ entry ∈ table, entry.hasActuator = true ↔
    entry.key ∈ actuators
  listed : ∀ key ∈ actuators, key ∈ table.map LinkEntry.key
  once : actuators.Nodup

omit [DecidableEq κ] in
theorem attached_sensed {sensors : List κ} (hnodup : sensors.Nodup) :
    Attached sensors [] (sensed sensors) where
  keys := ⟨[], by simp [sensed, Function.comp_def]⟩
  nodup := by simpa [sensed, Function.comp_def] using hnodup
  sensor := fun _ hentry _ => (mem_sensed hentry).1
  actuator := fun _ hentry => by simp [(mem_sensed hentry).2.2]
  listed := by simp
  once := List.nodup_nil

theorem Attached.add {sensors actuators : List κ}
    {table next : List (LinkEntry κ)} {key : κ}
    (h : Attached sensors actuators table)
    (hadd : LinkTable.add false table key = some next) :
    Attached sensors (actuators ++ [key]) next := by
  obtain ⟨hfresh, rfl⟩ | ⟨index, entry, hentry, hkey, hfree, rfl⟩ :=
    add_cases hadd
  · obtain ⟨fresh, hkeys⟩ := h.keys
    have hnew : key ∉ actuators := fun hmem => hfresh (h.listed key hmem)
    refine ⟨⟨fresh ++ [key], by simp [hkeys]⟩, ?_, ?_, ?_, ?_, ?_⟩
    · rw [List.map_append]
      exact nodup_append_singleton h.nodup hfresh
    · intro entry hentry hsensor
      rw [List.mem_append, List.mem_singleton] at hentry
      obtain hold | rfl := hentry
      · exact h.sensor entry hold hsensor
      · simp at hsensor
    · intro entry hentry
      rw [List.mem_append, List.mem_singleton] at hentry
      obtain hold | rfl := hentry
      · have hne : entry.key ≠ key := fun heq =>
          hfresh (heq ▸ List.mem_map_of_mem hold)
        simp [h.actuator entry hold, hne]
      · simp
    · intro other hother
      rw [List.mem_append, List.mem_singleton] at hother
      obtain hold | rfl := hother
      · simpa using Or.inl (h.listed other hold)
      · simp
    · exact nodup_append_singleton h.once hnew
  · have hmem := List.mem_of_getElem? hentry
    have hclear : entry.hasActuator = false := by
      simpa [LinkEntry.taken] using hfree
    have hnew : key ∉ actuators := by
      rw [← hkey, ← h.actuator entry hmem, hclear]
      exact Bool.false_ne_true
    have hsame : (table.set index (entry.attach false)).map LinkEntry.key =
        table.map LinkEntry.key := by
      apply List.ext_getElem?
      intro position
      rw [List.getElem?_map, List.getElem?_map, List.getElem?_set]
      split
      · next hposition =>
          obtain ⟨hlt, hvalue⟩ := List.getElem?_eq_some_iff.mp hentry
          rw [if_pos hlt, ← hposition, hentry]
          rfl
      · rfl
    refine ⟨by rw [hsame]; exact h.keys, by rw [hsame]; exact h.nodup,
      ?_, ?_, ?_, nodup_append_singleton h.once hnew⟩
    · intro other hother hsensor
      obtain hold | rfl := List.mem_or_eq_of_mem_set hother
      · exact h.sensor other hold hsensor
      · exact h.sensor entry hmem (by simpa [LinkEntry.attach] using hsensor)
    · intro other hother
      obtain ⟨position, hposition⟩ := List.mem_iff_getElem?.mp hother
      rw [List.getElem?_set] at hposition
      split at hposition
      · next hindex =>
          split at hposition
          · cases hposition
            simp [LinkEntry.attach, hkey]
          · exact absurd hposition (by simp)
      · next hindex =>
          have hold := List.mem_of_getElem? hposition
          have hne : other.key ≠ key := by
            intro heq
            apply hindex
            have hlt := (List.getElem?_eq_some_iff.mp hentry).1
            apply (List.getElem?_inj (by simpa using hlt) h.nodup).mp
            simp [hentry, hposition, hkey, heq]
          simp [h.actuator other hold, hne]
    · intro other hother
      rw [hsame]
      rw [List.mem_append, List.mem_singleton] at hother
      obtain hold | rfl := hother
      · exact h.listed other hold
      · rw [← hkey]
        exact List.mem_map_of_mem hmem

theorem addAll_actuators {sensors attached keys : List κ}
    {table final : List (LinkEntry κ)} (h : Attached sensors attached table)
    (hadd : addAll false table keys = some final) :
    Attached sensors (attached ++ keys) final := by
  induction keys generalizing attached table with
  | nil =>
      simp only [addAll, Option.some.injEq] at hadd
      simpa [hadd] using h
  | cons key rest ih =>
      simp only [addAll, Option.bind_eq_bind, Option.bind_eq_some_iff] at hadd
      obtain ⟨next, hfirst, hrest⟩ := hadd
      simpa using ih (h.add hfirst) hrest

/-! ## Complete tables -/

/-- Keys of a first and a second end which pair up one to one. -/
structure Paired (sensors actuators : List κ) : Prop where
  sensorsOnce : sensors.Nodup
  perm : actuators.Perm sensors

/-- In a complete table the links stand in the order of the sensors. -/
theorem paired_of_complete {sensors actuators : List κ}
    {middle table : List (LinkEntry κ)}
    (hsensors : addAll true [] sensors = some middle)
    (hactuators : addAll false middle actuators = some table)
    (hcomplete : ∀ entry ∈ table,
      entry.hasSensor = true ∧ entry.hasActuator = true) :
    table.map LinkEntry.key = sensors ∧ Paired sensors actuators := by
  have hfirst : addAll true (sensed []) sensors = some middle := hsensors
  obtain ⟨rfl, hnodup⟩ := addAll_sensors List.nodup_nil hfirst
  rw [List.nil_append] at hnodup
  have hattached := addAll_actuators (attached_sensed hnodup) hactuators
  rw [List.nil_append] at hattached
  obtain ⟨fresh, hkeys⟩ := hattached.keys
  have hnone : fresh = [] := by
    rw [List.eq_nil_iff_forall_not_mem]
    intro key hkey
    have hlisted : key ∈ table.map LinkEntry.key := by simp [hkeys, hkey]
    obtain ⟨entry, hentry, rfl⟩ := List.mem_map.mp hlisted
    have hold := hattached.sensor entry hentry (hcomplete entry hentry).1
    have htwice := hattached.nodup
    rw [hkeys, List.nodup_append] at htwice
    exact htwice.2.2 _ hold _ hkey rfl
  rw [hnone, List.append_nil] at hkeys
  refine ⟨hkeys, hnodup, ?_⟩
  rw [List.perm_ext_iff_of_nodup hattached.once hnodup]
  intro key
  rw [← hkeys]
  constructor
  · exact hattached.listed key
  · intro hkey
    obtain ⟨entry, hentry, rfl⟩ := List.mem_map.mp hkey
    exact (hattached.actuator entry hentry).mp (hcomplete entry hentry).2

end LinkTable

end PolicyRuntime
