import PolicyRuntime.RpcRoundTrip
import PolicyRuntime.RuntimeHost

/-!
# Values of the codec and of the host

The host does not tell apart the two representations of an integer.  A value
of the codec which is handed to the host and back is the value which a parser
makes of its text.
-/

namespace PolicyRuntime

open FloatingPoint

/-! ## Members in the order of their keys -/

section Members

variable {T : Type}

/-- `operator[]` of a sorted map, with an assignment -/
def assignMember (key : String) (value : T) :
    List (String × T) → List (String × T)
  | [] => [(key, value)]
  | entry :: rest =>
      if key < entry.1 then (key, value) :: entry :: rest
      else if key = entry.1 then (key, value) :: rest
      else entry :: assignMember key value rest

theorem mem_assignMember {key : String} {value : T}
    {members : List (String × T)} {entry : String × T}
    (hentry : entry ∈ assignMember key value members) :
    entry = (key, value) ∨ entry ∈ members := by
  induction members with
  | nil => exact .inl (List.mem_singleton.mp hentry)
  | cons first rest ih =>
      rw [assignMember] at hentry
      split at hentry
      · exact List.mem_cons.mp hentry
      · split at hentry
        · rcases List.mem_cons.mp hentry with hnew | hrest
          · exact .inl hnew
          · exact .inr (List.mem_cons_of_mem first hrest)
        · rcases List.mem_cons.mp hentry with hfirst | hinserted
          · exact .inr (hfirst ▸ List.mem_cons_self)
          · rcases ih hinserted with hnew | hrest
            · exact .inl hnew
            · exact .inr (List.mem_cons_of_mem first hrest)

theorem assignMember_sorted (key : String) (value : T)
    {members : List (String × T)}
    (hsorted : (members.map Prod.fst).Pairwise (· < ·)) :
    ((assignMember key value members).map Prod.fst).Pairwise (· < ·) := by
  induction members with
  | nil => exact List.pairwise_singleton _ _
  | cons first rest ih =>
      rw [List.map_cons, List.pairwise_cons] at hsorted
      rw [assignMember]
      split
      · case _ hbefore =>
          rw [List.map_cons, List.map_cons, List.pairwise_cons]
          constructor
          · intro other hother
            rcases List.mem_cons.mp hother with rfl | hrest
            · exact hbefore
            · exact String.lt_trans hbefore (hsorted.1 other hrest)
          · exact List.pairwise_cons.mpr hsorted
      · case _ hnotBefore =>
          split
          · case _ hsame =>
              subst hsame
              exact List.pairwise_cons.mpr hsorted
          · case _ hother =>
              have hafter : first.1 < key := by
                by_contra hnotAfter
                exact hother (String.le_antisymm hnotAfter hnotBefore)
              rw [List.map_cons, List.pairwise_cons]
              constructor
              · intro other hmem
                obtain ⟨entry, hentry, rfl⟩ := List.mem_map.mp hmem
                rcases mem_assignMember hentry with rfl | hrest
                · exact hafter
                · exact hsorted.1 _ (List.mem_map_of_mem hrest)
              · exact ih hsorted.2

/-- A key before all others is inserted at the front. -/
theorem assignMember_first {key : String} (value : T)
    {members : List (String × T)}
    (hfirst : ∀ other ∈ members.map Prod.fst, key < other) :
    assignMember key value members = (key, value) :: members := by
  cases members with
  | nil => rfl
  | cons entry rest =>
      rw [assignMember, if_pos (hfirst entry.1 List.mem_cons_self)]

end Members

/-! ## Two representations -/

section Exchange

variable {D : Type}

mutual

/-- A value of the codec as a value of the host. -/
def JsonValue.toHost : JsonValue D → Json D
  | .null => .null
  | .boolean value => .bool value
  | .numberInteger value => .integer value.toInt
  | .numberUnsigned value => .integer value.toNat
  | .numberFloat value => .number value
  | .string value => .string value
  | .array items => .array (toHostItems items)
  | .object members => .object (toHostMembers members)

def toHostItems : List (JsonValue D) → List (Json D)
  | [] => []
  | item :: rest => item.toHost :: toHostItems rest

def toHostMembers : List (String × JsonValue D) → Fields D
  | [] => []
  | (key, value) :: rest => (key, value.toHost) :: toHostMembers rest

end

mutual

/-- A value of the host, with its integers as a parser holds them. -/
def Json.ofHost : Json D → JsonValue D
  | .null => .null
  | .bool value => .boolean value
  | .integer value =>
      if value < 0 then .numberInteger (BitVec.ofInt 64 value)
      else .numberUnsigned (BitVec.ofInt 64 value)
  | .number value => .numberFloat value
  | .string value => .string value
  | .array items => .array (ofHostItems items)
  | .object fields => .object (ofHostFields fields)

def ofHostItems : List (Json D) → List (JsonValue D)
  | [] => []
  | item :: rest => item.ofHost :: ofHostItems rest

/-- The first of two fields with one key is found by a lookup. -/
def ofHostFields : Fields D → List (String × JsonValue D)
  | [] => []
  | (key, value) :: rest => assignMember key value.ofHost (ofHostFields rest)

end

section Representable

variable [FloatingPoint D]

mutual

theorem JsonValue.ofHost_toHost :
    {value : JsonValue D} → value.Representable →
      value.toHost.ofHost = value.renumber
  | .null, _ | .boolean _, _ | .numberFloat _, _ | .string _, _ => rfl
  | .numberInteger value, _ => by
      rw [JsonValue.toHost, Json.ofHost, BitVec.ofInt_toInt,
        JsonValue.renumber]
  | .numberUnsigned value, _ => by
      have hnonneg : ¬((value.toNat : ℤ) < 0) := by omega
      rw [JsonValue.toHost, Json.ofHost, if_neg hnonneg, BitVec.ofInt_natCast,
        BitVec.ofNat_toNat, BitVec.setWidth_eq, JsonValue.renumber]
  | .array _, hitems => congrArg JsonValue.array (ofHost_toHostItems hitems)
  | .object _, ⟨hkeys, hmembers⟩ =>
      congrArg JsonValue.object (ofHost_toHostMembers hkeys hmembers)

theorem JsonValue.ofHost_toHostItems :
    {items : List (JsonValue D)} → RepresentableItems items →
      ofHostItems (toHostItems items) = renumberItems items
  | [], _ => rfl
  | _ :: _, ⟨hitem, hrest⟩ => by
      rw [toHostItems, ofHostItems, ofHost_toHost hitem,
        ofHost_toHostItems hrest, renumberItems]

theorem JsonValue.ofHost_toHostMembers :
    {members : List (String × JsonValue D)} →
      (members.map Prod.fst).Pairwise (· < ·) →
      RepresentableMembers members →
      ofHostFields (toHostMembers members) = renumberMembers members
  | [], _, _ => rfl
  | (key, value) :: rest, hkeys, ⟨hvalue, hrest⟩ => by
      rw [List.map_cons, List.pairwise_cons] at hkeys
      have hfirst : ∀ other ∈ (renumberMembers rest).map Prod.fst,
          key < other := by
        rw [map_fst_renumberMembers]
        exact hkeys.1
      rw [toHostMembers, ofHostFields, ofHost_toHost hvalue,
        ofHost_toHostMembers hkeys.2 hrest, assignMember_first _ hfirst,
        renumberMembers]

end

/-! ## Finite numbers -/

mutual

/-- The integers are in the range of their types, and the numbers finite. -/
def Json.Finite : Json D → Prop
  | .null | .bool _ | .string _ => True
  | .integer value => -2 ^ 63 ≤ value ∧ value < 2 ^ 64
  | .number value => isfinite value = true
  | .array items => FiniteItems items
  | .object fields => FiniteFields fields

def FiniteItems : List (Json D) → Prop
  | [] => True
  | item :: rest => item.Finite ∧ FiniteItems rest

def FiniteFields : Fields D → Prop
  | [] => True
  | (_, value) :: rest => value.Finite ∧ FiniteFields rest

end

theorem finiteItems_iff (items : List (Json D)) :
    FiniteItems items ↔ ∀ item ∈ items, item.Finite := by
  induction items with
  | nil => simp [FiniteItems]
  | cons item rest ih => rw [FiniteItems, ih, List.forall_mem_cons]

theorem finiteFields_iff (fields : Fields D) :
    FiniteFields fields ↔ ∀ field ∈ fields, field.2.Finite := by
  induction fields with
  | nil => simp [FiniteFields]
  | cons field rest ih =>
      obtain ⟨key, value⟩ := field
      rw [FiniteFields, ih, List.forall_mem_cons]

omit [FloatingPoint D] in
theorem ofHostFields_sorted (fields : Fields D) :
    ((ofHostFields fields).map Prod.fst).Pairwise (· < ·) := by
  induction fields with
  | nil => exact List.Pairwise.nil
  | cons field rest ih =>
      obtain ⟨key, value⟩ := field
      rw [ofHostFields]
      exact assignMember_sorted key _ ih

mutual

theorem Json.Finite.representable :
    {value : Json D} → value.Finite → value.ofHost.Representable
  | .null, _ | .bool _, _ | .string _, _ => trivial
  | .integer value, _ => by
      rw [Json.ofHost]
      split
      · trivial
      · trivial
  | .number _, hvalue => hvalue
  | .array _, hitems => FiniteItems.representable hitems
  | .object fields, hfields =>
      ⟨ofHostFields_sorted fields, FiniteFields.representable hfields⟩

theorem FiniteItems.representable :
    {items : List (Json D)} → FiniteItems items →
      JsonValue.RepresentableItems (ofHostItems items)
  | [], _ => trivial
  | _ :: _, ⟨hitem, hrest⟩ =>
      ⟨hitem.representable, FiniteItems.representable hrest⟩

theorem FiniteFields.representable :
    {fields : Fields D} → FiniteFields fields →
      JsonValue.RepresentableMembers (ofHostFields fields)
  | [], _ => trivial
  | (key, value) :: rest, ⟨hvalue, hrest⟩ => by
      rw [ofHostFields, JsonValue.representableMembers_iff]
      intro entry hentry
      rcases mem_assignMember hentry with rfl | hmem
      · exact hvalue.representable
      · have hmembers := FiniteFields.representable hrest
        rw [JsonValue.representableMembers_iff] at hmembers
        exact hmembers entry hmem

end

end Representable

end Exchange

/-! ## Normalised actions -/

section Actions

variable {D : Type} [DoubleArithmetic D]

theorem FiniteFields.lookup {fields : Fields D} (hfields : FiniteFields fields)
    {key : String} {value : Json D}
    (hvalue : fields.lookup key = some value) : value.Finite := by
  rw [finiteFields_iff] at hfields
  obtain ⟨before, after, rfl, _⟩ := List.lookup_eq_some_iff.mp hvalue
  apply hfields (key, value)
  simp

theorem FiniteFields.set {fields : Fields D} (hfields : FiniteFields fields)
    (key : String) {value : Json D} (hvalue : value.Finite) :
    FiniteFields (Fields.set fields key value) := by
  rw [finiteFields_iff] at hfields ⊢
  intro field hfield
  rw [Fields.set] at hfield
  split at hfield
  · obtain ⟨other, hother, rfl⟩ := List.mem_map.mp hfield
    split
    · exact hvalue
    · exact hfields other hother
  · rcases List.mem_append.mp hfield with hold | hnew
    · exact hfields field hold
    · rw [List.mem_singleton.mp hnew]
      exact hvalue

theorem FiniteFields.modify {fields : Fields D}
    (hfields : FiniteFields fields) (key : String)
    {change : Json D → Json D}
    (hchange : ∀ value : Json D, value.Finite → (change value).Finite) :
    FiniteFields (Fields.modify fields key change) := by
  rw [Fields.modify]
  cases hlookup : fields.lookup key with
  | none => exact hfields
  | some value => exact hfields.set key (hchange value (hfields.lookup hlookup))

theorem FiniteFields.setAll {fields added : Fields D}
    (hfields : FiniteFields fields) (hadded : FiniteFields added) :
    FiniteFields (added.foldl
      (fun action field => Fields.set action field.1 field.2) fields) := by
  induction added generalizing fields with
  | nil => exact hfields
  | cons field rest ih =>
      obtain ⟨key, value⟩ := field
      exact ih (hfields.set key hadded.1) hadded.2

/-- An integer of 64 bits is a finite `double`. -/
def IntegersFinite (D : Type) [FloatingPoint D] : Prop :=
  ∀ value : ℤ, -2 ^ 63 ≤ value → value < 2 ^ 64 →
    isfinite (narrow (ofInt value) : D) = true

theorem Json.Finite.asDouble (hintegers : IntegersFinite D) {value : Json D}
    (hvalue : value.Finite) : value.asDouble.Finite := by
  cases value with
  | integer number => exact hintegers number hvalue.1 hvalue.2
  | _ => exact hvalue

theorem Json.Finite.normalizeJointStateNumbers (hintegers : IntegersFinite D)
    (value : Json D) (hvalue : value.Finite) :
    value.normalizeJointStateNumbers.Finite := by
  cases value with
  | object fields =>
      rw [Json.normalizeJointStateNumbers]
      split
      · case _ items hitems =>
          have hfields : FiniteFields fields := hvalue
          have hfinite : FiniteItems items := hfields.lookup hitems
          apply hfields.set
          change FiniteItems (items.map Json.asDouble)
          rw [finiteItems_iff] at hfinite ⊢
          intro item hitem
          obtain ⟨original, horiginal, rfl⟩ := List.mem_map.mp hitem
          exact (hfinite original horiginal).asDouble hintegers
      · exact hvalue
  | _ => exact hvalue

theorem Json.Finite.normalizeGripperNumber (hintegers : IntegersFinite D)
    (value : Json D) (hvalue : value.Finite) :
    value.normalizeGripperNumber.Finite := by
  cases value with
  | object fields =>
      rw [Json.normalizeGripperNumber]
      split
      · case _ scalar hscalar =>
          have hfields : FiniteFields fields := hvalue
          exact hfields.set _ ((hfields.lookup hscalar).asDouble hintegers)
      · exact hvalue
  | _ => exact hvalue

/-- An action with finite numbers stays so when it is normalised. -/
theorem finite_normalizedAction (hintegers : IntegersFinite D)
    {input : Json D} (hinput : input.Finite) {output : Fields D}
    (houtput : normalizedAction input = some output) :
    FiniteFields output := by
  have hdefaults : FiniteFields
      ([("joint_position_delta", .null), ("gripper_command", .null),
        ("action_chunk", .array []), ("meta", .object [])] : Fields D) :=
    ⟨trivial, trivial, trivial, trivial, trivial⟩
  have hnormalized (fields : Fields D) (hfields : FiniteFields fields) :
      FiniteFields (Fields.modify (Fields.modify
        (fields.foldl (fun action field => Fields.set action field.1 field.2)
          [("joint_position_delta", .null), ("gripper_command", .null),
            ("action_chunk", .array []), ("meta", .object [])])
        "joint_position_delta" Json.normalizeJointStateNumbers)
        "gripper_command" Json.normalizeGripperNumber) := by
    apply FiniteFields.modify
    · apply FiniteFields.modify
      · exact hdefaults.setAll hfields
      · exact Json.Finite.normalizeJointStateNumbers hintegers
    · exact Json.Finite.normalizeGripperNumber hintegers
  rw [normalizedAction.eq_def] at houtput
  split at houtput
  · cases houtput
    exact hnormalized _ hinput
  · cases houtput
    exact hnormalized [] trivial
  · cases houtput
    exact hnormalized [] trivial
  · contradiction

end Actions

end PolicyRuntime
