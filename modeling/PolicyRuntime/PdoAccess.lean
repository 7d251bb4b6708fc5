import PolicyRuntime.ProcessImage

/-!
# Field access in machine integers

The accesses of a process image as the machine makes them: offsets and sizes
are 64-bit words, bytes are put together after promotion to 32 bits, and a
signed integer goes through the unsigned integer of its width.  They agree
with the typed fields of the process image, so no offset wraps around.
-/

namespace PolicyRuntime

/-- A value of `std::size_t`. -/
abbrev SizeWord := BitVec 64

/-- An integer type which a field can have. -/
structure FieldType where
  width : ℕ
  signed : Bool
  supported : width = 1 ∨ width = 2 ∨ width = 4

namespace FieldType

variable (T : FieldType)

def least : ℤ := if T.signed then -2 ^ (8 * T.width - 1) else 0

def greatest : ℤ :=
  if T.signed then 2 ^ (8 * T.width - 1) - 1 else 2 ^ (8 * T.width) - 1

/-- The integers of the type. -/
def Value : Type := {value : ℤ // T.least ≤ value ∧ value ≤ T.greatest}

instance : DecidableEq T.Value :=
  inferInstanceAs (DecidableEq {_value : ℤ // _})

variable {T}

theorem width_pos : 0 < T.width := by
  rcases T.supported with hone | htwo | hfour <;> omega

theorem width_le : T.width ≤ 4 := by
  rcases T.supported with hone | htwo | hfour <;> omega

/-- The bits of a value as the unsigned integer of its width. -/
def toUnsigned (value : T.Value) : BitVec (8 * T.width) :=
  BitVec.ofInt (8 * T.width) value.1

theorem ofUnsigned_mem (wireValue : BitVec (8 * T.width)) :
    T.least ≤ (if T.signed then wireValue.toInt else (wireValue.toNat : ℤ)) ∧
      (if T.signed then wireValue.toInt else (wireValue.toNat : ℤ)) ≤
        T.greatest := by
  unfold least greatest
  cases T.signed with
  | false =>
      have hlt : (wireValue.toNat : ℤ) < 2 ^ (8 * T.width) := by
        exact_mod_cast wireValue.isLt
      simp only [Bool.false_eq_true, if_false]
      omega
  | true =>
      have hlow := BitVec.le_toInt wireValue
      have hhigh := BitVec.toInt_lt (x := wireValue)
      simp only [if_true]
      omega

/-- The value which has the bits of an unsigned integer. -/
def ofUnsigned (wireValue : BitVec (8 * T.width)) : T.Value :=
  ⟨if T.signed then wireValue.toInt else wireValue.toNat,
    ofUnsigned_mem wireValue⟩

theorem ofUnsigned_toUnsigned (value : T.Value) :
    ofUnsigned (toUnsigned value) = value := by
  obtain ⟨value, hlow, hhigh⟩ := value
  apply Subtype.ext
  change (if T.signed then (BitVec.ofInt (8 * T.width) value).toInt
    else ((BitVec.ofInt (8 * T.width) value).toNat : ℤ)) = value
  unfold least at hlow
  unfold greatest at hhigh
  have hwidth : 0 < 8 * T.width := by
    have := T.width_pos
    omega
  cases hsigned : T.signed with
  | false =>
      rw [hsigned] at hlow hhigh
      simp only [Bool.false_eq_true, if_false] at hlow hhigh ⊢
      rw [BitVec.toNat_ofInt, Int.emod_eq_of_lt hlow (by push_cast; omega)]
      omega
  | true =>
      rw [hsigned] at hlow hhigh
      simp only [if_true] at hlow hhigh ⊢
      exact BitVec.toInt_ofInt_eq_self hwidth hlow (by omega)

end FieldType

/-- A field of an integer type.  Its offset is a `std::size_t`. -/
structure IntegerField (T : FieldType) extends TypedPdoField T.width where
  addressable : location.byteOffset < 2 ^ 64

namespace IntegerField

variable {T U : FieldType} {size : ℕ}

def offset (field : IntegerField T) : SizeWord :=
  BitVec.ofNat 64 field.location.byteOffset

/-- The test of `contains` in unsigned words. -/
def containsWord (field : IntegerField T) (processImageSize : SizeWord) :
    Bool :=
  field.bound && decide (field.offset ≤ processImageSize) &&
    decide (BitVec.ofNat 64 T.width ≤ processImageSize - field.offset)

/-- The position which the loops of `read` and `write` access. -/
def position (field : IntegerField T) (index : ℕ) : ℕ :=
  (field.offset + BitVec.ofNat 64 index).toNat

/-- One pass of the loop of `read`.  Both operands are promoted to 32 bits,
and the assignment truncates to the unsigned type. -/
def assemble (wireValue : BitVec (8 * T.width)) (byte : BitVec 8)
    (index : ℕ) : BitVec (8 * T.width) :=
  (wireValue.setWidth 32 |||
    ((byte.setWidth (8 * T.width)).setWidth 32 <<< (index * 8))).setWidth
      (8 * T.width)

/-- The byte which one pass of the loop of `write` stores.  An unsigned value
is not negative after its promotion, so the shift brings in zeros. -/
def wireByte (wireValue : BitVec (8 * T.width)) (index : ℕ) : BitVec 8 :=
  ((wireValue.setWidth 32) >>> (index * 8)).setWidth 8

def readValue (field : IntegerField T) (image : ProcessImage size) :
    Option T.Value :=
  if !field.containsWord (BitVec.ofNat 64 size) then none
  else
    some (FieldType.ofUnsigned ((List.range T.width).foldl
      (fun wireValue index =>
        assemble wireValue (image[field.position index]?.getD 0) index) 0))

def writeValue (field : IntegerField T) (image : ProcessImage size)
    (value : T.Value) : ProcessImage size × Bool :=
  if !field.containsWord (BitVec.ofNat 64 size) then (image, false)
  else
    let wireValue := FieldType.toUnsigned value
    ((List.range T.width).foldl
      (fun image index =>
        image.setIfInBounds (field.position index) (wireByte wireValue index))
      image, true)

/-! ## No offset wraps around -/

theorem toNat_offset (field : IntegerField T) :
    field.offset.toNat = field.location.byteOffset := by
  rw [offset, BitVec.toNat_ofNat, Nat.mod_eq_of_lt field.addressable]

theorem containsWord_eq_contains
    (field : IntegerField T) (hsize : size < 2 ^ 64) :
    field.containsWord (BitVec.ofNat 64 size) = field.contains size := by
  have hsizeWord : (BitVec.ofNat 64 size).toNat = size := by
    rw [BitVec.toNat_ofNat, Nat.mod_eq_of_lt hsize]
  have hwidth : (BitVec.ofNat 64 T.width).toNat = T.width := by
    have := T.width_le
    rw [BitVec.toNat_ofNat, Nat.mod_eq_of_lt (by omega)]
  have hoffset : field.offset ≤ BitVec.ofNat 64 size ↔
      field.location.byteOffset ≤ size := by
    rw [BitVec.le_def, toNat_offset, hsizeWord]
  unfold containsWord TypedPdoField.contains
  rw [decide_eq_decide.mpr hoffset]
  cases hle : decide (field.location.byteOffset ≤ size) with
  | false => simp
  | true =>
      rw [decide_eq_true_eq] at hle
      have hspace : (BitVec.ofNat 64 size - field.offset).toNat =
          size - field.location.byteOffset := by
        rw [BitVec.toNat_sub_of_le (hoffset.mpr hle), hsizeWord, toNat_offset]
      have hfits : BitVec.ofNat 64 T.width ≤
            BitVec.ofNat 64 size - field.offset ↔
          T.width ≤ size - field.location.byteOffset := by
        rw [BitVec.le_def, hwidth, hspace]
      rw [decide_eq_decide.mpr hfits]

theorem position_eq
    {field : IntegerField T} (hsize : size < 2 ^ 64)
    (hcontains : field.contains size = true) {index : ℕ}
    (hindex : index < T.width) :
    field.position index = field.location.byteOffset + index := by
  obtain ⟨_, hend, _⟩ := TypedPdoField.contains_iff.mp hcontains
  rw [position, BitVec.toNat_add, toNat_offset, BitVec.toNat_ofNat,
    Nat.mod_eq_of_lt (a := index) (by omega), Nat.mod_eq_of_lt (by omega)]

/-! ## Promotion -/

theorem assemble_eq (wireValue : BitVec (8 * T.width)) (byte : BitVec 8)
    (index : ℕ) :
    assemble wireValue byte index =
      wireValue ||| (byte.setWidth (8 * T.width) <<< (index * 8)) := by
  have hwidth := T.width_le
  apply BitVec.eq_of_getLsbD_eq
  intro bit hbit
  have hpromoted : bit < 32 := by omega
  have hshifted : bit - index * 8 < 8 * T.width := by omega
  simp [assemble, hbit, hpromoted, hshifted]

theorem wireByte_eq (wireValue : BitVec (8 * T.width)) (index : ℕ) :
    wireByte wireValue index = (wireValue >>> (index * 8)).setWidth 8 := by
  have hwidth := T.width_le
  apply BitVec.eq_of_getLsbD_eq
  intro bit hbit
  simp only [wireByte, BitVec.getLsbD_setWidth, BitVec.getLsbD_ushiftRight,
    hbit, decide_true, Bool.true_and, Bool.and_eq_right_iff_imp,
    decide_eq_true_eq]
  intro hset
  have hlt := BitVec.lt_of_getLsbD hset
  omega

/-! ## The typed field -/

theorem readValue_eq
    (field : IntegerField T) (hsize : size < 2 ^ 64)
    (image : ProcessImage size) :
    field.readValue image = (field.read image).map FieldType.ofUnsigned := by
  unfold readValue TypedPdoField.read
  rw [containsWord_eq_contains field hsize]
  cases hcontains : field.contains size with
  | false => rfl
  | true =>
      simp only [Bool.not_true, Bool.false_eq_true, if_false,
        Option.map_some, Option.some.injEq]
      congr 1
      apply List.foldl_ext
      intro wireValue index hindex
      rw [assemble_eq,
        position_eq hsize hcontains (List.mem_range.mp hindex)]

theorem writeValue_eq
    (field : IntegerField T) (hsize : size < 2 ^ 64)
    (image : ProcessImage size) (value : T.Value) :
    field.writeValue image value =
      field.write image (FieldType.toUnsigned value) := by
  unfold writeValue TypedPdoField.write
  rw [containsWord_eq_contains field hsize]
  cases hcontains : field.contains size with
  | false => rfl
  | true =>
      simp only [Bool.not_true, Bool.false_eq_true, if_false,
        Prod.mk.injEq, and_true]
      apply List.foldl_ext
      intro image index hindex
      rw [wireByte_eq,
        position_eq hsize hcontains (List.mem_range.mp hindex)]

/-- The field is bound and lies wholly inside an image of the size. -/
def Inside (field : IntegerField T) (size : ℕ) : Prop :=
  field.bound = true ∧ field.location.byteOffset + T.width ≤ size

theorem inside_iff {field : IntegerField T} :
    field.Inside size ↔ field.contains size = true := by
  rw [TypedPdoField.contains_iff]
  constructor
  · rintro ⟨hbound, hend⟩
    exact ⟨hbound, hend, by omega⟩
  · rintro ⟨hbound, hend, _⟩
    exact ⟨hbound, hend⟩

def slot (field : IntegerField T) : PdoSlot :=
  ⟨T.width, field.toTypedPdoField⟩

/-- The bytes of two bound fields do not overlap. -/
def Disjoint (field : IntegerField T) (other : IntegerField U) : Prop :=
  field.slot.Disjoint other.slot

theorem Disjoint.symm {field : IntegerField T} {other : IntegerField U}
    (hdisjoint : field.Disjoint other) : other.Disjoint field :=
  fun hother hfield => (hdisjoint hfield hother).symm

theorem isSome_readValue
    (field : IntegerField T) (hsize : size < 2 ^ 64)
    (image : ProcessImage size) :
    (field.readValue image).isSome = true ↔ field.Inside size := by
  rw [readValue_eq field hsize, Option.isSome_map, inside_iff]
  unfold TypedPdoField.read
  cases field.contains size <;> simp

theorem writeValue_succeeds
    (field : IntegerField T) (hsize : size < 2 ^ 64)
    (image : ProcessImage size) (value : T.Value) :
    (field.writeValue image value).2 = true ↔ field.Inside size := by
  rw [writeValue_eq field hsize, inside_iff]
  unfold TypedPdoField.write
  cases field.contains size <;> simp

theorem readValue_writeValue
    {field : IntegerField T} (hsize : size < 2 ^ 64)
    (hinside : field.Inside size) (image : ProcessImage size)
    (value : T.Value) :
    field.readValue (field.writeValue image value).1 = some value := by
  rw [writeValue_eq field hsize, readValue_eq field hsize,
    TypedPdoField.read_write (inside_iff.mp hinside), Option.map_some,
    FieldType.ofUnsigned_toUnsigned]

theorem writeValue_outside
    {field : IntegerField T} (hsize : size < 2 ^ 64)
    (hinside : ¬ field.Inside size) (image : ProcessImage size)
    (value : T.Value) : (field.writeValue image value).1 = image := by
  rw [inside_iff, Bool.not_eq_true] at hinside
  rw [writeValue_eq field hsize]
  simp [TypedPdoField.write, hinside]

theorem Disjoint.readValue_writeValue
    {field : IntegerField T} {other : IntegerField U}
    (hdisjoint : field.Disjoint other) (hsize : size < 2 ^ 64)
    (image : ProcessImage size) (value : U.Value) :
    field.readValue (other.writeValue image value).1 =
      field.readValue image := by
  rw [writeValue_eq other hsize, readValue_eq field hsize,
    readValue_eq field hsize]
  exact congrArg (Option.map FieldType.ofUnsigned)
    (PdoSlot.Disjoint.read_write hdisjoint image (FieldType.toUnsigned value))

theorem Disjoint.writeValue_comm
    {field : IntegerField T} {other : IntegerField U}
    (hdisjoint : field.Disjoint other) (hsize : size < 2 ^ 64)
    (image : ProcessImage size) (value : T.Value) (otherValue : U.Value) :
    (field.writeValue (other.writeValue image otherValue).1 value).1 =
      (other.writeValue (field.writeValue image value).1 otherValue).1 := by
  rw [writeValue_eq field hsize, writeValue_eq other hsize,
    writeValue_eq other hsize, writeValue_eq field hsize]
  exact PdoSlot.Disjoint.write_comm hdisjoint image
    (FieldType.toUnsigned value) (FieldType.toUnsigned otherValue)

/-- Reads and writes succeed exactly inside the image, a read returns what
was written, and nothing outside the field changes. -/
theorem fieldAccess_exact
    (field : IntegerField T) (other : IntegerField U)
    (hsize : size < 2 ^ 64) (image : ProcessImage size) :
    ((field.readValue image).isSome = true ↔ field.Inside size) ∧
    (∀ value, (field.writeValue image value).2 = true ↔ field.Inside size) ∧
    (field.Inside size → ∀ index, index < T.width →
      field.position index = field.location.byteOffset + index ∧
        field.position index < size) ∧
    (∀ value, (field.writeValue image value).2 = true →
      field.readValue (field.writeValue image value).1 = some value) ∧
    (∀ value, (field.writeValue image value).2 = false →
      (field.writeValue image value).1 = image) ∧
    (∀ value position, position < field.location.byteOffset ∨
        field.location.byteOffset + T.width ≤ position →
      (field.writeValue image value).1[position]? = image[position]?) ∧
    (field.Disjoint other → ∀ value otherValue,
      (field.writeValue (other.writeValue image otherValue).1 value).1 =
          (other.writeValue (field.writeValue image value).1 otherValue).1 ∧
        field.readValue (other.writeValue image otherValue).1 =
          field.readValue image ∧
        other.readValue (field.writeValue image value).1 =
          other.readValue image) := by
  refine ⟨isSome_readValue field hsize image,
    writeValue_succeeds field hsize image, ?_, ?_, ?_, ?_, ?_⟩
  · intro hinside index hindex
    have hposition := position_eq hsize (inside_iff.mp hinside) hindex
    have hend := hinside.2
    exact ⟨hposition, by omega⟩
  · intro value hwritten
    rw [writeValue_succeeds field hsize] at hwritten
    exact readValue_writeValue hsize hwritten image value
  · intro value hrefused
    rw [← Bool.not_eq_true, writeValue_succeeds field hsize] at hrefused
    exact writeValue_outside hsize hrefused image value
  · intro value position houtside
    rw [writeValue_eq field hsize]
    exact TypedPdoField.getElem?_write_of_outside _ image _ houtside
  · intro hdisjoint value otherValue
    exact ⟨hdisjoint.writeValue_comm hsize image value otherValue,
      hdisjoint.readValue_writeValue hsize image otherValue,
      hdisjoint.symm.readValue_writeValue hsize image value⟩

end IntegerField

/-! ## An instance -/

def int32Type : FieldType := ⟨4, true, by decide⟩

def uint16Type : FieldType := ⟨2, false, by decide⟩

/-- A drive's target position followed by its control word. -/
def targetPositionField : IntegerField int32Type :=
  ⟨⟨⟨0, 0, 32⟩, true⟩, by decide⟩

def controlWordField : IntegerField uint16Type :=
  ⟨⟨⟨4, 0, 16⟩, true⟩, by decide⟩

def negativePosition : int32Type.Value := ⟨-1000, by decide⟩

/-- The target position reads back, and the write of the control word which
follows it leaves it there. -/
theorem fieldAccess_exact_drive :
    targetPositionField.readValue
        (targetPositionField.writeValue
          (Vector.replicate 6 0 : ProcessImage 6) negativePosition).1 =
      some negativePosition ∧
    ∀ image : ProcessImage 6, ∀ value,
      targetPositionField.readValue
          (controlWordField.writeValue image value).1 =
        targetPositionField.readValue image := by
  constructor
  · obtain ⟨_, hsucceeds, _, hreads, _⟩ := IntegerField.fieldAccess_exact
      targetPositionField controlWordField (by decide)
      (Vector.replicate 6 0 : ProcessImage 6)
    exact hreads negativePosition
      ((hsucceeds negativePosition).mpr ⟨rfl, by decide⟩)
  · intro image value
    obtain ⟨_, _, _, _, _, _, hdisjoint⟩ := IntegerField.fieldAccess_exact
      targetPositionField controlWordField (by decide) image
    exact (hdisjoint (fun _ _ => Or.inl (by decide)) negativePosition
      value).2.1

end PolicyRuntime
