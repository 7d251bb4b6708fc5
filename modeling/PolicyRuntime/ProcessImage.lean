import PolicyRuntime.Messages

/-!
# Typed fields of a process image

A process image is a span of bytes.  A typed field reads and writes a
little-endian integer at its bound location, and nothing when that location is
not inside the image.  Fields which do not overlap do not see each other.
-/

namespace PolicyRuntime

structure PdoFieldLocation where
  byteOffset : ℕ
  bitPosition : ℕ
  bitLength : ℕ
  deriving DecidableEq, Repr

/-- A field of an integer type of `width` bytes. -/
structure TypedPdoField (width : ℕ) where
  location : PdoFieldLocation
  bound : Bool
  deriving DecidableEq, Repr

abbrev ProcessImage (size : ℕ) := Vector (BitVec 8) size

namespace TypedPdoField

variable {width size : ℕ}

def unbound : TypedPdoField width := ⟨⟨0, 0, 0⟩, false⟩

def bind (field : TypedPdoField width) (location : PdoFieldLocation) :
    TypedPdoField width × Except Error Unit :=
  if field.bound then
    (field, .error ⟨.invalidArgument, "PDO field is already bound"⟩)
  else if location.bitPosition ≠ 0 ∨ location.bitLength ≠ width * 8 then
    (field, .error ⟨.invalidArgument,
      "PDO field alignment or width is incompatible"⟩)
  else
    (⟨location, true⟩, .ok ())

def contains (field : TypedPdoField width) (processImageSize : ℕ) : Bool :=
  field.bound && field.location.byteOffset ≤ processImageSize &&
    width ≤ processImageSize - field.location.byteOffset

/-- The loop of `read` over the first `count` bytes. -/
def readBytes (offset : ℕ) (image : ProcessImage size) (count : ℕ) :
    BitVec (8 * width) :=
  (List.range count).foldl
    (fun wireValue index => wireValue |||
      ((image[offset + index]?.getD 0).setWidth (8 * width) <<< (index * 8)))
    0

def read (field : TypedPdoField width) (image : ProcessImage size) :
    Option (BitVec (8 * width)) :=
  if !field.contains size then none
  else some (readBytes field.location.byteOffset image width)

/-- The loop of `write` over the first `count` bytes. -/
def writeBytes (offset : ℕ) (value : BitVec (8 * width))
    (image : ProcessImage size) (count : ℕ) : ProcessImage size :=
  (List.range count).foldl
    (fun image index =>
      image.setIfInBounds (offset + index) ((value >>> (index * 8)).setWidth 8))
    image

def write (field : TypedPdoField width) (image : ProcessImage size)
    (value : BitVec (8 * width)) : ProcessImage size × Bool :=
  if !field.contains size then (image, false)
  else (writeBytes field.location.byteOffset value image width, true)

theorem contains_iff {field : TypedPdoField width} :
    field.contains size = true ↔
      field.bound = true ∧ field.location.byteOffset + width ≤ size ∧
        field.location.byteOffset ≤ size := by
  unfold contains
  simp only [Bool.and_eq_true, decide_eq_true_eq]
  constructor
  · rintro ⟨⟨hbound, hle⟩, hwidth⟩
    exact ⟨hbound, by omega, hle⟩
  · rintro ⟨hbound, hend, hle⟩
    exact ⟨⟨hbound, hle⟩, by omega⟩

/-! ## Bytes -/

theorem getElem?_writeBytes
    (offset : ℕ) (value : BitVec (8 * width)) (image : ProcessImage size)
    (count position : ℕ) :
    (writeBytes offset value image count)[position]? =
      if offset ≤ position ∧ position < offset + count ∧ position < size then
        some ((value >>> ((position - offset) * 8)).setWidth 8)
      else image[position]? := by
  induction count with
  | zero =>
      have hnone : ¬ (offset ≤ position ∧ position < offset + 0 ∧
          position < size) := by omega
      rw [if_neg hnone]
      rfl
  | succ count ih =>
      unfold writeBytes at ih ⊢
      rw [List.range_succ, List.foldl_append, List.foldl_cons,
        List.foldl_nil, Vector.getElem?_setIfInBounds, ih]
      by_cases hlast : offset + count = position
      · rw [if_pos hlast]
        by_cases hsize : position < size
        · have hinside : offset ≤ position ∧ position < offset + (count + 1) ∧
              position < size := by omega
          have hcount : position - offset = count := by omega
          rw [if_pos (by omega), if_pos hinside, hcount]
        · have houtside : ¬ (offset ≤ position ∧
              position < offset + (count + 1) ∧ position < size) := by omega
          rw [if_neg (by omega), if_neg houtside,
            Vector.getElem?_eq_none (by omega)]
      · rw [if_neg hlast]
        have hsame : (offset ≤ position ∧ position < offset + (count + 1) ∧
            position < size) ↔ (offset ≤ position ∧
            position < offset + count ∧ position < size) := by omega
        simp only [hsame]

theorem getLsbD_readBytes
    (offset : ℕ) (image : ProcessImage size) (count bit : ℕ) :
    (readBytes offset image count : BitVec (8 * width)).getLsbD bit =
      (decide (bit < 8 * count) && decide (bit < 8 * width) &&
        (image[offset + bit / 8]?.getD 0).getLsbD (bit % 8)) := by
  induction count with
  | zero => simp [readBytes]
  | succ count ih =>
      unfold readBytes at ih ⊢
      rw [List.range_succ, List.foldl_append, List.foldl_cons,
        List.foldl_nil, BitVec.getLsbD_or, ih, BitVec.getLsbD_shiftLeft,
        BitVec.getLsbD_setWidth]
      by_cases hwidth : bit < 8 * width
      · rcases Nat.lt_trichotomy (bit / 8) count with hlow | hhere | hhigh
        · have hbefore : bit < 8 * count := by omega
          have hnext : bit < 8 * (count + 1) := by omega
          have hshift : bit < count * 8 := by omega
          simp [hbefore, hnext, hshift]
        · have hbefore : ¬ bit < 8 * count := by omega
          have hnext : bit < 8 * (count + 1) := by omega
          have hshift : ¬ bit < count * 8 := by omega
          have hoffset : bit - count * 8 = bit % 8 := by omega
          have hinside : bit % 8 < 8 * width := by omega
          simp [hbefore, hnext, hshift, hoffset, hinside, hwidth, hhere]
        · have hbefore : ¬ bit < 8 * count := by omega
          have hnext : ¬ bit < 8 * (count + 1) := by omega
          have hbyte : 8 ≤ bit - count * 8 := by omega
          have hnone : (image[offset + count]?.getD 0).getLsbD
              (bit - count * 8) = false := BitVec.getLsbD_of_ge _ _ hbyte
          simp only [hbefore, hnext, decide_false, Bool.false_and,
            Bool.false_or, hnone, Bool.and_false]
      · simp [hwidth]

/-- A field which lies inside the image reads back what was written. -/
theorem read_write
    {field : TypedPdoField width} {image : ProcessImage size}
    (hcontains : field.contains size = true) (value : BitVec (8 * width)) :
    field.read (field.write image value).1 = some value := by
  obtain ⟨_, hend, _⟩ := contains_iff.mp hcontains
  unfold read write
  simp only [hcontains, Bool.not_true, Bool.false_eq_true, if_false,
    Option.some.injEq]
  apply BitVec.eq_of_getLsbD_eq
  intro bit hbit
  have hinside : field.location.byteOffset ≤
        field.location.byteOffset + bit / 8 ∧
      field.location.byteOffset + bit / 8 <
        field.location.byteOffset + width ∧
      field.location.byteOffset + bit / 8 < size := by omega
  have hposition : field.location.byteOffset + bit / 8 -
      field.location.byteOffset = bit / 8 := by omega
  have hlow : bit % 8 < 8 := by omega
  have hbits : bit / 8 * 8 + bit % 8 = bit := by omega
  rw [getLsbD_readBytes, getElem?_writeBytes, if_pos hinside, hposition,
    Option.getD_some, BitVec.getLsbD_setWidth, BitVec.getLsbD_ushiftRight,
    hbits]
  simp [hbit, hlow]

/-- The bytes of the image after a write, each by its position. -/
theorem getElem?_write
    (field : TypedPdoField width) (image : ProcessImage size)
    (value : BitVec (8 * width)) (position : ℕ) :
    (field.write image value).1[position]? =
      if field.contains size = true ∧
          field.location.byteOffset ≤ position ∧
          position < field.location.byteOffset + width then
        some ((value >>> ((position - field.location.byteOffset) * 8)).setWidth
          8)
      else image[position]? := by
  unfold write
  cases hcontains : field.contains size with
  | false => simp
  | true =>
      obtain ⟨_, hend, _⟩ := contains_iff.mp hcontains
      have hinside : (field.location.byteOffset ≤ position ∧
          position < field.location.byteOffset + width ∧ position < size) ↔
          (field.location.byteOffset ≤ position ∧
            position < field.location.byteOffset + width) := by omega
      simp only [Bool.not_true, Bool.false_eq_true, if_false,
        getElem?_writeBytes, hinside, true_and]

/-- A write leaves every byte outside its field as it was. -/
theorem getElem?_write_of_outside
    (field : TypedPdoField width) (image : ProcessImage size)
    (value : BitVec (8 * width)) {position : ℕ}
    (houtside : position < field.location.byteOffset ∨
      field.location.byteOffset + width ≤ position) :
    (field.write image value).1[position]? = image[position]? := by
  rw [getElem?_write, if_neg (by omega)]

/-- What a read returns depends only on the bytes of its field. -/
theorem read_congr
    (field : TypedPdoField width) {image other : ProcessImage size}
    (hbytes : ∀ index, index < width → field.contains size = true →
      image[field.location.byteOffset + index]? =
        other[field.location.byteOffset + index]?) :
    field.read image = field.read other := by
  unfold read
  cases hcontains : field.contains size with
  | false => rfl
  | true =>
      simp only [Bool.not_true, Bool.false_eq_true, if_false,
        Option.some.injEq]
      apply BitVec.eq_of_getLsbD_eq
      intro bit hbit
      rw [getLsbD_readBytes, getLsbD_readBytes,
        hbytes (bit / 8) (by omega) hcontains]

end TypedPdoField

/-! ## Disjoint fields -/

/-- A field of any width. -/
structure PdoSlot where
  width : ℕ
  field : TypedPdoField width

/-- Two fields, if both are bound, do not overlap. -/
def PdoSlot.Disjoint (left right : PdoSlot) : Prop :=
  left.field.bound = true → right.field.bound = true →
    left.field.location.byteOffset + left.width ≤
        right.field.location.byteOffset ∨
      right.field.location.byteOffset + right.width ≤
        left.field.location.byteOffset

instance (left right : PdoSlot) : Decidable (left.Disjoint right) :=
  inferInstanceAs (Decidable (_ → _ → _))

namespace PdoSlot

variable {size : ℕ}

/-- A read does not see a write to a disjoint field. -/
theorem Disjoint.read_write
    {left right : PdoSlot} (hdisjoint : left.Disjoint right)
    (image : ProcessImage size) (value : BitVec (8 * right.width)) :
    left.field.read (right.field.write image value).1 =
      left.field.read image := by
  apply TypedPdoField.read_congr
  intro index hindex hleft
  rw [TypedPdoField.getElem?_write, if_neg]
  rintro ⟨hright, hlow, hhigh⟩
  have hapart := hdisjoint (TypedPdoField.contains_iff.mp hleft).1
    (TypedPdoField.contains_iff.mp hright).1
  omega

/-- Writes to disjoint fields commute. -/
theorem Disjoint.write_comm
    {left right : PdoSlot} (hdisjoint : left.Disjoint right)
    (image : ProcessImage size) (leftValue : BitVec (8 * left.width))
    (rightValue : BitVec (8 * right.width)) :
    (left.field.write (right.field.write image rightValue).1 leftValue).1 =
      (right.field.write (left.field.write image leftValue).1
        rightValue).1 := by
  apply Vector.ext
  intro position hposition
  rw [← Option.some_inj, ← Vector.getElem?_eq_getElem hposition,
    ← Vector.getElem?_eq_getElem hposition]
  simp only [TypedPdoField.getElem?_write]
  by_cases hleft : left.field.contains size = true ∧
      left.field.location.byteOffset ≤ position ∧
      position < left.field.location.byteOffset + left.width
  · have hright : ¬ (right.field.contains size = true ∧
        right.field.location.byteOffset ≤ position ∧
        position < right.field.location.byteOffset + right.width) := by
      rintro ⟨hcontains, hlow, hhigh⟩
      have hapart := hdisjoint (TypedPdoField.contains_iff.mp hleft.1).1
        (TypedPdoField.contains_iff.mp hcontains).1
      omega
    rw [if_pos hleft, if_neg hright, if_pos hleft]
  · rw [if_neg hleft, if_neg hleft]

end PdoSlot

/-! ## Outputs -/

/-- A field with the value to be written into it. -/
structure PdoOutput extends PdoSlot where
  value : BitVec (8 * width)

namespace PdoOutput

variable {size : ℕ}

def store (output : PdoOutput) (image : ProcessImage size) :
    ProcessImage size :=
  (output.field.write image output.value).1

def storeAll (outputs : List PdoOutput) (image : ProcessImage size) :
    ProcessImage size :=
  outputs.foldl (fun image output => output.store image) image

/-- The field holds the value in the image. -/
def StoredIn (output : PdoOutput) (image : ProcessImage size) : Prop :=
  output.field.read image = some output.value

theorem storedIn_store
    {output : PdoOutput} {image : ProcessImage size}
    (hcontains : output.field.contains size = true) :
    output.StoredIn (output.store image) :=
  TypedPdoField.read_write hcontains output.value

theorem StoredIn.store
    {output other : PdoOutput} {image : ProcessImage size}
    (hstored : output.StoredIn image)
    (hdisjoint : output.toPdoSlot.Disjoint other.toPdoSlot) :
    output.StoredIn (other.store image) := by
  unfold StoredIn PdoOutput.store at *
  rw [hdisjoint.read_write]
  exact hstored

/-- Every output of a disjoint sequence is still there at its end. -/
theorem storedIn_storeAll
    {outputs : List PdoOutput}
    (hdisjoint : (outputs.map toPdoSlot).Pairwise PdoSlot.Disjoint)
    {output : PdoOutput} (houtput : output ∈ outputs)
    (hcontains : output.field.contains size = true)
    (image : ProcessImage size) : output.StoredIn (storeAll outputs image) := by
  induction outputs using List.reverseRecOn generalizing image with
  | nil => contradiction
  | append_singleton outputs last ih =>
      rw [List.map_append, List.pairwise_append] at hdisjoint
      unfold storeAll at ih ⊢
      rw [List.foldl_append, List.foldl_cons, List.foldl_nil]
      rcases List.mem_append.mp houtput with hold | hnew
      · have hstored := ih hdisjoint.1 hold image
        exact hstored.store
          (hdisjoint.2.2 _ (List.mem_map_of_mem hold) last.toPdoSlot
            (List.mem_singleton_self _))
      · rw [List.mem_singleton] at hnew
        rw [hnew] at hcontains ⊢
        exact storedIn_store hcontains

end PdoOutput

end PolicyRuntime
