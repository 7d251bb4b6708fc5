import Mathlib.Data.String.Basic
import PolicyRuntime.FloatingPoint

/-!
# JSON values

Values of `nlohmann::json`: objects are maps, listed in the order of their
keys, and an integer is held signed or unsigned.  A dumped value is parsed
back with every non-negative integer held unsigned, which the equality of the
library does not tell apart.
-/

namespace PolicyRuntime

inductive JsonValue (D : Type)
  | null
  | boolean (value : Bool)
  | numberInteger (value : BitVec 64)
  | numberUnsigned (value : BitVec 64)
  | numberFloat (value : D)
  | string (value : String)
  | array (items : List (JsonValue D))
  | object (members : List (String × JsonValue D))

inductive JsonKind
  | null
  | boolean
  | integer
  | float
  | string
  | array
  | object
  deriving DecidableEq, Repr

namespace JsonValue

variable {D : Type}

/-- The kind of a value, with one kind for both kinds of integers. -/
def kind : JsonValue D → JsonKind
  | .null => .null
  | .boolean _ => .boolean
  | .numberInteger _ => .integer
  | .numberUnsigned _ => .integer
  | .numberFloat _ => .float
  | .string _ => .string
  | .array _ => .array
  | .object _ => .object

def isNull (value : JsonValue D) : Bool := value.kind == .null

def isBoolean (value : JsonValue D) : Bool := value.kind == .boolean

def isString (value : JsonValue D) : Bool := value.kind == .string

def isObject (value : JsonValue D) : Bool := value.kind == .object

def isStrictInteger (value : JsonValue D) : Bool := value.kind == .integer

def isStrictNumber (value : JsonValue D) : Bool :=
  value.isStrictInteger || value.kind == .float

/-- The keys of an object, in their order. -/
def keys : JsonValue D → List String
  | .object members => members.map Prod.fst
  | _ => []

/-- `member` of the codec -/
def member (object : JsonValue D) (name : String) : Option (JsonValue D) :=
  match object with
  | .object members => members.lookup name
  | _ => none

/-- The items of an array. -/
def items : JsonValue D → Option (List (JsonValue D))
  | .array items => some items
  | _ => none

/-- `get<std::string>` of a string -/
def text : JsonValue D → Option String
  | .string value => some value
  | _ => none

/-! ## Integers -/

mutual

/-- The value a parser makes of the dumped text. -/
def renumber : JsonValue D → JsonValue D
  | .null => .null
  | .boolean value => .boolean value
  | .numberInteger value =>
      if value.toInt < 0 then .numberInteger value else .numberUnsigned value
  | .numberUnsigned value => .numberUnsigned value
  | .numberFloat value => .numberFloat value
  | .string value => .string value
  | .array items => .array (renumberItems items)
  | .object members => .object (renumberMembers members)

def renumberItems : List (JsonValue D) → List (JsonValue D)
  | [] => []
  | item :: rest => item.renumber :: renumberItems rest

def renumberMembers :
    List (String × JsonValue D) → List (String × JsonValue D)
  | [] => []
  | (key, value) :: rest => (key, value.renumber) :: renumberMembers rest

end

attribute [grind =] renumber renumberItems renumberMembers

theorem renumberItems_eq_map (items : List (JsonValue D)) :
    renumberItems items = items.map renumber := by
  induction items with
  | nil => rfl
  | cons item rest ih =>
      rw [renumberItems, ih]
      rfl

theorem lookup_renumberMembers
    (members : List (String × JsonValue D)) (name : String) :
    (renumberMembers members).lookup name =
      (members.lookup name).map renumber := by
  induction members with
  | nil => rfl
  | cons entry rest ih =>
      obtain ⟨key, value⟩ := entry
      rw [renumberMembers, List.lookup_cons, List.lookup_cons]
      split
      · rfl
      · exact ih

theorem map_fst_renumberMembers (members : List (String × JsonValue D)) :
    (renumberMembers members).map Prod.fst = members.map Prod.fst := by
  induction members with
  | nil => rfl
  | cons entry rest ih =>
      obtain ⟨key, value⟩ := entry
      rw [renumberMembers, List.map_cons, List.map_cons, ih]

section Kinds

variable (value : JsonValue D)

@[simp] theorem kind_renumber : value.renumber.kind = value.kind := by
  cases value with
  | numberInteger number =>
      rw [renumber]
      split
      · rfl
      · rfl
  | _ => rfl

@[simp] theorem isNull_renumber : value.renumber.isNull = value.isNull := by
  rw [isNull, kind_renumber, isNull]

@[simp] theorem isBoolean_renumber :
    value.renumber.isBoolean = value.isBoolean := by
  rw [isBoolean, kind_renumber, isBoolean]

@[simp] theorem isString_renumber :
    value.renumber.isString = value.isString := by
  rw [isString, kind_renumber, isString]

@[simp] theorem isObject_renumber :
    value.renumber.isObject = value.isObject := by
  rw [isObject, kind_renumber, isObject]

@[simp] theorem isStrictNumber_renumber :
    value.renumber.isStrictNumber = value.isStrictNumber := by
  rw [isStrictNumber, isStrictInteger, kind_renumber, isStrictNumber,
    isStrictInteger]

@[simp] theorem keys_renumber : value.renumber.keys = value.keys := by
  cases value with
  | numberInteger number =>
      rw [renumber]
      split
      · rfl
      · rfl
  | object members => exact map_fst_renumberMembers members
  | _ => rfl

@[simp] theorem member_renumber (name : String) :
    value.renumber.member name = (value.member name).map renumber := by
  cases value with
  | numberInteger number =>
      rw [renumber]
      split
      · rfl
      · rfl
  | object members => exact lookup_renumberMembers members name
  | _ => rfl

@[simp] theorem items_renumber :
    value.renumber.items = value.items.map (List.map renumber) := by
  cases value with
  | numberInteger number =>
      rw [renumber]
      split
      · rfl
      · rfl
  | array items => exact congrArg some (renumberItems_eq_map items)
  | _ => rfl

@[simp] theorem text_renumber : value.renumber.text = value.text := by
  cases value with
  | numberInteger number =>
      rw [renumber]
      split
      · rfl
      · rfl
  | _ => rfl

end Kinds

/-! ## Representable values -/

section Representable

variable [FloatingPoint D]

mutual

/-- Numbers are finite, and objects are ordered by their keys. -/
def Representable : JsonValue D → Prop
  | .null | .boolean _ | .numberInteger _ | .numberUnsigned _ | .string _ =>
      True
  | .numberFloat value => FloatingPoint.isfinite value = true
  | .array items => RepresentableItems items
  | .object members =>
      (members.map Prod.fst).Pairwise (· < ·) ∧ RepresentableMembers members

def RepresentableItems : List (JsonValue D) → Prop
  | [] => True
  | item :: rest => item.Representable ∧ RepresentableItems rest

def RepresentableMembers : List (String × JsonValue D) → Prop
  | [] => True
  | (_, value) :: rest => value.Representable ∧ RepresentableMembers rest

end

theorem representableMembers_iff (members : List (String × JsonValue D)) :
    RepresentableMembers members ↔
      ∀ entry ∈ members, entry.2.Representable := by
  induction members with
  | nil => simp [RepresentableMembers]
  | cons entry rest ih =>
      obtain ⟨key, value⟩ := entry
      rw [RepresentableMembers, ih, List.forall_mem_cons]

theorem Representable.member
    {object value : JsonValue D} (hobject : object.Representable)
    {name : String} (hvalue : object.member name = some value) :
    value.Representable := by
  cases object with
  | object members =>
      rw [Representable, representableMembers_iff] at hobject
      obtain ⟨before, after, hmembers, _⟩ := List.lookup_eq_some_iff.mp hvalue
      apply hobject.2 (name, value)
      simp [hmembers]
  | _ => contradiction

mutual

theorem Representable.renumber :
    {value : JsonValue D} → value.Representable →
      value.renumber.Representable
  | .null, _ | .boolean _, _ | .numberUnsigned _, _ | .string _, _ => trivial
  | .numberInteger value, _ => by
      rw [JsonValue.renumber]
      split
      · trivial
      · trivial
  | .numberFloat _, hvalue => hvalue
  | .array _, hitems => RepresentableItems.renumber hitems
  | .object members, ⟨hkeys, hmembers⟩ => by
      constructor
      · rw [map_fst_renumberMembers]
        exact hkeys
      · exact RepresentableMembers.renumber hmembers

theorem RepresentableItems.renumber :
    {items : List (JsonValue D)} → RepresentableItems items →
      RepresentableItems (renumberItems items)
  | [], _ => trivial
  | _ :: _, ⟨hitem, hrest⟩ =>
      ⟨hitem.renumber, RepresentableItems.renumber hrest⟩

theorem RepresentableMembers.renumber :
    {members : List (String × JsonValue D)} → RepresentableMembers members →
      RepresentableMembers (renumberMembers members)
  | [], _ => trivial
  | (_, _) :: _, ⟨hvalue, hrest⟩ =>
      ⟨hvalue.renumber, RepresentableMembers.renumber hrest⟩

end

end Representable

/-! ## Equality -/

section Equality

variable [FloatingPoint D]

/-- An integer as a `double` -/
def toDouble (value : ℤ) : D := FloatingPoint.narrow (FloatingPoint.ofInt value)

mutual

/-- `operator==` -/
def equal : JsonValue D → JsonValue D → Bool
  | .null, .null => true
  | .boolean left, .boolean right => left == right
  | .string left, .string right => left == right
  | .numberFloat left, .numberFloat right => FloatingPoint.eq left right
  | .numberInteger left, .numberInteger right
  | .numberUnsigned left, .numberUnsigned right
  -- both are compared as signed integers
  | .numberInteger left, .numberUnsigned right
  | .numberUnsigned left, .numberInteger right => left == right
  | .numberInteger left, .numberFloat right =>
      FloatingPoint.eq (toDouble left.toInt) right
  | .numberFloat left, .numberInteger right =>
      FloatingPoint.eq left (toDouble right.toInt)
  | .numberUnsigned left, .numberFloat right =>
      FloatingPoint.eq (toDouble left.toNat) right
  | .numberFloat left, .numberUnsigned right =>
      FloatingPoint.eq left (toDouble right.toNat)
  | .array left, .array right => equalItems left right
  | .object left, .object right => equalMembers left right
  | _, _ => false

def equalItems : List (JsonValue D) → List (JsonValue D) → Bool
  | [], [] => true
  | left :: lefts, right :: rights =>
      left.equal right && equalItems lefts rights
  | _, _ => false

def equalMembers :
    List (String × JsonValue D) → List (String × JsonValue D) → Bool
  | [], [] => true
  | (leftKey, left) :: lefts, (rightKey, right) :: rights =>
      leftKey == rightKey && left.equal right && equalMembers lefts rights
  | _, _ => false

end

mutual

/-- A parsed value is equal to the dumped one. -/
theorem equal_renumber :
    {value : JsonValue D} → value.Representable →
      value.equal value.renumber = true
  | .null, _ => rfl
  | .boolean _, _ | .numberUnsigned _, _ | .string _, _ => by
      rw [renumber, equal, beq_self_eq_true]
  | .numberFloat value, hvalue => FloatingPoint.eq_self_of_isfinite value hvalue
  | .numberInteger value, _ => by
      rw [renumber]
      split
      · rw [equal, beq_self_eq_true]
      · rw [equal, beq_self_eq_true]
  | .array _, hitems => equalItems_renumberItems hitems
  | .object _, hobject => equalMembers_renumberMembers hobject.2

theorem equalItems_renumberItems :
    {items : List (JsonValue D)} → RepresentableItems items →
      equalItems items (renumberItems items) = true
  | [], _ => rfl
  | _ :: _, ⟨hitem, hrest⟩ => by
      rw [renumberItems, equalItems, equal_renumber hitem,
        equalItems_renumberItems hrest]
      rfl

theorem equalMembers_renumberMembers :
    {members : List (String × JsonValue D)} → RepresentableMembers members →
      equalMembers members (renumberMembers members) = true
  | [], _ => rfl
  | (_, _) :: _, ⟨hvalue, hrest⟩ => by
      rw [renumberMembers, equalMembers, equal_renumber hvalue,
        equalMembers_renumberMembers hrest, beq_self_eq_true]
      rfl

end

end Equality

end JsonValue

/-! ## Texts -/

/-- `parse`, which gives nothing for an invalid text, and `dump`. -/
structure JsonText (D τ : Type) where
  parse : τ → Option (JsonValue D)
  dump : JsonValue D → τ

/-- Parsing and dumping are inverse on representable values. -/
structure JsonText.Inverse {D τ : Type} [FloatingPoint D]
    (text : JsonText D τ) : Prop where
  parse_dump : ∀ value, value.Representable →
    text.parse (text.dump value) = some value.renumber
  parsed : ∀ input value, text.parse input = some value → value.Representable

end PolicyRuntime
