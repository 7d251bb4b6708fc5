import Mathlib.Tactic

/-!
# Arithmetic of the control code

The device code computes with `double` and `long double`.  Its control flow
uses only the operations below, so the model is written over an arbitrary
arithmetic which provides them: a theorem about every arithmetic covers the
IEEE formats, and the rational instance gives the exact arithmetic in which
concrete runs are evaluated.  The one law kept is that a finite value equals
itself.
-/

namespace PolicyRuntime

/-- The operations on `double` and `long double` used by the device code. -/
class FloatingPoint (D : Type) where
  LongDouble : Type
  zero : D
  /-- `std::numeric_limits<double>::max()` -/
  maximum : D
  isfinite : D → Bool
  lt : D → D → Bool
  le : D → D → Bool
  eq : D → D → Bool
  add : D → D → D
  sub : D → D → D
  abs : D → D
  widen : D → LongDouble
  narrow : LongDouble → D
  ofInt : ℤ → LongDouble
  /-- `static_cast` to an integer type, on values inside its range -/
  toInt : LongDouble → ℤ
  mul : LongDouble → LongDouble → LongDouble
  div : LongDouble → LongDouble → LongDouble
  neg : LongDouble → LongDouble
  round : LongDouble → LongDouble
  isfiniteLong : LongDouble → Bool
  ltLong : LongDouble → LongDouble → Bool
  eq_self_of_isfinite : ∀ x, isfinite x = true → eq x x = true

open FloatingPoint

variable {D : Type} [FloatingPoint D]

/-- `std::clamp` -/
def clamp (value lower upper : D) : D :=
  if lt value lower then lower else if lt upper value then upper else value

/-! ## Unit conversions -/

/-- `std::numeric_limits` of a signed integer type. -/
structure IntegerRange where
  minimum : ℤ
  maximum : ℤ

def int32Range : IntegerRange := ⟨-2147483648, 2147483647⟩

def int16Range : IntegerRange := ⟨-32768, 32767⟩

def engineeringToDeviceUnits
    (range : IntegerRange) (value scale : D) : Option ℤ :=
  if !isfinite value || !isfinite scale || le scale zero then
    none
  else
    let scaled := mul (widen value) (widen scale)
    if !isfiniteLong scaled then
      none
    else
      let rounded := round scaled
      if ltLong rounded (ofInt (D := D) range.minimum) ||
          ltLong (ofInt (D := D) range.maximum) rounded then
        none
      else
        some (toInt rounded)

def positionToDeviceUnits (value scale : D) : Option ℤ :=
  engineeringToDeviceUnits int32Range value scale

def velocityToDeviceUnits (value scale : D) : Option ℤ :=
  engineeringToDeviceUnits int32Range value scale

def torqueToDeviceUnits (value scale : D) : Option ℤ :=
  engineeringToDeviceUnits int16Range value scale

def deviceUnitsToEngineering (value : ℤ) (scale : D) : Option D :=
  if !isfinite scale || le scale zero then
    none
  else
    let converted := div (ofInt (D := D) value) (widen scale)
    if !isfiniteLong converted ||
        ltLong converted (neg (widen (maximum : D))) ||
        ltLong (widen (maximum : D)) converted then
      none
    else
      let result : D := narrow converted
      if isfinite result then some result else none

/-! ## Exact arithmetic -/

/-- `std::round`: halves go away from zero. -/
def roundHalfAway (x : ℚ) : ℤ :=
  if 0 ≤ x then ⌊x + 1 / 2⌋ else -⌊-x + 1 / 2⌋

instance exactArithmetic : FloatingPoint ℚ where
  LongDouble := ℚ
  zero := 0
  maximum := (2 ^ 53 - 1) * 2 ^ 971
  isfinite := fun _ => true
  lt := fun x y => decide (x < y)
  le := fun x y => decide (x ≤ y)
  eq := fun x y => decide (x = y)
  add := fun x y => x + y
  sub := fun x y => x - y
  abs := fun x => if x < 0 then -x else x
  widen := id
  narrow := id
  ofInt := fun n => (n : ℚ)
  toInt := fun x => ⌊x⌋
  mul := fun x y => x * y
  div := fun x y => x / y
  neg := fun x => -x
  round := fun x => (roundHalfAway x : ℚ)
  isfiniteLong := fun _ => true
  ltLong := fun x y => decide (x < y)
  eq_self_of_isfinite := fun _ _ => by simp

end PolicyRuntime
