import PolicyRuntime.FloatingPoint

/-!
# Exact arithmetic with non-finite values

The rationals without rounding, extended by the infinities and a NaN, so that
a run may contain every kind of value the device code checks for.  Zeros carry
no sign.
-/

namespace PolicyRuntime

inductive ExtendedRational
  | finite (value : ℚ)
  | infinite (negative : Bool)
  | nan
  deriving DecidableEq

namespace ExtendedRational

def isfinite : ExtendedRational → Bool
  | finite _ => true
  | infinite _ | nan => false

def lt : ExtendedRational → ExtendedRational → Bool
  | finite x, finite y => decide (x < y)
  | finite _, infinite negative => !negative
  | infinite negative, finite _ => negative
  | infinite left, infinite right => left && !right
  | nan, _ | finite _, nan | infinite _, nan => false

def eq : ExtendedRational → ExtendedRational → Bool
  | finite x, finite y => decide (x = y)
  | infinite left, infinite right => left == right
  | nan, _ | finite _, infinite _ | finite _, nan | infinite _, finite _
  | infinite _, nan => false

def le (x y : ExtendedRational) : Bool := lt x y || eq x y

def neg : ExtendedRational → ExtendedRational
  | finite x => finite (-x)
  | infinite negative => infinite (!negative)
  | nan => nan

def add : ExtendedRational → ExtendedRational → ExtendedRational
  | finite x, finite y => finite (x + y)
  | finite _, infinite negative => infinite negative
  | infinite negative, finite _ => infinite negative
  | infinite left, infinite right => if left = right then infinite left else nan
  | nan, _ | finite _, nan | infinite _, nan => nan

def sub (x y : ExtendedRational) : ExtendedRational := add x (neg y)

def abs : ExtendedRational → ExtendedRational
  | finite x => finite |x|
  | infinite _ => infinite false
  | nan => nan

def mul : ExtendedRational → ExtendedRational → ExtendedRational
  | finite x, finite y => finite (x * y)
  | finite x, infinite negative | infinite negative, finite x =>
      if x = 0 then nan else infinite (negative != decide (x < 0))
  | infinite left, infinite right => infinite (left != right)
  | nan, _ | finite _, nan | infinite _, nan => nan

def div : ExtendedRational → ExtendedRational → ExtendedRational
  | finite x, finite y =>
      if y ≠ 0 then finite (x / y)
      else if x = 0 then nan
      else infinite (decide (x < 0))
  | finite _, infinite _ => finite 0
  | infinite negative, finite y => infinite (negative != decide (y < 0))
  | infinite _, infinite _ | nan, _ | finite _, nan | infinite _, nan => nan

def round : ExtendedRational → ExtendedRational
  | finite x => finite (roundHalfAway x)
  | infinite negative => infinite negative
  | nan => nan

def toInt : ExtendedRational → ℤ
  | finite x => ⌊x⌋
  | infinite _ | nan => 0

end ExtendedRational

instance extendedArithmetic : FloatingPoint ExtendedRational where
  LongDouble := ExtendedRational
  zero := .finite 0
  maximum := .finite ((2 ^ 53 - 1) * 2 ^ 971)
  isfinite := ExtendedRational.isfinite
  lt := ExtendedRational.lt
  le := ExtendedRational.le
  eq := ExtendedRational.eq
  add := ExtendedRational.add
  sub := ExtendedRational.sub
  abs := ExtendedRational.abs
  widen := id
  narrow := id
  ofInt := fun n => .finite n
  toInt := ExtendedRational.toInt
  mul := ExtendedRational.mul
  div := ExtendedRational.div
  neg := ExtendedRational.neg
  round := ExtendedRational.round
  isfiniteLong := ExtendedRational.isfinite
  ltLong := ExtendedRational.lt
  eq_self_of_isfinite := by
    intro x hfinite
    cases x with
    | finite x => simp [ExtendedRational.eq]
    | infinite negative => contradiction
    | nan => contradiction

namespace ExtendedRational

open FloatingPoint

theorem exists_of_isfinite {x : ExtendedRational}
    (hfinite : FloatingPoint.isfinite x = true) : ∃ q, x = finite q := by
  cases x with
  | finite q => exact ⟨q, rfl⟩
  | infinite negative => contradiction
  | nan => contradiction

section Finite

variable (x y : ℚ)

@[simp] theorem isfinite_finite :
    FloatingPoint.isfinite (finite x) = true := rfl

@[simp] theorem lt_finite :
    FloatingPoint.lt (finite x) (finite y) = decide (x < y) := rfl

@[simp] theorem le_finite :
    FloatingPoint.le (finite x) (finite y) = decide (x ≤ y) := by
  change (decide (x < y) || decide (x = y)) = decide (x ≤ y)
  rw [Bool.eq_iff_iff]
  simp [le_iff_lt_or_eq]

@[simp] theorem zero_eq_finite :
    (FloatingPoint.zero : ExtendedRational) = finite 0 := rfl

@[simp] theorem add_finite :
    FloatingPoint.add (finite x) (finite y) = finite (x + y) := rfl

@[simp] theorem sub_finite :
    FloatingPoint.sub (finite x) (finite y) = finite (x - y) := by
  change finite (x + -y) = finite (x - y)
  rw [sub_eq_add_neg]

@[simp] theorem abs_finite :
    FloatingPoint.abs (finite x) = finite |x| := rfl

end Finite

theorem roundHalfAway_intCast (n : ℤ) : roundHalfAway (n : ℚ) = n := by
  have hhalf : ⌊(1 / 2 : ℚ)⌋ = 0 := by norm_num
  unfold roundHalfAway
  split
  · rw [Int.floor_intCast_add, hhalf, add_zero]
  · have hneg : -(n : ℚ) + 1 / 2 = ((-n : ℤ) : ℚ) + 1 / 2 := by push_cast; ring
    rw [hneg, Int.floor_intCast_add, hhalf, add_zero, neg_neg]

/-! ## Unit conversions -/

/-- A converted device value is the exact quotient by a positive scale. -/
theorem of_deviceUnitsToEngineering
    {n : ℤ} {scale value : ExtendedRational}
    (hvalue : deviceUnitsToEngineering n scale = some value) :
    ∃ s : ℚ, 0 < s ∧ scale = finite s ∧ value = finite (n / s) := by
  unfold deviceUnitsToEngineering at hvalue
  split at hvalue
  · contradiction
  · rename_i hscale
    simp only [Bool.or_eq_true, Bool.not_eq_true', not_or,
      Bool.not_eq_false] at hscale
    obtain ⟨s, hs⟩ := exists_of_isfinite hscale.1
    subst hs
    have hpositive : 0 < s := by
      simpa using hscale.2
    have hdiv : FloatingPoint.div
        (FloatingPoint.ofInt (D := ExtendedRational) n)
        (FloatingPoint.widen (finite s)) = finite (n / s) := by
      change div (finite n) (finite s) = finite (n / s)
      rw [div, if_pos hpositive.ne']
    dsimp only at hvalue
    rw [hdiv] at hvalue
    split at hvalue
    · contradiction
    · refine ⟨s, hpositive, rfl, ?_⟩
      have hnarrow : FloatingPoint.narrow (D := ExtendedRational)
          (finite (n / s)) = finite (n / s) := rfl
      rw [hnarrow, isfinite_finite, if_pos rfl, Option.some.injEq] at hvalue
      exact hvalue.symm

/-- Converting a measured value back gives the measured integer, unless it is
outside of the range. -/
theorem engineeringToDeviceUnits_quotient
    (range : IntegerRange) (n : ℤ) {s : ℚ} (hs : 0 < s) :
    engineeringToDeviceUnits range (finite (n / s)) (finite s) = none ∨
      engineeringToDeviceUnits range (finite (n / s)) (finite s) = some n := by
  have hproduct : (n : ℚ) / s * s = n := div_mul_cancel₀ _ hs.ne'
  have hround : FloatingPoint.round (D := ExtendedRational)
      (FloatingPoint.mul (FloatingPoint.widen (finite (n / s)))
        (FloatingPoint.widen (finite s))) = finite n := by
    change finite (roundHalfAway (n / s * s) : ℚ) = finite n
    rw [hproduct, roundHalfAway_intCast]
  unfold engineeringToDeviceUnits
  split
  · exact .inl rfl
  · dsimp only
    split
    · exact .inl rfl
    · rw [hround]
      split
      · exact .inl rfl
      · right
        have hint : FloatingPoint.toInt (D := ExtendedRational) (finite n) =
            n := by
          change ⌊(n : ℚ)⌋ = n
          exact Int.floor_intCast n
        rw [hint]

theorem engineeringToDeviceUnits_zero
    (range : IntegerRange) (scale : ExtendedRational) :
    engineeringToDeviceUnits range (finite 0) scale = none ∨
      engineeringToDeviceUnits range (finite 0) scale = some 0 := by
  by_cases hscale : FloatingPoint.isfinite scale = true ∧
      FloatingPoint.le scale FloatingPoint.zero = false
  · obtain ⟨s, hs⟩ := exists_of_isfinite hscale.1
    have hpositive : 0 < s := by
      simpa [hs] using hscale.2
    have hzero := engineeringToDeviceUnits_quotient range 0 hpositive
    simpa [hs] using hzero
  · left
    unfold engineeringToDeviceUnits
    rw [if_pos]
    rw [not_and_or] at hscale
    simpa [Bool.or_assoc] using hscale

end ExtendedRational

end PolicyRuntime
