import Mathlib.Tactic

/-!
# Range and slew limiters

A range limiter moves a value to the nearest point of an interval.  A slew
limiter moves the last value towards a target by a bounded step.  Moving
towards a target inside an interval never leads away from that interval.
-/

namespace PolicyRuntime

namespace Limiter

variable {K : Type*} [Field K] [LinearOrder K] [IsStrictOrderedRing K]
  {lower upper step last target value : K}

/-- `value` moved into the interval. -/
def limit (lower upper value : K) : K :=
  if value < lower then lower else if upper < value then upper else value

/-- How far `value` is outside of the interval. -/
def excess (lower upper value : K) : K :=
  if value < lower then lower - value
  else if upper < value then value - upper
  else 0

/-- One step of `last` towards `target`. -/
def slew (step last target : K) : K :=
  limit (last - step) (last + step) target

omit [IsStrictOrderedRing K] [Field K] in
theorem limit_mem (hle : lower ≤ upper) :
    lower ≤ limit lower upper value ∧ limit lower upper value ≤ upper := by
  unfold limit
  split
  · exact ⟨le_refl _, hle⟩
  · rename_i hlower
    rw [not_lt] at hlower
    split
    · exact ⟨hle, le_refl _⟩
    · rename_i hupper
      rw [not_lt] at hupper
      exact ⟨hlower, hupper⟩

theorem abs_slew_sub_le (hstep : 0 ≤ step) :
    |slew step last target - last| ≤ step := by
  have hwindow : last - step ≤ last + step := by linarith
  obtain ⟨hlower, hupper⟩ :=
    @limit_mem K _ (last - step) (last + step) target hwindow
  rw [abs_le]
  unfold slew
  constructor
  · linarith
  · linarith

/-- A step stops between the last value and the target. -/
theorem slew_between (hstep : 0 ≤ step) :
    (last ≤ slew step last target ∧ slew step last target ≤ target) ∨
      (target ≤ slew step last target ∧ slew step last target ≤ last) := by
  unfold slew limit
  split
  · right
    constructor
    · linarith
    · linarith
  · split
    · left
      constructor
      · linarith
      · linarith
    · rcases le_total last target with hle | hle
      · exact .inl ⟨hle, le_refl _⟩
      · exact .inr ⟨le_refl _, hle⟩

omit [IsStrictOrderedRing K] in
theorem excess_of_mem (hlower : lower ≤ value) (hupper : value ≤ upper) :
    excess lower upper value = 0 := by
  unfold excess
  rw [if_neg hlower.not_gt, if_neg hupper.not_gt]

theorem excess_nonneg : 0 ≤ excess lower upper value := by
  unfold excess
  split
  · linarith
  · split
    · linarith
    · exact le_refl 0

theorem mem_of_excess_eq_zero (hzero : excess lower upper value = 0) :
    lower ≤ value ∧ value ≤ upper := by
  unfold excess at hzero
  split at hzero
  · linarith
  · rename_i hlower
    rw [not_lt] at hlower
    split at hzero
    · linarith
    · rename_i hupper
      rw [not_lt] at hupper
      exact ⟨hlower, hupper⟩

/-- On the way to a point of the interval the excess does not grow. -/
theorem excess_le_of_between
    (hlower : lower ≤ target) (hupper : target ≤ upper)
    (hbetween : (last ≤ value ∧ value ≤ target) ∨
      (target ≤ value ∧ value ≤ last)) :
    excess lower upper value ≤ excess lower upper last := by
  have hnonneg : 0 ≤ excess lower upper last := excess_nonneg
  rcases hbetween with ⟨hlast, htarget⟩ | ⟨htarget, hlast⟩
  · by_cases hbelow : value < lower
    · have hlastBelow : last < lower := lt_of_le_of_lt hlast hbelow
      unfold excess
      rw [if_pos hbelow, if_pos hlastBelow]
      linarith
    · rw [not_lt] at hbelow
      rw [excess_of_mem hbelow (htarget.trans hupper)]
      exact hnonneg
  · by_cases habove : upper < value
    · have hlastAbove : upper < last := lt_of_lt_of_le habove hlast
      have hvalue : ¬ value < lower := by linarith
      have hlastBelow : ¬ last < lower := by linarith
      unfold excess
      rw [if_neg hvalue, if_pos habove, if_neg hlastBelow, if_pos hlastAbove]
      linarith
    · rw [not_lt] at habove
      rw [excess_of_mem (hlower.trans htarget) habove]
      exact hnonneg

/-- Slewing towards a limited target does not lead away from the interval. -/
theorem excess_slew_le (hle : lower ≤ upper) (hstep : 0 ≤ step) :
    excess lower upper (slew step last (limit lower upper target)) ≤
      excess lower upper last := by
  obtain ⟨hlower, hupper⟩ := @limit_mem K _ lower upper target hle
  exact excess_le_of_between hlower hupper (slew_between hstep)

theorem slew_mem (hle : lower ≤ upper) (hstep : 0 ≤ step)
    (hlower : lower ≤ last) (hupper : last ≤ upper) :
    lower ≤ slew step last (limit lower upper target) ∧
      slew step last (limit lower upper target) ≤ upper := by
  have hcloser : excess lower upper
      (slew step last (limit lower upper target)) ≤ excess lower upper last :=
    excess_slew_le hle hstep
  rw [excess_of_mem hlower hupper] at hcloser
  exact mem_of_excess_eq_zero (le_antisymm hcloser excess_nonneg)

end Limiter

end PolicyRuntime
