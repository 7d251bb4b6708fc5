import Mathlib.Algebra.Order.Round
import Mathlib.Tactic

/-!
# Uniform quantization

A scale divides an interval into equal steps.  A value is given the nearest of
its levels, a half going up, and is never more than half a step away from it.
Every level keeps its own code.
-/

namespace Quantization

/-- An interval and the number of its steps. -/
structure Scale (K : Type*) [LT K] where
  least : K
  greatest : K
  steps : ℕ
  least_lt_greatest : least < greatest
  steps_pos : 0 < steps

namespace Scale

variable {K : Type*} [Field K] [LinearOrder K] [IsStrictOrderedRing K]
  [FloorRing K] (scale : Scale K)

/-- How many steps the value lies above the least one. -/
def position (value : K) : K :=
  (value - scale.least) / (scale.greatest - scale.least) * scale.steps

def code (value : K) : ℤ := round (scale.position value)

def level (code : ℤ) : K :=
  scale.least + code / scale.steps * (scale.greatest - scale.least)

def step : K := (scale.greatest - scale.least) / scale.steps

section Levels

omit [FloorRing K]

theorem range_pos : 0 < scale.greatest - scale.least :=
  sub_pos.mpr scale.least_lt_greatest

theorem steps_cast_pos : 0 < (scale.steps : K) :=
  Nat.cast_pos.mpr scale.steps_pos

theorem step_pos : 0 < scale.step :=
  div_pos scale.range_pos scale.steps_cast_pos

/-- The distance of a value from a level, in steps. -/
theorem sub_level (value : K) (code : ℤ) :
    value - scale.level code = (scale.position value - code) * scale.step := by
  have hrange := scale.range_pos.ne'
  have hsteps := scale.steps_cast_pos.ne'
  unfold level position step
  field_simp
  ring

theorem position_level (code : ℤ) :
    scale.position (scale.level code) = code := by
  have hzero := scale.sub_level (scale.level code) code
  rw [sub_self, eq_comm, mul_eq_zero] at hzero
  exact sub_eq_zero.mp (hzero.resolve_right scale.step_pos.ne')

omit [IsStrictOrderedRing K] in
theorem level_zero : scale.level 0 = scale.least := by
  simp [level]

theorem level_steps : scale.level scale.steps = scale.greatest := by
  have hsteps := scale.steps_cast_pos.ne'
  unfold level
  rw [Int.cast_natCast, div_self hsteps]
  ring

/-- The levels below the greatest one, counted downwards. -/
theorem level_steps_sub (count : ℤ) :
    scale.level (scale.steps - count) = scale.greatest - count * scale.step := by
  have hsteps := scale.steps_cast_pos.ne'
  unfold level step
  push_cast
  field_simp
  ring

theorem le_level_iff (value : K) (code : ℤ) :
    value ≤ scale.level code ↔ scale.position value ≤ code := by
  rw [← sub_nonpos, scale.sub_level, ← sub_nonpos (a := scale.position value)]
  exact ⟨fun h => nonpos_of_mul_nonpos_left h scale.step_pos,
    fun h => mul_nonpos_of_nonpos_of_nonneg h scale.step_pos.le⟩

theorem level_le_iff (value : K) (code : ℤ) :
    scale.level code ≤ value ↔ (code : K) ≤ scale.position value := by
  rw [← sub_nonneg, scale.sub_level, ← sub_nonneg (a := scale.position value)]
  exact ⟨fun h => nonneg_of_mul_nonneg_left h scale.step_pos,
    fun h => mul_nonneg h scale.step_pos.le⟩

theorem position_mem {value : K} (hleast : scale.least ≤ value)
    (hgreatest : value ≤ scale.greatest) :
    0 ≤ scale.position value ∧ scale.position value ≤ scale.steps := by
  rw [← scale.level_zero, level_le_iff, Int.cast_zero] at hleast
  rw [← scale.level_steps, le_level_iff, Int.cast_natCast] at hgreatest
  exact ⟨hleast, hgreatest⟩

theorem level_mem {code : ℤ} (hzero : 0 ≤ code) (hsteps : code ≤ scale.steps) :
    scale.least ≤ scale.level code ∧ scale.level code ≤ scale.greatest := by
  constructor
  · rw [← scale.level_zero, level_le_iff, position_level]
    exact_mod_cast hzero
  · rw [← scale.level_steps, level_le_iff, position_level]
    exact_mod_cast hsteps

end Levels

/-! ## Codes -/

theorem code_level (code : ℤ) : scale.code (scale.level code) = code := by
  rw [Scale.code, position_level, round_intCast]

/-- A level is at most half a step away from the values which it stands
for. -/
theorem abs_level_code_sub (value : K) :
    |scale.level (scale.code value) - value| ≤ 1 / 2 * scale.step := by
  have hround := abs_sub_round (scale.position value)
  have hstep := scale.step_pos
  rw [abs_sub_comm, sub_level, abs_mul, abs_of_pos hstep]
  exact mul_le_mul_of_nonneg_right hround hstep.le

theorem le_code_iff (value : K) (code : ℤ) :
    code ≤ scale.code value ↔
      scale.level code - value ≤ 1 / 2 * scale.step := by
  rw [Scale.code, round_eq, Int.le_floor, ← neg_sub value, scale.sub_level,
    ← neg_mul, mul_le_mul_iff_of_pos_right scale.step_pos]
  constructor
  · intro h
    linarith only [h]
  · intro h
    linarith only [h]

theorem code_mem {value : K} (hleast : scale.least ≤ value)
    (hgreatest : value ≤ scale.greatest) :
    0 ≤ scale.code value ∧ scale.code value ≤ scale.steps := by
  obtain ⟨hzero, hsteps⟩ := scale.position_mem hleast hgreatest
  rw [Scale.code, round_eq]
  constructor
  · exact Int.floor_nonneg.mpr (by linarith)
  · have hlt : ⌊scale.position value + 1 / 2⌋ < (scale.steps : ℤ) + 1 := by
      rw [Int.floor_lt]
      push_cast
      linarith
    omega

/-- A value reaches one of the last codes when it comes close to the greatest
value. -/
theorem steps_sub_le_code_iff (value : K) (count : ℤ) :
    (scale.steps : ℤ) - count ≤ scale.code value ↔
      scale.greatest - value ≤ (count + 1 / 2) * scale.step := by
  rw [le_code_iff, level_steps_sub]
  constructor
  · intro h
    linarith
  · intro h
    linarith

end Scale

/-! ## A half going to the even number -/

section HalfEven

variable {K : Type*} [Field K] [LinearOrder K] [IsStrictOrderedRing K]
  [FloorRing K]

def roundHalfEven (value : K) : ℤ :=
  if Int.fract value < 1 / 2 then ⌊value⌋
  else if 1 / 2 < Int.fract value then ⌊value⌋ + 1
  else if ⌊value⌋ % 2 = 0 then ⌊value⌋
  else ⌊value⌋ + 1

theorem roundHalfEven_intCast (code : ℤ) : roundHalfEven (code : K) = code := by
  unfold roundHalfEven
  rw [Int.fract_intCast, Int.floor_intCast, if_pos (by norm_num)]

theorem abs_sub_roundHalfEven (value : K) :
    |value - roundHalfEven value| ≤ 1 / 2 := by
  have hfract := Int.self_sub_floor value
  have hlt := Int.fract_lt_one value
  have hnonneg := Int.fract_nonneg value
  rw [abs_le]
  unfold roundHalfEven
  split_ifs <;> push_cast <;> constructor <;> linarith

theorem roundHalfEven_mem {value : K} {steps : ℤ} (hzero : 0 ≤ value)
    (hsteps : value ≤ steps) :
    0 ≤ roundHalfEven value ∧ roundHalfEven value ≤ steps := by
  have hround := abs_le.mp (abs_sub_roundHalfEven value)
  have hlower : (-1 : K) < roundHalfEven value := by linarith
  have hupper : (roundHalfEven value : K) < steps + 1 := by linarith
  have hlower' : (-1 : ℤ) < roundHalfEven value := by exact_mod_cast hlower
  have hupper' : roundHalfEven value < steps + 1 := by exact_mod_cast hupper
  omega

namespace Scale

variable (scale : Scale K)

def evenCode (value : K) : ℤ := roundHalfEven (scale.position value)

theorem evenCode_level (code : ℤ) :
    scale.evenCode (scale.level code) = code := by
  rw [evenCode, position_level, roundHalfEven_intCast]

theorem abs_level_evenCode_sub (value : K) :
    |scale.level (scale.evenCode value) - value| ≤ 1 / 2 * scale.step := by
  have hround := abs_sub_roundHalfEven (scale.position value)
  have hstep := scale.step_pos
  rw [abs_sub_comm, sub_level, abs_mul, abs_of_pos hstep]
  exact mul_le_mul_of_nonneg_right hround hstep.le

theorem evenCode_mem {value : K} (hleast : scale.least ≤ value)
    (hgreatest : value ≤ scale.greatest) :
    0 ≤ scale.evenCode value ∧ scale.evenCode value ≤ scale.steps := by
  obtain ⟨hzero, hsteps⟩ := scale.position_mem hleast hgreatest
  exact roundHalfEven_mem hzero (by exact_mod_cast hsteps)

end Scale

end HalfEven

end Quantization
