import PolicyRuntime.FloatingPoint

/-!
# Axis messages and static axis configuration

The value types which cross the boundary between the command producers, the
safety supervisor and the CiA 402 devices.  Fixed arrays of the source are
functions on the twelve axis indices; an axis is in use when its index is
below the configured axis count.
-/

namespace PolicyRuntime

abbrev kRobotIoMaximumAxes : ℕ := 12

abbrev Axis := Fin kRobotIoMaximumAxes

inductive ErrorCode
  | invalidArgument
  | io
  | timeout
  | protocol
  | unavailable
  | internal
  deriving DecidableEq, Repr

structure Error where
  code : ErrorCode
  message : String
  deriving DecidableEq, Repr

inductive Cia402Mode
  | csp
  | csv
  | cst
  | other (value : ℤ)
  deriving DecidableEq, Repr

/-- The object dictionary value of a mode. -/
def Cia402Mode.value : Cia402Mode → ℤ
  | .csp => 8
  | .csv => 9
  | .cst => 10
  | .other value => value

structure AxisConfig (D : Type) where
  mode : Cia402Mode
  scale : D
  minimum : D
  maximum : D
  /-- milliseconds -/
  commandTimeout : ℤ
  safetyGroup : String
  slewLimit : D
  followingErrorLimit : D

structure AxisCommand (D : Type) where
  sequence : ℕ
  timestampNs : ℤ
  target : D
  flags : BitVec 32
  reserved : BitVec 32

structure AxisFeedback (D : Type) where
  sequence : ℕ
  timestampNs : ℤ
  position : D
  velocity : D
  effort : D
  statusWord : BitVec 16
  flags : BitVec 32
  modeDisplay : ℤ

structure Snapshot (T : Type) where
  sequence : ℕ
  timestampNs : ℤ
  axisCount : ℕ
  axes : Axis → T

structure Cia402PdoView where
  statusWord : BitVec 16
  modeDisplay : ℤ
  actualPosition : ℤ
  actualVelocity : ℤ
  actualTorque : ℤ
  controlWord : BitVec 16
  targetPosition : ℤ
  targetVelocity : ℤ
  targetTorque : ℤ
  deriving DecidableEq, Repr

inductive AxisRequest
  | disable
  | enable
  | quickStop
  | faultReset
  deriving DecidableEq, Repr

/-- A value-initialized command. -/
def AxisCommand.empty {D : Type} [FloatingPoint D] : AxisCommand D where
  sequence := 0
  timestampNs := 0
  target := FloatingPoint.zero
  flags := 0
  reserved := 0

/-! ## Command flags -/

def kAxisCommandEnable : BitVec 32 := 1#32 <<< 0
def kAxisCommandDisable : BitVec 32 := 1#32 <<< 1
def kAxisCommandQuickStop : BitVec 32 := 1#32 <<< 2
def kAxisCommandFaultReset : BitVec 32 := 1#32 <<< 3

def kKnownCommandFlags : BitVec 32 :=
  kAxisCommandEnable ||| kAxisCommandDisable ||| kAxisCommandQuickStop |||
    kAxisCommandFaultReset

/-- The counting loop over the `remaining` bits of a flag word. -/
def flagCountLoop : ℕ → ℕ → BitVec 32 → ℕ
  | 0, count, _ => count
  | remaining + 1, count, flags =>
      if flags ≠ 0 then
        flagCountLoop remaining (count + (flags &&& 1).toNat) (flags >>> 1)
      else
        count

def flagCount (flags : BitVec 32) : ℕ :=
  flagCountLoop 32 0 flags

def requestFromFlags (flags : BitVec 32) : AxisRequest :=
  if flags &&& kAxisCommandQuickStop ≠ 0 then .quickStop
  else if flags &&& kAxisCommandFaultReset ≠ 0 then .faultReset
  else if flags &&& kAxisCommandEnable ≠ 0 then .enable
  else .disable

def flagsForRequest : AxisRequest → BitVec 32
  | .enable => kAxisCommandEnable
  | .disable => kAxisCommandDisable
  | .quickStop => kAxisCommandQuickStop
  | .faultReset => kAxisCommandFaultReset

/-- Masking out one bit looks at that bit only. -/
theorem and_bit_ne_zero {w : ℕ} (mask : BitVec w) (index : ℕ) :
    (mask &&& (1#w <<< index) != 0) = mask.getLsbD index := by
  rw [Bool.eq_iff_iff, bne_iff_ne, ne_eq]
  constructor
  · intro hne
    by_contra hbit
    apply hne
    apply BitVec.eq_of_getLsbD_eq
    intro i hi
    rw [Bool.not_eq_true] at hbit
    by_cases heq : i = index
    · subst heq
      simp [hbit]
    · simp
      omega
  · intro hbit hzero
    have hget := congrArg (fun word => BitVec.getLsbD word index) hzero
    have hlt := BitVec.lt_of_getLsbD hbit
    simp only [BitVec.getLsbD_and, hbit, BitVec.getLsbD_shiftLeft, hlt] at hget
    simp at hget
    omega

/-- A word without unknown flags is one of sixteen. -/
theorem toNat_lt_of_known {flags : BitVec 32}
    (hknown : flags &&& ~~~kKnownCommandFlags = 0) : flags.toNat < 16 := by
  have hsplit : flags = flags &&& kKnownCommandFlags := by
    have hall :
        flags = flags &&& (kKnownCommandFlags ||| ~~~kKnownCommandFlags) := by
      rw [show kKnownCommandFlags ||| ~~~kKnownCommandFlags =
        BitVec.allOnes 32 by decide, BitVec.and_allOnes]
    rw [BitVec.and_or_distrib_left, hknown] at hall
    simpa using hall
  have hmask : flags.toNat = flags.toNat &&& 15 := by
    conv_lhs => rw [hsplit]
    rw [BitVec.toNat_and]
    rfl
  have hmod : flags.toNat &&& 15 = flags.toNat % 16 :=
    Nat.and_two_pow_sub_one_eq_mod flags.toNat 4
  omega

/-- The only valid flag word which requests an enable is the enable flag. -/
theorem eq_enable_of_requestFromFlags {flags : BitVec 32}
    (hknown : flags &&& ~~~kKnownCommandFlags = 0)
    (hcount : flagCount (flags &&& kKnownCommandFlags) ≤ 1)
    (hrequest : requestFromFlags flags = .enable) :
    flags = kAxisCommandEnable := by
  have hlt := toNat_lt_of_known hknown
  have hflags : flags = BitVec.ofNat 32 flags.toNat := by simp
  generalize flags.toNat = value at hlt hflags
  subst hflags
  have hall : ∀ value < 16,
      flagCount (BitVec.ofNat 32 value &&& kKnownCommandFlags) ≤ 1 →
      requestFromFlags (BitVec.ofNat 32 value) = .enable →
      BitVec.ofNat 32 value = kAxisCommandEnable := by
    decide +kernel
  exact hall value hlt hcount hrequest

end PolicyRuntime
