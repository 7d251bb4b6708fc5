import PolicyRuntime.ProcessImage
import PolicyRuntime.St3215Bus

/-!
# The cyclic exchange of the EtherCAT master

One `cycle` of a master with any number of axes: the inputs of all axes are
read from the image, the handlers run, and the outputs are written back.  The
handlers may change the views, the image and everything they reach through
their context.
-/

namespace PolicyRuntime

structure DomainHealth where
  workingCounter : ℕ
  expectedWorkingCounter : Option ℕ
  workingCounterComplete : Bool
  linkUp : Bool
  allSlavesOperational : Bool
  dcDeviationNs : ℤ
  operationalAxesMask : BitVec 16
  deriving DecidableEq

def healthyDomain (health : DomainHealth) : Bool :=
  let expectedMatches := match health.expectedWorkingCounter with
    | none => true
    | some expected => health.workingCounter == expected
  health.linkUp && health.workingCounterComplete &&
    health.allSlavesOperational && expectedMatches

structure Cia402PdoHandles where
  statusWord : TypedPdoField 2
  modeDisplay : TypedPdoField 1
  actualPosition : TypedPdoField 4
  actualVelocity : TypedPdoField 4
  actualTorque : TypedPdoField 2
  controlWord : TypedPdoField 2
  targetPosition : TypedPdoField 4
  targetVelocity : TypedPdoField 4
  targetTorque : TypedPdoField 2

namespace Cia402EthercatBinding

variable {size : ℕ}

def readInputs (handles : Cia402PdoHandles) (image : ProcessImage size)
    (pdo : Cia402PdoView) : Cia402PdoView × Bool :=
  match handles.statusWord.read image, handles.modeDisplay.read image,
      handles.actualPosition.read image, handles.actualVelocity.read image,
      handles.actualTorque.read image with
  | some statusWord, some modeDisplay, some actualPosition,
      some actualVelocity, some actualTorque =>
      ({ pdo with
          statusWord := statusWord
          modeDisplay := modeDisplay.toInt
          actualPosition := actualPosition.toInt
          actualVelocity := actualVelocity.toInt
          actualTorque := actualTorque.toInt }, true)
  | _, _, _, _, _ => (pdo, false)

def writeOutputs (handles : Cia402PdoHandles) (image : ProcessImage size)
    (pdo : Cia402PdoView) (mode : Cia402Mode) (enabled : Bool) :
    ProcessImage size × Bool :=
  let (image, written) := handles.controlWord.write image
    (if enabled then pdo.controlWord else 0)
  match mode with
  | .csp =>
      let (image, target) := handles.targetPosition.write image
        (BitVec.ofInt 32 (if enabled then pdo.targetPosition else 0))
      (image, target && written)
  | .csv =>
      let (image, target) := handles.targetVelocity.write image
        (BitVec.ofInt 32 (if enabled then pdo.targetVelocity else 0))
      (image, target && written)
  | .cst =>
      let (image, target) := handles.targetTorque.write image
        (BitVec.ofInt 16 (if enabled then pdo.targetTorque else 0))
      (image, target && written)
  | .other _ => (image, written)

end Cia402EthercatBinding

/-! ## Master -/

/-- What a handler can reach: the state behind its context, the image and the
views. -/
structure CycleData (σ : Type) (n size : ℕ) where
  context : σ
  image : ProcessImage size
  views : Fin n → Cia402PdoView

/-- A handler which is told the health of the domain and whether the image is
valid. -/
def DomainHandler (σ : Type) (n : ℕ) : Type :=
  ∀ size, CycleData σ n size → DomainHealth → Bool → CycleData σ n size

def CycleHandler (σ : Type) (n : ℕ) : Type :=
  ∀ size, CycleData σ n size → CycleData σ n size

/-- The part of a master which `cycle` uses.  `ownerStep` is the owner step of
a mailbox, which says whether it made progress. -/
structure CyclicMaster (σ : Type) (n : ℕ) where
  backendPresent : Bool
  handles : Fin n → Cia402PdoHandles
  modes : Fin n → Cia402Mode
  views : Fin n → Cia402PdoView
  processImageHandler : Option (DomainHandler σ n)
  cycleHandler : Option (CycleHandler σ n)
  supervisedCycleHandler : Option (DomainHandler σ n)
  ownerStep : Fin n → σ → σ × Bool
  mailboxCursor : ℕ
  health : TransportHealth

namespace CyclicMaster

variable {σ : Type} {n size : ℕ}

/-- The loop which reads the inputs of all axes. -/
def readAxes (master : CyclicMaster σ n) (image : ProcessImage size) :
    (Fin n → Cia402PdoView) × Bool :=
  (List.finRange n).foldl
    (fun (views, valid) axis =>
      let (pdo, read) := Cia402EthercatBinding.readInputs
        (master.handles axis) image (views axis)
      (Function.update views axis pdo, read && valid))
    (master.views, true)

/-- The loop which writes the outputs of all axes. -/
def writeAxes (master : CyclicMaster σ n) (views : Fin n → Cia402PdoView)
    (enabled : Bool) (image : ProcessImage size) : ProcessImage size × Bool :=
  (List.finRange n).foldl
    (fun (image, outputsWritten) axis =>
      let (image, written) := Cia402EthercatBinding.writeOutputs
        (master.handles axis) image (views axis) (master.modes axis) enabled
      (image, written && outputsWritten))
    (image, true)

/-- The loop over the mailboxes, from the cursor on: the first one which makes
progress ends it. -/
def stepMailboxes (master : CyclicMaster σ n) (context : σ) :
    List ℕ → σ × ℕ
  | [] => (context, master.mailboxCursor)
  | offset :: rest =>
      if hn : 0 < n then
        let index := (master.mailboxCursor + offset) % n
        let (context, progressed) :=
          master.ownerStep ⟨index, Nat.mod_lt _ hn⟩ context
        if progressed then (context, (index + 1) % n)
        else master.stepMailboxes context rest
      else
        (context, master.mailboxCursor)

def inputAvailable (master : CyclicMaster σ n) (domain : DomainHealth) :
    Bool :=
  healthyDomain domain ||
    (master.supervisedCycleHandler.isSome && domain.linkUp)

/-- The views after the inputs were read, and whether the image is valid. -/
def readPhase (master : CyclicMaster σ n) (domain : DomainHealth)
    (image : ProcessImage size) : (Fin n → Cia402PdoView) × Bool :=
  if master.inputAvailable domain then master.readAxes image
  else (master.views, false)

/-- The three handlers, in their order. -/
def runHandlers (master : CyclicMaster σ n) (domain : DomainHealth)
    (validImage : Bool) (data : CycleData σ n size) : CycleData σ n size :=
  let data := match master.processImageHandler with
    | none => data
    | some handler => handler size data domain validImage
  let data := match master.cycleHandler with
    | none => data
    | some handler => if validImage then handler size data else data
  match master.supervisedCycleHandler with
  | none => data
  | some handler => handler size data domain validImage

def outputsEnabled (master : CyclicMaster σ n) (domain : DomainHealth)
    (validImage : Bool) : Bool :=
  let supervisedOutputs :=
    master.supervisedCycleHandler.isSome && validImage
  (healthyDomain domain && validImage) || supervisedOutputs

/-- A cycle: the new master, the state it leaves, and the image it sends. -/
structure CycleResult (σ : Type) (n size : ℕ) where
  master : CyclicMaster σ n
  context : σ
  sent : Option (ProcessImage size)

/-- `cycle`, given what `try_enter_cycle` answers and what the backend has
received. -/
def cycle (master : CyclicMaster σ n) (admitted : Bool) (context : σ)
    (domain : DomainHealth) (image : ProcessImage size) :
    CycleResult σ n size :=
  if !admitted || !master.backendPresent then
    ⟨{ master with health := .failed }, context, none⟩
  else
    let (views, validImage) := master.readPhase domain image
    let data := master.runHandlers domain validImage ⟨context, image, views⟩
    let (sent, outputsWritten) := master.writeAxes data.views
      (master.outputsEnabled domain validImage) data.image
    let (context, mailboxCursor) :=
      master.stepMailboxes data.context (List.range n)
    let health :=
      if healthyDomain domain && validImage && outputsWritten then
        TransportHealth.healthy
      else TransportHealth.degraded
    ⟨{ master with
        views := data.views
        mailboxCursor := mailboxCursor
        health := health }, context, some sent⟩

end CyclicMaster

/-! ## Reading -/

theorem TypedPdoField.isSome_read
    {width size : ℕ} (field : TypedPdoField width)
    (image : ProcessImage size) :
    (field.read image).isSome = field.contains size := by
  unfold TypedPdoField.read
  cases field.contains size with
  | true => rfl
  | false => rfl

/-- The five input fields lie inside an image of the given size. -/
def Cia402PdoHandles.inputsInside (handles : Cia402PdoHandles) (size : ℕ) :
    Bool :=
  handles.statusWord.contains size && handles.modeDisplay.contains size &&
    handles.actualPosition.contains size &&
    handles.actualVelocity.contains size && handles.actualTorque.contains size

/-- Whether the inputs can be read depends on the locations only. -/
theorem Cia402EthercatBinding.readInputs_snd
    {size : ℕ} (handles : Cia402PdoHandles) (image : ProcessImage size)
    (pdo : Cia402PdoView) :
    (readInputs handles image pdo).2 = handles.inputsInside size := by
  unfold Cia402PdoHandles.inputsInside readInputs
  simp only [← TypedPdoField.isSome_read _ image]
  cases handles.statusWord.read image with
  | none => rfl
  | some statusWord =>
      cases handles.modeDisplay.read image with
      | none => rfl
      | some modeDisplay =>
          cases handles.actualPosition.read image with
          | none => rfl
          | some actualPosition =>
              cases handles.actualVelocity.read image with
              | none => rfl
              | some actualVelocity =>
                  cases handles.actualTorque.read image with
                  | none => rfl
                  | some actualTorque => rfl

namespace CyclicMaster

variable {σ : Type} {n size : ℕ}

theorem readAxes_snd (master : CyclicMaster σ n) (image : ProcessImage size) :
    (master.readAxes image).2 = true ↔
      ∀ axis, (master.handles axis).inputsInside size = true := by
  have hloop : ∀ (axes : List (Fin n)) (views : Fin n → Cia402PdoView)
      (valid : Bool),
      (axes.foldl
        (fun (views, valid) axis =>
          let (pdo, read) := Cia402EthercatBinding.readInputs
            (master.handles axis) image (views axis)
          (Function.update views axis pdo, read && valid))
        (views, valid)).2 = true ↔
      valid = true ∧
        ∀ axis ∈ axes, (master.handles axis).inputsInside size = true := by
    intro axes
    induction axes with
    | nil => simp
    | cons axis rest ih =>
        intro views valid
        rw [List.foldl_cons, ih, Cia402EthercatBinding.readInputs_snd,
          Bool.and_eq_true, List.forall_mem_cons]
        constructor
        · rintro ⟨⟨hread, hvalid⟩, hrest⟩
          exact ⟨hvalid, hread, hrest⟩
        · rintro ⟨hvalid, hread, hrest⟩
          exact ⟨⟨hread, hvalid⟩, hrest⟩
  unfold readAxes
  rw [hloop]
  simp

/-- The cycles which must not enable any output: the link is down, the inputs
of an axis cannot be read, or an unhealthy domain is not supervised. -/
def Blocked (master : CyclicMaster σ n) (domain : DomainHealth)
    (image : ProcessImage size) : Prop :=
  domain.linkUp = false ∨
    (∃ axis, (Cia402EthercatBinding.readInputs (master.handles axis) image
      (master.views axis)).2 = false) ∨
    (master.supervisedCycleHandler = none ∧ healthyDomain domain = false)

theorem linkUp_of_healthyDomain {domain : DomainHealth}
    (hhealthy : healthyDomain domain = true) : domain.linkUp = true := by
  unfold healthyDomain at hhealthy
  simp only [Bool.and_eq_true] at hhealthy
  exact hhealthy.1.1.1

theorem outputsEnabled_iff
    (master : CyclicMaster σ n) (domain : DomainHealth)
    (image : ProcessImage size) :
    master.outputsEnabled domain (master.readPhase domain image).2 = true ↔
      ¬ master.Blocked domain image := by
  have hread : (∃ axis, (Cia402EthercatBinding.readInputs
      (master.handles axis) image (master.views axis)).2 = false) ↔
      ¬ (master.readAxes image).2 = true := by
    simp [readAxes_snd, Cia402EthercatBinding.readInputs_snd]
  unfold Blocked
  rw [hread]
  unfold outputsEnabled readPhase inputAvailable
  cases hhealthy : healthyDomain domain with
  | true =>
      have hlink := linkUp_of_healthyDomain hhealthy
      simp [hlink]
  | false =>
      cases hhandler : master.supervisedCycleHandler with
      | none => simp
      | some handler =>
          cases hlink : domain.linkUp with
          | true => simp
          | false => simp

/-! ## Writing -/

end CyclicMaster

/-- The output fields of an axis. -/
def Cia402PdoHandles.outputSlots (handles : Cia402PdoHandles)
    (mode : Cia402Mode) : List PdoSlot :=
  ⟨2, handles.controlWord⟩ ::
    match mode with
    | .csp => [⟨4, handles.targetPosition⟩]
    | .csv => [⟨4, handles.targetVelocity⟩]
    | .cst => [⟨2, handles.targetTorque⟩]
    | .other _ => []

/-- The target of a mode in a view. -/
def Cia402PdoView.modeTarget (pdo : Cia402PdoView) : Cia402Mode → ℤ
  | .csp => pdo.targetPosition
  | .csv => pdo.targetVelocity
  | .cst => pdo.targetTorque
  | .other _ => 0

/-- The output fields of an axis with what `write_outputs` puts there. -/
def Cia402PdoHandles.outputs (handles : Cia402PdoHandles) (mode : Cia402Mode)
    (controlWord : BitVec 16) (target : ℤ) : List PdoOutput :=
  ⟨⟨2, handles.controlWord⟩, controlWord⟩ ::
    match mode with
    | .csp => [⟨⟨4, handles.targetPosition⟩, BitVec.ofInt 32 target⟩]
    | .csv => [⟨⟨4, handles.targetVelocity⟩, BitVec.ofInt 32 target⟩]
    | .cst => [⟨⟨2, handles.targetTorque⟩, BitVec.ofInt 16 target⟩]
    | .other _ => []

/-- Every output field of the axis lies inside the image. -/
def Cia402PdoHandles.OutputsInside (handles : Cia402PdoHandles)
    (mode : Cia402Mode) (size : ℕ) : Prop :=
  ∀ slot ∈ handles.outputSlots mode, slot.field.contains size = true

/-- The image carries a control word and a target of the mode. -/
def Cia402PdoHandles.Carried {size : ℕ} (handles : Cia402PdoHandles)
    (mode : Cia402Mode) (controlWord : BitVec 16) (target : ℤ)
    (image : ProcessImage size) : Prop :=
  handles.controlWord.read image = some controlWord ∧
    match mode with
    | .csp => handles.targetPosition.read image =
        some (BitVec.ofInt 32 target)
    | .csv => handles.targetVelocity.read image =
        some (BitVec.ofInt 32 target)
    | .cst => handles.targetTorque.read image = some (BitVec.ofInt 16 target)
    | .other _ => True

theorem Cia402PdoHandles.outputs_slots
    (handles : Cia402PdoHandles) (mode : Cia402Mode)
    (controlWord : BitVec 16) (target : ℤ) :
    (handles.outputs mode controlWord target).map PdoOutput.toPdoSlot =
      handles.outputSlots mode := by
  cases mode with
  | csp | csv | cst | other => rfl

theorem Cia402PdoHandles.carried_of_stored
    {size : ℕ} {handles : Cia402PdoHandles} {mode : Cia402Mode}
    {controlWord : BitVec 16} {target : ℤ} {image : ProcessImage size}
    (hstored : ∀ output ∈ handles.outputs mode controlWord target,
      output.StoredIn image) :
    handles.Carried mode controlWord target image := by
  have hcontrol := hstored _ List.mem_cons_self
  cases mode with
  | csp =>
      exact ⟨hcontrol, hstored _ (List.mem_cons_of_mem _ List.mem_cons_self)⟩
  | csv =>
      exact ⟨hcontrol, hstored _ (List.mem_cons_of_mem _ List.mem_cons_self)⟩
  | cst =>
      exact ⟨hcontrol, hstored _ (List.mem_cons_of_mem _ List.mem_cons_self)⟩
  | other mode => exact ⟨hcontrol, trivial⟩

/-- `write_outputs` stores the outputs of the view, or zeros. -/
theorem Cia402EthercatBinding.writeOutputs_fst
    {size : ℕ} (handles : Cia402PdoHandles) (image : ProcessImage size)
    (pdo : Cia402PdoView) (mode : Cia402Mode) (enabled : Bool) :
    (writeOutputs handles image pdo mode enabled).1 =
      PdoOutput.storeAll (handles.outputs mode
        (if enabled then pdo.controlWord else 0)
        (if enabled then pdo.modeTarget mode else 0)) image := by
  cases mode with
  | csp | csv | cst | other => rfl

namespace CyclicMaster

variable {σ : Type} {n size : ℕ}

/-- The output fields of all axes are pairwise disjoint. -/
def DisjointOutputs (master : CyclicMaster σ n) : Prop :=
  ((List.finRange n).flatMap fun axis =>
    (master.handles axis).outputSlots (master.modes axis)).Pairwise
      PdoSlot.Disjoint

/-- What the cycle writes for every axis. -/
def outputs (master : CyclicMaster σ n) (views : Fin n → Cia402PdoView)
    (enabled : Bool) (axis : Fin n) : List PdoOutput :=
  (master.handles axis).outputs (master.modes axis)
    (if enabled then (views axis).controlWord else 0)
    (if enabled then (views axis).modeTarget (master.modes axis) else 0)

theorem writeAxes_fst
    (master : CyclicMaster σ n) (views : Fin n → Cia402PdoView)
    (enabled : Bool) (image : ProcessImage size) :
    (master.writeAxes views enabled image).1 =
      PdoOutput.storeAll
        ((List.finRange n).flatMap (master.outputs views enabled)) image := by
  have hloop : ∀ (axes : List (Fin n)) (image : ProcessImage size)
      (outputsWritten : Bool),
      (axes.foldl
        (fun (image, outputsWritten) axis =>
          let (image, written) := Cia402EthercatBinding.writeOutputs
            (master.handles axis) image (views axis) (master.modes axis)
            enabled
          (image, written && outputsWritten))
        (image, outputsWritten)).1 =
      PdoOutput.storeAll (axes.flatMap (master.outputs views enabled))
        image := by
    intro axes
    induction axes with
    | nil => exact fun _ _ => rfl
    | cons axis rest ih =>
        intro image outputsWritten
        rw [List.foldl_cons, ih, Cia402EthercatBinding.writeOutputs_fst,
          List.flatMap_cons]
        unfold PdoOutput.storeAll
        rw [List.foldl_append]
        rfl
  exact hloop (List.finRange n) image true

/-- Disjoint outputs do not overwrite each other. -/
theorem carried_writeAxes
    {master : CyclicMaster σ n} (hdisjoint : master.DisjointOutputs)
    (views : Fin n → Cia402PdoView) (enabled : Bool)
    (image : ProcessImage size) {axis : Fin n}
    (hinside : (master.handles axis).OutputsInside (master.modes axis) size) :
    (master.handles axis).Carried (master.modes axis)
      (if enabled then (views axis).controlWord else 0)
      (if enabled then (views axis).modeTarget (master.modes axis) else 0)
      (master.writeAxes views enabled image).1 := by
  have hslots : (((List.finRange n).flatMap
      (master.outputs views enabled)).map PdoOutput.toPdoSlot).Pairwise
        PdoSlot.Disjoint := by
    rw [List.map_flatMap]
    unfold DisjointOutputs at hdisjoint
    simp only [outputs, Cia402PdoHandles.outputs_slots]
    exact hdisjoint
  rw [writeAxes_fst]
  apply Cia402PdoHandles.carried_of_stored
  intro output houtput
  apply PdoOutput.storedIn_storeAll hslots
  · rw [List.mem_flatMap]
    exact ⟨axis, List.mem_finRange axis, houtput⟩
  · apply hinside output.toPdoSlot
    rw [← Cia402PdoHandles.outputs_slots]
    exact List.mem_map_of_mem houtput

instance (master : CyclicMaster σ n) : Decidable master.DisjointOutputs :=
  inferInstanceAs (Decidable (List.Pairwise _ _))

/-! ## One cycle -/

/-- What the image sent by a cycle carries. -/
structure FailSafeOutputs (master : CyclicMaster σ n)
    (domain : DomainHealth) (image : ProcessImage size)
    (result : CycleResult σ n size) (sent : ProcessImage size) : Prop where
  zeroed : master.Blocked domain image → ∀ axis,
    (master.handles axis).OutputsInside (master.modes axis) size →
    (master.handles axis).Carried (master.modes axis) 0 0 sent
  passed : ¬ master.Blocked domain image → ∀ axis,
    (master.handles axis).OutputsInside (master.modes axis) size →
    (master.handles axis).Carried (master.modes axis)
      (result.master.views axis).controlWord
      ((result.master.views axis).modeTarget (master.modes axis)) sent

/-- A cycle which is admitted sends zeros if it is blocked, and otherwise what
the handlers left in the views. -/
theorem cycle_failSafe
    (master : CyclicMaster σ n) (hdisjoint : master.DisjointOutputs)
    (admitted : Bool) (context : σ) (domain : DomainHealth)
    (image sent : ProcessImage size)
    (hsent : (master.cycle admitted context domain image).sent = some sent) :
    master.FailSafeOutputs domain image
      (master.cycle admitted context domain image) sent := by
  unfold cycle at hsent ⊢
  by_cases hrefused : (!admitted || !master.backendPresent) = true
  · rw [if_pos hrefused] at hsent
    contradiction
  · rw [if_neg hrefused] at hsent ⊢
    simp only [Option.some.injEq] at hsent
    rw [← hsent]
    have henabled := master.outputsEnabled_iff domain image
    constructor
    · intro hblocked axis hinside
      have hdisabled : master.outputsEnabled domain
          (master.readPhase domain image).2 = false := by
        rw [← Bool.not_eq_true, henabled, not_not]
        exact hblocked
      have hcarried := carried_writeAxes hdisjoint
        (master.runHandlers domain (master.readPhase domain image).2
          ⟨context, image, (master.readPhase domain image).1⟩).views false
        (master.runHandlers domain (master.readPhase domain image).2
          ⟨context, image, (master.readPhase domain image).1⟩).image hinside
      simp only [hdisabled]
      exact hcarried
    · intro hclear axis hinside
      have hcarried := carried_writeAxes hdisjoint
        (master.runHandlers domain (master.readPhase domain image).2
          ⟨context, image, (master.readPhase domain image).1⟩).views true
        (master.runHandlers domain (master.readPhase domain image).2
          ⟨context, image, (master.readPhase domain image).1⟩).image hinside
      simp only [henabled.mpr hclear]
      exact hcarried

/-! ### Two supervised axes -/

/-- The handles of an axis whose fields start at `offset`, in one block. -/
def blockHandles (offset : ℕ) : Cia402PdoHandles where
  statusWord := ⟨⟨offset, 0, 16⟩, true⟩
  modeDisplay := ⟨⟨offset + 2, 0, 8⟩, true⟩
  actualPosition := ⟨⟨offset + 3, 0, 32⟩, true⟩
  actualVelocity := ⟨⟨offset + 7, 0, 32⟩, true⟩
  actualTorque := ⟨⟨offset + 11, 0, 16⟩, true⟩
  controlWord := ⟨⟨offset + 13, 0, 16⟩, true⟩
  targetPosition := ⟨⟨offset + 15, 0, 32⟩, true⟩
  targetVelocity := .unbound
  targetTorque := .unbound

def enabledView : Cia402PdoView where
  statusWord := 0x0027
  modeDisplay := 8
  actualPosition := 0
  actualVelocity := 0
  actualTorque := 0
  controlWord := 0x000F
  targetPosition := -5
  targetVelocity := 0
  targetTorque := 0

def twoAxes : CyclicMaster Unit 2 where
  backendPresent := true
  handles := fun axis => blockHandles (19 * axis.val)
  modes := fun _ => .csp
  views := fun _ => enabledView
  processImageHandler := none
  cycleHandler := none
  supervisedCycleHandler := some fun _ data _ _ =>
    { data with views := fun _ => enabledView }
  ownerStep := fun _ context => (context, false)
  mailboxCursor := 0
  health := .healthy

def linkedDomain : DomainHealth where
  workingCounter := 0
  expectedWorkingCounter := some 6
  workingCounterComplete := false
  linkUp := true
  allSlavesOperational := false
  dcDeviationNs := 0
  operationalAxesMask := 3

theorem cycle_failSafe_twoAxes :
    ∃ sent : ProcessImage 38,
      (twoAxes.cycle true () linkedDomain (Vector.replicate 38 0)).sent =
        some sent ∧
      twoAxes.FailSafeOutputs linkedDomain (Vector.replicate 38 0)
        (twoAxes.cycle true () linkedDomain (Vector.replicate 38 0)) sent :=
  ⟨_, rfl, cycle_failSafe twoAxes (by decide) true () linkedDomain _ _ rfl⟩

/-- A cycle without a link clears the enable words of the views. -/
example : (twoAxes.cycle true () { linkedDomain with linkUp := false }
    (Vector.replicate 38 255)).sent.bind (blockHandles 19).controlWord.read =
      some 0 := by
  decide +kernel

end CyclicMaster

end PolicyRuntime
