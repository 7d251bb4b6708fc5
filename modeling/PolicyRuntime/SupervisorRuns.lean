import PolicyRuntime.Machine
import PolicyRuntime.StopMachine

/-!
# Runs of a configured supervisor

A setup is a list of axes which `configure` accepts.  Its supervisor is driven
by arbitrary sequences of the three public calls; as in the daemon, every
evaluation is given one process data view per configured axis.
-/

namespace PolicyRuntime

open SafetySupervisor

/-- Options and axes which `configure` accepts. -/
structure SupervisorSetup (D : Type) [FloatingPoint D] where
  options : SafetyOptions
  axes : List (AxisConfig D)
  accepted : ((create options).configure axes).2 = .ok ()

inductive SupervisorCall (D : Type)
  | acceptCommands (snapshot : Snapshot (AxisCommand D)) (nowNs : ℤ)
  | requestShutdown (nowNs : ℤ)
  | evaluate (bus : SafetyBusState) (view : Axis → Cia402PdoView) (nowNs : ℤ)

inductive SupervisorAnswer (D : Type)
  | acceptance (answer : CommandAcceptance)
  | shutdown
  | evaluation (result : SafetyEvaluation D)

abbrev SupervisorStep (D : Type) :=
  Transition (SafetySupervisor D) (SupervisorCall D) (SupervisorAnswer D)

variable {D : Type} [FloatingPoint D]

/-- The span the daemon passes: one view per configured axis. -/
def SafetySupervisor.span (supervisor : SafetySupervisor D)
    (view : Axis → Cia402PdoView) : PdoSpan where
  size := supervisor.axisCount
  view := view

def supervisorMachine :
    Machine (SafetySupervisor D) (SupervisorCall D) (SupervisorAnswer D) where
  step := fun supervisor call =>
    match call with
    | .acceptCommands snapshot nowNs =>
        let result := supervisor.acceptCommands snapshot nowNs
        (result.1, .acceptance result.2)
    | .requestShutdown nowNs => (supervisor.requestShutdown nowNs, .shutdown)
    | .evaluate bus view nowNs =>
        let result := supervisor.evaluate bus (supervisor.span view) nowNs
        (result.1, .evaluation result.2)

def SupervisorSetup.supervisor (setup : SupervisorSetup D) :
    SafetySupervisor D :=
  ((create setup.options).configure setup.axes).1

/-- The state after a sequence of calls. -/
def SupervisorSetup.after (setup : SupervisorSetup D)
    (calls : List (SupervisorCall D)) : SafetySupervisor D :=
  supervisorMachine.final setup.supervisor calls

/-- The steps of a sequence of calls. -/
def SupervisorSetup.run (setup : SupervisorSetup D)
    (calls : List (SupervisorCall D)) : List (SupervisorStep D) :=
  supervisorMachine.trace setup.supervisor calls

theorem SupervisorSetup.run_concat
    (setup : SupervisorSetup D) (calls : List (SupervisorCall D))
    (call : SupervisorCall D) :
    setup.run (calls ++ [call]) =
      setup.run calls ++ [supervisorMachine.fire (setup.after calls) call] :=
  Machine.trace_append _ _ _ _

theorem SupervisorSetup.after_concat
    (setup : SupervisorSetup D) (calls : List (SupervisorCall D))
    (call : SupervisorCall D) :
    setup.after (calls ++ [call]) =
      (supervisorMachine.fire (setup.after calls) call).after :=
  Machine.final_append _ _ _ _

/-! ## Group numbering -/

/-- Two axes share a group number exactly when they share a group name. -/
def NumberedByName (left right : String × UInt8) : Prop :=
  left.2 = right.2 ↔ left.1 = right.1 ∧ left.1 ≠ ""

theorem NumberedByName.symm {left right : String × UInt8}
    (hnumbered : NumberedByName left right) : NumberedByName right left := by
  unfold NumberedByName at hnumbered ⊢
  rw [eq_comm, hnumbered]
  constructor
  · rintro ⟨hname, hne⟩
    exact ⟨hname.symm, hname ▸ hne⟩
  · rintro ⟨hname, hne⟩
    exact ⟨hname.symm, hname ▸ hne⟩

structure GroupsAssigned (assigned : List (String × UInt8))
    (nextGroup : UInt8) : Prop where
  below : ∀ entry ∈ assigned, entry.2 < nextGroup
  small : nextGroup.toNat ≤ assigned.length
  numbered : assigned.Pairwise NumberedByName

theorem groupsAssigned_nil : GroupsAssigned [] 0 where
  below := by simp
  small := by simp
  numbered := List.Pairwise.nil

theorem previousGroup_eq_none
    {name : String} {assigned : List (String × UInt8)}
    (hnone : previousGroup name assigned = none) :
    ∀ entry ∈ assigned, entry.1 ≠ name := by
  induction assigned with
  | nil => simp
  | cons head tail ih =>
      simp only [previousGroup] at hnone
      split at hnone
      · contradiction
      · rename_i hhead
        intro entry hentry
        rcases List.mem_cons.mp hentry with rfl | htail
        · exact hhead
        · exact ih hnone entry htail

theorem previousGroup_eq_some
    {name : String} {assigned : List (String × UInt8)} {group : UInt8}
    (hsome : previousGroup name assigned = some group) :
    (name, group) ∈ assigned := by
  induction assigned with
  | nil => simp [previousGroup] at hsome
  | cons head tail ih =>
      simp only [previousGroup] at hsome
      split at hsome
      · rename_i hhead
        simp only [Option.some.injEq] at hsome
        subst hhead hsome
        exact List.mem_cons_self
      · exact List.mem_cons_of_mem head (ih hsome)

/-- A fresh number keeps the numbering by name. -/
theorem GroupsAssigned.fresh
    {assigned : List (String × UInt8)} {nextGroup : UInt8}
    (hassigned : GroupsAssigned assigned nextGroup)
    (hlength : assigned.length < 12) {name : String}
    (hname : ∀ entry ∈ assigned, entry.1 = name → entry.1 = "") :
    GroupsAssigned (assigned ++ [(name, nextGroup)]) (nextGroup + 1) := by
  have hsmall := hassigned.small
  have hnext : (nextGroup + 1).toNat = nextGroup.toNat + 1 := by
    rw [UInt8.toNat_add]
    simp only [UInt8.toNat_one]
    omega
  constructor
  · intro entry hentry
    rw [UInt8.lt_iff_toNat_lt, hnext]
    rcases List.mem_append.mp hentry with hold | hnew
    · have hlt := UInt8.lt_iff_toNat_lt.mp (hassigned.below entry hold)
      omega
    · rw [List.mem_singleton] at hnew
      subst hnew
      simp
  · rw [hnext, List.length_append, List.length_singleton]
    omega
  · rw [List.pairwise_append]
    refine ⟨hassigned.numbered, List.pairwise_singleton _ _, ?_⟩
    intro entry hentry last hlast
    rw [List.mem_singleton] at hlast
    subst hlast
    constructor
    · intro hnumber
      have hlt := hassigned.below entry hentry
      rw [hnumber] at hlt
      exact absurd hlt (UInt8.lt_irrefl _)
    · rintro ⟨hsame, hne⟩
      exact absurd (hname entry hentry hsame) hne

/-- Reusing the number of an earlier axis keeps the numbering by name. -/
theorem GroupsAssigned.reuse
    {assigned : List (String × UInt8)} {nextGroup : UInt8}
    (hassigned : GroupsAssigned assigned nextGroup)
    {name : String} (hname : name ≠ "") {group : UInt8}
    (hprevious : (name, group) ∈ assigned) :
    GroupsAssigned (assigned ++ [(name, group)]) nextGroup := by
  constructor
  · intro entry hentry
    rcases List.mem_append.mp hentry with hold | hnew
    · exact hassigned.below entry hold
    · rw [List.mem_singleton] at hnew
      subst hnew
      exact hassigned.below _ hprevious
  · have hsmall := hassigned.small
    rw [List.length_append]
    omega
  · rw [List.pairwise_append]
    refine ⟨hassigned.numbered, List.pairwise_singleton _ _, ?_⟩
    intro entry hentry last hlast
    rw [List.mem_singleton] at hlast
    subst hlast
    by_cases heq : entry = (name, group)
    · subst heq
      simp [NumberedByName, hname]
    · have hsymm : Std.Symm NumberedByName := ⟨fun _ _ h => h.symm⟩
      exact hassigned.numbered.forall hentry hprevious heq

theorem GroupsAssigned.assignGroup
    {assigned : List (String × UInt8)} {nextGroup : UInt8}
    (hassigned : GroupsAssigned assigned nextGroup)
    (hlength : assigned.length < 12) (name : String) :
    GroupsAssigned
      (assigned ++ [(name, (assignGroup name assigned nextGroup).1)])
      (assignGroup name assigned nextGroup).2 := by
  unfold SafetySupervisor.assignGroup
  by_cases hempty : name.isEmpty = true
  · simp only [hempty, if_true]
    rw [String.isEmpty_iff] at hempty
    subst hempty
    exact hassigned.fresh hlength (fun entry _ h => h)
  · simp only [hempty, Bool.false_eq_true, if_false]
    cases hprevious : previousGroup name assigned with
    | none =>
        refine hassigned.fresh hlength ?_
        intro entry hentry hsame
        exact absurd hsame (previousGroup_eq_none hprevious entry hentry)
    | some group =>
        have hback : nextGroup + 1 - 1 = nextGroup := by
          simp
        simp only [hback]
        refine hassigned.reuse ?_ (previousGroup_eq_some hprevious)
        rw [String.isEmpty_iff] at hempty
        exact hempty

/-! ## Configuration -/

/-- The configurations written for the axes handled so far. -/
structure ConfiguredPrefix (done : List (AxisConfig D))
    (assigned : List (String × UInt8)) (configs : Axis → AxisSafetyConfig D) :
    Prop where
  names : assigned.map Prod.fst = done.map AxisConfig.safetyGroup
  configs : ∀ (axis : Axis) (source : AxisConfig D) (entry : String × UInt8),
    done[axis.val]? = some source → assigned[axis.val]? = some entry →
      configs axis = axisSafetyConfig source entry.2

omit [FloatingPoint D] in
theorem ConfiguredPrefix.length_eq
    {done : List (AxisConfig D)} {assigned : List (String × UInt8)}
    {configs : Axis → AxisSafetyConfig D}
    (hdone : ConfiguredPrefix done assigned configs) :
    assigned.length = done.length := by
  simpa using congrArg List.length hdone.names

theorem configureLoop_spec
    {supervisor : SafetySupervisor D} {done rest : List (AxisConfig D)}
    {assigned : List (String × UInt8)} {nextGroup : UInt8}
    (hdone : ConfiguredPrefix done assigned supervisor.configs)
    (hassigned : GroupsAssigned assigned nextGroup)
    (hlength : done.length + rest.length ≤ 12)
    (hok : (configureLoop supervisor rest done.length assigned
      nextGroup).2 = .ok ()) :
    ∃ entries last, GroupsAssigned entries last ∧
      ConfiguredPrefix (done ++ rest) entries
        (configureLoop supervisor rest done.length assigned
          nextGroup).1.configs := by
  induction rest generalizing supervisor done assigned nextGroup with
  | nil =>
      refine ⟨assigned, nextGroup, hassigned, ?_⟩
      simpa [configureLoop] using hdone
  | cons axis rest ih =>
      have hshort : assigned.length < 12 := by
        rw [hdone.length_eq]
        simp only [List.length_cons] at hlength
        omega
      have hvalid : validLimits axis = true ∧ validMode axis = true := by
        simp only [configureLoop] at hok
        split at hok
        · contradiction
        · split at hok
          · contradiction
          · simp_all
      simp only [configureLoop, hvalid, Bool.not_true, Bool.false_eq_true,
        if_false] at hok ⊢
      have hnext : ConfiguredPrefix (done ++ [axis])
          (assigned ++ [(axis.safetyGroup,
            (assignGroup axis.safetyGroup assigned nextGroup).1)])
          (fun a => if a.val = done.length then
            axisSafetyConfig axis
              (assignGroup axis.safetyGroup assigned nextGroup).1
            else supervisor.configs a) := by
        constructor
        · simp [hdone.names]
        · intro a source entry hsource hentry
          by_cases hindex : a.val = done.length
          · have hlast : assigned.length = done.length := hdone.length_eq
            rw [hindex, List.getElem?_append_right le_rfl] at hsource
            rw [hindex, List.getElem?_append_right hlast.le] at hentry
            simp only [Nat.sub_self, List.getElem?_cons_zero,
              Option.some.injEq, hlast] at hsource hentry
            subst hsource hentry
            simp [hindex]
          · have hlt : a.val < done.length := by
              have hbound : a.val < (done ++ [axis]).length :=
                (List.getElem?_eq_some_iff.mp hsource).1
              rw [List.length_append, List.length_singleton] at hbound
              omega
            rw [List.getElem?_append_left hlt] at hsource
            rw [List.getElem?_append_left (hdone.length_eq ▸ hlt)] at hentry
            simp only [hindex, if_false]
            exact hdone.configs a source entry hsource hentry
      have hlen : (done ++ [axis]).length = done.length + 1 := by simp
      rw [← hlen] at hok ⊢
      have htotal : (done ++ [axis]).length + rest.length ≤ 12 := by
        simp only [List.length_append, List.length_cons,
          List.length_nil] at hlength ⊢
        omega
      obtain ⟨entries, last, hentries, hconfigured⟩ :=
        ih hnext (hassigned.assignGroup hshort axis.safetyGroup) htotal hok
      refine ⟨entries, last, hentries, ?_⟩
      simpa using hconfigured

/-- The loop writes nothing but the configurations and last requests. -/
theorem configureLoop_frame
    (supervisor : SafetySupervisor D) (rest : List (AxisConfig D))
    (index : ℕ) (assigned : List (String × UInt8)) (nextGroup : UInt8) :
    ∃ configs lastRequests,
      (configureLoop supervisor rest index assigned nextGroup).1 =
        { supervisor with configs := configs, lastRequests := lastRequests } := by
  induction rest generalizing supervisor index assigned nextGroup with
  | nil => exact ⟨supervisor.configs, supervisor.lastRequests, rfl⟩
  | cons axis rest ih =>
      simp only [configureLoop]
      split
      · exact ⟨supervisor.configs, supervisor.lastRequests, rfl⟩
      · split
        · exact ⟨supervisor.configs, supervisor.lastRequests, rfl⟩
        · obtain ⟨configs, lastRequests, hrest⟩ := ih
            { supervisor with
              configs := fun a => if a.val = index then
                axisSafetyConfig axis
                  (assignGroup axis.safetyGroup assigned nextGroup).1
                else supervisor.configs a
              lastRequests := fun a => if a.val = index then
                .disable else supervisor.lastRequests a }
            (index + 1)
            (assigned ++ [(axis.safetyGroup,
              (assignGroup axis.safetyGroup assigned nextGroup).1)])
            (assignGroup axis.safetyGroup assigned nextGroup).2
          exact ⟨configs, lastRequests, hrest⟩

theorem validOptions_of_configure
    {supervisor : SafetySupervisor D} {axes : List (AxisConfig D)}
    (hok : (supervisor.configure axes).2 = .ok ()) :
    validOptions supervisor.options = true := by
  unfold configure at hok
  split at hok
  · contradiction
  · split at hok
    · contradiction
    · rename_i hbad
      simp only [Bool.or_eq_true, not_or, Bool.not_eq_true',
        Bool.not_eq_false] at hbad
      exact hbad.2

theorem configure_of_ok
    {supervisor : SafetySupervisor D} {axes : List (AxisConfig D)}
    (hok : (supervisor.configure axes).2 = .ok ()) :
    axes.length ≤ kRobotIoMaximumAxes ∧
      (configureLoop supervisor axes 0 [] 0).2 = .ok () ∧
      (supervisor.configure axes).1 =
        { (configureLoop supervisor axes 0 [] 0).1 with
          axisCount := axes.length
          configured := true } := by
  unfold configure at hok ⊢
  split at hok
  · contradiction
  · rename_i hfresh
    split at hok
    · contradiction
    · rename_i hbad
      have hcount : axes.length ≤ kRobotIoMaximumAxes := by
        simp only [Bool.or_eq_true, decide_eq_true_eq, not_or, not_lt] at hbad
        exact hbad.1
      rw [if_neg hfresh, if_neg hbad]
      cases hloop : configureLoop supervisor axes 0 [] 0 with
      | mk next result =>
          rw [hloop] at hok
          cases result with
          | error error => simp at hok
          | ok value => exact ⟨hcount, rfl, rfl⟩

/-- Everything but the per-axis configuration is as constructed. -/
theorem SupervisorSetup.supervisor_frame (setup : SupervisorSetup D) :
    ∃ configs lastRequests,
      setup.supervisor =
        { (create setup.options : SafetySupervisor D) with
          configs := configs
          lastRequests := lastRequests
          axisCount := setup.axes.length
          configured := true } := by
  obtain ⟨_, _, hsupervisor⟩ := configure_of_ok setup.accepted
  obtain ⟨configs, lastRequests, hloop⟩ :=
    configureLoop_frame (create setup.options) setup.axes 0 [] 0
  refine ⟨configs, lastRequests, ?_⟩
  unfold SupervisorSetup.supervisor
  rw [hsupervisor, hloop]

theorem SupervisorSetup.axisCount_le (setup : SupervisorSetup D) :
    setup.axes.length ≤ kRobotIoMaximumAxes :=
  (configure_of_ok setup.accepted).1

theorem SupervisorSetup.confirmationCycles_pos (setup : SupervisorSetup D) :
    0 < setup.options.zeroVelocityConfirmationCycles := by
  have hvalid : validOptions setup.options = true :=
    validOptions_of_configure setup.accepted
  simp only [validOptions, Bool.and_eq_true, decide_eq_true_eq] at hvalid
  exact hvalid.2

theorem SupervisorSetup.configured (setup : SupervisorSetup D) :
    setup.supervisor.configured = true := by
  obtain ⟨_, _, hframe⟩ := setup.supervisor_frame
  rw [hframe]

theorem SupervisorSetup.axisCount (setup : SupervisorSetup D) :
    setup.supervisor.axisCount = setup.axes.length := by
  obtain ⟨_, _, hframe⟩ := setup.supervisor_frame
  rw [hframe]

theorem SupervisorSetup.supervisor_options (setup : SupervisorSetup D) :
    setup.supervisor.options = setup.options := by
  obtain ⟨_, _, hframe⟩ := setup.supervisor_frame
  rw [hframe]
  rfl

theorem SupervisorSetup.supervisor_states (setup : SupervisorSetup D) :
    setup.supervisor.states = fun _ => .initial := by
  obtain ⟨_, _, hframe⟩ := setup.supervisor_frame
  rw [hframe]
  rfl

/-- Two configured axes belong to the same safety group.  An empty group name
stands for a group of its own. -/
def SupervisorSetup.SameSafetyGroup (setup : SupervisorSetup D)
    (a b : Axis) : Prop :=
  a = b ∨ ∃ left ∈ setup.axes[a.val]?, ∃ right ∈ setup.axes[b.val]?,
    left.safetyGroup = right.safetyGroup ∧ left.safetyGroup ≠ ""

theorem SupervisorSetup.exists_entries (setup : SupervisorSetup D) :
    ∃ entries last, GroupsAssigned entries last ∧
      ConfiguredPrefix setup.axes entries setup.supervisor.configs := by
  obtain ⟨hcount, hok, hsupervisor⟩ := configure_of_ok setup.accepted
  have hstart : ConfiguredPrefix [] []
      (create setup.options : SafetySupervisor D).configs :=
    ⟨rfl, by simp⟩
  obtain ⟨entries, last, hentries, hconfigured⟩ :=
    configureLoop_spec hstart groupsAssigned_nil
      (by simpa using hcount) hok
  refine ⟨entries, last, hentries, ?_⟩
  unfold SupervisorSetup.supervisor
  rw [hsupervisor]
  simpa using hconfigured

/-- Group numbers tell safety groups apart. -/
theorem SupervisorSetup.group_eq_iff (setup : SupervisorSetup D)
    {a b : Axis} (ha : a.val < setup.axes.length)
    (hb : b.val < setup.axes.length) :
    (setup.supervisor.configs a).group = (setup.supervisor.configs b).group ↔
      setup.SameSafetyGroup a b := by
  obtain ⟨entries, last, hentries, hconfigured⟩ := setup.exists_entries
  have hlength := hconfigured.length_eq
  have hgroup : ∀ (axis : Axis) (haxis : axis.val < setup.axes.length),
      (setup.supervisor.configs axis).group =
        (entries.get ⟨axis.val, hlength ▸ haxis⟩).2 := by
    intro axis haxis
    rw [hconfigured.configs axis _ _ (List.getElem?_eq_getElem haxis)
      (List.getElem?_eq_getElem (hlength ▸ haxis))]
    rfl
  have hname : ∀ (axis : Axis) (haxis : axis.val < setup.axes.length),
      (entries.get ⟨axis.val, hlength ▸ haxis⟩).1 =
        (setup.axes.get ⟨axis.val, haxis⟩).safetyGroup := by
    intro axis haxis
    have hmap := congrArg (fun names => names[axis.val]?) hconfigured.names
    simpa [haxis, hlength] using hmap
  rw [hgroup a ha, hgroup b hb]
  by_cases heq : a = b
  · subst heq
    simp [SupervisorSetup.SameSafetyGroup]
  · have hpair : NumberedByName (entries.get ⟨a.val, hlength ▸ ha⟩)
        (entries.get ⟨b.val, hlength ▸ hb⟩) := by
      rcases lt_or_gt_of_ne (fun h => heq (Fin.ext h) :
        a.val ≠ b.val) with hlt | hgt
      · exact List.pairwise_iff_get.mp hentries.numbered _ _ hlt
      · exact (List.pairwise_iff_get.mp hentries.numbered _ _ hgt).symm
    refine hpair.trans ?_
    rw [hname a ha, hname b hb]
    simp [SupervisorSetup.SameSafetyGroup, heq, ha, hb]

/-! ## Steps -/

/-- What every call leaves alone. -/
structure SameSetup (supervisor next : SafetySupervisor D) : Prop where
  options : next.options = supervisor.options
  configs : next.configs = supervisor.configs
  axisCount : next.axisCount = supervisor.axisCount
  configured : next.configured = supervisor.configured

theorem acceptCommands_cases
    (supervisor : SafetySupervisor D) (snapshot : Snapshot (AxisCommand D))
    (nowNs : ℤ) :
    (supervisor.acceptCommands snapshot nowNs =
        ({ supervisor with commandsValid := false }, .rejected)) ∨
    (supervisor.acceptCommands snapshot nowNs = (supervisor, .duplicate) ∧
      supervisor.hasCommand = true ∧
      snapshot.sequence = supervisor.lastCommandSequence) ∨
    (supervisor.acceptCommands snapshot nowNs =
        (supervisor.storeCommands snapshot, .accepted) ∧
      supervisor.validSnapshot snapshot nowNs = true ∧
      (supervisor.hasCommand = true →
        supervisor.lastCommandSequence < snapshot.sequence ∧
          supervisor.lastCommandTimestampNs ≤ snapshot.timestampNs)) := by
  unfold acceptCommands
  dsimp only
  by_cases hvalid : supervisor.validSnapshot snapshot nowNs = true
  · simp only [hvalid, Bool.not_true, Bool.false_eq_true, if_false]
    by_cases hcommand : supervisor.hasCommand = true
    · simp only [hcommand, if_true]
      by_cases hold : snapshot.sequence < supervisor.lastCommandSequence ∨
          snapshot.timestampNs < supervisor.lastCommandTimestampNs
      · left
        simp [hold]
      · simp only [Bool.or_eq_true, decide_eq_true_eq, hold, if_false]
        rw [not_or, not_lt, not_lt] at hold
        by_cases hsame : snapshot.sequence = supervisor.lastCommandSequence
        · simp only [hsame, if_true]
          by_cases hrepeat : supervisor.sameCommands snapshot = true
          · right
            left
            simp [hrepeat]
          · left
            simp [hrepeat]
        · right
          right
          simp only [hsame, if_false, true_and]
          intro _
          exact ⟨lt_of_le_of_ne hold.1 (Ne.symm hsame), hold.2⟩
    · right
      right
      simp [hcommand]
  · left
    simp [hvalid]

/-- What `acceptCommands` leaves alone besides the setup. -/
structure SameProgress (supervisor next : SafetySupervisor D) : Prop where
  states : next.states = supervisor.states
  counter : next.consecutiveWkcFailures = supervisor.consecutiveWkcFailures
  shutdown : next.shutdownRequested = supervisor.shutdownRequested

theorem acceptCommands_sameProgress
    (supervisor : SafetySupervisor D) (snapshot : Snapshot (AxisCommand D))
    (nowNs : ℤ) :
    SameProgress supervisor (supervisor.acceptCommands snapshot nowNs).1 := by
  rcases acceptCommands_cases supervisor snapshot nowNs with
    hcase | ⟨hcase, _⟩ | ⟨hcase, _⟩ <;>
    rw [hcase] <;> constructor <;> rfl

theorem step_sameSetup
    (supervisor : SafetySupervisor D) (call : SupervisorCall D) :
    SameSetup supervisor (supervisorMachine.step supervisor call).1 := by
  cases call with
  | acceptCommands snapshot nowNs =>
      simp only [supervisorMachine]
      rcases acceptCommands_cases supervisor snapshot nowNs with
        hcase | ⟨hcase, _⟩ | ⟨hcase, _⟩ <;>
        rw [hcase] <;> constructor <;> rfl
  | requestShutdown nowNs => constructor <;> rfl
  | evaluate bus view nowNs =>
      have hsame := supervisor.evaluate_sameCommands bus
        (supervisor.span view) nowNs
      exact ⟨hsame.options, hsame.configs, hsame.axisCount, hsame.configured⟩

omit [FloatingPoint D] in
theorem SameSetup.refl (supervisor : SafetySupervisor D) :
    SameSetup supervisor supervisor := ⟨rfl, rfl, rfl, rfl⟩

omit [FloatingPoint D] in
theorem SameSetup.trans {first second third : SafetySupervisor D}
    (hfirst : SameSetup first second) (hsecond : SameSetup second third) :
    SameSetup first third :=
  ⟨hsecond.options.trans hfirst.options, hsecond.configs.trans hfirst.configs,
    hsecond.axisCount.trans hfirst.axisCount,
    hsecond.configured.trans hfirst.configured⟩

theorem final_sameSetup
    (supervisor : SafetySupervisor D) (calls : List (SupervisorCall D)) :
    SameSetup supervisor (supervisorMachine.final supervisor calls) := by
  refine Machine.invariant_final (SameSetup supervisor) ?_
    (SameSetup.refl supervisor) calls
  intro state call hstate
  exact hstate.trans (step_sameSetup state call)

/-- A supervisor with the configuration of a setup. -/
structure Configured (setup : SupervisorSetup D)
    (state : SafetySupervisor D) : Prop where
  options : state.options = setup.options
  configs : state.configs = setup.supervisor.configs
  axisCount : state.axisCount = setup.axes.length
  configured : state.configured = true

theorem Configured.of_sameSetup
    {setup : SupervisorSetup D} {state next : SafetySupervisor D}
    (hstate : Configured setup state) (hsame : SameSetup state next) :
    Configured setup next := by
  constructor
  · rw [hsame.options, hstate.options]
  · rw [hsame.configs, hstate.configs]
  · rw [hsame.axisCount, hstate.axisCount]
  · rw [hsame.configured, hstate.configured]

theorem Configured.step
    {setup : SupervisorSetup D} {state : SafetySupervisor D}
    (hstate : Configured setup state) (call : SupervisorCall D) :
    Configured setup (supervisorMachine.step state call).1 :=
  hstate.of_sameSetup (step_sameSetup state call)

theorem SupervisorSetup.configured_after
    (setup : SupervisorSetup D) (calls : List (SupervisorCall D)) :
    Configured setup (setup.after calls) := by
  have hstart : Configured setup setup.supervisor :=
    ⟨setup.supervisor_options, rfl, setup.axisCount, setup.configured⟩
  exact hstart.of_sameSetup (final_sameSetup setup.supervisor calls)

/-! ## A single-axis arm

Concrete data over the exact arithmetic, on which runs are evaluated. -/

def armAxis (group : String) : AxisConfig ℚ where
  mode := .csp
  scale := 1000
  minimum := -1
  maximum := 1
  commandTimeout := 20
  safetyGroup := group
  slewLimit := 1
  followingErrorLimit := 1

def healthyBus : SafetyBusState where
  workingCounter := 3
  expectedWorkingCounter := 3
  expectedWorkingCounterKnown := true
  workingCounterComplete := true
  linkUp := true
  allSlavesOperational := true
  processDataValid := true
  operationalAxesMask := 0
  externalStopAxesMask := 0

def stoppedBus : SafetyBusState :=
  { healthyBus with externalStopAxesMask := 1 }

def armView (statusWord : BitVec 16) (velocity : ℤ) :
    Axis → Cia402PdoView := fun _ =>
  { statusWord := statusWord
    modeDisplay := 8
    actualPosition := 0
    actualVelocity := velocity
    actualTorque := 0
    controlWord := 0
    targetPosition := 0
    targetVelocity := 0
    targetTorque := 0 }

def armCommand (sequence : ℕ) (timestampNs : ℤ) (flags : BitVec 32) :
    Snapshot (AxisCommand ℚ) where
  sequence := sequence
  timestampNs := timestampNs
  axisCount := 1
  axes := fun _ => ⟨sequence, timestampNs, 0, flags, 0⟩

def singleAxisArm : SupervisorSetup ℚ where
  options := {}
  axes := [armAxis ""]
  accepted := by decide +kernel

end PolicyRuntime
