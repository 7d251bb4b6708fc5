import PolicyRuntime.SafetySupervisor
import PolicyRuntime.Sequences

/-!
# Stop propagation inside safety groups

The propagation loops update the marks they iterate over.  Independently of
that order they only ever add marks, they reach every peer of a triggered or
resetting axis, they never mark an axis without a cause in its own group, and
their effect on one group depends on the marks of that group alone.
-/

namespace PolicyRuntime
namespace SafetySupervisor

variable {D : Type}

theorem mem_axes (supervisor : SafetySupervisor D) (axis : Axis) :
    axis ∈ supervisor.axes ↔ axis.val < supervisor.axisCount := by
  simp [axes]

theorem sameGroup_iff (supervisor : SafetySupervisor D) (a b : Axis) :
    supervisor.sameGroup a b = true ↔
      (supervisor.configs a).group = (supervisor.configs b).group := by
  simp [sameGroup]

/-! ## Marks only grow -/

/-- Every axis either keeps its marks or has been marked as a group member. -/
def GroupMarks.Extends (marks next : GroupMarks) : Prop :=
  ∀ axis,
    (next.triggers axis = marks.triggers axis ∧
      next.reasons axis = marks.reasons axis) ∨
    (next.triggers axis = true ∧
      next.reasons axis = marks.reasons axis ||| kAxisFeedbackSafetyGroup)

theorem GroupMarks.Extends.refl (marks : GroupMarks) : marks.Extends marks :=
  fun _ => .inl ⟨rfl, rfl⟩

theorem GroupMarks.Extends.trans
    {first second third : GroupMarks}
    (hfirst : first.Extends second) (hsecond : second.Extends third) :
    first.Extends third := by
  intro axis
  rcases hsecond axis with ⟨htrigger, hreason⟩ | ⟨htrigger, hreason⟩
  · rw [htrigger, hreason]
    exact hfirst axis
  · right
    refine ⟨htrigger, ?_⟩
    rcases hfirst axis with ⟨_, hold⟩ | ⟨_, hold⟩
    · rw [hreason, hold]
    · rw [hreason, hold, BitVec.or_assoc, BitVec.or_self]

theorem GroupMarks.Extends.trigger
    {marks next : GroupMarks} (hextends : marks.Extends next) {axis : Axis}
    (htrigger : marks.triggers axis = true) : next.triggers axis = true := by
  rcases hextends axis with ⟨hsame, _⟩ | ⟨hmarked, _⟩
  · rw [hsame, htrigger]
  · exact hmarked

/-- An axis which the loops leave untriggered keeps its reasons. -/
theorem GroupMarks.Extends.reasons_of_not_trigger
    {marks next : GroupMarks} (hextends : marks.Extends next) {axis : Axis}
    (hquiet : next.triggers axis = false) :
    marks.triggers axis = false ∧
      next.reasons axis = marks.reasons axis := by
  rcases hextends axis with ⟨hsame, hreason⟩ | ⟨hmarked, _⟩
  · exact ⟨hsame ▸ hquiet, hreason⟩
  · rw [hquiet] at hmarked
    contradiction

theorem GroupMarks.extends_mark (marks : GroupMarks) (member : Axis) :
    marks.Extends (marks.mark member) := by
  intro axis
  by_cases heq : axis = member
  · subst heq
    right
    simp [GroupMarks.mark]
  · left
    simp [GroupMarks.mark, Function.update_of_ne heq]

theorem markPeers_extends
    (supervisor : SafetySupervisor D) (exempt : Axis → Bool)
    (marks : GroupMarks) (source : Axis) :
    marks.Extends (supervisor.markPeers exempt marks source) := by
  unfold markPeers
  refine List.foldlRecOn supervisor.axes _ (.refl marks) ?_
  intro current hcurrent member _
  split
  · exact hcurrent.trans (current.extends_mark member)
  · exact hcurrent

theorem markPeers_trigger
    {supervisor : SafetySupervisor D} {exempt : Axis → Bool}
    (marks : GroupMarks) {source member : Axis}
    (hmem : member.val < supervisor.axisCount)
    (hpeer : supervisor.isPeer exempt source member = true) :
    (supervisor.markPeers exempt marks source).triggers member = true := by
  unfold markPeers
  refine foldl_establish (fun _ => True)
    (fun current : GroupMarks => current.triggers member = true)
    (fun _ _ _ _ => trivial) ?_
    ((supervisor.mem_axes member).mpr hmem) ?_ trivial
  · intro current other _ hcurrent
    split
    · exact (current.extends_mark other).trigger hcurrent
    · exact hcurrent
  · intro current _
    rw [if_pos hpeer]
    simp [GroupMarks.mark]

/-- An axis outside the marked set keeps its marks. -/
theorem markPeers_of_not_peer
    (supervisor : SafetySupervisor D) (exempt : Axis → Bool)
    (marks : GroupMarks) {source axis : Axis}
    (hpeer : supervisor.isPeer exempt source axis = false) :
    (supervisor.markPeers exempt marks source).triggers axis =
        marks.triggers axis ∧
      (supervisor.markPeers exempt marks source).reasons axis =
        marks.reasons axis := by
  unfold markPeers
  refine List.foldlRecOn supervisor.axes _
    (motive := fun current : GroupMarks => current.triggers axis = marks.triggers axis ∧
      current.reasons axis = marks.reasons axis) ⟨rfl, rfl⟩ ?_
  intro current hcurrent member _
  split
  · rename_i hmember
    have hne : axis ≠ member := by
      rintro rfl
      rw [hpeer] at hmember
      contradiction
    simpa [GroupMarks.mark, Function.update_of_ne hne] using hcurrent
  · exact hcurrent

theorem propagateTriggers_extends
    (supervisor : SafetySupervisor D) (marks : GroupMarks) :
    marks.Extends (supervisor.propagateTriggers marks) := by
  unfold propagateTriggers
  refine List.foldlRecOn supervisor.axes _ (.refl marks) ?_
  intro current hcurrent source _
  split
  · exact hcurrent.trans (supervisor.markPeers_extends _ current source)
  · exact hcurrent

theorem propagateResets_extends
    (supervisor : SafetySupervisor D) (candidates : Axis → Bool)
    (marks : GroupMarks) :
    marks.Extends (supervisor.propagateResets candidates marks) := by
  unfold propagateResets
  refine List.foldlRecOn supervisor.axes _ (.refl marks) ?_
  intro current hcurrent source _
  split
  · exact hcurrent.trans (supervisor.markPeers_extends _ current source)
  · exact hcurrent

/-! ## Every peer is reached -/

theorem propagateTriggers_reaches
    {supervisor : SafetySupervisor D} {marks : GroupMarks}
    {source member : Axis}
    (hsource : source.val < supervisor.axisCount)
    (hmember : member.val < supervisor.axisCount)
    (htrigger : marks.triggers source = true)
    (hgroup : supervisor.sameGroup member source = true) :
    (supervisor.propagateTriggers marks).triggers member = true := by
  by_cases heq : member = source
  · subst heq
    exact (supervisor.propagateTriggers_extends marks).trigger htrigger
  · unfold propagateTriggers
    refine foldl_establish
      (fun current : GroupMarks => current.triggers source = true)
      (fun current : GroupMarks => current.triggers member = true) ?_ ?_
      ((supervisor.mem_axes source).mpr hsource) ?_ htrigger
    · intro current other _ hcurrent
      split
      · exact (supervisor.markPeers_extends _ current other).trigger hcurrent
      · exact hcurrent
    · intro current other _ hcurrent
      split
      · exact (supervisor.markPeers_extends _ current other).trigger hcurrent
      · exact hcurrent
    · intro current hcurrent
      rw [if_pos hcurrent]
      apply markPeers_trigger current hmember
      simp [isPeer, heq, hgroup]

theorem propagateResets_reaches
    {supervisor : SafetySupervisor D} {candidates : Axis → Bool}
    (marks : GroupMarks) {source member : Axis}
    (hsource : source.val < supervisor.axisCount)
    (hmember : member.val < supervisor.axisCount)
    (hcandidate : candidates source = true)
    (hother : candidates member = false)
    (hgroup : supervisor.sameGroup member source = true) :
    (supervisor.propagateResets candidates marks).triggers member = true := by
  have hne : member ≠ source := by
    rintro rfl
    rw [hcandidate] at hother
    contradiction
  unfold propagateResets
  refine foldl_establish (fun _ => True)
    (fun current : GroupMarks => current.triggers member = true)
    (fun _ _ _ _ => trivial) ?_
    ((supervisor.mem_axes source).mpr hsource) ?_ trivial
  · intro current other _ hcurrent
    split
    · exact (supervisor.markPeers_extends _ current other).trigger hcurrent
    · exact hcurrent
  · intro current _
    rw [if_pos hcandidate]
    apply markPeers_trigger current hmember
    simp [isPeer, hne, hother, hgroup]

/-! ## No mark without a cause -/

theorem markPeers_of_other_group
    (supervisor : SafetySupervisor D) (exempt : Axis → Bool)
    (marks : GroupMarks) {source axis : Axis}
    (hgroup : (supervisor.configs source).group ≠
      (supervisor.configs axis).group) :
    (supervisor.markPeers exempt marks source).triggers axis =
        marks.triggers axis ∧
      (supervisor.markPeers exempt marks source).reasons axis =
        marks.reasons axis := by
  apply supervisor.markPeers_of_not_peer exempt marks
  have hother : supervisor.sameGroup axis source = false := by
    simpa [sameGroup] using Ne.symm hgroup
  simp [isPeer, hother]

/-- A group in which nothing is triggered keeps its marks. -/
theorem propagateTriggers_of_quiet
    {supervisor : SafetySupervisor D} {marks : GroupMarks} {group : UInt8}
    (hquiet : ∀ axis, (supervisor.configs axis).group = group →
      marks.triggers axis = false)
    {axis : Axis} (haxis : (supervisor.configs axis).group = group) :
    (supervisor.propagateTriggers marks).triggers axis =
        marks.triggers axis ∧
      (supervisor.propagateTriggers marks).reasons axis =
        marks.reasons axis := by
  unfold propagateTriggers
  refine List.foldlRecOn supervisor.axes _
    (motive := fun current : GroupMarks =>
      ∀ axis, (supervisor.configs axis).group = group →
        current.triggers axis = marks.triggers axis ∧
          current.reasons axis = marks.reasons axis)
    (fun _ _ => ⟨rfl, rfl⟩) ?_ axis haxis
  intro current hcurrent source _ other hother
  split
  · rename_i hfires
    have hgroup : (supervisor.configs source).group ≠
        (supervisor.configs other).group := by
      intro hsame
      have hsource := hsame.trans hother
      rw [(hcurrent source hsource).1, hquiet source hsource] at hfires
      contradiction
    have hkeep := supervisor.markPeers_of_other_group (fun _ => false)
      current hgroup
    rw [hkeep.1, hkeep.2]
    exact hcurrent other hother
  · exact hcurrent other hother

/-- A group in which nothing is reset keeps its marks. -/
theorem propagateResets_of_quiet
    {supervisor : SafetySupervisor D} {candidates : Axis → Bool}
    (marks : GroupMarks) {group : UInt8}
    (hquiet : ∀ axis, (supervisor.configs axis).group = group →
      candidates axis = false)
    {axis : Axis} (haxis : (supervisor.configs axis).group = group) :
    (supervisor.propagateResets candidates marks).triggers axis =
        marks.triggers axis ∧
      (supervisor.propagateResets candidates marks).reasons axis =
        marks.reasons axis := by
  unfold propagateResets
  refine List.foldlRecOn supervisor.axes _
    (motive := fun current : GroupMarks =>
      current.triggers axis = marks.triggers axis ∧
        current.reasons axis = marks.reasons axis) ⟨rfl, rfl⟩ ?_
  intro current hcurrent source _
  split
  · rename_i hfires
    have hgroup : (supervisor.configs source).group ≠
        (supervisor.configs axis).group := by
      intro hsame
      rw [hquiet source (hsame.trans haxis)] at hfires
      contradiction
    have hkeep := supervisor.markPeers_of_other_group candidates
      current hgroup
    rw [hkeep.1, hkeep.2]
    exact hcurrent
  · exact hcurrent

/-! ## One group at a time -/

/-- Two sets of marks agree on the group with the given number. -/
def GroupMarks.AgreeOn (configs : Axis → AxisSafetyConfig D) (group : UInt8)
    (left right : GroupMarks) : Prop :=
  ∀ axis, (configs axis).group = group →
    left.triggers axis = right.triggers axis ∧
      left.reasons axis = right.reasons axis

/-- One iteration of either loop keeps agreement on a group, whatever it does
to the other groups. -/
theorem iteration_agreeOn
    {left right : SafetySupervisor D}
    (hconfigs : left.configs = right.configs)
    (hcount : left.axisCount = right.axisCount)
    {group : UInt8} {exemptLeft exemptRight : Axis → Bool}
    (hexempt : ∀ axis, (left.configs axis).group = group →
      exemptLeft axis = exemptRight axis)
    {marksLeft marksRight : GroupMarks}
    (hmarks : marksLeft.AgreeOn left.configs group marksRight)
    {source : Axis} {firesLeft firesRight : Bool}
    (hfires : (left.configs source).group = group → firesLeft = firesRight) :
    GroupMarks.AgreeOn left.configs group
      (if firesLeft then left.markPeers exemptLeft marksLeft source
        else marksLeft)
      (if firesRight then right.markPeers exemptRight marksRight source
        else marksRight) := by
  have haxes : left.axes = right.axes := by
    simp [axes, hcount]
  intro axis haxis
  by_cases hsource : (left.configs source).group = group
  · rw [hfires hsource]
    split
    · unfold markPeers
      rw [← haxes]
      refine List.foldl_rel
        (r := fun l r : GroupMarks => l.AgreeOn left.configs group r)
        hmarks ?_ axis haxis
      intro member _ current other hagree
      have hpeer : (left.configs member).group = group →
          left.isPeer exemptLeft source member =
            right.isPeer exemptRight source member := by
        intro hmember
        simp [isPeer, sameGroup, hconfigs, hexempt member hmember]
      intro target htarget
      by_cases hmember : (left.configs member).group = group
      · rw [hpeer hmember]
        split
        · by_cases heq : target = member
          · subst heq
            simp [GroupMarks.mark, (hagree target htarget).2]
          · simpa [GroupMarks.mark, Function.update_of_ne heq] using
              hagree target htarget
        · exact hagree target htarget
      · have hne : target ≠ member := by
          rintro rfl
          exact hmember htarget
        have hkeep : ∀ (marks : GroupMarks) (taken : Bool),
            (if taken then marks.mark member else marks).triggers target =
                marks.triggers target ∧
              (if taken then marks.mark member else marks).reasons target =
                marks.reasons target := by
          intro marks taken
          cases taken <;> simp [GroupMarks.mark, Function.update_of_ne hne]
        rw [(hkeep current _).1, (hkeep current _).2, (hkeep other _).1,
          (hkeep other _).2]
        exact hagree target htarget
    · exact hmarks axis haxis
  · have hother : (left.configs source).group ≠ (left.configs axis).group := by
      rw [haxis]
      exact hsource
    have hkeepLeft :=
      left.markPeers_of_other_group exemptLeft marksLeft hother
    rw [hconfigs] at hother
    have hkeepRight :=
      right.markPeers_of_other_group exemptRight marksRight hother
    have hagree := hmarks axis haxis
    cases firesLeft <;> cases firesRight <;>
      simp [hkeepLeft, hkeepRight, hagree]

theorem propagateTriggers_agreeOn
    {left right : SafetySupervisor D}
    (hconfigs : left.configs = right.configs)
    (hcount : left.axisCount = right.axisCount)
    {group : UInt8} {marksLeft marksRight : GroupMarks}
    (hmarks : marksLeft.AgreeOn left.configs group marksRight) :
    GroupMarks.AgreeOn left.configs group
      (left.propagateTriggers marksLeft)
      (right.propagateTriggers marksRight) := by
  have haxes : left.axes = right.axes := by
    simp [axes, hcount]
  unfold propagateTriggers
  rw [← haxes]
  refine List.foldl_rel
    (r := fun l r : GroupMarks => l.AgreeOn left.configs group r) hmarks ?_
  intro source _ current other hagree
  exact iteration_agreeOn hconfigs hcount (fun _ _ => rfl) hagree
    (fun hsource => (hagree source hsource).1)

theorem propagateResets_agreeOn
    {left right : SafetySupervisor D}
    (hconfigs : left.configs = right.configs)
    (hcount : left.axisCount = right.axisCount)
    {group : UInt8} {candidatesLeft candidatesRight : Axis → Bool}
    (hcandidates : ∀ axis, (left.configs axis).group = group →
      candidatesLeft axis = candidatesRight axis)
    {marksLeft marksRight : GroupMarks}
    (hmarks : marksLeft.AgreeOn left.configs group marksRight) :
    GroupMarks.AgreeOn left.configs group
      (left.propagateResets candidatesLeft marksLeft)
      (right.propagateResets candidatesRight marksRight) := by
  have haxes : left.axes = right.axes := by
    simp [axes, hcount]
  unfold propagateResets
  rw [← haxes]
  refine List.foldl_rel
    (r := fun l r : GroupMarks => l.AgreeOn left.configs group r) hmarks ?_
  intro source _ current other hagree
  exact iteration_agreeOn hconfigs hcount hcandidates hagree
    (hcandidates source)

end SafetySupervisor
end PolicyRuntime
