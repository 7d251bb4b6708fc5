import Mathlib.Tactic
import Mathlib.Data.List.Sort
import Mathlib.Data.List.TakeWhile

/-!
# Loops and observation sequences

Facts about finite sequences which the run arguments share: goals established
by one iteration of a loop, the length of the current streak of good
observations, rising edges of a Boolean signal, and recognising a subsequence
of a strictly increasing sequence by membership alone.
-/

namespace PolicyRuntime

variable {α β : Type*}

/-- A goal which one iteration establishes and every iteration keeps holds
after the loop. -/
theorem foldl_establish
    (Kept Goal : β → Prop) {step : β → α → β} {items : List α}
    (hkept : ∀ state, ∀ item ∈ items, Kept state → Kept (step state item))
    (hgoal : ∀ state, ∀ item ∈ items, Goal state → Goal (step state item))
    {hit : α} (hmem : hit ∈ items)
    (hhit : ∀ state, Kept state → Goal (step state hit))
    {start : β} (hstart : Kept start) :
    Goal (items.foldl step start) := by
  obtain ⟨earlier, later, hsplit⟩ := List.mem_iff_append.mp hmem
  have hearlier : Kept (earlier.foldl step start) := by
    refine List.foldlRecOn earlier step hstart ?_
    intro state hstate item hitem
    exact hkept state item (by simp [hsplit, hitem]) hstate
  rw [hsplit, List.foldl_append, List.foldl_cons]
  refine List.foldlRecOn later step (hhit _ hearlier) ?_
  intro state hstate item hitem
  exact hgoal state item (by simp [hsplit, hitem]) hstate

theorem filterMap_cons_toList
    (f : α → Option β) (item : α) (items : List α) :
    (item :: items).filterMap f = (f item).toList ++ items.filterMap f := by
  rw [List.filterMap_cons]
  cases f item <;> rfl

theorem exists_left_of_forall₂ {R : α → β → Prop} {left : List α}
    {right : List β} (h : List.Forall₂ R left right) {b : β}
    (hb : b ∈ right) : ∃ a ∈ left, R a b := by
  induction h with
  | nil => cases hb
  | @cons a head _ _ hhead _ ih =>
      cases List.mem_cons.mp hb with
      | inl heq =>
          rw [heq]
          exact ⟨a, List.mem_cons_self, hhead⟩
      | inr hmem =>
          obtain ⟨found, hfound, hrelated⟩ := ih hmem
          exact ⟨found, List.mem_cons_of_mem a hfound, hrelated⟩

theorem exists_right_of_forall₂ {R : α → β → Prop} {left : List α}
    {right : List β} (h : List.Forall₂ R left right) {a : α}
    (ha : a ∈ left) : ∃ b ∈ right, R a b :=
  exists_left_of_forall₂ h.flip ha

theorem find?_eq_some_of_unique {α : Type*} {p : α → Bool} {list : List α}
    {item : α} (hitem : item ∈ list) (hp : p item = true)
    (hunique : ∀ other ∈ list, p other = true → other = item) :
    list.find? p = some item := by
  cases hfound : list.find? p with
  | none =>
      have hnone := List.find?_eq_none.mp hfound item hitem
      contradiction
  | some found =>
      rw [hunique found (List.mem_of_find?_eq_some hfound)
        (List.find?_some hfound)]

/-- The number of selected items of a growing part takes every value between
two of its values. -/
theorem exists_take_filterMap_length {f : α → Option β} {items : List α}
    {low high count : ℕ} (hle : low ≤ high)
    (hlow : ((items.take low).filterMap f).length ≤ count)
    (hhigh : count ≤ ((items.take high).filterMap f).length) :
    ∃ moment, low ≤ moment ∧ moment ≤ high ∧
      ((items.take moment).filterMap f).length = count := by
  induction high, hle using Nat.le_induction with
  | base => exact ⟨low, le_refl low, le_refl low, le_antisymm hlow hhigh⟩
  | succ high hle ih =>
      by_cases hcount : count ≤ ((items.take high).filterMap f).length
      · obtain ⟨moment, hmoment, hbound, hlength⟩ := ih hcount
        exact ⟨moment, hmoment, hbound.trans (Nat.le_succ high), hlength⟩
      · refine ⟨high + 1, by omega, le_refl _, ?_⟩
        have hnext : ((items.take (high + 1)).filterMap f).length ≤
            ((items.take high).filterMap f).length + 1 := by
          rw [List.take_add_one, List.filterMap_append, List.length_append]
          apply Nat.add_le_add_left
          exact (List.length_filterMap_le f _).trans (by
            cases items[high]? <;> simp)
        omega

theorem getElem?_of_isPrefix {earlier later : List α} {index : ℕ}
    {item : α} (hlater : earlier <+: later)
    (hitem : earlier[index]? = some item) : later[index]? = some item := by
  obtain ⟨rest, rfl⟩ := hlater
  rw [List.getElem?_append_left (List.getElem?_eq_some_iff.mp hitem).1]
  exact hitem

theorem isPrefix_concat_of_getElem? {earlier later : List α}
    {item : α} (hlater : earlier <+: later)
    (hitem : later[earlier.length]? = some item) :
    earlier ++ [item] <+: later := by
  obtain ⟨rest, rfl⟩ := hlater
  rw [List.getElem?_append_right (le_refl _), Nat.sub_self] at hitem
  cases rest with
  | nil => cases hitem
  | cons head tail =>
      cases hitem
      exact ⟨tail, by rw [List.append_assoc, List.singleton_append]⟩

/-- A key which no two items share selects one item. -/
theorem filter_key_eq_singleton
    {κ : Type*} [DecidableEq κ] {key : α → κ} {items : List α}
    (hnodup : (items.map key).Nodup) {item : α} (hitem : item ∈ items) :
    items.filter (fun other => key other = key item) = [item] := by
  induction items with
  | nil => exact absurd hitem List.not_mem_nil
  | cons head rest ih =>
      rw [List.map_cons, List.nodup_cons] at hnodup
      rcases List.mem_cons.mp hitem with rfl | hrest
      · rw [List.filter_cons_of_pos (by simp), List.filter_eq_nil_iff.mpr]
        intro other hother hsame
        simp only [decide_eq_true_eq] at hsame
        exact hnodup.1 (hsame ▸ List.mem_map_of_mem hother)
      · rw [List.filter_cons_of_neg, ih hnodup.2 hrest]
        simp only [decide_eq_true_eq]
        intro hsame
        exact hnodup.1 (hsame ▸ List.mem_map_of_mem hrest)

theorem filter_zipIdx_key
    {κ : Type*} [DecidableEq κ] {key : α → κ} {items : List α}
    (hnodup : (items.map key).Nodup) {index : ℕ} {item : α}
    (hitem : items[index]? = some item) :
    items.zipIdx.filter (fun entry => key entry.1 = key item) =
      [(item, index)] := by
  have hmem : (item, index) ∈ items.zipIdx :=
    List.mem_zipIdx_iff_getElem?.mpr hitem
  have hmap := List.map_map (l := items.zipIdx) (f := Prod.fst) (g := key)
  rw [List.zipIdx_map_fst] at hmap
  have hkeys : (items.zipIdx.map (key ∘ Prod.fst)).Nodup := hmap ▸ hnodup
  exact filter_key_eq_singleton hkeys hmem

/-! ## Streaks -/

/-- Number of consecutive good observations at the end of a sequence. -/
def streak (good : α → Bool) (items : List α) : ℕ :=
  (items.reverse.takeWhile good).length

@[simp] theorem streak_nil (good : α → Bool) : streak good [] = 0 := rfl

theorem streak_append_singleton
    (good : α → Bool) (items : List α) (item : α) :
    streak good (items ++ [item]) =
      if good item then streak good items + 1 else 0 := by
  unfold streak
  rw [List.reverse_append, List.reverse_singleton, List.singleton_append,
    List.takeWhile_cons]
  split <;> simp

/-- The last `n` observations are good once the streak has length `n`. -/
theorem exists_good_suffix_of_le_streak
    {good : α → Bool} {items : List α} {n : ℕ}
    (hn : n ≤ streak good items) :
    ∃ older recent, items = older ++ recent ∧ recent.length = n ∧
      ∀ item ∈ recent, good item = true := by
  have hprefix := List.takeWhile_prefix (l := items.reverse) good
  have htake :
      items.reverse.take n = (items.reverse.takeWhile good).take n := by
    obtain ⟨rest, hrest⟩ := hprefix
    conv_lhs => rw [← hrest]
    exact List.take_append_of_le_length hn
  refine ⟨(items.reverse.drop n).reverse, (items.reverse.take n).reverse,
    ?_, ?_, ?_⟩
  · rw [← List.reverse_append, List.take_append_drop, List.reverse_reverse]
  · rw [List.length_reverse, htake, List.length_take]
    exact min_eq_left hn
  · intro item hitem
    rw [List.mem_reverse, htake] at hitem
    exact List.mem_takeWhile_imp (List.mem_of_mem_take hitem)

/-! ## Rising edges -/

/-- Number of rising edges of a signal which was at `level` before. -/
def risingEdges : Bool → List Bool → ℕ
  | _, [] => 0
  | level, next :: rest =>
      (if !level && next then 1 else 0) + risingEdges next rest

@[simp] theorem risingEdges_nil (level : Bool) : risingEdges level [] = 0 := rfl

theorem risingEdges_append_singleton
    (level : Bool) (signal : List Bool) (next : Bool) :
    risingEdges level (signal ++ [next]) =
      risingEdges level signal +
        (if !(signal.getLast?.getD level) && next then 1 else 0) := by
  induction signal generalizing level with
  | nil => simp [risingEdges]
  | cons head tail ih =>
      simp only [List.cons_append, risingEdges, ih]
      rw [List.getLast?_cons, Option.getD_some, Nat.add_assoc]

/-! ## Subsequences -/

/-- A sequence increasing in `key` whose members all occur in another such
sequence is a subsequence of it. -/
theorem sublist_of_increasing_of_subset
    {key : α → ℕ} {left right : List α}
    (hleft : left.Pairwise fun x y => key x < key y)
    (hright : right.Pairwise fun x y => key x < key y)
    (hsubset : left ⊆ right) : List.Sublist left right := by
  have hnodup : left.Nodup := by
    refine hleft.imp ?_
    intro x y hlt heq
    subst heq
    exact lt_irrefl _ hlt
  have hanti : Std.Antisymm fun x y : α => key x < key y :=
    ⟨fun x y hxy hyx => absurd hyx (lt_asymm hxy)⟩
  exact List.sublist_of_subperm_of_pairwise
    (hnodup.subperm hsubset) hleft hright

end PolicyRuntime
