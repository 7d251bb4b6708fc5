import Mathlib.Data.Set.Insert
import Mathlib.Logic.Function.Basic

/-!
# Owners of exclusive things

A ledger records which things are taken.  It agrees with their holders when a
thing is recorded exactly while somebody holds it, and nobody else does.
-/

namespace Ownership

variable {ρ κ : Type*}

/-- No two holders have the same thing. -/
def Exclusive (held : ρ → Option κ) : Prop :=
  ∀ first second thing, held first = some thing →
    held second = some thing → first = second

structure Ledger (taken : Set κ) (held : ρ → Option κ) : Prop where
  exclusive : Exclusive held
  recorded : ∀ thing, thing ∈ taken ↔ ∃ holder, held holder = some thing

theorem exclusive_none : Exclusive fun _ : ρ => (none : Option κ) :=
  fun _ _ _ hheld _ => nomatch hheld

theorem Ledger.empty : Ledger ∅ fun _ : ρ => (none : Option κ) where
  exclusive := exclusive_none
  recorded := fun thing => by simp

section Update

variable [DecidableEq ρ] {taken : Set κ} {held : ρ → Option κ} {holder : ρ}
  {thing : κ}

theorem Exclusive.claim (hheld : Exclusive held)
    (hfree : ∀ other, held other ≠ some thing) :
    Exclusive (Function.update held holder (some thing)) := by
  intro first second found hfirst hsecond
  rw [Function.update_apply] at hfirst hsecond
  split_ifs at hfirst hsecond with hf hs hs
  · exact hf.trans hs.symm
  · rw [← Option.some.inj hfirst] at hsecond
    exact absurd hsecond (hfree second)
  · rw [← Option.some.inj hsecond] at hfirst
    exact absurd hfirst (hfree first)
  · exact hheld first second found hfirst hsecond

theorem Exclusive.release (hheld : Exclusive held) :
    Exclusive (Function.update held holder none) := by
  intro first second found hfirst hsecond
  rw [Function.update_apply] at hfirst hsecond
  split_ifs at hfirst hsecond
  exact hheld first second found hfirst hsecond

/-- A thing which nobody holds may be taken by a holder of nothing. -/
theorem Ledger.claim (hledger : Ledger taken held) (thing : κ)
    (hnone : held holder = none) (hfree : thing ∉ taken) :
    Ledger (insert thing taken)
      (Function.update held holder (some thing)) := by
  have hnobody : ∀ other, held other ≠ some thing := by
    intro other hother
    exact hfree ((hledger.recorded thing).mpr ⟨other, hother⟩)
  refine ⟨hledger.exclusive.claim hnobody, fun found => ?_⟩
  rw [Set.mem_insert_iff, hledger.recorded]
  constructor
  · rintro (rfl | ⟨other, hother⟩)
    · exact ⟨holder, Function.update_self ..⟩
    · refine ⟨other, ?_⟩
      have hne : other ≠ holder := by
        rintro rfl
        exact nomatch hnone.symm.trans hother
      rw [Function.update_of_ne hne]
      exact hother
  · rintro ⟨other, hother⟩
    rw [Function.update_apply] at hother
    split_ifs at hother
    · exact Or.inl (Option.some.inj hother).symm
    · exact Or.inr ⟨other, hother⟩

/-- What a holder gives back is free again. -/
theorem Ledger.release (hledger : Ledger taken held)
    (hheld : held holder = some thing) :
    Ledger (taken \ {thing}) (Function.update held holder none) := by
  refine ⟨hledger.exclusive.release, fun found => ?_⟩
  rw [Set.mem_sdiff, Set.mem_singleton_iff, hledger.recorded]
  constructor
  · rintro ⟨⟨other, hother⟩, hne⟩
    refine ⟨other, ?_⟩
    have hother' : other ≠ holder := by
      rintro rfl
      exact hne (Option.some.inj (hother.symm.trans hheld))
    rw [Function.update_of_ne hother']
    exact hother
  · rintro ⟨other, hother⟩
    rw [Function.update_apply] at hother
    split_ifs at hother with hsame
    refine ⟨⟨other, hother⟩, ?_⟩
    rintro rfl
    exact hsame (hledger.exclusive other holder _ hother hheld)

end Update

/-! ## Both directions -/

/-- The holder of a thing, where it is looked up in both directions. -/
def Paired (held : ρ → Option κ) (holder : κ → Option ρ) : Prop :=
  ∀ owner thing, held owner = some thing ↔ holder thing = some owner

theorem paired_none :
    Paired (fun _ : ρ => (none : Option κ)) fun _ => none :=
  fun _ _ => ⟨(nomatch ·), (nomatch ·)⟩

section Pairs

variable [DecidableEq ρ] [DecidableEq κ] {held : ρ → Option κ}
  {holder : κ → Option ρ} {owner : ρ} {thing : κ}

theorem Paired.claim (hpaired : Paired held holder)
    (howner : held owner = none) (hthing : holder thing = none) :
    Paired (Function.update held owner (some thing))
      (Function.update holder thing (some owner)) := by
  intro other found
  rw [Function.update_apply, Function.update_apply]
  split_ifs with hother hfound hfound
  · simp [hother, hfound]
  · constructor
    · rintro ⟨rfl⟩
      exact absurd rfl hfound
    · intro hheld
      rw [hother] at hheld
      exact nomatch howner.symm.trans ((hpaired owner found).mpr hheld)
  · constructor
    · intro hheld
      rw [hfound] at hheld
      exact nomatch hthing.symm.trans ((hpaired other thing).mp hheld)
    · rintro ⟨rfl⟩
      exact absurd rfl hother
  · exact hpaired other found

theorem Paired.release (hpaired : Paired held holder)
    (hheld : held owner = some thing) :
    Paired (Function.update held owner none)
      (Function.update holder thing none) := by
  intro other found
  have hholder := (hpaired owner thing).mp hheld
  rw [Function.update_apply, Function.update_apply]
  split_ifs with hother hfound hfound
  · exact Iff.rfl
  · refine ⟨(nomatch ·), fun hfind => ?_⟩
    rw [hother] at hfind
    have hsame := hheld.symm.trans ((hpaired owner found).mpr hfind)
    exact absurd (Option.some.inj hsame).symm hfound
  · refine ⟨fun hfind => ?_, (nomatch ·)⟩
    rw [hfound] at hfind
    have hsame := hholder.symm.trans ((hpaired other thing).mp hfind)
    exact absurd (Option.some.inj hsame).symm hother
  · exact hpaired other found

end Pairs

end Ownership
