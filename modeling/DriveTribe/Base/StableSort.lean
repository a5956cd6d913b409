import Mathlib.Data.List.Nodup
import Mathlib.Order.Lattice

/-!
# A stable sort by a coarse key

A list sorted by a key keeps the elements with equal keys in the order it had them. Where the
key is a coarser reading of a finer one, the sorted list is in the finer order exactly if no two
elements with equal keys were listed the wrong way round.
-/

namespace DriveTribe.Base

universe u v w
variable {α : Type u} {τ : Type v} {κ : Type w}

/-- Sort by a strict order. The sort is stable. -/
def sorted (areInIncreasingOrder : α → α → Bool) (l : List α) : List α :=
  l.mergeSort fun a b => !areInIncreasingOrder b a

private theorem not_nodup_of_sublist {l : List α} {a b : α} (hab : List.Sublist [a, b] l)
    (hba : List.Sublist [b, a] l) : ¬ l.Nodup := by
  intro hl
  induction l with
  | nil => cases hab
  | cons x l ih =>
    obtain ⟨hx, hl⟩ := List.nodup_cons.mp hl
    cases hab with
    | cons _ hab =>
      cases hba with
      | cons _ hba => exact ih hab hba hl
      | cons_cons _ _ => exact hx (hab.subset (by simp only [List.mem_cons, true_or, or_true]))
    | cons_cons _ hb =>
      cases hba with
      | cons _ hba => exact hx (hba.subset (by simp only [List.mem_cons, true_or, or_true]))
      | cons_cons _ _ => exact hx (List.singleton_sublist.mp hb)

private theorem sublist_or_sublist {l : List α} {a b : α} (ha : a ∈ l) (hb : b ∈ l) (hne : a ≠ b) :
    List.Sublist [a, b] l ∨ List.Sublist [b, a] l := by
  induction l with
  | nil => cases ha
  | cons x l ih =>
    by_cases hax : a = x
    · subst hax
      have hbl : b ∈ l := (List.mem_cons.mp hb).resolve_left hne.symm
      exact .inl ((List.singleton_sublist.mpr hbl).cons_cons a)
    · have hal : a ∈ l := (List.mem_cons.mp ha).resolve_left hax
      by_cases hbx : b = x
      · subst hbx
        exact .inr ((List.singleton_sublist.mpr hal).cons_cons b)
      · have hbl : b ∈ l := (List.mem_cons.mp hb).resolve_left hbx
        exact (ih hal hbl).imp (List.Sublist.cons x) (List.Sublist.cons x)

section Key
variable [LinearOrder κ] {key : α → κ}

/-- Sort by a key. -/
def sortedByKey (key : α → κ) (l : List α) : List α :=
  sorted (fun a b => decide (key a < key b)) l

/-- The sorted list has the same elements. -/
theorem sortedByKey_perm (key : α → κ) (l : List α) : (sortedByKey key l).Perm l :=
  List.mergeSort_perm ..

private theorem key_trans (key : α → κ) (a b c : α) (hab : (!decide (key b < key a)) = true)
    (hbc : (!decide (key c < key b)) = true) : (!decide (key c < key a)) = true := by
  simp only [Bool.not_eq_true', decide_eq_false_iff_not, not_lt] at hab hbc ⊢
  exact hab.trans hbc

private theorem key_total (key : α → κ) (a b : α) :
    (!decide (key b < key a) || !decide (key a < key b)) = true := by
  simp only [Bool.or_eq_true, Bool.not_eq_true', decide_eq_false_iff_not, not_lt]
  exact le_total _ _

/-- Its keys do not decrease. -/
theorem key_le_of_sublist {l : List α} {a b : α} (h : List.Sublist [a, b] (sortedByKey key l)) :
    key a ≤ key b := by
  have hsorted := List.pairwise_mergeSort (key_trans key) (key_total key) l
  have hab := List.pairwise_iff_forall_sublist.mp hsorted h
  simpa only [Bool.not_eq_true', decide_eq_false_iff_not, not_lt] using hab

/-- Two elements that were in order stay in order. -/
theorem sublist_sortedByKey {l : List α} {a b : α} (hle : key a ≤ key b)
    (h : List.Sublist [a, b] l) : List.Sublist [a, b] (sortedByKey key l) := by
  apply List.pair_sublist_mergeSort (key_trans key) (key_total key) _ h
  simpa only [Bool.not_eq_true', decide_eq_false_iff_not, not_lt] using hle

/-- A list sorted by the coarse key is in the fine order exactly if no two elements with equal
keys were listed against it. -/
theorem sortedByKey_increasing_iff [LinearOrder τ] {time : α → τ}
    (hmono : ∀ a b, time a ≤ time b → key a ≤ key b) {l : List α}
    (hne : l.Pairwise fun a b => time a ≠ time b) :
    (sortedByKey key l).Pairwise (fun a b => time a < time b) ↔
      l.Pairwise fun a b => time b < time a → key b ≠ key a := by
  have hnodup : (sortedByKey key l).Nodup := by
    apply (sortedByKey_perm key l).nodup_iff.mpr
    exact hne.imp fun htime heq => htime (congrArg time heq)
  rw [List.pairwise_iff_forall_sublist, List.pairwise_iff_forall_sublist]
  constructor
  · intro h a b hab hlt heq
    -- The two are still listed in this order, because their keys are equal.
    have hgt := h (sublist_sortedByKey heq.ge hab)
    exact lt_asymm hlt hgt
  · intro h a b hab
    have hne' : time a ≠ time b := by
      have hsort := ((sortedByKey_perm key l).pairwise_iff fun h => h.symm).mpr hne
      exact List.pairwise_iff_forall_sublist.mp hsort hab
    by_contra hlt
    have hba : time b < time a := lt_of_le_of_ne (not_lt.mp hlt) hne'.symm
    have hkey : key b = key a := le_antisymm (hmono b a hba.le) (key_le_of_sublist hab)
    have ha : a ∈ l := (sortedByKey_perm key l).subset (hab.subset List.mem_cons_self)
    have hb : b ∈ l :=
      (sortedByKey_perm key l).subset (hab.subset (List.mem_cons_of_mem _ List.mem_cons_self))
    rcases sublist_or_sublist ha hb (fun heq => hne' (congrArg time heq)) with hl | hl
    · exact h hl hba hkey
    · exact not_nodup_of_sublist hab (sublist_sortedByKey hkey.le hl) hnodup

end Key

end DriveTribe.Base
