import Mathlib.Data.Multiset.DershowitzManna
import Mathlib.Order.WellFounded
import DriveTribe.Base.Outbox

/-!
# What is outstanding

What a system has still to do is a multiset of ranks. Dealing with one of them may start any
number of others of lower rank, so that it comes to an end however it is ordered; that is the
order of Dershowitz and Manna on multisets.
-/

namespace DriveTribe.Base

universe u v
variable {ω : Type u} {α : Type v} [Preorder α] {m n p q : Multiset α}

/-- The same is outstanding, or less. -/
def NoMore (m n : Multiset α) : Prop := m = n ∨ m.IsDershowitzMannaLT n

/-- What is left of something is no more. -/
theorem noMore_of_le (h : m ≤ n) : NoMore m n := by
  obtain ⟨rest, rfl⟩ := Multiset.le_iff_exists_add.mp h
  by_cases hrest : rest = 0
  · rw [hrest, add_zero]
    exact .inl rfl
  · exact .inr ⟨m, 0, rest, hrest, (add_zero m).symm, rfl, fun y hy => absurd hy
      (Multiset.notMem_zero y)⟩

/-- The order can be followed step by step. -/
theorem NoMore.trans (h : NoMore m n) (h' : NoMore n p) : NoMore m p := by
  rcases h with rfl | h
  · exact h'
  · rcases h' with rfl | h'
    · exact .inr h
    · exact .inr (h.trans h')

private theorem lt_of_lt_of_noMore (h : m.IsDershowitzMannaLT n) (h' : NoMore n p) :
    m.IsDershowitzMannaLT p := by
  rcases h' with rfl | h'
  · exact h
  · exact h.trans h'

/-- So is what is no more than less. -/
theorem lt_of_noMore_of_lt (h : NoMore m n) (h' : n.IsDershowitzMannaLT p) :
    m.IsDershowitzMannaLT p := by
  rcases h with rfl | h
  · exact h'
  · exact h.trans h'

/-- What else is outstanding does not matter. -/
theorem isDershowitzMannaLT_add_left (h : m.IsDershowitzMannaLT n) (p : Multiset α) :
    (p + m).IsDershowitzMannaLT (p + n) := by
  obtain ⟨kept, new, old, hold, rfl, rfl, hlt⟩ := h
  exact ⟨p + kept, new, old, hold, (add_assoc p kept new).symm, (add_assoc p kept old).symm, hlt⟩

private theorem NoMore.add_left (h : NoMore m n) (p : Multiset α) : NoMore (p + m) (p + n) := by
  rcases h with rfl | h
  · exact .inl rfl
  · exact .inr (isDershowitzMannaLT_add_left h p)

/-- Two parts of which the first gets less. -/
theorem add_lt_of_lt_of_noMore (h : m.IsDershowitzMannaLT n) (h' : NoMore p q) :
    (m + p).IsDershowitzMannaLT (n + q) := by
  rw [add_comm m p, add_comm n q]
  exact lt_of_lt_of_noMore (isDershowitzMannaLT_add_left h p) (by
    rw [add_comm p n, add_comm q n]
    exact h'.add_left n)

/-- Something is dealt with, and starts what has a lower rank. -/
theorem lt_of_replaced {a : α} {rest new : Multiset α} (h : ∀ y ∈ new, y < a) :
    (rest + new).IsDershowitzMannaLT (rest + {a}) :=
  ⟨rest, new, {a}, Multiset.singleton_ne_zero a, rfl, rfl, fun y hy =>
    ⟨a, Multiset.mem_singleton_self a, h y hy⟩⟩

/-- Something is dealt with. -/
theorem lt_of_removed (rest : Multiset α) (a : α) : rest.IsDershowitzMannaLT (rest + {a}) :=
  ⟨rest, 0, {a}, Multiset.singleton_ne_zero a, (add_zero rest).symm, rfl, fun y hy =>
    absurd hy (Multiset.notMem_zero y)⟩

omit [Preorder α] in
/-- The rank of what is taken out of a list comes off. -/
theorem coe_map_takeOut {κ : Type v} [DecidableEq κ] {sender : ω → κ} {box rest : List ω} {i : Nat}
    {x : ω} (h : takeOut sender box i = some (x, rest)) (rank : ω → α) :
    (rest.map rank : Multiset α) + {rank x} = box.map rank := by
  obtain ⟨pre, post, rfl, rfl, -, -⟩ := takeOut_eq_some h
  rw [← Multiset.coe_singleton, Multiset.coe_add, Multiset.coe_eq_coe, List.map_append,
    List.map_append, List.map_cons, List.append_assoc]
  exact (List.perm_append_singleton _ _).append_left (pre.map rank)

omit [Preorder α] in
/-- So it does at a position, where it has one. -/
theorem coe_filterMap_eraseIdx {box : List ω} {i : Nat} {x : ω} (h : box[i]? = some x)
    (rank : ω → Option α) : ((box.eraseIdx i).filterMap rank : Multiset α) + (rank x).toList =
      box.filterMap rank := by
  obtain ⟨pre, post, hbox, herase⟩ := filterMap_eraseIdx h rank
  rw [hbox, herase, Multiset.coe_add, Multiset.coe_eq_coe, List.append_assoc]
  exact List.perm_append_comm.append_left pre

omit [Preorder α] in
/-- Or where everything has one. -/
theorem coe_map_eraseIdx {box : List ω} {i : Nat} {x : ω} (h : box[i]? = some x) (rank : ω → α) :
    ((box.eraseIdx i).map rank : Multiset α) + {rank x} = box.map rank := by
  rw [← List.filterMap_eq_map]
  exact coe_filterMap_eraseIdx h (some ∘ rank)

/-! ### For ever -/

/-- Where every state has the same outstanding as the one before, or less, it is less for a finite
number of times only. -/
theorem exists_forall_not_lt [WellFoundedLT α] (outstanding : ℕ → Multiset α) {k : ℕ}
    (h : ∀ n ≥ k, NoMore (outstanding (n + 1)) (outstanding n)) :
    ∃ N ≥ k, ∀ n ≥ N, ¬ (outstanding (n + 1)).IsDershowitzMannaLT (outstanding n) := by
  have hwf := Multiset.wellFounded_isDershowitzMannaLT (α := α)
  obtain ⟨least, ⟨N, hN, rfl⟩, hleast⟩ :=
    hwf.has_min {m | ∃ n ≥ k, outstanding n = m} ⟨_, k, le_rfl, rfl⟩
  have hle : ∀ n ≥ N, NoMore (outstanding n) (outstanding N) := by
    intro n hn
    induction n, hn using Nat.le_induction with
    | base => exact .inl rfl
    | succ n hn ih => exact (h n (hN.trans hn)).trans ih
  refine ⟨N, hN, fun n hn hlt => ?_⟩
  exact hleast _ ⟨n + 1, (hN.trans hn).trans (Nat.le_succ n), rfl⟩
    (lt_of_lt_of_noMore hlt (hle n hn))

end DriveTribe.Base
