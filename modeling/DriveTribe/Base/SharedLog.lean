import Mathlib.Data.Multiset.Filter

/-!
# A log with delayed readers

Writers append to one log. An entry is first pending, at its writer, and then stored or rejected. A
reader has been reached by the first `k` stored entries; what it wrote itself it sees at once. So a
reader may see its own late entry before an early one of somebody else, and it sees no entry go but
those it wrote itself and that are rejected.
-/

namespace DriveTribe.Base

universe u v
variable {κ : Type u} {α : Type v}

/-- Entries with their writers: stored, in the order they landed, pending, and rejected. -/
structure SharedLog (κ : Type u) (α : Type v) where
  stored : List (κ × α)
  pending : List (κ × α)
  rejected : List (κ × α)

namespace SharedLog

/-- These entries are written, or one of those pending lands or is rejected. -/
inductive Step (x : SharedLog κ α) : List (κ × α) → SharedLog κ α → Prop where
  | write (entries : List (κ × α)) : Step x entries { x with pending := x.pending ++ entries }
  | land (pre post : List (κ × α)) (entry : κ × α) (h : x.pending = pre ++ entry :: post) :
      Step x [] { x with stored := x.stored ++ [entry], pending := pre ++ post }
  | reject (pre post : List (κ × α)) (entry : κ × α) (h : x.pending = pre ++ entry :: post) :
      Step x [] { x with rejected := x.rejected ++ [entry], pending := pre ++ post }

section Step
variable {x y : SharedLog κ α} {entries : List (κ × α)}

/-- Nothing is written. -/
theorem Step.refl (x : SharedLog κ α) : x.Step [] x := by
  have h := Step.write (x := x) []
  rwa [List.append_nil] at h

/-- What is stored stays where it is. -/
theorem Step.stored_prefix (h : x.Step entries y) : x.stored <+: y.stored := by
  cases h with
  | write entries => exact List.prefix_rfl
  | land pre post entry _ => exact List.prefix_append ..
  | reject pre post entry _ => exact List.prefix_rfl

/-- What is rejected stays so. -/
theorem Step.rejected_prefix (h : x.Step entries y) : x.rejected <+: y.rejected := by
  cases h with
  | write entries => exact List.prefix_rfl
  | land pre post entry _ => exact List.prefix_rfl
  | reject pre post entry _ => exact List.prefix_append ..

/-- Every entry is in the log once, and none but those written comes in. -/
theorem Step.perm (h : x.Step entries y) :
    (y.stored ++ y.pending ++ y.rejected).Perm
      (x.stored ++ x.pending ++ x.rejected ++ entries) := by
  cases h with
  | write entries =>
    rw [List.append_assoc, List.append_assoc, List.append_assoc, List.append_assoc]
    exact (List.perm_append_comm.append_left _).append_left _
  | land pre post entry hpending =>
    rw [hpending, List.append_nil]
    apply List.Perm.append_right
    rw [List.append_assoc]
    apply List.Perm.append_left
    change (entry :: (pre ++ post)).Perm (pre ++ entry :: post)
    exact List.perm_middle.symm
  | reject pre post entry hpending =>
    have hmoved : (pre ++ entry :: post).Perm (pre ++ post ++ [entry]) :=
      List.perm_middle.trans (List.perm_append_singleton ..).symm
    have hlast : (x.stored ++ (pre ++ post) ++ (x.rejected ++ [entry])).Perm
        (x.stored ++ (pre ++ post ++ [entry]) ++ x.rejected) := by
      simp only [List.append_assoc]
      exact ((List.perm_append_comm.append_left post).append_left pre).append_left x.stored
    rw [hpending, List.append_nil]
    exact hlast.trans ((hmoved.symm.append_left _).append_right _)

variable [DecidableEq κ]

/-- What the reader `c` sees once the first `k` stored entries have reached it. -/
def seenBy (x : SharedLog κ α) (c : κ) (k : Nat) : List (κ × α) :=
  x.stored.take k ++ (x.stored.drop k ++ x.pending).filter fun entry => entry.1 = c

/-- A reader that is reached by more sees more. -/
theorem seenBy_subperm_of_le (x : SharedLog κ α) (c : κ) {k k' : Nat} (h : k ≤ k') :
    (x.seenBy c k).Subperm (x.seenBy c k') := by
  obtain ⟨n, rfl⟩ := Nat.exists_eq_add_of_le h
  have hsplit : x.stored.drop k = (x.stored.drop k).take n ++ x.stored.drop (k + n) := by
    rw [← List.drop_drop, List.take_append_drop]
  rw [seenBy, seenBy, hsplit, List.take_add, List.append_assoc, List.append_assoc,
    List.filter_append]
  exact (((List.filter_sublist).append_right _).append_left _).subperm

/-- A step takes nothing away from what a reader sees, as long as none of its own is rejected. -/
theorem Step.seenBy_subperm (h : x.Step entries y) {c : κ} (hc : ∀ entry ∈ y.rejected, entry.1 ≠ c)
    {k : Nat} (hk : k ≤ x.stored.length) : (x.seenBy c k).Subperm (y.seenBy c k) := by
  cases h with
  | write entries =>
    rw [seenBy, seenBy, ← List.append_assoc]
    exact (((List.sublist_append_left ..).filter _).append_left _).subperm
  | land pre post entry hpending =>
    have hmoved : (x.stored.drop k ++ x.pending).Perm
        (x.stored.drop k ++ [entry] ++ (pre ++ post)) := by
      rw [hpending, List.append_assoc]
      exact List.perm_middle.append_left _
    rw [seenBy, seenBy, List.take_append_of_le_length hk, List.drop_append_of_le_length hk]
    exact ((hmoved.filter _).append_left _).subperm
  | reject pre post entry hpending =>
    have hother : entry.1 ≠ c := hc entry (List.mem_append_right _ List.mem_cons_self)
    have hkept : (pre ++ entry :: post).filter (fun entry => entry.1 = c) =
        (pre ++ post).filter fun entry => entry.1 = c := by
      rw [List.filter_append, List.filter_cons_of_neg (by simpa using hother), List.filter_append]
    rw [seenBy, seenBy, hpending, List.filter_append, hkept, ← List.filter_append]

/-- A reader whom everything has reached sees what is stored and what it has pending. -/
theorem seenBy_length (x : SharedLog κ α) (c : κ) :
    x.seenBy c x.stored.length = x.stored ++ x.pending.filter fun entry => entry.1 = c := by
  rw [seenBy, List.take_length, List.drop_length, List.nil_append]

end Step

end SharedLog

end DriveTribe.Base
