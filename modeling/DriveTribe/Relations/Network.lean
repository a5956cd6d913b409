import Mathlib.Data.Set.Insert
import Mathlib.Data.Sym.Sym2
import DriveTribe.Relations.Agreement

/-!
# The network behind the lists

The five lists of every user document record one network: who has asked whom, who are friends,
which pairs are blocked, and by whom. A friendship and a block belong to a pair of users, a
request and the placing of a block go from one user to another. A friend operation is one change
of the network, of the pair it is about; in the documents it is two to five writes.
-/

namespace DriveTribe

open Base

universe u

/-- Who has asked whom, who are friends, which pairs are blocked, and who has placed a block. -/
@[ext] structure Network (α : Type u) where
  requests : Set (α × α)
  friends : Set (Sym2 α)
  blocked : Set (Sym2 α)
  blockers : Set (α × α)

namespace Network
variable {α : Type u}

/-- Nobody knows anybody. -/
def empty : Network α := ⟨∅, ∅, ∅, ∅⟩

/-- What an operation of `me` on `user` is for. -/
def apply (n : Network α) (op : RelationOp) (me user : α) : Network α :=
  match op with
  | .sendFriendRequest => { n with requests := insert (me, user) n.requests }
  | .acceptFriendRequest => { n with
      requests := n.requests \ {(user, me)}
      friends := insert s(me, user) n.friends }
  | .cancelFriendRequest => { n with requests := n.requests \ {(me, user)} }
  | .blockUser => { n with
      friends := n.friends \ {s(me, user)}
      blocked := insert s(me, user) n.blocked
      blockers := insert (me, user) n.blockers }
  | .unfriendUser => { n with friends := n.friends \ {s(me, user)} }
  | .unblockedUser => { n with
      blocked := n.blocked \ {s(me, user)}
      blockers := n.blockers \ {(me, user)} }

/-- The list `k` of `d` has to contain `x`. -/
def Lists (n : Network α) (d : α) (k : RelationKey) (x : α) : Prop :=
  match k with
  | .friends => s(d, x) ∈ n.friends
  | .friendsRequestSent => (d, x) ∈ n.requests
  | .friendsRequestReceived => (x, d) ∈ n.requests
  | .blockedUsers => s(d, x) ∈ n.blocked
  | .blockedUsersByCurrentUser => (d, x) ∈ n.blockers

/-- The network after some operations, each by its first user on the other. -/
def after (ops : List (RelationOp × α × α)) : Network α :=
  ops.foldl (fun n x => n.apply x.1 x.2.1 x.2.2) empty

/-- In the empty network every list is empty. -/
theorem not_lists_empty (d : α) (k : RelationKey) (x : α) : ¬ (empty : Network α).Lists d k x := by
  cases k <;> exact Set.notMem_empty _

/-- One more operation is one more change. -/
theorem after_concat (ops : List (RelationOp × α × α)) (op : RelationOp) (me user : α) :
    after (ops ++ [(op, me, user)]) = (after ops).apply op me user := by
  rw [after, List.foldl_concat, after]

/-! ### Pairs -/

private theorem lists_apply_of_ne {n : Network α} {op : RelationOp} {me user d x : α}
    (h : s(d, x) ≠ s(me, user)) (k : RelationKey) :
    (n.apply op me user).Lists d k x ↔ n.Lists d k x := by
  have hforth : (d, x) ≠ (me, user) := fun heq => h (by
    obtain ⟨rfl, rfl⟩ := Prod.mk.inj heq
    rfl)
  have hback : (x, d) ≠ (me, user) := fun heq => h (by
    obtain ⟨rfl, rfl⟩ := Prod.mk.inj heq
    exact Sym2.eq_swap)
  have hforth' : (d, x) ≠ (user, me) := fun heq => h (by
    obtain ⟨rfl, rfl⟩ := Prod.mk.inj heq
    exact Sym2.eq_swap)
  have hback' : (x, d) ≠ (user, me) := fun heq => h (by
    obtain ⟨rfl, rfl⟩ := Prod.mk.inj heq
    rfl)
  cases op <;> cases k <;>
    simp only [apply, Lists, Set.mem_insert_iff, Set.mem_sdiff, Set.mem_singleton_iff, h, hforth,
      hback, hforth', hback', false_or, not_false_eq_true, and_true]

private theorem lists_apply_congr {n m : Network α} {op : RelationOp} {me user d x : α}
    {k : RelationKey} (h : n.Lists d k x ↔ m.Lists d k x) :
    (n.apply op me user).Lists d k x ↔ (m.apply op me user).Lists d k x := by
  cases op <;> cases k <;>
    simp only [Lists] at h <;>
    simp only [apply, Lists, Set.mem_insert_iff, Set.mem_sdiff, Set.mem_singleton_iff, h]

/-- What the lists say of a pair is decided by the operations on the pair, in their order. -/
theorem lists_after_filter [DecidableEq α] (ops : List (RelationOp × α × α)) (d : α)
    (k : RelationKey) (x : α) :
    (after ops).Lists d k x ↔
      (after (ops.filter fun o => s(o.2.1, o.2.2) = s(d, x))).Lists d k x := by
  induction ops using List.reverseRecOn with
  | nil => exact Iff.rfl
  | append_singleton ops o ih =>
    obtain ⟨op, me, user⟩ := o
    rw [after_concat, List.filter_append]
    by_cases hpair : s(me, user) = s(d, x)
    · simp only [List.filter_cons, List.filter_nil, hpair, decide_true, if_true]
      rw [after_concat]
      exact lists_apply_congr ih
    · simp only [List.filter_cons, List.filter_nil, hpair, decide_false, Bool.false_eq_true,
        if_false, List.append_nil]
      rw [lists_apply_of_ne (Ne.symm hpair)]
      exact ih

end Network

/-! ### Its representation -/

/-- The writes of an operation, once they have landed, make of every entry what the operation
makes of the network. -/
theorem RelationOp.settle_writes_iff {op : RelationOp} {me user : UserID} {n : Network UserID}
    {e : Entry} {v : Bool} (h : v = true ↔ n.Lists e.document e.field e.element) :
    settle RelationWrite.effect (op.writes me user) e v = true ↔
      (n.apply op me user).Lists e.document e.field e.element := by
  obtain ⟨d, k, x⟩ := e
  cases op <;> cases k <;>
    simp only [Network.Lists] at h <;>
    simp only [writes, RelationWrite.settle_cons, settle_nil, FieldValue.element,
      FieldValue.present, Network.apply, Network.Lists, reduceCtorEq, true_and, false_and,
      and_false, ↓reduceIte, Set.mem_insert_iff, Set.mem_sdiff, Set.mem_singleton_iff,
      Prod.mk.injEq, Sym2.eq_iff, h] <;>
    try grind

end DriveTribe
