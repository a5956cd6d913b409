import Mathlib.Data.Bool.Basic
import DriveTribe.Relations.Complete

/-!
# Who placed a block

A block is recorded three times: with both users in `blockedUsers`, and in
`blockedUsersByCurrentUser` of the user who placed it, who alone is offered to lift it.
`unblockedUser` lifts the shared record without asking whether the other user has placed a
block as well. Every other operation keeps the three in step.
-/

namespace DriveTribe

open Base

/-- The lists that record blocks. -/
def RelationKey.IsBlock (k : RelationKey) : Prop :=
  k = .blockedUsers ∨ k = .blockedUsersByCurrentUser

private theorem RelationOp.settle_writes_block {op : RelationOp} (hblock : op ≠ .blockUser)
    (hunblock : op ≠ .unblockedUser) (me user : UserID) {e : Entry} (he : e.field.IsBlock)
    (v : Bool) : settle RelationWrite.effect (op.writes me user) e v = v := by
  obtain ⟨d, k, x⟩ := e
  rcases he with rfl | rfl <;> cases op <;>
    first
    | exact absurd rfl hblock
    | exact absurd rfl hunblock
    | simp only [writes, RelationWrite.settle_cons, settle_nil, reduceCtorEq, false_and, and_false,
        ↓reduceIte]

/-- Block ownership within one pair: both users are blocked for each other or neither is,
and they are exactly if one of them has placed a block. -/
def Users.OwnedBetween (users : Users) (A B : UserID) : Prop :=
  (users.has ⟨A, .blockedUsers, B⟩ ↔ users.has ⟨B, .blockedUsers, A⟩) ∧
  (users.has ⟨A, .blockedUsers, B⟩ ↔
    users.has ⟨A, .blockedUsersByCurrentUser, B⟩ ∨ users.has ⟨B, .blockedUsersByCurrentUser, A⟩)

instance (users : Users) (A B : UserID) : Decidable (users.OwnedBetween A B) := by
  unfold Users.OwnedBetween
  infer_instance

section Land
variable {users users' : Users} {me user A B : UserID}

private theorem Users.ownedBetween_congr
    (h : ∀ e : Entry, e.field.IsBlock → (users'.has e ↔ users.has e)) :
    users'.OwnedBetween A B ↔ users.OwnedBetween A B := by
  simp only [OwnedBetween, h ⟨_, .blockedUsers, _⟩ (.inl rfl),
    h ⟨_, .blockedUsersByCurrentUser, _⟩ (.inr rfl)]

/-- A block keeps every pair owned, its own one included. -/
theorem Users.OwnedBetween.block (h : users.OwnedBetween A B) (hAB : A ≠ B)
    (hland : landAll (RelationOp.blockUser.writes me user) users = some users') :
    users'.OwnedBetween A B := by
  simp only [OwnedBetween, has_landAll hland, RelationOp.writes, RelationWrite.settle_cons,
    settle_nil, FieldValue.element, FieldValue.present, reduceCtorEq, true_and, false_and,
    and_false, ↓reduceIte]
  unfold OwnedBetween at h
  grind

private theorem Users.ownedBetween_unblock (hne : user ≠ me)
    (hland : landAll (RelationOp.unblockedUser.writes me user) users = some users') :
    users'.OwnedBetween me user ↔ ¬ users.has ⟨user, .blockedUsersByCurrentUser, me⟩ := by
  simp only [OwnedBetween, has_landAll hland, RelationOp.writes, RelationWrite.settle_cons,
    settle_nil, FieldValue.element, FieldValue.present, reduceCtorEq, true_and, false_and,
    and_false, ↓reduceIte]
  grind

private theorem Users.ownedBetween_unblock_of_ne (hA : ¬ (A = me ∧ B = user))
    (hB : ¬ (A = user ∧ B = me))
    (hland : landAll (RelationOp.unblockedUser.writes me user) users = some users') :
    users'.OwnedBetween A B ↔ users.OwnedBetween A B := by
  have hAB (k) : users'.has ⟨A, k, B⟩ ↔ users.has ⟨A, k, B⟩ := has_landAll_of_ne hA hB hland
  have hBA (k) : users'.has ⟨B, k, A⟩ ↔ users.has ⟨B, k, A⟩ :=
    has_landAll_of_ne (fun h => hB h.symm) (fun h => hA h.symm) hland
  simp only [OwnedBetween, hAB, hBA]

private theorem Users.ownedBetween_comm : users.OwnedBetween A B ↔ users.OwnedBetween B A := by
  unfold OwnedBetween
  grind

end Land

namespace Session

/-- Block ownership of every pair. -/
def BlocksOwned (x : Session) : Prop := ∀ A B, A ≠ B → x.users.OwnedBetween A B

/-- A user lifts a block only where the other user has placed none. -/
def LiftsOwnBlock (x : Session) : Action → Prop
  | .perform c op user => op = .unblockedUser →
    ∀ me ∈ (x.clients c).currentUser, ¬ x.users.has ⟨user, .blockedUsersByCurrentUser, me.uuid⟩
  | .read _ => True

instance (x : Session) : ∀ a, Decidable (x.LiftsOwnBlock a)
  | .perform _ _ _ => by unfold LiftsOwnBlock; infer_instance
  | .read _ => .isTrue True.intro

private theorem Initial.blocksOwned {x : Session} (h : x.Initial) : x.BlocksOwned := by
  intro A B _
  simp only [Users.OwnedBetween, h.users.not_has, or_self, and_self]

/-- Lifting a block leaves every pair owned exactly if the other user has placed none. -/
theorem BlocksOwned.unblock_iff {x : Session} (hp : x.BlocksOwned) {me user : UserID}
    {users : Users} (hne : user ≠ me)
    (hland : landAll (RelationOp.unblockedUser.writes me user) x.users = some users) :
    ({ x with users } : Session).BlocksOwned ↔
      ¬ x.users.has ⟨user, .blockedUsersByCurrentUser, me⟩ := by
  rw [← Users.ownedBetween_unblock hne hland]
  constructor
  · exact fun h => h me user hne.symm
  · intro h A B hAB
    by_cases hA : A = me ∧ B = user
    · rw [hA.1, hA.2]
      exact h
    · by_cases hB : A = user ∧ B = me
      · rw [hB.1, hB.2]
        exact Users.ownedBetween_comm.mp h
      · exact (Users.ownedBetween_unblock_of_ne hA hB hland).mpr (hp A B hAB)

/-- An action leaves every pair owned exactly if it is no unblocking of a user who has
placed a block as well. -/
theorem blocksOwned_step_iff {x y : Session} {a : Action} (hwf : x.Wf) (hp : x.BlocksOwned)
    (h : x.step a = some y) : y.BlocksOwned ↔ x.LiftsOwnBlock a := by
  cases a with
  | read r =>
    have husers : y.users = x.users := users_read h
    simp only [BlocksOwned, husers, LiftsOwnBlock, iff_true]
    exact hp
  | perform c op user =>
    obtain ⟨hoffered, ⟨rfl, hno⟩ | ⟨me, users, ⟨hme, hws⟩, hland, rfl⟩⟩ := perform_eq_some h
    · refine iff_of_true hp ?_
      rintro rfl me hme
      exact absurd ⟨hme, RelationOp.writes_ne_nil .unblockedUser me.uuid user⟩ (hno me)
    · cases op with
      | unblockedUser =>
        rw [hp.unblock_iff (hwf.ne_of_offered hme hoffered) hland]
        simp only [LiftsOwnBlock, hme, Option.mem_some_iff, forall_eq', true_imp_iff]
      | blockUser => exact iff_of_true (fun A B hAB => (hp A B hAB).block hAB hland) nofun
      | sendFriendRequest | acceptFriendRequest | cancelFriendRequest | unfriendUser =>
        refine iff_of_true (fun A B hAB => ?_) nofun
        refine (Users.ownedBetween_congr fun e he => ?_).mpr (hp A B hAB)
        rw [has_landAll hland, RelationOp.settle_writes_block (by decide) (by decide) _ _ he,
          decide_eq_true_eq]

/-- In a run of complete operations block ownership holds in every state exactly if no user
lifts a block while the other user has placed one as well. -/
theorem blocksOwned_iff {x : Session} (h : x.Initial) (as : List Action) :
    AllStates step BlocksOwned x as ↔ AllSteps step LiftsOwnBlock x as :=
  allStates_iff_allSteps (I := Wf) (fun _ _ _ hwf hs => hwf.step hs)
    (fun _ _ _ hwf hp hs => blocksOwned_step_iff hwf hp hs) h.wf h.blocksOwned as

/-- Two users log in, `a` sends a request, `b` accepts it, and both fetch their friends. -/
def fetchFriends : List Action :=
  [.read (.fetchCurrentUser 0 "a"), .read (.fetchCurrentUser 1 "b"),
    .read (.fetchSpecificUsersBySearchTerm 0 "b"), .perform 0 .sendFriendRequest "b",
    .read (.fetchList 1 .friendsRequestReceived), .perform 1 .acceptFriendRequest "a",
    .read (.fetchList 0 .friends), .read (.fetchList 1 .friends)]

/-- The condition holds where `a` alone blocks and unblocks. -/
theorem blocksOwned_one_block :
    AllStates step BlocksOwned (signedUp ["a", "b"])
      (fetchFriends ++ [.perform 0 .blockUser "b",
        .read (.fetchList 0 .blockedUsersByCurrentUser), .perform 0 .unblockedUser "b"]) :=
  (blocksOwned_iff (signedUp_initial _) _).mpr (by decide)

/-- `a` and `b` block each other from the lists they fetched as friends; then `a` unblocks
`b`. -/
def blockEachOther : List Action :=
  fetchFriends ++ [.perform 0 .blockUser "b", .perform 1 .blockUser "a",
    .read (.fetchList 0 .blockedUsersByCurrentUser), .perform 0 .unblockedUser "b"]

/-- The unblocking by `a` lifts the block that `b` has placed. -/
theorem not_blocksOwned :
    ¬ ∀ (x y : Session) (as : List Action), x.Initial → run step x as = some y →
      y.BlocksOwned := by
  intro hall
  obtain ⟨y, hrun, hy⟩ := exists_run_of_any step (signedUp ["a", "b"]) blockEachOther
    (fun y => !decide (y.users.OwnedBetween "a" "b")) (by decide)
  rw [Bool.not_eq_true', decide_eq_false_iff_not] at hy
  exact hy (hall _ y _ (signedUp_initial _) hrun "a" "b" (by decide))

end Session

end DriveTribe
