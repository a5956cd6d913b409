import DriveTribe.Relations.Complete

/-!
# One relation at a time

A friend is not also pending or blocked, and a blocked user is not pending. Removing a
friend, cancelling a request and lifting a block cannot break this; the operations that
record a new relation can, since none of them clears every other record: an acceptance
leaves a request in the other direction, a block leaves requests in both.
-/

namespace DriveTribe

open Base

/-- A request between the two users stands with `A`. -/
def Users.Pending (users : Users) (A B : UserID) : Prop :=
  users.has ⟨A, .friendsRequestSent, B⟩ ∨ users.has ⟨A, .friendsRequestReceived, B⟩

instance (users : Users) (A B : UserID) : Decidable (users.Pending A B) := by
  unfold Users.Pending
  infer_instance

/-- `B` stands in at most one of the three relations to `A`. -/
def Users.ExclusiveBetween (users : Users) (A B : UserID) : Prop :=
  ¬ (users.has ⟨A, .friends, B⟩ ∧ users.has ⟨A, .blockedUsers, B⟩) ∧
  ¬ (users.has ⟨A, .friends, B⟩ ∧ users.Pending A B) ∧
  ¬ (users.has ⟨A, .blockedUsers, B⟩ ∧ users.Pending A B)

instance (users : Users) (A B : UserID) : Decidable (users.ExclusiveBetween A B) := by
  unfold Users.ExclusiveBetween
  infer_instance

/-- What must not stand with `me` about `user` for an operation to leave one relation. -/
def RelationOp.Excludes (op : RelationOp) (users : Users) (me user : UserID) : Prop :=
  match op with
  | .sendFriendRequest =>
    ¬ users.has ⟨me, .friends, user⟩ ∧ ¬ users.has ⟨me, .blockedUsers, user⟩
  | .acceptFriendRequest =>
    ¬ users.has ⟨me, .friendsRequestSent, user⟩ ∧ ¬ users.has ⟨me, .blockedUsers, user⟩
  | .blockUser => ¬ users.Pending me user
  | .cancelFriendRequest | .unfriendUser | .unblockedUser => True

instance (users : Users) (me user : UserID) :
    ∀ op : RelationOp, Decidable (op.Excludes users me user)
  | .sendFriendRequest | .acceptFriendRequest | .blockUser => by
    unfold RelationOp.Excludes; infer_instance
  | .cancelFriendRequest | .unfriendUser | .unblockedUser => .isTrue True.intro

section Land
variable {users users' : Users} {op : RelationOp} {me user A B : UserID}

private theorem Users.exclusiveBetween_land (hne : user ≠ me) (hp : users.ExclusiveBetween me user)
    (hland : landAll (op.writes me user) users = some users') :
    users'.ExclusiveBetween me user ↔ op.Excludes users me user := by
  unfold ExclusiveBetween Pending at *
  cases op <;>
    simp only [RelationOp.Excludes, Pending, has_landAll hland, RelationOp.writes,
      RelationWrite.settle_cons, settle_nil, FieldValue.element, FieldValue.present, reduceCtorEq,
      true_and, false_and, and_false, ↓reduceIte] <;>
    grind

private theorem Users.exclusiveBetween_land_of_ne (hA : ¬ (A = me ∧ B = user))
    (hB : ¬ (A = user ∧ B = me)) (hland : landAll (op.writes me user) users = some users') :
    users'.ExclusiveBetween A B ↔ users.ExclusiveBetween A B := by
  have hAB (k) : users'.has ⟨A, k, B⟩ ↔ users.has ⟨A, k, B⟩ := has_landAll_of_ne hA hB hland
  simp only [ExclusiveBetween, Pending, hAB]

end Land

namespace Session

/-- Every pair of users has at most one relation. -/
def Exclusive (x : Session) : Prop := ∀ A B, x.users.ExclusiveBetween A B

/-- An operation that goes through leaves one relation. -/
def LeavesOneRelation (x : Session) : Action → Prop
  | .perform c op user =>
    ∀ me ∈ (x.clients c).currentUser, (op.call (some me) user).writes ≠ [] →
      op.Excludes x.users me.uuid user
  | .read _ => True

instance (x : Session) : ∀ a, Decidable (x.LeavesOneRelation a)
  | .perform _ _ _ => by unfold LeavesOneRelation; infer_instance
  | .read _ => .isTrue True.intro

private theorem Initial.exclusive {x : Session} (h : x.Initial) : x.Exclusive := by
  intro A B
  simp only [Users.ExclusiveBetween, Users.Pending, h.users.not_has, or_self, and_self,
    not_false_eq_true]

private theorem Wf.exclusiveBetween_comm {x : Session} (h : x.Wf) (A B : UserID) :
    x.users.ExclusiveBetween B A ↔ x.users.ExclusiveBetween A B := by
  have hfriends := h.mirror ⟨A, .friends, B⟩ nofun
  have hblocked := h.mirror ⟨A, .blockedUsers, B⟩ nofun
  have hsent := h.mirror ⟨A, .friendsRequestSent, B⟩ nofun
  have hreceived := h.mirror ⟨A, .friendsRequestReceived, B⟩ nofun
  simp only [Entry.mirror, RelationKey.mirror] at hfriends hblocked hsent hreceived
  simp only [Users.ExclusiveBetween, Users.Pending, hfriends, hblocked, hsent, hreceived, or_comm]

/-- An action leaves every pair with at most one relation exactly if it excludes the
others. -/
theorem exclusive_step_iff {x y : Session} {a : Action} (hwf : x.Wf) (hp : x.Exclusive)
    (h : x.step a = some y) : y.Exclusive ↔ x.LeavesOneRelation a := by
  have hwf' := hwf.step h
  cases a with
  | read r =>
    have husers : y.users = x.users := users_read h
    simp only [Exclusive, husers, LeavesOneRelation, iff_true]
    exact hp
  | perform c op user =>
    obtain ⟨hoffered, ⟨rfl, hno⟩ | ⟨me, users, ⟨hme, hws⟩, hland, rfl⟩⟩ := perform_eq_some h
    · exact iff_of_true hp fun me hme hws => absurd ⟨hme, hws⟩ (hno me)
    · have hne := hwf.ne_of_offered hme hoffered
      have hiff := Users.exclusiveBetween_land hne (hp me.uuid user) hland
      simp only [LeavesOneRelation, hme, Option.mem_some_iff, forall_eq', ne_eq, hws,
        not_false_eq_true, true_imp_iff]
      rw [← hiff]
      constructor
      · exact fun hall => hall me.uuid user
      · intro hpair A B
        by_cases hA : A = me.uuid ∧ B = user
        · rw [hA.1, hA.2]
          exact hpair
        · by_cases hB : A = user ∧ B = me.uuid
          · rw [hB.1, hB.2]
            exact (hwf'.exclusiveBetween_comm me.uuid user).mpr hpair
          · exact (Users.exclusiveBetween_land_of_ne hA hB hland).mpr (hp A B)

/-- In a run of complete operations relations are exclusive in every state exactly if every
operation that goes through excludes the others. -/
theorem exclusive_iff {x : Session} (h : x.Initial) (as : List Action) :
    AllStates step Exclusive x as ↔ AllSteps step LeavesOneRelation x as :=
  allStates_iff_allSteps (I := Wf) (fun _ _ _ hwf hs => hwf.step hs)
    (fun _ _ _ hwf hp hs => exclusive_step_iff hwf hp hs) h.wf h.exclusive as

/-- The condition holds where `a` sends a request, `b` accepts it, and `a` blocks `b`. -/
theorem exclusive_friend_blocked :
    AllStates step Exclusive (signedUp ["a", "b"])
      [.read (.fetchCurrentUser 0 "a"), .read (.fetchCurrentUser 1 "b"),
        .read (.fetchSpecificUsersBySearchTerm 0 "b"), .perform 0 .sendFriendRequest "b",
        .read (.fetchList 1 .friendsRequestReceived), .perform 1 .acceptFriendRequest "a",
        .read (.fetchList 0 .friends), .perform 0 .blockUser "b"] :=
  (exclusive_iff (signedUp_initial _) _).mpr (by decide)

/-- Before each operation the client loads its user and the list again. The two users send
each other a request; then `a` accepts the one of `b`. -/
def acceptOneOfTwo : List Action :=
  [.read (.fetchCurrentUser 0 "a"), .read (.fetchSpecificUsersBySearchTerm 0 "b"),
    .perform 0 .sendFriendRequest "b",
    .read (.fetchCurrentUser 1 "b"), .read (.fetchSpecificUsersBySearchTerm 1 "a"),
    .perform 1 .sendFriendRequest "a",
    .read (.fetchCurrentUser 0 "a"), .read (.fetchList 0 .friendsRequestReceived),
    .perform 0 .acceptFriendRequest "b"]

/-- Accepting one of two crossing requests leaves the friends pending. -/
theorem not_exclusive :
    ¬ ∀ (x y : Session) (as : List Action), x.Initial → run step x as = some y →
      y.Exclusive := by
  intro hall
  obtain ⟨y, hrun, hy⟩ := exists_run_of_any step (signedUp ["a", "b"]) acceptOneOfTwo
    (fun y => !decide (y.users.ExclusiveBetween "a" "b")) (by decide)
  rw [Bool.not_eq_true', decide_eq_false_iff_not] at hy
  exact hy (hall _ y _ (signedUp_initial _) hrun "a" "b")

end Session

end DriveTribe
