import DriveTribe.Relations.System

/-!
# The two sides of a relation agree

A friendship, a request and a block are each recorded in two documents. Every friend
operation changes both sides the same way, by separate writes. The settled store therefore
always agrees with itself; the actual store does once nothing is in flight, provided no
write overtook an opposite write to the same entry.
-/

namespace DriveTribe

open Base

/-- The list of the other user in which the same relation is recorded. -/
def RelationKey.mirror : RelationKey → RelationKey
  | .friends => .friends
  | .friendsRequestSent => .friendsRequestReceived
  | .friendsRequestReceived => .friendsRequestSent
  | .blockedUsers => .blockedUsers
  | .blockedUsersByCurrentUser => .blockedUsersByCurrentUser

/-- The same relation as it stands in the other user's document. -/
def Entry.mirror (e : Entry) : Entry := ⟨e.element, e.field.mirror, e.document⟩

/-- A relation write settles the one entry it names. -/
theorem RelationWrite.settle_cons (d d' : UserID) (k k' : RelationKey) (f : FieldValue UserID)
    (x : UserID) (ws : List RelationWrite) (v : Bool) :
    settle effect (⟨d, k, f⟩ :: ws) ⟨d', k', x⟩ v =
      settle effect ws ⟨d', k', x⟩
        (if d' = d ∧ k' = k ∧ x = f.element then f.present else v) := by
  simp only [Base.settle_cons, effect, entry, Entry.mk.injEq]
  by_cases h : d' = d ∧ k' = k ∧ x = f.element
  · rw [if_pos h, if_pos h, Option.getD_some]
  · rw [if_neg h, if_neg h, Option.getD_none]

/-- Every operation assigns both sides of a relation alike. Only who placed a block is
recorded on one side. -/
theorem RelationOp.settle_writes_mirror (op : RelationOp) (me user : UserID) {e : Entry}
    (he : e.field ≠ .blockedUsersByCurrentUser) (v : Bool) :
    settle RelationWrite.effect (op.writes me user) e.mirror v =
      settle RelationWrite.effect (op.writes me user) e v := by
  obtain ⟨d, k, x⟩ := e
  cases op <;> cases k <;>
    first
    | exact absurd rfl he
    | simp only [writes, Entry.mirror, RelationKey.mirror, RelationWrite.settle_cons, settle_nil,
        FieldValue.element, FieldValue.present, reduceCtorEq, true_and, false_and, and_false,
        ↓reduceIte]
      try grind

/-- An operation assigns nothing outside the pair it is about. -/
theorem RelationOp.settle_writes_of_ne (op : RelationOp) {me user : UserID} {e : Entry}
    (hme : ¬ (e.document = me ∧ e.element = user)) (huser : ¬ (e.document = user ∧ e.element = me))
    (v : Bool) : settle RelationWrite.effect (op.writes me user) e v = v := by
  obtain ⟨d, k, x⟩ := e
  cases op <;>
    simp only [writes, RelationWrite.settle_cons, settle_nil, FieldValue.element] <;>
    grind

namespace System

/-- What a step must not do to keep the two sides of `e` in step: fail a write, or land a
write on either side ahead of an opposite one. -/
def KeepsOrder (e : Entry) (s : System) (ev : Event) : Prop :=
  ev.Succeeds ∧ InIssueOrder e s ev ∧ InIssueOrder e.mirror s ev

/-- Without failures and overtaking the settled store stays in agreement. -/
theorem settled_mirror_step {s t : System} {ev : Event} {e : Entry}
    (he : e.field ≠ .blockedUsersByCurrentUser) (hs : s.settled e.mirror = s.settled e)
    (hev : KeepsOrder e s ev) (h : step s ev = some t) : t.settled e.mirror = t.settled e := by
  cases ev with
  | read r =>
    obtain ⟨x, -, hx, rfl⟩ := step_read h
    rw [settled_read hx, settled_read hx, hs]
  | call c op user =>
    obtain ⟨-, rfl | ⟨me, -, -, rfl⟩⟩ := step_call h
    · exact hs
    · rw [settled_issue, settled_issue, hs, RelationOp.settle_writes_mirror op me.uuid user he]
  | land i =>
    rw [settled_land h hev.2.1, settled_land h hev.2.2, hs]
  | fail i => exact hev.1.elim

/-- Nothing is related in an initial store. -/
theorem Initial.settled_eq_false {s : System} (h : s.Initial) (e : Entry) :
    s.settled e = false := by
  rw [← Bool.not_eq_true, settled_of_quiescent h.outbox]
  exact h.users.not_has e

private theorem settled_mirror {s₀ s : System} {es : List Event} {e : Entry}
    (he : e.field ≠ .blockedUsersByCurrentUser) (h₀ : s₀.Initial)
    (hev : AllSteps step (KeepsOrder e) s₀ es) (hrun : run step s₀ es = some s) :
    s.settled e.mirror = s.settled e :=
  run_invariant_of_steps (I := fun s => s.settled e.mirror = s.settled e)
    (fun _ _ _ hs hc ht => settled_mirror_step he hs hc ht)
    (by rw [h₀.settled_eq_false, h₀.settled_eq_false]) hev hrun

private theorem has_mirror {s₀ s : System} {es : List Event} {e : Entry}
    (he : e.field ≠ .blockedUsersByCurrentUser) (h₀ : s₀.Initial)
    (hrun : run step s₀ es = some s) (hok : ∀ ev ∈ es, ev.Succeeds)
    (hleft : AllSteps step (InIssueOrder e) s₀ es)
    (hright : AllSteps step (InIssueOrder e.mirror) s₀ es) (hquiet : s.outbox = []) :
    s.users.has e.mirror ↔ s.users.has e := by
  have hev : AllSteps step (KeepsOrder e) s₀ es :=
    allSteps_and (allSteps_of_forall hok s₀) (allSteps_and hleft hright)
  rw [← settled_of_quiescent hquiet, ← settled_of_quiescent hquiet,
    settled_mirror he h₀ hev hrun]

/-! ### Friendships -/

/-- Two users are in each other's friends list or in neither, whenever nothing is in flight
and no write to the two entries overtook an opposite one. -/
theorem friends_agree {s₀ s : System} {es : List Event} (A B : UserID) (h₀ : s₀.Initial)
    (hrun : run step s₀ es = some s) (hok : ∀ ev ∈ es, ev.Succeeds)
    (hA : AllSteps step (InIssueOrder ⟨A, .friends, B⟩) s₀ es)
    (hB : AllSteps step (InIssueOrder ⟨B, .friends, A⟩) s₀ es) (hquiet : s.outbox = []) :
    s.users.has ⟨A, .friends, B⟩ ↔ s.users.has ⟨B, .friends, A⟩ :=
  (has_mirror (e := ⟨A, .friends, B⟩) nofun h₀ hrun hok hA hB hquiet).symm

/-- Both users log in and send each other a request; `a` accepts the one of `b`. -/
def becomeFriends : List Event :=
  [.read (.fetchCurrentUser 0 "a"), .read (.fetchCurrentUser 1 "b"),
    .read (.fetchSpecificUsersBySearchTerm 0 "b"), .call 0 .sendFriendRequest "b", .land 0, .land 0,
    .read (.fetchSpecificUsersBySearchTerm 1 "a"), .call 1 .sendFriendRequest "a", .land 0, .land 0,
    .read (.fetchList 0 .friendsRequestReceived), .call 0 .acceptFriendRequest "b",
    .land 0, .land 0, .land 0, .land 0]

/-- The hypotheses hold where `b` accepts while the unfriending by `a` is in flight and the
writes to each list land in the order of issue. -/
theorem friends_agree_while_unfriending :
    ∃ s, run step (signedUp ["a", "b"])
        (becomeFriends ++ [.read (.fetchList 0 .friends),
          .read (.fetchList 1 .friendsRequestReceived), .call 0 .unfriendUser "b", .land 0,
          .call 1 .acceptFriendRequest "a", .land 0, .land 0, .land 0, .land 0, .land 0]) = some s ∧
      (s.users.has ⟨"a", .friends, "b"⟩ ↔ s.users.has ⟨"b", .friends, "a"⟩) := by
  obtain ⟨s, hrun, hs⟩ := exists_run_of_any step (signedUp ["a", "b"])
    (becomeFriends ++ [.read (.fetchList 0 .friends),
      .read (.fetchList 1 .friendsRequestReceived), .call 0 .unfriendUser "b", .land 0,
      .call 1 .acceptFriendRequest "a", .land 0, .land 0, .land 0, .land 0, .land 0])
    (fun s => s.outbox.isEmpty) (by decide)
  exact ⟨s, hrun, friends_agree "a" "b" (signedUp_initial _) hrun (by decide) (by decide)
    (by decide) (List.isEmpty_iff.mp hs)⟩

/-- `a` unfriends `b` while `b` accepts the other request: the acceptance lands between the
two writes of the unfriending. -/
def crossedAcceptance : List Event :=
  becomeFriends ++
    [.read (.fetchList 0 .friends), .read (.fetchList 1 .friendsRequestReceived),
      .call 0 .unfriendUser "b", .land 0, .call 1 .acceptFriendRequest "a",
      .land 1, .land 1, .land 1, .land 1, .land 0]

/-- An acceptance that crosses an unfriending leaves a friendship on one side only. -/
theorem friends_disagree_after_crossing :
    ¬ ∀ (s₀ s : System) (es : List Event) (A B : UserID), s₀.Initial →
      run step s₀ es = some s → (∀ ev ∈ es, ev.Succeeds) → s.outbox = [] →
      (s.users.has ⟨A, .friends, B⟩ ↔ s.users.has ⟨B, .friends, A⟩) := by
  intro hagree
  obtain ⟨s, hrun, hs⟩ := exists_run_of_any step (signedUp ["a", "b"]) crossedAcceptance
    (fun s => s.outbox.isEmpty && decide (s.users.has ⟨"a", .friends, "b"⟩) &&
      !decide (s.users.has ⟨"b", .friends, "a"⟩))
    (by decide)
  simp only [Bool.and_eq_true, List.isEmpty_iff, decide_eq_true_eq, Bool.not_eq_true',
    decide_eq_false_iff_not] at hs
  have h := hagree _ s crossedAcceptance "a" "b" (signedUp_initial _) hrun (by decide) hs.1.1
  exact hs.2 (h.mp hs.1.2)

/-! ### Pending requests -/

/-- A request stands with its sender and with its receiver or with neither, whenever nothing
is in flight and no write to the two entries overtook an opposite one. -/
theorem requests_agree {s₀ s : System} {es : List Event} (A B : UserID) (h₀ : s₀.Initial)
    (hrun : run step s₀ es = some s) (hok : ∀ ev ∈ es, ev.Succeeds)
    (hA : AllSteps step (InIssueOrder ⟨A, .friendsRequestSent, B⟩) s₀ es)
    (hB : AllSteps step (InIssueOrder ⟨B, .friendsRequestReceived, A⟩) s₀ es)
    (hquiet : s.outbox = []) :
    s.users.has ⟨A, .friendsRequestSent, B⟩ ↔ s.users.has ⟨B, .friendsRequestReceived, A⟩ :=
  (has_mirror (e := ⟨A, .friendsRequestSent, B⟩) nofun h₀ hrun hok hA hB hquiet).symm

/-- `a` sends `b` a request; it reaches `b`, whose client fetches it and accepts before the
request is recorded with `a`. -/
def acceptBeforeSent : List Event :=
  [.read (.fetchCurrentUser 0 "a"), .read (.fetchCurrentUser 1 "b"),
    .read (.fetchSpecificUsersBySearchTerm 0 "b"), .call 0 .sendFriendRequest "b", .land 0,
    .read (.fetchList 1 .friendsRequestReceived), .call 1 .acceptFriendRequest "a"]

/-- The hypotheses hold where the request is recorded with `a` ahead of its removal. -/
theorem requests_agree_accepted :
    ∃ s, run step (signedUp ["a", "b"])
        (acceptBeforeSent ++ [.land 1, .land 1, .land 0, .land 0, .land 0]) = some s ∧
      (s.users.has ⟨"a", .friendsRequestSent, "b"⟩ ↔
        s.users.has ⟨"b", .friendsRequestReceived, "a"⟩) := by
  obtain ⟨s, hrun, hs⟩ := exists_run_of_any step (signedUp ["a", "b"])
    (acceptBeforeSent ++ [.land 1, .land 1, .land 0, .land 0, .land 0])
    (fun s => s.outbox.isEmpty) (by decide)
  exact ⟨s, hrun, requests_agree "a" "b" (signedUp_initial _) hrun (by decide) (by decide)
    (by decide) (List.isEmpty_iff.mp hs)⟩

/-- An acceptance that lands between the two writes of the request leaves it with its sender
alone. -/
theorem requests_disagree_after_acceptance :
    ¬ ∀ (s₀ s : System) (es : List Event) (A B : UserID), s₀.Initial →
      run step s₀ es = some s → (∀ ev ∈ es, ev.Succeeds) → s.outbox = [] →
      (s.users.has ⟨A, .friendsRequestSent, B⟩ ↔
        s.users.has ⟨B, .friendsRequestReceived, A⟩) := by
  intro hagree
  obtain ⟨s, hrun, hs⟩ := exists_run_of_any step (signedUp ["a", "b"])
    (acceptBeforeSent ++ [.land 1, .land 1, .land 1, .land 1, .land 0])
    (fun s => s.outbox.isEmpty && decide (s.users.has ⟨"a", .friendsRequestSent, "b"⟩) &&
      !decide (s.users.has ⟨"b", .friendsRequestReceived, "a"⟩))
    (by decide)
  simp only [Bool.and_eq_true, List.isEmpty_iff, decide_eq_true_eq, Bool.not_eq_true',
    decide_eq_false_iff_not] at hs
  have h := hagree _ s _ "a" "b" (signedUp_initial _) hrun (by decide) hs.1.1
  exact hs.2 (h.mp hs.1.2)

end System

end DriveTribe
