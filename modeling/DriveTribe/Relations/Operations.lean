import DriveTribe.Models.User

/-!
# The friend operations

`UserController.swift:286–510`. Each operation writes single elements of the relation
lists of two documents, its own and the other user's, by separate `updateData` calls. The
writes are listed in the order the code issues them. The other user enters only through
the `uuid`. `blockUser` and `unfriendUser` also start the carpool removal, which touches
no relation list.
-/

namespace DriveTribe

open Base

/-- `NetworkError.swift:10–16`. -/
inductive NetworkError where
  | invalidURL
  | thrownError (error : String)
  | noData
  | unableToDecode
  | repeatRequest
  deriving DecidableEq, Repr

/-- The users collection: the documents by id. -/
abbrev Users := UserID → Option UserDocument

/-- One place where a user id may stand: an element of a relation list of a document. -/
structure Entry where
  document : UserID
  field : RelationKey
  element : UserID
  deriving DecidableEq, Repr

/-- An `updateData` call on one relation list. -/
structure RelationWrite where
  document : UserID
  field : RelationKey
  value : FieldValue UserID
  deriving DecidableEq, Repr

/-- Whether the id stands at the entry; nothing stands in a missing document. -/
def Users.has (users : Users) (e : Entry) : Prop :=
  ∃ d, users e.document = some d ∧ e.element ∈ d.relation e.field

instance (users : Users) (e : Entry) : Decidable (users.has e) :=
  match h : users e.document with
  | none => .isFalse fun ⟨_, hd, _⟩ => by simp [h] at hd
  | some d => decidable_of_iff (e.element ∈ d.relation e.field) (by simp [Users.has, h])

namespace RelationWrite

/-- The only entry the write can change. -/
def entry (w : RelationWrite) : Entry := ⟨w.document, w.field, w.value.element⟩

/-- What the write assigns: its own entry, and nothing else. -/
def effect (w : RelationWrite) (e : Entry) : Option Bool :=
  if e = w.entry then some w.value.present else none

/-- The write lands on the store; it fails when the document is missing. -/
def land (w : RelationWrite) (users : Users) : Option Users :=
  updateData users w.document fun d => d.changeRelation w.field w.value

/-- Landing a write decides its own entry and leaves every other entry alone. -/
theorem has_land {w : RelationWrite} {users users' : Users} (h : w.land users = some users')
    (e : Entry) :
    users'.has e ↔ if e = w.entry then w.value.present = true else users.has e := by
  obtain ⟨d, hd, hd', hne⟩ := updateData_eq_some h
  by_cases hdoc : e.document = w.document
  · have hmem := d.mem_relation_changeRelation w.field e.field w.value e.element
    have hentry : e = w.entry ↔ e.field = w.field ∧ e.element = w.value.element := by
      cases e
      simp_all [entry]
    simp only [Users.has, hdoc, hd, hd', Option.some.injEq, exists_eq_left', hmem, hentry]
  · have hentry : e ≠ w.entry := fun he => hdoc (by rw [he, entry])
    simp only [Users.has, hne e.document hdoc, hentry, ↓reduceIte]

/-- The same in terms of what the write assigns. -/
theorem decide_has_land {w : RelationWrite} {users users' : Users}
    (h : w.land users = some users') (e : Entry) :
    decide (users'.has e) = (w.effect e).getD (decide (users.has e)) := by
  have hl := has_land h e
  by_cases he : e = w.entry
  · rw [if_pos he] at hl
    rw [effect, if_pos he, Option.getD_some]
    simp only [hl, Bool.decide_eq_true]
  · rw [if_neg he] at hl
    rw [effect, if_neg he, Option.getD_none]
    exact decide_eq_decide.mpr hl

/-- Landing a write keeps every document's account. -/
theorem authID_land {w : RelationWrite} {users users' : Users} (h : w.land users = some users')
    {id : UserID} {d : UserDocument} (hd : users id = some d) :
    ∃ d', users' id = some d' ∧ d'.authID = d.authID := by
  obtain ⟨d₁, hd₁, hd₁', hne⟩ := updateData_eq_some h
  by_cases hid : id = w.document
  · subst hid
    rw [hd, Option.some.injEq] at hd₁
    subst hd₁
    exact ⟨_, hd₁', UserDocument.authID_setRelation ..⟩
  · exact ⟨d, by rw [hne id hid, hd], rfl⟩

end RelationWrite

/-! ### The six operations -/

/-- A write with what its acknowledgement reports: a failure always reaches `completion`,
a success only where `reportsSuccess`. -/
structure IssuedWrite where
  write : RelationWrite
  reportsSuccess : Bool
  deriving DecidableEq, Repr

/-- What a call does before its writes are acknowledged. -/
inductive Outcome where
  /-- No user is logged in: the call returns and never calls `completion`. -/
  | ignored
  /-- A guard refuses the call. -/
  | refused (error : NetworkError)
  /-- The writes go out; `completes` when `completion` is called with success right away. -/
  | issued (writes : List IssuedWrite) (completes : Bool)
  deriving DecidableEq, Repr

/-- The writes a call issues. -/
def Outcome.writes : Outcome → List RelationWrite
  | issued ws _ => ws.map IssuedWrite.write
  | _ => []

namespace UserController

/-- `UserController.swift:288–316`. The guard reads the copy of the user in memory. -/
def sendFriendRequest (currentUser : Option User) (user : UserID) : Outcome :=
  match currentUser with
  | none => .ignored
  | some me =>
    if user ∉ me.friends ∧ user ∉ me.friendsRequestSent ∧ user ∉ me.blockedUsers then
      .issued [
        ⟨⟨user, .friendsRequestReceived, .arrayUnion me.uuid⟩, true⟩,
        ⟨⟨me.uuid, .friendsRequestSent, .arrayUnion user⟩, true⟩] false
    else .refused .repeatRequest

/-- `UserController.swift:318–358`. -/
def acceptFriendRequest (currentUser : Option User) (user : UserID) : Outcome :=
  match currentUser with
  | none => .ignored
  | some me =>
    .issued [
      ⟨⟨me.uuid, .friends, .arrayUnion user⟩, false⟩,
      ⟨⟨me.uuid, .friendsRequestReceived, .arrayRemove user⟩, false⟩,
      ⟨⟨user, .friends, .arrayUnion me.uuid⟩, false⟩,
      ⟨⟨user, .friendsRequestSent, .arrayRemove me.uuid⟩, false⟩] true

/-- `UserController.swift:361–383`. -/
def cancelFriendRequest (currentUser : Option User) (user : UserID) : Outcome :=
  match currentUser with
  | none => .ignored
  | some me =>
    .issued [
      ⟨⟨user, .friendsRequestReceived, .arrayRemove me.uuid⟩, true⟩,
      ⟨⟨me.uuid, .friendsRequestSent, .arrayRemove user⟩, true⟩] false

/-- `UserController.swift:385–443`. -/
def blockUser (currentUser : Option User) (user : UserID) : Outcome :=
  match currentUser with
  | none => .ignored
  | some me =>
    .issued [
      ⟨⟨me.uuid, .friends, .arrayRemove user⟩, false⟩,
      ⟨⟨me.uuid, .blockedUsers, .arrayUnion user⟩, false⟩,
      ⟨⟨me.uuid, .blockedUsersByCurrentUser, .arrayUnion user⟩, false⟩,
      ⟨⟨user, .friends, .arrayRemove me.uuid⟩, false⟩,
      ⟨⟨user, .blockedUsers, .arrayUnion me.uuid⟩, false⟩] true

/-- `UserController.swift:445–476`. -/
def unfriendUser (currentUser : Option User) (user : UserID) : Outcome :=
  match currentUser with
  | none => .ignored
  | some me =>
    .issued [
      ⟨⟨me.uuid, .friends, .arrayRemove user⟩, false⟩,
      ⟨⟨user, .friends, .arrayRemove me.uuid⟩, false⟩] true

/-- `UserController.swift:478–509`. -/
def unblockedUser (currentUser : Option User) (user : UserID) : Outcome :=
  match currentUser with
  | none => .ignored
  | some me =>
    .issued [
      ⟨⟨me.uuid, .blockedUsersByCurrentUser, .arrayRemove user⟩, false⟩,
      ⟨⟨me.uuid, .blockedUsers, .arrayRemove user⟩, false⟩,
      ⟨⟨user, .blockedUsers, .arrayRemove me.uuid⟩, false⟩] true

end UserController

/-- The friend operations by name. -/
inductive RelationOp where
  | sendFriendRequest
  | acceptFriendRequest
  | cancelFriendRequest
  | blockUser
  | unfriendUser
  | unblockedUser
  deriving DecidableEq, Repr

/-- Call an operation on `user`. -/
def RelationOp.call (op : RelationOp) (currentUser : Option User) (user : UserID) : Outcome :=
  match op with
  | .sendFriendRequest => UserController.sendFriendRequest currentUser user
  | .acceptFriendRequest => UserController.acceptFriendRequest currentUser user
  | .cancelFriendRequest => UserController.cancelFriendRequest currentUser user
  | .blockUser => UserController.blockUser currentUser user
  | .unfriendUser => UserController.unfriendUser currentUser user
  | .unblockedUser => UserController.unblockedUser currentUser user

/-- The writes of an operation of `me` on `user`, once its guard has passed. -/
def RelationOp.writes (op : RelationOp) (me user : UserID) : List RelationWrite :=
  match op with
  | .sendFriendRequest =>
    [⟨user, .friendsRequestReceived, .arrayUnion me⟩, ⟨me, .friendsRequestSent, .arrayUnion user⟩]
  | .acceptFriendRequest =>
    [⟨me, .friends, .arrayUnion user⟩, ⟨me, .friendsRequestReceived, .arrayRemove user⟩,
      ⟨user, .friends, .arrayUnion me⟩, ⟨user, .friendsRequestSent, .arrayRemove me⟩]
  | .cancelFriendRequest =>
    [⟨user, .friendsRequestReceived, .arrayRemove me⟩, ⟨me, .friendsRequestSent, .arrayRemove user⟩]
  | .blockUser =>
    [⟨me, .friends, .arrayRemove user⟩, ⟨me, .blockedUsers, .arrayUnion user⟩,
      ⟨me, .blockedUsersByCurrentUser, .arrayUnion user⟩, ⟨user, .friends, .arrayRemove me⟩,
      ⟨user, .blockedUsers, .arrayUnion me⟩]
  | .unfriendUser => [⟨me, .friends, .arrayRemove user⟩, ⟨user, .friends, .arrayRemove me⟩]
  | .unblockedUser =>
    [⟨me, .blockedUsersByCurrentUser, .arrayRemove user⟩, ⟨me, .blockedUsers, .arrayRemove user⟩,
      ⟨user, .blockedUsers, .arrayRemove me⟩]

/-- A call that issues anything was made by a logged-in user and issues exactly the writes
of its operation; only a friend request has a guard, which it has passed. -/
theorem RelationOp.call_issued {op : RelationOp} {currentUser : Option User} {user : UserID}
    {ws : List IssuedWrite} {completes : Bool}
    (h : op.call currentUser user = .issued ws completes) :
    ∃ me, currentUser = some me ∧ ws.map IssuedWrite.write = op.writes me.uuid user ∧
      (op = .sendFriendRequest →
        user ∉ me.friends ∧ user ∉ me.friendsRequestSent ∧ user ∉ me.blockedUsers) := by
  cases currentUser with
  | none => cases op <;> cases h
  | some me =>
    refine ⟨me, rfl, ?_⟩
    cases op with
    | sendFriendRequest =>
      simp only [call, UserController.sendFriendRequest] at h
      split at h
      · next hguard =>
        cases h
        exact ⟨rfl, fun _ => hguard⟩
      · cases h
    | acceptFriendRequest | cancelFriendRequest | blockUser | unfriendUser | unblockedUser =>
      cases h
      exact ⟨rfl, nofun⟩

/-- A call that passes its guard issues the writes of its operation. -/
theorem RelationOp.writes_call {op : RelationOp} {me : User} {user : UserID}
    (h : op = .sendFriendRequest →
      user ∉ me.friends ∧ user ∉ me.friendsRequestSent ∧ user ∉ me.blockedUsers) :
    (op.call (some me) user).writes = op.writes me.uuid user := by
  cases op with
  | sendFriendRequest =>
    simp only [call, UserController.sendFriendRequest, if_pos (h rfl)]
    rfl
  | acceptFriendRequest | cancelFriendRequest | blockUser | unfriendUser | unblockedUser => rfl

/-- A call that writes anything writes all of its operation. -/
theorem RelationOp.writes_call_of_ne_nil {op : RelationOp} {me : User} {user : UserID}
    (h : (op.call (some me) user).writes ≠ []) :
    (op.call (some me) user).writes = op.writes me.uuid user := by
  cases hcall : op.call (some me) user with
  | issued ws completes =>
    obtain ⟨me', hme, hws, -⟩ := call_issued hcall
    cases hme
    exact hws
  | ignored | refused error => exact absurd (by rw [hcall]; rfl) h

/-- Every operation writes something. -/
theorem RelationOp.writes_ne_nil (op : RelationOp) (me user : UserID) :
    op.writes me user ≠ [] := by
  cases op <;> exact List.cons_ne_nil _ _

end DriveTribe
