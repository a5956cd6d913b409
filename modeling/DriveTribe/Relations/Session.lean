import DriveTribe.Base.Run
import DriveTribe.Relations.Operations

/-!
# Clients and what they have read

A client is one process of the app with the user logged in on it. It acts on copies: the
user object loaded at log-in, and the users shown in lists it fetched at some time. What
a list has ever shown since log-in is kept, since a row stays tappable until the screen
is refreshed.
-/

namespace DriveTribe

open Base

/-- A process of the app; there may be any number of them. -/
abbrev ClientID := Nat

/-- What a client holds of the relation data. -/
structure Client where
  /-- `Auth.auth().currentUser?.uid`. -/
  auth : Option String
  /-- `UserController.shared.currentUser`. -/
  currentUser : Option User
  /-- The users search results have shown. -/
  results : List UserID
  /-- The users each relation list has shown. -/
  rows : RelationKey → List UserID

/-- A client nobody is logged in on. -/
def Client.loggedOut : Client := ⟨none, none, [], fun _ => []⟩

/-- The users an operation can be tapped on: search results for a request, the matching
relation list for the others. `FriendListTableViewController.swift:331–440`,
`BlockedUsersTableViewController.swift:71–91`. -/
def Client.offered (x : Client) : RelationOp → List UserID
  | .sendFriendRequest => x.results
  | .acceptFriendRequest => x.rows .friendsRequestReceived
  | .cancelFriendRequest => x.rows .friendsRequestSent
  | .blockUser => x.rows .friends
  | .unfriendUser => x.rows .friends
  | .unblockedUser => x.rows .blockedUsersByCurrentUser

/-- The store of user documents and all clients. -/
structure Session where
  users : Users
  clients : ClientID → Client

/-- What a client can read. -/
inductive Read where
  /-- Log in, or load the user again, as the user of this document. -/
  | fetchCurrentUser (c : ClientID) (user : UserID)
  /-- Find this user by a search. -/
  | fetchSpecificUsersBySearchTerm (c : ClientID) (user : UserID)
  /-- Fetch one of the own relation lists. -/
  | fetchList (c : ClientID) (k : RelationKey)
  deriving DecidableEq, Repr

namespace Session

/-- The decoded document of a user. -/
def user? (x : Session) (id : UserID) : Option User := (x.users id).bind User.ofDocument

/-- Replace the state of one client. -/
def setClient (x : Session) (c : ClientID) (client : Client) : Session :=
  { x with clients := Function.update x.clients c client }

/-- The effect of a read, if it succeeds. `fetchCurrentUser`,
`UserController.swift:92–108`: the user object is replaced and the screens start empty.
`fetchSpecificUsersBySearchTerm`, `UserController.swift:129–148`: a hit belongs to another
account; every user is a hit of some term. `fetchFriendsFor` and its siblings,
`UserController.swift:150–256`: the own document is read, then each listed document; what
decodes is shown. A read returns what has landed: that Firestore shows a device its own writes
while they are in flight is left out. -/
def read (x : Session) : Read → Option Session
  | .fetchCurrentUser c id =>
    match x.user? id with
    | none => none
    | some me => some (x.setClient c ⟨some me.authID, some me, [], fun _ => []⟩)
  | .fetchSpecificUsersBySearchTerm c id =>
    match (x.clients c).auth, x.user? id with
    | some uid, some user =>
      if user.authID ≠ uid then
        some (x.setClient c
          { x.clients c with results := (x.clients c).results ++ [user.uuid] })
      else none
    | _, _ => none
  | .fetchList c k =>
    match (x.clients c).currentUser.bind fun me => x.user? me.uuid with
    | none => none
    | some userData =>
      let shown := (userData.relation k).filterMap fun id => (x.user? id).map User.uuid
      some (x.setClient c
        { x.clients c with
          rows := Function.update (x.clients c).rows k ((x.clients c).rows k ++ shown) })

/-- What a read changes: one client, which logs in, finds a user, or is shown a list. -/
theorem read_eq_some {x y : Session} {r : Read} (h : x.read r = some y) :
    (∃ c id me, r = .fetchCurrentUser c id ∧ x.user? id = some me ∧
      y = x.setClient c ⟨some me.authID, some me, [], fun _ => []⟩) ∨
    (∃ c id uid user, r = .fetchSpecificUsersBySearchTerm c id ∧ (x.clients c).auth = some uid ∧
      x.user? id = some user ∧ user.authID ≠ uid ∧
      y = x.setClient c
        { x.clients c with results := (x.clients c).results ++ [user.uuid] }) ∨
    ∃ c k me userData, r = .fetchList c k ∧ (x.clients c).currentUser = some me ∧
      x.user? me.uuid = some userData ∧
      y = x.setClient c
        { x.clients c with
          rows := Function.update (x.clients c).rows k ((x.clients c).rows k ++
            (userData.relation k).filterMap fun id => (x.user? id).map User.uuid) } := by
  cases r with
  | fetchCurrentUser c id =>
    simp only [read] at h
    split at h
    · cases h
    · next me hme => exact .inl ⟨c, id, me, rfl, hme, (Option.some.inj h).symm⟩
  | fetchSpecificUsersBySearchTerm c id =>
    simp only [read] at h
    split at h
    · next uid user huid huser =>
      split at h
      · next hne =>
        exact .inr (.inl ⟨c, id, uid, user, rfl, huid, huser, hne, (Option.some.inj h).symm⟩)
      · cases h
    · cases h
  | fetchList c k =>
    simp only [read] at h
    split at h
    · cases h
    · next userData hdata =>
      obtain ⟨me, hme, huser⟩ := Option.bind_eq_some_iff.mp hdata
      exact .inr (.inr ⟨c, k, me, userData, rfl, hme, huser, (Option.some.inj h).symm⟩)

/-- Reading changes no document. -/
theorem users_read {x y : Session} {r : Read} (h : x.read r = some y) : y.users = x.users := by
  obtain ⟨c, id, me, -, -, rfl⟩ | ⟨c, id, uid, user, -, -, -, -, rfl⟩ |
    ⟨c, k, me, userData, -, -, -, rfl⟩ := read_eq_some h <;> rfl

/-- The client that was replaced. -/
@[simp] theorem clients_setClient_self (x : Session) (c : ClientID) (client : Client) :
    (x.setClient c client).clients c = client :=
  Function.update_self ..

/-- The clients that were not. -/
theorem clients_setClient_of_ne (x : Session) {c c' : ClientID} (client : Client) (h : c' ≠ c) :
    (x.setClient c client).clients c' = x.clients c' :=
  Function.update_of_ne h ..

end Session

/-- Every document is stored under its `uuid`, and one account owns one document. -/
structure Users.Keyed (users : Users) : Prop where
  uuid : ∀ {id d}, users id = some d → d.uuid = some id
  authID : ∀ {id id' d d'}, users id = some d → users id' = some d' → d.authID = d'.authID →
    id = id'

/-- A store as account creation leaves it: keyed, and no relation list has an element yet. -/
structure Users.Fresh (users : Users) : Prop extends users.Keyed where
  relation : ∀ {id d}, users id = some d → ∀ k, d.relation k = []

/-- Nobody is in anybody's list in a fresh store. -/
theorem Users.Fresh.not_has {users : Users} (h : users.Fresh) (e : Entry) : ¬ users.has e := by
  rintro ⟨d, hd, he⟩
  rw [h.relation hd] at he
  exact List.not_mem_nil he

/-- A relation write keeps the store keyed: it changes neither ids nor accounts. -/
theorem Users.Keyed.land {users users' : Users} (h : users.Keyed) {w : RelationWrite}
    (hw : w.land users = some users') : users'.Keyed := by
  obtain ⟨d, hd, hd', hne⟩ := updateData_eq_some hw
  have hback : ∀ {id d'}, users' id = some d' →
      ∃ d, users id = some d ∧ d'.uuid = d.uuid ∧ d'.authID = d.authID := by
    intro id x hx
    by_cases hid : id = w.document
    · subst hid
      rw [hd', Option.some.injEq] at hx
      subst hx
      exact ⟨d, hd, UserDocument.uuid_setRelation .., UserDocument.authID_setRelation ..⟩
    · rw [hne id hid] at hx
      exact ⟨x, hx, rfl, rfl⟩
  constructor
  case uuid =>
    intro id x hx
    obtain ⟨y, hy, hu, -⟩ := hback hx
    rw [hu, h.uuid hy]
  case authID =>
    intro id id' x x' hx hx' he
    obtain ⟨y, hy, -, ha⟩ := hback hx
    obtain ⟨y', hy', -, ha'⟩ := hback hx'
    exact h.authID hy hy' (by rw [← ha, ← ha', he])

/-- In a keyed store a user is decoded from the document of its own id. -/
theorem Session.uuid_of_user? {x : Session} (h : x.users.Keyed) {id : UserID} {u : User}
    (hu : x.user? id = some u) : u.uuid = id := by
  obtain ⟨d, hd, hdec⟩ := Option.bind_eq_some_iff.mp hu
  have huuid := (User.ids_of_ofDocument hdec).1
  rw [h.uuid hd, Option.some.injEq] at huuid
  exact huuid.symm

/-- A decoded user's lists are the stored ones. -/
theorem Session.mem_relation_of_user? {x : Session} {id y : UserID} {u : User} {k : RelationKey}
    (hu : x.user? id = some u) : y ∈ u.relation k ↔ x.users.has ⟨id, k, y⟩ := by
  obtain ⟨d, hd, hdec⟩ := Option.bind_eq_some_iff.mp hu
  rw [User.relation_of_ofDocument hdec]
  simp only [Users.has, hd, Option.some.injEq, exists_eq_left']

/-- A row the logged-in user sees after a read was there before, or the read has just found
it in the user's own list. -/
theorem Session.rows_read {x y : Session} (h : x.users.Keyed) {r : Read} (hread : x.read r = some y)
    {c : ClientID} {me : User} (hme : (y.clients c).currentUser = some me) {k : RelationKey}
    {user : UserID} (hrow : user ∈ (y.clients c).rows k) :
    (x.clients c).currentUser = some me ∧ (user ∈ (x.clients c).rows k ∨
      r = .fetchList c k ∧ x.users.has ⟨me.uuid, k, user⟩) := by
  obtain ⟨c', id, me', rfl, -, rfl⟩ | ⟨c', id, uid, u, rfl, -, -, -, rfl⟩ |
    ⟨c', k', me', userData, rfl, hme', hdata, rfl⟩ := read_eq_some hread <;>
    by_cases hc : c = c'
  · subst hc
    simp only [clients_setClient_self, List.not_mem_nil] at hrow
  · rw [clients_setClient_of_ne x _ hc] at hme hrow
    exact ⟨hme, .inl hrow⟩
  · subst hc
    rw [clients_setClient_self] at hme hrow
    exact ⟨hme, .inl hrow⟩
  · rw [clients_setClient_of_ne x _ hc] at hme hrow
    exact ⟨hme, .inl hrow⟩
  · subst hc
    rw [clients_setClient_self] at hme hrow
    refine ⟨hme, ?_⟩
    by_cases hk : k = k'
    · subst hk
      simp only [Function.update_self] at hrow
      rcases List.mem_append.mp hrow with hrow | hrow
      · exact .inl hrow
      · obtain ⟨id, hid, hdec⟩ := List.mem_filterMap.mp hrow
        obtain ⟨u, hu, rfl⟩ := Option.map_eq_some_iff.mp hdec
        rw [hme', Option.some.injEq] at hme
        subst hme
        rw [uuid_of_user? h hu]
        exact .inr ⟨rfl, (mem_relation_of_user? hdata).mp hid⟩
    · simp only [Function.update_of_ne hk] at hrow
      exact .inl hrow
  · rw [clients_setClient_of_ne x _ hc] at hme hrow
    exact ⟨hme, .inl hrow⟩

/-- A search hit the logged-in user sees after a read was there before, or the read has just
found it among the other accounts. -/
theorem Session.results_read {x y : Session} (h : x.users.Keyed) {r : Read}
    (hread : x.read r = some y) {c : ClientID} {me : User}
    (hme : (y.clients c).currentUser = some me) {user : UserID}
    (hresult : user ∈ (y.clients c).results) :
    (x.clients c).currentUser = some me ∧ (user ∈ (x.clients c).results ∨
      ∃ u uid, x.user? user = some u ∧ (x.clients c).auth = some uid ∧ u.authID ≠ uid) := by
  obtain ⟨c', id, me', rfl, -, rfl⟩ | ⟨c', id, uid, u, rfl, huid, hu, hne, rfl⟩ |
    ⟨c', k', me', userData, rfl, -, -, rfl⟩ := read_eq_some hread <;>
    by_cases hc : c = c'
  · subst hc
    simp only [clients_setClient_self, List.not_mem_nil] at hresult
  · rw [clients_setClient_of_ne x _ hc] at hme hresult
    exact ⟨hme, .inl hresult⟩
  · subst hc
    rw [clients_setClient_self] at hme hresult
    rcases List.mem_append.mp hresult with hresult | hresult
    · exact ⟨hme, .inl hresult⟩
    · rw [List.mem_singleton, uuid_of_user? h hu] at hresult
      subst hresult
      exact ⟨hme, .inr ⟨u, uid, hu, huid, hne⟩⟩
  · rw [clients_setClient_of_ne x _ hc] at hme hresult
    exact ⟨hme, .inl hresult⟩
  · subst hc
    rw [clients_setClient_self] at hme hresult
    exact ⟨hme, .inl hresult⟩
  · rw [clients_setClient_of_ne x _ hc] at hme hresult
    exact ⟨hme, .inl hresult⟩

/-- The user logged in after a read was logged in before, or the read has just loaded its
document. -/
theorem Session.currentUser_read {x y : Session} (h : x.users.Keyed) {r : Read}
    (hread : x.read r = some y) {c : ClientID} {me : User}
    (hme : (y.clients c).currentUser = some me) :
    ((x.clients c).currentUser = some me ∧ (y.clients c).auth = (x.clients c).auth) ∨
      (x.user? me.uuid = some me ∧ (y.clients c).auth = some me.authID) := by
  obtain ⟨c', id, me', rfl, hu, rfl⟩ | ⟨c', id, uid, u, rfl, -, -, -, rfl⟩ |
    ⟨c', k', me', userData, rfl, -, -, rfl⟩ := read_eq_some hread <;>
    by_cases hc : c = c'
  · subst hc
    simp only [clients_setClient_self, Option.some.injEq] at hme ⊢
    subst hme
    rw [uuid_of_user? h hu]
    exact .inr ⟨hu, rfl⟩
  · rw [clients_setClient_of_ne x _ hc] at hme ⊢
    exact .inl ⟨hme, rfl⟩
  · subst hc
    rw [clients_setClient_self] at hme ⊢
    exact .inl ⟨hme, rfl⟩
  · rw [clients_setClient_of_ne x _ hc] at hme ⊢
    exact .inl ⟨hme, rfl⟩
  · subst hc
    rw [clients_setClient_self] at hme ⊢
    exact .inl ⟨hme, rfl⟩
  · rw [clients_setClient_of_ne x _ hc] at hme ⊢
    exact .inl ⟨hme, rfl⟩

/-- The store after these accounts have been created. -/
def Users.signedUp (ids : List UserID) : Users := fun id =>
  if id ∈ ids then some (User.signedUp id).toDocument else none

/-- Account creation leaves a fresh store. -/
theorem Users.signedUp_fresh (ids : List UserID) : (Users.signedUp ids).Fresh where
  uuid h := by
    simp only [signedUp, Option.ite_none_right_eq_some, Option.some.injEq] at h
    rw [← h.2]
    rfl
  authID h h' he := by
    simp only [signedUp, Option.ite_none_right_eq_some, Option.some.injEq] at h h'
    rw [← h.2, ← h'.2] at he
    exact Option.some.inj he
  relation h k := by
    simp only [signedUp, Option.ite_none_right_eq_some, Option.some.injEq] at h
    rw [← h.2]
    cases k <;> rfl

end DriveTribe
