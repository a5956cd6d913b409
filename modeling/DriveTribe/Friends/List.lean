import DriveTribe.Friends.Fetch

/-!
# The friend list in use

`FriendListTableViewController.swift:291–419`. Any number of fetches of its three lists run while
rows are tapped. A tap writes to the server; once success is reported, a block on the main queue
takes the first row of the user out of the list the tap was made in. What a fetch delivers
replaces the list, whatever was taken out meanwhile. Reads and writes are answered in any
order, and other clients change any document in between.
-/

namespace DriveTribe

open Base

/-- The three lists of the screen. -/
def FriendListTableViewController.view? : RelationKey → Option ListView
  | .friends => some setupViewForFriends
  | .friendsRequestSent => some setupViewForFriendRequestsSent
  | .friendsRequestReceived => some setupViewForFriendRequestsReceived
  | .blockedUsers | .blockedUsersByCurrentUser => none

/-- The list a tap is made in, where success takes a row out of it. -/
def RelationOp.list? : RelationOp → Option RelationKey
  | .blockUser | .unfriendUser => some .friends
  | .cancelFriendRequest => some .friendsRequestSent
  | .acceptFriendRequest => some .friendsRequestReceived
  | .sendFriendRequest | .unblockedUser => none

/-- A fetch that runs: what has arrived, and the reads that are not answered. -/
structure Fetching where
  key : RelationKey
  array : List User := []
  reads : List FetchRead
  deriving DecidableEq, Repr

/-- A row that is to be taken out of a list. -/
structure RowRemoval where
  key : RelationKey
  user : User
  deriving DecidableEq, Repr

/-- A write of a tap that is not answered, and the row its success takes out. -/
structure TapWrite where
  row : RowRemoval
  issued : IssuedWrite
  deriving DecidableEq, Repr

/-- The screen, the store and everything between them. `removed` is history: the users whose
removal from a list was reported, as long as the store bears it out. -/
structure FriendList where
  users : Users
  me : User
  shown : RelationKey → List User
  fetches : List Fetching
  writes : List TapWrite
  /-- The main queue. -/
  queue : List RowRemoval
  removed : RelationKey → List UserID

/-- What can happen next. -/
inductive ListEvent where
  | setupView (k : RelationKey)
  /-- The `j`-th read of the `i`-th fetch is answered. -/
  | answered (i j : Nat) (error : Option String)
  | tap (op : RelationOp) (row : Nat)
  /-- The `i`-th write is answered. -/
  | acknowledged (i : Nat) (error : Option String)
  /-- The main queue runs its next block. -/
  | main
  /-- Another client leaves this document, or none, under the id. -/
  | others (id : UserID) (document : Option UserDocument)
  deriving DecidableEq, Repr

/-- A document is stored under its id, and nobody stands in one of its lists twice. -/
def UserDocument.WellFormed (id : UserID) (d : UserDocument) : Prop :=
  d.uuid = some id ∧ ∀ k, (d.relation k).Nodup

instance (id : UserID) (d : UserDocument) : Decidable (d.WellFormed id) :=
  decidable_of_iff (d.uuid = some id ∧ (d.relation .blockedUsers).Nodup ∧
      (d.relation .blockedUsersByCurrentUser).Nodup ∧ (d.relation .friends).Nodup ∧
      (d.relation .friendsRequestSent).Nodup ∧ (d.relation .friendsRequestReceived).Nodup)
    ⟨fun ⟨hid, h₁, h₂, h₃, h₄, h₅⟩ => ⟨hid, fun k => by cases k <;> assumption⟩,
      fun h => ⟨h.1, h.2 _, h.2 _, h.2 _, h.2 _, h.2 _⟩⟩

/-- Take the first row of the user out. Two users are equal if their ids are, `User.swift:80`. -/
def removeRow (users : List User) (user : User) : List User :=
  users.eraseP fun x => x.uuid = user.uuid

namespace FriendList

/-- The store bears a removal out: the user does not stand in the list there, or the write that
takes the user out is not answered. -/
def BornOut (s : FriendList) (k : RelationKey) (user : UserID) : Prop :=
  ¬ s.users.has ⟨s.me.uuid, k, user⟩ ∨
    ∃ w ∈ s.writes, w.issued.write = ⟨s.me.uuid, k, .arrayRemove user⟩

instance (s : FriendList) (k : RelationKey) (user : UserID) : Decidable (s.BornOut k user) :=
  inferInstanceAs (Decidable (_ ∨ _))

/-- Forget the removals the store no longer bears out. -/
def prune (s : FriendList) : FriendList :=
  { s with removed := fun k => (s.removed k).filter fun user => s.BornOut k user }

/-- Success is reported. -/
def report (s : FriendList) (row : RowRemoval) : FriendList :=
  { s with
    queue := s.queue ++ [row]
    removed := Function.update s.removed row.key (s.removed row.key ++ [row.user.uuid]) }

/-- One event. A tap calls the operation on the user of its row. -/
def step (s : FriendList) : ListEvent → Option FriendList
  | .setupView k =>
    if (FriendListTableViewController.view? k).isSome then
      some { s with fetches := s.fetches ++ [{ key := k, reads := [.userData s.me.uuid] }] }
    else none
  | .answered i j error =>
    match s.fetches[i]? with
    | none => none
    | some f =>
      match f.reads[j]?, FriendListTableViewController.view? f.key with
      | some read, some view =>
        let snapshot : Snapshot :=
          match error with
          | none => .ok (s.users read.document)
          | some error => .error error
        let reply := view.fetch f.array read snapshot
        some { s with
          fetches := s.fetches.set i
            { f with array := reply.state, reads := f.reads.eraseIdx j ++ reply.requests }
          shown := Function.update s.shown f.key
            (reply.calls.foldl showFetched (s.shown f.key)) }
      | _, _ => none
  | .tap op row =>
    match op.list? with
    | none => none
    | some k =>
      match (s.shown k)[row]? with
      | none => none
      | some user =>
        match op.call (some s.me) user.uuid with
        | .issued ws completes =>
          let issued := { s with writes := s.writes ++ ws.map (⟨⟨k, user⟩, ·⟩) }
          some (if completes then issued.report ⟨k, user⟩ else issued)
        | _ => some s
  | .acknowledged i error =>
    match s.writes[i]? with
    | none => none
    | some w =>
      let rest := { s with writes := s.writes.eraseIdx i }
      match error with
      | some _ => some rest.prune
      | none => (w.issued.write.land s.users).map fun users =>
        let landed := { rest with users }
        (if w.issued.reportsSuccess then landed.report w.row else landed).prune
  | .main =>
    match s.queue with
    | [] => none
    | row :: rest =>
      some { s with
        queue := rest
        shown := Function.update s.shown row.key (removeRow (s.shown row.key) row.user) }
  | .others id document =>
    if ∀ d ∈ document, d.WellFormed id then
      some { s with users := Function.update s.users id document }.prune
    else none

/-- The screen has just come up. -/
structure Initial (s : FriendList) : Prop where
  users : ∀ {id d}, s.users id = some d → d.WellFormed id
  shown : ∀ k, s.shown k = []
  fetches : s.fetches = []
  writes : s.writes = []
  queue : s.queue = []
  removed : ∀ k, s.removed k = []

end FriendList

end DriveTribe
