import DriveTribe.Accounts.Updates
import DriveTribe.Carpools.System
import DriveTribe.Sessions.Process

/-!
# Signing up and deleting accounts

An account of Firebase Auth and a users document are created and deleted by separate requests.
A sign-up writes the document once the account is there. A deletion archives the document,
then asks for the deletion of the document and of the account of whoever is signed in by then,
without waiting for either; what it does to carpools runs beside. Every request succeeds
or fails, in any order.
-/

namespace DriveTribe

open Base

/-- A request that is not answered. -/
inductive Task where
  /-- `Auth.createUser`, for a sign-up. -/
  | createAccount (firstName lastName userName : String)
  | createUser (account : NewAccount)
  /-- `deleteDataOfDeletedAccount`: the groups, then each carpool, then what it writes. -/
  | groups (me : UserID)
  | carpool (me : UserID) (id : CarpoolID)
  | writeCarpool (write : CarpoolWrite)
  /-- `deleteUser`: the archive, then the document and the account. -/
  | archive (user : User)
  | deleteDocument (user : User)
  | deleteAccount (authID : String)
  deriving DecidableEq, Repr

/-- A request of one client. -/
structure Pending where
  client : ClientID
  task : Task
  deriving DecidableEq, Repr

/-- What a client holds. -/
structure Device where
  /-- `Auth.auth().currentUser?.uid`. -/
  auth : Option String := none
  /-- `UserController.shared.currentUser`. -/
  currentUser : Option User := none
  lastCurrentLocation : List Double := []
  deriving DecidableEq, Repr

/-- Both services, the clients and the requests between them. The last two fields are history:
the ids that were drawn and the accounts that were created. -/
structure Backend where
  /-- The accounts of Firebase Auth. -/
  accounts : List String
  users : Users
  deletedUsers : UserID → Option UserDocument
  rides : CarpoolStore
  devices : ClientID → Device
  pending : List Pending
  usedIDs : List UserID
  usedAuthIDs : List String

/-- What can happen next. -/
inductive BackendEvent where
  | locate (c : ClientID) (latitude longitude : Double)
  | signUp (c : ClientID) (firstName lastName userName : String)
  | signIn (c : ClientID) (authID : String)
  | fetchCurrentUser (c : ClientID) (user : UserID)
  | logout (c : ClientID)
  | deleteUser (c : ClientID)
  /-- The `i`-th request, for an account, succeeds. -/
  | accountCreated (i : Nat) (authID : String) (uuid : UserID)
  /-- The `i`-th request, any other, succeeds. -/
  | succeed (i : Nat)
  | fail (i : Nat)
  deriving DecidableEq, Repr

namespace Backend

/-- Replace the state of one client. -/
def setDevice (s : Backend) (c : ClientID) (device : Device) : Backend :=
  { s with devices := Function.update s.devices c device }

/-- Send out requests. -/
def ask (s : Backend) (c : ClientID) (tasks : List Task) : Backend :=
  { s with pending := s.pending ++ tasks.map (⟨c, ·⟩) }

/-- A request of client `c` succeeds, and the client handles the answer. The account that is
deleted after an archive is the one signed in by then, `UserController.swift:556`. The deletion
of a document logs out, `:543`, whoever that concerns by then. -/
def perform (s : Backend) (c : ClientID) : Task → Option Backend
  | .createAccount _ _ _ => none
  | .createUser account =>
    some ({ s with users := setData s.users account.uuid account.document }.setDevice c
      { s.devices c with currentUser := some account.newUser })
  | .groups me => some (s.ask c ((s.rides.groups me).map (.carpool me)))
  | .carpool me id =>
    some (s.ask c ((s.rides.carpool? id).toList.flatMap fun carpool =>
      (Process.departureWrites me carpool).map .writeCarpool))
  | .writeCarpool write => (write.land s.rides).map fun rides => { s with rides }
  | .archive user =>
    some ({ s with deletedUsers := setData s.deletedUsers user.uuid user.toDocument }.ask c
      (.deleteDocument user :: (s.devices c).auth.toList.map .deleteAccount))
  | .deleteDocument user =>
    some ({ s with users := deleteDocument s.users user.uuid }.setDevice c
      { s.devices c with auth := none })
  | .deleteAccount authID =>
    if authID ∈ s.accounts then
      some ({ s with accounts := s.accounts.filter (· ≠ authID) }.setDevice c
        { s.devices c with
          auth := if (s.devices c).auth = some authID then none else (s.devices c).auth })
    else none

/-- One event. `deleteUser` is given the user in memory, `SettingsTableViewController.swift:46`. -/
def step (s : Backend) : BackendEvent → Option Backend
  | .locate c latitude longitude =>
    some (s.setDevice c { s.devices c with lastCurrentLocation := [latitude, longitude] })
  | .signUp c firstName lastName userName =>
    if (s.devices c).lastCurrentLocation ≠ [] then
      some (s.ask c [.createAccount firstName lastName userName])
    else none
  | .signIn c authID =>
    if authID ∈ s.accounts then some (s.setDevice c { s.devices c with auth := some authID })
    else none
  | .fetchCurrentUser c id =>
    match (s.users id).bind User.ofDocument with
    | none => none
    | some user =>
      if (s.devices c).auth = some user.authID then
        some (s.setDevice c { s.devices c with currentUser := some user })
      else none
  | .logout c => some (s.setDevice c { s.devices c with auth := none })
  | .deleteUser c =>
    match (s.devices c).currentUser with
    | none => none
    | some me => some (s.ask c [.groups me.uuid, .archive me])
  | .accountCreated i authID uuid =>
    match s.pending[i]? with
    | some ⟨c, .createAccount firstName lastName userName⟩ =>
      if authID ∉ s.usedAuthIDs ∧ uuid ∉ s.usedIDs then
        let account : NewAccount :=
          ⟨firstName, lastName, userName, (s.devices c).lastCurrentLocation, uuid, authID⟩
        some (({ s with
            accounts := s.accounts ++ [authID]
            pending := s.pending.eraseIdx i
            usedIDs := s.usedIDs ++ [uuid]
            usedAuthIDs := s.usedAuthIDs ++ [authID] }.setDevice c
          { s.devices c with auth := some authID, lastCurrentLocation := [] }).ask c
            [.createUser account])
      else none
    | _ => none
  | .succeed i =>
    match s.pending[i]? with
    | none => none
    | some x => { s with pending := s.pending.eraseIdx i }.perform x.client x.task
  | .fail i =>
    if i < s.pending.length then some { s with pending := s.pending.eraseIdx i } else none

/-- The users `a` and `b` have accounts, and `me` is logged in on the client `0`. -/
def loggedIn (rides : CarpoolStore) (me : User) : Backend where
  accounts := ["a", "b"]
  users := Users.signedUp ["a", "b"]
  deletedUsers := fun _ => none
  rides := rides
  devices := Function.update (fun _ => {}) 0 { auth := some me.authID, currentUser := some me }
  pending := []
  usedIDs := ["a", "b"]
  usedAuthIDs := ["a", "b"]

/-! ### What a step can do -/

section Step
variable {s t : Backend}

/-- A request that succeeds is taken out first. -/
theorem step_succeed {i : Nat} (h : s.step (.succeed i) = some t) :
    ∃ x, s.pending[i]? = some x ∧
      ({ s with pending := s.pending.eraseIdx i } : Backend).perform x.client x.task = some t := by
  simp only [step] at h
  split at h
  · cases h
  · next x hx => exact ⟨x, hx, h⟩

/-- A request that fails is taken out, and that is all. -/
theorem step_fail {i : Nat} (h : s.step (.fail i) = some t) :
    ∃ x, s.pending[i]? = some x ∧ t = { s with pending := s.pending.eraseIdx i } := by
  simp only [step, Option.ite_none_right_eq_some, Option.some.injEq] at h
  exact ⟨_, List.getElem?_eq_getElem h.1, h.2.symm⟩

/-- What is asked for is still asked for once a request is answered and more is sent out, if the
answer to what was asked for is to ask again. -/
theorem exists_pending {p : Task → Prop} {i : Nat} {x : Pending} (c : ClientID) (more : List Task)
    (h : ∃ y ∈ s.pending, p y.task) (hx : s.pending[i]? = some x)
    (hpending : t.pending = s.pending.eraseIdx i ++ more.map (⟨c, ·⟩))
    (hmore : p x.task → ∃ task ∈ more, p task) : ∃ y ∈ t.pending, p y.task := by
  obtain ⟨y, hy, hp⟩ := h
  rw [hpending]
  by_cases hyx : y = x
  · rw [hyx] at hp
    obtain ⟨task, htask, hp⟩ := hmore hp
    exact ⟨⟨c, task⟩, List.mem_append_right _ (List.mem_map_of_mem htask), hp⟩
  · exact ⟨y, List.mem_append_left _ (mem_eraseIdx_of_ne hx hy hyx), hp⟩

end Step

end Backend

end DriveTribe
