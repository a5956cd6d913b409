import DriveTribe.Accounts.Drawn

/-!
# Deleting an account beside everything else

On top of the friend operations, sign-ups and updates: `deleteUser`,
`UserController.swift:514–564`. It archives the user object it is given. With the
acknowledgement it asks for the deletion of the document and of the account that is signed in
by then, and waits for neither. What it does to carpools is left out, it touches no document
of a user.
-/

namespace DriveTribe

open Base

/-- A request of `deleteUser`. With the user to archive comes the document the user was fetched
from, if any, as history. -/
inductive Removal where
  | archive (user : User) (fetched : Option UserDocument)
  | deleteDocument (user : UserID)
  | deleteAccount (authID : String)
  deriving DecidableEq, Repr

/-- A request that is not answered; nobody awaits the answer once the app has stopped. -/
structure RemovalRequest where
  client : ClientID
  removal : Removal
  awaited : Bool := true
  deriving DecidableEq, Repr

/-- The accounts with their deletions. The last three fields are history: the document each
client's user was fetched from, none if a sign-up has returned the user; the same for the user
each archive was written from; and the content of each document when it was deleted. -/
structure Registry extends Accounts where
  deletedUsers : UserID → Option UserDocument
  removals : List RemovalRequest
  fetched : ClientID → Option UserDocument
  archivedFrom : UserID → Option UserDocument
  lastContent : UserID → Option UserDocument

/-- What can happen next. -/
inductive RegistryEvent where
  | account (ev : AccountEvent)
  | deleteUser (c : ClientID)
  | succeed (i : Nat)
  | fail (i : Nat)
  deriving DecidableEq, Repr

/-- The client whose user the event loads, with the document the user is fetched from; a
sign-up fetches none. `UserController.swift:92–108`, `SignupViewController.swift:225`. -/
def Accounts.loads (s : Accounts) : AccountEvent → Option (ClientID × Option UserDocument)
  | .relation (.read (.fetchCurrentUser c id)) => some (c, s.users id)
  | .landUpdate i =>
    match s.updates[i]? with
    | some ⟨c, .createUser _, true⟩ => some (c, none)
    | _ => none
  | _ => none

namespace Registry

/-- Send out requests. -/
def ask (s : Registry) (c : ClientID) (removals : List Removal) : Registry :=
  { s with removals := s.removals ++ removals.map fun removal => { client := c, removal } }

/-- The client is signed out; the user in memory stays. -/
def signOut (s : Registry) (c : ClientID) : Registry :=
  { s with toAccounts := s.setClient c { s.clients c with auth := none } }

/-- A request succeeds, and where the client awaits the answer it goes on. -/
def perform (s : Registry) (x : RemovalRequest) : Registry :=
  match x.removal with
  | .archive user fetched =>
    let archived := { s with
      deletedUsers := setData s.deletedUsers user.uuid user.toDocument
      archivedFrom := Function.update s.archivedFrom user.uuid fetched }
    if x.awaited then
      archived.ask x.client
        (.deleteDocument user.uuid :: (s.clients x.client).auth.toList.map .deleteAccount)
    else archived
  | .deleteDocument user =>
    let deleted := { s with
      users := Base.deleteDocument s.users user
      lastContent := Function.update s.lastContent user ((s.users user).or (s.lastContent user)) }
    if x.awaited then deleted.signOut x.client else deleted
  | .deleteAccount authID =>
    if (s.clients x.client).auth = some authID then s.signOut x.client else s

/-- One event. `deleteUser` is given the user in memory, `SettingsTableViewController.swift:46`.
The user in memory is gone exactly where the app has stopped. -/
def step (s : Registry) : RegistryEvent → Option Registry
  | .account ev => (s.toAccounts.step ev).map fun x =>
    { s with
      toAccounts := x
      removals := s.removals.map fun r =>
        if (x.clients r.client).currentUser = none then { r with awaited := false } else r
      fetched :=
        match s.toAccounts.loads ev with
        | none => s.fetched
        | some (c, d) => Function.update s.fetched c d }
  | .deleteUser c =>
    match (s.clients c).currentUser with
    | none => none
    | some me => some (s.ask c [.archive me (s.fetched c)])
  | .succeed i =>
    match s.removals[i]? with
    | none => none
    | some x => some ({ s with removals := s.removals.eraseIdx i }.perform x)
  | .fail i =>
    if i < s.removals.length then some { s with removals := s.removals.eraseIdx i } else none

/-- Before anything happened, and nothing deleted. -/
structure Initial (s : Registry) : Prop where
  accounts : s.toAccounts.Initial
  deletedUsers : ∀ id, s.deletedUsers id = none
  removals : s.removals = []
  lastContent : ∀ id, s.lastContent id = none

/-- Accounts nobody has logged in to, and none deleted. -/
def signedUp (ids : List UserID) : Registry :=
  { Accounts.signedUp ids with
    deletedUsers := fun _ => none
    removals := []
    fetched := fun _ => none
    archivedFrom := fun _ => none
    lastContent := fun _ => none }

/-- They are accounts before anything happened. -/
theorem signedUp_initial (ids : List UserID) : (signedUp ids).Initial where
  accounts := Accounts.signedUp_initial ids
  deletedUsers _ := rfl
  removals := rfl
  lastContent _ := rfl

/-! ### What a step can do -/

section Step
variable {s t : Registry}

/-- Whatever happens to the accounts, the deletions stay as they are, but for who awaits them. -/
theorem step_account {ev : AccountEvent} (h : s.step (.account ev) = some t) :
    ∃ x, s.toAccounts.step ev = some x ∧ t = { s with
      toAccounts := x
      removals := s.removals.map fun r =>
        if (x.clients r.client).currentUser = none then { r with awaited := false } else r
      fetched :=
        match s.toAccounts.loads ev with
        | none => s.fetched
        | some (c, d) => Function.update s.fetched c d } := by
  obtain ⟨x, hx, rfl⟩ := Option.map_eq_some_iff.mp h
  exact ⟨x, hx, rfl⟩

/-- A deletion asks for the archive of the user in memory. -/
theorem step_deleteUser {c : ClientID} (h : s.step (.deleteUser c) = some t) :
    ∃ me, (s.clients c).currentUser = some me ∧ t = s.ask c [.archive me (s.fetched c)] := by
  simp only [step] at h
  split at h
  · cases h
  · next me hme => exact ⟨me, hme, (Option.some.inj h).symm⟩

/-- A request that succeeds is taken out first. -/
theorem step_succeed {i : Nat} (h : s.step (.succeed i) = some t) :
    ∃ x, s.removals[i]? = some x ∧
      t = ({ s with removals := s.removals.eraseIdx i } : Registry).perform x := by
  simp only [step] at h
  split at h
  · cases h
  · next x hx => exact ⟨x, hx, (Option.some.inj h).symm⟩

/-- A request that fails is taken out, and that is all. -/
theorem step_fail {i : Nat} (h : s.step (.fail i) = some t) :
    t = { s with removals := s.removals.eraseIdx i } := by
  simp only [step, Option.ite_none_right_eq_some, Option.some.injEq] at h
  exact h.2.symm

/-- What an answer does: it archives and asks for what archives nothing, or deletes a document, or
neither; and it may sign out. -/
theorem perform_cases (s : Registry) (x : RemovalRequest) :
    (∃ user fetched removals, x.removal = .archive user fetched ∧
      (∀ user fetched, Removal.archive user fetched ∉ removals) ∧
      s.perform x = ask { s with
        deletedUsers := setData s.deletedUsers user.uuid user.toDocument
        archivedFrom := Function.update s.archivedFrom user.uuid fetched } x.client removals) ∨
    ∃ y, (s.perform x = y ∨ s.perform x = y.signOut x.client) ∧ (y = s ∨ ∃ user, y = { s with
      users := Base.deleteDocument s.users user
      lastContent :=
        Function.update s.lastContent user ((s.users user).or (s.lastContent user)) }) := by
  rw [perform]
  cases hremoval : x.removal with
  | archive user fetched =>
    left
    by_cases hawaited : x.awaited = true
    · refine ⟨user, fetched, _, rfl, ?_, if_pos hawaited⟩
      intro user' fetched' hmem
      simp at hmem
    · refine ⟨user, fetched, [], rfl, fun _ _ => List.not_mem_nil, ?_⟩
      dsimp only
      rw [if_neg hawaited, ask, List.map_nil, List.append_nil]
  | deleteDocument user =>
    right
    refine ⟨_, ?_, .inr ⟨user, rfl⟩⟩
    dsimp only
    split
    · exact .inr rfl
    · exact .inl rfl
  | deleteAccount authID =>
    right
    refine ⟨s, ?_, .inl rfl⟩
    dsimp only
    split
    · exact .inr rfl
    · exact .inl rfl

end Step

end Registry

end DriveTribe
