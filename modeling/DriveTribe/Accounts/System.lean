import DriveTribe.Accounts.Updates
import DriveTribe.Relations.System

/-!
# Clients that sign up and update their documents

On top of the friend operations: sign-ups, and updates of the profile and of the location.
A sign-up creates an account and then, with what is staged by then, the users document. An
update of the location starts with one write and goes on with the next as each is
acknowledged; what it writes is what is staged by then. A write lands and its acknowledgement
is handled in one step. Writes outside the friend operations land in any order.
-/

namespace DriveTribe

open Base

/-- A sign-up whose account is not created yet. -/
structure SignUp where
  client : ClientID
  firstName : String
  lastName : String
  userName : String
  deriving DecidableEq, Repr

/-- A write that is neither landed nor failed; nobody awaits the acknowledgement once the app
has stopped. -/
structure UserUpdate where
  client : ClientID
  write : UserWrite
  awaited : Bool := true
  deriving DecidableEq, Repr

/-- The friend operations with the accounts around them. The last three fields are history:
the ids that were drawn, the accounts that were created, and the arguments of every
`updateUserLocation` of a user, oldest first. -/
structure Accounts extends System where
  /-- `UserController.shared.lastCurrentLocation`. -/
  lastCurrentLocation : ClientID → List Double
  signUps : List SignUp
  updates : List UserUpdate
  usedIDs : List UserID
  usedAuthIDs : List String
  arguments : UserID → List (List Double)

/-- What can happen next. -/
inductive AccountEvent where
  | relation (ev : Event)
  /-- A place is selected, or the device is located. -/
  | locate (c : ClientID) (latitude longitude : Double)
  | signUp (c : ClientID) (firstName lastName userName : String)
  | accountCreated (i : Nat) (authID : String) (uuid : UserID)
  | accountRefused (i : Nat)
  | updateUserProfile (c : ClientID) (firstName lastName userName carInfo : String)
  | updateUserLocation (c : ClientID) (lastCurrentLocation : List Double)
  | landUpdate (i : Nat)
  | failUpdate (i : Nat)
  /-- The app stops on a client. -/
  | stop (c : ClientID)
  deriving DecidableEq, Repr

namespace Accounts

/-- Replace the state of one client. -/
def setClient (s : Accounts) (c : ClientID) (client : Client) : Accounts :=
  { s with clients := Function.update s.clients c client }

/-- Send out a write. -/
def send (s : Accounts) (c : ClientID) (write : UserWrite) : Accounts :=
  { s with updates := s.updates ++ [{ client := c, write }] }

/-- The process ends. What it has sent may still land. -/
def stopped (s : Accounts) (c : ClientID) : Accounts :=
  { s.setClient c Client.loggedOut with
    lastCurrentLocation := Function.update s.lastCurrentLocation c []
    signUps := s.signUps.filter fun x => x.client ≠ c
    updates := s.updates.map fun u => if u.client = c then { u with awaited := false } else u }

/-- Handle the acknowledgement of a write. The new user is shown new screens,
`SignupViewController.swift:223–230`. A location is read from what is staged now, not from the
argument, and the subscript traps where nothing is staged. `UserController.swift:615`, `:621`. -/
def acknowledge (s : Accounts) (c : ClientID) : UserWrite → Accounts
  | .createUser account =>
    s.setClient c ⟨(s.clients c).auth, some account.newUser, [], fun _ => []⟩
  | .deleteLocation user =>
    match (s.lastCurrentLocation c)[0]? with
    | none => s.stopped c
    | some latitude => s.send c (.addLatitude user latitude)
  | .addLatitude user _ =>
    match (s.lastCurrentLocation c)[1]? with
    | none => s.stopped c
    | some longitude => s.send c (.addLongitude user longitude)
  | .updateUserProfile _ _ _ _ _ | .addLongitude _ _ => s

/-- One event. The sign-up button needs a staged location, `SignupViewController.swift:219`; a
created account is signed in to, takes what is staged by then and clears it,
`UserController.swift:36–37`. New ids and accounts are unused ones. -/
def step (s : Accounts) : AccountEvent → Option Accounts
  | .relation ev => (s.toSystem.step ev).map fun x => { s with toSystem := x }
  | .locate c latitude longitude =>
    some { s with
      lastCurrentLocation := Function.update s.lastCurrentLocation c [latitude, longitude] }
  | .signUp c firstName lastName userName =>
    if s.lastCurrentLocation c ≠ [] then
      some { s with signUps := s.signUps ++ [⟨c, firstName, lastName, userName⟩] }
    else none
  | .accountCreated i authID uuid =>
    match s.signUps[i]? with
    | none => none
    | some x =>
      if authID ∉ s.usedAuthIDs ∧ uuid ∉ s.usedIDs then
        let account : NewAccount :=
          ⟨x.firstName, x.lastName, x.userName, s.lastCurrentLocation x.client, uuid, authID⟩
        some ({ s.setClient x.client { s.clients x.client with auth := some authID } with
          lastCurrentLocation := Function.update s.lastCurrentLocation x.client []
          signUps := s.signUps.eraseIdx i
          usedIDs := s.usedIDs ++ [uuid]
          usedAuthIDs := s.usedAuthIDs ++ [authID] }.send x.client (.createUser account))
      else none
  | .accountRefused i =>
    if i < s.signUps.length then some { s with signUps := s.signUps.eraseIdx i } else none
  | .updateUserProfile c firstName lastName userName carInfo =>
    match (s.clients c).currentUser with
    | none => some s
    | some me => some (s.send c (.updateUserProfile me.uuid firstName lastName userName carInfo))
  | .updateUserLocation c lastCurrentLocation =>
    match (s.clients c).currentUser with
    | none => some s
    | some me =>
      let calls := s.arguments me.uuid ++ [lastCurrentLocation]
      some ({ s with arguments := Function.update s.arguments me.uuid calls }.send c
        (.deleteLocation me.uuid))
  | .landUpdate i =>
    match s.updates[i]? with
    | none => none
    | some u =>
      (u.write.land s.users).map fun users =>
        let landed : Accounts := { s with users, updates := s.updates.eraseIdx i }
        if u.awaited then landed.acknowledge u.client u.write else landed
  | .failUpdate i =>
    if i < s.updates.length then some { s with updates := s.updates.eraseIdx i } else none
  | .stop c => some (s.stopped c)

/-- Before anything happened: fresh documents, nobody logged in, nothing sent. -/
structure Initial (s : Accounts) : Prop where
  system : s.toSystem.Initial
  signUps : s.signUps = []
  updates : s.updates = []
  usedIDs : ∀ id, s.users id ≠ none → id ∈ s.usedIDs
  usedAuthIDs : ∀ id d, s.users id = some d → ∀ authID, d.authID = some authID →
    authID ∈ s.usedAuthIDs

/-- Accounts nobody has logged in to. -/
def signedUp (ids : List UserID) : Accounts :=
  { System.signedUp ids with
    lastCurrentLocation := fun _ => []
    signUps := []
    updates := []
    usedIDs := ids
    usedAuthIDs := ids
    arguments := fun _ => [] }

/-- They are accounts before anything happened. -/
theorem signedUp_initial (ids : List UserID) : (signedUp ids).Initial where
  system := System.signedUp_initial ids
  signUps := rfl
  updates := rfl
  usedIDs id h := by
    by_contra hid
    exact h (if_neg hid)
  usedAuthIDs id d h authID hauth := by
    simp only [signedUp, System.signedUp, Users.signedUp, Option.ite_none_right_eq_some,
      Option.some.injEq] at h
    rw [← h.2] at hauth
    cases hauth
    exact h.1

/-- The client that was replaced. -/
@[simp] theorem clients_setClient_self (s : Accounts) (c : ClientID) (client : Client) :
    (s.setClient c client).clients c = client :=
  Function.update_self ..

/-- The clients that were not. -/
theorem clients_setClient_of_ne (s : Accounts) {c c' : ClientID} (client : Client) (h : c' ≠ c) :
    (s.setClient c client).clients c' = s.clients c' :=
  Function.update_of_ne h ..

/-! ### What a step leaves alone -/

/-- The relation data is the same: the documents, what is in flight, and the history. -/
structure SameRelations (s t : System) : Prop where
  users : t.users = s.users
  outbox : t.outbox = s.outbox
  log : t.log = s.log
  landed : t.landed = s.landed

/-- Handling an acknowledgement touches no relation data. -/
theorem sameRelations_acknowledge (s : Accounts) (c : ClientID) (w : UserWrite) :
    SameRelations s.toSystem (s.acknowledge c w).toSystem := by
  cases w with
  | createUser account => exact ⟨rfl, rfl, rfl, rfl⟩
  | updateUserProfile | addLongitude => exact ⟨rfl, rfl, rfl, rfl⟩
  | deleteLocation user =>
    rw [acknowledge]
    split <;> exact ⟨rfl, rfl, rfl, rfl⟩
  | addLatitude user x =>
    rw [acknowledge]
    split <;> exact ⟨rfl, rfl, rfl, rfl⟩

/-- Nor does it draw anything or call anything. -/
theorem history_acknowledge (s : Accounts) (c : ClientID) (w : UserWrite) :
    (s.acknowledge c w).usedIDs = s.usedIDs ∧ (s.acknowledge c w).usedAuthIDs = s.usedAuthIDs ∧
      (s.acknowledge c w).arguments = s.arguments := by
  cases w with
  | createUser account => exact ⟨rfl, rfl, rfl⟩
  | updateUserProfile | addLongitude => exact ⟨rfl, rfl, rfl⟩
  | deleteLocation user =>
    rw [acknowledge]
    split <;> exact ⟨rfl, rfl, rfl⟩
  | addLatitude user x =>
    rw [acknowledge]
    split <;> exact ⟨rfl, rfl, rfl⟩

/-- A write outside the friend operations lands, and may be acknowledged. -/
theorem step_landUpdate {s t : Accounts} {i : Nat} (h : s.step (.landUpdate i) = some t) :
    ∃ u users, s.updates[i]? = some u ∧ u.write.land s.users = some users ∧
      t = if u.awaited then
          { s with users, updates := s.updates.eraseIdx i }.acknowledge u.client u.write
        else { s with users, updates := s.updates.eraseIdx i } := by
  simp only [step] at h
  split at h
  · cases h
  · next u hu =>
    obtain ⟨users, husers, rfl⟩ := Option.map_eq_some_iff.mp h
    exact ⟨u, users, hu, husers, rfl⟩

/-- A created account is signed in to, takes what is staged, and sends out its document. -/
theorem step_accountCreated {s t : Accounts} {i : Nat} {authID : String} {uuid : UserID}
    (h : s.step (.accountCreated i authID uuid) = some t) :
    ∃ x, s.signUps[i]? = some x ∧ authID ∉ s.usedAuthIDs ∧ uuid ∉ s.usedIDs ∧
      t = ({ s.setClient x.client { s.clients x.client with auth := some authID } with
        lastCurrentLocation := Function.update s.lastCurrentLocation x.client []
        signUps := s.signUps.eraseIdx i
        usedIDs := s.usedIDs ++ [uuid]
        usedAuthIDs := s.usedAuthIDs ++ [authID] } : Accounts).send x.client
          (.createUser ⟨x.firstName, x.lastName, x.userName, s.lastCurrentLocation x.client, uuid,
            authID⟩) := by
  simp only [step] at h
  split at h
  · cases h
  · next x hx =>
    simp only [Option.ite_none_right_eq_some, Option.some.injEq] at h
    exact ⟨x, hx, h.1.1, h.1.2, h.2.symm⟩

/-- An update of the profile sends out its write, for a client that has a user. -/
theorem step_updateUserProfile {s t : Accounts} {c : ClientID}
    {firstName lastName userName carInfo : String}
    (h : s.step (.updateUserProfile c firstName lastName userName carInfo) = some t) :
    t = s ∨ ∃ me, (s.clients c).currentUser = some me ∧
      t = s.send c (.updateUserProfile me.uuid firstName lastName userName carInfo) := by
  simp only [step] at h
  split at h
  · exact .inl (Option.some.inj h).symm
  · next me hme => exact .inr ⟨me, hme, (Option.some.inj h).symm⟩

/-- An update of the location sends out its first write, for a client that has a user. -/
theorem step_updateUserLocation {s t : Accounts} {c : ClientID} {location : List Double}
    (h : s.step (.updateUserLocation c location) = some t) :
    t = s ∨ ∃ me, (s.clients c).currentUser = some me ∧
      t = ({ s with
        arguments := Function.update s.arguments me.uuid (s.arguments me.uuid ++ [location]) } :
          Accounts).send c (.deleteLocation me.uuid) := by
  simp only [step] at h
  split at h
  · exact .inl (Option.some.inj h).symm
  · next me hme => exact .inr ⟨me, hme, (Option.some.inj h).symm⟩

/-- The event is none of the friend operations and lands nothing. -/
def IsLocal : AccountEvent → Prop
  | .relation _ | .landUpdate _ => False
  | _ => True

/-- An event that is local touches no relation data. -/
theorem sameRelations_step {s t : Accounts} {ev : AccountEvent} (hev : IsLocal ev)
    (h : s.step ev = some t) : SameRelations s.toSystem t.toSystem := by
  cases ev with
  | relation ev => exact absurd hev id
  | landUpdate i => exact absurd hev id
  | locate c latitude longitude | stop c =>
    cases h
    exact ⟨rfl, rfl, rfl, rfl⟩
  | signUp c firstName lastName userName | accountRefused i | failUpdate i =>
    simp only [step, Option.ite_none_right_eq_some, Option.some.injEq] at h
    obtain ⟨-, rfl⟩ := h
    exact ⟨rfl, rfl, rfl, rfl⟩
  | accountCreated i authID uuid =>
    obtain ⟨x, -, -, -, rfl⟩ := step_accountCreated h
    exact ⟨rfl, rfl, rfl, rfl⟩
  | updateUserProfile c firstName lastName userName carInfo =>
    rcases step_updateUserProfile h with rfl | ⟨me, -, rfl⟩ <;> exact ⟨rfl, rfl, rfl, rfl⟩
  | updateUserLocation c location =>
    rcases step_updateUserLocation h with rfl | ⟨me, -, rfl⟩ <;> exact ⟨rfl, rfl, rfl, rfl⟩

/-- A landed update leaves the relation data alone but for the documents, and the history. -/
theorem sameRelations_landUpdate {s t : Accounts} {i : Nat} (h : s.step (.landUpdate i) = some t) :
    ∃ u users, s.updates[i]? = some u ∧ u.write.land s.users = some users ∧
      SameRelations { s.toSystem with users } t.toSystem ∧ t.usedIDs = s.usedIDs ∧
      t.usedAuthIDs = s.usedAuthIDs ∧ t.arguments = s.arguments := by
  obtain ⟨u, users, hu, hland, rfl⟩ := step_landUpdate h
  let landed : Accounts := { s with users, updates := s.updates.eraseIdx i }
  refine ⟨u, users, hu, hland, ?_⟩
  split
  · exact ⟨sameRelations_acknowledge landed u.client u.write,
      history_acknowledge landed u.client u.write⟩
  · exact ⟨⟨rfl, rfl, rfl, rfl⟩, rfl, rfl, rfl⟩

/-- What a step of the friend operations does to the documents: nothing, or a write lands. -/
theorem users_step_relation {s x : System} {ev : Event} (h : s.step ev = some x) :
    x.users = s.users ∨ ∃ i w, ev = .land i ∧ s.outbox[i]? = some w ∧
      w.write.land s.users = some x.users := by
  cases ev with
  | read r =>
    obtain ⟨y, -, husers, rfl⟩ := System.step_read h
    exact .inl husers
  | call c op user =>
    obtain ⟨-, rfl | ⟨me, -, -, rfl⟩⟩ := System.step_call h
    · exact .inl rfl
    · exact .inl rfl
  | land i =>
    obtain ⟨w, rest, users, hw, hland, rfl⟩ := System.step_land h
    exact .inr ⟨i, w, rfl, takeOut_getElem? hw, hland⟩
  | fail i =>
    obtain ⟨w, rest, -, rfl⟩ := System.step_fail h
    exact .inl rfl

/-- What a step does to the documents: nothing, or a write lands, of a friend operation or
another. -/
theorem users_step {s t : Accounts} {ev : AccountEvent} (h : s.step ev = some t) :
    (t.users = s.users ∧ ∀ i, ev ≠ .landUpdate i) ∨
      (∃ i w, ev = .relation (.land i) ∧ s.outbox[i]? = some w ∧
        w.write.land s.users = some t.users) ∨
      ∃ i u, ev = .landUpdate i ∧ s.updates[i]? = some u ∧
        u.write.land s.users = some t.users := by
  by_cases hlocal : IsLocal ev
  · left
    refine ⟨(sameRelations_step hlocal h).users, ?_⟩
    rintro i rfl
    exact hlocal
  · cases ev with
    | relation ev =>
      obtain ⟨x, hx, rfl⟩ := Option.map_eq_some_iff.mp h
      rcases users_step_relation hx with hsame | ⟨i, w, rfl, hw, hland⟩
      · exact .inl ⟨hsame, nofun⟩
      · exact .inr (.inl ⟨i, w, rfl, hw, hland⟩)
    | landUpdate i =>
      obtain ⟨u, users, hu, hland, hsame, -⟩ := sameRelations_landUpdate h
      have husers : t.users = users := hsame.users
      exact .inr (.inr ⟨i, u, rfl, hu, husers ▸ hland⟩)
    | _ => exact absurd True.intro hlocal

end Accounts

end DriveTribe
