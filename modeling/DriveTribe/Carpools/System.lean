import Mathlib.Data.List.Dedup
import DriveTribe.Base.Run
import DriveTribe.Base.Outbox
import DriveTribe.Carpools.Controller

/-!
# Clients that share carpools

A carpool is stored with its driver and passengers; the groups of a user list the carpools
he is a member of. Clients create, list, delete and leave carpools, and remove each other
from them after a block or an unfriending. A write is in flight until its acknowledgement
has been handled; the writes of one client are served in the order of issue.
-/

namespace DriveTribe

open Base

/-- The carpools collection, the groups of each user, and the messages of each carpool. -/
structure CarpoolStore where
  carpools : CarpoolID → Option CarpoolDocument
  groups : UserID → List CarpoolID
  messages : CarpoolID → List MessageEntry

namespace CarpoolStore

/-- The decoded document of a carpool. -/
def carpool? (x : CarpoolStore) (id : CarpoolID) : Option Carpool :=
  (x.carpools id).bind Carpool.ofDocument

/-- Change the groups of one user. A group entry has no content. -/
def changeGroups (x : CarpoolStore) (user : UserID) (f : FieldValue CarpoolID) : CarpoolStore :=
  { x with groups := Function.update x.groups user (f.apply (x.groups user)) }

end CarpoolStore

/-- The write lands; an update of a missing carpool fails. -/
def CarpoolWrite.land (w : CarpoolWrite) (x : CarpoolStore) : Option CarpoolStore :=
  match w with
  | .setCarpool carpool =>
    some { x with carpools := setData x.carpools carpool.uuid carpool.toDocument }
  | .addMessage id entry =>
    some { x with messages := Function.update x.messages id (x.messages id ++ [entry]) }
  | .setGroup user id => some (x.changeGroups user (.arrayUnion id))
  | .deleteGroup user id => some (x.changeGroups user (.arrayRemove id))
  | .deleteCarpool id => some { x with carpools := deleteDocument x.carpools id }
  | .deleteNewMessage _ => some x
  | .removePassenger id user =>
    (updateData x.carpools id fun d => d.removePassenger user).map fun carpools =>
      { x with carpools }

/-- An answer a client waits for, or has received and not yet handled. -/
inductive Callback where
  /-- The read of a carpool listed in a snapshot of the groups. -/
  | listed (id : CarpoolID)
  | listedAnswer (carpool : Carpool)
  /-- `deleteUserFromCarpoolAfterBlockOrDeleleteOrUnFriend`: the groups of `me` are read. -/
  | removal (me user : UserID)
  /-- One of these carpools is read. -/
  | removalCarpool (me user : UserID) (id : CarpoolID)
  | removalAnswer (me user : UserID) (carpool : Carpool)
  deriving DecidableEq, Repr

namespace Callback

/-- What is asked for next, as the store answers. -/
def next (store : CarpoolStore) : Callback → List Callback
  | .listed id => (store.carpool? id).toList.map .listedAnswer
  | .removal me user => (store.groups me).map (.removalCarpool me user)
  | .removalCarpool me user id => (store.carpool? id).toList.map (.removalAnswer me user)
  | .listedAnswer _ | .removalAnswer _ _ _ => []

/-- What is written. -/
def writes : Callback → List CarpoolWrite
  | .removalAnswer me user carpool => deleteUserFromCarpool me user carpool
  | .listed _ | .listedAnswer _ | .removal _ _ | .removalCarpool _ _ _ => []

end Callback

/-- What a client holds of the carpool data. -/
structure CarpoolClient where
  /-- `UserController.shared.currentUser`. -/
  currentUser : Option User := none
  controller : CarpoolController := {}
  /-- The users whose groups are listened to. -/
  listeners : List UserID := []
  callbacks : List Callback := []
  /-- Every carpool a row has shown. -/
  shown : List Carpool := []
  deriving DecidableEq, Repr

/-- Any number of processes of the app. -/
abbrev CarpoolClientID := Nat

/-- A write that has not been acknowledged. -/
structure CarpoolInFlight where
  client : CarpoolClientID
  write : CarpoolWrite
  deriving DecidableEq, Repr

/-- The store, the clients and the writes between them. -/
structure CarpoolSystem where
  store : CarpoolStore
  clients : CarpoolClientID → CarpoolClient
  outbox : List CarpoolInFlight
  /-- Every carpool that was created. -/
  created : List Carpool
  /-- Every id that was ever drawn. -/
  used : List CarpoolID

/-- What can happen next. -/
inductive CarpoolEvent where
  | fetchCurrentUser (c : CarpoolClientID) (user : User)
  | setOptions (c : CarpoolClientID) (title : String) (modeSegment typeSegment : Nat)
  | selectDestination (c : CarpoolClientID) (destination : MapItem)
  | addPassenger (c : CarpoolClientID) (passenger : UserID)
  | createCarpool (c : CarpoolClientID) (uniquePassengers : List UserID) (new : NewIDs)
  | fetchGroupsForCurrentUser (c : CarpoolClientID)
  /-- A snapshot of the groups of `user`, whom the client listens to. -/
  | snapshot (c : CarpoolClientID) (user : UserID)
  | delete (c : CarpoolClientID) (carpool : Carpool)
  /-- A block or an unfriending; nobody is offered himself. -/
  | blockOrUnfriend (c : CarpoolClientID) (user : UserID)
  /-- The `i`-th callback moves on. -/
  | progress (c : CarpoolClientID) (i : Nat)
  /-- The `i`-th callback ends with an error. -/
  | readFailed (c : CarpoolClientID) (i : Nat)
  | land (i : Nat)
  deriving DecidableEq, Repr

namespace CarpoolSystem

/-- The decoded document of a carpool. -/
def carpool? (s : CarpoolSystem) (id : CarpoolID) : Option Carpool := s.store.carpool? id

/-- Replace the state of one client. -/
def setClient (s : CarpoolSystem) (c : CarpoolClientID) (client : CarpoolClient) : CarpoolSystem :=
  { s with clients := Function.update s.clients c client }

/-- Send out writes of a client. -/
def issue (s : CarpoolSystem) (c : CarpoolClientID) (ws : List CarpoolWrite) : CarpoolSystem :=
  { s with outbox := s.outbox ++ ws.map (⟨c, ·⟩) }

/-- Handle the acknowledgement of a write at its client. -/
def acknowledge (s : CarpoolSystem) (c : CarpoolClientID) : CarpoolWrite → CarpoolSystem
  | .setCarpool carpool =>
    s.issue c ((s.clients c).controller.carpoolCreated (s.clients c).currentUser carpool)
  | .deleteCarpool id =>
    s.setClient c
      { s.clients c with controller := (s.clients c).controller.carpoolDeleted id }
  | _ => s

/-- Move on the `i`-th callback of a client: read what it asks for, or handle what was
read. `none` where there is no such callback. -/
def progress (s : CarpoolSystem) (c : CarpoolClientID) (i : Nat) : Option CarpoolSystem :=
  let client := s.clients c
  let rest := client.callbacks.eraseIdx i
  match client.callbacks[i]? with
  | none => none
  | some (.listed id) =>
    some (s.setClient c
      { client with callbacks := rest ++ (s.carpool? id).toList.map .listedAnswer })
  | some (.listedAnswer carpool) =>
    some (s.setClient c
      { client with
        callbacks := rest
        controller := client.controller.carpoolRead (.snapshot (some carpool.toDocument))
        shown := client.shown ++ [carpool] })
  | some (.removal me user) =>
    some (s.setClient c
      { client with callbacks := rest ++ (s.store.groups me).map (.removalCarpool me user) })
  | some (.removalCarpool me user id) =>
    some (s.setClient c
      { client with callbacks := rest ++ (s.carpool? id).toList.map (.removalAnswer me user) })
  | some (.removalAnswer me user carpool) =>
    some ((s.setClient c { client with callbacks := rest }).issue c
      (deleteUserFromCarpool me user carpool))

/-- One event. -/
def step (s : CarpoolSystem) : CarpoolEvent → Option CarpoolSystem
  | .fetchCurrentUser c user =>
    some (s.setClient c { s.clients c with currentUser := some user })
  | .setOptions c title modeSegment typeSegment =>
    some (s.setClient c { s.clients c with
      controller := (s.clients c).controller.setOptions title modeSegment typeSegment })
  | .selectDestination c destination =>
    some (s.setClient c { s.clients c with
      controller := (s.clients c).controller.selectDestination destination })
  | .addPassenger c passenger =>
    some (s.setClient c { s.clients c with
      controller := (s.clients c).controller.addPassenger passenger })
  | .createCarpool c uniquePassengers new =>
    if uniquePassengers.Perm (s.clients c).controller.passengers.dedup ∧ new.uuid ∉ s.used then
      match (s.clients c).controller.createCarpool (s.clients c).currentUser uniquePassengers
        new with
      | none => some s
      | some (carpool, message, controller) =>
        some (({ s with
            created := s.created ++ [carpool]
            used := s.used ++ [new.uuid] }.setClient c
          { s.clients c with controller }).issue c
            (CarpoolController.creationWrites carpool message))
    else none
  | .fetchGroupsForCurrentUser c =>
    some (s.setClient c { s.clients c with
      listeners := (s.clients c).listeners ++ ((s.clients c).currentUser.map User.uuid).toList })
  | .snapshot c user =>
    if user ∈ (s.clients c).listeners then
      some (s.setClient c { s.clients c with
        controller := (s.clients c).controller.groupsChanged
        callbacks := (s.clients c).callbacks ++ (s.store.groups user).map .listed })
    else none
  | .delete c carpool =>
    if carpool ∈ (s.clients c).shown then
      let (ws, controller) :=
        (s.clients c).controller.delete (s.clients c).currentUser carpool
      some ((s.setClient c { s.clients c with controller }).issue c ws)
    else none
  | .blockOrUnfriend c user =>
    match (s.clients c).currentUser with
    | none => none
    | some me =>
      if user ≠ me.uuid then
        some (s.setClient c { s.clients c with
          callbacks := (s.clients c).callbacks ++ [.removal me.uuid user] })
      else none
  | .progress c i => s.progress c i
  | .readFailed c i =>
    some (s.setClient c
      { s.clients c with callbacks := (s.clients c).callbacks.eraseIdx i })
  | .land i =>
    match takeOut CarpoolInFlight.client s.outbox i with
    | none => none
    | some (x, rest) =>
      (x.write.land s.store).map fun store =>
        ({ s with store, outbox := rest }).acknowledge x.client x.write

/-- The client that was replaced. -/
@[simp] theorem clients_setClient_self (s : CarpoolSystem) (c : CarpoolClientID)
    (client : CarpoolClient) : (s.setClient c client).clients c = client :=
  Function.update_self ..

/-- Replacing a client by itself changes nothing. -/
theorem setClient_clients (s : CarpoolSystem) (c : CarpoolClientID) :
    s.setClient c (s.clients c) = s := by
  rw [setClient, Function.update_eq_self]

/-- The clients that were not. -/
theorem clients_setClient_of_ne (s : CarpoolSystem) {c c' : CarpoolClientID}
    (client : CarpoolClient) (h : c' ≠ c) : (s.setClient c client).clients c' = s.clients c' :=
  Function.update_of_ne h ..

private theorem store_acknowledge (s : CarpoolSystem) (c : CarpoolClientID) (w : CarpoolWrite) :
    (s.acknowledge c w).store = s.store := by
  cases w <;> rfl

/-- A creation writes what it has made of the staged options, or is not made. -/
theorem step_createCarpool {s t : CarpoolSystem} {c : CarpoolClientID}
    {uniquePassengers : List UserID} {new : NewIDs}
    (h : s.step (.createCarpool c uniquePassengers new) = some t) :
    uniquePassengers.Perm (s.clients c).controller.passengers.dedup ∧ new.uuid ∉ s.used ∧
      (t = s ∨ ∃ carpool message controller,
        (s.clients c).controller.createCarpool (s.clients c).currentUser uniquePassengers new =
          some (carpool, message, controller) ∧
        t = ({ s with
            created := s.created ++ [carpool]
            used := s.used ++ [new.uuid] }.setClient c { s.clients c with controller }).issue c
          (CarpoolController.creationWrites carpool message)) := by
  simp only [step, Option.ite_none_right_eq_some] at h
  obtain ⟨⟨hunique, hnew⟩, h⟩ := h
  refine ⟨hunique, hnew, ?_⟩
  split at h
  · exact .inl (Option.some.inj h).symm
  · next carpool message controller hcreate =>
    exact .inr ⟨carpool, message, controller, hcreate, (Option.some.inj h).symm⟩

/-- A snapshot goes to a client that listens to the groups of the user. -/
theorem step_snapshot {s t : CarpoolSystem} {c : CarpoolClientID} {user : UserID}
    (h : s.step (.snapshot c user) = some t) :
    user ∈ (s.clients c).listeners ∧
      t = s.setClient c { s.clients c with
        controller := (s.clients c).controller.groupsChanged
        callbacks := (s.clients c).callbacks ++ (s.store.groups user).map .listed } := by
  simp only [step, Option.ite_none_right_eq_some, Option.some.injEq] at h
  exact ⟨h.1, h.2.symm⟩

/-- A deletion is of a carpool that was shown. -/
theorem step_delete {s t : CarpoolSystem} {c : CarpoolClientID} {carpool : Carpool}
    (h : s.step (.delete c carpool) = some t) :
    carpool ∈ (s.clients c).shown ∧
      t = (s.setClient c { s.clients c with
          controller :=
            ((s.clients c).controller.delete (s.clients c).currentUser carpool).2 }).issue c
        ((s.clients c).controller.delete (s.clients c).currentUser carpool).1 := by
  simp only [step, Option.ite_none_right_eq_some, Option.some.injEq] at h
  exact ⟨h.1, h.2.symm⟩

/-- A block or an unfriending asks for the groups, on behalf of somebody else. -/
theorem step_blockOrUnfriend {s t : CarpoolSystem} {c : CarpoolClientID} {user : UserID}
    (h : s.step (.blockOrUnfriend c user) = some t) :
    ∃ me, (s.clients c).currentUser = some me ∧ user ≠ me.uuid ∧
      t = s.setClient c { s.clients c with
        callbacks := (s.clients c).callbacks ++ [.removal me.uuid user] } := by
  simp only [step] at h
  split at h
  · cases h
  · next me hme =>
    simp only [Option.ite_none_right_eq_some, Option.some.injEq] at h
    exact ⟨me, hme, h.1, h.2.symm⟩

/-- A write is taken out, lands and is acknowledged. -/
theorem step_land {s t : CarpoolSystem} {i : Nat} (h : s.step (.land i) = some t) :
    ∃ x rest store, takeOut CarpoolInFlight.client s.outbox i = some (x, rest) ∧
      x.write.land s.store = some store ∧
      t = ({ s with store, outbox := rest } : CarpoolSystem).acknowledge x.client x.write := by
  simp only [step] at h
  split at h
  · cases h
  · next x rest hx =>
    obtain ⟨store, hland, rfl⟩ := Option.map_eq_some_iff.mp h
    exact ⟨x, rest, store, hx, hland, rfl⟩

/-- A callback that moves on is taken out, asks for what is next, and writes. -/
theorem progress_eq_some {s t : CarpoolSystem} {c : CarpoolClientID} {i : Nat}
    (h : s.progress c i = some t) :
    ∃ callback, (s.clients c).callbacks[i]? = some callback ∧ t.store = s.store ∧
      t.outbox = s.outbox ++ callback.writes.map (⟨c, ·⟩) ∧
      (t.clients c).callbacks = (s.clients c).callbacks.eraseIdx i ++ callback.next s.store := by
  simp only [progress] at h
  cases hget : (s.clients c).callbacks[i]? with
  | none => simp only [hget, reduceCtorEq] at h
  | some callback =>
    refine ⟨callback, rfl, ?_⟩
    cases callback <;> simp only [hget, Option.some.injEq] at h <;> subst h <;>
      simp [setClient, issue, Callback.writes, Callback.next, carpool?]

private theorem store_progress {s t : CarpoolSystem} {c : CarpoolClientID} {i : Nat}
    (h : s.progress c i = some t) : t.store = s.store := by
  obtain ⟨_, -, hstore, -⟩ := progress_eq_some h
  exact hstore

/-- An event that lands nothing leaves the store alone. -/
theorem store_eq_of_step {s t : CarpoolSystem} {ev : CarpoolEvent} (hev : ∀ i, ev ≠ .land i)
    (h : s.step ev = some t) : t.store = s.store := by
  cases ev with
  | land i => exact absurd rfl (hev i)
  | progress c i => exact store_progress h
  | createCarpool c uniquePassengers new =>
    obtain ⟨-, -, rfl | ⟨carpool, message, controller, -, rfl⟩⟩ := step_createCarpool h
    · rfl
    · rfl
  | snapshot c user =>
    obtain ⟨-, rfl⟩ := step_snapshot h
    rfl
  | delete c carpool =>
    obtain ⟨-, rfl⟩ := step_delete h
    rfl
  | blockOrUnfriend c user =>
    obtain ⟨me, -, -, rfl⟩ := step_blockOrUnfriend h
    rfl
  | fetchCurrentUser _ _ | setOptions _ _ _ _ | selectDestination _ _ | addPassenger _ _
  | fetchGroupsForCurrentUser _ | readFailed _ _ => exact Option.some.inj h ▸ rfl

/-- A write that lands changes the store as it says. -/
theorem store_land {s t : CarpoolSystem} {i : Nat} (h : s.step (.land i) = some t) :
    ∃ x, s.outbox[i]? = some x ∧ x.write.land s.store = some t.store := by
  obtain ⟨x, rest, store, hx, hland, rfl⟩ := step_land h
  refine ⟨x, takeOut_getElem? hx, ?_⟩
  rw [store_acknowledge]
  exact hland

/-- Before anything happened: no carpools; a group entry, if there is one, has an id of
its own (`UserController.swift:44`). -/
structure Initial (s : CarpoolSystem) : Prop where
  carpools : ∀ id, s.store.carpools id = none
  groups : ∀ {user id}, id ∈ s.store.groups user → id ∈ s.used
  clients : ∀ c, s.clients c = {}
  outbox : s.outbox = []
  created : s.created = []

end CarpoolSystem

end DriveTribe
