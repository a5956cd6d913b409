import DriveTribe.Accounts.Rows
import DriveTribe.Carpools.Membership

/-!
# Accounts and carpools on the same processes

Both controllers of a process live as long as the process: a log-in changes the user and
leaves what is staged for a carpool alone. Passengers are selected from the friends that were
fetched for whoever was logged in. A block or an unfriending starts the removal from common
carpools, and a process that ends loses both controllers.
-/

namespace DriveTribe

open Base

namespace Accounts

/-- Handling the acknowledgement reads a staged coordinate that is not there.
`UserController.swift:615`, `:621`. -/
def traps (s : Accounts) (c : ClientID) : UserWrite → Bool
  | .deleteLocation _ => (s.lastCurrentLocation c)[0]?.isNone
  | .addLatitude _ _ => (s.lastCurrentLocation c)[1]?.isNone
  | .createUser _ | .updateUserProfile _ _ _ _ _ | .addLongitude _ _ => false

/-- The process that the event ends. -/
def ends (s : Accounts) : AccountEvent → Option ClientID
  | .stop c => some c
  | .landUpdate i => s.updates[i]?.bind fun u =>
    if u.awaited && s.traps u.client u.write then some u.client else none
  | _ => none

/-- The removals from carpools that an operation starts on a process.
`UserController.swift:431`, `:465`. -/
def removals (s : Accounts) (c : ClientID) : AccountEvent → List Callback
  | .relation (.call c' .blockUser user) | .relation (.call c' .unfriendUser user) =>
    if c' = c then ((s.clients c).currentUser.map fun me => .removal me.uuid user).toList else []
  | _ => []

end Accounts

/-- The accounts, and the carpools of the same clients. -/
structure Service extends Accounts where
  rides : CarpoolSystem

/-- What can happen next. -/
inductive ServiceEvent where
  | account (ev : AccountEvent)
  | carpool (ev : CarpoolEvent)
  deriving DecidableEq, Repr

namespace Service

/-- The carpools after an event of the accounts has led to `t`. Both controllers see one
`UserController.shared.currentUser`. -/
def follow (s : Service) (ev : AccountEvent) (t : Accounts) : CarpoolSystem :=
  { s.rides with
    clients := fun c =>
      if s.ends ev = some c then { currentUser := (t.clients c).currentUser }
      else { s.rides.clients c with
        currentUser := (t.clients c).currentUser
        callbacks := (s.rides.clients c).callbacks ++ s.removals c ev } }

/-- Passengers are selected from the friends fetched for whoever is logged in,
`AddPassengerViewController.swift:60`, `:92`; what comes of an event of the accounts is no event
of the carpools. -/
def Offers (s : Service) : CarpoolEvent → Prop
  | .addPassenger c passenger =>
    (s.clients c).currentUser.isSome = true ∧ passenger ∈ (s.clients c).rows .friends
  | .fetchCurrentUser _ _ | .blockOrUnfriend _ _ => False
  | _ => True

instance (s : Service) : ∀ ev, Decidable (s.Offers ev)
  | .addPassenger c passenger => inferInstanceAs (Decidable
      ((s.clients c).currentUser.isSome = true ∧ passenger ∈ (s.clients c).rows .friends))
  | .fetchCurrentUser _ _ | .blockOrUnfriend _ _ => .isFalse id
  | .setOptions _ _ _ _ | .selectDestination _ _ | .createCarpool _ _ _
  | .fetchGroupsForCurrentUser _ | .snapshot _ _ | .delete _ _ | .progress _ _ | .readFailed _ _
  | .land _ => .isTrue True.intro

/-- One event. -/
def step (s : Service) : ServiceEvent → Option Service
  | .account ev => (s.toAccounts.step ev).map fun t => { toAccounts := t, rides := s.follow ev t }
  | .carpool ev =>
    if s.Offers ev then (s.rides.step ev).map fun rides => { s with rides } else none

/-- Before anything happened. -/
structure Initial (s : Service) : Prop where
  accounts : s.toAccounts.Initial
  rides : s.rides.Initial

/-- Accounts nobody has logged in to, and no carpools. -/
def signedUp (ids : List UserID) : Service where
  toAccounts := Accounts.signedUp ids
  rides := CarpoolSystem.unused

/-- That is a service before anything happened. -/
theorem signedUp_initial (ids : List UserID) : (signedUp ids).Initial where
  accounts := Accounts.signedUp_initial ids
  rides := CarpoolSystem.unused_initial

/-! ### What a step can do -/

section Step
variable {s t : Service}

/-- An event of the accounts is one, and the carpools follow. -/
theorem step_account {ev : AccountEvent} (h : s.step (.account ev) = some t) :
    ∃ x, s.toAccounts.step ev = some x ∧ t = { toAccounts := x, rides := s.follow ev x } := by
  obtain ⟨x, hx, rfl⟩ := Option.map_eq_some_iff.mp h
  exact ⟨x, hx, rfl⟩

/-- An event of the carpools is one that is offered, and leaves the accounts alone. -/
theorem step_carpool {ev : CarpoolEvent} (h : s.step (.carpool ev) = some t) :
    s.Offers ev ∧ ∃ rides, s.rides.step ev = some rides ∧ t = { s with rides } := by
  simp only [step] at h
  split at h
  · next hoffers =>
    obtain ⟨rides, hrides, rfl⟩ := Option.map_eq_some_iff.mp h
    exact ⟨hoffers, rides, hrides, rfl⟩
  · cases h

end Step

/-- `a` and `b` become friends, and `a` selects `b` as a passenger. -/
def friendStaged : List ServiceEvent :=
  [.account (.relation (.read (.fetchCurrentUser 0 "a"))),
    .account (.relation (.read (.fetchCurrentUser 1 "b"))),
    .account (.relation (.read (.fetchSpecificUsersBySearchTerm 0 "b"))),
    .account (.relation (.call 0 .sendFriendRequest "b")),
    .account (.relation (.land 0)), .account (.relation (.land 0)),
    .account (.relation (.read (.fetchList 1 .friendsRequestReceived))),
    .account (.relation (.call 1 .acceptFriendRequest "a")),
    .account (.relation (.land 0)), .account (.relation (.land 0)),
    .account (.relation (.land 0)), .account (.relation (.land 0)),
    .account (.relation (.read (.fetchList 0 .friends))),
    .carpool (.selectDestination 0 ⟨some "d", ⟨0⟩, ⟨0⟩⟩), .carpool (.addPassenger 0 "b")]

end Service

end DriveTribe
