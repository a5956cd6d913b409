import DriveTribe.Base.Outbox
import DriveTribe.Relations.Session

/-!
# Concurrent clients

Clients call friend operations; each call puts its writes into the outbox, from where
they land, or fail, one by one. The writes of one client are served in the order of
issue, those of different clients in any order. `log` and `landed` are history: no step
reads them.
-/

namespace DriveTribe

open Base

/-- An operation that was called and passed its guard, numbered in the order of calls. -/
structure Call where
  serial : Nat
  op : RelationOp
  me : UserID
  user : UserID
  deriving DecidableEq, Repr

/-- A write that is neither landed nor failed. -/
structure InFlight where
  client : ClientID
  call : Call
  write : RelationWrite
  deriving DecidableEq, Repr

/-- The store, the clients, and everything between them. -/
structure System extends Session where
  outbox : List InFlight
  /-- Every call so far, oldest first. -/
  log : List Call
  /-- Every write that has landed, oldest first. -/
  landed : List InFlight

/-- What can happen next. -/
inductive Event where
  | read (r : Read)
  | call (c : ClientID) (op : RelationOp) (user : UserID)
  | land (i : Nat)
  | fail (i : Nat)
  deriving DecidableEq, Repr

namespace Event

/-- No write fails. -/
def Succeeds : Event → Prop
  | .fail _ => False
  | _ => True

instance : ∀ ev : Event, Decidable ev.Succeeds
  | .fail _ => .isFalse id
  | .read _ | .call _ _ _ | .land _ => .isTrue True.intro

end Event

namespace System

/-- Record the call and send out its writes. -/
def issue (s : System) (c : ClientID) (op : RelationOp) (me user : UserID)
    (ws : List RelationWrite) : System :=
  let call : Call := ⟨s.log.length, op, me, user⟩
  { s with outbox := s.outbox ++ ws.map (⟨c, call, ·⟩), log := s.log ++ [call] }

/-- One event. A call is enabled on a user the client has been shown; one that its guard
refuses changes nothing. A write of a missing document cannot land, only fail. -/
def step (s : System) : Event → Option System
  | .read r => (s.toSession.read r).map fun x => { s with toSession := x }
  | .call c op user =>
    if user ∈ (s.clients c).offered op then
      match (s.clients c).currentUser, op.call (s.clients c).currentUser user with
      | some me, .issued ws _ => some (s.issue c op me.uuid user (ws.map IssuedWrite.write))
      | _, _ => some s
    else none
  | .land i =>
    match takeOut InFlight.client s.outbox i with
    | none => none
    | some (w, rest) =>
      (w.write.land s.users).map fun users =>
        { s with users, outbox := rest, landed := s.landed ++ [w] }
  | .fail i =>
    (takeOut InFlight.client s.outbox i).map fun (_, rest) => { s with outbox := rest }

/-- Before anything happened: fresh documents, nobody logged in. -/
structure Initial (s : System) : Prop where
  users : s.users.Fresh
  clients : ∀ c, s.clients c = Client.loggedOut
  outbox : s.outbox = []
  log : s.log = []
  landed : s.landed = []

/-- A system of new accounts nobody has logged in to. -/
def signedUp (ids : List UserID) : System :=
  ⟨⟨Users.signedUp ids, fun _ => Client.loggedOut⟩, [], [], []⟩

/-- It is a system before anything happened. -/
theorem signedUp_initial (ids : List UserID) : (signedUp ids).Initial :=
  ⟨Users.signedUp_fresh ids, fun _ => rfl, rfl, rfl, rfl⟩

/-! ### What a step can do -/

/-- A read moves only the client that reads. -/
theorem step_read {s t : System} {r : Read} (h : step s (.read r) = some t) :
    ∃ x, s.toSession.read r = some x ∧ x.users = s.users ∧ t = { s with toSession := x } := by
  obtain ⟨x, hx, rfl⟩ := Option.map_eq_some_iff.mp h
  exact ⟨x, hx, Session.users_read hx, rfl⟩

/-- A call is refused and changes nothing, or issues the writes of its operation. -/
theorem step_call {s t : System} {c : ClientID} {op : RelationOp} {user : UserID}
    (h : step s (.call c op user) = some t) :
    user ∈ (s.clients c).offered op ∧
      (t = s ∨ ∃ me, (s.clients c).currentUser = some me ∧
        (op = .sendFriendRequest →
          user ∉ me.friends ∧ user ∉ me.friendsRequestSent ∧ user ∉ me.blockedUsers) ∧
        t = s.issue c op me.uuid user (op.writes me.uuid user)) := by
  simp only [step] at h
  split at h
  · next hoffered =>
    refine ⟨hoffered, ?_⟩
    split at h
    · next me ws completes hme hcall =>
      obtain ⟨me', hme', hws, hguard⟩ := RelationOp.call_issued hcall
      rw [hme, Option.some.injEq] at hme'
      subst me'
      rw [Option.some.injEq, hws] at h
      exact .inr ⟨me, hme, hguard, h.symm⟩
    · rw [Option.some.injEq] at h
      exact .inl h.symm
  · cases h

/-- A landing takes a write out of the outbox, the first of its client, and applies it. -/
theorem step_land {s t : System} {i : Nat} (h : step s (.land i) = some t) :
    ∃ w rest users, takeOut InFlight.client s.outbox i = some (w, rest) ∧
      w.write.land s.users = some users ∧
      t = { s with users, outbox := rest, landed := s.landed ++ [w] } := by
  simp only [step] at h
  split at h
  · cases h
  · next w rest hw =>
    obtain ⟨users, husers, rfl⟩ := Option.map_eq_some_iff.mp h
    exact ⟨w, rest, users, hw, husers, rfl⟩

/-- A failure takes a write out of the outbox and does nothing else. -/
theorem step_fail {s t : System} {i : Nat} (h : step s (.fail i) = some t) :
    ∃ w rest, takeOut InFlight.client s.outbox i = some (w, rest) ∧
      t = { s with outbox := rest } := by
  obtain ⟨⟨w, rest⟩, hw, rfl⟩ := Option.map_eq_some_iff.mp h
  exact ⟨w, rest, hw, rfl⟩

/-! ### Settled entries -/

/-- What a write in flight assigns. -/
def assigns (w : InFlight) : Entry → Option Bool := w.write.effect

/-- Whether the id will stand at the entry once everything in flight has landed in the
order of issue. -/
def settled (s : System) (e : Entry) : Bool := settle assigns s.outbox e (decide (s.users.has e))

/-- With nothing in flight the store is settled. -/
theorem settled_of_quiescent {s : System} (h : s.outbox = []) (e : Entry) :
    s.settled e = true ↔ s.users.has e := by
  rw [settled, h, settle_nil, decide_eq_true_eq]

/-- The write at `i` assigns `e` and is about to land before an earlier write that assigns
`e` the other way. That write is then of another client. -/
def Overtakes (s : System) (i : Nat) (e : Entry) : Prop :=
  ∃ w, s.outbox[i]? = some w ∧ w.write.entry = e ∧
    ∃ v ∈ s.outbox.take i, v.write.entry = e ∧ v.write.value.present ≠ w.write.value.present

instance (s : System) (i : Nat) (e : Entry) : Decidable (s.Overtakes i e) :=
  match h : s.outbox[i]? with
  | none => .isFalse fun ⟨_, hw, _⟩ => by simp [h] at hw
  | some w =>
    decidable_of_iff (w.write.entry = e ∧
      ∃ v ∈ s.outbox.take i, v.write.entry = e ∧ v.write.value.present ≠ w.write.value.present)
      (by simp [Overtakes, h])

/-- Writes to `e` land in the order of issue wherever they disagree. -/
def InIssueOrder (e : Entry) (s : System) : Event → Prop
  | .land i => ¬ s.Overtakes i e
  | _ => True

instance (e : Entry) (s : System) : ∀ ev, Decidable (InIssueOrder e s ev)
  | .land i => inferInstanceAs (Decidable (¬ s.Overtakes i e))
  | .read _ | .call _ _ _ | .fail _ => .isTrue True.intro

/-- Reading moves no settled entry. -/
theorem settled_read {s : System} {x : Session} (h : x.users = s.users) (e : Entry) :
    ({ s with toSession := x } : System).settled e = s.settled e := by
  simp only [settled, h]

/-- A call settles its writes after everything that is in flight already. -/
theorem settled_issue (s : System) (c : ClientID) (op : RelationOp) (me user : UserID)
    (ws : List RelationWrite) (e : Entry) :
    (s.issue c op me user ws).settled e =
      settle RelationWrite.effect ws e (s.settled e) := by
  simp only [settled, issue, settle_append]
  exact List.foldl_map

/-- A landing that overtakes nothing leaves the settled entry as it was. -/
theorem settled_land {s t : System} {i : Nat} {e : Entry} (h : step s (.land i) = some t)
    (hi : ¬ s.Overtakes i e) : t.settled e = s.settled e := by
  obtain ⟨w, rest, users, hw, husers, rfl⟩ := step_land h
  obtain ⟨pre, post, hbox, rfl, hpre, -⟩ := takeOut_eq_some hw
  have hagrees : Agrees assigns pre w e := by
    intro v hv u hu v' hv'
    simp only [assigns, RelationWrite.effect, Option.ite_none_right_eq_some,
      Option.some.injEq] at hv hv'
    by_contra hne
    refine hi ⟨w, takeOut_getElem? hw, hv.1.symm, u, hpre ▸ hu, hv'.1.symm, ?_⟩
    rw [hv.2, hv'.2]
    exact hne
  have hland : settle assigns (pre ++ post) e _ = settle assigns (pre ++ w :: post) e _ :=
    settle_land hagrees (decide (s.users.has e))
  simp only [settled, hbox, ← hland, RelationWrite.decide_has_land husers, assigns]

end System

end DriveTribe
