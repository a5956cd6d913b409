import DriveTribe.Relations.Agreement

/-!
# Complete operations

Here an operation is one step: all its writes land before anything else happens. Each such
run is a run of the concurrent clients in which every call finds the outbox empty and
empties it again. Relations then agree on both sides in every state, without a condition.
-/

namespace DriveTribe

open Base

/-- What a client can do when operations do not overlap. -/
inductive Action where
  | read (r : Read)
  | perform (c : ClientID) (op : RelationOp) (user : UserID)
  deriving DecidableEq, Repr

/-- Land writes one after another; fails as soon as one of them does. -/
def landAll : List RelationWrite → Users → Option Users
  | [], users => some users
  | w :: ws, users => (w.land users).bind (landAll ws)

private theorem decide_has_landAll {ws : List RelationWrite} {users users' : Users}
    (h : landAll ws users = some users') (e : Entry) :
    decide (users'.has e) = settle RelationWrite.effect ws e (decide (users.has e)) := by
  induction ws generalizing users with
  | nil =>
    cases h
    rfl
  | cons w ws ih =>
    obtain ⟨users₁, hw, hws⟩ := Option.bind_eq_some_iff.mp h
    rw [ih hws, settle_cons, RelationWrite.decide_has_land hw]

/-- The same as a proposition. -/
theorem has_landAll {ws : List RelationWrite} {users users' : Users}
    (h : landAll ws users = some users') (e : Entry) :
    users'.has e ↔ settle RelationWrite.effect ws e (decide (users.has e)) = true := by
  rw [← decide_has_landAll h, decide_eq_true_eq]

/-- A complete operation changes nothing outside the pair it is about. -/
theorem has_landAll_of_ne {op : RelationOp} {me user : UserID} {users users' : Users} {e : Entry}
    (hme : ¬ (e.document = me ∧ e.element = user)) (huser : ¬ (e.document = user ∧ e.element = me))
    (h : landAll (op.writes me user) users = some users') : users'.has e ↔ users.has e := by
  rw [has_landAll h, op.settle_writes_of_ne hme huser, decide_eq_true_eq]

/-- The store stays keyed. -/
theorem Users.Keyed.landAll {ws : List RelationWrite} {users users' : Users} (hk : users.Keyed)
    (h : landAll ws users = some users') : users'.Keyed := by
  induction ws generalizing users with
  | nil =>
    cases h
    exact hk
  | cons w ws ih =>
    obtain ⟨users₁, hw, hws⟩ := Option.bind_eq_some_iff.mp h
    exact ih (hk.land hw) hws

private theorem authID_landAll {ws : List RelationWrite} {users users' : Users}
    (h : landAll ws users = some users') {id : UserID} {d : UserDocument}
    (hd : users id = some d) : ∃ d', users' id = some d' ∧ d'.authID = d.authID := by
  induction ws generalizing users d with
  | nil =>
    cases h
    exact ⟨d, hd, rfl⟩
  | cons w ws ih =>
    obtain ⟨users₁, hw, hws⟩ := Option.bind_eq_some_iff.mp h
    obtain ⟨d₁, hd₁, hauth⟩ := RelationWrite.authID_land hw hd
    obtain ⟨d', hd', hauth'⟩ := ih hws hd₁
    exact ⟨d', hd', hauth'.trans hauth⟩

namespace Session

/-- Call an operation and land all its writes. -/
def perform (x : Session) (c : ClientID) (op : RelationOp) (user : UserID) : Option Session :=
  if user ∈ (x.clients c).offered op then
    (landAll (op.call (x.clients c).currentUser user).writes x.users).map fun users =>
      { x with users }
  else none

/-- One action. -/
def step (x : Session) : Action → Option Session
  | .read r => x.read r
  | .perform c op user => x.perform c op user

/-- Before anything happened: fresh documents, nobody logged in. -/
structure Initial (x : Session) : Prop where
  users : x.users.Fresh
  clients : ∀ c, x.clients c = Client.loggedOut

/-- New accounts nobody has logged in to. -/
def signedUp (ids : List UserID) : Session := ⟨Users.signedUp ids, fun _ => Client.loggedOut⟩

/-- They are a session before anything happened. -/
theorem signedUp_initial (ids : List UserID) : (signedUp ids).Initial :=
  ⟨Users.signedUp_fresh ids, fun _ => rfl⟩

/-- The operation goes through: `me` is logged in, and the guard of a friend request passes
on the copy in memory. -/
def Executes (x : Session) (c : ClientID) (op : RelationOp) (user : UserID) (me : User) : Prop :=
  (x.clients c).currentUser = some me ∧ (op.call (some me) user).writes ≠ []

/-- What performing an operation can do: nothing, or land exactly its writes. -/
theorem perform_eq_some {x y : Session} {c : ClientID} {op : RelationOp} {user : UserID}
    (h : x.perform c op user = some y) :
    user ∈ (x.clients c).offered op ∧
      ((y = x ∧ ∀ me, ¬ x.Executes c op user me) ∨
        ∃ me users, x.Executes c op user me ∧
          landAll (op.writes me.uuid user) x.users = some users ∧ y = { x with users }) := by
  simp only [perform, Option.ite_none_right_eq_some] at h
  obtain ⟨hoffered, h⟩ := h
  refine ⟨hoffered, ?_⟩
  obtain ⟨users, husers, rfl⟩ := Option.map_eq_some_iff.mp h
  have hnone : ∀ {o : Outcome}, o.writes = [] → landAll o.writes x.users = some users →
      ({ x with users } : Session) = x := by
    intro o ho hl
    rw [ho] at hl
    cases hl
    rfl
  cases hcall : op.call (x.clients c).currentUser user with
  | issued ws completes =>
    obtain ⟨me, hme, hws, hguard⟩ := RelationOp.call_issued hcall
    rw [hcall, Outcome.writes, hws] at husers
    refine .inr ⟨me, users, ⟨hme, ?_⟩, husers, rfl⟩
    rw [RelationOp.writes_call hguard]
    exact RelationOp.writes_ne_nil op me.uuid user
  | ignored | refused error =>
    rw [hcall] at husers
    refine .inl ⟨hnone rfl husers, fun me hme => hme.2 ?_⟩
    rw [← hme.1, hcall]
    rfl

/-! ### Concurrent runs of the same actions -/

/-- With one client's writes in flight, serving them from the front lands them all. -/
theorem run_landAll {x : Session} {ws : List RelationWrite} {users : Users}
    (h : landAll ws x.users = some users) (c : ClientID) (call : Call) (log : List Call)
    (landed : List InFlight) :
    ∃ landed', run System.step ⟨x, ws.map (⟨c, call, ·⟩), log, landed⟩
        (List.replicate ws.length (.land 0)) = some ⟨{ x with users }, [], log, landed'⟩ := by
  induction ws generalizing x landed with
  | nil =>
    cases h
    exact ⟨landed, rfl⟩
  | cons w ws ih =>
    obtain ⟨users₁, hw, hws⟩ := Option.bind_eq_some_iff.mp h
    have hstep : System.step ⟨x, (w :: ws).map (⟨c, call, ·⟩), log, landed⟩ (.land 0) =
        some ⟨{ x with users := users₁ }, ws.map (⟨c, call, ·⟩), log,
          landed ++ [⟨c, call, w⟩]⟩ := by
      simp only [System.step, takeOut, List.map_cons, List.getElem?_cons_zero, List.take_zero,
        List.not_mem_nil, false_implies, implies_true, ↓reduceIte, List.eraseIdx_cons_zero, hw,
        Option.map_some]
    obtain ⟨landed', hrun⟩ := ih (x := { x with users := users₁ }) hws (landed ++ [⟨c, call, w⟩])
    exact ⟨landed', by rw [List.length_cons, List.replicate_succ, run_cons hstep, hrun]⟩

/-- A complete operation is a call whose writes are served before anything else. -/
theorem step_concurrent {x y : Session} {a : Action} (h : x.step a = some y) (log : List Call)
    (landed : List InFlight) :
    ∃ es log' landed', run System.step ⟨x, [], log, landed⟩ es =
        some ⟨y, [], log', landed'⟩ ∧ ∀ ev ∈ es, ev.Succeeds := by
  cases a with
  | read r =>
    refine ⟨[.read r], log, landed, ?_, fun ev hev => ?_⟩
    · have hread : x.read r = some y := h
      simp only [run, System.step, hread, Option.map_some]
    · rw [List.mem_singleton.mp hev]
      exact True.intro
  | perform c op user =>
    obtain ⟨hoffered, hdo⟩ := perform_eq_some h
    rcases hdo with ⟨rfl, -⟩ | ⟨me, users, ⟨hme, hws⟩, hland, rfl⟩
    · exact ⟨[], log, landed, rfl, fun ev hev => absurd hev List.not_mem_nil⟩
    · obtain ⟨landed', hrun⟩ := run_landAll hland c ⟨log.length, op, me.uuid, user⟩
        (log ++ [⟨log.length, op, me.uuid, user⟩]) landed
      have hcall : System.step ⟨x, [], log, landed⟩ (.call c op user) =
          some (System.issue ⟨x, [], log, landed⟩ c op me.uuid user (op.writes me.uuid user)) := by
        cases hout : op.call (some me) user with
        | issued ws completes =>
          have hall := RelationOp.writes_call_of_ne_nil hws
          rw [hout, Outcome.writes] at hall
          simp only [System.step, if_pos hoffered, hme, hout, hall]
        | ignored | refused error => exact absurd (by rw [hout]; rfl) hws
      refine ⟨.call c op user :: List.replicate (op.writes me.uuid user).length (.land 0),
        log ++ [⟨log.length, op, me.uuid, user⟩], landed', ?_, fun ev hev => ?_⟩
      · rw [run_cons hcall]
        exact hrun
      · rcases List.mem_cons.mp hev with rfl | hev
        · exact True.intro
        · rw [List.eq_of_mem_replicate hev]
          exact True.intro

/-- Every run of complete operations is a run of the concurrent clients with nothing in
flight at its end. -/
theorem run_concurrent {x y : Session} {as : List Action} (h : run step x as = some y)
    (log : List Call) (landed : List InFlight) :
    ∃ es log' landed', run System.step ⟨x, [], log, landed⟩ es =
        some ⟨y, [], log', landed'⟩ ∧ ∀ ev ∈ es, ev.Succeeds := by
  induction as generalizing x log landed with
  | nil =>
    cases h
    exact ⟨[], log, landed, rfl, nofun⟩
  | cons a as ih =>
    obtain ⟨z, hz, has⟩ := run_cons_eq_some h
    obtain ⟨es, log₁, landed₁, hes, hok⟩ := step_concurrent hz log landed
    obtain ⟨fs, log₂, landed₂, hfs, hok'⟩ := ih has log₁ landed₁
    refine ⟨es ++ fs, log₂, landed₂, run_append_eq_some.mpr ⟨_, hes, hfs⟩, fun ev hev => ?_⟩
    exact (List.mem_append.mp hev).elim (hok ev) (hok' ev)

/-! ### What complete operations preserve -/

/-- What holds in every state: the store is keyed, a client's user owns the account it is
logged in with, nobody is shown or related to himself, and relations agree on both sides. -/
structure Wf (x : Session) : Prop where
  keyed : x.users.Keyed
  account : ∀ {c me}, (x.clients c).currentUser = some me →
    (x.clients c).auth = some me.authID ∧ ∃ d, x.users me.uuid = some d ∧ d.authID = some me.authID
  results : ∀ {c me}, (x.clients c).currentUser = some me → me.uuid ∉ (x.clients c).results
  rows : ∀ {c me}, (x.clients c).currentUser = some me → ∀ k, me.uuid ∉ (x.clients c).rows k
  irreflexive : ∀ id k, ¬ x.users.has ⟨id, k, id⟩
  mirror : ∀ e : Entry, e.field ≠ .blockedUsersByCurrentUser →
    (x.users.has e.mirror ↔ x.users.has e)

/-- An initial session is well formed. -/
theorem Initial.wf {x : Session} (h : x.Initial) : x.Wf where
  keyed := h.users.toKeyed
  account hme := by simp only [h.clients, Client.loggedOut, reduceCtorEq] at hme
  results hme := by simp only [h.clients, Client.loggedOut, reduceCtorEq] at hme
  rows hme := by simp only [h.clients, Client.loggedOut, reduceCtorEq] at hme
  irreflexive id k := h.users.not_has ⟨id, k, id⟩
  mirror e _ := iff_of_false (h.users.not_has _) (h.users.not_has _)

/-- Nobody is offered himself. -/
theorem Wf.ne_of_offered {x : Session} (h : x.Wf) {c : ClientID} {op : RelationOp}
    {user : UserID} {me : User} (hme : (x.clients c).currentUser = some me)
    (hoffered : user ∈ (x.clients c).offered op) : user ≠ me.uuid := by
  rintro rfl
  cases op with
  | sendFriendRequest => exact h.results hme hoffered
  | acceptFriendRequest | cancelFriendRequest | blockUser | unfriendUser | unblockedUser =>
    exact h.rows hme _ hoffered

/-- A read keeps a session well formed. -/
theorem Wf.read {x y : Session} (h : x.Wf) {r : Read} (hread : x.read r = some y) : y.Wf := by
  have husers := users_read hread
  constructor
  case keyed =>
    exact husers ▸ h.keyed
  case account =>
    intro c me hme
    obtain ⟨hx, hauth⟩ | ⟨hu, hauth⟩ := currentUser_read h.keyed hread hme
    · rw [hauth, husers]
      exact h.account hx
    · obtain ⟨d, hd, hdec⟩ := Option.bind_eq_some_iff.mp hu
      rw [husers]
      exact ⟨hauth, d, hd, (User.ids_of_ofDocument hdec).2⟩
  case results =>
    intro c me hme hself
    obtain ⟨hx, hold | ⟨u, uid, hu, huid, hne⟩⟩ := results_read h.keyed hread hme hself
    · exact h.results hx hold
    · obtain ⟨hauth, d, hd, hdauth⟩ := h.account hx
      obtain ⟨d', hd', hdec⟩ := Option.bind_eq_some_iff.mp hu
      have huauth := (User.ids_of_ofDocument hdec).2
      rw [hd, Option.some.injEq] at hd'
      subst hd'
      rw [hauth, Option.some.injEq] at huid
      rw [hdauth, Option.some.injEq] at huauth
      exact hne (huauth.symm.trans huid)
  case rows =>
    intro c me hme k hself
    obtain ⟨hx, hold | ⟨-, hhas⟩⟩ := rows_read h.keyed hread hme hself
    · exact h.rows hx k hold
    · exact h.irreflexive me.uuid k hhas
  case irreflexive =>
    exact husers ▸ h.irreflexive
  case mirror =>
    exact husers ▸ h.mirror

/-- Landing the writes of an operation on another user keeps a session well formed. -/
theorem Wf.landAll {x : Session} (h : x.Wf) {op : RelationOp} {me user : UserID} {users : Users}
    (hne : user ≠ me) (hland : landAll (op.writes me user) x.users = some users) :
    ({ x with users } : Session).Wf where
  keyed := h.keyed.landAll hland
  account hme := by
    obtain ⟨hauth, d, hd, hdauth⟩ := h.account hme
    obtain ⟨d', hd', hauth'⟩ := authID_landAll hland hd
    exact ⟨hauth, d', hd', hauth'.trans hdauth⟩
  results hme := h.results hme
  rows hme := h.rows hme
  irreflexive id k := by
    rw [has_landAll_of_ne (fun he => hne (he.2.symm.trans he.1))
      (fun he => hne (he.1.symm.trans he.2)) hland]
    exact h.irreflexive id k
  mirror e he := by
    rw [← decide_eq_decide, decide_has_landAll hland, decide_has_landAll hland,
      decide_eq_decide.mpr (h.mirror e he), RelationOp.settle_writes_mirror op me user he]

/-- Every action keeps a session well formed. -/
theorem Wf.step {x y : Session} (h : x.Wf) {a : Action} (hstep : x.step a = some y) : y.Wf := by
  cases a with
  | read r => exact h.read hstep
  | perform c op user =>
    obtain ⟨hoffered, ⟨rfl, -⟩ | ⟨me, users, ⟨hme, -⟩, hland, rfl⟩⟩ := perform_eq_some hstep
    · exact h
    · exact h.landAll (h.ne_of_offered hme hoffered) hland

end Session

end DriveTribe
