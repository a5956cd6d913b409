import DriveTribe.Carpools.Repeat
import DriveTribe.Relations.Repeat
import DriveTribe.Service.System

/-!
# Tapping twice

The buttons of the friend operations can be tapped again until the screen is refreshed. The user
object that the operations read is refreshed at a log-in only, so a second tap sends out what the
first has sent out. Where all of that has landed, it changes nothing any more; and the removal of
carpools, which reads what there is to remove by then, finds nothing, unless the first has made a
carpool readable that was not.
-/

namespace DriveTribe

open Base

/-- What an operation of `me` on `user` starts besides its writes: a block and an unfriending
remove common carpools. `UserController.swift:431`, `:465`. -/
def RelationOp.removal (op : RelationOp) (me user : UserID) : List Callback :=
  match op with
  | .blockUser | .unfriendUser => [.removal me user]
  | .sendFriendRequest | .acceptFriendRequest | .cancelFriendRequest | .unblockedUser => []

private theorem RelationOp.writes_call_agree (op : RelationOp) (me : User) (user : UserID) :
    ∀ v ∈ (op.call (some me) user).writes, ∀ w ∈ (op.call (some me) user).writes,
      v.document = w.document → v.field = w.field → v.value = w.value := by
  intro v hv
  have hwrites := writes_call_of_ne_nil (List.ne_nil_of_mem hv)
  rw [hwrites] at hv ⊢
  exact op.writes_agree me.uuid user v hv

namespace Service

/-- Nothing is in flight, and the client waits for nothing. -/
structure AtRest (s : Service) (c : ClientID) : Prop where
  outbox : s.outbox = []
  rides : s.rides.outbox = []
  callbacks : (s.rides.clients c).callbacks = []

/-- What an operation has started moves on: writes land, and the client goes on. -/
def Moves (c : ClientID) : ServiceEvent → Prop
  | .account (.relation (.land _)) => True
  | .carpool ev => CarpoolSystem.Moves c ev
  | _ => False

/-- The client executes the operation, without failures, until nothing is left to do. -/
def Performs (s : Service) (c : ClientID) (op : RelationOp) (user : UserID) (t : Service) : Prop :=
  ∃ es, (∀ ev ∈ es, Moves c ev) ∧
    run step s (.account (.relation (.call c op user)) :: es) = some t ∧ t.AtRest c

section Moving
variable {s t : Service} {c : ClientID} {op : RelationOp} {user : UserID} {me : User}
  {P : CarpoolStore → List CarpoolInFlight → List Callback → Prop}
  {Q : Users → List InFlight → Prop}

/-- A call sends out its writes, if its guard passes, and starts the removal of carpools. -/
theorem step_call (h : s.step (.account (.relation (.call c op user))) = some t)
    (hme : (s.clients c).currentUser = some me) :
    t.users = s.users ∧ t.clients = s.clients ∧ t.rides.store = s.rides.store ∧
      t.rides.outbox = s.rides.outbox ∧
      (t.rides.clients c).callbacks =
        (s.rides.clients c).callbacks ++ op.removal me.uuid user ∧
      ∃ call, t.outbox = s.outbox ++ (op.call (some me) user).writes.map (⟨c, call, ·⟩) := by
  obtain ⟨x, hx, rfl⟩ := step_account h
  obtain ⟨y, hy, rfl⟩ := Option.map_eq_some_iff.mp hx
  obtain ⟨husers, hclients, call, hbox⟩ := System.call_eq_some hy hme
  have hremovals : s.removals c (.relation (.call c op user)) = op.removal me.uuid user := by
    cases op <;> simp [Accounts.removals, RelationOp.removal, hme]
  refine ⟨husers, hclients, rfl, rfl, ?_, call, hbox⟩
  simp only [follow, Accounts.ends, reduceCtorEq, if_false, hremovals]

/-- What holds of the documents and of what is in flight, and of the carpools, holds on while what
has been started moves on. -/
theorem run_moves {es : List ServiceEvent} (hP : CarpoolSystem.Kept c P)
    (hQ : ∀ {users users' box rest i w}, Q users box →
      takeOut InFlight.client box i = some (w, rest) → w.write.land users = some users' →
      Q users' rest)
    (hrun : run step s es = some t) (hes : ∀ ev ∈ es, Moves c ev)
    (hp : P s.rides.store s.rides.outbox (s.rides.clients c).callbacks)
    (hq : Q s.users s.outbox) :
    t.clients = s.clients ∧ P t.rides.store t.rides.outbox (t.rides.clients c).callbacks ∧
      Q t.users t.outbox := by
  refine run_invariant_of_steps (C := fun _ ev => Moves c ev)
    (I := fun x => x.clients = s.clients ∧
      P x.rides.store x.rides.outbox (x.rides.clients c).callbacks ∧ Q x.users x.outbox)
    (fun x ev y hx hev hstep => ?_) ⟨rfl, hp, hq⟩ (allSteps_of_forall hes s) hrun
  obtain ⟨hclients, hp, hq⟩ := hx
  cases ev with
  | account ev =>
    cases ev with
    | relation ev =>
      cases ev with
      | land i =>
        obtain ⟨accounts, haccounts, rfl⟩ := step_account hstep
        obtain ⟨z, hz, rfl⟩ := Option.map_eq_some_iff.mp haccounts
        obtain ⟨w, rest, users, hw, hland, rfl⟩ := System.step_land hz
        refine ⟨hclients, ?_, hQ hq hw hland⟩
        simpa only [follow, Accounts.ends, Accounts.removals, reduceCtorEq, if_false,
          List.append_nil] using hp
      | _ => exact hev.elim
    | _ => exact hev.elim
  | carpool ev =>
    obtain ⟨-, rides, hrides, rfl⟩ := step_carpool hstep
    exact ⟨hclients, hP.step hp hev hrides, hq⟩

/-- So it holds once an operation has been executed. -/
theorem Performs.keeps (h : s.Performs c op user t) (hrest : s.AtRest c)
    (hme : (s.clients c).currentUser = some me) (hP : CarpoolSystem.Kept c P)
    (hQ : ∀ {users users' box rest i w}, Q users box →
      takeOut InFlight.client box i = some (w, rest) → w.write.land users = some users' →
      Q users' rest)
    (hp : P s.rides.store [] (op.removal me.uuid user))
    (hq : ∀ call, Q s.users ((op.call (some me) user).writes.map (⟨c, call, ·⟩))) :
    t.AtRest c ∧ (t.clients c).currentUser = some me ∧ P t.rides.store [] [] ∧ Q t.users [] := by
  obtain ⟨es, hes, hrun, hdone⟩ := h
  obtain ⟨s', hcall, hrun⟩ := run_cons_eq_some hrun
  obtain ⟨husers, hclients, hstore, hrides, hcallbacks, call, hbox⟩ := step_call hcall hme
  rw [hrest.outbox, List.nil_append] at hbox
  rw [hrest.callbacks, List.nil_append] at hcallbacks
  rw [hrest.rides] at hrides
  have hmoved := run_moves hP hQ hrun hes (by rwa [hstore, hrides, hcallbacks])
    (by rw [husers, hbox]; exact hq call)
  rw [hdone.outbox, hdone.rides, hdone.callbacks, hclients] at hmoved
  exact ⟨hdone, by rw [hmoved.1, hme], hmoved.2⟩

end Moving

/-- To execute an operation twice is to execute it once: the second time leaves every document,
every carpool and all groups as they are. For a block and an unfriending, that is in a store that
is intact. -/
theorem perform_perform {s t u : Service} {c : ClientID} {op : RelationOp} {user : UserID}
    {me : User} (hrest : s.AtRest c) (hme : (s.clients c).currentUser = some me)
    (hintact : op = .blockUser ∨ op = .unfriendUser → s.rides.store.Intact me.uuid user)
    (hfirst : s.Performs c op user t) (hsecond : t.Performs c op user u) :
    u.users = t.users ∧ u.rides.store = t.rides.store := by
  have hagree := op.writes_call_agree me user
  by_cases hop : op = .blockUser ∨ op = .unfriendUser
  · have hremoval : op.removal me.uuid user = [.removal me.uuid user] := by
      rcases hop with rfl | rfl <;> rfl
    obtain ⟨hrest', hme', hwalk, hcalling⟩ :=
      hfirst.keeps hrest hme (walking_kept (hintact hop) c) (fun h => h.land hagree)
        (.inl ⟨rfl, rfl, hremoval⟩) (fun call => calling_sent)
    obtain ⟨-, -, hrewalk, hrecalling⟩ :=
      hsecond.keeps hrest' hme' (rewalking_kept hwalk.swept c) (fun h => h.land)
        (hremoval ▸ rewalking_start ..) (fun call => hcalling.recalling)
    exact ⟨hrecalling.users, hrewalk.store⟩
  · have hremoval : op.removal me.uuid user = [] := by
      cases op <;> first | rfl | simp at hop
    obtain ⟨hrest', hme', -, hcalling⟩ :=
      hfirst.keeps hrest hme (nothing_kept s.rides.store c) (fun h => h.land hagree)
        ⟨rfl, rfl, hremoval⟩ (fun call => calling_sent)
    obtain ⟨-, -, hnothing, hrecalling⟩ :=
      hsecond.keeps hrest' hme' (nothing_kept t.rides.store c) (fun h => h.land)
        ⟨rfl, rfl, hremoval⟩ (fun call => hcalling.recalling)
    exact ⟨hrecalling.users, hnothing.1⟩

/-- The user of client `0` is shown a friend. -/
def befriended (store : CarpoolStore) : Service :=
  { signedUp ["a", "b"] with
    clients := Function.update (fun _ => Client.loggedOut) 0
      ⟨some "a", some (User.signedUp "a"), [], fun _ => ["b"]⟩
    rides := { CarpoolSystem.unused with store } }

/-- A call, so many moves of the walk that it starts, and so many writes that land. -/
def tap (op : RelationOp) (moves writes removals : Nat) : List ServiceEvent :=
  .account (.relation (.call 0 op "b")) :: (List.replicate moves (.carpool (.progress 0 0)) ++
    List.replicate writes (.account (.relation (.land 0))) ++
    List.replicate removals (.carpool (.land 0)))

/-- Nothing is left to do. -/
def isAtRest (s : Service) : Bool :=
  s.outbox.isEmpty && s.rides.outbox.isEmpty && (s.rides.clients 0).callbacks.isEmpty

/-- That is what it decides. -/
theorem isAtRest_iff {s : Service} : s.isAtRest = true ↔ s.AtRest 0 := by
  simp only [isAtRest, Bool.and_eq_true, List.isEmpty_iff, and_assoc]
  exact ⟨fun ⟨houtbox, hrides, hcallbacks⟩ => ⟨houtbox, hrides, hcallbacks⟩,
    fun ⟨houtbox, hrides, hcallbacks⟩ => ⟨houtbox, hrides, hcallbacks⟩⟩

/-- A tap after which nothing is left to do has executed the operation. -/
theorem performs_tap {s t : Service} {op : RelationOp} {moves writes removals : Nat}
    (h : run step s (tap op moves writes removals) = some t) (hrest : t.isAtRest = true) :
    s.Performs 0 op "b" t := by
  refine ⟨_, fun ev hev => ?_, h, isAtRest_iff.mp hrest⟩
  simp only [List.mem_append, List.mem_replicate] at hev
  obtain (⟨-, rfl⟩ | ⟨-, rfl⟩) | ⟨-, rfl⟩ := hev
  · rfl
  · trivial
  · trivial

/-- The document of a carpool to work. -/
def rideDocument (driver : UserID) (passengers : Option (List UserID)) (uuid : CarpoolID) :
    CarpoolDocument :=
  { title := some "", mode := some "work", type := some "carpool", destinationName := some "d"
    destination := some [], driver := some driver, passengers, uuid := some uuid }

/-- `a` gives a ride to `b`. -/
def shared : CarpoolStore where
  carpools id := if id = "x" then some (rideDocument "a" (some ["b"]) "x") else none
  groups user := if user = "a" ∨ user = "b" then ["x"] else []
  messages _ := []

/-- `a` blocks `b` twice, and the second time changes nothing. -/
theorem perform_perform_shared :
    ∃ t u, (befriended shared).Performs 0 .blockUser "b" t ∧ t.Performs 0 .blockUser "b" u ∧
      u.users = t.users ∧ u.rides.store = t.rides.store := by
  obtain ⟨t, hfirst, ht⟩ := exists_run_of_any step (befriended shared) (tap .blockUser 3 5 2)
    (fun t => t.isAtRest && (run step t (tap .blockUser 3 5 0)).any isAtRest) (by decide)
  rw [Bool.and_eq_true, Option.any_eq_true] at ht
  obtain ⟨ht, u, hsecond, hu⟩ := ht
  have hintact : shared.Intact "a" "b" := by
    intro id hid carpool hcarpool hevicts huuid d hd
    have hx : carpool.uuid = "x" := List.mem_singleton.mp huuid
    simp only [hx, shared, if_true, Option.some.injEq] at hd
    subst hd
    exact fun hnone => absurd hnone (Option.some_ne_none _)
  exact ⟨t, u, performs_tap hfirst ht, performs_tap hsecond hu,
    perform_perform (isAtRest_iff.mp rfl) rfl (fun _ => hintact) (performs_tap hfirst ht)
      (performs_tap hsecond hu)⟩

/-- `b` is a passenger of a carpool with the id of another one, of which no passengers are
stored. -/
def mislabelled : CarpoolStore where
  carpools id :=
    if id = "x" then some (rideDocument "a" (some ["b"]) "y")
    else if id = "y" then some (rideDocument "b" none "y") else none
  groups user := if user = "a" then ["x", "y"] else []
  messages _ := []

/-- The first block makes the other carpool readable, and the second makes `a` leave it. -/
theorem not_perform_perform :
    ¬ ∀ (s t u : Service) (c : ClientID) (op : RelationOp) (user : UserID) (me : User),
      s.AtRest c → (s.clients c).currentUser = some me →
      s.Performs c op user t → t.Performs c op user u →
      u.users = t.users ∧ u.rides.store = t.rides.store := by
  intro hall
  obtain ⟨t, hfirst, ht⟩ := exists_run_of_any step (befriended mislabelled) (tap .blockUser 4 5 2)
    (fun t : Service => t.isAtRest && decide ("y" ∈ t.rides.store.groups "a") &&
      (run step t (tap .blockUser 5 5 4)).any fun u : Service =>
        u.isAtRest && decide ("y" ∉ u.rides.store.groups "a")) (by decide)
  simp only [Bool.and_eq_true, Option.any_eq_true, decide_eq_true_eq] at ht
  obtain ⟨⟨ht, hlisted⟩, u, hsecond, hu, hgone⟩ := ht
  have hsame := hall _ t u 0 .blockUser "b" _ (isAtRest_iff.mp rfl) rfl (performs_tap hfirst ht)
    (performs_tap hsecond hu)
  rw [hsame.2] at hgone
  exact hgone hlisted

end Service

end DriveTribe
