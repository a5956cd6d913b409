import DriveTribe.Carpools.Passengers
import DriveTribe.Service.System

/-!
# Who is selected as a passenger

A passenger is taken from the friends that were fetched when the screen came up, stays staged,
and is written with the carpool; nothing is checked again on the way. So each passenger was a
friend, at a fetch of the log-in in which the passenger was selected, of whoever was logged in
then, and still is one of the driver if that was the driver and nothing has come between them
since. What is staged outlives the flow and the log-in.
-/

namespace DriveTribe

open Base

namespace Service

/-- Client `c` fetches the friends of its user. -/
def fetchFriends (c : ClientID) : ServiceEvent :=
  .account (.relation (.read (.fetchList c .friends)))

/-- Somebody logs in on client `c`. -/
def logIn (c : ClientID) (user : UserID) : ServiceEvent :=
  .account (.relation (.read (.fetchCurrentUser c user)))

/-- Client `c` selects a passenger. -/
def select (c : ClientID) (passenger : UserID) : ServiceEvent :=
  .carpool (.addPassenger c passenger)

/-- Client `c` has fetched the friends of `me` since `me` logged in, when `user` stood among
them. -/
def Listed (s₀ : Service) (es : List ServiceEvent) (c : ClientID) (me : User) (user : UserID) :
    Prop :=
  ∃ es₁ es₂ u, es = es₁ ++ fetchFriends c :: es₂ ∧ run step s₀ es₁ = some u ∧
    (u.clients c).currentUser = some me ∧ u.users.has ⟨me.uuid, .friends, user⟩ ∧
    ∀ id, logIn c id ∉ es₂

/-- Client `c` fetched friends during the run, when `passenger` stood among those of its user,
and selected the passenger during the same log-in. -/
def Selected (s₀ : Service) (es : List ServiceEvent) (c : ClientID) (passenger : UserID) : Prop :=
  ∃ es₁ es₂ es₃ u v me, es = es₁ ++ fetchFriends c :: (es₂ ++ select c passenger :: es₃) ∧
    run step s₀ es₁ = some u ∧ (u.clients c).currentUser = some me ∧
    u.users.has ⟨me.uuid, .friends, passenger⟩ ∧ (∀ id, logIn c id ∉ es₂) ∧
    run step u (fetchFriends c :: es₂) = some v ∧ (v.clients c).currentUser = some me

section Later
variable {s₀ s : Service} {es : List ServiceEvent} {c : ClientID} {me : User} {user : UserID}

/-- What was listed stays listed, until the next log-in. -/
theorem Listed.append (h : Listed s₀ es c me user) {ev : ServiceEvent}
    (hev : ∀ id, ev ≠ logIn c id) : Listed s₀ (es ++ [ev]) c me user := by
  obtain ⟨es₁, es₂, u, rfl, hu, hme, hhas, hsame⟩ := h
  refine ⟨es₁, es₂ ++ [ev], u, by simp, hu, hme, hhas, fun id hmem => ?_⟩
  rcases List.mem_append.mp hmem with hmem | hmem
  · exact hsame id hmem
  · exact hev id (List.mem_singleton.mp hmem).symm

/-- Who was selected stays selected. -/
theorem Selected.append (h : Selected s₀ es c user) (ev : ServiceEvent) :
    Selected s₀ (es ++ [ev]) c user := by
  obtain ⟨es₁, es₂, es₃, u, v, me, rfl, h⟩ := h
  exact ⟨es₁, es₂, es₃ ++ [ev], u, v, me, by simp, h⟩

/-- Who is listed can be selected. -/
theorem Listed.select (h : Listed s₀ es c me user) (hrun : run step s₀ es = some s)
    (hme : (s.clients c).currentUser = some me) :
    Selected s₀ (es ++ [Service.select c user]) c user := by
  obtain ⟨es₁, es₂, u, rfl, hu, hfetcher, hhas, hsame⟩ := h
  obtain ⟨v, hv, hs⟩ := run_append_eq_some.mp hrun
  rw [hu, Option.some.injEq] at hv
  subst hv
  exact ⟨es₁, es₂, [], u, s, me, by simp, hu, hfetcher, hhas, hsame, hs, hme⟩

end Later

/-- Along a run: every row was listed, and everybody staged or written with a carpool was
selected. -/
structure SelectedInv (s₀ : Service) (es : List ServiceEvent) (s : Service) : Prop where
  drawn : s.Drawn
  keyed : s.users.Keyed
  rows : ∀ c me user, s.Shows c me .friends user → Listed s₀ es c me user
  staged : ∀ c, ∀ p ∈ (s.rides.clients c).controller.passengers, Selected s₀ es c p
  inFlight : ∀ x ∈ s.rides.outbox, ∀ carpool, x.write = .setCarpool carpool →
    ∀ p ∈ carpool.passengers, Selected s₀ es x.client p

section Step
variable {s₀ s t : Service} {es : List ServiceEvent}

/-- The invariant holds before anything happened. -/
theorem Initial.selectedInv (h : s₀.Initial) : SelectedInv s₀ [] s₀ where
  drawn := h.accounts.drawn
  keyed := h.accounts.system.users.toKeyed
  rows c me user hshows := by
    have hnone := hshows.1
    rw [h.accounts.system.clients] at hnone
    cases hnone
  staged c p hp := by
    rw [h.rides.clients] at hp
    cases hp
  inFlight x hx := by
    rw [h.rides.outbox] at hx
    cases hx

private theorem passengers_follow {ev : AccountEvent} {x : Accounts} {c : ClientID} {p : UserID}
    (hp : p ∈ ((s.follow ev x).clients c).controller.passengers) :
    p ∈ (s.rides.clients c).controller.passengers := by
  simp only [follow] at hp
  split at hp
  · cases hp
  · exact hp

private theorem not_shows_logIn {c : ClientID} {id user : UserID} {x : Accounts} {me : User}
    {k : RelationKey}
    (h : s.toAccounts.step (.relation (.read (.fetchCurrentUser c id))) = some x) :
    ¬ x.Shows c me k user := by
  obtain ⟨y, hy, rfl⟩ := Option.map_eq_some_iff.mp h
  obtain ⟨z, hz, -, rfl⟩ := System.step_read hy
  obtain ⟨c', id', me', heq, -, rfl⟩ | ⟨c', id', uid, user, heq, -⟩ | ⟨c', k', me', data, heq, -⟩ :=
    Session.read_eq_some hz
  · cases heq
    rintro ⟨-, hrow⟩
    rw [Session.clients_setClient_self] at hrow
    exact List.not_mem_nil hrow
  · cases heq
  · cases heq

/-- Every step keeps the invariant. -/
theorem selectedInv_step {ev : ServiceEvent} (hrun : run step s₀ es = some s)
    (hs : SelectedInv s₀ es s) (h : s.step ev = some t) : SelectedInv s₀ (es ++ [ev]) t := by
  cases ev with
  | account ev =>
    obtain ⟨x, hx, rfl⟩ := step_account h
    constructor
    case drawn => exact hs.drawn.step hx
    case keyed => exact Accounts.keyed_step hs.drawn hs.keyed hx
    case rows =>
      intro c me user hshows
      rcases Accounts.shows_step hs.keyed hx hshows with hbefore | ⟨rfl, hme, hhas⟩
      · -- A log-in of this client would have emptied the list.
        apply (hs.rows c me user hbefore).append
        rintro id hlogIn
        cases hlogIn
        exact not_shows_logIn hx hshows
      · exact ⟨es, [], s, rfl, hrun, hme, hhas, fun id => List.not_mem_nil⟩
    case staged =>
      intro c p hp
      exact (hs.staged c p (passengers_follow hp)).append _
    case inFlight =>
      intro y hy carpool hw p hp
      exact (hs.inFlight y hy carpool hw p hp).append _
  | carpool ev =>
    obtain ⟨hoffers, rides, hrides, rfl⟩ := step_carpool h
    constructor
    case drawn => exact hs.drawn
    case keyed => exact hs.keyed
    case rows =>
      intro c me user hshows
      exact (hs.rows c me user hshows).append fun id hlogIn => by cases hlogIn
    case staged =>
      intro c p hp
      rcases CarpoolSystem.passengers_step hrides hp with hp | rfl
      · exact (hs.staged c p hp).append _
      · obtain ⟨hsome, hrow⟩ := hoffers
        obtain ⟨me, hme⟩ := Option.isSome_iff_exists.mp hsome
        exact (hs.rows c me p ⟨hme, hrow⟩).select hrun hme
    case inFlight =>
      intro y hy carpool hw p hp
      rcases CarpoolSystem.setCarpool_step hrides hy hw with
        hy | ⟨passengers, new, me, rfl, hperm, -, -, hpassengers⟩
      · exact (hs.inFlight y hy carpool hw p hp).append _
      · rw [hpassengers, hperm.mem_iff, List.mem_dedup] at hp
        exact (hs.staged y.client p hp).append _

/-- The invariant holds after every run. -/
theorem selectedInv (h₀ : s₀.Initial) (hrun : run step s₀ es = some s) : SelectedInv s₀ es s :=
  run_induction (motive := SelectedInv s₀) h₀.selectedInv
    (fun _ _ _ _ hrun hs h => selectedInv_step hrun hs h) hrun

end Step

/-- The event writes the document of a carpool, from client `c`. -/
def WritesCarpool (s : Service) (ev : ServiceEvent) (c : CarpoolClientID) (carpool : Carpool) :
    Prop :=
  ∃ i x, ev = .carpool (.land i) ∧ s.rides.outbox[i]? = some x ∧ x.client = c ∧
    x.write = .setCarpool carpool

/-- `user` is in the friends of `me` and not in the blocked users of `me`. -/
def GoodTerms (s : Service) (me user : UserID) : Prop :=
  s.users.has ⟨me, .friends, user⟩ ∧ ¬ s.users.has ⟨me, .blockedUsers, user⟩

/-- The event lands a write that takes `user` off the friends of `me` or puts `user` on the
blocked users of `me`. -/
def Parts (me user : UserID) (s : Service) : ServiceEvent → Prop
  | .account (.relation (.land i)) => ∃ x ∈ s.outbox[i]?,
    x.write = ⟨me, .friends, .arrayRemove user⟩ ∨ x.write = ⟨me, .blockedUsers, .arrayUnion user⟩
  | _ => False

private theorem write_of_change {s : Service} {x : Accounts} {ev : AccountEvent} {d e : UserID}
    {k : RelationKey} (h : s.Drawn) (hx : s.toAccounts.step ev = some x)
    (hchange : ¬ (x.users.has ⟨d, k, e⟩ ↔ s.users.has ⟨d, k, e⟩)) :
    ∃ i, ∃ y ∈ s.outbox[i]?, ev = .relation (.land i) ∧
      (y.write = ⟨d, k, .arrayUnion e⟩ ∧ x.users.has ⟨d, k, e⟩ ∨
        y.write = ⟨d, k, .arrayRemove e⟩ ∧ ¬ x.users.has ⟨d, k, e⟩) := by
  obtain ⟨w, ⟨i, y, rfl, hy, rfl⟩, hentry, hhas⟩ := (Accounts.has_step h hx _).resolve_left hchange
  obtain ⟨client, call, document, field, value⟩ := y
  refine ⟨i, _, hy, rfl, ?_⟩
  rw [RelationWrite.entry, Entry.mk.injEq] at hentry
  obtain ⟨rfl, rfl, rfl⟩ := hentry
  cases value with
  | arrayUnion z => exact .inl ⟨rfl, hhas.mpr rfl⟩
  | arrayRemove z => exact .inr ⟨rfl, fun hpresent => absurd (hhas.mp hpresent) Bool.false_ne_true⟩

/-- Good terms last until something parts the two. -/
theorem goodTerms_step {s t : Service} {ev : ServiceEvent} {me user : UserID} (h : s.Drawn)
    (hterms : s.GoodTerms me user) (hev : ¬ Parts me user s ev) (hstep : s.step ev = some t) :
    t.GoodTerms me user := by
  cases ev with
  | carpool ev =>
    obtain ⟨-, rides, -, rfl⟩ := step_carpool hstep
    exact hterms
  | account ev =>
    obtain ⟨x, hx, rfl⟩ := step_account hstep
    constructor
    · by_contra hgone
      obtain ⟨i, y, hy, rfl, ⟨-, hthere⟩ | ⟨hwrite, -⟩⟩ :=
        write_of_change h hx fun hsame => hgone (hsame.mpr hterms.1)
      · exact hgone hthere
      · exact hev ⟨y, hy, .inl hwrite⟩
    · intro hblocked
      obtain ⟨i, y, hy, rfl, ⟨hwrite, -⟩ | ⟨-, hgone⟩⟩ :=
        write_of_change h hx fun hsame => hterms.2 (hsame.mp hblocked)
      · exact hev ⟨y, hy, .inr hwrite⟩
      · exact hgone hblocked

/-- Whenever the document of a carpool is written, each passenger was selected on that client
from friends it had fetched during the same log-in, when the passenger stood among them. If the
driver was logged in then, and had not blocked the passenger at the fetch, and nothing has parted
the two since, the passenger is a friend and not blocked at the write. -/
theorem passengers_selected {s₀ s : Service} {es : List ServiceEvent} {ev : ServiceEvent}
    {c : CarpoolClientID} {carpool : Carpool} {p : UserID} (h₀ : s₀.Initial)
    (hrun : run step s₀ es = some s) (hev : s.WritesCarpool ev c carpool)
    (hp : p ∈ carpool.passengers) :
    ∃ es₁ es₂ es₃ u v me, es = es₁ ++ fetchFriends c :: (es₂ ++ select c p :: es₃) ∧
      run step s₀ es₁ = some u ∧ (u.clients c).currentUser = some me ∧
      u.users.has ⟨me.uuid, .friends, p⟩ ∧ (∀ id, logIn c id ∉ es₂) ∧
      run step u (fetchFriends c :: es₂) = some v ∧ (v.clients c).currentUser = some me ∧
      (me.uuid = carpool.driver → ¬ u.users.has ⟨carpool.driver, .blockedUsers, p⟩ →
        AllSteps step (fun s ev => ¬ Parts carpool.driver p s ev) u
          (fetchFriends c :: (es₂ ++ select c p :: es₃)) →
        s.GoodTerms carpool.driver p) := by
  obtain ⟨i, x, -, hx, rfl, hw⟩ := hev
  obtain ⟨es₁, es₂, es₃, u, v, me, rfl, hu, hme, hhas, hsame, hv, hselects⟩ :=
    (selectedInv h₀ hrun).inFlight x (List.mem_of_getElem? hx) carpool hw p hp
  refine ⟨es₁, es₂, es₃, u, v, me, rfl, hu, hme, hhas, hsame, hv, hselects,
    fun hdriver hblocked hkept => ?_⟩
  rw [hdriver] at hhas
  obtain ⟨u', hu', hs⟩ := run_append_eq_some.mp hrun
  rw [hu, Option.some.injEq] at hu'
  subst hu'
  have hdrawn : u.Drawn := (selectedInv h₀ hu).drawn
  have hkept := run_invariant_of_steps
    (I := fun s : Service => s.Drawn ∧ s.GoodTerms carpool.driver p) ?_ ⟨hdrawn, hhas, hblocked⟩
    hkept hs
  · exact hkept.2
  · intro s ev t hs hc ht
    refine ⟨?_, goodTerms_step hs.1 hs.2 hc ht⟩
    cases ev with
    | account ev =>
      obtain ⟨x, hx, rfl⟩ := step_account ht
      exact hs.1.step hx
    | carpool ev =>
      obtain ⟨-, rides, -, rfl⟩ := step_carpool ht
      exact hs.1

/-- The carpool of `a` with the passenger `b`. -/
private def ride : Carpool :=
  CarpoolController.newCarpool {} ⟨some "d", ⟨0⟩, ⟨0⟩⟩ "a" ["b"] "x"

/-- `a` becomes a friend of `b`, selects `b`, and saves. -/
private def friendSaved : List ServiceEvent :=
  friendStaged ++ [.carpool (.createCarpool 0 ["b"] ⟨"x", "m", "t"⟩)]

/-- The passenger of a carpool that is saved right away was selected from the friends fetched. -/
theorem passengers_selected_friendStaged :
    ∃ s, run step (signedUp ["a", "b"]) friendSaved = some s ∧
      ∃ es₁ es₂ es₃ u v me, friendSaved = es₁ ++ fetchFriends 0 :: (es₂ ++ select 0 "b" :: es₃) ∧
        run step (signedUp ["a", "b"]) es₁ = some u ∧ (u.clients 0).currentUser = some me ∧
        u.users.has ⟨me.uuid, .friends, "b"⟩ ∧ (∀ id, logIn 0 id ∉ es₂) ∧
        run step u (fetchFriends 0 :: es₂) = some v ∧ (v.clients 0).currentUser = some me ∧
        (me.uuid = "a" → ¬ u.users.has ⟨"a", .blockedUsers, "b"⟩ →
          AllSteps step (fun s ev => ¬ Parts "a" "b" s ev) u
            (fetchFriends 0 :: (es₂ ++ select 0 "b" :: es₃)) →
          s.GoodTerms "a" "b") := by
  have hrun := exists_run_of_any step (signedUp ["a", "b"]) friendSaved
    (fun s => decide (s.rides.outbox[0]? = some ⟨0, .setCarpool ride⟩)) (by decide)
  obtain ⟨s, hrun, hs⟩ := hrun
  have hwrites : s.WritesCarpool (.carpool (.land 0)) 0 ride :=
    ⟨0, _, rfl, of_decide_eq_true hs, rfl, rfl⟩
  exact ⟨s, hrun, passengers_selected (signedUp_initial _) hrun hwrites (p := "b") (by decide)⟩

/-- `a` unfriends `b`, and then saves. -/
private def unfriendedSaved : List ServiceEvent :=
  [.account (.relation (.call 0 .unfriendUser "b")), .account (.relation (.land 0)),
    .account (.relation (.land 0)), .carpool (.createCarpool 0 ["b"] ⟨"x", "m", "t"⟩)]

/-- A passenger who was unfriended after the selection is written with the carpool. -/
theorem not_passengers_friends :
    ¬ ∀ (s₀ : Service) (es : List ServiceEvent), s₀.Initial →
      AllSteps step (fun s ev => ∀ c carpool, s.WritesCarpool ev c carpool →
        ∀ p ∈ carpool.passengers, s.GoodTerms carpool.driver p) s₀ es := by
  intro hall
  have hrun := exists_run_of_any step (signedUp ["a", "b"]) (friendStaged ++ unfriendedSaved)
    (fun s => decide (s.rides.outbox[0]? = some ⟨0, .setCarpool ride⟩) &&
      !decide (s.users.has ⟨"a", .friends, "b"⟩) && (s.step (.carpool (.land 0))).isSome)
    (by decide)
  obtain ⟨s, hrun, hs⟩ := hrun
  simp only [Bool.and_eq_true, decide_eq_true_eq, Bool.not_eq_true', decide_eq_false_iff_not]
    at hs
  obtain ⟨⟨hbox, hnot⟩, hsome⟩ := hs
  obtain ⟨t, ht⟩ := Option.isSome_iff_exists.mp hsome
  have hlast := allSteps_last (hall _ (friendStaged ++ unfriendedSaved ++ [.carpool (.land 0)])
    (signedUp_initial _)) hrun ht
  have hterms := hlast 0 ride ⟨0, _, rfl, hbox, rfl, rfl⟩ "b" (by decide)
  exact hnot hterms.1

end Service

end DriveTribe
