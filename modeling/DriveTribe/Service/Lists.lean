import DriveTribe.Carpools.Passengers
import DriveTribe.Service.System

/-!
# Lists without duplicates and without their owner

No operation checks that it is about somebody else. Lists are kept free of their owner because
an operation acts on what a list of the user shows, and a new carpool free of its driver because
it takes friends. That fails where a request goes to oneself, found by a search of another
account, and where a carpool is saved by a user whom an earlier user of the process has staged.
-/

namespace DriveTribe

open Base

namespace Accounts

/-- No relation list has a duplicate or its owner in it. -/
def ListsWellFormed (s : Accounts) : Prop :=
  ∀ id d, s.users id = some d → ∀ k, (d.relation k).Nodup ∧ id ∉ d.relation k

/-- Nobody sends a request to himself. -/
def NotToSelf (s : Accounts) : AccountEvent → Prop
  | .relation (.call c .sendFriendRequest user) =>
    ∀ me ∈ (s.clients c).currentUser, user ≠ me.uuid
  | _ => True

instance (s : Accounts) : ∀ ev, Decidable (s.NotToSelf ev)
  | .relation (.call c .sendFriendRequest user) =>
    inferInstanceAs (Decidable (∀ me ∈ (s.clients c).currentUser, user ≠ me.uuid))
  | .relation (.call _ .acceptFriendRequest _) | .relation (.call _ .cancelFriendRequest _)
  | .relation (.call _ .blockUser _) | .relation (.call _ .unfriendUser _)
  | .relation (.call _ .unblockedUser _) | .relation (.read _) | .relation (.land _)
  | .relation (.fail _) | .locate _ _ _ | .signUp _ _ _ _ | .accountCreated _ _ _
  | .accountRefused _ | .updateUserProfile _ _ _ _ _ | .updateUserLocation _ _ | .landUpdate _
  | .failUpdate _ | .stop _ => .isTrue True.intro

/-- What keeps the lists well formed: no write in flight is about one user only, and no row
shows the user who sees it. -/
structure NoSelf (s : Accounts) : Prop where
  drawn : s.Drawn
  keyed : s.users.Keyed
  lists : s.ListsWellFormed
  outbox : ∀ w ∈ s.outbox, w.write.document ≠ w.write.value.element
  rows : ∀ c me k user, s.Shows c me k user → user ≠ me.uuid

section Step
variable {s t : Accounts} {ev : AccountEvent}

private theorem document_ne_element {op : RelationOp} {me user : UserID} (hne : user ≠ me)
    {w : RelationWrite} (hw : w ∈ op.writes me user) : w.document ≠ w.value.element := by
  cases op <;> simp only [RelationOp.writes, List.mem_cons, List.not_mem_nil, or_false] at hw <;>
    grind [FieldValue.element]

private theorem NoSelf.ne_of_call (h : s.NoSelf) {c : ClientID} {op : RelationOp} {user : UserID}
    {me : User} (hme : (s.clients c).currentUser = some me)
    (hoffered : user ∈ (s.clients c).offered op)
    (hself : s.NotToSelf (.relation (.call c op user))) : user ≠ me.uuid := by
  cases op with
  | sendFriendRequest => exact hself me hme
  | acceptFriendRequest | cancelFriendRequest | blockUser | unfriendUser | unblockedUser =>
    exact h.rows c me _ user ⟨hme, hoffered⟩

private theorem wellFormed_changeRelation {d : UserDocument} {id : UserID} {w : RelationWrite}
    (h : ∀ k, (d.relation k).Nodup ∧ id ∉ d.relation k) (hne : id ≠ w.value.element)
    (k : RelationKey) :
    ((d.changeRelation w.field w.value).relation k).Nodup ∧
      id ∉ (d.changeRelation w.field w.value).relation k := by
  constructor
  · rw [UserDocument.changeRelation, UserDocument.relation_setRelation]
    split
    · exact FieldValue.nodup_apply (h w.field).1 w.value
    · exact (h k).1
  · rw [UserDocument.mem_relation_changeRelation, if_neg fun hboth => hne hboth.2]
    exact (h k).2

/-- The writes in flight after a step are not about one user only. -/
theorem NoSelf.outbox_step (h : s.NoSelf) (hself : s.NotToSelf ev) (hstep : s.step ev = some t)
    {w : InFlight} (hw : w ∈ t.outbox) : w.write.document ≠ w.write.value.element := by
  by_cases hlocal : IsLocal ev
  · rw [(sameRelations_step hlocal hstep).outbox] at hw
    exact h.outbox w hw
  · cases ev with
    | landUpdate i =>
      obtain ⟨u, users, -, -, hsame, -⟩ := sameRelations_landUpdate hstep
      rw [hsame.outbox] at hw
      exact h.outbox w hw
    | relation ev =>
      obtain ⟨x, hx, rfl⟩ := Option.map_eq_some_iff.mp hstep
      cases ev with
      | read r =>
        obtain ⟨y, -, -, rfl⟩ := System.step_read hx
        exact h.outbox w hw
      | call c op user =>
        obtain ⟨hoffered, rfl | ⟨me, hme, -, rfl⟩⟩ := System.step_call hx
        · exact h.outbox w hw
        · rcases List.mem_append.mp hw with hw | hw
          · exact h.outbox w hw
          · obtain ⟨v, hv, rfl⟩ := List.mem_map.mp hw
            exact document_ne_element (h.ne_of_call hme hoffered hself) hv
      | land i =>
        obtain ⟨v, rest, users, hv, -, rfl⟩ := System.step_land hx
        exact h.outbox w (takeOut_subset hv hw)
      | fail i =>
        obtain ⟨v, rest, hv, rfl⟩ := System.step_fail hx
        exact h.outbox w (takeOut_subset hv hw)
    | _ => exact absurd True.intro hlocal

/-- A step at which nobody sends a request to himself keeps all that. -/
theorem NoSelf.step (h : s.NoSelf) (hself : s.NotToSelf ev) (hstep : s.step ev = some t) :
    t.NoSelf where
  drawn := h.drawn.step hstep
  keyed := keyed_step h.drawn h.keyed hstep
  outbox w hw := h.outbox_step hself hstep hw
  lists id d hd := by
    rcases docs_step h.drawn hstep hd with
      ⟨account, -, rfl, -, -⟩ | ⟨d₀, hd₀, hsame | ⟨w, ⟨i, x, -, hx, rfl⟩, rfl, rfl⟩⟩
    · intro k
      rw [NewAccount.relation_document]
      exact ⟨List.nodup_nil, List.not_mem_nil⟩
    · intro k
      rw [hsame.2.2 k]
      exact h.lists id d₀ hd₀ k
    · have hne := h.outbox x (List.mem_of_getElem? hx)
      exact wellFormed_changeRelation (h.lists _ d₀ hd₀) hne
  rows c me k user hshows := by
    rcases shows_step h.keyed hstep hshows with hshows | ⟨-, hme, d, hd, hmem⟩
    · exact h.rows c me k user hshows
    · intro he
      rw [he] at hmem
      exact (h.lists me.uuid d hd k).2 hmem

private theorem Initial.noSelf (h : s.Initial) : s.NoSelf where
  drawn := h.drawn
  keyed := h.system.users.toKeyed
  lists id d hd k := by
    rw [h.system.users.relation hd]
    exact ⟨List.nodup_nil, List.not_mem_nil⟩
  outbox w hw := by
    rw [h.system.outbox] at hw
    cases hw
  rows c me k user hshows := by
    have hnone := hshows.1
    rw [h.system.clients] at hnone
    cases hnone

end Step

end Accounts

/-- The passengers are free of duplicates and of the driver. -/
def Carpool.Proper (carpool : Carpool) : Prop :=
  carpool.passengers.Nodup ∧ carpool.driver ∉ carpool.passengers

namespace CarpoolSystem

/-- Whoever saves a carpool is not staged as a passenger. -/
def DriverNotStaged (s : CarpoolSystem) : CarpoolEvent → Prop
  | .createCarpool c _ _ => ∀ me ∈ (s.clients c).currentUser,
    me.uuid ∉ (s.clients c).controller.passengers
  | _ => True

instance (s : CarpoolSystem) : ∀ ev, Decidable (s.DriverNotStaged ev)
  | .createCarpool c _ _ => inferInstanceAs (Decidable (∀ me ∈ (s.clients c).currentUser,
      me.uuid ∉ (s.clients c).controller.passengers))
  | .fetchCurrentUser _ _ | .setOptions _ _ _ _ | .selectDestination _ _ | .addPassenger _ _
  | .fetchGroupsForCurrentUser _ | .snapshot _ _ | .delete _ _ | .blockOrUnfriend _ _
  | .progress _ _ | .readFailed _ _ | .land _ => .isTrue True.intro

/-- Every carpool that is stored or in flight is proper. -/
structure AllProper (s : CarpoolSystem) : Prop where
  stored : ∀ id d, s.store.carpools id = some d → ∃ carpool : Carpool,
    d = carpool.toDocument ∧ carpool.Proper
  inFlight : ∀ x ∈ s.outbox, ∀ carpool, x.write = .setCarpool carpool → carpool.Proper

/-- A step at which no driver is staged keeps them proper. -/
theorem AllProper.step {s t : CarpoolSystem} {ev : CarpoolEvent} (h : s.AllProper)
    (hdriver : s.DriverNotStaged ev) (hstep : step s ev = some t) : t.AllProper where
  stored id d hd := by
    rcases store_step hstep with hsame | ⟨x, hx, hland⟩
    · rw [hsame] at hd
      exact h.stored id d hd
    · rcases carpools_land hland hd with ⟨carpool, hw, -, rfl⟩ | hold | ⟨d₀, user, hd₀, rfl⟩
      · exact ⟨carpool, rfl, h.inFlight x hx carpool hw⟩
      · exact h.stored id d hold
      · obtain ⟨carpool, rfl, hnodup, hdriver⟩ := h.stored id d₀ hd₀
        refine ⟨_, Carpool.removePassenger_toDocument carpool user, hnodup.filter _, ?_⟩
        exact fun hmem => hdriver (List.mem_of_mem_filter hmem)
  inFlight x hx carpool hw := by
    rcases setCarpool_step hstep hx hw with hx | ⟨passengers, new, me, rfl, hperm, hme, hd, hp⟩
    · exact h.inFlight x hx carpool hw
    · have hstaged := hdriver me hme
      constructor
      · rw [hp]
        exact hperm.nodup_iff.mpr (List.nodup_dedup _)
      · rw [hd, hp, hperm.mem_iff, List.mem_dedup]
        exact hstaged

private theorem Initial.allProper {s : CarpoolSystem} (h : s.Initial) : s.AllProper where
  stored id d hd := by
    rw [h.carpools] at hd
    cases hd
  inFlight x hx := by
    rw [h.outbox] at hx
    cases hx

end CarpoolSystem

namespace Service

/-- Lists and carpools are well formed. -/
def WellFormed (s : Service) : Prop :=
  s.ListsWellFormed ∧ ∀ id carpool, s.rides.carpool? id = some carpool → carpool.Proper

/-- Nobody sends a request to himself or saves a carpool in which he is staged. -/
def OthersOnly (s : Service) : ServiceEvent → Prop
  | .account ev => s.NotToSelf ev
  | .carpool ev => s.rides.DriverNotStaged ev

instance (s : Service) : ∀ ev, Decidable (s.OthersOnly ev)
  | .account ev => inferInstanceAs (Decidable (s.NotToSelf ev))
  | .carpool ev => inferInstanceAs (Decidable (s.rides.DriverNotStaged ev))

/-- Every list is free of duplicates and of its owner, and the passengers of every carpool of
duplicates and of the driver, in every run in which nobody sends a request to himself or saves a
carpool in which he is staged. -/
theorem wellFormed_of_othersOnly {s₀ : Service} (h₀ : s₀.Initial) {es : List ServiceEvent}
    (hothers : AllSteps step OthersOnly s₀ es) : AllStates step WellFormed s₀ es := by
  apply allStates_of_invariant (I := fun s => s.NoSelf ∧ s.rides.AllProper) ?_ ?_
    ⟨h₀.accounts.noSelf, h₀.rides.allProper⟩ hothers
  · intro s ev t hs hev hstep
    cases ev with
    | account ev =>
      obtain ⟨x, hx, rfl⟩ := step_account hstep
      exact ⟨hs.1.step hev hx, hs.2.stored, hs.2.inFlight⟩
    | carpool ev =>
      obtain ⟨-, rides, hrides, rfl⟩ := step_carpool hstep
      exact ⟨hs.1, hs.2.step hev hrides⟩
  · intro s hs
    refine ⟨hs.1.lists, fun id carpool hread => ?_⟩
    obtain ⟨d, hd, hdec⟩ := Option.bind_eq_some_iff.mp hread
    obtain ⟨carpool', rfl, hproper⟩ := hs.2.stored id d hd
    rw [Carpool.ofDocument_toDocument, Option.some.injEq] at hdec
    exact hdec ▸ hproper

/-- The carpool with the staged passenger is saved and stored. -/
def saved : List ServiceEvent :=
  [.carpool (.createCarpool 0 ["b"] ⟨"x", "m", "t"⟩), .carpool (.land 0)]

/-- It is proper where `a` saves it. -/
theorem wellFormed_friendStaged :
    AllStates step WellFormed (signedUp ["a", "b"]) (friendStaged ++ saved) :=
  wellFormed_of_othersOnly (signedUp_initial _) (by decide)

/-- Where `b` logs in on that process and saves, the driver is a passenger. -/
theorem not_wellFormed :
    ¬ ∀ (s₀ s : Service) (es : List ServiceEvent), s₀.Initial → run step s₀ es = some s →
      s.WellFormed := by
  intro hall
  have hrun := exists_run_of_any step (signedUp ["a", "b"])
    (friendStaged ++ .account (.relation (.read (.fetchCurrentUser 0 "b"))) :: saved)
    (fun s => (s.rides.carpool? "x").any fun carpool =>
      decide (carpool.driver ∈ carpool.passengers)) (by decide)
  obtain ⟨s, hrun, hs⟩ := hrun
  rw [Option.any_eq_true] at hs
  obtain ⟨carpool, hread, hmem⟩ := hs
  have hproper := (hall _ s _ (signedUp_initial _) hrun).2 "x" carpool hread
  exact hproper.2 (of_decide_eq_true hmem)

end Service

end DriveTribe
