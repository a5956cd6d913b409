import DriveTribe.Carpools.Tracked

/-!
# The two records of a membership agree

Once nothing is in flight a carpool stands in a user's groups exactly if its document exists
and names him driver or passenger. A run keeps this where no passenger leaves through
`delete`, which withdraws one record of two; where a new carpool is acknowledged with the
driver and the passengers it was created with, since these are read again from what is
staged by then; and where no withdrawal of a group entry lands ahead of the entry.
-/

namespace DriveTribe

open Base

/-- What `delete` writes: nothing, the deletion by the driver, or the departure of anybody
else. -/
theorem CarpoolController.delete_writes (self : CarpoolController) (currentUser : Option User)
    (carpool : Carpool) :
    (self.delete currentUser carpool).1 = [] ∨
    ∃ me, currentUser = some me ∧
      ((carpool.driver = me.uuid ∧ (self.delete currentUser carpool).1 =
        .deleteCarpool carpool.uuid :: .deleteNewMessage carpool.uuid ::
          (me.uuid :: carpool.passengers).map fun user => .deleteGroup user carpool.uuid) ∨
      (carpool.driver ≠ me.uuid ∧
        (self.delete currentUser carpool).1 = [.deleteGroup me.uuid carpool.uuid])) := by
  cases currentUser with
  | none => exact .inl rfl
  | some me =>
    by_cases hdriver : carpool.driver = me.uuid
    · refine .inr ⟨me, rfl, .inl ⟨hdriver, ?_⟩⟩
      simp only [delete, if_pos hdriver, List.map_cons]
    · simp only [delete, if_neg hdriver]
      cases removeFirst self.carpools carpool.uuid with
      | none => exact .inl rfl
      | some carpools => exact .inr ⟨me, rfl, .inr ⟨hdriver, rfl⟩⟩

namespace CarpoolSystem

/-- The passengers and the user that an acknowledgement reads again are those the carpool was
created with. -/
def StagedAsCreated (s : CarpoolSystem) (x : CarpoolInFlight) : Prop :=
  let client := s.clients x.client
  let recipients := client.controller.recipients client.currentUser
  match x.write with
  | .setCarpool carpool =>
    (∀ user ∈ recipients, carpool.IsMember user) ∧
      ∀ user ∈ carpool.driver :: carpool.passengers, user ∈ recipients
  | _ => True

instance (s : CarpoolSystem) (x : CarpoolInFlight) : Decidable (s.StagedAsCreated x) := by
  unfold StagedAsCreated
  split <;> infer_instance

/-- What a step must not do to keep the two records of a membership together. -/
def KeepsMembership (s : CarpoolSystem) : CarpoolEvent → Prop
  | .delete c carpool =>
    ∀ me ∈ (s.clients c).currentUser, carpool.driver ≠ me.uuid →
      ((s.clients c).controller.delete (some me) carpool).1 ≠ [] →
        s.settled (.member me.uuid carpool.uuid) = false
  | .land i => ¬ s.Overtakes i ∧ ∀ x ∈ s.outbox[i]?, s.StagedAsCreated x
  | _ => True

instance (s : CarpoolSystem) : ∀ ev, Decidable (s.KeepsMembership ev)
  | .delete _ _ | .land _ => by unfold KeepsMembership; infer_instance
  | .fetchCurrentUser _ _ | .setOptions _ _ _ _ | .selectDestination _ _ | .addPassenger _ _
  | .createCarpool _ _ _ | .fetchGroupsForCurrentUser _ | .snapshot _ _ | .blockOrUnfriend _ _
  | .progress _ _ | .readFailed _ _ => .isTrue True.intro

/-- The settled records agree for every carpool whose document has landed. -/
def Agree (s : CarpoolSystem) : Prop :=
  ∀ carpool ∈ s.created, ¬ s.Announced carpool.uuid → ∀ user,
    s.settled (.group user carpool.uuid) = s.settled (.member user carpool.uuid)

section Issue
variable {s t : CarpoolSystem} {c : CarpoolClientID} {client : CarpoolClient}
  {ws : List CarpoolWrite}

/-- Writes that settle both records alike keep them together. -/
theorem Agree.issue (h : s.Agree) (hset : ∀ w ∈ ws, ∀ carpool, w ≠ .setCarpool carpool)
    (hws : ∀ carpool ∈ s.created, ¬ s.Announced carpool.uuid → ∀ user,
      settle CarpoolWrite.effect ws (.group user carpool.uuid)
          (s.settled (.member user carpool.uuid)) =
        settle CarpoolWrite.effect ws (.member user carpool.uuid)
          (s.settled (.member user carpool.uuid))) :
    (s.issue c ws).Agree := by
  intro carpool hc hann user
  rw [announced_issue hset] at hann
  rw [settled_issue, settled_issue, h carpool hc hann user]
  exact hws carpool hc hann user

private theorem settle_groups {f : UserID → CarpoolWrite} {b : Bool} {id : CarpoolID}
    (hf : ∀ user r, (f user).effect r = if r = .group user id then some b else none)
    (users : List UserID) (r : Register) (v : Bool) :
    settle CarpoolWrite.effect (users.map f) r v =
      if ∃ user ∈ users, r = .group user id then b else v := by
  by_cases h : ∃ user ∈ users, r = .group user id
  · obtain ⟨user, hu, rfl⟩ := h
    rw [if_pos ⟨user, hu, rfl⟩]
    refine settle_of_mem (List.mem_map_of_mem hu) (by rw [hf, if_pos rfl]) ?_ v
    intro w hw v' hv
    obtain ⟨user', -, rfl⟩ := List.mem_map.mp hw
    rw [hf, Option.ite_none_right_eq_some, Option.some.injEq] at hv
    exact hv.2.symm
  · rw [if_neg h]
    refine settle_of_none (fun w hw => ?_) v
    obtain ⟨user, hu, rfl⟩ := List.mem_map.mp hw
    rw [hf, if_neg fun hr => h ⟨user, hu, hr⟩]

private theorem effect_setGroup (id : CarpoolID) (user : UserID) (r : Register) :
    (CarpoolWrite.setGroup user id).effect r = if r = .group user id then some true else none := by
  cases r <;> simp [CarpoolWrite.effect]

private theorem effect_deleteGroup (id : CarpoolID) (user : UserID) (r : Register) :
    (CarpoolWrite.deleteGroup user id).effect r =
      if r = .group user id then some false else none := by
  cases r <;> simp [CarpoolWrite.effect]

/-- The driver's deletion withdraws both records of every member its copy lists, and there is
no other. -/
theorem Agree.deletion (h : s.Agree) {carpool : Carpool} (hk : s.Known carpool) {me : UserID}
    (hme : carpool.driver = me) :
    (s.issue c (.deleteCarpool carpool.uuid :: .deleteNewMessage carpool.uuid ::
      (me :: carpool.passengers).map fun user => .deleteGroup user carpool.uuid)).Agree := by
  refine h.issue (by simp) fun original _ _ user => ?_
  simp only [settle_cons, settle_groups (effect_deleteGroup carpool.uuid), Register.group.injEq,
    reduceCtorEq, and_false, exists_false, ↓reduceIte]
  by_cases hid : original.uuid = carpool.uuid
  · simp only [CarpoolWrite.effect, hid, ↓reduceIte, Option.getD_none, Option.getD_some, and_true,
      exists_eq_right']
    by_cases hmem : user ∈ me :: carpool.passengers
    · rw [if_pos hmem]
    · rw [if_neg hmem, ← Bool.not_eq_true]
      intro hm
      rcases hk.members user hm with rfl | hp
      · exact hmem (hme ▸ List.mem_cons_self ..)
      · exact hmem (List.mem_cons_of_mem _ hp)
  · simp only [CarpoolWrite.effect, hid, and_false, exists_false, ↓reduceIte, Option.getD_none]

/-- A departure withdraws the one record that is left. -/
theorem Agree.departure (h : s.Agree) {me : UserID} {id : CarpoolID}
    (hme : s.settled (.member me id) = false) : (s.issue c [.deleteGroup me id]).Agree := by
  refine h.issue (by simp) fun original _ _ user => ?_
  simp only [settle_cons, settle_nil, effect_deleteGroup, Register.group.injEq, reduceCtorEq,
    ↓reduceIte, Option.getD_none]
  by_cases hreg : user = me ∧ original.uuid = id
  · rw [if_pos hreg, Option.getD_some, hreg.1, hreg.2, hme]
  · rw [if_neg hreg, Option.getD_none]

/-- A removal withdraws both records of one member. -/
theorem Agree.removal (h : s.Agree) {me user : UserID} (hne : user ≠ me) (carpool : Carpool) :
    (s.issue c (deleteUserFromCarpool me user carpool)).Agree := by
  have hmem := @mem_deleteUserFromCarpool me user carpool hne
  refine h.issue (fun w hw carpool' he => ?_) fun original _ _ member => ?_
  · obtain ⟨_, -, hw, -⟩ := hmem hw
    rcases hw with rfl | rfl <;> cases he
  · by_cases hw : original.uuid = carpool.uuid ∧
        .deleteGroup member carpool.uuid ∈ deleteUserFromCarpool me user carpool
    · -- Both are withdrawn, and nothing restores them.
      obtain ⟨hid, hgroup⟩ := hw
      obtain ⟨member', -, hform, -, hpassenger⟩ := hmem hgroup
      obtain rfl : member = member' := by
        rcases hform with hform | hform <;> cases hform
        rfl
      rw [hid, settle_of_mem hgroup (b := false) (by simp [CarpoolWrite.effect]) ?_,
        settle_of_mem hpassenger (b := false) (by simp [CarpoolWrite.effect])
          fun w _ v hv => CarpoolWrite.effect_member hv]
      intro w hw v hv
      rcases CarpoolWrite.effect_group hv with ⟨rfl, -⟩ | ⟨-, rfl⟩
      · obtain ⟨_, -, hw, -⟩ := hmem hw
        rcases hw with hw | hw <;> cases hw
      · rfl
    · -- Neither is touched.
      have hnone : ∀ w ∈ deleteUserFromCarpool me user carpool,
          w.effect (.group member original.uuid) = none ∧
            w.effect (.member member original.uuid) = none := by
        intro w hwmem
        obtain ⟨member', -, hform, hgroup, -⟩ := hmem hwmem
        have hne' : ¬ (member = member' ∧ original.uuid = carpool.uuid) :=
          fun he => hw ⟨he.2, he.1 ▸ hgroup⟩
        rcases hform with rfl | rfl <;> simp [CarpoolWrite.effect] <;> grind
      rw [settle_of_none fun w hw => (hnone w hw).1, settle_of_none fun w hw => (hnone w hw).2]

/-- A creation announces its carpool and touches no record. -/
theorem Agree.create (h : s.Agree) {carpool : Carpool} (message : MessageEntry) :
    ({ s with
        created := s.created ++ [carpool]
        used := s.used ++ [carpool.uuid] }.issue c
      (CarpoolController.creationWrites carpool message)).Agree := by
  intro original hc hann user
  have hnone : ∀ w ∈ CarpoolController.creationWrites carpool message, ∀ r, w.effect r = none := by
    intro w hw r
    simp only [CarpoolController.creationWrites, List.mem_cons, List.not_mem_nil, or_false] at hw
    rcases hw with rfl | rfl <;> rfl
  rw [settled_issue, settled_issue, settle_of_none fun w hw => hnone w hw _,
    settle_of_none fun w hw => hnone w hw _]
  rcases List.mem_append.mp hc with hc | hc
  · refine h original hc ?_ user
    rintro ⟨x, hx, hset⟩
    exact hann ⟨x, List.mem_append_left _ hx, hset⟩
  · refine absurd ⟨⟨c, .setCarpool carpool⟩, ?_, carpool, rfl, ?_⟩ hann
    · exact List.mem_append_right _ (List.mem_cons_self ..)
    · rw [List.mem_singleton.mp hc]

end Issue

section Land
variable {s : CarpoolSystem} {i : Nat} {x : CarpoolInFlight} {rest : List CarpoolInFlight}
  {store : CarpoolStore}

/-- A landing of anything but a new carpool that overtakes nothing settles as before. -/
theorem Agree.land (h : s.Agree) (htracked : s.Tracked)
    (hx : takeOut CarpoolInFlight.client s.outbox i = some (x, rest))
    (hland : x.write.land s.store = some store) (hset : ∀ carpool, x.write ≠ .setCarpool carpool)
    (hi : ¬ s.Overtakes i) : ({ s with store, outbox := rest } : CarpoolSystem).Agree := by
  intro carpool hc hann user
  have hdriver := htracked.driver_of_inFlight (takeOut_mem hx) hland
  rw [settled_land hx hland hset hdriver (.inr hi), settled_land hx hland hset hdriver (.inr hi)]
  refine h carpool hc (fun ⟨y, hy, carpool', hw, hid⟩ => hann ⟨y, ?_, carpool', hw, hid⟩) user
  exact (mem_of_takeOut hx hy).resolve_left fun he => hset carpool' (he ▸ hw)

/-- The acknowledgement of a new carpool enters it in the groups of exactly its members, if
those are whom it reads again. -/
theorem Agree.landCarpool (h : s.Agree) (htracked : s.Tracked) {carpool : Carpool}
    (hx : takeOut CarpoolInFlight.client s.outbox i = some (x, rest))
    (hw : x.write = .setCarpool carpool) (hland : x.write.land s.store = some store)
    {recipients : List UserID} (hrecipients : ∀ user, user ∈ recipients ↔ carpool.IsMember user) :
    (({ s with store, outbox := rest } : CarpoolSystem).issue x.client
      (recipients.map fun user => .setGroup user carpool.uuid)).Agree := by
  have hmem := takeOut_mem hx
  obtain ⟨hcreated, -, -, hgroups⟩ := htracked.announced x hmem carpool hw
  have hrest := (htracked.landCarpool hx hw hland).2
  have hset : ∀ w ∈ recipients.map (fun user => CarpoolWrite.setGroup user carpool.uuid),
      ∀ carpool', w ≠ .setCarpool carpool' := by
    intro w hwmem carpool' he
    obtain ⟨user, -, rfl⟩ := List.mem_map.mp hwmem
    cases he
  intro original hc hann user
  rw [announced_issue hset] at hann
  rw [settled_issue, settled_issue, settle_groups (effect_setGroup carpool.uuid),
    settle_groups (effect_setGroup carpool.uuid)]
  simp only [Register.group.injEq, reduceCtorEq, and_false, exists_false, ↓reduceIte]
  by_cases hid : original.uuid = carpool.uuid
  · -- Nothing else in flight is about the new carpool, so the store decides.
    have hnone : ∀ y ∈ rest, ∀ r, (r = .group user carpool.uuid ∨ r = .member user carpool.uuid) →
        assigns y r = none := by
      intro y hy r hr
      have habout : y.write.about ≠ some carpool.uuid :=
        fun habout => List.filter_eq_nil_iff.mp hrest y hy (decide_eq_true habout)
      rcases hr with rfl | rfl
      · exact (CarpoolWrite.effect_eq_none habout user).1
      · exact (CarpoolWrite.effect_eq_none habout user).2
    rw [hw] at hland
    obtain ⟨hgroup, hmember, -⟩ := CarpoolWrite.holds_land_setCarpool hland
    have hg : s.store.holds (.group user carpool.uuid) = false :=
      decide_eq_false (hgroups user)
    simp only [hid, and_true, exists_eq_right', settled,
      settle_of_none fun y hy => hnone y hy _ (.inl rfl),
      settle_of_none fun y hy => hnone y hy _ (.inr rfl), hgroup, hmember, hg, ← hrecipients]
    by_cases hu : user ∈ recipients <;> simp only [hu, ↓reduceIte, decide_true, decide_false]
  · obtain ⟨hg, hm⟩ := settled_landCarpool hx hw hland hid user
    simp only [hid, and_false, exists_false, ↓reduceIte, hg, hm]
    refine h original hc ?_ user
    rintro ⟨y, hy, carpool', hw', hid'⟩
    refine hann ⟨y, ?_, carpool', hw', hid'⟩
    refine (mem_of_takeOut hx hy).resolve_left fun he => hid ?_
    rw [he, hw] at hw'
    rw [← hid', CarpoolWrite.setCarpool.inj hw']

end Land

/-! ### Runs -/

section Step
variable {s t : CarpoolSystem} {c : CarpoolClientID} {client : CarpoolClient}

private theorem Tracked.actOn (h : s.Tracked) (hclient : s.Holds client) {carpool : Carpool}
    (hk : s.Known carpool) {ws : List CarpoolWrite}
    (hset : ∀ w ∈ ws, ∀ carpool, w ≠ .setCarpool carpool)
    (habout : ∀ w ∈ ws, ∀ id, w.about = some id → id = carpool.uuid)
    (hdrivers : ∀ w ∈ ws, ∀ id user, w = .removePassenger id user → user ≠ carpool.driver) :
    ((s.setClient c client).issue c ws).Tracked := by
  refine (h.setClient hclient).issue hset (fun w hw id hid => ?_) ?_
  · rw [habout w hw id hid]
    exact ⟨h.used_of_known hk, hk.landed⟩
  · intro w hw id user he original ho hid
    have hid' : id = carpool.uuid := habout w hw id (by rw [he]; rfl)
    rw [h.driver_of_known hk ho (hid.trans hid')]
    exact hdrivers w hw id user he

/-- Every step keeps track. -/
theorem Tracked.step (h : s.Tracked) {ev : CarpoolEvent} (hstep : s.step ev = some t) :
    t.Tracked := by
  rcases step_cases h hstep with ⟨c, client, hclient, rfl⟩ |
    ⟨c, client, carpool, message, hclient, hnew, rfl⟩ |
    ⟨c, client, carpool, -, hclient, hk, rfl⟩ |
    ⟨c, client, me, user, carpool, hclient, hne, hk, rfl⟩ |
    ⟨i, x, rest, store, -, hx, hland, rfl⟩
  · exact h.setClient hclient
  · exact (h.setClient hclient).create hnew message
  · rcases (s.clients c).controller.delete_writes (s.clients c).currentUser carpool with
      hws | ⟨me, -, ⟨-, hws⟩ | ⟨-, hws⟩⟩ <;> rw [hws] <;> apply h.actOn hclient hk <;>
      simp [CarpoolWrite.about]
  · apply h.actOn hclient hk
    · intro w hw carpool' he
      obtain ⟨_, -, hform, -⟩ := mem_deleteUserFromCarpool hne hw
      rcases hform with rfl | rfl <;> cases he
    · intro w hw id hid
      obtain ⟨_, -, hform, -⟩ := mem_deleteUserFromCarpool hne hw
      rcases hform with rfl | rfl <;> exact (Option.some.inj hid).symm
    · intro w hw id user' he
      obtain ⟨member, hdriver, hform, -⟩ := mem_deleteUserFromCarpool hne hw
      rcases hform with rfl | rfl <;> cases he
      exact hdriver
  · by_cases hset : ∃ carpool, x.write = .setCarpool carpool
    · obtain ⟨carpool, hw⟩ := hset
      obtain ⟨ht, hrest⟩ := h.landCarpool hx hw hland
      have hcreated := (h.announced x (takeOut_mem hx) carpool hw).1
      rw [hw, acknowledge, CarpoolController.carpoolCreated_eq]
      refine ht.issue ?_ ?_ ?_ <;> intro w hwmem <;>
        obtain ⟨user, -, rfl⟩ := List.mem_map.mp hwmem
      · intro carpool' heq
        cases heq
      · intro id hid
        rw [← Option.some.inj hid]
        refine ⟨h.created_used carpool hcreated, ?_⟩
        rintro ⟨y, hy, carpool', hw', hid'⟩
        refine List.filter_eq_nil_iff.mp hrest y hy (decide_eq_true ?_)
        rw [hw', ← hid']
        rfl
      · intro id user' heq
        cases heq
    · have ht := h.land hx hland fun carpool hw => hset ⟨carpool, hw⟩
      rcases acknowledge_cases x.client x.write ht with ⟨carpool, hw, -⟩ | ⟨-, client, hclient, he⟩
      · exact absurd ⟨carpool, hw⟩ hset
      · rw [he]
        exact ht.setClient hclient

/-- A step that meets the condition keeps the two records together. -/
theorem Agree.step (h : s.Agree) (htracked : s.Tracked) {ev : CarpoolEvent}
    (hcond : s.KeepsMembership ev) (hstep : s.step ev = some t) : t.Agree := by
  rcases step_cases htracked hstep with ⟨c, client, -, rfl⟩ |
    ⟨c, client, carpool, message, -, -, rfl⟩ | ⟨c, client, carpool, rfl, -, hk, rfl⟩ |
    ⟨c, client, me, user, carpool, -, hne, -, rfl⟩ | ⟨i, x, rest, store, rfl, hx, hland, rfl⟩
  · exact h
  · exact Agree.create (s := s.setClient c client) h message
  · have hdo := (s.clients c).controller.delete_writes (s.clients c).currentUser carpool
    rcases hdo with hws | ⟨me, hme, ⟨hdriver, hws⟩ | ⟨hdriver, hws⟩⟩
    · rw [hws]
      exact Agree.issue (s := s.setClient c client) h nofun fun _ _ _ _ => rfl
    · rw [hws]
      exact Agree.deletion (s := s.setClient c client) h hk.setClient hdriver
    · have hsettled := hcond me hme hdriver (by rw [← hme, hws]; exact List.cons_ne_nil _ _)
      rw [hws]
      exact Agree.departure (s := s.setClient c client) h hsettled
  · exact Agree.removal (s := s.setClient c client) h hne carpool
  · by_cases hset : ∃ carpool, x.write = .setCarpool carpool
    · obtain ⟨carpool, hw⟩ := hset
      have hstaged := hcond.2 x (takeOut_getElem? hx)
      simp only [StagedAsCreated, hw] at hstaged
      rw [hw, acknowledge, CarpoolController.carpoolCreated_eq]
      refine h.landCarpool htracked hx hw hland fun user => ⟨hstaged.1 user, fun hmem => ?_⟩
      rcases hmem with rfl | hmem
      · exact hstaged.2 _ (List.mem_cons_self ..)
      · exact hstaged.2 _ (List.mem_cons_of_mem _ hmem)
    · have hnset : ∀ carpool, x.write ≠ .setCarpool carpool := fun carpool hw => hset ⟨carpool, hw⟩
      have ht := h.land htracked hx hland hnset hcond.1
      rcases acknowledge_cases x.client x.write (htracked.land hx hland hnset) with
        ⟨carpool, hw, -⟩ | ⟨-, client, -, he⟩
      · exact absurd hw (hnset carpool)
      · rw [he]
        exact ht

end Step

/-- Before anything happened nothing is tracked. -/
theorem Initial.tracked {s : CarpoolSystem} (h : s.Initial) : s.Tracked where
  created_used carpool hc := by simp only [h.created, List.not_mem_nil] at hc
  created_inj x hx := by simp only [h.created, List.not_mem_nil] at hx
  groups_used hid := h.groups hid
  about_used x hx := by simp only [h.outbox, List.not_mem_nil] at hx
  stored hd := by simp only [h.carpools, reduceCtorEq] at hd
  announced x hx := by simp only [h.outbox, List.not_mem_nil] at hx
  drivers x hx := by simp only [h.outbox, List.not_mem_nil] at hx
  clients c := by
    rw [h.clients]
    exact ⟨nofun, nofun⟩

/-- In a run whose steps all meet the condition, with nothing in flight, a carpool that was
created stands in a user's groups exactly if it exists and the user is a member of it. -/
theorem membership_agrees {s₀ s : CarpoolSystem} {es : List CarpoolEvent} (h₀ : s₀.Initial)
    (hrun : run step s₀ es = some s) (hcond : AllSteps step KeepsMembership s₀ es)
    (hquiet : s.outbox = []) (original : Carpool) (hc : original ∈ s.created) (user : UserID) :
    original.uuid ∈ s.store.groups user ↔
      ∃ carpool, s.carpool? original.uuid = some carpool ∧ carpool.IsMember user := by
  have hinv : s.Tracked ∧ s.Agree := by
    refine run_invariant_of_steps (I := fun s => s.Tracked ∧ s.Agree)
      (fun s ev t hs hev ht => ⟨hs.1.step ht, hs.2.step hs.1 hev ht⟩) ⟨h₀.tracked, ?_⟩ hcond hrun
    intro carpool hc
    rw [h₀.created] at hc
    cases hc
  have hann : ¬ s.Announced original.uuid := by
    rintro ⟨x, hx, -⟩
    rw [hquiet] at hx
    cases hx
  have hagree := hinv.2 original hc hann user
  simp only [settled, hquiet, settle_nil] at hagree
  rw [carpool?, ← CarpoolStore.holds_member, ← hagree]
  exact decide_eq_true_iff.symm

/-- A store without carpools. -/
def unused : CarpoolSystem :=
  ⟨⟨fun _ => none, fun _ => [], fun _ => []⟩, fun _ => {}, [], [], []⟩

/-- It is a system before anything happened. -/
theorem unused_initial : unused.Initial where
  carpools _ := rfl
  groups h := nomatch h
  clients _ := rfl
  outbox := rfl
  created := rfl

/-- The user `a` drives `b` to a destination, and both carpool documents and group entries
have landed; `b` has seen the carpool. -/
def giveRide : List CarpoolEvent :=
  [.fetchCurrentUser 0 (User.signedUp "a"), .fetchCurrentUser 1 (User.signedUp "b"),
    .selectDestination 0 ⟨some "d", ⟨0⟩, ⟨0⟩⟩, .addPassenger 0 "b",
    .createCarpool 0 ["b"] ⟨"x", "m", "t"⟩, .land 0, .land 0, .land 0, .land 0,
    .fetchGroupsForCurrentUser 1, .snapshot 1 "b", .progress 1 0, .progress 1 0]

/-- The condition holds where the driver blocks the passenger. -/
theorem membership_agrees_blocked :
    ∃ s, run step unused (giveRide ++ [.blockOrUnfriend 0 "b", .progress 0 0, .progress 0 0,
        .progress 0 0, .land 0, .land 0]) = some s ∧ ∀ original ∈ s.created,
      (original.uuid ∈ s.store.groups "b" ↔
        ∃ carpool, s.carpool? original.uuid = some carpool ∧ carpool.IsMember "b") := by
  obtain ⟨s, hrun, hs⟩ := exists_run_of_any step unused
    (giveRide ++ [.blockOrUnfriend 0 "b", .progress 0 0, .progress 0 0, .progress 0 0,
      .land 0, .land 0])
    (fun s => s.outbox.isEmpty) (by decide)
  exact ⟨s, hrun, fun original hc => membership_agrees unused_initial hrun (by decide)
    (List.isEmpty_iff.mp hs) original hc "b"⟩

/-- A passenger who leaves is still a passenger. -/
theorem not_membership_agrees :
    ¬ ∀ (s₀ s : CarpoolSystem) (es : List CarpoolEvent), s₀.Initial → run step s₀ es = some s →
      s.outbox = [] → ∀ original ∈ s.created, ∀ user, (original.uuid ∈ s.store.groups user ↔
        ∃ carpool, s.carpool? original.uuid = some carpool ∧ carpool.IsMember user) := by
  intro hall
  let carpool : Carpool := CarpoolController.newCarpool {} ⟨some "d", ⟨0⟩, ⟨0⟩⟩ "a" ["b"] "x"
  obtain ⟨s, hrun, hs⟩ := exists_run_of_any step unused
    (giveRide ++ [.delete 1 carpool, .land 0])
    (fun s => s.outbox.isEmpty && decide (carpool ∈ s.created) &&
      decide ("x" ∉ s.store.groups "b") && decide (s.carpool? "x" = some carpool)) (by decide)
  simp only [Bool.and_eq_true, List.isEmpty_iff, decide_eq_true_eq] at hs
  obtain ⟨⟨⟨hquiet, hcreated⟩, hgroup⟩, hstored⟩ := hs
  have h := hall _ s _ unused_initial hrun hquiet carpool hcreated "b"
  exact hgroup (h.mpr ⟨carpool, hstored, .inr (by decide)⟩)

end CarpoolSystem

end DriveTribe
