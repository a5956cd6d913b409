import DriveTribe.Carpools.Registers

/-!
# What clients know of carpools

Nobody knows a new carpool before its document has landed, and afterwards it only loses
passengers. So whatever copy a client holds is of a carpool that has landed, names its
driver, and lists everybody who will still be a member once everything in flight has landed.
This holds in every run.
-/

namespace DriveTribe

open Base

/-- What `deleteUserFromCarpool` writes: the removal of one member, not the driver, from the
groups and from the carpool, both or neither. -/
theorem mem_deleteUserFromCarpool {me user : UserID} {carpool : Carpool} (hne : user ≠ me)
    {w : CarpoolWrite} (h : w ∈ deleteUserFromCarpool me user carpool) :
    ∃ member, member ≠ carpool.driver ∧
      (w = .deleteGroup member carpool.uuid ∨ w = .removePassenger carpool.uuid member) ∧
      .deleteGroup member carpool.uuid ∈ deleteUserFromCarpool me user carpool ∧
      .removePassenger carpool.uuid member ∈ deleteUserFromCarpool me user carpool := by
  -- All writes are about one member: `user` where `me` drives, otherwise `me`.
  by_cases hme : me = carpool.driver
  · have hmember : user ≠ carpool.driver := hme ▸ hne
    simp only [deleteUserFromCarpool, if_pos hme, List.mem_flatMap] at h ⊢
    obtain ⟨passager, hp, hw⟩ := h
    split at hw
    · next heq =>
      refine ⟨user, hmember, by simpa using hw, ?_, ?_⟩ <;>
        exact ⟨passager, hp, by simp [heq]⟩
    · cases hw
  · simp only [deleteUserFromCarpool, if_neg hme, List.mem_append, List.mem_flatMap] at h ⊢
    rcases h with h | ⟨passager, hp, hw⟩
    · split at h
      · next heq =>
        refine ⟨me, hme, by simpa using h, ?_, ?_⟩ <;> exact .inl (by simp [heq])
      · cases h
    · split at hw
      · next heq =>
        refine ⟨me, hme, by simpa using hw, ?_, ?_⟩ <;>
          exact .inr ⟨passager, hp, by simp [heq]⟩
      · cases hw

namespace CarpoolSystem

/-- The document of a new carpool is in flight. -/
def Announced (s : CarpoolSystem) (id : CarpoolID) : Prop :=
  ∃ x ∈ s.outbox, ∃ carpool : Carpool, x.write = .setCarpool carpool ∧ carpool.uuid = id

/-- A copy of a carpool that can be acted upon. -/
structure Known (s : CarpoolSystem) (carpool : Carpool) : Prop where
  created : ∃ original ∈ s.created, original.uuid = carpool.uuid ∧
    original.driver = carpool.driver
  landed : ¬ s.Announced carpool.uuid
  members : ∀ user, s.settled (.member user carpool.uuid) = true → carpool.IsMember user

/-- What a callback carries is known, and it removes nobody from his own carpools. -/
def Sound (s : CarpoolSystem) : Callback → Prop
  | .listed _ => True
  | .listedAnswer carpool => s.Known carpool
  | .removal me user | .removalCarpool me user _ => user ≠ me
  | .removalAnswer me user carpool => user ≠ me ∧ s.Known carpool

/-- All a client holds is known. -/
structure Holds (s : CarpoolSystem) (client : CarpoolClient) : Prop where
  shown : ∀ carpool ∈ client.shown, s.Known carpool
  callbacks : ∀ x ∈ client.callbacks, s.Sound x

/-- What holds in every run. -/
structure Tracked (s : CarpoolSystem) : Prop where
  created_used : ∀ carpool ∈ s.created, carpool.uuid ∈ s.used
  created_inj : ∀ x ∈ s.created, ∀ y ∈ s.created, x.uuid = y.uuid → x = y
  groups_used : ∀ {user id}, id ∈ s.store.groups user → id ∈ s.used
  about_used : ∀ x ∈ s.outbox, ∀ id, x.write.about = some id → id ∈ s.used
  stored : ∀ {id d}, s.store.carpools id = some d → ∃ carpool ∈ s.created, carpool.uuid = id ∧
    ∃ passengers, d = { carpool with passengers }.toDocument
  announced : ∀ x ∈ s.outbox, ∀ carpool, x.write = .setCarpool carpool →
    carpool ∈ s.created ∧ s.outbox.filter (·.write.about = some carpool.uuid) = [x] ∧
      s.store.carpools carpool.uuid = none ∧ ∀ user, carpool.uuid ∉ s.store.groups user
  drivers : ∀ x ∈ s.outbox, ∀ id user, x.write = .removePassenger id user →
    ∀ carpool ∈ s.created, carpool.uuid = id → user ≠ carpool.driver
  clients : ∀ c, s.Holds (s.clients c)

section Mono
variable {s t : CarpoolSystem}

/-- A copy stays known while nothing is announced again and no member is added. -/
theorem Known.mono {carpool : Carpool} (h : s.Known carpool)
    (hcreated : ∀ x ∈ s.created, x ∈ t.created)
    (hann : t.Announced carpool.uuid → s.Announced carpool.uuid)
    (hmem : ¬ s.Announced carpool.uuid → ∀ user,
      t.settled (.member user carpool.uuid) = true → s.settled (.member user carpool.uuid) = true) :
    t.Known carpool := by
  obtain ⟨⟨original, ho, hids⟩, hlanded, hmembers⟩ := h
  exact ⟨⟨original, hcreated original ho, hids⟩, fun h => hlanded (hann h),
    fun user h => hmembers user (hmem hlanded user h)⟩

/-- What a client holds stays known. -/
theorem Holds.mono {client : CarpoolClient} (h : s.Holds client)
    (hknown : ∀ carpool, s.Known carpool → t.Known carpool) : t.Holds client := by
  refine ⟨fun carpool hc => hknown carpool (h.shown carpool hc), fun x hx => ?_⟩
  have := h.callbacks x hx
  cases x with
  | listed id => exact True.intro
  | listedAnswer carpool => exact hknown carpool this
  | removal me user | removalCarpool me user id => exact this
  | removalAnswer me user carpool => exact ⟨this.1, hknown carpool this.2⟩

end Mono

section Client
variable {s : CarpoolSystem} {c : CarpoolClientID} {client : CarpoolClient}

/-- What is known does not depend on the clients. -/
theorem Known.setClient {carpool : Carpool} (h : s.Known carpool) :
    (s.setClient c client).Known carpool :=
  h.mono (fun _ hx => hx) id fun _ _ => id

/-- A client whose copies are known may replace another. -/
theorem Tracked.setClient (h : s.Tracked) (hclient : s.Holds client) :
    (s.setClient c client).Tracked where
  created_used := h.created_used
  created_inj := h.created_inj
  groups_used := h.groups_used
  about_used := h.about_used
  stored := h.stored
  announced := h.announced
  drivers := h.drivers
  clients c' := by
    by_cases hc : c' = c
    · subst hc
      rw [clients_setClient_self]
      exact hclient.mono fun _ hk => hk.setClient
    · rw [clients_setClient_of_ne s _ hc]
      exact (h.clients c').mono fun _ hk => hk.setClient

/-- A stored carpool has landed. -/
theorem Tracked.not_announced (h : s.Tracked) {id : CarpoolID} {d : CarpoolDocument}
    (hd : s.store.carpools id = some d) : ¬ s.Announced id := by
  rintro ⟨x, hx, carpool, hw, rfl⟩
  rw [(h.announced x hx carpool hw).2.2.1] at hd
  cases hd

private theorem Tracked.known_of_carpool? (h : s.Tracked) {id : CarpoolID} {carpool : Carpool}
    (hread : s.carpool? id = some carpool) : s.Known carpool := by
  obtain ⟨d, hd, hdec⟩ := Option.bind_eq_some_iff.mp hread
  obtain ⟨original, ho, rfl, passengers, rfl⟩ := h.stored hd
  cases hdec
  refine ⟨⟨original, ho, rfl, rfl⟩, h.not_announced hd, fun user hm => ?_⟩
  obtain ⟨carpool, hcarpool, hmem⟩ := CarpoolStore.holds_member.mp (holds_of_settled hm)
  rw [show s.store.carpool? _ = _ from hread, Option.some.injEq] at hcarpool
  exact hcarpool ▸ hmem

/-- A known carpool has an id that was drawn. -/
theorem Tracked.used_of_known (h : s.Tracked) {carpool : Carpool} (hk : s.Known carpool) :
    carpool.uuid ∈ s.used := by
  obtain ⟨original, ho, hid, -⟩ := hk.created
  exact hid ▸ h.created_used original ho

/-- A known carpool has the driver of the carpool that was created. -/
theorem Tracked.driver_of_known (h : s.Tracked) {carpool original : Carpool}
    (hk : s.Known carpool) (ho : original ∈ s.created) (hid : original.uuid = carpool.uuid) :
    original.driver = carpool.driver := by
  obtain ⟨x, hx, hxid, hdriver⟩ := hk.created
  rw [h.created_inj original ho x hx (hid.trans hxid.symm), hdriver]

end Client

/-! ### Sending out writes -/

section Issue
variable {s : CarpoolSystem} {c : CarpoolClientID} {ws : List CarpoolWrite}

/-- Writes other than new carpools announce nothing. -/
theorem announced_issue (hset : ∀ w ∈ ws, ∀ carpool, w ≠ .setCarpool carpool) {id : CarpoolID} :
    (s.issue c ws).Announced id ↔ s.Announced id := by
  constructor
  · rintro ⟨x, hx, carpool, hw, hid⟩
    rcases List.mem_append.mp hx with hx | hx
    · exact ⟨x, hx, carpool, hw, hid⟩
    · obtain ⟨w, hmem, rfl⟩ := List.mem_map.mp hx
      exact absurd hw (hset w hmem carpool)
  · rintro ⟨x, hx, h⟩
    exact ⟨x, List.mem_append_left _ hx, h⟩

/-- Writes about carpools that have landed, of which none removes a driver. -/
theorem Tracked.issue (h : s.Tracked) (hset : ∀ w ∈ ws, ∀ carpool, w ≠ .setCarpool carpool)
    (habout : ∀ w ∈ ws, ∀ id, w.about = some id → id ∈ s.used ∧ ¬ s.Announced id)
    (hdrivers : ∀ w ∈ ws, ∀ id user, w = .removePassenger id user →
      ∀ carpool ∈ s.created, carpool.uuid = id → user ≠ carpool.driver) :
    (s.issue c ws).Tracked where
  created_used := h.created_used
  created_inj := h.created_inj
  groups_used := h.groups_used
  about_used x hx := by
    rcases List.mem_append.mp hx with hx | hx
    · exact h.about_used x hx
    · obtain ⟨w, hw, rfl⟩ := List.mem_map.mp hx
      exact fun id hid => (habout w hw id hid).1
  stored := h.stored
  announced x hx carpool hw := by
    rcases List.mem_append.mp hx with hx | hx
    · obtain ⟨hcreated, hfilter, hnone⟩ := h.announced x hx carpool hw
      refine ⟨hcreated, ?_, hnone⟩
      have hnew : (ws.map (⟨c, ·⟩ : CarpoolWrite → CarpoolInFlight)).filter
          (·.write.about = some carpool.uuid) = [] := by
        rw [List.filter_eq_nil_iff]
        intro y hy hyid
        obtain ⟨w, hwmem, rfl⟩ := List.mem_map.mp hy
        exact (habout w hwmem _ (of_decide_eq_true hyid)).2 ⟨x, hx, carpool, hw, rfl⟩
      rw [CarpoolSystem.issue, List.filter_append, hfilter, hnew, List.append_nil]
    · obtain ⟨w, hwmem, rfl⟩ := List.mem_map.mp hx
      exact absurd hw (hset w hwmem carpool)
  drivers x hx := by
    rcases List.mem_append.mp hx with hx | hx
    · exact h.drivers x hx
    · obtain ⟨w, hw, rfl⟩ := List.mem_map.mp hx
      exact hdrivers w hw
  clients c' := (h.clients c').mono fun carpool hk =>
    hk.mono (fun _ hx => hx) (announced_issue hset).mp fun _ user hm => by
      rw [settled_issue] at hm
      exact settle_member hm

end Issue

/-! ### Creating -/

private theorem filter_creationWrites (c : CarpoolClientID) (carpool : Carpool)
    (message : MessageEntry) (id : CarpoolID) :
    ((CarpoolController.creationWrites carpool message).map
        (⟨c, ·⟩ : CarpoolWrite → CarpoolInFlight)).filter (·.write.about = some id) =
      if carpool.uuid = id then [⟨c, .setCarpool carpool⟩] else [] := by
  by_cases hid : carpool.uuid = id <;>
    simp [CarpoolController.creationWrites, CarpoolWrite.about, hid]

/-- A creation draws a new id and announces its carpool. -/
theorem Tracked.create {s : CarpoolSystem} (h : s.Tracked) {c : CarpoolClientID}
    {carpool : Carpool} (hnew : carpool.uuid ∉ s.used) (message : MessageEntry) :
    ({ s with
        created := s.created ++ [carpool]
        used := s.used ++ [carpool.uuid] }.issue c
      (CarpoolController.creationWrites carpool message)).Tracked := by
  have hcreated : ∀ x ∈ s.created, x.uuid ≠ carpool.uuid :=
    fun x hx hid => hnew (hid ▸ h.created_used x hx)
  have hbox : ∀ x, x ∈ s.outbox ++ (CarpoolController.creationWrites carpool message).map (⟨c, ·⟩) →
      x ∈ s.outbox ∨ x = ⟨c, .setCarpool carpool⟩ ∨ x = ⟨c, .addMessage carpool.uuid message⟩ := by
    intro x hx
    simpa [CarpoolController.creationWrites] using hx
  constructor
  case created_used =>
    intro x hx
    rcases List.mem_append.mp hx with hx | hx
    · exact List.mem_append_left _ (h.created_used x hx)
    · rw [List.mem_singleton.mp hx]
      exact List.mem_append_right _ (List.mem_singleton_self _)
  case created_inj =>
    intro x hx y hy hid
    rcases List.mem_append.mp hx with hx | hx <;> rcases List.mem_append.mp hy with hy | hy
    · exact h.created_inj x hx y hy hid
    · rw [List.mem_singleton.mp hy] at hid
      exact absurd hid (hcreated x hx)
    · rw [List.mem_singleton.mp hx] at hid
      exact absurd hid.symm (hcreated y hy)
    · rw [List.mem_singleton.mp hx, List.mem_singleton.mp hy]
  case groups_used =>
    exact fun hid => List.mem_append_left _ (h.groups_used hid)
  case about_used =>
    intro x hx id hid
    rcases hbox x hx with hx | rfl | rfl
    · exact List.mem_append_left _ (h.about_used x hx id hid)
    · rw [← Option.some.inj hid]
      exact List.mem_append_right _ (List.mem_singleton_self _)
    · cases hid
  case stored =>
    intro id d hd
    obtain ⟨x, hx, hids⟩ := h.stored hd
    exact ⟨x, List.mem_append_left _ hx, hids⟩
  case announced =>
    intro x hx carpool' hw
    rcases hbox x hx with hx | rfl | rfl
    · obtain ⟨hmem, hfilter, hnone⟩ := h.announced x hx carpool' hw
      refine ⟨List.mem_append_left _ hmem, ?_, hnone⟩
      have hne : ¬ carpool.uuid = carpool'.uuid := fun he => hcreated carpool' hmem he.symm
      rw [CarpoolSystem.issue, List.filter_append, hfilter, filter_creationWrites, if_neg hne,
        List.append_nil]
    · cases hw
      refine ⟨List.mem_append_right _ (List.mem_singleton_self _), ?_, ?_, ?_⟩
      · -- The id is new, so no write in flight is about it.
        have hold : s.outbox.filter (·.write.about = some carpool.uuid) = [] := by
          rw [List.filter_eq_nil_iff]
          exact fun y hy hid => hnew (h.about_used y hy _ (of_decide_eq_true hid))
        rw [CarpoolSystem.issue, List.filter_append, hold, filter_creationWrites, if_pos rfl,
          List.nil_append]
      · cases hd : s.store.carpools carpool.uuid with
        | none => exact hd
        | some d =>
          obtain ⟨x, hx, hid, -⟩ := h.stored hd
          exact absurd hid (hcreated x hx)
      · exact fun user hid => hnew (h.groups_used hid)
    · cases hw
  case drivers =>
    intro x hx id user hw carpool' hmem hid
    rcases hbox x hx with hx | rfl | rfl
    · rcases List.mem_append.mp hmem with hmem | hmem
      · exact h.drivers x hx id user hw carpool' hmem hid
      · -- A write in flight is about an id that was drawn before.
        rw [List.mem_singleton.mp hmem] at hid
        exact absurd (h.about_used x hx id (by rw [hw]; rfl)) (hid ▸ hnew)
    · cases hw
    · cases hw
  case clients =>
    intro c'
    refine (h.clients c').mono fun copy hk => hk.mono (fun _ hx => List.mem_append_left _ hx) ?_ ?_
    · rintro ⟨x, hx, carpool', hw, hid⟩
      rcases hbox x hx with hx | rfl | rfl
      · exact ⟨x, hx, carpool', hw, hid⟩
      · cases hw
        exact absurd (hid ▸ h.used_of_known hk) hnew
      · cases hw
    · intro _ user hm
      rw [settled_issue] at hm
      exact settle_member hm

/-! ### Landing -/

section Land
variable {s : CarpoolSystem} {i : Nat} {x : CarpoolInFlight} {rest : List CarpoolInFlight}
  {store : CarpoolStore}

private theorem groups_land {w : CarpoolWrite} {store' : CarpoolStore}
    (h : w.land store = some store') {user : UserID} {id : CarpoolID}
    (hid : id ∈ store'.groups user) :
    id ∈ store.groups user ∨ w.about = some id := by
  have hchange : ∀ {user' : UserID} {f : FieldValue CarpoolID},
      id ∈ (store.changeGroups user' f).groups user → id ∈ store.groups user ∨ f.element = id := by
    intro user' f hid
    by_cases hu : user = user'
    · subst hu
      simp only [CarpoolStore.changeGroups, Function.update_self, FieldValue.mem_apply] at hid
      split at hid
      · next heq => exact .inr heq.symm
      · exact .inl hid
    · simp only [CarpoolStore.changeGroups, Function.update_of_ne hu] at hid
      exact .inl hid
  cases w with
  | setCarpool carpool | addMessage id entry | deleteCarpool id | deleteNewMessage id =>
    cases h
    exact .inl hid
  | setGroup user' id' | deleteGroup user' id' =>
    cases h
    exact (hchange hid).imp_right (congrArg some)
  | removePassenger id user =>
    obtain ⟨carpools, -, rfl⟩ := Option.map_eq_some_iff.mp h
    exact .inl hid

/-- A stored carpool after a landing was stored before, or is the new one; it may have lost a
passenger. -/
theorem carpools_land {w : CarpoolWrite} {store' : CarpoolStore} (h : w.land store = some store')
    {id : CarpoolID} {d : CarpoolDocument} (hd : store'.carpools id = some d) :
    (∃ carpool, w = .setCarpool carpool ∧ carpool.uuid = id ∧ d = carpool.toDocument) ∨
    store.carpools id = some d ∨
    ∃ d₀ user, store.carpools id = some d₀ ∧ d = d₀.removePassenger user := by
  cases w with
  | addMessage id entry | deleteNewMessage id | setGroup user id | deleteGroup user id =>
    cases h
    exact .inr (.inl hd)
  | setCarpool carpool =>
    cases h
    by_cases hid : id = carpool.uuid
    · subst hid
      simp only [setData_self, Option.some.injEq] at hd
      exact .inl ⟨carpool, rfl, rfl, hd.symm⟩
    · simp only [setData_of_ne _ _ hid] at hd
      exact .inr (.inl hd)
  | deleteCarpool id' =>
    cases h
    by_cases hid : id = id'
    · subst hid
      simp only [deleteDocument_self, reduceCtorEq] at hd
    · simp only [deleteDocument_of_ne _ hid] at hd
      exact .inr (.inl hd)
  | removePassenger id' user =>
    obtain ⟨carpools, hup, rfl⟩ := Option.map_eq_some_iff.mp h
    obtain ⟨d₀, hd₀, hd', hne⟩ := updateData_eq_some hup
    by_cases hid : id = id'
    · subst hid
      exact .inr (.inr ⟨d₀, user, hd₀, (Option.some.inj (hd'.symm.trans hd)).symm⟩)
    · exact .inr (.inl ((hne id hid).symm.trans hd))

/-- What is left in flight about an announced carpool, when another write was taken out. -/
private theorem filter_rest (hx : takeOut CarpoolInFlight.client s.outbox i = some (x, rest))
    {id : CarpoolID} (hne : x.write.about ≠ some id) :
    rest.filter (·.write.about = some id) = s.outbox.filter (·.write.about = some id) := by
  obtain ⟨pre, post, hbox, rfl, -, -⟩ := takeOut_eq_some hx
  rw [hbox, List.filter_append, List.filter_append, List.filter_cons_of_neg (by simpa using hne)]

/-- A removal in flight removes no driver. -/
theorem Tracked.driver_of_inFlight (h : s.Tracked) (hx : x ∈ s.outbox) {store' : CarpoolStore}
    (hland : x.write.land s.store = some store') :
    ∀ id user, x.write = .removePassenger id user →
      ∃ carpool : Carpool, s.store.carpools id = some carpool.toDocument ∧
        user ≠ carpool.driver := by
  intro id user hw
  rw [hw] at hland
  obtain ⟨carpools, hup, -⟩ := Option.map_eq_some_iff.mp hland
  obtain ⟨d, hd, -⟩ := updateData_eq_some hup
  obtain ⟨carpool, hmem, rfl, passengers, rfl⟩ := h.stored hd
  exact ⟨_, hd, h.drivers x hx _ user hw carpool hmem rfl⟩

/-- After a landing every stored carpool is one that was created, less some passengers. -/
theorem Tracked.stored_land (h : s.Tracked) (hland : x.write.land s.store = some store)
    (hset : ∀ carpool, x.write = .setCarpool carpool → carpool ∈ s.created) {id : CarpoolID}
    {d : CarpoolDocument} (hd : store.carpools id = some d) :
    ∃ carpool ∈ s.created, carpool.uuid = id ∧
      ∃ passengers, d = { carpool with passengers }.toDocument := by
  rcases carpools_land hland hd with ⟨carpool, hw, hid, rfl⟩ | hd | ⟨d₀, user, hd₀, rfl⟩
  · exact ⟨carpool, hset carpool hw, hid, carpool.passengers, rfl⟩
  · exact h.stored hd
  · obtain ⟨carpool, hc, hid, passengers, rfl⟩ := h.stored hd₀
    exact ⟨carpool, hc, hid, _, Carpool.removePassenger_toDocument _ user⟩

private theorem Tracked.land_of (h : s.Tracked)
    (hx : takeOut CarpoolInFlight.client s.outbox i = some (x, rest))
    (hland : x.write.land s.store = some store)
    (hother : ∀ y ∈ rest, ∀ carpool, y.write = .setCarpool carpool →
      x.write.about ≠ some carpool.uuid)
    (hmembers : ∀ id, ¬ s.Announced id → ∀ user,
      ({ s with store, outbox := rest } : CarpoolSystem).settled (.member user id) = true →
        s.settled (.member user id) = true) :
    ({ s with store, outbox := rest } : CarpoolSystem).Tracked := by
  have hmem := takeOut_mem hx
  have hsub : ∀ {y}, y ∈ rest → y ∈ s.outbox := takeOut_subset hx
  constructor
  case created_used => exact h.created_used
  case created_inj => exact h.created_inj
  case groups_used =>
    intro user id hid
    exact (groups_land hland hid).elim h.groups_used (h.about_used x hmem id)
  case about_used => exact fun y hy => h.about_used y (hsub hy)
  case stored =>
    exact h.stored_land hland fun carpool hw => (h.announced x hmem carpool hw).1
  case announced =>
    intro y hy carpool hw
    have hne := hother y hy carpool hw
    obtain ⟨hc, hfilter, hnone, hgroups⟩ := h.announced y (hsub hy) carpool hw
    refine ⟨hc, (filter_rest hx hne).trans hfilter, ?_, ?_⟩
    · cases hd : store.carpools carpool.uuid with
      | none => rfl
      | some d =>
        rcases carpools_land hland hd with ⟨carpool', hw', hid, -⟩ | hd | ⟨d₀, user, hd, -⟩
        · exact absurd (by rw [hw', ← hid]; rfl) hne
        · rw [hnone] at hd
          cases hd
        · rw [hnone] at hd
          cases hd
    · exact fun user hid => (groups_land hland hid).elim (hgroups user) hne
  case drivers => exact fun y hy => h.drivers y (hsub hy)
  case clients =>
    intro c
    refine (h.clients c).mono fun carpool hk => hk.mono (fun _ hx => hx) ?_ (hmembers carpool.uuid)
    rintro ⟨y, hy, hann⟩
    exact ⟨y, hsub hy, hann⟩

/-- A landing of anything but a new carpool. -/
theorem Tracked.land (h : s.Tracked)
    (hx : takeOut CarpoolInFlight.client s.outbox i = some (x, rest))
    (hland : x.write.land s.store = some store)
    (hset : ∀ carpool, x.write ≠ .setCarpool carpool) :
    ({ s with store, outbox := rest } : CarpoolSystem).Tracked := by
  have hmem := takeOut_mem hx
  refine h.land_of hx hland (fun y hy carpool hw habout => ?_) fun id _ user hm => ?_
  · -- The announcement of a carpool is alone in being about it.
    have hfilter := (h.announced y (takeOut_subset hx hy) carpool hw).2.1
    have hin : x ∈ s.outbox.filter (·.write.about = some carpool.uuid) :=
      List.mem_filter.mpr ⟨hmem, decide_eq_true habout⟩
    rw [hfilter, List.mem_singleton] at hin
    exact hset carpool (hin ▸ hw)
  · rwa [settled_land hx hland hset (h.driver_of_inFlight hmem hland) (.inl ⟨user, _, rfl⟩)] at hm

/-- Landing a new carpool moves no register of another carpool. -/
theorem settled_landCarpool {carpool : Carpool}
    (hx : takeOut CarpoolInFlight.client s.outbox i = some (x, rest))
    (hw : x.write = .setCarpool carpool) (hland : x.write.land s.store = some store)
    {id : CarpoolID} (hid : id ≠ carpool.uuid) (user : UserID) :
    ({ s with store, outbox := rest } : CarpoolSystem).settled (.group user id) =
        s.settled (.group user id) ∧
      ({ s with store, outbox := rest } : CarpoolSystem).settled (.member user id) =
        s.settled (.member user id) := by
  obtain ⟨pre, post, hbox, rfl, -, -⟩ := takeOut_eq_some hx
  rw [hw] at hland
  obtain ⟨hgroup, -, hmember⟩ := CarpoolWrite.holds_land_setCarpool hland
  have hnone : ∀ r, assigns x r = none := fun r => by rw [assigns, hw]; rfl
  simp only [settled, hbox, settle_append, settle_cons, hnone, Option.getD_none, hgroup,
    hmember user id hid, and_self]

/-- The landing of a new carpool. -/
theorem Tracked.landCarpool (h : s.Tracked) {carpool : Carpool}
    (hx : takeOut CarpoolInFlight.client s.outbox i = some (x, rest))
    (hw : x.write = .setCarpool carpool) (hland : x.write.land s.store = some store) :
    ({ s with store, outbox := rest } : CarpoolSystem).Tracked ∧
      rest.filter (·.write.about = some carpool.uuid) = [] := by
  have hmem := takeOut_mem hx
  have habout : x.write.about = some carpool.uuid := by rw [hw]; rfl
  have hrest : rest.filter (·.write.about = some carpool.uuid) = [] := by
    have hfilter := (h.announced x hmem carpool hw).2.1
    obtain ⟨pre, post, hbox, rfl, -, -⟩ := takeOut_eq_some hx
    rw [hbox, List.filter_append, List.filter_cons_of_pos (by simpa using habout)] at hfilter
    rw [List.filter_append]
    have hlen := congrArg List.length hfilter
    simp only [List.length_append, List.length_cons, List.length_nil] at hlen
    rw [List.append_eq_nil_iff, ← List.length_eq_zero_iff, ← List.length_eq_zero_iff]
    omega
  refine ⟨h.land_of hx hland (fun y hy carpool' hw' habout' => ?_) fun id hid user hm => ?_, hrest⟩
  · -- Nothing else in flight is about the carpool.
    refine List.filter_eq_nil_iff.mp hrest y hy (decide_eq_true ?_)
    rw [← habout, habout', hw']
    rfl
  · have hne : id ≠ carpool.uuid := fun he => hid ⟨x, hmem, carpool, hw, he.symm⟩
    rwa [(settled_landCarpool hx hw hland hne user).2] at hm

end Land

/-! ### What a step can do -/

section Step
variable {s t : CarpoolSystem} {ev : CarpoolEvent}

/-- A client that shows the same and waits for more of what is sound. -/
theorem Holds.extend {client client' : CarpoolClient} (h : s.Holds client)
    (hshown : client'.shown = client.shown)
    (hcallbacks : ∀ x ∈ client'.callbacks, x ∈ client.callbacks ∨ s.Sound x) :
    s.Holds client' :=
  ⟨fun carpool hc => h.shown carpool (hshown ▸ hc),
    fun x hx => (hcallbacks x hx).elim (h.callbacks x) id⟩

/-- Moving on a callback changes the client, and sends out writes only where a carpool read
for a removal is handled. -/
theorem progress_cases (h : s.Tracked) {c : CarpoolClientID} {i : Nat}
    (hp : s.progress c i = some t) :
    (∃ client, s.Holds client ∧ t = s.setClient c client) ∨
    ∃ client me user carpool, s.Holds client ∧ user ≠ me ∧ s.Known carpool ∧
      t = (s.setClient c client).issue c (deleteUserFromCarpool me user carpool) := by
  have hclient := h.clients c
  have hrest : ∀ x ∈ (s.clients c).callbacks.eraseIdx i, x ∈ (s.clients c).callbacks :=
    fun x hx => List.mem_of_mem_eraseIdx hx
  simp only [progress] at hp
  split at hp
  · cases hp
  · next id hget =>
    cases hp
    refine .inl ⟨_, ?_, rfl⟩
    refine hclient.extend rfl fun x hx => ?_
    refine (List.mem_append.mp hx).imp (hrest x) fun hx => ?_
    obtain ⟨carpool, hread, rfl⟩ := List.mem_map.mp hx
    exact h.known_of_carpool? (Option.mem_toList.mp hread)
  · next carpool hget =>
    have hknown : s.Known carpool := hclient.callbacks _ (List.mem_of_getElem? hget)
    cases hp
    refine .inl ⟨_, ?_, rfl⟩
    refine ⟨fun x hx => ?_, fun x hx => hclient.callbacks x (hrest x hx)⟩
    rcases List.mem_append.mp hx with hx | hx
    · exact hclient.shown x hx
    · exact List.mem_singleton.mp hx ▸ hknown
  · next me user hget =>
    have hne : user ≠ me := hclient.callbacks _ (List.mem_of_getElem? hget)
    cases hp
    refine .inl ⟨_, ?_, rfl⟩
    refine hclient.extend rfl fun x hx => ?_
    refine (List.mem_append.mp hx).imp (hrest x) fun hx => ?_
    obtain ⟨id, -, rfl⟩ := List.mem_map.mp hx
    exact hne
  · next me user id hget =>
    have hne : user ≠ me := hclient.callbacks _ (List.mem_of_getElem? hget)
    cases hp
    refine .inl ⟨_, ?_, rfl⟩
    refine hclient.extend rfl fun x hx => ?_
    refine (List.mem_append.mp hx).imp (hrest x) fun hx => ?_
    obtain ⟨carpool, hread, rfl⟩ := List.mem_map.mp hx
    exact ⟨hne, h.known_of_carpool? (Option.mem_toList.mp hread)⟩
  · next me user carpool hget =>
    obtain ⟨hne, hknown⟩ : user ≠ me ∧ s.Known carpool :=
      hclient.callbacks _ (List.mem_of_getElem? hget)
    cases hp
    refine .inr ⟨_, me, user, carpool, ?_, hne, hknown, rfl⟩
    exact hclient.extend rfl fun x hx => .inl (hrest x hx)

/-- A step replaces a client, and with that may create a carpool, delete one or leave it, or
remove a member; or a write lands. -/
theorem step_cases (h : s.Tracked) (hstep : step s ev = some t) :
    (∃ c client, s.Holds client ∧ t = s.setClient c client) ∨
    (∃ c client carpool message, s.Holds client ∧ carpool.uuid ∉ s.used ∧
      t = ({ s.setClient c client with
          created := s.created ++ [carpool]
          used := s.used ++ [carpool.uuid] }).issue c
        (CarpoolController.creationWrites carpool message)) ∨
    (∃ c client carpool, ev = .delete c carpool ∧ s.Holds client ∧ s.Known carpool ∧
      t = (s.setClient c client).issue c
        ((s.clients c).controller.delete (s.clients c).currentUser carpool).1) ∨
    (∃ c client me user carpool, s.Holds client ∧ user ≠ me ∧ s.Known carpool ∧
      t = (s.setClient c client).issue c (deleteUserFromCarpool me user carpool)) ∨
    ∃ i x rest store, ev = .land i ∧
      takeOut CarpoolInFlight.client s.outbox i = some (x, rest) ∧
      x.write.land s.store = some store ∧
      t = ({ s with store, outbox := rest } : CarpoolSystem).acknowledge x.client x.write := by
  have hsame : ∀ {c client}, client.shown = (s.clients c).shown →
      client.callbacks = (s.clients c).callbacks → s.Holds client :=
    fun hshown hcb => (h.clients _).extend hshown fun x hx => .inl (hcb ▸ hx)
  cases ev with
  | fetchCurrentUser c user | setOptions c title modeSegment typeSegment
  | selectDestination c destination | addPassenger c passenger | fetchGroupsForCurrentUser c =>
    cases hstep
    refine .inl ⟨c, _, ?_, rfl⟩
    exact hsame rfl rfl
  | createCarpool c uniquePassengers new =>
    obtain ⟨-, hnew, rfl | ⟨carpool, message, controller, hcreate, rfl⟩⟩ :=
      step_createCarpool hstep
    · refine .inl ⟨c, t.clients c, h.clients c, ?_⟩
      rw [setClient_clients]
    · obtain ⟨_, _, -, -, rfl, -, -⟩ := CarpoolController.createCarpool_eq_some hcreate
      refine .inr (.inl ⟨c, _, _, message, ?_, hnew, rfl⟩)
      exact hsame rfl rfl
  | snapshot c user =>
    obtain ⟨-, rfl⟩ := step_snapshot hstep
    refine .inl ⟨c, _, ?_, rfl⟩
    refine (h.clients c).extend rfl fun x hx => ?_
    refine (List.mem_append.mp hx).imp_right fun hx => ?_
    obtain ⟨id, -, rfl⟩ := List.mem_map.mp hx
    exact True.intro
  | delete c carpool =>
    obtain ⟨hshown, rfl⟩ := step_delete hstep
    refine .inr (.inr (.inl ⟨c, _, carpool, rfl, ?_, (h.clients c).shown carpool hshown, rfl⟩))
    exact hsame rfl rfl
  | blockOrUnfriend c user =>
    obtain ⟨me, -, hne, rfl⟩ := step_blockOrUnfriend hstep
    refine .inl ⟨c, _, ?_, rfl⟩
    refine (h.clients c).extend rfl fun x hx => ?_
    refine (List.mem_append.mp hx).imp_right fun hx => ?_
    rw [List.mem_singleton.mp hx]
    exact hne
  | progress c i =>
    rcases progress_cases h hstep with ⟨client, hq⟩ | ⟨client, me, user, carpool, hq⟩
    · exact .inl ⟨c, client, hq⟩
    · exact .inr (.inr (.inr (.inl ⟨c, client, me, user, carpool, hq⟩)))
  | readFailed c i =>
    cases hstep
    refine .inl ⟨c, _, ?_, rfl⟩
    exact (h.clients c).extend rfl fun x hx => .inl (List.mem_of_mem_eraseIdx hx)
  | land i =>
    obtain ⟨x, rest, store, hx, hland, rfl⟩ := step_land hstep
    exact .inr (.inr (.inr (.inr ⟨i, x, rest, store, rfl, hx, hland, rfl⟩)))

/-- The acknowledgement of a new carpool sends out its group entries; that of a driver's
deletion takes the carpool off the list; any other does nothing. -/
theorem acknowledge_cases (c : CarpoolClientID) (w : CarpoolWrite) (h : s.Tracked) :
    (∃ carpool, w = .setCarpool carpool ∧ s.acknowledge c w = s.issue c
      ((s.clients c).controller.carpoolCreated (s.clients c).currentUser carpool)) ∨
    (∀ carpool, w ≠ .setCarpool carpool) ∧
      ∃ client, s.Holds client ∧ s.acknowledge c w = s.setClient c client := by
  cases w with
  | setCarpool carpool => exact .inl ⟨carpool, rfl, rfl⟩
  | deleteCarpool id =>
    refine .inr ⟨nofun, _, ?_, rfl⟩
    exact (h.clients c).extend rfl fun x hx => .inl hx
  | addMessage _ _ | setGroup _ _ | deleteGroup _ _ | deleteNewMessage _
  | removePassenger _ _ =>
    exact .inr ⟨nofun, s.clients c, h.clients c, (setClient_clients s c).symm⟩

end Step

end CarpoolSystem

end DriveTribe
