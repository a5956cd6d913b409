import DriveTribe.Carpools.Membership

/-!
# Who shares a carpool after a block

A block or an unfriending by `A` of `B` walks the groups of `A` and reads each carpool listed
there. Where `A` drives, `B` is removed from the passengers and from the groups; elsewhere
`A` is, if `B` is a member. What the groups of `A` do not list is not visited, and what they
list is acted upon whether `A` is a member or not. So the two are separated, and nobody else is
touched, exactly if the store records their common carpools in the groups of `A` to begin with.
-/

namespace DriveTribe

open Base

/-- A carpool that has lost some passengers. -/
def Carpool.keeping (carpool : Carpool) (p : UserID → Bool) : Carpool :=
  { carpool with passengers := carpool.passengers.filter p }

/-- The member whom `me` removes from a carpool on account of `user`. -/
def Carpool.Evicts (carpool : Carpool) (me user member : UserID) : Prop :=
  if me = carpool.driver then member = user ∧ user ∈ carpool.passengers
  else member = me ∧ carpool.IsMember user

section Keeping
variable {me user member : UserID} {carpool : Carpool} {p : UserID → Bool}

/-- A carpool that has lost some passengers has nobody evicted whom it did not before. -/
theorem Carpool.Evicts.of_keeping (h : (carpool.keeping p).Evicts me user member) :
    carpool.Evicts me user member := by
  simp only [Evicts, keeping, IsMember, List.mem_filter] at h ⊢
  by_cases hme : me = carpool.driver
  · rw [if_pos hme] at h ⊢
    exact ⟨h.1, h.2.1⟩
  · rw [if_neg hme] at h ⊢
    exact ⟨h.1, h.2.imp_right And.left⟩

/-- While `user` is a member, the same member is evicted. -/
theorem Carpool.Evicts.keeping (h : carpool.Evicts me user member) (hne : user ≠ me)
    (huser : (carpool.keeping p).IsMember user) : (carpool.keeping p).Evicts me user member := by
  simp only [Evicts, Carpool.keeping, IsMember, List.mem_filter] at h huser ⊢
  by_cases hme : me = carpool.driver
  · rw [if_pos hme] at h ⊢
    exact ⟨h.1, huser.resolve_left fun he => hne (he.trans hme.symm)⟩
  · rw [if_neg hme] at h ⊢
    exact ⟨h.1, huser⟩

end Keeping

/-- What is written is about the evicted member: both records are withdrawn. -/
theorem Carpool.mem_deleteUserFromCarpool_iff {me user : UserID} {carpool : Carpool}
    {w : CarpoolWrite} :
    w ∈ deleteUserFromCarpool me user carpool ↔ ∃ member, carpool.Evicts me user member ∧
      (w = .deleteGroup member carpool.uuid ∨ w = .removePassenger carpool.uuid member) := by
  unfold deleteUserFromCarpool Evicts
  by_cases hme : me = carpool.driver
  · simp only [if_pos hme, List.mem_flatMap, List.mem_ite_nil_right, List.mem_cons,
      List.not_mem_nil, or_false]
    constructor
    · rintro ⟨passager, hp, rfl, hw⟩
      exact ⟨passager, ⟨rfl, hp⟩, hw⟩
    · rintro ⟨member, ⟨rfl, hp⟩, hw⟩
      exact ⟨member, hp, rfl, hw⟩
  · simp only [if_neg hme, List.mem_append, List.mem_flatMap, List.mem_ite_nil_right,
      List.mem_cons, List.not_mem_nil, or_false, IsMember]
    constructor
    · rintro (⟨hu, hw⟩ | ⟨passager, hp, rfl, hw⟩)
      · exact ⟨me, ⟨rfl, .inl hu⟩, hw⟩
      · exact ⟨me, ⟨rfl, .inr hp⟩, hw⟩
    · rintro ⟨member, ⟨rfl, hu | hp⟩, hw⟩
      · exact .inl ⟨hu, hw⟩
      · exact .inr ⟨user, hp, rfl, hw⟩

namespace CarpoolStore

/-- The user is removed from the carpool: the groups of `A` list it, and as it is stored its
driver or its passengers have `A` remove him on account of `B`. -/
def Evicted (x : CarpoolStore) (A B member : UserID) (id : CarpoolID) : Prop :=
  id ∈ x.groups A ∧ ∃ carpool, x.carpool? id = some carpool ∧ carpool.Evicts A B member

/-- Every document is a carpool under its own id. -/
def Keyed (x : CarpoolStore) : Prop :=
  ∀ id d, x.carpools id = some d → ∃ carpool : Carpool, d = carpool.toDocument ∧ carpool.uuid = id

/-- Both users are members of the carpool. -/
def Shares (x : CarpoolStore) (A B : UserID) (id : CarpoolID) : Prop :=
  x.holds (.member A id) = true ∧ x.holds (.member B id) = true

/-- What separating `A` from `B` is: no carpool has both, no id is in the groups of both, and
nothing is changed for a third user or about a carpool that did not have both. -/
structure Separated (A B : UserID) (before after : CarpoolStore) : Prop where
  carpools : ∀ id carpool, after.carpool? id = some carpool →
    ¬ (carpool.IsMember A ∧ carpool.IsMember B)
  groups : ∀ id, ¬ (id ∈ after.groups A ∧ id ∈ after.groups B)
  third : ∀ user, user ≠ A → user ≠ B → ∀ id,
    after.holds (.group user id) = before.holds (.group user id) ∧
    after.holds (.member user id) = before.holds (.member user id)
  others : ∀ id, ¬ before.Shares A B id → ∀ user,
    after.holds (.group user id) = before.holds (.group user id) ∧
    after.holds (.member user id) = before.holds (.member user id)

/-- The groups of `A` record the carpools of both: they list each, list no other that the
groups of `B` list, and list none of `B` without `A`. -/
def Recorded (x : CarpoolStore) (A B : UserID) : Prop :=
  ∀ id, (x.Shares A B id → id ∈ x.groups A) ∧
    (id ∈ x.groups A → id ∈ x.groups B → x.Shares A B id) ∧
    (id ∈ x.groups A → x.holds (.member B id) = true → x.holds (.member A id) = true)

/-- The store after the evictions. -/
def AfterEviction (A B : UserID) (before after : CarpoolStore) : Prop :=
  ∀ user id,
    (after.holds (.group user id) = true ↔
      before.holds (.group user id) = true ∧ ¬ before.Evicted A B user id) ∧
    (after.holds (.member user id) = true ↔
      before.holds (.member user id) = true ∧ ¬ before.Evicted A B user id)

/-! ### What the evictions come to -/

/-- In a keyed store a carpool is read under its own id. -/
theorem Keyed.uuid {x : CarpoolStore} (h : x.Keyed) {id : CarpoolID} {carpool : Carpool}
    (hread : x.carpool? id = some carpool) : carpool.uuid = id := by
  obtain ⟨d, hd, hdec⟩ := Option.bind_eq_some_iff.mp hread
  obtain ⟨carpool', rfl, hid⟩ := h id d hd
  rw [Carpool.ofDocument_toDocument, Option.some.injEq] at hdec
  exact hdec ▸ hid

section After
variable {x y : CarpoolStore} {A B user : UserID} {id : CarpoolID}

/-- The record in the groups. -/
theorem holds_group : x.holds (.group user id) = true ↔ id ∈ x.groups user := decide_eq_true_iff

/-- Somebody is evicted from exactly the listed carpools of `B` that `A` drives or does not. -/
theorem exists_evicted_iff (hne : B ≠ A) :
    (∃ member, x.Evicted A B member id) ↔
      id ∈ x.groups A ∧ x.holds (.member B id) = true := by
  constructor
  · rintro ⟨member, hid, carpool, hread, hevicts⟩
    refine ⟨hid, holds_member.mpr ⟨carpool, hread, ?_⟩⟩
    unfold Carpool.Evicts at hevicts
    split at hevicts
    · exact .inr hevicts.2
    · exact hevicts.2
  · rintro ⟨hid, hB⟩
    obtain ⟨carpool, hread, hmem⟩ := holds_member.mp hB
    by_cases hA : A = carpool.driver
    · refine ⟨B, hid, carpool, hread, ?_⟩
      rw [Carpool.Evicts, if_pos hA]
      exact ⟨rfl, hmem.resolve_left fun h => hne (h.trans hA.symm)⟩
    · refine ⟨A, hid, carpool, hread, ?_⟩
      rw [Carpool.Evicts, if_neg hA]
      exact ⟨rfl, hmem⟩

private theorem Evicted.eq_or_eq {member : UserID} (h : x.Evicted A B member id) :
    member = A ∨ member = B := by
  obtain ⟨-, carpool, -, hevicts⟩ := h
  unfold Carpool.Evicts at hevicts
  split at hevicts
  · exact .inr hevicts.1
  · exact .inl hevicts.1

/-- One of them at most. -/
theorem Evicted.unique {member member' : UserID} (h : x.Evicted A B member id)
    (h' : x.Evicted A B member' id) : member = member' := by
  obtain ⟨-, carpool, hread, hevicts⟩ := h
  obtain ⟨-, carpool', hread', hevicts'⟩ := h'
  rw [hread, Option.some.injEq] at hread'
  subst hread'
  unfold Carpool.Evicts at hevicts hevicts'
  split at hevicts
  · next hA =>
    rw [if_pos hA] at hevicts'
    rw [hevicts.1, hevicts'.1]
  · next hA =>
    rw [if_neg hA] at hevicts'
    rw [hevicts.1, hevicts'.1]

private theorem Evicted.holds_driver (hne : B ≠ A) (h : x.Evicted A B B id) :
    x.holds (.member A id) = true := by
  obtain ⟨-, carpool, hread, hevicts⟩ := h
  unfold Carpool.Evicts at hevicts
  split at hevicts
  · next hA => exact holds_member.mpr ⟨carpool, hread, .inl hA⟩
  · exact absurd hevicts.1 hne

private theorem Evicted.ne_driver (hne : B ≠ A) {member : UserID} (h : x.Evicted A B member id)
    {carpool : Carpool} (hread : x.carpool? id = some carpool) : member ≠ carpool.driver := by
  obtain ⟨-, carpool', hread', hevicts⟩ := h
  rw [hread, Option.some.injEq] at hread'
  subst hread'
  unfold Carpool.Evicts at hevicts
  split at hevicts
  · next hA =>
    rw [hevicts.1, ← hA]
    exact hne
  · next hA =>
    rw [hevicts.1]
    exact hA

private theorem AfterEviction.eq_of_not_evicted (h : AfterEviction A B x y)
    (hno : ¬ x.Evicted A B user id) :
    y.holds (.group user id) = x.holds (.group user id) ∧
      y.holds (.member user id) = x.holds (.member user id) := by
  have hg := (h user id).1
  have hm := (h user id).2
  simp only [hno, not_false_eq_true, and_true] at hg hm
  exact ⟨Bool.eq_iff_iff.mpr hg, Bool.eq_iff_iff.mpr hm⟩

/-- The evictions separate the two users exactly if the groups of `A` record what they share. -/
theorem AfterEviction.separated_iff_recorded (h : AfterEviction A B x y) (hne : B ≠ A) :
    Separated A B x y ↔ x.Recorded A B := by
  constructor
  · intro hsep
    -- An evicted member loses the group entry, and only shared carpools may change.
    have hshares : ∀ {member id}, x.Evicted A B member id → id ∈ x.groups member →
        x.Shares A B id := by
      intro member id hev hid
      by_contra hno
      have hsame := (hsep.others id hno member).1
      rw [holds_group.mpr hid] at hsame
      exact ((h member id).1.mp hsame).2 hev
    intro id
    refine ⟨fun hboth => ?_, fun hA hB => ?_, fun hA hB => ?_⟩
    · by_contra hA
      have hno : ∀ member, ¬ x.Evicted A B member id := fun member hev => hA hev.1
      have hmA := (h A id).2.mpr ⟨hboth.1, hno A⟩
      have hmB := (h B id).2.mpr ⟨hboth.2, hno B⟩
      obtain ⟨carpool, hread, hcA⟩ := holds_member.mp hmA
      obtain ⟨carpool', hread', hcB⟩ := holds_member.mp hmB
      rw [hread, Option.some.injEq] at hread'
      subst hread'
      exact hsep.carpools id carpool hread ⟨hcA, hcB⟩
    · have hev : x.Evicted A B A id ∨ x.Evicted A B B id := by
        by_contra hno
        push Not at hno
        have hgA := (h A id).1.mpr ⟨holds_group.mpr hA, hno.1⟩
        have hgB := (h B id).1.mpr ⟨holds_group.mpr hB, hno.2⟩
        exact hsep.groups id ⟨holds_group.mp hgA, holds_group.mp hgB⟩
      cases hev with
      | inl hev => exact hshares hev hA
      | inr hev => exact hshares hev hB
    · obtain ⟨member, hev⟩ := (exists_evicted_iff hne).mpr ⟨hA, hB⟩
      have hmember := hev.eq_or_eq
      cases hmember with
      | inl he =>
        subst he
        exact (hshares hev hA).1
      | inr he =>
        subst he
        exact hev.holds_driver hne
  · intro hrec
    -- With the records in agreement only shared carpools evict anybody.
    have hnone : ∀ id, ¬ x.Shares A B id → ∀ member, ¬ x.Evicted A B member id := by
      intro id hno member hev
      have hB := (exists_evicted_iff hne).mp ⟨member, hev⟩
      exact hno ⟨(hrec id).2.2 hB.1 hB.2, hB.2⟩
    have hevicted : ∀ id, id ∈ x.groups A → x.holds (.member B id) = true →
        x.Evicted A B A id ∨ x.Evicted A B B id := by
      intro id hA hB
      obtain ⟨member, hev⟩ := (exists_evicted_iff hne).mpr ⟨hA, hB⟩
      cases hev.eq_or_eq with
      | inl he => exact .inl (he ▸ hev)
      | inr he => exact .inr (he ▸ hev)
    constructor
    case carpools =>
      rintro id carpool hread ⟨hcA, hcB⟩
      have hA := (h A id).2.mp (holds_member.mpr ⟨carpool, hread, hcA⟩)
      have hB := (h B id).2.mp (holds_member.mpr ⟨carpool, hread, hcB⟩)
      have hlisted := (hrec id).1 ⟨hA.1, hB.1⟩
      exact (hevicted id hlisted hB.1).elim hA.2 hB.2
    case groups =>
      rintro id ⟨hgA, hgB⟩
      have hA := (h A id).1.mp (holds_group.mpr hgA)
      have hB := (h B id).1.mp (holds_group.mpr hgB)
      have hlisted := holds_group.mp hA.1
      have hboth := (hrec id).2.1 hlisted (holds_group.mp hB.1)
      exact (hevicted id hlisted hboth.2).elim hA.2 hB.2
    case third =>
      intro user hA hB id
      apply h.eq_of_not_evicted
      intro hev
      exact hev.eq_or_eq.elim hA hB
    case others =>
      intro id hno user
      exact h.eq_of_not_evicted (hnone id hno user)

end After

end CarpoolStore

namespace CarpoolSystem

/-! ### The walk through the groups -/

/-- Nothing is going on; `me` is logged in on the client `0`. -/
def alone (store : CarpoolStore) (me : User) : CarpoolSystem where
  store := store
  clients := Function.update (fun _ => {}) 0 { currentUser := some me }
  outbox := []
  created := []
  used := []

/-- What that client has asked for moves on, and what it has written lands. -/
def MovesOn : CarpoolEvent → Prop
  | .progress c _ => c = 0
  | .land _ => True
  | _ => False

instance : ∀ ev, Decidable (MovesOn ev)
  | .progress c _ => inferInstanceAs (Decidable (c = 0))
  | .land _ => .isTrue True.intro
  | .fetchCurrentUser _ _ | .setOptions _ _ _ _ | .selectDestination _ _ | .addPassenger _ _
  | .createCarpool _ _ _ | .fetchGroupsForCurrentUser _ | .snapshot _ _ | .delete _ _
  | .blockOrUnfriend _ _ | .readFailed _ _ => .isFalse id

/-- Both records of the membership are withdrawn, or about to be. -/
def Withdrawn (t : CarpoolSystem) (member : UserID) (id : CarpoolID) : Prop :=
  ((∃ w ∈ t.outbox, w.write = .deleteGroup member id) ∨
    t.store.holds (.group member id) = false) ∧
  ((∃ w ∈ t.outbox, w.write = .removePassenger id member) ∨
    t.store.holds (.member member id) = false)

/-- The carpool is still to be read, or was read and is still to be handled. -/
def Awaits (t : CarpoolSystem) (A B member : UserID) (id : CarpoolID) : Prop :=
  .removalCarpool A B id ∈ (t.clients 0).callbacks ∨
    ∃ carpool, .removalAnswer A B carpool ∈ (t.clients 0).callbacks ∧ carpool.uuid = id ∧
      carpool.Evicts A B member

/-- Along the walk through the groups of `A`, started on the store `x`. -/
structure Walk (x : CarpoolStore) (A B : UserID) (t : CarpoolSystem) : Prop where
  keyed : x.Keyed
  docs : ∀ id, ∃ p : UserID → Bool, t.store.carpools id =
    (x.carpool? id).map fun carpool => (carpool.keeping p).toDocument
  callbacks : ∀ cb ∈ (t.clients 0).callbacks,
    (∃ id ∈ x.groups A, cb = .removalCarpool A B id) ∨
    ∃ carpool, ∃ p : UserID → Bool, carpool.uuid ∈ x.groups A ∧
      x.carpool? carpool.uuid = some carpool ∧
      cb = .removalAnswer A B (carpool.keeping p)
  outbox : ∀ w ∈ t.outbox, ∃ member id, x.Evicted A B member id ∧ t.Withdrawn member id ∧
    (w.write = .deleteGroup member id ∨ w.write = .removePassenger id member)
  kept : ∀ r, t.store.holds r = true → x.holds r = true
  lost : ∀ user id,
    (x.holds (.group user id) = true ∧ t.store.holds (.group user id) = false) ∨
      (x.holds (.member user id) = true ∧ t.store.holds (.member user id) = false) →
    x.Evicted A B user id ∧ t.Withdrawn user id
  evicted : ∀ member id, x.Evicted A B member id → t.Withdrawn member id ∨ t.Awaits A B member id

section Walk
variable {x : CarpoolStore} {A B : UserID} {s t : CarpoolSystem}

private theorem Walk.afterEviction (h : Walk x A B t) (hbox : t.outbox = [])
    (hcb : (t.clients 0).callbacks = []) : x.AfterEviction A B t.store := by
  have hgone : ∀ {member id}, t.Withdrawn member id →
      t.store.holds (.group member id) = false ∧ t.store.holds (.member member id) = false := by
    intro member id hw
    constructor
    · exact hw.1.resolve_left fun ⟨w, hmem, _⟩ => by simp [hbox] at hmem
    · exact hw.2.resolve_left fun ⟨w, hmem, _⟩ => by simp [hbox] at hmem
  have hdone : ∀ {member id}, x.Evicted A B member id → t.Withdrawn member id := by
    intro member id hev
    apply (h.evicted member id hev).resolve_right
    simp only [Awaits, hcb, List.not_mem_nil, false_and, exists_false, or_self,
      not_false_eq_true]
  intro user id
  constructor
  · constructor
    · intro ht
      refine ⟨h.kept _ ht, fun hev => ?_⟩
      rw [(hgone (hdone hev)).1] at ht
      cases ht
    · rintro ⟨hx, hno⟩
      by_contra ht
      rw [Bool.not_eq_true] at ht
      exact hno (h.lost user id (.inl ⟨hx, ht⟩)).1
  · constructor
    · intro ht
      refine ⟨h.kept _ ht, fun hev => ?_⟩
      rw [(hgone (hdone hev)).2] at ht
      cases ht
    · rintro ⟨hx, hno⟩
      by_contra ht
      rw [Bool.not_eq_true] at ht
      exact hno (h.lost user id (.inr ⟨hx, ht⟩)).1

private theorem Walk.carpool?_eq (h : Walk x A B t) (id : CarpoolID) :
    ∃ p : UserID → Bool, t.carpool? id =
      (x.carpool? id).map fun carpool => carpool.keeping p := by
  obtain ⟨p, hp⟩ := h.docs id
  refine ⟨p, ?_⟩
  rw [CarpoolSystem.carpool?, CarpoolStore.carpool?, hp]
  cases x.carpool? id <;> rfl

private theorem Walk.withdrawn_of_read (h : Walk x A B t) (hne : B ≠ A) {member : UserID}
    {id : CarpoolID} (hev : x.Evicted A B member id) {carpool : Carpool}
    (hread : t.carpool? id = some carpool) (hno : ¬ carpool.Evicts A B member) :
    t.Withdrawn member id := by
  have hB : x.holds (.member B id) = true :=
    ((CarpoolStore.exists_evicted_iff hne).mp ⟨member, hev⟩).2
  obtain ⟨-, original, horiginal, hevicts⟩ := hev
  obtain ⟨p, hp⟩ := h.carpool?_eq id
  rw [hread, horiginal, Option.map_some, Option.some.injEq] at hp
  have hgone : t.store.holds (.member B id) = false := by
    rw [← Bool.not_eq_true]
    intro hmem
    obtain ⟨copy, hcopy, hin⟩ := CarpoolStore.holds_member.mp hmem
    rw [show t.store.carpool? id = some carpool from hread, Option.some.injEq] at hcopy
    subst hcopy
    subst hp
    exact hno (hevicts.keeping hne hin)
  have hlost := h.lost B id (.inr ⟨hB, hgone⟩)
  have hmember : member = B := by
    have hevicted : x.Evicted A B member id := ⟨hlost.1.1, original, horiginal, hevicts⟩
    exact hevicted.unique hlost.1
  rw [hmember]
  exact hlost.2

/-- Reading one of the carpools. -/
theorem Walk.read (h : Walk x A B s) (hne : B ≠ A) {i : Nat} {id : CarpoolID}
    (hget : (s.clients 0).callbacks[i]? = some (.removalCarpool A B id)) :
    Walk x A B (s.setClient 0
      { s.clients 0 with
        callbacks := (s.clients 0).callbacks.eraseIdx i ++
          (s.carpool? id).toList.map (.removalAnswer A B) }) := by
  have hid : id ∈ x.groups A := by
    obtain ⟨id', hid', he⟩ | ⟨_, _, _, _, he⟩ := h.callbacks _ (List.mem_of_getElem? hget)
    · cases he
      exact hid'
    · cases he
  constructor
  case keyed => exact h.keyed
  case docs => exact h.docs
  case outbox => exact h.outbox
  case kept => exact h.kept
  case lost => exact h.lost
  case callbacks =>
    intro cb hcb
    rw [clients_setClient_self] at hcb
    rcases List.mem_append.mp hcb with hcb | hcb
    · exact h.callbacks cb (List.mem_of_mem_eraseIdx hcb)
    · right
      obtain ⟨carpool, hread, rfl⟩ := List.mem_map.mp hcb
      rw [Option.mem_toList] at hread
      obtain ⟨p, hp⟩ := h.carpool?_eq id
      rw [hread] at hp
      obtain ⟨original, horiginal, rfl⟩ := Option.map_eq_some_iff.mp hp.symm
      have huuid := h.keyed.uuid horiginal
      refine ⟨original, p, huuid ▸ hid, ?_, rfl⟩
      rw [huuid, horiginal]
  case evicted =>
    intro member id' hev
    have hbefore := h.evicted member id' hev
    cases hbefore with
    | inl hw => exact .inl hw
    | inr haw =>
      unfold Awaits
      rw [clients_setClient_self]
      cases haw with
      | inr hanswer =>
        obtain ⟨carpool, hmem, hcarpool⟩ := hanswer
        right
        right
        refine ⟨carpool, List.mem_append_left _ ?_, hcarpool⟩
        apply mem_eraseIdx_of_ne hget hmem
        intro he
        cases he
      | inl hmem =>
        by_cases hsame : id' = id
        · subst hsame
          obtain ⟨original, horiginal, -⟩ := hev.2
          obtain ⟨p, hp⟩ := h.carpool?_eq id'
          rw [horiginal, Option.map_some] at hp
          -- Where the copy no longer evicts the member, the withdrawal was issued before.
          by_cases hevicts : (original.keeping p).Evicts A B member
          · right
            right
            have huuid := h.keyed.uuid horiginal
            refine ⟨original.keeping p, List.mem_append_right _ ?_, huuid, hevicts⟩
            rw [hp]
            exact List.mem_singleton_self _
          · left
            exact h.withdrawn_of_read hne hev hp hevicts
        · right
          left
          apply List.mem_append_left
          apply mem_eraseIdx_of_ne hget hmem
          intro he
          cases he
          exact hsame rfl

/-- What is withdrawn stays so while more is written. -/
theorem Withdrawn.issue {member : UserID} {id : CarpoolID} (h : s.Withdrawn member id)
    (c : CarpoolClientID) (ws : List CarpoolWrite) : (s.issue c ws).Withdrawn member id := by
  constructor
  · apply h.1.imp_left
    rintro ⟨w, hw, he⟩
    exact ⟨w, List.mem_append_left _ hw, he⟩
  · apply h.2.imp_left
    rintro ⟨w, hw, he⟩
    exact ⟨w, List.mem_append_left _ hw, he⟩

/-- Handling one of the carpools that were read. -/
theorem Walk.handle (h : Walk x A B s) {i : Nat} {carpool : Carpool}
    (hget : (s.clients 0).callbacks[i]? = some (.removalAnswer A B carpool)) :
    Walk x A B ((s.setClient 0
      { s.clients 0 with callbacks := (s.clients 0).callbacks.eraseIdx i }).issue 0
        (deleteUserFromCarpool A B carpool)) := by
  obtain ⟨original, p, hid, horiginal, hcopy⟩ : ∃ original : Carpool, ∃ p : UserID → Bool,
      original.uuid ∈ x.groups A ∧ x.carpool? original.uuid = some original ∧
        carpool = original.keeping p := by
    obtain ⟨_, _, he⟩ | ⟨original, p, hid, horiginal, he⟩ :=
      h.callbacks _ (List.mem_of_getElem? hget)
    · cases he
    · exact ⟨original, p, hid, horiginal, (Callback.removalAnswer.inj he).2.2⟩
  have huuid : carpool.uuid = original.uuid := by
    rw [hcopy]
    rfl
  -- Whoever the copy has evicted gets both records withdrawn.
  have hissued : ∀ member, carpool.Evicts A B member →
      ((s.setClient 0
        { s.clients 0 with callbacks := (s.clients 0).callbacks.eraseIdx i }).issue 0
          (deleteUserFromCarpool A B carpool)).Withdrawn member carpool.uuid := by
    intro member hevicts
    have hwritten (w : CarpoolWrite)
        (hw : w = .deleteGroup member carpool.uuid ∨ w = .removePassenger carpool.uuid member) :
        w ∈ deleteUserFromCarpool A B carpool :=
      Carpool.mem_deleteUserFromCarpool_iff.mpr ⟨member, hevicts, hw⟩
    constructor
    · exact .inl ⟨_, List.mem_append_right _ (List.mem_map_of_mem (hwritten _ (.inl rfl))), rfl⟩
    · exact .inl ⟨_, List.mem_append_right _ (List.mem_map_of_mem (hwritten _ (.inr rfl))), rfl⟩
  constructor
  case keyed => exact h.keyed
  case docs => exact h.docs
  case kept => exact h.kept
  case callbacks =>
    intro cb hcb
    rw [CarpoolSystem.issue, clients_setClient_self] at hcb
    exact h.callbacks cb (List.mem_of_mem_eraseIdx hcb)
  case lost =>
    intro user id hl
    have hlost := h.lost user id hl
    exact ⟨hlost.1, Withdrawn.issue hlost.2 0 _⟩
  case outbox =>
    intro w hw
    rcases List.mem_append.mp hw with hw | hw
    · obtain ⟨member, id, hev, hwd, hform⟩ := h.outbox w hw
      exact ⟨member, id, hev, Withdrawn.issue hwd 0 _, hform⟩
    · obtain ⟨v, hv, rfl⟩ := List.mem_map.mp hw
      obtain ⟨member, hevicts, hform⟩ := Carpool.mem_deleteUserFromCarpool_iff.mp hv
      refine ⟨member, carpool.uuid, ⟨huuid ▸ hid, original, huuid ▸ horiginal, ?_⟩,
        hissued member hevicts, hform⟩
      rw [hcopy] at hevicts
      exact hevicts.of_keeping
  case evicted =>
    intro member id hev
    have hbefore := h.evicted member id hev
    cases hbefore with
    | inl hw => exact .inl (Withdrawn.issue hw 0 _)
    | inr haw =>
      unfold Awaits
      rw [CarpoolSystem.issue, clients_setClient_self]
      cases haw with
      | inl hmem =>
        right
        left
        apply mem_eraseIdx_of_ne hget hmem
        intro he
        cases he
      | inr hanswer =>
        obtain ⟨copy, hmem, hcopyid, hevicts⟩ := hanswer
        by_cases hsame : copy = carpool
        · subst hsame
          left
          rw [← hcopyid]
          exact hissued member hevicts
        · right
          right
          refine ⟨copy, ?_, hcopyid, hevicts⟩
          apply mem_eraseIdx_of_ne hget hmem
          intro he
          exact hsame (Callback.removalAnswer.inj he).2.2

/-- A group entry that is deleted is clear. -/
private theorem effect_deleteGroup_self (user : UserID) (id : CarpoolID) :
    (CarpoolWrite.deleteGroup user id).effect (.group user id) = some false := by
  simp [CarpoolWrite.effect]

/-- So is the membership of a passenger that is removed. -/
private theorem effect_removePassenger_self (user : UserID) (id : CarpoolID) :
    (CarpoolWrite.removePassenger id user).effect (.member user id) = some false := by
  simp [CarpoolWrite.effect]

/-- A withdrawal that lands assigns `false` to the one register it is about. -/
private theorem effect_withdrawal {w : CarpoolWrite} {member : UserID} {id : CarpoolID}
    (h : w = .deleteGroup member id ∨ w = .removePassenger id member) (r : Register) :
    w.effect r = none ∨
      w.effect r = some false ∧ (r = .group member id ∨ r = .member member id) := by
  cases h with
  | inl he =>
    subst he
    cases r with
    | member user id' => exact .inl rfl
    | group user id' =>
      by_cases hr : user = member ∧ id' = id
      · right
        simp [CarpoolWrite.effect, hr]
      · left
        simp [CarpoolWrite.effect, hr]
  | inr he =>
    subst he
    cases r with
    | group user id' => exact .inl rfl
    | member user id' =>
      by_cases hr : user = member ∧ id' = id
      · right
        simp [CarpoolWrite.effect, hr]
      · left
        simp [CarpoolWrite.effect, hr]

section Withdrawal
variable {w : CarpoolWrite} {member : UserID} {id : CarpoolID} {y z : CarpoolStore}

/-- A withdrawal evicts no driver, so it decides its register and leaves the others alone. -/
private theorem Walk.holds_withdrawal (h : Walk x A B s) (hne : B ≠ A)
    (hev : x.Evicted A B member id)
    (hform : w = .deleteGroup member id ∨ w = .removePassenger id member)
    (hland : w.land s.store = some y) (r : Register) :
    y.holds r = (w.effect r).getD (s.store.holds r) := by
  apply CarpoolWrite.holds_land hland
  · intro carpool he
    rcases hform with hform | hform <;> rw [he] at hform <;> cases hform
  · intro id' user he
    have hboth : id' = id ∧ user = member := by
      rcases hform with hform | hform <;> rw [he] at hform <;> cases hform
      exact ⟨rfl, rfl⟩
    obtain ⟨rfl, rfl⟩ := hboth
    obtain ⟨original, horiginal, -⟩ := hev.2
    obtain ⟨p, hp⟩ := h.docs id'
    rw [horiginal] at hp
    have hdriver : user ≠ original.driver := hev.ne_driver hne horiginal
    exact ⟨original.keeping p, hp, hdriver⟩

/-- A withdrawal records nothing. -/
private theorem held_of_withdrawal
    (hform : w = .deleteGroup member id ∨ w = .removePassenger id member)
    (hholds : ∀ r, y.holds r = (w.effect r).getD (z.holds r)) {r : Register}
    (hr : y.holds r = true) : z.holds r = true := by
  rw [hholds] at hr
  rcases effect_withdrawal hform r with hnone | ⟨hfalse, -⟩
  · rw [hnone] at hr
    exact hr
  · rw [hfalse] at hr
    cases hr

/-- What is not recorded after a withdrawal was not before, or is what it is about. -/
private theorem gone_of_withdrawal
    (hform : w = .deleteGroup member id ∨ w = .removePassenger id member)
    (hholds : ∀ r, y.holds r = (w.effect r).getD (z.holds r)) {r : Register}
    (hr : y.holds r = false) :
    z.holds r = false ∨ r = .group member id ∨ r = .member member id := by
  rw [hholds] at hr
  rcases effect_withdrawal hform r with hnone | ⟨-, hreg⟩
  · rw [hnone] at hr
    exact .inl hr
  · exact .inr hreg

/-- What was clear or about to be is so still after a write that records nothing. -/
private theorem inFlight_or_clear {store : CarpoolStore} {i : Nat} {landed : CarpoolInFlight}
    {rest : List CarpoolInFlight}
    (hw : takeOut CarpoolInFlight.client s.outbox i = some (landed, rest))
    (hholds : ∀ r, store.holds r = (landed.write.effect r).getD (s.store.holds r))
    (hkept : ∀ {r}, store.holds r = true → s.store.holds r = true) {r : Register}
    (hclears : w.effect r = some false)
    (h : (∃ v ∈ s.outbox, v.write = w) ∨ s.store.holds r = false) :
    (∃ v ∈ rest, v.write = w) ∨ store.holds r = false := by
  rcases h with ⟨v, hv, rfl⟩ | hfalse
  · rcases mem_of_takeOut hw hv with rfl | hv
    · right
      rw [hholds, hclears]
      rfl
    · exact .inl ⟨v, hv, rfl⟩
  · right
    rw [← Bool.not_eq_true] at hfalse ⊢
    exact fun htrue => hfalse (hkept htrue)

/-- After a withdrawal the documents are those of the start with some passengers gone. -/
private theorem docs_withdrawal
    (hdocs : ∀ id, ∃ p : UserID → Bool, z.carpools id =
      (x.carpool? id).map fun carpool => (carpool.keeping p).toDocument)
    (hform : w = .deleteGroup member id ∨ w = .removePassenger id member)
    (hland : w.land z = some y) (id' : CarpoolID) :
    ∃ p : UserID → Bool, y.carpools id' =
      (x.carpool? id').map fun carpool => (carpool.keeping p).toDocument := by
  obtain ⟨p, hp⟩ := hdocs id'
  cases hform with
  | inl he =>
    subst he
    cases hland
    exact ⟨p, hp⟩
  | inr he =>
    subst he
    obtain ⟨carpools, hup, rfl⟩ := Option.map_eq_some_iff.mp hland
    obtain ⟨d, hd, hd', hothers⟩ := updateData_eq_some hup
    by_cases hid : id' = id
    · subst hid
      refine ⟨fun user => p user && decide (user ≠ member), ?_⟩
      rw [hp] at hd
      obtain ⟨original, horiginal, rfl⟩ := Option.map_eq_some_iff.mp hd
      show carpools id' = _
      rw [hd', horiginal, Option.map_some, Carpool.removePassenger_toDocument]
      simp only [Carpool.keeping, List.filter_filter, Bool.and_comm]
    · refine ⟨p, ?_⟩
      show carpools id' = _
      rw [hothers id' hid, hp]

end Withdrawal

/-- One of the withdrawals lands. -/
theorem Walk.land (h : Walk x A B s) (hne : B ≠ A) {i : Nat} {w : CarpoolInFlight}
    {rest : List CarpoolInFlight} {store : CarpoolStore}
    (hw : takeOut CarpoolInFlight.client s.outbox i = some (w, rest))
    (hland : w.write.land s.store = some store) :
    Walk x A B { s with store, outbox := rest } := by
  obtain ⟨member, id, hev, hwd, hform⟩ := h.outbox w (takeOut_mem hw)
  have hholds := h.holds_withdrawal hne hev hform hland
  have hkept : ∀ {r}, store.holds r = true → s.store.holds r = true :=
    held_of_withdrawal hform hholds
  have hstays : ∀ {user id'}, s.Withdrawn user id' →
      Withdrawn { s with store, outbox := rest } user id' := by
    intro user id' hbefore
    constructor
    · exact inFlight_or_clear hw hholds hkept (effect_deleteGroup_self user id') hbefore.1
    · exact inFlight_or_clear hw hholds hkept (effect_removePassenger_self user id') hbefore.2
  constructor
  case keyed => exact h.keyed
  case callbacks => exact h.callbacks
  case kept => exact fun r hr => h.kept r (hkept hr)
  case docs => exact docs_withdrawal h.docs hform hland
  case outbox =>
    intro v hv
    obtain ⟨member', id', hev', hwd', hform'⟩ := h.outbox v (takeOut_subset hw hv)
    exact ⟨member', id', hev', hstays hwd', hform'⟩
  case evicted =>
    intro member' id' hev'
    exact (h.evicted member' id' hev').imp_left hstays
  case lost =>
    rintro user id' (⟨hx, ht⟩ | ⟨hx, ht⟩)
    · rcases gone_of_withdrawal hform hholds ht with hs | he | he
      · have hlost := h.lost user id' (.inl ⟨hx, hs⟩)
        exact ⟨hlost.1, hstays hlost.2⟩
      · cases he
        exact ⟨hev, hstays hwd⟩
      · cases he
    · rcases gone_of_withdrawal hform hholds ht with hs | he | he
      · have hlost := h.lost user id' (.inr ⟨hx, hs⟩)
        exact ⟨hlost.1, hstays hlost.2⟩
      · cases he
      · cases he
        exact ⟨hev, hstays hwd⟩

/-- What the client waits for belongs to the walk. -/
private theorem Walk.callback_cases (h : Walk x A B s) {cb : Callback}
    (hcb : cb ∈ (s.clients 0).callbacks) :
    (∃ id, cb = .removalCarpool A B id) ∨ ∃ carpool, cb = .removalAnswer A B carpool := by
  obtain ⟨id, -, he⟩ | ⟨carpool, p, -, -, he⟩ := h.callbacks cb hcb
  · exact .inl ⟨id, he⟩
  · exact .inr ⟨carpool.keeping p, he⟩

/-- Whatever moves on keeps the walk going. -/
theorem Walk.step (h : Walk x A B s) (hne : B ≠ A) {ev : CarpoolEvent} (hev : MovesOn ev)
    (hstep : s.step ev = some t) : Walk x A B t := by
  cases ev with
  | progress c i =>
    cases hev
    simp only [CarpoolSystem.step, progress] at hstep
    split at hstep
    · cases hstep
    · next id hget =>
      rcases h.callback_cases (List.mem_of_getElem? hget) with ⟨_, he⟩ | ⟨_, he⟩ <;> cases he
    · next carpool hget =>
      rcases h.callback_cases (List.mem_of_getElem? hget) with ⟨_, he⟩ | ⟨_, he⟩ <;> cases he
    · next me user hget =>
      rcases h.callback_cases (List.mem_of_getElem? hget) with ⟨_, he⟩ | ⟨_, he⟩ <;> cases he
    · next me user id hget =>
      rcases h.callback_cases (List.mem_of_getElem? hget) with ⟨_, he⟩ | ⟨_, he⟩
      · cases he
        cases hstep
        exact h.read hne hget
      · cases he
    · next me user carpool hget =>
      rcases h.callback_cases (List.mem_of_getElem? hget) with ⟨_, he⟩ | ⟨_, he⟩
      · cases he
      · cases he
        cases hstep
        exact h.handle hget
  | land i =>
    obtain ⟨w, rest, store, hw, hland, rfl⟩ := step_land hstep
    have hwalk := h.land hne hw hland
    obtain ⟨_, _, -, -, hform⟩ := h.outbox w (takeOut_mem hw)
    rcases hform with hform | hform <;> rw [hform] <;> exact hwalk
  | _ => exact absurd hev id

private theorem walk_start (hkeyed : x.Keyed) (me : User) :
    Walk x me.uuid B ((alone x me).setClient 0
      { currentUser := some me
        callbacks := (x.groups me.uuid).map (.removalCarpool me.uuid B) }) := by
  constructor
  case keyed => exact hkeyed
  case docs =>
    intro id
    refine ⟨fun _ => true, ?_⟩
    show x.carpools id = _
    cases hd : x.carpools id with
    | none =>
      rw [CarpoolStore.carpool?, hd]
      rfl
    | some d =>
      obtain ⟨carpool, rfl, -⟩ := hkeyed id d hd
      rw [CarpoolStore.carpool?, hd, Option.bind_some, Carpool.ofDocument_toDocument,
        Option.map_some]
      simp only [Carpool.keeping, List.filter_true]
  case callbacks =>
    intro cb hcb
    left
    rw [clients_setClient_self] at hcb
    obtain ⟨id, hid, rfl⟩ := List.mem_map.mp hcb
    exact ⟨id, hid, rfl⟩
  case outbox =>
    intro w hw
    cases hw
  case kept => exact fun _ hr => hr
  case lost =>
    rintro user id (⟨hx, ht⟩ | ⟨hx, ht⟩)
    · cases hx.symm.trans ht
    · cases hx.symm.trans ht
  case evicted =>
    intro member id hev
    right
    left
    rw [clients_setClient_self]
    exact List.mem_map_of_mem hev.1

/-- A block or an unfriending asks for the groups. -/
theorem step_alone {store : CarpoolStore} {me : User} {user : UserID}
    (h : (alone store me).step (.blockOrUnfriend 0 user) = some t) :
    user ≠ me.uuid ∧ t = (alone store me).setClient 0
      { currentUser := some me, callbacks := [.removal me.uuid user] } := by
  obtain ⟨owner, howner, hne, rfl⟩ := step_blockOrUnfriend h
  simp only [alone, Function.update_self, Option.some.injEq] at howner
  subst howner
  refine ⟨hne, ?_⟩
  simp only [alone, Function.update_self, List.nil_append]

/-- Nothing can move on before they are read. -/
theorem step_removal {store : CarpoolStore} {me : User} {user : UserID} {ev : CarpoolEvent}
    (hev : MovesOn ev)
    (h : ((alone store me).setClient 0
      { currentUser := some me, callbacks := [.removal me.uuid user] }).step ev = some t) :
    t = (alone store me).setClient 0
      { currentUser := some me
        callbacks := (store.groups me.uuid).map (.removalCarpool me.uuid user) } := by
  cases ev with
  | progress c i =>
    cases hev
    simp only [CarpoolSystem.step, progress, clients_setClient_self] at h
    cases i with
    | zero =>
      simp only [List.getElem?_cons_zero, List.eraseIdx_cons_zero, List.nil_append,
        Option.some.injEq] at h
      rw [← h, setClient, setClient, setClient, Function.update_idem]
      rfl
    | succ i => simp at h
  | land i => simp [CarpoolSystem.step, alone, setClient, takeOut] at h
  | _ => exact absurd hev id

/-- When everything that a block or an unfriending has started is done, the evictions are. -/
theorem afterEviction_of_run {store : CarpoolStore} {me : User} {user : UserID}
    {es : List CarpoolEvent} (hkeyed : store.Keyed)
    (hrun : run step (alone store me) (.blockOrUnfriend 0 user :: es) = some t)
    (hes : ∀ ev ∈ es, MovesOn ev) (hbox : t.outbox = []) (hcb : (t.clients 0).callbacks = []) :
    user ≠ me.uuid ∧ store.AfterEviction me.uuid user t.store := by
  obtain ⟨s, hs, hrun⟩ := run_cons_eq_some hrun
  obtain ⟨hne, rfl⟩ := step_alone hs
  refine ⟨hne, ?_⟩
  cases es with
  | nil =>
    cases hrun
    rw [clients_setClient_self] at hcb
    cases hcb
  | cons ev es =>
    rw [List.forall_mem_cons] at hes
    obtain ⟨s, hs, hrun⟩ := run_cons_eq_some hrun
    have hstart : Walk store me.uuid user s := by
      rw [step_removal hes.1 hs]
      exact walk_start hkeyed me
    have hwalk := run_invariant_of_steps (I := Walk store me.uuid user)
      (fun _ _ _ h hev hstep => Walk.step h hne hev hstep) hstart (allSteps_of_forall hes.2 s) hrun
    exact hwalk.afterEviction hbox hcb

end Walk

/-- What is stored in a run is stored under its own id. -/
theorem Tracked.keyed {s : CarpoolSystem} (h : s.Tracked) : s.store.Keyed := by
  intro id d hd
  obtain ⟨carpool, -, hid, passengers, rfl⟩ := h.stored hd
  exact ⟨{ carpool with passengers }, rfl, hid⟩

/-- From any store that is reached, once everything that a block or an unfriending of `user` by
`me` has started is done, the two are separated exactly if the groups of `me` recorded what
they shared. -/
theorem separated_iff {s₀ s t : CarpoolSystem} {es es' : List CarpoolEvent} {me : User}
    {user : UserID} (h₀ : s₀.Initial) (hrun : run step s₀ es = some s)
    (hremoval : run step (alone s.store me) (.blockOrUnfriend 0 user :: es') = some t)
    (hes : ∀ ev ∈ es', MovesOn ev) (hbox : t.outbox = []) (hcb : (t.clients 0).callbacks = []) :
    CarpoolStore.Separated me.uuid user s.store t.store ↔ s.store.Recorded me.uuid user := by
  have htracked := run_invariant (fun _ _ _ h hstep => Tracked.step h hstep) h₀.tracked hrun
  obtain ⟨hne, hafter⟩ := afterEviction_of_run htracked.keyed hremoval hes hbox hcb
  exact hafter.separated_iff_recorded hne

/-- The client blocks a user with whom its user shares one carpool. -/
def blockMember (user : UserID) : List CarpoolEvent :=
  [.blockOrUnfriend 0 user, .progress 0 0, .progress 0 0, .progress 0 0, .land 0, .land 0]

/-- The driver blocks the passenger, and they are separated. -/
theorem separated_blockMember :
    ∃ s t, run step unused giveRide = some s ∧
      run step (alone s.store (User.signedUp "a")) (blockMember "b") = some t ∧
      CarpoolStore.Separated "a" "b" s.store t.store := by
  obtain ⟨s, hrun, hs⟩ := exists_run_of_any step unused giveRide
    (fun s => decide (s.store.groups "a" = ["x"]) && decide (s.created.map Carpool.uuid = ["x"]) &&
      s.store.holds (.member "a" "x") && s.store.holds (.member "b" "x") &&
      (run step (alone s.store (User.signedUp "a")) (blockMember "b")).any
        fun t => t.outbox.isEmpty && (t.clients 0).callbacks.isEmpty)
    (by decide)
  simp only [Bool.and_eq_true, decide_eq_true_eq, Option.any_eq_true, List.isEmpty_iff] at hs
  obtain ⟨⟨⟨⟨hgroups, hcreated⟩, hA⟩, hB⟩, t, hremoval, hbox, hcb⟩ := hs
  have htracked := run_invariant (fun _ _ _ h hstep => Tracked.step h hstep)
    unused_initial.tracked hrun
  have hrecorded : s.store.Recorded "a" "b" := by
    intro id
    by_cases hid : id = "x"
    · subst hid
      have hlisted : "x" ∈ s.store.groups "a" := hgroups ▸ List.mem_singleton_self _
      exact ⟨fun _ => hlisted, fun _ _ => ⟨hA, hB⟩, fun _ _ => hA⟩
    · have hnot : id ∉ s.store.groups "a" := by
        rw [hgroups, List.mem_singleton]
        exact hid
      refine ⟨fun hshares => ?_, fun hin => absurd hin hnot, fun hin => absurd hin hnot⟩
      obtain ⟨carpool, hread, -⟩ := CarpoolStore.holds_member.mp hshares.1
      obtain ⟨d, hd, -⟩ := Option.bind_eq_some_iff.mp hread
      obtain ⟨original, horiginal, huuid, -⟩ := htracked.stored hd
      have hmem := List.mem_map_of_mem (f := Carpool.uuid) horiginal
      rw [hcreated, List.mem_singleton, huuid] at hmem
      exact absurd hmem hid
  exact ⟨s, t, hrun, hremoval,
    (separated_iff unused_initial hrun hremoval (by decide) hbox hcb).mpr hrecorded⟩

/-- The passenger who has left is still a passenger after blocking the driver. -/
theorem not_separated :
    ¬ ∀ (s₀ s t : CarpoolSystem) (es es' : List CarpoolEvent) (me : User) (user : UserID),
      s₀.Initial → run step s₀ es = some s →
      run step (alone s.store me) (.blockOrUnfriend 0 user :: es') = some t →
      (∀ ev ∈ es', MovesOn ev) → t.outbox = [] → (t.clients 0).callbacks = [] →
      CarpoolStore.Separated me.uuid user s.store t.store := by
  intro hall
  let carpool : Carpool := CarpoolController.newCarpool {} ⟨some "d", ⟨0⟩, ⟨0⟩⟩ "a" ["b"] "x"
  have hleft := exists_run_of_any step unused (giveRide ++ [.delete 1 carpool, .land 0])
    (fun s => (run step (alone s.store (User.signedUp "b"))
      [.blockOrUnfriend 0 "a", .progress 0 0]).any fun t =>
        t.outbox.isEmpty && (t.clients 0).callbacks.isEmpty &&
          decide (t.carpool? "x" = some carpool))
    (by decide)
  obtain ⟨s, hrun, hs⟩ := hleft
  simp only [Option.any_eq_true, Bool.and_eq_true, List.isEmpty_iff, decide_eq_true_eq] at hs
  obtain ⟨t, hremoval, ⟨hbox, hcb⟩, hread⟩ := hs
  have hsep := hall _ s t _ [.progress 0 0] _ "a" unused_initial hrun hremoval (by decide) hbox hcb
  exact hsep.carpools "x" carpool hread ⟨.inr (by decide), .inl rfl⟩

end CarpoolSystem

end DriveTribe
