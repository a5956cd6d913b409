import DriveTribe.Carpools.Separation
import DriveTribe.Deletion.System

/-!
# What a deleted account leaves behind

The deletion of an account walks the groups of the user and reads each carpool listed there: it
deletes those he drives and takes him off the others. Then it deletes his document. It looks
at no other user's document and no other user's groups. So whoever still lists him, and each
carpool his groups do not list, is as before.
-/

namespace DriveTribe

open Base

/-- The document of a carpool once a member is gone: none if he drove it. -/
def Carpool.without (carpool : Carpool) (A : UserID) : Option CarpoolDocument :=
  if A = carpool.driver then none
  else some { carpool with passengers := carpool.passengers.filter (· ≠ A) }.toDocument

/-- The write that takes a member out of a carpool. -/
def Carpool.departure (carpool : Carpool) (A : UserID) : CarpoolWrite :=
  if A = carpool.driver then .deleteCarpool carpool.uuid else .removePassenger carpool.uuid A

/-- One is written exactly if the user is a member. -/
theorem mem_departureWrites {A : UserID} {carpool : Carpool} {w : CarpoolWrite} :
    w ∈ Process.departureWrites A carpool ↔ carpool.IsMember A ∧ w = carpool.departure A := by
  unfold Process.departureWrites Carpool.departure Carpool.IsMember
  by_cases hdriver : A = carpool.driver
  · rw [if_pos hdriver, if_pos hdriver, List.mem_singleton]
    constructor
    · intro hw
      exact ⟨.inl hdriver, hw⟩
    · exact And.right
  · rw [if_neg hdriver, if_neg hdriver]
    simp only [List.mem_flatMap, List.mem_ite_nil_right, List.mem_singleton]
    constructor
    · rintro ⟨passager, hp, rfl, rfl⟩
      exact ⟨.inr hp, rfl⟩
    · rintro ⟨hmember, rfl⟩
      exact ⟨A, hmember.resolve_left hdriver, rfl, rfl⟩

namespace CarpoolStore

/-- A carpool once `A` has left every carpool that his groups list. -/
def departed (x : CarpoolStore) (A : UserID) (id : CarpoolID) : Option CarpoolDocument :=
  match x.carpool? id with
  | none => x.carpools id
  | some carpool =>
    if id ∈ x.groups A ∧ carpool.IsMember A then carpool.without A else x.carpools id

section Departed
variable {x : CarpoolStore} {A : UserID} {id : CarpoolID} {carpool : Carpool}

private theorem carpools_of_read (hread : x.carpool? id = some carpool) :
    x.carpools id = some carpool.toDocument := by
  obtain ⟨d, hd, hdec⟩ := Option.bind_eq_some_iff.mp hread
  rw [hd, Carpool.toDocument_of_ofDocument hdec]

private theorem departed_of_member (hread : x.carpool? id = some carpool)
    (hlisted : id ∈ x.groups A) (hmember : carpool.IsMember A) :
    x.departed A id = carpool.without A := by
  simp only [departed, hread, hlisted, hmember, and_self, if_true]

private theorem departed_of_notMem (hlisted : id ∉ x.groups A) :
    x.departed A id = x.carpools id := by
  rw [departed]
  split
  · rfl
  · rw [if_neg fun hboth => hlisted hboth.1]

private theorem departed_of_not_member
    (hmember : ∀ carpool, x.carpool? id = some carpool → ¬ carpool.IsMember A) :
    x.departed A id = x.carpools id := by
  rw [departed]
  split
  · rfl
  · next carpool hread => rw [if_neg fun hboth => hmember carpool hread hboth.2]

private theorem not_isMember_of_without {carpool' : Carpool}
    (h : (carpool.without A).bind Carpool.ofDocument = some carpool') :
    ¬ carpool'.IsMember A := by
  rw [Carpool.without] at h
  split at h
  · cases h
  · next hdriver =>
    cases h
    rintro (he | hmem)
    · exact hdriver he
    · simp at hmem

end Departed

end CarpoolStore

namespace Backend

/-- Nothing that is left refers to `A`: no list of a user, no carpool, and no group of a user to
a carpool that `A` has driven. -/
structure Forgotten (s : Backend) (created : List Carpool) (A : UserID) : Prop where
  lists : ∀ id d, s.users id = some d → ∀ k, A ∉ d.relation k
  carpools : ∀ id carpool, s.rides.carpool? id = some carpool → ¬ carpool.IsMember A
  groups : ∀ id, s.users id ≠ none → ∀ carpool ∈ created, carpool.driver = A →
    carpool.uuid ∉ s.rides.groups id

/-- All that refers to `A` is his own document and carpools that his groups list. -/
structure OwnOnly (s : Backend) (created : List Carpool) (A : UserID) : Prop where
  lists : ∀ id d, id ≠ A → s.users id = some d → ∀ k, A ∉ d.relation k
  carpools : ∀ id carpool, s.rides.carpool? id = some carpool → carpool.IsMember A →
    id ∈ s.rides.groups A
  groups : ∀ id, id ≠ A → s.users id ≠ none → ∀ carpool ∈ created, carpool.driver = A →
    carpool.uuid ∉ s.rides.groups id

/-- What the whole deletion does to the store. -/
structure Departed (before after : Backend) (A : UserID) : Prop where
  users : after.users = deleteDocument before.users A
  carpools : ∀ id, after.rides.carpools id = before.rides.departed A id
  groups : after.rides.groups = before.rides.groups

/-- Then nothing refers to `A` exactly if nothing else did before. -/
theorem Departed.forgotten_iff {before after : Backend} {A : UserID}
    (h : Departed before after A) (created : List Carpool) :
    after.Forgotten created A ↔ before.OwnOnly created A := by
  have hother : ∀ id, id ≠ A → after.users id = before.users id := by
    intro id hid
    rw [h.users, deleteDocument_of_ne _ hid]
  have hown : after.users A = none := by
    rw [h.users, deleteDocument_self]
  constructor
  · intro hf
    constructor
    case lists =>
      intro id d hid hd
      rw [← hother id hid] at hd
      exact hf.lists id d hd
    case carpools =>
      intro id carpool hread hmember
      by_contra hlisted
      have hsame := h.carpools id
      rw [CarpoolStore.departed_of_notMem hlisted] at hsame
      have hread' : after.rides.carpool? id = some carpool := by
        rw [CarpoolStore.carpool?, hsame]
        exact hread
      exact hf.carpools id carpool hread' hmember
    case groups =>
      intro id hid hd
      rw [← hother id hid] at hd
      rw [← h.groups]
      exact hf.groups id hd
  · intro ho
    constructor
    case lists =>
      intro id d hd
      by_cases hid : id = A
      · rw [hid, hown] at hd
        cases hd
      · rw [hother id hid] at hd
        exact ho.lists id d hid hd
    case carpools =>
      intro id carpool hread hmember
      by_cases hbefore : ∃ carpool₀, before.rides.carpool? id = some carpool₀ ∧ carpool₀.IsMember A
      · obtain ⟨carpool₀, hread₀, hmember₀⟩ := hbefore
        have hlisted := ho.carpools id carpool₀ hread₀ hmember₀
        rw [CarpoolStore.carpool?, h.carpools,
          CarpoolStore.departed_of_member hread₀ hlisted hmember₀] at hread
        exact CarpoolStore.not_isMember_of_without hread hmember
      · rw [CarpoolStore.carpool?, h.carpools, CarpoolStore.departed_of_not_member] at hread
        · exact hbefore ⟨carpool, hread, hmember⟩
        · exact fun carpool₀ hread₀ hmember₀ => hbefore ⟨carpool₀, hread₀, hmember₀⟩
    case groups =>
      intro id hd
      by_cases hid : id = A
      · rw [hid] at hd
        exact absurd hown hd
      · rw [hother id hid] at hd
        rw [h.groups]
        exact ho.groups id hid hd

/-! ### The walk through the groups -/

/-- The request belongs to the deletion of `A`. -/
def Belongs (before : Backend) (A : UserID) : Task → Prop
  | .groups me => me = A
  | .carpool me id => me = A ∧ id ∈ before.rides.groups A
  | .writeCarpool w => ∃ id carpool, before.rides.carpool? id = some carpool ∧
    id ∈ before.rides.groups A ∧ carpool.IsMember A ∧ w = carpool.departure A
  | .archive user | .deleteDocument user => user.uuid = A
  | .deleteAccount _ => True
  | .createAccount _ _ _ | .createUser _ => False

/-- The carpool is still to be read, or to be written. -/
def Visits (before : Backend) (A : UserID) (id : CarpoolID) : Task → Prop
  | .groups me => me = A
  | .carpool me id' => me = A ∧ id' = id
  | .writeCarpool w => ∃ carpool, before.rides.carpool? id = some carpool ∧ w = carpool.departure A
  | _ => False

/-- The document is still to be archived, or to be deleted. -/
def Deletes (A : UserID) : Task → Prop
  | .archive user | .deleteDocument user => user.uuid = A
  | _ => False

/-- What holds while the deletion goes on: every carpool is as before or as it is to be, and
whatever is not yet as it is to be is still asked for. -/
structure Leaving (before : Backend) (A : UserID) (s : Backend) : Prop where
  groups : s.rides.groups = before.rides.groups
  carpools : ∀ id, s.rides.carpools id = before.rides.carpools id ∨
    s.rides.carpools id = before.rides.departed A id
  users : s.users = before.users ∨ s.users = deleteDocument before.users A
  belongs : ∀ x ∈ s.pending, before.Belongs A x.task
  visits : ∀ id ∈ before.rides.groups A, (∃ x ∈ s.pending, before.Visits A id x.task) ∨
    s.rides.carpools id = before.rides.departed A id
  deletes : (∃ x ∈ s.pending, Deletes A x.task) ∨ s.users = deleteDocument before.users A

section Walk
variable {before s t : Backend} {A : UserID}

/-- Once nothing is asked for any more, the deletion is done. -/
theorem Leaving.departed (h : Leaving before A s) (hdone : s.pending = []) :
    Departed before s A where
  users := by
    rcases h.deletes with ⟨x, hx, -⟩ | hdeleted
    · rw [hdone] at hx
      cases hx
    · exact hdeleted
  carpools id := by
    by_cases hlisted : id ∈ before.rides.groups A
    · rcases h.visits id hlisted with ⟨x, hx, -⟩ | hdeparted
      · rw [hdone] at hx
        cases hx
      · exact hdeparted
    · rcases h.carpools id with hsame | hdeparted
      · rw [hsame, CarpoolStore.departed_of_notMem hlisted]
      · exact hdeparted
  groups := h.groups

/-- A request is answered that changes no store: what it stood for is asked for by others. -/
theorem Leaving.answered (h : Leaving before A s) {i : Nat} {x : Pending}
    (hx : s.pending[i]? = some x) (c : ClientID) (more : List Task)
    (hpending : t.pending = s.pending.eraseIdx i ++ more.map (⟨c, ·⟩))
    (hrides : t.rides = s.rides) (husers : t.users = s.users)
    (hbelongs : ∀ task ∈ more, before.Belongs A task)
    (hvisits : ∀ id ∈ before.rides.groups A, before.Visits A id x.task →
      (∃ task ∈ more, before.Visits A id task) ∨
        s.rides.carpools id = before.rides.departed A id)
    (hdeletes : Deletes A x.task → ∃ task ∈ more, Deletes A task) : Leaving before A t where
  groups := by
    rw [hrides]
    exact h.groups
  carpools := by
    rw [hrides]
    exact h.carpools
  users := by
    rw [husers]
    exact h.users
  belongs y hy := by
    rw [hpending] at hy
    rcases List.mem_append.mp hy with hy | hy
    · exact h.belongs y (List.mem_of_mem_eraseIdx hy)
    · obtain ⟨task, htask, rfl⟩ := List.mem_map.mp hy
      exact hbelongs task htask
  visits id hid := by
    rw [hrides]
    rcases h.visits id hid with hasked | hdeparted
    · by_cases hvisit : before.Visits A id x.task
      · exact (hvisits id hid hvisit).imp_left fun hmore =>
          exists_pending c more hasked hx hpending fun _ => hmore
      · exact .inl (exists_pending c more hasked hx hpending fun hv => absurd hv hvisit)
    · exact .inr hdeparted
  deletes := by
    rw [husers]
    rcases h.deletes with hasked | hdeleted
    · exact .inl (exists_pending c more hasked hx hpending hdeletes)
    · exact .inr hdeleted

private theorem Leaving.read_before (h : Leaving before A s) {id : CarpoolID} {carpool : Carpool}
    (hlisted : id ∈ before.rides.groups A) (hread : s.rides.carpool? id = some carpool)
    (hmember : carpool.IsMember A) : before.rides.carpool? id = some carpool := by
  rw [CarpoolStore.carpool?] at hread
  rcases h.carpools id with hsame | hdeparted
  · rw [hsame] at hread
    exact hread
  · rw [hdeparted] at hread
    by_cases hbefore : ∃ carpool₀, before.rides.carpool? id = some carpool₀ ∧ carpool₀.IsMember A
    · obtain ⟨carpool₀, hread₀, hmember₀⟩ := hbefore
      rw [CarpoolStore.departed_of_member hread₀ hlisted hmember₀] at hread
      exact absurd hmember (CarpoolStore.not_isMember_of_without hread)
    · rw [CarpoolStore.departed_of_not_member] at hread
      · exact hread
      · exact fun carpool₀ hread₀ hmember₀ => hbefore ⟨carpool₀, hread₀, hmember₀⟩

private theorem Leaving.departed_of_read (h : Leaving before A s) {id : CarpoolID}
    (hmember : ∀ carpool, s.rides.carpool? id = some carpool → ¬ carpool.IsMember A) :
    s.rides.carpools id = before.rides.departed A id := by
  rcases h.carpools id with hsame | hdeparted
  · rw [hsame, CarpoolStore.departed_of_not_member]
    intro carpool hread
    apply hmember carpool
    rw [CarpoolStore.carpool?, hsame]
    exact hread
  · exact hdeparted

private theorem Leaving.groupsRead (h : Leaving before A s) {i : Nat} {c : ClientID} {me : UserID}
    (hx : s.pending[i]? = some ⟨c, .groups me⟩)
    (ht : ({ s with pending := s.pending.eraseIdx i } : Backend).perform c (.groups me) = some t) :
    Leaving before A t := by
  have hme : me = A := h.belongs _ (List.mem_of_getElem? hx)
  subst hme
  cases ht
  refine h.answered hx c ((s.rides.groups me).map (.carpool me)) rfl rfl rfl ?_ ?_ ?_
  · intro task htask
    obtain ⟨id, hid, rfl⟩ := List.mem_map.mp htask
    rw [h.groups] at hid
    exact ⟨rfl, hid⟩
  · intro id hid _
    left
    rw [← h.groups] at hid
    exact ⟨.carpool me id, List.mem_map_of_mem hid, rfl, rfl⟩
  · intro hdelete
    cases hdelete

/-- A carpool is read. -/
theorem Leaving.carpoolRead (h : Leaving before A s) {i : Nat} {c : ClientID} {me : UserID}
    {id : CarpoolID} (hx : s.pending[i]? = some ⟨c, .carpool me id⟩)
    (ht : ({ s with pending := s.pending.eraseIdx i } : Backend).perform c (.carpool me id) =
      some t) : Leaving before A t := by
  obtain ⟨hme, hlisted⟩ := h.belongs _ (List.mem_of_getElem? hx)
  subst hme
  cases ht
  let more := (s.rides.carpool? id).toList.flatMap fun carpool =>
    (Process.departureWrites me carpool).map Task.writeCarpool
  have hmore : ∀ task, task ∈ more ↔ ∃ carpool, s.rides.carpool? id = some carpool ∧
      carpool.IsMember me ∧ task = .writeCarpool (carpool.departure me) := by
    intro task
    simp only [more, List.mem_flatMap, Option.mem_toList, List.mem_map, mem_departureWrites]
    constructor
    · rintro ⟨carpool, hread, w, ⟨hmember, rfl⟩, rfl⟩
      exact ⟨carpool, hread, hmember, rfl⟩
    · rintro ⟨carpool, hread, hmember, rfl⟩
      exact ⟨carpool, hread, _, ⟨hmember, rfl⟩, rfl⟩
  refine h.answered hx c more rfl rfl rfl ?_ ?_ ?_
  · intro task htask
    obtain ⟨carpool, hread, hmember, rfl⟩ := (hmore task).mp htask
    exact ⟨id, carpool, h.read_before hlisted hread hmember, hlisted, hmember, rfl⟩
  · intro id' hid' hvisit
    obtain ⟨-, rfl⟩ := hvisit
    by_cases hthere : ∃ carpool, s.rides.carpool? id = some carpool ∧ carpool.IsMember me
    · left
      obtain ⟨carpool, hread, hmember⟩ := hthere
      refine ⟨.writeCarpool (carpool.departure me), ?_, carpool, ?_, rfl⟩
      · exact (hmore _).mpr ⟨carpool, hread, hmember, rfl⟩
      · exact h.read_before hlisted hread hmember
    · right
      apply h.departed_of_read
      exact fun carpool hread hmember => hthere ⟨carpool, hread, hmember⟩
  · intro hdelete
    cases hdelete

private theorem land_departure {x y : CarpoolStore} {carpool : Carpool}
    (hland : (carpool.departure A).land x = some y)
    (hstored : x.carpools carpool.uuid = some carpool.toDocument ∨
      x.carpools carpool.uuid = carpool.without A) :
    y.carpools carpool.uuid = carpool.without A ∧
      (∀ id, id ≠ carpool.uuid → y.carpools id = x.carpools id) ∧ y.groups = x.groups := by
  rw [Carpool.departure] at hland
  rw [Carpool.without] at hstored ⊢
  by_cases hdriver : A = carpool.driver
  · rw [if_pos hdriver] at hland ⊢
    cases hland
    exact ⟨deleteDocument_self .., fun id hid => deleteDocument_of_ne _ hid, rfl⟩
  · rw [if_neg hdriver] at hland hstored ⊢
    obtain ⟨carpools, hup, rfl⟩ := Option.map_eq_some_iff.mp hland
    obtain ⟨d, hd, hd', hne⟩ := updateData_eq_some hup
    refine ⟨?_, hne, rfl⟩
    show carpools carpool.uuid = _
    rw [hd']
    rcases hstored with hold | hnew
    · rw [hd, Option.some.injEq] at hold
      rw [hold, Carpool.removePassenger_toDocument]
    · rw [hd, Option.some.injEq] at hnew
      rw [hnew, Carpool.removePassenger_toDocument, List.filter_filter]
      simp only [Bool.and_self]

private theorem uuid_eq_of_departure {carpool carpool' : Carpool}
    (h : carpool.departure A = carpool'.departure A) : carpool.uuid = carpool'.uuid := by
  unfold Carpool.departure at h
  split at h <;> split at h
  · exact CarpoolWrite.deleteCarpool.inj h
  · cases h
  · cases h
  · exact (CarpoolWrite.removePassenger.inj h).1

private theorem Leaving.carpoolWritten (h : Leaving before A s) (hkeyed : before.rides.Keyed)
    {i : Nat} {c : ClientID} {w : CarpoolWrite} (hx : s.pending[i]? = some ⟨c, .writeCarpool w⟩)
    (ht : ({ s with pending := s.pending.eraseIdx i } : Backend).perform c (.writeCarpool w) =
      some t) :
    Leaving before A t := by
  obtain ⟨id, carpool, hread, hlisted, hmember, rfl⟩ := h.belongs _ (List.mem_of_getElem? hx)
  obtain ⟨rides, hland, rfl⟩ := Option.map_eq_some_iff.mp ht
  have hid : carpool.uuid = id := hkeyed.uuid hread
  subst hid
  have hbefore := CarpoolStore.carpools_of_read hread
  have hdeparted := CarpoolStore.departed_of_member hread hlisted hmember
  have hstored := h.carpools carpool.uuid
  rw [hbefore, hdeparted] at hstored
  obtain ⟨hself, hothers, hgroups⟩ := land_departure hland hstored
  have hself' : rides.carpools carpool.uuid = before.rides.departed A carpool.uuid :=
    hself.trans hdeparted.symm
  constructor
  case groups => exact hgroups.trans h.groups
  case carpools =>
    intro id
    by_cases hid : id = carpool.uuid
    · rw [hid]
      exact .inr hself'
    · rw [hothers id hid]
      exact h.carpools id
  case users => exact h.users
  case belongs =>
    intro y hy
    exact h.belongs y (List.mem_of_mem_eraseIdx hy)
  case visits =>
    intro id hlisted'
    by_cases hid : id = carpool.uuid
    · rw [hid]
      exact .inr hself'
    · rw [hothers id hid]
      rcases h.visits id hlisted' with hasked | hdone
      · left
        apply exists_pending c [] hasked hx (List.append_nil _).symm
        rintro ⟨carpool', hread', hw⟩
        exfalso
        apply hid
        rw [uuid_eq_of_departure hw]
        exact (hkeyed.uuid hread').symm
      · exact .inr hdone
  case deletes =>
    rcases h.deletes with hasked | hdone
    · left
      apply exists_pending c [] hasked hx (List.append_nil _).symm
      intro hdelete
      cases hdelete
    · exact .inr hdone

/-- The document is deleted. -/
theorem Leaving.documentDeleted (h : Leaving before A s) {i : Nat} {c : ClientID} {user : User}
    (hx : s.pending[i]? = some ⟨c, .deleteDocument user⟩)
    (ht : ({ s with pending := s.pending.eraseIdx i } : Backend).perform c (.deleteDocument user) =
      some t) : Leaving before A t := by
  have huser : user.uuid = A := h.belongs _ (List.mem_of_getElem? hx)
  cases ht
  have hdeleted : deleteDocument s.users user.uuid = deleteDocument before.users A := by
    rw [huser]
    rcases h.users with hsame | hdone
    · rw [hsame]
    · rw [hdone]
      exact Function.update_idem ..
  constructor
  case groups => exact h.groups
  case carpools => exact h.carpools
  case users => exact .inr hdeleted
  case belongs =>
    intro y hy
    exact h.belongs y (List.mem_of_mem_eraseIdx hy)
  case visits =>
    intro id hlisted
    rcases h.visits id hlisted with hasked | hdone
    · left
      apply exists_pending c [] hasked hx (List.append_nil _).symm
      intro hvisit
      cases hvisit
    · exact .inr hdone
  case deletes => exact .inr hdeleted

/-- Whatever is asked for is answered, and the deletion goes on. -/
theorem Leaving.step (h : Leaving before A s) (hkeyed : before.rides.Keyed) {i : Nat}
    (hstep : s.step (.succeed i) = some t) : Leaving before A t := by
  obtain ⟨⟨c, task⟩, hx, ht⟩ := step_succeed hstep
  cases task with
  | createAccount firstName lastName userName => cases ht
  | createUser account => exact (h.belongs _ (List.mem_of_getElem? hx)).elim
  | groups me => exact h.groupsRead hx ht
  | carpool me id => exact h.carpoolRead hx ht
  | writeCarpool w => exact h.carpoolWritten hkeyed hx ht
  | deleteDocument user => exact h.documentDeleted hx ht
  | archive user =>
    have huser : user.uuid = A := h.belongs _ (List.mem_of_getElem? hx)
    cases ht
    refine h.answered hx c
      (.deleteDocument user :: (s.devices c).auth.toList.map .deleteAccount) rfl rfl rfl ?_ ?_ ?_
    · intro task htask
      rcases List.mem_cons.mp htask with rfl | htask
      · exact huser
      · obtain ⟨authID, -, rfl⟩ := List.mem_map.mp htask
        exact True.intro
    · intro id hid hvisit
      cases hvisit
    · intro _
      exact ⟨.deleteDocument user, List.mem_cons_self .., huser⟩
  | deleteAccount authID =>
    simp only [perform, Option.ite_none_right_eq_some, Option.some.injEq] at ht
    obtain ⟨-, rfl⟩ := ht
    refine h.answered hx c [] (List.append_nil _).symm rfl rfl ?_ ?_ ?_
    · intro task htask
      cases htask
    · intro id hid hvisit
      cases hvisit
    · intro hdelete
      cases hdelete

private theorem leaving_start {c : ClientID} {me : User}
    (hme : (before.devices c).currentUser = some me) (hquiet : before.pending = [])
    (hstep : before.step (.deleteUser c) = some t) :
    Leaving before me.uuid t := by
  simp only [step, hme, Option.some.injEq] at hstep
  subst hstep
  have hpending : (before.ask c [.groups me.uuid, .archive me]).pending =
      [⟨c, .groups me.uuid⟩, ⟨c, .archive me⟩] := by
    rw [ask, hquiet]
    rfl
  constructor
  case groups => rfl
  case carpools => exact fun id => .inl rfl
  case users => exact .inl rfl
  case belongs =>
    intro x hx
    rw [hpending, List.mem_cons, List.mem_singleton] at hx
    rcases hx with rfl | rfl
    · exact rfl
    · exact rfl
  case visits =>
    intro id _
    left
    refine ⟨⟨c, .groups me.uuid⟩, ?_, rfl⟩
    rw [hpending]
    exact List.mem_cons_self ..
  case deletes =>
    left
    refine ⟨⟨c, .archive me⟩, ?_, rfl⟩
    rw [hpending]
    exact List.mem_cons_of_mem _ (List.mem_singleton_self _)

end Walk

/-- From any store of carpools that is reached and any users, however the requests of a
`deleteUser` are answered in turn, once all of them have succeeded nothing refers to the user
exactly if before nothing did but his own document and the carpools his groups list. -/
theorem forgotten_after_deletion_iff {x₀ x : CarpoolSystem} {es : List CarpoolEvent} {s t : Backend}
    {c : ClientID} {me : User} {order : List Nat} (h₀ : x₀.Initial)
    (hrun : run CarpoolSystem.step x₀ es = some x) (hrides : s.rides = x.store)
    (hquiet : s.pending = []) (hme : (s.devices c).currentUser = some me)
    (hdelete : run step s (.deleteUser c :: order.map .succeed) = some t)
    (hdone : t.pending = []) :
    t.Forgotten x.created me.uuid ↔ s.OwnOnly x.created me.uuid := by
  have htracked := run_invariant (fun _ _ _ h hstep => CarpoolSystem.Tracked.step h hstep)
    h₀.tracked hrun
  have hkeyed : s.rides.Keyed := hrides ▸ htracked.keyed
  obtain ⟨u, hu, hrest⟩ := run_cons_eq_some hdelete
  have hstart := leaving_start hme hquiet hu
  have hsucceed : AllSteps step (fun _ ev => ∃ i, ev = .succeed i) u (order.map .succeed) := by
    apply allSteps_of_forall
    intro ev hev
    obtain ⟨i, -, rfl⟩ := List.mem_map.mp hev
    exact ⟨i, rfl⟩
  have hleaving : Leaving s me.uuid t := by
    apply run_invariant_of_steps ?_ hstart hsucceed hrest
    rintro v _ w hv ⟨i, rfl⟩ hstep
    exact hv.step hkeyed hstep
  exact (hleaving.departed hdone).forgotten_iff x.created

/-- The account is deleted: the groups and the only carpool first, then the rest. -/
def deletion : List BackendEvent := .deleteUser 0 :: [0, 1, 1, 0, 0, 0].map .succeed

/-- The passenger of a carpool deletes his account, and nothing refers to him. -/
theorem forgotten_after_deletion_passenger :
    ∃ x t, run CarpoolSystem.step CarpoolSystem.unused CarpoolSystem.giveRide = some x ∧
      run step (loggedIn x.store (User.signedUp "b")) deletion = some t ∧
      t.Forgotten x.created "b" := by
  have hrun := exists_run_of_any CarpoolSystem.step CarpoolSystem.unused CarpoolSystem.giveRide
    (fun x => decide (x.store.groups "b" = ["x"]) && decide (x.created.map Carpool.uuid = ["x"]) &&
      decide (∀ carpool ∈ x.created, carpool.driver ≠ "b") &&
      (run step (loggedIn x.store (User.signedUp "b")) deletion).any fun t => t.pending.isEmpty)
    (by decide)
  obtain ⟨x, hrun, hx⟩ := hrun
  simp only [Bool.and_eq_true, decide_eq_true_eq, Option.any_eq_true, List.isEmpty_iff] at hx
  obtain ⟨⟨⟨hgroups, hcreated⟩, hdriver⟩, t, hdelete, hdone⟩ := hx
  have htracked := run_invariant (fun _ _ _ h hstep => CarpoolSystem.Tracked.step h hstep)
    CarpoolSystem.unused_initial.tracked hrun
  have hown : (loggedIn x.store (User.signedUp "b")).OwnOnly x.created "b" := by
    constructor
    case lists =>
      intro id d _ hd k
      rw [(Users.signedUp_fresh ["a", "b"]).relation hd]
      exact List.not_mem_nil
    case carpools =>
      intro id carpool hread _
      obtain ⟨d, hd, -⟩ := Option.bind_eq_some_iff.mp hread
      obtain ⟨original, horiginal, huuid, -⟩ := htracked.stored hd
      have hmem := List.mem_map_of_mem (f := Carpool.uuid) horiginal
      rw [hcreated, huuid] at hmem
      show id ∈ x.store.groups "b"
      rw [hgroups]
      exact hmem
    case groups =>
      intro id _ _ carpool hmem he
      exact absurd he (hdriver carpool hmem)
  exact ⟨x, t, hrun, hdelete, (forgotten_after_deletion_iff CarpoolSystem.unused_initial hrun rfl
    rfl rfl hdelete hdone).mpr hown⟩

/-- The driver of a carpool deletes his account, and the passenger's groups still list it. -/
theorem not_forgotten_after_deletion :
    ¬ ∀ (x₀ x : CarpoolSystem) (es : List CarpoolEvent) (s t : Backend) (c : ClientID) (me : User)
      (order : List Nat), x₀.Initial → run CarpoolSystem.step x₀ es = some x →
      s.rides = x.store → s.pending = [] → (s.devices c).currentUser = some me →
      run step s (.deleteUser c :: order.map .succeed) = some t → t.pending = [] →
      t.Forgotten x.created me.uuid := by
  intro hall
  have hrun := exists_run_of_any CarpoolSystem.step CarpoolSystem.unused CarpoolSystem.giveRide
    (fun x => (run step (loggedIn x.store (User.signedUp "a")) deletion).any fun t =>
      t.pending.isEmpty && (t.users "b").isSome &&
        decide (∃ carpool ∈ x.created, carpool.driver = "a" ∧ carpool.uuid ∈ t.rides.groups "b"))
    (by decide)
  obtain ⟨x, hrun, hx⟩ := hrun
  simp only [Option.any_eq_true, Bool.and_eq_true, List.isEmpty_iff, decide_eq_true_eq] at hx
  obtain ⟨t, hdelete, ⟨hdone, hsome⟩, carpool, hmem, hdriver, hlisted⟩ := hx
  have hforgotten := hall _ x _ (loggedIn x.store (User.signedUp "a")) t 0 (User.signedUp "a") _
    CarpoolSystem.unused_initial hrun rfl rfl rfl hdelete hdone
  have hthere : t.users "b" ≠ none := Option.isSome_iff_ne_none.mp hsome
  exact hforgotten.groups "b" hthere carpool hmem hdriver hlisted

end Backend

end DriveTribe
