import DriveTribe.Base.Idle
import DriveTribe.Carpools.Separation

/-!
# Walking through the groups twice

`UserController.swift:642–693`. A walk writes removals only. So a carpool that is read in a second
walk was read in the first, with no fewer passengers, and what the second writes the first has
written. That fails where a removal makes a document readable, from whose driver the second walk
then parts: an update of an array that is missing leaves an empty one.
-/

namespace DriveTribe

open Base

/-- A document that has lost some passengers. -/
def CarpoolDocument.keeping (d : CarpoolDocument) (p : UserID → Bool) : CarpoolDocument :=
  { d with passengers := d.passengers.map (List.filter p) }

private theorem Carpool.ofDocument_keeping (d : CarpoolDocument) (p : UserID → Bool) :
    ofDocument (d.keeping p) = (ofDocument d).map (·.keeping p) := by
  obtain ⟨title, mode, type, destinationName, destination, driver, passengers, uuid⟩ := d
  cases title <;> cases mode <;> cases type <;> cases destinationName <;> cases destination <;>
    cases driver <;> cases passengers <;> cases uuid <;> rfl

private theorem CarpoolDocument.removePassenger_eq_keeping {d : CarpoolDocument}
    (h : d.passengers ≠ none) (user : UserID) : d.removePassenger user = d.keeping (· ≠ user) := by
  obtain ⟨passengers, hpassengers⟩ := Option.ne_none_iff_exists'.mp h
  rw [removePassenger, keeping, hpassengers]
  rfl

private theorem CarpoolDocument.keeping_keeping (d : CarpoolDocument) (p q : UserID → Bool) :
    (d.keeping p).keeping q = d.keeping fun user => p user && q user := by
  simp only [keeping, Option.map_map, Function.comp_def, List.filter_filter, Bool.and_comm]

private theorem CarpoolDocument.keeping_true (d : CarpoolDocument) :
    d.keeping (fun _ => true) = d := by
  have hid : List.filter (fun _ : UserID => true) = id := by
    funext xs
    exact List.filter_true xs
  rw [keeping, hid, Option.map_id, id]

/-- A later state of a carpool: some of its passengers may be gone. -/
structure Carpool.Shrunk (carpool now : Carpool) : Prop where
  driver : now.driver = carpool.driver
  uuid : now.uuid = carpool.uuid
  passengers : now.passengers ⊆ carpool.passengers

namespace Carpool

/-- Nobody need be gone. -/
theorem Shrunk.refl (carpool : Carpool) : carpool.Shrunk carpool := ⟨rfl, rfl, List.Subset.refl _⟩

/-- Somebody more may go. -/
theorem Shrunk.keeping {carpool now : Carpool} (h : carpool.Shrunk now) (p : UserID → Bool) :
    carpool.Shrunk (now.keeping p) :=
  ⟨h.driver, h.uuid, List.Subset.trans List.filter_sublist.subset h.passengers⟩

private theorem Shrunk.deleteUserFromCarpool_subset {carpool now : Carpool} (h : carpool.Shrunk now)
    (me user : UserID) :
    deleteUserFromCarpool me user now ⊆ deleteUserFromCarpool me user carpool := by
  intro w hw
  obtain ⟨member, hevicts, hform⟩ := mem_deleteUserFromCarpool_iff.mp hw
  rw [h.uuid] at hform
  refine mem_deleteUserFromCarpool_iff.mpr ⟨member, ?_, hform⟩
  unfold Evicts IsMember at hevicts ⊢
  rw [h.driver] at hevicts
  split at hevicts
  · next hme =>
    rw [if_pos hme]
    exact ⟨hevicts.1, h.passengers hevicts.2⟩
  · next hme =>
    rw [if_neg hme]
    exact ⟨hevicts.1, hevicts.2.imp_right fun hp => h.passengers hp⟩

private theorem deleteUserFromCarpool_eq_nil {me user : UserID} {carpool : Carpool}
    (hpassengers : carpool.passengers = []) (hdriver : carpool.driver = user → me = user) :
    deleteUserFromCarpool me user carpool = [] := by
  rw [List.eq_nil_iff_forall_not_mem]
  intro w hw
  obtain ⟨member, hevicts, -⟩ := mem_deleteUserFromCarpool_iff.mp hw
  unfold Evicts IsMember at hevicts
  rw [hpassengers] at hevicts
  split at hevicts
  · cases hevicts.2
  · next hme =>
    rcases hevicts.2 with huser | hmem
    · exact hme ((hdriver huser.symm).trans huser)
    · cases hmem

end Carpool

namespace CarpoolWrite

/-- The write withdraws a record. -/
def IsRemoval : CarpoolWrite → Prop
  | .deleteGroup _ _ | .removePassenger _ _ => True
  | _ => False

variable {v w : CarpoolWrite} {x y : CarpoolStore}

private theorem isRemoval_of_mem {me user : UserID} {carpool : Carpool}
    (h : w ∈ deleteUserFromCarpool me user carpool) : w.IsRemoval := by
  obtain ⟨member, -, rfl | rfl⟩ := Carpool.mem_deleteUserFromCarpool_iff.mp h <;> trivial

/-- The deletion of a group entry is idle where there is none. -/
theorem idle_deleteGroup_iff {user : UserID} {id : CarpoolID} :
    Idle land (.deleteGroup user id) x ↔ id ∉ x.groups user := by
  rw [← FieldValue.apply_arrayRemove_eq_self_iff]
  constructor
  · intro h
    exact Function.update_eq_self_iff.mp (congrArg CarpoolStore.groups (Option.some.inj h))
  · intro h
    rw [Idle, land, CarpoolStore.changeGroups, h, Function.update_eq_self]

/-- The removal of a passenger is idle where the carpool has passengers without him. -/
theorem idle_removePassenger_iff {user : UserID} {id : CarpoolID} :
    Idle land (.removePassenger id user) x ↔
      ∃ d passengers, x.carpools id = some d ∧ d.passengers = some passengers ∧
        user ∉ passengers := by
  constructor
  · intro h
    obtain ⟨carpools, hcarpools, hsame⟩ := Option.map_eq_some_iff.mp h
    obtain ⟨d, hd, hd', -⟩ := updateData_eq_some hcarpools
    rw [show carpools = x.carpools from congrArg CarpoolStore.carpools hsame, hd,
      Option.some.injEq] at hd'
    have hpassengers := congrArg CarpoolDocument.passengers hd'
    refine ⟨d, _, hd, hpassengers, ?_⟩
    rw [← FieldValue.apply_arrayRemove_eq_self_iff]
    exact FieldValue.apply_apply ..
  · rintro ⟨d, passengers, hd, hpassengers, hno⟩
    have hsame : d.removePassenger user = d := by
      rw [CarpoolDocument.removePassenger, hpassengers, Option.getD_some,
        FieldValue.apply_arrayRemove_eq_self_iff.mpr hno, ← hpassengers]
    rw [Idle, land, updateData, hd, Option.map_some, Option.map_some, hsame, ← hd,
      Function.update_eq_self]

/-- A removal that has landed is idle. -/
theorem IsRemoval.idle_land (hw : w.IsRemoval) (h : w.land x = some y) : Idle land w y := by
  cases w with
  | deleteGroup user id =>
    obtain rfl := Option.some.inj h
    rw [idle_deleteGroup_iff, CarpoolStore.changeGroups]
    simp only [Function.update_self]
    exact FieldValue.apply_arrayRemove_eq_self_iff.mp (FieldValue.apply_apply ..)
  | removePassenger id user =>
    obtain ⟨carpools, hcarpools, rfl⟩ := Option.map_eq_some_iff.mp h
    obtain ⟨d, -, hd', -⟩ := updateData_eq_some hcarpools
    exact idle_removePassenger_iff.mpr ⟨_, _, hd', rfl,
      FieldValue.apply_arrayRemove_eq_self_iff.mp (FieldValue.apply_apply ..)⟩
  | _ => exact hw.elim

private theorem IsRemoval.groups_subset (hw : w.IsRemoval) (h : w.land x = some y) (user : UserID) :
    y.groups user ⊆ x.groups user := by
  cases w with
  | deleteGroup user' id =>
    obtain rfl := Option.some.inj h
    intro a ha
    by_cases huser : user = user'
    · subst huser
      simp only [CarpoolStore.changeGroups, Function.update_self] at ha
      exact List.mem_of_mem_filter ha
    · simpa only [CarpoolStore.changeGroups, Function.update_of_ne huser] using ha
  | removePassenger id user' =>
    obtain ⟨carpools, -, rfl⟩ := Option.map_eq_some_iff.mp h
    exact List.Subset.refl _
  | _ => exact hw.elim

/-- A carpool that has passengers may lose some of them. -/
theorem IsRemoval.carpools_land (hw : w.IsRemoval) (h : w.land x = some y) (id : CarpoolID)
    (hpassengers : ∀ user, w = .removePassenger id user →
      ∀ d, x.carpools id = some d → d.passengers ≠ none) :
    ∃ p, y.carpools id = (x.carpools id).map (·.keeping p) := by
  have hsame : ∃ p, x.carpools id = (x.carpools id).map (CarpoolDocument.keeping · p) := by
    refine ⟨fun _ => true, ?_⟩
    simp only [CarpoolDocument.keeping_true, Option.map_id']
  cases w with
  | deleteGroup user id' =>
    obtain rfl := Option.some.inj h
    exact hsame
  | removePassenger id' user =>
    obtain ⟨carpools, hcarpools, rfl⟩ := Option.map_eq_some_iff.mp h
    obtain ⟨d, hd, hd', hne⟩ := updateData_eq_some hcarpools
    by_cases hid : id = id'
    · subst hid
      refine ⟨(· ≠ user), hd'.trans ?_⟩
      rw [CarpoolDocument.removePassenger_eq_keeping (hpassengers user rfl d hd), hd,
        Option.map_some]
    · obtain ⟨p, hp⟩ := hsame
      exact ⟨p, (hne id hid).trans hp⟩
  | _ => exact hw.elim

private theorem IsRemoval.idle_of_idle (hw : w.IsRemoval) (hv : v.IsRemoval) (h : Idle land w x)
    (hland : v.land x = some y) : Idle land w y := by
  cases w with
  | deleteGroup user id =>
    rw [idle_deleteGroup_iff] at h ⊢
    exact fun hmem => h (hv.groups_subset hland user hmem)
  | removePassenger id user =>
    rw [idle_removePassenger_iff] at h ⊢
    obtain ⟨d, passengers, hd, hpassengers, hno⟩ := h
    obtain ⟨p, hp⟩ := hv.carpools_land hland id fun user' _ d' hd' => by
      rw [hd, Option.some.injEq] at hd'
      rw [← hd', hpassengers]
      exact Option.some_ne_none _
    rw [hd, Option.map_some] at hp
    refine ⟨_, passengers.filter p, hp, ?_, fun hmem => hno (List.mem_of_mem_filter hmem)⟩
    rw [CarpoolDocument.keeping, hpassengers, Option.map_some]
  | _ => exact hw.elim

end CarpoolWrite

/-! ### The client moves on -/

namespace CarpoolSystem

variable {s t : CarpoolSystem} {c : CarpoolClientID}

private theorem acknowledge_of_isRemoval {w : CarpoolWrite} (hw : w.IsRemoval) :
    s.acknowledge c w = s := by
  cases w with
  | deleteGroup user id | removePassenger id user => rfl
  | _ => exact hw.elim

/-- The client moves on, or a write lands. -/
def Moves (c : CarpoolClientID) : CarpoolEvent → Prop
  | .progress c' _ => c' = c
  | .land _ => True
  | _ => False

/-- What is said of the store, of what is in flight and of what a client waits for holds on while
the client moves on, and only removals land. -/
structure Kept (c : CarpoolClientID)
    (P : CarpoolStore → List CarpoolInFlight → List Callback → Prop) : Prop where
  progress : ∀ {y box waiting i callback}, P y box waiting → waiting[i]? = some callback →
    P y (box ++ callback.writes.map (⟨c, ·⟩)) (waiting.eraseIdx i ++ callback.next y)
  land : ∀ {y z box rest waiting i w}, P y box waiting →
    takeOut CarpoolInFlight.client box i = some (w, rest) → w.write.land y = some z →
    w.write.IsRemoval ∧ P z rest waiting

/-- So it holds on at every move. -/
theorem Kept.step {P : CarpoolStore → List CarpoolInFlight → List Callback → Prop} (hP : Kept c P)
    (h : P s.store s.outbox (s.clients c).callbacks) {ev : CarpoolEvent} (hev : Moves c ev)
    (hstep : s.step ev = some t) : P t.store t.outbox (t.clients c).callbacks := by
  cases ev with
  | progress c' i =>
    cases hev
    obtain ⟨callback, hget, hstore, hbox, hwaiting⟩ := progress_eq_some hstep
    rw [hstore, hbox, hwaiting]
    exact hP.progress h hget
  | land i =>
    obtain ⟨w, rest, store, hw, hland, rfl⟩ := step_land hstep
    obtain ⟨hremoval, h⟩ := hP.land h hw hland
    rwa [acknowledge_of_isRemoval hremoval]
  | _ => exact hev.elim

end CarpoolSystem

/-! ### The first walk -/

namespace CarpoolStore

/-- What a walk through the groups of `me` may have read; some passengers may be gone by then. -/
def Reads (x : CarpoolStore) (me : UserID) (copy : Carpool) : Prop :=
  ∃ id ∈ x.groups me, ∃ carpool p, x.carpool? id = some carpool ∧ copy = carpool.keeping p

/-- No listed carpool of which somebody is removed has the id of a listed one that `user` drives
and that is stored without passengers. -/
def Intact (x : CarpoolStore) (me user : UserID) : Prop :=
  ∀ id ∈ x.groups me, ∀ carpool, x.carpool? id = some carpool →
    (∃ member, carpool.Evicts me user member) → carpool.uuid ∈ x.groups me →
      ∀ d, x.carpools carpool.uuid = some d → d.passengers = none →
        ∀ now, Carpool.ofDocument { d with passengers := some [] } = some now →
          now.driver = user → me = user

/-- A carpool that has passengers stored, and nobody to remove. -/
def Harmless (y : CarpoolStore) (me user : UserID) (id : CarpoolID) : Prop :=
  ∃ d passengers, y.carpools id = some d ∧ d.passengers = some passengers ∧
    ∀ now, Carpool.ofDocument d = some now → deleteUserFromCarpool me user now = []

/-- It stays so with some passengers gone. -/
theorem Harmless.keeping {y z : CarpoolStore} {me user : UserID} {id : CarpoolID}
    {p : UserID → Bool} (h : y.Harmless me user id)
    (hz : z.carpools id = (y.carpools id).map (·.keeping p)) : z.Harmless me user id := by
  obtain ⟨d, passengers, hd, hpassengers, hnothing⟩ := h
  rw [hd, Option.map_some] at hz
  refine ⟨_, passengers.filter p, hz, ?_, fun now hnow => ?_⟩
  · rw [CarpoolDocument.keeping, hpassengers, Option.map_some]
  · rw [Carpool.ofDocument_keeping, Option.map_eq_some_iff] at hnow
    obtain ⟨before, hbefore, rfl⟩ := hnow
    have hsubset := ((Carpool.Shrunk.refl before).keeping p).deleteUserFromCarpool_subset me user
    rw [hnothing before hbefore] at hsubset
    exact List.subset_nil.mp hsubset

private theorem carpool?_of_keeping {x y : CarpoolStore} {id : CarpoolID} {p : UserID → Bool}
    (h : y.carpools id = (x.carpools id).map (·.keeping p)) :
    y.carpool? id = (x.carpool? id).map (·.keeping p) := by
  rw [carpool?, carpool?, h, Option.bind_map, Option.map_bind]
  exact congrArg _ (funext fun d => Carpool.ofDocument_keeping d p)

end CarpoolStore

/-- A walk through the groups of `me` on account of `user`, that began in `x`: what was listed is
still to be read, or what was read of it is still to be handled, or what that writes is in flight
or idle. -/
structure Removing (x : CarpoolStore) (me user : UserID) (y : CarpoolStore)
    (box : List CarpoolInFlight) (waiting : List Callback) : Prop where
  docs : ∀ id ∈ x.groups me, (∃ p, y.carpools id = (x.carpools id).map (·.keeping p)) ∨
    y.Harmless me user id
  groups : y.groups me ⊆ x.groups me
  asked : ∀ callback ∈ waiting,
    (∃ id ∈ x.groups me, callback = .removalCarpool me user id) ∨
      ∃ copy, (x.Reads me copy ∨ deleteUserFromCarpool me user copy = []) ∧
        callback = .removalAnswer me user copy
  written : ∀ w ∈ box, ∃ copy, x.Reads me copy ∧ w.write ∈ deleteUserFromCarpool me user copy
  handled : ∀ id ∈ x.groups me, .removalCarpool me user id ∈ waiting ∨
    ∀ now, y.carpool? id = some now → ∃ copy : Carpool, copy.Shrunk now ∧
      (.removalAnswer me user copy ∈ waiting ∨
        ∀ w ∈ deleteUserFromCarpool me user copy, Settling CarpoolWrite.land CarpoolInFlight.write
          box y w)

namespace Removing

variable {x y z : CarpoolStore} {me user : UserID} {box rest : List CarpoolInFlight}
  {waiting : List Callback} {c : CarpoolClientID} {i : Nat}

/-- Each of the carpools is to be read first. -/
theorem start : Removing x me user x [] ((x.groups me).map (.removalCarpool me user)) where
  docs id _ := by
    refine .inl ⟨fun _ => true, ?_⟩
    simp only [CarpoolDocument.keeping_true, Option.map_id']
  groups := List.Subset.refl _
  asked callback hcallback := by
    obtain ⟨id, hid, rfl⟩ := List.mem_map.mp hcallback
    exact .inl ⟨id, hid, rfl⟩
  written w hw := by cases hw
  handled id hid := .inl (List.mem_map_of_mem hid)

/-- One is read. -/
theorem read (h : Removing x me user y box waiting) {id : CarpoolID}
    (hget : waiting[i]? = some (.removalCarpool me user id)) (hid : id ∈ x.groups me) :
    Removing x me user y box
      (waiting.eraseIdx i ++ (y.carpool? id).toList.map (.removalAnswer me user)) := by
  constructor
  case docs => exact h.docs
  case groups => exact h.groups
  case written => exact h.written
  case asked =>
    intro callback hcallback
    rcases List.mem_append.mp hcallback with hcallback | hcallback
    · exact h.asked callback (List.mem_of_mem_eraseIdx hcallback)
    · obtain ⟨copy, hread, rfl⟩ := List.mem_map.mp hcallback
      rw [Option.mem_toList] at hread
      refine .inr ⟨copy, ?_, rfl⟩
      obtain ⟨p, hp⟩ | ⟨d, passengers, hd, -, hnothing⟩ := h.docs id hid
      · rw [CarpoolStore.carpool?_of_keeping hp, Option.map_eq_some_iff] at hread
        obtain ⟨carpool, hcarpool, rfl⟩ := hread
        exact .inl ⟨id, hid, carpool, p, hcarpool, rfl⟩
      · rw [CarpoolStore.carpool?, hd, Option.bind_some] at hread
        exact .inr (hnothing copy hread)
  case handled =>
    intro id' hid'
    by_cases hsame : id' = id
    · subst hsame
      refine .inr fun now hnow => ⟨now, .refl now, .inl ?_⟩
      exact List.mem_append_right _ (List.mem_map_of_mem (Option.mem_toList.mpr hnow))
    · refine (h.handled id' hid').imp (fun hmem => ?_) fun hread now hnow => ?_
      · refine List.mem_append_left _ (mem_eraseIdx_of_ne hget hmem fun he => ?_)
        cases he
        exact hsame rfl
      · obtain ⟨copy, hshrunk, hcopy⟩ := hread now hnow
        refine ⟨copy, hshrunk, hcopy.imp_left fun hmem => List.mem_append_left _ ?_⟩
        exact mem_eraseIdx_of_ne hget hmem fun he => by cases he

/-- What was read is handled. -/
theorem handle (h : Removing x me user y box waiting) {copy : Carpool}
    (hget : waiting[i]? = some (.removalAnswer me user copy))
    (hcopy : x.Reads me copy ∨ deleteUserFromCarpool me user copy = []) :
    Removing x me user y (box ++ (deleteUserFromCarpool me user copy).map (⟨c, ·⟩))
      (waiting.eraseIdx i) := by
  constructor
  case docs => exact h.docs
  case groups => exact h.groups
  case asked =>
    exact fun callback hcallback => h.asked callback (List.mem_of_mem_eraseIdx hcallback)
  case written =>
    intro w hw
    rcases List.mem_append.mp hw with hw | hw
    · exact h.written w hw
    · obtain ⟨v, hv, rfl⟩ := List.mem_map.mp hw
      exact ⟨copy, hcopy.resolve_right (List.ne_nil_of_mem hv), hv⟩
  case handled =>
    intro id hid
    refine (h.handled id hid).imp (fun hmem => ?_) fun hread now hnow => ?_
    · exact mem_eraseIdx_of_ne hget hmem fun he => by cases he
    · obtain ⟨earlier, hshrunk, hmem | hsettling⟩ := hread now hnow
      · refine ⟨earlier, hshrunk, ?_⟩
        by_cases hsame : earlier = copy
        · subst hsame
          right
          exact fun w hw => .of_mem (List.mem_append_right _ (List.mem_map_of_mem hw))
        · left
          refine mem_eraseIdx_of_ne hget hmem fun he => ?_
          cases he
          exact hsame rfl
      · exact ⟨earlier, hshrunk, .inr fun w hw => (hsettling w hw).append _⟩

private theorem harmless_land (h : Removing x me user y box waiting) {id : CarpoolID}
    (hid : id ∈ x.groups me) {d : CarpoolDocument} (hd : y.carpools id = some d)
    (hnone : d.passengers = none) {member : UserID}
    (hz : z.carpools id = some (d.removePassenger member))
    (hintact : ∀ d, x.carpools id = some d → d.passengers = none →
      ∀ now, Carpool.ofDocument { d with passengers := some [] } = some now →
        now.driver = user → me = user) : z.Harmless me user id := by
  obtain ⟨p, hp⟩ | ⟨d', passengers, hd', hpassengers, -⟩ := h.docs id hid
  · rw [hd, eq_comm, Option.map_eq_some_iff] at hp
    obtain ⟨original, horiginal, rfl⟩ := hp
    have hno := Option.map_eq_none_iff.mp hnone
    have hempty : (original.keeping p).removePassenger member =
        { original with passengers := some [] } := by
      rw [CarpoolDocument.removePassenger, CarpoolDocument.keeping, hno]
      rfl
    rw [hempty] at hz
    refine ⟨_, [], hz, rfl, fun now hnow => ?_⟩
    have hstored := congrArg CarpoolDocument.passengers (Carpool.toDocument_of_ofDocument hnow)
    exact Carpool.deleteUserFromCarpool_eq_nil (Option.some.inj hstored)
      (hintact original horiginal hno now hnow)
  · rw [hd, Option.some.injEq] at hd'
    rw [← hd', hnone] at hpassengers
    cases hpassengers

/-- What lands is a removal. A listed carpool loses some passengers, or has nobody to remove. -/
theorem carpools_land (h : Removing x me user y box waiting) (hintact : x.Intact me user)
    {w : CarpoolInFlight} (hw : w ∈ box) (hland : w.write.land y = some z) :
    w.write.IsRemoval ∧ ∀ id ∈ x.groups me,
      (∃ p, z.carpools id = (y.carpools id).map (·.keeping p)) ∨ z.Harmless me user id := by
  obtain ⟨copy, ⟨id₀, hid₀, carpool, p₀, hcarpool, rfl⟩, hmem⟩ := h.written w hw
  obtain ⟨member, hevicts, hform⟩ := Carpool.mem_deleteUserFromCarpool_iff.mp hmem
  have hremoval := CarpoolWrite.isRemoval_of_mem hmem
  refine ⟨hremoval, fun id hid => ?_⟩
  by_cases hnone : ∃ user' d, w.write = .removePassenger id user' ∧ y.carpools id = some d ∧
      d.passengers = none
  · right
    obtain ⟨user', d, he, hd, hnone⟩ := hnone
    rw [he] at hform hland
    obtain rfl : id = carpool.uuid := by
      rcases hform with hform | hform
      · cases hform
      · exact (CarpoolWrite.removePassenger.inj hform).1
    obtain ⟨carpools, hcarpools, rfl⟩ := Option.map_eq_some_iff.mp hland
    obtain ⟨d', hd', hz, -⟩ := updateData_eq_some hcarpools
    obtain rfl := Option.some.inj (hd.symm.trans hd')
    exact h.harmless_land hid hd hnone hz
      (hintact id₀ hid₀ carpool hcarpool ⟨member, hevicts.of_keeping⟩ hid)
  · left
    refine hremoval.carpools_land hland id fun user' he d hd hno => ?_
    exact hnone ⟨user', d, he, hd, hno⟩

/-- A write lands. -/
theorem land (h : Removing x me user y box waiting) (hintact : x.Intact me user)
    {w : CarpoolInFlight} (hw : takeOut CarpoolInFlight.client box i = some (w, rest))
    (hland : w.write.land y = some z) : Removing x me user z rest waiting := by
  obtain ⟨hremoval, hcarpools⟩ := h.carpools_land hintact (takeOut_mem hw) hland
  constructor
  case docs =>
    intro id hid
    obtain ⟨q, hq⟩ | hharmless := hcarpools id hid
    · refine (h.docs id hid).imp (fun ⟨p, hp⟩ => ?_) fun hharmless => hharmless.keeping hq
      refine ⟨fun user => p user && q user, ?_⟩
      rw [hq, hp, Option.map_map]
      exact congrArg (Option.map · _) (funext fun d => d.keeping_keeping p q)
    · exact .inr hharmless
  case groups => exact List.Subset.trans (hremoval.groups_subset hland me) h.groups
  case asked => exact h.asked
  case written => exact fun v hv => h.written v (takeOut_subset hw hv)
  case handled =>
    intro id hid
    refine (h.handled id hid).imp_right fun hread now hnow => ?_
    obtain ⟨q, hq⟩ | ⟨d, passengers, hd, -, hnothing⟩ := hcarpools id hid
    · rw [CarpoolStore.carpool?_of_keeping hq, Option.map_eq_some_iff] at hnow
      obtain ⟨before, hbefore, rfl⟩ := hnow
      obtain ⟨copy, hshrunk, hcopy⟩ := hread before hbefore
      refine ⟨copy, hshrunk.keeping q, hcopy.imp_right fun hsettling v hv => ?_⟩
      have hv' := CarpoolWrite.isRemoval_of_mem hv
      exact (hsettling v hv).takeOut hw (hremoval.idle_land hland)
        fun hidle => hv'.idle_of_idle hremoval hidle hland
    · rw [CarpoolStore.carpool?, hd, Option.bind_some] at hnow
      refine ⟨now, .refl now, .inr fun v hv => ?_⟩
      rw [hnothing now hnow] at hv
      cases hv

/-- Where nothing is to be done any more, nothing that would be written changes anything. -/
theorem idle (h : Removing x me user y [] []) {id : CarpoolID} (hid : id ∈ y.groups me)
    {now : Carpool} (hnow : y.carpool? id = some now) {w : CarpoolWrite}
    (hw : w ∈ deleteUserFromCarpool me user now) : Idle CarpoolWrite.land w y := by
  rcases h.handled id (h.groups hid) with hmem | hread
  · cases hmem
  · obtain ⟨copy, hshrunk, hmem | hsettling⟩ := hread now hnow
    · cases hmem
    · exact (hsettling w (hshrunk.deleteUserFromCarpool_subset me user hw)).idle

end Removing

/-- A walk has begun: the groups are still to be read, or what they list is removed. -/
def Walking (x : CarpoolStore) (me user : UserID) (y : CarpoolStore) (box : List CarpoolInFlight)
    (waiting : List Callback) : Prop :=
  (y = x ∧ box = [] ∧ waiting = [.removal me user]) ∨ Removing x me user y box waiting

/-- It goes on. -/
theorem walking_kept {x : CarpoolStore} {me user : UserID} (hintact : x.Intact me user)
    (c : CarpoolClientID) : CarpoolSystem.Kept c (Walking x me user) := by
  constructor
  case progress =>
    rintro y box waiting i callback (⟨rfl, rfl, rfl⟩ | h) hget
    · rw [List.getElem?_singleton, Option.ite_none_right_eq_some] at hget
      obtain ⟨rfl, hget⟩ := hget
      cases hget
      exact .inr .start
    · right
      obtain ⟨id, hid, rfl⟩ | ⟨copy, hcopy, rfl⟩ := h.asked callback (List.mem_of_getElem? hget)
      · simpa only [Callback.writes, Callback.next, List.map_nil, List.append_nil]
          using h.read hget hid
      · simpa only [Callback.writes, Callback.next, List.append_nil] using h.handle hget hcopy
  case land =>
    rintro y z box rest waiting i w (⟨rfl, rfl, rfl⟩ | h) hw hland
    · cases takeOut_mem hw
    · exact ⟨(h.carpools_land hintact (takeOut_mem hw) hland).1, .inr (h.land hintact hw hland)⟩

/-! ### Another walk -/

/-- What the walk would write for any listed carpool changes nothing. -/
def CarpoolStore.Swept (y : CarpoolStore) (me user : UserID) : Prop :=
  ∀ id ∈ y.groups me, ∀ now, y.carpool? id = some now →
    ∀ w ∈ deleteUserFromCarpool me user now, Idle CarpoolWrite.land w y

/-- The walk has left it so. -/
theorem Walking.swept {x y : CarpoolStore} {me user : UserID}
    (h : Walking x me user y [] []) : y.Swept me user := by
  obtain ⟨-, -, hwaiting⟩ | h := h
  · cases hwaiting
  · exact fun id hid now hnow w hw => h.idle hid hnow hw

/-- Another walk through the groups in `x`. It changes nothing. -/
structure Rewalking (x : CarpoolStore) (me user : UserID) (y : CarpoolStore)
    (box : List CarpoolInFlight) (waiting : List Callback) : Prop where
  store : y = x
  asked : ∀ callback ∈ waiting, callback = .removal me user ∨
    (∃ id ∈ x.groups me, callback = .removalCarpool me user id) ∨
      ∃ id ∈ x.groups me, ∃ now, x.carpool? id = some now ∧ callback = .removalAnswer me user now
  written : ∀ w ∈ box, w.write.IsRemoval ∧ Idle CarpoolWrite.land w.write x

/-- The groups are to be read first. -/
theorem rewalking_start (x : CarpoolStore) (me user : UserID) :
    Rewalking x me user x [] [.removal me user] where
  store := rfl
  asked callback hcallback := .inl (List.mem_singleton.mp hcallback)
  written w hw := by cases hw

/-- It goes on. -/
theorem rewalking_kept {x : CarpoolStore} {me user : UserID} (hswept : x.Swept me user)
    (c : CarpoolClientID) : CarpoolSystem.Kept c (Rewalking x me user) := by
  constructor
  case progress =>
    rintro y box waiting i callback ⟨rfl, hasked, hwritten⟩ hget
    constructor
    case store => rfl
    case asked =>
      intro callback' hmem
      rcases List.mem_append.mp hmem with hmem | hmem
      · exact hasked callback' (List.mem_of_mem_eraseIdx hmem)
      · obtain rfl | ⟨id, hid, rfl⟩ | ⟨id, hid, now, hnow, rfl⟩ :=
          hasked callback (List.mem_of_getElem? hget)
        · obtain ⟨id, hid, rfl⟩ := List.mem_map.mp hmem
          exact .inr (.inl ⟨id, hid, rfl⟩)
        · obtain ⟨now, hnow, rfl⟩ := List.mem_map.mp hmem
          exact .inr (.inr ⟨id, hid, now, Option.mem_toList.mp hnow, rfl⟩)
        · cases hmem
    case written =>
      intro w hw
      rcases List.mem_append.mp hw with hw | hw
      · exact hwritten w hw
      · obtain ⟨v, hv, rfl⟩ := List.mem_map.mp hw
        obtain rfl | ⟨id, hid, rfl⟩ | ⟨id, hid, now, hnow, rfl⟩ :=
          hasked callback (List.mem_of_getElem? hget)
        · cases hv
        · cases hv
        · exact ⟨CarpoolWrite.isRemoval_of_mem hv, hswept id hid now hnow v hv⟩
  case land =>
    rintro y z box rest waiting i w ⟨rfl, hasked, hwritten⟩ hw hland
    obtain ⟨hremoval, hidle⟩ := hwritten w (takeOut_mem hw)
    exact ⟨hremoval, hidle.eq hland, hasked, fun v hv => hwritten v (takeOut_subset hw hv)⟩

/-- Where nothing has begun, nothing goes on. -/
theorem nothing_kept (x : CarpoolStore) (c : CarpoolClientID) :
    CarpoolSystem.Kept c fun y box waiting => y = x ∧ box = [] ∧ waiting = [] := by
  constructor
  case progress =>
    rintro y box waiting i callback ⟨rfl, rfl, rfl⟩ hget
    cases hget
  case land =>
    rintro y z box rest waiting i w ⟨rfl, rfl, rfl⟩ hw
    cases takeOut_mem hw

end DriveTribe
