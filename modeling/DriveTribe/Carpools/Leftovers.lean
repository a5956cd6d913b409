import DriveTribe.Base.TwoRun
import DriveTribe.Carpools.Order
import DriveTribe.Carpools.Membership

/-!
# What the deletion of a carpool leaves behind

The data of a carpool is its document, the messages below it and an entry in the groups of each
member. The deletion by the driver deletes the document, a message document with a new id, and
the entries of the members that the deleted copy lists. So what is left is every message ever
written, and the entry of anybody else who still has one.
-/

namespace DriveTribe

open Base

/-- What can happen to carpools and their chats. -/
inductive ChatEvent (Date Settings : Type) where
  | carpools (ev : CarpoolEvent)
  | sendMessage (c : CarpoolClientID) (settings : Settings) (message : Message Date)
    (carpool : CarpoolID)
  /-- The `i`-th write fails; the error is reported or printed, and nothing else. -/
  | failed (i : Nat)

namespace CarpoolWrite

/-- The entry a write adds to the messages of a carpool. -/
def message? (id : CarpoolID) : CarpoolWrite → Option MessageEntry
  | .addMessage id' entry => if id' = id then some entry else none
  | _ => none

/-- The user in whose groups a write enters a carpool. -/
def entered? (id : CarpoolID) : CarpoolWrite → Option UserID
  | .setGroup user id' => if id' = id then some user else none
  | _ => none

/-- A deletion of what belongs to a carpool. -/
def DeletesOf (id : CarpoolID) : CarpoolWrite → Prop
  | .deleteCarpool id' | .deleteNewMessage id' | .deleteGroup _ id' => id' = id
  | _ => False

end CarpoolWrite

namespace CarpoolStore

/-- The writes land one after the other. -/
def landAll (x : CarpoolStore) (ws : List CarpoolWrite) : Option CarpoolStore :=
  run (fun x w => CarpoolWrite.land w x) x ws

/-- Nothing is left of the carpool, and everything else is as it was. -/
structure Cleared (id : CarpoolID) (before after : CarpoolStore) : Prop where
  document : after.carpools id = none
  messages : after.messages id = []
  groups : ∀ user, id ∉ after.groups user
  others : ∀ other, other ≠ id → after.carpools other = before.carpools other ∧
    after.messages other = before.messages other ∧
    ∀ user, other ∈ after.groups user ↔ other ∈ before.groups user

/-- Nothing is stored under the id, which has just been drawn. -/
structure Unused (x : CarpoolStore) (id : CarpoolID) : Prop where
  messages : x.messages id = []
  groups : ∀ user, id ∉ x.groups user

end CarpoolStore

namespace ChatSystem

section Formatter
variable {Date Settings : Type} (formatter : DateFormatter Date Settings)

/-- One event, with the writes that land in it. -/
def step (s : CarpoolSystem) :
    ChatEvent Date Settings → Option (CarpoolSystem × List CarpoolWrite)
  | .carpools (.land i) =>
    (s.step (.land i)).map fun t => (t, (s.outbox[i]?).toList.map CarpoolInFlight.write)
  | .carpools ev => (s.step ev).map fun t => (t, [])
  | .sendMessage c settings message carpool =>
    some (s.issue c
      ((CarpoolController.sendMessage formatter settings (s.clients c).currentUser
        message).toList.map (.addMessage carpool)), [])
  | .failed i =>
    (takeOut CarpoolInFlight.client s.outbox i).map fun x => ({ s with outbox := x.2 }, [])

end Formatter

/-- Who is in the groups after these writes, of a carpool that nobody was in before. -/
def entered (id : CarpoolID) (landed : List CarpoolWrite) : List UserID :=
  (landed.filterMap (CarpoolWrite.entered? id)).filter fun user =>
    settle CarpoolWrite.effect landed (.group user id) false

end ChatSystem

/-! ### The store as what has landed -/

namespace CarpoolWrite

/-- A write adds to the messages what it says, and never takes any away. -/
theorem messages_land {w : CarpoolWrite} {x y : CarpoolStore} (h : w.land x = some y)
    (id : CarpoolID) : y.messages id = x.messages id ++ (w.message? id).toList := by
  cases w with
  | addMessage id' entry =>
    cases h
    by_cases hid : id' = id
    · subst hid
      simp only [Function.update_self, message?, if_pos, Option.toList_some]
    · simp only [Function.update_of_ne (Ne.symm hid), message?, if_neg hid, Option.toList_none,
        List.append_nil]
  | removePassenger id' user =>
    obtain ⟨carpools, -, rfl⟩ := Option.map_eq_some_iff.mp h
    exact (List.append_nil _).symm
  | setCarpool _ | setGroup _ _ | deleteGroup _ _ | deleteCarpool _ | deleteNewMessage _ =>
    cases h
    exact (List.append_nil _).symm

private theorem group_land {w : CarpoolWrite} {x y : CarpoolStore} (h : w.land x = some y)
    (user : UserID) (id : CarpoolID) :
    y.holds (.group user id) = (w.effect (.group user id)).getD (x.holds (.group user id)) := by
  cases w with
  | setCarpool carpool => exact (holds_land_setCarpool h).1 user id
  | removePassenger id' user' =>
    obtain ⟨carpools, -, rfl⟩ := Option.map_eq_some_iff.mp h
    rfl
  | addMessage _ _ | setGroup _ _ | deleteGroup _ _ | deleteCarpool _ | deleteNewMessage _ =>
    exact holds_land h nofun nofun _

end CarpoolWrite

namespace CarpoolStore

private theorem messages_landAll {x y : CarpoolStore} {ws : List CarpoolWrite}
    (h : x.landAll ws = some y) (id : CarpoolID) :
    y.messages id = x.messages id ++ ws.filterMap (CarpoolWrite.message? id) := by
  induction ws generalizing x with
  | nil =>
    obtain rfl := Option.some.inj h
    exact (List.append_nil _).symm
  | cons w ws ih =>
    obtain ⟨z, hz, hy⟩ := run_cons_eq_some h
    rw [ih hy, CarpoolWrite.messages_land hz, List.append_assoc, List.filterMap_cons]
    cases w.message? id <;> rfl

private theorem group_landAll {x y : CarpoolStore} {ws : List CarpoolWrite}
    (h : x.landAll ws = some y) (user : UserID) (id : CarpoolID) :
    y.holds (.group user id) =
      settle CarpoolWrite.effect ws (.group user id) (x.holds (.group user id)) := by
  induction ws generalizing x with
  | nil =>
    obtain rfl := Option.some.inj h
    rfl
  | cons w ws ih =>
    obtain ⟨z, hz, hy⟩ := run_cons_eq_some h
    rw [ih hy, CarpoolWrite.group_land hz, settle_cons]

end CarpoolStore

namespace ChatSystem

section Formatter
variable {Date Settings : Type} {formatter : DateFormatter Date Settings}

/-- What a step lands is what changes the store. -/
theorem landAll_step {s t : CarpoolSystem} {ev : ChatEvent Date Settings} {ws : List CarpoolWrite}
    (h : step formatter s ev = some (t, ws)) : s.store.landAll ws = some t.store := by
  cases ev with
  | carpools ev =>
    by_cases hland : ∃ i, ev = .land i
    · obtain ⟨i, rfl⟩ := hland
      obtain ⟨t', ht', heq⟩ := Option.map_eq_some_iff.mp h
      rw [Prod.mk.injEq] at heq
      obtain ⟨rfl, rfl⟩ := heq
      obtain ⟨x, hx, hstore⟩ := CarpoolSystem.store_land ht'
      rw [hx]
      exact run_cons hstore []
    · have hev : ∀ i, ev ≠ .land i := fun i hi => hland ⟨i, hi⟩
      have hstep : (s.step ev).map (fun t => (t, ([] : List CarpoolWrite))) = some (t, ws) := by
        cases ev with
        | land i => exact absurd rfl (hev i)
        | _ => exact h
      obtain ⟨t', ht', heq⟩ := Option.map_eq_some_iff.mp hstep
      rw [Prod.mk.injEq] at heq
      obtain ⟨rfl, rfl⟩ := heq
      rw [CarpoolSystem.store_eq_of_step hev ht']
      rfl
  | sendMessage c settings message carpool =>
    cases h
    rfl
  | failed i =>
    obtain ⟨x, -, heq⟩ := Option.map_eq_some_iff.mp h
    cases heq
    rfl

/-- What a run has landed is what has changed the store. -/
theorem landAll_run {s : CarpoolSystem} {x : CarpoolSystem × List CarpoolWrite}
    {es : List (ChatEvent Date Settings)}
    (h : run (emit (step formatter)) (s, []) es = some x) :
    s.store.landAll x.2 = some x.1.store := by
  refine run_invariant (I := fun y => s.store.landAll y.2 = some y.1.store) ?_ rfl h
  intro y ev z hy hz
  obtain ⟨ws, hstep, hout⟩ := emit_eq_some.mp hz
  rw [hout]
  exact run_append_eq_some.mpr ⟨y.1.store, hy, landAll_step hstep⟩

end Formatter
end ChatSystem

/-! ### The deletion -/

namespace CarpoolWrite

/-- A deletion of what belongs to a carpool adds no message and enters nobody. -/
theorem DeletesOf.message? {w : CarpoolWrite} {id : CarpoolID} (h : w.DeletesOf id)
    (other : CarpoolID) : w.message? other = none := by
  cases w with
  | addMessage _ _ => exact h.elim
  | setCarpool _ | setGroup _ _ | deleteGroup _ _ | deleteCarpool _ | deleteNewMessage _
  | removePassenger _ _ => rfl

/-- It assigns nothing about another carpool. -/
theorem DeletesOf.effect {w : CarpoolWrite} {id other : CarpoolID} (h : w.DeletesOf id)
    (hne : other ≠ id) (user : UserID) : w.effect (.group user other) = none := by
  apply (effect_eq_none _ user).1
  intro habout
  cases w with
  | deleteCarpool _ | deleteGroup _ _ => exact hne ((Option.some.inj habout).symm.trans h)
  | deleteNewMessage _ => cases habout
  | setCarpool _ | addMessage _ _ | setGroup _ _ | removePassenger _ _ => exact h.elim

private theorem DeletesOf.effect_self {w : CarpoolWrite} {id : CarpoolID} (h : w.DeletesOf id)
    (user : UserID) : w.effect (.group user id) = none ∨ w = .deleteGroup user id := by
  cases he : w.effect (.group user id) with
  | none => exact .inl rfl
  | some v =>
    rcases effect_group he with ⟨rfl, -⟩ | ⟨rfl, -⟩
    · exact h.elim
    · exact .inr rfl

/-- It leaves the documents of the other carpools alone, and creates none. -/
theorem DeletesOf.carpools {w : CarpoolWrite} {id : CarpoolID} {x y : CarpoolStore}
    (h : w.DeletesOf id) (hland : w.land x = some y) :
    (∀ other, other ≠ id → y.carpools other = x.carpools other) ∧
      (w = .deleteCarpool id ∨ x.carpools id = none → y.carpools id = none) := by
  cases w with
  | deleteCarpool id' =>
    obtain rfl : id' = id := h
    cases hland
    refine ⟨fun other hne => ?_, fun _ => ?_⟩
    · simp only [deleteDocument, Function.update_of_ne hne]
    · simp only [deleteDocument, Function.update_self]
  | deleteNewMessage _ | deleteGroup _ _ =>
    cases hland
    refine ⟨fun _ _ => rfl, fun hor => ?_⟩
    apply hor.resolve_left
    intro he
    cases he
  | setCarpool _ | addMessage _ _ | setGroup _ _ | removePassenger _ _ => exact h.elim

end CarpoolWrite

namespace CarpoolStore

section Deletion
variable {id : CarpoolID} {x y : CarpoolStore} {ws : List CarpoolWrite}

private theorem carpools_deletion (h : ∀ w ∈ ws, w.DeletesOf id) (hland : x.landAll ws = some y) :
    (∀ other, other ≠ id → y.carpools other = x.carpools other) ∧
      (.deleteCarpool id ∈ ws ∨ x.carpools id = none → y.carpools id = none) := by
  induction ws generalizing x with
  | nil =>
    obtain rfl := Option.some.inj hland
    exact ⟨fun _ _ => rfl, fun hor => hor.resolve_left List.not_mem_nil⟩
  | cons w ws ih =>
    obtain ⟨z, hz, hy⟩ := run_cons_eq_some hland
    rw [List.forall_mem_cons] at h
    obtain ⟨hothers, hself⟩ := h.1.carpools hz
    obtain ⟨hothers', hself'⟩ := ih h.2 hy
    refine ⟨fun other hne => (hothers' other hne).trans (hothers other hne), fun hor => ?_⟩
    apply hself'
    rcases hor with hmem | hnone
    · rcases List.mem_cons.mp hmem with hw | hmem
      · exact .inr (hself (.inl hw.symm))
      · exact .inl hmem
    · exact .inr (hself (.inr hnone))

private theorem messages_deletion (h : ∀ w ∈ ws, w.DeletesOf id) (hland : x.landAll ws = some y)
    (other : CarpoolID) : y.messages other = x.messages other := by
  have hnone : ws.filterMap (CarpoolWrite.message? other) = [] :=
    List.filterMap_eq_nil_iff.mpr fun w hw => (h w hw).message? other
  rw [messages_landAll hland, hnone, List.append_nil]

private theorem group_deletion_of_ne (h : ∀ w ∈ ws, w.DeletesOf id) (hland : x.landAll ws = some y)
    {other : CarpoolID} (hne : other ≠ id) (user : UserID) :
    y.holds (.group user other) = x.holds (.group user other) := by
  rw [group_landAll hland]
  exact settle_of_none (fun w hw => (h w hw).effect hne user) _

/-- Those of the deleted carpool are gone where they are deleted. -/
theorem group_deletion (h : ∀ w ∈ ws, w.DeletesOf id) (hland : x.landAll ws = some y)
    (user : UserID) :
    y.holds (.group user id) = true ↔
      x.holds (.group user id) = true ∧ .deleteGroup user id ∉ ws := by
  rw [group_landAll hland]
  have hagree : ∀ w ∈ ws, ∀ v, w.effect (.group user id) = some v → v = false := by
    intro w hw v hv
    rcases (h w hw).effect_self user with hnone | rfl
    · rw [hnone] at hv
      cases hv
    · simp only [CarpoolWrite.effect, and_self, if_pos, Option.some.injEq] at hv
      exact hv.symm
  by_cases hmem : .deleteGroup user id ∈ ws
  · have heffect : (CarpoolWrite.deleteGroup user id).effect (.group user id) = some false :=
      if_pos ⟨rfl, rfl⟩
    rw [settle_of_mem hmem heffect hagree]
    exact iff_of_false Bool.false_ne_true fun hx => hx.2 hmem
  · have hnone : ∀ w ∈ ws, w.effect (.group user id) = none := by
      intro w hw
      rcases (h w hw).effect_self user with hnone | rfl
      · exact hnone
      · exact absurd hw hmem
    rw [settle_of_none hnone]
    exact (and_iff_left hmem).symm

end Deletion
end CarpoolStore

namespace CarpoolController

private theorem mem_delete_driver {self : CarpoolController} {me : User} {carpool : Carpool}
    (hdriver : carpool.driver = me.uuid) {w : CarpoolWrite} :
    w ∈ (self.delete (some me) carpool).1 ↔ w = .deleteCarpool carpool.uuid ∨
      w = .deleteNewMessage carpool.uuid ∨
      ∃ user, carpool.IsMember user ∧ w = .deleteGroup user carpool.uuid := by
  simp only [delete, hdriver, if_pos, List.mem_cons, List.mem_map, Carpool.IsMember]
  refine or_congr_right (or_congr_right ?_)
  constructor
  · rintro (rfl | ⟨user, hu, rfl⟩)
    · exact ⟨_, .inl rfl, rfl⟩
    · exact ⟨user, .inr hu, rfl⟩
  · rintro ⟨user, rfl | hu, rfl⟩
    · exact .inl rfl
    · exact .inr ⟨user, hu, rfl⟩

end CarpoolController

namespace CarpoolStore

/-- The driver's deletion clears a carpool away exactly if it has no messages and nobody is in
it but the members of the deleted copy. -/
theorem cleared_iff {self : CarpoolController} {me : User} {carpool : Carpool} {x y : CarpoolStore}
    {ws : List CarpoolWrite} (hdriver : carpool.driver = me.uuid)
    (hws : ws.Perm (self.delete (some me) carpool).1) (hland : x.landAll ws = some y) :
    Cleared carpool.uuid x y ↔
      x.messages carpool.uuid = [] ∧
        ∀ user, x.holds (.group user carpool.uuid) = true → carpool.IsMember user := by
  have hmem : ∀ w, w ∈ ws ↔ w = .deleteCarpool carpool.uuid ∨ w = .deleteNewMessage carpool.uuid ∨
      ∃ user, carpool.IsMember user ∧ w = .deleteGroup user carpool.uuid := fun w =>
    hws.mem_iff.trans (CarpoolController.mem_delete_driver hdriver)
  have hdeletes : ∀ w ∈ ws, w.DeletesOf carpool.uuid := by
    intro w hw
    rcases (hmem w).mp hw with rfl | rfl | ⟨user, -, rfl⟩ <;> exact rfl
  have hgroup : ∀ user, .deleteGroup user carpool.uuid ∈ ws ↔ carpool.IsMember user := by
    intro user
    simp only [hmem, reduceCtorEq, CarpoolWrite.deleteGroup.injEq, and_true, false_or,
      exists_eq_right']
  have hholds : ∀ (z : CarpoolStore) user id, z.holds (.group user id) = true ↔
      id ∈ z.groups user := fun z user id => decide_eq_true_iff
  obtain ⟨hothers, hself⟩ := carpools_deletion hdeletes hland
  constructor
  · intro h
    refine ⟨(messages_deletion hdeletes hland _).symm.trans h.messages, fun user hu => ?_⟩
    by_contra hne
    apply h.groups user
    rw [← hholds, group_deletion hdeletes hland, hgroup]
    exact ⟨hu, hne⟩
  · rintro ⟨hmessages, hentered⟩
    refine ⟨?_, ?_, ?_, ?_⟩
    · exact hself (.inl ((hmem _).mpr (.inl rfl)))
    · exact (messages_deletion hdeletes hland _).trans hmessages
    · intro user hu
      rw [← hholds, group_deletion hdeletes hland, hgroup] at hu
      exact hu.2 (hentered user hu.1)
    · intro other hne
      refine ⟨hothers other hne, messages_deletion hdeletes hland other, fun user => ?_⟩
      rw [← hholds, ← hholds, group_deletion_of_ne hdeletes hland hne]

end CarpoolStore

namespace ChatSystem

section Formatter
variable {Date Settings : Type} {formatter : DateFormatter Date Settings}

/-- Who is in the groups, by what has landed. -/
theorem mem_entered_iff {id : CarpoolID} {landed : List CarpoolWrite} {user : UserID} :
    user ∈ entered id landed ↔
      settle CarpoolWrite.effect landed (.group user id) false = true := by
  simp only [entered, List.mem_filter, List.mem_filterMap, and_iff_right_iff_imp]
  intro h
  by_contra hnone
  have hagree : ∀ w ∈ landed, ∀ v, w.effect (.group user id) = some v → v = false := by
    intro w hw v hv
    rcases CarpoolWrite.effect_group hv with ⟨rfl, -⟩ | ⟨-, rfl⟩
    · exact absurd ⟨_, hw, if_pos rfl⟩ hnone
    · rfl
  rw [settle_of_agrees hagree] at h
  exact Bool.false_ne_true h

/-- From its creation on, the driver's deletion of a carpool clears it away exactly if no
message of it has been written and nobody is left in it but the members of the deleted copy. -/
theorem deletion_clears_iff {s₀ : CarpoolSystem} {c : CarpoolClientID}
    {uniquePassengers : List UserID} {new : NewIDs} (hunused : s₀.store.Unused new.uuid)
    {es : List (ChatEvent Date Settings)} {s : CarpoolSystem} {landed : List CarpoolWrite}
    (hrun : run (emit (step formatter)) (s₀, [])
      (.carpools (.createCarpool c uniquePassengers new) :: es) = some (s, landed))
    {self : CarpoolController} {me : User} {carpool : Carpool} (hcarpool : carpool.uuid = new.uuid)
    (hdriver : carpool.driver = me.uuid) {ws : List CarpoolWrite} {store : CarpoolStore}
    (hws : ws.Perm (self.delete (some me) carpool).1)
    (hland : s.store.landAll ws = some store) :
    s.store.Cleared new.uuid store ↔
      (∀ w ∈ landed, w.message? new.uuid = none) ∧
        ∀ user ∈ entered new.uuid landed, carpool.IsMember user := by
  have hlanded := landAll_run hrun
  have hmessages : s.store.messages new.uuid = [] ↔ ∀ w ∈ landed, w.message? new.uuid = none := by
    rw [CarpoolStore.messages_landAll hlanded, hunused.messages, List.nil_append,
      List.filterMap_eq_nil_iff]
  have hgroups : ∀ user, s.store.holds (.group user new.uuid) = true ↔
      user ∈ entered new.uuid landed := by
    intro user
    have hnone : s₀.store.holds (.group user new.uuid) = false :=
      decide_eq_false (hunused.groups user)
    rw [CarpoolStore.group_landAll hlanded, hnone, mem_entered_iff]
  have h := CarpoolStore.cleared_iff hdriver hws hland
  rw [hcarpool, hmessages] at h
  simp only [hgroups] at h
  exact h

end Formatter

/-- The user `a` is about to save a carpool with the passenger `b`. -/
def aboutToSave : CarpoolSystem :=
  CarpoolSystem.unused.setClient 0
    { currentUser := some (User.signedUp "a")
      controller := { destination := some ⟨some "d", ⟨0⟩, ⟨0⟩⟩, passengers := ["b"] } }

private theorem aboutToSave_unused :
    aboutToSave.store.Unused "x" := ⟨rfl, fun _ => List.not_mem_nil⟩

/-- The carpool that is saved. -/
def savedCarpool : Carpool :=
  CarpoolController.newCarpool {} ⟨some "d", ⟨0⟩, ⟨0⟩⟩ "a" ["b"] "x"

/-- The writes of its deletion. -/
def itsDeletion : List CarpoolWrite :=
  (CarpoolController.delete {} (some (User.signedUp "a")) savedCarpool).1

/-- The carpool is saved; the write of the first message is the second one. -/
def saveCarpool : ChatEvent Nat Unit := .carpools (.createCarpool 0 ["b"] ⟨"x", "m", "t"⟩)

/-- The next write lands. -/
def landNext : ChatEvent Nat Unit := .carpools (.land 0)

/-- The condition holds where the write of the first message fails and none is sent. -/
theorem cleared_without_messages :
    ∃ s landed store,
      run (emit (step Written.halfSeconds)) (aboutToSave, [])
        [saveCarpool, landNext, .failed 0, landNext, landNext] = some (s, landed) ∧
      s.store.landAll itsDeletion = some store ∧ s.store.Cleared "x" store := by
  obtain ⟨⟨s, landed⟩, hrun, h⟩ := exists_run_of_any (emit (step Written.halfSeconds))
    (aboutToSave, []) [saveCarpool, landNext, .failed 0, landNext, landNext]
    (fun y => decide (y.2 = [.setCarpool savedCarpool, .setGroup "a" "x", .setGroup "b" "x"]))
    (by decide)
  have hlanded : landed = [.setCarpool savedCarpool, .setGroup "a" "x", .setGroup "b" "x"] :=
    of_decide_eq_true h
  obtain ⟨store, hstore⟩ : ∃ store, s.store.landAll itsDeletion = some store := ⟨_, rfl⟩
  have hcleared := (deletion_clears_iff aboutToSave_unused hrun rfl rfl (List.Perm.refl _)
    hstore).mpr (by rw [hlanded]; decide)
  exact ⟨s, landed, store, hrun, hstore, hcleared⟩

/-- The first message of every chat is left. -/
theorem not_cleared :
    ¬ ∀ (Date Settings : Type) (formatter : DateFormatter Date Settings) (s₀ s : CarpoolSystem)
      (c : CarpoolClientID) (uniquePassengers : List UserID) (new : NewIDs)
      (es : List (ChatEvent Date Settings)) (landed : List CarpoolWrite)
      (self : CarpoolController) (me : User) (carpool : Carpool) (ws : List CarpoolWrite)
      (store : CarpoolStore), s₀.store.Unused new.uuid →
      run (emit (step formatter)) (s₀, [])
        (.carpools (.createCarpool c uniquePassengers new) :: es) = some (s, landed) →
      carpool.uuid = new.uuid → carpool.driver = me.uuid →
      ws.Perm (self.delete (some me) carpool).1 → s.store.landAll ws = some store →
      s.store.Cleared new.uuid store := by
  intro hall
  obtain ⟨⟨s, landed⟩, hrun, h⟩ := exists_run_of_any (emit (step Written.halfSeconds))
    (aboutToSave, []) [saveCarpool, landNext, landNext, landNext, landNext]
    (fun y => decide ((y.1.store.messages "x").length = 1)) (by decide)
  obtain ⟨store, hstore⟩ : ∃ store, s.store.landAll itsDeletion = some store := ⟨_, rfl⟩
  have hcleared := hall _ _ _ _ _ _ _ _ _ _ {} _ savedCarpool _ _ aboutToSave_unused hrun rfl rfl
    (List.Perm.refl _) hstore
  have hmessages := ((CarpoolStore.cleared_iff rfl (List.Perm.refl _) hstore).mp hcleared).1
  have hlen : (s.store.messages "x").length = 1 := of_decide_eq_true h
  rw [show s.store.messages "x" = [] from hmessages] at hlen
  cases hlen

end ChatSystem

end DriveTribe
