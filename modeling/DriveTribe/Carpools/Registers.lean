import DriveTribe.Carpools.System

/-!
# The two records of a membership

That a user is a member of a carpool is recorded in the carpool, by the driver and the
passengers, and in the user's groups. Each is a register that writes assign. The settled
value of a register is the one it has once everything in flight has landed in the order of
issue.
-/

namespace DriveTribe

open Base

/-- One of the two places where a membership is recorded. -/
inductive Register where
  | group (user : UserID) (carpool : CarpoolID)
  | member (user : UserID) (carpool : CarpoolID)
  deriving DecidableEq, Repr

/-- Whether the membership is recorded there. -/
def CarpoolStore.holds (x : CarpoolStore) : Register → Bool
  | .group user id => decide (id ∈ x.groups user)
  | .member user id =>
    match x.carpool? id with
    | none => false
    | some carpool => decide (carpool.IsMember user)

/-- The record in a carpool. -/
theorem CarpoolStore.holds_member {x : CarpoolStore} {user : UserID} {id : CarpoolID} :
    x.holds (.member user id) = true ↔
      ∃ carpool, x.carpool? id = some carpool ∧ carpool.IsMember user := by
  cases h : x.carpool? id with
  | none => simp only [holds, h, Bool.false_eq_true, reduceCtorEq, false_and, exists_false]
  | some carpool => simp only [holds, h, decide_eq_true_eq, Option.some.injEq, exists_eq_left']

namespace CarpoolWrite

/-- The carpool a write is about; messages record no membership. -/
def about : CarpoolWrite → Option CarpoolID
  | .setCarpool carpool => some carpool.uuid
  | .setGroup _ id | .deleteGroup _ id | .deleteCarpool id | .removePassenger id _ => some id
  | .addMessage _ _ | .deleteNewMessage _ => none

/-- What a write assigns. A new carpool assigns nothing here: nobody knows it before it has
landed. -/
def effect : CarpoolWrite → Register → Option Bool
  | .setGroup user id, .group user' id' => if user' = user ∧ id' = id then some true else none
  | .deleteGroup user id, .group user' id' => if user' = user ∧ id' = id then some false else none
  | .deleteCarpool id, .member _ id' => if id' = id then some false else none
  | .removePassenger id user, .member user' id' =>
    if user' = user ∧ id' = id then some false else none
  | _, _ => none

/-- The two writes assign the same group entry differently. -/
def Opposes : CarpoolWrite → CarpoolWrite → Prop
  | .setGroup user id, .deleteGroup user' id' => user' = user ∧ id' = id
  | .deleteGroup user id, .setGroup user' id' => user' = user ∧ id' = id
  | _, _ => False

instance (w w' : CarpoolWrite) : Decidable (w.Opposes w') := by
  unfold Opposes
  split <;> infer_instance

/-- A write about another carpool assigns nothing about this one. -/
theorem effect_eq_none {w : CarpoolWrite} {id : CarpoolID} (h : w.about ≠ some id) (user : UserID) :
    w.effect (.group user id) = none ∧ w.effect (.member user id) = none := by
  cases w <;> simp only [about, ne_eq, Option.some.injEq] at h <;>
    simp only [effect, and_self, ite_eq_right_iff, reduceCtorEq, imp_false, not_and, true_and,
      and_true] <;>
    grind

/-- A passenger's record in the carpool is only ever withdrawn. -/
theorem effect_member {w : CarpoolWrite} {user : UserID} {id : CarpoolID} {v : Bool}
    (h : w.effect (.member user id) = some v) : v = false := by
  cases w <;> simp only [effect, reduceCtorEq, Option.ite_none_right_eq_some,
    Option.some.injEq] at h
  all_goals exact h.2.symm

/-- A group entry is assigned by its own two writes. -/
theorem effect_group {w : CarpoolWrite} {user : UserID} {id : CarpoolID} {v : Bool}
    (h : w.effect (.group user id) = some v) :
    (w = .setGroup user id ∧ v = true) ∨ (w = .deleteGroup user id ∧ v = false) := by
  cases w <;> simp only [effect, reduceCtorEq, Option.ite_none_right_eq_some,
    Option.some.injEq] at h
  · obtain ⟨⟨rfl, rfl⟩, rfl⟩ := h
    exact .inl ⟨rfl, rfl⟩
  · obtain ⟨⟨rfl, rfl⟩, rfl⟩ := h
    exact .inr ⟨rfl, rfl⟩

/-- Landing a new carpool records the driver and the passengers. -/
theorem holds_land_setCarpool {x y : CarpoolStore} {carpool : Carpool}
    (h : (CarpoolWrite.setCarpool carpool).land x = some y) :
    (∀ user id, y.holds (.group user id) = x.holds (.group user id)) ∧
    (∀ user, y.holds (.member user carpool.uuid) = decide (carpool.IsMember user)) ∧
    ∀ user id, id ≠ carpool.uuid → y.holds (.member user id) = x.holds (.member user id) := by
  cases h
  refine ⟨fun _ _ => rfl, fun user => ?_, fun user id hid => ?_⟩
  · simp only [CarpoolStore.holds, CarpoolStore.carpool?, setData_self, Option.bind_some,
      Carpool.ofDocument_toDocument]
  · simp only [CarpoolStore.holds, CarpoolStore.carpool?, setData_of_ne _ _ hid]

/-- Any other write decides the registers it assigns and leaves the others alone, as long as
it removes no driver. -/
theorem holds_land {w : CarpoolWrite} {x y : CarpoolStore} (h : w.land x = some y)
    (hset : ∀ carpool, w ≠ .setCarpool carpool)
    (hdriver : ∀ id user, w = .removePassenger id user →
      ∃ carpool : Carpool, x.carpools id = some carpool.toDocument ∧ user ≠ carpool.driver)
    (r : Register) :
    y.holds r = (w.effect r).getD (x.holds r) := by
  cases w with
  | setCarpool carpool => exact absurd rfl (hset carpool)
  | addMessage id entry | deleteNewMessage id =>
    cases h
    cases r <;> rfl
  | setGroup user id | deleteGroup user id =>
    cases h
    cases r with
    | member user' id' => rfl
    | group user' id' =>
      by_cases hu : user' = user
      · subst hu
        by_cases hid : id' = id <;>
          simp [CarpoolStore.holds, CarpoolStore.changeGroups, FieldValue.mem_apply, effect, hid,
            FieldValue.element, FieldValue.present]
      · simp [CarpoolStore.holds, CarpoolStore.changeGroups, effect, hu]
  | deleteCarpool id =>
    cases h
    cases r with
    | group user' id' => rfl
    | member user' id' =>
      by_cases hid : id' = id <;>
        simp [CarpoolStore.holds, CarpoolStore.carpool?, deleteDocument, effect, hid]
  | removePassenger id user =>
    obtain ⟨carpools, hup, rfl⟩ := Option.map_eq_some_iff.mp h
    obtain ⟨d, hd, hd', hne⟩ := updateData_eq_some hup
    obtain ⟨carpool, hcarpool, huser⟩ := hdriver id user rfl
    rw [hd, Option.some.injEq] at hcarpool
    subst hcarpool
    cases r with
    | group user' id' => rfl
    | member user' id' =>
      by_cases hid : id' = id
      · subst hid
        rw [Carpool.removePassenger_toDocument] at hd'
        by_cases hu : user' = user
        · subst hu
          simp [CarpoolStore.holds, CarpoolStore.carpool?, hd', effect, Carpool.IsMember, huser]
        · have heffect : (removePassenger id' user).effect (.member user' id') = none :=
            if_neg fun h => hu h.1
          rw [heffect, Option.getD_none, Bool.eq_iff_iff, CarpoolStore.holds_member,
            CarpoolStore.holds_member]
          simp [CarpoolStore.carpool?, hd, hd', Carpool.IsMember, hu]
      · simp [CarpoolStore.holds, CarpoolStore.carpool?, hne id' hid, effect, hid]

end CarpoolWrite

namespace CarpoolSystem

/-- What a write in flight assigns. -/
def assigns (x : CarpoolInFlight) : Register → Option Bool := x.write.effect

/-- Whether the membership will be recorded once everything in flight has landed in the
order of issue. -/
def settled (s : CarpoolSystem) (r : Register) : Bool := settle assigns s.outbox r (s.store.holds r)

/-- Writes that are sent out settle after everything that is in flight already. -/
theorem settled_issue (s : CarpoolSystem) (c : CarpoolClientID) (ws : List CarpoolWrite)
    (r : Register) : (s.issue c ws).settled r = settle CarpoolWrite.effect ws r (s.settled r) := by
  simp only [settled, issue, settle_append]
  exact List.foldl_map

/-- Writes only ever withdraw what a carpool records. -/
theorem settle_member {ws : List CarpoolWrite} {user : UserID} {id : CarpoolID} {v : Bool}
    (h : settle CarpoolWrite.effect ws (.member user id) v = true) : v = true := by
  cases v with
  | true => rfl
  | false =>
    rw [settle_of_agrees fun w _ v' hv => CarpoolWrite.effect_member hv] at h
    exact h

/-- What is settled as recorded in a carpool is recorded there. -/
theorem holds_of_settled {s : CarpoolSystem} {user : UserID} {id : CarpoolID}
    (h : s.settled (.member user id) = true) : s.store.holds (.member user id) = true := by
  have hmap : s.settled (.member user id) = settle CarpoolWrite.effect
      (s.outbox.map CarpoolInFlight.write) (.member user id)
      (s.store.holds (.member user id)) := by
    rw [settled, settle, settle, List.foldl_map]
    rfl
  rw [hmap] at h
  exact settle_member h

/-- The write at `i` is about to land before an earlier one that assigns the same group
entry the other way. -/
def Overtakes (s : CarpoolSystem) (i : Nat) : Prop :=
  ∃ x ∈ s.outbox[i]?, ∃ y ∈ s.outbox.take i, x.write.Opposes y.write

instance (s : CarpoolSystem) (i : Nat) : Decidable (s.Overtakes i) := by
  unfold Overtakes
  infer_instance

/-- A landing that overtakes nothing, is of no new carpool and removes no driver leaves every
settled register as it was. -/
theorem settled_land {s : CarpoolSystem} {i : Nat} {x : CarpoolInFlight}
    {rest : List CarpoolInFlight} {store : CarpoolStore}
    (hx : takeOut CarpoolInFlight.client s.outbox i = some (x, rest))
    (hland : x.write.land s.store = some store) (hset : ∀ carpool, x.write ≠ .setCarpool carpool)
    (hdriver : ∀ id user, x.write = .removePassenger id user →
      ∃ carpool : Carpool, s.store.carpools id = some carpool.toDocument ∧ user ≠ carpool.driver)
    {r : Register} (hi : (∃ user id, r = .member user id) ∨ ¬ s.Overtakes i) :
    ({ s with store, outbox := rest } : CarpoolSystem).settled r = s.settled r := by
  obtain ⟨pre, post, hbox, rfl, hpre, -⟩ := takeOut_eq_some hx
  have hagrees : Agrees assigns pre x r := by
    intro v hv y hy v' hv'
    cases r with
    | member user id => rw [CarpoolWrite.effect_member hv, CarpoolWrite.effect_member hv']
    | group user id =>
      by_contra hne
      refine (hi.resolve_left nofun) ⟨x, takeOut_getElem? hx, y, hpre ▸ hy, ?_⟩
      rcases CarpoolWrite.effect_group hv with ⟨hx, rfl⟩ | ⟨hx, rfl⟩ <;>
        rcases CarpoolWrite.effect_group hv' with ⟨hy, rfl⟩ | ⟨hy, rfl⟩
      · exact absurd rfl hne
      · rw [hx, hy]
        exact ⟨rfl, rfl⟩
      · rw [hx, hy]
        exact ⟨rfl, rfl⟩
      · exact absurd rfl hne
  simp only [settled, hbox, ← settle_land hagrees, CarpoolWrite.holds_land hland hset hdriver,
    assigns]

end CarpoolSystem

end DriveTribe
