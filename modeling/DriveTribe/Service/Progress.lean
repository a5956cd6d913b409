import Mathlib.Algebra.Order.BigOperators.Group.Finset
import Mathlib.Algebra.Order.Group.Multiset
import DriveTribe.Base.Outstanding
import DriveTribe.Carpools.Separation
import DriveTribe.Service.System

/-!
# The service comes to rest

A tap starts writes and reads, and what answers them may start more. Nothing of that goes on for
ever: what is left to do has a rank, and an answer starts only what has a lower one. So in every
infinite run in which the taps end and nothing is left unanswered, whatever fails, the stored
data changes for the last time at some moment, and nothing is in flight from there on.
-/

namespace DriveTribe

open Base

/-! ### Accounts -/

/-- How often the acknowledgement leads to another write. -/
def UserWrite.rank : UserWrite → ℕ
  | .deleteLocation _ => 2
  | .addLatitude _ _ => 1
  | .createUser _ | .updateUserProfile _ _ _ _ _ | .addLongitude _ _ => 0

namespace AccountEvent

/-- Somebody taps, and that is sent out. -/
def Starts : AccountEvent → Prop
  | .relation (.call _ _ _) | .signUp _ _ _ _ | .updateUserProfile _ _ _ _ _
  | .updateUserLocation _ _ => True
  | _ => False

/-- Something that was sent out is answered. -/
def Delivers : AccountEvent → Prop
  | .relation (.land _) | .relation (.fail _) | .accountCreated _ _ _ | .accountRefused _
  | .landUpdate _ | .failUpdate _ => True
  | _ => False

end AccountEvent

namespace Accounts
variable {s t : Accounts}

/-- The ranks of what was sent out and is not answered. -/
def outstanding (s : Accounts) : Multiset ℕ :=
  (s.outbox.map fun _ => 0 : List ℕ) + (s.signUps.map fun _ => 1 : List ℕ) +
    (s.updates.map fun u => u.write.rank : List ℕ)

private theorem outstanding_stopped (s : Accounts) (c : ClientID) :
    (s.stopped c).outstanding ≤ s.outstanding := by
  have hupdates : (s.stopped c).updates.map (fun u => u.write.rank) =
      s.updates.map fun u => u.write.rank := by
    rw [stopped, List.map_map]
    refine List.map_congr_left fun u _ => ?_
    simp only [Function.comp_apply]
    split <;> rfl
  rw [outstanding, hupdates]
  refine add_le_add_left (add_le_add_right ?_ _) _
  exact Multiset.coe_le.mpr (List.filter_sublist.map _).subperm

private theorem outstanding_send (s : Accounts) (c : ClientID) (write : UserWrite) :
    (s.send c write).outstanding = s.outstanding + {write.rank} := by
  rw [outstanding, outstanding, send, List.map_append, ← Multiset.coe_add, ← add_assoc]
  rfl

/-- An acknowledgement leaves no more, but for a write of a lower rank. -/
theorem outstanding_acknowledge (s : Accounts) (c : ClientID) (w : UserWrite) :
    ∃ new : Multiset ℕ, (∀ y ∈ new, y < w.rank) ∧
      (s.acknowledge c w).outstanding ≤ s.outstanding + new := by
  have hnone : ∀ y ∈ (0 : Multiset ℕ), y < w.rank := fun y hy =>
    absurd hy (Multiset.notMem_zero y)
  cases w with
  | createUser _ | updateUserProfile _ _ _ _ _ | addLongitude _ _ =>
    exact ⟨0, hnone, (add_zero s.outstanding).ge⟩
  | deleteLocation user =>
    rw [acknowledge]
    split
    · exact ⟨0, hnone, (outstanding_stopped s c).trans (add_zero s.outstanding).ge⟩
    · next latitude _ =>
      refine ⟨{1}, fun y hy => ?_, (outstanding_send s c (.addLatitude user latitude)).le⟩
      rw [Multiset.mem_singleton.mp hy]
      exact Nat.one_lt_two
  | addLatitude user _ =>
    rw [acknowledge]
    split
    · exact ⟨0, hnone, (outstanding_stopped s c).trans (add_zero s.outstanding).ge⟩
    · next longitude _ =>
      refine ⟨{0}, fun y hy => ?_, (outstanding_send s c (.addLongitude user longitude)).le⟩
      rw [Multiset.mem_singleton.mp hy]
      exact Nat.zero_lt_one

private theorem outstanding_outbox {i : Nat} {w : InFlight} {rest : List InFlight}
    (h : takeOut InFlight.client s.outbox i = some (w, rest)) (x : System) (hx : x.outbox = rest) :
    s.outstanding = ({ s with toSystem := x } : Accounts).outstanding + {0} := by
  rw [outstanding, outstanding, hx, ← coe_map_takeOut h fun _ => 0, add_right_comm _ {0},
    add_right_comm _ {0}]

private theorem outstanding_signUps {i : Nat} {x : SignUp} (h : s.signUps[i]? = some x) :
    s.outstanding = ({ s with signUps := s.signUps.eraseIdx i } : Accounts).outstanding + {1} := by
  rw [outstanding, outstanding, ← coe_map_eraseIdx h fun _ => 1, ← add_assoc,
    add_right_comm _ {1}]

private theorem outstanding_updates {i : Nat} {u : UserUpdate} (h : s.updates[i]? = some u)
    (users : Users) :
    s.outstanding =
      ({ s with users, updates := s.updates.eraseIdx i } : Accounts).outstanding +
        {u.write.rank} := by
  rw [outstanding, outstanding, ← coe_map_eraseIdx h fun u => u.write.rank, ← add_assoc]

/-- What is answered has left something of a lower rank, if anything. -/
theorem outstanding_lt {ev : AccountEvent} (hev : ev.Delivers) (hstep : s.step ev = some t) :
    t.outstanding.IsDershowitzMannaLT s.outstanding := by
  cases ev with
  | relation ev =>
    obtain ⟨x, hx, rfl⟩ := Option.map_eq_some_iff.mp hstep
    cases ev with
    | read _ | call _ _ _ => exact absurd hev id
    | land i =>
      obtain ⟨w, rest, users, hw, -, rfl⟩ := System.step_land hx
      rw [outstanding_outbox hw
        { s.toSystem with users, outbox := rest, landed := s.landed ++ [w] } rfl]
      exact lt_of_removed _ 0
    | fail i =>
      obtain ⟨w, rest, hw, rfl⟩ := System.step_fail hx
      rw [outstanding_outbox hw { s.toSystem with outbox := rest } rfl]
      exact lt_of_removed _ 0
  | accountCreated i authID uuid =>
    obtain ⟨x, hx, -, -, rfl⟩ := step_accountCreated hstep
    rw [outstanding_signUps hx, outstanding_send]
    refine lt_of_replaced fun y hy => ?_
    rw [Multiset.mem_singleton.mp hy]
    exact Nat.zero_lt_one
  | accountRefused i =>
    simp only [step, Option.ite_none_right_eq_some, Option.some.injEq] at hstep
    obtain ⟨hi, rfl⟩ := hstep
    rw [outstanding_signUps (List.getElem?_eq_getElem hi)]
    exact lt_of_removed _ 1
  | landUpdate i =>
    obtain ⟨u, users, hu, -, rfl⟩ := step_landUpdate hstep
    rw [outstanding_updates hu users]
    split
    · obtain ⟨new, hnew, hle⟩ := outstanding_acknowledge
        { s with users, updates := s.updates.eraseIdx i } u.client u.write
      exact lt_of_noMore_of_lt (noMore_of_le hle) (lt_of_replaced hnew)
    · exact lt_of_removed _ _
  | failUpdate i =>
    simp only [step, Option.ite_none_right_eq_some, Option.some.injEq] at hstep
    obtain ⟨hi, rfl⟩ := hstep
    rw [outstanding_updates (List.getElem?_eq_getElem hi) s.users]
    exact lt_of_removed _ _
  | locate _ _ _ | signUp _ _ _ _ | updateUserProfile _ _ _ _ _ | updateUserLocation _ _
  | stop _ => exact absurd hev id

/-- Nothing else that happens starts anything, but for the taps; nor is anything stored. -/
theorem outstanding_of_idle {ev : AccountEvent} (hstarts : ¬ ev.Starts) (hev : ¬ ev.Delivers)
    (hstep : s.step ev = some t) : t.users = s.users ∧ t.outstanding ≤ s.outstanding := by
  cases ev with
  | relation ev =>
    cases ev with
    | read r =>
      obtain ⟨x, hx, rfl⟩ := Option.map_eq_some_iff.mp hstep
      obtain ⟨y, -, husers, rfl⟩ := System.step_read hx
      exact ⟨husers, le_rfl⟩
    | call c op user => exact absurd True.intro hstarts
    | land i | fail i => exact absurd True.intro hev
  | locate c latitude longitude =>
    cases hstep
    exact ⟨rfl, le_rfl⟩
  | stop c =>
    cases hstep
    exact ⟨rfl, outstanding_stopped s c⟩
  | signUp _ _ _ _ | updateUserProfile _ _ _ _ _ | updateUserLocation _ _ =>
    exact absurd True.intro hstarts
  | accountCreated _ _ _ | accountRefused _ | landUpdate _ | failUpdate _ =>
    exact absurd True.intro hev

end Accounts

/-! ### Carpools -/

/-- An acknowledged carpool leads to group entries. -/
def CarpoolWrite.rank : CarpoolWrite → ℕ
  | .setCarpool _ => 1
  | .addMessage _ _ | .setGroup _ _ | .deleteGroup _ _ | .deleteCarpool _ | .deleteNewMessage _
  | .removePassenger _ _ => 0

/-- A removal reads the groups and then each carpool, and writes. The reads for the list write
nothing. -/
def Callback.rank? : Callback → Option ℕ
  | .listed _ | .listedAnswer _ => none
  | .removalAnswer _ _ _ => some 1
  | .removalCarpool _ _ _ => some 2
  | .removal _ _ => some 3

/-- A removal removes group entries and passengers. -/
theorem rank_of_deleteUserFromCarpool {me user : UserID} {carpool : Carpool} {w : CarpoolWrite}
    (h : w ∈ deleteUserFromCarpool me user carpool) : w.rank = 0 := by
  obtain ⟨member, -, rfl | rfl⟩ := Carpool.mem_deleteUserFromCarpool_iff.mp h
  · rfl
  · rfl

namespace Callback
variable {callback : Callback}

private theorem next_lt (store : CarpoolStore) {n : ℕ} (h : callback.rank? = some n) :
    (∀ y ∈ (callback.next store).filterMap rank?, y < n) ∧ ∀ w ∈ callback.writes, w.rank < n := by
  cases callback with
  | listed _ | listedAnswer _ => cases h
  | removal me user =>
    cases h
    refine ⟨fun y hy => ?_, fun w hw => absurd hw List.not_mem_nil⟩
    obtain ⟨asked, hasked, hrank⟩ := List.mem_filterMap.mp hy
    obtain ⟨id, -, rfl⟩ := List.mem_map.mp hasked
    cases hrank
    exact Nat.lt_succ_self 2
  | removalCarpool me user id =>
    cases h
    refine ⟨fun y hy => ?_, fun w hw => absurd hw List.not_mem_nil⟩
    obtain ⟨asked, hasked, hrank⟩ := List.mem_filterMap.mp hy
    obtain ⟨carpool, -, rfl⟩ := List.mem_map.mp hasked
    cases hrank
    exact Nat.lt_succ_self 1
  | removalAnswer me user carpool =>
    cases h
    refine ⟨fun y hy => absurd hy List.not_mem_nil, fun w hw => ?_⟩
    rw [rank_of_deleteUserFromCarpool hw]
    exact Nat.zero_lt_one

private theorem next_of_none (store : CarpoolStore) (h : callback.rank? = none) :
    (callback.next store).filterMap rank? = [] ∧ callback.writes = [] := by
  cases callback with
  | removal _ _ | removalCarpool _ _ _ | removalAnswer _ _ _ => cases h
  | listed id =>
    refine ⟨List.filterMap_eq_nil_iff.mpr fun asked hasked => ?_, rfl⟩
    obtain ⟨carpool, -, rfl⟩ := List.mem_map.mp hasked
    rfl
  | listedAnswer carpool => exact ⟨rfl, rfl⟩

end Callback

/-- The ranks of what a client still has to do about carpools. -/
def CarpoolClient.outstanding (client : CarpoolClient) : Multiset ℕ :=
  (client.callbacks.filterMap Callback.rank? : List ℕ)

/-- Somebody taps, and that is sent out. -/
def CarpoolEvent.Starts : CarpoolEvent → Prop
  | .createCarpool _ _ _ | .delete _ _ | .blockOrUnfriend _ _ => True
  | _ => False

namespace CarpoolSystem
variable {s t : CarpoolSystem} {K : Finset CarpoolClientID}

/-- A write is answered, or a removal moves on. -/
def Delivers (s : CarpoolSystem) : CarpoolEvent → Prop
  | .land _ => True
  | .progress c i | .readFailed c i =>
    ∃ callback, (s.clients c).callbacks[i]? = some callback ∧ callback.rank? ≠ none
  | _ => False

/-- The ranks of what is in flight, and of what the clients still have to do. -/
def outstanding (K : Finset CarpoolClientID) (s : CarpoolSystem) : Multiset ℕ :=
  (s.outbox.map fun x => x.write.rank : List ℕ) + ∑ c ∈ K, (s.clients c).outstanding

/-- Nobody else has anything to do. -/
def Within (K : Finset CarpoolClientID) (s : CarpoolSystem) : Prop :=
  ∀ c ∉ K, (s.clients c).outstanding = 0

private theorem outstanding_issue (s : CarpoolSystem) (c : CarpoolClientID)
    (ws : List CarpoolWrite) :
    (s.issue c ws).outstanding K = s.outstanding K + (ws.map CarpoolWrite.rank : List ℕ) := by
  rw [outstanding, outstanding, issue, List.map_append, ← Multiset.coe_add, add_right_comm,
    List.map_map]
  rfl

private theorem outstanding_setClient (s : CarpoolSystem) {c : CarpoolClientID} (hc : c ∈ K) :
    ∃ rest, s.outstanding K = rest + (s.clients c).outstanding ∧
      ∀ client, (s.setClient c client).outstanding K = rest + client.outstanding := by
  refine ⟨(s.outbox.map fun x => x.write.rank : List ℕ) +
    ∑ c' ∈ K.erase c, (s.clients c').outstanding, ?_, fun client => ?_⟩
  · rw [outstanding, ← Finset.sum_erase_add K _ hc, add_assoc]
  · rw [outstanding, ← Finset.sum_erase_add K _ hc, clients_setClient_self, add_assoc]
    refine congrArg _ (congrArg (· + _) (Finset.sum_congr rfl fun c' hc' => ?_))
    rw [clients_setClient_of_ne s client (Finset.ne_of_mem_erase hc')]

private theorem outstanding_le_of_clients (houtbox : t.outbox = s.outbox)
    (hclients : ∀ c, (t.clients c).outstanding ≤ (s.clients c).outstanding) :
    t.outstanding K ≤ s.outstanding K := by
  rw [outstanding, outstanding, houtbox]
  exact add_le_add_right (Finset.sum_le_sum fun c _ => hclients c) _

/-- A client that is replaced by one that has as much to do. -/
theorem clients_setClient_outstanding (s : CarpoolSystem) {c : CarpoolClientID}
    (client : CarpoolClient) (h : client.outstanding = (s.clients c).outstanding)
    (c' : CarpoolClientID) :
    ((s.setClient c client).clients c').outstanding = (s.clients c').outstanding := by
  by_cases hc : c' = c
  · rw [hc, clients_setClient_self, h]
  · rw [clients_setClient_of_ne s client hc]

private theorem issue_nil (s : CarpoolSystem) (c : CarpoolClientID) : s.issue c [] = s := by
  rw [issue, List.map_nil, List.append_nil]

/-- A callback that moves on is replaced by what it asks for, and writes. -/
theorem progress_spec {c : CarpoolClientID} {i : Nat} (h : s.progress c i = some t) :
    ∃ callback client, (s.clients c).callbacks[i]? = some callback ∧
      client.callbacks = (s.clients c).callbacks.eraseIdx i ++ callback.next s.store ∧
      t = (s.setClient c client).issue c callback.writes := by
  simp only [progress] at h
  cases hget : (s.clients c).callbacks[i]? with
  | none => simp only [hget, reduceCtorEq] at h
  | some callback =>
    cases callback with
    | listed _ | removal _ _ | removalCarpool _ _ _ =>
      simp only [hget, Option.some.injEq] at h
      exact ⟨_, _, rfl, rfl, h.symm.trans (issue_nil _ c).symm⟩
    | listedAnswer _ =>
      simp only [hget, Option.some.injEq] at h
      exact ⟨_, _, rfl, (List.append_nil _).symm, h.symm.trans (issue_nil _ c).symm⟩
    | removalAnswer _ _ _ =>
      simp only [hget, Option.some.injEq] at h
      exact ⟨_, _, rfl, (List.append_nil _).symm, h.symm⟩

/-- An acknowledgement starts what has a lower rank, and no reads. -/
theorem outstanding_acknowledge (s : CarpoolSystem) (c : CarpoolClientID) (w : CarpoolWrite) :
    (∃ new : Multiset ℕ, (∀ y ∈ new, y < w.rank) ∧
      (s.acknowledge c w).outstanding K ≤ s.outstanding K + new) ∧
    ∀ c', ((s.acknowledge c w).clients c').outstanding = (s.clients c').outstanding := by
  have hnone : ∀ y ∈ (0 : Multiset ℕ), y < w.rank := fun y hy =>
    absurd hy (Multiset.notMem_zero y)
  cases w with
  | setCarpool carpool =>
    refine ⟨⟨_, fun y hy => ?_, (outstanding_issue s c _).le⟩, fun _ => rfl⟩
    rw [CarpoolController.carpoolCreated_eq, List.map_map] at hy
    obtain ⟨user, -, rfl⟩ := List.mem_map.mp hy
    exact Nat.zero_lt_one
  | deleteCarpool id =>
    have hclients (c' : CarpoolClientID) :
        ((s.acknowledge c (.deleteCarpool id)).clients c').outstanding =
          (s.clients c').outstanding :=
      clients_setClient_outstanding s { s.clients c with
        controller := (s.clients c).controller.carpoolDeleted id } rfl c'
    refine ⟨⟨0, hnone, ?_⟩, hclients⟩
    rw [add_zero]
    exact outstanding_le_of_clients rfl fun c' => (hclients c').le
  | addMessage _ _ | setGroup _ _ | deleteGroup _ _ | deleteNewMessage _ | removePassenger _ _ =>
    exact ⟨⟨0, hnone, (add_zero (s.outstanding K)).ge⟩, fun _ => rfl⟩

/-- What a client has to do, without one callback. -/
theorem outstanding_eraseIdx {c : CarpoolClientID} {i : Nat} {callback : Callback}
    (h : (s.clients c).callbacks[i]? = some callback) :
    (s.clients c).outstanding =
      (((s.clients c).callbacks.eraseIdx i).filterMap Callback.rank? : List ℕ) +
        (callback.rank?.toList : List ℕ) :=
  (coe_filterMap_eraseIdx h Callback.rank?).symm

/-- A client that has something to do is among those who may. -/
theorem Within.mem (hK : s.Within K) {c : CarpoolClientID} {i : Nat} {callback : Callback}
    (h : (s.clients c).callbacks[i]? = some callback) (hrank : callback.rank? ≠ none) : c ∈ K := by
  by_contra hc
  obtain ⟨n, hn⟩ := Option.ne_none_iff_exists'.mp hrank
  have hnone := hK c hc
  rw [outstanding_eraseIdx h, hn] at hnone
  exact Multiset.singleton_ne_zero n (add_eq_zero.mp hnone).2

/-- What is answered has left something of a lower rank, if anything; nobody else gets anything
to do. -/
theorem outstanding_lt (hK : s.Within K) {ev : CarpoolEvent} (hev : s.Delivers ev)
    (hstep : s.step ev = some t) :
    t.Within K ∧ (t.outstanding K).IsDershowitzMannaLT (s.outstanding K) := by
  cases ev with
  | land i =>
    obtain ⟨x, rest, store, hx, -, rfl⟩ := step_land hstep
    obtain ⟨⟨new, hnew, hle⟩, hclients⟩ := outstanding_acknowledge (K := K)
      { s with store, outbox := rest } x.client x.write
    refine ⟨fun c hc => (hclients c).trans (hK c hc), lt_of_noMore_of_lt (noMore_of_le hle) ?_⟩
    rw [outstanding, outstanding, ← coe_map_takeOut hx fun x => x.write.rank,
      add_right_comm _ ({x.write.rank} : Multiset ℕ)]
    exact lt_of_replaced hnew
  | progress c i =>
    obtain ⟨callback, hcallback, hrank⟩ := hev
    obtain ⟨callback', client, hcallback', hclient, rfl⟩ := progress_spec hstep
    obtain rfl := Option.some.inj (hcallback.symm.trans hcallback')
    obtain ⟨n, hn⟩ := Option.ne_none_iff_exists'.mp hrank
    have hc := hK.mem hcallback hrank
    refine ⟨fun c' hc' => ?_, ?_⟩
    · have hother : ((s.setClient c client).issue c callback.writes).clients c' = s.clients c' :=
        clients_setClient_of_ne s client (ne_of_mem_of_not_mem hc hc').symm
      rw [hother]
      exact hK c' hc'
    · obtain ⟨rest, heq, hset⟩ := outstanding_setClient s hc
      obtain ⟨hnext, hwrites⟩ := Callback.next_lt s.store hn
      rw [heq, outstanding_issue, hset, CarpoolClient.outstanding, hclient,
        outstanding_eraseIdx hcallback, hn, List.filterMap_append, ← Multiset.coe_add, ← add_assoc,
        ← add_assoc, add_assoc (rest + _)]
      refine lt_of_replaced fun y hy => ?_
      rcases Multiset.mem_add.mp hy with hy | hy
      · exact hnext y hy
      · obtain ⟨w, hw, rfl⟩ := List.mem_map.mp hy
        exact hwrites w hw
  | readFailed c i =>
    obtain ⟨callback, hcallback, hrank⟩ := hev
    obtain ⟨n, hn⟩ := Option.ne_none_iff_exists'.mp hrank
    cases hstep
    have hc := hK.mem hcallback hrank
    refine ⟨fun c' hc' => ?_, ?_⟩
    · rw [clients_setClient_of_ne s _ (ne_of_mem_of_not_mem hc hc').symm]
      exact hK c' hc'
    · obtain ⟨rest, heq, hset⟩ := outstanding_setClient s hc
      rw [heq, hset, outstanding_eraseIdx hcallback, hn, ← add_assoc]
      exact lt_of_removed _ n
  | _ => exact absurd hev id

/-- Nothing else that happens starts anything, but for the taps. -/
theorem outstanding_of_idle {ev : CarpoolEvent} (hstarts : ¬ ev.Starts) (hev : ¬ s.Delivers ev)
    (hstep : s.step ev = some t) :
    t.store = s.store ∧ t.outbox = s.outbox ∧
      ∀ c, (t.clients c).outstanding = (s.clients c).outstanding := by
  cases ev with
  | land i => exact absurd True.intro hev
  | createCarpool _ _ _ | delete _ _ | blockOrUnfriend _ _ => exact absurd True.intro hstarts
  | fetchCurrentUser c _ | setOptions c _ _ _ | selectDestination c _ | addPassenger c _
  | fetchGroupsForCurrentUser c =>
    cases hstep
    exact ⟨rfl, rfl, clients_setClient_outstanding s _ rfl⟩
  | snapshot c user =>
    obtain ⟨-, rfl⟩ := step_snapshot hstep
    refine ⟨rfl, rfl, clients_setClient_outstanding s _ ?_⟩
    have hlisted : ((s.store.groups user).map Callback.listed).filterMap Callback.rank? = [] := by
      refine List.filterMap_eq_nil_iff.mpr fun callback hcallback => ?_
      obtain ⟨id, -, rfl⟩ := List.mem_map.mp hcallback
      rfl
    rw [CarpoolClient.outstanding, List.filterMap_append, hlisted, List.append_nil]
    rfl
  | progress c i =>
    obtain ⟨callback, client, hcallback, hclient, rfl⟩ := progress_spec hstep
    have hrank : callback.rank? = none := by
      by_contra hrank
      exact hev ⟨callback, hcallback, hrank⟩
    obtain ⟨hnext, hwrites⟩ := Callback.next_of_none s.store hrank
    rw [hwrites, issue_nil]
    refine ⟨rfl, rfl, clients_setClient_outstanding s _ ?_⟩
    rw [CarpoolClient.outstanding, hclient, List.filterMap_append, hnext, List.append_nil,
      outstanding_eraseIdx hcallback, hrank]
    exact (add_zero _).symm
  | readFailed c i =>
    cases hstep
    refine ⟨rfl, rfl, clients_setClient_outstanding s _ ?_⟩
    cases hcallback : (s.clients c).callbacks[i]? with
    | none => rw [List.eraseIdx_of_length_le (List.getElem?_eq_none_iff.mp hcallback)]
    | some callback =>
      have hrank : callback.rank? = none := by
        by_contra hrank
        exact hev ⟨callback, hcallback, hrank⟩
      rw [outstanding_eraseIdx hcallback, hrank]
      exact (add_zero _).symm

/-- A tap of the carpool screens asks for no removal. -/
theorem within_of_starts (hK : s.Within K) {ev : CarpoolEvent} (hstarts : ev.Starts)
    (hev : ∀ c user, ev ≠ .blockOrUnfriend c user) (hstep : s.step ev = some t) : t.Within K := by
  cases ev with
  | blockOrUnfriend c user => exact absurd rfl (hev c user)
  | createCarpool c uniquePassengers new =>
    obtain ⟨-, -, rfl | ⟨carpool, message, controller, -, rfl⟩⟩ := step_createCarpool hstep
    · exact hK
    · exact fun c' hc' => (clients_setClient_outstanding s { s.clients c with controller } rfl
        c').trans (hK c' hc')
  | delete c carpool =>
    obtain ⟨-, rfl⟩ := step_delete hstep
    exact fun c' hc' => (clients_setClient_outstanding s { s.clients c with
      controller := ((s.clients c).controller.delete (s.clients c).currentUser carpool).2 } rfl
        c').trans (hK c' hc')
  | _ => exact absurd hstarts id

end CarpoolSystem

/-! ### The service -/

/-- What can happen when carpool writes fail as well. -/
inductive FaultyEvent where
  | service (ev : ServiceEvent)
  /-- The `i`-th carpool write fails, and nothing comes of it. -/
  | failed (i : Nat)

/-- Somebody taps, and that is sent out. -/
def FaultyEvent.Starts : FaultyEvent → Prop
  | .service (.account ev) => ev.Starts
  | .service (.carpool ev) => ev.Starts
  | .failed _ => False

namespace Service
variable {s t : Service} {K : Finset CarpoolClientID}

/-- One event. The failure of a carpool write is printed or dropped,
`CarpoolController.swift:59`, `:124`; `UserController.swift:666`. -/
def faultyStep (s : Service) : FaultyEvent → Option Service
  | .service ev => s.step ev
  | .failed i =>
    (takeOut CarpoolInFlight.client s.rides.outbox i).map fun (_, rest) =>
      { s with rides := { s.rides with outbox := rest } }

/-- Something that was sent out is answered, or a removal moves on. -/
def Delivers (s : Service) : FaultyEvent → Prop
  | .service (.account ev) => ev.Delivers
  | .service (.carpool ev) => s.rides.Delivers ev
  | .failed _ => True

/-- The ranks of all that is left to do. -/
def outstanding (K : Finset CarpoolClientID) (s : Service) : Multiset ℕ :=
  s.toAccounts.outstanding + s.rides.outstanding K

/-- Nothing is in flight, and nobody has to do anything but to list carpools. -/
structure Settled (s : Service) : Prop where
  outbox : s.outbox = []
  signUps : s.signUps = []
  updates : s.updates = []
  rides : s.rides.outbox = []
  clients : ∀ c, (s.rides.clients c).outstanding = 0

private theorem removals_eq_nil {c : ClientID} {ev : AccountEvent}
    (h : ∀ op user, ev ≠ .relation (.call c op user)) : s.removals c ev = [] := by
  cases ev with
  | relation ev =>
    cases ev with
    | call c' op user =>
      have hc : c' ≠ c := fun hc => h op user (hc ▸ rfl)
      cases op <;> simp only [Accounts.removals, if_neg hc]
    | _ => rfl
  | _ => rfl

/-- So nobody else gets anything to do from an event of the accounts. -/
theorem clients_follow_le {ev : AccountEvent} {x : Accounts} {c : ClientID}
    (h : ∀ op user, ev ≠ .relation (.call c op user)) :
    ((s.follow ev x).clients c).outstanding ≤ (s.rides.clients c).outstanding := by
  simp only [follow, CarpoolClient.outstanding, removals_eq_nil h, List.append_nil]
  split
  · exact Multiset.zero_le _
  · exact le_rfl

/-- An event that is no tap leaves no more to do, and less where something is answered. Otherwise
what is stored stays. -/
theorem outstanding_step (hK : s.rides.Within K) {ev : FaultyEvent} (hstarts : ¬ ev.Starts)
    (hstep : s.faultyStep ev = some t) :
    t.rides.Within K ∧ NoMore (t.outstanding K) (s.outstanding K) ∧
      (s.Delivers ev → (t.outstanding K).IsDershowitzMannaLT (s.outstanding K)) ∧
      (¬ s.Delivers ev → t.users = s.users ∧ t.rides.store = s.rides.store) := by
  cases ev with
  | failed i =>
    obtain ⟨⟨x, rest⟩, hx, rfl⟩ := Option.map_eq_some_iff.mp hstep
    have hlt : (({ s.rides with outbox := rest } : CarpoolSystem).outstanding
        K).IsDershowitzMannaLT (s.rides.outstanding K) := by
      rw [CarpoolSystem.outstanding, CarpoolSystem.outstanding,
        ← coe_map_takeOut hx fun x => x.write.rank, add_right_comm _ ({x.write.rank} : Multiset ℕ)]
      exact lt_of_removed _ _
    have hall := isDershowitzMannaLT_add_left hlt s.toAccounts.outstanding
    exact ⟨hK, .inr hall, fun _ => hall, fun hev => absurd True.intro hev⟩
  | service ev =>
    cases ev with
    | account ev =>
      obtain ⟨x, hx, rfl⟩ := step_account hstep
      have hcall : ∀ c op user, ev ≠ .relation (.call c op user) := by
        rintro c op user rfl
        exact hstarts True.intro
      have hrides : (s.follow ev x).outstanding K ≤ s.rides.outstanding K :=
        CarpoolSystem.outstanding_le_of_clients rfl fun c => clients_follow_le (hcall c)
      have hwithin : (s.follow ev x).Within K := fun c hc =>
        Multiset.le_zero.mp ((clients_follow_le (hcall c)).trans (hK c hc).le)
      refine ⟨hwithin, ?_⟩
      by_cases hev : ev.Delivers
      · have hall := add_lt_of_lt_of_noMore (Accounts.outstanding_lt hev hx) (noMore_of_le hrides)
        exact ⟨.inr hall, fun _ => hall, fun hnot => absurd hev hnot⟩
      · obtain ⟨husers, hle⟩ := Accounts.outstanding_of_idle hstarts hev hx
        exact ⟨noMore_of_le (add_le_add hle hrides), fun h => absurd h hev, fun _ => ⟨husers, rfl⟩⟩
    | carpool ev =>
      obtain ⟨-, rides, hrides, rfl⟩ := step_carpool hstep
      by_cases hev : s.rides.Delivers ev
      · obtain ⟨hwithin, hlt⟩ := CarpoolSystem.outstanding_lt hK hev hrides
        have hall := isDershowitzMannaLT_add_left hlt s.toAccounts.outstanding
        exact ⟨hwithin, .inr hall, fun _ => hall, fun hnot => absurd hev hnot⟩
      · obtain ⟨hstore, houtbox, hclients⟩ := CarpoolSystem.outstanding_of_idle hstarts hev hrides
        refine ⟨fun c hc => (hclients c).trans (hK c hc), noMore_of_le (add_le_add_right ?_ _),
          fun h => absurd h hev, fun _ => ⟨rfl, hstore⟩⟩
        exact CarpoolSystem.outstanding_le_of_clients houtbox fun c => (hclients c).le

/-- A tap gives something to do to one client, at most. -/
theorem within_of_starts (hK : s.rides.Within K) {ev : FaultyEvent} (hstarts : ev.Starts)
    (hstep : s.faultyStep ev = some t) : ∃ K' : Finset CarpoolClientID, t.rides.Within K' := by
  cases ev with
  | failed i => exact absurd hstarts id
  | service ev =>
    cases ev with
    | account ev =>
      obtain ⟨x, hx, rfl⟩ := step_account hstep
      by_cases hcall : ∃ c op user, ev = .relation (.call c op user)
      · obtain ⟨c, op, user, rfl⟩ := hcall
        refine ⟨insert c K, fun c' hc' => ?_⟩
        rw [Finset.mem_insert, not_or] at hc'
        refine Multiset.le_zero.mp ((clients_follow_le fun op' user' heq => ?_).trans
          (hK c' hc'.2).le)
        cases heq
        exact hc'.1 rfl
      · exact ⟨K, fun c hc => Multiset.le_zero.mp ((clients_follow_le fun op user heq =>
          hcall ⟨c, op, user, heq⟩).trans (hK c hc).le)⟩
    | carpool ev =>
      obtain ⟨hoffers, rides, hrides, rfl⟩ := step_carpool hstep
      refine ⟨K, CarpoolSystem.within_of_starts hK hstarts ?_ hrides⟩
      rintro c user rfl
      exact hoffers

section Forever
variable {f : ℕ → Service} {e : ℕ → FaultyEvent}

private theorem exists_within (h₀ : (f 0).Initial)
    (hrun : ∀ n, (f n).faultyStep (e n) = some (f (n + 1))) (n : ℕ) :
    ∃ K : Finset CarpoolClientID, (f n).rides.Within K := by
  induction n with
  | zero =>
    refine ⟨∅, fun c _ => ?_⟩
    rw [h₀.rides.clients c]
    rfl
  | succ n ih =>
    obtain ⟨K, hK⟩ := ih
    by_cases hstarts : (e n).Starts
    · exact within_of_starts hK hstarts (hrun n)
    · exact ⟨K, (outstanding_step hK hstarts (hrun n)).1⟩

/-- In every infinite run in which nobody taps any more from some moment on, and in which, whenever
something is in flight, something is answered later, whatever fails: from some moment on nothing is
in flight, and what is stored does not change any more. -/
theorem service_settles (h₀ : (f 0).Initial)
    (hrun : ∀ n, (f n).faultyStep (e n) = some (f (n + 1))) {k : ℕ}
    (htaps : ∀ n ≥ k, ¬ (e n).Starts)
    (hanswered : ∀ n ≥ k, ¬ (f n).Settled → ∃ m ≥ n, (f m).Delivers (e m)) :
    ∃ N ≥ k, ∀ n ≥ N, (f n).Settled ∧ (f n).users = (f N).users ∧
      (f n).rides.store = (f N).rides.store := by
  obtain ⟨K, hK⟩ := exists_within h₀ hrun k
  have hwithin : ∀ n ≥ k, (f n).rides.Within K := by
    intro n hn
    induction n, hn using Nat.le_induction with
    | base => exact hK
    | succ n hn ih => exact (outstanding_step ih (htaps n hn) (hrun n)).1
  have hstep n (hn : n ≥ k) := outstanding_step (hwithin n hn) (htaps n hn) (hrun n)
  obtain ⟨N, hN, hnone⟩ := exists_forall_not_lt (fun n => (f n).outstanding K) fun n hn =>
    (hstep n hn).2.1
  have hquiet : ∀ n ≥ N, ¬ (f n).Delivers (e n) := fun n hn hev =>
    hnone n hn ((hstep n (hN.trans hn)).2.2.1 hev)
  refine ⟨N, hN, fun n hn => ⟨?_, ?_⟩⟩
  · by_contra hsettled
    obtain ⟨m, hm, hev⟩ := hanswered n (hN.trans hn) hsettled
    exact hquiet m (hn.trans hm) hev
  · induction n, hn using Nat.le_induction with
    | base => exact ⟨rfl, rfl⟩
    | succ n hn ih =>
      obtain ⟨husers, hstore⟩ := (hstep n (hN.trans hn)).2.2.2 (hquiet n hn)
      exact ⟨husers.trans ih.1, hstore.trans ih.2⟩

end Forever

/-- `a` saves a new place, which takes three writes; from then on the app is closed. -/
def savePlace (n : ℕ) : FaultyEvent :=
  ([.relation (.read (.fetchCurrentUser 0 "a")), .locate 0 ⟨1⟩ ⟨2⟩,
    .updateUserLocation 0 [⟨1⟩, ⟨2⟩], .landUpdate 0, .landUpdate 0, .landUpdate 0][n]?.map fun ev =>
      .service (.account ev)).getD (.service (.account (.stop 0)))

/-- The service after so many of these events. -/
def placeSaved : ℕ → Service
  | 0 => signedUp ["a"]
  | n + 1 => ((placeSaved n).faultyStep (savePlace n)).getD (placeSaved n)

/-- It is an infinite run. -/
theorem placeSaved_step (n : ℕ) :
    (placeSaved n).faultyStep (savePlace n) = some (placeSaved (n + 1)) := by
  match n with
  | 0 | 1 | 2 | 3 | 4 | 5 => rfl
  | n + 6 => rfl

private theorem placeSaved_clients (n : ℕ) (c : CarpoolClientID) :
    ((placeSaved n).rides.clients c).outstanding = 0 := by
  induction n with
  | zero => rfl
  | succ n ih =>
    have hevent : ∃ ev, savePlace n = .service (.account ev) ∧
        ∀ op user, ev ≠ .relation (.call c op user) := by
      match n with
      | 0 | 1 | 2 | 3 | 4 | 5 => exact ⟨_, rfl, fun op user h => by cases h⟩
      | n + 6 => exact ⟨.stop 0, rfl, fun op user h => by cases h⟩
    obtain ⟨ev, hev, hcall⟩ := hevent
    have hstep := placeSaved_step n
    rw [hev] at hstep
    obtain ⟨x, -, heq⟩ := step_account hstep
    rw [heq]
    exact Multiset.le_zero.mp ((clients_follow_le hcall).trans ih.le)

private theorem placeSaved_settled (n : ℕ) : (placeSaved (n + 6)).Settled := by
  induction n with
  | zero => exact ⟨rfl, rfl, rfl, rfl, placeSaved_clients 6⟩
  | succ n ih =>
    refine ⟨ih.outbox, ?_, ?_, ih.rides, placeSaved_clients _⟩
    · exact (congrArg (List.filter _) ih.signUps).trans rfl
    · exact (congrArg (List.map _) ih.updates).trans rfl

/-- The three writes are answered, and the document is not written any more. -/
theorem service_settles_placeSaved :
    ∃ N ≥ 3, ∀ n ≥ N, (placeSaved n).Settled ∧ (placeSaved n).users = (placeSaved N).users ∧
      (placeSaved n).rides.store = (placeSaved N).rides.store := by
  refine service_settles (f := placeSaved) (e := savePlace) (signedUp_initial ["a"]) placeSaved_step
    (fun n hn => ?_) fun n hn hsettled => ⟨n, le_rfl, ?_⟩
  · match n, hn with
    | 3, _ | 4, _ | 5, _ => exact id
    | n + 6, _ => exact id
  · match n, hn, hsettled with
    | 3, _, _ | 4, _, _ | 5, _, _ => exact True.intro
    | n + 6, _, hsettled => exact absurd (placeSaved_settled n) hsettled

end Service

end DriveTribe
