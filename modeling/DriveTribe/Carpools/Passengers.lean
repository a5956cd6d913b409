import DriveTribe.Carpools.Tracked

/-!
# Where passengers come from

Passengers are staged one by one, and nothing takes them off the stage but the end of the
process. A new carpool takes everybody who is staged. Once it is stored it only loses
passengers.
-/

namespace DriveTribe

open Base

private theorem CarpoolController.passengers_carpoolRead (self : CarpoolController)
    (answer : CarpoolAnswer) : (self.carpoolRead answer).passengers = self.passengers := by
  rw [carpoolRead]
  split <;> rfl

private theorem CarpoolController.passengers_carpoolDeleted (self : CarpoolController)
    (id : CarpoolID) :
    (self.carpoolDeleted id).passengers = self.passengers := by
  rw [carpoolDeleted]
  split <;> rfl

/-- Nor does a deletion, which writes no carpool either. -/
theorem CarpoolController.passengers_delete (self : CarpoolController) (currentUser : Option User)
    (carpool : Carpool) :
    (self.delete currentUser carpool).2.passengers = self.passengers ∧
      ∀ carpool', .setCarpool carpool' ∉ (self.delete currentUser carpool).1 := by
  unfold delete
  split
  · exact ⟨rfl, fun _ => List.not_mem_nil⟩
  · split
    · refine ⟨rfl, fun carpool' hmem => ?_⟩
      simp at hmem
    · split
      · exact ⟨rfl, fun _ => List.not_mem_nil⟩
      · refine ⟨rfl, fun carpool' hmem => ?_⟩
        simp at hmem

namespace CarpoolSystem

variable {s t : CarpoolSystem} {ev : CarpoolEvent}

/-! ### What is staged -/

/-- A client that keeps its stage. -/
theorem mem_passengers_setClient {c c' : CarpoolClientID} {client : CarpoolClient} {p : UserID}
    (hp : p ∈ ((s.setClient c' client).clients c).controller.passengers)
    (h : client.controller.passengers = (s.clients c').controller.passengers) :
    p ∈ (s.clients c).controller.passengers := by
  by_cases hc : c = c'
  · subst hc
    rw [clients_setClient_self, h] at hp
    exact hp
  · rw [clients_setClient_of_ne s client hc] at hp
    exact hp

private theorem mem_passengers_acknowledge {c c' : CarpoolClientID} {w : CarpoolWrite} {p : UserID}
    (hp : p ∈ ((s.acknowledge c' w).clients c).controller.passengers) :
    p ∈ (s.clients c).controller.passengers := by
  cases w with
  | deleteCarpool id =>
    exact mem_passengers_setClient hp (CarpoolController.passengers_carpoolDeleted ..)
  | setCarpool | addMessage | setGroup | deleteGroup | deleteNewMessage | removePassenger =>
    exact hp

private theorem mem_passengers_progress {c c' : CarpoolClientID} {i : Nat} {p : UserID}
    (h : s.progress c' i = some t) (hp : p ∈ (t.clients c).controller.passengers) :
    p ∈ (s.clients c).controller.passengers := by
  simp only [progress] at h
  split at h <;> cases h
  · exact mem_passengers_setClient hp rfl
  · exact mem_passengers_setClient hp (CarpoolController.passengers_carpoolRead ..)
  · exact mem_passengers_setClient hp rfl
  · exact mem_passengers_setClient hp rfl
  · exact mem_passengers_setClient (s := s) hp rfl

/-- Who is staged after a step was staged before, or has just been selected. -/
theorem passengers_step (h : step s ev = some t) {c : CarpoolClientID} {p : UserID}
    (hp : p ∈ (t.clients c).controller.passengers) :
    p ∈ (s.clients c).controller.passengers ∨ ev = .addPassenger c p := by
  cases ev with
  | addPassenger c' passenger =>
    cases h
    by_cases hc : c = c'
    · subst hc
      rw [clients_setClient_self] at hp
      rcases List.mem_append.mp hp with hp | hp
      · exact .inl hp
      · rw [List.mem_singleton.mp hp]
        exact .inr rfl
    · rw [clients_setClient_of_ne s _ hc] at hp
      exact .inl hp
  | fetchCurrentUser c' user | setOptions c' | selectDestination c' | readFailed c'
  | fetchGroupsForCurrentUser c' =>
    cases h
    exact .inl (mem_passengers_setClient hp rfl)
  | createCarpool c' uniquePassengers new =>
    obtain ⟨-, -, rfl | ⟨carpool, message, controller, hcreate, rfl⟩⟩ := step_createCarpool h
    · exact .inl hp
    · obtain ⟨destination, me, -, -, -, -, rfl⟩ :=
        CarpoolController.createCarpool_eq_some hcreate
      exact .inl (mem_passengers_setClient (s := s) hp rfl)
  | snapshot c' user =>
    obtain ⟨-, rfl⟩ := step_snapshot h
    exact .inl (mem_passengers_setClient hp rfl)
  | delete c' carpool =>
    obtain ⟨-, rfl⟩ := step_delete h
    have hkeeps := CarpoolController.passengers_delete (s.clients c').controller
      (s.clients c').currentUser carpool
    exact .inl (mem_passengers_setClient (s := s) hp hkeeps.1)
  | blockOrUnfriend c' user =>
    obtain ⟨me, -, -, rfl⟩ := step_blockOrUnfriend h
    exact .inl (mem_passengers_setClient hp rfl)
  | progress c' i => exact .inl (mem_passengers_progress h hp)
  | land i =>
    obtain ⟨x, rest, store, -, -, rfl⟩ := step_land h
    have hbefore := mem_passengers_acknowledge hp
    exact .inl hbefore

/-! ### What is sent out -/

private theorem setCarpool_issue {c : CarpoolClientID} {ws : List CarpoolWrite}
    (hset : ∀ carpool, .setCarpool carpool ∉ ws) {x : CarpoolInFlight} {carpool : Carpool}
    (hx : x ∈ (s.issue c ws).outbox) (hw : x.write = .setCarpool carpool) : x ∈ s.outbox := by
  rcases List.mem_append.mp hx with hx | hx
  · exact hx
  · obtain ⟨w, hmem, rfl⟩ := List.mem_map.mp hx
    have hw : w = .setCarpool carpool := hw
    rw [hw] at hmem
    exact absurd hmem (hset carpool)

private theorem setCarpool_acknowledge {c : CarpoolClientID} {w : CarpoolWrite}
    {x : CarpoolInFlight} {carpool : Carpool} (hx : x ∈ (s.acknowledge c w).outbox)
    (hw : x.write = .setCarpool carpool) : x ∈ s.outbox := by
  cases w with
  | setCarpool carpool' =>
    apply setCarpool_issue ?_ hx hw
    intro carpool'' hmem
    rw [CarpoolController.carpoolCreated_eq] at hmem
    obtain ⟨user, -, he⟩ := List.mem_map.mp hmem
    cases he
  | deleteCarpool | addMessage | setGroup | deleteGroup | deleteNewMessage | removePassenger =>
    exact hx

/-- A removal from common carpools sends out no new carpool. -/
theorem setCarpool_notMem_deleteUserFromCarpool (me user : UserID) (carpool carpool' : Carpool) :
    .setCarpool carpool' ∉ deleteUserFromCarpool me user carpool := by
  intro hmem
  simp only [deleteUserFromCarpool] at hmem
  split at hmem <;> simp only [List.mem_append, List.mem_flatMap] at hmem
  · obtain ⟨passager, -, hmem⟩ := hmem
    split at hmem <;> simp at hmem
  · rcases hmem with hmem | ⟨passager, -, hmem⟩ <;> split at hmem <;> simp at hmem

/-- A new carpool that is in flight after a step was in flight before, or has just been created
from what is staged. -/
theorem setCarpool_step (h : step s ev = some t) {x : CarpoolInFlight} {carpool : Carpool}
    (hx : x ∈ t.outbox) (hw : x.write = .setCarpool carpool) :
    x ∈ s.outbox ∨ ∃ uniquePassengers new me,
      ev = .createCarpool x.client uniquePassengers new ∧
      uniquePassengers.Perm (s.clients x.client).controller.passengers.dedup ∧
      (s.clients x.client).currentUser = some me ∧ carpool.driver = me.uuid ∧
      carpool.passengers = uniquePassengers := by
  cases ev with
  | addPassenger | fetchCurrentUser | setOptions | selectDestination | readFailed
  | fetchGroupsForCurrentUser =>
    cases h
    exact .inl hx
  | createCarpool c uniquePassengers new =>
    obtain ⟨hunique, -, rfl | ⟨carpool', message, controller, hcreate, rfl⟩⟩ :=
      step_createCarpool h
    · exact .inl hx
    · obtain ⟨destination, me, -, hme, rfl, -, -⟩ :=
        CarpoolController.createCarpool_eq_some hcreate
      rcases List.mem_append.mp hx with hx | hx
      · exact .inl hx
      · right
        obtain ⟨w, hmem, rfl⟩ := List.mem_map.mp hx
        have hw : w = .setCarpool carpool := hw
        rw [hw, CarpoolController.creationWrites, List.mem_cons, List.mem_singleton] at hmem
        rcases hmem with hmem | hmem
        · cases hmem
          exact ⟨uniquePassengers, new, me, rfl, hunique, hme, rfl, rfl⟩
        · cases hmem
  | snapshot c user =>
    obtain ⟨-, rfl⟩ := step_snapshot h
    exact .inl hx
  | delete c carpool' =>
    obtain ⟨-, rfl⟩ := step_delete h
    have hdelete := CarpoolController.passengers_delete (s.clients c).controller
      (s.clients c).currentUser carpool'
    exact .inl (setCarpool_issue (s := s) hdelete.2 hx hw)
  | blockOrUnfriend c user =>
    obtain ⟨me, -, -, rfl⟩ := step_blockOrUnfriend h
    exact .inl hx
  | progress c i =>
    simp only [step, progress] at h
    split at h <;> cases h
    · exact .inl hx
    · exact .inl hx
    · exact .inl hx
    · exact .inl hx
    · next me user carpool' _ =>
      left
      exact setCarpool_issue (s := s)
        (setCarpool_notMem_deleteUserFromCarpool me user carpool') hx hw
  | land i =>
    obtain ⟨y, rest, store, hy, -, rfl⟩ := step_land h
    have hin := setCarpool_acknowledge hx hw
    exact .inl (takeOut_subset hy hin)

/-! ### What is stored -/

/-- Only a landing changes the store. -/
theorem store_step (h : step s ev = some t) :
    t.store = s.store ∨ ∃ x ∈ s.outbox, x.write.land s.store = some t.store := by
  by_cases hland : ∃ i, ev = .land i
  · obtain ⟨i, rfl⟩ := hland
    obtain ⟨x, hx, hstore⟩ := store_land h
    exact .inr ⟨x, List.mem_of_getElem? hx, hstore⟩
  · exact .inl (store_eq_of_step (fun i hi => hland ⟨i, hi⟩) h)

end CarpoolSystem

end DriveTribe
