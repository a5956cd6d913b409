import DriveTribe.Carpools.Membership
import DriveTribe.Carpools.Passengers

/-!
# What the creation screens let through

`CarpoolSettingsViewController.swift:26–52` asks for a title and sets the mode and the type by a
segment each; `createCarpool` adds the two coordinates of the destination. Nothing else writes a
carpool, so every document that is stored decodes, and every carpool a client holds is under
exactly one of the two segments of its list, `CarpoolController.swift:237–247`.
-/

namespace DriveTribe

open Base

/-- A carpool as the creation screens make it. -/
structure Carpool.WellFormed (carpool : Carpool) : Prop where
  title : carpool.title ≠ ""
  mode : carpool.mode = "work" ∨ carpool.mode = "play"
  type : carpool.type = "carpool" ∨ carpool.type = "meetup"
  destination : carpool.destination.length = 2

private theorem Carpool.WellFormed.keep {carpool : Carpool} (h : carpool.WellFormed)
    (passengers : List UserID) : WellFormed { carpool with passengers } :=
  ⟨h.title, h.mode, h.type, h.destination⟩

/-- The segue from the settings: only with a title, which is staged with both segments.
`CarpoolSettingsViewController.swift:26–50`. -/
def CarpoolSettingsViewController.shouldPerformSegue (self : CarpoolController)
    (text : Option String) (modeSegment typeSegment : Nat) : Option CarpoolController :=
  match text with
  | none => none
  | some text =>
    if text.isEmpty then none else some (self.setOptions text modeSegment typeSegment)

namespace CarpoolController

/-- The options a carpool is created with. -/
structure OptionsValid (controller : CarpoolController) : Prop where
  title : controller.title ≠ ""
  mode : controller.mode = "work" ∨ controller.mode = "play"
  type : controller.type = "carpool" ∨ controller.type = "meetup"

/-- The options stay, and no carpool comes in. -/
structure Within (before after : CarpoolController) : Prop where
  options : after.title = before.title ∧ after.mode = before.mode ∧ after.type = before.type
  carpools : ∀ x ∈ after.carpools, x ∈ before.carpools

variable {self self' : CarpoolController}

private theorem optionsValid_setOptions (self : CarpoolController) {title : String} (h : title ≠ "")
    (modeSegment typeSegment : Nat) :
    (self.setOptions title modeSegment typeSegment).OptionsValid where
  title := h
  mode := by
    by_cases hmode : modeSegment = 0
    · exact .inl (if_pos hmode)
    · exact .inr (if_neg hmode)
  type := by
    by_cases htype : typeSegment = 0
    · exact .inl (if_pos htype)
    · exact .inr (if_neg htype)

private theorem optionsValid_of_segue {text : String} {modeSegment typeSegment : Nat}
    (h : CarpoolSettingsViewController.shouldPerformSegue self (some text) modeSegment
      typeSegment ≠ none) : (self.setOptions text modeSegment typeSegment).OptionsValid := by
  apply optionsValid_setOptions
  rintro rfl
  exact h rfl

/-- Options that stay are still valid. -/
theorem OptionsValid.within (h : self.OptionsValid) (hwithin : self.Within self') :
    self'.OptionsValid where
  title := hwithin.options.1 ▸ h.title
  mode := hwithin.options.2.1 ▸ h.mode
  type := hwithin.options.2.2 ▸ h.type

private theorem within_removeFirst {id : CarpoolID} {carpools : List Carpool}
    (h : removeFirst self.carpools id = some carpools) : self.Within { self with carpools } := by
  obtain ⟨i, -, rfl⟩ := Option.map_eq_some_iff.mp h
  exact ⟨⟨rfl, rfl, rfl⟩, fun _ hx => (List.eraseIdx_sublist ..).subset hx⟩

private theorem within_delete (self : CarpoolController) (currentUser : Option User)
    (carpool : Carpool) :
    self.Within (self.delete currentUser carpool).2 := by
  have hself : self.Within self := ⟨⟨rfl, rfl, rfl⟩, fun _ hx => hx⟩
  unfold delete
  split
  · exact hself
  · split
    · exact hself
    · split
      · exact hself
      · next hremoved => exact within_removeFirst hremoved

private theorem within_carpoolDeleted (self : CarpoolController) (id : CarpoolID) :
    self.Within (self.carpoolDeleted id) := by
  unfold carpoolDeleted
  split
  · exact ⟨⟨rfl, rfl, rfl⟩, fun _ hx => hx⟩
  · next hremoved => exact within_removeFirst hremoved

private theorem carpoolRead_toDocument (self : CarpoolController) (carpool : Carpool) :
    self.carpoolRead (.snapshot (some carpool.toDocument)) =
      { self with carpools := self.carpools ++ [carpool] } := by
  have hread : CarpoolAnswer.carpool? (.snapshot (some carpool.toDocument)) = some carpool :=
    Carpool.ofDocument_toDocument carpool
  rw [carpoolRead, hread]

private theorem wellFormed_newCarpool (h : self.OptionsValid) (destination : MapItem)
    (driver : UserID) (uniquePassengers : List UserID) (uuid : CarpoolID) :
    (self.newCarpool destination driver uniquePassengers uuid).WellFormed :=
  ⟨h.title, h.mode, h.type, rfl⟩

private theorem sortCarpoolsByWorkPlay_perm (h : ∀ x ∈ self.carpools, x.WellFormed) :
    (self.sortCarpoolsByWorkPlay.work ++ self.sortCarpoolsByWorkPlay.play).Perm self.carpools := by
  have hplay : self.carpools.filter (fun carpool => decide (carpool.mode = "play")) =
      self.carpools.filter (fun carpool => !decide (carpool.mode = "work")) := by
    apply List.filter_congr
    intro x hx
    rcases (h x hx).mode with hmode | hmode <;> rw [hmode] <;> decide
  simp only [sortCarpoolsByWorkPlay, hplay]
  exact List.filter_append_perm ..

end CarpoolController

/-- The copy of a carpool that a callback carries. -/
def Callback.carpool? : Callback → Option Carpool
  | .listedAnswer carpool | .removalAnswer _ _ carpool => some carpool
  | .listed _ | .removal _ _ | .removalCarpool _ _ _ => none

/-- The options are valid, and what the client holds is well formed. -/
structure CarpoolClient.WellFormed (client : CarpoolClient) : Prop where
  options : client.controller.OptionsValid
  carpools : ∀ x ∈ client.controller.carpools, x.WellFormed
  callbacks : ∀ x ∈ client.callbacks, ∀ carpool ∈ x.carpool?, carpool.WellFormed

namespace CarpoolSystem

/-- Options are only set through the settings screen. -/
def FromSettings (s : CarpoolSystem) : CarpoolEvent → Prop
  | .setOptions c title modeSegment typeSegment =>
    CarpoolSettingsViewController.shouldPerformSegue (s.clients c).controller (some title)
      modeSegment typeSegment ≠ none
  | _ => True

instance (s : CarpoolSystem) : ∀ ev, Decidable (s.FromSettings ev)
  | .setOptions c title modeSegment typeSegment => inferInstanceAs (Decidable
      (CarpoolSettingsViewController.shouldPerformSegue (s.clients c).controller (some title)
        modeSegment typeSegment ≠ none))
  | .fetchCurrentUser _ _ | .selectDestination _ _ | .addPassenger _ _ | .createCarpool _ _ _
  | .fetchGroupsForCurrentUser _ | .snapshot _ _ | .delete _ _ | .blockOrUnfriend _ _
  | .progress _ _ | .readFailed _ _ | .land _ => .isTrue True.intro

/-- All that is held, in flight or stored is well formed, and stored under its own id. -/
structure WellFormed (s : CarpoolSystem) : Prop where
  clients : ∀ c, (s.clients c).WellFormed
  outbox : ∀ x ∈ s.outbox, ∀ carpool, x.write = .setCarpool carpool → carpool.WellFormed
  stored : ∀ {id d}, s.store.carpools id = some d →
    ∃ carpool : Carpool, d = carpool.toDocument ∧ carpool.uuid = id ∧ carpool.WellFormed

section Step
variable {s t : CarpoolSystem} {c : CarpoolClientID} {client : CarpoolClient} {ev : CarpoolEvent}

/-- A client may be replaced by a well-formed one. -/
theorem WellFormed.setClient (h : s.WellFormed) (hclient : client.WellFormed) :
    (s.setClient c client).WellFormed where
  clients c' := by
    by_cases hc : c' = c
    · subst hc
      rw [clients_setClient_self]
      exact hclient
    · rw [clients_setClient_of_ne s client hc]
      exact h.clients c'
  outbox := h.outbox
  stored := h.stored

/-- Writes that create nothing may be issued. -/
theorem WellFormed.issue (h : s.WellFormed) {ws : List CarpoolWrite}
    (hws : ∀ carpool, .setCarpool carpool ∈ ws → carpool.WellFormed) :
    (s.issue c ws).WellFormed where
  clients := h.clients
  outbox x hx carpool hw := by
    rcases List.mem_append.mp hx with hx | hx
    · exact h.outbox x hx carpool hw
    · obtain ⟨w, hmem, rfl⟩ := List.mem_map.mp hx
      have hw : w = .setCarpool carpool := hw
      exact hws carpool (hw ▸ hmem)
  stored := h.stored

/-- What is read of a stored carpool is well formed. -/
theorem WellFormed.carpool? (h : s.WellFormed) {id : CarpoolID} {carpool : Carpool}
    (hread : s.carpool? id = some carpool) : carpool.WellFormed := by
  obtain ⟨d, hd, hdec⟩ := Option.bind_eq_some_iff.mp hread
  obtain ⟨carpool', rfl, -, hwell⟩ := h.stored hd
  rw [Carpool.ofDocument_toDocument, Option.some.injEq] at hdec
  exact hdec ▸ hwell

/-- A client that has let go of some carpools is well formed if its callbacks are. -/
theorem WellFormed.within (h : s.WellFormed)
    (hwithin : (s.clients c).controller.Within client.controller)
    (hcallbacks : ∀ x ∈ client.callbacks, ∀ carpool ∈ x.carpool?, carpool.WellFormed) :
    client.WellFormed where
  options := (h.clients c).options.within hwithin
  carpools x hx := (h.clients c).carpools x (hwithin.carpools x hx)
  callbacks := hcallbacks

/-- Callbacks that carry nothing may be added. -/
theorem WellFormed.callbacks (h : s.WellFormed) {new : List Callback}
    (hnew : ∀ x ∈ new, ∀ carpool ∈ x.carpool?, carpool.WellFormed) (i : Nat) :
    ∀ x ∈ (s.clients c).callbacks.eraseIdx i ++ new, ∀ carpool ∈ x.carpool?,
      carpool.WellFormed := by
  intro x hx
  rcases List.mem_append.mp hx with hx | hx
  · exact (h.clients c).callbacks x ((List.eraseIdx_sublist ..).subset hx)
  · exact hnew x hx

/-- A callback that moves on leaves the client well formed. -/
theorem WellFormed.progress (h : s.WellFormed) {i : Nat} (hstep : s.progress c i = some t) :
    t.WellFormed := by
  have hself : (s.clients c).controller.Within (s.clients c).controller :=
    ⟨⟨rfl, rfl, rfl⟩, fun _ hx => hx⟩
  have hold : ∀ x ∈ (s.clients c).callbacks.eraseIdx i, ∀ carpool ∈ x.carpool?,
      carpool.WellFormed :=
    fun x hx => (h.clients c).callbacks x ((List.eraseIdx_sublist ..).subset hx)
  simp only [CarpoolSystem.progress] at hstep
  split at hstep
  · cases hstep
  · next id _ =>
    cases hstep
    refine h.setClient (h.within hself (h.callbacks ?_ i))
    intro x hx carpool hcarpool
    obtain ⟨read, hread, rfl⟩ := List.mem_map.mp hx
    obtain rfl := Option.some.inj hcarpool
    exact h.carpool? (Option.mem_toList.mp hread)
  · next carpool hget =>
    cases hstep
    have hread : carpool.WellFormed :=
      (h.clients c).callbacks _ (List.mem_of_getElem? hget) carpool rfl
    refine h.setClient ⟨?_, ?_, hold⟩
    · rw [CarpoolController.carpoolRead_toDocument]
      exact ⟨(h.clients c).options.title, (h.clients c).options.mode, (h.clients c).options.type⟩
    · intro x hx
      rw [CarpoolController.carpoolRead_toDocument] at hx
      rcases List.mem_append.mp hx with hx | hx
      · exact (h.clients c).carpools x hx
      · exact List.mem_singleton.mp hx ▸ hread
  · next me user _ =>
    cases hstep
    refine h.setClient (h.within hself (h.callbacks ?_ i))
    intro x hx carpool hcarpool
    obtain ⟨id, -, rfl⟩ := List.mem_map.mp hx
    cases hcarpool
  · next me user id _ =>
    cases hstep
    refine h.setClient (h.within hself (h.callbacks ?_ i))
    intro x hx carpool hcarpool
    obtain ⟨read, hread, rfl⟩ := List.mem_map.mp hx
    obtain rfl := Option.some.inj hcarpool
    exact h.carpool? (Option.mem_toList.mp hread)
  · next me user carpool _ =>
    cases hstep
    refine WellFormed.issue (h.setClient ?_) fun carpool' hmem => ?_
    · exact h.within hself hold
    · exact absurd hmem (setCarpool_notMem_deleteUserFromCarpool me user carpool carpool')

/-- So does an acknowledgement. -/
theorem WellFormed.acknowledge (h : s.WellFormed) (w : CarpoolWrite) :
    (s.acknowledge c w).WellFormed := by
  cases w with
  | setCarpool carpool =>
    apply h.issue
    intro carpool' hmem
    rw [CarpoolController.carpoolCreated_eq] at hmem
    obtain ⟨user, -, hset⟩ := List.mem_map.mp hmem
    cases hset
  | deleteCarpool id =>
    exact h.setClient (h.within (CarpoolController.within_carpoolDeleted ..)
      (h.clients c).callbacks)
  | addMessage | setGroup | deleteGroup | deleteNewMessage | removePassenger => exact h

/-- What a landing stores is well formed. -/
theorem WellFormed.land (h : s.WellFormed) {i : Nat} (hstep : s.step (.land i) = some t) :
    t.WellFormed := by
  obtain ⟨x, rest, store, hx, hland, rfl⟩ := step_land hstep
  apply WellFormed.acknowledge
  refine ⟨h.clients, fun y hy => h.outbox y (takeOut_subset hx hy), fun {id d} hd => ?_⟩
  rcases carpools_land hland hd with ⟨carpool, hw, hid, rfl⟩ | hd | ⟨d₀, user, hd₀, rfl⟩
  · exact ⟨carpool, rfl, hid, h.outbox x (takeOut_mem hx) carpool hw⟩
  · exact h.stored hd
  · obtain ⟨carpool, rfl, hid, hwell⟩ := h.stored hd₀
    exact ⟨_, Carpool.removePassenger_toDocument carpool user, hid, hwell.keep _⟩

/-- Every step keeps everything well formed, if options are only set through the settings. -/
theorem WellFormed.step (h : s.WellFormed) (hev : s.FromSettings ev)
    (hstep : s.step ev = some t) : t.WellFormed := by
  cases ev with
  | setOptions c title modeSegment typeSegment =>
    cases hstep
    have hoptions := CarpoolController.optionsValid_of_segue hev
    exact h.setClient ⟨hoptions, (h.clients c).carpools, (h.clients c).callbacks⟩
  | fetchCurrentUser c user =>
    cases hstep
    exact h.setClient ⟨(h.clients c).options, (h.clients c).carpools, (h.clients c).callbacks⟩
  | fetchGroupsForCurrentUser c =>
    cases hstep
    exact h.setClient ⟨(h.clients c).options, (h.clients c).carpools, (h.clients c).callbacks⟩
  | selectDestination c destination =>
    cases hstep
    exact h.setClient (h.within ⟨⟨rfl, rfl, rfl⟩, fun _ hx => hx⟩ (h.clients c).callbacks)
  | addPassenger c passenger =>
    cases hstep
    exact h.setClient (h.within ⟨⟨rfl, rfl, rfl⟩, fun _ hx => hx⟩ (h.clients c).callbacks)
  | readFailed c i =>
    cases hstep
    refine h.setClient (h.within ⟨⟨rfl, rfl, rfl⟩, fun _ hx => hx⟩ fun x hx => ?_)
    exact (h.clients c).callbacks x ((List.eraseIdx_sublist ..).subset hx)
  | createCarpool c uniquePassengers new =>
    obtain ⟨-, -, rfl | ⟨carpool, message, controller, hcreate, rfl⟩⟩ := step_createCarpool hstep
    · exact h
    · obtain ⟨destination, me, -, -, rfl, -, rfl⟩ :=
        CarpoolController.createCarpool_eq_some hcreate
      have hcreated : WellFormed { s with
          created := s.created ++ [(s.clients c).controller.newCarpool destination me.uuid
            uniquePassengers new.uuid]
          used := s.used ++ [new.uuid] } := ⟨h.clients, h.outbox, h.stored⟩
      refine WellFormed.issue (hcreated.setClient ?_) fun carpool' hmem => ?_
      · exact h.within ⟨⟨rfl, rfl, rfl⟩, fun _ hx => hx⟩ (h.clients c).callbacks
      · rw [CarpoolController.creationWrites, List.mem_cons, List.mem_singleton] at hmem
        rcases hmem with hmem | hmem
        · cases hmem
          exact CarpoolController.wellFormed_newCarpool (h.clients c).options ..
        · cases hmem
  | snapshot c user =>
    obtain ⟨-, rfl⟩ := step_snapshot hstep
    have hnone : (s.clients c).controller.Within (s.clients c).controller.groupsChanged :=
      ⟨⟨rfl, rfl, rfl⟩, fun _ hx => (List.not_mem_nil hx).elim⟩
    refine h.setClient (h.within hnone fun x hx carpool hcarpool => ?_)
    rcases List.mem_append.mp hx with hx | hx
    · exact (h.clients c).callbacks x hx carpool hcarpool
    · obtain ⟨id, -, rfl⟩ := List.mem_map.mp hx
      cases hcarpool
  | delete c carpool =>
    obtain ⟨-, rfl⟩ := step_delete hstep
    have hkeeps := CarpoolController.passengers_delete (s.clients c).controller
      (s.clients c).currentUser carpool
    refine WellFormed.issue (h.setClient ?_) fun carpool' hmem => ?_
    · exact h.within (CarpoolController.within_delete ..) (h.clients c).callbacks
    · exact absurd hmem (hkeeps.2 carpool')
  | blockOrUnfriend c user =>
    obtain ⟨me, -, -, rfl⟩ := step_blockOrUnfriend hstep
    refine h.setClient ⟨(h.clients c).options, (h.clients c).carpools, ?_⟩
    intro x hx carpool hcarpool
    rcases List.mem_append.mp hx with hx | hx
    · exact (h.clients c).callbacks x hx carpool hcarpool
    · rw [List.mem_singleton.mp hx] at hcarpool
      cases hcarpool
  | progress c i => exact h.progress hstep
  | land i => exact h.land hstep

end Step

private theorem Initial.wellFormed {s : CarpoolSystem} (h : s.Initial) : s.WellFormed where
  clients c := by
    rw [h.clients c]
    exact ⟨⟨by decide, .inl rfl, .inl rfl⟩, fun _ hx => (List.not_mem_nil hx).elim,
      fun _ hx => (List.not_mem_nil hx).elim⟩
  outbox x hx := by
    rw [h.outbox] at hx
    cases hx
  stored {id d} hd := by
    rw [h.carpools id] at hd
    cases hd

/-- In every run every stored carpool decodes, under its own id, with a title, a mode, a type and
two coordinates that the screens offer; and sorting the carpools a client holds puts every one
of them under exactly one of the two segments of its list. -/
theorem stored_and_listed {s₀ s : CarpoolSystem} {es : List CarpoolEvent} (h₀ : s₀.Initial)
    (hrun : run step s₀ es = some s) (hev : AllSteps step FromSettings s₀ es) :
    (∀ id d, s.store.carpools id = some d →
      ∃ carpool, Carpool.ofDocument d = some carpool ∧ carpool.uuid = id ∧ carpool.WellFormed) ∧
    ∀ c, ((s.clients c).controller.sortCarpoolsByWorkPlay.work ++
      (s.clients c).controller.sortCarpoolsByWorkPlay.play).Perm
        (s.clients c).controller.carpools := by
  have hwell : s.WellFormed :=
    run_invariant_of_steps (fun _ _ _ hs hc ht => hs.step hc ht) h₀.wellFormed hev hrun
  refine ⟨fun id d hd => ?_, fun c => ?_⟩
  · obtain ⟨carpool, rfl, hid, hcarpool⟩ := hwell.stored hd
    exact ⟨carpool, Carpool.ofDocument_toDocument carpool, hid, hcarpool⟩
  · exact CarpoolController.sortCarpoolsByWorkPlay_perm (hwell.clients c).carpools

/-- The driver has named the carpool and set it to Play. -/
theorem stored_and_listed_named :
    ∃ s, run step unused (.setOptions 0 "t" 1 0 :: giveRide) = some s ∧
      (∀ id d, s.store.carpools id = some d → ∃ carpool, Carpool.ofDocument d = some carpool ∧
        carpool.uuid = id ∧ carpool.WellFormed) ∧
      ∀ c, ((s.clients c).controller.sortCarpoolsByWorkPlay.work ++
        (s.clients c).controller.sortCarpoolsByWorkPlay.play).Perm
          (s.clients c).controller.carpools := by
  obtain ⟨s, hrun, -⟩ := exists_run_of_any step unused (.setOptions 0 "t" 1 0 :: giveRide)
    (fun _ => true) (by decide)
  exact ⟨s, hrun, stored_and_listed unused_initial hrun (by decide)⟩

end CarpoolSystem

end DriveTribe
