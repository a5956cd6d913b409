import DriveTribe.Carpools.Flow

/-!
# What a creation flow is meant to do

A flow starts at Options and ends at Save. It should create one carpool, of the destination
and the friends selected in it, and enter it in the groups of its driver and these friends.
The code stages both in the controller and clears only the destination, and reads the
staged friends again when the carpool is acknowledged; so this holds exactly where nothing
is staged but what the flow itself has selected.
-/

namespace DriveTribe

open Base

/-- A flow in which Save was tapped: what was selected in it at the first tap, and the
carpools it has created. -/
structure SavedFlow where
  chosen : Option MapItem
  selected : List UserID
  carpools : List Carpool
  deriving DecidableEq, Repr

/-- The screens and controllers, with a record of what has been selected in the current flow
and of what every saved flow has done. No step of the app reads the record. -/
structure Creation extends Flow where
  /-- The destination selected in the current flow. -/
  chosen : Option MapItem := none
  /-- The friends left selected on the current Add Friends. -/
  selected : List UserID := []
  /-- The saved flows, latest first. -/
  flows : List SavedFlow := []
  acknowledged : List Carpool := []
  /-- Every write so far. -/
  written : List CarpoolWrite := []
  deriving DecidableEq, Repr

/-- The flow has created one carpool, of the destination and the friends selected in it. -/
def SavedFlow.Right (f : SavedFlow) : Prop :=
  ∃ carpool destination, f.carpools = [carpool] ∧ f.chosen = some destination ∧
    carpool.destinationName = destination.name.getD "Destination Unknown" ∧
    carpool.destination = [destination.latitude, destination.longitude] ∧
    ∀ user, user ∈ carpool.passengers ↔ user ∈ f.selected

namespace Screen

/-- Add Friends before the first tap on Save. -/
def Unsaved : Screen → Prop
  | .addFriends _ _ saved => saved = false
  | _ => False

/-- Add Friends after it. -/
def Saved : Screen → Prop
  | .addFriends _ _ saved => saved = true
  | _ => False

/-- A flow has been started and not been saved. -/
def InFlow : Screen → Prop
  | .options | .destination => True
  | x => x.Unsaved

instance : ∀ x : Screen, Decidable x.Unsaved
  | .carpoolList | .options | .destination => .isFalse id
  | .addFriends _ _ saved => inferInstanceAs (Decidable (saved = false))

private theorem Unsaved.inFlow {x : Screen} (h : x.Unsaved) : x.InFlow := by
  cases x with
  | carpoolList => exact h.elim
  | options | destination => exact True.intro
  | addFriends _ _ _ => exact h

end Screen

/-- The carpool a write creates. -/
def CarpoolWrite.carpool? : CarpoolWrite → Option Carpool
  | .setCarpool carpool => some carpool
  | _ => none

namespace Creation

/-- Record an event of the flow; `flow` and `ws` are what it has led to. -/
def record (x : Creation) (flow : Flow) (ws : List CarpoolWrite) (ev : FlowEvent) : Creation :=
  let y := { x with toFlow := flow, written := x.written ++ ws }
  match ev, x.screen with
  | .start, _ => { y with chosen := none, selected := [] }
  | .selectDestination destination, _ => { y with chosen := some destination }
  | .toFriends, _ => { y with selected := [] }
  | .select row cell, .addFriends friends green _ =>
    match friends[row]? with
    | none => y
    | some friend =>
      if cell ∉ green then { y with selected := friend.uuid :: x.selected }
      else { y with selected := x.selected.filter (· ≠ friend.uuid) }
  | .save _ _, screen =>
    let carpools := ws.filterMap CarpoolWrite.carpool?
    if screen.Unsaved then { y with flows := ⟨x.chosen, x.selected, carpools⟩ :: x.flows }
    else
      { y with flows := x.flows.modifyHead fun f => { f with carpools := f.carpools ++ carpools } }
  | .acknowledged i, _ => { y with acknowledged := x.acknowledged ++ (x.creates[i]?).toList }
  | _, _ => y

/-- The id a save draws is new. -/
def Fresh (x : Creation) : FlowEvent → Prop
  | .save _ new => ∀ f ∈ x.flows, ∀ carpool ∈ f.carpools, carpool.uuid ≠ new.uuid
  | _ => True

instance (x : Creation) : ∀ ev, Decidable (x.Fresh ev)
  | .save _ _ => by unfold Fresh; infer_instance
  | .start | .next _ _ _ | .selectDestination _ | .toFriends | .friendsFetched _ | .select _ _
  | .dismissed | .back | .acknowledged _ => .isTrue True.intro

/-- One event with its record. -/
def step (x : Creation) (ev : FlowEvent) : Option Creation :=
  if x.Fresh ev then (x.toFlow.step ev).map fun (flow, ws) => x.record flow ws ev else none

/-- A process that was just started, with somebody logged in. -/
structure Initial (x : Creation) : Prop where
  user : ∃ me, x = { currentUser := some me }

/-- The group entries of the flow's carpool, once it was acknowledged, are those of its driver
and of the friends selected in the flow. -/
def Entered (x : Creation) (f : SavedFlow) : Prop :=
  ∀ carpool ∈ f.carpools, carpool ∈ x.acknowledged → ∀ user,
    .setGroup user carpool.uuid ∈ x.written ↔ user = carpool.driver ∨ user ∈ f.selected

/-- Every saved flow has done what it is meant to. -/
def FlowsRight (x : Creation) : Prop := ∀ f ∈ x.flows, f.Right ∧ x.Entered f

/-- Nothing is staged but what the flow itself has selected: at the first tap on Save its own
destination and the friends left selected in it, and at the acknowledgement nobody but the
members of the carpool. -/
def StagesOwn (x : Creation) : FlowEvent → Prop
  | .save _ _ =>
    x.screen.Unsaved →
      x.chosen ≠ none ∧ ∀ user ∈ x.controller.passengers, user ∈ x.selected
  | .acknowledged i =>
    ∀ carpool ∈ x.creates[i]?, ∀ user ∈ x.controller.passengers, carpool.IsMember user
  | _ => True

instance (x : Creation) : ∀ ev, Decidable (x.StagesOwn ev)
  | .save _ _ | .acknowledged _ => by unfold StagesOwn; infer_instance
  | .start | .next _ _ _ | .selectDestination _ | .toFriends | .friendsFetched _ | .select _ _
  | .dismissed | .back => .isTrue True.intro

/-- How the screens and what is staged belong together: the friends left selected are
staged, the destination selected in the flow is staged until Save, and Save finds a
destination at its first tap and none afterwards. -/
structure Staged (x : Creation) : Prop where
  selected : ∀ user ∈ x.selected, user ∈ x.controller.passengers
  chosen : ∀ item, x.chosen = some item → x.screen.InFlow → x.controller.destination = some item
  ready : x.screen.Unsaved → x.controller.destination.isSome
  done : x.screen.Saved → x.controller.destination = none

/-- What holds in every run. -/
structure Inv (x : Creation) : Prop extends Staged x where
  driver : ∃ me, x.currentUser = some me ∧
    ∀ f ∈ x.flows, ∀ carpool ∈ f.carpools, carpool.driver = me.uuid
  passengers : ∀ f ∈ x.flows, ∀ carpool ∈ f.carpools, ∀ user ∈ carpool.passengers,
    user ∈ x.controller.passengers
  distinct : ∀ f ∈ x.flows, ∀ carpool ∈ f.carpools, ∀ g ∈ x.flows, ∀ carpool' ∈ g.carpools,
    carpool.uuid = carpool'.uuid → carpool = carpool'
  creates : ∀ carpool ∈ x.creates,
    (∃ f ∈ x.flows, carpool ∈ f.carpools) ∧ carpool ∉ x.acknowledged
  creates_nodup : x.creates.Nodup
  acknowledged : ∀ carpool ∈ x.acknowledged, ∃ f ∈ x.flows, carpool ∈ f.carpools
  written : ∀ user id, .setGroup user id ∈ x.written → ∃ carpool ∈ x.acknowledged, carpool.uuid = id

/-- Moving between screens and staging creates nothing, writes nothing, and keeps everybody
staged. -/
structure Restaged (x y : Creation) : Prop where
  currentUser : y.currentUser = x.currentUser
  creates : y.creates = x.creates
  flows : y.flows = x.flows
  acknowledged : y.acknowledged = x.acknowledged
  written : y.written = x.written
  passengers : ∀ user ∈ x.controller.passengers, user ∈ y.controller.passengers

/-- An enabled event draws a new id and is recorded with what it has led to. -/
theorem step_eq_some {x y : Creation} {ev : FlowEvent} (h : x.step ev = some y) :
    x.Fresh ev ∧ ∃ flow ws, x.toFlow.step ev = some (flow, ws) ∧ y = x.record flow ws ev := by
  simp only [step, Option.ite_none_right_eq_some] at h
  obtain ⟨hfresh, h⟩ := h
  obtain ⟨⟨flow, ws⟩, hflow, rfl⟩ := Option.map_eq_some_iff.mp h
  exact ⟨hfresh, flow, ws, hflow, rfl⟩

/-- Staging keeps screens and controller together. -/
theorem Staged.step {x y : Creation} (h : x.Staged) {ev : FlowEvent}
    (hstep : x.step ev = some y) (hev : ev.IsStaging) : y.Staged ∧ x.Restaged y := by
  obtain ⟨-, flow, ws, hflow, rfl⟩ := step_eq_some hstep
  obtain ⟨⟨currentUser, controller, screen, creates⟩, chosen, selected, flows, acknowledged,
    written⟩ := x
  obtain ⟨hselected, hchosen, hready, hdone⟩ := h
  have hnil : written ++ [] = written := List.append_nil _
  cases ev with
  | save _ _ | acknowledged _ => exact hev.elim
  | start =>
    cases screen <;> cases hflow
    exact ⟨⟨nofun, nofun, nofun, nofun⟩, ⟨rfl, rfl, rfl, rfl, hnil, fun _ => id⟩⟩
  | next title modeSegment typeSegment =>
    cases screen <;> simp only [Flow.step, reduceCtorEq] at hflow
    split at hflow <;> cases hflow <;>
      exact ⟨⟨hselected, fun item hi _ => hchosen item hi True.intro, nofun, nofun⟩,
        ⟨rfl, rfl, rfl, rfl, hnil, fun _ => id⟩⟩
  | selectDestination destination =>
    cases screen <;> cases hflow
    exact ⟨⟨hselected, fun item hi _ => hi, nofun, nofun⟩,
      ⟨rfl, rfl, rfl, rfl, hnil, fun _ => id⟩⟩
  | toFriends =>
    cases screen <;> simp only [Flow.step, reduceCtorEq] at hflow
    split at hflow
    · next hdest =>
      cases hflow
      exact ⟨⟨nofun, fun item hi _ => hchosen item hi True.intro, fun _ => hdest, nofun⟩,
        ⟨rfl, rfl, rfl, rfl, hnil, fun _ => id⟩⟩
    · cases hflow
      exact ⟨⟨nofun, fun item hi _ => hchosen item hi True.intro, nofun, nofun⟩,
        ⟨rfl, rfl, rfl, rfl, hnil, fun _ => id⟩⟩
  | friendsFetched friends =>
    cases screen <;> cases hflow <;>
      exact ⟨⟨hselected, hchosen, hready, hdone⟩, ⟨rfl, rfl, rfl, rfl, hnil, fun _ => id⟩⟩
  | select row cell =>
    cases screen with
    | carpoolList | options | destination => cases hflow
    | addFriends friends green saved =>
      simp only [Flow.step] at hflow
      obtain ⟨friend, hfriend, hflow⟩ := Option.map_eq_some_iff.mp hflow
      simp only [record, hfriend]
      split at hflow <;> cases hflow
      · next hcell =>
        rw [if_pos hcell]
        refine ⟨⟨fun user hu => ?_, hchosen, hready, hdone⟩,
          ⟨rfl, rfl, rfl, rfl, hnil, fun _ => List.mem_append_left _⟩⟩
        rcases List.mem_cons.mp hu with rfl | hu
        · exact List.mem_append_right _ (List.mem_singleton_self _)
        · exact List.mem_append_left _ (hselected user hu)
      · next hcell =>
        -- Deselecting takes nobody off the staged passengers.
        rw [if_neg hcell]
        exact ⟨⟨fun user hu => hselected user (List.mem_filter.mp hu).1, hchosen, hready, hdone⟩,
          ⟨rfl, rfl, rfl, rfl, hnil, fun _ => id⟩⟩
  | dismissed =>
    cases screen with
    | carpoolList | options | destination => cases hflow
    | addFriends friends green saved =>
      cases saved <;> cases hflow
      exact ⟨⟨hselected, nofun, nofun, nofun⟩, ⟨rfl, rfl, rfl, rfl, hnil, fun _ => id⟩⟩
  | back =>
    cases screen with
    | carpoolList => cases hflow
    | options =>
      cases hflow
      exact ⟨⟨hselected, nofun, nofun, nofun⟩, ⟨rfl, rfl, rfl, rfl, hnil, fun _ => id⟩⟩
    | destination =>
      cases hflow
      exact ⟨⟨hselected, fun item hi _ => hchosen item hi True.intro, nofun, nofun⟩,
        ⟨rfl, rfl, rfl, rfl, hnil, fun _ => id⟩⟩
    | addFriends friends green saved =>
      cases saved <;> cases hflow
      exact ⟨⟨hselected, fun item hi _ => hchosen item hi rfl, nofun, nofun⟩,
        ⟨rfl, rfl, rfl, rfl, hnil, fun _ => id⟩⟩

/-- The first tap on Save creates the staged carpool; a further tap does nothing. -/
theorem step_save {x y : Creation} (h : x.Inv) {uniquePassengers : List UserID} {new : NewIDs}
    (hstep : x.step (.save uniquePassengers new) = some y) :
    (x.screen.Unsaved ∧ ∃ item me carpool message friends green,
      x.controller.destination = some item ∧ x.currentUser = some me ∧
      carpool = x.controller.newCarpool item me.uuid uniquePassengers new.uuid ∧
      (∀ user, user ∈ carpool.passengers ↔ user ∈ x.controller.passengers) ∧
      (∀ f ∈ x.flows, ∀ other ∈ f.carpools, other.uuid ≠ carpool.uuid) ∧
      y = { x with
        controller := { x.controller with destination := none }
        screen := .addFriends friends green true
        creates := x.creates ++ [carpool]
        flows := ⟨x.chosen, x.selected, [carpool]⟩ :: x.flows
        written := x.written ++ CarpoolController.creationWrites carpool message }) ∨
    (¬ x.screen.Unsaved ∧ y = x) := by
  obtain ⟨hfresh, flow, ws, hflow, rfl⟩ := step_eq_some hstep
  obtain ⟨me, hme, -⟩ := h.driver
  cases hs : x.screen with
  | carpoolList | options | destination => simp only [Flow.step, hs, reduceCtorEq] at hflow
  | addFriends friends green saved =>
    simp only [Flow.step, hs, Option.ite_none_right_eq_some] at hflow
    obtain ⟨hperm, hflow⟩ := hflow
    have hmem : ∀ user, user ∈ uniquePassengers ↔ user ∈ x.controller.passengers :=
      fun user => hperm.mem_iff.trans List.mem_dedup
    cases saved with
    | false =>
      have hunsaved : x.screen.Unsaved := by rw [hs]; exact rfl
      obtain ⟨item, hitem⟩ := Option.isSome_iff_exists.mp (h.ready hunsaved)
      simp only [CarpoolController.createCarpool, hitem, hme, Option.some.injEq,
        Prod.mk.injEq] at hflow
      obtain ⟨rfl, rfl⟩ := hflow
      let carpool := x.controller.newCarpool item me.uuid uniquePassengers new.uuid
      refine .inl ⟨rfl, item, me, carpool, CarpoolController.firstMessage carpool (some me) new,
        friends, green, hitem, hme, rfl, hmem, hfresh, ?_⟩
      simp only [record, if_pos hunsaved, CarpoolController.creationWrites, List.filterMap_cons,
        CarpoolWrite.carpool?, List.filterMap_nil, hme]
      rfl
    | true =>
      have hsaved : x.screen.Saved := by rw [hs]; exact rfl
      have hunsaved : ¬ x.screen.Unsaved := by
        rw [hs]
        intro h
        cases h
      simp only [CarpoolController.createCarpool, h.done hsaved, Option.some.injEq,
        Prod.mk.injEq] at hflow
      obtain ⟨rfl, rfl⟩ := hflow
      have hflows : (x.flows.modifyHead fun f => { f with carpools := f.carpools }) = x.flows := by
        cases x.flows <;> rfl
      refine .inr ⟨hs ▸ hunsaved, ?_⟩
      simp only [record, if_neg hunsaved, List.filterMap_nil, hflows, List.append_nil, ← hs]

/-- An acknowledgement enters the carpool in the groups of whoever is staged by then. -/
theorem step_acknowledged {x y : Creation} {i : Nat} (hstep : x.step (.acknowledged i) = some y) :
    ∃ carpool, x.creates[i]? = some carpool ∧
      y = { x with
        creates := x.creates.eraseIdx i
        acknowledged := x.acknowledged ++ [carpool]
        written := x.written ++ (x.controller.recipients x.currentUser).map fun user =>
          .setGroup user carpool.uuid } := by
  obtain ⟨-, flow, ws, hflow, rfl⟩ := step_eq_some hstep
  obtain ⟨carpool, hget, hflow⟩ := Option.map_eq_some_iff.mp hflow
  simp only [Prod.mk.injEq] at hflow
  obtain ⟨rfl, rfl⟩ := hflow
  refine ⟨carpool, hget, ?_⟩
  simp only [record, hget, Option.toList_some, CarpoolController.carpoolCreated_eq]

private theorem Inv.restaged {x y : Creation} (h : x.Inv) (hstaged : y.Staged)
    (hxy : x.Restaged y) :
    y.Inv := by
  obtain ⟨hcurrentUser, hcreates, hflows, hacknowledged, hwritten, hpassengers⟩ := hxy
  refine ⟨hstaged, ?_, ?_, ?_, ?_, ?_, ?_, ?_⟩
  · rw [hcurrentUser, hflows]
    exact h.driver
  · rw [hflows]
    exact fun f hf carpool hc user hu => hpassengers user (h.passengers f hf carpool hc user hu)
  · rw [hflows]
    exact h.distinct
  · rw [hcreates, hflows, hacknowledged]
    exact h.creates
  · rw [hcreates]
    exact h.creates_nodup
  · rw [hacknowledged, hflows]
    exact h.acknowledged
  · rw [hwritten, hacknowledged]
    exact h.written

/-- Save preserves what holds in every run. -/
theorem Inv.save {x y : Creation} (h : x.Inv) {uniquePassengers : List UserID} {new : NewIDs}
    (hstep : x.step (.save uniquePassengers new) = some y) : y.Inv := by
  rcases step_save h hstep with ⟨-, item, me, carpool, message, friends, green, -, hme, hcarpool,
    hpassengers, hnew, rfl⟩ | ⟨-, rfl⟩
  swap
  · exact h
  have hunknown : ∀ f ∈ x.flows, carpool ∉ f.carpools := fun f hf hc => hnew f hf carpool hc rfl
  obtain ⟨me', hme', hdriver⟩ := h.driver
  obtain rfl : me' = me := by rwa [hme', Option.some.injEq] at hme
  refine ⟨⟨h.selected, nofun, nofun, fun _ => rfl⟩, ⟨me', hme', ?_⟩, ?_, ?_, ?_, ?_, ?_, ?_⟩
  · rintro f hf other hother
    rcases List.mem_cons.mp hf with rfl | hf
    · rw [List.mem_singleton.mp hother, hcarpool]
      rfl
    · exact hdriver f hf other hother
  · rintro f hf other hother user hu
    rcases List.mem_cons.mp hf with rfl | hf
    · rw [List.mem_singleton.mp hother] at hu
      exact (hpassengers user).mp hu
    · exact h.passengers f hf other hother user hu
  · rintro f hf other hother g hg other' hother' heq
    rcases List.mem_cons.mp hf with rfl | hf <;> rcases List.mem_cons.mp hg with rfl | hg
    · rw [List.mem_singleton.mp hother, List.mem_singleton.mp hother']
    · rw [List.mem_singleton.mp hother] at heq
      exact absurd heq.symm (hnew g hg other' hother')
    · rw [List.mem_singleton.mp hother'] at heq
      exact absurd heq (hnew f hf other hother)
    · exact h.distinct f hf other hother g hg other' hother' heq
  · intro other hother
    rcases List.mem_append.mp hother with hother | hother
    · obtain ⟨⟨f, hf, hc⟩, hack⟩ := h.creates other hother
      exact ⟨⟨f, List.mem_cons_of_mem _ hf, hc⟩, hack⟩
    · rw [List.mem_singleton.mp hother]
      refine ⟨⟨_, List.mem_cons_self, List.mem_singleton_self _⟩, fun hack => ?_⟩
      obtain ⟨f, hf, hc⟩ := h.acknowledged carpool hack
      exact hunknown f hf hc
  · refine List.nodup_append.mpr ⟨h.creates_nodup, List.nodup_singleton _, ?_⟩
    rintro other hother _ hc rfl
    obtain ⟨⟨f, hf, hc'⟩, -⟩ := h.creates other hother
    rw [List.mem_singleton.mp hc] at hc'
    exact hunknown f hf hc'
  · intro other hother
    obtain ⟨f, hf, hc⟩ := h.acknowledged other hother
    exact ⟨f, List.mem_cons_of_mem _ hf, hc⟩
  · intro user id hmem
    rcases List.mem_append.mp hmem with hmem | hmem
    · exact h.written user id hmem
    · simp only [CarpoolController.creationWrites, List.mem_cons, reduceCtorEq, List.not_mem_nil,
        or_self] at hmem

/-- An acknowledgement preserves what holds in every run. -/
theorem Inv.acknowledge {x y : Creation} (h : x.Inv) {i : Nat}
    (hstep : x.step (.acknowledged i) = some y) : y.Inv := by
  obtain ⟨carpool, hget, rfl⟩ := step_acknowledged hstep
  have hlt : i < x.creates.length := (List.getElem?_eq_some_iff.mp hget).1
  obtain ⟨hflow, -⟩ := h.creates carpool (List.mem_of_getElem? hget)
  refine ⟨⟨h.selected, h.chosen, h.ready, h.done⟩, h.driver, h.passengers, h.distinct, ?_, ?_, ?_,
    ?_⟩
  · intro other hother
    obtain ⟨hother', hack⟩ := h.creates other (List.mem_of_mem_eraseIdx hother)
    refine ⟨hother', fun hmem => ?_⟩
    rcases List.mem_append.mp hmem with hmem | hmem
    · exact hack hmem
    · obtain ⟨j, hj, hother⟩ := List.mem_eraseIdx_iff_getElem?.mp hother
      rw [List.mem_singleton.mp hmem, ← hget] at hother
      exact hj ((List.getElem?_inj hlt h.creates_nodup).mp hother.symm).symm
  · exact h.creates_nodup.eraseIdx i
  · intro other hother
    rcases List.mem_append.mp hother with hother | hother
    · exact h.acknowledged other hother
    · rw [List.mem_singleton.mp hother]
      exact hflow
  · intro user id hmem
    rcases List.mem_append.mp hmem with hmem | hmem
    · obtain ⟨other, hother, hid⟩ := h.written user id hmem
      exact ⟨other, List.mem_append_left _ hother, hid⟩
    · obtain ⟨_, -, heq⟩ := List.mem_map.mp hmem
      cases heq
      exact ⟨carpool, List.mem_append_right _ (List.mem_singleton_self _), rfl⟩

/-- Every event preserves what holds in every run. -/
theorem Inv.step {x y : Creation} {ev : FlowEvent} (h : x.Inv) (hstep : x.step ev = some y) :
    y.Inv := by
  cases ev with
  | save uniquePassengers new => exact h.save hstep
  | acknowledged i => exact h.acknowledge hstep
  | start | next _ _ _ | selectDestination _ | toFriends | friendsFetched _ | select _ _
  | dismissed | back =>
    obtain ⟨hstaged, hxy⟩ := h.toStaged.step hstep True.intro
    exact h.restaged hstaged hxy

/-- A process that was just started satisfies the invariant. -/
theorem Initial.inv {x : Creation} (h : x.Initial) : x.Inv := by
  obtain ⟨me, rfl⟩ := h
  exact ⟨⟨nofun, nofun, nofun, nofun⟩, ⟨me, rfl, nofun⟩, nofun, nofun, nofun, List.nodup_nil,
    nofun, nofun⟩

/-! ### Where a flow goes right -/

/-- Save does what it is meant to exactly if the flow has selected a destination and nobody
is staged but the friends left selected. -/
theorem flowsRight_save_iff {x y : Creation} (h : x.Inv) (hright : x.FlowsRight)
    {uniquePassengers : List UserID} {new : NewIDs}
    (hstep : x.step (.save uniquePassengers new) = some y) :
    y.FlowsRight ↔ x.StagesOwn (.save uniquePassengers new) := by
  rcases step_save h hstep with ⟨hunsaved, item, me, carpool, message, friends, green, hitem, -,
    hcarpool, hpassengers, hnew, rfl⟩ | ⟨hsaved, rfl⟩
  swap
  · exact iff_of_true hright fun hunsaved => absurd hunsaved hsaved
  constructor
  · intro hy _
    obtain ⟨⟨carpool', destination, heq, hchosen, -, -, hselected⟩, -⟩ := hy _ List.mem_cons_self
    obtain rfl : carpool = carpool' := List.head_eq_of_cons_eq heq
    refine ⟨?_, fun user hu => (hselected user).mp ((hpassengers user).mpr hu)⟩
    exact Option.ne_none_iff_exists'.mpr ⟨destination, hchosen⟩
  · intro hown f hf
    obtain ⟨hchosen, hselected⟩ := hown hunsaved
    rcases List.mem_cons.mp hf with rfl | hf
    · refine ⟨?_, ?_⟩
      · obtain ⟨destination, hdest⟩ := Option.ne_none_iff_exists'.mp hchosen
        have hstaged := h.chosen destination hdest hunsaved.inFlow
        rw [hitem, Option.some.injEq] at hstaged
        subst hstaged
        refine ⟨carpool, item, rfl, hdest, ?_, ?_, fun user => (hpassengers user).trans
          ⟨hselected user, h.selected user⟩⟩
        · rw [hcarpool]
          rfl
        · rw [hcarpool]
          rfl
      · intro other hother hack
        rw [List.mem_singleton.mp hother] at hack
        obtain ⟨f, hf, hc⟩ := h.acknowledged carpool hack
        exact absurd rfl (hnew f hf carpool hc)
    · obtain ⟨hf', hentered⟩ := hright f hf
      refine ⟨hf', fun other hother hack user => ?_⟩
      rw [← hentered other hother hack user]
      simp only [CarpoolController.creationWrites, List.mem_append, List.mem_cons, reduceCtorEq,
        List.not_mem_nil, or_false]

/-- The group entries an acknowledgement writes are the right ones exactly if nobody is
staged by then but members of the carpool. -/
theorem entered_recipients_iff {x : Creation} (h : x.Inv) {f : SavedFlow} (hf : f ∈ x.flows)
    (hright : f.Right) {carpool : Carpool} (hc : carpool ∈ f.carpools) :
    (∀ user, user ∈ x.controller.recipients x.currentUser ↔
        user = carpool.driver ∨ user ∈ f.selected) ↔
      ∀ user ∈ x.controller.passengers, carpool.IsMember user := by
  obtain ⟨me, hme, hdriver⟩ := h.driver
  obtain ⟨carpool', -, heq, -, -, -, hselected⟩ := hright
  obtain rfl : carpool = carpool' := by
    rw [heq] at hc
    exact List.mem_singleton.mp hc
  have hrecipients : ∀ user, user ∈ x.controller.recipients x.currentUser ↔
      user = carpool.driver ∨ user ∈ x.controller.passengers := by
    intro user
    rw [CarpoolController.recipients, hme, hdriver f hf carpool hc]
    exact List.mem_cons
  constructor
  · intro hall user hu
    rcases (hall user).mp ((hrecipients user).mpr (.inr hu)) with hu | hu
    · exact .inl hu
    · exact .inr ((hselected user).mpr hu)
  · intro hmember user
    rw [hrecipients]
    refine or_congr_right' fun hne => ⟨fun hu => ?_, fun hu => ?_⟩
    · exact (hselected user).mp ((hmember user hu).resolve_left hne)
    · exact h.passengers f hf carpool hc user ((hselected user).mpr hu)

/-- An acknowledgement does what it is meant to exactly if nobody is staged by then but
members of the carpool. -/
theorem flowsRight_acknowledged_iff {x y : Creation} (h : x.Inv) (hright : x.FlowsRight) {i : Nat}
    (hstep : x.step (.acknowledged i) = some y) :
    y.FlowsRight ↔ x.StagesOwn (.acknowledged i) := by
  obtain ⟨carpool, hget, rfl⟩ := step_acknowledged hstep
  obtain ⟨⟨f, hf, hc⟩, hack⟩ := h.creates carpool (List.mem_of_getElem? hget)
  -- Nothing was written under the id of the carpool before.
  have hfirst : ∀ user, .setGroup user carpool.uuid ∉ x.written := by
    intro user hmem
    obtain ⟨other, hother, hid⟩ := h.written user carpool.uuid hmem
    obtain ⟨g, hg, hother'⟩ := h.acknowledged other hother
    rw [h.distinct g hg other hother' f hf carpool hc hid] at hother
    exact hack hother
  have hown : x.StagesOwn (.acknowledged i) ↔
      ∀ user ∈ x.controller.passengers, carpool.IsMember user := by
    simp only [StagesOwn, hget, Option.mem_def, Option.some.injEq, forall_eq']
  rw [hown, ← entered_recipients_iff h hf (hright f hf).1 hc]
  constructor
  · intro hy user
    have hentered := (hy f hf).2 carpool hc
      (List.mem_append_right _ (List.mem_singleton_self _)) user
    rw [← hentered]
    simp only [List.mem_append, hfirst user, false_or, List.mem_map, CarpoolWrite.setGroup.injEq,
      and_true, exists_eq_right]
  · intro hrecipients g hg
    refine ⟨(hright g hg).1, fun other hother hmem user => ?_⟩
    rcases List.mem_append.mp hmem with hmem | hmem
    · have hne : other.uuid ≠ carpool.uuid := by
        intro hid
        rw [h.distinct g hg other hother f hf carpool hc hid] at hmem
        exact hack hmem
      rw [← (hright g hg).2 other hother hmem user]
      simp only [List.mem_append, List.mem_map, CarpoolWrite.setGroup.injEq, Ne.symm hne, and_false,
        exists_false, or_false]
    · obtain rfl := List.mem_singleton.mp hmem
      have hselected : user ∈ g.selected ↔ user ∈ f.selected := by
        obtain ⟨c, -, hgc, -, -, -, hgs⟩ := (hright g hg).1
        obtain ⟨c', -, hfc, -, -, -, hfs⟩ := (hright f hf).1
        rw [hgc] at hother
        rw [hfc] at hc
        rw [← hgs user, ← hfs user, ← List.mem_singleton.mp hother, ← List.mem_singleton.mp hc]
      rw [hselected, ← hrecipients user]
      simp only [List.mem_append, hfirst user, false_or, List.mem_map, CarpoolWrite.setGroup.injEq,
        and_true, exists_eq_right]

/-- One event leaves every saved flow right exactly if it stages nothing but the own. -/
theorem flowsRight_step_iff {x y : Creation} (h : x.Inv) (hright : x.FlowsRight) {ev : FlowEvent}
    (hstep : x.step ev = some y) : y.FlowsRight ↔ x.StagesOwn ev := by
  cases ev with
  | save uniquePassengers new => exact flowsRight_save_iff h hright hstep
  | acknowledged i => exact flowsRight_acknowledged_iff h hright hstep
  | start | next _ _ _ | selectDestination _ | toFriends | friendsFetched _ | select _ _
  | dismissed | back =>
    obtain ⟨-, hxy⟩ := h.toStaged.step hstep True.intro
    refine iff_of_true (fun f hf => ?_) True.intro
    rw [hxy.flows] at hf
    obtain ⟨hf', hentered⟩ := hright f hf
    refine ⟨hf', fun carpool hc hack user => ?_⟩
    rw [hxy.acknowledged] at hack
    rw [hxy.written]
    exact hentered carpool hc hack user

/-- In a run of the process, every saved flow does what it is meant to exactly if each tap on
Save and each acknowledgement finds nothing staged but what belongs to its own flow. -/
theorem flowsRight_iff {x : Creation} (h : x.Initial) (es : List FlowEvent) :
    AllStates step FlowsRight x es ↔ AllSteps step StagesOwn x es := by
  have hright : x.FlowsRight := by
    obtain ⟨me, rfl⟩ := h.user
    exact nofun
  exact allStates_iff_allSteps (fun _ _ _ hi ht => hi.step ht)
    (fun _ _ _ hi hp ht => flowsRight_step_iff hi hp ht) h.inv hright es

/-- `a` is logged in, and the process was just started. -/
def started : Creation := { currentUser := some (User.signedUp "a") }

/-- It is the first state of a run. -/
theorem started_initial : started.Initial := ⟨⟨_, rfl⟩⟩

/-- A place to go to. -/
def airport : MapItem := ⟨some "Airport", ⟨0⟩, ⟨0⟩⟩

/-- From the list of carpools to Add Friends, where `b` is listed. -/
def toAddFriends : List FlowEvent :=
  [.start, .next "t" 0 0, .selectDestination airport, .toFriends,
    .friendsFetched [User.signedUp "b"]]

/-- The condition holds where `b` is selected, Save is tapped twice, and the write of the
carpool is acknowledged. -/
theorem flowsRight_saved_twice :
    (run step started (toAddFriends ++ [.select 0 0, .save ["b"] ⟨"x", "m", "t"⟩,
      .save ["b"] ⟨"y", "n", "t"⟩, .dismissed, .acknowledged 0])).isSome ∧
    AllStates step FlowsRight started (toAddFriends ++ [.select 0 0,
      .save ["b"] ⟨"x", "m", "t"⟩, .save ["b"] ⟨"y", "n", "t"⟩, .dismissed, .acknowledged 0]) :=
  ⟨by decide, (flowsRight_iff started_initial _).mpr (by decide)⟩

/-- A friend who was selected and deselected becomes a passenger. -/
theorem not_flowsRight :
    ¬ ∀ (x : Creation) (es : List FlowEvent), x.Initial → AllStates step FlowsRight x es := by
  intro hall
  let carpool := CarpoolController.newCarpool { title := "t" } airport "a" ["b"] "x"
  obtain ⟨y, hrun, hy⟩ := exists_run_of_any step started
    (toAddFriends ++ [.select 0 0, .select 0 0, .save ["b"] ⟨"x", "m", "t"⟩])
    (fun y => y.flows = [⟨some airport, [], [carpool]⟩]) (by decide)
  have hright := allStates_last (hall started _ started_initial) hrun
  obtain ⟨⟨carpool', -, heq, -, -, -, hselected⟩, -⟩ :=
    hright ⟨some airport, [], [carpool]⟩ (by simp only [of_decide_eq_true hy, List.mem_singleton])
  rw [← List.head_eq_of_cons_eq heq] at hselected
  exact List.not_mem_nil ((hselected "b").mp (by decide))

end Creation

end DriveTribe
