import DriveTribe.Carpools.Table
import DriveTribe.Sessions.Leaving

/-!
# Rows that come back

`CarpoolListViewController.swift:39–118`, `CarpoolController.swift:237–247`, `:323–368`. A carpool
is held in four lists: the one the listener fills, the two it is sorted into when a load completes,
and the rows. A swipe takes it out of the rows and deletes the own group entry, which the listener
is told of before the deletion is sent. The first list starts anew then; the other two are as they
were until all its reads have been answered.
-/

namespace DriveTribe

open Base

/-- A deletion whose answer `delete` waits for: of the carpool by its driver, or of the own group
entry by anybody else. `CarpoolController.swift:328`, `:362`. -/
structure Deletion where
  id : CarpoolID
  driver : Bool
  deriving DecidableEq, Repr

/-- The deletion that is waited for when these writes are sent out. -/
def Deletion.of? : List CarpoolWrite → Option Deletion
  | .deleteCarpool id :: _ => some ⟨id, true⟩
  | [.deleteGroup _ id] => some ⟨id, false⟩
  | _ => none

/-- What Firestore hands to the main queue. -/
inductive SwipeCallback where
  | snapshot (ids : List CarpoolID)
  | deleted (deletion : Deletion) (error : Option String)
  deriving DecidableEq, Repr

/-- The screen with what Firestore holds for it. `view` are the groups that the listener was told of
last, or is about to be told of, and `callbacks` run in this order. The last two are history. -/
structure Swipes where
  table : CarpoolTable
  view : Option (List CarpoolID) := none
  callbacks : List SwipeCallback := []
  deletions : List Deletion := []
  /-- The carpools whose deletion was acknowledged. -/
  acknowledged : List CarpoolID := []
  /-- The list that the last load has sorted. -/
  sorted : List Carpool := []

/-- What happens next. -/
inductive SwipeEvent where
  /-- The groups of the user change, whoever has changed them. -/
  | groups (ids : List CarpoolID)
  /-- The server answers the `i`-th deletion. -/
  | answered (i : Nat) (error : Option String)
  | callback
  /-- Anything else on the screen. -/
  | screen (ev : CarpoolTableEvent)

/-- The event is a callback of the listener's snapshots or of a deletion. -/
def CarpoolTableEvent.IsCallback : CarpoolTableEvent → Bool
  | .delivered (.snapshot _) | .carpoolDeleted _ => true
  | _ => false

namespace CarpoolTable

/-- The next block on the main queue completes a load. -/
def loads (s : CarpoolTable) : CarpoolTableEvent → Bool
  | .runMain => match s.main with
    | .ok _ :: _ => true
    | _ => false
  | _ => false

/-- The deletion that an event waits for the answer to. -/
def deletion? (s : CarpoolTable) : CarpoolTableEvent → Option Deletion
  | .commitDelete row => (s.dataSource[row]?).bind fun carpool =>
    Deletion.of? (s.listener.controller.delete s.currentUser carpool).1
  | _ => none

/-- The carpools that are on the screen or that the screen is filled from. -/
def held (s : CarpoolTable) : List Carpool :=
  s.dataSource ++ (s.listener.controller.work ++ s.listener.controller.play)

end CarpoolTable

namespace Swipes

/-- The listener's groups without this one, where it was among them: what it is told of at once,
`sync_engine.cc:196–206`. -/
def withdrawn (view : Option (List CarpoolID)) (id : CarpoolID) : Option (List CarpoolID) :=
  view.bind fun ids => if id ∈ ids then some (ids.filter (· ≠ id)) else none

/-- Both kinds of deletion take the group of the carpool away. -/
def await (s : Swipes) (deletion : Deletion) : Swipes :=
  let waiting := { s with deletions := s.deletions ++ [deletion] }
  match withdrawn s.view deletion.id with
  | none => waiting
  | some ids => { waiting with view := some ids, callbacks := s.callbacks ++ [.snapshot ids] }

/-- The completion of a deletion. `CarpoolController.swift:328–340`, `:362–366`. -/
def deleted (s : Swipes) (deletion : Deletion) : Option String → Swipes
  | some _ => s
  | none =>
    let controller := if deletion.driver then
        s.table.listener.controller.carpoolDeleted deletion.id
      else s.table.listener.controller
    { s with
      table := { s.table with listener := { s.table.listener with controller } }
      acknowledged := s.acknowledged ++ [deletion.id] }

/-- One event. -/
def step (s : Swipes) : SwipeEvent → Option Swipes
  | .groups ids => some { s with view := some ids, callbacks := s.callbacks ++ [.snapshot ids] }
  | .answered i error =>
    (s.deletions[i]?).map fun deletion =>
      { s with
        deletions := s.deletions.eraseIdx i
        callbacks := s.callbacks ++ [.deleted deletion error] }
  | .callback =>
    match s.callbacks with
    | [] => none
    | .snapshot ids :: callbacks =>
      (s.table.step (.delivered (.snapshot ids))).map fun table => { s with table, callbacks }
    | .deleted deletion error :: callbacks => some ({ s with callbacks }.deleted deletion error)
  | .screen ev =>
    if ev.IsCallback then none
    else (s.table.step ev).map fun table =>
      let moved := { s with
        table
        sorted := if s.table.loads ev then s.table.listener.controller.carpools else s.sorted }
      ((s.table.deletion? ev).map moved.await).getD moved

/-- No carpool whose deletion was acknowledged is on the screen, or where the screen is filled
from. -/
def NoReturn (s : Swipes) : Prop := ∀ id ∈ s.acknowledged, ¬ Listed s.table.held id

instance (s : Swipes) : Decidable s.NoReturn :=
  inferInstanceAs (Decidable (∀ id ∈ s.acknowledged, _))

/-- The list has no carpool with this id for work or play. -/
def Without (carpools : List Carpool) (id : CarpoolID) : Prop :=
  ∀ carpool ∈ carpools, carpool.uuid = id → carpool.mode ≠ "work" ∧ carpool.mode ≠ "play"

/-- An acknowledgement comes when the last load has sorted a list without the carpool, and a load
sorts a list without the carpools whose deletion was acknowledged before. -/
def Settled (s : Swipes) : SwipeEvent → Prop
  | .callback => ∀ deletion, s.callbacks.head? = some (.deleted deletion none) →
    Without s.sorted deletion.id
  | .screen ev => s.table.loads ev → ∀ id ∈ s.acknowledged,
    Without s.table.listener.controller.carpools id
  | _ => True

end Swipes

/-! ### What changes the lists -/

/-- A list with no more carpools has none that the other has not. -/
theorem Listed.mono {carpools carpools' : List Carpool} {id : CarpoolID}
    (h : carpools ⊆ carpools') (hlisted : Listed carpools id) : Listed carpools' id := by
  obtain ⟨carpool, hmem, hid⟩ := hlisted
  exact ⟨carpool, h hmem, hid⟩

namespace CarpoolController

private theorem removeFirst_subset {carpools carpools' : List Carpool} {uuid : CarpoolID}
    (h : removeFirst carpools uuid = some carpools') : carpools' ⊆ carpools := by
  obtain ⟨i, -, rfl⟩ := Option.map_eq_some_iff.mp h
  exact (List.eraseIdx_sublist ..).subset

private theorem workPlay_delete (self : CarpoolController) (currentUser : Option User)
    (carpool : Carpool) : (self.delete currentUser carpool).2.work = self.work ∧
      (self.delete currentUser carpool).2.play = self.play := by
  cases currentUser with
  | none => exact ⟨rfl, rfl⟩
  | some me =>
    simp only [delete]
    split
    · exact ⟨rfl, rfl⟩
    · cases removeFirst self.carpools carpool.uuid <;> exact ⟨rfl, rfl⟩

private theorem workPlay_carpoolDeleted (self : CarpoolController) (uuid : CarpoolID) :
    (self.carpoolDeleted uuid).work = self.work ∧ (self.carpoolDeleted uuid).play = self.play := by
  rw [carpoolDeleted]
  cases removeFirst self.carpools uuid <;> exact ⟨rfl, rfl⟩

private theorem workPlay_carpoolRead (self : CarpoolController) (answer : CarpoolAnswer) :
    (self.carpoolRead answer).work = self.work ∧ (self.carpoolRead answer).play = self.play := by
  rw [carpoolRead]
  cases answer.carpool? <;> exact ⟨rfl, rfl⟩

end CarpoolController

/-- No delivery to the listener changes the sorted lists. -/
theorem Listener.workPlay_step {x y : Listener} {e : ListenerEvent} (h : x.step e = some y) :
    y.controller.work = x.controller.work ∧ y.controller.play = x.controller.play := by
  cases e with
  | snapshot ids =>
    cases h
    exact ⟨rfl, rfl⟩
  | failed error =>
    cases h
    exact ⟨rfl, rfl⟩
  | completed read answer =>
    simp only [step, Option.ite_none_right_eq_some, Option.some.injEq] at h
    obtain ⟨-, rfl⟩ := h
    exact x.controller.workPlay_carpoolRead answer

namespace CarpoolTable

/-- The sorted lists are those of `sorted`, and the rows are among them. -/
structure Filled (sorted : List Carpool) (s : CarpoolTable) : Prop where
  work : s.listener.controller.work = sorted.filter fun carpool => carpool.mode = "work"
  play : s.listener.controller.play = sorted.filter fun carpool => carpool.mode = "play"
  rows : s.dataSource ⊆ s.listener.controller.work ++ s.listener.controller.play

section Filled
variable {sorted : List Carpool} {s t : CarpoolTable} {ev : CarpoolTableEvent}

/-- The same sorted lists, and no other rows. -/
theorem Filled.of_eq (h : s.Filled sorted)
    (hsorted : t.listener.controller.work = s.listener.controller.work ∧
      t.listener.controller.play = s.listener.controller.play)
    (hrows : t.dataSource ⊆ s.dataSource) : t.Filled sorted where
  work := hsorted.1.trans h.work
  play := hsorted.2.trans h.play
  rows := by
    rw [hsorted.1, hsorted.2]
    exact List.Subset.trans hrows h.rows

private theorem sortedList_subset (s : CarpoolTable) :
    s.sortedList ⊆ s.listener.controller.work ++ s.listener.controller.play := by
  rw [sortedList]
  split
  · exact List.subset_append_left ..
  · exact List.subset_append_right ..

/-- A swipe takes out of the rows and leaves the sorted lists. -/
theorem Filled.commitDelete (h : s.Filled sorted) {row : Nat}
    (hstep : s.commitDelete row = some t) : t.Filled sorted := by
  simp only [CarpoolTable.commitDelete, Option.bind_eq_bind, Option.bind_eq_some_iff] at hstep
  obtain ⟨carpool, -, hstep⟩ := hstep
  split at hstep
  · cases hstep
    exact h
  · next dataSource hremoved =>
    obtain ⟨rows, -, hstep⟩ := Option.bind_eq_some_iff.mp hstep
    cases hstep
    exact h.of_eq (s.listener.controller.workPlay_delete s.currentUser carpool)
      (CarpoolController.removeFirst_subset hremoved)

/-- The lists are those that the last load has sorted. -/
theorem Filled.step (h : s.Filled sorted) (hstep : s.step ev = some t) :
    t.Filled (if s.loads ev then s.listener.controller.carpools else sorted) := by
  cases ev with
  | delivered e =>
    obtain ⟨listener, hlistener, rfl⟩ := Option.map_eq_some_iff.mp hstep
    exact h.of_eq (Listener.workPlay_step hlistener) (List.Subset.refl _)
  | notified event =>
    simp only [CarpoolTable.step, Option.ite_none_right_eq_some, Option.some.injEq] at hstep
    obtain ⟨-, rfl⟩ := hstep
    exact h.of_eq ⟨rfl, rfl⟩ (List.Subset.refl _)
  | runMain =>
    simp only [CarpoolTable.step] at hstep
    split at hstep
    · cases hstep
    · next result rest hmain =>
      cases hstep
      cases result with
      | ok text =>
        rw [loads, hmain]
        exact ⟨rfl, rfl, sortedList_subset _⟩
      | error error =>
        rw [loads, hmain]
        exact h.of_eq ⟨rfl, rfl⟩ (List.Subset.refl _)
  | workPlaySegmentChanged selectedSegmentIndex =>
    cases hstep
    exact ⟨h.work, h.play, sortedList_subset _⟩
  | commitDelete row =>
    simp only [CarpoolTable.step, Option.ite_none_right_eq_some] at hstep
    exact h.commitDelete hstep.2
  | carpoolDeleted id =>
    cases hstep
    exact h.of_eq (s.listener.controller.workPlay_carpoolDeleted id) (List.Subset.refl _)

/-- What is held is what the last load has sorted, for work or play. -/
theorem Filled.listed_held_iff (h : s.Filled sorted) (id : CarpoolID) :
    ¬ Listed s.held id ↔ Swipes.Without sorted id := by
  have hheld : Listed s.held id ↔
      Listed (s.listener.controller.work ++ s.listener.controller.play) id := by
    refine ⟨Listed.mono ?_, Listed.mono (List.subset_append_right ..)⟩
    exact List.append_subset.mpr ⟨h.rows, List.Subset.refl _⟩
  rw [hheld, h.work, h.play, Listed]
  push Not
  simp only [Swipes.Without, List.mem_append, List.mem_filter, decide_eq_true_eq]
  constructor
  · intro hno carpool hmem hid
    exact ⟨fun hwork => hno carpool (.inl ⟨hmem, hwork⟩) hid,
      fun hplay => hno carpool (.inr ⟨hmem, hplay⟩) hid⟩
  · rintro hwithout carpool (⟨hmem, hmode⟩ | ⟨hmem, hmode⟩) hid
    · exact (hwithout carpool hmem hid).1 hmode
    · exact (hwithout carpool hmem hid).2 hmode

end Filled

end CarpoolTable

namespace Swipes

variable {s t : Swipes} {ev : SwipeEvent}

private theorem await_eq (s : Swipes) (deletion : Deletion) :
    ∃ view callbacks deletions, s.await deletion = { s with view, callbacks, deletions } := by
  rw [await]
  cases withdrawn s.view deletion.id <;> exact ⟨_, _, _, rfl⟩

/-- What an event of the screen leaves of the screen and of the history. -/
theorem step_screen {ev : CarpoolTableEvent} (h : s.step (.screen ev) = some t) :
    s.table.step ev = some t.table ∧ t.acknowledged = s.acknowledged ∧
      t.sorted = if s.table.loads ev then s.table.listener.controller.carpools else s.sorted := by
  simp only [step, Option.ite_none_left_eq_some] at h
  obtain ⟨-, h⟩ := h
  obtain ⟨table, htable, rfl⟩ := Option.map_eq_some_iff.mp h
  cases s.table.deletion? ev with
  | none => exact ⟨htable, rfl, rfl⟩
  | some deletion =>
    obtain ⟨view, callbacks, deletions, heq⟩ := await_eq
      { s with
        table
        sorted :=
          if s.table.loads ev then s.table.listener.controller.carpools else s.sorted } deletion
    rw [Option.map_some, Option.getD_some, heq]
    exact ⟨htable, rfl, rfl⟩

/-- A callback is a snapshot for the listener, or the answer to a deletion. -/
theorem step_callback (h : s.step .callback = some t) :
    (∃ ids table, s.callbacks.head? = some (.snapshot ids) ∧
        s.table.step (.delivered (.snapshot ids)) = some table ∧
        t = { s with table, callbacks := s.callbacks.tail }) ∨
      ∃ deletion error, s.callbacks.head? = some (.deleted deletion error) ∧
        t = { s with callbacks := s.callbacks.tail }.deleted deletion error := by
  simp only [step] at h
  split at h
  · cases h
  · next ids callbacks heq =>
    obtain ⟨table, htable, rfl⟩ := Option.map_eq_some_iff.mp h
    exact .inl ⟨ids, table, by rw [heq]; rfl, htable, by rw [heq]; rfl⟩
  · next deletion error callbacks heq =>
    cases h
    exact .inr ⟨deletion, error, by rw [heq]; rfl, by rw [heq]; rfl⟩

/-- The lists are always those that the last load has sorted. -/
theorem filled_step (h : s.table.Filled s.sorted) (hstep : s.step ev = some t) :
    t.table.Filled t.sorted := by
  cases ev with
  | groups ids =>
    cases hstep
    exact h
  | answered i error =>
    obtain ⟨deletion, -, rfl⟩ := Option.map_eq_some_iff.mp hstep
    exact h
  | callback =>
    obtain ⟨ids, table, -, htable, rfl⟩ | ⟨deletion, error, -, rfl⟩ := step_callback hstep
    · exact h.step htable
    · cases error with
      | some error => exact h
      | none =>
        refine h.of_eq ?_ (List.Subset.refl _)
        dsimp only [deleted]
        split
        · exact s.table.listener.controller.workPlay_carpoolDeleted deletion.id
        · exact ⟨rfl, rfl⟩
  | screen ev =>
    obtain ⟨htable, -, hsorted⟩ := step_screen hstep
    rw [hsorted]
    exact h.step htable

/-- No carpool has come back exactly if the last load has sorted a list without those whose
deletion was acknowledged. -/
theorem noReturn_iff (h : s.table.Filled s.sorted) :
    s.NoReturn ↔ ∀ id ∈ s.acknowledged, Without s.sorted id :=
  forall₂_congr fun id _ => h.listed_held_iff id

/-- From a state in which no deleted carpool is there, a step leads to such a state exactly if it is
settled. -/
theorem noReturn_step_iff (h : s.table.Filled s.sorted) (hs : s.NoReturn)
    (hstep : s.step ev = some t) : t.NoReturn ↔ s.Settled ev := by
  rw [noReturn_iff (filled_step h hstep)]
  rw [noReturn_iff h] at hs
  cases ev with
  | groups ids =>
    cases hstep
    exact iff_of_true hs True.intro
  | answered i error =>
    obtain ⟨deletion, -, rfl⟩ := Option.map_eq_some_iff.mp hstep
    exact iff_of_true hs True.intro
  | callback =>
    obtain ⟨ids, table, hhead, -, rfl⟩ | ⟨deletion, error, hhead, rfl⟩ := step_callback hstep
    · refine iff_of_true hs fun deletion hdeleted => ?_
      rw [hhead] at hdeleted
      cases hdeleted
    · simp only [Settled, hhead, Option.some.injEq, SwipeCallback.deleted.injEq]
      cases error with
      | some error => exact iff_of_true hs fun _ hnone => nomatch hnone.2
      | none =>
        simp only [deleted, List.forall_mem_append, List.forall_mem_singleton, and_true,
          forall_eq']
        exact and_iff_right hs
  | screen ev =>
    -- Only a load changes what the rows are filled from.
    obtain ⟨-, hacknowledged, hsorted⟩ := step_screen hstep
    rw [hacknowledged, hsorted, Settled]
    by_cases hloads : s.table.loads ev
    · rw [if_pos hloads]
      exact ⟨fun hwithout _ => hwithout, fun hwithout => hwithout hloads⟩
    · rw [if_neg hloads]
      exact iff_of_true hs fun h => absurd h hloads

/-- In every run of the screen no deleted carpool comes back exactly if each acknowledgement comes
after a load of a list without the carpool, and no later load is of a list with it. -/
theorem allStates_noReturn_iff (currentUser : Option User) (es : List SwipeEvent) :
    AllStates step NoReturn { table := { currentUser } } es ↔
      AllSteps step Settled { table := { currentUser } } es :=
  allStates_iff_allSteps (I := fun s => s.table.Filled s.sorted)
    (fun _ _ _ hs h => filled_step hs h) (fun _ _ _ hs hno h => noReturn_step_iff hs hno h)
    ⟨rfl, rfl, List.nil_subset _⟩ (fun _ hid => absurd hid List.not_mem_nil) es

/-- The driver of two carpools swipes one away, which is acknowledged while the other is being read
again, and looks at the other segment and back. -/
def swipeAway : List SwipeEvent :=
  [.groups ["c", "d"], .callback,
    .screen (.delivered (.completed ⟨0, "c"⟩ (Listener.storedCarpool "c"))),
    .screen (.delivered (.completed ⟨0, "d"⟩ (Listener.storedCarpool "d"))),
    .screen (.notified 0), .screen .runMain, .screen (.commitDelete 0), .callback,
    .answered 0 none, .callback] ++ CarpoolTable.playAndBack.map .screen

/-- The carpool is on the screen again. -/
theorem not_noReturn :
    ∃ s, run step { table := { currentUser := some (User.signedUp "u") } } swipeAway = some s ∧
      "c" ∈ s.acknowledged ∧ Listed s.table.dataSource "c" := by
  obtain ⟨s, hrun, h⟩ := exists_run_of_any step
    { table := { currentUser := some (User.signedUp "u") } } swipeAway
    (fun s => decide ("c" ∈ s.acknowledged) && decide (Listed s.table.dataSource "c")) (by decide)
  rw [Bool.and_eq_true, decide_eq_true_eq, decide_eq_true_eq] at h
  exact ⟨s, hrun, h⟩

end Swipes

end DriveTribe
