import DriveTribe.Base.TwoRun
import DriveTribe.Sessions.Process

/-!
# Leaving a carpool from its row

`CarpoolListViewController.swift:109–118`, `CarpoolController.swift:355–367`. A row comes from
the list on the screen, the carpool is looked up in the shared list, which a snapshot of the
groups empties until the carpools have been read again. The driver's deletion does not ask
whether the carpool is there; anybody else's returns without it.
-/

namespace DriveTribe

open Base

/-- The list has a carpool with this id. -/
def Listed (carpools : List Carpool) (id : CarpoolID) : Prop :=
  ∃ carpool ∈ carpools, carpool.uuid = id

instance (carpools : List Carpool) (id : CarpoolID) : Decidable (Listed carpools id) := by
  unfold Listed
  infer_instance

/-- A carpool is found where it is listed. -/
theorem CarpoolController.removeFirst_isSome_iff {carpools : List Carpool} {id : CarpoolID} :
    (CarpoolController.removeFirst carpools id).isSome ↔ Listed carpools id := by
  rw [removeFirst, Option.isSome_map, List.findIdx?_isSome, List.any_eq_true]
  simp only [decide_eq_true_eq, Listed]

namespace Process

/-- The same process with another list of carpools in the shared controller. -/
def withCarpools (x : Process) (carpools : List Carpool) : Process :=
  { x with controller := { x.controller with carpools } }

/-- What is sent out when a row is swiped away. -/
def deletes (arraySet : List UserID → List UserID) (x : Process) (row : Nat) :
    Option (List ServerWrite) :=
  (x.step arraySet (.deleteRow row)).map Prod.snd

/-- Two lists of carpools make no difference to swiping away a carpool, and whoever is not its
driver is taken out of it. -/
structure LeavesAlike (arraySet : List UserID → List UserID) (x : Process)
    (carpools carpools' : List Carpool) (row : Nat) (me : User) (carpool : Carpool) : Prop where
  same : (x.withCarpools carpools).deletes arraySet row =
    (x.withCarpools carpools').deletes arraySet row
  leaves : carpool.driver ≠ me.uuid → ∃ ws,
    (x.withCarpools carpools).deletes arraySet row = some ws ∧
      .carpool (.deleteGroup me.uuid carpool.uuid) ∈ ws

section Row
variable {arraySet : List UserID → List UserID} {x : Process} {carpools carpools' : List Carpool}
  {row : Nat} {me : User} {carpool : Carpool}

/-- Swiping away a row sends out what deleting its carpool writes. -/
theorem deletes_eq (hin : x.loggedIn = true) (hme : x.currentUser = some me)
    (hrow : x.dataSource[row]? = some carpool) :
    (x.withCarpools carpools).deletes arraySet row =
      some ((({ x.controller with carpools } : CarpoolController).delete (some me) carpool).1.map
        .carpool) := by
  simp only [deletes, step, withCarpools, hin, if_pos, hrow, Option.map_some, hme]

private theorem deletes_driver (hin : x.loggedIn = true) (hme : x.currentUser = some me)
    (hrow : x.dataSource[row]? = some carpool) (hdriver : carpool.driver = me.uuid) :
    (x.withCarpools carpools).deletes arraySet row =
      (x.withCarpools carpools').deletes arraySet row := by
  rw [deletes_eq hin hme hrow, deletes_eq hin hme hrow]
  simp only [CarpoolController.delete, if_pos hdriver]

/-- Anybody else leaves where the carpool is listed. -/
theorem deletes_listed (hin : x.loggedIn = true) (hme : x.currentUser = some me)
    (hrow : x.dataSource[row]? = some carpool) (hdriver : carpool.driver ≠ me.uuid)
    (hlisted : Listed carpools carpool.uuid) :
    (x.withCarpools carpools).deletes arraySet row =
      some [.carpool (.deleteGroup me.uuid carpool.uuid)] := by
  obtain ⟨rest, hrest⟩ := Option.isSome_iff_exists.mp
    (CarpoolController.removeFirst_isSome_iff.mpr hlisted)
  rw [deletes_eq hin hme hrow]
  simp only [CarpoolController.delete, if_neg hdriver, hrest, List.map_cons, List.map_nil]

/-- And stays where it is not. -/
theorem deletes_unlisted (hin : x.loggedIn = true) (hme : x.currentUser = some me)
    (hrow : x.dataSource[row]? = some carpool) (hdriver : carpool.driver ≠ me.uuid)
    (hlisted : ¬ Listed carpools carpool.uuid) :
    (x.withCarpools carpools).deletes arraySet row = some [] := by
  have hnone : CarpoolController.removeFirst carpools carpool.uuid = none := by
    rw [← Option.not_isSome_iff_eq_none, CarpoolController.removeFirst_isSome_iff]
    exact hlisted
  rw [deletes_eq hin hme hrow]
  simp only [CarpoolController.delete, if_neg hdriver, hnone, List.map_nil]

/-- Two lists of carpools make no difference exactly to the driver and where both have the
carpool. -/
theorem leavesAlike_iff (hin : x.loggedIn = true) (hme : x.currentUser = some me)
    (hrow : x.dataSource[row]? = some carpool) :
    x.LeavesAlike arraySet carpools carpools' row me carpool ↔
      carpool.driver = me.uuid ∨
        Listed carpools carpool.uuid ∧ Listed carpools' carpool.uuid := by
  by_cases hdriver : carpool.driver = me.uuid
  · refine iff_of_true ⟨?_, fun hne => absurd hdriver hne⟩ (.inl hdriver)
    exact deletes_driver hin hme hrow hdriver
  · rw [or_iff_right hdriver]
    constructor
    · rintro ⟨hsame, hleaves⟩
      obtain ⟨ws, hws, hmem⟩ := hleaves hdriver
      have hlisted : Listed carpools carpool.uuid := by
        by_contra hnot
        rw [deletes_unlisted hin hme hrow hdriver hnot, Option.some.injEq] at hws
        rw [← hws] at hmem
        cases hmem
      refine ⟨hlisted, ?_⟩
      by_contra hnot
      rw [deletes_listed hin hme hrow hdriver hlisted,
        deletes_unlisted hin hme hrow hdriver hnot] at hsame
      cases hsame
    · rintro ⟨hlisted, hlisted'⟩
      have hdeletes : (x.withCarpools carpools).deletes arraySet row =
          some [.carpool (.deleteGroup me.uuid carpool.uuid)] :=
        deletes_listed hin hme hrow hdriver hlisted
      refine ⟨?_, fun _ => ⟨_, hdeletes, List.mem_singleton_self _⟩⟩
      rw [hdeletes, deletes_listed hin hme hrow hdriver hlisted']

end Row

/-- A carpool of `a` with the passenger `b`. -/
def rideOfA : Carpool :=
  { title := "t", mode := "work", type := "carpool", destinationName := "d", driver := "a"
    passengers := ["b"], uuid := "x" }

/-- The passenger has logged in, and the list has been loaded. -/
def loadRide : List Input :=
  [.login (User.signedUp "b"), .snapshot 1 0 ["x"],
    .read 1 0 "x" (.snapshot (some rideOfA.toDocument)), .loaded 1 0]

/-- The condition holds where the lists differ in another carpool. -/
theorem leavesAlike_loaded :
    ∃ x ws, run (emit (step id)) (launched, []) loadRide = some (x, ws) ∧
      x.LeavesAlike id [rideOfA] [{ rideOfA with uuid := "y" }, rideOfA] 0 (User.signedUp "b")
        rideOfA := by
  obtain ⟨⟨x, ws⟩, hrun, h⟩ := exists_run_of_any (emit (step id)) (launched, []) loadRide
    (fun y => y.1.loggedIn && decide (y.1.currentUser = some (User.signedUp "b")) &&
      decide (y.1.dataSource[0]? = some rideOfA)) (by decide)
  simp only [Bool.and_eq_true, decide_eq_true_eq] at h
  obtain ⟨⟨hin, hme⟩, hrow⟩ := h
  exact ⟨x, ws, hrun, (leavesAlike_iff hin hme hrow).mpr (.inr (by decide))⟩

/-- A snapshot that has emptied the shared list keeps the passenger in the carpool. -/
theorem not_leavesAlike :
    ¬ ∀ (arraySet : List UserID → List UserID) (es : List Input) (x y : Process)
      (ws vs : List ServerWrite) (listener event : Nat) (ids : List CarpoolID) (row : Nat)
      (me : User) (carpool : Carpool), run (emit (step arraySet)) (launched, []) es = some (x, ws) →
      x.step arraySet (.snapshot listener event ids) = some (y, vs) → x.loggedIn = true →
      x.currentUser = some me → x.dataSource[row]? = some carpool →
      x.LeavesAlike arraySet x.controller.carpools y.controller.carpools row me carpool := by
  intro hall
  obtain ⟨⟨x, ws⟩, hrun, h⟩ := exists_run_of_any (emit (step id)) (launched, []) loadRide
    (fun y => y.1.loggedIn && decide (y.1.currentUser = some (User.signedUp "b")) &&
      decide (y.1.dataSource[0]? = some rideOfA) && decide (1 ∈ y.1.listeners ∧
        ∀ l ∈ y.1.loads, ¬ (l.listener = 1 ∧ l.event = 1))) (by decide)
  simp only [Bool.and_eq_true, decide_eq_true_eq] at h
  obtain ⟨⟨⟨hin, hme⟩, hrow⟩, hnew⟩ := h
  have hsnapshot := hall id loadRide x _ ws [] 1 1 ["x"] 0 _ _ hrun (if_pos hnew) hin hme hrow
  obtain ⟨ws', hws, hmem⟩ := hsnapshot.leaves (by decide)
  have hlisted : Listed x.controller.carpools rideOfA.uuid := by
    by_contra hnot
    rw [deletes_unlisted hin hme hrow (by decide) hnot, Option.some.injEq] at hws
    rw [← hws] at hmem
    cases hmem
  have hsame := hsnapshot.same
  rw [deletes_listed hin hme hrow (by decide) hlisted,
    deletes_unlisted hin hme hrow (by decide) (by rintro ⟨_, hc, -⟩; cases hc)] at hsame
  cases hsame

end Process

end DriveTribe
