import DriveTribe.Base.Rows
import DriveTribe.Carpools.Listener
import DriveTribe.Relations.Operations

/-!
# The table of the carpools

`CarpoolListViewController.swift:12–129`, over `fetchGroupsForCurrentUser`. The reads of one
snapshot are one dispatch group. When all of them have been answered the main queue sorts the
carpools read by then, and the rows are filled with those of the segment; a read that belongs to
an earlier snapshot may have added to them.
-/

namespace DriveTribe

open Base

/-- A cell of the table. `CarpoolListViewController.swift:95–104`. -/
structure CarpoolCell where
  textLabel : String
  detailTextLabel : String
  imageName : String
  deriving DecidableEq, Repr

/-- The screen. `groups` are the snapshots whose reads have not been reported, `main` the
completions on the main queue; `rows` is what the table was told last. -/
structure CarpoolTable where
  /-- `UserController.shared.currentUser`. -/
  currentUser : Option User := none
  listener : Listener := .initial
  groups : List Nat := []
  main : List (Except NetworkError String) := []
  selectedSegmentIndex : Fin 2 := 0
  dataSource : List Carpool := []
  rows : Nat := 0

/-- What can happen to the screen next. -/
inductive CarpoolTableEvent where
  /-- Something is delivered to the listener or to one of its reads. -/
  | delivered (e : ListenerEvent)
  /-- All reads of a snapshot have left its group. -/
  | notified (event : Nat)
  | runMain
  | workPlaySegmentChanged (selectedSegmentIndex : Fin 2)
  /-- The row is swiped away. -/
  | commitDelete (row : Nat)
  /-- The server has acknowledged the deletion of a carpool by its driver. -/
  | carpoolDeleted (id : CarpoolID)

namespace CarpoolTableEvent

/-- What is delivered to the listener. -/
def listener? : CarpoolTableEvent → Option ListenerEvent
  | .delivered e => some e
  | _ => none

/-- The event is part of a deletion. -/
def Deletes : CarpoolTableEvent → Prop
  | .commitDelete _ | .carpoolDeleted _ => True
  | _ => False

instance : ∀ ev : CarpoolTableEvent, Decidable ev.Deletes
  | .commitDelete _ | .carpoolDeleted _ => .isTrue True.intro
  | .delivered _ | .notified _ | .runMain | .workPlaySegmentChanged _ => .isFalse id

end CarpoolTableEvent

/-- What a delivery completes with, if it does so at once. `CarpoolController.swift:144–175`. -/
def ListenerEvent.completion? : ListenerEvent → Option (Except NetworkError String)
  | .snapshot _ => none
  | .failed error => some (.error (.thrownError error))
  | .completed _ (.error error) => some (.error (.thrownError error))
  | .completed _ .noSnapshot => some (.error .unableToDecode)
  | .completed _ (.snapshot document) =>
    match document.bind Carpool.ofDocument with
    | none => some (.error .unableToDecode)
    | some _ => none

namespace CarpoolTable

/-- `CarpoolListViewController.swift:90–92`. -/
def numberOfRowsInSection (s : CarpoolTable) : Nat := s.dataSource.length

/-- `CarpoolListViewController.swift:94–107`; `none` is a subscript out of range. -/
def cellForRowAt (s : CarpoolTable) (row : Nat) : Option CarpoolCell :=
  (s.dataSource[row]?).map fun carpool =>
    { textLabel := carpool.title
      detailTextLabel := "Destination: " ++ carpool.destinationName
      imageName := if carpool.type = "carpool" then "car" else "car.2" }

/-- The carpool whose chat is opened. `CarpoolListViewController.swift:121–128`. -/
def prepareForSegue (s : CarpoolTable) (row : Nat) : Option Carpool := s.dataSource[row]?

/-- Ask for the number of rows anew. -/
def reloadData (s : CarpoolTable) : CarpoolTable := { s with rows := s.numberOfRowsInSection }

/-- The sorted list behind the segment. -/
def sortedList (s : CarpoolTable) : List Carpool :=
  if s.selectedSegmentIndex = 0 then s.listener.controller.work else s.listener.controller.play

/-- `CarpoolListViewController.swift:39–52`. -/
def workPlaySegmentChanged (s : CarpoolTable) (selectedSegmentIndex : Fin 2) : CarpoolTable :=
  let changed := { s with selectedSegmentIndex }
  reloadData { changed with dataSource := changed.sortedList }

/-- A completion is handled. `CarpoolListViewController.swift:57–73`. -/
def complete (s : CarpoolTable) : Except NetworkError String → CarpoolTable
  | .ok _ =>
    let sorted := { s with
      listener := { s.listener with controller := s.listener.controller.sortCarpoolsByWorkPlay } }
    reloadData { sorted with dataSource := sorted.sortedList }
  | .error _ => s

/-- `CarpoolListViewController.swift:109–118`; `none` is a subscript out of range, or an invalid
update of the table. -/
def commitDelete (s : CarpoolTable) (row : Nat) : Option CarpoolTable := do
  let carpoolToDelete ← s.dataSource[row]?
  match CarpoolController.removeFirst s.dataSource carpoolToDelete.uuid with
  | none => return s
  | some dataSource =>
    let rows ← deleteRow s.rows row dataSource.length
    let controller := (s.listener.controller.delete s.currentUser carpoolToDelete).2
    return { s with dataSource, rows, listener := { s.listener with controller } }

/-- One event. -/
def step (s : CarpoolTable) : CarpoolTableEvent → Option CarpoolTable
  | .delivered e =>
    (s.listener.step e).map fun listener =>
      { s with
        listener
        groups := if e.ids?.isSome then s.groups ++ [s.listener.events] else s.groups
        main := s.main ++ e.completion?.toList }
  | .notified event =>
    if event ∈ s.groups ∧ ∀ read ∈ s.listener.outstanding, read.event ≠ event then
      some { s with groups := s.groups.erase event, main := s.main ++ [.ok "success"] }
    else none
  | .runMain =>
    match s.main with
    | [] => none
    | result :: rest => some ({ s with main := rest }.complete result)
  | .workPlaySegmentChanged selectedSegmentIndex =>
    some (s.workPlaySegmentChanged selectedSegmentIndex)
  | .commitDelete row => if row < s.rows then s.commitDelete row else none
  | .carpoolDeleted id =>
    let controller := s.listener.controller.carpoolDeleted id
    some { s with listener := { s.listener with controller } }

/-- Every row the table may ask for is there, can be opened, and can be swiped away. -/
def Safe (s : CarpoolTable) : Prop :=
  ∀ row < s.rows, (s.cellForRowAt row).isSome ∧ (s.prepareForSegue row).isSome ∧
    (s.commitDelete row).isSome

/-- The table has been told of every row. -/
def Told (s : CarpoolTable) : Prop := s.rows = s.dataSource.length

section Step
variable {s t : CarpoolTable} {ev : CarpoolTableEvent}

private theorem length_of_removeFirst {carpools carpools' : List Carpool} {id : CarpoolID}
    (h : CarpoolController.removeFirst carpools id = some carpools') :
    carpools'.length + 1 = carpools.length := by
  obtain ⟨i, hi, rfl⟩ := Option.map_eq_some_iff.mp h
  obtain ⟨hlt, -⟩ := List.findIdx?_eq_some_iff_getElem.mp hi
  exact List.length_eraseIdx_add_one hlt

private theorem removeFirst_isSome {carpools : List Carpool} {carpool : Carpool}
    (h : carpool ∈ carpools) :
    (CarpoolController.removeFirst carpools carpool.uuid).isSome := by
  rw [CarpoolController.removeFirst, Option.isSome_map, List.findIdx?_isSome, List.any_eq_true]
  exact ⟨carpool, h, decide_eq_true rfl⟩

private theorem Told.commitDelete_isSome (h : s.Told) {row : Nat} (hrow : row < s.rows) :
    (s.commitDelete row).isSome := by
  rw [h] at hrow
  have hmem : s.dataSource[row] ∈ s.dataSource := List.getElem_mem hrow
  obtain ⟨dataSource, hremoved⟩ := Option.isSome_iff_exists.mp (removeFirst_isSome hmem)
  have hlength := length_of_removeFirst hremoved
  have hvalid : deleteRow s.rows row dataSource.length = some dataSource.length :=
    deleteRow_eq_some_iff.mpr ⟨h ▸ hrow, hlength.trans h.symm, rfl⟩
  simp only [commitDelete, List.getElem?_eq_getElem hrow, Option.bind_eq_bind, Option.bind_some,
    hremoved, hvalid, Option.isSome_some, Option.pure_def]

private theorem told_commitDelete (h : s.Told) {row : Nat} (hdelete : s.commitDelete row = some t) :
    t.Told := by
  simp only [commitDelete, Option.bind_eq_bind, Option.bind_eq_some_iff] at hdelete
  obtain ⟨carpool, -, hdelete⟩ := hdelete
  split at hdelete
  · cases hdelete
    exact h
  · obtain ⟨rows, hrows, hdelete⟩ := Option.bind_eq_some_iff.mp hdelete
    cases hdelete
    exact (deleteRow_eq_some_iff.mp hrows).2.2

/-- Every step tells the table of the rows there are. -/
theorem told_step (h : s.Told) (hstep : s.step ev = some t) : t.Told := by
  cases ev with
  | delivered e =>
    obtain ⟨listener, -, rfl⟩ := Option.map_eq_some_iff.mp hstep
    exact h
  | notified event =>
    simp only [step, Option.ite_none_right_eq_some, Option.some.injEq] at hstep
    obtain ⟨-, rfl⟩ := hstep
    exact h
  | runMain =>
    simp only [step] at hstep
    split at hstep
    · cases hstep
    · next result rest _ =>
      cases hstep
      cases result with
      | ok text => rfl
      | error error => exact h
  | workPlaySegmentChanged selectedSegmentIndex =>
    cases hstep
    rfl
  | commitDelete row =>
    simp only [step, Option.ite_none_right_eq_some] at hstep
    exact told_commitDelete h hstep.2
  | carpoolDeleted id =>
    cases hstep
    exact h

/-- A table that has been told of its rows is safe. -/
theorem Told.safe (h : s.Told) : s.Safe := by
  intro row hrow
  have hthere : s.dataSource[row]?.isSome := forall_isSome_getElem?_iff.mpr h.le row hrow
  refine ⟨?_, hthere, h.commitDelete_isSome hrow⟩
  rw [cellForRowAt, Option.isSome_map]
  exact hthere

end Step

/-- In every run every row of the table is there, opens, and can be swiped away. -/
theorem table_safe (currentUser : Option User) (es : List CarpoolTableEvent) :
    AllStates step Safe { currentUser } es :=
  allStates_of_invariant (I := Told) (fun _ _ _ hs _ ht => told_step hs ht) (fun _ hs => hs.safe)
    rfl (allSteps_true _ es)

/-! ### The rows at rest -/

/-- What is delivered to the listener in a run. -/
def deliveries (es : List CarpoolTableEvent) : List ListenerEvent :=
  es.filterMap CarpoolTableEvent.listener?

/-- The mode of the carpools behind a segment. -/
def mode (selectedSegmentIndex : Fin 2) : String :=
  if selectedSegmentIndex = 0 then "work" else "play"

/-- The completions so far are handled: no snapshot waits for its reads, and none that has been
reported waits on the main queue. -/
def Handled (s : CarpoolTable) : Prop := s.groups = [] ∧ ∀ text, .ok text ∉ s.main

/-- The lists are sorted and the rows are those of the segment. -/
structure Sorted (s : CarpoolTable) : Prop where
  work : s.listener.controller.work =
    s.listener.controller.carpools.filter fun carpool => carpool.mode = "work"
  play : s.listener.controller.play =
    s.listener.controller.carpools.filter fun carpool => carpool.mode = "play"
  dataSource : s.dataSource = s.sortedList

/-- What holds after any run without deletions: each read belongs to a group that has not been
reported, and once the completions are handled the rows are sorted. -/
structure Tracks (s : CarpoolTable) : Prop where
  groups : ∀ read ∈ s.listener.outstanding, read.event ∈ s.groups
  sorted : s.Handled → s.Sorted

section Rest
variable {s t : CarpoolTable} {ev : CarpoolTableEvent}

private theorem tracks_start (currentUser : Option User) : Tracks { currentUser } where
  groups _ h := nomatch h
  sorted _ := ⟨rfl, rfl, rfl⟩

private theorem tracks_delivered (h : s.Tracks) {e : ListenerEvent}
    (hstep : s.step (.delivered e) = some t) : t.Tracks := by
  obtain ⟨listener, hlistener, rfl⟩ := Option.map_eq_some_iff.mp hstep
  cases e with
  | snapshot ids =>
    cases hlistener
    refine ⟨fun read hread => ?_, fun hhandled => ?_⟩
    · rcases List.mem_append.mp hread with hread | hread
      · exact List.mem_append_left _ (h.groups read hread)
      · obtain ⟨id, -, rfl⟩ := List.mem_map.mp hread
        exact List.mem_append_right _ (List.mem_singleton.mpr rfl)
    · exact absurd hhandled.1 (List.append_ne_nil_of_right_ne_nil _ (List.cons_ne_nil _ _))
  | failed error =>
    cases hlistener
    refine ⟨h.groups, fun hhandled => ?_⟩
    have hsorted : s.Sorted :=
      h.sorted ⟨hhandled.1, fun text hmem => hhandled.2 text (List.mem_append_left _ hmem)⟩
    exact ⟨hsorted.work, hsorted.play, hsorted.dataSource⟩
  | completed read answer =>
    simp only [Listener.step, Option.ite_none_right_eq_some, Option.some.injEq] at hlistener
    obtain ⟨hread, rfl⟩ := hlistener
    refine ⟨fun other hother => h.groups other (List.mem_of_mem_erase hother), fun hhandled => ?_⟩
    -- The group of the read is still waiting.
    have hgroup := h.groups read hread
    rw [show s.groups = [] from hhandled.1] at hgroup
    cases hgroup

/-- A screen on which nothing is deleted keeps track of its rows. -/
theorem tracks_step (h : s.Tracks) (hev : ¬ ev.Deletes) (hstep : s.step ev = some t) :
    t.Tracks := by
  cases ev with
  | delivered e => exact tracks_delivered h hstep
  | notified event =>
    simp only [step, Option.ite_none_right_eq_some, Option.some.injEq] at hstep
    obtain ⟨⟨-, hleft⟩, rfl⟩ := hstep
    refine ⟨fun read hread => ?_, fun hhandled => ?_⟩
    · exact (List.mem_erase_of_ne (hleft read hread)).mpr (h.groups read hread)
    · exact absurd (List.mem_append_right _ (List.mem_singleton.mpr rfl)) (hhandled.2 "success")
  | runMain =>
    simp only [step] at hstep
    split at hstep
    · cases hstep
    · next result rest hmain =>
      cases hstep
      cases result with
      | ok text => exact ⟨h.groups, fun _ => ⟨rfl, rfl, rfl⟩⟩
      | error error =>
        refine ⟨h.groups, fun hhandled => ?_⟩
        have hsorted : s.Sorted := by
          refine h.sorted ⟨hhandled.1, fun text hmem => ?_⟩
          rw [hmain] at hmem
          rcases List.mem_cons.mp hmem with heq | hmem
          · cases heq
          · exact hhandled.2 text hmem
        exact ⟨hsorted.work, hsorted.play, hsorted.dataSource⟩
  | workPlaySegmentChanged selectedSegmentIndex =>
    cases hstep
    refine ⟨h.groups, fun hhandled => ?_⟩
    have hsorted : s.Sorted := h.sorted hhandled
    exact ⟨hsorted.work, hsorted.play, rfl⟩
  | commitDelete row => exact absurd True.intro hev
  | carpoolDeleted id => exact absurd True.intro hev

/-- Two listeners differ in the sorted lists at most. -/
def SameReads (x y : Listener) : Prop :=
  x.outstanding = y.outstanding ∧ x.events = y.events ∧
    x.controller.carpools = y.controller.carpools

/-- The sorted lists do not matter to a delivery. -/
theorem SameReads.step {x y y' : Listener} (h : SameReads x y) {e : ListenerEvent}
    (hy : y.step e = some y') : ∃ x', x.step e = some x' ∧ SameReads x' y' := by
  obtain ⟨houtstanding, hevents, hcarpools⟩ := h
  cases e with
  | snapshot ids =>
    cases hy
    exact ⟨_, rfl, by rw [houtstanding, hevents], congrArg (· + 1) hevents, rfl⟩
  | failed error =>
    cases hy
    exact ⟨x, rfl, houtstanding, hevents, hcarpools⟩
  | completed read answer =>
    simp only [Listener.step, Option.ite_none_right_eq_some, Option.some.injEq] at hy
    obtain ⟨hread, rfl⟩ := hy
    refine ⟨_, if_pos (houtstanding ▸ hread), by rw [houtstanding], hevents, ?_⟩
    simp only [CarpoolController.carpoolRead]
    cases answer.carpool? <;> simp only [hcarpools]

private theorem deliveries_concat (es : List CarpoolTableEvent) (ev : CarpoolTableEvent) :
    deliveries (es ++ [ev]) = deliveries es ++ ev.listener?.toList := by
  rw [deliveries, List.filterMap_append, deliveries]
  cases ev <;> rfl

/-- What the screen holds of the carpools is what its deliveries lead to. -/
theorem exists_listener_run {currentUser : Option User} {es : List CarpoolTableEvent}
    (hes : ∀ ev ∈ es, ¬ ev.Deletes) (hrun : run step { currentUser } es = some s) :
    ∃ x, run Listener.step .initial (deliveries es) = some x ∧ SameReads x s.listener := by
  refine run_induction (motive := fun es s => (∀ ev ∈ es, ¬ ev.Deletes) →
    ∃ x, run Listener.step .initial (deliveries es) = some x ∧ SameReads x s.listener)
    ?_ ?_ hrun hes
  · exact fun _ => ⟨_, rfl, rfl, rfl, rfl⟩
  · intro es s ev t _ ih hstep hes
    obtain ⟨x, hx, hsame⟩ := ih fun ev hev => hes ev (List.mem_append_left _ hev)
    have hev : ¬ ev.Deletes := hes ev (List.mem_append_right _ (List.mem_singleton.mpr rfl))
    rw [deliveries_concat]
    cases ev with
    | delivered e =>
      obtain ⟨listener, hlistener, rfl⟩ := Option.map_eq_some_iff.mp hstep
      obtain ⟨x', hx', hsame'⟩ := hsame.step hlistener
      exact ⟨x', run_concat_eq_some.mpr ⟨x, hx, hx'⟩, hsame'⟩
    | notified event =>
      simp only [step, Option.ite_none_right_eq_some, Option.some.injEq] at hstep
      obtain ⟨-, rfl⟩ := hstep
      exact ⟨x, (List.append_nil (deliveries es)).symm ▸ hx, hsame⟩
    | runMain =>
      simp only [step] at hstep
      split at hstep <;> cases hstep
      next result rest _ =>
      refine ⟨x, (List.append_nil (deliveries es)).symm ▸ hx, ?_⟩
      cases result <;> exact hsame
    | workPlaySegmentChanged selectedSegmentIndex =>
      cases hstep
      exact ⟨x, (List.append_nil (deliveries es)).symm ▸ hx, hsame⟩
    | commitDelete row => exact absurd True.intro hev
    | carpoolDeleted id => exact absurd True.intro hev

/-- A carpool behind a segment that an answer decodes to. -/
def listed? (selectedSegmentIndex : Fin 2) (x : ListenerRead × CarpoolAnswer) : Option Carpool :=
  x.2.carpool?.filter fun carpool => carpool.mode = mode selectedSegmentIndex

private theorem Sorted.dataSource_eq (h : s.Sorted) :
    s.dataSource = s.listener.controller.carpools.filter fun carpool =>
      carpool.mode = mode s.selectedSegmentIndex := by
  rw [h.dataSource, sortedList, mode]
  split
  · exact h.work
  · exact h.play

/-- Where nothing was deleted, every read has been answered and every completion handled, each
group of the last snapshot has been read once, and the rows are what was decoded since with the
mode of the segment. -/
theorem rows_at_rest {currentUser : Option User} {es : List CarpoolTableEvent}
    (hes : ∀ ev ∈ es, ¬ ev.Deletes) (hrun : run step { currentUser } es = some s)
    (houtstanding : s.listener.outstanding = []) (hhandled : s.Handled) :
    ((Listener.lastAnswers (deliveries es)).map (·.1.carpool)).Perm
        (Listener.lastIDs (deliveries es)) ∧
      s.dataSource =
        (Listener.answers (deliveries es)).filterMap (listed? s.selectedSegmentIndex) := by
  have htracks : s.Tracks :=
    run_invariant_of_steps (fun _ _ _ hs hc ht => tracks_step hs hc ht) (tracks_start currentUser)
      (allSteps_of_forall hes _) hrun
  obtain ⟨x, hx, hsame⟩ := exists_listener_run hes hrun
  have hinv := Listener.inv_of_run hx
  have hreads := hinv.reads
  rw [hsame.1, houtstanding] at hreads
  refine ⟨hreads, ?_⟩
  rw [(htracks.sorted hhandled).dataSource_eq, ← hsame.2.2, hinv.carpools, List.filter_filterMap]
  rfl

/-- Leaving out the reads of earlier snapshots loses nothing exactly if none has added a carpool
behind the segment. -/
theorem filterMap_answers_perm_iff (selectedSegmentIndex : Fin 2) (es : List ListenerEvent) :
    ((Listener.answers es).filterMap (listed? selectedSegmentIndex)).Perm
        ((Listener.lastAnswers es).filterMap (listed? selectedSegmentIndex)) ↔
      ∀ x ∈ Listener.answers es, listed? selectedSegmentIndex x ≠ none →
        x.1.IsOfLast (Listener.snapshots es) := by
  have hiff := Listener.filterMap_perm_filter_iff (listed? selectedSegmentIndex)
    (fun x => decide (x.1.IsOfLast (Listener.snapshots es))) (Listener.answers es)
  simp only [decide_eq_true_eq] at hiff
  exact hiff

/-- Where nothing was deleted, every read has been answered and every completion handled, each
group of the last snapshot has been read once, and the rows are what these reads decoded to with
the mode of the segment, exactly if no read of an earlier snapshot added such a carpool since. -/
theorem rows_at_rest_iff {currentUser : Option User} {es : List CarpoolTableEvent}
    (hes : ∀ ev ∈ es, ¬ ev.Deletes) (hrun : run step { currentUser } es = some s)
    (houtstanding : s.listener.outstanding = []) (hhandled : s.Handled) :
    ((Listener.lastAnswers (deliveries es)).map (·.1.carpool)).Perm
        (Listener.lastIDs (deliveries es)) ∧
      (s.dataSource.Perm ((Listener.lastAnswers (deliveries es)).filterMap
          (listed? s.selectedSegmentIndex)) ↔
        ∀ x ∈ Listener.answers (deliveries es), listed? s.selectedSegmentIndex x ≠ none →
          x.1.IsOfLast (Listener.snapshots (deliveries es))) := by
  obtain ⟨hreads, hrows⟩ := rows_at_rest hes hrun houtstanding hhandled
  refine ⟨hreads, ?_⟩
  rw [hrows]
  exact filterMap_answers_perm_iff s.selectedSegmentIndex (deliveries es)

end Rest

/-- A look at Play. -/
def playAndBack : List CarpoolTableEvent := [.workPlaySegmentChanged 1, .workPlaySegmentChanged 0]

/-- A carpool is loaded while the segment changes and changes back. -/
def loadAndChange : List CarpoolTableEvent :=
  [.delivered (.snapshot ["a"]), .delivered (.completed ⟨0, "a"⟩ (Listener.storedCarpool "a")),
    .notified 0, .workPlaySegmentChanged 1, .runMain, .workPlaySegmentChanged 0]

/-- The carpool is listed. -/
theorem rows_at_rest_loadAndChange :
    ∃ s, run step {} loadAndChange = some s ∧
      ((Listener.lastAnswers (deliveries loadAndChange)).map (·.1.carpool)).Perm
        (Listener.lastIDs (deliveries loadAndChange)) ∧
      s.dataSource.Perm ((Listener.lastAnswers (deliveries loadAndChange)).filterMap
        (listed? s.selectedSegmentIndex)) := by
  have hrun : ∃ s, run step {} loadAndChange = some s ∧ s.listener.outstanding = [] ∧
      s.groups = [] ∧ s.main = [] := ⟨_, rfl, rfl, rfl, rfl⟩
  obtain ⟨s, hrun, houtstanding, hgroups, hmain⟩ := hrun
  have hhandled : s.Handled := ⟨hgroups, fun text hmem => by rw [hmain] at hmem; cases hmem⟩
  obtain ⟨hreads, hiff⟩ := rows_at_rest_iff (by decide) hrun houtstanding hhandled
  have hlast : ∀ x ∈ Listener.answers (deliveries loadAndChange),
      x.1.IsOfLast (Listener.snapshots (deliveries loadAndChange)) := by decide
  exact ⟨s, hrun, hreads, hiff.mpr fun x hx _ => hlast x hx⟩

end CarpoolTable

end DriveTribe
