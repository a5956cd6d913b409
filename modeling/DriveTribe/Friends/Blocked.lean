import DriveTribe.Base.Rows
import DriveTribe.Friends.List

/-!
# The table of the blocked users

`BlockedUsersTableViewController.swift:10–91`, over `unblockedUser`, which reports success before
anything is written. A block on the main queue then takes the user out of the list and deletes the
row that was tapped. By then the row may be another one: the table raises exactly if it has become
shorter than that.
-/

namespace DriveTribe

open Base

/-- A block on the main queue. -/
inductive BlockedBlock where
  | fetched (result : FetchResult)
  /-- The success of unblocking the user of a row. -/
  | unblocked (row : Nat) (user : User)
  | failed (error : NetworkError)
  deriving DecidableEq, Repr

/-- The screen. `rows` is what the table was told last, `writes` counts the writes of unblockings
that are not answered, and `raised` says that the table has raised an exception. -/
structure BlockedTable where
  /-- `UserController.shared.currentUser`. -/
  currentUser : Option User := none
  blockedUsers : List User := []
  rows : Nat := 0
  fetches : List Fetching := []
  writes : Nat := 0
  main : List BlockedBlock := []
  raised : Bool := false

/-- What can happen to the screen next. -/
inductive BlockedTableEvent where
  | viewWillAppear
  /-- The `j`-th read of the `i`-th fetch is answered. -/
  | answered (i j : Nat) (snapshot : Snapshot)
  /-- The button in the cell of the row is tapped. -/
  | unblockFriendButtonTapped (row : Nat)
  /-- A write of an unblocking is answered. -/
  | acknowledged (error : Option String)
  | runMain

namespace BlockedTable

/-- `BlockedUsersTableViewController.swift:47–50`. -/
def numberOfRowsInSection (s : BlockedTable) : Nat := s.blockedUsers.length

/-- The user a cell is drawn for. `BlockedUsersTableViewController.swift:51–53`; `none` is a
subscript out of range. -/
def cellForRowAt (s : BlockedTable) (row : Nat) : Option User := s.blockedUsers[row]?

/-- Ask for the number of rows anew. -/
def reloadData (s : BlockedTable) : BlockedTable := { s with rows := s.numberOfRowsInSection }

/-- `BlockedUsersTableViewController.swift:28–29`. -/
def setupViews (s : BlockedTable) : BlockedTable :=
  match s.currentUser with
  | none => s
  | some me =>
    let fetch : Fetching := { key := .blockedUsersByCurrentUser, reads := [.userData me.uuid] }
    { s with fetches := s.fetches ++ [fetch] }

/-- `UserController.swift:478–509`. Three writes are sent out, and success is reported. -/
def unblockedUser (s : BlockedTable) (row : Nat) (user : User) : BlockedTable :=
  match s.currentUser with
  | none => s
  | some _ => { s with writes := s.writes + 3, main := s.main ++ [.unblocked row user] }

/-- A block of the main queue runs. `BlockedUsersTableViewController.swift:31–40`, `:77–87`. -/
def runBlock (s : BlockedTable) : BlockedBlock → BlockedTable
  | .fetched (.ok users) => reloadData { s with blockedUsers := users }
  | .fetched (.error _) | .failed _ => s
  | .unblocked row user =>
    if ∃ x ∈ s.blockedUsers, x.uuid = user.uuid then
      let blockedUsers := removeRow s.blockedUsers user
      match deleteRow s.rows row blockedUsers.length with
      | none => { s with blockedUsers, raised := true }
      | some rows => (reloadData { s with blockedUsers, rows }).setupViews
    else s

/-- What an event does while the app runs. -/
def react (s : BlockedTable) : BlockedTableEvent → Option BlockedTable
  | .viewWillAppear => some s.setupViews
  | .answered i j snapshot =>
    match s.fetches[i]? with
    | none => none
    | some f =>
      match f.reads[j]? with
      | none => none
      | some read =>
        let reply := BlockedUsersTableViewController.setupViews.fetch f.array read snapshot
        some { s with
          fetches := s.fetches.set i
            { f with array := reply.state, reads := f.reads.eraseIdx j ++ reply.requests }
          main := s.main ++ reply.calls.map .fetched }
  | .unblockFriendButtonTapped row =>
    if row < s.rows then
      match s.blockedUsers[row]? with
      | none => some { s with raised := true }
      | some userToUnBlock => some (s.unblockedUser row userToUnBlock)
    else none
  | .acknowledged error =>
    match s.writes with
    | 0 => none
    | n + 1 =>
      some { s with
        writes := n
        main := s.main ++ error.toList.map fun error => .failed (.thrownError error) }
  | .runMain =>
    match s.main with
    | [] => none
    | block :: rest => some ({ s with main := rest }.runBlock block)

/-- One event. After an exception nothing happens any more. -/
def step (s : BlockedTable) (ev : BlockedTableEvent) : Option BlockedTable :=
  if s.raised then none else s.react ev

/-- Nothing has been raised, and every row the table may ask for is there. -/
def Safe (s : BlockedTable) : Prop :=
  s.raised = false ∧ ∀ row < s.rows, (s.cellForRowAt row).isSome

/-- Where the main queue takes out a user that is shown, the table has the row that was tapped. -/
def HasRow (s : BlockedTable) : BlockedTableEvent → Prop
  | .runMain => ∀ row user, s.main.head? = some (.unblocked row user) →
      (∃ x ∈ s.blockedUsers, x.uuid = user.uuid) → row < s.blockedUsers.length
  | _ => True

/-- Unless it has raised, the table has been told of every row. -/
def Told (s : BlockedTable) : Prop := s.raised = false → s.rows = s.blockedUsers.length

section Step
variable {s t : BlockedTable} {ev : BlockedTableEvent}

private theorem setupViews_eq (s : BlockedTable) :
    ∃ fetches, s.setupViews = { s with fetches } := by
  rw [setupViews]
  split
  · exact ⟨s.fetches, rfl⟩
  · exact ⟨_, rfl⟩

private theorem unblockedUser_eq (s : BlockedTable) (row : Nat) (user : User) :
    ∃ writes main, s.unblockedUser row user = { s with writes, main } := by
  rw [unblockedUser]
  split
  · exact ⟨s.writes, s.main, rfl⟩
  · exact ⟨_, _, rfl⟩

private theorem length_removeRow {users : List User} {user : User}
    (h : ∃ x ∈ users, x.uuid = user.uuid) :
    (removeRow users user).length + 1 = users.length := by
  obtain ⟨x, hmem, hx⟩ := h
  have hpos : 0 < users.length := List.length_pos_of_mem hmem
  rw [removeRow, List.length_eraseP_of_mem hmem (decide_eq_true hx), Nat.sub_add_cancel hpos]

/-- A table that knows of its rows is safe unless it has raised. -/
theorem Told.safe_iff (h : s.Told) : s.Safe ↔ s.raised = false := by
  rw [Safe, and_iff_left_iff_imp]
  exact fun hraised => forall_isSome_getElem?_iff.mpr (Nat.le_of_eq (h hraised))

/-- The row of a user that is taken out is deleted, if the table still has it. -/
theorem runBlock_unblocked (h : s.Told) (hraised : s.raised = false) (row : Nat) (user : User) :
    (s.runBlock (.unblocked row user)).Told ∧
      ((s.runBlock (.unblocked row user)).raised = false ↔
        ((∃ x ∈ s.blockedUsers, x.uuid = user.uuid) → row < s.blockedUsers.length)) := by
  have hrows := h hraised
  rw [runBlock]
  split
  · next hshown =>
    have hlength := length_removeRow hshown
    by_cases hrow : row < s.blockedUsers.length
    · have hdelete : deleteRow s.rows row (removeRow s.blockedUsers user).length =
          some (removeRow s.blockedUsers user).length :=
        deleteRow_eq_some_iff.mpr ⟨hrows ▸ hrow, hlength.trans hrows.symm, rfl⟩
      simp only [hdelete]
      obtain ⟨fetches, heq⟩ := setupViews_eq (reloadData { s with
        blockedUsers := removeRow s.blockedUsers user
        rows := (removeRow s.blockedUsers user).length })
      rw [heq]
      exact ⟨fun _ => rfl, iff_of_true hraised fun _ => hrow⟩
    · have hdelete : deleteRow s.rows row (removeRow s.blockedUsers user).length = none := by
        rw [deleteRow, if_neg]
        exact fun hvalid => hrow (hrows ▸ hvalid.1)
      simp only [hdelete]
      refine ⟨fun hnot => ?_, iff_of_false Bool.true_eq_false.mp fun himp => hrow (himp hshown)⟩
      cases hnot
  · next hshown => exact ⟨h, iff_of_true hraised fun hx => absurd hx hshown⟩

/-- What a step does to a table that has not raised: it raises exactly where the row is missing. -/
theorem step_spec (h : s.Told) (hraised : s.raised = false) (hstep : s.step ev = some t) :
    t.Told ∧ (t.raised = false ↔ s.HasRow ev) := by
  rw [step, if_neg (Bool.eq_false_iff.mp hraised)] at hstep
  cases ev with
  | viewWillAppear =>
    obtain ⟨fetches, heq⟩ := setupViews_eq s
    cases hstep
    rw [heq]
    exact ⟨h, iff_of_true hraised True.intro⟩
  | answered i j snapshot =>
    rw [react] at hstep
    split at hstep
    · cases hstep
    · split at hstep
      · cases hstep
      · cases hstep
        exact ⟨h, iff_of_true hraised True.intro⟩
  | unblockFriendButtonTapped row =>
    simp only [react, Option.ite_none_right_eq_some] at hstep
    obtain ⟨hrow, hstep⟩ := hstep
    have hthere : row < s.blockedUsers.length := h hraised ▸ hrow
    simp only [List.getElem?_eq_getElem hthere, Option.some.injEq] at hstep
    obtain ⟨writes, main, heq⟩ := unblockedUser_eq s row s.blockedUsers[row]
    rw [← hstep, heq]
    exact ⟨h, iff_of_true hraised True.intro⟩
  | acknowledged error =>
    rw [react] at hstep
    split at hstep
    · cases hstep
    · cases hstep
      exact ⟨h, iff_of_true hraised True.intro⟩
  | runMain =>
    rw [react] at hstep
    split at hstep
    · cases hstep
    · next block rest hmain =>
      cases hstep
      cases block with
      | fetched result =>
        have hother : s.HasRow .runMain := by
          intro row user hhead
          rw [hmain] at hhead
          cases hhead
        cases result with
        | ok users => exact ⟨fun _ => rfl, iff_of_true hraised hother⟩
        | error error => exact ⟨h, iff_of_true hraised hother⟩
      | failed error =>
        refine ⟨h, iff_of_true hraised fun row user hhead => ?_⟩
        rw [hmain] at hhead
        cases hhead
      | unblocked row user =>
        obtain ⟨htold, hiff⟩ := runBlock_unblocked (s := { s with main := rest }) h hraised row user
        refine ⟨htold, hiff.trans ?_⟩
        rw [HasRow, hmain, List.head?_cons]
        constructor
        · rintro himp row' user' heq
          cases heq
          exact himp
        · exact fun hall => hall row user rfl

end Step

/-- From the start nothing is raised and every row is there, in every state of a run, exactly if
the table still has the row that was tapped wherever its user is taken out. -/
theorem safe_iff_hasRow (currentUser : Option User) (es : List BlockedTableEvent) :
    AllStates step Safe { currentUser } es ↔ AllSteps step HasRow { currentUser } es := by
  refine allStates_iff_allSteps (I := Told) (fun s ev t hs ht => ?_) (fun s ev t hs hsafe ht => ?_)
    (fun _ => rfl) ⟨rfl, fun row hrow => absurd hrow (Nat.not_lt_zero row)⟩ es
  · by_cases hraised : s.raised = false
    · exact (step_spec hs hraised ht).1
    · rw [step, if_pos (Bool.not_eq_false _ ▸ hraised)] at ht
      cases ht
  · obtain ⟨htold, hiff⟩ := step_spec hs hsafe.1 ht
    exact htold.safe_iff.trans hiff

/-- Two rows are tapped one after the other; the second is gone when its user is taken out. -/
example : (run step { currentUser := some (User.signedUp "a") }
    [.viewWillAppear,
      .answered 0 0 (.ok (some { User.signedUp "a" with
        blockedUsersByCurrentUser := ["b", "c"] }.toDocument)),
      .answered 0 0 (.ok (some (User.signedUp "b").toDocument)),
      .answered 0 0 (.ok (some (User.signedUp "c").toDocument)), .runMain, .runMain,
      .unblockFriendButtonTapped 0, .unblockFriendButtonTapped 1, .runMain, .runMain]).map raised =
    some true := rfl

end BlockedTable

end DriveTribe
