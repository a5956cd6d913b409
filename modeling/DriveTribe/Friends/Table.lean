import DriveTribe.Accounts.Reads
import DriveTribe.Base.Run
import DriveTribe.Friends.List

/-!
# The table of the friend list

`FriendListTableViewController.swift:50–249`, with the deliveries that reach it. The table asks
for rows below the number it was told when it last reloaded; the mode in which a row is looked up
also changes at events that do not reload.
-/

namespace DriveTribe

open Base

/-- A cell of the table, with the user it is drawn for. -/
inductive TableCell where
  | blank
  | userCell (user : User)
  | friendCell (friend : User)
  | requestCell (friendRequestSent : User)
  | receivedCell (friendReceived : User)
  deriving DecidableEq, Repr

/-- A search that is not answered: the `number`-th that was started, by the account `uid`. -/
structure Search where
  number : Nat
  uid : String
  searchTerm : String
  deriving DecidableEq, Repr

/-- A search that succeeded, with the users it read. -/
structure Found where
  searchTerm : String
  read : List User
  deriving DecidableEq, Repr

/-- The screen. `rows` is what the table was told when it last reloaded. The last four fields are
history: the searches started, the one that succeeded last, the one that had when the results were
last filled, and what the last one started has read. -/
structure FriendTable where
  uid : Option String
  text : String := ""
  isSearching : Bool := false
  selectedScopeButtonIndex : Nat := 0
  users : List User := []
  shown : RelationKey → List User := fun _ => []
  resultsFriendsFromSearching : List User := []
  rows : Nat := 0
  searches : List Search := []
  started : Nat := 0
  lastFound : Option Found := none
  filledFrom : Option Found := none
  currentRead : Option (List User) := none

/-- What can happen to the screen next. -/
inductive TableEvent where
  | viewWillAppear
  | textDidChange (searchText : String)
  | selectedScopeButtonIndexDidChange (selectedScope : Nat)
  | searchBarCancelButtonClicked
  | searchBarTextDidBeginEditing
  | searchBarTextDidEndEditing
  | searchBarSearchButtonClicked
  /-- The `i`-th search is answered. -/
  | searched (i : Nat) (answer : UsersAnswer)
  /-- A fetch of the list calls `completion`. -/
  | fetched (k : RelationKey) (result : FetchResult)
  /-- The success of an operation on the user is reported. -/
  | succeeded (op : RelationOp) (user : User)
  deriving DecidableEq, Repr

namespace FriendTable

/-- The list behind a scope button. -/
def scopeKey : Nat → Option RelationKey
  | 0 => some .friends
  | 1 => some .friendsRequestSent
  | 2 => some .friendsRequestReceived
  | _ => none

/-- `FriendListTableViewController.swift:67–83`. -/
def numberOfRowsInSection (s : FriendTable) : Nat :=
  if s.isSearching then s.resultsFriendsFromSearching.length
  else
    match scopeKey s.selectedScopeButtonIndex with
    | some k => (s.shown k).length
    | none => 0

/-- `FriendListTableViewController.swift:85–187`; `none` is a subscript out of range. -/
def cellForRowAt (s : FriendTable) (row : Nat) : Option TableCell :=
  if s.isSearching then s.resultsFriendsFromSearching[row]?.map .userCell
  else
    match s.selectedScopeButtonIndex with
    | 0 => (s.shown .friends)[row]?.map .friendCell
    | 1 => (s.shown .friendsRequestSent)[row]?.map .requestCell
    | 2 => (s.shown .friendsRequestReceived)[row]?.map .receivedCell
    | _ => some .blank

/-- Ask for the number of rows anew. -/
def reloadData (s : FriendTable) : FriendTable := { s with rows := s.numberOfRowsInSection }

/-- `FriendListTableViewController.swift:279–288`. A search that nobody is signed in for fails at
once. -/
def fetchUsersBySearchTerm (s : FriendTable) (searchTerm : String) : FriendTable :=
  let started := { s with started := s.started + 1, currentRead := none }
  match s.uid with
  | none => started
  | some uid => { started with searches := s.searches ++ [⟨s.started + 1, uid, searchTerm⟩] }

/-- `FriendListTableViewController.swift:193–203`. -/
def textDidChange (s : FriendTable) (searchText : String) : FriendTable :=
  if searchText = "" then
    reloadData { s with text := searchText, resultsFriendsFromSearching := [] }
  else
    let searching := { s with text := searchText, isSearching := true }
    reloadData { searching.fetchUsersBySearchTerm searchText with
      resultsFriendsFromSearching := s.users
      filledFrom := s.lastFound }

/-- `FriendListTableViewController.swift:281–286`. -/
def showSearched (s : FriendTable) : Except NetworkError (List User) → FriendTable
  | .ok users => { s with users }
  | .error _ => s

/-- Remember what a search has read. -/
def remember (s : FriendTable) (search : Search) : Except NetworkError (List User) → FriendTable
  | .ok read => { s with
      lastFound := some ⟨search.searchTerm, read⟩
      currentRead := if search.number = s.started then some read else s.currentRead }
  | .error _ => s

/-- A result of a fetch is shown and the table reloads; a failure is printed. -/
def deliver (s : FriendTable) (k : RelationKey) (result : FetchResult) : FriendTable :=
  match result with
  | .ok _ =>
    reloadData { s with shown := Function.update s.shown k (showFetched (s.shown k) result) }
  | .error _ => s

/-- Take the row of the user out of the list, if there is one. -/
def takeOut (s : FriendTable) (k : RelationKey) (user : User) : FriendTable :=
  if ∃ x ∈ s.shown k, x.uuid = user.uuid then
    reloadData { s with shown := Function.update s.shown k (removeRow (s.shown k) user) }
  else s

/-- One event. -/
def step (strings : StringFunctions) (s : FriendTable) : TableEvent → Option FriendTable
  | .viewWillAppear => some { s with selectedScopeButtonIndex := 0 }
  | .textDidChange searchText => some (s.textDidChange searchText)
  | .selectedScopeButtonIndexDidChange selectedScope =>
    some (reloadData { s with selectedScopeButtonIndex := selectedScope })
  | .searchBarCancelButtonClicked => some (reloadData { s with text := "", isSearching := false })
  | .searchBarTextDidBeginEditing => some { s with isSearching := true }
  | .searchBarTextDidEndEditing => some { s with isSearching := false }
  | .searchBarSearchButtonClicked => some { s with isSearching := false }
  | .searched i answer =>
    match s.searches[i]? with
    | none => none
    | some search =>
      let rest := { s with searches := s.searches.eraseIdx i }
      let found := UserController.fetchSpecificUsersBySearchTerm strings (some search.uid)
        search.searchTerm answer
      some ((found.foldl showSearched rest).remember search (UserController.decodeUsers answer))
  | .fetched k result =>
    if (FriendListTableViewController.view? k).isSome then some (s.deliver k result) else none
  | .succeeded op user =>
    match op, op.list? with
    | _, some k => some (s.takeOut k user)
    | .sendFriendRequest, none => some { s with text := "" }
    | _, none => none

/-- Every row the table may ask for is there. -/
def Safe (s : FriendTable) : Prop := ∀ row < s.rows, (s.cellForRowAt row).isSome

instance (s : FriendTable) : Decidable s.Safe := Nat.decidableBallLT _ _

/-- The list behind the scope button has as many rows as the table asks for. -/
def ScopeFits (s : FriendTable) (selectedScope : Nat) : Prop :=
  ∀ k, scopeKey selectedScope = some k → s.rows ≤ (s.shown k).length

/-- Where an event changes the mode without a reload, the list that is looked up next has as many
rows as the table asks for. -/
def Fits (s : FriendTable) : TableEvent → Prop
  | .viewWillAppear => s.isSearching ∨ s.ScopeFits 0
  | .searchBarTextDidBeginEditing => s.rows ≤ s.resultsFriendsFromSearching.length
  | .searchBarTextDidEndEditing | .searchBarSearchButtonClicked =>
    s.ScopeFits s.selectedScopeButtonIndex
  | _ => True

/-! ### Which rows are there -/

/-- The rows below a number are there exactly if the list is that long. -/
theorem forall_isSome_getElem? (users : List User) (rows : Nat) (cell : User → TableCell) :
    (∀ row < rows, (users[row]?.map cell).isSome) ↔ rows ≤ users.length := by
  simp only [Option.isSome_map, isSome_getElem?]
  constructor
  · intro h
    by_contra hlt
    exact Nat.lt_irrefl _ (h users.length (Nat.not_le.mp hlt))
  · exact fun h row hrow => Nat.lt_of_lt_of_le hrow h

/-- While the user searches, the results are looked up. -/
theorem safe_iff_of_isSearching {s : FriendTable} (h : s.isSearching = true) :
    s.Safe ↔ s.rows ≤ s.resultsFriendsFromSearching.length := by
  simp only [Safe, cellForRowAt, h, if_true, forall_isSome_getElem?]

/-- Otherwise the list behind the scope button is. -/
theorem safe_iff_of_not_isSearching {s : FriendTable} (h : s.isSearching = false) :
    s.Safe ↔ s.ScopeFits s.selectedScopeButtonIndex := by
  rw [Safe, ScopeFits]
  simp only [cellForRowAt, h, Bool.false_eq_true, if_false]
  match s.selectedScopeButtonIndex with
  | 0 => simp only [forall_isSome_getElem?, scopeKey, Option.some.injEq, forall_eq']
  | 1 => simp only [forall_isSome_getElem?, scopeKey, Option.some.injEq, forall_eq']
  | 2 => simp only [forall_isSome_getElem?, scopeKey, Option.some.injEq, forall_eq']
  | n + 3 => simp [scopeKey]

/-- After a reload every row is there. -/
theorem safe_reloadData (s : FriendTable) : s.reloadData.Safe := by
  cases h : s.isSearching with
  | true =>
    rw [safe_iff_of_isSearching (s := s.reloadData) h]
    simp only [reloadData, numberOfRowsInSection, h, if_true, Nat.le_refl]
  | false =>
    rw [safe_iff_of_not_isSearching (s := s.reloadData) h]
    intro k hk
    have hscope : scopeKey s.selectedScopeButtonIndex = some k := hk
    simp only [reloadData, numberOfRowsInSection, h, Bool.false_eq_true, if_false, hscope,
      Nat.le_refl]

private theorem safe_congr {s t : FriendTable} (hsearching : t.isSearching = s.isSearching)
    (hscope : t.selectedScopeButtonIndex = s.selectedScopeButtonIndex)
    (hresults : t.resultsFriendsFromSearching = s.resultsFriendsFromSearching)
    (hshown : t.shown = s.shown) (hrows : t.rows = s.rows) : t.Safe ↔ s.Safe := by
  simp only [Safe, cellForRowAt, hsearching, hscope, hresults, hshown, hrows]

private theorem safe_searched (strings : StringFunctions) (s : FriendTable) (search : Search)
    (answer : UsersAnswer) :
    (((UserController.fetchSpecificUsersBySearchTerm strings (some search.uid)
      search.searchTerm answer).foldl showSearched s).remember search
        (UserController.decodeUsers answer)).Safe ↔ s.Safe := by
  rw [UserController.fetchSpecificUsersBySearchTerm, List.foldl_cons, List.foldl_nil]
  cases UserController.decodeUsers answer with
  | error error => rfl
  | ok read => exact safe_congr rfl rfl rfl rfl rfl

private theorem safe_takeOut {s : FriendTable} (hs : s.Safe) (k : RelationKey) (user : User) :
    (s.takeOut k user).Safe := by
  rw [takeOut]
  split
  · exact safe_reloadData _
  · exact hs

private theorem safe_start (uid : Option String) : Safe { uid } :=
  fun row hrow => absurd hrow (Nat.not_lt_zero row)

/-- A step from a state in which every row is there leads to such a state exactly if the list that
is looked up next is long enough. -/
theorem safe_step_iff {strings : StringFunctions} {s t : FriendTable} {e : TableEvent}
    (hs : s.Safe) (h : s.step strings e = some t) : t.Safe ↔ s.Fits e := by
  cases e with
  | viewWillAppear =>
    obtain rfl := Option.some.inj h
    by_cases hsearching : s.isSearching = true
    · rw [safe_iff_of_isSearching hsearching] at hs
      exact iff_of_true ((safe_iff_of_isSearching (by exact hsearching)).mpr hs) (.inl hsearching)
    · have hnot : s.isSearching = false := Bool.eq_false_iff.mpr hsearching
      rw [safe_iff_of_not_isSearching (by exact hnot), Fits, or_iff_right hsearching]
      rfl
  | textDidChange searchText =>
    obtain rfl := Option.some.inj h
    refine iff_of_true ?_ trivial
    rw [textDidChange]
    split <;> exact safe_reloadData _
  | selectedScopeButtonIndexDidChange selectedScope =>
    obtain rfl := Option.some.inj h
    exact iff_of_true (safe_reloadData _) trivial
  | searchBarCancelButtonClicked =>
    obtain rfl := Option.some.inj h
    exact iff_of_true (safe_reloadData _) trivial
  | searchBarTextDidBeginEditing =>
    obtain rfl := Option.some.inj h
    rw [safe_iff_of_isSearching (by rfl), Fits]
  | searchBarTextDidEndEditing =>
    obtain rfl := Option.some.inj h
    rw [safe_iff_of_not_isSearching (by rfl), Fits]
    rfl
  | searchBarSearchButtonClicked =>
    obtain rfl := Option.some.inj h
    rw [safe_iff_of_not_isSearching (by rfl), Fits]
    rfl
  | searched i answer =>
    rw [step] at h
    split at h
    · cases h
    · obtain rfl := Option.some.inj h
      exact iff_of_true ((safe_searched ..).mpr hs) trivial
  | fetched k result =>
    rw [step] at h
    split at h
    · obtain rfl := Option.some.inj h
      refine iff_of_true ?_ trivial
      cases result with
      | ok users => exact safe_reloadData _
      | error error => exact hs
    · cases h
  | succeeded op user =>
    refine iff_of_true ?_ trivial
    cases op with
    | sendFriendRequest =>
      obtain rfl := Option.some.inj h
      exact hs
    | unblockedUser => cases h
    | blockUser | unfriendUser | cancelFriendRequest | acceptFriendRequest =>
      obtain rfl := Option.some.inj h
      exact safe_takeOut hs _ user

/-- From the start, every row is there in every state of a run exactly if the table asks for few
enough rows wherever the mode changes without a reload. -/
theorem allStates_safe_iff (strings : StringFunctions) (uid : Option String)
    (es : List TableEvent) :
    AllStates (step strings) Safe { uid } es ↔ AllSteps (step strings) Fits { uid } es :=
  allStates_iff_allSteps (I := fun _ => True) (fun _ _ _ _ _ => trivial)
    (fun _ _ _ _ hs h => safe_step_iff hs h) trivial (safe_start uid) es

/-- With one friend in the list, the user taps the search bar and the row is looked up in the
results. -/
theorem not_allStates_safe :
    ¬ AllStates (step .letters) Safe { uid := some "A" }
      [.fetched .friends (.ok [User.signedUp "B"]), .searchBarTextDidBeginEditing] := by
  decide

end FriendTable

end DriveTribe
