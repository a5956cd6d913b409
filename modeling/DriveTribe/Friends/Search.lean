import DriveTribe.Friends.Table

/-!
# What a search shows

An edit starts a search and fills the results at once, from what the searches before it have
found; the answer comes later and goes to `users`, which nothing shows until the next edit.
-/

namespace DriveTribe

open Base

/-- The users read whose names contain the text. -/
def Found.users (strings : StringFunctions) (found : Found) : List User :=
  found.read.filter fun user => strings.matches found.searchTerm user.userName

/-- Nobody is found before a search succeeds. -/
def foundUsers (strings : StringFunctions) : Option Found → List User
  | none => []
  | some found => found.users strings

namespace FriendTable

/-- Once the search for the text has succeeded, the results are the users it read whose names
contain the text. -/
def ShowsCurrent (strings : StringFunctions) (s : FriendTable) : Prop :=
  ∀ read, s.currentRead = some read → ∀ user, user ∈ s.resultsFriendsFromSearching ↔
    user ∈ read ∧ strings.matches s.text user.userName

/-- Once the search for the text has succeeded, it has found nobody else than the search that
had succeeded last before the edit. -/
def CaughtUp (strings : StringFunctions) (s : FriendTable) : Prop :=
  ∀ read, s.currentRead = some read → ∀ user, user ∈ foundUsers strings s.filledFrom ↔
    user ∈ read ∧ strings.matches s.text user.userName

/-- Where the two lists of users come from. -/
structure Traced (strings : StringFunctions) (s : FriendTable) : Prop where
  users : s.users = foundUsers strings s.lastFound
  results : s.text ≠ "" → s.resultsFriendsFromSearching = foundUsers strings s.filledFrom

/-- Nothing is traced at the start. -/
theorem traced_start (strings : StringFunctions) (uid : Option String) :
    Traced strings { uid } :=
  ⟨rfl, fun h => absurd rfl h⟩

private theorem users_fetchUsersBySearchTerm (s : FriendTable) (searchTerm : String) :
    (s.fetchUsersBySearchTerm searchTerm).users = s.users ∧
    (s.fetchUsersBySearchTerm searchTerm).lastFound = s.lastFound := by
  rw [fetchUsersBySearchTerm]
  cases s.uid <;> exact ⟨rfl, rfl⟩

namespace Traced

variable {strings : StringFunctions} {s : FriendTable}

/-- An edit fills the results from what the searches have found. -/
theorem textDidChange (h : s.Traced strings) (searchText : String) :
    (s.textDidChange searchText).Traced strings := by
  rw [FriendTable.textDidChange]
  split
  · next hempty => exact ⟨h.users, fun hne => absurd hempty hne⟩
  · obtain ⟨husers, hfound⟩ := users_fetchUsersBySearchTerm
      { s with text := searchText, isSearching := true } searchText
    refine ⟨?_, fun _ => h.users⟩
    rw [reloadData, husers, hfound]
    exact h.users

/-- The answer to a search replaces the users, if it is a success. -/
theorem searched (h : s.Traced strings) (search : Search) (answer : UsersAnswer) :
    (((UserController.fetchSpecificUsersBySearchTerm strings (some search.uid)
      search.searchTerm answer).foldl showSearched s).remember search
        (UserController.decodeUsers answer)).Traced strings := by
  rw [UserController.fetchSpecificUsersBySearchTerm, List.foldl_cons, List.foldl_nil]
  cases UserController.decodeUsers answer with
  | error error => exact h
  | ok read => exact ⟨rfl, h.results⟩

/-- A step keeps track of where the users come from. -/
theorem step {t : FriendTable} {e : TableEvent} (h : s.Traced strings)
    (hstep : s.step strings e = some t) : t.Traced strings := by
  cases e with
  | textDidChange searchText =>
    obtain rfl := Option.some.inj hstep
    exact h.textDidChange searchText
  | searchBarCancelButtonClicked =>
    obtain rfl := Option.some.inj hstep
    exact ⟨h.users, fun hne => absurd rfl hne⟩
  | viewWillAppear | selectedScopeButtonIndexDidChange selectedScope
  | searchBarTextDidBeginEditing | searchBarTextDidEndEditing | searchBarSearchButtonClicked =>
    obtain rfl := Option.some.inj hstep
    exact ⟨h.users, h.results⟩
  | searched i answer =>
    rw [FriendTable.step] at hstep
    split at hstep
    · cases hstep
    · next search hsearch =>
      obtain rfl := Option.some.inj hstep
      exact Traced.searched (s := { s with searches := s.searches.eraseIdx i })
        ⟨h.users, h.results⟩ search answer
  | fetched k result =>
    rw [FriendTable.step] at hstep
    split at hstep
    · obtain rfl := Option.some.inj hstep
      cases result <;> exact ⟨h.users, h.results⟩
    · cases hstep
  | succeeded op user =>
    cases op with
    | sendFriendRequest =>
      obtain rfl := Option.some.inj hstep
      exact ⟨h.users, fun hne => absurd rfl hne⟩
    | unblockedUser => cases hstep
    | blockUser | unfriendUser | cancelFriendRequest | acceptFriendRequest =>
      obtain rfl := Option.some.inj hstep
      rw [takeOut]
      split <;> exact ⟨h.users, h.results⟩

end Traced

/-- After every run, a text that is not empty has its results exactly if its search has found
nobody else than the search that had succeeded last before the edit. -/
theorem showsCurrent_iff {strings : StringFunctions} {uid : Option String}
    {es : List TableEvent} {s : FriendTable} (hrun : run (step strings) { uid } es = some s)
    (htext : s.text ≠ "") : s.ShowsCurrent strings ↔ s.CaughtUp strings := by
  have htraced : s.Traced strings :=
    run_invariant (fun _ _ _ h hstep => h.step hstep) (traced_start strings uid) hrun
  rw [ShowsCurrent, CaughtUp, htraced.results htext]

/-- Two people called alike. -/
def annAndAmy : UsersAnswer :=
  .snapshot [(User.signedUp "ann").toDocument, (User.signedUp "amy").toDocument]

/-- A text is typed whose first letter has found both. -/
def typesAn : List TableEvent :=
  [.textDidChange "a", .searched 0 annAndAmy, .textDidChange "an", .searched 0 annAndAmy]

/-- A text that finds the same is right. -/
theorem showsCurrent_typesAnn :
    ∃ s, run (step .letters) { uid := some "A" } (typesAn ++
        [.textDidChange "ann", .searched 0 annAndAmy]) = some s ∧ s.ShowsCurrent .letters := by
  obtain ⟨s, hrun, h⟩ := exists_run_of_any (step .letters) { uid := some "A" }
    (typesAn ++ [.textDidChange "ann", .searched 0 annAndAmy]) (fun s => decide (s.text = "ann") &&
      decide (s.currentRead = some [User.signedUp "ann", User.signedUp "amy"]) &&
      decide (foundUsers .letters s.filledFrom = [User.signedUp "ann"]))
    (by decide)
  simp only [Bool.and_eq_true, decide_eq_true_eq] at h
  obtain ⟨⟨htext, hread⟩, hfound⟩ := h
  refine ⟨s, hrun, (showsCurrent_iff hrun (by rw [htext]; decide)).mpr ?_⟩
  intro read hread' user
  rw [hread, Option.some.injEq] at hread'
  have hfilter : [User.signedUp "ann"] = read.filter fun user =>
      StringFunctions.letters.matches "ann" user.userName := by
    rw [← hread']
    decide
  rw [hfound, htext, hfilter, List.mem_filter]

/-- With all searches answered, the results are still those of the first letter. -/
theorem not_showsCurrent :
    ¬ ∀ (strings : StringFunctions) (uid : Option String) (es : List TableEvent)
      (s : FriendTable), run (step strings) { uid } es = some s → s.searches = [] →
        s.text ≠ "" → s.ShowsCurrent strings := by
  intro hall
  obtain ⟨s, hrun, h⟩ := exists_run_of_any (step .letters) { uid := some "A" } typesAn
    (fun s => s.searches.isEmpty && decide (s.text = "an") &&
      decide (s.currentRead = some [User.signedUp "ann", User.signedUp "amy"]) &&
      decide (User.signedUp "amy" ∈ s.resultsFriendsFromSearching)) (by decide)
  simp only [Bool.and_eq_true, decide_eq_true_eq, List.isEmpty_iff] at h
  obtain ⟨⟨⟨hsearches, htext⟩, hread⟩, hamy⟩ := h
  have hshows := hall _ _ _ s hrun hsearches (by rw [htext]; decide) _ hread
    (User.signedUp "amy")
  have hmatches := (hshows.mp hamy).2
  rw [htext] at hmatches
  revert hmatches
  decide

end FriendTable

end DriveTribe
