import DriveTribe.Accounts.Copies

/-!
# Repeated friend requests

`sendFriendRequest`, `UserController.swift:288–316`, refuses a request to a user who stands in
the current user's `friends`, `friendsRequestSent` or `blockedUsers`. It looks at the user in
memory, so it decides by what the store said when that user was loaded.
-/

namespace DriveTribe

open Base

/-- The user stands in one of the lists that rule out a request. -/
def UserDocument.RulesOut (d : UserDocument) (user : UserID) : Prop :=
  user ∈ d.relation .friends ∨ user ∈ d.relation .friendsRequestSent ∨
    user ∈ d.relation .blockedUsers

instance (d : UserDocument) (user : UserID) : Decidable (d.RulesOut user) :=
  inferInstanceAs (Decidable (_ ∨ _ ∨ _))

/-- The same in the document of `me`, where there is one. -/
def Users.RulesOut (users : Users) (me user : UserID) : Prop :=
  ∃ d, users me = some d ∧ d.RulesOut user

instance (users : Users) (me user : UserID) : Decidable (users.RulesOut me user) :=
  match h : users me with
  | none => .isFalse fun ⟨_, hd, _⟩ => by simp [h] at hd
  | some d => decidable_of_iff (d.RulesOut user) (by simp [Users.RulesOut, h])

/-- A request is refused exactly by the lists of the user in memory. -/
theorem UserController.sendFriendRequest_refused_iff {me : User} {user : UserID} :
    UserController.sendFriendRequest (some me) user = .refused .repeatRequest ↔
      user ∈ me.friends ∨ user ∈ me.friendsRequestSent ∨ user ∈ me.blockedUsers := by
  rw [sendFriendRequest]
  split
  · next h =>
    refine iff_of_false ?_ ?_
    · intro hissued
      cases hissued
    · rintro (hfriends | hsent | hblocked)
      · exact h.1 hfriends
      · exact h.2.1 hsent
      · exact h.2.2 hblocked
  · next h =>
    refine iff_of_true rfl ?_
    by_contra hnone
    rw [not_or, not_or] at hnone
    exact h hnone

/-- A copy of a document refuses what the document rules out; a new user refuses nobody. -/
theorem CopyOf.refused_iff {me : User} {fetched : Option UserDocument} (h : CopyOf me fetched)
    (user : UserID) :
    UserController.sendFriendRequest (some me) user = .refused .repeatRequest ↔
      ∃ d, fetched = some d ∧ d.RulesOut user := by
  rw [UserController.sendFriendRequest_refused_iff]
  cases fetched with
  | some d =>
    have hsame : me.toDocument = d := h
    rw [← hsame]
    simp only [Option.some.injEq, exists_eq_left', UserDocument.RulesOut]
    exact Iff.rfl
  | none =>
    have hfriends : me.friends = [] := h.2 .friends
    have hsent : me.friendsRequestSent = [] := h.2 .friendsRequestSent
    have hblocked : me.blockedUsers = [] := h.2 .blockedUsers
    rw [hfriends, hsent, hblocked]
    simp only [List.not_mem_nil, or_self, reduceCtorEq, false_and, exists_false]

namespace Registry

/-- A friend request from this client ends with `repeatRequest` and writes nothing. -/
def Refused (s : Registry) (c : ClientID) (user : UserID) : Prop :=
  let outcome := UserController.sendFriendRequest (s.clients c).currentUser user
  outcome = .refused .repeatRequest ∧ outcome.writes = []

instance (s : Registry) (c : ClientID) (user : UserID) : Decidable (s.Refused c user) :=
  inferInstanceAs (Decidable (_ ∧ _))

section
variable {s₀ s : Registry} {es : List RegistryEvent} {c : ClientID} {me : User}

/-- A request is refused where the store rules it out, and only there, exactly if the store
rules it out as it did when the client's user was loaded. -/
theorem refused_iff_iff (h₀ : s₀.Initial) (hrun : run step s₀ es = some s)
    (hme : (s.clients c).currentUser = some me) (user : UserID) :
    (s.Refused c user ↔ s.users.RulesOut me.uuid user) ↔
      ((∃ d, s.fetched c = some d ∧ d.RulesOut user) ↔ s.users.RulesOut me.uuid user) := by
  have hcopy : CopyOf me (s.fetched c) := (copied_run h₀ hrun).clients hme
  have hrefused : s.Refused c user ↔ ∃ d, s.fetched c = some d ∧ d.RulesOut user := by
    rw [← hcopy.refused_iff, Refused, hme]
    constructor
    · exact And.left
    · intro h
      exact ⟨h, by rw [h]; rfl⟩
  rw [hrefused]

end

/-- `a` finds `b` and asks, and both writes land. -/
def askOnce : List RegistryEvent :=
  [.account (.relation (.read (.fetchCurrentUser 0 "a"))),
    .account (.relation (.read (.fetchSpecificUsersBySearchTerm 0 "b"))),
    .account (.relation (.call 0 .sendFriendRequest "b")), .account (.relation (.land 0)),
    .account (.relation (.land 0))]

/-- The condition holds after the next log-in, and the second request is refused. -/
theorem refused_iff_nextLogIn :
    ∃ s, run step (signedUp ["a", "b"])
        (askOnce ++ [.account (.relation (.read (.fetchCurrentUser 0 "a")))]) = some s ∧
      (s.Refused 0 "b" ↔ s.users.RulesOut "a" "b") := by
  obtain ⟨s, hrun, h⟩ := exists_run_of_any step (signedUp ["a", "b"])
    (askOnce ++ [.account (.relation (.read (.fetchCurrentUser 0 "a")))])
    (fun s => decide ((s.clients 0).currentUser.map User.uuid = some "a") &&
      decide ((s.fetched 0).any fun d => d.RulesOut "b") &&
      decide (s.users.RulesOut "a" "b")) (by decide)
  simp only [Bool.and_eq_true, decide_eq_true_eq, Option.any_eq_true] at h
  obtain ⟨⟨huser, hfetched⟩, hrules⟩ := h
  obtain ⟨me, hme, huuid⟩ := Option.map_eq_some_iff.mp huser
  have hiff := refused_iff_iff (signedUp_initial ["a", "b"]) hrun hme "b"
  rw [huuid] at hiff
  exact ⟨s, hrun, hiff.mpr (iff_of_true hfetched hrules)⟩

/-- The second request of one session goes out like the first. -/
theorem not_refused_iff :
    ¬ ∀ (s₀ s : Registry) (es : List RegistryEvent) (c : ClientID) (me : User) (user : UserID),
      s₀.Initial → run step s₀ es = some s → (s.clients c).currentUser = some me →
      (s.Refused c user ↔ s.users.RulesOut me.uuid user) := by
  intro hall
  obtain ⟨s, hrun, h⟩ := exists_run_of_any step (signedUp ["a", "b"]) askOnce
    (fun s => decide ((s.clients 0).currentUser.map User.uuid = some "a") &&
      decide (¬ s.Refused 0 "b") && decide (s.users.RulesOut "a" "b")) (by decide)
  simp only [Bool.and_eq_true, decide_eq_true_eq] at h
  obtain ⟨⟨huser, hgoes⟩, hrules⟩ := h
  obtain ⟨me, hme, huuid⟩ := Option.map_eq_some_iff.mp huser
  have hiff := hall _ s _ 0 me "b" (signedUp_initial ["a", "b"]) hrun hme
  rw [huuid] at hiff
  exact hgoes (hiff.mpr hrules)

end Registry

end DriveTribe
