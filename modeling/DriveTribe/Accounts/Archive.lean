import DriveTribe.Accounts.Copies

/-!
# What is archived of a deleted account

The archive is written from the user object in memory, which nothing refreshes between
log-in and deletion. So it keeps the content the document is deleted with exactly if the
object was fetched from a document of that content; what a sign-up returns was fetched from
none, and has no account in it.
-/

namespace DriveTribe

open Base

namespace Registry

/-- The event creates no account without an id; Firebase creates none. -/
def NamesAccount : RegistryEvent → Prop
  | .account (.accountCreated _ authID _) => authID ≠ ""
  | _ => True

instance : ∀ ev, Decidable (NamesAccount ev)
  | .account (.accountCreated _ authID _) => inferInstanceAs (Decidable (authID ≠ ""))
  | .account (.relation _) | .account (.locate _ _ _) | .account (.signUp _ _ _ _)
  | .account (.accountRefused _) | .account (.updateUserProfile _ _ _ _ _)
  | .account (.updateUserLocation _ _) | .account (.landUpdate _) | .account (.failUpdate _)
  | .account (.stop _) | .deleteUser _ | .succeed _ | .fail _ => .isTrue True.intro

/-- Every document names an account, and so does every document that was deleted. -/
structure Named (s : Registry) : Prop where
  users : ∀ {id d}, s.users id = some d → d.authID ≠ some ""
  creations : ∀ x ∈ s.creations, x.authID ≠ ""
  lastContent : ∀ {id d}, s.lastContent id = some d → d.authID ≠ some ""

section Named
variable {s t : Registry}

/-- A document that is deleted has named its account. -/
theorem Named.delete (h : s.Named) (user : UserID) : Named { s with
    users := Base.deleteDocument s.users user
    lastContent :=
      Function.update s.lastContent user ((s.users user).or (s.lastContent user)) } where
  users {id d} hd := by
    by_cases hid : id = user
    · subst hid
      simp only [deleteDocument_self, reduceCtorEq] at hd
    · simp only [deleteDocument_of_ne _ hid] at hd
      exact h.users hd
  creations := h.creations
  lastContent {id d} hd := by
    by_cases hid : id = user
    · subst hid
      simp only [Function.update_self, Option.or_eq_some_iff] at hd
      rcases hd with hd | ⟨-, hd⟩
      · exact h.users hd
      · exact h.lastContent hd
    · simp only [Function.update_of_ne hid] at hd
      exact h.lastContent hd

/-- An answer creates no document. -/
theorem Named.perform (h : s.Named) (x : RemovalRequest) : (s.perform x).Named := by
  rcases perform_cases s x with ⟨user, fetched, removals, -, -, hperform⟩ | ⟨y, hperform, hy⟩
  · rw [hperform]
    exact ⟨h.users, h.creations, h.lastContent⟩
  · have hnamed : y.Named := by
      rcases hy with rfl | ⟨user, rfl⟩
      · exact h
      · exact h.delete user
    rcases hperform with hperform | hperform <;> rw [hperform]
    · exact hnamed
    · exact ⟨hnamed.users, hnamed.creations, hnamed.lastContent⟩

/-- Where every account has an id, every document goes on naming one. -/
theorem Named.step (h : s.Named) {ev : RegistryEvent} (hev : NamesAccount ev)
    (hstep : s.step ev = some t) : t.Named := by
  cases ev with
  | account ev =>
    obtain ⟨x, hx, rfl⟩ := step_account hstep
    refine ⟨?_, ?_, h.lastContent⟩
    · intro id d hd
      rcases Accounts.authID_of_step hx hd with ⟨account, hmem, hauth⟩ | ⟨d₀, hd₀, hauth⟩
      · rw [hauth]
        exact fun he => h.creations account hmem (Option.some.inj he)
      · rw [hauth]
        exact h.users hd₀
    · intro account hmem
      rcases Accounts.creations_step hx hmem with hmem | ⟨i, rfl⟩
      · exact h.creations account hmem
      · exact hev
  | deleteUser c =>
    obtain ⟨me, -, rfl⟩ := step_deleteUser hstep
    exact ⟨h.users, h.creations, h.lastContent⟩
  | succeed i =>
    obtain ⟨x, -, rfl⟩ := step_succeed hstep
    have hrest : Named { s with removals := s.removals.eraseIdx i } :=
      ⟨h.users, h.creations, h.lastContent⟩
    exact hrest.perform x
  | fail i =>
    rw [step_fail hstep]
    exact ⟨h.users, h.creations, h.lastContent⟩

/-- Before anything happened, where every document names an account. -/
theorem Initial.named (h : s.Initial) (husers : ∀ id d, s.users id = some d → d.authID ≠ some "") :
    s.Named where
  users hd := husers _ _ hd
  creations x hx := by
    rw [Accounts.creations, h.accounts.updates] at hx
    cases hx
  lastContent {id} _ hd := by
    rw [h.lastContent id] at hd
    cases hd

/-- The archive of a user has the content the document was deleted with exactly if the archived
user was fetched from a document of that content. -/
theorem archived_eq_iff {s₀ : Registry} {es : List RegistryEvent} (h₀ : s₀.Initial)
    (husers : ∀ id d, s₀.users id = some d → d.authID ≠ some "") (hes : ∀ ev ∈ es, NamesAccount ev)
    (hrun : run step s₀ es = some s) {id : UserID} {a d : UserDocument}
    (harchived : s.deletedUsers id = some a) (hdeleted : s.lastContent id = some d) :
    a = d ↔ s.archivedFrom id = some d := by
  have hnamed : s.Named :=
    run_invariant_of_steps (C := fun _ ev => NamesAccount ev)
      (fun _ _ _ h hev hstep => Named.step h hev hstep) (h₀.named husers)
      (allSteps_of_forall hes s₀) hrun
  obtain ⟨user, rfl, hcopy⟩ := (copied_run h₀ hrun).archives harchived
  cases hfrom : s.archivedFrom id with
  | some d' =>
    rw [hfrom] at hcopy
    have hsame : user.toDocument = d' := hcopy
    rw [hsame, Option.some.injEq]
  | none =>
    rw [hfrom] at hcopy
    have hauth : user.toDocument.authID = some "" := congrArg some hcopy.1
    refine iff_of_false ?_ ?_
    · intro he
      exact hnamed.lastContent hdeleted (he ▸ hauth)
    · intro hnone
      cases hnone

end Named

private theorem signedUp_named {ids : List UserID} (hids : "" ∉ ids) :
    ∀ id d, (signedUp ids).users id = some d → d.authID ≠ some "" := by
  intro id d hd
  simp only [signedUp, Accounts.signedUp, System.signedUp, Users.signedUp,
    Option.ite_none_right_eq_some, Option.some.injEq] at hd
  obtain ⟨hid, rfl⟩ := hd
  intro he
  have hempty : id = "" := Option.some.inj he
  exact hids (hempty ▸ hid)

/-- `a` logs in and deletes the account. -/
def logInAndDelete : List RegistryEvent :=
  [.account (.relation (.read (.fetchCurrentUser 0 "a"))), .deleteUser 0, .succeed 0, .succeed 0]

/-- The condition holds where nothing is written between the log-in and the deletion. -/
theorem archived_eq_logInAndDelete :
    ∃ s a d, run step (signedUp ["a"]) logInAndDelete = some s ∧ s.deletedUsers "a" = some a ∧
      s.lastContent "a" = some d ∧ a = d := by
  obtain ⟨s, hrun, h⟩ := exists_run_of_any step (signedUp ["a"]) logInAndDelete
    (fun s => decide (s.deletedUsers "a" ≠ none ∧ s.lastContent "a" ≠ none ∧
      s.archivedFrom "a" = s.lastContent "a")) (by decide)
  rw [decide_eq_true_eq] at h
  obtain ⟨harchived, hdeleted, hfrom⟩ := h
  obtain ⟨a, ha⟩ := Option.ne_none_iff_exists'.mp harchived
  obtain ⟨d, hd⟩ := Option.ne_none_iff_exists'.mp hdeleted
  have husers := signedUp_named (show "" ∉ ["a"] by decide)
  refine ⟨s, a, d, hrun, ha, hd, ?_⟩
  apply (archived_eq_iff (signedUp_initial ["a"]) husers (by decide) hrun ha hd).mpr
  rw [hfrom, hd]

/-- A new user signs up and deletes the account. -/
def signUpAndDelete : List RegistryEvent :=
  [.account (.locate 0 ⟨1⟩ ⟨2⟩), .account (.signUp 0 "A" "B" "ab"),
    .account (.accountCreated 0 "x" "a"), .account (.landUpdate 0), .deleteUser 0, .succeed 0,
    .succeed 0]

/-- The archive of a new user names no account. -/
theorem not_archived_eq :
    ¬ ∀ (s₀ s : Registry) (es : List RegistryEvent) (id : UserID) (a d : UserDocument),
      s₀.Initial → (∀ id d, s₀.users id = some d → d.authID ≠ some "") →
      (∀ ev ∈ es, NamesAccount ev) → run step s₀ es = some s → s.deletedUsers id = some a →
      s.lastContent id = some d → a = d := by
  intro hall
  obtain ⟨s, hrun, h⟩ := exists_run_of_any step (signedUp []) signUpAndDelete
    (fun s => decide (s.deletedUsers "a" ≠ none ∧ s.lastContent "a" ≠ none ∧
      s.deletedUsers "a" ≠ s.lastContent "a")) (by decide)
  rw [decide_eq_true_eq] at h
  obtain ⟨harchived, hdeleted, hne⟩ := h
  obtain ⟨a, ha⟩ := Option.ne_none_iff_exists'.mp harchived
  obtain ⟨d, hd⟩ := Option.ne_none_iff_exists'.mp hdeleted
  have hempty := signedUp_named (List.not_mem_nil (a := ""))
  have heq := hall _ s _ "a" a d (signedUp_initial []) hempty (by decide) hrun ha hd
  rw [ha, hd, heq] at hne
  exact hne rfl

end Registry

end DriveTribe
