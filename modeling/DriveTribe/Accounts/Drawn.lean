import DriveTribe.Accounts.NewAccounts
import DriveTribe.Accounts.System

/-!
# New accounts in every run

What is in flight at any time are documents of new accounts whose ids and accounts are unused,
and updates of documents that are there.
-/

namespace DriveTribe

open Base

namespace Accounts

/-- The documents of new accounts that are in flight. -/
def creations (s : Accounts) : List NewAccount := s.updates.filterMap fun u => u.write.account?

/-- What holds of new accounts in every run: their ids and accounts are new, so no document is
ever written over another. -/
abbrev Drawn (s : Accounts) : Prop := Unwritten s.users s.usedIDs s.usedAuthIDs s.creations

section Drawn
variable {s t : Accounts}

private theorem creations_send (s : Accounts) (c : ClientID) (w : UserWrite) :
    (s.send c w).creations = s.creations ++ w.account?.toList := by
  rw [creations, send, List.filterMap_append]
  cases h : w.account? <;> simp [creations, h]

/-- An update creates nothing at all. -/
theorem creations_update {c : ClientID} {w : UserWrite} (h : w.account? = none) :
    (s.send c w).creations = s.creations := by
  rw [creations_send, h, Option.toList_none, List.append_nil]

/-- What is in flight when a process ends stays in flight. -/
theorem creations_stopped (s : Accounts) (c : ClientID) :
    (s.stopped c).creations = s.creations := by
  have hwrite : ∀ u : UserUpdate,
      (if u.client = c then { u with awaited := false } else u).write = u.write := by
    intro u
    split <;> rfl
  simp only [creations, stopped, List.filterMap_map, Function.comp_def, hwrite]

private theorem creations_acknowledge (s : Accounts) (c : ClientID) (w : UserWrite) :
    (s.acknowledge c w).creations = s.creations := by
  cases w with
  | createUser account => rfl
  | updateUserProfile | addLongitude => rfl
  | deleteLocation user =>
    rw [acknowledge]
    split
    · exact creations_stopped s c
    · exact creations_update rfl
  | addLatitude user x =>
    rw [acknowledge]
    split
    · exact creations_stopped s c
    · exact creations_update rfl

/-- A relation write keeps every document's account. -/
private theorem docs_land {w : RelationWrite} {users users' : Users}
    (h : w.land users = some users') {id : UserID} {d : UserDocument} (hd : users' id = some d) :
    ∃ d₀, users id = some d₀ ∧ d.authID = d₀.authID := by
  have hsome := updateData_isSome h id
  rw [hd, Option.isSome_some] at hsome
  obtain ⟨d₀, hd₀⟩ := Option.isSome_iff_exists.mp hsome.symm
  obtain ⟨d', hd', hauth⟩ := RelationWrite.authID_land h hd₀
  rw [hd, Option.some.injEq] at hd'
  subst hd'
  exact ⟨d₀, hd₀, hauth⟩

private theorem creations_eraseIdx {i : Nat} {u : UserUpdate} (hu : s.updates[i]? = some u) :
    ∃ pre post : List NewAccount, s.creations = pre ++ (u.write.account?.toList ++ post) ∧
      ((s.updates.eraseIdx i).filterMap fun v => v.write.account?) = pre ++ post :=
  filterMap_eraseIdx hu fun v => v.write.account?

private theorem creations_landUpdate {i : Nat} (h : s.step (.landUpdate i) = some t) :
    t.creations = (s.updates.eraseIdx i).filterMap fun u => u.write.account? := by
  obtain ⟨u, users, -, -, rfl⟩ := step_landUpdate h
  split
  · exact creations_acknowledge ..
  · rfl

/-- Only a sign-up whose account is created sends out a new document. -/
theorem creations_step {ev : AccountEvent} (hstep : s.step ev = some t) {x : NewAccount}
    (hx : x ∈ t.creations) : x ∈ s.creations ∨ ∃ i, ev = .accountCreated i x.authID x.uuid := by
  cases ev with
  | relation ev =>
    obtain ⟨y, -, rfl⟩ := Option.map_eq_some_iff.mp hstep
    exact .inl hx
  | locate c latitude longitude =>
    cases hstep
    exact .inl hx
  | signUp c firstName lastName userName | accountRefused i =>
    simp only [Accounts.step, Option.ite_none_right_eq_some, Option.some.injEq] at hstep
    obtain ⟨-, rfl⟩ := hstep
    exact .inl hx
  | failUpdate i =>
    simp only [Accounts.step, Option.ite_none_right_eq_some, Option.some.injEq] at hstep
    obtain ⟨-, rfl⟩ := hstep
    exact .inl (((List.eraseIdx_sublist s.updates i).filterMap _).subset hx)
  | stop c =>
    cases hstep
    rw [creations_stopped] at hx
    exact .inl hx
  | updateUserProfile c firstName lastName userName carInfo =>
    rcases step_updateUserProfile hstep with rfl | ⟨me, -, rfl⟩
    · exact .inl hx
    · rw [creations_update rfl] at hx
      exact .inl hx
  | updateUserLocation c location =>
    rcases step_updateUserLocation hstep with rfl | ⟨me, -, rfl⟩
    · exact .inl hx
    · rw [creations_update rfl] at hx
      exact .inl hx
  | accountCreated i authID uuid =>
    obtain ⟨y, -, -, -, rfl⟩ := step_accountCreated hstep
    rw [creations_send] at hx
    rcases List.mem_append.mp hx with hx | hx
    · exact .inl hx
    · rw [Option.mem_toList, UserWrite.account?, Option.some.injEq] at hx
      subst hx
      exact .inr ⟨i, rfl⟩
  | landUpdate i =>
    rw [creations_landUpdate hstep] at hx
    exact .inl (((List.eraseIdx_sublist s.updates i).filterMap _).subset hx)

/-- A document keeps to its account, or it is one that a sign-up has just created. -/
theorem authID_of_step {ev : AccountEvent} (hstep : s.step ev = some t) {id : UserID}
    {d : UserDocument} (hd : t.users id = some d) :
    (∃ x ∈ s.creations, d.authID = some x.authID) ∨
      ∃ d₀, s.users id = some d₀ ∧ d.authID = d₀.authID := by
  rcases users_step hstep with ⟨hsame, -⟩ | ⟨i, w, -, -, hland⟩ | ⟨i, u, -, hu, hland⟩
  · rw [hsame] at hd
    exact .inr ⟨d, hd, rfl⟩
  · exact .inr (docs_land hland hd)
  · obtain ⟨hdoc, hne⟩ := UserWrite.land_eq_some hland
    by_cases hid : id = u.write.user
    · subst hid
      rcases hdoc with ⟨account, hw, hnew⟩ | ⟨hupdate, d₀, hd₀, hd'⟩
      · left
        refine ⟨account, List.mem_filterMap.mpr ⟨u, List.mem_of_getElem? hu, by rw [hw]; rfl⟩, ?_⟩
        rw [hw, UserWrite.user, hnew, Option.some.injEq] at hd
        rw [← hd]
        rfl
      · rw [hd', Option.some.injEq] at hd
        exact .inr ⟨d₀, hd₀, hd ▸ (UserWrite.change_keeps hupdate d₀).2.1⟩
    · rw [hne id hid] at hd
      exact .inr ⟨d, hd, rfl⟩

/-- The document of a new account that is in flight is not there yet. -/
theorem Drawn.users_eq_none (h : s.Drawn) {i : Nat} {u : UserUpdate} {account : NewAccount}
    (hu : s.updates[i]? = some u) (hw : u.write = .createUser account) :
    s.users account.uuid = none ∧
      ∀ id d, s.users id = some d → d.authID ≠ some account.authID := by
  have hmem : account ∈ s.creations :=
    List.mem_filterMap.mpr ⟨u, List.mem_of_getElem? hu, by rw [hw]; rfl⟩
  obtain ⟨-, -, hnone, hother⟩ := h.unwritten account hmem
  exact ⟨hnone, hother⟩

/-- Ids and accounts stay new. -/
theorem Drawn.step (h : s.Drawn) {ev : AccountEvent} (hstep : s.step ev = some t) : t.Drawn := by
  have hself : ∀ id d, s.users id = some d → ∃ d₀, s.users id = some d₀ ∧ d.authID = d₀.authID :=
    fun id d hd => ⟨d, hd, rfl⟩
  cases ev with
  | relation ev =>
    obtain ⟨x, hx, rfl⟩ := Option.map_eq_some_iff.mp hstep
    refine h.of_docs ?_ (List.Sublist.refl _)
    rcases users_step_relation hx with hsame | ⟨i, w, -, -, hland⟩
    · rw [hsame]
      exact hself
    · exact fun id d hd => docs_land hland hd
  | locate c latitude longitude =>
    cases hstep
    exact h
  | signUp c firstName lastName userName | accountRefused i =>
    simp only [Accounts.step, Option.ite_none_right_eq_some, Option.some.injEq] at hstep
    obtain ⟨-, rfl⟩ := hstep
    exact h
  | failUpdate i =>
    simp only [Accounts.step, Option.ite_none_right_eq_some, Option.some.injEq] at hstep
    obtain ⟨-, rfl⟩ := hstep
    exact h.sublist ((List.eraseIdx_sublist s.updates i).filterMap _)
  | stop c =>
    cases hstep
    apply h.sublist
    rw [creations_stopped]
  | updateUserProfile c firstName lastName userName carInfo =>
    rcases step_updateUserProfile hstep with rfl | ⟨me, -, rfl⟩
    · exact h
    · apply h.sublist
      rw [creations_update rfl]
  | updateUserLocation c location =>
    rcases step_updateUserLocation hstep with rfl | ⟨me, -, rfl⟩
    · exact h
    · apply h.sublist
      show (s.send c _).creations.Sublist s.creations
      rw [creations_update rfl]
  | accountCreated i authID uuid =>
    obtain ⟨x, -, hauthID, huuid, rfl⟩ := step_accountCreated hstep
    rw [Drawn, creations_send]
    exact h.accountCreated (x := ⟨x.firstName, x.lastName, x.userName,
      s.lastCurrentLocation x.client, uuid, authID⟩) huuid hauthID
  | landUpdate i =>
    obtain ⟨u, users, hu, hland, hsame, hids, hauthIDs, -⟩ := sameRelations_landUpdate hstep
    have husers : t.users = users := hsame.users
    obtain ⟨pre, post, hbefore, hafter⟩ := creations_eraseIdx hu
    have hcreations : t.creations = pre ++ post := (creations_landUpdate hstep).trans hafter
    -- A creation that lands turns its drawn id into that of a document.
    rw [Drawn, hbefore] at h
    rw [Drawn, husers, hids, hauthIDs, hcreations]
    obtain ⟨hdoc, hne⟩ := UserWrite.land_eq_some hland
    rcases hdoc with ⟨account, hw, hnew⟩ | ⟨hupdate, d, hd, hd'⟩
    · rw [hw] at h hne
      exact h.created hnew hne
    · have hnone : u.write.account? = none := by
        cases hw : u.write with
        | createUser account => exact absurd hw (hupdate account)
        | updateUserProfile | deleteLocation | addLatitude | addLongitude => rfl
      rw [hnone] at h
      refine h.of_docs ?_ (List.Sublist.refl _)
      intro id d' hd''
      by_cases hid : id = u.write.user
      · subst hid
        rw [hd', Option.some.injEq] at hd''
        subst hd''
        exact ⟨d, hd, (UserWrite.change_keeps hupdate d).2.1⟩
      · rw [hne id hid] at hd''
        exact ⟨d', hd'', rfl⟩

/-- Nothing is drawn before anything happened. -/
theorem Initial.drawn (h : s.Initial) : s.Drawn := by
  rw [Drawn, creations, h.updates]
  exact Unwritten.of_nil h.usedIDs h.usedAuthIDs

end Drawn

end Accounts

end DriveTribe
