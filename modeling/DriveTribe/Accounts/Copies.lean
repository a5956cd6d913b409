import DriveTribe.Accounts.Registry

/-!
# Where the user in memory comes from

A client's user is what was fetched at log-in, or what a sign-up has returned, and nothing
that happens later refreshes it. So it stays a copy of one document as it was at one moment,
and what `deleteUser` archives is such a copy.
-/

namespace DriveTribe

open Base

/-- The user is a copy of the fetched document, or of no document: the user a sign-up returns
has no account and no relations. -/
def CopyOf (user : User) : Option UserDocument → Prop
  | some d => user.toDocument = d
  | none => user.authID = "" ∧ ∀ k, user.relation k = []

private theorem copyOf_newUser (account : NewAccount) : CopyOf account.newUser none := by
  refine ⟨rfl, fun k => ?_⟩
  cases k <;> rfl

private theorem copyOf_user? {x : Session} {id : UserID} {me : User} (h : x.user? id = some me) :
    CopyOf me (x.users id) := by
  obtain ⟨d, hd, hdec⟩ := Option.bind_eq_some_iff.mp h
  rw [hd]
  exact User.toDocument_of_ofDocument hdec

/-- Replacing a client by one that has the same user, or none, gives no client another. -/
theorem Session.currentUser_setClient {x : Session} {c c' : ClientID} {client : Client} {me : User}
    (hclient : client.currentUser = some me → (x.clients c').currentUser = some me)
    (h : ((x.setClient c' client).clients c).currentUser = some me) :
    (x.clients c).currentUser = some me := by
  by_cases hc : c = c'
  · subst hc
    rw [clients_setClient_self] at h
    exact hclient h
  · rw [clients_setClient_of_ne x client hc] at h
    exact h

private theorem Session.loads_read {x y : Session} {c : ClientID} {me : User} {r : Read}
    (hread : x.read r = some y) (h : (y.clients c).currentUser = some me) :
    (∃ id, r = .fetchCurrentUser c id ∧ CopyOf me (x.users id)) ∨
      (∀ id, r ≠ .fetchCurrentUser c id) ∧ (x.clients c).currentUser = some me := by
  obtain ⟨c', id, me', rfl, hme', rfl⟩ | ⟨c', id, uid, u, rfl, -, -, -, rfl⟩ |
    ⟨c', k', me', userData, rfl, -, -, rfl⟩ := read_eq_some hread
  · by_cases hc : c = c'
    · subst hc
      rw [clients_setClient_self, Option.some.injEq] at h
      subst h
      exact .inl ⟨id, rfl, copyOf_user? hme'⟩
    · rw [clients_setClient_of_ne x _ hc] at h
      refine .inr ⟨fun id' he => ?_, h⟩
      cases he
      exact hc rfl
  · refine .inr ⟨nofun, currentUser_setClient ?_ h⟩
    exact fun hme => hme
  · refine .inr ⟨nofun, currentUser_setClient ?_ h⟩
    exact fun hme => hme

namespace Accounts

section Loads
variable {s t : Accounts} {c c' : ClientID} {me : User}

private theorem currentUser_stopped (h : ((s.stopped c').clients c).currentUser = some me) :
    (s.clients c).currentUser = some me := by
  have hset : ((s.toSession.setClient c' Client.loggedOut).clients c).currentUser = some me := h
  exact Session.currentUser_setClient (fun hnone => by cases hnone) hset

/-- An acknowledgement loads the user of a sign-up, and no other. -/
theorem currentUser_acknowledge {w : UserWrite}
    (h : ((s.acknowledge c' w).clients c).currentUser = some me) :
    (c = c' ∧ ∃ account, w = .createUser account ∧ me = account.newUser) ∨
      (∀ account, c = c' → w ≠ .createUser account) ∧ (s.clients c).currentUser = some me := by
  cases w with
  | createUser account =>
    by_cases hc : c = c'
    · subst hc
      rw [acknowledge, clients_setClient_self, Option.some.injEq] at h
      exact .inl ⟨rfl, account, rfl, h.symm⟩
    · rw [acknowledge, clients_setClient_of_ne s _ hc] at h
      exact .inr ⟨fun _ he => absurd he hc, h⟩
  | updateUserProfile | addLongitude =>
    refine .inr ⟨?_, h⟩
    intro account _ he
    cases he
  | deleteLocation user =>
    refine .inr ⟨?_, ?_⟩
    · intro account _ he
      cases he
    · rw [acknowledge] at h
      split at h
      · exact currentUser_stopped h
      · exact h
  | addLatitude user x =>
    refine .inr ⟨?_, ?_⟩
    · intro account _ he
      cases he
    · rw [acknowledge] at h
      split at h
      · exact currentUser_stopped h
      · exact h

/-- An event that loads nobody loads no user of this client. -/
theorem not_loads {ev : AccountEvent} (h : s.loads ev = none) :
    ∀ d, s.loads ev ≠ some (c, d) := by
  intro d hd
  rw [h] at hd
  cases hd

private theorem currentUser_relation {ev : Event} {x : System} (hstep : s.toSystem.step ev = some x)
    (h : (x.clients c).currentUser = some me) :
    (∃ d, s.loads (.relation ev) = some (c, d) ∧ CopyOf me d) ∨
      (∀ d, s.loads (.relation ev) ≠ some (c, d)) ∧ (s.clients c).currentUser = some me := by
  cases ev with
  | read r =>
    obtain ⟨y, hy, -, rfl⟩ := System.step_read hstep
    rcases Session.loads_read hy h with ⟨id, rfl, hcopy⟩ | ⟨hne, hsame⟩
    · exact .inl ⟨s.users id, rfl, hcopy⟩
    · refine .inr ⟨fun d hd => ?_, hsame⟩
      cases r with
      | fetchCurrentUser c' id =>
        cases hd
        exact hne id rfl
      | fetchSpecificUsersBySearchTerm | fetchList => cases hd
  | call c' op user =>
    refine .inr ⟨not_loads rfl, ?_⟩
    obtain ⟨-, rfl | ⟨me, -, -, rfl⟩⟩ := System.step_call hstep
    · exact h
    · exact h
  | land i =>
    obtain ⟨w, rest, users, -, -, rfl⟩ := System.step_land hstep
    exact .inr ⟨not_loads rfl, h⟩
  | fail i =>
    obtain ⟨w, rest, -, rfl⟩ := System.step_fail hstep
    exact .inr ⟨not_loads rfl, h⟩

private theorem loads_landUpdate {i : Nat} {u : UserUpdate} (hu : s.updates[i]? = some u) :
    s.loads (.landUpdate i) =
      if u.awaited then u.write.account?.map fun _ => (u.client, none) else none := by
  obtain ⟨c, w, awaited⟩ := u
  cases awaited <;> cases w <;> simp only [loads, hu] <;> rfl

/-- After a step a client has the user the step has loaded, or the user it had before. -/
theorem currentUser_step {ev : AccountEvent} (hstep : s.step ev = some t)
    (h : (t.clients c).currentUser = some me) :
    (∃ d, s.loads ev = some (c, d) ∧ CopyOf me d) ∨
      (∀ d, s.loads ev ≠ some (c, d)) ∧ (s.clients c).currentUser = some me := by
  cases ev with
  | relation ev =>
    obtain ⟨x, hx, rfl⟩ := Option.map_eq_some_iff.mp hstep
    exact currentUser_relation hx h
  | landUpdate i =>
    obtain ⟨u, users, hu, -, rfl⟩ := step_landUpdate hstep
    rw [loads_landUpdate hu]
    by_cases hawaited : u.awaited
    · rw [if_pos hawaited] at h
      rw [if_pos hawaited]
      rcases currentUser_acknowledge h with ⟨rfl, account, hw, rfl⟩ | ⟨hne, hsame⟩
      · exact .inl ⟨none, by rw [hw]; rfl, copyOf_newUser account⟩
      · refine .inr ⟨fun d hd => ?_, hsame⟩
        obtain ⟨account, haccount, he⟩ := Option.map_eq_some_iff.mp hd
        cases he
        cases hw : u.write with
        | createUser account => exact hne account rfl hw
        | updateUserProfile | deleteLocation | addLatitude | addLongitude =>
          rw [hw] at haccount
          cases haccount
    · rw [if_neg hawaited] at h
      rw [if_neg hawaited]
      refine .inr ⟨?_, h⟩
      intro d hd
      cases hd
  | locate c' latitude longitude =>
    cases hstep
    exact .inr ⟨not_loads rfl, h⟩
  | stop c' =>
    cases hstep
    exact .inr ⟨not_loads rfl, currentUser_stopped h⟩
  | signUp c' firstName lastName userName | accountRefused i | failUpdate i =>
    simp only [step, Option.ite_none_right_eq_some, Option.some.injEq] at hstep
    obtain ⟨-, rfl⟩ := hstep
    exact .inr ⟨not_loads rfl, h⟩
  | accountCreated i authID uuid =>
    refine .inr ⟨not_loads rfl, ?_⟩
    obtain ⟨x, -, -, -, rfl⟩ := step_accountCreated hstep
    have hset : ((s.toSession.setClient x.client
        { s.clients x.client with auth := some authID }).clients c).currentUser = some me := h
    apply Session.currentUser_setClient ?_ hset
    exact fun hme => hme
  | updateUserProfile c' firstName lastName userName carInfo =>
    refine .inr ⟨not_loads rfl, ?_⟩
    rcases step_updateUserProfile hstep with rfl | ⟨me, -, rfl⟩ <;> exact h
  | updateUserLocation c' location =>
    refine .inr ⟨not_loads rfl, ?_⟩
    rcases step_updateUserLocation hstep with rfl | ⟨me, -, rfl⟩ <;> exact h

end Loads

end Accounts

namespace Registry

/-- Every user in memory is the copy its history says, and so is every user that is archived
or about to be. -/
structure Copied (s : Registry) : Prop where
  clients : ∀ {c me}, (s.clients c).currentUser = some me → CopyOf me (s.fetched c)
  removals : ∀ x ∈ s.removals, ∀ user fetched, x.removal = .archive user fetched →
    CopyOf user fetched
  archives : ∀ {id a}, s.deletedUsers id = some a →
    ∃ user, user.toDocument = a ∧ CopyOf user (s.archivedFrom id)

section Copied
variable {s t : Registry}

private theorem currentUser_signOut (s : Registry) (c c' : ClientID) :
    ((s.signOut c').clients c).currentUser = (s.clients c).currentUser := by
  by_cases hc : c = c'
  · subst hc
    rw [signOut, Accounts.clients_setClient_self]
  · rw [signOut, Accounts.clients_setClient_of_ne _ _ hc]

/-- The requests that are sent out archive copies. -/
theorem Copied.ask (h : s.Copied) (c : ClientID) {removals : List Removal}
    (hremovals : ∀ user fetched, .archive user fetched ∈ removals → CopyOf user fetched) :
    (s.ask c removals).Copied where
  clients := h.clients
  removals x hx := by
    rcases List.mem_append.mp hx with hx | hx
    · exact h.removals x hx
    · obtain ⟨removal, hremoval, rfl⟩ := List.mem_map.mp hx
      intro user fetched he
      exact hremovals user fetched (he ▸ hremoval)
  archives := h.archives

/-- A user is archived from the document the history says. -/
theorem Copied.archive (h : s.Copied) {user : User} {fetched : Option UserDocument}
    (hcopy : CopyOf user fetched) : Copied { s with
      deletedUsers := setData s.deletedUsers user.uuid user.toDocument
      archivedFrom := Function.update s.archivedFrom user.uuid fetched } where
  clients := h.clients
  removals := h.removals
  archives {id a} ha := by
    by_cases hid : id = user.uuid
    · subst hid
      simp only [setData_self, Option.some.injEq] at ha
      simp only [Function.update_self]
      exact ⟨user, ha, hcopy⟩
    · simp only [setData_of_ne _ _ hid] at ha
      simp only [Function.update_of_ne hid]
      exact h.archives ha

/-- An answer to a request archives the copy the request has taken. -/
theorem Copied.perform (h : s.Copied) {x : RemovalRequest}
    (hx : ∀ user fetched, x.removal = .archive user fetched → CopyOf user fetched) :
    (s.perform x).Copied := by
  rcases perform_cases s x with
    ⟨user, fetched, removals, hremoval, hnone, hperform⟩ | ⟨y, hperform, hy⟩
  · rw [hperform]
    apply (h.archive (hx user fetched hremoval)).ask
    intro user' fetched' hmem
    exact absurd hmem (hnone user' fetched')
  · have hcopied : y.Copied := by
      rcases hy with rfl | ⟨user, rfl⟩
      · exact h
      · exact ⟨h.clients, h.removals, h.archives⟩
    rcases hperform with hperform | hperform
    · rw [hperform]
      exact hcopied
    · rw [hperform]
      exact ⟨fun hme => hcopied.clients (currentUser_signOut y _ x.client ▸ hme), hcopied.removals,
        hcopied.archives⟩

/-- What is copied stays a copy of the same. -/
theorem Copied.step (h : s.Copied) {ev : RegistryEvent} (hstep : s.step ev = some t) :
    t.Copied := by
  cases ev with
  | account ev =>
    obtain ⟨x, hx, rfl⟩ := step_account hstep
    refine ⟨?_, ?_, h.archives⟩
    · intro c me hme
      rcases Accounts.currentUser_step hx hme with ⟨d, hloads, hcopy⟩ | ⟨hne, hsame⟩
      · simp only [hloads, Function.update_self]
        exact hcopy
      · cases hloads : s.toAccounts.loads ev with
        | none => exact h.clients hsame
        | some loaded =>
          obtain ⟨c', d⟩ := loaded
          have hc : c ≠ c' := by
            rintro rfl
            exact hne d hloads
          simp only [Function.update_of_ne hc]
          exact h.clients hsame
    · intro y hy user fetched he
      obtain ⟨y', hy', rfl⟩ := List.mem_map.mp hy
      apply h.removals y' hy'
      rw [← he]
      split <;> rfl
  | deleteUser c =>
    obtain ⟨me, hme, rfl⟩ := step_deleteUser hstep
    apply h.ask
    intro user fetched hmem
    rw [List.mem_singleton, Removal.archive.injEq] at hmem
    rw [hmem.1, hmem.2]
    exact h.clients hme
  | succeed i =>
    obtain ⟨x, hx, rfl⟩ := step_succeed hstep
    have hrest : Copied { s with removals := s.removals.eraseIdx i } :=
      ⟨h.clients, fun y hy => h.removals y (List.mem_of_mem_eraseIdx hy), h.archives⟩
    exact hrest.perform (h.removals x (List.mem_of_getElem? hx))
  | fail i =>
    rw [step_fail hstep]
    exact ⟨h.clients, fun y hy => h.removals y (List.mem_of_mem_eraseIdx hy), h.archives⟩

private theorem Initial.copied (h : s.Initial) : s.Copied where
  clients {c} _ hme := by
    rw [h.accounts.system.clients c] at hme
    cases hme
  removals x hx := by
    rw [h.removals] at hx
    cases hx
  archives {id} _ ha := by
    rw [h.deletedUsers id] at ha
    cases ha

/-- In every run every user in memory or in the archive is the copy its history says. -/
theorem copied_run {s₀ : Registry} {es : List RegistryEvent} (h₀ : s₀.Initial)
    (hrun : run step s₀ es = some s) : s.Copied :=
  run_invariant (fun _ _ _ h hstep => Copied.step h hstep) h₀.copied hrun

end Copied

end Registry

end DriveTribe
