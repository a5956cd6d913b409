import DriveTribe.Accounts.Drawn

/-!
# Documents and rows after a step

What one step can do to a document: create it, change one of its relation lists, or leave its
id, its account and its lists as they are. And what it can show: the rows a client has had under
the same user before, and what a fetch finds in the user's own list.
-/

namespace DriveTribe

open Base

private theorem UserDocument.uuid_changeRelation (d : UserDocument) (k : RelationKey)
    (f : FieldValue UserID) : (d.changeRelation k f).uuid = d.uuid :=
  UserDocument.uuid_setRelation ..

private theorem UserDocument.authID_changeRelation (d : UserDocument) (k : RelationKey)
    (f : FieldValue UserID) : (d.changeRelation k f).authID = d.authID :=
  UserDocument.authID_setRelation ..

namespace Accounts

variable {s t : Accounts} {ev : AccountEvent}

/-- The event lands this relation write. -/
def LandsRelation (s : Accounts) (ev : AccountEvent) (w : RelationWrite) : Prop :=
  ∃ i x, ev = .relation (.land i) ∧ s.outbox[i]? = some x ∧ x.write = w

/-- The event lands the document of this new account. -/
def LandsAccount (s : Accounts) (ev : AccountEvent) (account : NewAccount) : Prop :=
  ∃ i u, ev = .landUpdate i ∧ s.updates[i]? = some u ∧ u.write = .createUser account

/-- An event lands one document at most. -/
theorem LandsAccount.unique {account account' : NewAccount} (h : s.LandsAccount ev account)
    (h' : s.LandsAccount ev account') : account = account' := by
  obtain ⟨i, u, rfl, hu, hw⟩ := h
  obtain ⟨i', u', hi, hu', hw'⟩ := h'
  cases hi
  rw [hu, Option.some.injEq] at hu'
  rw [← hu', hw] at hw'
  exact UserWrite.createUser.inj hw'

/-- Where a document comes from: a sign-up has created it, a relation write has changed it, or
it was there with the same id, account and lists. -/
theorem docs_step (h : s.Drawn) (hstep : s.step ev = some t) {id : UserID} {d : UserDocument}
    (hd : t.users id = some d) :
    (∃ account, s.LandsAccount ev account ∧ d = account.document ∧ account.uuid = id ∧
        ∀ id' d', s.users id' = some d' → d'.authID ≠ some account.authID) ∨
      ∃ d₀, s.users id = some d₀ ∧
        ((d.uuid = d₀.uuid ∧ d.authID = d₀.authID ∧ ∀ k, d.relation k = d₀.relation k) ∨
          ∃ w, s.LandsRelation ev w ∧ w.document = id ∧
            d = d₀.changeRelation w.field w.value) := by
  rcases users_step hstep with ⟨hsame, -⟩ | ⟨i, w, rfl, hw, hland⟩ | ⟨i, u, rfl, hu, hland⟩
  · rw [hsame] at hd
    exact .inr ⟨d, hd, .inl ⟨rfl, rfl, fun _ => rfl⟩⟩
  · right
    obtain ⟨d₀, hd₀, hd₀', hne⟩ := updateData_eq_some hland
    by_cases hid : id = w.write.document
    · subst hid
      rw [hd₀', Option.some.injEq] at hd
      exact ⟨d₀, hd₀, .inr ⟨w.write, ⟨i, w, rfl, hw, rfl⟩, rfl, hd.symm⟩⟩
    · rw [hne id hid] at hd
      exact ⟨d, hd, .inl ⟨rfl, rfl, fun _ => rfl⟩⟩
  · obtain ⟨hdoc, hne⟩ := UserWrite.land_eq_some hland
    by_cases hid : id = u.write.user
    · subst hid
      rcases hdoc with ⟨account, hw, hnew⟩ | ⟨hupdate, d₀, hd₀, hd₀'⟩
      · left
        obtain ⟨-, hother⟩ := h.users_eq_none hu hw
        rw [hw, UserWrite.user] at hd ⊢
        rw [hnew, Option.some.injEq] at hd
        exact ⟨account, ⟨i, u, rfl, hu, hw⟩, hd.symm, rfl, hother⟩
      · right
        rw [hd₀', Option.some.injEq] at hd
        rw [← hd]
        exact ⟨d₀, hd₀, .inl (UserWrite.change_keeps hupdate d₀)⟩
    · rw [hne id hid] at hd
      exact .inr ⟨d, hd, .inl ⟨rfl, rfl, fun _ => rfl⟩⟩

/-- The account of a document is as it was, or new. -/
theorem authID_step (h : s.Drawn) (hstep : s.step ev = some t) {id : UserID} {d : UserDocument}
    (hd : t.users id = some d) :
    (∃ account, s.LandsAccount ev account ∧ account.uuid = id ∧ d.authID = some account.authID ∧
        ∀ id' d', s.users id' = some d' → d'.authID ≠ some account.authID) ∨
      ∃ d₀, s.users id = some d₀ ∧ d.authID = d₀.authID := by
  rcases docs_step h hstep hd with
    ⟨account, hlands, rfl, hid, hnew⟩ | ⟨d₀, hd₀, hsame | ⟨w, -, -, rfl⟩⟩
  · exact .inl ⟨account, hlands, hid, rfl, hnew⟩
  · exact .inr ⟨d₀, hd₀, hsame.2.1⟩
  · exact .inr ⟨d₀, hd₀, UserDocument.authID_changeRelation ..⟩

/-- Every document stays under its id, and every account keeps to one document. -/
theorem keyed_step (h : s.Drawn) (hkeyed : s.users.Keyed) (hstep : s.step ev = some t) :
    t.users.Keyed := by
  constructor
  · intro id d hd
    rcases docs_step h hstep hd with ⟨account, -, rfl, rfl, -⟩ | ⟨d₀, hd₀, hsame | ⟨w, -, -, rfl⟩⟩
    · rfl
    · rw [hsame.1, hkeyed.uuid hd₀]
    · rw [UserDocument.uuid_changeRelation, hkeyed.uuid hd₀]
  · intro id id' d d' hd hd' he
    rcases authID_step h hstep hd with ⟨account, hlands, hid, ha, hnew⟩ | ⟨d₀, hd₀, ha⟩ <;>
      rcases authID_step h hstep hd' with ⟨account', hlands', hid', ha', hnew'⟩ | ⟨d₀', hd₀', ha'⟩
    · rw [← hid, ← hid', hlands.unique hlands']
    · exact absurd (by rw [← ha', ← he, ha]) (hnew id' d₀' hd₀')
    · exact absurd (by rw [← ha, he, ha']) (hnew' id d₀ hd₀)
    · exact hkeyed.authID hd₀ hd₀' (by rw [← ha, ← ha', he])

/-- An entry stays as it is, or a relation write that lands decides it. -/
theorem has_step (h : s.Drawn) (hstep : s.step ev = some t) (e : Entry) :
    (t.users.has e ↔ s.users.has e) ∨
      ∃ w, s.LandsRelation ev w ∧ w.entry = e ∧ (t.users.has e ↔ w.value.present = true) := by
  rcases users_step hstep with ⟨hsame, -⟩ | ⟨i, w, rfl, hw, hland⟩ | ⟨i, u, rfl, hu, hland⟩
  · rw [hsame]
    exact .inl Iff.rfl
  · have hhas := RelationWrite.has_land hland e
    by_cases he : e = w.write.entry
    · rw [if_pos he] at hhas
      exact .inr ⟨w.write, ⟨i, w, rfl, hw, rfl⟩, he.symm, hhas⟩
    · rw [if_neg he] at hhas
      exact .inl hhas
  · exact .inl (UserWrite.has_land hland (fun _ hw => (h.users_eq_none hu hw).1) e)

/-! ### Rows -/

/-- The client shows this user in the list of the logged-in user. -/
def Shows (s : Accounts) (c : ClientID) (me : User) (k : RelationKey) (user : UserID) : Prop :=
  (s.clients c).currentUser = some me ∧ user ∈ (s.clients c).rows k

section Shows
variable {c : ClientID} {me : User} {k : RelationKey} {user : UserID}

private theorem shows_setClient {c' : ClientID} {client : Client}
    (hclient : client.currentUser = some me → user ∈ client.rows k → s.Shows c' me k user)
    (h : (s.setClient c' client).Shows c me k user) : s.Shows c me k user := by
  by_cases hc : c = c'
  · subst hc
    rw [Shows, clients_setClient_self] at h
    exact hclient h.1 h.2
  · rw [Shows, clients_setClient_of_ne s client hc] at h
    exact h

private theorem shows_stopped {c' : ClientID} (h : (s.stopped c').Shows c me k user) :
    s.Shows c me k user := by
  have hset : (s.setClient c' Client.loggedOut).Shows c me k user := h
  exact shows_setClient (fun hnone => by cases hnone) hset

private theorem shows_acknowledge {c' : ClientID} {w : UserWrite}
    (h : (s.acknowledge c' w).Shows c me k user) : s.Shows c me k user := by
  cases w with
  | createUser account => exact shows_setClient (fun _ hrow => absurd hrow List.not_mem_nil) h
  | updateUserProfile | addLongitude => exact h
  | deleteLocation user' =>
    rw [acknowledge] at h
    split at h
    · exact shows_stopped h
    · exact h
  | addLatitude user' x =>
    rw [acknowledge] at h
    split at h
    · exact shows_stopped h
    · exact h

/-- What a client shows after a step it has shown before, to the same user, or a fetch has just
found it in the user's own list. -/
theorem shows_step (hkeyed : s.users.Keyed) (hstep : s.step ev = some t)
    (h : t.Shows c me k user) :
    s.Shows c me k user ∨ ev = .relation (.read (.fetchList c k)) ∧
      (s.clients c).currentUser = some me ∧ s.users.has ⟨me.uuid, k, user⟩ := by
  cases ev with
  | relation ev =>
    obtain ⟨x, hx, rfl⟩ := Option.map_eq_some_iff.mp hstep
    cases ev with
    | read r =>
      obtain ⟨y, hy, -, rfl⟩ := System.step_read hx
      obtain ⟨hcurrent, hshown | ⟨rfl, hhas⟩⟩ := Session.rows_read hkeyed hy h.1 h.2
      · exact .inl ⟨hcurrent, hshown⟩
      · exact .inr ⟨rfl, hcurrent, hhas⟩
    | call c op user =>
      obtain ⟨-, rfl | ⟨me, -, -, rfl⟩⟩ := System.step_call hx
      · exact .inl h
      · exact .inl h
    | land i =>
      obtain ⟨w, rest, users, -, -, rfl⟩ := System.step_land hx
      exact .inl h
    | fail i =>
      obtain ⟨w, rest, -, rfl⟩ := System.step_fail hx
      exact .inl h
  | locate c' latitude longitude =>
    cases hstep
    exact .inl h
  | signUp c' firstName lastName userName | accountRefused i | failUpdate i =>
    simp only [Accounts.step, Option.ite_none_right_eq_some, Option.some.injEq] at hstep
    obtain ⟨-, rfl⟩ := hstep
    exact .inl h
  | updateUserProfile | updateUserLocation =>
    simp only [Accounts.step] at hstep
    split at hstep <;> cases hstep <;> exact .inl h
  | stop c' =>
    cases hstep
    exact .inl (shows_stopped h)
  | accountCreated i authID uuid =>
    obtain ⟨x, -, -, -, rfl⟩ := step_accountCreated hstep
    have hset : (s.setClient x.client
        { s.clients x.client with auth := some authID }).Shows c me k user := h
    left
    apply shows_setClient ?_ hset
    intro hcurrent hrow
    exact ⟨hcurrent, hrow⟩
  | landUpdate i =>
    obtain ⟨u, users, hu, hland, rfl⟩ := step_landUpdate hstep
    left
    split at h
    · have hshown := shows_acknowledge h
      exact hshown
    · exact h

end Shows

end Accounts

end DriveTribe
