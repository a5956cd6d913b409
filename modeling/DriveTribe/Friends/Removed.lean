import DriveTribe.Friends.List

/-!
# Removed rows that come back

A removal is carried out on what the list shows; a fetch that has collected the user before
delivers the user again with every read that is answered afterwards. Nothing else brings a removed
row back.
-/

namespace DriveTribe

open Base

private theorem not_mem_removeRow {users : List User} (h : (users.map User.uuid).Nodup)
    (user : User) :
    ∀ x ∈ removeRow users user, x.uuid ≠ user.uuid := by
  induction users with
  | nil => exact fun x hx => absurd hx List.not_mem_nil
  | cons y ys ih =>
    rw [List.map_cons, List.nodup_cons] at h
    by_cases hy : y.uuid = user.uuid
    · have htail : removeRow (y :: ys) user = ys := List.eraseP_cons_of_pos (decide_eq_true hy)
      rw [htail]
      intro x hx he
      apply h.1
      rw [hy, ← he]
      exact List.mem_map_of_mem hx
    · have hcons : removeRow (y :: ys) user = y :: removeRow ys user :=
        List.eraseP_cons_of_neg (by simpa using hy)
      rw [hcons]
      intro x hx
      rcases List.mem_cons.mp hx with rfl | hx
      · exact hy
      · exact ih h.2 x hx

private theorem removeRow_sublist (users : List User) (user : User) :
    (removeRow users user).Sublist users :=
  List.eraseP_sublist

private theorem FriendListTableViewController.view?_eq_some {k : RelationKey} {view : ListView}
    (h : view? k = some view) : view = ⟨UserController.fetch k, false⟩ := by
  cases k <;> cases h <;> rfl

/-- A fetch has begun, or it waits for documents that are listed once and have not arrived. -/
def Fetching.Sound (f : Fetching) : Prop :=
  (f.array = [] ∧ ∃ user, f.reads = [.userData user]) ∨
    ∃ ids, f.reads = ids.map .listed ∧ (f.array.map User.uuid ++ ids).Nodup

/-- A listed document that arrives yields the user of that id. -/
theorem FetchRead.uuid_of_user? {users : Users} (husers : ∀ {id d}, users id = some d →
    d.WellFormed id) {id : UserID} {user : User}
    (h : (FetchRead.listed id).user? (.ok (users id)) = some user) : user.uuid = id := by
  obtain ⟨d, hd, hdec⟩ := Option.bind_eq_some_iff.mp h
  have huuid := (User.ids_of_ofDocument hdec).1
  rw [(husers hd).1, Option.some.injEq] at huuid
  exact huuid.symm

/-- A fetch whose read is answered stays sound. -/
theorem Fetching.Sound.answered {f : Fetching} (h : f.Sound) {users : Users}
    (husers : ∀ {id d}, users id = some d → d.WellFormed id) {j : Nat} {read : FetchRead}
    (hread : f.reads[j]? = some read) {snapshot : Snapshot}
    (hsnapshot : snapshot = .ok (users read.document) ∨ ∃ error, snapshot = .error error) :
    Fetching.Sound { f with
      array := (UserController.fetch f.key f.array read snapshot).state
      reads := f.reads.eraseIdx j ++ (UserController.fetch f.key f.array read snapshot).requests }
    := by
  right
  obtain ⟨hstate, -⟩ := UserController.fetch_spec f.key f.array read snapshot
  rcases h with ⟨harray, user, hreads⟩ | ⟨ids, hreads, hnodup⟩
  · rw [hreads] at hread ⊢
    obtain ⟨hj, hget⟩ := List.getElem?_eq_some_iff.mp hread
    have hzero : j = 0 := Nat.lt_one_iff.mp hj
    subst hzero
    have huser : read = .userData user := hget.symm
    subst huser
    rw [FetchRead.user?_userData, harray] at hstate
    rcases UserController.fetch_requests f.key f.array (.userData user) snapshot with
      hnone | ⟨_, document, userData, -, hok, hdec, hrequests⟩
    · exact ⟨[], hnone, by simp [harray, hstate]⟩
    · refine ⟨userData.relation f.key, hrequests, ?_⟩
      rw [harray, hstate, Option.toList_none, List.append_nil, List.map_nil, List.nil_append]
      rcases hsnapshot with hfrom | ⟨error, hfrom⟩
      · rw [hok, Except.ok.injEq] at hfrom
        obtain ⟨d, hd, hdec⟩ := Option.bind_eq_some_iff.mp hdec
        rw [User.relation_of_ofDocument hdec]
        exact (husers (hfrom ▸ hd)).2 f.key
      · rw [hok] at hfrom
        cases hfrom
  · rw [hreads, List.getElem?_map] at hread
    obtain ⟨id, hid, rfl⟩ := Option.map_eq_some_iff.mp hread
    obtain ⟨hj, hget⟩ := List.getElem?_eq_some_iff.mp hid
    have hperm : (id :: ids.eraseIdx j).Perm ids := hget ▸ List.getElem_cons_eraseIdx_perm hj
    have hrequests : (UserController.fetch f.key f.array (.listed id) snapshot).requests = [] := by
      rcases UserController.fetch_requests f.key f.array (.listed id) snapshot with
        hnone | ⟨_, _, _, hread, -⟩
      · exact hnone
      · cases hread
    refine ⟨ids.eraseIdx j, by rw [hreads, List.eraseIdx_map, hrequests, List.append_nil], ?_⟩
    rw [hstate]
    cases hyields : (FetchRead.listed id).user? snapshot with
    | none =>
      rw [Option.toList_none, List.append_nil]
      exact hnodup.sublist ((List.eraseIdx_sublist ids j).append_left _)
    | some user =>
      have huuid : user.uuid = id := by
        rcases hsnapshot with rfl | ⟨error, rfl⟩
        · exact FetchRead.uuid_of_user? husers hyields
        · cases hyields
      rw [Option.toList_some, List.map_append, List.append_assoc, List.map_singleton, huuid]
      exact (hperm.append_left _).nodup_iff.mpr hnodup

private theorem Fetching.Sound.nodup_array {f : Fetching} (h : f.Sound) :
    (f.array.map User.uuid).Nodup := by
  rcases h with ⟨harray, -⟩ | ⟨ids, -, hnodup⟩
  · rw [harray]
    exact List.nodup_nil
  · exact (List.nodup_append.mp hnodup).1

private theorem wellFormed_land {users users' : Users}
    (husers : ∀ {id d}, users id = some d → d.WellFormed id) {w : RelationWrite}
    (hland : w.land users = some users') {id : UserID} {d : UserDocument}
    (hd : users' id = some d) : d.WellFormed id := by
  obtain ⟨d₀, hd₀, hd₀', hne⟩ := updateData_eq_some hland
  by_cases hid : id = w.document
  · subst hid
    rw [hd₀', Option.some.injEq] at hd
    subst hd
    refine ⟨(UserDocument.uuid_setRelation ..).trans (husers hd₀).1, fun k => ?_⟩
    rw [UserDocument.changeRelation, UserDocument.relation_setRelation]
    split
    · exact FieldValue.nodup_apply ((husers hd₀).2 w.field) w.value
    · exact (husers hd₀).2 k
  · rw [hne id hid] at hd
    exact husers hd

private theorem RelationOp.mem_writes_of_list? {op : RelationOp} {k : RelationKey} {me : User}
    {user : UserID} {ws : List IssuedWrite} {completes : Bool} (hk : op.list? = some k)
    (hcall : op.call (some me) user = .issued ws completes) :
    ∃ w ∈ ws, w.write = ⟨me.uuid, k, .arrayRemove user⟩ := by
  obtain ⟨me', hme, hws, -⟩ := RelationOp.call_issued hcall
  cases hme
  have hmem : ⟨me.uuid, k, .arrayRemove user⟩ ∈ op.writes me.uuid user := by
    cases op <;> cases hk <;> simp [RelationOp.writes]
  rw [← hws] at hmem
  exact List.mem_map.mp hmem

namespace FriendList

/-- The row of the user is about to be taken out. -/
def Queued (s : FriendList) (k : RelationKey) (user : UserID) : Prop :=
  ∃ row ∈ s.queue, row.key = k ∧ row.user.uuid = user

instance (s : FriendList) (k : RelationKey) (user : UserID) : Decidable (s.Queued k user) :=
  inferInstanceAs (Decidable (∃ row ∈ s.queue, _))

/-- Whoever was removed is out of the list. -/
def RemovedOut (s : FriendList) : Prop :=
  ∀ k, ∀ user ∈ s.removed k, ∀ x ∈ s.shown k, x.uuid ≠ user

/-- Whoever was removed is out of the list, or about to be taken out. -/
def StaysRemoved (s : FriendList) : Prop :=
  ∀ k, ∀ user ∈ s.removed k, (∀ x ∈ s.shown k, x.uuid ≠ user) ∨ s.Queued k user

/-- What the event delivers, and to which list. -/
def delivered (s : FriendList) : ListEvent → Option (RelationKey × List User)
  | .answered i j none =>
    s.fetches[i]?.bind fun f =>
      f.reads[j]?.bind fun read =>
        (read.user? (.ok (s.users read.document))).map fun user => (f.key, f.array ++ [user])
  | _ => none

/-- Nothing is delivered with a user whose removal has already been carried out. -/
def InTime (s : FriendList) (ev : ListEvent) : Prop :=
  ∀ p ∈ s.delivered ev, ∀ x ∈ p.2, x.uuid ∈ s.removed p.1 → s.Queued p.1 x.uuid

instance (s : FriendList) (ev : ListEvent) : Decidable (s.InTime ev) :=
  inferInstanceAs (Decidable (∀ p ∈ s.delivered ev, _))

/-- Nobody has two rows in a list, or is fetched twice for it. -/
structure Sound (s : FriendList) : Prop where
  users : ∀ {id d}, s.users id = some d → d.WellFormed id
  shown : ∀ k, ((s.shown k).map User.uuid).Nodup
  fetches : ∀ f ∈ s.fetches, f.Sound

section Step
variable {s t : FriendList}

/-- An answered read moves its fetch on, and what it delivers is shown. -/
theorem step_answered {i j : Nat} {error : Option String}
    (h : s.step (.answered i j error) = some t) :
    ∃ f read snapshot, s.fetches[i]? = some f ∧ f.reads[j]? = some read ∧
      (error = none ∧ snapshot = .ok (s.users read.document) ∨
        error ≠ none ∧ ∃ e, snapshot = .error e) ∧
      t = { s with
        fetches := s.fetches.set i { f with
          array := (UserController.fetch f.key f.array read snapshot).state
          reads := f.reads.eraseIdx j ++
            (UserController.fetch f.key f.array read snapshot).requests }
        shown := Function.update s.shown f.key
          (if (read.user? snapshot).isSome then f.array ++ (read.user? snapshot).toList
            else s.shown f.key) } := by
  simp only [step] at h
  split at h
  · cases h
  · next f hf =>
    split at h
    · next read view hread hview =>
      rw [FriendListTableViewController.view?_eq_some hview] at h
      dsimp only at h
      rw [(UserController.fetch_spec f.key f.array read _).2, Option.some.injEq] at h
      cases error with
      | none => exact ⟨f, read, _, hf, hread, .inl ⟨rfl, rfl⟩, h.symm⟩
      | some e => exact ⟨f, read, _, hf, hread, .inr ⟨Option.some_ne_none e, e, rfl⟩, h.symm⟩
    · cases h

/-- A fetch begins with the document of the user. -/
theorem step_setupView {k : RelationKey} (h : s.step (.setupView k) = some t) :
    t = { s with fetches := s.fetches ++ [{ key := k, reads := [.userData s.me.uuid] }] } := by
  simp only [step, Option.ite_none_right_eq_some, Option.some.injEq] at h
  exact h.2.symm

/-- Another client leaves a well-formed document, or none; then the removals are pruned. -/
theorem step_others {id : UserID} {document : Option UserDocument}
    (h : s.step (.others id document) = some t) :
    (∀ d ∈ document, d.WellFormed id) ∧
      t = ({ s with users := Function.update s.users id document } : FriendList).prune := by
  simp only [step, Option.ite_none_right_eq_some, Option.some.injEq] at h
  exact ⟨h.1, h.2.symm⟩

/-- A tap changes nothing, or sends out its writes, among them the one that takes the user out of
the list, and may report success right away. -/
theorem step_tap {op : RelationOp} {row : Nat} (h : s.step (.tap op row) = some t) :
    t = s ∨ ∃ k user ws,
      (∃ w ∈ ws, w.issued.write = ⟨s.me.uuid, k, .arrayRemove user.uuid⟩) ∧
      (t = { s with writes := s.writes ++ ws } ∨
        t = ({ s with writes := s.writes ++ ws } : FriendList).report ⟨k, user⟩) := by
  simp only [step] at h
  split at h
  · cases h
  · next k hk =>
    split at h
    · cases h
    · next user huser =>
      split at h
      · next ws completes hcall =>
        right
        refine ⟨k, user, ws.map (⟨⟨k, user⟩, ·⟩), ?_, ?_⟩
        · obtain ⟨w, hw, hwrite⟩ := RelationOp.mem_writes_of_list? hk hcall
          exact ⟨⟨⟨k, user⟩, w⟩, List.mem_map_of_mem hw, hwrite⟩
        cases completes with
        | false => exact .inl (Option.some.inj h).symm
        | true => exact .inr (Option.some.inj h).symm
      · exact .inl (Option.some.inj h).symm

/-- An answered write may change the store and report success; then the removals are pruned. -/
theorem step_acknowledged {i : Nat} {error : Option String}
    (h : s.step (.acknowledged i error) = some t) :
    ∃ w, s.writes[i]? = some w ∧
      (t = ({ s with writes := s.writes.eraseIdx i } : FriendList).prune ∨
        ∃ users, w.issued.write.land s.users = some users ∧
          (t = ({ s with writes := s.writes.eraseIdx i, users } : FriendList).prune ∨
            t = (({ s with writes := s.writes.eraseIdx i, users } : FriendList).report
              w.row).prune)) := by
  simp only [step] at h
  split at h
  · cases h
  · next w hw =>
    refine ⟨w, hw, ?_⟩
    split at h
    · exact .inl (Option.some.inj h).symm
    · right
      obtain ⟨users, husers, rfl⟩ := Option.map_eq_some_iff.mp h
      refine ⟨users, husers, ?_⟩
      split
      · exact .inr rfl
      · exact .inl rfl

/-- The main queue takes the row of its first block out. -/
theorem step_main (h : s.step .main = some t) :
    ∃ row rest, s.queue = row :: rest ∧
      t = { s with
        queue := rest
        shown := Function.update s.shown row.key (removeRow (s.shown row.key) row.user) } := by
  simp only [step] at h
  split at h
  · cases h
  · next row rest hqueue => exact ⟨row, rest, hqueue, (Option.some.inj h).symm⟩

/-- Reporting a success queues its removal. -/
theorem StaysRemoved.report (h : s.StaysRemoved) (row : RowRemoval) :
    (s.report row).StaysRemoved := by
  intro k user huser
  have hqueued : s.Queued k user → (s.report row).Queued k user := by
    rintro ⟨r, hr, hrow⟩
    exact ⟨r, List.mem_append_left _ hr, hrow⟩
  by_cases hk : k = row.key
  · subst hk
    simp only [FriendList.report, Function.update_self] at huser
    rcases List.mem_append.mp huser with huser | huser
    · exact (h row.key user huser).imp_right hqueued
    · right
      rw [List.mem_singleton] at huser
      exact ⟨row, List.mem_append_right _ (List.mem_singleton_self _), rfl, huser.symm⟩
  · simp only [FriendList.report, Function.update_of_ne hk] at huser
    exact (h k user huser).imp_right hqueued

/-- Forgetting removals breaks none. -/
theorem StaysRemoved.prune (h : s.StaysRemoved) : s.prune.StaysRemoved :=
  fun k user huser => h k user (List.mem_filter.mp huser).1

/-- A block that runs takes its row out for good, and no other back in. -/
theorem StaysRemoved.main (h : s.StaysRemoved) (hsound : s.Sound) {row : RowRemoval}
    {rest : List RowRemoval} (hqueue : s.queue = row :: rest) :
    StaysRemoved { s with
      queue := rest
      shown := Function.update s.shown row.key (removeRow (s.shown row.key) row.user) } := by
  intro k user huser
  have hout : ∀ x ∈ Function.update s.shown row.key (removeRow (s.shown row.key) row.user) k,
      x ∈ s.shown k := by
    intro x hx
    by_cases hk : k = row.key
    · subst hk
      rw [Function.update_self] at hx
      exact (removeRow_sublist _ _).subset hx
    · rw [Function.update_of_ne hk] at hx
      exact hx
  rcases h k user huser with hgone | ⟨r, hr, hkey, hid⟩
  · exact .inl fun x hx => hgone x (hout x hx)
  · rw [hqueue] at hr
    rcases List.mem_cons.mp hr with rfl | hr
    · left
      subst hkey hid
      simp only [Function.update_self]
      exact not_mem_removeRow (hsound.shown r.key) r.user
    · exact .inr ⟨r, hr, hkey, hid⟩

private theorem delivered_answered {i j : Nat} {error : Option String} {f : Fetching}
    {read : FetchRead} {snapshot : Snapshot} (hf : s.fetches[i]? = some f)
    (hread : f.reads[j]? = some read)
    (hsnapshot : error = none ∧ snapshot = .ok (s.users read.document) ∨
      error ≠ none ∧ ∃ e, snapshot = .error e) :
    s.delivered (.answered i j error) =
      (read.user? snapshot).map fun user => (f.key, f.array ++ [user]) := by
  rcases hsnapshot with ⟨rfl, rfl⟩ | ⟨herror, e, rfl⟩
  · simp only [delivered, hf, Option.bind_some, hread]
  · cases error with
    | none => exact absurd rfl herror
    | some error => cases read <;> rfl

/-- What a step delivers is shown, and nothing else changes a list but the main queue. -/
theorem staysRemoved_step_iff (hsound : s.Sound) (hs : s.StaysRemoved) {ev : ListEvent}
    (hstep : s.step ev = some t) : t.StaysRemoved ↔ s.InTime ev := by
  cases ev with
  | setupView k =>
    rw [step_setupView hstep]
    exact iff_of_true hs nofun
  | tap op row =>
    refine iff_of_true ?_ nofun
    rcases step_tap hstep with rfl | ⟨k, user, ws, -, rfl | rfl⟩
    · exact hs
    · exact hs
    · exact StaysRemoved.report (s := { s with writes := s.writes ++ ws }) hs ⟨k, user⟩
  | acknowledged i error =>
    refine iff_of_true ?_ nofun
    obtain ⟨w, -, rfl | ⟨users, -, rfl | rfl⟩⟩ := step_acknowledged hstep
    · exact StaysRemoved.prune (s := { s with writes := s.writes.eraseIdx i }) hs
    · exact StaysRemoved.prune (s := { s with writes := s.writes.eraseIdx i, users }) hs
    · exact (StaysRemoved.report (s := { s with writes := s.writes.eraseIdx i, users }) hs
        w.row).prune
  | main =>
    obtain ⟨row, rest, hqueue, rfl⟩ := step_main hstep
    exact iff_of_true (hs.main hsound hqueue) nofun
  | others id document =>
    refine iff_of_true ?_ nofun
    rw [(step_others hstep).2]
    exact StaysRemoved.prune (s := { s with users := Function.update s.users id document }) hs
  | answered i j error =>
    obtain ⟨f, read, snapshot, hf, hread, hsnapshot, rfl⟩ := step_answered hstep
    rw [InTime, delivered_answered hf hread hsnapshot]
    cases hyields : read.user? snapshot with
    | none =>
      simp only [Option.isSome_none, Bool.false_eq_true, if_false, Function.update_eq_self]
      exact iff_of_true hs nofun
    | some user =>
      simp only [Option.isSome_some, if_true, Option.toList_some, Option.map_some, Option.mem_def,
        Option.some.injEq, forall_eq']
      -- The answer assigns the whole array of its fetch.
      constructor
      · intro ht x hx hremoved
        refine (ht f.key x.uuid hremoved).resolve_left fun hgone => ?_
        simp only [Function.update_self] at hgone
        exact hgone x hx rfl
      · intro hin k gone hgone
        by_cases hk : k = f.key
        · subst hk
          by_cases hback : ∃ x ∈ f.array ++ [user], x.uuid = gone
          · obtain ⟨x, hx, rfl⟩ := hback
            exact .inr (hin x hx hgone)
          · left
            simp only [Function.update_self]
            intro x hx he
            exact hback ⟨x, hx, he⟩
        · have hkept := hs k gone hgone
          simp only [Function.update_of_ne hk]
          exact hkept

/-- Users stay unique in every list and in every fetch. -/
theorem Sound.step (h : s.Sound) {ev : ListEvent} (hstep : s.step ev = some t) : t.Sound := by
  cases ev with
  | setupView k =>
    rw [step_setupView hstep]
    refine ⟨h.users, h.shown, fun f hf => ?_⟩
    rcases List.mem_append.mp hf with hf | hf
    · exact h.fetches f hf
    · rw [List.mem_singleton.mp hf]
      exact .inl ⟨rfl, s.me.uuid, rfl⟩
  | tap op row =>
    rcases step_tap hstep with rfl | ⟨k, user, ws, -, rfl | rfl⟩ <;>
      exact ⟨h.users, h.shown, h.fetches⟩
  | acknowledged i error =>
    obtain ⟨w, -, rfl | ⟨users, hland, rfl | rfl⟩⟩ := step_acknowledged hstep
    · exact ⟨h.users, h.shown, h.fetches⟩
    · exact ⟨wellFormed_land h.users hland, h.shown, h.fetches⟩
    · exact ⟨wellFormed_land h.users hland, h.shown, h.fetches⟩
  | main =>
    obtain ⟨row, rest, hqueue, rfl⟩ := step_main hstep
    refine ⟨h.users, fun k => ?_, h.fetches⟩
    by_cases hk : k = row.key
    · subst hk
      simp only [Function.update_self]
      exact (h.shown row.key).sublist ((removeRow_sublist _ _).map User.uuid)
    · simp only [Function.update_of_ne hk]
      exact h.shown k
  | others id document =>
    obtain ⟨hdocument, rfl⟩ := step_others hstep
    refine ⟨?_, h.shown, h.fetches⟩
    intro id' d hd
    have hd' : Function.update s.users id document id' = some d := hd
    by_cases hid : id' = id
    · subst hid
      rw [Function.update_self] at hd'
      exact hdocument d hd'
    · rw [Function.update_of_ne hid] at hd'
      exact h.users hd'
  | answered i j error =>
    obtain ⟨f, read, snapshot, hf, hread, hsnapshot, rfl⟩ := step_answered hstep
    have hfetch := (h.fetches f (List.mem_of_getElem? hf)).answered h.users hread
      (hsnapshot.imp And.right And.right)
    refine ⟨h.users, fun k => ?_, fun g hg => ?_⟩
    · by_cases hk : k = f.key
      · subst hk
        simp only [Function.update_self]
        split
        · have hnodup := hfetch.nodup_array
          rw [(UserController.fetch_spec f.key f.array read snapshot).1] at hnodup
          exact hnodup
        · exact h.shown f.key
      · simp only [Function.update_of_ne hk]
        exact h.shown k
    · rcases List.mem_or_eq_of_mem_set hg with hg | rfl
      · exact h.fetches g hg
      · exact hfetch

/-- Every removal that is remembered is borne out by the store. -/
def AllBornOut (s : FriendList) : Prop := ∀ k, ∀ user ∈ s.removed k, s.BornOut k user

/-- What is pruned is borne out. -/
theorem allBornOut_prune (s : FriendList) : s.prune.AllBornOut :=
  fun _ _ huser => of_decide_eq_true (List.mem_filter.mp huser).2

/-- A removal is remembered only as long as the store bears it out. -/
theorem AllBornOut.step (h : s.AllBornOut) {ev : ListEvent} (hstep : s.step ev = some t) :
    t.AllBornOut := by
  cases ev with
  | setupView k =>
    rw [step_setupView hstep]
    exact h
  | answered i j error =>
    obtain ⟨f, read, snapshot, -, -, -, rfl⟩ := step_answered hstep
    exact h
  | main =>
    obtain ⟨row, rest, -, rfl⟩ := step_main hstep
    exact h
  | others id document =>
    rw [(step_others hstep).2]
    exact allBornOut_prune _
  | acknowledged i error =>
    obtain ⟨w, -, rfl | ⟨users, -, rfl | rfl⟩⟩ := step_acknowledged hstep <;>
      exact allBornOut_prune _
  | tap op row =>
    rcases step_tap hstep with rfl | ⟨k, user, ws, ⟨w, hw, hwrite⟩, ht⟩
    · exact h
    · have hsent : AllBornOut { s with writes := s.writes ++ ws } := by
        intro k' user' huser
        exact (h k' user' huser).imp_right fun ⟨v, hv, hvwrite⟩ =>
          ⟨v, List.mem_append_left _ hv, hvwrite⟩
      rcases ht with rfl | rfl
      · exact hsent
      · intro k' user' huser
        by_cases hk : k' = k
        · subst hk
          simp only [report, Function.update_self] at huser
          rcases List.mem_append.mp huser with huser | huser
          · exact hsent k' user' huser
          · rw [List.mem_singleton.mp huser]
            exact .inr ⟨w, List.mem_append_right _ hw, hwrite⟩
        · simp only [report, Function.update_of_ne hk] at huser
          exact hsent k' user' huser

end Step

section Run
variable {s₀ s : FriendList} {es : List ListEvent}

/-- A screen that has just come up shows nobody. -/
theorem Initial.sound (h : s₀.Initial) : s₀.Sound where
  users := h.users
  shown k := by
    rw [h.shown k]
    exact List.nodup_nil
  fetches f hf := by
    rw [h.fetches] at hf
    cases hf

private theorem Initial.staysRemoved (h : s₀.Initial) : s₀.StaysRemoved := by
  intro k user huser
  rw [h.removed k] at huser
  cases huser

/-- Once every write is answered, whoever was removed does not stand in the stored list. -/
theorem not_has_of_removed (h₀ : s₀.Initial) (hrun : run step s₀ es = some s)
    (hwrites : s.writes = []) {k : RelationKey} {user : UserID} (huser : user ∈ s.removed k) :
    ¬ s.users.has ⟨s.me.uuid, k, user⟩ := by
  have hborn : s.AllBornOut := by
    refine run_invariant (fun _ _ _ h hstep => AllBornOut.step h hstep) ?_ hrun
    intro k user huser
    rw [h₀.removed k] at huser
    cases huser
  refine (hborn k user huser).resolve_right ?_
  rintro ⟨w, hw, -⟩
  rw [hwrites] at hw
  cases hw

/-- Whoever is removed stays out of the list in every state of a run, or is about to be taken
out, exactly if nothing is delivered late; and then, once the main queue has run, everybody who
was removed is out. -/
theorem removed_out (h₀ : s₀.Initial) (hrun : run step s₀ es = some s) :
    (AllStates step StaysRemoved s₀ es ↔ AllSteps step InTime s₀ es) ∧
      (AllSteps step InTime s₀ es → s.queue = [] → s.RemovedOut) := by
  have hiff : AllStates step StaysRemoved s₀ es ↔ AllSteps step InTime s₀ es :=
    allStates_iff_allSteps_of_steps (I := Sound) (fun _ _ _ h _ hstep => h.step hstep)
      (fun _ _ _ h hs hstep => staysRemoved_step_iff h hs hstep) h₀.sound h₀.staysRemoved es
  refine ⟨hiff, fun hsteps hqueue k user huser => ?_⟩
  have hs : s.StaysRemoved := allStates_last (hiff.mpr hsteps) hrun
  refine (hs k user huser).resolve_right ?_
  rintro ⟨row, hrow, -⟩
  rw [hqueue] at hrow
  cases hrow

end Run

/-- The list of `a`, who is a friend of `b` and of `c`, before anything is fetched. -/
def listOfA : FriendList where
  users id :=
    if id = "a" then some { User.signedUp "a" with friends := ["b", "c"] }.toDocument
    else if id = "b" ∨ id = "c" then some { User.signedUp id with friends := ["a"] }.toDocument
    else none
  me := User.signedUp "a"
  shown _ := []
  fetches := []
  writes := []
  queue := []
  removed _ := []

/-- It has just come up. -/
theorem listOfA_initial : listOfA.Initial where
  users {id d} hd := by
    simp only [listOfA] at hd
    split at hd
    · next hid =>
      rw [Option.some.injEq] at hd
      rw [← hd, hid]
      decide
    · split at hd
      · next hid =>
        rw [Option.some.injEq] at hd
        rw [← hd]
        rcases hid with rfl | rfl <;> decide
      · cases hd
  shown _ := rfl
  fetches := rfl
  writes := rfl
  queue := rfl
  removed _ := rfl

/-- The friends are fetched. -/
def fetchFriends : List ListEvent :=
  [.setupView .friends, .answered 0 0 none, .answered 0 0 none, .answered 0 0 none]

/-- The first friend is unfriended, and both writes land. -/
def unfriendFirst : List ListEvent :=
  [.tap .unfriendUser 0, .main, .acknowledged 0 none, .acknowledged 0 none]

/-- The condition holds where the fetch is over when `b` is unfriended. -/
theorem removed_out_unfriended :
    ∃ s, run step listOfA (fetchFriends ++ unfriendFirst) = some s ∧ s.removed .friends = ["b"] ∧
      s.RemovedOut := by
  obtain ⟨s, hrun, h⟩ := exists_run_of_any step listOfA (fetchFriends ++ unfriendFirst)
    (fun s => s.queue.isEmpty && decide (s.removed .friends = ["b"])) (by decide)
  simp only [Bool.and_eq_true, decide_eq_true_eq, List.isEmpty_iff] at h
  exact ⟨s, hrun, h.2, (removed_out listOfA_initial hrun).2 (by decide) h.1⟩

/-- `b` is back where a second fetch has read the document of `a` before. -/
theorem not_removed_out :
    ¬ ∀ (s₀ s : FriendList) (es : List ListEvent), s₀.Initial → run step s₀ es = some s →
      (∀ f ∈ s.fetches, f.reads = []) → s.writes = [] → s.queue = [] → s.RemovedOut := by
  intro hall
  obtain ⟨s, hrun, h⟩ := exists_run_of_any step listOfA
    (fetchFriends ++ [.setupView .friends, .answered 1 0 none] ++ unfriendFirst ++
      [.answered 1 0 none, .answered 1 0 none])
    (fun s => decide (∀ f ∈ s.fetches, f.reads = []) && s.writes.isEmpty && s.queue.isEmpty &&
      decide (s.removed .friends = ["b"]) && decide (∃ x ∈ s.shown .friends, x.uuid = "b"))
    (by decide)
  simp only [Bool.and_eq_true, decide_eq_true_eq, List.isEmpty_iff] at h
  obtain ⟨⟨⟨⟨hfetches, hwrites⟩, hqueue⟩, hremoved⟩, x, hx, hb⟩ := h
  have hout := hall _ s _ listOfA_initial hrun hfetches hwrites hqueue .friends "b"
    (by rw [hremoved]; exact List.mem_singleton_self _)
  exact hout x hx hb

end FriendList

end DriveTribe
