import DriveTribe.Accounts.Linear
import DriveTribe.Accounts.Rows
import DriveTribe.Friends.Fetch

/-!
# The screens show the network

The lists of a user are read document by document, from a store whose entries were written one by
one. Where the store represents the network of the calls, a list that is read from it shows
the users the network lists.
-/

namespace DriveTribe

open Base

namespace Accounts
variable {s₀ s t : Accounts} {es : List AccountEvent}

/-- A screen shows the users whom the network lists for `me`, as they are stored, each once. A
listed user whose document does not decode is not shown. -/
structure ShowsNetwork (s : Accounts) (me : UserID) (k : RelationKey) (shown : List User) :
    Prop where
  once : (shown.map User.uuid).Nodup
  mem : ∀ user, user ∈ shown ↔
    s.network.Lists me k user.uuid ∧ s.user? user.uuid = some user

/-- Documents stand under their ids, and nobody stands twice in a list. -/
structure Listed (s : Accounts) : Prop where
  drawn : s.Drawn
  keyed : s.users.Keyed
  nodup : ∀ {id d}, s.users id = some d → ∀ k, (d.relation k).Nodup

/-- It is so at the start. -/
theorem Initial.listed (h : s.Initial) : s.Listed where
  drawn := h.drawn
  keyed := h.system.users.toKeyed
  nodup hd k := by
    rw [h.system.users.relation hd]
    exact List.nodup_nil

/-- Every step keeps it so. -/
theorem Listed.step (h : s.Listed) {ev : AccountEvent} (hstep : s.step ev = some t) :
    t.Listed where
  drawn := h.drawn.step hstep
  keyed := keyed_step h.drawn h.keyed hstep
  nodup {id d} hd k := by
    rcases docs_step h.drawn hstep hd with
      ⟨account, -, rfl, -, -⟩ | ⟨d₀, hd₀, ⟨-, -, hsame⟩ | ⟨w, -, -, rfl⟩⟩
    · rw [NewAccount.relation_document]
      exact List.nodup_nil
    · rw [hsame k]
      exact h.nodup hd₀ k
    · rw [UserDocument.changeRelation, UserDocument.relation_setRelation]
      split
      · exact FieldValue.nodup_apply (h.nodup hd₀ w.field) w.value
      · exact h.nodup hd₀ k

/-- The users a list is read as, from one store. -/
def readList (s : Accounts) (userData : User) (k : RelationKey) : List User :=
  (userData.relation k).filterMap s.user?

/-- They are those who are listed and can be read, each once. -/
theorem Listed.readList (h : s.Listed) {me : UserID} {userData : User}
    (hme : s.user? me = some userData) (k : RelationKey) :
    ((s.readList userData k).map User.uuid).Nodup ∧ ∀ user, user ∈ s.readList userData k ↔
      s.users.has ⟨me, k, user.uuid⟩ ∧ s.user? user.uuid = some user := by
  constructor
  · obtain ⟨d, hd, hdec⟩ := Option.bind_eq_some_iff.mp hme
    have hnodup : (userData.relation k).Nodup := by
      rw [User.relation_of_ofDocument hdec]
      exact h.nodup hd k
    rw [Accounts.readList, List.map_filterMap]
    refine hnodup.filterMap fun id id' x hx hx' => ?_
    obtain ⟨user, huser, rfl⟩ := Option.map_eq_some_iff.mp hx
    obtain ⟨user', huser', heq⟩ := Option.map_eq_some_iff.mp hx'
    rw [← Session.uuid_of_user? h.keyed huser, ← Session.uuid_of_user? h.keyed huser', heq]
  · intro user
    rw [Accounts.readList, List.mem_filterMap]
    constructor
    · rintro ⟨id, hid, huser⟩
      obtain rfl := Session.uuid_of_user? h.keyed huser
      exact ⟨(Session.mem_relation_of_user? hme).mp hid, huser⟩
    · rintro ⟨hhas, huser⟩
      exact ⟨user.uuid, (Session.mem_relation_of_user? hme).mpr hhas, huser⟩

section Run
variable {k : RelationKey} {onMain : Bool} {me : UserID} {userData : User} {previous : List User}
  {x : Requests FetchState FetchRead Snapshot FetchResult}
  {fs : List (RequestEvent Snapshot Unit)}

private theorem shown_perm
    (hfetch : run (ListView.step ⟨UserController.fetch k, onMain⟩)
      (ListView.start me previous) fs = some x)
    (hdone : x.outstanding = []) (hmain : x.state.waiting = [])
    (hstore : ∀ a ∈ x.answers, a.answer = .ok (s.users a.request.document))
    (hme : s.user? me = some userData) :
    x.state.shown.Perm
      (if s.readList userData k = [] then previous else s.readList userData k) := by
  have hperm : (succeeded x.answers).Perm (s.readList userData k) :=
    ListView.succeeded_perm hfetch hdone hstore hme
  have hshown : x.state.shown =
      if succeeded x.answers = [] then previous else succeeded x.answers := by
    rw [← (ListView.collects_run hfetch).settled, FetchState.settled, hmain]
    rfl
  rw [hshown]
  by_cases hnone : s.readList userData k = []
  · rw [hnone, List.perm_nil] at hperm
    rw [if_pos hnone, if_pos hperm]
  · have hsome : succeeded x.answers ≠ [] := fun hnil => hnone (by
      rw [hnil] at hperm
      exact hperm.symm.eq_nil)
    rw [if_neg hnone, if_neg hsome]
    exact hperm

/-- Where nothing is in flight and the calls on each pair did not overlap, a list that has been
read shows the network of the calls exactly if it lists somebody who can be read, or the screen
showed nobody before. -/
theorem showsNetwork_iff (h₀ : s₀.Initial) (hrun : run step s₀ es = some s)
    (hev : AllSteps step Apart s₀ es) (hquiet : s.outbox = [])
    (hfetch : run (ListView.step ⟨UserController.fetch k, onMain⟩)
      (ListView.start me previous) fs = some x)
    (hdone : x.outstanding = []) (hmain : x.state.waiting = [])
    (hstore : ∀ a ∈ x.answers, a.answer = .ok (s.users a.request.document))
    (hme : s.user? me = some userData) :
    s.ShowsNetwork me k x.state.shown ↔
      previous = [] ∨ ∃ user, s.network.Lists me k user ∧ (s.user? user).isSome := by
  have hlisted : s.Listed := run_invariant (fun _ _ _ h hstep => h.step hstep) h₀.listed hrun
  have hnetwork (user : UserID) : s.users.has ⟨me, k, user⟩ ↔ s.network.Lists me k user :=
    (represents_run h₀ hrun (allSteps_inOrder h₀ hev _)).has_iff hquiet
  obtain ⟨hnodup, hmem⟩ := hlisted.readList hme k
  have hperm := shown_perm hfetch hdone hmain hstore hme
  have hempty : s.readList userData k = [] ↔
      ¬ ∃ user, s.network.Lists me k user ∧ (s.user? user).isSome := by
    rw [List.eq_nil_iff_forall_not_mem]
    constructor
    · rintro hno ⟨id, hlists, hsome⟩
      obtain ⟨user, huser⟩ := Option.isSome_iff_exists.mp hsome
      obtain rfl := Session.uuid_of_user? hlisted.keyed huser
      exact hno user ((hmem user).mpr ⟨(hnetwork _).mpr hlists, huser⟩)
    · intro hno user huser
      obtain ⟨hhas, hread⟩ := (hmem user).mp huser
      exact hno ⟨user.uuid, (hnetwork _).mp hhas, by rw [hread]; rfl⟩
  have hreads (hshown : x.state.shown.Perm (s.readList userData k)) :
      s.ShowsNetwork me k x.state.shown :=
    ⟨(hshown.map _).nodup_iff.mpr hnodup, fun user => by rw [hshown.mem_iff, hmem, hnetwork]⟩
  -- An empty list is never delivered, so the screen shows what it did before.
  by_cases hnone : s.readList userData k = []
  · rw [if_pos hnone] at hperm
    constructor
    · intro hshows
      left
      apply List.eq_nil_iff_forall_not_mem.mpr
      intro user huser
      obtain ⟨hlists, hread⟩ := (hshows.mem user).mp (hperm.mem_iff.mpr huser)
      exact hempty.mp hnone ⟨user.uuid, hlists, by rw [hread]; rfl⟩
    · rintro (rfl | hsome)
      · exact hreads (by rw [hnone]; exact hperm)
      · exact absurd hsome (hempty.mp hnone)
  · rw [if_neg hnone] at hperm
    exact ⟨fun _ => .inr (not_not.mp (mt hempty.mpr hnone)), fun _ => hreads hperm⟩

end Run

/-- `a` asks `b`. -/
def oneRequest : List AccountEvent :=
  [.relation (.read (.fetchCurrentUser 0 "a")),
    .relation (.read (.fetchSpecificUsersBySearchTerm 0 "b")),
    .relation (.call 0 .sendFriendRequest "b"), .relation (.land 0), .relation (.land 0)]

private theorem oneRequest_read :
    ∃ (s : Accounts) (x : Requests FetchState FetchRead Snapshot FetchResult) (userData : User)
      (fs : List (RequestEvent Snapshot Unit)),
      run step (signedUp ["a", "b"]) oneRequest = some s ∧ s.outbox = [] ∧
      run FriendListTableViewController.setupViewForFriendRequestsReceived.step
        (ListView.start "b" []) fs = some x ∧ x.outstanding = [] ∧ x.state.waiting = [] ∧
      (∀ a ∈ x.answers, a.answer = .ok (s.users a.request.document)) ∧
      s.user? "b" = some userData := by
  refine ⟨_, _, _,
    [.answered 0 (.ok (some { User.signedUp "b" with friendsRequestReceived := ["a"] }.toDocument)),
      .answered 0 (.ok (some { User.signedUp "a" with friendsRequestSent := ["b"] }.toDocument))],
    rfl, rfl, rfl, rfl, rfl, ?_, rfl⟩
  exact List.forall_mem_cons.mpr ⟨rfl, List.forall_mem_cons.mpr ⟨rfl, List.forall_mem_nil _⟩⟩

/-- He sees what the network says. -/
theorem showsNetwork_oneRequest :
    ∃ (s : Accounts) (x : Requests FetchState FetchRead Snapshot FetchResult),
      run step (signedUp ["a", "b"]) oneRequest = some s ∧
      s.ShowsNetwork "b" .friendsRequestReceived x.state.shown := by
  obtain ⟨s, x, userData, fs, hrun, hquiet, hfetch, hdone, hmain, hstore, hme⟩ := oneRequest_read
  exact ⟨s, x, hrun, (showsNetwork_iff (signedUp_initial _) hrun (by decide) hquiet hfetch hdone
    hmain hstore hme).mpr (.inl rfl)⟩

end Accounts

end DriveTribe
