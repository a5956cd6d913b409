import DriveTribe.Accounts.Pairs
import DriveTribe.Relations.Network

/-!
# The lists represent the network of the calls

The writes of an operation land one by one, in between those of other users. Still, whenever
nothing is in flight, the lists are those of one network: the one that the calls lead to when
each is carried out at once, in the order in which they were issued. This takes that no write
overtakes an opposite one to the same entry, which is so in particular where the calls on a pair
do not overlap. Calls on different pairs may overlap as they like.
-/

namespace DriveTribe

open Base

/-- What a call does, and for whom. -/
def Call.operation (call : Call) : RelationOp × UserID × UserID := (call.op, call.me, call.user)

namespace Accounts

/-- The network the calls so far lead to, one after the other. -/
def network (s : Accounts) : Network UserID := .after (s.log.map Call.operation)

/-- No write fails, and none to `e` overtakes an opposite one. -/
def InOrder (e : Entry) (s : Accounts) : AccountEvent → Prop
  | .relation ev => ev.Succeeds ∧ s.toSystem.InIssueOrder e ev
  | _ => True

instance (e : Entry) (s : Accounts) : ∀ ev, Decidable (s.InOrder e ev)
  | .relation ev => inferInstanceAs (Decidable (ev.Succeeds ∧ s.toSystem.InIssueOrder e ev))
  | .locate _ _ _ | .signUp _ _ _ _ | .accountCreated _ _ _ | .accountRefused _
  | .updateUserProfile _ _ _ _ _ | .updateUserLocation _ _ | .landUpdate _ | .failUpdate _
  | .stop _ => .isTrue True.intro

/-- No write fails, and no client issues a call while writes of another client to the same pair
are in flight. -/
def Apart (s : Accounts) : AccountEvent → Prop
  | .relation (.call c _ user) => ∀ me ∈ (s.clients c).currentUser,
    ∀ w ∈ s.outbox, w.pair = s(me.uuid, user) → w.client = c
  | .relation ev => ev.Succeeds
  | _ => True

instance (s : Accounts) : ∀ ev, Decidable (s.Apart ev)
  | .relation (.call c _ user) => inferInstanceAs (Decidable (∀ me ∈ (s.clients c).currentUser,
      ∀ w ∈ s.outbox, w.pair = s(me.uuid, user) → w.client = c))
  | .relation (.fail _) => .isFalse id
  | .relation (.read _) | .relation (.land _) => .isTrue True.intro
  | .locate _ _ _ | .signUp _ _ _ _ | .accountCreated _ _ _ | .accountRefused _
  | .updateUserProfile _ _ _ _ _ | .updateUserLocation _ _ | .landUpdate _ | .failUpdate _
  | .stop _ => .isTrue True.intro

/-- The writes in flight to a pair are all of one client. -/
def OneClient (s : Accounts) : Prop :=
  ∀ v ∈ s.outbox, ∀ w ∈ s.outbox, v.pair = w.pair → v.client = w.client

section Step
variable {s t : Accounts} {e : Entry} {ev : AccountEvent}

/-- What is settled about an entry is what the network of the calls says. -/
def Represents (s : Accounts) (e : Entry) : Prop :=
  s.toSystem.settled e = true ↔ s.network.Lists e.document e.field e.element

/-- What does not concern the relations leaves both sides alone. -/
theorem represents_of_same (h : s.Represents e) (hlog : t.log = s.log)
    (hbox : t.outbox = s.outbox) (hhas : t.users.has e ↔ s.users.has e) : t.Represents e := by
  have hsettled : t.toSystem.settled e = s.toSystem.settled e := by
    rw [System.settled, System.settled, hbox, decide_eq_decide.mpr hhas]
  rw [Represents, hsettled, network, hlog]
  exact h

/-- A call changes the network and what is settled alike; the rest changes neither. -/
theorem represents_relation {x : System} {ev : Event} (h : s.Represents e)
    (hev : ev.Succeeds ∧ s.toSystem.InIssueOrder e ev) (hstep : s.toSystem.step ev = some x) :
    Represents { s with toSystem := x } e := by
  cases ev with
  | read r =>
    obtain ⟨y, -, husers, rfl⟩ := System.step_read hstep
    exact represents_of_same h rfl rfl (by rw [husers])
  | call c op user =>
    obtain ⟨-, rfl | ⟨me, -, -, rfl⟩⟩ := System.step_call hstep
    · exact h
    · simp only [Represents, network, System.settled_issue]
      simp only [System.issue, List.map_append, List.map_cons, List.map_nil, Call.operation]
      rw [Network.after_concat]
      exact RelationOp.settle_writes_iff h
  | land i =>
    have hsettled := System.settled_land hstep hev.2
    obtain ⟨w, rest, users, -, -, rfl⟩ := System.step_land hstep
    rw [Represents, hsettled]
    exact h
  | fail i => exact hev.1.elim

/-- So every step in order keeps them the same. -/
theorem represents_step (hs : s.Paired) (h : s.Represents e) (hev : s.InOrder e ev)
    (hstep : s.step ev = some t) : t.Represents e := by
  by_cases hlocal : IsLocal ev
  · have hsame := sameRelations_step hlocal hstep
    exact represents_of_same h hsame.log hsame.outbox (by rw [hsame.users])
  · cases ev with
    | relation ev =>
      obtain ⟨x, hx, rfl⟩ := Option.map_eq_some_iff.mp hstep
      exact represents_relation h hev hx
    | landUpdate i =>
      obtain ⟨u, users, hu, hland, hsame, -⟩ := sameRelations_landUpdate hstep
      have husers : t.users = users := hsame.users
      refine represents_of_same h hsame.log hsame.outbox ?_
      rw [husers]
      exact UserWrite.has_land hland (fun _ hw => (hs.drawn.users_eq_none hu hw).1) e
    | _ => exact absurd True.intro hlocal

/-- Where the calls on a pair do not overlap, its writes in flight stay with one client. -/
theorem oneClient_step (h : s.OneClient) (hev : s.Apart ev) (hstep : s.step ev = some t) :
    t.OneClient := by
  by_cases hlocal : IsLocal ev
  · have hbox : t.outbox = s.outbox := (sameRelations_step hlocal hstep).outbox
    rw [OneClient, hbox]
    exact h
  · cases ev with
    | landUpdate i =>
      obtain ⟨u, users, -, -, hsame, -⟩ := sameRelations_landUpdate hstep
      have hbox : t.outbox = s.outbox := hsame.outbox
      rw [OneClient, hbox]
      exact h
    | relation ev =>
      obtain ⟨x, hx, rfl⟩ := Option.map_eq_some_iff.mp hstep
      cases ev with
      | read r =>
        obtain ⟨y, -, -, rfl⟩ := System.step_read hx
        exact h
      | land i =>
        obtain ⟨w, rest, users, hw, -, rfl⟩ := System.step_land hx
        exact fun v hv w hw' => h v (takeOut_subset hw hv) w (takeOut_subset hw hw')
      | fail i => exact hev.elim
      | call c op user =>
        obtain ⟨-, rfl | ⟨me, hme, -, rfl⟩⟩ := System.step_call hx
        · exact h
        · -- The new writes are of the caller, and so are those in flight to the same pair.
          have hnew : ∀ w ∈ s.outbox, w.pair = s(me.uuid, user) → w.client = c := hev me hme
          intro v hv w hw hpair
          rcases List.mem_append.mp hv with hv | hv
          · rcases List.mem_append.mp hw with hw | hw
            · exact h v hv w hw hpair
            · obtain ⟨_, -, rfl⟩ := List.mem_map.mp hw
              exact hnew v hv hpair
          · obtain ⟨_, -, rfl⟩ := List.mem_map.mp hv
            rcases List.mem_append.mp hw with hw | hw
            · exact (hnew w hw hpair.symm).symm
            · obtain ⟨_, -, rfl⟩ := List.mem_map.mp hw
              rfl
    | _ => exact absurd True.intro hlocal

private theorem inOrder_of_apart (hs : s.Paired) (h : s.OneClient) (hev : s.Apart ev)
    (hstep : s.step ev = some t) (e : Entry) : s.InOrder e ev := by
  cases ev with
  | relation ev =>
    cases ev with
    | read r => exact ⟨True.intro, True.intro⟩
    | call c op user => exact ⟨True.intro, True.intro⟩
    | fail i => exact hev.elim
    | land i =>
      refine ⟨True.intro, ?_⟩
      rintro ⟨w, hw, hwe, v, hv, hve, -⟩
      obtain ⟨x, hx, -⟩ := Option.map_eq_some_iff.mp hstep
      obtain ⟨w', rest, users, htake, -, -⟩ := System.step_land hx
      obtain ⟨pre, post, -, -, rfl, hfirst⟩ := takeOut_eq_some htake
      rw [takeOut_getElem? htake, Option.some.injEq] at hw
      subst hw
      have hmem : v ∈ s.outbox := List.mem_of_mem_take hv
      have hpair : v.pair = w'.pair := by
        rw [← hs.outbox v hmem, ← hs.outbox w' (takeOut_mem htake), hve, hwe]
      exact hfirst v hv (h v hmem w' (takeOut_mem htake) hpair)
  | _ => exact True.intro

end Step

section Run
variable {s₀ s : Accounts} {es : List AccountEvent}

/-- Before anything happened the network is empty, and so is the store. -/
theorem Initial.represents (h : s₀.Initial) (e : Entry) : s₀.Represents e := by
  rw [Represents, h.system.settled_eq_false e, network, h.system.log]
  exact iff_of_false Bool.false_ne_true fun h => Network.not_lists_empty _ _ _ h

/-- So they are the same after every run in order. -/
theorem represents_run {e : Entry} (h₀ : s₀.Initial) (hrun : run step s₀ es = some s)
    (hev : AllSteps step (InOrder e) s₀ es) : s.Represents e := by
  have hinv : s.Paired ∧ s.Represents e :=
    run_invariant_of_steps (I := fun s => s.Paired ∧ s.Represents e)
      (fun _ _ _ hs hc ht => ⟨hs.1.step ht, represents_step hs.1 hs.2 hc ht⟩)
      ⟨h₀.idle.paired, h₀.represents e⟩ hev hrun
  exact hinv.2

/-- Where nothing is in flight, what is settled is what is stored. -/
theorem Represents.has_iff {e : Entry} (h : s.Represents e) (hquiet : s.outbox = []) :
    s.users.has e ↔ s.network.Lists e.document e.field e.element := by
  rw [← System.settled_of_quiescent hquiet e]
  exact h

/-- Whenever nothing is in flight, an entry stands in the store exactly if it stands in the
network that the calls lead to one after the other, in every run in which no write fails and
none to the entry has overtaken an opposite one. -/
theorem has_iff_network {e : Entry} (h₀ : s₀.Initial) (hrun : run step s₀ es = some s)
    (hev : AllSteps step (InOrder e) s₀ es) (hquiet : s.outbox = []) :
    s.users.has e ↔ s.network.Lists e.document e.field e.element :=
  (represents_run h₀ hrun hev).has_iff hquiet

/-- Where the calls on a pair do not overlap, every write lands in order. -/
theorem allSteps_inOrder (h₀ : s₀.Initial) (hev : AllSteps step Apart s₀ es) (e : Entry) :
    AllSteps step (InOrder e) s₀ es := by
  have hnone : s₀.OneClient := by
    intro v hv
    rw [h₀.system.outbox] at hv
    cases hv
  exact allSteps_of_invariant (I := fun s => s.Paired ∧ s.OneClient)
    (fun _ _ _ hs hc ht => ⟨hs.1.step ht, oneClient_step hs.2 hc ht⟩)
    (fun _ _ _ hs hc ht => inOrder_of_apart hs.1 hs.2 hc ht e) ⟨h₀.idle.paired, hnone⟩ hev

/-- So the whole store at rest is the network of its calls. -/
theorem store_represents_network (h₀ : s₀.Initial) (hrun : run step s₀ es = some s)
    (hev : AllSteps step Apart s₀ es) (hquiet : s.outbox = []) (e : Entry) :
    s.users.has e ↔ s.network.Lists e.document e.field e.element :=
  (represents_run h₀ hrun (allSteps_inOrder h₀ hev e)).has_iff hquiet

/-- The operations of the calls on a pair, in the order of issue. -/
def operationsOn (s : Accounts) (p : Sym2 UserID) : List (RelationOp × UserID × UserID) :=
  (s.log.filter fun call => call.pair = p).map Call.operation

/-- What the network says of a pair is what the calls on the pair lead to. -/
theorem lists_network_iff (s : Accounts) (e : Entry) :
    s.network.Lists e.document e.field e.element ↔
      (Network.after (s.operationsOn e.pair)).Lists e.document e.field e.element := by
  rw [network, Network.lists_after_filter, operationsOn, List.filter_map]
  rfl

/-- Two runs in which the same calls were issued on every pair, each in an order of its own and
with any interleaving of calls on different pairs, end with the same entries in the store. -/
theorem same_entries_of_same_calls {t₀ t : Accounts} {fs : List AccountEvent} (h₀ : s₀.Initial)
    (hrun : run step s₀ es = some s) (hev : AllSteps step Apart s₀ es) (hquiet : s.outbox = [])
    (k₀ : t₀.Initial) (krun : run step t₀ fs = some t) (kev : AllSteps step Apart t₀ fs)
    (kquiet : t.outbox = []) (hcalls : ∀ p, s.operationsOn p = t.operationsOn p) (e : Entry) :
    s.users.has e ↔ t.users.has e := by
  rw [(represents_run h₀ hrun (allSteps_inOrder h₀ hev e)).has_iff hquiet,
    (represents_run k₀ krun (allSteps_inOrder k₀ kev e)).has_iff kquiet, lists_network_iff,
    lists_network_iff, hcalls]

end Run

/-- Two users log in and find a third. -/
private def twoSuitors : List AccountEvent :=
  [.relation (.read (.fetchCurrentUser 0 "a")),
    .relation (.read (.fetchSpecificUsersBySearchTerm 0 "b")),
    .relation (.read (.fetchCurrentUser 1 "c")),
    .relation (.read (.fetchSpecificUsersBySearchTerm 1 "b"))]

/-- Both ask the third; their writes land in turn. -/
private def firstThenSecond : List AccountEvent :=
  twoSuitors ++ [.relation (.call 0 .sendFriendRequest "b"),
    .relation (.call 1 .sendFriendRequest "b"), .relation (.land 2), .relation (.land 0),
    .relation (.land 1), .relation (.land 0)]

/-- The same the other way round. -/
private def secondThenFirst : List AccountEvent :=
  twoSuitors ++ [.relation (.call 1 .sendFriendRequest "b"),
    .relation (.call 0 .sendFriendRequest "b"), .relation (.land 0), .relation (.land 1),
    .relation (.land 0), .relation (.land 0)]

/-- A request is as the network says even where the friendship it led to is recorded on one side
only: no write to its entry overtook another. -/
theorem has_iff_network_crossing :
    ∃ s, run step (signedUp ["a", "b"]) (System.crossedAcceptance.map .relation) = some s ∧
      ¬ s.network.Lists "b" .friendsRequestReceived "a" := by
  obtain ⟨s, hrun, hs⟩ := exists_run_of_any step (signedUp ["a", "b"])
    (System.crossedAcceptance.map .relation) (fun s => s.outbox.isEmpty &&
      decide (¬ s.users.has ⟨"b", .friendsRequestReceived, "a"⟩)) (by decide)
  simp only [Bool.and_eq_true, decide_eq_true_eq, List.isEmpty_iff] at hs
  exact ⟨s, hrun, (has_iff_network (signedUp_initial _) hrun (by decide) hs.1).not.mp hs.2⟩

/-- The calls on one pair do not overlap those on the other's. -/
theorem store_represents_network_crossing :
    ∃ s, run step (signedUp ["a", "b", "c"]) firstThenSecond = some s ∧
      ∀ e : Entry, s.users.has e ↔ s.network.Lists e.document e.field e.element := by
  obtain ⟨s, hrun, hs⟩ := exists_run_of_any step (signedUp ["a", "b", "c"]) firstThenSecond
    (fun s => s.outbox.isEmpty) (by decide)
  exact ⟨s, hrun, store_represents_network (signedUp_initial _) hrun (by decide)
    (List.isEmpty_iff.mp hs)⟩

/-- The order of the two calls is forgotten. -/
theorem same_entries_crossing :
    ∃ s t, run step (signedUp ["a", "b", "c"]) firstThenSecond = some s ∧
      run step (signedUp ["a", "b", "c"]) secondThenFirst = some t ∧
      ∀ e : Entry, s.users.has e ↔ t.users.has e := by
  obtain ⟨s, hrun, hs⟩ := exists_run_of_any step (signedUp ["a", "b", "c"]) firstThenSecond
    (fun s => s.outbox.isEmpty && decide (s.log = [⟨0, .sendFriendRequest, "a", "b"⟩,
      ⟨1, .sendFriendRequest, "c", "b"⟩])) (by decide)
  obtain ⟨t, krun, ht⟩ := exists_run_of_any step (signedUp ["a", "b", "c"]) secondThenFirst
    (fun s => s.outbox.isEmpty && decide (s.log = [⟨0, .sendFriendRequest, "c", "b"⟩,
      ⟨1, .sendFriendRequest, "a", "b"⟩])) (by decide)
  simp only [Bool.and_eq_true, List.isEmpty_iff, decide_eq_true_eq] at hs ht
  refine ⟨s, t, hrun, krun, same_entries_of_same_calls (signedUp_initial _) hrun (by decide) hs.1
    (signedUp_initial _) krun (by decide) ht.1 fun p => ?_⟩
  simp only [operationsOn, hs.2, ht.2, Call.pair, List.filter_cons, List.filter_nil]
  by_cases hab : s("a", "b") = p
  · have hcb : s("c", "b") ≠ p := hab ▸ by decide
    simp [hab, hcb, Call.operation]
  · by_cases hcb : s("c", "b") = p <;> simp [hab, hcb, Call.operation]

end Accounts

end DriveTribe
