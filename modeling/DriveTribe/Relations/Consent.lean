import DriveTribe.Relations.System

/-!
# Whose request an acceptance answers

`acceptFriendRequest` acts on a row of the list of received requests, as the client fetched
it, and reads nothing from the store. So an acceptance answers a request that had reached
the user by the time of that fetch; whether it still stands when the acceptance lands is
left open.
-/

namespace DriveTribe

open Base

namespace System

/-- The request of `B` to `A` is recorded with both. -/
def Pending (s : System) (A B : UserID) : Prop :=
  s.users.has ⟨A, .friendsRequestReceived, B⟩ ∧ s.users.has ⟨B, .friendsRequestSent, A⟩

instance (s : System) (A B : UserID) : Decidable (s.Pending A B) := by
  unfold Pending
  infer_instance

/-- The event lands a write of an acceptance that `A` has called on client `c`, and that makes `B` a
friend of `A`. -/
def AcceptsFriend (s : System) (ev : Event) (c : ClientID) (A B : UserID) : Prop :=
  ∃ i w, ev = .land i ∧ s.outbox[i]? = some w ∧ w.call.op = .acceptFriendRequest ∧
    w.client = c ∧ w.call.me = A ∧ w.write = ⟨A, .friends, .arrayUnion B⟩ ∧
    ¬ s.users.has ⟨A, .friends, B⟩

/-- The event lands a removal of one of the two records of the request of `B` to `A`. -/
def Withdraws (A B : UserID) (s : System) : Event → Prop
  | .land i => ∃ w ∈ s.outbox[i]?, w.write = ⟨A, .friendsRequestReceived, .arrayRemove B⟩ ∨
      w.write = ⟨B, .friendsRequestSent, .arrayRemove A⟩
  | _ => False

instance (A B : UserID) (s : System) : ∀ ev, Decidable (Withdraws A B s ev)
  | .land i => inferInstanceAs (Decidable (∃ w ∈ s.outbox[i]?,
      w.write = ⟨A, .friendsRequestReceived, .arrayRemove B⟩ ∨
        w.write = ⟨B, .friendsRequestSent, .arrayRemove A⟩))
  | .read _ | .call _ _ _ | .fail _ => .isFalse id

/-- Client `c`, logged in as `A`, fetched list `k` during the run when `B` stood in it. -/
def Shown (s₀ : System) (es : List Event) (c : ClientID) (A : UserID) (k : RelationKey)
    (B : UserID) : Prop :=
  ∃ es₁ es₂ u, es = es₁ ++ .read (.fetchList c k) :: es₂ ∧ run step s₀ es₁ = some u ∧
    (∃ me, (u.clients c).currentUser = some me ∧ me.uuid = A) ∧ u.users.has ⟨A, k, B⟩

/-- What was shown stays shown. -/
theorem Shown.append {s₀ : System} {es : List Event} {c : ClientID} {A B : UserID}
    {k : RelationKey} (h : Shown s₀ es c A k B) (ev : Event) : Shown s₀ (es ++ [ev]) c A k B := by
  obtain ⟨es₁, es₂, u, rfl, hu⟩ := h
  exact ⟨es₁, es₂ ++ [ev], u, by simp, hu⟩

/-- Along a run: the store stays keyed, every row was shown to the user who sees it, and
every acceptance in flight was called on a request that was shown. -/
structure ShownInv (s₀ : System) (es : List Event) (s : System) : Prop where
  keyed : s.users.Keyed
  rows : ∀ c me, (s.clients c).currentUser = some me → ∀ k, ∀ user ∈ (s.clients c).rows k,
    Shown s₀ es c me.uuid k user
  accepts : ∀ w ∈ s.outbox, w.call.op = .acceptFriendRequest →
    w.write ∈ w.call.op.writes w.call.me w.call.user ∧
    Shown s₀ es w.client w.call.me .friendsRequestReceived w.call.user

/-- The invariant holds before anything happened. -/
theorem Initial.shownInv {s₀ : System} (h : s₀.Initial) : ShownInv s₀ [] s₀ where
  keyed := h.users.toKeyed
  rows c me hme := by simp [h.clients, Client.loggedOut] at hme
  accepts w hw := by simp [h.outbox] at hw

/-- Every step keeps the invariant. -/
theorem shownInv_step {s₀ s t : System} {es : List Event} {ev : Event}
    (hrun : run step s₀ es = some s) (hs : ShownInv s₀ es s) (h : step s ev = some t) :
    ShownInv s₀ (es ++ [ev]) t := by
  cases ev with
  | read r =>
    obtain ⟨x, hx, husers, rfl⟩ := step_read h
    refine ⟨husers.symm ▸ hs.keyed, ?_, fun w hw hop => ?_⟩
    · intro c me hme k user hrow
      obtain ⟨hme', hrow | ⟨rfl, hhas⟩⟩ := Session.rows_read hs.keyed hx hme hrow
      · exact (hs.rows c me hme' k user hrow).append _
      · exact ⟨es, [], s, rfl, hrun, ⟨me, hme', rfl⟩, hhas⟩
    · exact ⟨(hs.accepts w hw hop).1, (hs.accepts w hw hop).2.append _⟩
  | call c op user =>
    obtain ⟨hoffered, rfl | ⟨me, hme, -, rfl⟩⟩ := step_call h
    · exact ⟨hs.keyed, fun c me hme k user hrow => (hs.rows c me hme k user hrow).append _,
        fun w hw hop => ⟨(hs.accepts w hw hop).1, (hs.accepts w hw hop).2.append _⟩⟩
    · refine ⟨hs.keyed, fun c me hme k user hrow => (hs.rows c me hme k user hrow).append _, ?_⟩
      intro w hw hop
      rcases List.mem_append.mp hw with hw | hw
      · exact ⟨(hs.accepts w hw hop).1, (hs.accepts w hw hop).2.append _⟩
      · obtain ⟨x, hx, rfl⟩ := List.mem_map.mp hw
        simp only at hop
        subst hop
        exact ⟨hx, (hs.rows c me hme _ user hoffered).append _⟩
  | land i =>
    obtain ⟨w, rest, users, hw, husers, rfl⟩ := step_land h
    refine ⟨hs.keyed.land husers,
      fun c me hme k user hrow => (hs.rows c me hme k user hrow).append _, fun x hx hop => ?_⟩
    have hx := takeOut_subset hw hx
    exact ⟨(hs.accepts x hx hop).1, (hs.accepts x hx hop).2.append _⟩
  | fail i =>
    obtain ⟨w, rest, hw, rfl⟩ := step_fail h
    refine ⟨hs.keyed,
      fun c me hme k user hrow => (hs.rows c me hme k user hrow).append _, fun x hx hop => ?_⟩
    have hx := takeOut_subset hw hx
    exact ⟨(hs.accepts x hx hop).1, (hs.accepts x hx hop).2.append _⟩

/-- The invariant holds after every run. -/
theorem shownInv {s₀ s : System} {es : List Event} (h₀ : s₀.Initial)
    (hrun : run step s₀ es = some s) : ShownInv s₀ es s :=
  run_induction (motive := ShownInv s₀) h₀.shownInv
    (fun _ _ _ _ hrun hs h => shownInv_step hrun hs h) hrun

/-- A request that is not withdrawn stays pending. -/
theorem pending_step {s t : System} {ev : Event} {A B : UserID} (hs : s.Pending A B)
    (hev : ¬ Withdraws A B s ev) (h : step s ev = some t) : t.Pending A B := by
  cases ev with
  | read r =>
    obtain ⟨x, -, husers, rfl⟩ := step_read h
    simpa only [Pending, husers] using hs
  | call c op user =>
    obtain ⟨-, rfl | ⟨me, -, -, rfl⟩⟩ := step_call h
    · exact hs
    · exact hs
  | land i =>
    obtain ⟨w, rest, users, hw, husers, rfl⟩ := step_land h
    have hkept : ∀ e, s.users.has e → w.write ≠ ⟨e.document, e.field, .arrayRemove e.element⟩ →
        users.has e := by
      intro e he hne
      rw [RelationWrite.has_land husers]
      split
      · next hentry =>
        subst hentry
        cases hv : w.write.value with
        | arrayUnion x => rfl
        | arrayRemove x =>
          refine absurd ?_ hne
          rw [RelationWrite.entry, hv, FieldValue.element, ← hv]
      · exact he
    have hget := takeOut_getElem? hw
    refine ⟨hkept _ hs.1 fun hwrite => hev ⟨w, hget, .inl hwrite⟩,
      hkept _ hs.2 fun hwrite => hev ⟨w, hget, .inr hwrite⟩⟩
  | fail i =>
    obtain ⟨w, rest, -, rfl⟩ := step_fail h
    exact hs

/-- Whenever an acceptance makes `B` a friend of `A`, the client it was called on had fetched the
received requests of `A` at an earlier moment of the run, when `B` stood among them. If the request
was recorded with both then and was not withdrawn in between, it is pending still. -/
theorem accept_consent {s₀ s : System} {es : List Event} {ev : Event} {c : ClientID} {A B : UserID}
    (h₀ : s₀.Initial) (hrun : run step s₀ es = some s) (hev : s.AcceptsFriend ev c A B) :
    ∃ es₁ es₂ u, es = es₁ ++ .read (.fetchList c .friendsRequestReceived) :: es₂ ∧
      run step s₀ es₁ = some u ∧ (∃ me, (u.clients c).currentUser = some me ∧ me.uuid = A) ∧
      u.users.has ⟨A, .friendsRequestReceived, B⟩ ∧
      (u.Pending A B → AllSteps step (fun s ev => ¬ Withdraws A B s ev) u
        (.read (.fetchList c .friendsRequestReceived) :: es₂) → s.Pending A B) := by
  obtain ⟨i, w, rfl, hw, hop, rfl, rfl, hwrite, -⟩ := hev
  obtain ⟨hmem, es₁, es₂, u, rfl, hu, hme, hhas⟩ :=
    (shownInv h₀ hrun).accepts w (List.mem_of_getElem? hw) hop
  have huser : w.call.user = B := by
    rw [hop, hwrite] at hmem
    simp only [RelationOp.writes, List.mem_cons, RelationWrite.mk.injEq, List.not_mem_nil,
      reduceCtorEq, FieldValue.arrayUnion.injEq] at hmem
    grind
  subst huser
  refine ⟨es₁, es₂, u, rfl, hu, hme, hhas, fun hpending hkept => ?_⟩
  obtain ⟨v, hv, hs⟩ := run_append_eq_some.mp hrun
  rw [hu, Option.some.injEq] at hv
  subst hv
  exact run_invariant_of_steps (I := fun s => s.Pending w.call.me w.call.user)
    (fun _ _ _ hs hc ht => pending_step hs hc ht) hpending hkept hs

/-- `a` sends `b` a request, which `b` fetches and accepts. -/
def requestAccepted : List Event :=
  [.read (.fetchCurrentUser 0 "a"), .read (.fetchCurrentUser 1 "b"),
    .read (.fetchSpecificUsersBySearchTerm 0 "b"), .call 0 .sendFriendRequest "b", .land 0, .land 0,
    .read (.fetchList 1 .friendsRequestReceived), .call 1 .acceptFriendRequest "a"]

/-- The acceptance of `b` answers a request that client `1` had fetched, and that is pending
still. -/
theorem accept_consent_requestAccepted :
    ∃ s es₁ es₂ u, run step (signedUp ["a", "b"]) requestAccepted = some s ∧
      requestAccepted = es₁ ++ .read (.fetchList 1 .friendsRequestReceived) :: es₂ ∧
      run step (signedUp ["a", "b"]) es₁ = some u ∧
      (∃ me, (u.clients 1).currentUser = some me ∧ me.uuid = "b") ∧
      u.users.has ⟨"b", .friendsRequestReceived, "a"⟩ ∧
      (u.Pending "b" "a" → AllSteps step (fun s ev => ¬ Withdraws "b" "a" s ev) u
        (.read (.fetchList 1 .friendsRequestReceived) :: es₂) → s.Pending "b" "a") := by
  obtain ⟨s, hrun, hs⟩ := exists_run_of_any step (signedUp ["a", "b"]) requestAccepted
    (fun s => decide (s.outbox[0]? = some (InFlight.mk 1
        (.mk 1 .acceptFriendRequest "b" "a") (.mk "b" .friends (.arrayUnion "a")))) &&
      !decide (s.users.has ⟨"b", .friends, "a"⟩))
    (by decide)
  simp only [Bool.and_eq_true, decide_eq_true_eq, Bool.not_eq_true',
    decide_eq_false_iff_not] at hs
  have haccepts : s.AcceptsFriend (.land 0) 1 "b" "a" :=
    ⟨0, _, rfl, hs.1, rfl, rfl, rfl, rfl, hs.2⟩
  obtain ⟨es₁, es₂, u, h⟩ := accept_consent (signedUp_initial _) hrun haccepts
  exact ⟨s, es₁, es₂, u, hrun, h⟩

/-- `a` sends `b` a request, which `b` fetches; `a` cancels it, and `b` accepts the row that
is still there. -/
def cancelledAccepted : List Event :=
  [.read (.fetchCurrentUser 0 "a"), .read (.fetchCurrentUser 1 "b"),
    .read (.fetchSpecificUsersBySearchTerm 0 "b"), .call 0 .sendFriendRequest "b", .land 0, .land 0,
    .read (.fetchList 1 .friendsRequestReceived), .read (.fetchList 0 .friendsRequestSent),
    .call 0 .cancelFriendRequest "b", .land 0, .land 0, .call 1 .acceptFriendRequest "a"]

/-- An acceptance can make friends of a user whose request was cancelled. -/
theorem not_accept_pending :
    ¬ ∀ (s₀ : System) (es : List Event), s₀.Initial →
      AllSteps step (fun s ev => ∀ c A B, s.AcceptsFriend ev c A B → s.Pending A B) s₀ es := by
  intro hpending
  obtain ⟨s, hrun, hs⟩ := exists_run_of_any step (signedUp ["a", "b"]) cancelledAccepted
    (fun s => decide (s.outbox[0]? = some (InFlight.mk 1
        (.mk 2 .acceptFriendRequest "b" "a") (.mk "b" .friends (.arrayUnion "a")))) &&
      !decide (s.users.has ⟨"b", .friends, "a"⟩) && !decide (s.Pending "b" "a") &&
      (step s (.land 0)).isSome)
    (by decide)
  simp only [Bool.and_eq_true, decide_eq_true_eq, Bool.not_eq_true',
    decide_eq_false_iff_not] at hs
  obtain ⟨⟨⟨hw, hhas⟩, hnot⟩, hstep⟩ := hs
  obtain ⟨t, ht⟩ := Option.isSome_iff_exists.mp hstep
  have hlast := allSteps_last (hpending _ (cancelledAccepted ++ [.land 0]) (signedUp_initial _))
    hrun ht
  exact hnot (hlast 1 "b" "a" ⟨0, _, rfl, hw, rfl, rfl, rfl, rfl, hhas⟩)

end System

end DriveTribe
