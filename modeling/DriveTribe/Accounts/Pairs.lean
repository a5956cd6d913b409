import Mathlib.Data.Sym.Sym2
import DriveTribe.Accounts.Drawn
import DriveTribe.Base.Product
import DriveTribe.Relations.Complete

/-!
# Pairs of users are independent

Operations on different pairs write the same documents and the same lists. Still each write
touches one entry, and the entry belongs to the pair its operation is about. So the entries of
a pair are a machine of their own, which only the operations on the pair move, and the store
is the product of these machines.
-/

namespace DriveTribe

open Base

/-- The two users an entry is about. -/
def Entry.pair (e : Entry) : Sym2 UserID := s(e.document, e.element)

/-- The two users an operation is about. -/
def Call.pair (call : Call) : Sym2 UserID := s(call.me, call.user)

/-- The state of one pair: whether the one stands in each of the lists of the other. -/
abbrev PairBits (p : Sym2 UserID) : Type := {e : Entry // e.pair = p} → Bool

/-- The state of every pair. -/
def Users.pairs (users : Users) (p : Sym2 UserID) : PairBits p := fun e => decide (users.has e.1)

/-- The pair a write belongs to is that of its operation. -/
def InFlight.pair (w : InFlight) : Sym2 UserID := w.call.pair

/-- What a write does to a pair. -/
def InFlight.act (p : Sym2 UserID) (w : InFlight) (bits : PairBits p) : PairBits p :=
  fun e => (w.write.effect e.1).getD (bits e)

private theorem RelationOp.pair_of_mem_writes {op : RelationOp} {me user : UserID}
    {w : RelationWrite} (h : w ∈ op.writes me user) : w.entry.pair = s(me, user) := by
  have hpair : w.document = me ∧ w.value.element = user ∨
      w.document = user ∧ w.value.element = me := by
    cases op <;> simp only [RelationOp.writes, List.mem_cons, List.not_mem_nil, or_false] at h <;>
      grind [FieldValue.element]
  exact Sym2.eq_iff.mpr hpair

private theorem InFlight.act_of_ne {w : InFlight} {p : Sym2 UserID} (hw : w.write.entry.pair ≠ p)
    (bits : PairBits p) : w.act p bits = bits := by
  funext e
  have he : e.1 ≠ w.write.entry := by
    intro he
    apply hw
    rw [← he]
    exact e.2
  rw [act, RelationWrite.effect, if_neg he, Option.getD_none]

private theorem Users.pairs_land {w : InFlight} {users users' : Users}
    (h : w.write.land users = some users') (p : Sym2 UserID) :
    users'.pairs p = w.act p (users.pairs p) := by
  funext e
  exact RelationWrite.decide_has_land h e.1

/-- So it is a step of the product of all pairs. -/
theorem Users.pairs_land_eq_step {w : InFlight} {users users' : Users}
    (h : w.write.land users = some users') (hw : w.write.entry.pair = w.pair) :
    users'.pairs = productStep InFlight.pair InFlight.act users.pairs w := by
  funext p
  rw [users.pairs_land h p]
  by_cases hp : w.pair = p
  · subst hp
    rw [productStep_self]
  · rw [productStep_of_ne hp]
    apply InFlight.act_of_ne
    rw [hw]
    exact hp

private theorem InFlight.foldl_act (ws : List InFlight) {p : Sym2 UserID} (bits : PairBits p)
    (e : {e : Entry // e.pair = p}) :
    (ws.foldl (fun bits w => w.act p bits) bits) e =
      settle RelationWrite.effect (ws.map InFlight.write) e.1 (bits e) := by
  induction ws generalizing bits with
  | nil => rfl
  | cons w ws ih =>
    rw [List.foldl_cons, ih, List.map_cons, settle_cons, act]

private theorem exists_landAll {ws : List RelationWrite} {users : Users}
    (h : ∀ w ∈ ws, users w.document ≠ none) : ∃ users', landAll ws users = some users' := by
  induction ws generalizing users with
  | nil => exact ⟨users, rfl⟩
  | cons w ws ih =>
    have hdoc := h w (List.mem_cons_self ..)
    obtain ⟨d, hd⟩ := Option.ne_none_iff_exists'.mp hdoc
    have hland : ∃ users₁, w.land users = some users₁ := by
      rw [RelationWrite.land, updateData, hd]
      exact ⟨_, rfl⟩
    obtain ⟨users₁, hland⟩ := hland
    have hothers : ∀ v ∈ ws, users₁ v.document ≠ none := by
      intro v hv
      obtain ⟨dv, hdv⟩ := Option.ne_none_iff_exists'.mp (h v (List.mem_cons_of_mem _ hv))
      obtain ⟨dv', hdv', -⟩ := RelationWrite.authID_land hland hdv
      exact Option.ne_none_iff_exists'.mpr ⟨dv', hdv'⟩
    obtain ⟨users', hws⟩ := ih hothers
    exact ⟨users', Option.bind_eq_some_iff.mpr ⟨users₁, hland, hws⟩⟩

namespace Accounts

/-- Nothing of a friend operation is in flight, and nothing has landed yet. -/
structure Idle (s : Accounts) : Prop where
  drawn : s.Drawn
  outbox : s.outbox = []
  landed : s.landed = []

/-- Every write in flight belongs to the pair of its operation. -/
structure Paired (s : Accounts) : Prop where
  drawn : s.Drawn
  outbox : ∀ w ∈ s.outbox, w.write.entry.pair = w.pair
  landed : ∀ w ∈ s.landed, w.write.entry.pair = w.pair

/-- The step leaves every pair alone, or lands one write and moves the pair of its operation. -/
def MovesOnePair (s : Accounts) (ev : AccountEvent) : Prop :=
  ∀ t ∈ s.step ev, (t.users.pairs = s.users.pairs ∧ t.landed = s.landed) ∨
    ∃ w, t.users.pairs = productStep InFlight.pair InFlight.act s.users.pairs w ∧
      t.landed = s.landed ++ [w]

section Step
variable {s t : Accounts}

/-- When nothing is in flight nothing is misplaced. -/
theorem Idle.paired (h : s.Idle) : s.Paired where
  drawn := h.drawn
  outbox w hw := by
    rw [h.outbox] at hw
    cases hw
  landed w hw := by
    rw [h.landed] at hw
    cases hw

private theorem paired_relation {x : System} {ev : Event}
    (hbox : ∀ w ∈ s.outbox, w.write.entry.pair = w.pair)
    (hlanded : ∀ w ∈ s.landed, w.write.entry.pair = w.pair) (h : s.toSystem.step ev = some x) :
    (∀ w ∈ x.outbox, w.write.entry.pair = w.pair) ∧
      ∀ w ∈ x.landed, w.write.entry.pair = w.pair := by
  cases ev with
  | read r =>
    obtain ⟨y, -, -, rfl⟩ := System.step_read h
    exact ⟨hbox, hlanded⟩
  | call c op user =>
    obtain ⟨-, rfl | ⟨me, -, -, rfl⟩⟩ := System.step_call h
    · exact ⟨hbox, hlanded⟩
    · refine ⟨fun w hw => ?_, hlanded⟩
      rcases List.mem_append.mp hw with hw | hw
      · exact hbox w hw
      · obtain ⟨v, hv, rfl⟩ := List.mem_map.mp hw
        exact RelationOp.pair_of_mem_writes hv
  | land i =>
    obtain ⟨w, rest, users, hw, -, rfl⟩ := System.step_land h
    refine ⟨fun v hv => hbox v (takeOut_subset hw hv), fun v hv => ?_⟩
    rcases List.mem_append.mp hv with hv | hv
    · exact hlanded v hv
    · rw [List.mem_singleton.mp hv]
      exact hbox w (takeOut_mem hw)
  | fail i =>
    obtain ⟨w, rest, hw, rfl⟩ := System.step_fail h
    exact ⟨fun v hv => hbox v (takeOut_subset hw hv), hlanded⟩

/-- Every step does. -/
theorem Paired.step (h : s.Paired) {ev : AccountEvent} (hstep : s.step ev = some t) :
    t.Paired := by
  have hdrawn := h.drawn.step hstep
  by_cases hlocal : IsLocal ev
  · have hsame := sameRelations_step hlocal hstep
    exact ⟨hdrawn, hsame.outbox ▸ h.outbox, hsame.landed ▸ h.landed⟩
  · cases ev with
    | relation ev =>
      obtain ⟨x, hx, rfl⟩ := Option.map_eq_some_iff.mp hstep
      obtain ⟨hbox, hlanded⟩ := paired_relation h.outbox h.landed hx
      exact ⟨hdrawn, hbox, hlanded⟩
    | landUpdate i =>
      obtain ⟨u, users, -, -, hsame, -⟩ := sameRelations_landUpdate hstep
      have hbox : t.outbox = s.outbox := hsame.outbox
      have hlanded : t.landed = s.landed := hsame.landed
      exact ⟨hdrawn, hbox ▸ h.outbox, hlanded ▸ h.landed⟩
    | _ => exact absurd True.intro hlocal

private theorem Paired.movesOnePair (h : s.Paired) {ev : AccountEvent}
    (hstep : s.step ev = some t) :
    (t.users.pairs = s.users.pairs ∧ t.landed = s.landed) ∨
      ∃ w, t.users.pairs = productStep InFlight.pair InFlight.act s.users.pairs w ∧
        t.landed = s.landed ++ [w] := by
  by_cases hlocal : IsLocal ev
  · have hsame := sameRelations_step hlocal hstep
    exact .inl ⟨by rw [hsame.users], hsame.landed⟩
  · cases ev with
    | landUpdate i =>
      obtain ⟨u, users, hu, hland, hsame, -⟩ := sameRelations_landUpdate hstep
      have husers : t.users = users := hsame.users
      have hlanded : t.landed = s.landed := hsame.landed
      refine .inl ⟨?_, hlanded⟩
      funext p e
      rw [husers]
      apply decide_eq_decide.mpr
      exact UserWrite.has_land hland (fun _ hw => (h.drawn.users_eq_none hu hw).1) e.1
    | relation ev =>
      obtain ⟨x, hx, rfl⟩ := Option.map_eq_some_iff.mp hstep
      cases ev with
      | read r =>
        obtain ⟨y, -, husers, rfl⟩ := System.step_read hx
        exact .inl ⟨congrArg Users.pairs husers, rfl⟩
      | call c op user =>
        obtain ⟨-, rfl | ⟨me, -, -, rfl⟩⟩ := System.step_call hx
        · exact .inl ⟨rfl, rfl⟩
        · exact .inl ⟨rfl, rfl⟩
      | fail i =>
        obtain ⟨w, rest, -, rfl⟩ := System.step_fail hx
        exact .inl ⟨rfl, rfl⟩
      | land i =>
        obtain ⟨w, rest, users, hw, hland, rfl⟩ := System.step_land hx
        have hpair := h.outbox w (takeOut_mem hw)
        exact .inr ⟨w, Users.pairs_land_eq_step hland hpair, rfl⟩
    | _ => exact absurd True.intro hlocal

end Step

/-- Before anything happened nothing is in flight. -/
theorem Initial.idle {s : Accounts} (h : s.Initial) : s.Idle :=
  ⟨h.drawn, h.system.outbox, h.system.landed⟩

/-- What operations on other pairs do does not concern a pair. After any run its entries are
those the writes of the operations on the pair alone lead to, in the order in which they
landed; and the store is the product of one machine a pair, moved one at a time. -/
theorem pairs_independent {s₀ s : Accounts} {es : List AccountEvent} (h₀ : s₀.Idle)
    (hrun : run step s₀ es = some s) :
    (∀ a b : UserID, s₀.users a ≠ none → s₀.users b ≠ none →
      ∃ users, landAll ((s.landed.filter fun w => w.pair = s(a, b)).map InFlight.write) s₀.users =
          some users ∧
        ∀ e : Entry, e.pair = s(a, b) → (s.users.has e ↔ users.has e)) ∧
      AllSteps step MovesOnePair s₀ es ∧
      s.users.pairs = productRun InFlight.pair InFlight.act s₀.users.pairs s.landed := by
  have hproduct : s.users.pairs = productRun InFlight.pair InFlight.act s₀.users.pairs s.landed :=
    productRun_of_history (I := Paired) (f := fun s => s.users.pairs) (g := fun s => s.landed)
      (fun s ev t hs ht => hs.step ht)
      (fun s ev t hs ht => hs.movesOnePair ht) h₀.paired h₀.landed hrun
  have hpaired : s.Paired := run_invariant (fun s ev t hs ht => hs.step ht) h₀.paired hrun
  refine ⟨fun a b ha hb => ?_, ?_, hproduct⟩
  · have hdocs : ∀ w ∈ (s.landed.filter fun w => w.pair = s(a, b)).map InFlight.write,
        s₀.users w.document ≠ none := by
      intro v hv
      obtain ⟨w, hw, rfl⟩ := List.mem_map.mp hv
      obtain ⟨hmem, hpair⟩ := List.mem_filter.mp hw
      have hentry := (hpaired.landed w hmem).trans (of_decide_eq_true hpair)
      have hdocument : w.write.document ∈ s(a, b) := by
        rw [← hentry]
        exact Sym2.mem_mk_left ..
      rcases Sym2.mem_iff.mp hdocument with he | he
      · rw [he]
        exact ha
      · rw [he]
        exact hb
    obtain ⟨users, hland⟩ := exists_landAll hdocs
    refine ⟨users, hland, fun e he => ?_⟩
    have hbits := congrFun (congrFun hproduct s(a, b)) ⟨e, he⟩
    rw [productRun_apply, InFlight.foldl_act] at hbits
    rw [has_landAll hland]
    exact decide_eq_true_iff.symm.trans (Bool.eq_iff_iff.mp hbits)
  · apply allSteps_of_invariant (I := Paired) (C := fun _ _ => True)
      (fun s ev t hs _ ht => hs.step ht) ?_ h₀.paired (allSteps_true s₀ es)
    intro s ev t hs _ ht u hu
    rw [Option.mem_def, ht, Option.some.injEq] at hu
    subst hu
    exact hs.movesOnePair ht

/-- Two users ask the same third one, whose profile changes between the landings. -/
private def crossing : List AccountEvent :=
  [.relation (.read (.fetchCurrentUser 0 "a")),
    .relation (.read (.fetchSpecificUsersBySearchTerm 0 "b")),
    .relation (.read (.fetchCurrentUser 1 "c")),
    .relation (.read (.fetchSpecificUsersBySearchTerm 1 "b")),
    .relation (.call 0 .sendFriendRequest "b"), .relation (.call 1 .sendFriendRequest "b"),
    .relation (.land 2), .updateUserProfile 1 "C" "C" "c" "", .relation (.land 0), .landUpdate 0,
    .relation (.land 1), .relation (.land 0)]

/-- For the first of the two only the writes of its own request count. -/
theorem pairs_independent_crossing :
    ∃ s, run step (signedUp ["a", "b", "c"]) crossing = some s ∧
      ∃ users, landAll ((s.landed.filter fun w => w.pair = s("a", "b")).map InFlight.write)
          (signedUp ["a", "b", "c"]).users = some users ∧
        ∀ e : Entry, e.pair = s("a", "b") → (s.users.has e ↔ users.has e) := by
  have hrun := exists_run_of_any step (signedUp ["a", "b", "c"]) crossing (fun _ => true)
    (by decide)
  obtain ⟨s, hrun, -⟩ := hrun
  have hpairs := pairs_independent (signedUp_initial _).idle hrun
  exact ⟨s, hrun, hpairs.1 "a" "b" (by decide) (by decide)⟩

end Accounts

end DriveTribe
