import DriveTribe.Relations.Agreement

/-!
# What a block keeps out

`blockUser` promises that the two users can no longer associate:
`FriendListTableViewController.swift:333`. Only `sendFriendRequest` looks at the blocked
users, and it looks at the copy in memory; `acceptFriendRequest` looks at nothing, and a
block leaves pending requests where they are. The block holds where neither operation is
called against a block, and no block is called across one of them.
-/

namespace DriveTribe

open Base

/-- The lists through which two users associate: friends, or pending requests. -/
def RelationKey.IsContact : RelationKey → Prop
  | .friends | .friendsRequestSent | .friendsRequestReceived => True
  | .blockedUsers | .blockedUsersByCurrentUser => False

instance : ∀ k : RelationKey, Decidable k.IsContact
  | .friends | .friendsRequestSent | .friendsRequestReceived => .isTrue True.intro
  | .blockedUsers | .blockedUsersByCurrentUser => .isFalse id

/-- The operations that put users into those lists. -/
def RelationOp.MakesContact : RelationOp → Prop
  | .sendFriendRequest | .acceptFriendRequest => True
  | _ => False

instance : ∀ op : RelationOp, Decidable op.MakesContact
  | .sendFriendRequest | .acceptFriendRequest => .isTrue True.intro
  | .cancelFriendRequest | .blockUser | .unfriendUser | .unblockedUser => .isFalse id

/-- The call is of one of the two users on the other. -/
def Call.Between (x : Call) (A B : UserID) : Prop :=
  (x.me = A ∧ x.user = B) ∨ (x.me = B ∧ x.user = A)

instance (x : Call) (A B : UserID) : Decidable (x.Between A B) := by
  unfold Call.Between
  infer_instance

private theorem RelationOp.adds_contact {op : RelationOp} {me user : UserID} {w : RelationWrite}
    (hw : w ∈ op.writes me user) (hpresent : w.value.present = true) (hk : w.field.IsContact) :
    op.MakesContact ∧ ((w.document = me ∧ w.value.element = user) ∨
      (w.document = user ∧ w.value.element = me)) := by
  cases op <;> simp only [writes, List.mem_cons, List.not_mem_nil, or_false] at hw <;>
    rcases hw with rfl | rfl | rfl | rfl | rfl <;>
    simp_all [FieldValue.present, FieldValue.element, MakesContact, RelationKey.IsContact]

private theorem RelationOp.block_removes {me user : UserID} {w : RelationWrite}
    (hw : w ∈ RelationOp.blockUser.writes me user) (hk : w.field = .friends) :
    w.value.present = false := by
  simp only [writes, List.mem_cons, List.not_mem_nil, or_false] at hw
  rcases hw with rfl | rfl | rfl | rfl | rfl <;> simp_all [FieldValue.present]

namespace System

/-- `b` is a block that its user has not called off since. -/
def InForce (s : System) (b : Call) : Prop :=
  b.op = .blockUser ∧ ∀ u ∈ s.log, u.op = .unblockedUser → u.me = b.me → u.user = b.user →
    u.serial < b.serial

instance (s : System) (b : Call) : Decidable (s.InForce b) := by
  unfold InForce
  infer_instance

/-- The block of `B` by `A` stands: all writes of the call have landed, and `A` has not
called `unblockedUser` since. -/
def BlockStands (s : System) (A B : UserID) : Prop :=
  ∃ b ∈ s.log, s.InForce b ∧ b.me = A ∧ b.user = B ∧
    ∀ w ∈ RelationOp.blockUser.writes A B, ∃ x ∈ s.landed, x.call = b ∧ x.write = w

instance (s : System) (A B : UserID) : Decidable (s.BlockStands A B) := by
  unfold BlockStands
  infer_instance

/-- The event lands a write that makes one of `A` and `B` a friend of the other or puts a
request between them where there was none. -/
def AddsContact (s : System) (ev : Event) (A B : UserID) : Prop :=
  ∃ i w, ev = .land i ∧ s.outbox[i]? = some w ∧ w.write.value.present = true ∧
    w.write.field.IsContact ∧
    ((w.write.document = A ∧ w.write.value.element = B) ∨
      (w.write.document = B ∧ w.write.value.element = A)) ∧
    ¬ s.users.has w.write.entry

/-- No write brings a blocked pair into contact. -/
def KeepsApart (s : System) (ev : Event) : Prop :=
  ∀ A B, s.BlockStands A B → ¬ s.AddsContact ev A B

/-- No blocked pair are friends, on either side. -/
def Apart (s : System) : Prop :=
  ∀ A B, s.BlockStands A B →
    ¬ s.users.has ⟨A, .friends, B⟩ ∧ ¬ s.users.has ⟨B, .friends, A⟩

/-- What a call must respect. A request that passes its guard, or an acceptance, is not
called against a block that is in force, and a block is not called while a write of a
request or an acceptance between the two users is in flight. -/
def RespectsBlocks (s : System) : Event → Prop
  | .call c op user =>
    ∀ me ∈ (s.clients c).currentUser, (op.call (some me) user).writes ≠ [] →
      (op.MakesContact → ∀ b ∈ s.log, s.InForce b → ¬ b.Between me.uuid user) ∧
      (op = .blockUser → ∀ w ∈ s.outbox, w.call.op.MakesContact →
        ¬ w.call.Between me.uuid user)
  | _ => True

instance (s : System) : ∀ ev, Decidable (s.RespectsBlocks ev)
  | .call _ _ _ => by unfold RespectsBlocks; infer_instance
  | .read _ | .land _ | .fail _ => .isTrue True.intro

/-- What holds along a run: calls are numbered, every write belongs to a recorded call, no
request or acceptance is in flight against a block in force, and once a block has removed a
friend the friend stays removed. -/
structure BlockInv (s : System) : Prop where
  serial : ∀ x ∈ s.log, x.serial < s.log.length
  inFlight : ∀ w ∈ s.outbox, w.call ∈ s.log ∧ w.write ∈ w.call.op.writes w.call.me w.call.user
  landed : ∀ w ∈ s.landed, w.call ∈ s.log ∧ w.write ∈ w.call.op.writes w.call.me w.call.user
  apart : ∀ b ∈ s.log, s.InForce b → ∀ w ∈ s.outbox, w.call.op.MakesContact →
    ¬ w.call.Between b.me b.user
  removed : ∀ b ∈ s.log, s.InForce b → ∀ x ∈ s.landed, x.call = b → x.write.field = .friends →
    ¬ s.users.has x.write.entry

/-- The invariant holds before anything happened. -/
theorem Initial.blockInv {s : System} (h : s.Initial) : s.BlockInv := by
  constructor <;> simp [h.log, h.outbox, h.landed]

private theorem InForce.of_append {s : System} {b x : Call} {t : System} (ht : t.log = s.log ++ [x])
    (h : t.InForce b) : s.InForce b :=
  ⟨h.1, fun u hu => h.2 u (by rw [ht]; exact List.mem_append_left _ hu)⟩

private theorem blockInv_issue {s : System} (hs : s.BlockInv) {c : ClientID} {op : RelationOp}
    {me : User} {user : UserID}
    (hcontact : op.MakesContact → ∀ b ∈ s.log, s.InForce b → ¬ b.Between me.uuid user)
    (hblock : op = .blockUser → ∀ w ∈ s.outbox, w.call.op.MakesContact →
      ¬ w.call.Between me.uuid user) :
    (s.issue c op me.uuid user (op.writes me.uuid user)).BlockInv := by
  have hlog : (s.issue c op me.uuid user (op.writes me.uuid user)).log =
      s.log ++ [⟨s.log.length, op, me.uuid, user⟩] := rfl
  have hnew : ∀ w ∈ (s.issue c op me.uuid user (op.writes me.uuid user)).outbox, w ∈ s.outbox ∨
      w.call = ⟨s.log.length, op, me.uuid, user⟩ ∧ w.write ∈ op.writes me.uuid user := by
    intro w hw
    rcases List.mem_append.mp hw with hw | hw
    · exact .inl hw
    · obtain ⟨x, hx, rfl⟩ := List.mem_map.mp hw
      exact .inr ⟨rfl, hx⟩
  constructor
  case serial =>
    intro x hx
    rw [hlog, List.length_append, List.length_singleton]
    rcases List.mem_append.mp (hlog ▸ hx) with hx | hx
    · exact Nat.lt_succ_of_lt (hs.serial x hx)
    · rw [List.mem_singleton.mp hx]
      exact Nat.lt_succ_self _
  case inFlight =>
    intro w hw
    rcases hnew w hw with hw | ⟨hcall, hwrite⟩
    · exact ⟨List.mem_append_left _ (hs.inFlight w hw).1, (hs.inFlight w hw).2⟩
    · rw [hcall]
      exact ⟨List.mem_append_right _ (List.mem_singleton.mpr rfl), hwrite⟩
  case landed =>
    intro w hw
    exact ⟨List.mem_append_left _ (hs.landed w hw).1, (hs.landed w hw).2⟩
  case apart =>
    intro b hb hforce w hw hop
    rcases List.mem_append.mp (hlog ▸ hb) with hb | hb
    · rcases hnew w hw with hw | ⟨hcall, -⟩
      · exact hs.apart b hb (hforce.of_append hlog) w hw hop
      · rw [hcall] at hop ⊢
        intro hbetween
        refine hcontact hop b hb (hforce.of_append hlog) ?_
        rcases hbetween with ⟨hm, hu⟩ | ⟨hm, hu⟩
        · exact .inl ⟨hm.symm, hu.symm⟩
        · exact .inr ⟨hu.symm, hm.symm⟩
    · rw [List.mem_singleton] at hb
      subst hb
      rcases hnew w hw with hw | ⟨hcall, -⟩
      · exact hblock hforce.1 w hw hop
      · have hb := hforce.1
        rw [hcall] at hop
        simp only at hb hop
        rw [hb] at hop
        exact hop.elim
  case removed =>
    intro b hb hforce x hx hxb hk
    rcases List.mem_append.mp (hlog ▸ hb) with hb | hb
    · exact hs.removed b hb (hforce.of_append hlog) x hx hxb hk
    · rw [List.mem_singleton] at hb
      -- a call made just now has landed nothing yet
      have hlt := hs.serial x.call (hs.landed x hx).1
      rw [hxb, hb] at hlt
      exact absurd hlt (Nat.lt_irrefl _)

private theorem blockInv_land {s : System} (hs : s.BlockInv) {i : Nat} {w : InFlight}
    {rest : List InFlight} {users : Users}
    (hw : takeOut InFlight.client s.outbox i = some (w, rest))
    (husers : w.write.land s.users = some users) :
    BlockInv { s with users, outbox := rest, landed := s.landed ++ [w] } := by
  have hmem : w ∈ s.outbox := takeOut_mem hw
  constructor
  case serial =>
    exact hs.serial
  case inFlight =>
    exact fun x hx => hs.inFlight x (takeOut_subset hw hx)
  case landed =>
    intro x hx
    rcases List.mem_append.mp hx with hx | hx
    · exact hs.landed x hx
    · exact List.mem_singleton.mp hx ▸ hs.inFlight w hmem
  case apart =>
    exact fun b hb hforce x hx => hs.apart b hb hforce x (takeOut_subset hw hx)
  case removed =>
    intro b hb hforce x hx hxb hk
    rw [RelationWrite.has_land husers]
    rcases List.mem_append.mp hx with hx | hx
    · split
      · next hentry =>
        -- adding the friend again takes an acceptance, and none is in flight
        intro hpresent
        have hfield : w.write.field = .friends := by
          rw [← hk]
          exact (congrArg Entry.field hentry).symm
        obtain ⟨hop, hpair⟩ := RelationOp.adds_contact (hs.inFlight w hmem).2 hpresent
          (by rw [hfield]; exact True.intro)
        refine hs.apart b hb hforce w hmem hop ?_
        have hblock := (hs.landed x hx).2
        rw [hxb, hforce.1] at hblock
        have hd : x.write.document = w.write.document := congrArg Entry.document hentry
        have he : x.write.value.element = w.write.value.element := congrArg Entry.element hentry
        simp only [RelationOp.writes, List.mem_cons, List.not_mem_nil, or_false] at hblock
        unfold Call.Between
        rcases hblock with h | h | h | h | h <;> rw [h] at hd he hk <;>
          simp_all [FieldValue.element] <;> grind
      · exact hs.removed b hb hforce x hx hxb hk
    · rw [List.mem_singleton] at hx
      subst hx
      have hblock := (hs.inFlight x hmem).2
      rw [hxb, hforce.1] at hblock
      rw [if_pos rfl, RelationOp.block_removes hblock hk]
      exact Bool.false_ne_true

/-- Every step of a respectful run keeps the invariant. -/
theorem blockInv_step {s t : System} {ev : Event} (hs : s.BlockInv) (hev : s.RespectsBlocks ev)
    (h : step s ev = some t) : t.BlockInv := by
  cases ev with
  | read r =>
    obtain ⟨x, -, hx, rfl⟩ := step_read h
    exact ⟨hs.serial, hs.inFlight, hs.landed, hs.apart, fun b hb hforce y hy hyb hk =>
      hx.symm ▸ hs.removed b hb hforce y hy hyb hk⟩
  | call c op user =>
    obtain ⟨-, rfl | ⟨me, hme, hguard, rfl⟩⟩ := step_call h
    · exact hs
    · have hwrites : (op.call (some me) user).writes ≠ [] := by
        rw [RelationOp.writes_call hguard]
        exact op.writes_ne_nil me.uuid user
      obtain ⟨hcontact, hblock⟩ := hev me hme hwrites
      exact blockInv_issue hs hcontact hblock
  | land i =>
    obtain ⟨w, rest, users, hw, husers, rfl⟩ := step_land h
    exact blockInv_land hs hw husers
  | fail i =>
    obtain ⟨w, rest, hw, rfl⟩ := step_fail h
    exact ⟨hs.serial, fun x hx => hs.inFlight x (takeOut_subset hw hx), hs.landed,
      fun b hb hforce x hx => hs.apart b hb hforce x (takeOut_subset hw hx), hs.removed⟩

private theorem BlockInv.keepsApart {s : System} (hs : s.BlockInv) (ev : Event) :
    s.KeepsApart ev := by
  rintro A B ⟨b, hb, hforce, rfl, rfl, -⟩ ⟨i, w, rfl, hw, hpresent, hk, hpair, -⟩
  have hmem : w ∈ s.outbox := List.mem_of_getElem? hw
  obtain ⟨hop, hcall⟩ := RelationOp.adds_contact (hs.inFlight w hmem).2 hpresent hk
  refine hs.apart b hb hforce w hmem hop ?_
  unfold Call.Between
  grind

private theorem BlockInv.isApart {s : System} (hs : s.BlockInv) : s.Apart := by
  rintro A B ⟨b, hb, hforce, rfl, rfl, hlanded⟩
  have hremoved : ∀ w ∈ RelationOp.blockUser.writes b.me b.user, w.field = .friends →
      ¬ s.users.has w.entry := by
    intro w hw hk
    obtain ⟨x, hx, hxb, rfl⟩ := hlanded w hw
    exact hs.removed b hb hforce x hx hxb hk
  exact ⟨hremoved ⟨b.me, .friends, .arrayRemove b.user⟩ (by simp [RelationOp.writes]) rfl,
    hremoved ⟨b.user, .friends, .arrayRemove b.me⟩ (by simp [RelationOp.writes]) rfl⟩

/-- A block holds from the moment its writes have landed until it is called off, in every
run whose calls respect the blocks in force. -/
theorem block_safety {s₀ : System} {es : List Event} (h₀ : s₀.Initial)
    (hev : AllSteps step RespectsBlocks s₀ es) :
    AllSteps step KeepsApart s₀ es ∧ AllStates step Apart s₀ es :=
  ⟨allSteps_of_invariant (fun _ _ _ hs hc ht => blockInv_step hs hc ht)
      (fun _ ev _ hs _ _ => hs.keepsApart ev) h₀.blockInv hev,
    allStates_of_invariant (fun _ _ _ hs hc ht => blockInv_step hs hc ht)
      (fun _ hs => hs.isApart) h₀.blockInv hev⟩

/-- `a` blocks the friend `b` while its own request to `b` is still pending. -/
def blockedWithRequest : List Event :=
  becomeFriends ++ [.read (.fetchList 0 .friends), .call 0 .blockUser "b",
    .land 0, .land 0, .land 0, .land 0, .land 0]

/-- A run with a block that respects it. -/
theorem block_safety_blockedWithRequest :
    AllSteps step KeepsApart (signedUp ["a", "b"]) blockedWithRequest ∧
      AllStates step Apart (signedUp ["a", "b"]) blockedWithRequest :=
  block_safety (signedUp_initial _) (by decide)

/-- Afterwards `b` accepts the pending request, and the two are friends again. -/
theorem not_block_safety :
    ¬ ∀ (s₀ : System) (es : List Event), s₀.Initial →
      AllSteps step KeepsApart s₀ es ∧ AllStates step Apart s₀ es := by
  intro hsafe
  obtain ⟨s, hrun, hs⟩ := exists_run_of_any step (signedUp ["a", "b"])
    (blockedWithRequest ++ [.read (.fetchList 1 .friendsRequestReceived),
      .call 1 .acceptFriendRequest "a", .land 0, .land 0, .land 0, .land 0])
    (fun s => decide (s.BlockStands "a" "b") && decide (s.users.has ⟨"a", .friends, "b"⟩))
    (by decide)
  simp only [Bool.and_eq_true, decide_eq_true_eq] at hs
  have hapart := allStates_last (hsafe _ _ (signedUp_initial _)).2 hrun
  exact (hapart "a" "b" hs.1).1 hs.2

end System

end DriveTribe
