import Mathlib.Data.List.Perm.Basic
import DriveTribe.Relations.Complete

/-!
# What an operation reports

Each write of an operation is acknowledged on its own, in any order, and each
acknowledgement calls `completion` on its own. A failed write is reported and nothing more:
no write is made in reply, so the writes that landed stay.
-/

namespace DriveTribe

open Base

/-- What `completion` is called with. -/
inductive Completion where
  | success (user : UserID)
  | failure (error : NetworkError)
  deriving DecidableEq, Repr

/-- The error a call of `completion` reports. -/
def Completion.error? : Completion → Option NetworkError
  | .success _ => none
  | .failure error => some error

/-- What a call reports before anything is written. -/
def Outcome.refusals : Outcome → List NetworkError
  | .refused error => [error]
  | _ => []

/-- An operation on `user` between its call and its last acknowledgement. `landed` and
`failed` are history: no step reads them. -/
structure Operation where
  users : Users
  user : UserID
  outbox : List IssuedWrite
  completions : List Completion := []
  landed : List RelationWrite := []
  failed : List (RelationWrite × String) := []

/-- The acknowledgement of the write at a position of the outbox. -/
inductive Acknowledgement where
  | landed (i : Nat)
  | failed (i : Nat) (error : String)
  deriving DecidableEq, Repr

namespace Operation

/-- The operation when the call has returned. -/
def start (users : Users) (user : UserID) : Outcome → Operation
  | .ignored => { users, user, outbox := [] }
  | .refused error => { users, user, outbox := [], completions := [.failure error] }
  | .issued ws completes =>
    { users, user, outbox := ws, completions := if completes then [.success user] else [] }

/-- One acknowledgement. A write of a missing document can only fail. -/
def step (x : Operation) : Acknowledgement → Option Operation
  | .landed i =>
    match x.outbox[i]? with
    | none => none
    | some w =>
      (w.write.land x.users).map fun users =>
        { x with
          users
          outbox := x.outbox.eraseIdx i
          completions := x.completions ++ if w.reportsSuccess then [.success x.user] else []
          landed := x.landed ++ [w.write] }
  | .failed i error =>
    (x.outbox[i]?).map fun w =>
      { x with
        outbox := x.outbox.eraseIdx i
        completions := x.completions ++ [.failure (.thrownError error)]
        failed := x.failed ++ [(w.write, error)] }

/-- The errors reported so far, oldest first. -/
def errors (x : Operation) : List NetworkError := x.completions.filterMap Completion.error?

/-- All or nothing: `completion` is called once, with success exactly if every write landed,
and where it reports a failure no entry has changed. -/
def AllOrNothing (users : Users) (x : Operation) : Prop :=
  x.completions.length = 1 ∧ (.success x.user ∈ x.completions ↔ x.failed = []) ∧
    (x.errors ≠ [] → ∀ e, x.users.has e ↔ users.has e)

/-! ### What an acknowledgement does -/

section Step
variable {x y : Operation} {i : Nat}

/-- A write that lands changes the store, and reports success where it reports at all. -/
theorem step_landed (h : x.step (.landed i) = some y) :
    ∃ w users, x.outbox[i]? = some w ∧ w.write.land x.users = some users ∧
      y = { x with
        users
        outbox := x.outbox.eraseIdx i
        completions := x.completions ++ if w.reportsSuccess then [.success x.user] else []
        landed := x.landed ++ [w.write] } := by
  simp only [step] at h
  split at h
  · cases h
  · next w hw =>
    obtain ⟨users, husers, rfl⟩ := Option.map_eq_some_iff.mp h
    exact ⟨w, users, hw, husers, rfl⟩

/-- A write that fails leaves the store alone and reports its error. -/
theorem step_failed {error : String} (h : x.step (.failed i error) = some y) :
    ∃ w, x.outbox[i]? = some w ∧
      y = { x with
        outbox := x.outbox.eraseIdx i
        completions := x.completions ++ [.failure (.thrownError error)]
        failed := x.failed ++ [(w.write, error)] } := by
  obtain ⟨w, hw, rfl⟩ := Option.map_eq_some_iff.mp h
  exact ⟨w, hw, rfl⟩

end Step

/-! ### Accounting for every write -/

/-- The acknowledged writes, those that landed first. -/
def acknowledged (x : Operation) : List RelationWrite := x.landed ++ x.failed.map Prod.fst

/-- What holds between the call and the last acknowledgement. -/
structure Accounted (users : Users) (o : Outcome) (x : Operation) : Prop where
  writes : (x.acknowledged ++ x.outbox.map IssuedWrite.write).Perm o.writes
  store : landAll x.landed users = some x.users
  errors : x.errors = o.refusals ++ x.failed.map fun p => .thrownError p.2
  success : o.writes ≠ [] →
    .success x.user ∈ x.completions ∨ x.landed = [] ∧ ∀ w ∈ x.outbox, w.reportsSuccess = true

private theorem landAll_concat {ws : List RelationWrite} {w : RelationWrite}
    {users users' users'' : Users} (h : landAll ws users = some users')
    (hw : w.land users' = some users'') :
    landAll (ws ++ [w]) users = some users'' := by
  induction ws generalizing users with
  | nil =>
    cases h
    simp only [List.nil_append, landAll, hw, Option.bind_some]
  | cons v ws ih =>
    obtain ⟨users₁, hv, hws⟩ := Option.bind_eq_some_iff.mp h
    simp only [List.cons_append, landAll, hv, Option.bind_some]
    exact ih hws

private theorem reports_of_call {op : RelationOp} {currentUser : Option User} {user : UserID}
    {ws : List IssuedWrite} {completes : Bool}
    (h : op.call currentUser user = .issued ws completes) :
    completes = true ∨ ∀ w ∈ ws, w.reportsSuccess = true := by
  cases currentUser with
  | none => cases op <;> cases h
  | some me =>
    cases op with
    | sendFriendRequest =>
      simp only [RelationOp.call, UserController.sendFriendRequest] at h
      split at h
      · cases h
        right
        simp
      · cases h
    | cancelFriendRequest =>
      cases h
      right
      simp
    | acceptFriendRequest | blockUser | unfriendUser | unblockedUser =>
      cases h
      left
      rfl

private theorem accounted_start (users : Users) (op : RelationOp) (currentUser : Option User)
    (user : UserID) :
    Accounted users (op.call currentUser user)
      (start users user (op.call currentUser user)) := by
  cases h : op.call currentUser user with
  | ignored => exact ⟨.refl _, rfl, rfl, fun hne => absurd rfl hne⟩
  | refused error => exact ⟨.refl _, rfl, rfl, fun hne => absurd rfl hne⟩
  | issued ws completes =>
    refine ⟨.refl _, rfl, ?_, fun _ => ?_⟩
    · cases completes <;> rfl
    · have hreports := reports_of_call h
      cases hreports with
      | inl hc =>
        left
        simp only [start, hc, ↓reduceIte, List.mem_singleton]
      | inr hws => exact .inr ⟨rfl, hws⟩

/-- The write at a position and the writes at the other positions are all the writes. -/
private theorem perm_eraseIdx {box : List IssuedWrite} {i : Nat} {w : IssuedWrite}
    (hw : box[i]? = some w) :
    (w.write :: (box.eraseIdx i).map IssuedWrite.write).Perm (box.map IssuedWrite.write) := by
  obtain ⟨hi, hget⟩ := List.getElem?_eq_some_iff.mp hw
  have hperm := List.getElem_cons_eraseIdx_perm hi
  rw [hget] at hperm
  exact hperm.map IssuedWrite.write

/-- Every acknowledgement keeps everything accounted for. -/
theorem accounted_step {users : Users} {o : Outcome} {x y : Operation} {a : Acknowledgement}
    (h : Accounted users o x) (hstep : x.step a = some y) : Accounted users o y := by
  cases a with
  | landed i =>
    obtain ⟨w, users', hw, hland, rfl⟩ := step_landed hstep
    constructor
    case writes =>
      apply List.Perm.trans _ h.writes
      have hbox := (perm_eraseIdx hw).append_left x.acknowledged
      apply List.Perm.trans _ hbox
      simp only [acknowledged, List.append_assoc, List.singleton_append]
      apply List.Perm.append_left
      exact List.perm_middle.symm
    case store => exact landAll_concat h.store hland
    case errors =>
      have herrors := h.errors
      simp only [errors, List.filterMap_append] at herrors ⊢
      rw [herrors]
      cases w.reportsSuccess <;> simp [Completion.error?]
    case success =>
      intro hne
      left
      have hbefore := h.success hne
      cases hbefore with
      | inl hmem => exact List.mem_append_left _ hmem
      | inr hall =>
        have hreports := hall.2 w (List.mem_of_getElem? hw)
        simp [hreports]
  | failed i error =>
    obtain ⟨w, hw, rfl⟩ := step_failed hstep
    constructor
    case writes =>
      apply List.Perm.trans _ h.writes
      have hbox := (perm_eraseIdx hw).append_left x.acknowledged
      apply List.Perm.trans _ hbox
      simp [acknowledged]
    case store => exact h.store
    case errors =>
      have herrors := h.errors
      simp only [errors, List.filterMap_append] at herrors ⊢
      simp [herrors, Completion.error?]
    case success =>
      intro hne
      have hbefore := h.success hne
      cases hbefore with
      | inl hmem => exact .inl (List.mem_append_left _ hmem)
      | inr hall =>
        right
        exact ⟨hall.1, fun v hv => hall.2 v (List.mem_of_mem_eraseIdx hv)⟩

/-- Everything is accounted for after any acknowledgements. -/
theorem accounted_run {users : Users} {op : RelationOp} {currentUser : Option User}
    {user : UserID} {acks : List Acknowledgement} {x : Operation}
    (hrun : run step (start users user (op.call currentUser user)) acks = some x) :
    Accounted users (op.call currentUser user) x := by
  have hstart := accounted_start users op currentUser user
  exact run_invariant (fun _ _ _ h hstep => accounted_step h hstep) hstart hrun

/-! ### The outcome -/

private theorem present_eq_of_entry {op : RelationOp} {me user : UserID} {v w : RelationWrite}
    (hv : v ∈ op.writes me user) (hw : w ∈ op.writes me user) (he : v.entry = w.entry) :
    v.value.present = w.value.present := by
  cases op <;> simp only [RelationOp.writes, List.mem_cons, List.not_mem_nil, or_false] at hv hw <;>
    grind [RelationWrite.entry, FieldValue.present]

private theorem present_eq_of_call (op : RelationOp) (currentUser : Option User) (user : UserID)
    {v w : RelationWrite} (hv : v ∈ (op.call currentUser user).writes)
    (hw : w ∈ (op.call currentUser user).writes) (he : v.entry = w.entry) :
    v.value.present = w.value.present := by
  cases h : op.call currentUser user with
  | ignored | refused error =>
    rw [h] at hv
    cases hv
  | issued ws completes =>
    obtain ⟨me, -, hws, -⟩ := RelationOp.call_issued h
    rw [h, Outcome.writes, hws] at hv hw
    exact present_eq_of_entry hv hw he

private theorem has_landAll_of_agree {ws : List RelationWrite} {users users' : Users}
    (h : landAll ws users = some users')
    (hagree : ∀ v ∈ ws, ∀ w ∈ ws, v.entry = w.entry → v.value.present = w.value.present)
    (e : Entry) :
    users'.has e ↔ (∃ w ∈ ws, w.entry = e ∧ w.value.present = true) ∨
      (∀ w ∈ ws, w.entry ≠ e) ∧ users.has e := by
  rw [has_landAll h]
  by_cases hex : ∃ w ∈ ws, w.entry = e
  · obtain ⟨w, hw, rfl⟩ := hex
    have heffect : w.effect w.entry = some w.value.present := if_pos rfl
    have hothers : ∀ v ∈ ws, ∀ b, v.effect w.entry = some b → b = w.value.present := by
      intro v hv b hb
      simp only [RelationWrite.effect, Option.ite_none_right_eq_some, Option.some.injEq] at hb
      rw [← hb.2]
      exact hagree v hv w hw hb.1.symm
    rw [settle_of_mem hw heffect hothers]
    constructor
    · intro hp
      exact .inl ⟨w, hw, rfl, hp⟩
    · rintro (⟨v, hv, he, hp⟩ | ⟨hnone, -⟩)
      · rw [← hagree v hv w hw he]
        exact hp
      · exact absurd rfl (hnone w hw)
  · have hnone : ∀ w ∈ ws, w.effect e = none := by
      intro w hw
      apply if_neg
      intro he
      exact hex ⟨w, hw, he.symm⟩
    rw [settle_of_none hnone, decide_eq_true_eq]
    constructor
    · intro hhas
      exact .inr ⟨fun w hw he => hex ⟨w, hw, he⟩, hhas⟩
    · rintro (⟨w, hw, he, -⟩ | ⟨-, hhas⟩)
      · exact absurd ⟨w, hw, he⟩ hex
      · exact hhas

/-- Once every write is acknowledged: each failed write was reported once, with its error, and
so was a refusal by the guard, and nothing else was reported as a failure; if all writes
landed, success was reported; the writes that landed stay and nothing else has changed, so if
none landed the store is as it was. -/
theorem acknowledged_all {users : Users} {op : RelationOp} {currentUser : Option User}
    {user : UserID} {acks : List Acknowledgement} {x : Operation}
    (hrun : run step (start users user (op.call currentUser user)) acks = some x)
    (hdone : x.outbox = []) :
    (x.landed ++ x.failed.map Prod.fst).Perm (op.call currentUser user).writes ∧
    x.errors = (op.call currentUser user).refusals ++ x.failed.map (fun p => .thrownError p.2) ∧
    ((op.call currentUser user).writes ≠ [] → x.failed = [] → .success user ∈ x.completions) ∧
    (∀ e, x.users.has e ↔ (∃ w ∈ x.landed, w.entry = e ∧ w.value.present = true) ∨
      (∀ w ∈ x.landed, w.entry ≠ e) ∧ users.has e) ∧
    (x.landed = [] → x.users = users) := by
  have h := accounted_run hrun
  have huser : x.user = user := by
    refine run_invariant (I := fun y => y.user = user) ?_ ?_ hrun
    · intro y a z hy hstep
      cases a with
      | landed i =>
        obtain ⟨_, _, -, -, rfl⟩ := step_landed hstep
        exact hy
      | failed i error =>
        obtain ⟨_, -, rfl⟩ := step_failed hstep
        exact hy
    · cases op.call currentUser user <;> rfl
  have hwrites : (x.landed ++ x.failed.map Prod.fst).Perm (op.call currentUser user).writes := by
    have hall := h.writes
    rw [hdone, List.map_nil, List.append_nil] at hall
    exact hall
  refine ⟨hwrites, h.errors, fun hne hfailed => ?_, ?_, fun hlanded => ?_⟩
  · have hsuccess := h.success hne
    rw [huser] at hsuccess
    apply hsuccess.resolve_right
    rintro ⟨hlanded, -⟩
    rw [hlanded, hfailed] at hwrites
    exact hne hwrites.symm.eq_nil
  · -- No two writes of one call are opposite, so their order does not matter.
    apply has_landAll_of_agree h.store
    intro v hv w hw he
    have hv' := hwrites.subset (List.mem_append_left _ hv)
    have hw' := hwrites.subset (List.mem_append_left _ hw)
    exact present_eq_of_call op currentUser user hv' hw' he
  · have hstore := h.store
    rw [hlanded, landAll, Option.some.injEq] at hstore
    exact hstore.symm

/-- Both own writes of an acceptance land, and both writes of the other user's document, which
is missing, fail. -/
def acceptMissing : List Acknowledgement :=
  [.landed 0, .landed 0, .failed 0 "NOT_FOUND", .failed 0 "NOT_FOUND"]

/-- `a` accepts a request of a user without a document. -/
def startMissing : Operation :=
  start (Users.signedUp ["a"]) "b"
    (RelationOp.acceptFriendRequest.call (some (User.signedUp "a")) "b")

/-- Both failures are reported. -/
theorem acknowledged_all_acceptMissing :
    ∃ x, run step startMissing acceptMissing = some x ∧
      x.errors = [.thrownError "NOT_FOUND", .thrownError "NOT_FOUND"] := by
  obtain ⟨x, hrun, hx⟩ := exists_run_of_any step startMissing acceptMissing
    (fun x => x.outbox.isEmpty && (x.failed.map Prod.snd == ["NOT_FOUND", "NOT_FOUND"]))
    (by decide)
  simp only [Bool.and_eq_true, List.isEmpty_iff, beq_iff_eq] at hx
  obtain ⟨-, herrors, -⟩ := acknowledged_all hrun hx.1
  have hmap : x.failed.map (fun p => NetworkError.thrownError p.2) =
      (x.failed.map Prod.snd).map .thrownError := by
    rw [List.map_map]
    rfl
  rw [hmap, hx.2] at herrors
  exact ⟨x, hrun, herrors⟩

/-- The acceptance reports a success and two failures, and `b` stays a friend of `a`. -/
theorem not_allOrNothing :
    ¬ ∀ (users : Users) (op : RelationOp) (me : User) (user : UserID)
      (acks : List Acknowledgement) (x : Operation),
      run step (start users user (op.call (some me) user)) acks = some x → x.outbox = [] →
        AllOrNothing users x := by
  intro hall
  obtain ⟨x, hrun, hx⟩ := exists_run_of_any step startMissing acceptMissing
    (fun x => x.outbox.isEmpty && !x.errors.isEmpty && decide (x.users.has ⟨"a", .friends, "b"⟩))
    (by decide)
  simp only [Bool.and_eq_true, List.isEmpty_iff, Bool.not_eq_true', List.isEmpty_eq_false_iff,
    decide_eq_true_eq] at hx
  obtain ⟨⟨hdone, herrors⟩, hhas⟩ := hx
  obtain ⟨-, -, hunchanged⟩ := hall _ _ _ _ _ x hrun hdone
  have hbefore := (hunchanged herrors ⟨"a", .friends, "b"⟩).mp hhas
  exact absurd hbefore (by decide)

end Operation

end DriveTribe
