import DriveTribe.Base.Requests
import DriveTribe.Carpools.Leftovers
import DriveTribe.Relations.Operations

/-!
# What the deletion of a carpool reports

`CarpoolController.swift:323–368`. Each deletion is acknowledged on its own, in any order, while
the listener may refresh the list of carpools. The document's deletion reports its error, or
success if the carpool is still listed; a passenger's group entry and the entry of somebody who
leaves report an error only; the driver's own entry and the new message report nothing.
-/

namespace DriveTribe

open Base

/-- A deletion that `delete(carpool:)` issues. -/
inductive DeleteRequest where
  | carpool
  | newMessage
  /-- The driver's own group entry. -/
  | ownGroup (me : UserID)
  | passengerGroup (passenger : UserID)
  /-- The own group entry of somebody else than the driver. -/
  | leave (me : UserID)
  deriving DecidableEq, Repr

namespace DeleteRequest

/-- What is deleted. -/
def write (id : CarpoolID) : DeleteRequest → CarpoolWrite
  | carpool => .deleteCarpool id
  | newMessage => .deleteNewMessage id
  | ownGroup user | passengerGroup user | leave user => .deleteGroup user id

/-- The deletions whose errors are reported. `CarpoolController.swift:331`, `:351`, `:365`. -/
def reportsError : DeleteRequest → Bool
  | carpool | passengerGroup _ | leave _ => true
  | newMessage | ownGroup _ => false

private theorem write_deletesOf (r : DeleteRequest) (id : CarpoolID) :
    (r.write id).DeletesOf id := by
  cases r <;> exact rfl

end DeleteRequest

/-- The state a deletion is handled in. -/
structure DeleteState where
  controller : CarpoolController
  store : CarpoolStore

/-- What the listener of the groups does meanwhile. `CarpoolController.swift:149`, `:174`. -/
inductive ListenerRefresh where
  | groupsChanged
  | carpoolRead (answer : CarpoolAnswer)
  deriving DecidableEq, Repr

/-- The list is emptied, or a carpool is read into it. -/
def CarpoolController.refresh (self : CarpoolController) : ListenerRefresh → CarpoolController
  | .groupsChanged => self.groupsChanged
  | .carpoolRead answer => self.carpoolRead answer

/-- What `completion` is called with. -/
abbrev DeleteResult := Except NetworkError String

/-- `delete(carpool:)` between its call and its last acknowledgement. -/
abbrev CarpoolDeletion := Requests DeleteState DeleteRequest (Option String) DeleteResult

/-- An acknowledged deletion. -/
abbrev DeleteAnswer := Answered DeleteState DeleteRequest (Option String)

namespace CarpoolController

/-- The deletions of `delete(carpool:)`, with who reports what. -/
def deleteRequests (self : CarpoolController) (currentUser : Option User) (carpool : Carpool) :
    List DeleteRequest :=
  match currentUser with
  | none => []
  | some me =>
    if carpool.driver = me.uuid then
      .carpool :: .newMessage :: .ownGroup me.uuid :: carpool.passengers.map .passengerGroup
    else if (removeFirst self.carpools carpool.uuid).isSome then [.leave me.uuid] else []

/-- They are the writes of `delete(carpool:)`. -/
theorem delete_eq (self : CarpoolController) (currentUser : Option User) (carpool : Carpool) :
    (self.delete currentUser carpool).1 =
      (self.deleteRequests currentUser carpool).map (DeleteRequest.write carpool.uuid) := by
  cases currentUser with
  | none => rfl
  | some me =>
    by_cases hdriver : carpool.driver = me.uuid
    · simp only [delete, deleteRequests, if_pos hdriver, List.map_cons, DeleteRequest.write,
        List.map_map]
      rfl
    · simp only [delete, deleteRequests, if_neg hdriver]
      cases removeFirst self.carpools carpool.uuid <;> rfl

/-- Handle the acknowledgement of a deletion. `CarpoolController.swift:328–340`, `:349–353`,
`:363–367`. -/
def deleted (id : CarpoolID) (s : DeleteState) (r : DeleteRequest) (error : Option String) :
    Reply DeleteState DeleteRequest DeleteResult :=
  match error with
  | some error =>
    { state := s, calls := if r.reportsError then [.error (.thrownError error)] else [] }
  | none =>
    let s := { s with store := ((r.write id).land s.store).getD s.store }
    match r with
    | .carpool =>
      match removeFirst s.controller.carpools id with
      | none => { state := s }
      | some carpools =>
        { state := { s with controller := { s.controller with carpools } }
          calls := [.ok "success"] }
    | _ => { state := s }

end CarpoolController

namespace CarpoolDeletion

/-- An acknowledgement, or a refresh by the listener. -/
def step (id : CarpoolID) :
    CarpoolDeletion → RequestEvent (Option String) ListenerRefresh → Option CarpoolDeletion :=
  Requests.step (CarpoolController.deleted id)
    fun s change => { s with controller := s.controller.refresh change }

/-- The deletion when the call has returned. -/
def start (self : CarpoolController) (store : CarpoolStore) (currentUser : Option User)
    (carpool : Carpool) : CarpoolDeletion where
  state := ⟨(self.delete currentUser carpool).2, store⟩
  outstanding := self.deleteRequests currentUser carpool

/-- The list of carpools as the listener alone makes it. -/
def refreshed (self : CarpoolController)
    (es : List (RequestEvent (Option String) ListenerRefresh)) : CarpoolController :=
  (es.filterMap RequestEvent.change?).foldl CarpoolController.refresh self

/-- An acknowledged deletion of the document that finds the carpool listed. -/
def Confirmed (id : CarpoolID) (a : DeleteAnswer) : Prop :=
  a.request = .carpool ∧ a.answer = none ∧
    (CarpoolController.removeFirst a.state.controller.carpools id).isSome

/-- An error that is reported. -/
def Refused (a : DeleteAnswer) : Prop :=
  a.request.reportsError = true ∧ a.answer ≠ none

instance (id : CarpoolID) (a : DeleteAnswer) : Decidable (Confirmed id a) := by
  unfold Confirmed
  infer_instance

instance (a : DeleteAnswer) : Decidable (Refused a) := by
  unfold Refused
  infer_instance

/-- Reported and atomic: `completion` is called once, with success exactly if every deletion
succeeded; and if the deletion of the document failed, no group entry of the carpool is gone and
nothing but the listener has touched the list of carpools. -/
structure Reported (id : CarpoolID) (before : CarpoolStore) (listed : CarpoolController)
    (x : CarpoolDeletion) : Prop where
  once : x.calls.length = 1
  success : .ok "success" ∈ x.calls ↔ ∀ a ∈ x.answers, a.answer = none
  atomic : (∃ a ∈ x.answers, a.request = .carpool ∧ a.answer ≠ none) →
    (∀ user, id ∈ x.state.store.groups user ↔ id ∈ before.groups user) ∧ x.state.controller = listed

/-- No successful deletion has removed a group entry. -/
def RemovesNobody (id : CarpoolID) (before : CarpoolStore) (as : List DeleteAnswer) : Prop :=
  ∀ a ∈ as, a.answer = none → ∀ user, a.request.write id = .deleteGroup user id →
    id ∉ before.groups user

/-- Either every deletion succeeds and the document's finds the carpool listed; or the
document's does not succeed with the carpool listed, exactly one error is reported, and if it
is the document's, no group entry was removed. -/
def GoesRight (id : CarpoolID) (before : CarpoolStore) (as : List DeleteAnswer) : Prop :=
  ((∃ a ∈ as, Confirmed id a) ∧ ∀ a ∈ as, a.answer = none) ∨
    ((∀ a ∈ as, ¬ Confirmed id a) ∧ as.countP (fun a => Refused a) = 1 ∧
      ((∃ a ∈ as, a.request = .carpool ∧ a.answer ≠ none) → RemovesNobody id before as))

/-! ### What the acknowledgements call -/

section Calls
variable {id : CarpoolID}

private theorem calls_of_refused (id : CarpoolID) {a : DeleteAnswer} (h : Refused a) :
    ∃ error, (Requests.reply (CarpoolController.deleted id) a).calls = [.error error] := by
  obtain ⟨hreports, herror⟩ := h
  cases ha : a.answer with
  | none => exact absurd ha herror
  | some error =>
    refine ⟨.thrownError error, ?_⟩
    simp only [Requests.reply, CarpoolController.deleted, ha, hreports, if_pos]

private theorem calls_of_confirmed {a : DeleteAnswer} (h : Confirmed id a) :
    (Requests.reply (CarpoolController.deleted id) a).calls = [.ok "success"] := by
  obtain ⟨hrequest, hanswer, hlisted⟩ := h
  obtain ⟨carpools, hcarpools⟩ := Option.isSome_iff_exists.mp hlisted
  simp only [Requests.reply, CarpoolController.deleted, hrequest, hanswer, hcarpools]

private theorem calls_of_neither {a : DeleteAnswer} (hrefused : ¬ Refused a)
    (hconfirmed : ¬ Confirmed id a) :
    (Requests.reply (CarpoolController.deleted id) a).calls = [] := by
  cases ha : a.answer with
  | some error =>
    have hreports : a.request.reportsError = false := by
      cases hr : a.request.reportsError with
      | false => rfl
      | true =>
        have herror : a.answer ≠ none := by simp only [ha, ne_eq, reduceCtorEq, not_false_eq_true]
        exact absurd ⟨hr, herror⟩ hrefused
    simp only [Requests.reply, CarpoolController.deleted, ha, hreports, if_neg Bool.false_ne_true]
  | none =>
    cases hr : a.request with
    | carpool =>
      have hnone : CarpoolController.removeFirst a.state.controller.carpools id = none := by
        by_contra hsome
        exact hconfirmed ⟨hr, ha, Option.isSome_iff_ne_none.mpr hsome⟩
      simp only [Requests.reply, CarpoolController.deleted, ha, hr, hnone]
    | newMessage | ownGroup _ | passengerGroup _ | leave _ =>
      simp only [Requests.reply, CarpoolController.deleted, ha, hr]

/-- An acknowledgement sends nothing out. -/
theorem requests_reply (a : DeleteAnswer) :
    (Requests.reply (CarpoolController.deleted id) a).requests = [] := by
  cases ha : a.answer with
  | some error => simp only [Requests.reply, CarpoolController.deleted, ha]
  | none =>
    cases hr : a.request with
    | carpool =>
      cases hlisted : CarpoolController.removeFirst a.state.controller.carpools id <;>
        simp only [Requests.reply, CarpoolController.deleted, ha, hr, hlisted]
    | newMessage | ownGroup _ | passengerGroup _ | leave _ =>
      simp only [Requests.reply, CarpoolController.deleted, ha, hr]

private theorem Confirmed.not_refused {a : DeleteAnswer}
    (h : Confirmed id a) : ¬ Refused a := fun hr => hr.2 h.2.1

private theorem length_calls (id : CarpoolID) (as : List DeleteAnswer) :
    (as.flatMap fun a => (Requests.reply (CarpoolController.deleted id) a).calls).length =
      as.countP (fun a => Confirmed id a) + as.countP fun a => Refused a := by
  induction as with
  | nil => rfl
  | cons a as ih =>
    rw [List.flatMap_cons, List.length_append, ih, List.countP_cons, List.countP_cons]
    by_cases hconfirmed : Confirmed id a
    · simp only [calls_of_confirmed hconfirmed, hconfirmed, hconfirmed.not_refused, decide_true,
        decide_false, List.length_singleton, if_pos, if_neg Bool.false_ne_true]
      omega
    · by_cases hrefused : Refused a
      · obtain ⟨error, hcalls⟩ := calls_of_refused id hrefused
        simp only [hcalls, hconfirmed, hrefused, decide_true, decide_false, List.length_singleton,
          if_pos, if_neg Bool.false_ne_true]
        omega
      · simp only [calls_of_neither hrefused hconfirmed, hconfirmed, hrefused, decide_false,
          List.length_nil, if_neg Bool.false_ne_true]
        omega

/-- It is called with success exactly if there was a confirmation. -/
theorem success_mem_calls_iff (id : CarpoolID) (as : List DeleteAnswer) :
    .ok "success" ∈ (as.flatMap fun a => (Requests.reply (CarpoolController.deleted id) a).calls) ↔
      ∃ a ∈ as, Confirmed id a := by
  rw [List.mem_flatMap]
  refine exists_congr fun a => and_congr_right' ?_
  by_cases hconfirmed : Confirmed id a
  · rw [calls_of_confirmed hconfirmed]
    exact iff_of_true (List.mem_singleton_self _) hconfirmed
  · refine iff_of_false ?_ hconfirmed
    by_cases hrefused : Refused a
    · obtain ⟨error, hcalls⟩ := calls_of_refused id hrefused
      rw [hcalls, List.mem_singleton]
      exact nofun
    · rw [calls_of_neither hrefused hconfirmed]
      exact List.not_mem_nil

end Calls

/-! ### What the acknowledgements leave -/

section Run
variable {id : CarpoolID} {self : CarpoolController} {store : CarpoolStore}
  {currentUser : Option User} {carpool : Carpool} {x : CarpoolDeletion}
  {es : List (RequestEvent (Option String) ListenerRefresh)}

/-- The deletions that succeeded, in the order of their acknowledgements. -/
def succeeded (id : CarpoolID) (as : List DeleteAnswer) : List CarpoolWrite :=
  Requests.landed (DeleteRequest.write id) (· = none) as

/-- A deletion always lands. -/
theorem exists_land (r : DeleteRequest) (id : CarpoolID) (store : CarpoolStore) :
    ∃ store', (r.write id).land store = some store' := by
  cases r <;> exact ⟨_, rfl⟩

private theorem landAll_succeeded
    (h : run (step id) (start self store currentUser carpool) es = some x) :
    store.landAll (succeeded id x.answers) = some x.state.store := by
  refine Requests.landed_run DeleteState.store (DeleteRequest.write id)
    (fun y w => CarpoolWrite.land w y) (· = none) ?_ ?_ ?_ h
  · intro t request answer hanswer
    subst hanswer
    obtain ⟨store', hstore'⟩ := exists_land request id t.store
    rw [hstore', Option.some.injEq]
    cases request with
    | carpool =>
      cases hlisted : CarpoolController.removeFirst t.controller.carpools id <;>
        simp only [CarpoolController.deleted, hlisted, hstore', Option.getD_some]
    | newMessage | ownGroup _ | passengerGroup _ | leave _ =>
      simp only [CarpoolController.deleted, hstore', Option.getD_some]
  · intro t request answer hanswer
    cases answer with
    | none => exact absurd rfl hanswer
    | some error => rfl
  · intro t change
    rfl

private theorem controller_refreshed
    (h : run (step id) (start self store currentUser carpool) es = some x)
    (hconfirmed : ∀ a ∈ x.answers, ¬ Confirmed id a) :
    x.state.controller = refreshed (self.delete currentUser carpool).2 es := by
  refine Requests.run_cases (motive := fun es as t => (∀ a ∈ as, ¬ Confirmed id a) →
    t.controller = refreshed (self.delete currentUser carpool).2 es) ?_ ?_ ?_ h hconfirmed
  · intro _
    rfl
  · intro es as t i request answer ht hnone
    have hrest : t.controller = refreshed (self.delete currentUser carpool).2 es :=
      ht fun a ha => hnone a (List.mem_append_left _ ha)
    have hthis := hnone ⟨request, answer, t⟩ (List.mem_append_right _ (List.mem_singleton_self _))
    have hevents : refreshed (self.delete currentUser carpool).2 (es ++ [.answered i answer]) =
        refreshed (self.delete currentUser carpool).2 es := by
      simp only [refreshed, List.filterMap_append, List.filterMap_cons, RequestEvent.change?,
        List.filterMap_nil, List.append_nil]
    rw [hevents, ← hrest]
    cases answer with
    | some error => rfl
    | none =>
      cases request with
      | carpool =>
        have hlisted : CarpoolController.removeFirst t.controller.carpools id = none := by
          by_contra hsome
          exact hthis ⟨rfl, rfl, Option.isSome_iff_ne_none.mpr hsome⟩
        simp only [CarpoolController.deleted, hlisted]
      | newMessage | ownGroup _ | passengerGroup _ | leave _ => rfl
  · intro es as t change ht hnone
    have hevents : refreshed (self.delete currentUser carpool).2 (es ++ [.background change]) =
        (refreshed (self.delete currentUser carpool).2 es).refresh change := by
      simp only [refreshed, List.filterMap_append, List.filterMap_cons, RequestEvent.change?,
        List.filterMap_nil, List.foldl_append, List.foldl_cons, List.foldl_nil]
    rw [hevents, ← ht hnone]

private theorem count_carpool_le (self : CarpoolController) (currentUser : Option User)
    (carpool : Carpool) : (self.deleteRequests currentUser carpool).count .carpool ≤ 1 := by
  cases currentUser with
  | none => exact Nat.zero_le _
  | some me =>
    simp only [CarpoolController.deleteRequests]
    split
    · have hnone : DeleteRequest.carpool ∉ DeleteRequest.newMessage :: .ownGroup me.uuid ::
          carpool.passengers.map .passengerGroup := by
        simp only [List.mem_cons, reduceCtorEq, List.mem_map, and_false, exists_false, or_self,
          not_false_eq_true]
      rw [List.count_cons_self, List.count_eq_zero_of_not_mem hnone]
    · split <;> exact Nat.zero_le _

private theorem delete_snd_of_mem (h : .carpool ∈ self.deleteRequests currentUser carpool) :
    (self.delete currentUser carpool).2 = self := by
  cases currentUser with
  | none => rfl
  | some me =>
    by_cases hdriver : carpool.driver = me.uuid
    · simp only [CarpoolController.delete, if_pos hdriver]
    · simp only [CarpoolController.deleteRequests, if_neg hdriver] at h
      split at h
      · cases List.mem_singleton.mp h
      · cases h

/-- Once everything is acknowledged, the acknowledgements are of the deletions. -/
theorem answers_perm (h : run (step id) (start self store currentUser carpool) es = some x)
    (hquiet : x.outstanding = []) :
    (x.answers.map Answered.request).Perm (self.deleteRequests currentUser carpool) := by
  have hperm := Requests.answers_perm h hquiet
  have hnone : (x.answers.flatMap fun a =>
      (Requests.reply (CarpoolController.deleted id) a).requests) = [] :=
    List.flatMap_eq_nil_iff.mpr fun a _ => requests_reply a
  rw [hnone, List.append_nil] at hperm
  exact hperm

private theorem countP_carpool_le
    (h : run (step id) (start self store currentUser carpool) es = some x)
    (hquiet : x.outstanding = []) : x.answers.countP (fun a => a.request = .carpool) ≤ 1 := by
  have hcount := count_carpool_le self currentUser carpool
  rw [← (answers_perm h hquiet).count_eq, List.count, List.countP_map] at hcount
  simpa only [Function.comp_def, beq_eq_decide] using hcount

/-- No group entry is gone exactly if no successful deletion has removed one. -/
theorem groups_kept_iff (h : run (step id) (start self store currentUser carpool) es = some x) :
    (∀ user, id ∈ x.state.store.groups user ↔ id ∈ store.groups user) ↔
      RemovesNobody id store x.answers := by
  have hland := landAll_succeeded h
  have hdeletes : ∀ w ∈ succeeded id x.answers, w.DeletesOf id := by
    intro w hw
    obtain ⟨a, -, -, rfl⟩ := Requests.mem_landed_iff.mp hw
    exact a.request.write_deletesOf id
  have hgroup : ∀ user, id ∈ x.state.store.groups user ↔
      id ∈ store.groups user ∧ .deleteGroup user id ∉ succeeded id x.answers := by
    intro user
    have hholds := CarpoolStore.group_deletion hdeletes hland user
    simp only [CarpoolStore.holds, decide_eq_true_eq] at hholds
    exact hholds
  have hmem : ∀ user, .deleteGroup user id ∈ succeeded id x.answers ↔
      ∃ a ∈ x.answers, a.answer = none ∧ a.request.write id = .deleteGroup user id :=
    fun user => Requests.mem_landed_iff
  constructor
  · intro hkept a ha hanswer user hwrite huser
    exact ((hgroup user).mp ((hkept user).mpr huser)).2 ((hmem user).mpr ⟨a, ha, hanswer, hwrite⟩)
  · intro hremoves user
    rw [hgroup, and_iff_left_iff_imp]
    intro huser hdeleted
    obtain ⟨a, ha, hanswer, hwrite⟩ := (hmem user).mp hdeleted
    exact hremoves a ha hanswer user hwrite huser

private theorem length_reported
    (h : run (step id) (start self store currentUser carpool) es = some x) :
    x.calls.length = x.answers.countP (fun a => Confirmed id a) +
      x.answers.countP fun a => Refused a := by
  rw [Requests.calls_eq h]
  exact length_calls id x.answers

/-- It has been called with success exactly if there was a confirmation. -/
theorem success_iff (h : run (step id) (start self store currentUser carpool) es = some x) :
    .ok "success" ∈ x.calls ↔ ∃ a ∈ x.answers, Confirmed id a := by
  rw [Requests.calls_eq h]
  exact success_mem_calls_iff id x.answers

private theorem countP_confirmed_eq_zero {as : List DeleteAnswer}
    (hnone : ∀ a ∈ as, ¬ Confirmed id a) :
    as.countP (fun a => Confirmed id a) = 0 :=
  List.countP_eq_zero.mpr fun a ha => by simpa only [decide_eq_true_eq] using hnone a ha

private theorem countP_confirmed_le
    (h : run (step id) (start self store currentUser carpool) es = some x)
    (hquiet : x.outstanding = []) : x.answers.countP (fun a => Confirmed id a) ≤ 1 := by
  refine (List.countP_mono_left fun a _ hc => ?_).trans (countP_carpool_le h hquiet)
  exact decide_eq_true (of_decide_eq_true hc).1

private theorem reported_of_success
    (h : run (step carpool.uuid) (start self store currentUser carpool) es = some x)
    (hquiet : x.outstanding = []) (hconfirmed : ∃ a ∈ x.answers, Confirmed carpool.uuid a)
    (hall : ∀ a ∈ x.answers, a.answer = none) :
    Reported carpool.uuid store (refreshed self es) x := by
  refine ⟨?_, iff_of_true ((success_iff h).mpr hconfirmed) hall, ?_⟩
  · have hrefused : x.answers.countP (fun a => Refused a) = 0 :=
      List.countP_eq_zero.mpr fun a ha => by
        simpa only [decide_eq_true_eq] using fun hr : Refused a => hr.2 (hall a ha)
    have hpos : 0 < x.answers.countP (fun a => Confirmed carpool.uuid a) := by
      obtain ⟨a, ha, hc⟩ := hconfirmed
      exact List.countP_pos_iff.mpr ⟨a, ha, decide_eq_true hc⟩
    have hle := countP_confirmed_le h hquiet
    rw [length_reported h, hrefused]
    omega
  · rintro ⟨a, ha, -, hfailed⟩
    exact absurd (hall a ha) hfailed

private theorem reported_of_error
    (h : run (step carpool.uuid) (start self store currentUser carpool) es = some x)
    (hquiet : x.outstanding = []) (hnone : ∀ a ∈ x.answers, ¬ Confirmed carpool.uuid a)
    (hone : x.answers.countP (fun a => Refused a) = 1)
    (hatomic : (∃ a ∈ x.answers, a.request = .carpool ∧ a.answer ≠ none) →
      RemovesNobody carpool.uuid store x.answers) :
    Reported carpool.uuid store (refreshed self es) x := by
  refine ⟨?_, iff_of_false (fun hmem => ?_) (fun hall => ?_), fun hfailed => ?_⟩
  · rw [length_reported h, countP_confirmed_eq_zero hnone, hone]
  · obtain ⟨a, ha, hc⟩ := (success_iff h).mp hmem
    exact hnone a ha hc
  · have hpos : 0 < x.answers.countP (fun a => Refused a) := by omega
    obtain ⟨a, ha, hr⟩ := List.countP_pos_iff.mp hpos
    exact (of_decide_eq_true hr).2 (hall a ha)
  · refine ⟨(groups_kept_iff h).mpr (hatomic hfailed), ?_⟩
    obtain ⟨a, ha, har, -⟩ := hfailed
    have hmem : .carpool ∈ self.deleteRequests currentUser carpool :=
      (answers_perm h hquiet).mem_iff.mp (List.mem_map.mpr ⟨a, ha, har⟩)
    rw [controller_refreshed h hnone, delete_snd_of_mem hmem]

/-- A deletion is reported and atomic exactly if it goes right. -/
theorem reported_iff
    (h : run (step carpool.uuid) (start self store currentUser carpool) es = some x)
    (hquiet : x.outstanding = []) :
    Reported carpool.uuid store (refreshed self es) x ↔ GoesRight carpool.uuid store x.answers := by
  constructor
  · intro hx
    by_cases hconfirmed : ∃ a ∈ x.answers, Confirmed carpool.uuid a
    · exact .inl ⟨hconfirmed, hx.success.mp ((success_iff h).mpr hconfirmed)⟩
    · have hnone : ∀ a ∈ x.answers, ¬ Confirmed carpool.uuid a := fun a ha hc =>
        hconfirmed ⟨a, ha, hc⟩
      refine .inr ⟨hnone, ?_, fun hfailed => (groups_kept_iff h).mp (hx.atomic hfailed).1⟩
      have hlength := length_reported h
      rw [hx.once, countP_confirmed_eq_zero hnone] at hlength
      omega
  · rintro (⟨hconfirmed, hall⟩ | ⟨hnone, hone, hatomic⟩)
    · exact reported_of_success h hquiet hconfirmed hall
    · exact reported_of_error h hquiet hnone hone hatomic

end Run

/-- A carpool of `a` with the passenger `b`. -/
def shared : Carpool :=
  { title := "t", mode := "work", type := "carpool", destinationName := "d", driver := "a"
    passengers := ["b"], uuid := "x" }

/-- It is in the groups of both. -/
def sharedStore : CarpoolStore where
  carpools id := if id = "x" then some shared.toDocument else none
  groups user := if user = "a" ∨ user = "b" then ["x"] else []
  messages _ := []

/-- The condition holds where every deletion succeeds and the list is not refreshed. -/
theorem reported_by_driver :
    ∃ x, run (step shared.uuid)
        (start { carpools := [shared] } sharedStore (some (User.signedUp "a")) shared)
        [.answered 0 none, .answered 0 none, .answered 0 none, .answered 0 none] = some x ∧
      Reported shared.uuid sharedStore { carpools := [shared] } x := by
  obtain ⟨x, hrun, h⟩ := exists_run_of_any (step shared.uuid)
    (start { carpools := [shared] } sharedStore (some (User.signedUp "a")) shared)
    [.answered 0 none, .answered 0 none, .answered 0 none, .answered 0 none]
    (fun x => x.outstanding.isEmpty && decide (∃ a ∈ x.answers, Confirmed "x" a) &&
      decide (∀ a ∈ x.answers, a.answer = none)) (by decide)
  simp only [Bool.and_eq_true, decide_eq_true_eq, List.isEmpty_iff] at h
  exact ⟨x, hrun, (reported_iff hrun h.1.1).mpr (.inl ⟨h.1.2, h.2⟩)⟩

/-- A passenger who leaves is told nothing. -/
theorem not_reported :
    ¬ ∀ (self : CarpoolController) (store : CarpoolStore) (me : User) (carpool : Carpool)
      (x : CarpoolDeletion) (es : List (RequestEvent (Option String) ListenerRefresh)),
      carpool.IsMember me.uuid →
      run (step carpool.uuid) (start self store (some me) carpool) es = some x →
      x.outstanding = [] → Reported carpool.uuid store (refreshed self es) x := by
  intro hall
  obtain ⟨x, hrun, h⟩ := exists_run_of_any (step shared.uuid)
    (start { carpools := [shared] } sharedStore (some (User.signedUp "b")) shared)
    [.answered 0 none]
    (fun x => x.outstanding.isEmpty && decide (x.calls.length = 0)) (by decide)
  simp only [Bool.and_eq_true, decide_eq_true_eq, List.isEmpty_iff] at h
  have hreported := hall _ _ _ _ _ _ (by decide) hrun h.1
  have honce := hreported.once
  rw [h.2] at honce
  cases honce

end CarpoolDeletion

end DriveTribe
