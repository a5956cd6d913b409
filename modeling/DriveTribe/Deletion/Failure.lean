import DriveTribe.Base.Requests
import DriveTribe.Deletion.Departure

/-!
# A deletion of an account whose requests fail

`UserController.swift:514–564`, `:699–732`. What the deletion does to carpools starts before the
archive is written and goes on whatever becomes of it. The archive reports its own result; the
document reports an error once more; the account, and what is done to carpools, report nothing.
-/

namespace DriveTribe

open Base

/-- The store once the write was tried. -/
def CarpoolWrite.attempt (w : CarpoolWrite) (x : CarpoolStore) : CarpoolStore :=
  (w.land x).getD x

/-- What the deletion of an account reads and changes. -/
structure AccountState where
  /-- The accounts of Firebase Auth. -/
  accounts : List String
  users : Users
  deletedUsers : UserID → Option UserDocument
  rides : CarpoolStore
  /-- `Auth.auth().currentUser?.uid`. -/
  auth : Option String

/-- What `completion` is called with. -/
abbrev AccountResult := Except NetworkError User

/-- `deleteUser` between its call and its last answer. -/
abbrev AccountDeletion := Requests AccountState Task (Option String) AccountResult

/-- An answered request of a deletion. -/
abbrev AccountAnswer := Answered AccountState Task (Option String)

namespace AccountDeletion

/-- Handle an answer. `UserController.swift:535–562`, `:702–729`. -/
def handle (s : AccountState) (task : Task) (error : Option String) :
    Reply AccountState Task AccountResult :=
  match task, error with
  | .groups me, none => { state := s, requests := (s.rides.groups me).map (.carpool me) }
  | .carpool me id, none =>
    { state := s
      requests := (s.rides.carpool? id).toList.flatMap fun carpool =>
        (Process.departureWrites me carpool).map .writeCarpool }
  | .writeCarpool w, none => { state := { s with rides := w.attempt s.rides } }
  | .archive user, none =>
    { state := { s with deletedUsers := setData s.deletedUsers user.uuid user.toDocument }
      requests := .deleteDocument user :: s.auth.toList.map .deleteAccount
      calls := [.ok user] }
  | .archive _, some error => { state := s, calls := [.error (.thrownError error)] }
  | .deleteDocument user, none =>
    { state := { s with users := deleteDocument s.users user.uuid, auth := none } }
  | .deleteDocument _, some error => { state := s, calls := [.error (.thrownError error)] }
  | .deleteAccount authID, none =>
    { state := { s with
        accounts := s.accounts.filter (· ≠ authID)
        auth := if s.auth = some authID then none else s.auth } }
  | _, _ => { state := s }

/-- An answer. -/
def step : AccountDeletion → RequestEvent (Option String) Empty → Option AccountDeletion :=
  Requests.step handle fun s _ => s

/-- The deletion when the call has returned. -/
def start (s : AccountState) (me : User) : AccountDeletion where
  state := s
  outstanding := [.groups me.uuid, .archive me]

/-- The archive was written. -/
def Archived (as : List AccountAnswer) (me : User) : Prop :=
  ∃ a ∈ as, a.request = .archive me ∧ a.answer = none

/-- The users document was deleted. -/
def DocumentDeleted (as : List AccountAnswer) (me : User) : Prop :=
  ∃ a ∈ as, a.request = .deleteDocument me ∧ a.answer = none

/-- The account was deleted. -/
def AccountDeleted (as : List AccountAnswer) : Prop :=
  ∃ a ∈ as, ∃ authID, a.request = .deleteAccount authID ∧ a.answer = none

/-- A failed archive changes nothing, and `completion` is called once, with success exactly if
everything was deleted. -/
structure Reported (before : AccountState) (me : User) (x : AccountDeletion) : Prop where
  unchanged : ¬ Archived x.answers me → x.state.rides = before.rides ∧
    x.state.users = before.users ∧ x.state.accounts = before.accounts
  once : x.calls.length = 1
  success : .ok me ∈ x.calls ↔
    Archived x.answers me ∧ DocumentDeleted x.answers me ∧ AccountDeleted x.answers

end AccountDeletion

/-- The write has nothing to do. -/
def CarpoolWrite.Idle (w : CarpoolWrite) (x : CarpoolStore) : Prop := w.attempt x = x

namespace AccountDeletion

/-- Every write to a carpool that succeeded had nothing to do. -/
def Harmless (before : CarpoolStore) (as : List AccountAnswer) : Prop :=
  ∀ a ∈ as, ∀ w, a.request = .writeCarpool w → a.answer = none → w.Idle before

/-- The archive, the document and the account all went through; or the archive failed, and what
was done to carpools meanwhile had nothing to do. -/
def GoesRight (before : CarpoolStore) (as : List AccountAnswer) (me : User) : Prop :=
  (Archived as me ∧ DocumentDeleted as me ∧ AccountDeleted as) ∨
    (¬ Archived as me ∧ Harmless before as)

end AccountDeletion

/-! ### The deletion in the whole system -/

/-- What a deletion of one client reads and changes of both services. -/
def Backend.accountState (s : Backend) (c : ClientID) : AccountState :=
  ⟨s.accounts, s.users, s.deletedUsers, s.rides, (s.devices c).auth⟩

/-- A request of a deletion that succeeds is handled as here. -/
theorem Backend.perform_eq {s t : Backend} {c : ClientID} {task : Task}
    (hdeletion : ∀ account, task ≠ .createUser account) (h : s.perform c task = some t) :
    t.accountState c = (AccountDeletion.handle (s.accountState c) task none).state ∧
      t.pending = s.pending ++
        (AccountDeletion.handle (s.accountState c) task none).requests.map (⟨c, ·⟩) := by
  cases task with
  | createAccount _ _ _ => cases h
  | createUser account => exact absurd rfl (hdeletion account)
  | groups me =>
    cases h
    exact ⟨rfl, rfl⟩
  | carpool me id =>
    cases h
    exact ⟨rfl, rfl⟩
  | archive user =>
    cases h
    exact ⟨rfl, rfl⟩
  | writeCarpool w =>
    obtain ⟨rides, hrides, rfl⟩ := Option.map_eq_some_iff.mp h
    refine ⟨?_, (List.append_nil _).symm⟩
    simp only [accountState, AccountDeletion.handle, CarpoolWrite.attempt, hrides,
      Option.getD_some]
  | deleteDocument user =>
    cases h
    refine ⟨?_, (List.append_nil _).symm⟩
    simp only [accountState, setDevice, AccountDeletion.handle, Function.update_self]
  | deleteAccount authID =>
    simp only [perform, Option.ite_none_right_eq_some, Option.some.injEq] at h
    obtain ⟨-, rfl⟩ := h
    refine ⟨?_, (List.append_nil _).symm⟩
    simp only [accountState, setDevice, AccountDeletion.handle, Function.update_self]
    rfl

/-! ### What the answers call -/

namespace AccountDeletion

/-- The document's deletion failed. -/
def DocumentKept (me : User) (a : AccountAnswer) : Prop :=
  a.request = .deleteDocument me ∧ a.answer ≠ none

instance (me : User) (a : AccountAnswer) : Decidable (DocumentKept me a) := by
  unfold DocumentKept
  infer_instance

/-- A request of the deletion of `me`, or of what it does to carpools. -/
def OfDeletion (me : User) : Task → Prop
  | .createAccount _ _ _ | .createUser _ => False
  | .groups user | .carpool user _ => user = me.uuid
  | .writeCarpool w => ∃ carpool : Carpool, w = carpool.departure me.uuid
  | .archive user | .deleteDocument user => user = me
  | .deleteAccount _ => True

/-- The answer is that the archive was written. -/
def Archives (me : User) (a : AccountAnswer) : Prop := a.request = .archive me ∧ a.answer = none

instance (me : User) (a : AccountAnswer) : Decidable (Archives me a) := by
  unfold Archives
  infer_instance

section Reply
variable {me : User} {a : AccountAnswer}

/-- What a reply asks for: the carpools, what is written to them, and after the archive the
document and the account. -/
theorem mem_requests_reply (hof : OfDeletion me a.request) {task : Task}
    (htask : task ∈ (Requests.reply handle a).requests) :
    (∃ id, task = .carpool me.uuid id) ∨
      (∃ carpool : Carpool, task = .writeCarpool (carpool.departure me.uuid)) ∨
      Archives me a ∧ (task = .deleteDocument me ∨ ∃ authID, task = .deleteAccount authID) := by
  obtain ⟨request, error, state⟩ := a
  cases error with
  | some error =>
    cases request <;> exact absurd htask List.not_mem_nil
  | none =>
    cases request with
    | createAccount _ _ _ | createUser _ => exact hof.elim
    | writeCarpool _ | deleteDocument _ | deleteAccount _ => exact absurd htask List.not_mem_nil
    | groups user =>
      obtain rfl : user = me.uuid := hof
      obtain ⟨id, -, rfl⟩ := List.mem_map.mp htask
      exact .inl ⟨id, rfl⟩
    | carpool user id =>
      obtain rfl : user = me.uuid := hof
      obtain ⟨carpool, -, hmem⟩ := List.mem_flatMap.mp htask
      obtain ⟨w, hw, rfl⟩ := List.mem_map.mp hmem
      exact .inr (.inl ⟨carpool, congrArg _ (mem_departureWrites.mp hw).2⟩)
    | archive user =>
      obtain rfl : user = me := hof
      refine .inr (.inr ⟨⟨rfl, rfl⟩, ?_⟩)
      rcases List.mem_cons.mp htask with rfl | htask
      · exact .inl rfl
      · obtain ⟨authID, -, rfl⟩ := List.mem_map.mp htask
        exact .inr ⟨authID, rfl⟩

private theorem ofDeletion_reply (hof : OfDeletion me a.request) {task : Task}
    (htask : task ∈ (Requests.reply handle a).requests) : OfDeletion me task := by
  rcases mem_requests_reply hof htask with ⟨id, rfl⟩ | ⟨carpool, rfl⟩ | ⟨-, rfl | ⟨authID, rfl⟩⟩
  · exact rfl
  · exact ⟨carpool, rfl⟩
  · exact rfl
  · exact True.intro

private theorem count_deleteDocument_reply (hof : OfDeletion me a.request) :
    (Requests.reply handle a).requests.count (.deleteDocument me) =
      if Archives me a then 1 else 0 := by
  by_cases harchives : Archives me a
  · obtain ⟨hrequest, hanswer⟩ := harchives
    have hnone : Task.deleteDocument me ∉ a.state.auth.toList.map Task.deleteAccount := by
      simp only [List.mem_map, reduceCtorEq, and_false, exists_false, not_false_eq_true]
    simp only [Requests.reply, handle, hrequest, hanswer, List.count_cons_self,
      List.count_eq_zero_of_not_mem hnone, Archives, and_self, if_true]
  · rw [if_neg harchives, List.count_eq_zero]
    intro htask
    rcases mem_requests_reply hof htask with ⟨id, heq⟩ | ⟨carpool, heq⟩ | ⟨h, -⟩
    · cases heq
    · cases heq
    · exact harchives h

private theorem calls_reply (hof : OfDeletion me a.request) :
    (Requests.reply handle a).calls.length =
        (if a.request = .archive me then 1 else 0) + (if DocumentKept me a then 1 else 0) ∧
      (.ok me ∈ (Requests.reply handle a).calls ↔ Archives me a) := by
  obtain ⟨request, error, state⟩ := a
  cases request with
  | createAccount _ _ _ | createUser _ => exact hof.elim
  | archive user =>
    obtain rfl : user = me := hof
    cases error with
    | none => simp [Requests.reply, handle, DocumentKept, Archives]
    | some error => simp [Requests.reply, handle, DocumentKept, Archives]
  | deleteDocument user =>
    obtain rfl : user = me := hof
    cases error with
    | none => simp [Requests.reply, handle, DocumentKept, Archives]
    | some error => simp [Requests.reply, handle, DocumentKept, Archives]
  | groups _ | carpool _ _ | writeCarpool _ | deleteAccount _ =>
    cases error <;> simp [Requests.reply, handle, DocumentKept, Archives]

end Reply

end AccountDeletion

/-! ### What is done to carpools -/

/-- How much of a carpool is left: nothing, or its passengers. -/
def CarpoolDocument.size : Option CarpoolDocument → Nat
  | none => 0
  | some d => match d.passengers with
    | none => 2
    | some passengers => passengers.length + 1

/-- There is less left of one carpool, and no more of any. -/
def CarpoolStore.Less (y x : CarpoolStore) : Prop :=
  (∃ id, CarpoolDocument.size (y.carpools id) < CarpoolDocument.size (x.carpools id)) ∧
    ∀ id, CarpoolDocument.size (y.carpools id) ≤ CarpoolDocument.size (x.carpools id)

private theorem CarpoolStore.Less.ne {x y : CarpoolStore} (h : y.Less x) : y ≠ x := by
  rintro rfl
  obtain ⟨id, hlt⟩ := h.1
  exact Nat.lt_irrefl _ hlt

/-- Less than less is less. -/
theorem CarpoolStore.Less.trans {x y z : CarpoolStore} (hzy : z.Less y) (hyx : y.Less x) :
    z.Less x := by
  obtain ⟨⟨id, hlt⟩, hle⟩ := hyx
  exact ⟨⟨id, Nat.lt_of_le_of_lt (hzy.2 id) hlt⟩, fun id => Nat.le_trans (hzy.2 id) (hle id)⟩

private theorem CarpoolDocument.size_removePassenger (d : CarpoolDocument) (user : UserID) :
    d.removePassenger user = d ∨ size (some (d.removePassenger user)) < size (some d) := by
  cases hp : d.passengers with
  | none =>
    right
    simp only [size, removePassenger, hp, FieldValue.apply, Option.getD_none, List.filter_nil,
      List.length_nil]
    decide
  | some passengers =>
    by_cases hmem : user ∈ passengers
    · right
      have hlt : (passengers.filter (· ≠ user)).length < passengers.length :=
        List.length_filter_lt_length_iff_exists.mpr ⟨user, hmem, by simp⟩
      simp only [size, removePassenger, hp, FieldValue.apply, Option.getD_some]
      exact Nat.succ_lt_succ hlt
    · left
      have hfilter : passengers.filter (· ≠ user) = passengers :=
        List.filter_eq_self.mpr fun p hpm => decide_eq_true fun heq => hmem (heq ▸ hpm)
      simp only [removePassenger, hp, Option.getD_some, FieldValue.apply, hfilter]
      rw [← hp]

private theorem CarpoolStore.less_update {x : CarpoolStore} {id : CarpoolID}
    {v : Option CarpoolDocument}
    (h : CarpoolDocument.size v < CarpoolDocument.size (x.carpools id)) :
    CarpoolStore.Less { x with carpools := Function.update x.carpools id v } x := by
  refine ⟨⟨id, ?_⟩, fun other => ?_⟩
  · simp only [Function.update_self, h]
  · by_cases hid : other = id
    · subst hid
      simp only [Function.update_self, Nat.le_of_lt h]
    · simp only [Function.update_of_ne hid, Nat.le_refl]

private theorem Carpool.attempt_departure (carpool : Carpool) (me : UserID) (x : CarpoolStore) :
    (carpool.departure me).Idle x ∨ ((carpool.departure me).attempt x).Less x := by
  cases hx : x.carpools carpool.uuid with
  | none =>
    left
    unfold Carpool.departure CarpoolWrite.Idle CarpoolWrite.attempt
    split
    · simp only [CarpoolWrite.land, deleteDocument, ← hx, Function.update_eq_self,
        Option.getD_some]
    · simp only [CarpoolWrite.land, updateData, hx, Option.map_none, Option.getD_none]
  | some d =>
    unfold Carpool.departure CarpoolWrite.Idle CarpoolWrite.attempt
    split
    · right
      simp only [CarpoolWrite.land, deleteDocument, Option.getD_some]
      apply CarpoolStore.less_update
      rw [hx]
      cases hd : d.passengers <;> simp only [CarpoolDocument.size, hd] <;> omega
    · simp only [CarpoolWrite.land, updateData, hx, Option.map_some, Option.getD_some]
      rcases d.size_removePassenger me with heq | hlt
      · left
        rw [heq, ← hx, Function.update_eq_self]
      · right
        apply CarpoolStore.less_update
        rw [hx]
        exact hlt

namespace AccountDeletion

section Run
variable {before : AccountState} {me : User} {x : AccountDeletion}
  {es : List (RequestEvent (Option String) Empty)}

private theorem ofDeletion_start (me : User) :
    ∀ task ∈ [.groups me.uuid, .archive me], OfDeletion me task := by
  intro task htask
  rcases List.mem_cons.mp htask with rfl | htask
  · exact rfl
  · rw [List.mem_singleton.mp htask]
    exact rfl

/-- So are all that were answered. -/
theorem forall_ofDeletion (h : run step (start before me) es = some x) :
    ∀ a ∈ x.answers, OfDeletion me a.request := by
  refine (Requests.forall_outstanding (p := OfDeletion me) (ofDeletion_start me) ?_ h).2
  intro t task answer hof task' htask'
  exact ofDeletion_reply (a := ⟨task, answer, t⟩) hof htask'

private theorem rides_handle (t : AccountState) (task : Task) (answer : Option String) :
    (∃ w, task = .writeCarpool w ∧ answer = none ∧
      (handle t task answer).state.rides = w.attempt t.rides) ∨
    ((∀ w, task = .writeCarpool w → answer ≠ none) ∧
      (handle t task answer).state.rides = t.rides) := by
  cases answer with
  | some error =>
    right
    refine ⟨fun _ _ => Option.some_ne_none error, ?_⟩
    cases task <;> rfl
  | none =>
    cases task with
    | writeCarpool w => exact .inl ⟨w, rfl, rfl, rfl⟩
    | createAccount _ _ _ | createUser _ | groups _ | carpool _ _ | archive _ | deleteDocument _
    | deleteAccount _ => exact .inr ⟨fun _ heq => absurd heq nofun, rfl⟩

private theorem harmless_append {rides : CarpoolStore} {as : List AccountAnswer}
    {a : AccountAnswer} :
    Harmless rides (as ++ [a]) ↔ Harmless rides as ∧
      ∀ w, a.request = .writeCarpool w → a.answer = none → w.Idle rides := by
  simp only [Harmless, List.mem_append, List.mem_singleton, or_imp, forall_and, forall_eq]

/-- The carpools are as before exactly if what was written to them had nothing to do. -/
theorem rides_eq_iff (h : run step (start before me) es = some x) :
    x.state.rides = before.rides ↔ Harmless before.rides x.answers := by
  have hcases : (x.state.rides = before.rides ∧ Harmless before.rides x.answers) ∨
      (x.state.rides.Less before.rides ∧ ¬ Harmless before.rides x.answers) := by
    refine Requests.run_cases_of (p := OfDeletion me) (motive := fun _ as t =>
      (t.rides = before.rides ∧ Harmless before.rides as) ∨
        (t.rides.Less before.rides ∧ ¬ Harmless before.rides as))
      (ofDeletion_start me) ?_ (.inl ⟨rfl, nofun⟩) ?_ ?_ h
    · intro t task answer hof task' htask'
      exact ofDeletion_reply (a := ⟨task, answer, t⟩) hof htask'
    · intro es as t i task answer hof ht
      rw [harmless_append]
      rcases rides_handle t task answer with ⟨w, rfl, rfl, hrides⟩ | ⟨hno, hrides⟩
      · obtain ⟨carpool, rfl⟩ := hof
        rw [hrides]
        have hthis : (∀ w, Task.writeCarpool (carpool.departure me.uuid) = .writeCarpool w →
            (none : Option String) = none → w.Idle before.rides) ↔
              (carpool.departure me.uuid).Idle before.rides := by
          simp only [Task.writeCarpool.injEq, forall_const, forall_eq']
        rw [hthis]
        -- A clean-up write only ever removes, so what it has changed stays changed.
        rcases ht with ⟨hsame, hbefore⟩ | ⟨hless, hbefore⟩
        · rw [hsame]
          by_cases hidle : (carpool.departure me.uuid).Idle before.rides
          · exact .inl ⟨hidle, hbefore, hidle⟩
          · have hless := (carpool.attempt_departure me.uuid before.rides).resolve_left hidle
            exact .inr ⟨hless, fun hboth => hidle hboth.2⟩
        · right
          refine ⟨?_, fun hboth => hbefore hboth.1⟩
          rcases carpool.attempt_departure me.uuid t.rides with hidle | hmore
          · rw [show (carpool.departure me.uuid).attempt t.rides = t.rides from hidle]
            exact hless
          · exact hmore.trans hless
      · rw [hrides]
        have hharmless : ∀ w, task = .writeCarpool w → answer = none → w.Idle before.rides :=
          fun w hw hanswer => absurd hanswer (hno w hw)
        rcases ht with ⟨hsame, hbefore⟩ | ⟨hless, hbefore⟩
        · exact .inl ⟨hsame, hbefore, hharmless⟩
        · exact .inr ⟨hless, fun hboth => hbefore hboth.1⟩
    · intro es as t change ht
      exact ht
  rcases hcases with ⟨hrides, hharmless⟩ | ⟨hless, hharmless⟩
  · exact iff_of_true hrides hharmless
  · exact iff_of_false hless.ne hharmless

private theorem archived_of_request (h : run step (start before me) es = some x) {a : AccountAnswer}
    (ha : a ∈ x.answers)
    (hrequest : a.request = .deleteDocument me ∨ ∃ authID, a.request = .deleteAccount authID) :
    Archived x.answers me := by
  rcases Requests.mem_request h ha with hmem | ⟨b, hb, hmem⟩
  · exfalso
    simp only [List.mem_cons, List.not_mem_nil, or_false] at hmem
    rcases hrequest with heq | ⟨authID, heq⟩ <;> rcases hmem with hmem | hmem <;>
      rw [heq] at hmem <;> cases hmem
  · rcases mem_requests_reply (forall_ofDeletion h b hb) hmem with ⟨id, heq⟩ | ⟨carpool, heq⟩ |
      ⟨harchives, -⟩
    · rcases hrequest with hr | ⟨authID, hr⟩ <;> rw [hr] at heq <;> cases heq
    · rcases hrequest with hr | ⟨authID, hr⟩ <;> rw [hr] at heq <;> cases heq
    · exact ⟨b, hb, harchives⟩

private theorem users_eq (h : run step (start before me) es = some x)
    (harchived : ¬ Archived x.answers me) :
    x.state.users = before.users ∧ x.state.accounts = before.accounts := by
  have hnone : ∀ a ∈ x.answers, a.request ≠ .deleteDocument me ∧
      ∀ authID, a.request ≠ .deleteAccount authID := by
    refine fun a ha => ⟨fun heq => ?_, fun authID heq => ?_⟩
    · exact harchived (archived_of_request h ha (.inl heq))
    · exact harchived (archived_of_request h ha (.inr ⟨authID, heq⟩))
  refine Requests.run_cases_of (p := OfDeletion me) (motive := fun _ as t =>
    (∀ a ∈ as, a.request ≠ .deleteDocument me ∧ ∀ authID, a.request ≠ .deleteAccount authID) →
      t.users = before.users ∧ t.accounts = before.accounts)
    (ofDeletion_start me) ?_ (fun _ => ⟨rfl, rfl⟩) ?_ ?_ h hnone
  · intro t task answer hof task' htask'
    exact ofDeletion_reply (a := ⟨task, answer, t⟩) hof htask'
  · intro es as t i task answer hof ht hall
    have hrest := ht fun a ha => hall a (List.mem_append_left _ ha)
    have hthis := hall ⟨task, answer, t⟩ (List.mem_append_right _ (List.mem_singleton_self _))
    cases answer with
    | some error => cases task <;> exact hrest
    | none =>
      cases task with
      | deleteDocument user =>
        obtain rfl : user = me := hof
        exact absurd rfl hthis.1
      | deleteAccount authID => exact absurd rfl (hthis.2 authID)
      | createAccount _ _ _ | createUser _ | groups _ | carpool _ _ | writeCarpool _
      | archive _ => exact hrest
  · intro es as t change ht
    exact ht

private theorem calls_answers {as : List AccountAnswer} (hof : ∀ a ∈ as, OfDeletion me a.request) :
    (as.flatMap fun a => (Requests.reply handle a).calls).length =
        as.countP (fun a => a.request = .archive me) + as.countP (fun a => DocumentKept me a) ∧
      (.ok me ∈ (as.flatMap fun a => (Requests.reply handle a).calls) ↔ Archived as me) := by
  constructor
  · induction as with
    | nil => rfl
    | cons a as ih =>
      rw [List.forall_mem_cons] at hof
      rw [List.flatMap_cons, List.length_append, ih hof.2, List.countP_cons, List.countP_cons,
        (calls_reply hof.1).1]
      simp only [decide_eq_true_eq]
      omega
  · rw [List.mem_flatMap]
    exact exists_congr fun a => and_congr_right fun ha => (calls_reply (hof a ha)).2

private theorem count_deleteDocument {as : List AccountAnswer}
    (hof : ∀ a ∈ as, OfDeletion me a.request) :
    (as.flatMap fun a => (Requests.reply handle a).requests).count (.deleteDocument me) =
      as.countP fun a => Archives me a := by
  induction as with
  | nil => rfl
  | cons a as ih =>
    rw [List.forall_mem_cons] at hof
    rw [List.flatMap_cons, List.count_append, ih hof.2, count_deleteDocument_reply hof.1,
      List.countP_cons]
    simp only [decide_eq_true_eq]
    omega

private theorem countP_archive (h : run step (start before me) es = some x)
    (hquiet : x.outstanding = []) :
    x.answers.countP (fun a => a.request = .archive me) = 1 := by
  have hnone : (.archive me) ∉ x.answers.flatMap fun a => (Requests.reply handle a).requests := by
    intro hmem
    obtain ⟨a, ha, hmem⟩ := List.mem_flatMap.mp hmem
    rcases mem_requests_reply (forall_ofDeletion h a ha) hmem with ⟨id, heq⟩ | ⟨carpool, heq⟩ |
      ⟨-, heq | ⟨authID, heq⟩⟩ <;> cases heq
  have hcount := (Requests.answers_perm h hquiet).count_eq (.archive me)
  rw [List.count_append, List.count_eq_zero_of_not_mem hnone, List.count, List.countP_map] at hcount
  simpa [Function.comp_def, beq_eq_decide] using hcount

private theorem countP_document (h : run step (start before me) es = some x)
    (hquiet : x.outstanding = []) :
    x.answers.countP (fun a => a.request = .deleteDocument me) ≤ 1 := by
  have hcount := (Requests.answers_perm h hquiet).count_eq (.deleteDocument me)
  rw [List.count_append, count_deleteDocument (forall_ofDeletion h), List.count,
    List.countP_map] at hcount
  have hle : x.answers.countP (fun a => Archives me a) ≤ 1 := by
    rw [← countP_archive h hquiet]
    exact List.countP_mono_left fun a _ ha => decide_eq_true (of_decide_eq_true ha).1
  have heq : x.answers.countP (fun a => a.request = .deleteDocument me) =
      x.answers.countP fun a => Archives me a := by
    simpa [Function.comp_def, beq_eq_decide] using hcount
  rw [heq]
  exact hle

/-- A deletion is reported as it went, and a failed archive changes nothing, exactly if
everything went through or the archive failed before anything was done to carpools. -/
theorem reported_of_account_iff (h : run step (start before me) es = some x)
    (hquiet : x.outstanding = []) :
    Reported before me x ↔ GoesRight before.rides x.answers me := by
  obtain ⟨hlength, hsuccess⟩ := calls_answers (forall_ofDeletion h)
  have hcalls : x.calls = x.answers.flatMap fun a => (Requests.reply handle a).calls :=
    Requests.calls_eq h
  rw [← hcalls, countP_archive h hquiet] at hlength
  rw [← hcalls] at hsuccess
  have honce : x.calls.length = 1 ↔ ∀ a ∈ x.answers, ¬ DocumentKept me a := by
    rw [hlength, Nat.add_eq_left, List.countP_eq_zero]
    simp only [decide_eq_true_eq]
  constructor
  · intro hx
    by_cases harchived : Archived x.answers me
    · exact .inl (hx.success.mp (hsuccess.mpr harchived))
    · exact .inr ⟨harchived, (rides_eq_iff h).mp (hx.unchanged harchived).1⟩
  · rintro (⟨harchived, hdocument, haccount⟩ | ⟨harchived, hharmless⟩)
    · refine ⟨fun hnot => absurd harchived hnot, honce.mpr fun a ha hkept => ?_, ?_⟩
      · obtain ⟨b, hb, hrequest, hanswer⟩ := hdocument
        have hab : a = b := eq_of_countP_le_one (countP_document h hquiet) ha hb
          (decide_eq_true hkept.1) (decide_eq_true hrequest)
        exact hkept.2 (hab ▸ hanswer)
      · exact iff_of_true (hsuccess.mpr harchived) ⟨harchived, hdocument, haccount⟩
    · refine ⟨fun _ => ?_, honce.mpr fun a ha hkept => ?_, ?_⟩
      · exact ⟨(rides_eq_iff h).mpr hharmless, users_eq h harchived⟩
      · exact harchived (archived_of_request h ha (.inl hkept.1))
      · exact iff_of_false (fun hmem => harchived (hsuccess.mp hmem)) fun hall => harchived hall.1

end Run

/-- The carpool that `a` drives. -/
def drivenByA : Carpool :=
  { title := "t", mode := "work", type := "carpool", destinationName := "d", driver := "a"
    passengers := ["b"], uuid := "x" }

/-- `a` is signed in and drives it. -/
def signedInAsA : AccountState where
  accounts := ["a", "b"]
  users := Users.signedUp ["a", "b"]
  deletedUsers _ := none
  rides :=
    { carpools := fun id => if id = "x" then some drivenByA.toDocument else none
      groups := fun user => if user = "a" ∨ user = "b" then ["x"] else []
      messages := fun _ => [] }
  auth := some "a"

instance (as : List AccountAnswer) (me : User) : Decidable (Archived as me) := by
  unfold Archived
  infer_instance

instance (as : List AccountAnswer) (me : User) : Decidable (DocumentDeleted as me) := by
  unfold DocumentDeleted
  infer_instance

/-- The condition holds where every request succeeds. -/
theorem reported_succeeds :
    ∃ x, run step (start signedInAsA (User.signedUp "a")) (List.replicate 6 (.answered 0 none)) =
        some x ∧ Reported signedInAsA (User.signedUp "a") x := by
  obtain ⟨x, hrun, h⟩ := exists_run_of_any step (start signedInAsA (User.signedUp "a"))
    (List.replicate 6 (.answered 0 none))
    (fun x => x.outstanding.isEmpty && decide (Archived x.answers (User.signedUp "a")) &&
      decide (DocumentDeleted x.answers (User.signedUp "a")) &&
      decide (∃ a ∈ x.answers, a.request = .deleteAccount "a" ∧ a.answer = none)) (by decide)
  simp only [Bool.and_eq_true, decide_eq_true_eq, List.isEmpty_iff] at h
  obtain ⟨⟨⟨hquiet, harchived⟩, hdocument⟩, a, ha, haccount⟩ := h
  have hright : GoesRight signedInAsA.rides x.answers (User.signedUp "a") :=
    .inl ⟨harchived, hdocument, a, ha, "a", haccount⟩
  exact ⟨x, hrun, (reported_of_account_iff hrun hquiet).mpr hright⟩

/-- The archive fails, and the carpool is deleted all the same. -/
theorem not_reported_account :
    ¬ ∀ (before : AccountState) (me : User) (es : List (RequestEvent (Option String) Empty))
      (x : AccountDeletion), run step (start before me) es = some x → x.outstanding = [] →
      Reported before me x := by
  intro hall
  obtain ⟨x, hrun, h⟩ := exists_run_of_any step (start signedInAsA (User.signedUp "a"))
    [.answered 0 none, .answered 0 (some "unavailable"), .answered 0 none, .answered 0 none]
    (fun x => x.outstanding.isEmpty && decide (¬ Archived x.answers (User.signedUp "a")) &&
      decide (x.state.rides.carpools "x" = none)) (by decide)
  simp only [Bool.and_eq_true, decide_eq_true_eq, List.isEmpty_iff] at h
  obtain ⟨⟨hquiet, harchived⟩, hgone⟩ := h
  have hrides := ((hall _ _ _ x hrun hquiet).unchanged harchived).1
  rw [hrides] at hgone
  exact absurd hgone (by decide)

end AccountDeletion

end DriveTribe
