import DriveTribe.Base.Requests
import DriveTribe.Carpools.Leftovers

/-!
# What is left of a creation whose writes fail

`CarpoolController.swift:35–139`. The carpool and its first message are written side by side;
the acknowledgement of the carpool writes the group entries. An error is printed, and nothing
is undone or written again. So an entry is never without its carpool, but all is there or
nothing is only where the writes succeed together or fail together.
-/

namespace DriveTribe

open Base

/-- The state an acknowledgement of a creation is handled in. -/
structure CreateState where
  controller : CarpoolController
  currentUser : Option User
  store : CarpoolStore

/-- A document that a creation writes. -/
inductive CreatedPart where
  | carpool
  | message
  | group (user : UserID)
  deriving DecidableEq, Repr

namespace CreatedPart

/-- The write of the document. -/
def write (c : Carpool) (entry : MessageEntry) : CreatedPart → CarpoolWrite
  | carpool => .setCarpool c
  | message => .addMessage c.uuid entry
  | group user => .setGroup user c.uuid

/-- The document exists. -/
def Stored (id : CarpoolID) (x : CarpoolStore) : CreatedPart → Prop
  | carpool => x.carpools id ≠ none
  | message => x.messages id ≠ []
  | group user => id ∈ x.groups user

/-- The document belongs to the carpool: its own, its first message, the entry of a member. -/
def Of (c : Carpool) : CreatedPart → Prop
  | group user => c.IsMember user
  | _ => True

end CreatedPart

namespace CarpoolController

/-- The writes of a creation are those of the carpool and of its first message. -/
theorem creationWrites_eq (carpool : Carpool) (message : MessageEntry) :
    creationWrites carpool message =
      [CreatedPart.carpool, .message].map (CreatedPart.write carpool message) := rfl

/-- The writes of its acknowledgement are those of the group entries. -/
theorem carpoolCreated_eq_map (self : CarpoolController) (currentUser : Option User)
    (carpool : Carpool) (message : MessageEntry) :
    self.carpoolCreated currentUser carpool =
      ((self.recipients currentUser).map CreatedPart.group).map
        (CreatedPart.write carpool message) := by
  rw [carpoolCreated_eq, List.map_map]
  rfl

/-- Handle the acknowledgement of a write of a creation; an error is printed.
`CarpoolController.swift:60–68`, `:112–116`, `:122–126`, `:132–136`. -/
def acknowledged (carpool : Carpool) (message : MessageEntry) (s : CreateState) (p : CreatedPart)
    (error : Option String) : Reply CreateState CreatedPart Empty :=
  match error with
  | some _ => { state := s }
  | none =>
    let s := { s with store := ((p.write carpool message).land s.store).getD s.store }
    match p with
    | .carpool => { state := s, requests := (s.controller.recipients s.currentUser).map .group }
    | _ => { state := s }

end CarpoolController

/-- All documents of the carpool exist, or none with its id does. -/
def CarpoolStore.AllOrNone (c : Carpool) (x : CarpoolStore) : Prop :=
  (∀ p : CreatedPart, p.Of c → p.Stored c.uuid x) ∨ ∀ p : CreatedPart, ¬ p.Stored c.uuid x

/-- Nothing of a carpool is stored under the id, which has just been drawn. -/
structure CarpoolStore.Vacant (x : CarpoolStore) (id : CarpoolID) : Prop
    extends x.Unused id where
  document : x.carpools id = none

/-- A creation between its call and its last acknowledgement. -/
abbrev CarpoolCreation := Requests CreateState CreatedPart (Option String) Empty

/-- An acknowledged write of a creation. -/
abbrev CreateAnswer := Answered CreateState CreatedPart (Option String)

namespace CarpoolCreation

/-- An acknowledgement. -/
def step (carpool : Carpool) (message : MessageEntry) :
    CarpoolCreation → RequestEvent (Option String) Empty → Option CarpoolCreation :=
  Requests.step (CarpoolController.acknowledged carpool message) fun s _ => s

/-- The creation when the call has returned. -/
def start (self : CarpoolController) (currentUser : Option User) (store : CarpoolStore) :
    CarpoolCreation where
  state := ⟨self, currentUser, store⟩
  outstanding := [.carpool, .message]

/-- Each document has been written at least once. -/
def EachSucceeds (as : List CreateAnswer) : Prop :=
  ∀ a ∈ as, ∃ b ∈ as, b.request = a.request ∧ b.answer = none

/-- No write has succeeded. -/
def AllFail (as : List CreateAnswer) : Prop := ∀ a ∈ as, a.answer ≠ none

instance (as : List CreateAnswer) : Decidable (EachSucceeds as) := by
  unfold EachSucceeds
  infer_instance

instance (as : List CreateAnswer) : Decidable (AllFail as) := by
  unfold AllFail
  infer_instance

end CarpoolCreation

/-! ### What a write stores -/

namespace CreatedPart

section Land
variable {carpool : Carpool} {message : MessageEntry} {p : CreatedPart} {x y : CarpoolStore}

/-- The write of a document stores it and leaves the others. -/
theorem stored_land (hland : (p.write carpool message).land x = some y) (q : CreatedPart) :
    q.Stored carpool.uuid y ↔ q = p ∨ q.Stored carpool.uuid x := by
  cases p with
  | carpool =>
    cases hland
    cases q with
    | carpool => simp only [Stored, setData_self, ne_eq, reduceCtorEq, not_false_eq_true, true_or]
    | message | group _ => simp only [Stored, reduceCtorEq, false_or]
  | message =>
    cases hland
    cases q with
    | message =>
      simp only [Stored, Function.update_self, ne_eq, List.append_eq_nil_iff, List.cons_ne_self,
        and_false, not_false_eq_true, true_or]
    | carpool | group _ => simp only [Stored, reduceCtorEq, false_or]
  | group user =>
    cases hland
    cases q with
    | group other =>
      by_cases hu : other = user
      · subst hu
        simp only [Stored, CarpoolStore.changeGroups, Function.update_self, FieldValue.mem_apply,
          FieldValue.element, FieldValue.present, if_pos, true_or]
      · simp only [Stored, CarpoolStore.changeGroups, Function.update_of_ne hu,
          CreatedPart.group.injEq, hu, false_or]
    | carpool | message => simp only [Stored, CarpoolStore.changeGroups, reduceCtorEq, false_or]

/-- A write of a creation always lands. -/
theorem exists_land (p : CreatedPart) (carpool : Carpool) (message : MessageEntry)
    (x : CarpoolStore) : ∃ y, (p.write carpool message).land x = some y := by
  cases p <;> exact ⟨_, rfl⟩

private theorem stored_landAll {ps : List CreatedPart}
    (hland : x.landAll (ps.map (write carpool message)) = some y) (q : CreatedPart) :
    q.Stored carpool.uuid y ↔ q ∈ ps ∨ q.Stored carpool.uuid x := by
  induction ps generalizing x with
  | nil =>
    obtain rfl := Option.some.inj hland
    simp only [List.not_mem_nil, false_or]
  | cons p ps ih =>
    obtain ⟨z, hz, hy⟩ := run_cons_eq_some hland
    rw [ih hy, stored_land hz, List.mem_cons, or_left_comm, or_assoc]

end Land

end CreatedPart

namespace CarpoolCreation

section Run
variable {self : CarpoolController} {store : CarpoolStore} {currentUser : Option User}
  {carpool : Carpool} {message : MessageEntry} {x : CarpoolCreation}
  {es : List (RequestEvent (Option String) Empty)}

/-- A document exists once its write has succeeded. -/
theorem stored_iff (hvacant : store.Vacant carpool.uuid)
    (h : run (step carpool message) (start self currentUser store) es = some x) (p : CreatedPart) :
    p.Stored carpool.uuid x.state.store ↔ ∃ a ∈ x.answers, a.request = p ∧ a.answer = none := by
  have hland : store.landAll (Requests.landed (CreatedPart.write carpool message) (· = none)
      x.answers) = some x.state.store := by
    refine Requests.landed_run CreateState.store (CreatedPart.write carpool message)
      (fun y w => CarpoolWrite.land w y) (· = none) ?_ ?_ ?_ h
    · intro t request answer hanswer
      subst hanswer
      obtain ⟨y, hy⟩ := request.exists_land carpool message t.store
      rw [hy, Option.some.injEq]
      cases request <;> simp only [CarpoolController.acknowledged, hy, Option.getD_some]
    · intro t request answer hanswer
      cases answer with
      | none => exact absurd rfl hanswer
      | some error => rfl
    · intro t change
      rfl
  have hlanded : Requests.landed (CreatedPart.write carpool message) (· = none) x.answers =
      ((x.answers.filter fun a => a.answer = none).map Answered.request).map
        (CreatedPart.write carpool message) := by
    rw [Requests.landed, List.map_map]
    rfl
  have hnone : ¬ p.Stored carpool.uuid store := by
    cases p with
    | carpool => exact fun hne => hne hvacant.document
    | message => exact fun hne => hne hvacant.messages
    | group user => exact hvacant.groups user
  rw [hlanded] at hland
  rw [CreatedPart.stored_landAll hland, or_iff_left hnone]
  simp only [List.mem_map, List.mem_filter, decide_eq_true_eq]
  constructor
  · rintro ⟨a, ⟨ha, hanswer⟩, hrequest⟩
    exact ⟨a, ha, hrequest, hanswer⟩
  · rintro ⟨a, ha, hrequest, hanswer⟩
    exact ⟨a, ⟨ha, hanswer⟩, hrequest⟩

private theorem state_eq (h : run (step carpool message) (start self currentUser store) es = some x)
    {a : CreateAnswer} (ha : a ∈ x.answers) :
    a.state.controller = self ∧ a.state.currentUser = currentUser := by
  have hall : (x.state.controller = self ∧ x.state.currentUser = currentUser) ∧
      ∀ a ∈ x.answers, a.state.controller = self ∧ a.state.currentUser = currentUser := by
    refine Requests.run_cases (motive := fun _ as t =>
      (t.controller = self ∧ t.currentUser = currentUser) ∧
        ∀ a ∈ as, a.state.controller = self ∧ a.state.currentUser = currentUser)
      ⟨⟨rfl, rfl⟩, nofun⟩ ?_ ?_ h
    · rintro es as t i request answer ⟨ht, has⟩
      refine ⟨?_, fun a ha => ?_⟩
      · cases answer with
        | some error => exact ht
        | none => cases request <;> exact ht
      · rcases List.mem_append.mp ha with ha | ha
        · exact has a ha
        · rw [List.mem_singleton.mp ha]
          exact ht
    · intro es as t change ht
      exact ht
  exact hall.2 a ha

/-- The acknowledgement of the carpool asks for the group entries, and no other for anything. -/
theorem requests_reply (h : run (step carpool message) (start self currentUser store) es = some x)
    {a : CreateAnswer} (ha : a ∈ x.answers) :
    (Requests.reply (CarpoolController.acknowledged carpool message) a).requests =
      if a.request = .carpool ∧ a.answer = none then (self.recipients currentUser).map .group
      else [] := by
  obtain ⟨hcontroller, huser⟩ := state_eq h ha
  cases hanswer : a.answer with
  | some error =>
    simp only [Requests.reply, CarpoolController.acknowledged, hanswer, reduceCtorEq, and_false,
      if_false]
  | none =>
    cases hrequest : a.request with
    | carpool =>
      simp only [Requests.reply, CarpoolController.acknowledged, hanswer, hrequest, hcontroller,
        huser, and_self, if_true]
    | message | group _ =>
      simp only [Requests.reply, CarpoolController.acknowledged, hanswer, hrequest, reduceCtorEq,
        false_and, if_false]

/-- Once everything is acknowledged: the carpool and the message have been, and the entries of
the recipients exactly if the carpool has been written. -/
theorem mem_requests_iff (h : run (step carpool message) (start self currentUser store) es = some x)
    (hquiet : x.outstanding = []) (p : CreatedPart) :
    p ∈ x.answers.map Answered.request ↔ p = .carpool ∨ p = .message ∨
      ∃ user, p = .group user ∧ user ∈ self.recipients currentUser ∧
        ∃ a ∈ x.answers, a.request = .carpool ∧ a.answer = none := by
  rw [(Requests.answers_perm h hquiet).mem_iff]
  simp only [List.mem_append, List.mem_cons, List.not_mem_nil, or_false, or_assoc,
    List.mem_flatMap]
  refine or_congr_right (or_congr_right ?_)
  constructor
  · rintro ⟨a, ha, hp⟩
    rw [requests_reply h ha] at hp
    by_cases hcreated : a.request = .carpool ∧ a.answer = none
    · rw [if_pos hcreated] at hp
      obtain ⟨user, huser, rfl⟩ := List.mem_map.mp hp
      exact ⟨user, rfl, huser, a, ha, hcreated⟩
    · rw [if_neg hcreated] at hp
      cases hp
  · rintro ⟨user, rfl, huser, a, ha, hcreated⟩
    refine ⟨a, ha, ?_⟩
    rw [requests_reply h ha, if_pos hcreated]
    exact List.mem_map_of_mem huser

/-- The recipients are the members where nothing was staged since the creation. -/
theorem mem_recipients_iff {self₀ : CarpoolController} {uniquePassengers : List UserID}
    {new : NewIDs}
    (hcreate : self₀.createCarpool currentUser uniquePassengers new = some (carpool, message, self))
    (hunique : uniquePassengers.Perm self₀.passengers.dedup) (user : UserID) :
    user ∈ self.recipients currentUser ↔ carpool.IsMember user := by
  obtain ⟨destination, me, -, rfl, rfl, -, rfl⟩ := CarpoolController.createCarpool_eq_some hcreate
  have hpassengers : user ∈ uniquePassengers ↔ user ∈ self₀.passengers :=
    hunique.mem_iff.trans List.mem_dedup
  rw [Carpool.IsMember, CarpoolController.newCarpool, hpassengers]
  exact List.mem_cons

/-- No document exists exactly if no write succeeded. -/
theorem none_stored_iff (hvacant : store.Vacant carpool.uuid)
    (h : run (step carpool message) (start self currentUser store) es = some x) :
    (∀ p : CreatedPart, ¬ p.Stored carpool.uuid x.state.store) ↔ AllFail x.answers := by
  have hstored := stored_iff hvacant h
  constructor
  · intro hnone a ha hanswer
    exact hnone a.request ((hstored a.request).mpr ⟨a, ha, rfl, hanswer⟩)
  · intro hfail p hp
    obtain ⟨a, ha, -, hanswer⟩ := (hstored p).mp hp
    exact hfail a ha hanswer

private theorem carpool_stored_of_group (hvacant : store.Vacant carpool.uuid)
    (h : run (step carpool message) (start self currentUser store) es = some x)
    (hquiet : x.outstanding = []) {user : UserID}
    (hgroup : (CreatedPart.group user).Stored carpool.uuid x.state.store) :
    CreatedPart.carpool.Stored carpool.uuid x.state.store := by
  obtain ⟨a, ha, hrequest, -⟩ := (stored_iff hvacant h _).mp hgroup
  have hmem := (mem_requests_iff h hquiet (.group user)).mp (List.mem_map.mpr ⟨a, ha, hrequest⟩)
  simp only [reduceCtorEq, false_or, CreatedPart.group.injEq] at hmem
  obtain ⟨-, -, -, hcreated⟩ := hmem
  exact (stored_iff hvacant h _).mpr hcreated

/-- All documents of the carpool exist exactly if each has been written. -/
theorem all_stored_iff {self₀ : CarpoolController} {uniquePassengers : List UserID} {new : NewIDs}
    (hcreate : self₀.createCarpool currentUser uniquePassengers new = some (carpool, message, self))
    (hunique : uniquePassengers.Perm self₀.passengers.dedup) (hvacant : store.Vacant carpool.uuid)
    (h : run (step carpool message) (start self currentUser store) es = some x)
    (hquiet : x.outstanding = []) :
    (∀ p : CreatedPart, p.Of carpool → p.Stored carpool.uuid x.state.store) ↔
      EachSucceeds x.answers := by
  have hstored := stored_iff hvacant h
  have hmem := mem_requests_iff h hquiet
  have hmember := mem_recipients_iff hcreate hunique
  constructor
  · intro hall a ha
    apply (hstored a.request).mp
    apply hall
    rcases (hmem a.request).mp (List.mem_map_of_mem ha) with hr | hr | ⟨user, hr, huser, -⟩
    · rw [hr]
      exact True.intro
    · rw [hr]
      exact True.intro
    · rw [hr]
      exact (hmember user).mp huser
  · intro heach
    have hsucceeds : ∀ p, p ∈ x.answers.map Answered.request → p.Stored carpool.uuid
        x.state.store := by
      intro p hp
      obtain ⟨a, ha, rfl⟩ := List.mem_map.mp hp
      exact (hstored a.request).mpr (heach a ha)
    have hcarpool := hsucceeds .carpool ((hmem .carpool).mpr (.inl rfl))
    intro p hp
    apply hsucceeds
    rw [hmem]
    cases p with
    | carpool => exact .inl rfl
    | message => exact .inr (.inl rfl)
    | group user =>
      exact .inr (.inr ⟨user, rfl, (hmember user).mpr hp, (hstored .carpool).mp hcarpool⟩)

/-- Once every write of a creation is acknowledged, no group entry is without its carpool, and
all documents exist or none does exactly if each was written or no write succeeded. -/
theorem allOrNone_iff {self₀ : CarpoolController} {uniquePassengers : List UserID} {new : NewIDs}
    (hcreate : self₀.createCarpool currentUser uniquePassengers new = some (carpool, message, self))
    (hunique : uniquePassengers.Perm self₀.passengers.dedup) (hvacant : store.Vacant carpool.uuid)
    (h : run (step carpool message) (start self currentUser store) es = some x)
    (hquiet : x.outstanding = []) :
    (∀ user, carpool.uuid ∈ x.state.store.groups user →
      x.state.store.carpools carpool.uuid ≠ none) ∧
      (x.state.store.AllOrNone carpool ↔ EachSucceeds x.answers ∨ AllFail x.answers) := by
  refine ⟨fun user huser => carpool_stored_of_group hvacant h hquiet huser, ?_⟩
  exact or_congr (all_stored_iff hcreate hunique hvacant h hquiet) (none_stored_iff hvacant h)

end Run

/-- What the user `a` has staged: a destination and the passenger `b`. -/
def stagedByA : CarpoolController :=
  { destination := some ⟨some "d", ⟨0⟩, ⟨0⟩⟩, passengers := ["b"] }

/-- The carpool that is created from it. -/
def createdByA : Carpool :=
  stagedByA.newCarpool ⟨some "d", ⟨0⟩, ⟨0⟩⟩ "a" ["b"] "x"

/-- Its first message. -/
def firstOfA : MessageEntry :=
  CarpoolController.firstMessage createdByA (some (User.signedUp "a")) ⟨"x", "m", "t"⟩

/-- Nothing is stored. -/
def emptyStore : CarpoolStore := ⟨fun _ => none, fun _ => [], fun _ => []⟩

private theorem emptyStore_vacant (id : CarpoolID) : emptyStore.Vacant id :=
  ⟨⟨rfl, fun _ => List.not_mem_nil⟩, rfl⟩

/-- Where every write succeeds, everything exists. -/
theorem allOrNone_succeeds :
    ∃ x, run (step createdByA firstOfA)
        (start { stagedByA with destination := none } (some (User.signedUp "a")) emptyStore)
        [.answered 0 none, .answered 0 none, .answered 0 none, .answered 0 none] = some x ∧
      x.state.store.AllOrNone createdByA := by
  obtain ⟨x, hrun, h⟩ := exists_run_of_any (step createdByA firstOfA)
    (start { stagedByA with destination := none } (some (User.signedUp "a")) emptyStore)
    [.answered 0 none, .answered 0 none, .answered 0 none, .answered 0 none]
    (fun x => x.outstanding.isEmpty && decide (EachSucceeds x.answers)) (by decide)
  simp only [Bool.and_eq_true, decide_eq_true_eq, List.isEmpty_iff] at h
  have hcreate : stagedByA.createCarpool (some (User.signedUp "a")) ["b"] ⟨"x", "m", "t"⟩ =
      some (createdByA, firstOfA, { stagedByA with destination := none }) := rfl
  have hiff := (allOrNone_iff hcreate (by decide) (emptyStore_vacant _) hrun h.1).2
  exact ⟨x, hrun, hiff.mpr (.inl h.2)⟩

/-- A first message without its carpool. -/
theorem not_allOrNone :
    ¬ ∀ (self₀ self : CarpoolController) (currentUser : Option User)
      (uniquePassengers : List UserID) (new : NewIDs) (carpool : Carpool) (message : MessageEntry)
      (store : CarpoolStore)
      (es : List (RequestEvent (Option String) Empty)) (x : CarpoolCreation),
      self₀.createCarpool currentUser uniquePassengers new = some (carpool, message, self) →
      uniquePassengers.Perm self₀.passengers.dedup → store.Vacant carpool.uuid →
      run (step carpool message) (start self currentUser store) es = some x →
      x.outstanding = [] → x.state.store.AllOrNone carpool := by
  intro hall
  obtain ⟨x, hrun, h⟩ := exists_run_of_any (step createdByA firstOfA)
    (start { stagedByA with destination := none } (some (User.signedUp "a")) emptyStore)
    [.answered 0 (some "unavailable"), .answered 0 none]
    (fun x => x.outstanding.isEmpty && decide (x.state.store.carpools "x" = none) &&
      decide (x.state.store.messages "x" ≠ [])) (by decide)
  simp only [Bool.and_eq_true, decide_eq_true_eq, List.isEmpty_iff] at h
  obtain ⟨⟨hquiet, hcarpool⟩, hmessage⟩ := h
  rcases hall stagedByA _ _ ["b"] ⟨"x", "m", "t"⟩ _ _ _ _ _ rfl (by decide)
    (emptyStore_vacant _) hrun hquiet with hstored | hnone
  · exact hstored .carpool True.intro hcarpool
  · exact hnone .message hmessage

end CarpoolCreation

end DriveTribe
