import DriveTribe.Accounts.Drawn
import DriveTribe.Helper.RouteCreator

/-!
# A location can be read at any time

Every reader decodes a whole users document and takes the first two coordinates of the
location. Sign-up writes both at once. An update deletes the field first, so between its
writes the document does not decode, and it stays so if a later write fails or the app stops.
-/

namespace DriveTribe

open Base

/-- The document decodes, and its location has two coordinates. -/
def UserDocument.Readable (d : UserDocument) : Prop :=
  ∃ user, User.ofDocument d = some user ∧ user.lastCurrentLocation.length = 2

/-- Every document does. -/
def Users.Readable (users : Users) : Prop := ∀ id d, users id = some d → d.Readable

/-- Both kinds of routes are made for any users that are read, to any destination of two
coordinates. -/
def Users.Routable (users : Users) : Prop :=
  ∀ (string : Double → String) (carpool : Carpool) (driver : User) (passengers : List User),
    carpool.destination.length = 2 →
    (∀ user ∈ driver :: passengers, ∃ id, (users id).bind User.ofDocument = some user) →
    (RouteCreator.createMeetupRoute string carpool driver).isSome = true ∧
      (RouteCreator.createCarpoolRoute string carpool driver passengers).isSome = true

private theorem Users.Readable.routable {users : Users} (h : users.Readable) : users.Routable := by
  intro string carpool driver passengers hdestination hread
  have hpair : ∀ user ∈ driver :: passengers, 2 ≤ user.lastCurrentLocation.length := by
    intro user huser
    obtain ⟨id, hid⟩ := hread user huser
    obtain ⟨d, hd, hdec⟩ := Option.bind_eq_some_iff.mp hid
    obtain ⟨user', hdec', hlength⟩ := h id d hd
    rw [hdec, Option.some.injEq] at hdec'
    subst hdec'
    omega
  rw [List.forall_mem_cons] at hpair
  have hend : 2 ≤ carpool.destination.length := by omega
  constructor
  · rw [RouteCreator.createMeetupRoute_isSome]
    exact ⟨hpair.1, hend⟩
  · rw [RouteCreator.createCarpoolRoute_isSome]
    exact ⟨hpair.1, hend, hpair.2⟩

/-- What a document must have to be readable. -/
theorem UserDocument.readable_iff {d : UserDocument} :
    d.Readable ↔ (User.ofDocument d).isSome = true ∧
      ∃ location, d.lastCurrentLocation = some location ∧ location.length = 2 := by
  constructor
  · rintro ⟨user, hdec, hlength⟩
    have hloc : d.lastCurrentLocation = some user.lastCurrentLocation := by
      rw [← User.toDocument_of_ofDocument hdec]
      rfl
    exact ⟨by rw [hdec]; rfl, _, hloc, hlength⟩
  · rintro ⟨hdec, location, hloc, hlength⟩
    obtain ⟨user, hdec⟩ := Option.isSome_iff_exists.mp hdec
    rw [← User.toDocument_of_ofDocument hdec] at hloc
    refine ⟨user, hdec, ?_⟩
    rw [Option.some.inj hloc]
    exact hlength

/-- A change that keeps the location, and every other field a field, keeps a document readable. -/
theorem UserDocument.Readable.changeRelation {d : UserDocument} (h : d.Readable) (k : RelationKey)
    (f : FieldValue UserID) : (d.changeRelation k f).Readable := by
  obtain ⟨user, hdec, hlength⟩ := h
  rw [← User.toDocument_of_ofDocument hdec]
  cases k <;> exact ⟨_, rfl, hlength⟩

namespace UserWrite

/-- The write is no deletion of a location, and creates only documents with a pair. -/
def KeepsPair : UserWrite → Prop
  | deleteLocation _ => False
  | createUser account => account.lastCurrentLocation.length = 2
  | updateUserProfile _ _ _ _ _ | addLatitude _ _ | addLongitude _ _ => True

instance : ∀ w : UserWrite, Decidable w.KeepsPair
  | deleteLocation _ => .isFalse id
  | createUser account => inferInstanceAs (Decidable (account.lastCurrentLocation.length = 2))
  | updateUserProfile _ _ _ _ _ | addLatitude _ _ | addLongitude _ _ => .isTrue True.intro

/-- The write adds one coordinate to a location. -/
def AddsCoordinate : UserWrite → Prop
  | addLatitude _ _ | addLongitude _ _ => True
  | createUser _ | updateUserProfile _ _ _ _ _ | deleteLocation _ => False

/-- Where all documents are readable they stay so exactly if the write keeps the pair. -/
theorem readable_land_iff {w : UserWrite} {users users' : Users} (h : users.Readable)
    (hcoordinate : ¬ w.AddsCoordinate) (hland : w.land users = some users') :
    users'.Readable ↔ w.KeepsPair := by
  obtain ⟨hdoc, hne⟩ := land_eq_some hland
  have hothers : ∀ id d, id ≠ w.user → users' id = some d → d.Readable := by
    intro id d hid hd
    rw [hne id hid] at hd
    exact h id d hd
  have hone : ∀ {d'}, users' w.user = some d' → (users'.Readable ↔ d'.Readable) := by
    intro d' hd'
    constructor
    · intro hall
      exact hall w.user d' hd'
    · intro hd id d hid
      by_cases he : id = w.user
      · rw [he, hd', Option.some.injEq] at hid
        exact hid ▸ hd
      · exact hothers id d he hid
  rcases hdoc with ⟨account, rfl, hd'⟩ | ⟨hupdate, d, hd, hd'⟩
  · rw [hone hd', UserDocument.readable_iff]
    simp only [NewAccount.document, User.ofDocument_toDocument, Option.isSome_some, true_and,
      KeepsPair]
    constructor
    · rintro ⟨location, hloc, hlength⟩
      cases hloc
      exact hlength
    · intro hlength
      exact ⟨account.lastCurrentLocation, rfl, hlength⟩
  · rw [hone hd']
    obtain ⟨user, hdec, hlength⟩ := h w.user d hd
    cases w with
    | createUser account => exact absurd rfl (hupdate account)
    | addLatitude | addLongitude => exact absurd True.intro hcoordinate
    | deleteLocation user' =>
      refine iff_of_false (fun hread => ?_) id
      obtain ⟨-, location, hloc, -⟩ := UserDocument.readable_iff.mp hread
      cases hloc
    | updateUserProfile user' firstName lastName userName carInfo =>
      refine iff_of_true ?_ True.intro
      rw [← User.toDocument_of_ofDocument hdec]
      exact ⟨_, rfl, hlength⟩

end UserWrite

namespace Accounts

/-- Every document can be read and used for a route. -/
def Good (s : Accounts) : Prop := s.users.Readable ∧ s.users.Routable

/-- The step leaves the location of every document as it is, or makes it an argument that a
call was given. -/
def PairKept (s : Accounts) (ev : AccountEvent) : Prop :=
  ∀ t ∈ s.step ev, ∀ id d d', s.users id = some d → t.users id = some d' →
    d'.lastCurrentLocation = d.lastCurrentLocation ∨
      ∃ location ∈ s.arguments id, d'.lastCurrentLocation = some location

/-- No deletion of a location lands, and no document is created without a pair. -/
def KeepsLocation (s : Accounts) : AccountEvent → Prop
  | .landUpdate i => ∀ u ∈ s.updates[i]?, u.write.KeepsPair
  | _ => True

instance (s : Accounts) : ∀ ev, Decidable (s.KeepsLocation ev)
  | .landUpdate i => inferInstanceAs (Decidable (∀ u ∈ s.updates[i]?, u.write.KeepsPair))
  | .relation _ | .locate _ _ _ | .signUp _ _ _ _ | .accountCreated _ _ _ | .accountRefused _
  | .updateUserProfile _ _ _ _ _ | .updateUserLocation _ _ | .failUpdate _ | .stop _ =>
    .isTrue True.intro

/-- No update of a location has gone beyond its first write. -/
structure Unstarted (s : Accounts) : Prop where
  drawn : s.Drawn
  coordinates : ∀ u ∈ s.updates, ¬ u.write.AddsCoordinate

section Step
variable {s t : Accounts}

private theorem updates_acknowledge {c : ClientID} {w : UserWrite} (hkeeps : w.KeepsPair)
    (hcoordinate : ¬ w.AddsCoordinate) : (s.acknowledge c w).updates = s.updates := by
  cases w with
  | createUser account | updateUserProfile => rfl
  | deleteLocation user => exact absurd hkeeps id
  | addLatitude | addLongitude => exact absurd True.intro hcoordinate

/-- What is in flight after a process has ended was in flight before. -/
theorem mem_updates_stopped {c : ClientID} {u : UserUpdate} (hu : u ∈ (s.stopped c).updates) :
    ∃ v ∈ s.updates, u.write = v.write := by
  obtain ⟨v, hv, rfl⟩ := List.mem_map.mp hu
  refine ⟨v, hv, ?_⟩
  split <;> rfl

/-- A step that keeps the pair starts no second write. -/
theorem Unstarted.step (h : s.Unstarted) {ev : AccountEvent} (hkeeps : s.KeepsLocation ev)
    (hstep : s.step ev = some t) : t.Unstarted := by
  refine ⟨h.drawn.step hstep, fun u hu => ?_⟩
  cases ev with
  | relation ev =>
    obtain ⟨x, -, rfl⟩ := Option.map_eq_some_iff.mp hstep
    exact h.coordinates u hu
  | locate c latitude longitude =>
    cases hstep
    exact h.coordinates u hu
  | signUp c firstName lastName userName | accountRefused i =>
    simp only [Accounts.step, Option.ite_none_right_eq_some, Option.some.injEq] at hstep
    obtain ⟨-, rfl⟩ := hstep
    exact h.coordinates u hu
  | failUpdate i =>
    simp only [Accounts.step, Option.ite_none_right_eq_some, Option.some.injEq] at hstep
    obtain ⟨-, rfl⟩ := hstep
    exact h.coordinates u (List.mem_of_mem_eraseIdx hu)
  | stop c =>
    cases hstep
    obtain ⟨v, hv, he⟩ := mem_updates_stopped hu
    rw [he]
    exact h.coordinates v hv
  | accountCreated i authID uuid =>
    obtain ⟨x, -, -, -, rfl⟩ := step_accountCreated hstep
    rcases List.mem_append.mp hu with hu | hu
    · exact h.coordinates u hu
    · rw [List.mem_singleton.mp hu]
      exact id
  | updateUserProfile c firstName lastName userName carInfo =>
    rcases step_updateUserProfile hstep with rfl | ⟨me, -, rfl⟩
    · exact h.coordinates u hu
    · rcases List.mem_append.mp hu with hu | hu
      · exact h.coordinates u hu
      · rw [List.mem_singleton.mp hu]
        exact id
  | updateUserLocation c location =>
    rcases step_updateUserLocation hstep with rfl | ⟨me, -, rfl⟩
    · exact h.coordinates u hu
    · rcases List.mem_append.mp hu with hu | hu
      · exact h.coordinates u hu
      · rw [List.mem_singleton.mp hu]
        exact id
  | landUpdate i =>
    obtain ⟨v, users, hv, hland, rfl⟩ := step_landUpdate hstep
    have hin := h.coordinates v (List.mem_of_getElem? hv)
    have hupdates : ∀ x : Accounts, x.updates = s.updates.eraseIdx i →
        (if v.awaited then x.acknowledge v.client v.write else x).updates =
          s.updates.eraseIdx i := by
      intro x hx
      split
      · rw [updates_acknowledge (hkeeps v hv) hin, hx]
      · exact hx
    rw [hupdates _ rfl] at hu
    exact h.coordinates u (List.mem_of_mem_eraseIdx hu)

private theorem readable_land {w : RelationWrite} {users users' : Users} (hread : users.Readable)
    (h : w.land users = some users') : users'.Readable := by
  obtain ⟨d₀, hd₀, hd₀', hne⟩ := updateData_eq_some h
  intro id d hd
  by_cases hid : id = w.document
  · rw [hid, hd₀', Option.some.injEq] at hd
    subst hd
    exact (hread _ d₀ hd₀).changeRelation w.field w.value
  · rw [hne id hid] at hd
    exact hread id d hd

/-- From readable documents a step leads to readable ones exactly if it keeps the pair. -/
theorem good_step_iff (h : s.Unstarted) (hgood : s.Good) {ev : AccountEvent}
    (hstep : s.step ev = some t) : t.Good ↔ s.KeepsLocation ev := by
  have hread : ∀ {x : Accounts}, x.Good ↔ x.users.Readable := by
    intro x
    constructor
    · exact fun hx => hx.1
    · exact fun hx => ⟨hx, hx.routable⟩
  rw [hread]
  rcases users_step hstep with
    ⟨hsame, hother⟩ | ⟨i, w, rfl, -, hland⟩ | ⟨i, u, rfl, hu, hland⟩
  · rw [hsame]
    refine iff_of_true hgood.1 ?_
    cases ev with
    | landUpdate i => exact absurd rfl (hother i)
    | _ => exact True.intro
  · exact iff_of_true (readable_land hgood.1 hland) True.intro
  · rw [UserWrite.readable_land_iff hgood.1 (h.coordinates u (List.mem_of_getElem? hu)) hland]
    simp only [KeepsLocation, hu, Option.mem_some_iff, forall_eq']

private theorem pairKept_of_keeps (h : s.Unstarted) {ev : AccountEvent}
    (hkeeps : s.KeepsLocation ev) : s.PairKept ev := by
  intro t hstep id d d' hd hd'
  left
  rw [Option.mem_def] at hstep
  rcases users_step hstep with ⟨hsame, -⟩ | ⟨i, w, rfl, -, hland⟩ | ⟨i, u, rfl, hu, hland⟩
  · rw [hsame, hd, Option.some.injEq] at hd'
    rw [hd']
  · obtain ⟨d₁, hd₁, hlocation⟩ := RelationWrite.location_land hland hd
    rw [hd₁, Option.some.injEq] at hd'
    rw [← hd', hlocation]
  · have hpair := hkeeps u hu
    have hcoordinate := h.coordinates u (List.mem_of_getElem? hu)
    obtain ⟨hdoc, hne⟩ := UserWrite.land_eq_some hland
    by_cases hid : id = u.write.user
    · subst hid
      rcases hdoc with ⟨account, hw, -⟩ | ⟨hupdate, d₀, hd₀, hd₀'⟩
      · obtain ⟨hnone, -⟩ := h.drawn.users_eq_none hu hw
        rw [hw, UserWrite.user, hnone] at hd
        cases hd
      · rw [hd, Option.some.injEq] at hd₀
        rw [hd₀', Option.some.injEq] at hd'
        subst hd₀
        subst hd'
        cases hw : u.write with
        | createUser account => exact absurd hw (hupdate account)
        | updateUserProfile => rfl
        | deleteLocation => simp [hw, UserWrite.KeepsPair] at hpair
        | addLatitude | addLongitude => simp [hw, UserWrite.AddsCoordinate] at hcoordinate
    · rw [hne id hid, hd, Option.some.injEq] at hd'
      rw [hd']

end Step

private theorem Initial.unstarted {s : Accounts} (h : s.Initial) : s.Unstarted where
  drawn := h.drawn
  coordinates u hu := by
    rw [h.updates] at hu
    cases hu

/-- From readable documents: every document is readable in every state and no location becomes
anything but an argument, exactly if no deletion of a location lands and nobody signs up
without a pair. -/
theorem locations_readable_iff {s₀ : Accounts} (h₀ : s₀.Initial) (hread : s₀.users.Readable)
    (es : List AccountEvent) :
    (AllStates step Good s₀ es ∧ AllSteps step PairKept s₀ es) ↔
      AllSteps step KeepsLocation s₀ es := by
  have hgood : s₀.Good := ⟨hread, hread.routable⟩
  have hiff : AllStates step Good s₀ es ↔ AllSteps step KeepsLocation s₀ es :=
    allStates_iff_allSteps_of_steps (I := Unstarted) (fun s ev t hs hc ht => hs.step hc ht)
      (fun s ev t hs hg ht => good_step_iff hs hg ht) h₀.unstarted hgood es
  rw [hiff]
  constructor
  · exact And.left
  · intro hkeeps
    refine ⟨hkeeps, ?_⟩
    -- A state is both unstarted and good before each step.
    apply allSteps_of_invariant (I := fun s => s.Unstarted ∧ s.Good) ?_ ?_ ⟨h₀.unstarted, hgood⟩
      hkeeps
    · intro s ev t hs hc ht
      exact ⟨hs.1.step hc ht, (good_step_iff hs.1 hs.2 ht).mpr hc⟩
    · intro s ev t hs hc _
      exact pairKept_of_keeps hs.1 hc

/-- Two coordinates of a device. -/
private def here : Double × Double := (⟨52⟩, ⟨13⟩)

/-- Somebody signs up. -/
private def newcomer : List AccountEvent :=
  [.locate 0 here.1 here.2, .signUp 0 "First" "Last" "user", .accountCreated 0 "auth" "a",
    .landUpdate 0]

/-- Somebody signs up, and an update of the location fails at its first write. -/
theorem locations_readable_signUp :
    AllStates step Good (signedUp []) (newcomer ++ [.updateUserLocation 0 [], .failUpdate 0]) ∧
      AllSteps step PairKept (signedUp [])
        (newcomer ++ [.updateUserLocation 0 [], .failUpdate 0]) :=
  (locations_readable_iff (signedUp_initial []) (fun _ _ h => by cases h) _).mpr (by decide)

/-- Between the first and the second write of an update the document has no location. -/
theorem not_locations_readable :
    ¬ ∀ (s₀ s : Accounts) (es : List AccountEvent), s₀.Initial → s₀.users.Readable →
      run step s₀ es = some s → s.Good := by
  intro hall
  have hrun := exists_run_of_any step (signedUp [])
    (newcomer ++ [.updateUserLocation 0 [here.1, here.2], .landUpdate 0])
    (fun s => (s.users "a").any fun d => d.lastCurrentLocation.isNone) (by decide)
  obtain ⟨s, hrun, hs⟩ := hrun
  rw [Option.any_eq_true] at hs
  obtain ⟨d, hd, hnone⟩ := hs
  have hgood := hall _ s _ (signedUp_initial []) (fun _ _ h => by cases h) hrun
  obtain ⟨-, location, hlocation, -⟩ := UserDocument.readable_iff.mp (hgood.1 "a" d hd)
  rw [hlocation] at hnone
  cases hnone

end Accounts

end DriveTribe
