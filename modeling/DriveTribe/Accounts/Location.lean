import DriveTribe.Accounts.Drawn

/-!
# The location an update leaves

An update deletes the location, then adds what is staged first, then what is staged second, and
adds nothing that is there already. The calls of one user share the field. So a call leaves
its pair if the pair is staged while its writes are acknowledged, its coordinates differ, and
no second coordinate of another call is in flight when the location is deleted.
-/

namespace DriveTribe

open Base

namespace UserWrite

/-- The write is one of an update of the location of `id`. -/
def locates (id : UserID) : UserWrite → Bool
  | deleteLocation user | addLatitude user _ | addLongitude user _ => user == id
  | createUser _ | updateUserProfile _ _ _ _ _ => false

/-- The second coordinate that is added. -/
def longitude? : UserWrite → Option Double
  | addLongitude _ y => some y
  | createUser _ | updateUserProfile _ _ _ _ _ | deleteLocation _ | addLatitude _ _ => none

private theorem user_of_locates {id : UserID} {w : UserWrite} (h : w.locates id = true) :
    w.user = id := by
  cases w <;> simp_all [locates, user]

private theorem location_change {id : UserID} {w : UserWrite} (hlocates : w.locates id = false)
    (huser : w.user = id) (hupdate : ∀ account, w ≠ .createUser account) (d : UserDocument) :
    (w.change d).lastCurrentLocation = d.lastCurrentLocation := by
  cases w with
  | createUser account => exact absurd rfl (hupdate account)
  | updateUserProfile => rfl
  | deleteLocation | addLatitude | addLongitude =>
    simp only [locates, beq_eq_false_iff_ne] at hlocates
    exact absurd huser hlocates

end UserWrite

private theorem UserDocument.addCoordinate_of_mem {d : UserDocument} {location : List Double}
    {x : Double} (h : d.lastCurrentLocation = some location) (hx : x ∈ location) :
    (d.addCoordinate x).lastCurrentLocation = some location := by
  simp only [addCoordinate, h, Option.getD_some, FieldValue.apply, if_pos hx]

private theorem UserDocument.addCoordinate_of_notMem {d : UserDocument} {x : Double}
    (hx : x ∉ d.lastCurrentLocation.getD []) :
    (d.addCoordinate x).lastCurrentLocation = some (d.lastCurrentLocation.getD [] ++ [x]) := by
  simp only [addCoordinate, FieldValue.apply, if_neg hx]

namespace Accounts

/-- The writes of updates of the location of `id` that are in flight. -/
def locating (id : UserID) (updates : List UserUpdate) : List UserWrite :=
  (updates.map UserUpdate.write).filter (UserWrite.locates id)

/-- A write of an update of the location of `id` lands, and the others in flight, none of them
a deletion, are `rest`. The location begins with nothing but the first coordinate of a pair, and
the second comes next. -/
def LandsInOrder (id : UserID) (s : Accounts) (u : UserUpdate) (rest : List UserWrite) : Prop :=
  match u.write with
  | .deleteLocation _ =>
    u.awaited = true ∧ s.lastCurrentLocation u.client ≠ [] ∧ ∀ w ∈ rest, w.longitude? = none
  | .addLatitude _ x =>
    u.awaited = true ∧ ∃ y ∈ (s.lastCurrentLocation u.client)[1]?,
      s.lastCurrentLocation u.client = [x, y] ∧ x ≠ y ∧ [x, y] ∈ s.arguments id ∧
      (∀ d ∈ s.users id, d.lastCurrentLocation.getD [] <+: [x, y]) ∧
      ∀ w ∈ rest, ∀ z ∈ w.longitude?, z = y
  | .addLongitude _ _ | .createUser _ | .updateUserProfile _ _ _ _ _ => True

instance (id : UserID) (s : Accounts) (u : UserUpdate) (rest : List UserWrite) :
    Decidable (s.LandsInOrder id u rest) := by
  unfold LandsInOrder
  split <;> infer_instance

/-- No write of an update of the location of `id` fails, and once no deletion is in flight they
land in order. -/
def LocatesInOrder (id : UserID) (s : Accounts) : AccountEvent → Prop
  | .landUpdate i => ∀ u ∈ s.updates[i]?, u.write.locates id = true →
      .deleteLocation id ∉ locating id (s.updates.eraseIdx i) →
      s.LandsInOrder id u (locating id (s.updates.eraseIdx i))
  | .failUpdate i => ∀ u ∈ s.updates[i]?, u.write.locates id = false
  | _ => True

instance (id : UserID) (s : Accounts) : ∀ ev, Decidable (s.LocatesInOrder id ev)
  | .landUpdate i => inferInstanceAs (Decidable (∀ u ∈ s.updates[i]?, u.write.locates id = true →
      .deleteLocation id ∉ locating id (s.updates.eraseIdx i) →
      s.LandsInOrder id u (locating id (s.updates.eraseIdx i))))
  | .failUpdate i => inferInstanceAs (Decidable (∀ u ∈ s.updates[i]?, u.write.locates id = false))
  | .relation _ | .locate _ _ _ | .signUp _ _ _ _ | .accountCreated _ _ _ | .accountRefused _
  | .updateUserProfile _ _ _ _ _ | .updateUserLocation _ _ | .stop _ => .isTrue True.intro

/-- Unless an update is on its way, the location is the argument of a call, if there was one. -/
def Located (id : UserID) (s : Accounts) : Prop :=
  locating id s.updates = [] → s.arguments id ≠ [] →
    ∃ d latitude longitude, s.users id = some d ∧
      d.lastCurrentLocation = some [latitude, longitude] ∧ [latitude, longitude] ∈ s.arguments id

/-- How far the updates of the location of `id` have come. -/
inductive Progress (id : UserID) (s : Accounts) : Prop
  | uncalled (h : s.arguments id = [])
  | deleting (h : .deleteLocation id ∈ locating id s.updates)
  | deleted (d : UserDocument) (x : Double) (hd : s.users id = some d)
      (hlocation : d.lastCurrentLocation = none) (hnext : .addLatitude id x ∈ locating id s.updates)
      (hsecond : ∀ w ∈ locating id s.updates, w.longitude? = none)
  | half (d : UserDocument) (x y : Double) (hd : s.users id = some d)
      (hlocation : d.lastCurrentLocation = some [x]) (hne : x ≠ y) (hcall : [x, y] ∈ s.arguments id)
      (hnext : .addLongitude id y ∈ locating id s.updates)
      (hsecond : ∀ w ∈ locating id s.updates, ∀ z ∈ w.longitude?, z = y)
  | full (d : UserDocument) (x y : Double) (hd : s.users id = some d)
      (hlocation : d.lastCurrentLocation = some [x, y]) (hcall : [x, y] ∈ s.arguments id)
      (hsecond : ∀ w ∈ locating id s.updates, ∀ z ∈ w.longitude?, z = y)

/-- What is sent out when a write is acknowledged. -/
def next (s : Accounts) (c : ClientID) : UserWrite → List UserWrite
  | .deleteLocation user => (s.lastCurrentLocation c)[0]?.toList.map (.addLatitude user)
  | .addLatitude user _ => (s.lastCurrentLocation c)[1]?.toList.map (.addLongitude user)
  | .addLongitude _ _ | .createUser _ | .updateUserProfile _ _ _ _ _ => []

section Step
variable {s t : Accounts} {id : UserID}

/-- Once the updates have come to an end the location is an argument. -/
theorem Progress.located (h : s.Progress id) : s.Located id := by
  intro hnone hcalls
  cases h with
  | uncalled h => exact absurd h hcalls
  | deleting h =>
    rw [hnone] at h
    cases h
  | deleted d x hd hlocation hnext hsecond =>
    rw [hnone] at hnext
    cases hnext
  | half d x y hd hlocation hne hcall hnext hsecond =>
    rw [hnone] at hnext
    cases hnext
  | full d x y hd hlocation hcall hsecond => exact ⟨d, x, y, hd, hlocation, hcall⟩

/-- Only the location, the writes in flight and the arguments count. -/
theorem Progress.of_same (h : s.Progress id)
    (hdoc : ∀ d, s.users id = some d → ∃ d', t.users id = some d' ∧
      d'.lastCurrentLocation = d.lastCurrentLocation)
    (hlocating : locating id t.updates = locating id s.updates)
    (hcalls : t.arguments id = s.arguments id) : t.Progress id := by
  cases h with
  | uncalled h => exact .uncalled (hcalls.trans h)
  | deleting h => exact .deleting (hlocating ▸ h)
  | deleted d x hd hlocation hnext hsecond =>
    obtain ⟨d', hd', he⟩ := hdoc d hd
    exact .deleted d' x hd' (he.trans hlocation) (hlocating ▸ hnext) (hlocating ▸ hsecond)
  | half d x y hd hlocation hne hcall hnext hsecond =>
    obtain ⟨d', hd', he⟩ := hdoc d hd
    exact .half d' x y hd' (he.trans hlocation) hne (hcalls ▸ hcall) (hlocating ▸ hnext)
      (hlocating ▸ hsecond)
  | full d x y hd hlocation hcall hsecond =>
    obtain ⟨d', hd', he⟩ := hdoc d hd
    exact .full d' x y hd' (he.trans hlocation) (hcalls ▸ hcall) (hlocating ▸ hsecond)

/-! ### What is in flight -/

/-- A write that is sent out comes last. -/
theorem locating_send (s : Accounts) (c : ClientID) (w : UserWrite) :
    locating id (s.send c w).updates =
      locating id s.updates ++ if w.locates id then [w] else [] := by
  simp only [locating, send, List.map_append, List.map_cons, List.map_nil, List.filter_append,
    List.filter_cons, List.filter_nil]

/-- What is in flight when a process ends stays in flight. -/
theorem locating_stopped (s : Accounts) (c : ClientID) :
    locating id (s.stopped c).updates = locating id s.updates := by
  have hwrite : ∀ u : UserUpdate,
      (if u.client = c then { u with awaited := false } else u).write = u.write := by
    intro u
    split <;> rfl
  simp only [locating, stopped, List.map_map, Function.comp_def, hwrite]

private theorem locating_acknowledge_of_not {c : ClientID} {w : UserWrite}
    (h : w.locates id = false) :
    locating id (s.acknowledge c w).updates = locating id s.updates := by
  cases w with
  | createUser account => rfl
  | updateUserProfile | addLongitude => rfl
  | deleteLocation user | addLatitude user x =>
    rw [acknowledge]
    split
    · exact locating_stopped s c
    · rw [locating_send, if_neg, List.append_nil]
      exact ne_true_of_eq_false h

private theorem locating_acknowledge {c : ClientID} {w : UserWrite} (h : w.locates id = true) :
    locating id (s.acknowledge c w).updates = locating id s.updates ++ s.next c w := by
  cases w with
  | createUser | updateUserProfile => cases h
  | addLongitude => exact (List.append_nil _).symm
  | deleteLocation user =>
    rw [acknowledge, next]
    split
    · next hnone => rw [hnone, locating_stopped, Option.toList_none, List.map_nil, List.append_nil]
    · next latitude hsome =>
      have hsent : UserWrite.locates id (.addLatitude user latitude) = true := h
      rw [hsome, locating_send, if_pos hsent, Option.toList_some, List.map_cons, List.map_nil]
  | addLatitude user x =>
    rw [acknowledge, next]
    split
    · next hnone => rw [hnone, locating_stopped, Option.toList_none, List.map_nil, List.append_nil]
    · next longitude hsome =>
      have hsent : UserWrite.locates id (.addLongitude user longitude) = true := h
      rw [hsome, locating_send, if_pos hsent, Option.toList_some, List.map_cons, List.map_nil]

/-- What is in flight, apart from one write. -/
theorem mem_locating_iff {i : Nat} {u : UserUpdate} (hu : s.updates[i]? = some u)
    (hlocates : u.write.locates id = true) {w : UserWrite} :
    w ∈ locating id s.updates ↔ w = u.write ∨ w ∈ locating id (s.updates.eraseIdx i) := by
  obtain ⟨pre, post, hupdates, herase, -⟩ := exists_of_getElem? hu
  rw [hupdates] at herase ⊢
  rw [herase]
  simp only [locating, List.map_append, List.map_cons, List.filter_append, List.filter_cons,
    hlocates, if_true, List.mem_append, List.mem_cons]
  tauto

private theorem locating_eraseIdx_of_not {i : Nat} {u : UserUpdate} (hu : s.updates[i]? = some u)
    (hlocates : u.write.locates id = false) :
    locating id (s.updates.eraseIdx i) = locating id s.updates := by
  obtain ⟨pre, post, hupdates, herase, -⟩ := exists_of_getElem? hu
  rw [hupdates] at herase ⊢
  rw [herase]
  simp only [locating, List.map_append, List.map_cons, List.filter_append, List.filter_cons,
    hlocates, Bool.false_eq_true, if_false]

/-! ### One step -/

/-- A relation write leaves every location as it is. -/
theorem location_step_relation {x : System} {ev : Event} (h : s.toSystem.step ev = some x)
    {d : UserDocument} (hd : s.users id = some d) :
    ∃ d', x.users id = some d' ∧ d'.lastCurrentLocation = d.lastCurrentLocation := by
  rcases users_step_relation h with hsame | ⟨i, w, -, -, hland⟩
  · exact ⟨d, by rw [hsame, hd], rfl⟩
  · exact RelationWrite.location_land hland hd

private theorem location_land_of_not (h : s.Drawn) {i : Nat} {u : UserUpdate} {users : Users}
    (hu : s.updates[i]? = some u) (hland : u.write.land s.users = some users)
    (hlocates : u.write.locates id = false) {d : UserDocument} (hd : s.users id = some d) :
    ∃ d', users id = some d' ∧ d'.lastCurrentLocation = d.lastCurrentLocation := by
  obtain ⟨hdoc, hne⟩ := UserWrite.land_eq_some hland
  by_cases hid : id = u.write.user
  · rcases hdoc with ⟨account, hw, -⟩ | ⟨hupdate, d₀, hd₀, hd₀'⟩
    · obtain ⟨hnone, -⟩ := h.users_eq_none hu hw
      rw [hw, UserWrite.user] at hid
      rw [hid, hnone] at hd
      cases hd
    · subst hid
      rw [hd, Option.some.injEq] at hd₀
      subst hd₀
      exact ⟨_, hd₀', UserWrite.location_change hlocates rfl hupdate d⟩
  · exact ⟨d, by rw [hne id hid, hd], rfl⟩

/-- What the landing of a write of an update does, the others in flight being `rest`. -/
structure Lands (id : UserID) (s : Accounts) (u : UserUpdate) (rest : List UserWrite)
    (t : Accounts) : Prop where
  before : ∀ w, w ∈ locating id s.updates ↔ w = u.write ∨ w ∈ rest
  after : locating id t.updates = rest ++ if u.awaited then s.next u.client u.write else []
  calls : t.arguments id = s.arguments id
  doc : ∃ d, s.users id = some d ∧ t.users id = some (u.write.change d)

/-- That is what it does. -/
theorem lands_of_step {i : Nat} {u : UserUpdate} (hstep : s.step (.landUpdate i) = some t)
    (hu : s.updates[i]? = some u) (hlocates : u.write.locates id = true) :
    Lands id s u (locating id (s.updates.eraseIdx i)) t := by
  obtain ⟨v, users, hv, hland, rfl⟩ := step_landUpdate hstep
  rw [hu, Option.some.injEq] at hv
  subst hv
  have huser := UserWrite.user_of_locates hlocates
  let landed : Accounts := { s with users, updates := s.updates.eraseIdx i }
  have husers : (landed.acknowledge u.client u.write).users = users :=
    (sameRelations_acknowledge landed u.client u.write).users
  have hcalls : (landed.acknowledge u.client u.write).arguments = s.arguments :=
    (history_acknowledge landed u.client u.write).2.2
  have hsent := locating_acknowledge (s := landed) (c := u.client) hlocates
  constructor
  · intro w
    exact mem_locating_iff hu hlocates
  · split
    · exact hsent
    · rw [List.append_nil]
  · split
    · exact congrFun hcalls id
    · rfl
  · obtain ⟨hdoc, -⟩ := UserWrite.land_eq_some hland
    rcases hdoc with ⟨account, hw, -⟩ | ⟨-, d, hd, hd'⟩
    · rw [hw] at hlocates
      cases hlocates
    · rw [huser] at hd hd'
      refine ⟨d, hd, ?_⟩
      split
      · exact (congrFun husers id).trans hd'
      · exact hd'

/-- The last deletion lands. -/
theorem Lands.deleteLocation {u : UserUpdate} {rest : List UserWrite} (h : Lands id s u rest t)
    (hw : u.write = .deleteLocation id) (horder : s.LandsInOrder id u rest) : t.Progress id := by
  obtain ⟨d, hd, hd'⟩ := h.doc
  have hafter := h.after
  simp only [LandsInOrder, hw] at horder
  obtain ⟨hawaited, hstaged, hsecond⟩ := horder
  rw [hw] at hd' hafter
  obtain ⟨x, location, hlocation⟩ := List.exists_cons_of_ne_nil hstaged
  have hnext : s.next u.client (.deleteLocation id) = [.addLatitude id x] := by
    simp only [next, hlocation, List.getElem?_cons_zero, Option.toList_some, List.map_cons,
      List.map_nil]
  rw [if_pos hawaited, hnext] at hafter
  apply Progress.deleted _ x hd' rfl
  · rw [hafter]
    exact List.mem_append_right _ (List.mem_singleton_self _)
  · intro w hmem
    rw [hafter] at hmem
    rcases List.mem_append.mp hmem with hmem | hmem
    · exact hsecond w hmem
    · rw [List.mem_singleton.mp hmem]
      rfl

/-- A first coordinate lands after the last deletion. -/
theorem Lands.addLatitude {u : UserUpdate} {rest : List UserWrite} {x : Double}
    (h : Lands id s u rest t) (hs : s.Progress id) (hw : u.write = .addLatitude id x)
    (hdeleted : .deleteLocation id ∉ rest) (horder : s.LandsInOrder id u rest) :
    t.Progress id := by
  obtain ⟨d, hd, hd'⟩ := h.doc
  have hafter := h.after
  simp only [LandsInOrder, hw] at horder
  obtain ⟨hawaited, y, -, hstaged, hne, hcall, hbegins, hrest⟩ := horder
  rw [hw] at hd' hafter
  have hnext : s.next u.client (.addLatitude id x) = [.addLongitude id y] := by
    simp only [next, hstaged, List.getElem?_cons_succ, List.getElem?_cons_zero,
      Option.toList_some, List.map_cons, List.map_nil]
  rw [if_pos hawaited, hnext] at hafter
  have hin : .addLongitude id y ∈ locating id t.updates := by
    rw [hafter]
    exact List.mem_append_right _ (List.mem_singleton_self _)
  have hsecond : ∀ w ∈ locating id t.updates, ∀ z ∈ w.longitude?, z = y := by
    intro w hmem z hz
    rw [hafter] at hmem
    rcases List.mem_append.mp hmem with hmem | hmem
    · exact hrest w hmem z hz
    · rw [List.mem_singleton.mp hmem] at hz
      exact (Option.mem_some_iff.mp hz).symm
  have hcall' : [x, y] ∈ t.arguments id := by
    rw [h.calls]
    exact hcall
  have hbegins := hbegins d hd
  cases hs with
  | uncalled hnone =>
    rw [hnone] at hcall
    cases hcall
  | deleting hdeleting =>
    rcases (h.before _).mp hdeleting with he | he
    · rw [hw] at he
      cases he
    · exact absurd he hdeleted
  | deleted d₀ x₀ hd₀ hlocation =>
    rw [hd, Option.some.injEq] at hd₀
    subst hd₀
    have hadd : (d.addCoordinate x).lastCurrentLocation = some [x] := by
      rw [UserDocument.addCoordinate_of_notMem, hlocation] <;> simp [hlocation]
    exact .half _ x y hd' hadd hne hcall' hin hsecond
  | half d₀ x₀ y₀ hd₀ hlocation =>
    rw [hd, Option.some.injEq] at hd₀
    subst hd₀
    rw [hlocation, Option.getD_some, List.cons_prefix_cons] at hbegins
    rw [hbegins.1] at hlocation
    have hadd := UserDocument.addCoordinate_of_mem hlocation (List.mem_singleton_self x)
    exact .half _ x y hd' hadd hne hcall' hin hsecond
  | full d₀ x₀ y₀ hd₀ hlocation =>
    rw [hd, Option.some.injEq] at hd₀
    subst hd₀
    rw [hlocation, Option.getD_some, List.cons_prefix_cons, List.cons_prefix_cons] at hbegins
    rw [hbegins.1, hbegins.2.1] at hlocation
    have hadd := UserDocument.addCoordinate_of_mem hlocation (List.mem_cons_self ..)
    exact .full _ x y hd' hadd hcall' hsecond

/-- A second coordinate lands after the last deletion. -/
theorem Lands.addLongitude {u : UserUpdate} {rest : List UserWrite} {y : Double}
    (h : Lands id s u rest t) (hs : s.Progress id) (hw : u.write = .addLongitude id y)
    (hdeleted : .deleteLocation id ∉ rest) : t.Progress id := by
  obtain ⟨d, hd, hd'⟩ := h.doc
  have hafter := h.after
  have hnext : s.next u.client u.write = [] := by
    rw [hw]
    rfl
  rw [hnext, ite_self, List.append_nil] at hafter
  rw [hw] at hd'
  have hbefore : ∀ w ∈ locating id t.updates, w ∈ locating id s.updates := by
    intro w hmem
    rw [hafter] at hmem
    exact (h.before w).mpr (.inr hmem)
  have hthis : .addLongitude id y ∈ locating id s.updates := (h.before _).mpr (.inl hw.symm)
  cases hs with
  | uncalled hnone => exact .uncalled (h.calls.trans hnone)
  | deleting hdeleting =>
    rcases (h.before _).mp hdeleting with he | he
    · rw [hw] at he
      cases he
    · exact absurd he hdeleted
  | deleted d₀ x₀ hd₀ hlocation hnext hsecond =>
    exact absurd (hsecond _ hthis) (Option.some_ne_none y)
  | half d₀ x₀ y₀ hd₀ hlocation hne hcall hnext hsecond =>
    rw [hd, Option.some.injEq] at hd₀
    subst hd₀
    have hy : y = y₀ := hsecond _ hthis y rfl
    subst hy
    have hadd : (d.addCoordinate y).lastCurrentLocation = some [x₀, y] := by
      rw [UserDocument.addCoordinate_of_notMem, hlocation]
      · rfl
      · rw [hlocation, Option.getD_some, List.mem_singleton]
        exact hne.symm
    exact .full _ x₀ y hd' hadd (h.calls ▸ hcall) fun w hmem => hsecond w (hbefore w hmem)
  | full d₀ x₀ y₀ hd₀ hlocation hcall hsecond =>
    rw [hd, Option.some.injEq] at hd₀
    subst hd₀
    have hy : y = y₀ := hsecond _ hthis y rfl
    subst hy
    have hadd := UserDocument.addCoordinate_of_mem hlocation
      (List.mem_cons_of_mem _ (List.mem_singleton_self y))
    exact .full _ x₀ y hd' hadd (h.calls ▸ hcall) fun w hmem => hsecond w (hbefore w hmem)

/-- A step at which the writes of updates land in order keeps the progress. -/
theorem Progress.step (h : s.Progress id) (hdrawn : s.Drawn) {ev : AccountEvent}
    (horder : s.LocatesInOrder id ev) (hstep : s.step ev = some t) : t.Progress id := by
  have hsent : ∀ (x : Accounts) (c : ClientID) (w : UserWrite), w.locates id = false →
      locating id (x.send c w).updates = locating id x.updates := by
    intro x c w hw
    rw [locating_send, hw, if_neg Bool.false_ne_true, List.append_nil]
  cases ev with
  | relation ev =>
    obtain ⟨x, hx, rfl⟩ := Option.map_eq_some_iff.mp hstep
    exact h.of_same (fun d hd => location_step_relation hx hd) rfl rfl
  | locate c latitude longitude =>
    cases hstep
    exact h.of_same (fun d hd => ⟨d, hd, rfl⟩) rfl rfl
  | signUp c firstName lastName userName | accountRefused i =>
    simp only [Accounts.step, Option.ite_none_right_eq_some, Option.some.injEq] at hstep
    obtain ⟨-, rfl⟩ := hstep
    exact h.of_same (fun d hd => ⟨d, hd, rfl⟩) rfl rfl
  | accountCreated i authID uuid =>
    obtain ⟨x, -, -, -, rfl⟩ := step_accountCreated hstep
    exact h.of_same (fun d hd => ⟨d, hd, rfl⟩) (hsent _ _ _ rfl) rfl
  | updateUserProfile c firstName lastName userName carInfo =>
    rcases step_updateUserProfile hstep with rfl | ⟨me, -, rfl⟩
    · exact h
    · exact h.of_same (fun d hd => ⟨d, hd, rfl⟩) (hsent _ _ _ rfl) rfl
  | updateUserLocation c location =>
    rcases step_updateUserLocation hstep with rfl | ⟨me, -, rfl⟩
    · exact h
    · by_cases hid : me.uuid = id
      · apply Progress.deleting
        rw [locating_send, hid, UserWrite.locates, beq_self_eq_true, if_pos rfl]
        exact List.mem_append_right _ (List.mem_singleton_self _)
      · have hw : (UserWrite.deleteLocation me.uuid).locates id = false :=
          beq_eq_false_iff_ne.mpr hid
        refine h.of_same (fun d hd => ⟨d, hd, rfl⟩) (hsent _ _ _ hw) ?_
        exact Function.update_of_ne (Ne.symm hid) ..
  | failUpdate i =>
    simp only [Accounts.step, Option.ite_none_right_eq_some, Option.some.injEq] at hstep
    obtain ⟨hi, rfl⟩ := hstep
    have hu := List.getElem?_eq_getElem hi
    exact h.of_same (fun d hd => ⟨d, hd, rfl⟩) (locating_eraseIdx_of_not hu (horder _ hu)) rfl
  | stop c =>
    cases hstep
    exact h.of_same (fun d hd => ⟨d, hd, rfl⟩) (locating_stopped s c) rfl
  | landUpdate i =>
    obtain ⟨u, users, hu, hland, hsame, -, -, hcalls⟩ := sameRelations_landUpdate hstep
    by_cases hlocates : u.write.locates id = true
    · have hlands := lands_of_step hstep hu hlocates
      have horder := horder u hu hlocates
      -- A deletion in flight starts the location anew, whatever has landed before.
      by_cases hdeleting : .deleteLocation id ∈ locating id (s.updates.eraseIdx i)
      · apply Progress.deleting
        rw [hlands.after]
        exact List.mem_append_left _ hdeleting
      · have hin := horder hdeleting
        have huser := UserWrite.user_of_locates hlocates
        cases hw : u.write with
        | createUser | updateUserProfile =>
          rw [hw] at hlocates
          cases hlocates
        | deleteLocation user =>
          rw [hw, UserWrite.user] at huser
          subst huser
          exact hlands.deleteLocation hw hin
        | addLatitude user x =>
          rw [hw, UserWrite.user] at huser
          subst huser
          exact hlands.addLatitude h hw hdeleting hin
        | addLongitude user y =>
          rw [hw, UserWrite.user] at huser
          subst huser
          exact hlands.addLongitude h hw hdeleting
    · rw [Bool.not_eq_true] at hlocates
      refine h.of_same (fun d hd => ?_) ?_ (congrFun hcalls id)
      · rw [hsame.users]
        exact location_land_of_not hdrawn hu hland hlocates hd
      · obtain ⟨v, users', hv, -, rfl⟩ := step_landUpdate hstep
        rw [hu, Option.some.injEq] at hv
        subst hv
        have hrest := locating_eraseIdx_of_not hu hlocates
        split
        · rw [locating_acknowledge_of_not hlocates]
          exact hrest
        · exact hrest

end Step

/-! ### Runs -/

/-- Every update that has come to an end leaves the pair of a call, in every run in which the
writes of the updates of `id` land in order. -/
theorem located_of_inOrder {s₀ : Accounts} {id : UserID} (h₀ : s₀.Initial)
    (hcalls : s₀.arguments id = []) {es : List AccountEvent}
    (horder : AllSteps step (LocatesInOrder id) s₀ es) : AllStates step (Located id) s₀ es := by
  apply allStates_of_invariant (I := fun s => s.Drawn ∧ s.Progress id) ?_ ?_
    ⟨h₀.drawn, .uncalled hcalls⟩ horder
  · intro s ev t hs hev hstep
    exact ⟨hs.1.step hstep, hs.2.step hs.1 hev hstep⟩
  · intro s hs
    exact hs.2.located

/-- A user logs in, and is located at `(latitude, longitude)` when calling for an update. -/
private def callFrom (latitude longitude : Double) : List AccountEvent :=
  [.relation (.read (.fetchCurrentUser 0 "a")), .locate 0 latitude longitude,
    .updateUserLocation 0 [latitude, longitude]]

/-- A single update, with nothing else selected meanwhile. -/
theorem located_single :
    AllStates step (Located "a") (signedUp ["a"])
      (callFrom ⟨52⟩ ⟨13⟩ ++ [.landUpdate 0, .landUpdate 0, .landUpdate 0]) :=
  located_of_inOrder (signedUp_initial _) rfl (by decide)

/-- No write fails and no app stops. -/
def GoesThrough : AccountEvent → Prop
  | .failUpdate _ | .stop _ => False
  | _ => True

instance : ∀ ev, Decidable (GoesThrough ev)
  | .failUpdate _ | .stop _ => .isFalse id
  | .relation _ | .locate _ _ _ | .signUp _ _ _ _ | .accountCreated _ _ _ | .accountRefused _
  | .updateUserProfile _ _ _ _ _ | .updateUserLocation _ _ | .landUpdate _ => .isTrue True.intro

/-- Another place is selected before the writes are acknowledged, and is stored instead. -/
theorem not_located :
    ¬ ∀ (s₀ s : Accounts) (es : List AccountEvent) (id : UserID), s₀.Initial →
      s₀.arguments id = [] → run step s₀ es = some s → (∀ ev ∈ es, GoesThrough ev) →
      s.Located id := by
  intro hall
  let es := callFrom ⟨52⟩ ⟨13⟩ ++
    [.locate 0 ⟨48⟩ ⟨11⟩, .landUpdate 0, .landUpdate 0, .landUpdate 0]
  have hrun := exists_run_of_any step (signedUp ["a"]) es (fun s => decide (
      locating "a" s.updates = [] ∧ s.arguments "a" = [[⟨52⟩, ⟨13⟩]] ∧
      ∀ d ∈ s.users "a", d.lastCurrentLocation = some [⟨48⟩, ⟨11⟩])) (by decide)
  obtain ⟨s, hrun, hs⟩ := hrun
  obtain ⟨hnone, hcalls, hstored⟩ := of_decide_eq_true hs
  have hlocated := hall _ s es "a" (signedUp_initial _) rfl hrun (by decide) hnone
  rw [hcalls] at hlocated
  obtain ⟨d, latitude, longitude, hd, hlocation, hcall⟩ := hlocated (by decide)
  rw [hstored d hd, Option.some.injEq] at hlocation
  rw [← hlocation] at hcall
  exact absurd hcall (by decide)

end Accounts

end DriveTribe
