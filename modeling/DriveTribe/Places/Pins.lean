import DriveTribe.Base.Rows
import DriveTribe.Base.Run
import DriveTribe.Carpools.Controller

/-!
# Places on a map

`CarpoolDestinationViewController.swift`, `UserLocationViewController.swift` and
`UpdateUserLocationViewController.swift`, each with the view controller of its panel, in which a
place is searched. A place that is selected is staged and pinned. What the device reports as its
location is staged in the place of the user as well, and moves no pin.
-/

namespace DriveTribe

open Base

/-- A screen with a map. -/
inductive MapScreenKind where
  /-- `CarpoolDestinationViewController`. -/
  | destination
  /-- `UserLocationViewController`. -/
  | userLocation
  /-- `UpdateUserLocationViewController`. -/
  | updateUserLocation
  deriving DecidableEq, Repr

/-- A location of the device. -/
structure Coordinate where
  latitude : Double
  longitude : Double
  deriving DecidableEq, Repr

namespace MapItem

/-- Where it is. -/
def coordinate (item : MapItem) : Coordinate := ⟨item.latitude, item.longitude⟩

end MapItem

/-- A map with its panel. `rows` is what the table of the panel was told last, and `updating` says
that its location manager reports locations. -/
structure MapScreen where
  kind : MapScreenKind
  updating : Bool := false
  /-- The searches that are not answered. -/
  searches : List String := []
  /-- The responses that wait on the main queue. -/
  main : List (List MapItem) := []
  searchResults : List MapItem := []
  rows : Nat := 0
  pin : Option MapItem := none
  deriving DecidableEq, Repr

/-- What is on top. -/
inductive Top where
  /-- No map. -/
  | other
  /-- The `i`-th map. -/
  | map (i : Nat)
  /-- `AddPassengerViewController`, over the `i`-th map. -/
  | addFriends (i : Nat)
  deriving DecidableEq, Repr

/-- What is staged, every map there has been, and what is on top. -/
structure Places where
  /-- `UserController.shared.lastCurrentLocation`. -/
  lastCurrentLocation : List Double := []
  /-- `CarpoolController.shared.destination`. -/
  destination : Option MapItem := none
  screens : List MapScreen := []
  top : Top := .other
  deriving DecidableEq, Repr

/-- What can happen next. -/
inductive PlacesEvent where
  | viewDidLoad (kind : MapScreenKind) (locationServicesEnabled : Bool)
  | textFieldShouldReturn (text : String)
  /-- The `j`-th search of the `i`-th map is answered. -/
  | searched (i j : Nat) (response : Option (List MapItem))
  /-- The main queue runs the next block of the `i`-th map. -/
  | runMain (i : Nat)
  | didSelectRowAt (row : Nat)
  | didUpdateLocations (i : Nat) (locations : List Coordinate)
  /-- To Add Friends. -/
  | shouldPerformSegue
  /-- Back from Add Friends, or from a map. -/
  | back
  /-- Save, on a map. -/
  | saveButtonTapped
  /-- Save, on Add Friends. -/
  | createCarpool (loggedIn : Bool)
  /-- A sign-up takes what is staged. `UserController.swift:36–37`. -/
  | accountCreated
  deriving DecidableEq, Repr

namespace MapScreen

/-- `DestinationSearchViewController.swift:94–96`; its siblings are the same. -/
def numberOfRowsInSection (x : MapScreen) : Nat := x.searchResults.length

/-- The place of a row. `DestinationSearchViewController.swift:98–128`; `none` is a subscript out
of range. -/
def cellForRowAt (x : MapScreen) (row : Nat) : Option MapItem := x.searchResults[row]?

/-- `DestinationSearchViewController.swift:142–151`. -/
def textFieldShouldReturn (x : MapScreen) (text : String) : MapScreen :=
  if text.isEmpty then x else { x with searches := x.searches ++ [text] }

/-- `DestinationSearchViewController.swift:151–158`. -/
def searched (x : MapScreen) (j : Nat) (response : Option (List MapItem)) : MapScreen :=
  { x with searches := x.searches.eraseIdx j, main := x.main ++ response.toList }

/-- `DestinationSearchViewController.swift:156–159`. -/
def runMain (x : MapScreen) : MapScreen :=
  match x.main with
  | [] => x
  | mapItems :: rest => { x with main := rest, searchResults := mapItems, rows := mapItems.length }

/-- A search keeps the screens of the user's location, but not those of a destination.
`UserLocationSearchViewController.swift:156–165`, `DestinationSearchViewController.swift:151`. -/
def Retained (x : MapScreen) : Prop := x.kind ≠ .destination ∧ (x.searches ≠ [] ∨ x.main ≠ [])

instance (x : MapScreen) : Decidable x.Retained := inferInstanceAs (Decidable (_ ∧ _))

/-- Every row is there. -/
def RowsThere (x : MapScreen) : Prop := ∀ row < x.rows, (x.cellForRowAt row).isSome

/-- The table has been told of every row. -/
def Told (x : MapScreen) : Prop := x.rows = x.searchResults.length

end MapScreen

/-- The map that is on top, or under Add Friends. -/
def Top.screen? : Top → Option Nat
  | .other => none
  | .map i | .addFriends i => some i

namespace Places

/-- The map that is on top, or under Add Friends. -/
def current (s : Places) : Option MapScreen := s.top.screen?.bind fun i => s.screens[i]?

/-- Replace a map. -/
def setScreen (s : Places) (i : Nat) (x : MapScreen) : Places :=
  { s with screens := s.screens.set i x }

/-- Stage a place that is selected. `DestinationSearchViewController.swift:127–130`,
`UserLocationSearchViewController.swift:129–135`. -/
def stage (s : Places) (kind : MapScreenKind) (item : MapItem) : Places :=
  match kind with
  | .destination => { s with destination := some item }
  | .userLocation | .updateUserLocation =>
    { s with lastCurrentLocation := [item.latitude, item.longitude] }

/-- A row is selected, and its place pinned. `CarpoolDestinationViewController.swift:56–64`. -/
def didSelectRowAt (s : Places) (i : Nat) (x : MapScreen) (item : MapItem) : Places :=
  (s.stage x.kind item).setScreen i { x with pin := some item }

/-- The device is located. `DestinationSearchViewController.swift:168–177`. -/
def didUpdateLocations (s : Places) (i : Nat) (x : MapScreen) : List Coordinate → Places
  | [] => s
  | location :: _ =>
    { s.setScreen i { x with updating := false } with
      lastCurrentLocation := [location.latitude, location.longitude] }

/-- One event. -/
def step (s : Places) : PlacesEvent → Option Places
  | .viewDidLoad kind locationServicesEnabled =>
    match s.top with
    | .other =>
      some { s with
        screens := s.screens ++ [{ kind, updating := locationServicesEnabled }]
        top := .map s.screens.length }
    | _ => none
  | .textFieldShouldReturn text =>
    match s.top with
    | .map i => (s.screens[i]?).map fun x => s.setScreen i (x.textFieldShouldReturn text)
    | _ => none
  | .searched i j response =>
    match s.screens[i]? with
    | none => none
    | some x => if j < x.searches.length then some (s.setScreen i (x.searched j response)) else none
  | .runMain i => (s.screens[i]?).map fun x => s.setScreen i x.runMain
  | .didSelectRowAt row =>
    match s.top with
    | .map i =>
      match s.screens[i]? with
      | none => none
      | some x =>
        if row < x.rows then (x.cellForRowAt row).map fun item => s.didSelectRowAt i x item
        else none
    | _ => none
  | .didUpdateLocations i locations =>
    match s.screens[i]? with
    | none => none
    | some x =>
      if x.updating ∧ (s.top.screen? = some i ∨ x.Retained) then
        some (s.didUpdateLocations i x locations)
      else none
  | .shouldPerformSegue =>
    match s.top, s.current with
    | .map i, some x =>
      -- Only whether a destination is staged is asked. `CarpoolDestinationViewController.swift:36`.
      if x.kind = .destination then
        if s.destination.isSome then some { s with top := .addFriends i } else some s
      else none
    | _, _ => none
  | .back =>
    match s.top with
    | .other => none
    | .map _ => some { s with top := .other }
    | .addFriends i => some { s with top := .map i }
  | .saveButtonTapped =>
    match s.top with
    | .map _ => some { s with top := .other }
    | _ => none
  | .createCarpool loggedIn =>
    match s.top with
    | .addFriends _ =>
      some { s with destination := if loggedIn then none else s.destination, top := .other }
    | _ => none
  | .accountCreated => some { s with lastCurrentLocation := [] }

/-- The place is staged. -/
def Stages (s : Places) (kind : MapScreenKind) (item : MapItem) : Prop :=
  match kind with
  | .destination => s.destination = some item
  | .userLocation | .updateUserLocation => s.lastCurrentLocation = [item.latitude, item.longitude]

/-- On the maps of some kinds, the place that is pinned is the one that is staged. -/
def PinnedOn (kinds : MapScreenKind → Prop) (s : Places) : Prop :=
  ∀ x, s.current = some x → kinds x.kind → ∀ item, x.pin = some item → s.Stages x.kind item

/-- While a place is pinned on a map of the user's location of these kinds, the device reports no
other one, and no sign-up takes what is staged. -/
def KeepsOn (kinds : MapScreenKind → Prop) (s : Places) : PlacesEvent → Prop
  | .didUpdateLocations _ locations =>
    ∀ location ∈ locations.head?, ∀ x, s.current = some x → kinds x.kind →
      x.kind ≠ .destination → ∀ item, x.pin = some item → location = item.coordinate
  | .accountCreated =>
    ∀ x, s.current = some x → kinds x.kind → x.kind ≠ .destination → x.pin = none
  | _ => True

/-- No table asks for a row that is not there. -/
def RowsThere (s : Places) : Prop := ∀ x ∈ s.screens, x.RowsThere

/-! ### What a step can do -/

/-- A map is opened, or changed with its pin left alone; a row is selected; the device is located;
another screen comes on top; or a sign-up takes the location. -/
inductive Moves (s : Places) : PlacesEvent → Places → Prop where
  | opened (kind : MapScreenKind) (updating : Bool) :
    Moves s (.viewDidLoad kind updating)
      { s with
        screens := s.screens ++ [{ kind, updating }]
        top := .map s.screens.length }
  | changed {ev : PlacesEvent} {i : Nat} {x y : MapScreen} (hx : s.screens[i]? = some x)
    (hkind : y.kind = x.kind) (hpin : y.pin = x.pin) (htold : x.Told → y.Told)
    (hev : ∀ kinds, s.KeepsOn kinds ev) : Moves s ev (s.setScreen i y)
  | selected {row i : Nat} {x : MapScreen} (htop : s.top = .map i) (hx : s.screens[i]? = some x)
    (item : MapItem) : Moves s (.didSelectRowAt row) (s.didSelectRowAt i x item)
  | located {i : Nat} {x : MapScreen} (hx : s.screens[i]? = some x) (location : Coordinate)
    (rest : List Coordinate) :
    Moves s (.didUpdateLocations i (location :: rest))
      (s.didUpdateLocations i x (location :: rest))
  | moved {ev : PlacesEvent} {top : Top} {destination : Option MapItem}
    (htop : top = .other ∨ top.screen? = s.top.screen? ∧ destination = s.destination)
    (hev : ∀ kinds, s.KeepsOn kinds ev) : Moves s ev { s with destination, top }
  | accountCreated : Moves s .accountCreated { s with lastCurrentLocation := [] }

/-- A step does one of these. -/
theorem moves_of_step {s t : Places} {ev : PlacesEvent} (hstep : s.step ev = some t) :
    s.Moves ev t := by
  cases ev with
  | viewDidLoad kind updating =>
    simp only [step] at hstep
    split at hstep
    · cases hstep
      exact .opened kind updating
    · cases hstep
  | textFieldShouldReturn text =>
    simp only [step] at hstep
    split at hstep
    · obtain ⟨x, hx, rfl⟩ := Option.map_eq_some_iff.mp hstep
      have hsame : (x.textFieldShouldReturn text).kind = x.kind ∧
          (x.textFieldShouldReturn text).pin = x.pin ∧
          (x.Told → (x.textFieldShouldReturn text).Told) := by
        rw [MapScreen.textFieldShouldReturn]
        split <;> exact ⟨rfl, rfl, id⟩
      exact .changed hx hsame.1 hsame.2.1 hsame.2.2 fun _ => True.intro
    · cases hstep
  | searched i j response =>
    simp only [step] at hstep
    split at hstep
    · cases hstep
    · next x hx =>
      simp only [Option.ite_none_right_eq_some, Option.some.injEq] at hstep
      obtain ⟨-, rfl⟩ := hstep
      exact .changed hx rfl rfl id fun _ => True.intro
  | runMain i =>
    obtain ⟨x, hx, rfl⟩ := Option.map_eq_some_iff.mp hstep
    have hsame : x.runMain.kind = x.kind ∧ x.runMain.pin = x.pin ∧ (x.Told → x.runMain.Told) := by
      rw [MapScreen.runMain]
      split
      · exact ⟨rfl, rfl, id⟩
      · exact ⟨rfl, rfl, fun _ => rfl⟩
    exact .changed hx hsame.1 hsame.2.1 hsame.2.2 fun _ => True.intro
  | didSelectRowAt row =>
    simp only [step] at hstep
    split at hstep
    · next i htop =>
      split at hstep
      · cases hstep
      · next x hx =>
        simp only [Option.ite_none_right_eq_some] at hstep
        obtain ⟨item, -, rfl⟩ := Option.map_eq_some_iff.mp hstep.2
        exact .selected htop hx item
    · cases hstep
  | didUpdateLocations i locations =>
    simp only [step] at hstep
    split at hstep
    · cases hstep
    · next x hx =>
      simp only [Option.ite_none_right_eq_some, Option.some.injEq] at hstep
      obtain ⟨-, rfl⟩ := hstep
      cases locations with
      | nil =>
        refine .moved (.inr ⟨rfl, rfl⟩) fun kinds location hlocation => ?_
        cases hlocation
      | cons location rest => exact .located hx location rest
  | shouldPerformSegue =>
    simp only [step] at hstep
    split at hstep
    · next i x htop hx =>
      simp only [Option.ite_none_right_eq_some] at hstep
      obtain ⟨-, hstep⟩ := hstep
      split at hstep
      · cases hstep
        exact .moved (.inr ⟨htop ▸ rfl, rfl⟩) fun _ => True.intro
      · cases hstep
        exact .moved (.inr ⟨rfl, rfl⟩) fun _ => True.intro
    · cases hstep
  | back =>
    simp only [step] at hstep
    split at hstep
    · cases hstep
    · cases hstep
      exact .moved (.inl rfl) fun _ => True.intro
    · next i htop =>
      cases hstep
      exact .moved (.inr ⟨htop ▸ rfl, rfl⟩) fun _ => True.intro
  | saveButtonTapped | createCarpool loggedIn =>
    simp only [step] at hstep
    split at hstep
    · cases hstep
      exact .moved (.inl rfl) fun _ => True.intro
    · cases hstep
  | accountCreated =>
    cases hstep
    exact .accountCreated

/-! ### What the map shows -/

/-- Which map it is, and what is pinned on it. -/
def face (s : Places) : Option (MapScreenKind × Option MapItem) :=
  s.current.map fun x => (x.kind, x.pin)

section Step
variable {s t : Places} {i : Nat} {x y : MapScreen} {ev : PlacesEvent}
variable {kinds : MapScreenKind → Prop}

private theorem face_setScreen (hx : s.screens[i]? = some x) (hkind : y.kind = x.kind)
    (hpin : y.pin = x.pin) : (s.setScreen i y).face = s.face := by
  have hget (j : Nat) : ((s.screens.set i y)[j]?).map (fun x => (x.kind, x.pin)) =
      (s.screens[j]?).map fun x => (x.kind, x.pin) := by
    by_cases hj : i = j
    · subst hj
      have hi := (List.getElem?_eq_some_iff.mp hx).1
      rw [List.getElem?_set_self hi, hx, Option.map_some, Option.map_some, hkind, hpin]
    · rw [List.getElem?_set_ne hj]
  rw [face, face, current, current, setScreen, Option.map_bind, Option.map_bind]
  exact congrArg _ (funext hget)

private theorem exists_current_of_face (hface : t.face = s.face) (hy : t.current = some y) :
    ∃ x, s.current = some x ∧ x.kind = y.kind ∧ x.pin = y.pin := by
  have hs : s.face = some (y.kind, y.pin) := by rw [← hface, face, hy, Option.map_some]
  obtain ⟨x, hx, heq⟩ := Option.map_eq_some_iff.mp hs
  obtain ⟨hkind, hpin⟩ := Prod.mk.inj heq
  exact ⟨x, hx, hkind, hpin⟩

private theorem pinnedOn_of_top (h : s.top = .other) : s.PinnedOn kinds := by
  intro x hx
  rw [current, h] at hx
  cases hx

private theorem stages_of_ne {kind : MapScreenKind} (h : kind ≠ .destination) {item : MapItem} :
    s.Stages kind item ↔ s.lastCurrentLocation = [item.latitude, item.longitude] := by
  cases kind with
  | destination => exact absurd rfl h
  | userLocation | updateUserLocation => rfl

private theorem pinnedOn_relocate (h : s.PinnedOn kinds) (hface : t.face = s.face)
    (hdestination : t.destination = s.destination) :
    t.PinnedOn kinds ↔ ∀ x, s.current = some x → kinds x.kind → x.kind ≠ .destination →
      ∀ item, x.pin = some item →
        t.lastCurrentLocation = [item.latitude, item.longitude] := by
  constructor
  · intro ht x hx hkinds hkind item hitem
    obtain ⟨y, hy, hykind, hypin⟩ := exists_current_of_face hface.symm hx
    rw [← hykind] at hkinds hkind
    exact (stages_of_ne hkind).mp (ht y hy hkinds item (hypin.trans hitem))
  · intro hall y hy hkinds item hitem
    obtain ⟨x, hx, hxkind, hxpin⟩ := exists_current_of_face hface hy
    rw [← hxkind] at hkinds ⊢
    rw [← hxpin] at hitem
    by_cases hkind : x.kind = .destination
    · have hstages := h x hx hkinds item hitem
      rw [hkind, Stages] at hstages ⊢
      exact hdestination.trans hstages
    · exact (stages_of_ne hkind).mpr (hall x hx hkinds hkind item hitem)

private theorem PinnedOn.move (h : s.PinnedOn kinds) {top : Top}
    (htop : top.screen? = s.top.screen?) : PinnedOn kinds { s with top } := by
  intro x hx
  have hcurrent : s.current = some x := by
    rw [current, ← htop]
    exact hx
  exact h x hcurrent

/-- What replaces a map by one with the same pin leaves the pinned place staged. -/
theorem PinnedOn.setScreen (h : s.PinnedOn kinds) (hx : s.screens[i]? = some x)
    (hkind : y.kind = x.kind) (hpin : y.pin = x.pin) : (s.setScreen i y).PinnedOn kinds := by
  intro z hz hkinds item hitem
  obtain ⟨w, hw, hwkind, hwpin⟩ := exists_current_of_face (face_setScreen hx hkind hpin) hz
  rw [← hwkind] at hkinds ⊢
  exact h w hw hkinds item (hwpin.trans hitem)

private theorem pinnedOn_didSelectRowAt (htop : s.top = .map i) (hx : s.screens[i]? = some x)
    (item : MapItem) : (s.didSelectRowAt i x item).PinnedOn kinds := by
  have hi := (List.getElem?_eq_some_iff.mp hx).1
  have hstage : (s.stage x.kind item).screens = s.screens ∧ (s.stage x.kind item).top = s.top ∧
      (s.stage x.kind item).Stages x.kind item := by
    cases x.kind <;> exact ⟨rfl, rfl, rfl⟩
  obtain ⟨hscreens, htop', hstages⟩ := hstage
  have hcurrent : (s.didSelectRowAt i x item).current = some { x with pin := some item } := by
    rw [didSelectRowAt, current, Places.setScreen, htop', htop, hscreens]
    exact List.getElem?_set_self hi
  intro z hz _ item' hitem'
  rw [hcurrent, Option.some.injEq] at hz
  subst hz
  cases hitem'
  exact hstages

/-- From a state in which the pinned place is staged, a step leads to another exactly if it keeps
the location of the user. -/
theorem pinnedOn_step_iff (h : s.PinnedOn kinds) (hstep : s.step ev = some t) :
    t.PinnedOn kinds ↔ s.KeepsOn kinds ev := by
  cases moves_of_step hstep with
  | opened kind updating =>
    refine iff_of_true ?_ True.intro
    intro z hz _ item hitem
    rw [current, Top.screen?, Option.bind_some, List.getElem?_concat_length] at hz
    cases hz
    cases hitem
  | changed hx hkind hpin _ hev => exact iff_of_true (h.setScreen hx hkind hpin) (hev kinds)
  | selected htop hx item => exact iff_of_true (pinnedOn_didSelectRowAt htop hx item) True.intro
  | @located i x hx location rest =>
    have hface : (s.setScreen i { x with updating := false }).face = s.face :=
      face_setScreen hx rfl rfl
    refine (pinnedOn_relocate (t := s.didUpdateLocations i x (location :: rest)) h hface
      rfl).trans ?_
    simp only [KeepsOn, List.head?_cons, Option.mem_def, Option.some.injEq, forall_eq']
    refine forall₄_congr fun y _ _ _ => forall₂_congr fun item _ => ?_
    simp only [didUpdateLocations, MapItem.coordinate, List.cons.injEq, and_true]
    rw [Coordinate.mk.injEq]
  | moved htop hev =>
    refine iff_of_true ?_ (hev kinds)
    rcases htop with rfl | ⟨htop, rfl⟩
    · exact pinnedOn_of_top rfl
    · exact h.move htop
  | accountCreated =>
    refine (pinnedOn_relocate (t := { s with lastCurrentLocation := [] }) h rfl rfl).trans ?_
    refine forall₄_congr fun y _ _ _ => ?_
    rw [Option.eq_none_iff_forall_ne_some]
    refine forall_congr' fun item => imp_congr_right fun _ => ?_
    exact iff_of_false (List.cons_ne_nil _ _).symm id

private theorem told_setScreen (h : ∀ x ∈ s.screens, x.Told) (hy : y.Told) :
    ∀ x ∈ (s.setScreen i y).screens, x.Told := by
  intro x hx
  rcases List.mem_or_eq_of_mem_set hx with hx | rfl
  · exact h x hx
  · exact hy

/-- Every table is told of its rows. -/
theorem told_step (h : ∀ x ∈ s.screens, x.Told) (hstep : s.step ev = some t) :
    ∀ x ∈ t.screens, x.Told := by
  cases moves_of_step hstep with
  | opened kind updating =>
    intro x hx
    rcases List.mem_append.mp hx with hx | hx
    · exact h x hx
    · obtain rfl := List.mem_singleton.mp hx
      rfl
  | changed hx _ _ htold _ => exact told_setScreen h (htold (h _ (List.mem_of_getElem? hx)))
  | @selected _ _ x _ hx item =>
    have hstage : (s.stage x.kind item).screens = s.screens := by cases x.kind <;> rfl
    exact told_setScreen (hstage.symm ▸ h) (h x (List.mem_of_getElem? hx))
  | @located _ x hx _ _ => exact told_setScreen h (h x (List.mem_of_getElem? hx))
  | moved _ _ | accountCreated => exact h

end Step

/-- In every run every row of a search is there, and the place that is pinned as the destination is
the one that is staged. For the location of the user that holds in every state exactly if no
location that the device reports and no sign-up comes between the pin and what is staged. -/
theorem pins_staged (es : List PlacesEvent) :
    AllStates step (fun s => s.RowsThere ∧ s.PinnedOn (· = .destination)) {} es ∧
      (AllStates step (PinnedOn fun _ => True) {} es ↔
        AllSteps step (KeepsOn fun _ => True) {} es) := by
  constructor
  · refine allStates_of_invariant
      (I := fun s => (∀ x ∈ s.screens, x.Told) ∧ s.PinnedOn (· = .destination))
      (fun s ev t hs _ ht => ⟨told_step hs.1 ht, ?_⟩) (fun s hs => ⟨fun x hx => ?_, hs.2⟩)
      ⟨fun x hx => absurd hx List.not_mem_nil, pinnedOn_of_top rfl⟩ (allSteps_true _ es)
    · apply (pinnedOn_step_iff hs.2 ht).mpr
      cases ev with
      | didUpdateLocations i locations =>
        exact fun location _ x _ hkind hnot => absurd hkind hnot
      | accountCreated => exact fun x _ hkind hnot => absurd hkind hnot
      | _ => exact True.intro
    · exact forall_isSome_getElem?_iff.mpr (Nat.le_of_eq (hs.1 x hx))
  · exact allStates_iff_allSteps (I := fun _ => True) (fun _ _ _ _ _ => True.intro)
      (fun _ _ _ _ hs ht => pinnedOn_step_iff hs ht) True.intro (pinnedOn_of_top rfl) es

/-- A place is selected before the device has been located, and is not what is saved. -/
example : (run step {} [.viewDidLoad .updateUserLocation true, .textFieldShouldReturn "inn",
    .searched 0 0 (some [⟨some "Inn", ⟨1⟩, ⟨2⟩⟩]), .runMain 0, .didSelectRowAt 0,
    .didUpdateLocations 0 [⟨⟨3⟩, ⟨4⟩⟩]]).map (fun s => (s.lastCurrentLocation,
      s.current.bind MapScreen.pin)) =
    some ([⟨3⟩, ⟨4⟩], some ⟨some "Inn", ⟨1⟩, ⟨2⟩⟩) := rfl

end Places

end DriveTribe
