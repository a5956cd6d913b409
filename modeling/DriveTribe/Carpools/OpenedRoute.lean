import DriveTribe.Carpools.StartRoute

/-!
# What a route tells

A tap may open a route before everybody has been read. Whatever it opens, the query items can be
read back: the route starts at the stored place of the driver, ends at the destination, and every
stop is the stored place of a passenger of the carpool, of each at most once.
-/

namespace DriveTribe

open Base

namespace RouteCreator
variable {string : Double → String}

/-- The user at the two coordinates that are read of his location. -/
def pinned (user : User) : User :=
  { user with lastCurrentLocation := user.lastCurrentLocation.take 2 }

private theorem coordinates_take (location : List Double) :
    coordinates string (location.take 2) = coordinates string location := by
  match location with
  | [] => rfl
  | [_] => rfl
  | _ :: _ :: _ => rfl

private theorem coordinates_eq_some {location : List Double} {text : String}
    (h : coordinates string location = some text) :
    (location.take 2).length = 2 ∧ text = written string (location.take 2) := by
  have hlength : 2 ≤ location.length :=
    (coordinates_isSome string location).mp (Option.isSome_iff_exists.mpr ⟨text, h⟩)
  have htwo : (location.take 2).length = 2 := by
    rw [List.length_take, Nat.min_eq_left hlength]
  rw [← coordinates_take, coordinates_eq htwo, Option.some.injEq] at h
  exact ⟨htwo, h.symm⟩

private theorem appendStops_pinned (stops : String) (passengers : List User) :
    appendStops string stops (passengers.map pinned) = appendStops string stops passengers := by
  induction passengers generalizing stops with
  | nil => rfl
  | cons passenger passengers ih =>
    rw [List.map_cons, appendStops, appendStops, pinned, coordinates_take]
    exact congrArg _ (funext fun stop => ih _)

private theorem stopsCoordinates_eq_some {passengers : List User} {waypoints : String}
    (h : stopsCoordinates string passengers = some waypoints) :
    (∀ passenger ∈ passengers, (passenger.lastCurrentLocation.take 2).length = 2) ∧
      waypoints = "|".intercalate (passengers.map fun passenger =>
        written string (passenger.lastCurrentLocation.take 2)) := by
  obtain ⟨stops, hstops, -⟩ := Option.map_eq_some_iff.mp h
  have hlength : ∀ passenger ∈ passengers,
      (passenger.lastCurrentLocation.take 2).length = 2 := by
    intro passenger hmem
    have htwo := (appendStops_isSome string "" passengers).mp
      (Option.isSome_iff_exists.mpr ⟨stops, hstops⟩) passenger hmem
    rw [List.length_take, Nat.min_eq_left htwo]
  refine ⟨hlength, ?_⟩
  have hpinned : ∀ passenger ∈ passengers.map pinned,
      passenger.lastCurrentLocation.length = 2 := by
    intro passenger hmem
    obtain ⟨user, huser, rfl⟩ := List.mem_map.mp hmem
    exact hlength user huser
  rw [stopsCoordinates, ← appendStops_pinned] at h
  have heq : stopsCoordinates string (passengers.map pinned) = some waypoints := h
  rw [stopsCoordinates_eq hpinned, List.map_map, Option.some.injEq] at heq
  exact heq.symm

private theorem PrintsPlain.parts_stops (hstring : PrintsPlain string)
    {locations : List (List Double)} (hne : locations ≠ [])
    (h : ∀ location ∈ locations, location.length = 2) :
    (parts '|' ("|".intercalate (locations.map (written string)))).map (parts ',') =
      locations.map fun location => location.map string := by
  have hbars : ∀ stop ∈ locations.map (written string), '|' ∉ stop.toList := by
    intro stop hstop
    obtain ⟨location, hlocation, rfl⟩ := List.mem_map.mp hstop
    exact hstring.bar_notMem (h location hlocation)
  have hsplit := parts_intercalate (fun hnil => hne (List.map_eq_nil_iff.mp hnil)) hbars
  rw [show String.singleton '|' = "|" from rfl] at hsplit
  rw [hsplit, List.map_map]
  exact List.map_congr_left fun location hlocation => hstring.parts_written (h location hlocation)

private theorem createCarpoolRoute_eq_some {carpool : Carpool} {driver : User}
    {passengers : List User} {items : List QueryItem}
    (h : createCarpoolRoute string carpool driver passengers = some items) :
    ∃ origin destination waypoints,
      coordinates string driver.lastCurrentLocation = some origin ∧
      coordinates string carpool.destination = some destination ∧
      stopsCoordinates string passengers = some waypoints ∧
      items = openGoogleMapsWith origin (some waypoints) destination := by
  simp only [createCarpoolRoute, Option.bind_eq_bind, Option.bind_eq_some_iff, Option.pure_def,
    Option.some.injEq] at h
  obtain ⟨origin, horigin, destination, hdestination, stops, hstops, rfl⟩ := h
  refine ⟨origin, destination, dropBar stops, horigin, hdestination, ?_, rfl⟩
  rw [stopsCoordinates, hstops, Option.map_some]

end RouteCreator

namespace RouteScreen
open RouteCreator

/-- The user is the stored driver of the stored carpool. -/
def IsDriver (store : RouteStore) (driver : User) : Prop :=
  ∃ carpool, store.carpool? = some carpool ∧ store.user? carpool.driver = some driver

/-- Where the screen and its blocks have their users from. -/
structure Drawn (store : RouteStore)
    (x : Requests RouteScreen RouteRead (Option String) NetworkError) : Prop where
  driver : ∀ driver, x.state.driver = some driver → IsDriver store driver
  drivers : ∀ driver, .driver driver ∈ x.state.queue → IsDriver store driver
  reads : ∀ id, .driver id ∈ x.outstanding →
    ∃ carpool, store.carpool? = some carpool ∧ carpool.driver = id
  passengers : x.state.passengers <+: x.state.collected
  waiting : ∀ passengers, .passengers passengers ∈ x.state.queue →
    passengers <+: x.state.collected

section Run
variable {store : RouteStore} {tribe : Carpool} {currentUser : Option User}
  {es : List (RequestEvent (Option String) Unit)}
  {x y : Requests RouteScreen RouteRead (Option String) NetworkError}

/-- The query items are those of a route from the stored driver to the destination, past some
stored passengers, of whom none comes twice. -/
def LeadsPastPassengers (string : Double → String) (store : RouteStore) (tribe : Carpool)
    (items : List QueryItem) : Prop :=
  ∃ (carpool : Carpool) (driver : User) (ids : List UserID) (passengers : List User)
    (origin destination waypoints : String),
    store.carpool? = some carpool ∧ store.user? carpool.driver = some driver ∧
    ids.Subperm carpool.passengers ∧ ids.map store.user? = passengers.map some ∧
    items = openGoogleMapsWith origin (some waypoints) destination ∧
    parts ',' origin = (driver.lastCurrentLocation.take 2).map string ∧
    parts ',' destination = (tribe.destination.take 2).map string ∧
    (passengers = [] → waypoints = "") ∧
    (passengers ≠ [] → (parts '|' waypoints).map (parts ',') =
      passengers.map fun passenger => (passenger.lastCurrentLocation.take 2).map string)

private theorem drawn_fetchDriverAndPassengers (htype : tribe.type = "carpool") :
    Drawn store (fetchDriverAndPassengers tribe currentUser) := by
  have hstart : ∃ requests : List RouteRead, (∀ id, .driver id ∉ requests) ∧
      fetchDriverAndPassengers tribe currentUser = { state := {}, outstanding := requests } := by
    cases currentUser with
    | none => exact ⟨[], fun _ => List.not_mem_nil, rfl⟩
    | some me =>
      rw [fetchDriverAndPassengers, htype]
      refine ⟨[.passengersCarpool, .driverCarpool], fun id hid => ?_, rfl⟩
      simp only [List.mem_cons, reduceCtorEq, List.not_mem_nil, or_false] at hid
  obtain ⟨requests, hrequests, hstart⟩ := hstart
  rw [hstart]
  refine ⟨fun driver hdriver => ?_, fun driver hmem => ?_, fun id hid => ?_, List.prefix_rfl,
    fun passengers hmem => ?_⟩
  · cases hdriver
  · exact absurd hmem List.not_mem_nil
  · exact absurd hid (hrequests id)
  · exact absurd hmem List.not_mem_nil

private theorem Drawn.replied (h : Drawn store x) {i : Nat} {requests : List RouteRead}
    {calls : List NetworkError} {answers : List RouteAnswer}
    (hrequests : ∀ id, .driver id ∈ requests →
      ∃ carpool, store.carpool? = some carpool ∧ carpool.driver = id) :
    Drawn store { x with
      outstanding := x.outstanding.eraseIdx i ++ requests, calls, answers } where
  driver := h.driver
  drivers := h.drivers
  reads id hid := by
    rcases List.mem_append.mp hid with hid | hid
    · exact h.reads id (List.mem_of_mem_eraseIdx hid)
    · exact hrequests id hid
  passengers := h.passengers
  waiting := h.waiting

/-- An answer that leads to no read. -/
theorem Drawn.answered (h : Drawn store x) {i : Nat} {calls : List NetworkError}
    {answers : List RouteAnswer} :
    Drawn store { x with outstanding := x.outstanding.eraseIdx i ++ [], calls, answers } :=
  h.replied fun _ hid => absurd hid List.not_mem_nil

private theorem Drawn.collects (h : Drawn store x) (passenger : User) :
    Drawn store { x with
      state := { x.state with
        collected := x.state.collected ++ [passenger]
        queue := x.state.queue ++ [.passengers (x.state.collected ++ [passenger])] } } where
  driver := h.driver
  drivers driver hmem := by
    rcases List.mem_append.mp hmem with hmem | hmem
    · exact h.drivers driver hmem
    · cases List.mem_singleton.mp hmem
  reads := h.reads
  passengers := h.passengers.trans (List.prefix_append _ _)
  waiting passengers hmem := by
    rcases List.mem_append.mp hmem with hmem | hmem
    · exact (h.waiting passengers hmem).trans (List.prefix_append _ _)
    · cases List.mem_singleton.mp hmem
      exact List.prefix_rfl

private theorem Drawn.queues (h : Drawn store x) {driver : User} (hdriver : IsDriver store driver) :
    Drawn store { x with
      state := { x.state with queue := x.state.queue ++ [.driver driver] } } where
  driver := h.driver
  drivers driver' hmem := by
    rcases List.mem_append.mp hmem with hmem | hmem
    · exact h.drivers driver' hmem
    · cases List.mem_singleton.mp hmem
      exact hdriver
  reads := h.reads
  passengers := h.passengers
  waiting passengers hmem := by
    rcases List.mem_append.mp hmem with hmem | hmem
    · exact h.waiting passengers hmem
    · cases List.mem_singleton.mp hmem

/-- The main queue shows what waited there. -/
theorem Drawn.runMain (h : Drawn store x) : Drawn store { x with state := x.state.runMain } := by
  rw [RouteScreen.runMain]
  split
  · exact h
  · next passengers rest hqueue =>
    have hrest : ∀ block ∈ rest, block ∈ x.state.queue :=
      fun block hblock => hqueue ▸ List.mem_cons_of_mem _ hblock
    exact ⟨h.driver, fun driver hmem => h.drivers driver (hrest _ hmem), h.reads,
      h.waiting passengers (hqueue ▸ List.mem_cons_self),
      fun passengers hmem => h.waiting passengers (hrest _ hmem)⟩
  · next driver rest hqueue =>
    have hrest : ∀ block ∈ rest, block ∈ x.state.queue :=
      fun block hblock => hqueue ▸ List.mem_cons_of_mem _ hblock
    refine ⟨fun driver' hdriver => ?_, fun driver hmem => h.drivers driver (hrest _ hmem), h.reads,
      h.passengers, fun passengers hmem => h.waiting passengers (hrest _ hmem)⟩
    cases hdriver
    exact h.drivers driver (hqueue ▸ List.mem_cons_self)

/-- Every answer keeps it so. -/
theorem Drawn.step (h : Drawn store x) {ev : RequestEvent (Option String) Unit}
    (hstep : RouteScreen.step store x ev = some y) : Drawn store y := by
  cases ev with
  | background change =>
    cases hstep
    exact h.runMain
  | answered i error =>
    obtain ⟨read, hread, rfl⟩ := Requests.step_answered hstep
    have hmem : read ∈ x.outstanding := List.mem_of_getElem? hread
    cases error with
    | some error => exact h.answered
    | none =>
      cases read with
      | passengersCarpool =>
        simp only [handle, carpoolData]
        cases store.carpool? with
        | none => exact h.answered
        | some carpool =>
          refine h.replied fun id hid => ?_
          obtain ⟨passenger, -, hpassenger⟩ := List.mem_map.mp hid
          cases hpassenger
      | driverCarpool =>
        simp only [handle, carpoolData]
        cases hcarpool : store.carpool? with
        | none => exact h.answered
        | some carpool =>
          refine h.replied fun id hid => ?_
          cases List.mem_singleton.mp hid
          exact ⟨carpool, hcarpool, rfl⟩
      | passenger id =>
        simp only [handle, userData]
        cases store.user? id with
        | none => exact h.answered
        | some passenger => exact (h.collects passenger).answered
      | driver id =>
        simp only [handle, userData]
        cases huser : store.user? id with
        | none => exact h.answered
        | some driver =>
          obtain ⟨carpool, hcarpool, rfl⟩ := h.reads id hmem
          exact (h.queues ⟨carpool, hcarpool, huser⟩).answered

/-- So it is in every run. -/
theorem drawn_of_run (htype : tribe.type = "carpool")
    (hrun : run (step store) (fetchDriverAndPassengers tribe currentUser) es = some x) :
    Drawn store x :=
  run_invariant (fun _ _ _ h hstep => h.step hstep) (drawn_fetchDriverAndPassengers htype) hrun

/-- The passengers shown are stored passengers of the carpool, of whom none comes twice. -/
theorem exists_ids_of_run (htype : tribe.type = "carpool")
    (hrun : run (step store) (fetchDriverAndPassengers tribe currentUser) es = some x)
    {carpool : Carpool} (hcarpool : store.carpool? = some carpool) :
    ∃ ids : List UserID, ids.Subperm carpool.passengers ∧
      ids.map store.user? = x.state.passengers.map some := by
  have htraced := traced_of_run htype hrun
  obtain ⟨rest, hrest⟩ := (drawn_of_run htype hrun).passengers
  refine ⟨(arrived store x.answers).take x.state.passengers.length,
    (List.take_sublist _ _).subperm.trans (arrived_subperm htype hrun hcarpool), ?_⟩
  rw [List.map_take, htraced.collected, ← hrest, List.map_append]
  exact List.take_left' (List.length_map some)

/-- At any moment, a route that a tap opens leads from the stored driver past stored passengers to
the destination. -/
theorem opened_route {string : Double → String} (hstring : PrintsPlain string)
    (htype : tribe.type = "carpool")
    (hrun : run (step store) (fetchDriverAndPassengers tribe currentUser) es = some x)
    {items : List QueryItem} (hopen : x.state.startRouteButtonTapped string tribe = .opens items) :
    LeadsPastPassengers string store tribe items := by
  have hmeetup : ¬ tribe.type = "meetup" := by
    rw [htype]
    decide
  cases hdriver : x.state.driver with
  | none =>
    simp only [startRouteButtonTapped, hdriver, reduceCtorEq] at hopen
  | some driver =>
    have hitems : createCarpoolRoute string tribe driver x.state.passengers = some items := by
      simp only [startRouteButtonTapped, hdriver, if_neg hmeetup] at hopen
      split at hopen
      · cases hopen
      · next items' hitems =>
        cases hopen
        exact hitems
    obtain ⟨carpool, hcarpool, hstored⟩ := (drawn_of_run htype hrun).driver driver hdriver
    obtain ⟨ids, hids, husers⟩ := exists_ids_of_run htype hrun hcarpool
    obtain ⟨origin, destination, waypoints, horigin, hdestination, hwaypoints, rfl⟩ :=
      createCarpoolRoute_eq_some hitems
    obtain ⟨hfrom, rfl⟩ := coordinates_eq_some horigin
    obtain ⟨hto, rfl⟩ := coordinates_eq_some hdestination
    obtain ⟨hstops, rfl⟩ := stopsCoordinates_eq_some hwaypoints
    -- The stops are those of the passengers who had been read at the tap.
    refine ⟨carpool, driver, ids, x.state.passengers, _, _, _, hcarpool, hstored, hids, husers, rfl,
      hstring.parts_written hfrom, hstring.parts_written hto, fun hnil => ?_, fun hne => ?_⟩
    · rw [hnil]
      rfl
    · have htwo : ∀ location ∈ x.state.passengers.map fun passenger =>
          passenger.lastCurrentLocation.take 2, location.length = 2 := by
        intro location hlocation
        obtain ⟨passenger, hmem, rfl⟩ := List.mem_map.mp hlocation
        exact hstops passenger hmem
      have hparts := hstring.parts_stops (fun hnil => hne (List.map_eq_nil_iff.mp hnil)) htwo
      rw [List.map_map, List.map_map] at hparts
      exact hparts

end Run

/-- Everybody is read, and a tap opens a route. -/
theorem opened_route_allReads :
    ∃ x items, run (step ridersStore) (fetchDriverAndPassengers toPlace (some (User.signedUp "a")))
        allReads = some x ∧
      x.state.startRouteButtonTapped printed toPlace = .opens items ∧
      LeadsPastPassengers printed ridersStore toPlace items := by
  have hrun : ∃ x items, run (step ridersStore)
        (fetchDriverAndPassengers toPlace (some (User.signedUp "a"))) allReads = some x ∧
      x.state.startRouteButtonTapped printed toPlace = .opens items := ⟨_, _, rfl, rfl⟩
  obtain ⟨x, items, hrun, hopen⟩ := hrun
  exact ⟨x, items, hrun, hopen, opened_route printed_plain rfl hrun hopen⟩

end RouteScreen

end DriveTribe
