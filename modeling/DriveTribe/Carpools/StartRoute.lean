import DriveTribe.Base.Requests
import DriveTribe.Helper.Waypoints
import DriveTribe.Relations.Operations

/-!
# Starting a route from the chat

`ChatViewController.swift:59–70`, `:139–170`, `CarpoolController.swift:191–235`. The screen reads
the carpool twice, once for its passengers and once for its driver, and then everybody's document.
Each passenger that arrives is delivered with all that have arrived before, by a block on the main
queue; the button asks for the driver only.
-/

namespace DriveTribe

open Base RouteCreator

/-- What is stored of the carpool and of the users. -/
structure RouteStore where
  document : Option CarpoolDocument
  users : Users

namespace RouteStore

/-- The carpool that is read. -/
def carpool? (store : RouteStore) : Option Carpool := store.document.bind Carpool.ofDocument

/-- The user that is read. -/
def user? (store : RouteStore) (id : UserID) : Option User := (store.users id).bind User.ofDocument

end RouteStore

/-- A read of the screen: the carpool and then its passengers, the carpool and then its driver. -/
inductive RouteRead where
  | passengersCarpool
  | passenger (id : UserID)
  | driverCarpool
  | driver (id : UserID)
  deriving DecidableEq, Repr

/-- The passenger a read is of. -/
def RouteRead.passenger? : RouteRead → Option UserID
  | .passenger id => some id
  | _ => none

/-- A block on the main queue. -/
inductive RouteBlock where
  | passengers (arrived : List User)
  | driver (arrived : User)
  deriving DecidableEq, Repr

/-- The passengers a block brings. -/
def RouteBlock.passengers? : RouteBlock → Option (List User)
  | .passengers arrived => some arrived
  | .driver _ => none

/-- The screen, with the passengers that have arrived and the blocks on the main queue. -/
structure RouteScreen where
  driver : Option User := none
  passengers : List User := []
  collected : List User := []
  queue : List RouteBlock := []
  deriving DecidableEq, Repr

namespace RouteScreen

/-- Handle a carpool that is read. `CarpoolController.swift:197–198`, `:221–222`. -/
def carpoolData (store : RouteStore) (s : RouteScreen) (reads : Carpool → List RouteRead) :
    Reply RouteScreen RouteRead NetworkError :=
  match store.carpool? with
  | none => { state := s, calls := [.noData] }
  | some carpool => { state := s, requests := reads carpool }

/-- Handle a user that is read. `CarpoolController.swift:207–210`, `:229–231`. -/
def userData (store : RouteStore) (s : RouteScreen) (id : UserID) (deliver : User → RouteScreen) :
    Reply RouteScreen RouteRead NetworkError :=
  match store.user? id with
  | none => { state := s, calls := [.noData] }
  | some user => { state := deliver user }

/-- `CarpoolController.swift:191–235`. A read that succeeds yields what is stored. -/
def handle (store : RouteStore) (s : RouteScreen) (read : RouteRead) (error : Option String) :
    Reply RouteScreen RouteRead NetworkError :=
  match error, read with
  | some error, _ => { state := s, calls := [.thrownError error] }
  | none, .passengersCarpool => s.carpoolData store fun carpool => carpool.passengers.map .passenger
  | none, .passenger id => s.userData store id fun passenger =>
    let passengers := s.collected ++ [passenger]
    { s with collected := passengers, queue := s.queue ++ [.passengers passengers] }
  | none, .driverCarpool => s.carpoolData store fun carpool => [.driver carpool.driver]
  | none, .driver id => s.userData store id fun driver =>
    { s with queue := s.queue ++ [.driver driver] }

/-- The main queue runs its next block. `ChatViewController.swift:150–152`, `:162–165`. -/
def runMain (s : RouteScreen) : RouteScreen :=
  match s.queue with
  | [] => s
  | .passengers passengers :: rest => { s with passengers, queue := rest }
  | .driver driver :: rest => { s with driver := some driver, queue := rest }

/-- A read is answered, or the main queue runs its next block. -/
def step (store : RouteStore) : Requests RouteScreen RouteRead (Option String) NetworkError →
    RequestEvent (Option String) Unit →
      Option (Requests RouteScreen RouteRead (Option String) NetworkError) :=
  Requests.step (handle store) fun s _ => s.runMain

/-- `ChatViewController.swift:139–170`. -/
def fetchDriverAndPassengers (tribe : Carpool) (currentUser : Option User) :
    Requests RouteScreen RouteRead (Option String) NetworkError :=
  match currentUser with
  | none => { state := {}, outstanding := [] }
  | some me =>
    if tribe.type = "meetup" then { state := { driver := some me }, outstanding := [] }
    else { state := {}, outstanding := [.passengersCarpool, .driverCarpool] }

/-- What a tap does. -/
inductive RouteTap where
  /-- A subscript is out of range. -/
  | traps
  | opensNothing
  | opens (items : List QueryItem)
  deriving DecidableEq, Repr

/-- `ChatViewController.swift:59–70`. -/
def startRouteButtonTapped (string : Double → String) (tribe : Carpool) (s : RouteScreen) :
    RouteTap :=
  match s.driver with
  | none => .opensNothing
  | some driver =>
    let items :=
      if tribe.type = "meetup" then createMeetupRoute string tribe driver
      else createCarpoolRoute string tribe driver s.passengers
    match items with
    | none => .traps
    | some items => .opens items

/-- The waypoints are those of a route past all passengers of the stored carpool, in some order. -/
def PicksUpAll (string : Double → String) (store : RouteStore) (items : List QueryItem) : Prop :=
  ∃ (carpool : Carpool) (ids : List UserID) (passengers : List User) (waypoints : String),
    store.carpool? = some carpool ∧ ids.Perm carpool.passengers ∧
    ids.map store.user? = passengers.map some ∧
    stopsCoordinates string passengers = some waypoints ∧ ⟨"waypoints", some waypoints⟩ ∈ items

/-- A tap opens nothing, or a route that picks up every passenger. -/
def TapRight (string : Double → String) (store : RouteStore) (tribe : Carpool) (s : RouteScreen) :
    Prop :=
  match s.startRouteButtonTapped string tribe with
  | .traps => False
  | .opensNothing => True
  | .opens items => PicksUpAll string store items

/-- The passengers who wait on the main queue. -/
def waiting (s : RouteScreen) : List (List User) := s.queue.filterMap RouteBlock.passengers?

end RouteScreen

/-- An answered read of the screen. -/
abbrev RouteAnswer := Answered RouteScreen RouteRead (Option String)

/-- The passengers whose reads have succeeded, in the order of the answers. -/
def arrived (store : RouteStore) (as : List RouteAnswer) : List UserID :=
  (as.filter fun a => a.answer = none ∧ (a.request.passenger?.bind store.user?).isSome).filterMap
    fun a => a.request.passenger?

/-- The read of every passenger has succeeded and been delivered, and everybody on the route has
two coordinates. -/
def AllDelivered (store : RouteStore) (tribe : Carpool) (driver : User)
    (x : Requests RouteScreen RouteRead (Option String) NetworkError) : Prop :=
  ∃ carpool, store.carpool? = some carpool ∧
    (arrived store x.answers).Perm carpool.passengers ∧ x.state.waiting = [] ∧
    2 ≤ driver.lastCurrentLocation.length ∧ 2 ≤ tribe.destination.length ∧
    ∀ id ∈ carpool.passengers, ∀ user, store.user? id = some user →
      2 ≤ user.lastCurrentLocation.length

/-! ### How many stops a route has -/

namespace RouteCreator

variable {string : Double → String}

private theorem count_appendStops (hcomma : ∀ x, ',' ∉ (string x).toList) {passengers : List User}
    {stops text : String} (h : appendStops string stops passengers = some text) :
    text.toList.count ',' = stops.toList.count ',' + passengers.length := by
  induction passengers generalizing stops with
  | nil =>
    rw [appendStops, Option.some.injEq] at h
    rw [h, List.length_nil, Nat.add_zero]
  | cons passenger passengers ih =>
    rw [appendStops, Option.bind_eq_bind] at h
    obtain ⟨stop, hstop, h⟩ := Option.bind_eq_some_iff.mp h
    simp only [coordinates, Option.bind_eq_bind, Option.bind_eq_some_iff, Option.pure_def,
      Option.some.injEq] at hstop
    obtain ⟨latitude, -, longitude, -, rfl⟩ := hstop
    rw [ih h, List.length_cons]
    simp only [String.toList_append, List.count_append,
      List.count_eq_zero_of_not_mem (hcomma latitude),
      List.count_eq_zero_of_not_mem (hcomma longitude)]
    have hseparators : ",".toList.count ',' = 1 ∧ "|".toList.count ',' = 0 := by decide
    rw [hseparators.1, hseparators.2]
    omega

private theorem count_dropBar (text : String) :
    (dropBar text).toList.count ',' = text.toList.count ',' := by
  rw [dropBar]
  split
  · next hlast =>
    obtain ⟨before, hbefore⟩ := List.getLast?_eq_some_iff.mp hlast
    rw [String.toList_ofList, hbefore, List.dropLast_concat, List.count_append]
    simp
  · rfl

/-- So the waypoints tell how many stops there are. -/
theorem count_stopsCoordinates (hcomma : ∀ x, ',' ∉ (string x).toList) {passengers : List User}
    {waypoints : String} (h : stopsCoordinates string passengers = some waypoints) :
    waypoints.toList.count ',' = passengers.length := by
  obtain ⟨text, htext, rfl⟩ := Option.map_eq_some_iff.mp h
  rw [count_dropBar, count_appendStops hcomma htext]
  simp

end RouteCreator

/-! ### What the screen shows of what has arrived -/

/-- From what is shown, each list that waits is longer than the one before, up to all that has
been collected. -/
def Growing (collected : List User) : List User → List (List User) → Prop
  | shown, [] => shown = collected
  | shown, next :: rest => shown.length < next.length ∧ Growing collected next rest

/-- One more list is put at the end. -/
theorem Growing.concat {collected more shown : List User} {lists : List (List User)}
    (h : Growing collected shown lists) (hmore : collected.length < more.length) :
    Growing more shown (lists ++ [more]) := by
  induction lists generalizing shown with
  | nil =>
    rw [Growing] at h
    subst h
    exact ⟨hmore, rfl⟩
  | cons next rest ih => exact ⟨h.1, ih h.2⟩

/-- As long as a list waits, somebody is missing. -/
theorem Growing.length_le {collected shown : List User} {lists : List (List User)}
    (h : Growing collected shown lists) : shown.length + lists.length ≤ collected.length := by
  induction lists generalizing shown with
  | nil =>
    rw [Growing] at h
    exact h ▸ Nat.le_refl _
  | cons next rest ih =>
    have hnext := ih h.2
    have hlt := h.1
    rw [List.length_cons]
    omega

namespace RouteScreen

variable {store : RouteStore}

/-- What has been collected are the passengers that have arrived, and what is shown leads up to
it. -/
structure Traced (store : RouteStore) (as : List RouteAnswer) (s : RouteScreen) : Prop where
  collected : (arrived store as).map store.user? = s.collected.map some
  growing : Growing s.collected s.passengers s.waiting

/-- At first nobody has arrived. -/
theorem traced_start (store : RouteStore) : Traced store [] {} where
  collected := rfl
  growing := by
    change Growing [] [] []
    rw [Growing]

private theorem arrived_concat (as : List RouteAnswer) (a : RouteAnswer) :
    arrived store (as ++ [a]) = arrived store as ++ arrived store [a] := by
  rw [arrived, arrived, arrived, List.filter_append, List.filterMap_append]

/-- An answer that brings no passenger changes neither what has arrived nor what is shown. -/
theorem Traced.of_eq {as : List RouteAnswer} {s t : RouteScreen} {a : RouteAnswer}
    (h : Traced store as s) (harrived : arrived store [a] = [])
    (hcollected : t.collected = s.collected) (hpassengers : t.passengers = s.passengers)
    (hwaiting : t.waiting = s.waiting) : Traced store (as ++ [a]) t := by
  constructor
  · rw [arrived_concat, harrived, List.append_nil, hcollected]
    exact h.collected
  · rw [hcollected, hpassengers, hwaiting]
    exact h.growing

private theorem Traced.arrives {as : List RouteAnswer} {s : RouteScreen} (h : Traced store as s)
    {id : UserID} {passenger : User} (huser : store.user? id = some passenger) :
    Traced store (as ++ [⟨.passenger id, none, s⟩])
      { s with
        collected := s.collected ++ [passenger]
        queue := s.queue ++ [.passengers (s.collected ++ [passenger])] } := by
  constructor
  · have hone : arrived store [⟨.passenger id, none, s⟩] = [id] := by
      simp [arrived, RouteRead.passenger?, huser]
    rw [arrived_concat, hone, List.map_append, List.map_append, h.collected, List.map_singleton,
      List.map_singleton, huser]
  · have hwaiting : waiting { s with
        collected := s.collected ++ [passenger]
        queue := s.queue ++ [.passengers (s.collected ++ [passenger])] } =
          s.waiting ++ [s.collected ++ [passenger]] := by
      simp [waiting, RouteBlock.passengers?]
    rw [hwaiting]
    apply h.growing.concat
    simp

/-- Every answer keeps track. -/
theorem Traced.answered {as : List RouteAnswer} {s : RouteScreen} (h : Traced store as s)
    (read : RouteRead) (error : Option String) :
    Traced store (as ++ [⟨read, error, s⟩]) (handle store s read error).state := by
  cases error with
  | some error =>
    exact h.of_eq (by simp [arrived]) rfl rfl rfl
  | none =>
    cases read with
    | passengersCarpool | driverCarpool =>
      simp only [handle, carpoolData]
      cases store.carpool? <;> exact h.of_eq (by simp [arrived, RouteRead.passenger?]) rfl rfl rfl
    | passenger id =>
      simp only [handle, userData]
      cases huser : store.user? id with
      | none => exact h.of_eq (by simp [arrived, RouteRead.passenger?, huser]) rfl rfl rfl
      | some passenger => exact h.arrives huser
    | driver id =>
      simp only [handle, userData]
      cases store.user? id with
      | none => exact h.of_eq (by simp [arrived, RouteRead.passenger?]) rfl rfl rfl
      | some driver =>
        exact h.of_eq (by simp [arrived, RouteRead.passenger?]) rfl rfl
          (by simp [waiting, RouteBlock.passengers?])

/-- So does every block of the main queue. -/
theorem Traced.runMain {as : List RouteAnswer} {s : RouteScreen} (h : Traced store as s) :
    Traced store as s.runMain := by
  have hgrowing := h.growing
  rw [RouteScreen.runMain]
  split
  · exact h
  · next passengers rest hqueue =>
    rw [waiting, hqueue, List.filterMap_cons_some (by rfl)] at hgrowing
    exact ⟨h.collected, hgrowing.2⟩
  · next driver rest hqueue =>
    rw [waiting, hqueue, List.filterMap_cons_none (by rfl)] at hgrowing
    exact ⟨h.collected, hgrowing⟩

/-! ### Nobody arrives twice -/

private theorem passengers_reply {carpool : Carpool} (hcarpool : store.carpool? = some carpool)
    (s : RouteScreen) (read : RouteRead) (error : Option String) :
    (handle store s read error).requests.filterMap RouteRead.passenger? =
      if read = .passengersCarpool ∧ error = none then carpool.passengers else [] := by
  cases error with
  | some error => simp [handle]
  | none =>
    cases read with
    | passengersCarpool =>
      simp [handle, carpoolData, hcarpool, List.filterMap_map, Function.comp_def,
        RouteRead.passenger?]
    | driverCarpool => simp [handle, carpoolData, hcarpool, RouteRead.passenger?]
    | passenger id | driver id =>
      simp only [handle, userData]
      cases store.user? id <;> simp

private theorem passengersCarpool_notMem (s : RouteScreen) (read : RouteRead)
    (error : Option String) :
    RouteRead.passengersCarpool ∉ (handle store s read error).requests := by
  cases error with
  | some error => simp [handle]
  | none =>
    cases read with
    | passengersCarpool | driverCarpool =>
      simp only [handle, carpoolData]
      cases store.carpool? <;> simp
    | passenger id | driver id =>
      simp only [handle, userData]
      cases store.user? id <;> simp

section Run
variable {tribe : Carpool} {currentUser : Option User}
  {es : List (RequestEvent (Option String) Unit)}
  {x : Requests RouteScreen RouteRead (Option String) NetworkError}

private theorem fetchDriverAndPassengers_eq (currentUser : Option User)
    (htype : tribe.type = "carpool") :
    ∃ rs : List RouteRead, fetchDriverAndPassengers tribe currentUser = ⟨{}, rs, [], []⟩ ∧
      rs.countP (· = .passengersCarpool) ≤ 1 ∧ rs.filterMap RouteRead.passenger? = [] := by
  cases currentUser with
  | none => exact ⟨[], rfl, by decide, rfl⟩
  | some me =>
    refine ⟨[.passengersCarpool, .driverCarpool], ?_, by decide, rfl⟩
    rw [fetchDriverAndPassengers, htype]
    rfl

/-- After every run what is shown leads up to what has arrived. -/
theorem traced_of_run (htype : tribe.type = "carpool")
    (h : run (step store) (fetchDriverAndPassengers tribe currentUser) es = some x) :
    Traced store x.answers x.state := by
  obtain ⟨rs, hstart, -⟩ := fetchDriverAndPassengers_eq currentUser htype
  rw [hstart] at h
  exact Requests.run_cases (motive := fun _ as s => Traced store as s) (traced_start store)
    (fun _ _ _ _ read error hs => hs.answered read error) (fun _ _ _ _ hs => hs.runMain) h

/-- Each passenger's document is read once. -/
theorem arrived_subperm (htype : tribe.type = "carpool")
    (h : run (step store) (fetchDriverAndPassengers tribe currentUser) es = some x)
    {carpool : Carpool} (hcarpool : store.carpool? = some carpool) :
    (arrived store x.answers).Subperm carpool.passengers := by
  obtain ⟨rs, hstart, hone, hrs⟩ := fetchDriverAndPassengers_eq currentUser htype
  rw [hstart] at h
  have hperm := Requests.requests_perm h
  have honce : x.answers.countP (·.request = .passengersCarpool) ≤ 1 := by
    have hcount := hperm.countP_eq (p := (· = .passengersCarpool))
    have hreplies : (x.answers.flatMap fun a => (Requests.reply (handle store) a).requests).countP
        (· = .passengersCarpool) = 0 := by
      rw [List.countP_eq_zero]
      intro read hread
      obtain ⟨a, -, hmem⟩ := List.mem_flatMap.mp hread
      rintro hcarpool
      exact passengersCarpool_notMem a.state a.request a.answer (of_decide_eq_true hcarpool ▸ hmem)
    rw [List.countP_append, List.countP_append, hreplies, List.countP_map] at hcount
    simp only [Function.comp_def] at hcount
    omega
  have hreads := hperm.filterMap RouteRead.passenger?
  rw [List.filterMap_append, List.filterMap_append, hrs, List.nil_append, List.filterMap_map,
    List.filterMap_flatMap] at hreads
  have hsent : (x.answers.flatMap fun a =>
      (Requests.reply (handle store) a).requests.filterMap RouteRead.passenger?).Subperm
        carpool.passengers := by
    refine flatMap_subperm honce (fun a => ?_) (fun a ha => ?_)
    · rw [Requests.reply, passengers_reply hcarpool]
      split
      · exact .inl rfl
      · exact .inr rfl
    · rw [Requests.reply, passengers_reply hcarpool, if_neg]
      exact fun hread => of_decide_eq_false ha hread.1
  have harrived : (arrived store x.answers).Sublist
      (x.answers.filterMap (RouteRead.passenger? ∘ Answered.request)) :=
    List.filter_sublist.filterMap _
  exact (harrived.subperm.trans ((List.sublist_append_left _ _).subperm)).trans
    (hreads.subperm.trans hsent)

end Run

/-! ### When a tap is right -/

private theorem mem_createCarpoolRoute {string : Double → String} {tribe : Carpool} {driver : User}
    {passengers : List User} {items : List QueryItem}
    (h : createCarpoolRoute string tribe driver passengers = some items) (waypoints : String) :
    ⟨"waypoints", some waypoints⟩ ∈ items ↔
      stopsCoordinates string passengers = some waypoints := by
  rw [createCarpoolRoute_eq] at h
  obtain ⟨meetup, hmeetup, h⟩ := Option.bind_eq_some_iff.mp h
  obtain ⟨stops, hstops, rfl⟩ := Option.map_eq_some_iff.mp h
  rw [List.mem_append, or_iff_right (waypoints_notMem hmeetup _), List.mem_singleton, hstops]
  simp [eq_comm]

private theorem Traced.mem_collected {as : List RouteAnswer} {s : RouteScreen}
    (h : Traced store as s) (user : User) :
    user ∈ s.collected ↔ ∃ id ∈ arrived store as, store.user? id = some user := by
  rw [← List.mem_map, h.collected, List.mem_map]
  simp

private theorem Traced.length_collected {as : List RouteAnswer} {s : RouteScreen}
    (h : Traced store as s) :
    s.collected.length = (arrived store as).length := by
  have hlen := congrArg List.length h.collected
  rw [List.length_map, List.length_map] at hlen
  exact hlen.symm

section Tap
variable {string : Double → String} {tribe : Carpool} {currentUser : Option User}
  {es : List (RequestEvent (Option String) Unit)}
  {x : Requests RouteScreen RouteRead (Option String) NetworkError}

private theorem tapRight_of_none {s : RouteScreen} (h : s.driver = none) :
    s.TapRight string store tribe := by
  simp only [TapRight, startRouteButtonTapped, h]

/-- Then it opens a route past whom it shows, unless somebody has no coordinates. -/
theorem tapRight_iff_exists {s : RouteScreen} {driver : User} (htype : tribe.type = "carpool")
    (h : s.driver = some driver) : s.TapRight string store tribe ↔
      ∃ items, createCarpoolRoute string tribe driver s.passengers = some items ∧
        PicksUpAll string store items := by
  have hmeetup : ¬ tribe.type = "meetup" := by
    rw [htype]
    decide
  simp only [TapRight, startRouteButtonTapped, h, if_neg hmeetup]
  cases createCarpoolRoute string tribe driver s.passengers <;> simp

private theorem picksUpAll_of_allDelivered (htraced : Traced store x.answers x.state)
    {driver : User} (h : AllDelivered store tribe driver x) :
    ∃ items, createCarpoolRoute string tribe driver x.state.passengers = some items ∧
      PicksUpAll string store items := by
  obtain ⟨carpool, hcarpool, hperm, hwaiting, hdriver, hdestination, hpassengers⟩ := h
  have hshown : x.state.passengers = x.state.collected := by
    have hgrowing := htraced.growing
    rw [hwaiting, Growing] at hgrowing
    exact hgrowing
  have hcoordinates : ∀ passenger ∈ x.state.passengers,
      2 ≤ passenger.lastCurrentLocation.length := by
    intro passenger hmem
    rw [hshown] at hmem
    obtain ⟨id, hid, huser⟩ := (htraced.mem_collected passenger).mp hmem
    exact hpassengers id (hperm.subset hid) passenger huser
  obtain ⟨items, hitems⟩ := Option.isSome_iff_exists.mp
    ((createCarpoolRoute_isSome string tribe driver x.state.passengers).mpr
      ⟨hdriver, hdestination, hcoordinates⟩)
  obtain ⟨stops, hstops⟩ := Option.isSome_iff_exists.mp
    ((appendStops_isSome string "" x.state.passengers).mpr hcoordinates)
  have hwaypoints : stopsCoordinates string x.state.passengers = some (dropBar stops) := by
    rw [stopsCoordinates, hstops, Option.map_some]
  refine ⟨items, hitems, carpool, _, _, _, hcarpool, hperm, htraced.collected, ?_,
    (mem_createCarpoolRoute hitems _).mpr hwaypoints⟩
  rw [← hshown]
  exact hwaypoints

private theorem allDelivered_of_picksUpAll (hcomma : ∀ x, ',' ∉ (string x).toList)
    (htraced : Traced store x.answers x.state)
    (honce : ∀ carpool, store.carpool? = some carpool →
      (arrived store x.answers).Subperm carpool.passengers)
    {driver : User} {items : List QueryItem}
    (hitems : createCarpoolRoute string tribe driver x.state.passengers = some items)
    (h : PicksUpAll string store items) : AllDelivered store tribe driver x := by
  obtain ⟨carpool, ids, passengers, waypoints, hcarpool, hperm, hids, hstops, hmem⟩ := h
  have hshown := (mem_createCarpoolRoute hitems waypoints).mp hmem
  have hlength : x.state.passengers.length = carpool.passengers.length := by
    have hsame := congrArg List.length hids
    rw [List.length_map, List.length_map] at hsame
    rw [← count_stopsCoordinates hcomma hshown, count_stopsCoordinates hcomma hstops, ← hsame,
      hperm.length_eq]
  have hsubperm := honce carpool hcarpool
  have hgrowing := htraced.growing.length_le
  have hcollected := htraced.length_collected
  have harrived := hsubperm.length_le
  have hwaiting : x.state.waiting = [] := List.eq_nil_of_length_eq_zero (by omega)
  have hall : (arrived store x.answers).Perm carpool.passengers :=
    hsubperm.perm_of_length_le (by omega)
  obtain ⟨hdriver, hdestination, hpassengers⟩ :=
    (createCarpoolRoute_isSome string tribe driver x.state.passengers).mp
      (Option.isSome_iff_exists.mpr ⟨items, hitems⟩)
  refine ⟨carpool, hcarpool, hall, hwaiting, hdriver, hdestination, fun id hid user huser => ?_⟩
  apply hpassengers
  have hsame := htraced.growing
  rw [hwaiting, Growing] at hsame
  rw [hsame]
  exact (htraced.mem_collected user).mpr ⟨id, hall.symm.subset hid, huser⟩

/-- At any moment, a tap opens nothing or a route that picks up every passenger exactly if the
driver is not there yet, or every passenger has been read and delivered and everybody on the
route has two coordinates. -/
theorem tapRight_iff (hstring : PrintsPlain string) (htype : tribe.type = "carpool")
    (h : run (step store) (fetchDriverAndPassengers tribe currentUser) es = some x) :
    x.state.TapRight string store tribe ↔
      ∀ driver, x.state.driver = some driver → AllDelivered store tribe driver x := by
  have htraced := traced_of_run htype h
  cases hdriver : x.state.driver with
  | none => exact iff_of_true (tapRight_of_none hdriver) (fun driver hnone => by cases hnone)
  | some driver =>
    rw [tapRight_iff_exists htype hdriver]
    simp only [Option.some.injEq, forall_eq']
    constructor
    · rintro ⟨items, hitems, hall⟩
      exact allDelivered_of_picksUpAll hstring.comma htraced
        (fun carpool hcarpool => arrived_subperm htype h hcarpool) hitems hall
    · exact picksUpAll_of_allDelivered htraced

end Tap

/-- The carpool of `a` with the passengers `b` and `c`, who are at the places of the riders. -/
def ridersStore : RouteStore where
  document := some { toPlace with passengers := ["b", "c"] }.toDocument
  users id := ((located "a" ⟨0⟩ ⟨0⟩ :: riders).find? fun user => user.uuid = id).map
    User.toDocument

/-- The driver is read and delivered. -/
def driverReads : List (RequestEvent (Option String) Unit) :=
  [.answered 1 none, .answered 1 none, .background ()]

/-- After that, all passengers are. -/
def allReads : List (RequestEvent (Option String) Unit) :=
  driverReads ++ [.answered 0 none, .answered 1 none, .answered 0 none, .background (),
    .background ()]

/-- Once all are delivered, a tap is right. -/
theorem tapRight_allReads :
    ∃ x, run (step ridersStore) (fetchDriverAndPassengers toPlace (some (User.signedUp "a")))
        allReads = some x ∧ x.state.TapRight printed ridersStore toPlace := by
  obtain ⟨x, hrun, h⟩ := exists_run_of_any (step ridersStore)
    (fetchDriverAndPassengers toPlace (some (User.signedUp "a"))) allReads
    (fun x => decide (x.state.driver = some (located "a" ⟨0⟩ ⟨0⟩)) &&
      decide (arrived ridersStore x.answers = ["c", "b"]) && decide (x.state.waiting = []))
    (by decide)
  simp only [Bool.and_eq_true, decide_eq_true_eq] at h
  obtain ⟨⟨hdriver, harrived⟩, hwaiting⟩ := h
  refine ⟨x, hrun, (tapRight_iff printed_plain rfl hrun).mpr fun driver hsome => ?_⟩
  rw [hdriver, Option.some.injEq] at hsome
  subst hsome
  have hlocated : ∀ id ∈ ["b", "c"], ∀ user ∈ ridersStore.user? id,
      2 ≤ user.lastCurrentLocation.length := by decide
  refine ⟨_, rfl, ?_, hwaiting, by decide, by decide, hlocated⟩
  rw [harrived]
  decide

/-- Once only the driver is, the route that is opened has no stop. -/
theorem not_tapRight :
    ¬ ∀ (string : Double → String) (store : RouteStore) (tribe : Carpool)
      (currentUser : Option User) (es : List (RequestEvent (Option String) Unit))
      (x : Requests RouteScreen RouteRead (Option String) NetworkError),
      PrintsPlain string → tribe.type = "carpool" →
      run (step store) (fetchDriverAndPassengers tribe currentUser) es = some x →
      x.state.TapRight string store tribe := by
  intro hall
  obtain ⟨x, hrun, h⟩ := exists_run_of_any (step ridersStore)
    (fetchDriverAndPassengers toPlace (some (User.signedUp "a"))) driverReads
    (fun x => decide (x.state.driver = some (located "a" ⟨0⟩ ⟨0⟩)) &&
      decide (x.state.passengers = [])) (by decide)
  rw [Bool.and_eq_true, decide_eq_true_eq, decide_eq_true_eq] at h
  obtain ⟨items, hitems, hpicks⟩ :=
    (tapRight_iff_exists rfl h.1).mp (hall _ _ _ _ _ x printed_plain rfl hrun)
  obtain ⟨carpool, ids, passengers, waypoints, hcarpool, hperm, hids, hstops, hmem⟩ := hpicks
  have hshown := (mem_createCarpoolRoute hitems waypoints).mp hmem
  rw [h.2] at hshown
  have hlength := congrArg List.length hids
  rw [List.length_map, List.length_map, hperm.length_eq,
    ← count_stopsCoordinates printed_plain.comma hstops,
    count_stopsCoordinates printed_plain.comma hshown] at hlength
  obtain rfl := Option.some.inj hcarpool
  cases hlength

end RouteScreen

end DriveTribe
