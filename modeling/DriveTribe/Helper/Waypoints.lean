import DriveTribe.Base.Separated
import DriveTribe.Helper.RouteCreator

/-!
# The waypoints of a route

`RouteCreator.swift:40–50`. The loop writes a bar after each stop and a comma between the two
coordinates of a stop, and the last bar is dropped. As no coordinate is printed with either, the
stops can be read back, so the waypoints tell which stops there are.
-/

namespace DriveTribe

open Base

namespace RouteCreator

/-- What `String(_:)` prints of a coordinate: at least one character, and no separator. -/
structure PrintsPlain (string : Double → String) : Prop where
  nonempty : ∀ x, string x ≠ ""
  comma : ∀ x, ',' ∉ (string x).toList
  bar : ∀ x, '|' ∉ (string x).toList

variable (string : Double → String)

/-- The waypoints of a route past the passengers. `RouteCreator.swift:40–48`. -/
def stopsCoordinates (passengers : List User) : Option String :=
  (appendStops string "" passengers).map dropBar

/-- The coordinates of a location as they are written into a route. -/
def written (location : List Double) : String := ",".intercalate (location.map string)

/-! ### What the loop writes -/

section Loop
variable {string} {passengers : List User}

/-- Two coordinates are written with a comma between them. -/
theorem coordinates_eq {location : List Double} (h : location.length = 2) :
    coordinates string location = some (written string location) := by
  obtain ⟨latitude, longitude, rfl⟩ := List.length_eq_two.mp h
  simp [coordinates, written]

private theorem appendStops_eq (stops : String)
    (h : ∀ passenger ∈ passengers, passenger.lastCurrentLocation.length = 2) :
    appendStops string stops passengers = some (stops ++ String.join
      (passengers.map fun passenger => written string passenger.lastCurrentLocation ++ "|")) := by
  induction passengers generalizing stops with
  | nil => simp [appendStops]
  | cons passenger passengers ih =>
    obtain ⟨hpassenger, hrest⟩ := List.forall_mem_cons.mp h
    rw [appendStops, coordinates_eq hpassenger, Option.bind_eq_bind, Option.bind_some, ih _ hrest,
      List.map_cons, String.join_cons, String.append_assoc]

private theorem dropBar_append (text : String) : dropBar (text ++ "|") = text := by
  have hlist : (text ++ "|").toList = text.toList ++ ['|'] := by
    rw [String.toList_append]
    rfl
  rw [dropBar, hlist, List.getLast?_concat, if_pos rfl, List.dropLast_concat, String.ofList_toList]

/-- So the waypoints are the stops with a bar between them. -/
theorem stopsCoordinates_eq
    (h : ∀ passenger ∈ passengers, passenger.lastCurrentLocation.length = 2) :
    stopsCoordinates string passengers = some ("|".intercalate
      (passengers.map fun passenger => written string passenger.lastCurrentLocation)) := by
  rw [stopsCoordinates, appendStops_eq "" h, Option.map_some, String.empty_append,
    Option.some.injEq]
  by_cases hne : passengers = []
  · subst hne
    rfl
  · have htexts : passengers.map (fun passenger => written string passenger.lastCurrentLocation) ≠
        [] := fun hnil => hne (List.map_eq_nil_iff.mp hnil)
    rw [← dropBar_append ("|".intercalate _), ← join_map_append htexts, List.map_map]
    rfl

end Loop

/-! ### Reading them back -/

section ReadBack
variable {string} {passengers : List User}

/-- A written location has no bar. -/
theorem PrintsPlain.bar_notMem (hstring : PrintsPlain string) {location : List Double}
    (h : location.length = 2) : '|' ∉ (written string location).toList := by
  obtain ⟨latitude, longitude, rfl⟩ := List.length_eq_two.mp h
  simp [written, hstring.bar]

/-- And its coordinates are read back. -/
theorem PrintsPlain.parts_written (hstring : PrintsPlain string) {location : List Double}
    (h : location.length = 2) : parts ',' (written string location) = location.map string := by
  have hne : location.map string ≠ [] := by
    intro hnil
    rw [List.map_eq_nil_iff.mp hnil] at h
    cases h
  apply parts_intercalate hne
  intro text htext
  obtain ⟨x, -, rfl⟩ := List.mem_map.mp htext
  exact hstring.comma x

private theorem PrintsPlain.written_ends (hstring : PrintsPlain string) {location : List Double}
    (h : location.length = 2) : written string location ≠ "" ∧
      (∃ x, (written string location).toList.head? = (string x).toList.head?) ∧
      ∃ y, (written string location).toList.getLast? = (string y).toList.getLast? := by
  obtain ⟨latitude, longitude, rfl⟩ := List.length_eq_two.mp h
  refine ⟨?_, ⟨latitude, head?_intercalate_cons (hstring.nonempty latitude) _⟩,
    ⟨longitude, getLast?_intercalate_concat (hstring.nonempty longitude) [string latitude]⟩⟩
  simp [written]

/-- Neither separator starts or ends the waypoints. -/
theorem PrintsPlain.ends (hstring : PrintsPlain string) (hne : passengers ≠ [])
    (h : ∀ passenger ∈ passengers, passenger.lastCurrentLocation.length = 2) {waypoints : String}
    (hwaypoints : stopsCoordinates string passengers = some waypoints) {c : Char}
    (hc : c = ',' ∨ c = '|') :
    waypoints.toList.head? ≠ some c ∧ waypoints.toList.getLast? ≠ some c := by
  have hplain : ∀ x, c ∉ (string x).toList := by
    intro x
    rcases hc with rfl | rfl
    · exact hstring.comma x
    · exact hstring.bar x
  rw [stopsCoordinates_eq h, Option.some.injEq] at hwaypoints
  subst hwaypoints
  constructor
  · intro hhead
    obtain ⟨passenger, rest, rfl⟩ := List.exists_cons_of_ne_nil hne
    obtain ⟨hwritten, ⟨x, hx⟩, -⟩ := hstring.written_ends (h passenger (List.mem_cons_self ..))
    rw [List.map_cons, head?_intercalate_cons hwritten, hx] at hhead
    exact hplain x (List.mem_of_head? hhead)
  · intro hlast
    obtain ⟨rest, passenger, rfl⟩ := (List.eq_nil_or_concat passengers).resolve_left hne
    obtain ⟨hwritten, -, y, hy⟩ := hstring.written_ends (h passenger (by simp))
    rw [List.concat_eq_append, List.map_append, List.map_singleton,
      getLast?_intercalate_concat hwritten, hy] at hlast
    exact hplain y (List.mem_of_getLast? hlast)

/-- The waypoints past some passengers with two coordinates each, split at the bars and then at
the commas, are these coordinates, and no separator starts or ends them. -/
theorem waypoints_readBack (hstring : PrintsPlain string) (hne : passengers ≠ [])
    (h : ∀ passenger ∈ passengers, passenger.lastCurrentLocation.length = 2) :
    ∃ waypoints, stopsCoordinates string passengers = some waypoints ∧
      (parts '|' waypoints).map (parts ',') =
        passengers.map (fun passenger => passenger.lastCurrentLocation.map string) ∧
      ∀ c, c = ',' ∨ c = '|' →
        waypoints.toList.head? ≠ some c ∧ waypoints.toList.getLast? ≠ some c := by
  refine ⟨_, stopsCoordinates_eq h, ?_, fun c hc => hstring.ends hne h (stopsCoordinates_eq h) hc⟩
  have hstops : passengers.map (fun passenger => written string passenger.lastCurrentLocation) ≠
      [] := fun hnil => hne (List.map_eq_nil_iff.mp hnil)
  have hbars : ∀ stop ∈ passengers.map fun passenger =>
      written string passenger.lastCurrentLocation, '|' ∉ stop.toList := by
    intro stop hstop
    obtain ⟨passenger, hpassenger, rfl⟩ := List.mem_map.mp hstop
    exact hstring.bar_notMem (h passenger hpassenger)
  have hsplit := parts_intercalate hstops hbars
  rw [show String.singleton '|' = "|" from rfl] at hsplit
  rw [hsplit, List.map_map]
  apply List.map_congr_left
  intro passenger hpassenger
  exact hstring.parts_written (h passenger hpassenger)

end ReadBack

/-- The user `id` at a place. -/
def located (id : UserID) (latitude longitude : Double) : User :=
  { User.signedUp id with lastCurrentLocation := [latitude, longitude] }

/-- How two coordinates are printed. -/
def printed (x : Double) : String := if x.bits = 0x3FF0000000000000 then "1.0" else "0.0"

/-- They are printed without separators. -/
theorem printed_plain : PrintsPlain printed := by
  constructor <;> intro x <;> rw [printed] <;> split <;> decide

/-- Two passengers. -/
def riders : List User :=
  [located "b" ⟨0x3FF0000000000000⟩ ⟨0⟩, located "c" ⟨0⟩ ⟨0x3FF0000000000000⟩]

/-- Their stops are read back. -/
theorem waypoints_readBack_riders :
    ∃ waypoints, stopsCoordinates printed riders = some waypoints ∧
      (parts '|' waypoints).map (parts ',') = [["1.0", "0.0"], ["0.0", "1.0"]] ∧
      ∀ c, c = ',' ∨ c = '|' →
        waypoints.toList.head? ≠ some c ∧ waypoints.toList.getLast? ≠ some c :=
  waypoints_readBack printed_plain (by decide) (by decide)

/-! ### With stops and without -/

section Paths
variable {string} {carpool : Carpool} {driver : User} {passengers : List User}

/-- A carpool route is a meetup route with waypoints, where the stops are read. -/
theorem createCarpoolRoute_eq (string : Double → String) (carpool : Carpool) (driver : User)
    (passengers : List User) : createCarpoolRoute string carpool driver passengers =
      (createMeetupRoute string carpool driver).bind fun items =>
        (stopsCoordinates string passengers).map fun stops =>
          items ++ [⟨"waypoints", some stops⟩] := by
  rw [stopsCoordinates]
  cases horigin : coordinates string driver.lastCurrentLocation with
  | none => simp [createCarpoolRoute, createMeetupRoute, horigin]
  | some origin =>
    cases hdestination : coordinates string carpool.destination with
    | none => simp [createCarpoolRoute, createMeetupRoute, horigin, hdestination]
    | some destination =>
      cases hstops : appendStops string "" passengers <;>
        simp [createCarpoolRoute, createMeetupRoute, horigin, hdestination, hstops,
          openGoogleMapsWith]

/-- A meetup route has no waypoints. -/
theorem waypoints_notMem {items : List QueryItem}
    (h : createMeetupRoute string carpool driver = some items) (value : Option String) :
    ⟨"waypoints", value⟩ ∉ items := by
  simp only [createMeetupRoute, Option.bind_eq_bind, Option.bind_eq_some_iff, Option.pure_def,
    Option.some.injEq] at h
  obtain ⟨origin, -, destination, -, rfl⟩ := h
  simp [openGoogleMapsWith]

/-- The two kinds of route agree: without passengers they are the same, with passengers a carpool
route has one item more, its waypoints, and it has waypoints exactly if there is a stop. -/
structure PathsAgree (string : Double → String) (carpool : Carpool) (driver : User)
    (passengers : List User) : Prop where
  noStop : passengers = [] → ∃ items, createMeetupRoute string carpool driver = some items ∧
    createCarpoolRoute string carpool driver passengers = some items
  stops : passengers ≠ [] → ∃ items stops, createMeetupRoute string carpool driver = some items ∧
    createCarpoolRoute string carpool driver passengers =
      some (items ++ [⟨"waypoints", some stops⟩])
  waypoints : ∀ items, createCarpoolRoute string carpool driver passengers = some items →
    ((∃ value, ⟨"waypoints", value⟩ ∈ items) ↔ passengers ≠ [])

/-- They agree exactly where there is a passenger and all passengers have two coordinates. -/
theorem pathsAgree_iff (hdriver : driver.lastCurrentLocation.length = 2)
    (hdestination : carpool.destination.length = 2) :
    PathsAgree string carpool driver passengers ↔
      passengers ≠ [] ∧ ∀ passenger ∈ passengers, 2 ≤ passenger.lastCurrentLocation.length := by
  have hpair : 2 ≤ driver.lastCurrentLocation.length ∧ 2 ≤ carpool.destination.length :=
    ⟨Nat.le_of_eq hdriver.symm, Nat.le_of_eq hdestination.symm⟩
  have hmeetup := (createMeetupRoute_isSome string carpool driver).mpr hpair
  obtain ⟨items, hitems⟩ := Option.isSome_iff_exists.mp hmeetup
  have hroute := createCarpoolRoute_eq string carpool driver passengers
  rw [hitems, Option.bind_some] at hroute
  constructor
  · intro h
    -- With no passenger the route has a waypoints item all the same.
    have hne : passengers ≠ [] := by
      rintro rfl
      obtain ⟨items', -, hsame⟩ := h.noStop rfl
      have hone := (h.waypoints items' hsame).mp
      rw [hroute] at hsame
      obtain ⟨stops, -, rfl⟩ := Option.map_eq_some_iff.mp hsame
      exact hone ⟨some stops, List.mem_append_right _ (List.mem_singleton_self _)⟩ rfl
    obtain ⟨items', stops, -, hstops⟩ := h.stops hne
    have hsome := (createCarpoolRoute_isSome string carpool driver passengers).mp
      (Option.isSome_iff_exists.mpr ⟨_, hstops⟩)
    exact ⟨hne, hsome.2.2⟩
  · rintro ⟨hne, hpassengers⟩
    have hsome := (createCarpoolRoute_isSome string carpool driver passengers).mpr
      ⟨hpair.1, hpair.2, hpassengers⟩
    obtain ⟨route, hsome⟩ := Option.isSome_iff_exists.mp hsome
    rw [hroute] at hsome
    obtain ⟨stops, hstops, rfl⟩ := Option.map_eq_some_iff.mp hsome
    rw [hstops, Option.map_some] at hroute
    constructor
    case noStop => exact fun hnil => absurd hnil hne
    case stops => exact fun _ => ⟨items, stops, hitems, hroute⟩
    case waypoints =>
      intro route' hroute'
      rw [hroute, Option.some.injEq] at hroute'
      subst hroute'
      exact iff_of_true
        ⟨some stops, List.mem_append_right _ (List.mem_singleton_self _)⟩ hne

end Paths

/-- A carpool of `a` to a place. -/
def toPlace : Carpool :=
  { title := "t", mode := "work", type := "carpool", destinationName := "d"
    destination := [⟨0⟩, ⟨0⟩], driver := "a", uuid := "x" }

/-- The two kinds of route agree past two passengers. -/
theorem pathsAgree_riders : PathsAgree printed toPlace (located "a" ⟨0⟩ ⟨0⟩) riders :=
  (pathsAgree_iff (by decide) (by decide)).mpr ⟨by decide, by decide⟩

/-- Without passengers a carpool route still has waypoints. -/
theorem not_pathsAgree :
    ¬ ∀ (string : Double → String) (carpool : Carpool) (driver : User) (passengers : List User),
      PrintsPlain string → driver.lastCurrentLocation.length = 2 → carpool.destination.length = 2 →
      (∀ passenger ∈ passengers, passenger.lastCurrentLocation.length = 2) →
      PathsAgree string carpool driver passengers := by
  intro hall
  have hagree := hall printed toPlace (located "a" ⟨0⟩ ⟨0⟩) [] printed_plain (by decide) (by decide)
    (by decide)
  obtain ⟨items, hitems, hsame⟩ := hagree.noStop rfl
  have hwaypoints : createCarpoolRoute printed toPlace (located "a" ⟨0⟩ ⟨0⟩) [] =
      some (items ++ [⟨"waypoints", some ""⟩]) := by
    rw [createCarpoolRoute_eq, hitems, Option.bind_some, stopsCoordinates_eq (by decide)]
    rfl
  exact (hagree.waypoints _ hwaypoints).mp
    ⟨some "", List.mem_append_right _ (List.mem_singleton_self _)⟩ rfl

end RouteCreator

end DriveTribe
