import DriveTribe.Models.Carpool

/-!
# Routes

`RouteCreator.swift:14–92`: the query items of the map page that a route opens. A location is
read at its first two positions and the subscript traps where there are fewer, so a route is
an option. How a coordinate is printed is left to `string`.
-/

namespace DriveTribe

/-- A name and a value of a query. -/
structure QueryItem where
  name : String
  value : Option String
  deriving DecidableEq, Repr

namespace RouteCreator

/-- `openGoogleMapsWith`, `RouteCreator.swift:55–92`. -/
def openGoogleMapsWith (originCoordinates : String) (stopsCoordinates : Option String)
    (destinationCoordinates : String) : List QueryItem :=
  let items : List QueryItem := [
    ⟨"api", some "1"⟩, ⟨"origin", some originCoordinates⟩,
    ⟨"destination", some destinationCoordinates⟩, ⟨"travelmode", some "driving"⟩,
    ⟨"dir_action", some "navigate"⟩]
  match stopsCoordinates with
  | none => items
  | some stops => items ++ [⟨"waypoints", some stops⟩]

variable (string : Double → String)

/-- The two coordinates with a comma between them. -/
def coordinates (location : List Double) : Option String := do
  let latitude ← location[0]?
  let longitude ← location[1]?
  return string latitude ++ "," ++ string longitude

/-- The stops, with a bar after each. `RouteCreator.swift:40–44`. -/
def appendStops (stopsCoordinates : String) : List User → Option String
  | [] => some stopsCoordinates
  | passenger :: passengers => do
    let stop ← coordinates string passenger.lastCurrentLocation
    appendStops (stopsCoordinates ++ (stop ++ "|")) passengers

/-- `RouteCreator.swift:46–48`. -/
def dropBar (stopsCoordinates : String) : String :=
  if stopsCoordinates.toList.getLast? = some '|' then
    String.ofList stopsCoordinates.toList.dropLast
  else stopsCoordinates

/-- `RouteCreator.swift:14–26`. -/
def createMeetupRoute (carpool : Carpool) (driver : User) : Option (List QueryItem) := do
  let originCoordinates ← coordinates string driver.lastCurrentLocation
  let destinationCoordinates ← coordinates string carpool.destination
  return openGoogleMapsWith originCoordinates none destinationCoordinates

/-- `RouteCreator.swift:28–51`. -/
def createCarpoolRoute (carpool : Carpool) (driver : User) (passengers : List User) :
    Option (List QueryItem) := do
  let originCoordinates ← coordinates string driver.lastCurrentLocation
  let destinationCoordinates ← coordinates string carpool.destination
  let stopsCoordinates ← appendStops string "" passengers
  return openGoogleMapsWith originCoordinates (some (dropBar stopsCoordinates))
    destinationCoordinates

/-- Coordinates are read exactly where there are two. -/
theorem coordinates_isSome (location : List Double) :
    (coordinates string location).isSome = true ↔ 2 ≤ location.length := by
  match location with
  | [] => simp [coordinates]
  | [x] => simp [coordinates]
  | x :: y :: rest => simp [coordinates]

/-- The stops are read exactly where every passenger has coordinates. -/
theorem appendStops_isSome (stopsCoordinates : String) (passengers : List User) :
    (appendStops string stopsCoordinates passengers).isSome = true ↔
      ∀ passenger ∈ passengers, 2 ≤ passenger.lastCurrentLocation.length := by
  induction passengers generalizing stopsCoordinates with
  | nil => simp only [appendStops, Option.isSome_some, List.not_mem_nil, false_implies,
      implies_true]
  | cons passenger passengers ih =>
    rw [List.forall_mem_cons, ← coordinates_isSome string]
    cases h : coordinates string passenger.lastCurrentLocation with
    | none => simp [appendStops, h]
    | some stop => simp [appendStops, h, ih]

/-- A meetup route is made exactly where the driver and the destination have coordinates. -/
theorem createMeetupRoute_isSome (carpool : Carpool) (driver : User) :
    (createMeetupRoute string carpool driver).isSome = true ↔
      2 ≤ driver.lastCurrentLocation.length ∧ 2 ≤ carpool.destination.length := by
  rw [← coordinates_isSome string, ← coordinates_isSome string]
  cases horigin : coordinates string driver.lastCurrentLocation with
  | none => simp [createMeetupRoute, horigin]
  | some origin =>
    cases hdestination : coordinates string carpool.destination <;>
      simp [createMeetupRoute, horigin, hdestination]

/-- A carpool route is made exactly where the passengers have coordinates as well. -/
theorem createCarpoolRoute_isSome (carpool : Carpool) (driver : User) (passengers : List User) :
    (createCarpoolRoute string carpool driver passengers).isSome = true ↔
      2 ≤ driver.lastCurrentLocation.length ∧ 2 ≤ carpool.destination.length ∧
        ∀ passenger ∈ passengers, 2 ≤ passenger.lastCurrentLocation.length := by
  rw [← appendStops_isSome string "", ← coordinates_isSome string, ← coordinates_isSome string]
  cases horigin : coordinates string driver.lastCurrentLocation with
  | none => simp [createCarpoolRoute, horigin]
  | some origin =>
    cases hdestination : coordinates string carpool.destination with
    | none => simp [createCarpoolRoute, horigin, hdestination]
    | some destination =>
      cases hstops : appendStops string "" passengers <;>
        simp [createCarpoolRoute, horigin, hdestination, hstops]

end RouteCreator

end DriveTribe
