import DriveTribe.Carpools.Flow
import DriveTribe.Relations.Session

/-!
# One process of the app

The two shared controllers, the screens, and the answers of the server that are awaited. All
of it lives as long as the process: logging in replaces the user and the screens, and logging
out signs out of the account, `UserController.swift:78–86`, and does nothing else. An answer is
named by what it answers, so that two processes can get the same one.
-/

namespace DriveTribe

open Base

/-- A write of the process. -/
inductive ServerWrite where
  | carpool (write : CarpoolWrite)
  | relation (write : RelationWrite)
  | deleteLocation (user : UserID)
  | addLocation (user : UserID) (coordinate : Double)
  | archiveUser (user : User)
  | deleteUser (user : UserID)
  deriving DecidableEq, Repr

/-- An awaited answer; `me` is the user that was logged in at the request. -/
inductive Request where
  /-- The deletion of a carpool by its driver. -/
  | carpoolDeleted (id : CarpoolID)
  /-- `deleteUserFromCarpoolAfterBlockOrDeleleteOrUnFriend`: the groups, then each carpool. -/
  | removal (me user : UserID)
  | removalCarpool (me user : UserID) (id : CarpoolID)
  /-- `updateUserLocation`: one write after the other. -/
  | locationDeleted (me : UserID)
  | latitudeAdded (me : UserID)
  /-- `deleteDataOfDeletedAccount`: the groups, then each carpool. -/
  | departure (me : UserID)
  | departureCarpool (me : UserID) (id : CarpoolID)
  /-- `deleteUser`: the archive, then the document and the account. -/
  | archived (me : UserID)
  | userDeleted (me : UserID)
  | accountDeleted (authID : String)
  deriving DecidableEq, Repr

/-- The coordinate of the last location that is written once the request is done. -/
def Request.coordinate? : Request → Option Nat
  | .locationDeleted _ => some 0
  | .latitudeAdded _ => some 1
  | _ => none

/-- What the server answers. -/
inductive Answer where
  | done
  | failed (error : String)
  | groups (ids : List CarpoolID)
  | carpool (answer : CarpoolAnswer)
  deriving DecidableEq, Repr

/-- The reads one snapshot event of a listener has started. -/
structure Load where
  listener : Nat
  event : Nat
  outstanding : List CarpoolID
  deriving DecidableEq, Repr

/-- A process of the app. The base has the shared controllers and the creation screens. -/
structure Process extends Flow where
  /-- `Auth.auth().currentUser?.uid`. -/
  auth : Option String := none
  /-- `UserController.shared.lastCurrentLocation`. -/
  lastCurrentLocation : List Double := []
  /-- The tab bar is on top, not the log-in screen. -/
  loggedIn : Bool := false
  segment : Nat := 0
  /-- The rows of `CarpoolListViewController`. -/
  dataSource : List Carpool := []
  results : List UserID := []
  rows : RelationKey → List UserID := fun _ => []
  /-- How many log-ins there have been; each adds one listener. -/
  session : Nat := 0
  listeners : List Nat := []
  loads : List Load := []
  requests : List Request := []

/-- What is done in the app, and what the server answers. -/
inductive Input where
  | login (user : User)
  | logout
  | deleteAccount
  /-- The screens of the creation flow, Save apart. -/
  | stage (ev : FlowEvent)
  | save (new : NewIDs)
  /-- The write of a new carpool is acknowledged. -/
  | created (id : CarpoolID)
  | snapshot (listener event : Nat) (ids : List CarpoolID)
  | read (listener event : Nat) (id : CarpoolID) (answer : CarpoolAnswer)
  /-- All reads of a snapshot event have completed. -/
  | loaded (listener event : Nat)
  | segmentChanged (segment : Nat)
  | deleteRow (row : Nat)
  | found (users : List UserID)
  | fetched (k : RelationKey) (users : List UserID)
  | relation (op : RelationOp) (user : UserID)
  | selectLocation (latitude longitude : Double)
  | updateLocation
  | answered (request : Request) (answer : Answer)
  deriving DecidableEq, Repr

/-- Somebody logs in. -/
def Input.IsLogin : Input → Bool
  | .login _ => true
  | _ => false

/-- A snapshot of groups arrives, whoever listens. -/
def Input.IsSnapshot (e : Input) : Prop := ∃ listener event ids, e = .snapshot listener event ids

namespace Process

/-- A process that was just started. -/
def launched : Process := { currentUser := none }

/-- What the process holds of the relation data. -/
def client (x : Process) : Client := ⟨x.auth, x.currentUser, x.results, x.rows⟩

/-- The answers an operation makes the process wait for. `UserController.swift:431`, `:465`. -/
def removals (x : Process) (op : RelationOp) (user : UserID) : List Request :=
  match op with
  | .blockUser | .unfriendUser => (x.currentUser.map fun me => .removal me.uuid user).toList
  | _ => []

/-- The answers a deletion makes the process wait for. `CarpoolController.swift:328`. -/
def deletions (x : Process) (carpool : Carpool) : List Request :=
  match x.currentUser with
  | none => []
  | some me => if carpool.driver = me.uuid then [.carpoolDeleted carpool.uuid] else []

/-- What the list shows. `CarpoolListViewController.swift:39–52`, `:63–67`. -/
def rowsShown (controller : CarpoolController) (segment : Nat) : List Carpool :=
  if segment = 0 then controller.work else controller.play

/-- An event of the creation screens. -/
def flowed (x : Process) (y : Option (Flow × List CarpoolWrite)) :
    Option (Process × List ServerWrite) :=
  y.map fun (flow, ws) => ({ x with toFlow := flow }, ws.map .carpool)

/-- `LogInViewController.swift:137–173` once the user was fetched: the tab bar comes up with
new screens, and the list of carpools adds its listener. -/
def login (x : Process) (user : User) : Process :=
  { x with
    currentUser := some user
    screen := .carpoolList
    auth := some user.authID
    loggedIn := true
    segment := 0
    dataSource := []
    results := []
    rows := fun _ => []
    session := x.session + 1
    listeners := x.listeners ++ [x.session + 1] }

/-- What `deleteDataOfDeletedAccount` writes for one carpool of the user `me`.
`UserController.swift:716–725`. -/
def departureWrites (me : UserID) (carpool : Carpool) : List CarpoolWrite :=
  if me = carpool.driver then [.deleteCarpool carpool.uuid]
  else
    carpool.passengers.flatMap fun passager =>
      if passager = me then [.removePassenger carpool.uuid me] else []

/-- Handle an answer. -/
def handle (x : Process) : Request → Answer → Option (Process × List ServerWrite)
  | _, .failed _ => some (x, [])
  | .carpoolDeleted id, .done =>
    some ({ x with controller := x.controller.carpoolDeleted id }, [])
  | .removal me user, .groups ids =>
    some ({ x with requests := x.requests ++ ids.map (.removalCarpool me user) }, [])
  | .removalCarpool me user _, .carpool answer =>
    some (x, answer.carpool?.toList.flatMap fun carpool =>
      (deleteUserFromCarpool me user carpool).map .carpool)
  | .locationDeleted me, .done =>
    -- The subscript traps where nothing was ever selected.
    (x.lastCurrentLocation[0]?).map fun latitude =>
      ({ x with requests := x.requests ++ [.latitudeAdded me] }, [.addLocation me latitude])
  | .latitudeAdded me, .done =>
    (x.lastCurrentLocation[1]?).map fun longitude => (x, [.addLocation me longitude])
  | .departure me, .groups ids =>
    some ({ x with requests := x.requests ++ ids.map (.departureCarpool me) }, [])
  | .departureCarpool me _, .carpool answer =>
    some (x, answer.carpool?.toList.flatMap fun carpool =>
      (departureWrites me carpool).map .carpool)
  | .archived me, .done =>
    -- The account that is deleted is the one signed in by now.
    some ({ x with
      loggedIn := false
      requests := x.requests ++ .userDeleted me :: (x.auth.map .accountDeleted).toList },
      [.deleteUser me])
  | .userDeleted _, .done => some ({ x with auth := none }, [])
  | .accountDeleted authID, .done =>
    some ({ x with auth := if x.auth = some authID then none else x.auth }, [])
  | _, _ => none

/-- One input, with the writes it sends out; `none` where it cannot happen. `arraySet` is
`Array(Set(·))`, whose order is the runtime's. -/
def step (arraySet : List UserID → List UserID) (x : Process) :
    Input → Option (Process × List ServerWrite)
  | .login user => if x.loggedIn then none else some (x.login user, [])
  | .logout => if x.loggedIn then some ({ x with auth := none, loggedIn := false }, []) else none
  | .deleteAccount =>
    if x.loggedIn then
      x.currentUser.map fun me =>
        ({ x with requests := x.requests ++ [.departure me.uuid, .archived me.uuid] },
          [.archiveUser me])
    else none
  | .stage ev => if x.loggedIn ∧ ev.IsStaging then x.flowed (x.toFlow.step ev) else none
  | .save new =>
    if x.loggedIn then x.flowed (x.toFlow.step (.save (arraySet x.controller.passengers) new))
    else none
  | .created id =>
    (x.creates.findIdx? fun carpool => carpool.uuid = id).bind fun i =>
      x.flowed (x.toFlow.step (.acknowledged i))
  | .snapshot listener event ids =>
    if listener ∈ x.listeners ∧ ∀ l ∈ x.loads, ¬ (l.listener = listener ∧ l.event = event) then
      some ({ x with
        controller := x.controller.groupsChanged
        loads := x.loads ++ [⟨listener, event, ids⟩] }, [])
    else none
  | .read listener event id answer =>
    if ∃ l ∈ x.loads, l.listener = listener ∧ l.event = event ∧ id ∈ l.outstanding then
      some ({ x with
        controller := x.controller.carpoolRead answer
        loads := x.loads.map fun l =>
          if l.listener = listener ∧ l.event = event then
            { l with outstanding := l.outstanding.erase id }
          else l }, [])
    else none
  | .loaded listener event =>
    if ⟨listener, event, []⟩ ∈ x.loads then
      let controller := x.controller.sortCarpoolsByWorkPlay
      some ({ x with
        controller
        loads := x.loads.erase ⟨listener, event, []⟩
        -- An earlier listener reloads the screen of its own session.
        dataSource :=
          if listener = x.session then rowsShown controller x.segment else x.dataSource }, [])
    else none
  | .segmentChanged segment =>
    if x.loggedIn then
      some ({ x with segment, dataSource := rowsShown x.controller segment }, [])
    else none
  | .deleteRow row =>
    if x.loggedIn then
      (x.dataSource[row]?).map fun carpool =>
        let (ws, controller) := x.controller.delete x.currentUser carpool
        ({ x with
          controller
          dataSource := (CarpoolController.removeFirst x.dataSource carpool.uuid).getD x.dataSource
          requests := x.requests ++ x.deletions carpool }, ws.map .carpool)
    else none
  | .found users =>
    if x.auth.isSome then some ({ x with results := x.results ++ users }, []) else none
  | .fetched k users =>
    if x.currentUser.isSome then
      some ({ x with rows := Function.update x.rows k (x.rows k ++ users) }, [])
    else none
  | .relation op user =>
    if x.loggedIn ∧ user ∈ x.client.offered op then
      some ({ x with requests := x.requests ++ x.removals op user },
        (op.call x.currentUser user).writes.map .relation)
    else none
  | .selectLocation latitude longitude =>
    some ({ x with lastCurrentLocation := [latitude, longitude] }, [])
  | .updateLocation =>
    if x.loggedIn then
      x.currentUser.map fun me =>
        ({ x with requests := x.requests ++ [.locationDeleted me.uuid] },
          [.deleteLocation me.uuid])
    else none
  | .answered request answer =>
    if request ∈ x.requests then
      ({ x with requests := x.requests.erase request }).handle request answer
    else none

end Process

end DriveTribe
