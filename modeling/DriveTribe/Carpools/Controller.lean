import DriveTribe.Models.Carpool

/-!
# The carpool controller

`CarpoolController.swift`, a singleton: what it holds, and what each call or callback does
to it and writes to the server. The removal of carpools after a block or an unfriending,
`UserController.swift:642–693`, belongs here as well. Acknowledgements and answers of the
server come in as arguments.
-/

namespace DriveTribe

/-- What the code reads of a map item. `CarpoolController.swift:38–43`. -/
structure MapItem where
  name : Option String
  latitude : Double
  longitude : Double
  deriving DecidableEq, Repr

/-- A stored chat message. `CarpoolController.swift:103–110`. -/
structure MessageEntry where
  id : String
  type : String
  content : String
  date : String
  senderID : String
  senderUserName : String
  deriving DecidableEq, Repr

/-- A write of a carpool, of its messages or of a user's groups. -/
inductive CarpoolWrite where
  | setCarpool (carpool : Carpool)
  | addMessage (carpool : CarpoolID) (entry : MessageEntry)
  | setGroup (user : UserID) (carpool : CarpoolID)
  | deleteGroup (user : UserID) (carpool : CarpoolID)
  | deleteCarpool (carpool : CarpoolID)
  /-- The deletion of a message document with a new id, so of none. -/
  | deleteNewMessage (carpool : CarpoolID)
  | removePassenger (carpool : CarpoolID) (user : UserID)
  deriving DecidableEq, Repr

/-- What the controller holds. `CarpoolController.swift:15–24`; the driver it declares is
never used. -/
structure CarpoolController where
  carpools : List Carpool := []
  work : List Carpool := []
  play : List Carpool := []
  title : String := "Test"
  mode : String := "work"
  type : String := "carpool"
  destination : Option MapItem := none
  passengers : List UserID := []
  deriving DecidableEq, Repr

/-- What a creation draws from outside: two new ids and the formatted date. -/
structure NewIDs where
  uuid : CarpoolID
  messageId : String
  date : String
  deriving DecidableEq, Repr

/-- The answer to a `getDocument` of a carpool. -/
inductive CarpoolAnswer where
  | error (error : String)
  | noSnapshot
  | snapshot (document : Option CarpoolDocument)
  deriving DecidableEq, Repr

/-- The carpool that an answer decodes to. A snapshot of a missing document has no fields.
`CarpoolController.swift:158–174`. -/
def CarpoolAnswer.carpool? : CarpoolAnswer → Option Carpool
  | .error _ => none
  | .noSnapshot => none
  | .snapshot document => document.bind Carpool.ofDocument

namespace CarpoolController

/-! ### Staging -/

/-- `CarpoolSettingsViewController.swift:26–48`. -/
def setOptions (self : CarpoolController) (title : String) (modeSegment typeSegment : Nat) :
    CarpoolController :=
  { self with
    title
    mode := if modeSegment = 0 then "work" else "play"
    type := if typeSegment = 0 then "carpool" else "meetup" }

/-- `DestinationSearchViewController.swift:127–133`. -/
def selectDestination (self : CarpoolController) (item : MapItem) : CarpoolController :=
  { self with destination := some item }

/-- `AddPassengerViewController.swift:92`. -/
def addPassenger (self : CarpoolController) (passenger : UserID) : CarpoolController :=
  { self with passengers := self.passengers ++ [passenger] }

/-! ### Creating -/

/-- The carpool that is created from what is staged. `CarpoolController.swift:38–45`;
`uniquePassengers` is `Array(Set(passengers))`, whose order the code leaves open. -/
def newCarpool (self : CarpoolController) (destination : MapItem) (driver : UserID)
    (uniquePassengers : List UserID) (uuid : CarpoolID) : Carpool where
  title := self.title
  mode := self.mode
  type := self.type
  destinationName := destination.name.getD "Destination Unknown"
  destination := [destination.latitude, destination.longitude]
  driver := driver
  passengers := uniquePassengers
  uuid := uuid

/-- The first message of a chat. `CarpoolController.swift:71–110`. -/
def firstMessage (carpool : Carpool) (currentUser : Option User) (new : NewIDs) : MessageEntry :=
  let driverMessage :=
    if carpool.type = "carpool" then
      "Driver: " ++ (currentUser.map User.firstName).getD "Unknown"
    else "Meet Up"
  { id := new.messageId
    type := "text"
    content := "Start chatting with your RideTribe!\nTap the map for directions.\n" ++ driverMessage
    date := new.date
    senderID := "RideTribeIconLarge"
    senderUserName := "Chat Bot" }

/-- `createCarpool`, `CarpoolController.swift:35–117`: the carpool, the first message and
the controller afterwards, unless there is no destination or no user. -/
def createCarpool (self : CarpoolController) (currentUser : Option User)
    (uniquePassengers : List UserID) (new : NewIDs) :
    Option (Carpool × MessageEntry × CarpoolController) :=
  match self.destination, currentUser with
  | some destination, some me =>
    let carpool := self.newCarpool destination me.uuid uniquePassengers new.uuid
    some (carpool, firstMessage carpool currentUser new, { self with destination := none })
  | _, _ => none

/-- A creation needs a destination and a user, and clears the destination. -/
theorem createCarpool_eq_some {self self' : CarpoolController} {currentUser : Option User}
    {uniquePassengers : List UserID} {new : NewIDs} {carpool : Carpool} {message : MessageEntry}
    (h : self.createCarpool currentUser uniquePassengers new = some (carpool, message, self')) :
    ∃ destination me, self.destination = some destination ∧ currentUser = some me ∧
      carpool = self.newCarpool destination me.uuid uniquePassengers new.uuid ∧
      message = firstMessage carpool currentUser new ∧
      self' = { self with destination := none } := by
  cases hd : self.destination with
  | none => simp only [createCarpool, hd, reduceCtorEq] at h
  | some destination =>
    cases currentUser with
    | none => simp only [createCarpool, hd, reduceCtorEq] at h
    | some me =>
      simp only [createCarpool, hd, Option.some.injEq, Prod.mk.injEq] at h
      obtain ⟨rfl, rfl, rfl⟩ := h
      exact ⟨destination, me, rfl, rfl, rfl, rfl, rfl⟩

/-- The writes of a creation. `CarpoolController.swift:49–69`, `:112–116`. -/
def creationWrites (carpool : Carpool) (message : MessageEntry) : List CarpoolWrite :=
  [.setCarpool carpool, .addMessage carpool.uuid message]

/-- `CarpoolController.swift:119–127`. -/
def addCarpoolToCurrentUsersGroup (currentUser : Option User) (carpool : Carpool) :
    List CarpoolWrite :=
  match currentUser with
  | none => []
  | some me => [.setGroup me.uuid carpool.uuid]

/-- `CarpoolController.swift:129–139`. The passengers are those staged by now, not those of
the carpool. -/
def addCarpoolToPassengersGroup (self : CarpoolController) (carpool : Carpool) :
    List CarpoolWrite :=
  self.passengers.map fun passenger => .setGroup passenger carpool.uuid

/-- What the acknowledgement of a new carpool writes. `CarpoolController.swift:64–67`. -/
def carpoolCreated (self : CarpoolController) (currentUser : Option User) (carpool : Carpool) :
    List CarpoolWrite :=
  addCarpoolToCurrentUsersGroup currentUser carpool ++ self.addCarpoolToPassengersGroup carpool

/-- The users in whose groups an acknowledged carpool is entered: whoever is logged in and
staged by then. -/
def recipients (self : CarpoolController) (currentUser : Option User) : List UserID :=
  (currentUser.map User.uuid).toList ++ self.passengers

/-- An acknowledgement writes one group entry for each recipient. -/
theorem carpoolCreated_eq (self : CarpoolController) (currentUser : Option User)
    (carpool : Carpool) : self.carpoolCreated currentUser carpool =
      (self.recipients currentUser).map fun user => .setGroup user carpool.uuid := by
  rw [recipients, List.map_append]
  cases currentUser <;> rfl

/-! ### The list of carpools -/

/-- A snapshot of the user's groups empties the list before the carpools are read.
`CarpoolController.swift:149`. -/
def groupsChanged (self : CarpoolController) : CarpoolController := { self with carpools := [] }

/-- A carpool that was read is appended if it decodes. `CarpoolController.swift:157–179`. -/
def carpoolRead (self : CarpoolController) (answer : CarpoolAnswer) : CarpoolController :=
  match answer.carpool? with
  | none => self
  | some carpool => { self with carpools := self.carpools ++ [carpool] }

/-- `CarpoolController.swift:237–247`. -/
def sortCarpoolsByWorkPlay (self : CarpoolController) : CarpoolController :=
  { self with
    work := self.carpools.filter fun carpool => carpool.mode = "work"
    play := self.carpools.filter fun carpool => carpool.mode = "play" }

/-- Remove the first carpool with this id, if there is one; the code looks it up with
`firstIndex(of:)`. -/
def removeFirst (carpools : List Carpool) (uuid : CarpoolID) : Option (List Carpool) :=
  (carpools.findIdx? fun carpool => carpool.uuid = uuid).map carpools.eraseIdx

/-! ### Deleting -/

/-- `delete(carpool:)`, `CarpoolController.swift:323–368`. The driver deletes the carpool
and the group entries of the members the copy lists; anybody else leaves, if the copy is
still in the list, by deleting the own group entry. -/
def delete (self : CarpoolController) (currentUser : Option User) (carpool : Carpool) :
    List CarpoolWrite × CarpoolController :=
  match currentUser with
  | none => ([], self)
  | some me =>
    if carpool.driver = me.uuid then
      (.deleteCarpool carpool.uuid :: .deleteNewMessage carpool.uuid ::
        .deleteGroup me.uuid carpool.uuid ::
        carpool.passengers.map fun passenger => .deleteGroup passenger carpool.uuid, self)
    else
      match removeFirst self.carpools carpool.uuid with
      | none => ([], self)
      | some carpools => ([.deleteGroup me.uuid carpool.uuid], { self with carpools })

/-- The acknowledgement of the driver's deletion. `CarpoolController.swift:333–340`. -/
def carpoolDeleted (self : CarpoolController) (uuid : CarpoolID) : CarpoolController :=
  match removeFirst self.carpools uuid with
  | none => self
  | some carpools => { self with carpools }

end CarpoolController

/-- What `deleteUserFromCarpoolAfterBlockOrDeleleteOrUnFriend` writes for one carpool of
the user `me` once it is read. `UserController.swift:662–686`. -/
def deleteUserFromCarpool (me user : UserID) (carpool : Carpool) : List CarpoolWrite :=
  let remove (member : UserID) : List CarpoolWrite :=
    [.deleteGroup member carpool.uuid, .removePassenger carpool.uuid member]
  if me = carpool.driver then
    carpool.passengers.flatMap fun passager => if passager = user then remove user else []
  else
    (if user = carpool.driver then remove me else []) ++
      carpool.passengers.flatMap fun passager => if passager = user then remove me else []

end DriveTribe
