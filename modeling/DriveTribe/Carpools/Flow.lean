import Mathlib.Data.List.Dedup
import DriveTribe.Base.Run
import DriveTribe.Carpools.Controller

/-!
# Creating a carpool, screen by screen

Options, Destination and Add Friends stage a carpool in the controller, which outlives the
screens; Save creates the carpool from what is staged. A row of Add Friends is selected
where its cell is green; the cell of a row is whichever one the collection view gives it,
and a cell is green exactly if the code made it green last.
-/

namespace DriveTribe

/-- A cell of the collection view. -/
abbrev CellID := Nat

/-- The screen on top. -/
inductive Screen where
  /-- `CarpoolListViewController`. -/
  | carpoolList
  /-- `CarpoolSettingsViewController`. -/
  | options
  /-- `CarpoolDestinationViewController`. -/
  | destination
  /-- `AddPassengerViewController`, with its friends and the cells that are green. After a
  tap on Save it stays until the pop to the list has finished. -/
  | addFriends (friends : List User) (green : List CellID) (saved : Bool)
  deriving DecidableEq, Repr

/-- The controllers, the screen, and the carpools whose writes are not acknowledged. -/
structure Flow where
  /-- `UserController.shared.currentUser`. -/
  currentUser : Option User
  controller : CarpoolController := {}
  screen : Screen := .carpoolList
  creates : List Carpool := []
  deriving DecidableEq, Repr

/-- What the user does, and what the server answers. -/
inductive FlowEvent where
  | start
  | next (title : String) (modeSegment typeSegment : Nat)
  | selectDestination (destination : MapItem)
  | toFriends
  /-- `fetchFriendsFor` completes, once for each friend. -/
  | friendsFetched (friends : List User)
  | select (row : Nat) (cell : CellID)
  | save (uniquePassengers : List UserID) (new : NewIDs)
  | dismissed
  | back
  /-- The write of the `i`-th carpool is acknowledged. -/
  | acknowledged (i : Nat)
  deriving DecidableEq, Repr

/-- The event only moves between screens or changes what is staged. -/
def FlowEvent.IsStaging : FlowEvent → Prop
  | .save _ _ | .acknowledged _ => False
  | _ => True

instance : ∀ ev : FlowEvent, Decidable ev.IsStaging
  | .save _ _ | .acknowledged _ => .isFalse id
  | .start | .next _ _ _ | .selectDestination _ | .toFriends | .friendsFetched _ | .select _ _
  | .dismissed | .back => .isTrue True.intro

namespace Flow

/-- One event, with the writes it sends out; `none` where the event cannot happen. -/
def step (x : Flow) : FlowEvent → Option (Flow × List CarpoolWrite)
  | .start =>
    match x.screen with
    | .carpoolList => some ({ x with screen := .options }, [])
    | _ => none
  | .next title modeSegment typeSegment =>
    match x.screen with
    | .options =>
      if title.isEmpty then some (x, [])
      else
        some ({ x with
          controller := x.controller.setOptions title modeSegment typeSegment
          screen := .destination }, [])
    | _ => none
  | .selectDestination destination =>
    match x.screen with
    | .destination =>
      some ({ x with controller := x.controller.selectDestination destination }, [])
    | _ => none
  | .toFriends =>
    match x.screen with
    | .destination =>
      -- Only whether a destination is staged is asked, not when it was selected.
      if x.controller.destination.isSome then
        some ({ x with screen := .addFriends [] [] false }, [])
      else some (x, [])
    | _ => none
  | .friendsFetched friends =>
    match x.screen with
    | .addFriends _ green saved => some ({ x with screen := .addFriends friends green saved }, [])
    | _ => some (x, [])
  | .select row cell =>
    match x.screen with
    | .addFriends friends green saved =>
      (friends[row]?).map fun friend =>
        if cell ∉ green then
          ({ x with
            controller := x.controller.addPassenger friend.uuid
            screen := .addFriends friends (cell :: green) saved }, [])
        else
          ({ x with screen := .addFriends friends (green.filter (· ≠ cell)) saved }, [])
    | _ => none
  | .save uniquePassengers new =>
    match x.screen with
    | .addFriends friends green _ =>
      if uniquePassengers.Perm x.controller.passengers.dedup then
        let popping := { x with screen := .addFriends friends green true }
        match x.controller.createCarpool x.currentUser uniquePassengers new with
        | none => some (popping, [])
        | some (carpool, message, controller) =>
          some ({ popping with controller, creates := x.creates ++ [carpool] },
            CarpoolController.creationWrites carpool message)
      else none
    | _ => none
  | .dismissed =>
    match x.screen with
    | .addFriends _ _ true => some ({ x with screen := .carpoolList }, [])
    | _ => none
  | .back =>
    match x.screen with
    | .options => some ({ x with screen := .carpoolList }, [])
    | .destination => some ({ x with screen := .options }, [])
    | .addFriends _ _ false => some ({ x with screen := .destination }, [])
    | _ => none
  | .acknowledged i =>
    (x.creates[i]?).map fun carpool =>
      ({ x with creates := x.creates.eraseIdx i },
        x.controller.carpoolCreated x.currentUser carpool)

end Flow

end DriveTribe
