import DriveTribe.Models.User

/-!
# Carpools and their documents

`Carpool.swift:43–91`. As with users, a stored document is modelled by what each cast of a
field yields. Equality of carpools in the code is equality of their ids.
-/

namespace DriveTribe

open Base

/-- The `uuid` of a carpool, which is also the id of its document. -/
abbrev CarpoolID := String

/-- A document of the carpools collection. `Carpool.swift:43–53`. -/
structure CarpoolDocument where
  title : Option String
  mode : Option String
  type : Option String
  destinationName : Option String
  destination : Option (List Double)
  driver : Option UserID
  passengers : Option (List UserID)
  uuid : Option CarpoolID
  deriving DecidableEq, Repr

/-- A carpool in memory. `Carpool.swift:55–75`. -/
structure Carpool where
  title : String
  mode : String
  type : String
  destinationName : String
  destination : List Double := []
  driver : UserID
  passengers : List UserID := []
  uuid : CarpoolID
  deriving DecidableEq, Repr

namespace Carpool

/-- Decode a document; fails when a field is missing or of another type.
`Carpool.init?(document:)`, `Carpool.swift:77–88`. -/
def ofDocument (document : CarpoolDocument) : Option Carpool := do
  let title ← document.title
  let mode ← document.mode
  let type ← document.type
  let destinationName ← document.destinationName
  let destination ← document.destination
  let driver ← document.driver
  let passengers ← document.passengers
  let uuid ← document.uuid
  return { title, mode, type, destinationName, destination, driver, passengers, uuid }

/-- A carpool written out field by field. `CarpoolController.swift:50–59`. -/
def toDocument (c : Carpool) : CarpoolDocument where
  title := some c.title
  mode := some c.mode
  type := some c.type
  destinationName := some c.destinationName
  destination := some c.destination
  driver := some c.driver
  passengers := some c.passengers
  uuid := some c.uuid

/-- Every stored carpool decodes to itself. -/
@[simp] theorem ofDocument_toDocument (c : Carpool) : ofDocument c.toDocument = some c := rfl

/-- A decoded carpool is stored field by field as it is in memory. -/
theorem toDocument_of_ofDocument {d : CarpoolDocument} {c : Carpool} (h : ofDocument d = some c) :
    c.toDocument = d := by
  obtain ⟨d1, d2, d3, d4, d5, d6, d7, d8⟩ := d
  simp only [ofDocument, Option.bind_eq_bind, Option.bind_eq_some_iff, Option.pure_def,
    Option.some.injEq] at h
  obtain ⟨_, rfl, _, rfl, _, rfl, _, rfl, _, rfl, _, rfl, _, rfl, _, rfl, rfl⟩ := h
  rfl

/-- The driver or one of the passengers. -/
def IsMember (c : Carpool) (u : UserID) : Prop := u = c.driver ∨ u ∈ c.passengers

instance (c : Carpool) (u : UserID) : Decidable (c.IsMember u) := by
  unfold IsMember
  infer_instance

end Carpool

/-- Remove a passenger from a stored carpool. A missing field counts as an empty array. -/
def CarpoolDocument.removePassenger (d : CarpoolDocument) (user : UserID) : CarpoolDocument :=
  { d with passengers := some (FieldValue.apply (d.passengers.getD []) (.arrayRemove user)) }

/-- A stored carpool without the passenger is the carpool without the passenger. -/
theorem Carpool.removePassenger_toDocument (c : Carpool) (user : UserID) :
    c.toDocument.removePassenger user =
      { c with passengers := c.passengers.filter (· ≠ user) }.toDocument :=
  rfl

end DriveTribe
