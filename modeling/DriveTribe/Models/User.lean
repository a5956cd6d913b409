import DriveTribe.Base.Document

/-!
# Users and their documents

`User.swift:10–86`. A stored document is read field by field through casts, so it is
modelled by what each cast yields: `none` where the field is missing or of another type.
The five relation lists are addressed by key; every friend operation changes one element
of one of them.
-/

namespace DriveTribe

open Base

/-- The `uuid` of a user, which is also the id of the user's document. -/
abbrev UserID := String

/-- A coordinate, by the bit pattern of Swift's `Double`: coordinates are stored, compared
and written into a route, never computed with. -/
structure Double where
  bits : BitVec 64
  deriving DecidableEq, Repr, Inhabited

/-- The relation lists of a user. `User.swift:18–22`. -/
inductive RelationKey where
  | blockedUsers
  | blockedUsersByCurrentUser
  | friends
  | friendsRequestSent
  | friendsRequestReceived
  deriving DecidableEq, Repr

/-- A document of the users collection. `User.swift:10–26`, `UserController.swift:40–53`. -/
structure UserDocument where
  firstName : Option String
  lastName : Option String
  userName : Option String
  carInfo : Option String
  lastCurrentLocation : Option (List Double)
  blockedUsers : Option (List UserID)
  blockedUsersByCurrentUser : Option (List UserID)
  friends : Option (List UserID)
  friendsRequestSent : Option (List UserID)
  friendsRequestReceived : Option (List UserID)
  authID : Option String
  uuid : Option UserID
  deriving DecidableEq, Repr

/-- A user in memory. `User.swift:29–58`. -/
structure User where
  firstName : String
  lastName : String
  userName : String
  carInfo : String := ""
  lastCurrentLocation : List Double := []
  blockedUsers : List UserID := []
  blockedUsersByCurrentUser : List UserID := []
  friends : List UserID := []
  friendsRequestSent : List UserID := []
  friendsRequestReceived : List UserID := []
  authID : String := ""
  uuid : UserID
  deriving DecidableEq, Repr

namespace UserDocument

/-- A relation list as it is stored. -/
def relation? (d : UserDocument) : RelationKey → Option (List UserID)
  | .blockedUsers => d.blockedUsers
  | .blockedUsersByCurrentUser => d.blockedUsersByCurrentUser
  | .friends => d.friends
  | .friendsRequestSent => d.friendsRequestSent
  | .friendsRequestReceived => d.friendsRequestReceived

/-- A relation list, empty where the field is missing. -/
def relation (d : UserDocument) (k : RelationKey) : List UserID := (d.relation? k).getD []

/-- Replace one relation list. -/
def setRelation (d : UserDocument) (k : RelationKey) (xs : List UserID) : UserDocument :=
  match k with
  | .blockedUsers => { d with blockedUsers := some xs }
  | .blockedUsersByCurrentUser => { d with blockedUsersByCurrentUser := some xs }
  | .friends => { d with friends := some xs }
  | .friendsRequestSent => { d with friendsRequestSent := some xs }
  | .friendsRequestReceived => { d with friendsRequestReceived := some xs }

/-- Change one element of one relation list. A missing field counts as an empty array. -/
def changeRelation (d : UserDocument) (k : RelationKey) (f : FieldValue UserID) : UserDocument :=
  d.setRelation k (f.apply (d.relation k))

/-- The list that was set is read back; the other lists are as before. -/
theorem relation_setRelation (d : UserDocument) (k k' : RelationKey) (xs : List UserID) :
    (d.setRelation k xs).relation k' = if k' = k then xs else d.relation k' := by
  cases k <;> cases k' <;> rfl

/-- Setting a list keeps the document's id. -/
@[simp] theorem uuid_setRelation (d : UserDocument) (k : RelationKey) (xs : List UserID) :
    (d.setRelation k xs).uuid = d.uuid := by
  cases k <;> rfl

/-- Setting a list keeps the account the document belongs to. -/
@[simp] theorem authID_setRelation (d : UserDocument) (k : RelationKey) (xs : List UserID) :
    (d.setRelation k xs).authID = d.authID := by
  cases k <;> rfl

/-- A change decides one membership in one list. -/
theorem mem_relation_changeRelation (d : UserDocument) (k k' : RelationKey)
    (f : FieldValue UserID) (x : UserID) :
    x ∈ (d.changeRelation k f).relation k' ↔
      if k' = k ∧ x = f.element then f.present = true else x ∈ d.relation k' := by
  rw [changeRelation, relation_setRelation]
  by_cases hk : k' = k
  · subst k'
    simp only [↓reduceIte, true_and, FieldValue.mem_apply]
  · simp only [hk, false_and, ↓reduceIte]

end UserDocument

namespace User

/-- A relation list of a user in memory. -/
def relation (u : User) : RelationKey → List UserID
  | .blockedUsers => u.blockedUsers
  | .blockedUsersByCurrentUser => u.blockedUsersByCurrentUser
  | .friends => u.friends
  | .friendsRequestSent => u.friendsRequestSent
  | .friendsRequestReceived => u.friendsRequestReceived

/-- Decode a document; fails when a field is missing or of another type.
`User.init?(document:)`, `User.swift:60–76`. -/
def ofDocument (document : UserDocument) : Option User := do
  let firstName ← document.firstName
  let lastName ← document.lastName
  let userName ← document.userName
  let carInfo ← document.carInfo
  let lastCurrentLocation ← document.lastCurrentLocation
  let blockedUsers ← document.blockedUsers
  let blockedUsersByCurrentUser ← document.blockedUsersByCurrentUser
  let friends ← document.friends
  let friendsRequestSent ← document.friendsRequestSent
  let friendsRequestReceived ← document.friendsRequestReceived
  let authID ← document.authID
  let uuid ← document.uuid
  return { firstName, lastName, userName, carInfo, lastCurrentLocation, blockedUsers,
           blockedUsersByCurrentUser, friends, friendsRequestSent, friendsRequestReceived,
           authID, uuid }

/-- A user written out field by field, as the archive of a deleted account is.
`UserController.swift:520–533`. -/
def toDocument (u : User) : UserDocument where
  firstName := some u.firstName
  lastName := some u.lastName
  userName := some u.userName
  carInfo := some u.carInfo
  lastCurrentLocation := some u.lastCurrentLocation
  blockedUsers := some u.blockedUsers
  blockedUsersByCurrentUser := some u.blockedUsersByCurrentUser
  friends := some u.friends
  friendsRequestSent := some u.friendsRequestSent
  friendsRequestReceived := some u.friendsRequestReceived
  authID := some u.authID
  uuid := some u.uuid

/-- A decoded user is stored field by field as it is in memory. -/
theorem toDocument_of_ofDocument {d : UserDocument} {u : User} (h : ofDocument d = some u) :
    u.toDocument = d := by
  obtain ⟨d1, d2, d3, d4, d5, d6, d7, d8, d9, d10, d11, d12⟩ := d
  simp only [ofDocument, Option.bind_eq_bind, Option.bind_eq_some_iff, Option.pure_def,
    Option.some.injEq] at h
  obtain ⟨_, rfl, _, rfl, _, rfl, _, rfl, _, rfl, _, rfl, _, rfl, _, rfl, _, rfl, _, rfl, _, rfl,
    _, rfl, rfl⟩ := h
  rfl

/-- Every stored user decodes to itself. -/
theorem ofDocument_toDocument (u : User) : ofDocument u.toDocument = some u := rfl

/-- Decoding keeps the relation lists. -/
theorem relation_of_ofDocument {d : UserDocument} {u : User} (h : ofDocument d = some u)
    (k : RelationKey) : u.relation k = d.relation k := by
  rw [← toDocument_of_ofDocument h]
  cases k <;> rfl

/-- Decoding keeps the id and the account. -/
theorem ids_of_ofDocument {d : UserDocument} {u : User} (h : ofDocument d = some u) :
    d.uuid = some u.uuid ∧ d.authID = some u.authID := by
  rw [← toDocument_of_ofDocument h]
  exact ⟨rfl, rfl⟩

/-- A user as an account is created, with the names and the account called like the id. -/
def signedUp (id : UserID) : User :=
  { firstName := id, lastName := id, userName := id, authID := id, uuid := id }

end User

end DriveTribe
