import DriveTribe.Relations.Operations

/-!
# The other writes of a users document

Sign-up, `UserController.swift:35–60`, and the updates of the profile and of the location,
`UserController.swift:590–637`. A new document is written whole; an update changes fields of
an existing one. The location is written in three steps: the field is deleted, then each
coordinate is added by an array union, which leaves out a coordinate that is there already.
-/

namespace DriveTribe

open Base

/-- What a sign-up draws together for a new account. -/
structure NewAccount where
  firstName : String
  lastName : String
  userName : String
  lastCurrentLocation : List Double
  uuid : UserID
  authID : String
  deriving DecidableEq, Repr

namespace NewAccount

/-- The user in memory, who has no account yet. `UserController.swift:36`. -/
def newUser (x : NewAccount) : User :=
  { firstName := x.firstName, lastName := x.lastName, userName := x.userName
    lastCurrentLocation := x.lastCurrentLocation, uuid := x.uuid }

/-- The document. `UserController.swift:40–53`. -/
def document (x : NewAccount) : UserDocument := { x.newUser with authID := x.authID }.toDocument

/-- It has no relations. -/
@[simp] theorem relation_document (x : NewAccount) (k : RelationKey) :
    x.document.relation k = [] := by
  cases k <;> rfl

end NewAccount

/-- A relation write leaves the location of every document as it is. -/
theorem RelationWrite.location_land {w : RelationWrite} {users users' : Users}
    (h : w.land users = some users') {id : UserID} {d : UserDocument} (hd : users id = some d) :
    ∃ d', users' id = some d' ∧ d'.lastCurrentLocation = d.lastCurrentLocation := by
  obtain ⟨d₀, hd₀, hd₀', hne⟩ := updateData_eq_some h
  by_cases hid : id = w.document
  · subst hid
    rw [hd, Option.some.injEq] at hd₀
    subst hd₀
    refine ⟨_, hd₀', ?_⟩
    cases w.field <;> rfl
  · exact ⟨d, by rw [hne id hid, hd], rfl⟩

/-- A write of a users document that is no relation write. -/
inductive UserWrite where
  | createUser (account : NewAccount)
  | updateUserProfile (user : UserID) (firstName lastName userName carInfo : String)
  | deleteLocation (user : UserID)
  | addLatitude (user : UserID) (latitude : Double)
  | addLongitude (user : UserID) (longitude : Double)
  deriving DecidableEq, Repr

/-- Add a coordinate to the location; a missing field counts as an empty array. -/
def UserDocument.addCoordinate (d : UserDocument) (coordinate : Double) : UserDocument :=
  let location := d.lastCurrentLocation.getD []
  { d with lastCurrentLocation := some (FieldValue.apply location (.arrayUnion coordinate)) }

namespace UserWrite

/-- The user whose document is written. -/
def user : UserWrite → UserID
  | createUser account => account.uuid
  | updateUserProfile user _ _ _ _ | deleteLocation user | addLatitude user _
  | addLongitude user _ => user

/-- The account whose document is created. -/
def account? : UserWrite → Option NewAccount
  | createUser account => some account
  | updateUserProfile _ _ _ _ _ | deleteLocation _ | addLatitude _ _ | addLongitude _ _ => none

/-- What the write makes of the document. -/
def change (w : UserWrite) (d : UserDocument) : UserDocument :=
  match w with
  | createUser account => account.document
  | updateUserProfile _ firstName lastName userName carInfo =>
    { d with
      firstName := some firstName
      lastName := some lastName
      userName := some userName
      carInfo := some carInfo }
  | deleteLocation _ => { d with lastCurrentLocation := none }
  | addLatitude _ x | addLongitude _ x => d.addCoordinate x

/-- The write lands; it fails where an updated document is missing. -/
def land (w : UserWrite) (users : Users) : Option Users :=
  match w with
  | createUser account => some (setData users account.uuid account.document)
  | updateUserProfile _ _ _ _ _ | deleteLocation _ | addLatitude _ _ | addLongitude _ _ =>
    updateData users w.user w.change

section Land
variable {w : UserWrite} {users users' : Users}

/-- A new document is written, or one that is there is changed; no other is touched. -/
theorem land_eq_some (h : w.land users = some users') :
    ((∃ account, w = .createUser account ∧ users' account.uuid = some account.document) ∨
      (∀ account, w ≠ .createUser account) ∧
        ∃ d, users w.user = some d ∧ users' w.user = some (w.change d)) ∧
      ∀ id, id ≠ w.user → users' id = users id := by
  cases w with
  | createUser account =>
    cases h
    exact ⟨.inl ⟨account, rfl, setData_self ..⟩, fun id hid => setData_of_ne _ _ hid⟩
  | updateUserProfile | deleteLocation | addLatitude | addLongitude =>
    obtain ⟨d, hd, hd', hne⟩ := updateData_eq_some h
    exact ⟨.inr ⟨nofun, d, hd, hd'⟩, hne⟩

/-- An update keeps the id, the account and the relation lists. -/
theorem change_keeps (h : ∀ account, w ≠ .createUser account) (d : UserDocument) :
    (w.change d).uuid = d.uuid ∧ (w.change d).authID = d.authID ∧
      ∀ k, (w.change d).relation k = d.relation k := by
  cases w with
  | createUser account => exact absurd rfl (h account)
  | updateUserProfile | deleteLocation | addLatitude | addLongitude =>
    refine ⟨rfl, rfl, fun k => ?_⟩
    cases k <;> rfl

/-- Where no document is created over another, no relation entry changes. -/
theorem has_land (h : w.land users = some users')
    (hnew : ∀ account, w = .createUser account → users account.uuid = none) (e : Entry) :
    users'.has e ↔ users.has e := by
  obtain ⟨hdoc, hne⟩ := land_eq_some h
  by_cases hid : e.document = w.user
  · rcases hdoc with ⟨account, rfl, hd'⟩ | ⟨hupdate, d, hd, hd'⟩
    · have hnone := hnew account rfl
      rw [user] at hid
      simp only [Users.has, hid, hnone, hd', Option.some.injEq, exists_eq_left',
        NewAccount.relation_document, List.not_mem_nil, reduceCtorEq, false_and, exists_false]
    · have hrelation := (change_keeps hupdate d).2.2
      simp only [Users.has, hid, hd, hd', Option.some.injEq, exists_eq_left', hrelation]
  · simp only [Users.has, hne e.document hid]

end Land

end UserWrite

end DriveTribe
