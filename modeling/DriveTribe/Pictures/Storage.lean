import DriveTribe.Base.Document
import DriveTribe.Relations.Operations

/-!
# The pictures of the users

`StorageController.swift:18–54`. The picture of a user is kept under a path made of his id. What
is uploaded is the JPEG of the picture that was chosen, and what is shown is what decodes of it.
The two readers differ in what they do when there is no picture: `getImageWith` reports it,
`getImage` calls nobody back.
-/

namespace DriveTribe

open Base

/-- What UIKit writes of an image, and what it reads of data. -/
structure ImageCodec (Image Data : Type) where
  jpegData : Image → Option Data
  image : Data → Option Image

/-- What Firebase Storage holds under each path. -/
abbrev ImageStore (Data : Type) := String → Option Data

/-- What `getData` calls back with. -/
structure DataAnswer (Data : Type) where
  data : Option Data := none
  error : Option String := none
  deriving DecidableEq, Repr

/-- The answer is what the store holds under the path, or an error. -/
def DataAnswer.Of {Data : Type} (store : ImageStore Data) (path : String)
    (answer : DataAnswer Data) : Prop :=
  answer.error.isSome ∨ (answer.data.isSome ∧ answer.data = store path)

instance {Data : Type} [DecidableEq Data] (store : ImageStore Data) (path : String)
    (answer : DataAnswer Data) : Decidable (answer.Of store path) := by
  unfold DataAnswer.Of
  infer_instance

/-- What a call of `getImage` comes to. -/
inductive ImageResult (Image : Type) where
  /-- `data!` is unwrapped and there is none. -/
  | traps
  /-- `completion` is not called. -/
  | silent
  | completes (image : Image)
  deriving DecidableEq, Repr

section Codec
variable {Image Data : Type} (codec : ImageCodec Image Data)

namespace StorageController

/-- Where the picture of a user is kept. `StorageController.swift:20`, `:31`, `:43`. -/
def path (userID : UserID) : String := userID ++ ".png"

/-- What is uploaded, and where; an image that cannot be encoded is not.
`StorageController.swift:18–21`. -/
def storeImage (user : UserID) (image : Image) : Option (String × Data) :=
  (codec.jpegData image).map fun data => (path user, data)

/-- `StorageController.swift:30–40`. -/
def getImage (answer : DataAnswer Data) : ImageResult Image :=
  match answer.error, answer.data with
  | some _, _ => .silent
  | none, none => .traps
  | none, some data =>
    match codec.image data with
    | none => .silent
    | some image => .completes image

/-- `StorageController.swift:42–54`. -/
def getImageWith (answer : DataAnswer Data) : Except NetworkError Image :=
  match answer.error, answer.data with
  | some error, _ => .error (.thrownError error)
  | none, none => .error .noData
  | none, some data =>
    match codec.image data with
    | none => .error .unableToDecode
    | some image => .ok image

private theorem path_inj {user user' : UserID} : path user = path user' ↔ user = user' :=
  String.append_left_inj ".png"

variable {codec}

/-- The two readers deliver the same pictures. -/
theorem getImage_eq_completes_iff {answer : DataAnswer Data} {image : Image} :
    getImage codec answer = .completes image ↔ getImageWith codec answer = .ok image := by
  obtain ⟨data, error⟩ := answer
  cases error with
  | some error => simp only [getImage, getImageWith, reduceCtorEq]
  | none =>
    cases data with
    | none => simp only [getImage, getImageWith, reduceCtorEq]
    | some data =>
      simp only [getImage, getImageWith]
      cases codec.image data with
      | none => simp only [reduceCtorEq]
      | some read => simp only [ImageResult.completes.injEq, Except.ok.injEq]

private theorem getImageWith_eq_ok {answer : DataAnswer Data} {image : Image}
    (h : getImageWith codec answer = .ok image) :
    answer.error = none ∧ ∃ data, answer.data = some data ∧ codec.image data = some image := by
  obtain ⟨data, error⟩ := answer
  cases error with
  | some error => simp only [getImageWith, reduceCtorEq] at h
  | none =>
    cases data with
    | none => simp only [getImageWith, reduceCtorEq] at h
    | some data =>
      refine ⟨rfl, data, rfl, ?_⟩
      simp only [getImageWith] at h
      cases hread : codec.image data with
      | none => simp only [hread, reduceCtorEq] at h
      | some read =>
        simp only [hread, Except.ok.injEq] at h
        rw [h]

end StorageController

/-- The pictures that were uploaded, oldest first, and what is stored of them. -/
structure Pictures (Image Data : Type) where
  store : ImageStore Data := fun _ => none
  uploads : List (UserID × Image) := []

namespace Pictures
variable {codec} (x : Pictures Image Data)

/-- A picture of the user lands in the store. -/
def upload (codec : ImageCodec Image Data) (x : Pictures Image Data) (user : UserID)
    (image : Image) : Pictures Image Data :=
  match StorageController.storeImage codec user image with
  | none => x
  | some (path, data) =>
    { store := Function.update x.store path (some data), uploads := x.uploads ++ [(user, image)] }

/-- The image is what is read of a picture that was uploaded for the user. -/
def OfUser (codec : ImageCodec Image Data) (x : Pictures Image Data) (user : UserID)
    (image : Image) : Prop :=
  ∃ chosen data, (user, chosen) ∈ x.uploads ∧ codec.jpegData chosen = some data ∧
    codec.image data = some image

/-- What is stored under the path of a user is a picture that was uploaded for him. -/
def Sound (codec : ImageCodec Image Data) (x : Pictures Image Data) : Prop :=
  ∀ user data, x.store (StorageController.path user) = some data →
    ∃ chosen, (user, chosen) ∈ x.uploads ∧ codec.jpegData chosen = some data

variable {x}

private theorem store_upload_of_ne {user user' : UserID} (h : user' ≠ user) (image : Image) :
    (x.upload codec user image).store (StorageController.path user') =
      x.store (StorageController.path user') := by
  unfold upload StorageController.storeImage
  cases codec.jpegData image with
  | none => rfl
  | some data =>
    apply Function.update_of_ne
    exact fun hpath => h (StorageController.path_inj.mp hpath)

/-- Uploads only add to what was uploaded. -/
theorem uploads_upload (user : UserID) (image : Image) :
    x.uploads <+: (x.upload codec user image).uploads := by
  unfold upload
  split
  · exact List.prefix_rfl
  · exact List.prefix_append ..

/-- An image of a user stays one. -/
theorem OfUser.mono {y : Pictures Image Data} (h : x.uploads <+: y.uploads) {user : UserID}
    {image : Image} (himage : x.OfUser codec user image) : y.OfUser codec user image := by
  obtain ⟨chosen, data, hmem, hdata, hread⟩ := himage
  exact ⟨chosen, data, h.subset hmem, hdata, hread⟩

/-- Every path holds a picture of its own user, whatever is uploaded. -/
theorem Sound.upload (h : x.Sound codec) (user : UserID) (image : Image) :
    (x.upload codec user image).Sound codec := by
  intro user' data hdata
  by_cases huser : user' = user
  · subst huser
    unfold Pictures.upload StorageController.storeImage at hdata ⊢
    cases hjpeg : codec.jpegData image with
    | none =>
      rw [hjpeg] at hdata
      exact h user' data hdata
    | some new =>
      rw [hjpeg] at hdata
      simp only [Option.map_some, Function.update_self, Option.some.injEq] at hdata
      subst hdata
      exact ⟨image, List.mem_append_right _ (List.mem_singleton.mpr rfl), hjpeg⟩
  · rw [store_upload_of_ne huser] at hdata
    obtain ⟨chosen, hmem, hchosen⟩ := h user' data hdata
    exact ⟨chosen, (uploads_upload user image).subset hmem, hchosen⟩

/-- So whatever is delivered for a user is a picture of that user. -/
theorem Sound.ofUser (h : x.Sound codec) {user : UserID} {answer : DataAnswer Data}
    (hanswer : answer.Of x.store (StorageController.path user)) {image : Image}
    (hread : StorageController.getImageWith codec answer = .ok image) :
    x.OfUser codec user image := by
  obtain ⟨herror, data, hdata, himage⟩ := StorageController.getImageWith_eq_ok hread
  rcases hanswer with hsome | ⟨-, hstore⟩
  · rw [herror] at hsome
    cases hsome
  · rw [hdata] at hstore
    obtain ⟨chosen, hmem, hjpeg⟩ := h user data hstore.symm
    exact ⟨chosen, data, hmem, hjpeg, himage⟩

end Pictures
end Codec

end DriveTribe
