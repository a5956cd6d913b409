import DriveTribe.Base.Run
import DriveTribe.Carpools.Flow
import DriveTribe.Pictures.Storage

/-!
# Pictures in reused cells

A table draws its rows in cells that it uses again. A cell that is drawn for a user shows a
placeholder, or the picture kept in the cache, or asks for the picture; when that arrives it is
put into the cell, whoever the cell is drawn for by then.
`FriendListTableViewController.swift:85–187`, `BlockedUsersTableViewController.swift:51–67`,
`PassengerCollectionViewCell.swift:90–112`.
-/

namespace DriveTribe

open Base

/-- What the image view of a cell shows; of a picture it is remembered for whom it was read. -/
inductive CellImage (Image : Type) where
  | blank
  | placeholder
  | picture (owner : UserID) (image : Image)
  deriving DecidableEq, Repr

/-- A cell: the user its label names, and its image. -/
structure PictureCell (Image : Type) where
  user : Option UserID := none
  image : CellImage Image := .blank
  deriving DecidableEq, Repr

/-- The cache a cell keeps pictures in, if it does. -/
abbrev CacheScope (K : Type) := CellID → Option K

/-- All cells of the friend list share one cache. `FriendListTableViewController.swift:92–184`. -/
def FriendListTableViewController.imageCache : CacheScope Unit := fun _ => some ()

/-- The blocked users are drawn without a cache. `BlockedUsersTableViewController.swift:55–64`. -/
def BlockedUsersTableViewController.imageCache : CacheScope Unit := fun _ => none

/-- Every passenger cell has a cache of its own. `PassengerCollectionViewCell.swift:12`. -/
def PassengerCollectionViewCell.imageCache : CacheScope CellID := some

/-- The cells of a screen, the pictures they have asked for, and those that wait on the main
queue. -/
structure PictureRows (K Image Data : Type) where
  pictures : Pictures Image Data := {}
  cells : CellID → PictureCell Image := fun _ => {}
  cache : K → UserID → Option Image := fun _ _ => none
  reads : List (CellID × UserID) := []
  main : List (CellID × UserID × Image) := []

/-- What can happen to the cells next. -/
inductive PictureEvent (K Image Data : Type) where
  /-- Somebody uploads a picture. -/
  | uploaded (user : UserID) (image : Image)
  /-- The cell is drawn for the user. -/
  | configure (cell : CellID) (user : UserID)
  | prepareForReuse (cell : CellID)
  /-- The `i`-th picture that was asked for arrives. -/
  | answered (i : Nat) (answer : DataAnswer Data)
  /-- The main queue runs its next block. -/
  | runMain
  /-- The system empties a place of a cache. -/
  | evict (scope : K) (user : UserID)
  deriving DecidableEq, Repr

namespace PictureRows
variable {K Image Data : Type} [DecidableEq K] [DecidableEq Data]

/-- The picture of the user in the cache of the cell. -/
def cached (scope : CacheScope K) (s : PictureRows K Image Data) (cell : CellID) (user : UserID) :
    Option Image :=
  (scope cell).bind fun k => s.cache k user

/-- Draw a cell for a user. -/
def configure (scope : CacheScope K) (s : PictureRows K Image Data) (cell : CellID)
    (user : UserID) : PictureRows K Image Data :=
  match s.cached scope cell user with
  | some image =>
    { s with cells := Function.update s.cells cell ⟨some user, .picture user image⟩ }
  | none =>
    { s with
      cells := Function.update s.cells cell ⟨some user, .placeholder⟩
      reads := s.reads ++ [(cell, user)] }

/-- Put a picture into the cell it was asked for, and into the cache of the cell. -/
def arrive (scope : CacheScope K) (s : PictureRows K Image Data) (cell : CellID) (user : UserID)
    (image : Image) : PictureRows K Image Data :=
  { s with
    cells := Function.update s.cells cell { s.cells cell with image := .picture user image }
    cache :=
      match scope cell with
      | none => s.cache
      | some k => Function.update s.cache k (Function.update (s.cache k) user (some image)) }

/-- One event. An answer that traps ends the app. -/
def step (codec : ImageCodec Image Data) (scope : CacheScope K) (s : PictureRows K Image Data) :
    PictureEvent K Image Data → Option (PictureRows K Image Data)
  | .uploaded user image => some { s with pictures := s.pictures.upload codec user image }
  | .configure cell user => some (s.configure scope cell user)
  | .prepareForReuse cell =>
    some { s with
      cells := Function.update s.cells cell { s.cells cell with image := .blank } }
  | .answered i answer =>
    match s.reads[i]? with
    | none => none
    | some (cell, user) =>
      if answer.Of s.pictures.store (StorageController.path user) then
        match StorageController.getImage codec answer with
        | .traps => none
        | .silent => some { s with reads := s.reads.eraseIdx i }
        | .completes image => some { s with
            reads := s.reads.eraseIdx i
            main := s.main ++ [(cell, user, image)] }
      else none
  | .runMain =>
    match s.main with
    | [] => none
    | (cell, user, image) :: rest => some ({ s with main := rest }.arrive scope cell user image)
  | .evict k user =>
    some { s with cache := Function.update s.cache k (Function.update (s.cache k) user none) }

/-- Every cell that shows a picture shows that of the user it is drawn for. -/
def Right (s : PictureRows K Image Data) : Prop :=
  ∀ cell owner image, (s.cells cell).image = .picture owner image → (s.cells cell).user = some owner

/-- The picture that is put into a cell next is that of the user the cell is drawn for by then. -/
def InTime (s : PictureRows K Image Data) : PictureEvent K Image Data → Prop
  | .runMain => ∀ x ∈ s.main.head?, (s.cells x.1).user = some x.2.1
  | _ => True

instance (s : PictureRows K Image Data) : ∀ ev, Decidable (s.InTime ev)
  | .runMain => inferInstanceAs (Decidable (∀ x ∈ s.main.head?, (s.cells x.1).user = some x.2.1))
  | .uploaded _ _ | .configure _ _ | .prepareForReuse _ | .answered _ _ | .evict _ _ =>
    .isTrue True.intro

/-- Whatever is shown, kept or on its way for a user was uploaded for him. -/
structure Own (codec : ImageCodec Image Data) (s : PictureRows K Image Data) : Prop where
  stored : s.pictures.Sound codec
  shown : ∀ cell owner image, (s.cells cell).image = .picture owner image →
    s.pictures.OfUser codec owner image
  kept : ∀ k user image, s.cache k user = some image → s.pictures.OfUser codec user image
  waiting : ∀ x ∈ s.main, s.pictures.OfUser codec x.2.1 x.2.2

section Step
variable {codec : ImageCodec Image Data} {scope : CacheScope K} {s t : PictureRows K Image Data}
  {ev : PictureEvent K Image Data}

/-- An answer takes its read away; its image, if it has one, waits for the main queue. -/
theorem step_answered {i : Nat} {answer : DataAnswer Data}
    (h : s.step codec scope (.answered i answer) = some t) :
    t = { s with reads := s.reads.eraseIdx i } ∨
      ∃ cell user image, s.reads[i]? = some (cell, user) ∧
        answer.Of s.pictures.store (StorageController.path user) ∧
        StorageController.getImage codec answer = .completes image ∧
        t = { s with reads := s.reads.eraseIdx i, main := s.main ++ [(cell, user, image)] } := by
  simp only [step] at h
  split at h
  · cases h
  · next cell user hread =>
    simp only [Option.ite_none_right_eq_some] at h
    obtain ⟨hof, h⟩ := h
    split at h
    · cases h
    · exact .inl (Option.some.inj h).symm
    · next image himage =>
      exact .inr ⟨cell, user, image, hread, hof, himage, (Option.some.inj h).symm⟩

/-- The main queue puts its first picture into its cell. -/
theorem step_runMain (h : s.step codec scope .runMain = some t) :
    ∃ cell user image rest, s.main = (cell, user, image) :: rest ∧
      t = ({ s with main := rest } : PictureRows K Image Data).arrive scope cell user image := by
  simp only [step] at h
  split at h
  · cases h
  · next cell user image rest hmain =>
    exact ⟨cell, user, image, rest, hmain, (Option.some.inj h).symm⟩

omit [DecidableEq K] [DecidableEq Data] in
/-- A cell whose image changed shows what it was changed to; the others show what they did. -/
theorem right_update {cell : CellID} {new : PictureCell Image} (h : s.Right)
    (hnew : ∀ owner image, new.image = .picture owner image → new.user = some owner) :
    ∀ cell' owner image, (Function.update s.cells cell new cell').image = .picture owner image →
      (Function.update s.cells cell new cell').user = some owner := by
  intro cell' owner image himage
  by_cases hcell : cell' = cell
  · subst hcell
    rw [Function.update_self] at himage ⊢
    exact hnew owner image himage
  · rw [Function.update_of_ne hcell] at himage ⊢
    exact h cell' owner image himage

/-- A step from a state in which every cell is right leads to one exactly if the picture that
arrives is in time. -/
theorem right_step_iff (h : s.Right) (hstep : s.step codec scope ev = some t) :
    t.Right ↔ s.InTime ev := by
  cases ev with
  | uploaded user image =>
    cases hstep
    exact iff_of_true h True.intro
  | evict k user =>
    cases hstep
    exact iff_of_true h True.intro
  | answered i answer =>
    refine iff_of_true ?_ True.intro
    rcases step_answered hstep with rfl | ⟨cell, user, image, -, -, -, rfl⟩
    · exact h
    · exact h
  | prepareForReuse cell =>
    cases hstep
    exact iff_of_true (right_update h (by rintro owner image ⟨⟩)) True.intro
  | configure cell user =>
    cases hstep
    refine iff_of_true ?_ True.intro
    unfold configure
    split
    · apply right_update h
      rintro owner image ⟨⟩
      rfl
    · apply right_update h
      rintro owner image ⟨⟩
  | runMain =>
    obtain ⟨cell, user, image, rest, hmain, rfl⟩ := step_runMain hstep
    -- The block sets its picture whoever the cell is drawn for by now.
    simp only [InTime, hmain, List.head?_cons, Option.mem_some_iff, forall_eq']
    constructor
    · intro hright
      have hcell := hright cell user image (by simp only [arrive, Function.update_self])
      simpa only [arrive, Function.update_self] using hcell
    · intro hcell
      apply right_update h
      rintro owner image' himage
      cases himage
      exact hcell

omit [DecidableEq K] [DecidableEq Data] in
/-- What a cell finds in its cache was uploaded for the user. -/
theorem Own.cached (h : s.Own codec) {cell : CellID} {user : UserID} {image : Image}
    (hcached : s.cached scope cell user = some image) : s.pictures.OfUser codec user image := by
  obtain ⟨k, -, hkept⟩ := Option.bind_eq_some_iff.mp hcached
  exact h.kept k user image hkept

omit [DecidableEq K] [DecidableEq Data] in
/-- So do all cells, if the one that changed shows such a picture or none. -/
theorem Own.shown_update (h : s.Own codec) {cell : CellID} {new : PictureCell Image}
    (hnew : ∀ owner image, new.image = .picture owner image →
      s.pictures.OfUser codec owner image) :
    ∀ cell' owner image, (Function.update s.cells cell new cell').image = .picture owner image →
      s.pictures.OfUser codec owner image := by
  intro cell' owner image himage
  by_cases hcell : cell' = cell
  · subst hcell
    rw [Function.update_self] at himage
    exact hnew owner image himage
  · rw [Function.update_of_ne hcell] at himage
    exact h.shown cell' owner image himage

omit [DecidableEq Data] in
/-- A picture that arrives is kept as that of its user. -/
theorem Own.arrive (h : s.Own codec) {cell : CellID} {user : UserID} {image : Image}
    (himage : s.pictures.OfUser codec user image) : (s.arrive scope cell user image).Own codec where
  stored := h.stored
  shown := by
    apply h.shown_update
    rintro owner image' heq
    cases heq
    exact himage
  kept k user' image' hkept := by
    cases hscope : scope cell with
    | none =>
      simp only [PictureRows.arrive, hscope] at hkept
      exact h.kept k user' image' hkept
    | some k' =>
      simp only [PictureRows.arrive, hscope] at hkept
      by_cases hk : k = k'
      · subst hk
        rw [Function.update_self] at hkept
        by_cases huser : user' = user
        · subst huser
          rw [Function.update_self, Option.some.injEq] at hkept
          exact hkept ▸ himage
        · rw [Function.update_of_ne huser] at hkept
          exact h.kept k user' image' hkept
      · rw [Function.update_of_ne hk] at hkept
        exact h.kept k user' image' hkept
  waiting := h.waiting

/-- Every step keeps each user's pictures with him. -/
theorem Own.step (h : s.Own codec) (hstep : s.step codec scope ev = some t) : t.Own codec := by
  cases ev with
  | uploaded user image =>
    cases hstep
    have hmore : s.pictures.uploads <+: (s.pictures.upload codec user image).uploads :=
      Pictures.uploads_upload user image
    exact ⟨h.stored.upload user image,
      fun cell owner image himage => (h.shown cell owner image himage).mono hmore,
      fun k user image hkept => (h.kept k user image hkept).mono hmore,
      fun x hx => (h.waiting x hx).mono hmore⟩
  | prepareForReuse cell =>
    cases hstep
    exact ⟨h.stored, h.shown_update (by rintro owner image ⟨⟩), h.kept, h.waiting⟩
  | configure cell user =>
    cases hstep
    unfold configure
    split
    · next image hcached =>
      refine ⟨h.stored, h.shown_update ?_, h.kept, h.waiting⟩
      rintro owner image' heq
      cases heq
      exact h.cached hcached
    · exact ⟨h.stored, h.shown_update (by rintro owner image ⟨⟩), h.kept, h.waiting⟩
  | evict k user =>
    cases hstep
    refine ⟨h.stored, h.shown, fun k' user' image hkept => ?_, h.waiting⟩
    by_cases hk : k' = k
    · subst hk
      by_cases huser : user' = user
      · subst huser
        simp only [Function.update_self, reduceCtorEq] at hkept
      · simp only [Function.update_self, Function.update_of_ne huser] at hkept
        exact h.kept k' user' image hkept
    · simp only [Function.update_of_ne hk] at hkept
      exact h.kept k' user' image hkept
  | answered i answer =>
    rcases step_answered hstep with rfl | ⟨cell, user, image, -, hof, himage, rfl⟩
    · exact ⟨h.stored, h.shown, h.kept, h.waiting⟩
    · refine ⟨h.stored, h.shown, h.kept, fun x hx => ?_⟩
      rcases List.mem_append.mp hx with hx | hx
      · exact h.waiting x hx
      · rw [List.mem_singleton.mp hx]
        exact h.stored.ofUser hof (StorageController.getImage_eq_completes_iff.mp himage)
  | runMain =>
    obtain ⟨cell, user, image, rest, hmain, rfl⟩ := step_runMain hstep
    have hrest : ∀ x ∈ rest, s.pictures.OfUser codec x.2.1 x.2.2 := by
      intro x hx
      exact h.waiting x (hmain ▸ List.mem_cons_of_mem _ hx)
    have himage : s.pictures.OfUser codec user image :=
      h.waiting (cell, user, image) (hmain ▸ List.mem_cons_self)
    have hnext : Own codec { s with main := rest } := ⟨h.stored, h.shown, h.kept, hrest⟩
    exact hnext.arrive himage

end Step

omit [DecidableEq K] [DecidableEq Data] in
private theorem own_start (codec : ImageCodec Image Data) :
    Own codec ({} : PictureRows K Image Data) where
  stored _ _ h := nomatch h
  shown _ _ _ h := nomatch h
  kept _ _ _ h := nomatch h
  waiting _ h := nomatch h

/-- Whatever the cells of a screen are drawn for, and in whatever order the pictures arrive: a
cache and a cell only ever have pictures that were uploaded for the user they were read for; and
in every state of a run every cell shows its own user's picture, or none, exactly if no picture
arrives in a cell that is drawn for somebody else by then. -/
theorem pictures_shown (codec : ImageCodec Image Data) (scope : CacheScope K)
    (es : List (PictureEvent K Image Data)) :
    (∀ s : PictureRows K Image Data, run (step codec scope) {} es = some s →
      (∀ cell owner image, (s.cells cell).image = .picture owner image →
        s.pictures.OfUser codec owner image) ∧
      ∀ k user image, s.cache k user = some image → s.pictures.OfUser codec user image) ∧
    (AllStates (step codec scope) Right {} es ↔ AllSteps (step codec scope) InTime {} es) := by
  refine ⟨fun s hrun => ?_, ?_⟩
  · have hown : s.Own codec := run_invariant (fun _ _ _ hs ht => hs.step ht) (own_start codec) hrun
    exact ⟨hown.shown, hown.kept⟩
  · refine allStates_iff_allSteps (I := fun _ => True) (fun _ _ _ _ _ => True.intro)
      (fun s ev t _ hs ht => right_step_iff hs ht) True.intro ?_ es
    rintro cell owner image ⟨⟩

/-- The cell of `a` is drawn for `b` before the picture of `a` arrives. -/
example : ¬ AllSteps (step ⟨some, some⟩ BlockedUsersTableViewController.imageCache) InTime {}
    [.uploaded "a" 1, .configure 0 "a", .configure 0 "b", .answered 0 ⟨some 1, none⟩,
      .runMain] := by decide

end PictureRows

end DriveTribe
