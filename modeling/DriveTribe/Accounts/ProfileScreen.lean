import DriveTribe.Accounts.Profile
import DriveTribe.Base.Run

/-!
# The profile screen

`ProfileTableListViewController.swift:25–155`. One button starts and ends the editing of the
profile, and its title is set by other events than the flag it goes by: it becomes Save when the
editing starts, and Edit again only when an update has succeeded.
-/

namespace DriveTribe

open Base

/-- A text field of the profile screen. -/
inductive ProfileField where
  | userName
  | firstName
  | lastName
  | carInfo
  deriving DecidableEq, Repr

namespace ProfileViews

/-- Put a text into a field. -/
def setText (views : ProfileViews) (text : String) : ProfileField → ProfileViews
  | .userName => { views with userNameTextField := text }
  | .firstName => { views with firstNameTextField := text }
  | .lastName => { views with lastNameTextFiled := text }
  | .carInfo => { views with carInfoTextField := text }

/-- The three names are there. -/
def Named (views : ProfileViews) : Prop :=
  views.userNameTextField ≠ "" ∧ views.firstNameTextField ≠ "" ∧ views.lastNameTextFiled ≠ ""

instance (views : ProfileViews) : Decidable views.Named := inferInstanceAs (Decidable (_ ∧ _))

end ProfileViews

/-- The screen. `isUserInteractionEnabled` is that of the four fields; `updates` counts the updates
that are not answered, and `main` the blocks of those that succeeded on the main queue. -/
structure ProfileScreen where
  isEditingProfile : Bool := false
  title : String := "Edit"
  isUserInteractionEnabled : Bool := false
  updatePhotoButtonIsEnabled : Bool := false
  views : ProfileViews
  updates : Nat := 0
  main : Nat := 0
  deriving DecidableEq, Repr

/-- What can happen to the screen next. -/
inductive ProfileScreenEvent where
  | textFieldShouldBeginEditing (field : ProfileField)
  /-- A text is typed. -/
  | edit (field : ProfileField) (text : String)
  | editedButtonTapped (loggedIn : Bool)
  /-- An update is answered. -/
  | updated (success : Bool)
  | runMain
  deriving DecidableEq, Repr

namespace ProfileScreen

/-- `ProfileTableListViewController.swift:29–56`, where a user is logged in. -/
def viewDidLoad (currentUser : Option User) : Option ProfileScreen :=
  (ProfileTableListViewController.populateViews currentUser).map fun views => { views }

/-- What a tap saves. `ProfileTableListViewController.swift:91–98`, `UserController.swift:591`. -/
def saved (x : ProfileScreen) (loggedIn : Bool) : Option ProfileViews :=
  if x.isEditingProfile ∧ x.views.Named ∧ loggedIn then some x.views else none

/-- `ProfileTableListViewController.swift:80–115`. -/
def editedButtonTapped (x : ProfileScreen) (loggedIn : Bool) : ProfileScreen :=
  if x.isEditingProfile then
    { x with
      isEditingProfile := false
      updatePhotoButtonIsEnabled := false
      updates := if (x.saved loggedIn).isSome then x.updates + 1 else x.updates }
  else
    { x with
      isEditingProfile := true
      updatePhotoButtonIsEnabled := true
      title := "Save"
      isUserInteractionEnabled := true }

/-- One event. A field that is tapped is emptied, `ProfileTableListViewController.swift:140–151`. -/
def step (x : ProfileScreen) : ProfileScreenEvent → Option ProfileScreen
  | .textFieldShouldBeginEditing field =>
    if x.isUserInteractionEnabled then some { x with views := x.views.setText "" field } else none
  | .edit field text =>
    if x.isUserInteractionEnabled then some { x with views := x.views.setText text field } else none
  | .editedButtonTapped loggedIn => some (x.editedButtonTapped loggedIn)
  | .updated success =>
    match x.updates with
    | 0 => none
    | n + 1 => some { x with updates := n, main := if success then x.main + 1 else x.main }
  | .runMain =>
    match x.main with
    | 0 => none
    | n + 1 => some { x with main := n, title := "Edit", isUserInteractionEnabled := false }

/-- The title says what a tap does, unless an update is on its way. -/
def Titled (x : ProfileScreen) : Prop :=
  (x.title = "Save" → x.isEditingProfile = true ∨ 0 < x.updates + x.main) ∧
    (x.isEditingProfile = true → x.title = "Save")

/-- The fields can be edited exactly under the title Save, and the photo while editing. -/
def Enabled (x : ProfileScreen) : Prop :=
  (x.isUserInteractionEnabled = true ↔ x.title = "Save") ∧
    x.updatePhotoButtonIsEnabled = x.isEditingProfile

/-- A tap that ends the editing saves, or an update is on its way; the last of these succeeds, or
the user is editing again or has saved; and no success is shown while the user is editing. -/
def Completes (x : ProfileScreen) : ProfileScreenEvent → Prop
  | .editedButtonTapped loggedIn =>
    x.isEditingProfile = true → (x.saved loggedIn).isSome ∨ 0 < x.updates + x.main
  | .updated success =>
    success = true ∨ x.isEditingProfile = true ∨ 1 < x.updates + x.main ∨ x.title ≠ "Save"
  | .runMain => x.isEditingProfile = false
  | .textFieldShouldBeginEditing _ | .edit _ _ => True

instance (x : ProfileScreen) : Decidable x.Titled := inferInstanceAs (Decidable (_ ∧ _))

/-- The two titles differ. -/
theorem edit_ne_save : "Edit" ≠ "Save" := by decide

section Step
variable {x y : ProfileScreen} {ev : ProfileScreenEvent}

/-- What is enabled stays in step with the title and the flag. -/
theorem Enabled.step (h : x.Enabled) (hstep : x.step ev = some y) : y.Enabled := by
  cases ev with
  | textFieldShouldBeginEditing field | edit field text =>
    simp only [ProfileScreen.step, Option.ite_none_right_eq_some, Option.some.injEq] at hstep
    obtain ⟨-, rfl⟩ := hstep
    exact h
  | editedButtonTapped loggedIn =>
    cases hstep
    rw [ProfileScreen.editedButtonTapped]
    split
    · exact ⟨h.1, rfl⟩
    · exact ⟨iff_of_true rfl rfl, rfl⟩
  | updated success =>
    simp only [ProfileScreen.step] at hstep
    split at hstep
    · cases hstep
    · cases hstep
      exact h
  | runMain =>
    simp only [ProfileScreen.step] at hstep
    split at hstep
    · cases hstep
    · cases hstep
      exact ⟨iff_of_false Bool.false_ne_true edit_ne_save, h.2⟩

/-- From a title that says what a tap does, a step leads to such a title exactly if it completes
what was begun. -/
theorem titled_step_iff (h : x.Titled) (hstep : x.step ev = some y) :
    y.Titled ↔ x.Completes ev := by
  obtain ⟨hsave, hediting⟩ := h
  cases ev with
  | textFieldShouldBeginEditing field | edit field text =>
    simp only [step, Option.ite_none_right_eq_some, Option.some.injEq] at hstep
    obtain ⟨-, rfl⟩ := hstep
    exact iff_of_true ⟨hsave, hediting⟩ True.intro
  | editedButtonTapped loggedIn =>
    cases hstep
    rw [Completes, editedButtonTapped]
    cases hflag : x.isEditingProfile with
    | false =>
      rw [if_neg Bool.false_ne_true]
      exact iff_of_true ⟨fun _ => .inl rfl, fun _ => rfl⟩ fun hnot => (Bool.false_ne_true hnot).elim
    | true =>
      rw [if_pos rfl]
      have htitle : x.title = "Save" := hediting hflag
      simp only [Titled, htitle, Bool.false_eq_true, false_or, true_implies, false_implies,
        and_true]
      split
      · next hsaved => exact iff_of_true (by omega) (.inl hsaved)
      · next hsaved => simp only [hsaved, Bool.false_eq_true, false_or]
  | updated success =>
    simp only [step] at hstep
    split at hstep
    · cases hstep
    · next n hn =>
      cases hstep
      rw [Completes, Titled, hn]
      cases success with
      | true =>
        refine iff_of_true ⟨fun _ => .inr ?_, hediting⟩ (.inl rfl)
        simp only [if_true]
        omega
      | false =>
        simp only [Bool.false_eq_true, if_false, false_or]
        constructor
        · rintro ⟨hleft, -⟩
          by_cases htitle : x.title = "Save"
          · rcases hleft htitle with hflag | hpos
            · exact .inl hflag
            · exact .inr (.inl (by omega))
          · exact .inr (.inr htitle)
        · rintro (hflag | hpos | htitle)
          · exact ⟨fun _ => .inl hflag, hediting⟩
          · exact ⟨fun _ => .inr (by omega), hediting⟩
          · exact ⟨fun hsaving => absurd hsaving htitle, hediting⟩
  | runMain =>
    simp only [step] at hstep
    split at hstep
    · cases hstep
    · cases hstep
      rw [Completes, Titled]
      cases x.isEditingProfile with
      | false =>
        refine iff_of_true ⟨fun hnot => ?_, fun hnot => (Bool.false_ne_true hnot).elim⟩ rfl
        exact absurd hnot edit_ne_save
      | true =>
        exact iff_of_false (fun hall => edit_ne_save (hall.2 rfl)) Bool.true_eq_false.mp

end Step

/-- On the profile screen of a user, the fields are enabled exactly under the title Save, in every
state of a run. The title says what a tap does, unless an update is on its way, in every state
exactly if every tap and every answer completes what was begun. -/
theorem titled_iff_completes (me : User) (es : List ProfileScreenEvent) :
    ∃ x, viewDidLoad (some me) = some x ∧ AllStates step Enabled x es ∧
      (AllStates step Titled x es ↔ AllSteps step Completes x es) := by
  refine ⟨_, rfl, ?_, ?_⟩
  · exact allStates_of_invariant (I := Enabled) (fun _ _ _ hs _ ht => hs.step ht) (fun _ hs => hs)
      ⟨iff_of_false Bool.false_ne_true edit_ne_save, rfl⟩ (allSteps_true _ es)
  · exact allStates_iff_allSteps (I := fun _ => True) (fun _ _ _ _ _ => True.intro)
      (fun _ _ _ _ hs ht => titled_step_iff hs ht) True.intro
      ⟨fun hnot => absurd hnot edit_ne_save, fun hnot => (Bool.false_ne_true hnot).elim⟩ es

/-- An emptied name is refused; the next tap under the title Save saves nothing. -/
example : ((viewDidLoad (some (User.signedUp "a"))).bind fun x =>
    run step x [.editedButtonTapped true, .textFieldShouldBeginEditing .userName,
      .editedButtonTapped true, .edit .userName "ann"]).map
      (fun x => (x.title, x.saved true, x.updates)) =
    some ("Save", none, 0) := rfl

end ProfileScreen

end DriveTribe
