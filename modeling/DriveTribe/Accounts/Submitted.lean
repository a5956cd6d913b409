import DriveTribe.Accounts.ProfileScreen
import DriveTribe.Accounts.Readable

/-!
# The texts of a stored profile

`SignupViewController.swift:205–242` and `ProfileTableListViewController.swift:80–115` let through
the texts of a profile only where the three names are there. Nothing else writes the texts of a
document, and whatever writes them writes all four. So every profile that is stored has been
submitted as a whole on one of the two screens, by its user.
-/

namespace DriveTribe

open Base

/-- What the sign-up screen lets through, where the password has that many characters.
`SignupViewController.swift:208–219`. -/
def SignupViewController.signupButtonTapped (lastCurrentLocation : List Double)
    (userName firstName lastName email : String) (passwordCount : Nat) : Option ProfileViews :=
  if userName = "" ∨ firstName = "" ∨ lastName = "" ∨ email = "" ∨ passwordCount < 6 then none
  else if lastCurrentLocation.length ≠ 0 then some ⟨userName, firstName, lastName, ""⟩
  else none

private theorem SignupViewController.named_of_signupButtonTapped {lastCurrentLocation : List Double}
    {userName firstName lastName email : String} {passwordCount : Nat} {views : ProfileViews}
    (h : signupButtonTapped lastCurrentLocation userName firstName lastName email passwordCount =
      some views) : views.Named := by
  simp only [signupButtonTapped, Option.ite_none_left_eq_some, Option.ite_none_right_eq_some,
    Option.some.injEq, not_or] at h
  obtain ⟨⟨huser, hfirst, hlast, -, -⟩, -, rfl⟩ := h
  exact ⟨huser, hfirst, hlast⟩

/-- The texts of a document, if all are there. -/
def UserDocument.profile? (d : UserDocument) : Option ProfileViews :=
  match d.userName, d.firstName, d.lastName, d.carInfo with
  | some userName, some firstName, some lastName, some carInfo =>
    some ⟨userName, firstName, lastName, carInfo⟩
  | _, _, _, _ => none

/-- The user whose texts are written, and the texts. -/
def UserWrite.profile? : UserWrite → Option (UserID × ProfileViews)
  | .createUser account =>
    some (account.uuid, ⟨account.userName, account.firstName, account.lastName, ""⟩)
  | .updateUserProfile user firstName lastName userName carInfo =>
    some (user, ⟨userName, firstName, lastName, carInfo⟩)
  | .deleteLocation _ | .addLatitude _ _ | .addLongitude _ _ => none

namespace Accounts

/-- The texts that are sent out at an event, and for whom. -/
def submits (s : Accounts) : AccountEvent → Option (UserID × ProfileViews)
  | .accountCreated i _ uuid =>
    (s.signUps[i]?).map fun x => (uuid, ⟨x.userName, x.firstName, x.lastName, ""⟩)
  | .updateUserProfile c firstName lastName userName carInfo =>
    (s.clients c).currentUser.map fun me => (me.uuid, ⟨userName, firstName, lastName, carInfo⟩)
  | _ => none

end Accounts

/-- The accounts with the profile screens of the clients. `submitted` is history: the texts that
were sent out for each user. -/
structure Profiles extends Accounts where
  screens : ClientID → Option ProfileScreen := fun _ => none
  submitted : UserID → List ProfileViews := fun _ => []

/-- What can happen next. -/
inductive ProfilesEvent where
  | account (ev : AccountEvent)
  | signupButtonTapped (c : ClientID) (userName firstName lastName email : String)
    (passwordCount : Nat)
  /-- The profile screen comes up. -/
  | viewDidLoad (c : ClientID)
  | screen (c : ClientID) (ev : ProfileScreenEvent)
  deriving DecidableEq, Repr

/-- The event starts on one of the two screens. -/
def AccountEvent.OfScreen : AccountEvent → Prop
  | .signUp _ _ _ _ | .updateUserProfile _ _ _ _ _ => True
  | _ => False

instance : ∀ ev : AccountEvent, Decidable ev.OfScreen
  | .signUp _ _ _ _ | .updateUserProfile _ _ _ _ _ => .isTrue True.intro
  | .relation _ | .locate _ _ _ | .accountCreated _ _ _ | .accountRefused _
  | .updateUserLocation _ _ | .landUpdate _ | .failUpdate _ | .stop _ => .isFalse id

namespace ProfileScreenEvent

/-- A tap knows whether somebody is logged in. -/
def Fits (currentUser : Option User) : ProfileScreenEvent → Prop
  | .editedButtonTapped loggedIn => loggedIn = currentUser.isSome
  | _ => True

instance (currentUser : Option User) : ∀ ev : ProfileScreenEvent, Decidable (ev.Fits currentUser)
  | .editedButtonTapped loggedIn => inferInstanceAs (Decidable (loggedIn = _))
  | .textFieldShouldBeginEditing _ | .edit _ _ | .updated _ | .runMain => .isTrue True.intro

end ProfileScreenEvent

/-- The texts that an event of the screen sends out. -/
def ProfileScreen.sends (x : ProfileScreen) : ProfileScreenEvent → Option ProfileViews
  | .editedButtonTapped loggedIn => x.saved loggedIn
  | _ => none

namespace Profiles

/-- Add to the history. -/
def record (submitted : UserID → List ProfileViews) :
    Option (UserID × ProfileViews) → UserID → List ProfileViews
  | none => submitted
  | some (id, views) => Function.update submitted id (submitted id ++ [views])

/-- An event of the accounts. -/
def perform (s : Profiles) (ev : AccountEvent) : Option Profiles :=
  (s.toAccounts.step ev).map fun accounts =>
    { s with toAccounts := accounts, submitted := record s.submitted (s.submits ev) }

/-- The end of a process is that of its screen. -/
def closeOn (s : Profiles) : AccountEvent → Profiles
  | .stop c => { s with screens := Function.update s.screens c none }
  | _ => s

/-- One event. -/
def step (s : Profiles) : ProfilesEvent → Option Profiles
  | .account ev => if ev.OfScreen then none else (s.perform ev).map fun t => t.closeOn ev
  | .signupButtonTapped c userName firstName lastName email passwordCount =>
    match SignupViewController.signupButtonTapped (s.lastCurrentLocation c) userName firstName
        lastName email passwordCount with
    | none => some s
    | some views =>
      s.perform (.signUp c views.firstNameTextField views.lastNameTextFiled views.userNameTextField)
  | .viewDidLoad c =>
    some { s with
      screens := Function.update s.screens c
        (ProfileScreen.viewDidLoad (s.clients c).currentUser) }
  | .screen c ev =>
    match s.screens c with
    | none => none
    | some x =>
      if ev.Fits (s.clients c).currentUser then
        (x.step ev).bind fun y =>
          let t : Profiles := { s with screens := Function.update s.screens c (some y) }
          match x.sends ev with
          | none => some t
          | some views =>
            t.perform (.updateUserProfile c views.firstNameTextField views.lastNameTextFiled
              views.userNameTextField views.carInfoTextField)
      else none

end Profiles

/-! ### What a step writes -/

/-- The texts of an event of the two screens. -/
def AccountEvent.texts? : AccountEvent → Option ProfileViews
  | .signUp _ firstName lastName userName => some ⟨userName, firstName, lastName, ""⟩
  | .updateUserProfile _ firstName lastName userName carInfo =>
    some ⟨userName, firstName, lastName, carInfo⟩
  | _ => none

/-- The texts a sign-up waits with. -/
def SignUp.texts (x : SignUp) : ProfileViews := ⟨x.userName, x.firstName, x.lastName, ""⟩

private theorem UserWrite.profile?_change (w : UserWrite) (d : UserDocument) :
    (∃ views, w.profile? = some (w.user, views) ∧ (w.change d).profile? = some views) ∨
      w.profile? = none ∧ (w.change d).profile? = d.profile? := by
  cases w with
  | createUser account => exact .inl ⟨_, rfl, rfl⟩
  | updateUserProfile user firstName lastName userName carInfo => exact .inl ⟨_, rfl, rfl⟩
  | deleteLocation _ | addLatitude _ _ | addLongitude _ _ => exact .inr ⟨rfl, rfl⟩

private theorem RelationWrite.profile?_land {w : RelationWrite} {users users' : Users}
    (h : w.land users = some users') {id : UserID} {d : UserDocument} (hd : users' id = some d) :
    ∃ d₀, users id = some d₀ ∧ d.profile? = d₀.profile? := by
  obtain ⟨d₀, hd₀, hd₀', hne⟩ := updateData_eq_some h
  by_cases hid : id = w.document
  · subst hid
    rw [hd, Option.some.injEq] at hd₀'
    subst hd₀'
    refine ⟨d₀, hd₀, ?_⟩
    cases w.field <;> rfl
  · exact ⟨d, hne id hid ▸ hd, rfl⟩

namespace Accounts
variable {s t : Accounts} {ev : AccountEvent}

private theorem profile?_stopped {c : ClientID} {u : UserUpdate} (hu : u ∈ (s.stopped c).updates) :
    ∃ v ∈ s.updates, u.write.profile? = v.write.profile? := by
  obtain ⟨v, hv, heq⟩ := mem_updates_stopped hu
  exact ⟨v, hv, congrArg UserWrite.profile? heq⟩

private theorem profile?_acknowledge {c : ClientID} {w : UserWrite} {u : UserUpdate}
    (hu : u ∈ (s.acknowledge c w).updates) :
    u.write.profile? = none ∨ ∃ v ∈ s.updates, u.write.profile? = v.write.profile? := by
  cases w with
  | createUser account => exact .inr ⟨u, hu, rfl⟩
  | updateUserProfile _ _ _ _ _ | addLongitude _ _ => exact .inr ⟨u, hu, rfl⟩
  | deleteLocation user | addLatitude user _ =>
    rw [acknowledge] at hu
    split at hu
    · exact .inr (profile?_stopped hu)
    · rcases List.mem_append.mp hu with hu | hu
      · exact .inr ⟨u, hu, rfl⟩
      · rw [List.mem_singleton.mp hu]
        exact .inl rfl

/-- Texts in flight were in flight before, or are sent out at the event. -/
theorem profile?_step (hstep : s.step ev = some t) {u : UserUpdate} (hu : u ∈ t.updates)
    {p : UserID × ProfileViews} (hp : u.write.profile? = some p) :
    (∃ v ∈ s.updates, v.write.profile? = some p) ∨ s.submits ev = some p := by
  cases ev with
  | relation ev =>
    obtain ⟨x, -, rfl⟩ := Option.map_eq_some_iff.mp hstep
    exact .inl ⟨u, hu, hp⟩
  | locate c latitude longitude =>
    cases hstep
    exact .inl ⟨u, hu, hp⟩
  | signUp c firstName lastName userName | accountRefused i =>
    simp only [Accounts.step, Option.ite_none_right_eq_some, Option.some.injEq] at hstep
    obtain ⟨-, rfl⟩ := hstep
    exact .inl ⟨u, hu, hp⟩
  | failUpdate i =>
    simp only [Accounts.step, Option.ite_none_right_eq_some, Option.some.injEq] at hstep
    obtain ⟨-, rfl⟩ := hstep
    exact .inl ⟨u, List.mem_of_mem_eraseIdx hu, hp⟩
  | stop c =>
    cases hstep
    obtain ⟨v, hv, heq⟩ := profile?_stopped hu
    exact .inl ⟨v, hv, heq ▸ hp⟩
  | accountCreated i authID uuid =>
    obtain ⟨x, hx, -, -, rfl⟩ := step_accountCreated hstep
    rcases List.mem_append.mp hu with hu | hu
    · exact .inl ⟨u, hu, hp⟩
    · rw [List.mem_singleton.mp hu] at hp
      refine .inr ?_
      rw [submits, hx, Option.map_some]
      exact hp
  | updateUserProfile c firstName lastName userName carInfo =>
    rcases step_updateUserProfile hstep with rfl | ⟨me, hme, rfl⟩
    · exact .inl ⟨u, hu, hp⟩
    · rcases List.mem_append.mp hu with hu | hu
      · exact .inl ⟨u, hu, hp⟩
      · rw [List.mem_singleton.mp hu] at hp
        refine .inr ?_
        rw [submits, hme, Option.map_some]
        exact hp
  | updateUserLocation c location =>
    rcases step_updateUserLocation hstep with rfl | ⟨me, -, rfl⟩
    · exact .inl ⟨u, hu, hp⟩
    · rcases List.mem_append.mp hu with hu | hu
      · exact .inl ⟨u, hu, hp⟩
      · rw [List.mem_singleton.mp hu] at hp
        cases hp
  | landUpdate i =>
    obtain ⟨v, users, -, -, rfl⟩ := step_landUpdate hstep
    left
    split at hu
    · rcases profile?_acknowledge hu with hnone | ⟨w, hw, heq⟩
      · rw [hnone] at hp
        cases hp
      · exact ⟨w, List.mem_of_mem_eraseIdx hw, heq ▸ hp⟩
    · exact ⟨u, List.mem_of_mem_eraseIdx hu, hp⟩

/-- The texts of a document are those it had, or were in flight. -/
theorem profile?_users_step (hstep : s.step ev = some t) {id : UserID} {d : UserDocument}
    (hd : t.users id = some d) :
    (∃ d₀, s.users id = some d₀ ∧ d.profile? = d₀.profile?) ∨
      ∃ u ∈ s.updates, ∃ views, u.write.profile? = some (id, views) ∧ d.profile? = some views := by
  rcases users_step hstep with ⟨hsame, -⟩ | ⟨i, w, -, -, hland⟩ | ⟨i, u, -, hu, hland⟩
  · exact .inl ⟨d, hsame ▸ hd, rfl⟩
  · exact .inl (RelationWrite.profile?_land hland hd)
  · obtain ⟨hdoc, hne⟩ := UserWrite.land_eq_some hland
    by_cases hid : id = u.write.user
    · subst hid
      have hchange : ∃ d₀, d = u.write.change d₀ ∧
          (u.write.profile? = none → s.users u.write.user = some d₀) := by
        rcases hdoc with ⟨account, hw, hnew⟩ | ⟨-, d₀, hd₀, hnew⟩
        · rw [hw] at hd ⊢
          refine ⟨d, Option.some.inj (hd.symm.trans hnew), fun hnone => ?_⟩
          cases hnone
        · exact ⟨d₀, Option.some.inj (hd.symm.trans hnew), fun _ => hd₀⟩
      obtain ⟨d₀, rfl, hd₀⟩ := hchange
      rcases u.write.profile?_change d₀ with ⟨views, hviews, htexts⟩ | ⟨hnone, htexts⟩
      · exact .inr ⟨u, List.mem_of_getElem? hu, views, hviews, htexts⟩
      · exact .inl ⟨d₀, hd₀ hnone, htexts⟩
    · exact .inl ⟨d, hne id hid ▸ hd, rfl⟩

private theorem signUps_acknowledge {c : ClientID} {w : UserWrite} {x : SignUp}
    (hx : x ∈ (s.acknowledge c w).signUps) : x ∈ s.signUps := by
  cases w with
  | createUser _ | updateUserProfile _ _ _ _ _ | addLongitude _ _ => exact hx
  | deleteLocation _ | addLatitude _ _ =>
    rw [acknowledge] at hx
    split at hx
    · exact (List.mem_filter.mp hx).1
    · exact hx

/-- A sign-up that waits was waiting before, or has just been started. -/
theorem signUps_step (hstep : s.step ev = some t) {x : SignUp} (hx : x ∈ t.signUps) :
    x ∈ s.signUps ∨ ev.texts? = some x.texts := by
  cases ev with
  | relation ev =>
    obtain ⟨y, -, rfl⟩ := Option.map_eq_some_iff.mp hstep
    exact .inl hx
  | locate c latitude longitude =>
    cases hstep
    exact .inl hx
  | signUp c firstName lastName userName =>
    simp only [Accounts.step, Option.ite_none_right_eq_some, Option.some.injEq] at hstep
    obtain ⟨-, rfl⟩ := hstep
    rcases List.mem_append.mp hx with hx | hx
    · exact .inl hx
    · rw [List.mem_singleton.mp hx]
      exact .inr rfl
  | accountRefused i =>
    simp only [Accounts.step, Option.ite_none_right_eq_some, Option.some.injEq] at hstep
    obtain ⟨-, rfl⟩ := hstep
    exact .inl (List.mem_of_mem_eraseIdx hx)
  | failUpdate i =>
    simp only [Accounts.step, Option.ite_none_right_eq_some, Option.some.injEq] at hstep
    obtain ⟨-, rfl⟩ := hstep
    exact .inl hx
  | stop c =>
    cases hstep
    exact .inl (List.mem_filter.mp hx).1
  | accountCreated i authID uuid =>
    obtain ⟨y, -, -, -, rfl⟩ := step_accountCreated hstep
    exact .inl (List.mem_of_mem_eraseIdx hx)
  | updateUserProfile c firstName lastName userName carInfo =>
    rcases step_updateUserProfile hstep with rfl | ⟨me, -, rfl⟩ <;> exact .inl hx
  | updateUserLocation c location =>
    rcases step_updateUserLocation hstep with rfl | ⟨me, -, rfl⟩ <;> exact .inl hx
  | landUpdate i =>
    obtain ⟨v, users, -, -, rfl⟩ := step_landUpdate hstep
    left
    split at hx
    · have hbefore := signUps_acknowledge hx
      exact hbefore
    · exact hx

end Accounts

namespace Profiles
variable {s₀ s t : Profiles} {ev : AccountEvent}

/-- Nothing has been sent out, and nobody is signing up. -/
structure Unused (s : Profiles) : Prop where
  signUps : s.signUps = []
  updates : s.updates = []
  submitted : ∀ id, s.submitted id = []

/-- Every text comes from a screen: the texts of a document are those it began with or were
submitted for its user, those in flight were submitted, and all of them have the three names. -/
structure FromScreens (s₀ s : Profiles) : Prop where
  docs : ∀ id d, s.users id = some d →
    (∃ d₀, s₀.users id = some d₀ ∧ d.profile? = d₀.profile?) ∨
      ∃ views ∈ s.submitted id, d.profile? = some views
  updates : ∀ u ∈ s.updates, ∀ id views, u.write.profile? = some (id, views) →
    views ∈ s.submitted id
  signUps : ∀ x ∈ s.signUps, x.texts.Named
  named : ∀ id, ∀ views ∈ s.submitted id, views.Named

/-- The history is only added to, by what is sent out. -/
theorem mem_record {submitted : UserID → List ProfileViews} {p? : Option (UserID × ProfileViews)}
    {id : UserID} {views : ProfileViews} :
    views ∈ record submitted p? id ↔ views ∈ submitted id ∨ p? = some (id, views) := by
  cases p? with
  | none => simp only [record, reduceCtorEq, or_false]
  | some p =>
    obtain ⟨id', views'⟩ := p
    rw [record, Option.some.injEq, Prod.mk.injEq]
    by_cases hid : id = id'
    · subst hid
      rw [Function.update_self, List.mem_append, List.mem_singleton]
      simp only [true_and, eq_comm]
    · rw [Function.update_of_ne hid]
      simp only [Ne.symm hid, false_and, or_false]

private theorem FromScreens.named_of_submits (h : FromScreens s₀ s)
    (hnamed : ∀ views, ev.texts? = some views → views.Named) {id : UserID} {views : ProfileViews}
    (hsubmits : s.submits ev = some (id, views)) : views.Named := by
  cases ev with
  | accountCreated i authID uuid =>
    obtain ⟨x, hx, heq⟩ := Option.map_eq_some_iff.mp hsubmits
    cases heq
    exact h.signUps x (List.mem_of_getElem? hx)
  | updateUserProfile c firstName lastName userName carInfo =>
    obtain ⟨me, -, heq⟩ := Option.map_eq_some_iff.mp hsubmits
    cases heq
    exact hnamed _ rfl
  | relation _ | locate _ _ _ | signUp _ _ _ _ | accountRefused _ | updateUserLocation _ _
  | landUpdate _ | failUpdate _ | stop _ => cases hsubmits

/-- An event of the accounts whose texts a screen has let through keeps it so. -/
theorem FromScreens.perform (h : FromScreens s₀ s) (hstep : s.perform ev = some t)
    (hnamed : ∀ views, ev.texts? = some views → views.Named) : FromScreens s₀ t := by
  obtain ⟨accounts, haccounts, rfl⟩ := Option.map_eq_some_iff.mp hstep
  refine ⟨fun id d hd => ?_, fun u hu id views hviews => ?_, fun x hx => ?_,
    fun id views hviews => ?_⟩
  · rcases Accounts.profile?_users_step haccounts hd with ⟨d₀, hd₀, heq⟩ | ⟨u, hu, views, hw, heq⟩
    · rcases h.docs id d₀ hd₀ with ⟨d₁, hd₁, heq₁⟩ | ⟨views, hviews, heq₁⟩
      · exact .inl ⟨d₁, hd₁, heq.trans heq₁⟩
      · exact .inr ⟨views, mem_record.mpr (.inl hviews), heq.trans heq₁⟩
    · exact .inr ⟨views, mem_record.mpr (.inl (h.updates u hu id views hw)), heq⟩
  · rcases Accounts.profile?_step haccounts hu hviews with ⟨v, hv, heq⟩ | hsubmits
    · exact mem_record.mpr (.inl (h.updates v hv id views heq))
    · exact mem_record.mpr (.inr hsubmits)
  · rcases Accounts.signUps_step haccounts hx with hx | htexts
    · exact h.signUps x hx
    · exact hnamed _ htexts
  · rcases mem_record.mp hviews with hviews | hsubmits
    · exact h.named id views hviews
    · exact h.named_of_submits hnamed hsubmits

/-- The screens hold no texts that count. -/
theorem FromScreens.congr (h : FromScreens s₀ s) (haccounts : t.toAccounts = s.toAccounts)
    (hsubmitted : t.submitted = s.submitted) : FromScreens s₀ t where
  docs := by
    rw [haccounts, hsubmitted]
    exact h.docs
  updates := by
    rw [haccounts, hsubmitted]
    exact h.updates
  signUps := by
    rw [haccounts]
    exact h.signUps
  named := by
    rw [hsubmitted]
    exact h.named

private theorem named_of_sends {x : ProfileScreen} {ev : ProfileScreenEvent} {views : ProfileViews}
    (h : x.sends ev = some views) : views.Named := by
  cases ev with
  | editedButtonTapped loggedIn =>
    simp only [ProfileScreen.sends, ProfileScreen.saved, Option.ite_none_right_eq_some,
      Option.some.injEq] at h
    obtain ⟨⟨-, hnamed, -⟩, rfl⟩ := h
    exact hnamed
  | textFieldShouldBeginEditing _ | edit _ _ | updated _ | runMain => cases h

/-- Every event keeps it so. -/
theorem FromScreens.step (h : FromScreens s₀ s) {ev : ProfilesEvent}
    (hstep : s.step ev = some t) : FromScreens s₀ t := by
  cases ev with
  | account ev =>
    simp only [Profiles.step, Option.ite_none_left_eq_some] at hstep
    obtain ⟨hscreen, hstep⟩ := hstep
    obtain ⟨x, hx, rfl⟩ := Option.map_eq_some_iff.mp hstep
    have hperformed : FromScreens s₀ x := by
      refine h.perform hx fun views htexts => ?_
      cases ev with
      | signUp _ _ _ _ | updateUserProfile _ _ _ _ _ => exact absurd True.intro hscreen
      | relation _ | locate _ _ _ | accountCreated _ _ _ | accountRefused _
      | updateUserLocation _ _ | landUpdate _ | failUpdate _ | stop _ => cases htexts
    cases ev with
    | stop c => exact hperformed.congr rfl rfl
    | _ => exact hperformed
  | signupButtonTapped c userName firstName lastName email passwordCount =>
    simp only [Profiles.step] at hstep
    split at hstep
    · cases hstep
      exact h
    · next views hviews =>
      refine h.perform hstep fun views' htexts => ?_
      have hnamed := SignupViewController.named_of_signupButtonTapped hviews
      cases htexts
      exact hnamed
  | viewDidLoad c =>
    cases hstep
    exact h.congr rfl rfl
  | screen c ev =>
    simp only [Profiles.step] at hstep
    split at hstep
    · cases hstep
    · next x hx =>
      simp only [Option.ite_none_right_eq_some] at hstep
      obtain ⟨y, hy, hstep⟩ := Option.bind_eq_some_iff.mp hstep.2
      have hscreen : FromScreens s₀ { s with screens := Function.update s.screens c (some y) } :=
        h.congr rfl rfl
      split at hstep
      · cases hstep
        exact hscreen
      · next views hviews =>
        refine hscreen.perform hstep fun views' htexts => ?_
        cases htexts
        exact named_of_sends hviews

end Profiles

end DriveTribe
