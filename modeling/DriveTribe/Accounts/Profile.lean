import DriveTribe.Accounts.System
import DriveTribe.Carpools.Chat

/-!
# The own profile in memory

`UserController.swift:29–64`, `:92–108`, `:590–637`. The user in memory is built by a sign-up or
decoded by a log-in. The updates of the profile and of the location write to the document and
leave the user in memory as it is; the profile screen and the messages of the chat read from it.
-/

namespace DriveTribe

open Base

/-- The fields of the profile screen. -/
structure ProfileViews where
  userNameTextField : String
  firstNameTextField : String
  lastNameTextFiled : String
  carInfoTextField : String
  deriving DecidableEq, Repr

/-- `ProfileTableListViewController.swift:72–78`. -/
def ProfileTableListViewController.populateViews (currentUser : Option User) :
    Option ProfileViews :=
  currentUser.map fun user => ⟨user.userName, user.firstName, user.lastName, user.carInfo⟩

/-- Two users agree on what the updates and the log-in are about. -/
structure User.SameProfile (me stored : User) : Prop where
  firstName : me.firstName = stored.firstName
  lastName : me.lastName = stored.lastName
  userName : me.userName = stored.userName
  carInfo : me.carInfo = stored.carInfo
  lastCurrentLocation : me.lastCurrentLocation = stored.lastCurrentLocation
  authID : me.authID = stored.authID

namespace Accounts

/-- The user in memory agrees with the decoded document; so the profile screen shows the stored
name, and a message that is sent carries it. -/
structure Coherent (s : Accounts) (c : ClientID) (me stored : User) : Prop where
  currentUser : (s.clients c).currentUser = some me
  document : s.user? me.uuid = some stored
  same : me.SameProfile stored
  shows : ∃ views, ProfileTableListViewController.populateViews (s.clients c).currentUser =
    some views ∧ views.userNameTextField = stored.userName
  sends : ∀ (Date Settings : Type) (formatter : DateFormatter Date Settings) (settings : Settings)
    (message : Message Date) (entry : MessageEntry), CarpoolController.sendMessage formatter
      settings (s.clients c).currentUser message = some entry →
        entry.senderUserName = stored.userName

/-- The acknowledgement of the last write of a call. -/
def Acknowledges (s : Accounts) : AccountEvent → Prop
  | .landUpdate i => ∃ u, s.updates[i]? = some u ∧ u.awaited = true ∧
    ((∃ user firstName lastName userName carInfo,
      u.write = .updateUserProfile user firstName lastName userName carInfo) ∨
      ∃ user longitude, u.write = .addLongitude user longitude)
  | _ => False

/-- The user in memory is coherent after each acknowledgement. -/
def CoherentAfter (c : ClientID) (s : Accounts) (e : AccountEvent) : Prop :=
  s.Acknowledges e → ∀ t, s.step e = some t → ∃ me stored, t.Coherent c me stored

/-- The stored location of a user. -/
def location? (s : Accounts) (user : UserID) : Option (List Double) :=
  (s.users user).bind UserDocument.lastCurrentLocation

/-- A write that is acknowledged repeats what `me` holds: the four texts, with the location
stored, or the second coordinate after the first. -/
def Repeats (me : User) (s : Accounts) : AccountEvent → Prop
  | .landUpdate i => ∀ u, s.updates[i]? = some u → u.awaited = true →
    match u.write with
    | .updateUserProfile _ firstName lastName userName carInfo =>
      (firstName = me.firstName ∧ lastName = me.lastName ∧ userName = me.userName ∧
        carInfo = me.carInfo) ∧ s.location? me.uuid = some me.lastCurrentLocation
    | .addLongitude _ longitude =>
      FieldValue.apply ((s.location? me.uuid).getD []) (.arrayUnion longitude) =
        me.lastCurrentLocation
    | _ => True
  | _ => True

/-- The client calls one of the two updates, or a write of one lands. -/
def IsUpdate (c : ClientID) : AccountEvent → Prop
  | .locate c' _ _ | .updateUserProfile c' _ _ _ _ | .updateUserLocation c' _ => c' = c
  | .landUpdate _ => True
  | _ => False

instance (c : ClientID) : ∀ e, Decidable (IsUpdate c e)
  | .locate c' _ _ | .updateUserProfile c' _ _ _ _ | .updateUserLocation c' _ =>
    inferInstanceAs (Decidable (c' = c))
  | .landUpdate _ => .isTrue trivial
  | .relation _ | .signUp _ _ _ _ | .accountCreated _ _ _ | .accountRefused _ | .failUpdate _
  | .stop _ => .isFalse id

/-- `me` has just logged in, as the user of the own document, or signed up. -/
inductive Began (c : ClientID) (me : User) (s : Accounts) : Prop where
  | logIn (s₀ : Accounts) (hupdates : s₀.updates = []) (hme : s₀.user? me.uuid = some me)
    (hstep : s₀.step (.relation (.read (.fetchCurrentUser c me.uuid))) = some s)
  | signUp (s₀ : Accounts) (account : NewAccount)
    (hupdates : s₀.updates = [⟨c, .createUser account, true⟩]) (hme : me = account.newUser)
    (hstep : s₀.step (.landUpdate 0) = some s)

/-- The account is stored as it is in memory. -/
def SameAccount (s : Accounts) (me : User) : Prop :=
  ∃ d, s.users me.uuid = some d ∧ d.authID = some me.authID

/-! ### What is stored -/

/-- The document of a user with other texts and another location. -/
def stored (me : User) (firstName lastName userName carInfo : String)
    (location : Option (List Double)) : UserDocument :=
  { me.toDocument with
    firstName := some firstName
    lastName := some lastName
    userName := some userName
    carInfo := some carInfo
    lastCurrentLocation := location }

section Stored
variable {c : ClientID} {me : User} {s t : Accounts}

private theorem coherent_of_same {user : User} (hme : (s.clients c).currentUser = some me)
    (hdoc : s.user? me.uuid = some user) (hsame : me.SameProfile user) :
    s.Coherent c me user where
  currentUser := hme
  document := hdoc
  same := hsame
  shows := by
    rw [hme]
    exact ⟨_, rfl, hsame.userName⟩
  sends := by
    intro Date Settings formatter settings message entry hentry
    rw [hme, CarpoolController.sendMessage, Option.map_some, Option.some.injEq] at hentry
    subst hentry
    exact hsame.userName

/-- The user in memory is coherent exactly if the texts and the location are those it holds. -/
theorem coherent_iff_stored (hme : (s.clients c).currentUser = some me)
    {firstName lastName userName carInfo : String} {location : Option (List Double)}
    (hdoc : s.users me.uuid = some (stored me firstName lastName userName carInfo location)) :
    (∃ me' user, s.Coherent c me' user) ↔
      (firstName = me.firstName ∧ lastName = me.lastName ∧ userName = me.userName ∧
        carInfo = me.carInfo) ∧ location = some me.lastCurrentLocation := by
  have huser : s.user? me.uuid = location.map fun lastCurrentLocation =>
      { me with firstName, lastName, userName, carInfo, lastCurrentLocation } := by
    rw [Session.user?, hdoc]
    cases location <;> rfl
  constructor
  · rintro ⟨me', user, h⟩
    have hsame : me' = me := Option.some.inj (h.currentUser.symm.trans hme)
    subst hsame
    have hdocument := h.document
    rw [huser] at hdocument
    obtain ⟨lastCurrentLocation, rfl, rfl⟩ := Option.map_eq_some_iff.mp hdocument
    exact ⟨⟨h.same.firstName.symm, h.same.lastName.symm, h.same.userName.symm,
      h.same.carInfo.symm⟩, congrArg some h.same.lastCurrentLocation.symm⟩
  · rintro ⟨⟨rfl, rfl, rfl, rfl⟩, rfl⟩
    exact ⟨me, me, coherent_of_same hme huser ⟨rfl, rfl, rfl, rfl, rfl, rfl⟩⟩

end Stored

/-! ### What the updates do -/

/-- The document of a user with another location. -/
def located (me : User) (location : Option (List Double)) : UserDocument :=
  stored me me.firstName me.lastName me.userName me.carInfo location

/-- The client is at work on the own document, whose texts are as in memory. -/
structure Working (c : ClientID) (me : User) (s : Accounts) : Prop where
  currentUser : (s.clients c).currentUser = some me
  document : ∃ location, s.users me.uuid = some (located me location)
  updates : ∀ u ∈ s.updates, u.client = c ∧ u.awaited = true ∧ u.write.user = me.uuid ∧
    ∀ account, u.write ≠ .createUser account

/-- The app has stopped, and no acknowledgement is awaited. -/
structure Ended (c : ClientID) (s : Accounts) : Prop where
  currentUser : (s.clients c).currentUser = none
  updates : ∀ u ∈ s.updates, u.awaited = false

section Steps
variable {c : ClientID} {me : User} {s t : Accounts} {e : AccountEvent}

/-- A stopped app does nothing more. -/
theorem Ended.step (h : Ended c s) (he : IsUpdate c e) (hstep : s.step e = some t) : Ended c t := by
  cases e with
  | locate c' latitude longitude =>
    cases hstep
    exact ⟨h.currentUser, h.updates⟩
  | updateUserProfile c' firstName lastName userName carInfo =>
    obtain rfl : c' = c := he
    rcases step_updateUserProfile hstep with rfl | ⟨me, hme, -⟩
    · exact h
    · rw [h.currentUser] at hme
      cases hme
  | updateUserLocation c' location =>
    obtain rfl : c' = c := he
    rcases step_updateUserLocation hstep with rfl | ⟨me, hme, -⟩
    · exact h
    · rw [h.currentUser] at hme
      cases hme
  | landUpdate i =>
    obtain ⟨u, users, hu, -, rfl⟩ := step_landUpdate hstep
    rw [h.updates u (List.mem_of_getElem? hu), if_neg Bool.false_ne_true]
    exact ⟨h.currentUser, fun v hv => h.updates v (List.mem_of_mem_eraseIdx hv)⟩
  | _ => exact absurd he id

private theorem Ended.not_acknowledges (h : Ended c s) : ¬ s.Acknowledges e := by
  cases e with
  | landUpdate i =>
    rintro ⟨u, hu, hawaited, -⟩
    rw [h.updates u (List.mem_of_getElem? hu)] at hawaited
    cases hawaited
  | _ => exact id

private theorem Ended.repeats (h : Ended c s) : Repeats me s e := by
  cases e with
  | landUpdate i =>
    intro u hu hawaited
    rw [h.updates u (List.mem_of_getElem? hu)] at hawaited
    cases hawaited
  | _ => trivial

namespace Working

/-- One more write of the own document is sent out. -/
theorem send (h : Working c me s) {w : UserWrite} (huser : w.user = me.uuid)
    (hw : ∀ account, w ≠ .createUser account) : Working c me (s.send c w) where
  currentUser := h.currentUser
  document := h.document
  updates := by
    intro u hu
    rcases List.mem_append.mp hu with hu | hu
    · exact h.updates u hu
    · rw [List.mem_singleton.mp hu]
      exact ⟨rfl, rfl, huser, hw⟩

/-- The app stops, and what it has sent out is no longer awaited. -/
theorem stopped (h : Working c me s) : Ended c (s.stopped c) where
  currentUser := by
    change (Function.update s.clients c Client.loggedOut c).currentUser = none
    rw [Function.update_self]
    rfl
  updates := by
    intro u hu
    obtain ⟨v, hv, rfl⟩ := List.mem_map.mp hu
    rw [if_pos (h.updates v hv).1]

/-- A write that lands is the client's own, and the others are still in flight. -/
theorem land (h : Working c me s) {i : Nat} (hstep : s.step (.landUpdate i) = some t) :
    ∃ u users location, s.updates[i]? = some u ∧ u.awaited = true ∧ u.write.user = me.uuid ∧
      (∀ account, u.write ≠ .createUser account) ∧
      s.users me.uuid = some (located me location) ∧
      users me.uuid = some (u.write.change (located me location)) ∧
      t = { s with users, updates := s.updates.eraseIdx i }.acknowledge c u.write := by
  obtain ⟨u, users, hu, hland, rfl⟩ := step_landUpdate hstep
  obtain ⟨hclient, hawaited, huser, hnew⟩ := h.updates u (List.mem_of_getElem? hu)
  obtain ⟨location, hdoc⟩ := h.document
  obtain ⟨hdocs, -⟩ := UserWrite.land_eq_some hland
  rcases hdocs with ⟨account, hcreate, -⟩ | ⟨-, d, hd, hd'⟩
  · exact absurd hcreate (hnew account)
  · rw [huser] at hd hd'
    rw [hdoc, Option.some.injEq] at hd
    subst hd
    refine ⟨u, users, location, hu, hawaited, huser, hnew, hdoc, hd', ?_⟩
    rw [hawaited, if_pos rfl, hclient]

/-- The state in which a write has landed that leaves the texts alone. -/
theorem landed (h : Working c me s) {users : Users} {location : Option (List Double)}
    (hdoc : users me.uuid = some (located me location)) (i : Nat) :
    Working c me { s with users, updates := s.updates.eraseIdx i } where
  currentUser := h.currentUser
  document := ⟨location, hdoc⟩
  updates u hu := h.updates u (List.mem_of_mem_eraseIdx hu)

/-- Every step keeps the client at work or stops the app, where it repeats what is held. -/
theorem step (h : Working c me s) (he : IsUpdate c e) (hrepeats : Repeats me s e)
    (hstep : s.step e = some t) : Working c me t ∨ Ended c t := by
  cases e with
  | locate c' latitude longitude =>
    cases hstep
    exact .inl ⟨h.currentUser, h.document, h.updates⟩
  | updateUserProfile c' firstName lastName userName carInfo =>
    obtain rfl : c' = c := he
    rcases step_updateUserProfile hstep with rfl | ⟨me', hme, rfl⟩
    · exact .inl h
    · obtain rfl := Option.some.inj (hme.symm.trans h.currentUser)
      exact .inl (h.send rfl (fun account heq => by cases heq))
  | updateUserLocation c' location =>
    obtain rfl : c' = c := he
    rcases step_updateUserLocation hstep with rfl | ⟨me', hme, rfl⟩
    · exact .inl h
    · obtain rfl := Option.some.inj (hme.symm.trans h.currentUser)
      let arguments := Function.update s.arguments me'.uuid (s.arguments me'.uuid ++ [location])
      have hcalled : Working c' me' { s with arguments } := ⟨h.currentUser, h.document, h.updates⟩
      exact .inl (hcalled.send rfl (fun account heq => by cases heq))
  | landUpdate i =>
    obtain ⟨⟨client, write, awaited⟩, users, location, hu, hawaited, huser, hnew, -, hdoc, rfl⟩ :=
      h.land hstep
    cases write with
    | createUser account => exact absurd rfl (hnew account)
    | updateUserProfile user firstName lastName userName carInfo =>
      obtain ⟨⟨rfl, rfl, rfl, rfl⟩, -⟩ := hrepeats _ hu hawaited
      exact .inl (h.landed hdoc i)
    | deleteLocation user =>
      have hnone : users me.uuid = some (located me none) := hdoc
      have hlanded := h.landed hnone i
      rw [acknowledge]
      split
      · exact .inr hlanded.stopped
      · exact .inl (hlanded.send huser (fun account heq => by cases heq))
    | addLatitude user latitude =>
      have hlatitude : users me.uuid = some (located me (some _)) := hdoc
      have hlanded := h.landed hlatitude i
      rw [acknowledge]
      split
      · exact .inr hlanded.stopped
      · exact .inl (hlanded.send huser (fun account heq => by cases heq))
    | addLongitude user longitude =>
      have hlongitude : users me.uuid = some (located me (some _)) := hdoc
      exact .inl (h.landed hlongitude i)
  | _ => exact absurd he id

/-- After an acknowledgement the user in memory is coherent exactly if the step repeats what is
held. -/
theorem coherentAfter_iff (h : Working c me s) (hstep : s.step e = some t) :
    CoherentAfter c s e ↔ Repeats me s e := by
  cases e with
  | landUpdate i =>
    obtain ⟨⟨client, write, awaited⟩, users, location, hu, rfl, huser, hnew, hbefore, hdoc, ht⟩ :=
      h.land hstep
    have hafter : CoherentAfter c s (.landUpdate i) ↔
        (s.Acknowledges (.landUpdate i) → ∃ me stored, t.Coherent c me stored) := by
      simp only [CoherentAfter, hstep, Option.some.injEq, forall_eq']
    have hlocation : s.location? me.uuid = location := by
      rw [location?, hbefore]
      rfl
    simp only [hafter, Acknowledges, Repeats, hu, hlocation, Option.some.injEq, exists_eq_left',
      forall_eq', true_and, forall_true_left]
    cases write with
    | createUser account => exact absurd rfl (hnew account)
    | updateUserProfile user firstName lastName userName carInfo =>
      have hme : (t.clients c).currentUser = some me := by
        rw [ht]
        exact h.currentUser
      have hstored : t.users me.uuid =
          some (stored me firstName lastName userName carInfo location) := by
        rw [ht]
        exact hdoc
      simp [coherent_iff_stored hme hstored]
    | deleteLocation user | addLatitude user latitude => simp
    | addLongitude user longitude =>
      have hme : (t.clients c).currentUser = some me := by
        rw [ht]
        exact h.currentUser
      have hstored : t.users me.uuid = some (located me
          (some (FieldValue.apply (location.getD []) (.arrayUnion longitude)))) := by
        rw [ht]
        exact hdoc
      simp [coherent_iff_stored hme hstored]
  | _ => exact iff_of_true (fun hack => absurd hack id) trivial

end Working

end Steps

/-! ### Runs from a log-in or a sign-up -/

section Runs
variable {c : ClientID} {me : User} {s : Accounts}

/-- After a log-in the document is that of the user in memory, after a sign-up but for the
account. -/
theorem Began.stored (h : Began c me s) :
    (s.clients c).currentUser = some me ∧ s.updates = [] ∧
      ∃ authID, s.users me.uuid = some { me with authID }.toDocument := by
  cases h with
  | logIn s₀ hupdates hme hstep =>
    obtain ⟨x, hx, rfl⟩ := Option.map_eq_some_iff.mp hstep
    obtain ⟨y, hread, husers, rfl⟩ := System.step_read hx
    simp only [Session.read, hme, Option.some.injEq] at hread
    subst hread
    obtain ⟨d, hd, hdec⟩ := Option.bind_eq_some_iff.mp hme
    refine ⟨?_, hupdates, me.authID, ?_⟩
    · simp only [Session.setClient, Function.update_self]
    · exact hd.trans (congrArg some (User.toDocument_of_ofDocument hdec).symm)
  | signUp s₀ account hupdates hme hstep =>
    obtain ⟨u, users, hu, hland, rfl⟩ := step_landUpdate hstep
    rw [hupdates, List.getElem?_cons_zero, Option.some.injEq] at hu
    subst hu hme
    refine ⟨?_, ?_, account.authID, ?_⟩
    · rw [if_pos rfl, acknowledge, clients_setClient_self]
    · rw [if_pos rfl, acknowledge]
      simp only [setClient, hupdates, List.eraseIdx_cons_zero]
    · obtain rfl := Option.some.inj hland
      rw [if_pos rfl, acknowledge]
      exact setData_self ..

/-- Right after the start, all agrees exactly if the account does. -/
theorem Began.coherent_start_iff (h : Began c me s) :
    (∃ me' stored, s.Coherent c me' stored) ↔ s.SameAccount me := by
  obtain ⟨hme, -, authID, hdoc⟩ := h.stored
  have huser : s.user? me.uuid = some { me with authID } := by
    rw [Session.user?, hdoc]
    rfl
  constructor
  · rintro ⟨me', user, hcoherent⟩
    obtain rfl := Option.some.inj (hcoherent.currentUser.symm.trans hme)
    have hsame := hcoherent.same.authID
    obtain rfl := Option.some.inj (huser.symm.trans hcoherent.document)
    exact ⟨_, hdoc, congrArg some hsame.symm⟩
  · rintro ⟨d, hd, hauthID⟩
    rw [hdoc, Option.some.injEq] at hd
    subst hd
    obtain rfl := Option.some.inj hauthID
    exact ⟨me, _, coherent_of_same hme huser ⟨rfl, rfl, rfl, rfl, rfl, rfl⟩⟩

private theorem Began.working (h : Began c me s) (haccount : s.SameAccount me) :
    Working c me s := by
  obtain ⟨hme, hupdates, authID, hdoc⟩ := h.stored
  obtain ⟨d, hd, hauthID⟩ := haccount
  rw [hdoc, Option.some.injEq] at hd
  subst hd
  obtain rfl := Option.some.inj hauthID
  refine ⟨hme, ⟨some me.lastCurrentLocation, hdoc⟩, fun u hu => ?_⟩
  rw [hupdates] at hu
  cases hu

/-- A new user has no account in memory, so a sign-up to any account leaves it unlike the
document. -/
theorem not_sameAccount_signUp {account : NewAccount} {users : Users}
    (hland : (UserWrite.createUser account).land users = some s.users)
    (hauthID : account.authID ≠ "") : ¬ s.SameAccount account.newUser := by
  rintro ⟨d, hd, hsame⟩
  rw [← Option.some.inj hland] at hd
  obtain rfl := Option.some.inj ((setData_self users account.uuid account.document).symm.trans hd)
  exact hauthID (Option.some.inj hsame)

/-- From a log-in or a sign-up on, the user in memory is coherent after every acknowledgement
exactly if the account is stored as it is in memory and every acknowledged write repeats what is
held. -/
theorem coherent_iff {es : List AccountEvent} (h : Began c me s) (hes : ∀ e ∈ es, IsUpdate c e) :
    ((∃ me' stored, s.Coherent c me' stored) ∧ AllSteps step (CoherentAfter c) s es) ↔
      s.SameAccount me ∧ AllSteps step (Repeats me) s es := by
  rw [h.coherent_start_iff]
  refine and_congr_right fun haccount => ?_
  refine allSteps_iff_of_steps (I := fun s => Working c me s ∨ Ended c s) (Q := IsUpdate c)
    ?_ ?_ (.inl (h.working haccount)) hes
  · rintro s e t (hs | hs) he hrepeats hstep
    · exact hs.step he hrepeats hstep
    · exact .inr (hs.step he hstep)
  · rintro s e t (hs | hs) he hstep
    · exact hs.coherentAfter_iff hstep
    · exact iff_of_true (fun hack => absurd hack hs.not_acknowledges) hs.repeats

end Runs

/-- The log-in of `a`. -/
def logInOfA : AccountEvent := .relation (.read (.fetchCurrentUser 0 "a"))

/-- Saving the profile as it is keeps the user in memory coherent. -/
theorem coherent_saved : ∃ s, (signedUp ["a"]).step logInOfA = some s ∧
    (∃ me' stored, s.Coherent 0 me' stored) ∧ AllSteps step (CoherentAfter 0) s
      [.updateUserProfile 0 "a" "a" "a" "", .landUpdate 0] := by
  obtain ⟨s, hstep⟩ : ∃ s, (signedUp ["a"]).step logInOfA = some s := ⟨_, rfl⟩
  have hbegan : Began 0 (User.signedUp "a") s := .logIn (signedUp ["a"]) rfl rfl hstep
  refine ⟨s, hstep, (coherent_iff hbegan (by decide)).mpr ?_⟩
  cases hstep
  refine ⟨⟨_, rfl, rfl⟩, True.intro, ?_, True.intro⟩
  rintro u hu -
  cases hu
  exact ⟨⟨rfl, rfl, rfl, rfl⟩, rfl⟩

/-- A new name is stored, and the one in memory stays. -/
theorem not_coherent :
    ¬ ∀ (c : ClientID) (me : User) (s : Accounts) (es : List AccountEvent), Began c me s →
      (∀ e ∈ es, IsUpdate c e) →
      (∃ me' stored, s.Coherent c me' stored) ∧ AllSteps step (CoherentAfter c) s es := by
  intro hall
  let write : UserWrite := .updateUserProfile "a" "a" "a" "b" ""
  obtain ⟨t, hrun, h⟩ := exists_run_of_any step (signedUp ["a"])
    [logInOfA, .updateUserProfile 0 "a" "a" "b" ""]
    (fun t => decide (t.updates = [⟨0, write, true⟩]) &&
      (t.step (.landUpdate 0)).any fun u : Accounts =>
      decide ((u.clients 0).currentUser.map User.userName = some "a") &&
        decide ((u.user? "a").map User.userName = some "b") &&
        decide ((u.clients 0).currentUser.map User.uuid = some "a")) (by decide)
  simp only [Bool.and_eq_true, decide_eq_true_eq, Option.any_eq_true] at h
  obtain ⟨hupdates, u, hu, ⟨hname, hstored⟩, huuid⟩ := h
  obtain ⟨s, hs, hrun⟩ := run_cons_eq_some hrun
  have hsteps : AllSteps step (CoherentAfter 0) s
      ([.updateUserProfile 0 "a" "a" "b" ""] ++ [.landUpdate 0]) :=
    (hall 0 (User.signedUp "a") s _ (.logIn (signedUp ["a"]) rfl rfl hs) (by decide)).2
  have hafter := allSteps_last hsteps hrun hu
  have hack : t.Acknowledges (.landUpdate 0) :=
    ⟨_, by rw [hupdates]; rfl, rfl, .inl ⟨_, _, _, _, _, rfl⟩⟩
  obtain ⟨me, user, hcoherent⟩ := hafter hack u hu
  rw [hcoherent.currentUser, Option.map_some, Option.some.injEq] at hname huuid
  rw [← huuid, hcoherent.document, Option.map_some, Option.some.injEq] at hstored
  have hsame := hcoherent.same.userName
  rw [hname, hstored] at hsame
  revert hsame
  decide

end Accounts

end DriveTribe
