import DriveTribe.Relations.Operations

/-!
# Reads of users and their completions

`UserController.swift:66–148`, `:570–588`, and the log-in screen that waits for them,
`LogInViewController.swift:118–170`. A call is modelled by what it calls `completion` with, in
order, for what the backend answers.
-/

namespace DriveTribe

/-- What a query of the users yields. -/
inductive UsersAnswer where
  | error (error : String)
  | noSnapshot
  | snapshot (documents : List UserDocument)
  deriving DecidableEq, Repr

/-- What a sign-in yields, if it does. -/
structure AuthDataResult where
  email : Option String
  deriving DecidableEq, Repr

/-- What Swift's strings do, on every alphabet. -/
structure StringFunctions where
  lowercased : String → String
  contains : String → String → Bool

/-- `SearchableRecordDelegate.swift:16–22`. -/
def StringFunctions.matches (strings : StringFunctions) (searchTerm username : String) : Bool :=
  strings.contains (strings.lowercased username) (strings.lowercased searchTerm)

/-- The letters one at a time, and the letters of the one text side by side in the other. -/
def StringFunctions.letters : StringFunctions where
  lowercased s := String.ofList (s.toList.map Char.toLower)
  contains s t := s.toList.tails.any t.toList.isPrefixOf

namespace UserController

/-- `UserController.swift:66–76`. An error is followed by what the missing result leads to. -/
def loginWith (result : Option AuthDataResult) (error : Option String) :
    List (Except NetworkError String) :=
  (error.map fun error => .error (.thrownError error)).toList ++
    match result with
    | none => [.error .unableToDecode]
    | some authDataResult =>
      match authDataResult.email with
      | none => [.error .noData]
      | some email => [.ok email]

/-- `UserController.swift:92–108`, with the current user afterwards; `uid` is the account that is
signed in. The first document decides, and none is looked at where there is none. -/
def fetchCurrentUser (currentUser : Option User) (uid : Option String) (answer : UsersAnswer) :
    Option User × List (Except NetworkError User) :=
  match uid, answer with
  | none, _ => (currentUser, [.error .unableToDecode])
  | some _, .error error => (currentUser, [.error (.thrownError error)])
  | some _, .noSnapshot => (currentUser, [.error .noData])
  | some _, .snapshot [] => (currentUser, [])
  | some _, .snapshot (document :: _) =>
    match User.ofDocument document with
    | none => (currentUser, [.error .unableToDecode])
    | some user => (some user, [.ok user])

/-- The users of an answer; the first document that does not decode ends the loop. -/
def decodeUsers : UsersAnswer → Except NetworkError (List User)
  | .error error => .error (.thrownError error)
  | .noSnapshot => .error .noData
  | .snapshot documents =>
    match documents.mapM User.ofDocument with
    | none => .error .unableToDecode
    | some userArray => .ok userArray

/-- `UserController.swift:110–127`. -/
def fetchAllUsers (uid : Option String) (answer : UsersAnswer) :
    List (Except NetworkError (List User)) :=
  match uid with
  | none => [.error .unableToDecode]
  | some _ => [decodeUsers answer]

/-- `UserController.swift:129–148`. -/
def fetchSpecificUsersBySearchTerm (strings : StringFunctions) (uid : Option String)
    (searchTerm : String) (answer : UsersAnswer) : List (Except NetworkError (List User)) :=
  match uid with
  | none => [.error .unableToDecode]
  | some _ => [(decodeUsers answer).map fun userArray =>
      userArray.filter fun user => strings.matches searchTerm user.userName]

/-- `UserController.swift:570–588`. The last user with the id is the one; where there is none
the call returns. -/
def fetchSpecificUserByID (userId : UserID) (answer : UsersAnswer) :
    List (Except NetworkError User) :=
  match decodeUsers answer with
  | .error error => [.error error]
  | .ok userArray =>
    ((userArray.filter fun user => user.uuid = userId).getLast?.map .ok).toList

end UserController

/-! ### The log-in screen -/

/-- What is on the screen. -/
structure LogInViewController where
  spinner : Bool := false
  /-- The tab bar has come up over the screen. -/
  tabBar : Bool := false
  alerts : Nat := 0
  deriving DecidableEq, Repr

namespace LogInViewController

/-- `LogInViewController.swift:124–131`. -/
def autoFetched (self : LogInViewController) : Except NetworkError User → LogInViewController
  | .ok _ => { self with tabBar := true }
  | .error _ => { self with spinner := false, alerts := self.alerts + 1 }

/-- `LogInViewController.swift:118–135`. -/
def autoLogin (self : LogInViewController) (uid : Option String) (answer : UsersAnswer) :
    LogInViewController :=
  if uid.isSome then
    (UserController.fetchCurrentUser none uid answer).2.foldl autoFetched
      { self with spinner := true }
  else self

/-- `LogInViewController.swift:153–159`. -/
def fetched (self : LogInViewController) : Except NetworkError User → LogInViewController
  | .ok _ => { self with spinner := false, tabBar := true }
  | .error _ => { self with spinner := false }

/-- `LogInViewController.swift:148–167`. -/
def loggedIn (uid : Option String) (answer : UsersAnswer) (self : LogInViewController) :
    Except NetworkError String → LogInViewController
  | .ok _ => (UserController.fetchCurrentUser none uid answer).2.foldl fetched self
  | .error _ => { self with spinner := false, alerts := self.alerts + 1 }

/-- `LogInViewController.swift:137–170`, once the fields are filled in. -/
def loginButtonTapped (self : LogInViewController) (result : Option AuthDataResult)
    (error : Option String) (uid : Option String) (answer : UsersAnswer) : LogInViewController :=
  (UserController.loginWith result error).foldl (loggedIn uid answer) { self with spinner := true }

/-- The spinner is not shown, or it has been dismissed; the tab bar that comes up over the screen
dismisses nothing. -/
def SpinnerEnded (self : LogInViewController) : Prop := self.spinner = false

instance (self : LogInViewController) : Decidable self.SpinnerEnded :=
  inferInstanceAs (Decidable (_ = _))

end LogInViewController

/-! ### How often a call completes -/

/-- A call of one of the reads, with what the backend answers. -/
inductive ReadCall where
  | loginWith (result : Option AuthDataResult) (error : Option String)
  | fetchCurrentUser (uid : Option String) (answer : UsersAnswer)
  | fetchAllUsers (uid : Option String) (answer : UsersAnswer)
  | fetchSpecificUsersBySearchTerm (uid : Option String) (searchTerm : String)
    (answer : UsersAnswer)
  | fetchSpecificUserByID (userId : UserID) (answer : UsersAnswer)
  deriving DecidableEq, Repr

/-- A log-in, with what the backend answers. -/
inductive LogIn where
  | auto (uid : Option String) (answer : UsersAnswer)
  | button (result : Option AuthDataResult) (error : Option String) (uid : Option String)
    (answer : UsersAnswer)
  deriving DecidableEq, Repr

/-- Nobody is signed in, or somebody's document is there. -/
def UsersAnswer.Finds (uid : Option String) (answer : UsersAnswer) : Prop :=
  uid = none ∨ answer ≠ .snapshot []

instance (uid : Option String) (answer : UsersAnswer) : Decidable (answer.Finds uid) :=
  inferInstanceAs (Decidable (_ ∨ _))

/-- The query fails, or the first of its documents does not decode. -/
def UsersAnswer.Fails : UsersAnswer → Prop
  | .error _ | .noSnapshot => True
  | .snapshot documents => ∃ document ∈ documents.head?, User.ofDocument document = none

instance : ∀ answer : UsersAnswer, Decidable answer.Fails
  | .error _ | .noSnapshot => .isTrue True.intro
  | .snapshot documents =>
    inferInstanceAs (Decidable (∃ document ∈ documents.head?, User.ofDocument document = none))

namespace ReadCall

/-- The calls of `completion`: a failure, or a success. -/
def completions (strings : StringFunctions) : ReadCall → List (Except NetworkError Unit)
  | loginWith result error =>
    (UserController.loginWith result error).map fun x => x.map fun _ => ()
  | fetchCurrentUser uid answer =>
    (UserController.fetchCurrentUser none uid answer).2.map fun x => x.map fun _ => ()
  | fetchAllUsers uid answer =>
    (UserController.fetchAllUsers uid answer).map fun x => x.map fun _ => ()
  | fetchSpecificUsersBySearchTerm uid searchTerm answer =>
    (UserController.fetchSpecificUsersBySearchTerm strings uid searchTerm answer).map fun x =>
      x.map fun _ => ()
  | fetchSpecificUserByID userId answer =>
    (UserController.fetchSpecificUserByID userId answer).map fun x => x.map fun _ => ()

/-- Exactly one call of `completion`, so no failure beside another result. -/
def CompletesOnce (strings : StringFunctions) (call : ReadCall) : Prop :=
  (call.completions strings).length = 1

/-- The sign-in has no error; the current user is found; and the user looked for is in a snapshot
that decodes. -/
def Answered : ReadCall → Prop
  | loginWith _ error => error = none
  | fetchCurrentUser uid answer => answer.Finds uid
  | fetchAllUsers _ _ => True
  | fetchSpecificUsersBySearchTerm _ _ _ => True
  | fetchSpecificUserByID userId answer => ∀ documents, answer = .snapshot documents →
    ∃ document ∈ documents, User.ofDocument document = none ∨ document.uuid = some userId

end ReadCall

namespace LogIn

/-- The screen after the log-in. -/
def screen : LogIn → LogInViewController
  | auto uid answer => LogInViewController.autoLogin {} uid answer
  | button result error uid answer =>
    LogInViewController.loginButtonTapped {} result error uid answer

/-- The automatic log-in is not begun, or its fetch fails; of the button the sign-in fails, or the
current user is found. -/
def Answered : LogIn → Prop
  | auto uid answer => uid = none ∨ answer.Fails
  | button result error uid answer =>
    error ≠ none ∨ result.bind AuthDataResult.email = none ∨ answer.Finds uid

end LogIn

/-! ### What a call completes with -/

namespace UserController

private theorem length_fetchCurrentUser (currentUser : Option User) (uid : Option String)
    (answer : UsersAnswer) : (fetchCurrentUser currentUser uid answer).2.length =
      if answer.Finds uid then 1 else 0 := by
  cases uid with
  | none => simp [fetchCurrentUser, UsersAnswer.Finds]
  | some uid =>
    cases answer with
    | error error => simp [fetchCurrentUser, UsersAnswer.Finds]
    | noSnapshot => simp [fetchCurrentUser, UsersAnswer.Finds]
    | snapshot documents =>
      cases documents with
      | nil => simp [fetchCurrentUser, UsersAnswer.Finds]
      | cons document documents =>
        cases hdec : User.ofDocument document <;>
          simp [fetchCurrentUser, UsersAnswer.Finds, hdec]

private theorem length_loginWith (result : Option AuthDataResult) (error : Option String) :
    (loginWith result error).length = error.toList.length + 1 := by
  cases result with
  | none => cases error <;> rfl
  | some authDataResult =>
    obtain ⟨email⟩ := authDataResult
    cases email <;> cases error <;> rfl

/-- Documents all of which decode have a user with the id exactly if one has the id. -/
theorem exists_uuid_iff {documents : List UserDocument} {userArray : List User} {userId : UserID}
    (h : documents.mapM User.ofDocument = some userArray) :
    (∃ user ∈ userArray, user.uuid = userId) ↔
      ∃ document ∈ documents, User.ofDocument document = none ∨ document.uuid = some userId := by
  induction documents generalizing userArray with
  | nil =>
    rw [List.mapM_nil, Option.pure_def, Option.some.injEq] at h
    subst h
    simp
  | cons document documents ih =>
    rw [List.mapM_cons, Option.bind_eq_bind, Option.bind_eq_some_iff] at h
    obtain ⟨user, huser, h⟩ := h
    obtain ⟨rest, hrest, h⟩ := Option.bind_eq_some_iff.mp h
    rw [Option.pure_def, Option.some.injEq] at h
    subst h
    simp only [List.mem_cons, exists_eq_or_imp, ih hrest, huser,
      (User.ids_of_ofDocument huser).1, reduceCtorEq, false_or, Option.some.injEq]

private theorem exists_undecoded {documents : List UserDocument}
    (h : documents.mapM User.ofDocument = none) :
    ∃ document ∈ documents, User.ofDocument document = none := by
  induction documents with
  | nil => cases h
  | cons document documents ih =>
    cases huser : User.ofDocument document with
    | none => exact ⟨document, List.mem_cons_self .., huser⟩
    | some user =>
      rw [List.mapM_cons, huser, Option.bind_eq_bind, Option.bind_some] at h
      cases hrest : documents.mapM User.ofDocument with
      | none =>
        obtain ⟨x, hx, hnone⟩ := ih hrest
        exact ⟨x, List.mem_cons_of_mem _ hx, hnone⟩
      | some rest =>
        rw [hrest] at h
        cases h

private theorem length_fetchSpecificUserByID (userId : UserID) (answer : UsersAnswer) :
    (fetchSpecificUserByID userId answer).length = 1 ↔
      (ReadCall.fetchSpecificUserByID userId answer).Answered := by
  cases answer with
  | error error => simp [fetchSpecificUserByID, decodeUsers, ReadCall.Answered]
  | noSnapshot => simp [fetchSpecificUserByID, decodeUsers, ReadCall.Answered]
  | snapshot documents =>
    simp only [ReadCall.Answered, UsersAnswer.snapshot.injEq, forall_eq']
    cases hdec : documents.mapM User.ofDocument with
    | none =>
      obtain ⟨document, hmem, hnone⟩ := exists_undecoded hdec
      simp only [fetchSpecificUserByID, decodeUsers, hdec, List.length_singleton, true_iff]
      exact ⟨document, hmem, .inl hnone⟩
    | some userArray =>
      rw [← exists_uuid_iff hdec]
      simp only [fetchSpecificUserByID, decodeUsers, hdec]
      cases hlast : (userArray.filter fun user => user.uuid = userId).getLast? with
      | none =>
        rw [List.getLast?_eq_none_iff, List.filter_eq_nil_iff] at hlast
        simpa using hlast
      | some user =>
        have hmem := List.mem_of_getLast? hlast
        rw [List.mem_filter, decide_eq_true_eq] at hmem
        simp only [Option.map_some, Option.toList_some, List.length_singleton, true_iff]
        exact ⟨user, hmem⟩

end UserController

/-- A read completes exactly once exactly if it is answered. -/
theorem ReadCall.completesOnce_iff (strings : StringFunctions) (call : ReadCall) :
    call.CompletesOnce strings ↔ call.Answered := by
  rw [CompletesOnce]
  cases call with
  | loginWith result error =>
    rw [completions, List.length_map, UserController.length_loginWith]
    cases error <;> simp [Answered]
  | fetchCurrentUser uid answer =>
    rw [completions, List.length_map, UserController.length_fetchCurrentUser, Answered]
    split <;> simp_all
  | fetchAllUsers uid answer =>
    rw [completions, List.length_map]
    cases uid <;> simp [UserController.fetchAllUsers, Answered]
  | fetchSpecificUsersBySearchTerm uid searchTerm answer =>
    rw [completions, List.length_map]
    cases uid <;> simp [UserController.fetchSpecificUsersBySearchTerm, Answered]
  | fetchSpecificUserByID userId answer =>
    rw [completions, List.length_map]
    exact UserController.length_fetchSpecificUserByID userId answer

/-! ### The spinner -/

namespace LogInViewController

private theorem foldl_spinnerEnded {ε : Type} {f : LogInViewController → ε → LogInViewController}
    {P : ε → Prop} (hf : ∀ self result, (f self result).SpinnerEnded ↔ self.SpinnerEnded ∨ P result)
    (self : LogInViewController) (results : List ε) : (results.foldl f self).SpinnerEnded ↔
      self.SpinnerEnded ∨ ∃ result ∈ results, P result := by
  induction results generalizing self with
  | nil => simp
  | cons result results ih =>
    rw [List.foldl_cons, ih, hf, or_assoc]
    simp only [List.mem_cons, exists_eq_or_imp]

private theorem exists_mem_fetchCurrentUser (uid : Option String) (answer : UsersAnswer) :
    (∃ result ∈ (UserController.fetchCurrentUser none uid answer).2, True) ↔
      answer.Finds uid := by
  have hlen := UserController.length_fetchCurrentUser none uid answer
  by_cases h : answer.Finds uid
  · rw [if_pos h, List.length_eq_one_iff] at hlen
    obtain ⟨result, hresult⟩ := hlen
    exact iff_of_true ⟨result, hresult ▸ List.mem_singleton_self result, trivial⟩ h
  · rw [if_neg h, List.length_eq_zero_iff] at hlen
    simp [hlen, h]

private theorem exists_error_fetchCurrentUser (uid : String) (answer : UsersAnswer) :
    (∃ result ∈ (UserController.fetchCurrentUser none (some uid) answer).2,
      result.toOption = none) ↔ answer.Fails := by
  cases answer with
  | error error => simp [UserController.fetchCurrentUser, UsersAnswer.Fails, Except.toOption]
  | noSnapshot => simp [UserController.fetchCurrentUser, UsersAnswer.Fails, Except.toOption]
  | snapshot documents =>
    cases documents with
    | nil => simp [UserController.fetchCurrentUser, UsersAnswer.Fails]
    | cons document documents =>
      cases hdec : User.ofDocument document <;>
        simp [UserController.fetchCurrentUser, UsersAnswer.Fails, hdec, Except.toOption]

private theorem spinnerEnded_autoFetched (self : LogInViewController)
    (result : Except NetworkError User) :
    (self.autoFetched result).SpinnerEnded ↔ self.SpinnerEnded ∨ result.toOption = none := by
  cases result <;> simp [autoFetched, SpinnerEnded, Except.toOption]

private theorem spinnerEnded_fetched (self : LogInViewController)
    (result : Except NetworkError User) :
    (self.fetched result).SpinnerEnded ↔ self.SpinnerEnded ∨ True := by
  cases result <;> simp [fetched, SpinnerEnded]

private theorem spinnerEnded_loggedIn (uid : Option String) (answer : UsersAnswer)
    (self : LogInViewController) (result : Except NetworkError String) :
    (loggedIn uid answer self result).SpinnerEnded ↔
      self.SpinnerEnded ∨ (result.toOption = none ∨ answer.Finds uid) := by
  cases result with
  | error error => simp [loggedIn, SpinnerEnded, Except.toOption]
  | ok email =>
    rw [loggedIn, foldl_spinnerEnded spinnerEnded_fetched, exists_mem_fetchCurrentUser]
    simp [Except.toOption]

end LogInViewController

/-- The spinner of an automatic log-in ends exactly if its fetch fails; that of the button
exactly if the sign-in fails or the current user is found. -/
theorem LogIn.spinnerEnded_iff (logIn : LogIn) : logIn.screen.SpinnerEnded ↔ logIn.Answered := by
  cases logIn with
  | auto uid answer =>
    rw [screen, LogInViewController.autoLogin, Answered]
    cases uid with
    | none => simp [LogInViewController.SpinnerEnded]
    | some uid =>
      rw [if_pos (Option.isSome_some),
        LogInViewController.foldl_spinnerEnded LogInViewController.spinnerEnded_autoFetched,
        LogInViewController.exists_error_fetchCurrentUser]
      simp [LogInViewController.SpinnerEnded]
  | button result error uid answer =>
    rw [screen, LogInViewController.loginButtonTapped, Answered,
      LogInViewController.foldl_spinnerEnded (LogInViewController.spinnerEnded_loggedIn uid answer)]
    have hstart : ¬ (LogInViewController.mk true false 0).SpinnerEnded := by decide
    rw [or_iff_right hstart]
    cases error with
    | some error =>
      exact iff_of_true ⟨_, List.mem_cons_self .., .inl rfl⟩ (.inl (Option.some_ne_none _))
    | none =>
      cases result with
      | none => simp [UserController.loginWith, Except.toOption]
      | some authDataResult =>
        cases hemail : authDataResult.email <;>
          simp [UserController.loginWith, hemail, Except.toOption]

/-- The reads that complete exactly once and the log-ins whose spinner ends. -/
theorem completesOnce_and_spinnerEnded_iff (strings : StringFunctions) (call : ReadCall)
    (logIn : LogIn) :
    (call.CompletesOnce strings ↔ call.Answered) ∧ (logIn.screen.SpinnerEnded ↔ logIn.Answered) :=
  ⟨call.completesOnce_iff strings, logIn.spinnerEnded_iff⟩

/-- A sign-in that fails completes twice, a log-in to an account without a document waits for ever,
and an automatic log-in that succeeds leaves its spinner on. -/
theorem not_completesOnce :
    ¬ (ReadCall.loginWith none (some "wrong password")).CompletesOnce .letters ∧
    ¬ (ReadCall.fetchCurrentUser (some "A") (.snapshot [])).CompletesOnce .letters ∧
    ¬ (ReadCall.fetchSpecificUserByID "A" (.snapshot [])).CompletesOnce .letters ∧
    ¬ (LogIn.auto (some "A") (.snapshot [])).screen.SpinnerEnded ∧
    ¬ (LogIn.auto (some "A") (.snapshot [(User.signedUp "A").toDocument])).screen.SpinnerEnded := by
  refine ⟨?_, ?_, ?_, by decide, by decide⟩ <;> rw [ReadCall.CompletesOnce] <;> decide

end DriveTribe
