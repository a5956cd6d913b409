import DriveTribe.Base.Requests
import DriveTribe.Relations.Session

/-!
# The relation lists on the screen

`fetchFriendsFor` and its siblings, `UserController.swift:150–256`, read the document of the
user and then each document it lists, all at once. Every document that arrives is appended to
what has arrived, and all of that is delivered to the screen, which shows it instead of what it
has shown before. A list none of whose documents arrives is never delivered.
-/

namespace DriveTribe

open Base

/-- What a read yields: an error, or the document if there is one. -/
abbrev Snapshot := Except String (Option UserDocument)

/-- A read of a fetch: the document of the user, then the documents it lists. -/
inductive FetchRead where
  | userData (user : UserID)
  | listed (id : UserID)
  deriving DecidableEq, Repr

namespace FetchRead

/-- The document a read is of. -/
def document : FetchRead → UserID
  | .userData user => user
  | .listed id => id

/-- The read is of the document of the user. -/
def ofUser : FetchRead → Bool
  | .userData _ => true
  | .listed _ => false

/-- The user a read of a listed document yields. -/
def user? : FetchRead → Snapshot → Option User
  | .listed _, .ok document => document.bind User.ofDocument
  | _, _ => none

/-- The document of the user yields nobody. -/
@[simp] theorem user?_userData (user : UserID) (snapshot : Snapshot) :
    user? (.userData user) snapshot = none := by
  cases snapshot <;> rfl

end FetchRead

/-- What `completion` is called with. -/
abbrev FetchResult := Except NetworkError (List User)

namespace UserController

/-- Handle what a read of a fetch yields; `array` is what has arrived. -/
def fetch (k : RelationKey) (array : List User) (read : FetchRead) (snapshot : Snapshot) :
    Reply (List User) FetchRead FetchResult :=
  match snapshot, read with
  | .error error, _ => { state := array, calls := [.error (.thrownError error)] }
  | .ok document, .userData _ =>
    match document.bind User.ofDocument with
    | none => { state := array, calls := [.error .noData] }
    | some userData => { state := array, requests := (userData.relation k).map .listed }
  | .ok document, .listed _ =>
    match document.bind User.ofDocument with
    | none => { state := array, calls := [.error .unableToDecode] }
    | some user => { state := array ++ [user], calls := [.ok (array ++ [user])] }

/-- `UserController.swift:204–229`. -/
def fetchFriendsFor := fetch .friends

/-- `UserController.swift:150–175`. -/
def fetchPendingFriendRequestsSentBy := fetch .friendsRequestSent

/-- `UserController.swift:177–202`. -/
def fetchFriendRequestsReceived := fetch .friendsRequestReceived

/-- `UserController.swift:231–256`. -/
def fetchBlockedUsersByCurrentUser := fetch .blockedUsersByCurrentUser

end UserController

/-- A list of a screen: how it is fetched, and whether results are handled on the main queue. -/
structure ListView where
  fetch : List User → FetchRead → Snapshot → Reply (List User) FetchRead FetchResult
  onMain : Bool := false

namespace FriendListTableViewController

/-- `FriendListTableViewController.swift:291–302`. -/
def setupViewForFriends : ListView where
  fetch := UserController.fetchFriendsFor

/-- `FriendListTableViewController.swift:304–315`. -/
def setupViewForFriendRequestsSent : ListView where
  fetch := UserController.fetchPendingFriendRequestsSentBy

/-- `FriendListTableViewController.swift:317–328`. -/
def setupViewForFriendRequestsReceived : ListView where
  fetch := UserController.fetchFriendRequestsReceived

end FriendListTableViewController

/-- `BlockedUsersTableViewController.swift:28–42`. -/
def BlockedUsersTableViewController.setupViews : ListView where
  fetch := UserController.fetchBlockedUsersByCurrentUser
  onMain := true

/-- A result is shown instead of what was shown; a failure is printed. -/
def showFetched (shown : List User) : FetchResult → List User
  | .ok users => users
  | .error _ => shown

/-- What a running fetch has collected, what its screen shows, and the results that wait on the
main queue. -/
structure FetchState where
  array : List User := []
  shown : List User
  waiting : List FetchResult := []

namespace FetchState

/-- `completion` is called. -/
def deliver (onMain : Bool) (x : FetchState) (result : FetchResult) : FetchState :=
  if onMain then { x with waiting := x.waiting ++ [result] }
  else { x with shown := showFetched x.shown result }

/-- The main queue runs its next block. -/
def runMain (x : FetchState) : FetchState :=
  match x.waiting with
  | [] => x
  | result :: rest => { x with shown := showFetched x.shown result, waiting := rest }

/-- What will be shown once the main queue has run. -/
def settled (x : FetchState) : List User := x.waiting.foldl showFetched x.shown

/-- Running the next block does not change what will be shown. -/
theorem settled_runMain (x : FetchState) : x.runMain.settled = x.settled := by
  rw [runMain]
  split
  · rfl
  · next result rest hwaiting => rw [settled, settled, hwaiting, List.foldl_cons]

private theorem settled_deliver {onMain : Bool} {x : FetchState}
    (h : onMain = false → x.waiting = []) (result : FetchResult) :
    (x.deliver onMain result).settled = showFetched x.settled result := by
  rw [deliver]
  split
  · rw [settled, settled, List.foldl_concat]
  · next hnot =>
    have hwaiting : x.waiting = [] := h (Bool.eq_false_iff.mpr hnot)
    rw [settled, settled, hwaiting]
    rfl

private theorem waiting_deliver {onMain : Bool} {x : FetchState}
    (h : onMain = false → x.waiting = []) (result : FetchResult) :
    onMain = false → (x.deliver onMain result).waiting = [] := by
  rintro rfl
  exact h rfl

end FetchState

namespace ListView

/-- Handle what a read yields, and show what is delivered. -/
def handle (view : ListView) (x : FetchState) (read : FetchRead) (snapshot : Snapshot) :
    Reply FetchState FetchRead FetchResult :=
  let reply := view.fetch x.array read snapshot
  { reply with
    state := reply.calls.foldl (FetchState.deliver view.onMain) { x with array := reply.state } }

/-- A read is answered, or the main queue runs its next block. -/
def step (view : ListView) : Requests FetchState FetchRead Snapshot FetchResult →
    RequestEvent Snapshot Unit → Option (Requests FetchState FetchRead Snapshot FetchResult) :=
  Requests.step view.handle fun x _ => x.runMain

/-- A fetch for `me` that has just begun, on a screen that shows `previous`. -/
def start (me : UserID) (previous : List User) :
    Requests FetchState FetchRead Snapshot FetchResult where
  state := { shown := previous }
  outstanding := [.userData me]

end ListView

/-- An answered read of a fetch. -/
abbrev FetchAnswer := Answered FetchState FetchRead Snapshot

/-- The users whose reads succeeded, in the order of the answers. -/
def succeeded (as : List FetchAnswer) : List User := as.filterMap fun a => a.request.user? a.answer

/-- The screen shows the users whose reads succeeded, each once, and nobody else. -/
structure ShowsSucceeded (shown : List User) (as : List FetchAnswer) : Prop where
  once : (shown.map User.uuid).Nodup
  mem : ∀ user, user ∈ shown ↔ user ∈ succeeded as

private theorem succeeded_concat (as : List FetchAnswer) (a : FetchAnswer) :
    succeeded (as ++ [a]) = succeeded as ++ (a.request.user? a.answer).toList := by
  rw [succeeded, List.filterMap_append]
  cases h : a.request.user? a.answer <;> simp [succeeded, h]

namespace UserController

/-- What arrives is appended, and all that has arrived is delivered; nothing else is. -/
theorem fetch_spec (k : RelationKey) (array : List User) (read : FetchRead) (snapshot : Snapshot) :
    (fetch k array read snapshot).state = array ++ (read.user? snapshot).toList ∧
      ∀ shown, (fetch k array read snapshot).calls.foldl showFetched shown =
        if (read.user? snapshot).isSome then array ++ (read.user? snapshot).toList else shown := by
  cases snapshot with
  | error error => cases read <;> simp [fetch, FetchRead.user?, showFetched]
  | ok document =>
    cases hdec : document.bind User.ofDocument with
    | none => cases read <;> simp [fetch, FetchRead.user?, showFetched, hdec]
    | some user => cases read <;> simp [fetch, FetchRead.user?, showFetched, hdec]

/-- More is read once the document of the user has arrived, and only then. -/
theorem fetch_requests (k : RelationKey) (array : List User) (read : FetchRead)
    (snapshot : Snapshot) :
    (fetch k array read snapshot).requests = [] ∨
      ∃ user document userData, read = .userData user ∧ snapshot = .ok document ∧
        document.bind User.ofDocument = some userData ∧
        (fetch k array read snapshot).requests = (userData.relation k).map .listed := by
  cases snapshot with
  | error error => exact .inl rfl
  | ok document =>
    cases hdec : document.bind User.ofDocument with
    | none =>
      left
      cases read <;> simp only [fetch, hdec]
    | some userData =>
      cases read with
      | userData user =>
        exact .inr ⟨user, document, userData, rfl, rfl, hdec, by simp only [fetch, hdec]⟩
      | listed id =>
        left
        simp only [fetch, hdec]

end UserController

namespace ListView

section Run
variable {k : RelationKey} {onMain : Bool} {me : UserID} {previous : List User}
  {x : Requests FetchState FetchRead Snapshot FetchResult}
  {es : List (RequestEvent Snapshot Unit)}

/-- What holds while a fetch runs: all that has arrived is collected, and will be shown. -/
structure Collects (onMain : Bool) (previous : List User) (as : List FetchAnswer)
    (x : FetchState) : Prop where
  array : x.array = succeeded as
  waiting : onMain = false → x.waiting = []
  settled : x.settled = if succeeded as = [] then previous else succeeded as

private theorem settled_deliver_all {x : FetchState} (h : onMain = false → x.waiting = [])
    (results : List FetchResult) :
    let y := results.foldl (FetchState.deliver onMain) x
    y.array = x.array ∧ (onMain = false → y.waiting = []) ∧
      y.settled = results.foldl showFetched x.settled := by
  induction results generalizing x with
  | nil => exact ⟨rfl, h, rfl⟩
  | cons result results ih =>
    obtain ⟨harray, hwaiting, hsettled⟩ := ih (FetchState.waiting_deliver h result)
    refine ⟨?_, hwaiting, ?_⟩
    · rw [List.foldl_cons, harray, FetchState.deliver]
      split <;> rfl
    · rw [List.foldl_cons, hsettled, FetchState.settled_deliver h, List.foldl_cons]

/-- An answer is collected. -/
theorem Collects.handle {as : List FetchAnswer} {x : FetchState}
    (h : Collects onMain previous as x) (read : FetchRead) (snapshot : Snapshot) :
    Collects onMain previous (as ++ [⟨read, snapshot, x⟩])
      (handle ⟨UserController.fetch k, onMain⟩ x read snapshot).state := by
  obtain ⟨hstate, hcalls⟩ := UserController.fetch_spec k x.array read snapshot
  obtain ⟨harray, hwaiting, hsettled⟩ := settled_deliver_all
    (x := { x with array := (UserController.fetch k x.array read snapshot).state }) h.waiting
    (UserController.fetch k x.array read snapshot).calls
  refine ⟨?_, hwaiting, ?_⟩
  · rw [succeeded_concat, ← h.array]
    exact harray.trans hstate
  · have hold : ({ x with array := (UserController.fetch k x.array read snapshot).state } :
        FetchState).settled = if succeeded as = [] then previous else succeeded as := h.settled
    refine hsettled.trans ?_
    rw [hold, hcalls, succeeded_concat, h.array]
    cases read.user? snapshot with
    | none => simp only [Option.isSome_none, Bool.false_eq_true, if_false, Option.toList_none,
        List.append_nil]
    | some user => simp only [Option.isSome_some, if_true, Option.toList_some,
        List.append_eq_nil_iff, reduceCtorEq, and_false, if_false]

/-- While a fetch runs, all that has arrived is collected, and will be shown. -/
theorem collects_run
    (h : run (step ⟨UserController.fetch k, onMain⟩) (start me previous) es = some x) :
    Collects onMain previous x.answers x.state := by
  refine Requests.run_cases (motive := fun _ as x => Collects onMain previous as x) ?_ ?_ ?_ h
  · exact ⟨rfl, fun _ => rfl, rfl⟩
  · intro es as x i read snapshot hx
    exact hx.handle read snapshot
  · intro es as x change hx
    refine ⟨?_, ?_, ?_⟩
    · rw [← hx.array, FetchState.runMain]
      split <;> rfl
    · intro hnot
      rw [FetchState.runMain, hx.waiting hnot]
      exact hx.waiting hnot
    · rw [FetchState.settled_runMain, hx.settled]

/-- The list converges exactly if some listed user's read succeeds, or the screen showed nobody
before, and no user is listed and read twice. -/
theorem showsSucceeded_iff
    (h : run (step ⟨UserController.fetch k, onMain⟩) (start me previous) es = some x)
    (hmain : x.state.waiting = []) :
    ShowsSucceeded x.state.shown x.answers ↔
      (succeeded x.answers ≠ [] ∨ previous = []) ∧
        ((succeeded x.answers).map User.uuid).Nodup := by
  have hshown : x.state.shown =
      if succeeded x.answers = [] then previous else succeeded x.answers := by
    rw [← (collects_run h).settled, FetchState.settled, hmain]
    rfl
  rw [hshown]
  by_cases hnone : succeeded x.answers = []
  · rw [if_pos hnone]
    constructor
    · intro hshows
      refine ⟨.inr ?_, by rw [hnone]; exact List.nodup_nil⟩
      apply List.eq_nil_iff_forall_not_mem.mpr
      intro user huser
      rw [hshows.mem, hnone] at huser
      cases huser
    · rintro ⟨hsome | rfl, hnodup⟩
      · exact absurd hnone hsome
      · refine ⟨List.nodup_nil, fun user => ?_⟩
        rw [hnone]
  · rw [if_neg hnone]
    constructor
    · intro hshows
      exact ⟨.inl hnone, hshows.once⟩
    · rintro ⟨-, hnodup⟩
      exact ⟨hnodup, fun user => Iff.rfl⟩

private theorem ofUser_requests {y : FetchState} {read r : FetchRead} {snapshot : Snapshot}
    (hr : r ∈ (handle ⟨UserController.fetch k, onMain⟩ y read snapshot).requests) :
    r.ofUser = false := by
  have hmem : r ∈ (UserController.fetch k y.array read snapshot).requests := hr
  rcases UserController.fetch_requests k y.array read snapshot with
    hnone | ⟨user, document, userData, -, -, -, hrequests⟩
  · rw [hnone] at hmem
    cases hmem
  · rw [hrequests] at hmem
    obtain ⟨id, -, rfl⟩ := List.mem_map.mp hmem
    rfl

/-- A list that is repeated for each element of a kind. -/
private theorem flatMap_ite {α β : Type} (p : α → Bool) (xs : List β) (as : List α) :
    (as.flatMap fun a => if p a then xs else []) = (List.replicate (as.countP p) xs).flatten := by
  induction as with
  | nil => rfl
  | cons a as ih =>
    by_cases ha : p a = true
    · rw [List.flatMap_cons, if_pos ha, ih, List.countP_cons_of_pos ha, List.replicate_succ,
        List.flatten_cons]
    · rw [List.flatMap_cons, if_neg ha, ih, List.countP_cons_of_neg ha, List.nil_append]

/-- Where every read is answered from one store, the users that arrive are those whose documents
are listed there, as in a read of the whole list at once. -/
theorem succeeded_perm {users : Users} {userData : User}
    (h : run (step ⟨UserController.fetch k, onMain⟩) (start me previous) es = some x)
    (hquiet : x.outstanding = [])
    (hstore : ∀ a ∈ x.answers, a.answer = .ok (users a.request.document))
    (hme : (users me).bind User.ofDocument = some userData) :
    (succeeded x.answers).Perm
      ((userData.relation k).filterMap fun id => (users id).bind User.ofDocument) := by
  have hkind : ∀ a ∈ x.answers, a.request.ofUser = true → a.request = .userData me := by
    refine (Requests.forall_outstanding (p := fun r => r.ofUser = true → r = .userData me)
      ?_ ?_ h).2
    · intro r hr _
      exact List.mem_singleton.mp hr
    · intro t r answer _ r' hr' huser
      rw [ofUser_requests hr'] at huser
      cases huser
  have hrequests : ∀ a ∈ x.answers,
      (Requests.reply (handle ⟨UserController.fetch k, onMain⟩) a).requests =
        if a.request.ofUser then (userData.relation k).map .listed else [] := by
    intro a ha
    obtain ⟨request, answer, state⟩ := a
    have hanswer : answer = .ok (users request.document) := hstore _ ha
    cases request with
    | userData user =>
      have huser : FetchRead.userData user = .userData me := hkind _ ha rfl
      cases huser
      simp only [Requests.reply, handle, UserController.fetch, hanswer, FetchRead.document, hme,
        FetchRead.ofUser, if_true]
    | listed id =>
      cases hdec : (users id).bind User.ofDocument <;>
        simp [Requests.reply, handle, UserController.fetch, hanswer, FetchRead.document, hdec,
          FetchRead.ofUser]
  have hperm := Requests.answers_perm h hquiet
  rw [List.flatMap_congr hrequests, flatMap_ite] at hperm
  have hcount : x.answers.countP (fun a => a.request.ofUser) = 1 := by
    have hcount := hperm.countP_eq FetchRead.ofUser
    have hzero : (List.replicate (x.answers.countP fun a => a.request.ofUser)
        ((userData.relation k).map FetchRead.listed)).flatten.countP FetchRead.ofUser = 0 := by
      rw [List.countP_eq_zero]
      intro r hr
      obtain ⟨rs, hrs, hr⟩ := List.mem_flatten.mp hr
      rw [(List.mem_replicate.mp hrs).2] at hr
      obtain ⟨id, -, rfl⟩ := List.mem_map.mp hr
      exact Bool.false_ne_true
    rw [List.countP_map, List.countP_append, hzero] at hcount
    exact hcount
  rw [hcount, List.replicate_one, List.flatten_singleton] at hperm
  -- What a read yields depends on the document it is of, and on nothing else.
  let yields : FetchRead → Option User := fun r => r.user? (.ok (users r.document))
  have hyields : succeeded x.answers = (x.answers.map Answered.request).filterMap yields := by
    rw [succeeded, List.filterMap_map]
    apply List.filterMap_congr
    intro a ha
    rw [hstore a ha]
    rfl
  rw [hyields]
  refine (hperm.filterMap yields).trans (List.Perm.of_eq ?_)
  rw [List.singleton_append, List.filterMap_cons, List.filterMap_map]
  rfl

end Run

/-- The friends of `a`, fetched where the screen shows `c`: the friend `b` arrives. -/
theorem showsSucceeded_friend :
    ∃ x, run FriendListTableViewController.setupViewForFriends.step
        (start "a" [User.signedUp "c"])
        [.answered 0 (.ok (some { User.signedUp "a" with friends := ["b"] }.toDocument)),
          .answered 0 (.ok (some (User.signedUp "b").toDocument))] = some x ∧
      x.outstanding = [] ∧ ShowsSucceeded x.state.shown x.answers := by
  obtain ⟨x, hrun, h⟩ := exists_run_of_any FriendListTableViewController.setupViewForFriends.step
    (start "a" [User.signedUp "c"])
    [.answered 0 (.ok (some { User.signedUp "a" with friends := ["b"] }.toDocument)),
      .answered 0 (.ok (some (User.signedUp "b").toDocument))]
    (fun x => x.outstanding.isEmpty && x.state.waiting.isEmpty &&
      decide (succeeded x.answers = [User.signedUp "b"])) (by decide)
  simp only [Bool.and_eq_true, decide_eq_true_eq, List.isEmpty_iff] at h
  obtain ⟨⟨hquiet, hmain⟩, hb⟩ := h
  refine ⟨x, hrun, hquiet, (showsSucceeded_iff hrun hmain).mpr ⟨.inl ?_, ?_⟩⟩
  · rw [hb]
    exact List.cons_ne_nil _ _
  · rw [hb]
    decide

/-- Where `a` has no friends the screen goes on showing `c`. -/
theorem not_showsSucceeded :
    ¬ ∀ (k : RelationKey) (onMain : Bool) (me : UserID) (previous : List User)
      (es : List (RequestEvent Snapshot Unit))
      (x : Requests FetchState FetchRead Snapshot FetchResult),
      run (step ⟨UserController.fetch k, onMain⟩) (start me previous) es = some x →
      x.outstanding = [] → x.state.waiting = [] →
      ((succeeded x.answers).map User.uuid).Nodup → ShowsSucceeded x.state.shown x.answers := by
  intro hall
  obtain ⟨x, hrun, h⟩ := exists_run_of_any FriendListTableViewController.setupViewForFriends.step
    (start "a" [User.signedUp "c"]) [.answered 0 (.ok (some (User.signedUp "a").toDocument))]
    (fun x => x.outstanding.isEmpty && x.state.waiting.isEmpty &&
      decide (succeeded x.answers = []) && decide (x.state.shown = [User.signedUp "c"]))
    (by decide)
  simp only [Bool.and_eq_true, decide_eq_true_eq, List.isEmpty_iff] at h
  obtain ⟨⟨⟨hquiet, hmain⟩, hnone⟩, hshown⟩ := h
  have hnodup : ((succeeded x.answers).map User.uuid).Nodup := by
    rw [hnone]
    exact List.nodup_nil
  have hmem := (hall .friends false "a" _ _ x hrun hquiet hmain hnodup).mem (User.signedUp "c")
  rw [hshown, hnone] at hmem
  exact absurd (hmem.mp (List.mem_singleton_self _)) List.not_mem_nil

end ListView

end DriveTribe
