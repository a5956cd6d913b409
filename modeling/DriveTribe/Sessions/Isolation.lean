import DriveTribe.Base.TwoRun
import DriveTribe.Sessions.Process

/-!
# What one session leaves to the next

Logging out clears nothing, so a session reads what an earlier one has staged, selected or
listed. Two processes whose first sessions differ run a second session alike as long as each of
its steps that reads such a place finds the same there; what the second session has set itself
is the same anyway. The list of carpools is the same from the first snapshot on.
-/

namespace DriveTribe

open Base

/-- Options was left with Next in the current flow. -/
def Screen.OptionsSet : Screen → Prop
  | .destination | .addFriends _ _ _ => True
  | _ => False

/-- What Options sets. -/
def CarpoolController.options (self : CarpoolController) : String × String × String :=
  (self.title, self.mode, self.type)

/-- The part of two flows that belongs to the current session is the same: who is logged in, the
screen, and the options once they are set in the current flow. -/
structure Flow.Agree (f g : Flow) : Prop where
  currentUser : f.currentUser = g.currentUser
  screen : f.screen = g.screen
  options : f.screen.OptionsSet → f.controller.options = g.controller.options

namespace Flow.Agree

/-- Moving between the screens and staging keeps two flows in agreement, if they find a staged
destination alike. It writes nothing and leaves the list of carpools alone. -/
theorem stage {f g f' g' : Flow} {ws vs : List CarpoolWrite} {ev : FlowEvent} (h : f.Agree g)
    (hev : ev.IsStaging)
    (hdest : ev = .toFriends →
      f.controller.destination.isSome = g.controller.destination.isSome)
    (hf : f.step ev = some (f', ws)) (hg : g.step ev = some (g', vs)) :
    f'.Agree g' ∧ ws = [] ∧ vs = [] ∧ f'.controller.carpools = f.controller.carpools ∧
      g'.controller.carpools = g.controller.carpools := by
  obtain ⟨currentUser, cf, screen, crf⟩ := f
  obtain ⟨currentUser', cg, screen', crg⟩ := g
  obtain ⟨hu, hs, hopt⟩ := h
  simp only at hu hs hopt
  subst hu hs
  cases ev with
  | save _ _ | acknowledged _ => exact hev.elim
  | start =>
    cases screen <;> cases hf
    cases hg
    exact ⟨⟨rfl, rfl, nofun⟩, rfl, rfl, rfl, rfl⟩
  | next title modeSegment typeSegment =>
    cases screen <;> simp only [step, reduceCtorEq] at hf hg
    split at hf
    · next htitle =>
      rw [if_pos htitle] at hg
      cases hf
      cases hg
      exact ⟨⟨rfl, rfl, nofun⟩, rfl, rfl, rfl, rfl⟩
    · next htitle =>
      rw [if_neg htitle] at hg
      cases hf
      cases hg
      exact ⟨⟨rfl, rfl, fun _ => rfl⟩, rfl, rfl, rfl, rfl⟩
  | selectDestination destination =>
    cases screen <;> cases hf
    cases hg
    exact ⟨⟨rfl, rfl, hopt⟩, rfl, rfl, rfl, rfl⟩
  | toFriends =>
    cases screen <;> simp only [step, reduceCtorEq] at hf hg
    simp only [← hdest rfl] at hg
    split at hf
    · next hsome =>
      rw [if_pos hsome] at hg
      cases hf
      cases hg
      exact ⟨⟨rfl, rfl, fun _ => hopt True.intro⟩, rfl, rfl, rfl, rfl⟩
    · next hsome =>
      rw [if_neg hsome] at hg
      cases hf
      cases hg
      exact ⟨⟨rfl, rfl, hopt⟩, rfl, rfl, rfl, rfl⟩
  | friendsFetched friends =>
    cases screen <;> cases hf <;> cases hg <;>
      exact ⟨⟨rfl, rfl, hopt⟩, rfl, rfl, rfl, rfl⟩
  | select row cell =>
    cases screen with
    | carpoolList | options | destination => cases hf
    | addFriends friends green saved =>
      obtain ⟨friend, hfriend, hf⟩ := Option.map_eq_some_iff.mp hf
      obtain ⟨friend', hfriend', hg⟩ := Option.map_eq_some_iff.mp hg
      obtain rfl : friend = friend' := by rwa [hfriend, Option.some.injEq] at hfriend'
      split at hf
      · next hcell =>
        rw [if_pos hcell] at hg
        cases hf
        cases hg
        exact ⟨⟨rfl, rfl, hopt⟩, rfl, rfl, rfl, rfl⟩
      · next hcell =>
        rw [if_neg hcell] at hg
        cases hf
        cases hg
        exact ⟨⟨rfl, rfl, hopt⟩, rfl, rfl, rfl, rfl⟩
  | dismissed =>
    cases screen with
    | carpoolList | options | destination => cases hf
    | addFriends friends green saved =>
      cases saved <;> cases hf
      cases hg
      exact ⟨⟨rfl, rfl, nofun⟩, rfl, rfl, rfl, rfl⟩
  | back =>
    cases screen with
    | carpoolList => cases hf
    | options | destination =>
      cases hf
      cases hg
      exact ⟨⟨rfl, rfl, nofun⟩, rfl, rfl, rfl, rfl⟩
    | addFriends friends green saved =>
      cases saved <;> cases hf
      cases hg
      exact ⟨⟨rfl, rfl, fun _ => hopt True.intro⟩, rfl, rfl, rfl, rfl⟩

/-- Save creates the same carpool from the same destination and passengers, and leaves the list
of carpools alone. -/
theorem save {f g f' g' : Flow} {ws vs : List CarpoolWrite} {uniquePassengers : List UserID}
    {new : NewIDs} (h : f.Agree g) (hdest : f.controller.destination = g.controller.destination)
    (hf : f.step (.save uniquePassengers new) = some (f', ws))
    (hg : g.step (.save uniquePassengers new) = some (g', vs)) :
    f'.Agree g' ∧ ws = vs ∧ f'.controller.carpools = f.controller.carpools ∧
      g'.controller.carpools = g.controller.carpools := by
  obtain ⟨currentUser, cf, screen, crf⟩ := f
  obtain ⟨currentUser', cg, screen', crg⟩ := g
  obtain ⟨hu, hs, hopt⟩ := h
  simp only at hu hs hopt hdest
  subst hu hs
  cases screen with
  | carpoolList | options | destination => cases hf
  | addFriends friends green saved =>
    obtain ⟨htitle, hmode, htype⟩ :
        cf.title = cg.title ∧ cf.mode = cg.mode ∧ cf.type = cg.type := by
      simpa only [CarpoolController.options, Prod.mk.injEq] using hopt True.intro
    simp only [step, Option.ite_none_right_eq_some] at hf hg
    obtain ⟨-, hf⟩ := hf
    obtain ⟨-, hg⟩ := hg
    cases hd : cg.destination with
    | none =>
      rw [hd] at hdest
      simp only [CarpoolController.createCarpool, hd, hdest] at hf hg
      cases hf
      cases hg
      exact ⟨⟨rfl, rfl, hopt⟩, rfl, rfl, rfl⟩
    | some destination =>
      rw [hd] at hdest
      cases currentUser with
      | none =>
        simp only [CarpoolController.createCarpool, hd, hdest] at hf hg
        cases hf
        cases hg
        exact ⟨⟨rfl, rfl, hopt⟩, rfl, rfl, rfl⟩
      | some me =>
        simp only [CarpoolController.createCarpool, hd, hdest, CarpoolController.newCarpool,
          htitle, hmode, htype] at hf hg
        cases hf
        cases hg
        exact ⟨⟨rfl, rfl, fun _ => rfl⟩, rfl, rfl, rfl⟩

/-- The acknowledgement of a carpool enters its id for the same users, if the same friends are
staged. -/
theorem acknowledged {f g f' g' : Flow} {ws vs : List CarpoolWrite} {i j : Nat} {id : CarpoolID}
    (h : f.Agree g) (hpassengers : f.controller.passengers = g.controller.passengers)
    (hi : f.creates.findIdx? (·.uuid = id) = some i)
    (hj : g.creates.findIdx? (·.uuid = id) = some j)
    (hf : f.step (.acknowledged i) = some (f', ws))
    (hg : g.step (.acknowledged j) = some (g', vs)) :
    f'.Agree g' ∧ ws = vs ∧ f'.controller.carpools = f.controller.carpools ∧
      g'.controller.carpools = g.controller.carpools := by
  obtain ⟨carpool, hc, hf⟩ := Option.map_eq_some_iff.mp hf
  obtain ⟨carpool', hc', hg⟩ := Option.map_eq_some_iff.mp hg
  have huuid {l : List Carpool} {k : Nat} {c : Carpool}
      (hk : l.findIdx? (·.uuid = id) = some k) (hget : l[k]? = some c) : c.uuid = id := by
    obtain ⟨hlt, hid, -⟩ := List.findIdx?_eq_some_iff_getElem.mp hk
    obtain ⟨_, rfl⟩ := List.getElem?_eq_some_iff.mp hget
    exact of_decide_eq_true hid
  cases hf
  cases hg
  refine ⟨⟨h.currentUser, h.screen, h.options⟩, ?_, rfl, rfl⟩
  rw [CarpoolController.carpoolCreated_eq, CarpoolController.carpoolCreated_eq,
    CarpoolController.recipients, CarpoolController.recipients, hpassengers, h.currentUser,
    huuid hi hc, huuid hj hc']

end Flow.Agree

namespace Process

/-- The part of two processes that belongs to the current session is the same. Once a snapshot
has arrived for the own listener, so is the list of carpools. -/
structure Agree (x y : Process) : Prop where
  flow : x.toFlow.Agree y.toFlow
  auth : x.auth = y.auth
  loggedIn : x.loggedIn = y.loggedIn
  segment : x.segment = y.segment
  dataSource : x.dataSource = y.dataSource
  results : x.results = y.results
  rows : x.rows = y.rows
  session : x.session = y.session
  loaded : ∀ l ∈ x.loads, l.listener = x.session → x.controller.carpools = y.controller.carpools

/-- Where an input reads what an earlier session may have left, it finds the same in both
processes: at Next on Destination whether a destination is staged, at Save the destination and
the set of passengers, at an acknowledgement the passengers, on the segments the rows to show,
where somebody leaves a carpool whether it is listed, and after the location was deleted the
coordinates to write. -/
def ReadsAlike (arraySet : List UserID → List UserID) (x y : Process) : Input → Prop
  | .stage ev =>
    ev = .toFriends → x.controller.destination.isSome = y.controller.destination.isSome
  | .save _ =>
    x.controller.destination = y.controller.destination ∧
      arraySet x.controller.passengers = arraySet y.controller.passengers
  | .created _ => x.controller.passengers = y.controller.passengers
  | .segmentChanged segment => rowsShown x.controller segment = rowsShown y.controller segment
  | .deleteRow row =>
    ∀ carpool ∈ x.dataSource[row]?, ∀ me ∈ x.currentUser, carpool.driver ≠ me.uuid →
      (CarpoolController.removeFirst x.controller.carpools carpool.uuid).isSome =
        (CarpoolController.removeFirst y.controller.carpools carpool.uuid).isSome
  | .answered request answer =>
    answer = .done →
      ∀ i ∈ request.coordinate?, x.lastCurrentLocation[i]? = y.lastCurrentLocation[i]?
  | _ => True

instance (arraySet : List UserID → List UserID) (x y : Process) :
    ∀ e, Decidable (ReadsAlike arraySet x y e)
  | .stage _ | .save _ | .created _ | .segmentChanged _ | .deleteRow _ | .answered _ _ => by
    unfold ReadsAlike; infer_instance
  | .login _ | .logout | .deleteAccount | .snapshot _ _ _ | .read _ _ _ _ | .loaded _ _ | .found _
  | .fetched _ _ | .relation _ _ | .selectLocation _ _ | .updateLocation => .isTrue True.intro

/-- Every listener was added by some log-in, and every load was started by a listener. -/
structure Numbered (x : Process) : Prop where
  listeners : ∀ n ∈ x.listeners, n ≤ x.session
  loads : ∀ l ∈ x.loads, l.listener ∈ x.listeners

section Steps
variable {arraySet : List UserID → List UserID} {x y x' y' : Process} {e : Input}
  {ws vs : List ServerWrite}

/-- An event of the creation screens changes the flow and writes carpools. -/
theorem flowed_eq_some {r : Option (Flow × List CarpoolWrite)} (h : x.flowed r = some (y, ws)) :
    ∃ flow cs, r = some (flow, cs) ∧ y = { x with toFlow := flow } ∧ ws = cs.map .carpool := by
  obtain ⟨⟨flow, cs⟩, hr, heq⟩ := Option.map_eq_some_iff.mp h
  cases heq
  exact ⟨flow, cs, hr, rfl, rfl⟩

private theorem handle_numbers {request : Request} {answer : Answer}
    (h : x.handle request answer = some (y, ws)) :
    y.session = x.session ∧ y.listeners = x.listeners ∧ y.loads = x.loads := by
  cases request <;> cases answer <;> simp only [handle, reduceCtorEq, Option.some.injEq,
    Option.map_eq_some_iff, Prod.mk.injEq] at h
  all_goals
    first
    | obtain ⟨rfl, rfl⟩ := h
    | obtain ⟨_, -, rfl, rfl⟩ := h
    exact ⟨rfl, rfl, rfl⟩

/-- Only a log-in changes the number of sessions or the listeners, and only a listener starts
a load. -/
theorem step_numbers (h : step arraySet x e = some (y, ws)) :
    (∃ user, e = .login user ∧ y = x.login user) ∨
      e.IsLogin = false ∧ y.session = x.session ∧ y.listeners = x.listeners ∧
        ∀ l ∈ y.loads, l.listener ∈ x.listeners ∨ ∃ k ∈ x.loads, k.listener = l.listener := by
  have hsame {z : Process} (hl : z.loads = x.loads) : ∀ l ∈ z.loads, l.listener ∈ x.listeners ∨
      ∃ k ∈ x.loads, k.listener = l.listener := fun l hmem => .inr ⟨l, hl ▸ hmem, rfl⟩
  cases e with
  | login user =>
    simp only [step, Option.ite_none_left_eq_some, Option.some.injEq, Prod.mk.injEq] at h
    exact .inl ⟨user, rfl, h.2.1.symm⟩
  | logout | segmentChanged _ | found _ | fetched _ _ | relation _ _ =>
    simp only [step, Option.ite_none_right_eq_some, Option.some.injEq, Prod.mk.injEq] at h
    obtain ⟨-, rfl, -⟩ := h
    exact .inr ⟨rfl, rfl, rfl, hsame rfl⟩
  | deleteAccount | updateLocation | deleteRow _ =>
    simp only [step, Option.ite_none_right_eq_some, Option.map_eq_some_iff, Prod.mk.injEq] at h
    obtain ⟨-, _, -, rfl, -⟩ := h
    exact .inr ⟨rfl, rfl, rfl, hsame rfl⟩
  | stage _ | save _ =>
    simp only [step, Option.ite_none_right_eq_some] at h
    obtain ⟨flow, _, -, rfl, -⟩ := flowed_eq_some h.2
    exact .inr ⟨rfl, rfl, rfl, hsame rfl⟩
  | created id =>
    obtain ⟨i, -, h⟩ := Option.bind_eq_some_iff.mp h
    obtain ⟨flow, _, -, rfl, -⟩ := flowed_eq_some h
    exact .inr ⟨rfl, rfl, rfl, hsame rfl⟩
  | snapshot listener event ids =>
    simp only [step, Option.ite_none_right_eq_some, Option.some.injEq, Prod.mk.injEq] at h
    obtain ⟨⟨hmem, -⟩, rfl, -⟩ := h
    refine .inr ⟨rfl, rfl, rfl, fun l hl => ?_⟩
    rcases List.mem_append.mp hl with hl | hl
    · exact hsame (z := x) rfl l hl
    · rw [List.mem_singleton.mp hl]
      exact .inl hmem
  | read listener event id answer =>
    simp only [step, Option.ite_none_right_eq_some, Option.some.injEq, Prod.mk.injEq] at h
    obtain ⟨-, rfl, -⟩ := h
    refine .inr ⟨rfl, rfl, rfl, fun l hl => ?_⟩
    obtain ⟨k, hk, rfl⟩ := List.mem_map.mp hl
    refine .inr ⟨k, hk, ?_⟩
    split <;> rfl
  | loaded listener event =>
    simp only [step, Option.ite_none_right_eq_some, Option.some.injEq, Prod.mk.injEq] at h
    obtain ⟨-, rfl, -⟩ := h
    exact .inr ⟨rfl, rfl, rfl, fun l hl => .inr ⟨l, List.mem_of_mem_erase hl, rfl⟩⟩
  | selectLocation latitude longitude =>
    cases h
    exact .inr ⟨rfl, rfl, rfl, hsame rfl⟩
  | answered request answer =>
    simp only [step, Option.ite_none_right_eq_some] at h
    obtain ⟨hsession, hlisteners, hloads⟩ := handle_numbers h.2
    exact .inr ⟨rfl, hsession, hlisteners, hsame hloads⟩

/-- Every step keeps the listeners numbered. -/
theorem Numbered.step (h : x.Numbered) (hstep : step arraySet x e = some (y, ws)) :
    y.Numbered := by
  rcases step_numbers hstep with ⟨user, -, rfl⟩ | ⟨-, hsession, hlisteners, hloads⟩
  · refine ⟨fun n hn => ?_, fun l hl => List.mem_append_left _ (h.loads l hl)⟩
    rcases List.mem_append.mp hn with hn | hn
    · exact Nat.le_succ_of_le (h.listeners n hn)
    · rw [List.mem_singleton.mp hn]
      exact Nat.le_refl _
  · refine ⟨?_, fun l hl => ?_⟩
    · rw [hlisteners, hsession]
      exact h.listeners
    · rw [hlisteners]
      rcases hloads l hl with hl | ⟨k, hk, heq⟩
      · exact hl
      · exact heq ▸ h.loads k hk

/-- Changing the list of carpools alike keeps the agreement. -/
theorem Agree.setController (h : x.Agree y) {c d : CarpoolController}
    (hc : c.options = x.controller.options) (hd : d.options = y.controller.options)
    (hcarpools : x.controller.carpools = y.controller.carpools → c.carpools = d.carpools) :
    Agree { x with controller := c } { y with controller := d } where
  flow := ⟨h.flow.currentUser, h.flow.screen,
    fun hs => hc.trans ((h.flow.options hs).trans hd.symm)⟩
  auth := h.auth
  loggedIn := h.loggedIn
  segment := h.segment
  dataSource := h.dataSource
  results := h.results
  rows := h.rows
  session := h.session
  loaded := fun l hl heq => hcarpools (h.loaded l hl heq)

private theorem Agree.setFlow (h : x.Agree y) {f g : Flow} (hflow : f.Agree g)
    (hf : f.controller.carpools = x.controller.carpools)
    (hg : g.controller.carpools = y.controller.carpools) :
    Agree { x with toFlow := f } { y with toFlow := g } where
  flow := hflow
  auth := h.auth
  loggedIn := h.loggedIn
  segment := h.segment
  dataSource := h.dataSource
  results := h.results
  rows := h.rows
  session := h.session
  loaded := fun l hl heq => hf.trans ((h.loaded l hl heq).trans hg.symm)

private theorem carpoolDeleted_congr {c d : CarpoolController} (h : c.carpools = d.carpools)
    (id : CarpoolID) : (c.carpoolDeleted id).carpools = (d.carpoolDeleted id).carpools := by
  rw [CarpoolController.carpoolDeleted, CarpoolController.carpoolDeleted, h]
  cases CarpoolController.removeFirst d.carpools id with
  | none => exact h
  | some carpools => rfl

private theorem options_carpoolDeleted (c : CarpoolController) (id : CarpoolID) :
    (c.carpoolDeleted id).options = c.options := by
  rw [CarpoolController.carpoolDeleted]
  split <;> rfl

private theorem options_carpoolRead (c : CarpoolController) (answer : CarpoolAnswer) :
    (c.carpoolRead answer).options = c.options := by
  rw [CarpoolController.carpoolRead]
  split <;> rfl

private theorem carpoolRead_congr {c d : CarpoolController} (h : c.carpools = d.carpools)
    (answer : CarpoolAnswer) :
    (c.carpoolRead answer).carpools = (d.carpoolRead answer).carpools := by
  rw [CarpoolController.carpoolRead, CarpoolController.carpoolRead]
  cases answer.carpool? with
  | none => exact h
  | some carpool => exact congrArg (· ++ [carpool]) h

private theorem options_delete (c : CarpoolController) (currentUser : Option User)
    (carpool : Carpool) :
    (c.delete currentUser carpool).2.options = c.options := by
  cases currentUser with
  | none => rfl
  | some me =>
    rw [CarpoolController.delete]
    split
    · rfl
    · split <;> rfl

private theorem delete_congr {c d : CarpoolController} {currentUser currentUser' : Option User}
    {carpool : Carpool} (hme : currentUser = currentUser')
    (h : ∀ me ∈ currentUser, carpool.driver ≠ me.uuid →
      (CarpoolController.removeFirst c.carpools carpool.uuid).isSome =
        (CarpoolController.removeFirst d.carpools carpool.uuid).isSome) :
    (c.delete currentUser carpool).1 = (d.delete currentUser' carpool).1 ∧
      (c.carpools = d.carpools → (c.delete currentUser carpool).2.carpools =
        (d.delete currentUser' carpool).2.carpools) := by
  subst hme
  cases currentUser with
  | none => exact ⟨rfl, id⟩
  | some me =>
    by_cases hdriver : carpool.driver = me.uuid
    · simp only [CarpoolController.delete, if_pos hdriver, true_and]
      exact id
    · have hsome := h me rfl hdriver
      simp only [CarpoolController.delete, if_neg hdriver]
      cases hc : CarpoolController.removeFirst c.carpools carpool.uuid with
      | none =>
        rw [hc, Option.isSome_none, eq_comm, Option.isSome_eq_false_iff, Option.isNone_iff_eq_none]
          at hsome
        simp only [hsome, true_and]
        exact id
      | some carpools =>
        rw [hc, Option.isSome_some, eq_comm, Option.isSome_iff_exists] at hsome
        obtain ⟨carpools', hd⟩ := hsome
        simp only [hd, true_and]
        intro heq
        rwa [← heq, hc, Option.some.injEq] at hd

/-- A log-in brings two processes in agreement. -/
theorem Agree.login (hn : x.Numbered) (hsession : x.session = y.session) (user : User) :
    (x.login user).Agree (y.login user) := by
  refine ⟨⟨rfl, rfl, nofun⟩, rfl, rfl, rfl, rfl, rfl, rfl, congrArg (· + 1) hsession, ?_⟩
  -- No load of an earlier listener has the number of the new one.
  intro l hl heq
  have hle := hn.listeners _ (hn.loads l hl)
  rw [heq] at hle
  exact absurd hle (Nat.not_succ_le_self _)

/-- What two steps do alike: the processes stay in agreement, the writes are the same, and so is
the list of carpools if it was before. -/
structure StepAlike (x y x' y' : Process) (ws vs : List ServerWrite) : Prop where
  agree : x'.Agree y'
  writes : ws = vs
  carpools : x.controller.carpools = y.controller.carpools →
    x'.controller.carpools = y'.controller.carpools

/-- Two processes in agreement handle an answer alike. -/
theorem Agree.handle (h : x.Agree y) {request : Request} {answer : Answer}
    (halike : answer = .done →
      ∀ i ∈ request.coordinate?, x.lastCurrentLocation[i]? = y.lastCurrentLocation[i]?)
    (hx : x.handle request answer = some (x', ws)) (hy : y.handle request answer = some (y', vs)) :
    StepAlike x y x' y' ws vs := by
  cases answer with
  | failed error =>
    simp only [Process.handle, Option.some.injEq, Prod.mk.injEq] at hx hy
    obtain ⟨rfl, rfl⟩ := hx
    obtain ⟨rfl, rfl⟩ := hy
    exact ⟨h, rfl, id⟩
  | done =>
    cases request with
    | carpoolDeleted carpool =>
      cases hx
      cases hy
      have hcarpools := fun heq => carpoolDeleted_congr (c := x.controller) (d := y.controller) heq
        carpool
      exact ⟨h.setController (options_carpoolDeleted _ _) (options_carpoolDeleted _ _) hcarpools,
        rfl, hcarpools⟩
    | locationDeleted me =>
      have hlocation := halike rfl 0 rfl
      simp only [Process.handle, hlocation] at hx hy
      obtain ⟨latitude, hlatitude, hx⟩ := Option.map_eq_some_iff.mp hx
      rw [hlatitude] at hy
      cases hx
      cases hy
      exact ⟨{ h with }, rfl, id⟩
    | latitudeAdded me =>
      have hlocation := halike rfl 1 rfl
      simp only [Process.handle, hlocation] at hx hy
      obtain ⟨longitude, hlongitude, hx⟩ := Option.map_eq_some_iff.mp hx
      rw [hlongitude] at hy
      cases hx
      cases hy
      exact ⟨h, rfl, id⟩
    | archived me =>
      cases hx
      cases hy
      exact ⟨{ h with loggedIn := rfl }, rfl, id⟩
    | userDeleted me =>
      cases hx
      cases hy
      exact ⟨{ h with auth := rfl }, rfl, id⟩
    | accountDeleted authID =>
      cases hx
      cases hy
      refine ⟨{ h with auth := ?_ }, rfl, id⟩
      simp only [h.auth]
    | removal _ _ | removalCarpool _ _ _ | departure _ | departureCarpool _ _ => cases hx
  | groups ids =>
    cases request <;> cases hx
    all_goals
      cases hy
      exact ⟨{ h with }, rfl, id⟩
  | carpool answer =>
    cases request <;> cases hx
    all_goals
      cases hy
      exact ⟨h, rfl, id⟩

/-- An event of the creation screens is taken alike by the processes if it is by the flows. -/
theorem Agree.flowed (h : x.Agree y) {f g : Option (Flow × List CarpoolWrite)}
    (hflow : ∀ f' g' cs ds, f = some (f', cs) → g = some (g', ds) → f'.Agree g' ∧ cs = ds ∧
      f'.controller.carpools = x.controller.carpools ∧
      g'.controller.carpools = y.controller.carpools)
    (hx : x.flowed f = some (x', ws)) (hy : y.flowed g = some (y', vs)) :
    StepAlike x y x' y' ws vs := by
  obtain ⟨f', cs, hf, rfl, rfl⟩ := flowed_eq_some hx
  obtain ⟨g', ds, hg, rfl, rfl⟩ := flowed_eq_some hy
  obtain ⟨hagree, rfl, hfc, hgc⟩ := hflow f' g' cs ds hf hg
  exact ⟨h.setFlow hagree hfc hgc, rfl, fun heq => hfc.trans (heq.trans hgc.symm)⟩

/-- A snapshot empties both lists. -/
theorem Agree.snapshot (h : x.Agree y) {listener event : Nat} {ids : List CarpoolID}
    (hx : step arraySet x (.snapshot listener event ids) = some (x', ws))
    (hy : step arraySet y (.snapshot listener event ids) = some (y', vs)) :
    StepAlike x y x' y' ws vs ∧ x'.controller.carpools = y'.controller.carpools := by
  simp only [step, Option.ite_none_right_eq_some, Option.some.injEq, Prod.mk.injEq] at hx hy
  obtain ⟨-, rfl, rfl⟩ := hx
  obtain ⟨-, rfl, rfl⟩ := hy
  have hagree := h.setController (c := x.controller.groupsChanged)
    (d := y.controller.groupsChanged) rfl rfl fun _ => rfl
  exact ⟨⟨{ hagree with loaded := fun _ _ _ => rfl }, rfl, fun _ => rfl⟩, rfl⟩

/-- A read appends the same carpool to both lists. -/
theorem Agree.read (h : x.Agree y) {listener event : Nat} {id : CarpoolID} {answer : CarpoolAnswer}
    (hx : step arraySet x (.read listener event id answer) = some (x', ws))
    (hy : step arraySet y (.read listener event id answer) = some (y', vs)) :
    StepAlike x y x' y' ws vs := by
  simp only [step, Option.ite_none_right_eq_some, Option.some.injEq, Prod.mk.injEq] at hx hy
  obtain ⟨-, rfl, rfl⟩ := hx
  obtain ⟨-, rfl, rfl⟩ := hy
  have hcarpools := fun heq => carpoolRead_congr (c := x.controller) (d := y.controller) heq answer
  have hagree := h.setController (options_carpoolRead _ answer) (options_carpoolRead _ answer)
    hcarpools
  refine ⟨{ hagree with loaded := fun l hl heq => ?_ }, rfl, hcarpools⟩
  obtain ⟨k, hk, rfl⟩ := List.mem_map.mp hl
  refine hagree.loaded k hk (Eq.trans ?_ heq)
  split <;> rfl

/-- The completion of all reads shows the same rows where it is for the own listener. -/
theorem Agree.sorted (h : x.Agree y) {listener event : Nat}
    (hx : step arraySet x (.loaded listener event) = some (x', ws))
    (hy : step arraySet y (.loaded listener event) = some (y', vs)) :
    StepAlike x y x' y' ws vs := by
  simp only [step, Option.ite_none_right_eq_some, Option.some.injEq, Prod.mk.injEq] at hx hy
  obtain ⟨hload, rfl, rfl⟩ := hx
  obtain ⟨-, rfl, rfl⟩ := hy
  have hagree := h.setController (c := x.controller.sortCarpoolsByWorkPlay)
    (d := y.controller.sortCarpoolsByWorkPlay) rfl rfl id
  refine ⟨{ hagree with
    dataSource := ?_
    loaded := fun l hl => hagree.loaded l (List.mem_of_mem_erase hl) }, rfl, id⟩
  simp only [← h.session, ← h.segment, ← h.dataSource]
  split
  · next hown =>
    -- The own listener has started this load, so the list is the same.
    have hcarpools := h.loaded _ hload hown
    simp only [rowsShown, CarpoolController.sortCarpoolsByWorkPlay, hcarpools]
  · rfl

/-- Deleting a row deletes, or leaves, the same carpool. -/
theorem Agree.deleteRow (h : x.Agree y) {row : Nat}
    (halike : ReadsAlike arraySet x y (.deleteRow row))
    (hx : step arraySet x (.deleteRow row) = some (x', ws))
    (hy : step arraySet y (.deleteRow row) = some (y', vs)) : StepAlike x y x' y' ws vs := by
  simp only [step, Option.ite_none_right_eq_some, Option.map_eq_some_iff, Prod.mk.injEq] at hx hy
  obtain ⟨-, carpool, hrow, rfl, rfl⟩ := hx
  obtain ⟨-, carpool', hrow', rfl, rfl⟩ := hy
  obtain rfl : carpool = carpool' := by
    rwa [h.dataSource, hrow', Option.some.injEq, eq_comm] at hrow
  obtain ⟨hwrites, hcarpools⟩ := delete_congr h.flow.currentUser (halike carpool hrow)
  have hagree := h.setController (options_delete x.controller x.currentUser carpool)
    (options_delete y.controller y.currentUser carpool) hcarpools
  refine ⟨{ hagree with dataSource := ?_ }, congrArg _ hwrites, hcarpools⟩
  simp only [h.dataSource]

/-- Two processes in agreement take an input alike, if what it reads of earlier sessions is the
same. -/
theorem Agree.step (h : x.Agree y) (hn : x.Numbered) (halike : ReadsAlike arraySet x y e)
    (hx : step arraySet x e = some (x', ws)) (hy : step arraySet y e = some (y', vs)) :
    StepAlike x y x' y' ws vs := by
  have hme := h.flow.currentUser
  cases e with
  | login user =>
    simp only [Process.step, Option.ite_none_left_eq_some, Option.some.injEq, Prod.mk.injEq]
      at hx hy
    obtain ⟨-, rfl, rfl⟩ := hx
    obtain ⟨-, rfl, rfl⟩ := hy
    exact ⟨Agree.login hn h.session user, rfl, id⟩
  | logout =>
    simp only [Process.step, Option.ite_none_right_eq_some, Option.some.injEq, Prod.mk.injEq]
      at hx hy
    obtain ⟨-, rfl, rfl⟩ := hx
    obtain ⟨-, rfl, rfl⟩ := hy
    exact ⟨{ h with auth := rfl, loggedIn := rfl }, rfl, id⟩
  | deleteAccount | updateLocation =>
    simp only [Process.step, Option.ite_none_right_eq_some, Option.map_eq_some_iff,
      Prod.mk.injEq] at hx hy
    obtain ⟨-, me, hu, rfl, rfl⟩ := hx
    obtain ⟨-, me', hu', rfl, rfl⟩ := hy
    obtain rfl : me = me' := by rwa [hme, hu', Option.some.injEq, eq_comm] at hu
    exact ⟨{ h with }, rfl, id⟩
  | stage ev =>
    simp only [Process.step, Option.ite_none_right_eq_some] at hx hy
    refine h.flowed (fun f g cs ds hf hg => ?_) hx.2 hy.2
    obtain ⟨hflow, rfl, rfl, hcarpools⟩ := h.flow.stage hx.1.2 halike hf hg
    exact ⟨hflow, rfl, hcarpools⟩
  | save new =>
    simp only [Process.step, Option.ite_none_right_eq_some, ← halike.2] at hx hy
    exact h.flowed (fun f g cs ds hf hg => h.flow.save halike.1 hf hg) hx.2 hy.2
  | created id =>
    obtain ⟨i, hi, hx⟩ := Option.bind_eq_some_iff.mp hx
    obtain ⟨j, hj, hy⟩ := Option.bind_eq_some_iff.mp hy
    exact h.flowed (fun f g cs ds hf hg => h.flow.acknowledged halike hi hj hf hg) hx hy
  | snapshot listener event ids => exact (h.snapshot hx hy).1
  | read listener event id answer => exact h.read hx hy
  | loaded listener event => exact h.sorted hx hy
  | segmentChanged segment =>
    simp only [Process.step, Option.ite_none_right_eq_some, Option.some.injEq, Prod.mk.injEq]
      at hx hy
    obtain ⟨-, rfl, rfl⟩ := hx
    obtain ⟨-, rfl, rfl⟩ := hy
    exact ⟨{ h with segment := rfl, dataSource := halike }, rfl, id⟩
  | deleteRow row => exact h.deleteRow halike hx hy
  | found users =>
    simp only [Process.step, Option.ite_none_right_eq_some, Option.some.injEq, Prod.mk.injEq]
      at hx hy
    obtain ⟨-, rfl, rfl⟩ := hx
    obtain ⟨-, rfl, rfl⟩ := hy
    exact ⟨{ h with results := congrArg (· ++ users) h.results }, rfl, id⟩
  | fetched k users =>
    simp only [Process.step, Option.ite_none_right_eq_some, Option.some.injEq, Prod.mk.injEq]
      at hx hy
    obtain ⟨-, rfl, rfl⟩ := hx
    obtain ⟨-, rfl, rfl⟩ := hy
    refine ⟨{ h with rows := ?_ }, rfl, id⟩
    simp only [h.rows]
  | relation op user =>
    simp only [Process.step, Option.ite_none_right_eq_some, Option.some.injEq, Prod.mk.injEq]
      at hx hy
    obtain ⟨-, rfl, rfl⟩ := hx
    obtain ⟨-, rfl, rfl⟩ := hy
    exact ⟨{ h with }, by rw [hme], id⟩
  | selectLocation latitude longitude =>
    cases hx
    cases hy
    exact ⟨{ h with }, rfl, id⟩
  | answered request answer =>
    simp only [Process.step, Option.ite_none_right_eq_some] at hx hy
    have hagree : Agree { x with requests := x.requests.erase request }
      { y with requests := y.requests.erase request } := { h with }
    obtain ⟨hagree', hwrites, hcarpools⟩ := hagree.handle halike hx.2 hy.2
    exact ⟨hagree', hwrites, hcarpools⟩

private theorem agree_unwinding (arraySet : List UserID → List UserID) :
    Unwinding (Process.step arraySet) (fun x y => x.Agree y ∧ x.Numbered)
      (ReadsAlike arraySet) := by
  intro x y x' y' e ws vs h halike hx hy
  have hstep := h.1.step h.2 halike hx hy
  exact ⟨⟨hstep.agree, h.2.step hx⟩, hstep.writes⟩

/-- A snapshot makes the list of carpools the same, and every step keeps it the same. -/
theorem carpools_step (h : x.Agree y) (hn : x.Numbered) (halike : ReadsAlike arraySet x y e)
    (heq : x.controller.carpools = y.controller.carpools ∨ e.IsSnapshot)
    (hx : Process.step arraySet x e = some (x', ws))
    (hy : Process.step arraySet y e = some (y', vs)) :
    x'.controller.carpools = y'.controller.carpools := by
  rcases heq with heq | hsnapshot
  · exact (h.step hn halike hx hy).carpools heq
  · obtain ⟨listener, event, ids, rfl⟩ := hsnapshot
    exact (h.snapshot hx hy).2

end Steps

/-- A run of the process has one session for each log-in. -/
theorem session_of_run {arraySet : List UserID → List UserID} {es : List Input}
    {s : Process × List ServerWrite} (h : run (emit (step arraySet)) (launched, []) es = some s) :
    s.1.session = es.countP Input.IsLogin ∧ s.1.Numbered := by
  refine run_induction (motive := fun es s => s.1.session = es.countP Input.IsLogin ∧ s.1.Numbered)
    ⟨rfl, nofun, nofun⟩ (fun es s e t _ ih hstep => ?_) h
  obtain ⟨ws, hstep, -⟩ := emit_eq_some.mp hstep
  refine ⟨?_, ih.2.step hstep⟩
  rw [List.countP_append, List.countP_singleton, ← ih.1]
  rcases step_numbers hstep with ⟨user, rfl, ht⟩ | ⟨hlogin, hsession, -⟩
  · rw [ht]
    rfl
  · rw [hsession, hlogin]
    rfl

/-- Two first sessions of one log-in each are followed by the same session. It writes the same
if all it reads of the first sessions is the same; and it ends with the same list of carpools
if that was the same at its log-in or a snapshot has arrived since. -/
theorem isolated {arraySet : List UserID → List UserID} {first first' second : List Input}
    {user : User} {x y u v : Process} {ws ws' vs vs' : List ServerWrite}
    (hx : run (emit (step arraySet)) (launched, []) first = some (x, ws))
    (hy : run (emit (step arraySet)) (launched, []) first' = some (y, ws'))
    (hfirst : first.countP Input.IsLogin = 1) (hfirst' : first'.countP Input.IsLogin = 1)
    (hu : run (emit (step arraySet)) (x, []) (.login user :: second) = some (u, vs))
    (hv : run (emit (step arraySet)) (y, []) (.login user :: second) = some (v, vs'))
    (halike : Alike (step arraySet) (ReadsAlike arraySet) (x, []) (y, [])
      (.login user :: second)) :
    vs = vs' ∧
      (x.controller.carpools = y.controller.carpools ∨ (∃ e ∈ second, e.IsSnapshot) →
        u.controller.carpools = v.controller.carpools) := by
  obtain ⟨hsx, hn⟩ := session_of_run hx
  obtain ⟨hsy, -⟩ := session_of_run hy
  have hsession : x.session = y.session := by
    rw [hsx, hsy, hfirst, hfirst']
  obtain ⟨x', hx', hu⟩ := run_cons_eq_some hu
  obtain ⟨y', hy', hv⟩ := run_cons_eq_some hv
  simp only [Alike, AllSteps, both_eq_some hx' hy'] at halike
  obtain ⟨_, hx', hxo⟩ := emit_eq_some.mp hx'
  obtain ⟨_, hy', hyo⟩ := emit_eq_some.mp hy'
  have hnumbered := hn.step hx'
  simp only [step, Option.ite_none_left_eq_some, Option.some.injEq, Prod.mk.injEq] at hx' hy'
  obtain ⟨-, hx', rfl⟩ := hx'
  obtain ⟨-, hy', rfl⟩ := hy'
  have hagree : x'.1.Agree y'.1 := hx' ▸ hy' ▸ Agree.login hn hsession user
  refine ⟨((agree_unwinding arraySet).outputs ⟨hagree, hnumbered⟩ (hxo.trans hyo.symm) halike.2
    hu hv).2, fun hcarpools => ?_⟩
  refine (agree_unwinding arraySet).establishes
    (E := fun x y => x.controller.carpools = y.controller.carpools)
    (fun _ _ _ _ _ _ _ h halike heq hx hy => carpools_step h.1 h.2 halike heq hx hy)
    ⟨hagree, hnumbered⟩ halike.2 hu hv (hcarpools.imp_left fun heq => ?_)
  rw [← hx', ← hy']
  exact heq

/-- The screens of a flow up to Add Friends, with `c` listed. -/
def toAddFriends : List Input :=
  [.stage .start, .stage (.next "t" 0 0), .stage (.selectDestination ⟨some "d", ⟨0⟩, ⟨0⟩⟩),
    .stage .toFriends, .stage (.friendsFetched [User.signedUp "c"])]

/-- Back from Add Friends to the list of carpools. -/
def leaves : List Input := [.stage .back, .stage .back, .stage .back]

/-- `a` logs in, does this, and logs out. -/
def sessionOf (acts : List Input) : List Input :=
  .login (User.signedUp "a") :: acts ++ [.logout]

/-- `b` takes a flow to its end, with no friend selected. -/
def rideAlone : List Input := toAddFriends ++ [.save ⟨"x", "m", "t"⟩, .created "x"]

/-- The process once all of this has happened. -/
def after (es : List Input) : Process :=
  ((run (emit (step List.dedup)) (launched, []) es).map Prod.fst).getD launched

/-- The condition holds where the first session only stages a destination and a location. -/
theorem isolated_destination_staged :
    ∃ u v vs vs',
      run (emit (step List.dedup))
          (after (sessionOf (toAddFriends ++ .selectLocation ⟨0⟩ ⟨0⟩ :: leaves)), [])
          (.login (User.signedUp "b") :: rideAlone) = some (u, vs) ∧
      run (emit (step List.dedup)) (after (sessionOf []), [])
          (.login (User.signedUp "b") :: rideAlone) = some (v, vs') ∧
      vs = vs' ∧ u.controller.carpools = v.controller.carpools := by
  let x := after (sessionOf (toAddFriends ++ .selectLocation ⟨0⟩ ⟨0⟩ :: leaves))
  let y := after (sessionOf [])
  have hx : run (emit (step List.dedup)) (launched, [])
    (sessionOf (toAddFriends ++ .selectLocation ⟨0⟩ ⟨0⟩ :: leaves)) = some (x, _) := rfl
  have hy : run (emit (step List.dedup)) (launched, []) (sessionOf []) = some (y, _) := rfl
  have hu : run (emit (step List.dedup)) (x, []) (.login (User.signedUp "b") :: rideAlone) =
    some (_, _) := rfl
  have hv : run (emit (step List.dedup)) (y, []) (.login (User.signedUp "b") :: rideAlone) =
    some (_, _) := rfl
  obtain ⟨hwrites, hcarpools⟩ := isolated hx hy rfl rfl hu hv (by decide)
  exact ⟨_, _, _, _, hu, hv, hwrites, hcarpools (.inl rfl)⟩

/-- A friend whom `a` has selected becomes a passenger of `b`, though `a` has written nothing. -/
theorem not_isolated :
    ¬ ∀ (first first' second : List Input) (user : User) (x y u v : Process)
        (ws vs vs' : List ServerWrite),
      run (emit (step List.dedup)) (launched, []) first = some (x, ws) →
      run (emit (step List.dedup)) (launched, []) first' = some (y, ws) →
      first.countP Input.IsLogin = 1 → first'.countP Input.IsLogin = 1 →
      run (emit (step List.dedup)) (x, []) (.login user :: second) = some (u, vs) →
      run (emit (step List.dedup)) (y, []) (.login user :: second) = some (v, vs') →
      vs = vs' ∧ u.controller.carpools = v.controller.carpools := by
  intro hall
  have h := hall (sessionOf (toAddFriends ++ .stage (.select 0 0) :: leaves)) (sessionOf [])
    rideAlone (User.signedUp "b") _ _ _ _ [] _ _ rfl rfl rfl rfl rfl rfl
  exact absurd h.1 (by decide)

end Process

end DriveTribe
