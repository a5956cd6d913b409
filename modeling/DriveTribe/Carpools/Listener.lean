import Mathlib.Data.List.DropRight
import DriveTribe.Base.Run
import DriveTribe.Carpools.Controller

/-!
# The listener of a user's groups

`fetchGroupsForCurrentUser`, `CarpoolController.swift:141–189`. Each snapshot event empties
the one list of carpools and starts a read for each group; each read appends to the list
when it completes, whichever event has started it. The list converges to the last snapshot
exactly if no read of an earlier event completes with a carpool after it.
-/

namespace DriveTribe

open Base

/-- A read started by a snapshot event; the events are numbered from zero. -/
structure ListenerRead where
  event : Nat
  carpool : CarpoolID
  deriving DecidableEq, Repr

/-- The read was started by the last of `n` snapshot events. -/
def ListenerRead.IsOfLast (n : Nat) (r : ListenerRead) : Prop := r.event + 1 = n

instance (n : Nat) (r : ListenerRead) : Decidable (ListenerRead.IsOfLast n r) := by
  unfold ListenerRead.IsOfLast
  infer_instance

/-- What is delivered to the listener or to one of its reads. -/
inductive ListenerEvent where
  | snapshot (ids : List CarpoolID)
  /-- An error, or no documents: reported and nothing else. -/
  | failed (error : String)
  | completed (read : ListenerRead) (answer : CarpoolAnswer)
  deriving DecidableEq, Repr

/-- The controller with the listener's outstanding reads. -/
structure Listener where
  controller : CarpoolController
  outstanding : List ListenerRead
  /-- How many snapshot events there have been. -/
  events : Nat
  deriving DecidableEq, Repr

namespace ListenerEvent

/-- The groups of a snapshot event. -/
def ids? : ListenerEvent → Option (List CarpoolID)
  | .snapshot ids => some ids
  | _ => none

/-- A read with its answer. -/
def answer? : ListenerEvent → Option (ListenerRead × CarpoolAnswer)
  | .completed read answer => some (read, answer)
  | _ => none

end ListenerEvent

namespace Listener

/-- A listener that was just added. -/
def initial : Listener := ⟨{}, [], 0⟩

/-- One delivery. A read can complete once. -/
def step (x : Listener) : ListenerEvent → Option Listener
  | .snapshot ids =>
    some ⟨x.controller.groupsChanged, x.outstanding ++ ids.map (⟨x.events, ·⟩), x.events + 1⟩
  | .failed _ => some x
  | .completed read answer =>
    if read ∈ x.outstanding then
      some { x with
        controller := x.controller.carpoolRead answer
        outstanding := x.outstanding.erase read }
    else none

/-! ### What the deliveries say -/

/-- The number of snapshot events. -/
def snapshots (es : List ListenerEvent) : Nat := es.countP fun e => e.ids?.isSome

/-- The groups of the last snapshot. -/
def lastIDs (es : List ListenerEvent) : List CarpoolID :=
  (es.filterMap ListenerEvent.ids?).getLast?.getD []

/-- The reads that completed since the last snapshot, with their answers. -/
def answers (es : List ListenerEvent) : List (ListenerRead × CarpoolAnswer) :=
  (es.rtakeWhile fun e => e.ids?.isNone).filterMap ListenerEvent.answer?

/-- The reads of the last snapshot that completed, with their answers. -/
def lastAnswers (es : List ListenerEvent) : List (ListenerRead × CarpoolAnswer) :=
  (answers es).filter fun x => ListenerRead.IsOfLast (snapshots es) x.1

/-- Convergence: every group of the last snapshot has been read once, and the list holds the
carpools these reads decoded to, each once, and no other. -/
def Converged (es : List ListenerEvent) (carpools : List Carpool) : Prop :=
  ((lastAnswers es).map (·.1.carpool)).Perm (lastIDs es) ∧
    carpools.Perm ((lastAnswers es).filterMap (·.2.carpool?))

/-- No read of an earlier event completes with a carpool after the last snapshot. -/
def NoneLate (es : List ListenerEvent) : Prop :=
  ∀ x ∈ answers es, x.2.carpool? ≠ none → ListenerRead.IsOfLast (snapshots es) x.1

instance (es : List ListenerEvent) : Decidable (NoneLate es) := by
  unfold NoneLate
  infer_instance

section Concat
variable (es : List ListenerEvent) (e : ListenerEvent)

private theorem snapshots_concat :
    snapshots (es ++ [e]) = snapshots es + if e.ids?.isSome then 1 else 0 := by
  simp only [snapshots, List.countP_append, List.countP_singleton]

private theorem lastIDs_concat : lastIDs (es ++ [e]) = e.ids?.getD (lastIDs es) := by
  cases h : e.ids? with
  | none => simp only [lastIDs, List.filterMap_append, List.filterMap_cons, h, List.filterMap_nil,
      List.append_nil, Option.getD_none]
  | some ids => simp only [lastIDs, List.filterMap_append, List.filterMap_cons, h,
      List.filterMap_nil, List.getLast?_concat, Option.getD_some]

private theorem answers_concat :
    answers (es ++ [e]) = if e.ids?.isSome then [] else answers es ++ e.answer?.toList := by
  cases h : e.ids? with
  | none =>
    simp only [answers, List.rtakeWhile_concat, h, Option.isNone_none, ↓reduceIte,
      List.filterMap_append, Option.isSome_none, Bool.false_eq_true]
    cases ha : e.answer? <;> simp [ha]
  | some ids =>
    simp only [answers, List.rtakeWhile_concat, h, Option.isNone_some, Bool.false_eq_true,
      ↓reduceIte, List.filterMap_nil, Option.isSome_some]

end Concat

/-- What holds after any deliveries: the list holds what completed since the last snapshot;
no read is of a later event; and each group of the last snapshot is being read or has been
read. -/
structure Inv (es : List ListenerEvent) (x : Listener) : Prop where
  events : x.events = snapshots es
  carpools : x.controller.carpools = (answers es).filterMap (·.2.carpool?)
  outstanding : ∀ r ∈ x.outstanding, r.event < x.events
  reads : ((x.outstanding.filter (ListenerRead.IsOfLast (snapshots es) ·)).map (·.carpool) ++
    (lastAnswers es).map (·.1.carpool)).Perm (lastIDs es)

/-- Nothing has happened to a new listener. -/
theorem inv_initial : Inv [] initial := ⟨rfl, rfl, nofun, .nil⟩

/-- A snapshot empties the list and starts its own reads. -/
theorem Inv.snapshot {es : List ListenerEvent} {x : Listener} (h : Inv es x)
    (ids : List CarpoolID) : Inv (es ++ [.snapshot ids])
      ⟨x.controller.groupsChanged, x.outstanding ++ ids.map (⟨x.events, ·⟩), x.events + 1⟩ := by
  have hsnap : snapshots (es ++ [.snapshot ids]) = snapshots es + 1 := snapshots_concat ..
  have hans : answers (es ++ [.snapshot ids]) = [] := answers_concat ..
  constructor
  case events =>
    rw [hsnap, h.events]
  case carpools =>
    rw [hans]
    rfl
  case outstanding =>
    intro r hr
    rcases List.mem_append.mp hr with hr | hr
    · exact Nat.lt_succ_of_lt (h.outstanding r hr)
    · obtain ⟨id, -, rfl⟩ := List.mem_map.mp hr
      exact Nat.lt_succ_self _
  case reads =>
    have hold : x.outstanding.filter (ListenerRead.IsOfLast (snapshots es + 1) ·) = [] := by
      rw [List.filter_eq_nil_iff]
      intro r hr hlast
      have hlt := h.outstanding r hr
      rw [h.events, ← Nat.succ_inj.mp (of_decide_eq_true hlast)] at hlt
      exact lt_irrefl _ hlt
    have hnew : (ids.map (⟨x.events, ·⟩ : CarpoolID → ListenerRead)).filter
        (ListenerRead.IsOfLast (snapshots es + 1) ·) = ids.map (⟨x.events, ·⟩) := by
      rw [List.filter_eq_self]
      intro r hr
      obtain ⟨id, -, rfl⟩ := List.mem_map.mp hr
      simp only [ListenerRead.IsOfLast, h.events, decide_eq_true_eq]
    rw [lastAnswers, hans, hsnap, List.filter_append, hold, hnew, lastIDs_concat]
    simp only [List.nil_append, List.map_map, List.filter_nil, List.map_nil, List.append_nil,
      ListenerEvent.ids?, Option.getD_some, Function.comp_def, List.map_id', List.Perm.refl]

/-- A read that completes adds its carpool, and is no longer outstanding. -/
theorem Inv.completed {es : List ListenerEvent} {x : Listener} (h : Inv es x) {r : ListenerRead}
    (hr : r ∈ x.outstanding) (answer : CarpoolAnswer) : Inv (es ++ [.completed r answer])
      { x with
        controller := x.controller.carpoolRead answer
        outstanding := x.outstanding.erase r } := by
  have hsnap : snapshots (es ++ [.completed r answer]) = snapshots es := snapshots_concat ..
  have hans : answers (es ++ [.completed r answer]) = answers es ++ [(r, answer)] :=
    answers_concat ..
  constructor
  case events =>
    rw [hsnap]
    exact h.events
  case carpools =>
    rw [hans, List.filterMap_append, ← h.carpools]
    simp only [CarpoolController.carpoolRead]
    cases hc : answer.carpool? <;> simp [hc]
  case outstanding =>
    exact fun r' hr' => h.outstanding r' (List.mem_of_mem_erase hr')
  case reads =>
    rw [lastAnswers, hans, hsnap, List.filter_append, ← lastAnswers, lastIDs_concat]
    refine List.Perm.trans ?_ h.reads
    have herase := ((List.perm_cons_erase hr).filter
      (ListenerRead.IsOfLast (snapshots es) ·)).map (·.carpool)
    rw [List.map_append, ← List.append_assoc]
    refine List.Perm.trans ?_ (herase.symm.append_right _)
    by_cases hlast : ListenerRead.IsOfLast (snapshots es) r
    · simp only [List.filter_cons, hlast, decide_true, ↓reduceIte, List.filter_nil, List.map_cons,
        List.map_nil]
      exact List.perm_append_comm
    · simp only [List.filter_cons, hlast, decide_false, Bool.false_eq_true, ↓reduceIte,
        List.filter_nil, List.map_nil, List.append_nil, List.Perm.refl]

/-- The invariant holds after every run. -/
theorem inv_of_run {es : List ListenerEvent} {x : Listener} (h : run step initial es = some x) :
    Inv es x := by
  refine run_induction (motive := Inv) inv_initial ?_ h
  intro es x e y _ hx hy
  cases e with
  | snapshot ids =>
    cases hy
    exact hx.snapshot ids
  | failed error =>
    cases hy
    have hsnap : snapshots (es ++ [.failed error]) = snapshots es := snapshots_concat ..
    have hans : answers (es ++ [.failed error]) = answers es := by
      rw [answers_concat]
      exact List.append_nil _
    have hids : lastIDs (es ++ [.failed error]) = lastIDs es := lastIDs_concat ..
    refine ⟨?_, ?_, hx.outstanding, ?_⟩
    · rw [hsnap, hx.events]
    · rw [hans, hx.carpools]
    · rw [lastAnswers, hans, hsnap, hids, ← lastAnswers]
      exact hx.reads
  | completed r answer =>
    simp only [step, Option.ite_none_right_eq_some, Option.some.injEq] at hy
    obtain ⟨hr, rfl⟩ := hy
    exact hx.completed hr answer

/-- Leaving out elements loses nothing exactly if each of them yields nothing. -/
theorem filterMap_perm_filter_iff {α β : Type} (f : α → Option β) (p : α → Bool) (l : List α) :
    (l.filterMap f).Perm ((l.filter p).filterMap f) ↔ ∀ x ∈ l, f x ≠ none → p x = true := by
  induction l with
  | nil => simp only [List.filterMap_nil, List.filter_nil, List.Perm.refl, List.not_mem_nil,
      false_implies, implies_true]
  | cons x l ih =>
    rw [List.forall_mem_cons, ← ih]
    cases hp : p x with
    | true =>
      rw [List.filter_cons_of_pos hp]
      cases hf : f x with
      | none => simp only [List.filterMap_cons, hf, ne_eq, not_true_eq_false, false_implies,
          true_and]
      | some y => simp only [List.filterMap_cons, hf, List.perm_cons, implies_true, true_and]
    | false =>
      rw [List.filter_cons_of_neg (by rw [hp]; exact Bool.false_ne_true)]
      cases hf : f x with
      | none => simp only [List.filterMap_cons, hf, ne_eq, not_true_eq_false, false_implies,
          true_and]
      | some y =>
        -- `y` is lost, so the other side is shorter.
        refine iff_of_false (fun hperm => ?_) (fun h => Bool.false_ne_true (h.1 nofun))
        have hle : ((l.filter p).filterMap f).length ≤ (l.filterMap f).length :=
          (List.filter_sublist.filterMap f).length_le
        rw [List.filterMap_cons, hf] at hperm
        have hlen := hperm.length_eq
        rw [List.length_cons] at hlen
        omega

/-- Once every read has completed, the list has converged to the last snapshot exactly if no
read of an earlier event completed with a carpool after it. -/
theorem converged_iff {es : List ListenerEvent} {x : Listener} (h : run step initial es = some x)
    (hquiet : x.outstanding = []) : Converged es x.controller.carpools ↔ NoneLate es := by
  have hinv := inv_of_run h
  have hreads := hinv.reads
  rw [hquiet] at hreads
  rw [Converged, hinv.carpools, lastAnswers, filterMap_perm_filter_iff]
  simp only [decide_eq_true_eq]
  exact and_iff_right hreads

/-- A stored carpool with this id. -/
def storedCarpool (id : CarpoolID) : CarpoolAnswer :=
  .snapshot (some (Carpool.toDocument
    { title := "t", mode := "work", type := "carpool", destinationName := "d", driver := "u"
      uuid := id }))

/-- The condition holds where the reads of an earlier event complete before the next one. -/
theorem converged_in_turn :
    ∃ x, run step initial [.snapshot ["a"], .completed ⟨0, "a"⟩ (storedCarpool "a"),
        .snapshot ["a", "b"], .completed ⟨1, "b"⟩ (storedCarpool "b"),
        .completed ⟨1, "a"⟩ (storedCarpool "a")] = some x ∧
      Converged [.snapshot ["a"], .completed ⟨0, "a"⟩ (storedCarpool "a"),
        .snapshot ["a", "b"], .completed ⟨1, "b"⟩ (storedCarpool "b"),
        .completed ⟨1, "a"⟩ (storedCarpool "a")] x.controller.carpools :=
  ⟨_, rfl, (converged_iff rfl rfl).mpr (by decide)⟩

/-- A group is added while the carpool of the first one is being read. -/
def overlappingSnapshots : List ListenerEvent :=
  [.snapshot ["a"], .snapshot ["a", "b"], .completed ⟨0, "a"⟩ (storedCarpool "a"),
    .completed ⟨1, "a"⟩ (storedCarpool "a"), .completed ⟨1, "b"⟩ (storedCarpool "b")]

/-- The carpool of the first group is then listed twice. -/
theorem not_converged :
    ¬ ∀ (es : List ListenerEvent) (x : Listener), run step initial es = some x →
      x.outstanding = [] → Converged es x.controller.carpools := by
  intro hall
  obtain ⟨x, hrun, hx⟩ := exists_run_of_any step initial overlappingSnapshots
    (fun x => x.outstanding.isEmpty && x.controller.carpools.length == 3) (by decide)
  rw [Bool.and_eq_true, List.isEmpty_iff, beq_iff_eq] at hx
  have hlen := (hall _ x hrun hx.1).2.length_eq
  rw [hx.2] at hlen
  exact absurd hlen (by decide)

end Listener

end DriveTribe
