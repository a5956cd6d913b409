import Mathlib.Data.List.Perm.Basic
import DriveTribe.Base.Run

/-!
# Requests and their answers

A caller sends out requests. Each is answered once, in any order. Handling an answer may change
the state, send out more requests and call back; between the answers the state may change in the
background. What was called back is what handling the answers called, and what was answered
or is still outstanding is what was sent out.
-/

namespace DriveTribe.Base

universe u
variable {σ ρ α γ β : Type u}

/-- What handling an answer leads to. -/
structure Reply (σ ρ γ : Type u) where
  state : σ
  requests : List ρ := []
  calls : List γ := []

/-- A request with its answer, and the state in which it was handled. -/
structure Answered (σ ρ α : Type u) where
  request : ρ
  answer : α
  state : σ

/-- A caller between its first request and its last answer. `answers` is history: no step
reads it. -/
structure Requests (σ ρ α γ : Type u) where
  state : σ
  outstanding : List ρ
  calls : List γ := []
  answers : List (Answered σ ρ α) := []

/-- What can happen to a caller. -/
inductive RequestEvent (α β : Type u) where
  /-- The `i`-th outstanding request is answered. -/
  | answered (i : Nat) (answer : α)
  | background (change : β)

/-- The change an event makes in the background. -/
def RequestEvent.change? : RequestEvent α β → Option β
  | .answered _ _ => none
  | .background change => some change

/-- Where at most one element is of a kind, two of the kind are the same. -/
theorem eq_of_countP_le_one {l : List α} {p : α → Bool} (h : l.countP p ≤ 1) {a b : α} (ha : a ∈ l)
    (hb : b ∈ l) (hpa : p a = true) (hpb : p b = true) : a = b := by
  have hma : a ∈ l.filter p := List.mem_filter.mpr ⟨ha, hpa⟩
  have hmb : b ∈ l.filter p := List.mem_filter.mpr ⟨hb, hpb⟩
  rw [List.countP_eq_length_filter] at h
  rcases hf : l.filter p with _ | ⟨c, _ | ⟨d, cs⟩⟩
  · rw [hf] at hma
    cases hma
  · rw [hf] at hma hmb
    rw [List.mem_singleton.mp hma, List.mem_singleton.mp hmb]
  · rw [hf, List.length_cons, List.length_cons] at h
    omega

/-- Where at most one element contributes, and what it contributes is `l'`, there is no more than
`l'`. -/
theorem flatMap_subperm {l' : List β} {l : List α} {p : α → Bool} {f : α → List β}
    (hone : l.countP p ≤ 1) (hl : ∀ a, f a = l' ∨ f a = []) (hnone : ∀ a, p a = false → f a = []) :
    (l.flatMap f).Subperm l' := by
  induction l with
  | nil => exact List.nil_subperm
  | cons a l ih =>
    rw [List.flatMap_cons]
    cases hp : p a with
    | false =>
      rw [List.countP_cons_of_neg (by simp [hp])] at hone
      rw [hnone a hp, List.nil_append]
      exact ih hone
    | true =>
      rw [List.countP_cons_of_pos hp] at hone
      have hzero : l.countP p = 0 := by omega
      have hrest : l.flatMap f = [] := by
        rw [List.flatMap_eq_nil_iff]
        exact fun b hb => hnone b (Bool.eq_false_iff.mpr (List.countP_eq_zero.mp hzero b hb))
      rw [hrest, List.append_nil]
      rcases hl a with heq | heq
      · exact heq ▸ List.Subperm.refl _
      · exact heq ▸ List.nil_subperm

namespace Requests

/-- One event, where `handle` handles an answer. -/
def step (handle : σ → ρ → α → Reply σ ρ γ) (background : σ → β → σ) (x : Requests σ ρ α γ) :
    RequestEvent α β → Option (Requests σ ρ α γ)
  | .answered i answer =>
    match x.outstanding[i]? with
    | none => none
    | some request =>
      let reply := handle x.state request answer
      some
        { state := reply.state
          outstanding := x.outstanding.eraseIdx i ++ reply.requests
          calls := x.calls ++ reply.calls
          answers := x.answers ++ [⟨request, answer, x.state⟩] }
  | .background change => some { x with state := background x.state change }

variable {handle : σ → ρ → α → Reply σ ρ γ} {background : σ → β → σ}

/-- The reply to an answer. -/
def reply (handle : σ → ρ → α → Reply σ ρ γ) (a : Answered σ ρ α) : Reply σ ρ γ :=
  handle a.state a.request a.answer

/-- An answer takes its request out, and its reply follows. -/
theorem step_answered {x y : Requests σ ρ α γ} {i : Nat} {answer : α}
    (h : step handle background x (.answered i answer) = some y) :
    ∃ request, x.outstanding[i]? = some request ∧
      y = { state := (handle x.state request answer).state
            outstanding := x.outstanding.eraseIdx i ++ (handle x.state request answer).requests
            calls := x.calls ++ (handle x.state request answer).calls
            answers := x.answers ++ [⟨request, answer, x.state⟩] } := by
  cases hget : x.outstanding[i]? with
  | none => simp only [step, hget, reduceCtorEq] at h
  | some request =>
    simp only [step, hget, Option.some.injEq] at h
    exact ⟨request, rfl, h.symm⟩

section Run
variable {s : σ} {rs : List ρ} {cs : List γ} {x : Requests σ ρ α γ} {es : List (RequestEvent α β)}

/-- Requests that only ever lead to requests of the same kind are all of that kind. -/
theorem forall_outstanding {p : ρ → Prop} (hstart : ∀ r ∈ rs, p r)
    (hreply : ∀ t r answer, p r → ∀ r' ∈ (handle t r answer).requests, p r')
    (h : run (step handle background) ⟨s, rs, cs, []⟩ es = some x) :
    (∀ r ∈ x.outstanding, p r) ∧ ∀ a ∈ x.answers, p a.request := by
  refine run_invariant (I := fun x : Requests σ ρ α γ =>
    (∀ r ∈ x.outstanding, p r) ∧ ∀ a ∈ x.answers, p a.request) ?_
    ⟨hstart, fun _ ha => absurd ha List.not_mem_nil⟩ h
  rintro x e y ⟨hout, hanswers⟩ hy
  cases e with
  | answered i answer =>
    obtain ⟨request, hget, rfl⟩ := step_answered hy
    have hrequest : p request := hout request (List.mem_of_getElem? hget)
    refine ⟨fun r hr => ?_, fun a ha => ?_⟩
    · rcases List.mem_append.mp hr with hr | hr
      · exact hout r (List.mem_of_mem_eraseIdx hr)
      · exact hreply x.state request answer hrequest r hr
    · rcases List.mem_append.mp ha with ha | ha
      · exact hanswers a ha
      · rw [List.mem_singleton.mp ha]
        exact hrequest
  | background change =>
    cases hy
    exact ⟨hout, hanswers⟩

/-- Induction along a run whose requests are of one kind: over the events, the answers and the
state, with one case for an answer and one for the background. -/
theorem run_cases_of {p : ρ → Prop} (hstart : ∀ r ∈ rs, p r)
    (hreply : ∀ t r answer, p r → ∀ r' ∈ (handle t r answer).requests, p r')
    {motive : List (RequestEvent α β) → List (Answered σ ρ α) → σ → Prop}
    (hnil : motive [] [] s)
    (hanswered : ∀ es as t i request answer, p request → motive es as t →
      motive (es ++ [.answered i answer]) (as ++ [⟨request, answer, t⟩])
        (handle t request answer).state)
    (hbackground : ∀ es as t change, motive es as t →
      motive (es ++ [.background change]) as (background t change))
    (h : run (step handle background) ⟨s, rs, cs, []⟩ es = some x) :
    motive es x.answers x.state := by
  refine run_induction (motive := fun es x => motive es x.answers x.state) hnil ?_ h
  intro es x e y hx hmotive hy
  cases e with
  | answered i answer =>
    obtain ⟨request, hget, rfl⟩ := step_answered hy
    have hrequest := (forall_outstanding hstart hreply hx).1 request (List.mem_of_getElem? hget)
    exact hanswered es x.answers x.state i request answer hrequest hmotive
  | background change =>
    cases hy
    exact hbackground es x.answers x.state change hmotive

/-- The same for requests of any kind. -/
theorem run_cases {motive : List (RequestEvent α β) → List (Answered σ ρ α) → σ → Prop}
    (hnil : motive [] [] s)
    (hanswered : ∀ es as t i request answer, motive es as t →
      motive (es ++ [.answered i answer]) (as ++ [⟨request, answer, t⟩])
        (handle t request answer).state)
    (hbackground : ∀ es as t change, motive es as t →
      motive (es ++ [.background change]) as (background t change))
    (h : run (step handle background) ⟨s, rs, cs, []⟩ es = some x) :
    motive es x.answers x.state :=
  run_cases_of (p := fun _ => True) (fun _ _ => True.intro) (fun _ _ _ _ _ _ => True.intro) hnil
    (fun es as t i request answer _ => hanswered es as t i request answer) hbackground h

/-- What was called back is what the replies called. -/
theorem calls_eq (h : run (step handle background) ⟨s, rs, cs, []⟩ es = some x) :
    x.calls = cs ++ x.answers.flatMap fun a => (reply handle a).calls := by
  refine run_invariant (I := fun x : Requests σ ρ α γ =>
    x.calls = cs ++ x.answers.flatMap fun a => (reply handle a).calls) ?_ ?_ h
  · intro x e y hx hy
    cases e with
    | answered i answer =>
      obtain ⟨request, -, rfl⟩ := step_answered hy
      simp only [hx, List.flatMap_append, List.flatMap_cons, List.flatMap_nil, List.append_nil,
        List.append_assoc, reply]
    | background change =>
      cases hy
      exact hx
  · exact (List.append_nil cs).symm

/-- What was answered or is outstanding is what was sent out. -/
theorem requests_perm (h : run (step handle background) ⟨s, rs, cs, []⟩ es = some x) :
    (x.answers.map Answered.request ++ x.outstanding).Perm
      (rs ++ x.answers.flatMap fun a => (reply handle a).requests) := by
  refine run_invariant (I := fun x : Requests σ ρ α γ =>
    (x.answers.map Answered.request ++ x.outstanding).Perm
      (rs ++ x.answers.flatMap fun a => (reply handle a).requests)) ?_ ?_ h
  · intro x e y hx hy
    cases e with
    | answered i answer =>
      obtain ⟨request, hget, rfl⟩ := step_answered hy
      have hout : (request :: x.outstanding.eraseIdx i).Perm x.outstanding := by
        obtain ⟨hi, rfl⟩ := List.getElem?_eq_some_iff.mp hget
        exact List.getElem_cons_eraseIdx_perm hi
      rw [List.map_append, List.flatMap_append, List.append_assoc]
      simp only [List.map_cons, List.map_nil, List.flatMap_cons, List.flatMap_nil, List.append_nil,
        List.singleton_append, reply]
      rw [← List.cons_append, ← List.append_assoc, ← List.append_assoc]
      exact ((hout.append_left _).trans hx).append_right _
    | background change =>
      cases hy
      exact hx
  · simp only [List.map_nil, List.nil_append, List.flatMap_nil, List.append_nil, List.Perm.refl]

/-- What was answered was sent out at first or by a reply. -/
theorem mem_request (h : run (step handle background) ⟨s, rs, cs, []⟩ es = some x)
    {a : Answered σ ρ α} (ha : a ∈ x.answers) :
    a.request ∈ rs ∨ ∃ b ∈ x.answers, a.request ∈ (reply handle b).requests := by
  have hmem := (requests_perm h).subset
    (List.mem_append_left _ (List.mem_map_of_mem (f := Answered.request) ha))
  rcases List.mem_append.mp hmem with hmem | hmem
  · exact .inl hmem
  · exact .inr (List.mem_flatMap.mp hmem)

/-- Once everything has been answered, the answers are to what was sent out. -/
theorem answers_perm (h : run (step handle background) ⟨s, rs, cs, []⟩ es = some x)
    (hquiet : x.outstanding = []) :
    (x.answers.map Answered.request).Perm
      (rs ++ x.answers.flatMap fun a => (reply handle a).requests) := by
  have hperm := requests_perm h
  rw [hquiet, List.append_nil] at hperm
  exact hperm

section Landed
variable {S W : Type u}

/-- The writes of the requests that succeeded, in the order of the answers. -/
def landed (write : ρ → W) (succeeds : α → Prop) [DecidablePred succeeds]
    (as : List (Answered σ ρ α)) : List W :=
  (as.filter fun a => succeeds a.answer).map fun a => write a.request

/-- Where a success lands a write and a failure leaves the store, the store is what the
successes have landed. -/
theorem landed_run (store : σ → S) (write : ρ → W) (land : S → W → Option S)
    (succeeds : α → Prop) [DecidablePred succeeds]
    (hland : ∀ t request answer, succeeds answer →
      land (store t) (write request) = some (store (handle t request answer).state))
    (hfailed : ∀ t request answer, ¬ succeeds answer →
      store (handle t request answer).state = store t)
    (hbackground : ∀ t change, store (background t change) = store t)
    (h : run (step handle background) ⟨s, rs, cs, []⟩ es = some x) :
    run land (store s) (landed write succeeds x.answers) = some (store x.state) := by
  refine run_cases (motive := fun _ as t =>
    run land (store s) (landed write succeeds as) = some (store t)) rfl ?_ ?_ h
  · intro es as t i request answer ht
    by_cases hanswer : succeeds answer
    · have happend : landed write succeeds (as ++ [⟨request, answer, t⟩]) =
          landed write succeeds as ++ [write request] := by
        simp only [landed, List.filter_append, List.filter_cons, hanswer, decide_true, if_true,
          List.filter_nil, List.map_append, List.map_cons, List.map_nil]
      rw [happend, run_append_eq_some]
      exact ⟨store t, ht, run_cons (hland t request answer hanswer) []⟩
    · have happend : landed write succeeds (as ++ [⟨request, answer, t⟩]) =
          landed write succeeds as := by
        simp only [landed, List.filter_append, List.filter_cons, hanswer, decide_false,
          Bool.false_eq_true, if_false, List.filter_nil, List.append_nil]
      rw [happend, hfailed t request answer hanswer]
      exact ht
  · intro es as t change ht
    rw [hbackground]
    exact ht

/-- A write has landed if a request for it succeeded. -/
theorem mem_landed_iff {write : ρ → W} {succeeds : α → Prop} [DecidablePred succeeds]
    {as : List (Answered σ ρ α)} {w : W} :
    w ∈ landed write succeeds as ↔ ∃ a ∈ as, succeeds a.answer ∧ write a.request = w := by
  simp only [landed, List.mem_map, List.mem_filter, decide_eq_true_eq, and_assoc]

end Landed

end Run
end Requests

end DriveTribe.Base
