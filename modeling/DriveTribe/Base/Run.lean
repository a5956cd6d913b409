/-!
# Runs of a partial transition function

A system is a function `step : σ → ε → Option σ`, undefined where an event is not
enabled. Properties of every state of a run and of every step of a run are
recursive over the events, so both evaluate on a concrete run. The rules carry an
invariant along a run, unconditionally or where every step meets a condition.
-/

namespace DriveTribe.Base

universe u v
variable {σ : Type u} {ε : Type v} {step : σ → ε → Option σ}

/-- The state after the events, when each of them is enabled in turn. -/
def run (step : σ → ε → Option σ) (s : σ) : List ε → Option σ
  | [] => some s
  | e :: es =>
    match step s e with
    | none => none
    | some t => run step t es

/-- `P` holds of every step of the run, read in the state before the step. -/
def AllSteps (step : σ → ε → Option σ) (P : σ → ε → Prop) (s : σ) : List ε → Prop
  | [] => True
  | e :: es =>
    match step s e with
    | none => True
    | some t => P s e ∧ AllSteps step P t es

/-- `P` holds of every state of the run, the first one included. -/
def AllStates (step : σ → ε → Option σ) (P : σ → Prop) (s : σ) : List ε → Prop
  | [] => P s
  | e :: es =>
    P s ∧
      match step s e with
      | none => True
      | some t => AllStates step P t es

instance AllSteps.decidable (P : σ → ε → Prop) [∀ s e, Decidable (P s e)] :
    ∀ (s : σ) (es : List ε), Decidable (AllSteps step P s es)
  | _, [] => .isTrue True.intro
  | s, e :: es =>
    match h : step s e with
    | none => .isTrue (by simp only [AllSteps, h])
    | some t =>
      have := AllSteps.decidable P t es
      decidable_of_iff (P s e ∧ AllSteps step P t es) (by simp only [AllSteps, h])

instance AllStates.decidable (P : σ → Prop) [∀ s, Decidable (P s)] :
    ∀ (s : σ) (es : List ε), Decidable (AllStates step P s es)
  | s, [] => inferInstanceAs (Decidable (P s))
  | s, e :: es =>
    match h : step s e with
    | none => decidable_of_iff (P s) (by simp only [AllStates, h, and_true])
    | some t =>
      have := AllStates.decidable P t es
      decidable_of_iff (P s ∧ AllStates step P t es) (by simp only [AllStates, h])

/-! ### Splitting a run -/

/-- The empty run stays where it is. -/
@[simp] theorem run_nil (s : σ) : run step s [] = some s := rfl

/-- A run that starts with an enabled event goes on from the state after it. -/
theorem run_cons {s t : σ} {e : ε} (h : step s e = some t) (es : List ε) :
    run step s (e :: es) = run step t es := by
  simp only [run, h]

/-- A run of at least one event has a first step. -/
theorem run_cons_eq_some {s u : σ} {e : ε} {es : List ε} (h : run step s (e :: es) = some u) :
    ∃ t, step s e = some t ∧ run step t es = some u := by
  cases hs : step s e with
  | none => simp only [run, hs, reduceCtorEq] at h
  | some t => exact ⟨t, rfl, by simpa only [run, hs] using h⟩

/-- A run over a concatenation passes through the state between the two parts. -/
theorem run_append_eq_some {s u : σ} {es fs : List ε} :
    run step s (es ++ fs) = some u ↔ ∃ t, run step s es = some t ∧ run step t fs = some u := by
  induction es generalizing s with
  | nil => simp only [List.nil_append, run_nil, Option.some.injEq, exists_eq_left']
  | cons e es ih =>
    cases hs : step s e with
    | none => simp only [List.cons_append, run, hs, reduceCtorEq, false_and, exists_false]
    | some t => simp only [List.cons_append, run, hs, ih]

/-- One more event takes one more step. -/
theorem run_concat_eq_some {s u : σ} {es : List ε} {e : ε} :
    run step s (es ++ [e]) = some u ↔ ∃ t, run step s es = some t ∧ step t e = some u := by
  rw [run_append_eq_some]
  constructor
  · rintro ⟨t, ht, hu⟩
    obtain ⟨v, hv, hn⟩ := run_cons_eq_some hu
    rw [run_nil, Option.some.injEq] at hn
    exact ⟨t, ht, hn ▸ hv⟩
  · rintro ⟨t, ht, hu⟩
    exact ⟨t, ht, by rw [run_cons hu, run_nil]⟩

/-- A test that passes on the state a concrete run ends in gives that state. -/
theorem exists_run_of_any (step : σ → ε → Option σ) (s : σ) (es : List ε) (p : σ → Bool)
    (h : (run step s es).any p = true) : ∃ t, run step s es = some t ∧ p t = true :=
  (Option.any_eq_true p _).mp h

/-- What holds in every state of a run holds in its last state. -/
theorem allStates_last {P : σ → Prop} {s u : σ} {es : List ε} (h : AllStates step P s es)
    (hr : run step s es = some u) : P u := by
  induction es generalizing s with
  | nil =>
    rw [run_nil, Option.some.injEq] at hr
    exact hr ▸ h
  | cons e es ih =>
    obtain ⟨t, ht, hu⟩ := run_cons_eq_some hr
    simp only [AllStates, ht] at h
    exact ih h.2 hu

/-- What holds of every step of a run holds of its last step. -/
theorem allSteps_last {P : σ → ε → Prop} {s t u : σ} {es : List ε} {e : ε}
    (h : AllSteps step P s (es ++ [e])) (hr : run step s es = some t) (ht : step t e = some u) :
    P t e := by
  induction es generalizing s with
  | nil =>
    rw [run_nil, Option.some.injEq] at hr
    subst hr
    simp only [List.nil_append, AllSteps, ht] at h
    exact h.1
  | cons x es ih =>
    obtain ⟨v, hv, hr⟩ := run_cons_eq_some hr
    simp only [List.cons_append, AllSteps, hv] at h
    exact ih h.2 hr

/-! ### Invariants -/

/-- Where every step that meets `C` preserves `I`, a run of such steps preserves `I`. -/
theorem run_invariant_of_steps {I : σ → Prop} {C : σ → ε → Prop}
    (hstep : ∀ s e t, I s → C s e → step s e = some t → I t)
    {s u : σ} {es : List ε} (hs : I s) (hc : AllSteps step C s es)
    (hr : run step s es = some u) : I u := by
  induction es generalizing s with
  | nil =>
    rw [run_nil, Option.some.injEq] at hr
    exact hr ▸ hs
  | cons e es ih =>
    obtain ⟨t, ht, hu⟩ := run_cons_eq_some hr
    simp only [AllSteps, ht] at hc
    exact ih (hstep s e t hs hc.1 ht) hc.2 hu

/-- Every step without a condition on it. -/
theorem allSteps_true (s : σ) (es : List ε) : AllSteps step (fun _ _ => True) s es := by
  induction es generalizing s with
  | nil => exact True.intro
  | cons e es ih =>
    cases hs : step s e with
    | none => simp only [AllSteps, hs]
    | some t => simp only [AllSteps, hs, ih t, and_self]

/-- A condition on the events alone holds at every step. -/
theorem allSteps_of_forall {P : ε → Prop} {es : List ε} (h : ∀ e ∈ es, P e) (s : σ) :
    AllSteps step (fun _ e => P e) s es := by
  induction es generalizing s with
  | nil => exact True.intro
  | cons e es ih =>
    cases hs : step s e with
    | none => simp only [AllSteps, hs]
    | some t =>
      simp only [AllSteps, hs]
      exact ⟨h e (List.mem_cons_self ..), ih (fun x hx => h x (List.mem_cons_of_mem _ hx)) t⟩

/-- Two conditions on every step make one. -/
theorem allSteps_and {P Q : σ → ε → Prop} {s : σ} {es : List ε} (hp : AllSteps step P s es)
    (hq : AllSteps step Q s es) : AllSteps step (fun s e => P s e ∧ Q s e) s es := by
  induction es generalizing s with
  | nil => exact True.intro
  | cons e es ih =>
    cases hs : step s e with
    | none => simp only [AllSteps, hs]
    | some t =>
      simp only [AllSteps, hs] at hp hq ⊢
      exact ⟨⟨hp.1, hq.1⟩, ih hp.2 hq.2⟩

/-- An invariant that every step preserves holds after every run. -/
theorem run_invariant {I : σ → Prop} (hstep : ∀ s e t, I s → step s e = some t → I t)
    {s u : σ} {es : List ε} (hs : I s) (hr : run step s es = some u) : I u :=
  run_invariant_of_steps (C := fun _ _ => True)
    (fun s e t hs _ ht => hstep s e t hs ht) hs (allSteps_true s es) hr

/-- Induction along a run from `s₀` for a property of the events so far and the state they
lead to. -/
theorem run_induction {s₀ : σ} {motive : List ε → σ → Prop} (hnil : motive [] s₀)
    (hconcat : ∀ es s e t, run step s₀ es = some s → motive es s → step s e = some t →
      motive (es ++ [e]) t)
    {es : List ε} {s : σ} (hr : run step s₀ es = some s) : motive es s := by
  have hfrom : ∀ (fs pre : List ε) (u : σ), run step s₀ pre = some u → motive pre u →
      run step u fs = some s → motive (pre ++ fs) s := by
    intro fs
    induction fs with
    | nil =>
      intro pre u _ hu hs
      rw [run_nil, Option.some.injEq] at hs
      rw [List.append_nil]
      exact hs ▸ hu
    | cons e fs ih =>
      intro pre u hpre hu hs
      obtain ⟨t, ht, hs⟩ := run_cons_eq_some hs
      have hrun : run step s₀ (pre ++ [e]) = some t := run_concat_eq_some.mpr ⟨u, hpre, ht⟩
      rw [List.append_cons]
      exact ih (pre ++ [e]) t hrun (hconcat pre u e t hpre hu ht) hs
  exact hfrom es [] s₀ (run_nil s₀) hnil hr

/-- What an invariant gives at a step holds at every step of a run that keeps the
invariant. -/
theorem allSteps_of_invariant {I : σ → Prop} {C Q : σ → ε → Prop}
    (hstep : ∀ s e t, I s → C s e → step s e = some t → I t)
    (hq : ∀ s e t, I s → C s e → step s e = some t → Q s e)
    {s : σ} {es : List ε} (hs : I s) (hc : AllSteps step C s es) : AllSteps step Q s es := by
  induction es generalizing s with
  | nil => exact True.intro
  | cons e es ih =>
    cases ht : step s e with
    | none => simp only [AllSteps, ht]
    | some t =>
      simp only [AllSteps, ht] at hc ⊢
      exact ⟨hq s e t hs hc.1 ht, ih (hstep s e t hs hc.1 ht) hc.2⟩

/-- What an invariant gives in a state holds in every state of a run that keeps the
invariant. -/
theorem allStates_of_invariant {I Q : σ → Prop} {C : σ → ε → Prop}
    (hstep : ∀ s e t, I s → C s e → step s e = some t → I t) (hq : ∀ s, I s → Q s)
    {s : σ} {es : List ε} (hs : I s) (hc : AllSteps step C s es) : AllStates step Q s es := by
  induction es generalizing s with
  | nil => exact hq s hs
  | cons e es ih =>
    cases ht : step s e with
    | none => simp only [AllStates, ht, and_true, hq s hs]
    | some t =>
      simp only [AllSteps, ht] at hc
      simp only [AllStates, ht]
      exact ⟨hq s hs, ih (hstep s e t hs hc.1 ht) hc.2⟩

/-- Where a step from a good state leads to a good state exactly if it meets `C`, a run
from a good state stays good exactly if each of its steps meets `C`. The invariant need only
be kept by steps that meet `C`. -/
theorem allStates_iff_allSteps_of_steps {I P : σ → Prop} {C : σ → ε → Prop}
    (hstep : ∀ s e t, I s → C s e → step s e = some t → I t)
    (hiff : ∀ s e t, I s → P s → step s e = some t → (P t ↔ C s e))
    {s : σ} (hs : I s) (hp : P s) (es : List ε) :
    AllStates step P s es ↔ AllSteps step C s es := by
  induction es generalizing s with
  | nil => simp only [AllStates, AllSteps, hp]
  | cons e es ih =>
    cases ht : step s e with
    | none => simp only [AllStates, AllSteps, ht, and_true, hp]
    | some t =>
      simp only [AllStates, AllSteps, ht, hp, true_and]
      have hc := hiff s e t hs hp ht
      constructor
      · intro h
        have hpt : P t := by
          cases es with
          | nil => exact h
          | cons _ _ => exact h.1
        have hi := hstep s e t hs (hc.mp hpt) ht
        exact ⟨hc.mp hpt, (ih hi hpt).mp h⟩
      · rintro ⟨hce, h⟩
        have hi := hstep s e t hs hce ht
        exact (ih hi (hc.mpr hce)).mpr h

/-- The same where every step keeps the invariant. -/
theorem allStates_iff_allSteps {I P : σ → Prop} {C : σ → ε → Prop}
    (hstep : ∀ s e t, I s → step s e = some t → I t)
    (hiff : ∀ s e t, I s → P s → step s e = some t → (P t ↔ C s e))
    {s : σ} (hs : I s) (hp : P s) (es : List ε) :
    AllStates step P s es ↔ AllSteps step C s es :=
  allStates_iff_allSteps_of_steps (fun s e t hi _ ht => hstep s e t hi ht) hiff hs hp es

/-- Two conditions on the steps of a run are the same where they are the same at each step from
the invariant. The invariant need only be kept by steps that meet them, of the events `Q`. -/
theorem allSteps_iff_of_steps {I : σ → Prop} {P C : σ → ε → Prop} {Q : ε → Prop}
    (hstep : ∀ s e t, I s → Q e → C s e → step s e = some t → I t)
    (hiff : ∀ s e t, I s → Q e → step s e = some t → (P s e ↔ C s e))
    {s : σ} {es : List ε} (hs : I s) (hq : ∀ e ∈ es, Q e) :
    AllSteps step P s es ↔ AllSteps step C s es := by
  induction es generalizing s with
  | nil => exact Iff.rfl
  | cons e es ih =>
    obtain ⟨he, hrest⟩ := List.forall_mem_cons.mp hq
    cases ht : step s e with
    | none => simp only [AllSteps, ht]
    | some t =>
      simp only [AllSteps, ht]
      rw [hiff s e t hs he ht]
      exact and_congr_right fun hc => ih (hstep s e t hs he hc ht) hrest

/-! ### Progress -/

end DriveTribe.Base
