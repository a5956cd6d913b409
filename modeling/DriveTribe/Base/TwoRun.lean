import DriveTribe.Base.Run

/-!
# Two runs that take the same events

A step may put something out. Two runs from different states that take the same events put
out the same if the states are related and each pair of steps keeps them related and puts out
the same, as long as the two steps read alike. This is the unwinding rule of
noninterference; what the steps read is a condition on the two states and the event.
-/

namespace DriveTribe.Base

universe u v w
variable {σ : Type u} {ε : Type v} {ω : Type w}

/-- A step that puts something out, with all that was put out before. -/
def emit (step : σ → ε → Option (σ × List ω)) (x : σ × List ω) (e : ε) : Option (σ × List ω) :=
  (step x.1 e).map fun y => (y.1, x.2 ++ y.2)

/-- Two states take the same event. -/
def both (step : σ → ε → Option σ) (x : σ × σ) (e : ε) : Option (σ × σ) :=
  match step x.1 e, step x.2 e with
  | some s, some t => some (s, t)
  | _, _ => none

/-- What is put out is appended. -/
theorem emit_eq_some {step : σ → ε → Option (σ × List ω)} {x y : σ × List ω} {e : ε} :
    emit step x e = some y ↔ ∃ ws, step x.1 e = some (y.1, ws) ∧ y.2 = x.2 ++ ws := by
  constructor
  · intro h
    obtain ⟨⟨s, ws⟩, hs, rfl⟩ := Option.map_eq_some_iff.mp h
    exact ⟨ws, hs, rfl⟩
  · rintro ⟨ws, hs, hy⟩
    simp only [emit, hs, Option.map_some, ← hy]

/-- What a run has put out was put out before it, or by a step of it. -/
theorem exists_step_of_mem_emit {step : σ → ε → Option (σ × List ω)} {x y : σ × List ω}
    {es : List ε} {w : ω} (h : run (emit step) x es = some y) (hw : w ∈ y.2) :
    w ∈ x.2 ∨ ∃ es₁ e es₂ u v ws, es = es₁ ++ e :: es₂ ∧ run (emit step) x es₁ = some u ∧
      step u.1 e = some (v, ws) ∧ w ∈ ws := by
  refine run_induction (motive := fun es y => w ∈ y.2 → w ∈ x.2 ∨
    ∃ es₁ e es₂ u v ws, es = es₁ ++ e :: es₂ ∧ run (emit step) x es₁ = some u ∧
      step u.1 e = some (v, ws) ∧ w ∈ ws) (fun hw => .inl hw) ?_ h hw
  intro es u e z hu ih hz hmem
  obtain ⟨ws, hstep, hout⟩ := emit_eq_some.mp hz
  rw [hout] at hmem
  rcases List.mem_append.mp hmem with hmem | hmem
  · refine (ih hmem).imp_right ?_
    rintro ⟨es₁, f, es₂, u', v, vs, rfl, hrun, hf⟩
    exact ⟨es₁, f, es₂ ++ [e], u', v, vs, List.append_assoc es₁ (f :: es₂) [e], hrun, hf⟩
  · exact .inr ⟨es, e, [], u, z.1, ws, rfl, hu, hstep, hmem⟩

/-- Both states take the event if each of them does. -/
theorem both_eq_some {step : σ → ε → Option σ} {s t s' t' : σ} {e : ε} (hs : step s e = some s')
    (ht : step t e = some t') : both step (s, t) e = some (s', t') := by
  simp only [both, hs, ht]

section Unwinding
variable {step : σ → ε → Option (σ × List ω)} {R : σ → σ → Prop} {C : σ → σ → ε → Prop}

/-- The pairs of steps that meet `C` keep related states related and put out the same. -/
def Unwinding (step : σ → ε → Option (σ × List ω)) (R : σ → σ → Prop) (C : σ → σ → ε → Prop) :
    Prop :=
  ∀ ⦃s t s' t' : σ⦄ ⦃e : ε⦄ ⦃ws vs : List ω⦄, R s t → C s t e → step s e = some (s', ws) →
    step t e = some (t', vs) → R s' t' ∧ ws = vs

/-- The condition at the steps of two runs. -/
def Alike (step : σ → ε → Option (σ × List ω)) (C : σ → σ → ε → Prop) (x y : σ × List ω)
    (es : List ε) : Prop :=
  AllSteps (both (emit step)) (fun p e => C p.1.1 p.2.1 e) (x, y) es

instance [∀ s t e, Decidable (C s t e)] (x y : σ × List ω) (es : List ε) :
    Decidable (Alike step C x y es) :=
  AllSteps.decidable _ _ _

/-- Two runs put out the same and stay related. -/
theorem Unwinding.outputs (h : Unwinding step R C) {x y u v : σ × List ω} {es : List ε}
    (hrel : R x.1 y.1) (hout : x.2 = y.2) (hc : Alike step C x y es)
    (hx : run (emit step) x es = some u) (hy : run (emit step) y es = some v) :
    R u.1 v.1 ∧ u.2 = v.2 := by
  induction es generalizing x y with
  | nil =>
    rw [run_nil, Option.some.injEq] at hx hy
    exact hx ▸ hy ▸ ⟨hrel, hout⟩
  | cons e es ih =>
    obtain ⟨x', hx', hx⟩ := run_cons_eq_some hx
    obtain ⟨y', hy', hy⟩ := run_cons_eq_some hy
    simp only [Alike, AllSteps, both_eq_some hx' hy'] at hc
    obtain ⟨ws, hxs, hxo⟩ := emit_eq_some.mp hx'
    obtain ⟨vs, hys, hyo⟩ := emit_eq_some.mp hy'
    obtain ⟨hrel', rfl⟩ := h hrel hc.1 hxs hys
    exact ih hrel' (by rw [hxo, hyo, hout]) hc.2 hx hy

/-- A second relation that is kept, and that some events establish, holds after two runs with
such an event. -/
theorem Unwinding.establishes (h : Unwinding step R C) {E : σ → σ → Prop} {D : ε → Prop}
    (hE : ∀ ⦃s t s' t' : σ⦄ ⦃e : ε⦄ ⦃ws vs : List ω⦄, R s t → C s t e → (E s t ∨ D e) →
      step s e = some (s', ws) → step t e = some (t', vs) → E s' t')
    {x y u v : σ × List ω} {es : List ε} (hrel : R x.1 y.1) (hc : Alike step C x y es)
    (hx : run (emit step) x es = some u) (hy : run (emit step) y es = some v)
    (hest : E x.1 y.1 ∨ ∃ e ∈ es, D e) : E u.1 v.1 := by
  induction es generalizing x y with
  | nil =>
    rw [run_nil, Option.some.injEq] at hx hy
    exact hx ▸ hy ▸ hest.resolve_right nofun
  | cons e es ih =>
    obtain ⟨x', hx', hx⟩ := run_cons_eq_some hx
    obtain ⟨y', hy', hy⟩ := run_cons_eq_some hy
    simp only [Alike, AllSteps, both_eq_some hx' hy'] at hc
    obtain ⟨ws, hxs, -⟩ := emit_eq_some.mp hx'
    obtain ⟨vs, hys, -⟩ := emit_eq_some.mp hy'
    refine ih (h hrel hc.1 hxs hys).1 hc.2 hx hy ?_
    rcases hest with hest | ⟨f, hf, hd⟩
    · exact .inl (hE hrel hc.1 (.inl hest) hxs hys)
    · rcases List.mem_cons.mp hf with rfl | hf
      · exact .inl (hE hrel hc.1 (.inr hd) hxs hys)
      · exact .inr ⟨f, hf, hd⟩

end Unwinding

end DriveTribe.Base
