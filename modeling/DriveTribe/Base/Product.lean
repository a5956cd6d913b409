import Mathlib.Logic.Function.Basic
import DriveTribe.Base.Run

/-!
# Products of independent machines

A family of machines, one for each index. Every event is routed to one of them and moves no
other, so what a machine does in a run of the product is its run of the events routed to it.
A system whose steps either leave the product alone or add one event to a history is
simulated by the product running that history.
-/

namespace DriveTribe.Base

universe u v w x y
variable {ι : Type u} [DecidableEq ι] {M : ι → Type v} {β : Type w}
variable (route : β → ι) (act : ∀ i, β → M i → M i)

/-- An event moves the machine it is routed to. -/
def productStep (m : ∀ i, M i) (b : β) : ∀ i, M i :=
  Function.update m (route b) (act (route b) b (m (route b)))

/-- The product after the events. -/
def productRun (m : ∀ i, M i) (bs : List β) : ∀ i, M i := bs.foldl (productStep route act) m

variable {route act}

private theorem productRun_concat (m : ∀ i, M i) (bs : List β) (b : β) :
    productRun route act m (bs ++ [b]) = productStep route act (productRun route act m bs) b := by
  simp only [productRun, List.foldl_append, List.foldl_cons, List.foldl_nil]

/-- No other machine moves. -/
theorem productStep_of_ne {m : ∀ i, M i} {b : β} {i : ι} (h : route b ≠ i) :
    productStep route act m b i = m i :=
  Function.update_of_ne (Ne.symm h) ..

/-- The machine of the event acts. -/
theorem productStep_self (m : ∀ i, M i) (b : β) :
    productStep route act m b (route b) = act (route b) b (m (route b)) :=
  Function.update_self ..

/-- What a machine does is its run of the events routed to it. -/
theorem productRun_apply (bs : List β) (m : ∀ i, M i) (i : ι) :
    productRun route act m bs i =
      (bs.filter fun b => route b = i).foldl (fun x b => act i b x) (m i) := by
  induction bs generalizing m with
  | nil => rfl
  | cons b bs ih =>
    have hih := ih (productStep route act m b)
    rw [productRun, List.foldl_cons, ← productRun, hih]
    by_cases hb : route b = i
    · subst hb
      simp only [List.filter_cons, decide_true, if_true, List.foldl_cons, productStep_self]
    · simp only [List.filter_cons, hb, decide_false, Bool.false_eq_true, if_false,
        productStep_of_ne hb]

/-- A run in which every step leaves the product alone, or moves it by an event that enters the
g, leads to the run of the product over the history. -/
theorem productRun_of_history {σ : Type x} {ε : Type y} {step : σ → ε → Option σ} {I : σ → Prop}
    {f : σ → ∀ i, M i} {g : σ → List β}
    (hinv : ∀ s e t, I s → step s e = some t → I t)
    (hstep : ∀ s e t, I s → step s e = some t → (f t = f s ∧ g t = g s) ∨
      ∃ b, f t = productStep route act (f s) b ∧ g t = g s ++ [b])
    {s₀ s : σ} {es : List ε} (h₀ : I s₀) (hnone : g s₀ = [])
    (hrun : run step s₀ es = some s) : f s = productRun route act (f s₀) (g s) := by
  have hstart : f s₀ = productRun route act (f s₀) (g s₀) := by
    rw [hnone]
    rfl
  have hboth := run_invariant
    (I := fun s => I s ∧ f s = productRun route act (f s₀) (g s)) ?_ ⟨h₀, hstart⟩ hrun
  · exact hboth.2
  · intro s e t hs ht
    refine ⟨hinv s e t hs.1 ht, ?_⟩
    rcases hstep s e t hs.1 ht with ⟨hf, hg⟩ | ⟨b, hf, hg⟩
    · rw [hf, hg]
      exact hs.2
    · rw [hf, hg, productRun_concat, ← hs.2]

end DriveTribe.Base
