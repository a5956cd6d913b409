/-!
# Writes in flight

Any number of senders issue writes into one outbox, kept in the order of issue. A write
lands at an arbitrary later moment; the writes of one sender land in the order that
sender issued them. What the writes do is given register by register: a write either
assigns a register or leaves it alone.

`settle` is the value a register has once everything in flight has landed in the order
of issue. Landing a write out of that order leaves the settled value unchanged unless the
write overtakes one that assigns the same register differently.
-/

namespace DriveTribe.Base

universe u v w x
variable {ω : Type u} {κ : Type v} {E : Type w} {V : Type x}

/-- Take the write at position `i` out of the outbox. It has to be the first of its
sender. -/
def takeOut [DecidableEq κ] (sender : ω → κ) (box : List ω) (i : Nat) : Option (ω × List ω) :=
  match box[i]? with
  | none => none
  | some x =>
    if ∀ w ∈ box.take i, sender w ≠ sender x then some (x, box.eraseIdx i) else none

/-- The element at a position is what is missing once the position is erased. -/
theorem exists_of_getElem? {box : List ω} {i : Nat} {x : ω} (h : box[i]? = some x) :
    ∃ pre post, box = pre ++ x :: post ∧ box.eraseIdx i = pre ++ post ∧ pre = box.take i := by
  obtain ⟨hi, hget⟩ := List.getElem?_eq_some_iff.mp h
  refine ⟨box.take i, box.drop (i + 1), ?_, List.eraseIdx_eq_take_drop_succ .., rfl⟩
  rw [← hget, ← List.drop_eq_getElem_cons hi, List.take_append_drop]

/-- What is elsewhere stays when a position is erased. -/
theorem mem_eraseIdx_of_ne {box : List ω} {i : Nat} {x y : ω} (hx : box[i]? = some x)
    (hy : y ∈ box) (hne : y ≠ x) : y ∈ box.eraseIdx i := by
  obtain ⟨pre, post, hbox, herase, -⟩ := exists_of_getElem? hx
  rw [hbox] at hy
  rw [herase]
  rcases List.mem_append.mp hy with hy | hy
  · exact List.mem_append_left _ hy
  · apply List.mem_append_right
    exact (List.mem_cons.mp hy).resolve_left hne

/-- Taking an element out takes its image out, if it has one. -/
theorem filterMap_eraseIdx {box : List ω} {i : Nat} {x : ω} (h : box[i]? = some x)
    (f : ω → Option V) :
    ∃ pre post, box.filterMap f = pre ++ ((f x).toList ++ post) ∧
      (box.eraseIdx i).filterMap f = pre ++ post := by
  obtain ⟨pre, post, hbox, herase, -⟩ := exists_of_getElem? h
  refine ⟨pre.filterMap f, post.filterMap f, ?_, ?_⟩
  · rw [hbox, List.filterMap_append]
    cases hf : f x <;> simp [hf]
  · rw [herase, List.filterMap_append]

/-- The write taken out had only writes of other senders before it. -/
theorem takeOut_eq_some [DecidableEq κ] {sender : ω → κ} {box rest : List ω} {i : Nat} {x : ω}
    (h : takeOut sender box i = some (x, rest)) :
    ∃ pre post, box = pre ++ x :: post ∧ rest = pre ++ post ∧ pre = box.take i ∧
      ∀ w ∈ pre, sender w ≠ sender x := by
  unfold takeOut at h
  split at h
  · cases h
  · next y hy =>
    split at h
    · next hfirst =>
      simp only [Option.some.injEq, Prod.mk.injEq] at h
      obtain ⟨rfl, rfl⟩ := h
      obtain ⟨pre, post, hbox, herase, rfl⟩ := exists_of_getElem? hy
      exact ⟨_, post, hbox, herase, rfl, hfirst⟩
    · cases h

/-- The write taken out is the one at the position. -/
theorem takeOut_getElem? [DecidableEq κ] {sender : ω → κ} {box rest : List ω} {i : Nat} {x : ω}
    (h : takeOut sender box i = some (x, rest)) : box[i]? = some x := by
  unfold takeOut at h
  split at h
  · cases h
  · next y hy =>
    split at h
    · simp only [Option.some.injEq, Prod.mk.injEq] at h
      rw [hy, h.1]
    · cases h

/-- The write taken out was in the outbox. -/
theorem takeOut_mem [DecidableEq κ] {sender : ω → κ} {box rest : List ω} {i : Nat} {x : ω}
    (h : takeOut sender box i = some (x, rest)) : x ∈ box := by
  obtain ⟨pre, post, rfl, -, -, -⟩ := takeOut_eq_some h
  exact List.mem_append_right _ (List.mem_cons_self ..)

/-- What is left was in the outbox before. -/
theorem takeOut_subset [DecidableEq κ] {sender : ω → κ} {box rest : List ω} {i : Nat} {x : ω}
    (h : takeOut sender box i = some (x, rest)) {w : ω} (hw : w ∈ rest) : w ∈ box := by
  obtain ⟨pre, post, rfl, rfl, -, -⟩ := takeOut_eq_some h
  rcases List.mem_append.mp hw with hw | hw
  · exact List.mem_append_left _ hw
  · exact List.mem_append_right _ (List.mem_cons_of_mem _ hw)

/-- Everything but the write taken out is left. -/
theorem mem_of_takeOut [DecidableEq κ] {sender : ω → κ} {box rest : List ω} {i : Nat} {x w : ω}
    (h : takeOut sender box i = some (x, rest)) (hw : w ∈ box) : w = x ∨ w ∈ rest := by
  obtain ⟨pre, post, rfl, rfl, -, -⟩ := takeOut_eq_some h
  rcases List.mem_append.mp hw with hw | hw
  · exact .inr (List.mem_append_left _ hw)
  · rcases List.mem_cons.mp hw with hw | hw
    · exact .inl hw
    · exact .inr (List.mem_append_right _ hw)

/-! ### Settled values -/

/-- The value of a register after one more write. -/
def assign (effect : ω → E → Option V) (e : E) (v : V) (w : ω) : V := (effect w e).getD v

/-- The value of register `e`, now `v`, once all of `box` has landed in the order of issue. -/
def settle (effect : ω → E → Option V) (box : List ω) (e : E) (v : V) : V :=
  box.foldl (assign effect e) v

variable {effect : ω → E → Option V}

/-- Nothing in flight, nothing to settle. -/
@[simp] theorem settle_nil (e : E) (v : V) : settle effect [] e v = v := rfl

/-- The first write settles first. -/
@[simp] theorem settle_cons (x : ω) (box : List ω) (e : E) (v : V) :
    settle effect (x :: box) e v = settle effect box e ((effect x e).getD v) := rfl

/-- Writes issued later settle later. -/
theorem settle_append (box more : List ω) (e : E) (v : V) :
    settle effect (box ++ more) e v = settle effect more e (settle effect box e v) :=
  List.foldl_append

/-- Writes that all leave the register alone settle nothing. -/
theorem settle_of_none {box : List ω} {e : E} (h : ∀ w ∈ box, effect w e = none) (v : V) :
    settle effect box e v = v := by
  induction box with
  | nil => rfl
  | cons w box ih =>
    rw [settle_cons, h w (List.mem_cons_self ..)]
    exact ih fun y hy => h y (List.mem_cons_of_mem _ hy)

/-- `x` agrees with every write of `box` on register `e`: where both assign it, they assign
the same value. -/
def Agrees (effect : ω → E → Option V) (box : List ω) (x : ω) (e : E) : Prop :=
  ∀ v, effect x e = some v → ∀ w ∈ box, ∀ v', effect w e = some v' → v' = v

/-- Writes that all assign `v` or nothing settle `v` to itself. -/
theorem settle_of_agrees {box : List ω} {e : E} {v : V}
    (h : ∀ w ∈ box, ∀ v', effect w e = some v' → v' = v) : settle effect box e v = v := by
  induction box with
  | nil => rfl
  | cons w box ih =>
    have hw : (effect w e).getD v = v := by
      cases he : effect w e with
      | none => rfl
      | some v' => exact h w (List.mem_cons_self ..) v' he
    rw [settle_cons, hw]
    exact ih fun y hy => h y (List.mem_cons_of_mem _ hy)

/-- Writes of which one assigns `b` and none anything else settle `b`. -/
theorem settle_of_mem {box : List ω} {e : E} {b : V} {x : ω} (hx : x ∈ box)
    (hxb : effect x e = some b) (h : ∀ w ∈ box, ∀ v', effect w e = some v' → v' = b) (v : V) :
    settle effect box e v = b := by
  obtain ⟨pre, post, rfl⟩ := List.append_of_mem hx
  rw [settle_append, settle_cons, hxb, Option.getD_some]
  exact settle_of_agrees fun w hw => h w (List.mem_append_right _ (List.mem_cons_of_mem _ hw))

/-- Landing a write that agrees with everything it overtakes leaves the settled value as
it was. -/
theorem settle_land {pre post : List ω} {x : ω} {e : E} (h : Agrees effect pre x e) (v : V) :
    settle effect (pre ++ post) e ((effect x e).getD v) =
      settle effect (pre ++ x :: post) e v := by
  rw [settle_append, settle_append, settle_cons]
  cases hx : effect x e with
  | none => rfl
  | some v' =>
    rw [Option.getD_some, Option.getD_some, settle_of_agrees (h v' hx)]

end DriveTribe.Base
