import Mathlib.Data.List.Nodup
import Mathlib.Logic.Function.Basic

/-!
# Documents of a keyed store

A collection maps ids to documents. An update of a missing document fails; setting and
deleting a document always succeed. An array field is changed by a union with one element
or by the removal of one element, each applied to the array as it is when the write lands.
-/

namespace DriveTribe.Base

universe u v
variable {α : Type u}

/-- A change of an array field: add an element that is absent, or remove every occurrence
of an element. -/
inductive FieldValue (α : Type u) where
  | arrayUnion (x : α)
  | arrayRemove (x : α)
  deriving DecidableEq, Repr

namespace FieldValue

/-- The element the change is about. -/
def element : FieldValue α → α
  | arrayUnion x => x
  | arrayRemove x => x

/-- Whether the element is present afterwards. -/
def present : FieldValue α → Bool
  | arrayUnion _ => true
  | arrayRemove _ => false

/-- The array after the change. -/
def apply [DecidableEq α] (xs : List α) : FieldValue α → List α
  | arrayUnion x => if x ∈ xs then xs else xs ++ [x]
  | arrayRemove x => xs.filter (· ≠ x)

/-- A change decides the membership of its own element and of no other. -/
theorem mem_apply [DecidableEq α] (xs : List α) (f : FieldValue α) (y : α) :
    y ∈ f.apply xs ↔ if y = f.element then f.present = true else y ∈ xs := by
  cases f with
  | arrayUnion x =>
    simp only [apply, element, present]
    by_cases hy : y = x
    · subst y
      by_cases hx : x ∈ xs <;> simp [hx]
    · by_cases hx : x ∈ xs <;> simp [hx, hy]
  | arrayRemove x =>
    simp only [apply, element, present, List.mem_filter]
    by_cases hy : y = x <;> simp [hy]

/-- A change keeps an array free of duplicates. -/
theorem nodup_apply [DecidableEq α] {xs : List α} (h : xs.Nodup) (f : FieldValue α) :
    (f.apply xs).Nodup := by
  cases f with
  | arrayUnion x =>
    rw [apply]
    split
    · exact h
    · next hx =>
      rw [← List.concat_eq_append]
      exact h.concat hx
  | arrayRemove x => exact h.filter _

/-- A change made twice is made once. -/
theorem apply_apply [DecidableEq α] (xs : List α) (f : FieldValue α) :
    f.apply (f.apply xs) = f.apply xs := by
  cases f with
  | arrayUnion x =>
    have hmem : x ∈ apply xs (.arrayUnion x) := by simp [mem_apply, element, present]
    rw [apply, if_pos hmem]
  | arrayRemove x => simp only [apply, List.filter_filter, Bool.and_self]

/-- A removal changes nothing where the element is absent, and only there. -/
theorem apply_arrayRemove_eq_self_iff [DecidableEq α] {xs : List α} {x : α} :
    apply xs (.arrayRemove x) = xs ↔ x ∉ xs := by
  constructor
  · intro h
    rw [← h, mem_apply, if_pos (show x = element (.arrayRemove x) from rfl)]
    exact Bool.false_ne_true
  · intro h
    rw [apply, List.filter_eq_self]
    exact fun a ha => decide_eq_true fun he => h (he ▸ ha)

end FieldValue

/-! ### Collections -/

section Collection
variable {I : Type u} {D : Type v} [DecidableEq I]

/-- Change the document with id `i`; fails when there is none. -/
def updateData (docs : I → Option D) (i : I) (f : D → D) : Option (I → Option D) :=
  (docs i).map fun d => Function.update docs i (some (f d))

/-- Write a whole document. -/
def setData (docs : I → Option D) (i : I) (d : D) : I → Option D :=
  Function.update docs i (some d)

/-- Delete a document, present or not. -/
def deleteDocument (docs : I → Option D) (i : I) : I → Option D :=
  Function.update docs i none

/-- The document that was written. -/
@[simp] theorem setData_self (docs : I → Option D) (i : I) (d : D) : setData docs i d i = some d :=
  Function.update_self ..

/-- The documents that were not. -/
theorem setData_of_ne (docs : I → Option D) {i j : I} (d : D) (h : j ≠ i) :
    setData docs i d j = docs j :=
  Function.update_of_ne h ..

/-- The document that was deleted. -/
@[simp] theorem deleteDocument_self (docs : I → Option D) (i : I) :
    deleteDocument docs i i = none :=
  Function.update_self ..

/-- The documents that were not. -/
theorem deleteDocument_of_ne (docs : I → Option D) {i j : I} (h : j ≠ i) :
    deleteDocument docs i j = docs j :=
  Function.update_of_ne h ..

/-- A successful update found the document and changed no other. -/
theorem updateData_eq_some {docs docs' : I → Option D} {i : I} {f : D → D}
    (h : updateData docs i f = some docs') :
    ∃ d, docs i = some d ∧ docs' i = some (f d) ∧ ∀ j, j ≠ i → docs' j = docs j := by
  obtain ⟨d, hd, rfl⟩ := Option.map_eq_some_iff.mp h
  exact ⟨d, hd, Function.update_self .., fun j hj => Function.update_of_ne hj ..⟩

/-- An update neither creates nor deletes a document. -/
theorem updateData_isSome {docs docs' : I → Option D} {i : I} {f : D → D}
    (h : updateData docs i f = some docs') (j : I) : (docs' j).isSome = (docs j).isSome := by
  obtain ⟨d, hd, hd', hne⟩ := updateData_eq_some h
  by_cases hj : j = i
  · rw [hj, hd, hd']
    rfl
  · rw [hne j hj]

end Collection

end DriveTribe.Base
