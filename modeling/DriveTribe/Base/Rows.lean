import Mathlib.Data.List.Basic

/-!
# Rows of a list

A view of a list asks for the rows below a number that it was told earlier. When one row is
deleted, the view checks that the row was there and that the list has lost one element since.
-/

namespace DriveTribe.Base

universe u
variable {α : Type u}

/-- Every row below a number is there exactly if the list is that long. -/
theorem forall_isSome_getElem?_iff {l : List α} {rows : Nat} :
    (∀ i < rows, l[i]?.isSome) ↔ rows ≤ l.length := by
  simp only [isSome_getElem?]
  constructor
  · intro h
    by_contra hlt
    exact Nat.lt_irrefl _ (h l.length (Nat.not_le.mp hlt))
  · exact fun h i hi => Nat.lt_of_lt_of_le hi h

/-- Delete row `i` of a view that knows of `rows` rows, over a list that has `count` elements by
now. `none` is the exception of an invalid update. -/
def deleteRow (rows i count : Nat) : Option Nat :=
  if i < rows ∧ count + 1 = rows then some count else none

/-- A deletion is valid if the view knew of every element and of the row. -/
theorem deleteRow_eq_some_iff {rows i count rows' : Nat} :
    deleteRow rows i count = some rows' ↔ i < rows ∧ count + 1 = rows ∧ rows' = count := by
  simp only [deleteRow, Option.ite_none_right_eq_some, Option.some.injEq, and_assoc,
    eq_comm (a := count)]

end DriveTribe.Base
