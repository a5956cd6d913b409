import Mathlib.Data.List.Basic

/-!
# Texts with separators

Texts are put together with a separator between them and taken apart at it. What does not have the
separator is read back.
-/

namespace DriveTribe.Base

/-- The parts of a text between the separators. -/
def parts (separator : Char) (text : String) : List String :=
  (text.split separator).toList.map (·.copy)

/-- Parts that do not have the separator are read back. -/
theorem parts_intercalate {separator : Char} {texts : List String} (hne : texts ≠ [])
    (htexts : ∀ text ∈ texts, separator ∉ text.toList) :
    parts separator ((String.singleton separator).intercalate texts) = texts := by
  rw [parts, String.toList_split_intercalate htexts, if_neg hne]

variable {separator text : String} {texts : List String}

/-- A separator after each text is one between them, and one more. -/
theorem join_map_append (hne : texts ≠ []) :
    String.join (texts.map (· ++ separator)) = separator.intercalate texts ++ separator := by
  induction texts with
  | nil => exact absurd rfl hne
  | cons text texts ih =>
    rw [List.map_cons, String.join_cons]
    by_cases hrest : texts = []
    · subst hrest
      rw [List.map_nil, String.join_nil, String.append_empty, String.intercalate_singleton]
    · rw [ih hrest, String.intercalate_cons_of_ne_nil hrest]
      simp only [String.append_assoc]

/-- The whole starts with the first text. -/
theorem head?_intercalate_cons (hne : text ≠ "") (texts : List String) :
    (separator.intercalate (text :: texts)).toList.head? = text.toList.head? := by
  by_cases hrest : texts = []
  · subst hrest
    rw [String.intercalate_singleton]
  · have hlist : text.toList ≠ [] := fun hnil => hne (String.toList_eq_nil_iff.mp hnil)
    rw [String.intercalate_cons_of_ne_nil hrest, String.append_assoc, String.toList_append,
      List.head?_append_of_ne_nil text.toList hlist]

/-- And ends with the last. -/
theorem getLast?_intercalate_concat (hne : text ≠ "") (texts : List String) :
    (separator.intercalate (texts ++ [text])).toList.getLast? = text.toList.getLast? := by
  by_cases hrest : texts = []
  · subst hrest
    rw [List.nil_append, String.intercalate_singleton]
  · have hlist : text.toList ≠ [] := fun hnil => hne (String.toList_eq_nil_iff.mp hnil)
    rw [String.intercalate_append_of_ne_nil hrest (List.cons_ne_nil _ _),
      String.intercalate_singleton, String.toList_append, List.getLast?_append_of_ne_nil _ hlist]

end DriveTribe.Base
