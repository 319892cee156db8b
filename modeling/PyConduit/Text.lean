import Mathlib.Data.List.Basic

/-!
# Splitting a text at the first separator

The two halves of Python's `text.split(separator, 1)`, as operations on strings.
-/

namespace PyConduit.Text

set_option autoImplicit false

/-- `text.split(separator, 1)[0]` -/
def before (separator : Char) (text : String) : String :=
  String.ofList (text.toList.takeWhile (· ≠ separator))

/-- `text.split(separator, 1)[-1]` -/
def after (separator : Char) (text : String) : String :=
  if separator ∈ text.toList then
    String.ofList (text.toList.dropWhile (· ≠ separator)).tail
  else text

/-- A property of the characters of a text is decided on the text, not on all there are. -/
instance decidableOfEach (holds : Char → Prop) [DecidablePred holds] (text : List Char) :
    Decidable (∀ char ∈ text, holds char) :=
  List.decidableBAll holds text

theorem take_drop_comm {first last : Char} (apart : first ≠ last) (text : List Char)
    (inFront : first ∈ text.takeWhile (· ≠ last)) :
    ((text.dropWhile (· ≠ first)).tail).takeWhile (· ≠ last) =
      ((text.takeWhile (· ≠ last)).dropWhile (· ≠ first)).tail := by
  induction text with
  | nil => cases inFront
  | cons char rest induction =>
      by_cases stop : char = last
      · simp [stop] at inFront
      · by_cases found : char = first
        · simp [found, apart]
        · have later : first ∈ rest.takeWhile (· ≠ last) := by
            simpa [stop, Ne.symm found] using inFront
          simpa [stop, found] using induction later

@[simp] theorem to_list_before (separator : Char) (text : String) :
    (before separator text).toList = text.toList.takeWhile (· ≠ separator) :=
  String.toList_ofList

theorem after_of_absent {separator : Char} {text : String} (absent : separator ∉ text.toList) :
    after separator text = text :=
  if_neg absent

theorem after_of_present {separator : Char} {text : String} (present : separator ∈ text.toList) :
    after separator text = String.ofList (text.toList.dropWhile (· ≠ separator)).tail :=
  if_pos present

/-- The two orders of splitting agree when the first separator comes first. -/
theorem before_after_of_first {first last : Char} (apart : first ≠ last) {text : String}
    (inFront : first ∈ (before last text).toList) :
    before last (after first text) = after first (before last text) := by
  have taken : first ∈ text.toList.takeWhile (· ≠ last) := by
    rwa [to_list_before] at inFront
  have inside : first ∈ text.toList := (List.takeWhile_sublist _).subset taken
  rw [after_of_present inFront, after_of_present inside, before, String.toList_ofList,
    to_list_before, take_drop_comm apart _ taken]

end PyConduit.Text
