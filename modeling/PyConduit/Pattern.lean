import Mathlib.Data.List.Forall2
import PyConduit.Text

/-!
# Searching for a literal text with assertions

A pattern is a sequence of characters and word boundaries, and a text matches it
where the characters agree one by one. Which characters agree and which belong to
words is left open. The text of a pattern is read as regular expressions are
written: a backslash makes a character literal, and `b` behind it is a boundary.
Nothing here names a particular program.
-/

namespace PyConduit.Pattern

set_option autoImplicit false

inductive Item
  | char (char : Char)
  | boundary
  deriving DecidableEq

section Matching

variable (same : Char → Char → Bool) (word : Char → Bool)

def wordAt (char : Option Char) : Bool := char.any word

/-- The pattern matches at a place; `before` is the character in front of it. -/
def matchesAt : Option Char → List Item → List Char → Bool
  | _, [], _ => true
  | before, .boundary :: items, text =>
      (wordAt word before != wordAt word text.head?) && matchesAt before items text
  | _, .char _ :: _, [] => false
  | _, .char char :: items, first :: text => same char first && matchesAt (some first) items text

/-- The pattern matches at some place, the end of the text included. -/
def searchFrom (before : Option Char) (items : List Item) : List Char → Bool
  | [] => matchesAt same word before items []
  | first :: text =>
      matchesAt same word before items (first :: text) || searchFrom (some first) items text

def search (items : List Item) (text : List Char) : Bool := searchFrom same word none items text

def Agrees (literal found : List Char) : Prop :=
  List.Forall₂ (fun char other => same char other = true) literal found

end Matching

section Reading

/-- The characters with a meaning of their own in a regular expression. -/
def metacharacters : List Char := ['.', '\\', '[', '{', '(', ')', '*', '+', '?', '^', '$', '|']

def escaped : List Char :=
  ['(', ')', '[', ']', '{', '}', '?', '*', '+', '-', '|', '^', '$', '\\', '.', '&', '~', '#', ' ',
    '\t', '\n', '\r', Char.ofNat 11, Char.ofNat 12]

def escape : List Char → List Char
  | [] => []
  | char :: rest => if char ∈ escaped then '\\' :: char :: escape rest else char :: escape rest

/-- The items of a pattern as it is written; none for what this language is without. -/
def read : List Char → Option (List Item)
  | [] => some []
  | ['\\'] => none
  | '\\' :: char :: rest =>
      if char = 'b' then (read rest).map (.boundary :: ·)
      else if char.isAlphanum then none
      else (read rest).map (.char char :: ·)
  | char :: rest => if char ∈ metacharacters then none else (read rest).map (.char char :: ·)

end Reading

theorem read_plain {char : Char} (plain : char ∉ metacharacters) (rest : List Char) :
    read (char :: rest) = (read rest).map (.char char :: ·) := by
  have backslash : char ≠ '\\' := by
    rintro rfl
    exact plain (by decide)
  rw [read, if_neg plain]
  · intro slash _
    exact backslash slash
  · intro _ _ slash _
    exact backslash slash

theorem read_escaped {char : Char} (special : char ∈ escaped) (rest : List Char) :
    read ('\\' :: char :: rest) = (read rest).map (.char char :: ·) := by
  have named : ∀ char ∈ escaped, char ≠ 'b' ∧ char.isAlphanum = false := by decide
  obtain ⟨notBoundary, notClass⟩ := named char special
  rw [read, if_neg notBoundary, notClass, if_neg Bool.false_ne_true]

theorem read_escape (literal rest : List Char) :
    read (escape literal ++ rest) = (read rest).map (literal.map .char ++ ·) := by
  have special : ∀ char ∈ metacharacters, char ∈ escaped := by decide
  induction literal with
  | nil => simp [escape]
  | cons char literal induction =>
      have prepend : ((read rest).map (literal.map .char ++ ·)).map (.char char :: ·) =
          (read rest).map ((char :: literal).map Item.char ++ ·) := Option.map_map ..
      by_cases marked : char ∈ escaped
      · rw [escape, if_pos marked, List.cons_append, List.cons_append, read_escaped marked,
          induction, prepend]
      · rw [escape, if_neg marked, List.cons_append,
          read_plain (fun own => marked (special char own)), induction, prepend]

section Searches

variable {same : Char → Char → Bool} {word : Char → Bool}

theorem matches_literal_iff (literal text : List Char) (items : List Item)
    (before : Option Char) :
    matchesAt same word before (literal.map .char ++ items) text = true ↔
      ∃ found rest, text = found ++ rest ∧ Agrees same literal found ∧
        matchesAt same word (found.getLast?.or before) items rest = true := by
  induction literal generalizing text before with
  | nil =>
      constructor
      · intro rest
        exact ⟨[], text, rfl, .nil, rest⟩
      · rintro ⟨found, rest, rfl, agrees, later⟩
        cases agrees
        exact later
  | cons char literal induction =>
      cases text with
      | nil =>
          constructor
          · intro none
            cases none
          · rintro ⟨found, rest, split, agrees, _⟩
            cases agrees
            cases split
      | cons first text =>
          rw [List.map_cons, List.cons_append, matchesAt, Bool.and_eq_true, induction]
          constructor
          · rintro ⟨here, found, rest, rfl, agrees, later⟩
            refine ⟨first :: found, rest, rfl, .cons here agrees, ?_⟩
            rw [List.getLast?_cons]
            cases last : found.getLast? <;> simpa [last] using later
          · rintro ⟨found, rest, split, agrees, later⟩
            cases agrees with
            | @cons _ other _ found here agrees =>
                cases split
                refine ⟨here, found, rest, rfl, agrees, ?_⟩
                rw [List.getLast?_cons] at later
                cases last : found.getLast? <;> simpa [last] using later

theorem search_from_iff (items : List Item) (text : List Char) (before : Option Char) :
    searchFrom same word before items text = true ↔
      ∃ front rest, text = front ++ rest ∧
        matchesAt same word (front.getLast?.or before) items rest = true := by
  induction text generalizing before with
  | nil =>
      constructor
      · intro here
        exact ⟨[], [], rfl, here⟩
      · rintro ⟨front, rest, split, here⟩
        obtain ⟨rfl, rfl⟩ := List.append_eq_nil_iff.mp split.symm
        exact here
  | cons first text induction =>
      rw [searchFrom, Bool.or_eq_true, induction]
      constructor
      · rintro (here | ⟨front, rest, rfl, later⟩)
        · exact ⟨[], first :: text, rfl, here⟩
        · refine ⟨first :: front, rest, rfl, ?_⟩
          rw [List.getLast?_cons]
          cases last : front.getLast? <;> simpa [last] using later
      · rintro ⟨front, rest, split, later⟩
        cases front with
        | nil =>
            cases split
            exact Or.inl later
        | cons other front =>
            cases split
            refine Or.inr ⟨front, rest, rfl, ?_⟩
            rw [List.getLast?_cons] at later
            cases last : front.getLast? <;> simpa [last] using later

/-- A literal text followed by a boundary is found where its characters are and where
what follows them is of a word if and only if the last of them is not. -/
theorem search_literal_iff (literal text : List Char) :
    search same word (literal.map .char ++ [.boundary]) text = true ↔
      ∃ front found rest, text = front ++ (found ++ rest) ∧ Agrees same literal found ∧
        wordAt word (found.getLast?.or front.getLast?) ≠ wordAt word rest.head? := by
  rw [search, search_from_iff]
  constructor
  · rintro ⟨front, text, rfl, here⟩
    obtain ⟨found, rest, rfl, agrees, bounded⟩ := (matches_literal_iff ..).mp here
    refine ⟨front, found, rest, rfl, agrees, ?_⟩
    simpa [matchesAt] using bounded
  · rintro ⟨front, found, rest, rfl, agrees, differs⟩
    refine ⟨front, found ++ rest, rfl, ?_⟩
    apply (matches_literal_iff ..).mpr
    refine ⟨found, rest, rfl, agrees, ?_⟩
    simpa [matchesAt] using differs

end Searches

end PyConduit.Pattern
