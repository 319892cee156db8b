import Mathlib.Data.List.Infix

/-!
# Texts joined by labels

Texts are joined by labels: a mark that occurs in a label nowhere else, and a name.
The texts may hold anything, labels included. Two labels then never overlap, so the
joined text has one reading exactly when no label stands in a text beside it. Nothing
here names a particular program.
-/

namespace PyConduit.Labelled

set_option autoImplicit false

variable {Symbol : Type*} {mark : Symbol}

/-- The first text, and the later ones behind their labels. -/
def joined (mark : Symbol) (text : List Symbol) :
    List (List Symbol × List Symbol) → List Symbol
  | [] => text
  | (name, next) :: rest => text ++ mark :: name ++ joined mark next rest

/-- No label stands in one of the two texts it separates. -/
def Apart (mark : Symbol) (text : List Symbol) : List (List Symbol × List Symbol) → Prop
  | [] => True
  | (name, next) :: rest =>
      ¬ mark :: name <:+: text ∧ ¬ mark :: name <:+: next ∧ Apart mark next rest

/-- The mark is in none of the names and none begins with another. -/
structure Names (mark : Symbol) (names : List (List Symbol)) : Prop where
  unmarked : ∀ name ∈ names, mark ∉ name
  prefixFree : names.Pairwise fun first second => ¬ first <+: second ∧ ¬ second <+: first

theorem names_tail {name : List Symbol} {names : List (List Symbol)}
    (good : Names mark (name :: names)) : Names mark names := by
  refine ⟨?_, (List.pairwise_cons.mp good.prefixFree).2⟩
  intro other member
  exact good.unmarked other (List.mem_cons_of_mem _ member)

theorem mem_joined {text : List Symbol} {rest : List (List Symbol × List Symbol)}
    {symbol : Symbol} (member : ∃ part ∈ text :: rest.map Prod.snd, symbol ∈ part) :
    symbol ∈ joined mark text rest := by
  induction rest generalizing text with
  | nil => simpa [joined] using member
  | cons entry rest induction =>
      obtain ⟨part, among, inside⟩ := member
      rcases List.mem_cons.mp among with rfl | later
      · simp [joined, inside]
      · have further := induction ⟨part, later, inside⟩
        simp [joined, further]

theorem joined_append (text name last : List Symbol) (rest : List (List Symbol × List Symbol)) :
    joined mark text (rest ++ [(name, last)]) = joined mark text rest ++ mark :: name ++ last := by
  induction rest generalizing text with
  | nil => rfl
  | cons entry rest induction =>
      rw [List.cons_append, joined, induction, joined]
      simp only [List.append_assoc]

/-- A label that starts inside a text that goes on from another ends there too: it
cannot reach the mark of the next label. -/
theorem label_between {name other text further rest rest' : List Symbol} (unmarked : mark ∉ name)
    (longer : further ≠ []) (same : mark :: name ++ rest = further ++ (mark :: other ++ rest')) :
    ∃ between, text ++ further = text ++ mark :: name ++ between ∧
      rest = between ++ mark :: other ++ rest' := by
  rcases List.append_eq_append_iff.mp same with ⟨between, ends, goesOn⟩ | ⟨cut, label, goesOn⟩
  · exact ⟨between, by rw [ends, List.append_assoc], by rw [goesOn, List.append_assoc]⟩
  · cases further with
    | nil => exact absurd rfl longer
    | cons head further =>
        rw [List.cons_append, List.cons.injEq] at label
        cases cut with
        | nil =>
            refine ⟨[], ?_, ?_⟩
            · rw [List.append_nil, ← label.1, label.2, List.append_nil]
            · rw [List.nil_append]
              exact goesOn.symm
        | cons symbol cut =>
            have marked : mark = symbol := by
              rw [List.cons_append, List.cons_append, List.cons.injEq] at goesOn
              exact goesOn.1
            rw [label.2, ← marked] at unmarked
            simp at unmarked

/-- Two labels in one text: they begin together, or one is behind the other. -/
theorem labels_compare {name other text text' rest rest' : List Symbol} (unmarked : mark ∉ name)
    (unmarked' : mark ∉ other)
    (same : text ++ mark :: name ++ rest = text' ++ mark :: other ++ rest') :
    (text = text' ∧ name ++ rest = other ++ rest') ∨
      (∃ between, text' = text ++ mark :: name ++ between ∧
        rest = between ++ mark :: other ++ rest') ∨
      ∃ between, text = text' ++ mark :: other ++ between ∧
        rest' = between ++ mark :: name ++ rest := by
  rw [List.append_assoc, List.append_assoc] at same
  rcases List.append_eq_append_iff.mp same with ⟨further, longer, goesOn⟩ | ⟨further, longer, goesOn⟩
  · by_cases none : further = []
    · subst none
      rw [List.append_nil] at longer
      rw [List.nil_append, List.cons_append, List.cons_append, List.cons.injEq] at goesOn
      exact Or.inl ⟨longer.symm, goesOn.2⟩
    · rw [longer]
      exact Or.inr (Or.inl (label_between unmarked none goesOn))
  · by_cases none : further = []
    · subst none
      rw [List.append_nil] at longer
      rw [List.nil_append, List.cons_append, List.cons_append, List.cons.injEq] at goesOn
      exact Or.inl ⟨longer, goesOn.2.symm⟩
    · rw [longer]
      exact Or.inr (Or.inr (label_between unmarked' none goesOn))

/-- Behind texts that stand apart the same text has no reading that comes late by a label. -/
theorem no_late_reading {text shift name text' : List Symbol}
    {rest rest' : List (List Symbol × List Symbol)}
    (good : Names mark (name :: rest.map Prod.fst)) (names : rest'.map Prod.fst = rest.map Prod.fst)
    (absent : ¬ mark :: name <:+: text) (apart : Apart mark text rest) :
    joined mark text rest ≠ shift ++ mark :: name ++ joined mark text' rest' := by
  intro same
  induction rest generalizing text shift name text' rest' with
  | nil => exact absent ⟨shift, joined mark text' rest', by rw [← same, joined]⟩
  | cons entry rest induction =>
      obtain ⟨label, next⟩ := entry
      obtain ⟨-, beyond, further⟩ := apart
      cases rest' with
      | nil => cases names
      | cons entry' rest' =>
          obtain ⟨label', next'⟩ := entry'
          obtain ⟨rfl, later⟩ := List.cons.inj names
          have unmarked := good.unmarked name (List.mem_cons_self ..)
          have unmarkedLabel := good.unmarked label' (by simp)
          obtain ⟨foreign, -⟩ := List.pairwise_cons.mp good.prefixFree
          rcases labels_compare unmarkedLabel unmarked same with
            ⟨-, together⟩ | ⟨between, -, goesOn⟩ | ⟨between, inside, -⟩
          · -- both labels at one place: one name would begin with the other
            have apartNames := foreign label' (List.mem_cons_self ..)
            rcases List.append_eq_append_iff.mp together with ⟨more, begins, -⟩ | ⟨more, begins, -⟩
            · exact apartNames.2 ⟨more, begins.symm⟩
            · exact apartNames.1 ⟨more, begins.symm⟩
          · have late : joined mark next rest =
                (between ++ mark :: name ++ text') ++ mark :: label' ++ joined mark next' rest' := by
              rw [goesOn, joined]
              simp only [List.append_assoc]
            exact induction (names_tail good) later beyond further late
          · exact absent ⟨shift, between, inside.symm⟩

/-- Texts that stand apart can be read in one way only. -/
theorem joined_unique {text text' : List Symbol} {rest rest' : List (List Symbol × List Symbol)}
    (good : Names mark (rest.map Prod.fst)) (names : rest'.map Prod.fst = rest.map Prod.fst)
    (apart : Apart mark text rest) (same : joined mark text' rest' = joined mark text rest) :
    text' = text ∧ rest' = rest := by
  induction rest generalizing text text' rest' with
  | nil =>
      rw [List.map_nil, List.map_eq_nil_iff] at names
      subst names
      exact ⟨same, rfl⟩
  | cons entry rest induction =>
      obtain ⟨name, next⟩ := entry
      obtain ⟨absent, beyond, further⟩ := apart
      cases rest' with
      | nil => cases names
      | cons entry' rest' =>
          obtain ⟨name', next'⟩ := entry'
          obtain ⟨rfl, later⟩ := List.cons.inj names
          have unmarked := good.unmarked name' (List.mem_cons_self ..)
          rcases labels_compare unmarked unmarked same with
            ⟨begins, together⟩ | ⟨between, inside, -⟩ | ⟨between, -, goesOn⟩
          · obtain ⟨rfl, rfl⟩ := induction (names_tail good) later further
              (List.append_cancel_left together)
            exact ⟨begins, rfl⟩
          · exact absurd ⟨text', between, inside.symm⟩ absent
          · exact absurd goesOn (no_late_reading good later beyond further)

/-- Texts that do not stand apart can be read in another way, which differs before
the last text. -/
theorem joined_otherwise {text : List Symbol} {rest : List (List Symbol × List Symbol)}
    (together : ¬ Apart mark text rest) :
    ∃ text' rest', rest'.map Prod.fst = rest.map Prod.fst ∧
      joined mark text' rest' = joined mark text rest ∧
      (text' :: rest'.map Prod.snd).dropLast ≠ (text :: rest.map Prod.snd).dropLast := by
  induction rest generalizing text with
  | nil => exact absurd trivial together
  | cons entry rest induction =>
      obtain ⟨name, next⟩ := entry
      by_cases inFirst : mark :: name <:+: text
      · obtain ⟨start, stop, rfl⟩ := inFirst
        refine ⟨start, (name, stop ++ mark :: name ++ next) :: rest, rfl, ?_, ?_⟩
        · cases rest with
          | nil => simp [joined]
          | cons entry rest => simp [joined]
        · intro same
          have length := congrArg List.length (List.cons.inj same).1
          simp at length
      · by_cases inNext : mark :: name <:+: next
        · obtain ⟨start, stop, rfl⟩ := inNext
          refine ⟨text ++ mark :: name ++ start, (name, stop) :: rest, rfl, ?_, ?_⟩
          · cases rest with
            | nil => simp [joined]
            | cons entry rest => simp [joined]
          · intro same
            have length := congrArg List.length (List.cons.inj same).1
            simp at length
        · have further : ¬ Apart mark next rest := by
            intro apart
            exact together ⟨inFirst, inNext, apart⟩
          obtain ⟨next', rest', names, same, differs⟩ := induction further
          refine ⟨text, (name, next') :: rest', ?_, ?_, ?_⟩
          · rw [List.map_cons, names, List.map_cons]
          · rw [joined, same, joined]
          · intro equal
            exact differs (List.cons.inj equal).2

end PyConduit.Labelled
