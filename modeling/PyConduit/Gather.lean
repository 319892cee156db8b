import Mathlib.Data.List.Perm.Basic
import Mathlib.Data.List.Nodup
import PyConduit.GuardedRun

/-!
# Tasks gathered by position

Several tasks are started together and complete in any order; their results are
handed over together, each at the position of its task, exceptions among them.
Nothing here names a particular program.
-/

namespace PyConduit

open GuardedRun

set_option autoImplicit false

/-- The results so far, by the positions of the tasks. -/
structure Gather (Result : Type*) where
  results : List (Option Result)

namespace Gather

variable {Result : Type*}

def start (count : Nat) : Gather Result := ⟨List.replicate count none⟩

/-- A task completes; none when there is no such task or it has completed before. -/
def step (gather : Gather Result) (completion : Nat × Result) : Option (Gather Result) :=
  match gather.results[completion.1]? with
  | some none => some ⟨gather.results.set completion.1 (some completion.2)⟩
  | _ => none

def collected : List (Option Result) → Option (List Result)
  | [] => some []
  | none :: _ => none
  | some result :: rest => (collected rest).map (result :: ·)

def returned (gather : Gather Result) : Option (List Result) := collected gather.results

theorem collected_map_some (results : List Result) :
    collected (results.map some) = some results := by
  induction results with
  | nil => rfl
  | cons result rest induction => rw [List.map_cons, collected, induction, Option.map_some]

def after (count : Nat) (outcome : Nat → Result) (positions : List Nat) : Gather Result :=
  ⟨(List.range count).map fun position =>
    if position ∈ positions then some (outcome position) else none⟩

section Runs

variable {count : Nat} {outcome : Nat → Result}

theorem after_nil : after count outcome [] = start count := by
  simp [after, start, List.map_const']

theorem after_step {positions : List Nat} {position : Nat} (bound : position < count)
    (fresh : position ∉ positions) :
    step (after count outcome positions) (position, outcome position) =
      some (after count outcome (position :: positions)) := by
  have here : (after count outcome positions).results[position]? = some none := by
    simp [after, bound, fresh]
  have changed : (after count outcome positions).results.set position (some (outcome position)) =
      (after count outcome (position :: positions)).results := by
    apply List.ext_getElem?
    intro other
    rw [List.getElem?_set]
    by_cases same : position = other
    · subst same
      simp [after, bound]
    · rw [if_neg same]
      simp only [after, List.getElem?_map]
      by_cases inside : other < count
      · simp [List.getElem?_range inside, Ne.symm same]
      · rw [List.getElem?_eq_none (by simpa using inside)]
        rfl
  unfold step
  dsimp only
  rw [here, changed]

theorem replay_after (rest : List Nat) (positions : List Nat)
    (bounds : ∀ position ∈ rest, position < count) (distinct : rest.Nodup)
    (fresh : ∀ position ∈ rest, position ∉ positions) :
    replay step (after count outcome positions)
        (rest.map fun position => (position, outcome position)) =
      some (after count outcome (rest.reverse ++ positions)) := by
  induction rest generalizing positions with
  | nil => rfl
  | cons position rest induction =>
      rw [List.forall_mem_cons] at bounds fresh
      rw [List.nodup_cons] at distinct
      have still : ∀ other ∈ rest, other ∉ position :: positions := by
        intro other member
        rw [List.mem_cons, not_or]
        refine ⟨?_, fresh.2 other member⟩
        rintro rfl
        exact distinct.1 member
      rw [List.map_cons, replay, after_step bounds.1 fresh.1]
      dsimp only
      rw [induction (position :: positions) bounds.2 distinct.2 still, List.reverse_cons,
        List.append_assoc, List.singleton_append]

/-- In whatever order the tasks complete, their results come in the order of the tasks. -/
theorem gathered_by_position (outcome : Nat → Result) {order : List Nat}
    (all : order.Perm (List.range count)) :
    ∃ final, replay step (start count)
        (order.map fun position => (position, outcome position)) = some final ∧
      final.returned = some ((List.range count).map outcome) := by
  have bounds : ∀ position ∈ order, position < count := by
    intro position member
    exact List.mem_range.mp (all.subset member)
  have distinct : order.Nodup := all.nodup_iff.mpr List.nodup_range
  have run := @replay_after Result count outcome order [] bounds distinct (by simp)
  rw [after_nil, List.append_nil] at run
  refine ⟨_, run, ?_⟩
  have complete : (after count outcome order.reverse).results =
      ((List.range count).map outcome).map some := by
    rw [after, List.map_map]
    apply List.map_congr_left
    intro position member
    have among : position ∈ order.reverse := List.mem_reverse.mpr (all.mem_iff.mpr member)
    rw [if_pos among]
    rfl
  rw [returned, complete, collected_map_some]

end Runs

end Gather

end PyConduit
