import Mathlib.Logic.Function.Basic

/-!
# Runs of a machine whose actions may be refused

A machine is a partial step function. A run is a list of actions none of which
is refused, so every interleaving of a system is one list of actions. Nothing
here names a particular machine: the induction over a run, the transfer of a
run along a view of the state and the bookkeeping of prefixes are stated once.
-/

namespace PyConduit.GuardedRun

variable {State Action : Type*}

theorem split_at {Item : Type*} {items : List Item} {index : Nat} {item : Item}
    (found : items[index]? = some item) :
    ∃ before after, items = before ++ item :: after ∧ before.length = index := by
  obtain ⟨bound, rfl⟩ := List.getElem?_eq_some_iff.mp found
  refine ⟨items.take index, items.drop (index + 1), ?_, List.length_take_of_le (Nat.le_of_lt bound)⟩
  rw [← List.drop_eq_getElem_cons bound, List.take_append_drop]

def replay (step : State → Action → Option State) : State → List Action → Option State
  | state, [] => some state
  | state, action :: rest =>
      match step state action with
      | some next => replay step next rest
      | none => none

/-- Every action of the run is taken in a state in which `allowed` holds of the
two. A refused action ends the run, so nothing is asked after it. -/
def Conforms (step : State → Action → Option State) (allowed : State → Action → Prop) :
    State → List Action → Prop
  | _, [] => True
  | state, action :: rest =>
      allowed state action ∧
        match step state action with
        | some next => Conforms step allowed next rest
        | none => True

def collect {Entry : Type*} (step : State → Action → Option State)
    (outcome : State → Action → List Entry) : State → List Action → List Entry
  | _, [] => []
  | state, action :: rest =>
      match step state action with
      | some next => outcome state action ++ collect step outcome next rest
      | none => []

instance decidableConforms (step : State → Action → Option State)
    (allowed : State → Action → Prop) [∀ state action, Decidable (allowed state action)] :
    (state : State) → (actions : List Action) → Decidable (Conforms step allowed state actions)
  | _, [] => isTrue trivial
  | state, action :: rest =>
      match fired : step state action with
      | some next =>
          have := decidableConforms step allowed next rest
          decidable_of_iff (allowed state action ∧ Conforms step allowed next rest)
            (by simp only [Conforms, fired])
      | none =>
          decidable_of_iff (allowed state action) (by simp only [Conforms, fired, and_true])

theorem replay_cons {step : State → Action → Option State} {state final : State}
    {action : Action} {rest : List Action}
    (run : replay step state (action :: rest) = some final) :
    ∃ next, step state action = some next ∧ replay step next rest = some final := by
  cases fired : step state action with
  | none => simp [replay, fired] at run
  | some next => exact ⟨next, rfl, by simpa [replay, fired] using run⟩

theorem conforms_cons {step : State → Action → Option State}
    {allowed : State → Action → Prop} {state next : State} {action : Action}
    {rest : List Action} (fired : step state action = some next)
    (conforms : Conforms step allowed state (action :: rest)) :
    allowed state action ∧ Conforms step allowed next rest := by
  simpa only [Conforms, fired] using conforms

theorem conforms_of_all {step : State → Action → Option State}
    {allowed : State → Action → Prop} (always : ∀ state action, allowed state action)
    (state : State) (actions : List Action) : Conforms step allowed state actions := by
  induction actions generalizing state with
  | nil => trivial
  | cons action rest induction =>
      refine ⟨always state action, ?_⟩
      cases step state action with
      | none => trivial
      | some next => exact induction next

theorem collect_cons {Entry : Type*} {step : State → Action → Option State}
    (outcome : State → Action → List Entry) {state next : State} {action : Action}
    (fired : step state action = some next) (rest : List Action) :
    collect step outcome state (action :: rest) =
      outcome state action ++ collect step outcome next rest := by
  simp only [collect, fired]

theorem conforms_and {step : State → Action → Option State}
    {first second : State → Action → Prop} {state : State} {actions : List Action}
    (one : Conforms step first state actions) (two : Conforms step second state actions) :
    Conforms step (fun state action => first state action ∧ second state action) state actions := by
  induction actions generalizing state with
  | nil => trivial
  | cons action rest induction =>
      obtain ⟨here, later⟩ := one
      obtain ⟨also, after⟩ := two
      refine ⟨⟨here, also⟩, ?_⟩
      cases fired : step state action with
      | none => trivial
      | some next =>
          rw [fired] at later after
          exact induction later after

theorem Conforms.mono {step : State → Action → Option State}
    {allowed wider : State → Action → Prop} {state : State} {actions : List Action}
    (conforms : Conforms step allowed state actions)
    (implies : ∀ state action, allowed state action → wider state action) :
    Conforms step wider state actions := by
  induction actions generalizing state with
  | nil => trivial
  | cons action rest induction =>
      refine ⟨implies state action conforms.1, ?_⟩
      have later := conforms.2
      cases fired : step state action with
      | none => trivial
      | some next =>
          rw [fired] at later
          exact induction later

/-- The one induction over runs: what every allowed step preserves holds at the
end of every run of allowed steps. -/
theorem run_invariant {step : State → Action → Option State}
    {allowed : State → Action → Prop} {Holds : State → Prop}
    (preserved : ∀ state action next, allowed state action → Holds state →
      step state action = some next → Holds next)
    {state final : State} {actions : List Action}
    (start : Holds state) (conforms : Conforms step allowed state actions)
    (run : replay step state actions = some final) : Holds final := by
  induction actions generalizing state with
  | nil =>
      have same : state = final := by simpa [replay] using run
      exact same ▸ start
  | cons action rest induction =>
      obtain ⟨next, fired, later⟩ := replay_cons run
      obtain ⟨permitted, conformsLater⟩ := conforms_cons fired conforms
      exact induction (preserved state action next permitted start fired) conformsLater later

theorem run_invariant_unconditional {step : State → Action → Option State}
    (Holds : State → Prop)
    (preserved : ∀ state action next, Holds state → step state action = some next → Holds next)
    {state final : State} {actions : List Action} (start : Holds state)
    (run : replay step state actions = some final) : Holds final := by
  have conforms : Conforms step (fun _ _ => True) state actions :=
    conforms_of_all (fun _ _ => trivial) state actions
  exact run_invariant
    (fun current action next _ holds fired => preserved current action next holds fired)
    start conforms run

/-- What every allowed step preserves of a state and of all that was contributed before it. -/
theorem collect_invariant_conforming {Entry : Type*} {step : State → Action → Option State}
    {allowed : State → Action → Prop} {outcome : State → Action → List Entry}
    {Holds : State → List Entry → Prop}
    (preserved : ∀ state action next entries, allowed state action → Holds state entries →
      step state action = some next → Holds next (entries ++ outcome state action))
    {state final : State} {actions : List Action} {entries : List Entry}
    (start : Holds state entries) (conforms : Conforms step allowed state actions)
    (run : replay step state actions = some final) :
    Holds final (entries ++ collect step outcome state actions) := by
  induction actions generalizing state entries with
  | nil =>
      have same : state = final := by simpa [replay] using run
      rw [collect, List.append_nil]
      exact same ▸ start
  | cons action rest induction =>
      obtain ⟨next, fired, later⟩ := replay_cons run
      obtain ⟨permitted, conformsLater⟩ := conforms_cons fired conforms
      have holds := induction (preserved state action next entries permitted start fired)
        conformsLater later
      rw [List.append_assoc] at holds
      rw [collect_cons outcome fired]
      exact holds

theorem collect_invariant {Entry : Type*} {step : State → Action → Option State}
    {outcome : State → Action → List Entry} {Holds : State → List Entry → Prop}
    (preserved : ∀ state action next entries, Holds state entries →
      step state action = some next → Holds next (entries ++ outcome state action))
    {state final : State} {actions : List Action} {entries : List Entry}
    (start : Holds state entries) (run : replay step state actions = some final) :
    Holds final (entries ++ collect step outcome state actions) := by
  have conforms : Conforms step (fun _ _ => True) state actions :=
    conforms_of_all (fun _ _ => trivial) state actions
  exact collect_invariant_conforming
    (fun current action next entries _ holds fired =>
      preserved current action next entries holds fired)
    start conforms run

theorem collect_filter_map {Entry Item : Type*} (step : State → Action → Option State)
    (outcome : State → Action → List Entry) (read : Entry → Option Item) (state : State)
    (actions : List Action) :
    (collect step outcome state actions).filterMap read =
      collect step (fun state action => (outcome state action).filterMap read) state actions := by
  induction actions generalizing state with
  | nil => rfl
  | cons action rest induction =>
      simp only [collect]
      cases step state action with
      | none => rfl
      | some next =>
          dsimp only
          rw [List.filterMap_append, induction next]

theorem replay_append (step : State → Action → Option State) (state : State)
    (first second : List Action) :
    replay step state (first ++ second) =
      (replay step state first).bind fun middle => replay step middle second := by
  induction first generalizing state with
  | nil => rfl
  | cons action rest induction =>
      simp only [List.cons_append, replay]
      cases step state action with
      | none => rfl
      | some next => exact induction next

theorem replay_snoc {step : State → Action → Option State} {start state next : State}
    {actions : List Action} {action : Action} (run : replay step start actions = some state)
    (fired : step state action = some next) :
    replay step start (actions ++ [action]) = some next := by
  rw [replay_append, run]
  simp only [Option.bind_some, replay, fired]

theorem replay_of_snoc {step : State → Action → Option State} {start final : State}
    {actions : List Action} {action : Action}
    (run : replay step start (actions ++ [action]) = some final) :
    ∃ state, replay step start actions = some state ∧ step state action = some final := by
  rw [replay_append] at run
  obtain ⟨state, earlier, last⟩ := Option.bind_eq_some_iff.mp run
  obtain ⟨next, fired, ends⟩ := replay_cons last
  cases ends
  exact ⟨state, earlier, fired⟩

theorem conforms_before {step : State → Action → Option State}
    {allowed : State → Action → Prop} {state : State} {first second : List Action}
    (conforms : Conforms step allowed state (first ++ second)) :
    Conforms step allowed state first := by
  induction first generalizing state with
  | nil => trivial
  | cons action rest induction =>
      refine ⟨conforms.1, ?_⟩
      have later := conforms.2
      cases fired : step state action with
      | none => trivial
      | some next =>
          rw [fired] at later
          exact induction later

theorem conforms_of_append {step : State → Action → Option State}
    {allowed : State → Action → Prop} {state middle : State} {first second : List Action}
    (conforms : Conforms step allowed state (first ++ second))
    (run : replay step state first = some middle) : Conforms step allowed middle second := by
  induction first generalizing state with
  | nil =>
      cases run
      exact conforms
  | cons action rest induction =>
      obtain ⟨next, fired, later⟩ := replay_cons run
      exact induction (conforms_cons fired conforms).2 later

/-- A view of one machine's state that turns each of its steps into a run of a
second machine turns its runs into runs of the second machine. -/
theorem replay_simulation {Abstract Label : Type*}
    {step : State → Action → Option State} {abstractStep : Abstract → Label → Option Abstract}
    (view : State → Abstract)
    (simulated : ∀ state action next, step state action = some next →
      ∃ trace, replay abstractStep (view state) trace = some (view next))
    {state final : State} {actions : List Action}
    (run : replay step state actions = some final) :
    ∃ trace, replay abstractStep (view state) trace = some (view final) := by
  induction actions generalizing state with
  | nil =>
      have same : state = final := by simpa [replay] using run
      exact ⟨[], by rw [same]; rfl⟩
  | cons action rest induction =>
      obtain ⟨next, fired, later⟩ := replay_cons run
      obtain ⟨first, matched⟩ := simulated state action next fired
      obtain ⟨trace, traced⟩ := induction later
      refine ⟨first ++ trace, ?_⟩
      rw [replay_append, matched]
      exact traced

theorem replay_lift {Fine : Type*} {step : State → Action → Option State}
    {fineStep : Fine → Action → Option Fine} {Lifts : State → Fine → Prop}
    (lifted : ∀ state action next fine, step state action = some next → Lifts state fine →
      ∃ after, fineStep fine action = some after ∧ Lifts next after)
    {state final : State} {fine : Fine} {actions : List Action} (start : Lifts state fine)
    (run : replay step state actions = some final) :
    ∃ after, replay fineStep fine actions = some after ∧ Lifts final after := by
  induction actions generalizing state fine with
  | nil =>
      cases run
      exact ⟨fine, rfl, start⟩
  | cons action rest induction =>
      obtain ⟨next, fired, later⟩ := replay_cons run
      obtain ⟨middle, matched, still⟩ := lifted state action next fine fired start
      obtain ⟨after, onwards, ends⟩ := induction still later
      refine ⟨after, ?_, ends⟩
      rw [replay, matched]
      exact onwards

section Views

variable {Coarse : Type*} {step : State → Action → Option State}
  {coarseStep : Coarse → Action → Option Coarse} {view : State → Coarse}

/-- A machine whose steps are those of a coarser one on a part of its state has the same runs. -/
theorem replay_view {actions : List Action}
    (viewed : ∀ state, ∀ action ∈ actions,
      (step state action).map view = coarseStep (view state) action) (state : State) :
    (replay step state actions).map view = replay coarseStep (view state) actions := by
  induction actions generalizing state with
  | nil => rfl
  | cons action rest induction =>
      rw [replay, replay, ← viewed state action List.mem_cons_self]
      cases step state action with
      | none => rfl
      | some next =>
          exact induction (fun state action later => viewed state action (.tail _ later)) next

theorem collect_view {Entry : Type*} {actions : List Action}
    (viewed : ∀ state, ∀ action ∈ actions,
      (step state action).map view = coarseStep (view state) action)
    (outcome : Coarse → Action → List Entry) (state : State) :
    collect step (fun state => outcome (view state)) state actions =
      collect coarseStep outcome (view state) actions := by
  induction actions generalizing state with
  | nil => rfl
  | cons action rest induction =>
      rw [collect, collect, ← viewed state action List.mem_cons_self]
      cases step state action with
      | none => rfl
      | some next =>
          have same :=
            induction (fun state action later => viewed state action (.tail _ later)) next
          exact congrArg _ same

end Views

/-- What the actions contribute is a run of a second machine, if every step keeps a
relation to it. -/
theorem replay_projection {Small Label : Type*} {step : State → Action → Option State}
    {smallStep : Small → Label → Option Small} {labels : State → Action → List Label}
    {Related : State → Small → Prop}
    (follows : ∀ state action next small, step state action = some next → Related state small →
      ∃ after, replay smallStep small (labels state action) = some after ∧ Related next after)
    {state final : State} {small : Small} {actions : List Action} (start : Related state small)
    (run : replay step state actions = some final) :
    ∃ after, replay smallStep small (collect step labels state actions) = some after ∧
      Related final after := by
  induction actions generalizing state small with
  | nil =>
      have same : state = final := by simpa [replay] using run
      exact ⟨small, rfl, same ▸ start⟩
  | cons action rest induction =>
      obtain ⟨next, fired, later⟩ := replay_cons run
      obtain ⟨middle, matched, related⟩ := follows state action next small fired start
      obtain ⟨after, projected, ends⟩ := induction related later
      refine ⟨after, ?_, ends⟩
      rw [collect_cons labels fired, replay_append, matched]
      exact projected

end PyConduit.GuardedRun
