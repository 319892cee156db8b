import Mathlib.Order.WellFounded
import PyConduit.GuardedRun

/-!
# Executions that go on for ever

What eventually happens in a machine whose actions may be refused, when each task of it
that stays able to go on is at some time resumed. The rule at the end takes a rank that
the task whose turn it is makes smaller and that no other task makes larger.
-/

namespace PyConduit.Endless

open GuardedRun

set_option autoImplicit false

variable {State Action : Type*}

structure Execution (step : State → Action → Option State) where
  states : Nat → State
  actions : Nat → Action
  steps : ∀ time, step (states time) (actions time) = some (states (time + 1))

variable {step : State → Action → Option State}

theorem Execution.always (execution : Execution step) {Holds : State → Prop}
    (start : Holds (execution.states 0))
    (preserved : ∀ state action next, Holds state → step state action = some next → Holds next)
    (time : Nat) : Holds (execution.states time) := by
  induction time with
  | zero => exact start
  | succ time induction => exact preserved _ _ _ induction (execution.steps time)

theorem ends_between {Holds : Nat → Prop} {time later : Nat} (after : time ≤ later)
    (holds : Holds time) (ended : ¬Holds later) :
    ∃ last, time ≤ last ∧ last < later ∧ Holds last ∧ ¬Holds (last + 1) := by
  induction later, after using Nat.le_induction with
  | base => exact absurd holds ended
  | succ later after induction =>
      by_cases still : Holds later
      · exact ⟨later, after, Nat.lt_succ_self later, still, ended⟩
      · obtain ⟨last, beyond, before, inside, stops⟩ := induction still
        exact ⟨last, beyond, Nat.lt_succ_of_lt before, inside, stops⟩

/-- A task is able to go on. Which actions are its own may depend on the state. -/
def Enabled (step : State → Action → Option State) (task : State → Action → Prop)
    (state : State) : Prop :=
  ∃ action, task state action ∧ (step state action).isSome

/-- A task that from some time on is able to go on is resumed. -/
def WeaklyFair (execution : Execution step) (task : State → Action → Prop) : Prop :=
  ∀ time, (∀ later, time ≤ later → Enabled step task (execution.states later)) →
    ∃ later, time ≤ later ∧ task (execution.states later) (execution.actions later)

/-- While something is pending, the task whose turn it is can go on, and makes the rank
smaller or ends the waiting; any other action leaves rank and turn, or does the same. -/
structure Ranked {Rank Turn : Type*} [Preorder Rank] (step : State → Action → Option State)
    (Sound Pending : State → Prop) (rank : State → Rank) (turn : State → Turn)
    (task : Turn → State → Action → Prop) : Prop where
  enabled : ∀ state, Sound state → Pending state → Enabled step (task (turn state)) state
  helped : ∀ state action next, Sound state → Sound next → Pending state → Pending next →
    step state action = some next → task (turn state) state action → rank next < rank state
  kept : ∀ state action next, Sound state → Sound next → Pending state → Pending next →
    step state action = some next →
      rank next < rank state ∨ rank next = rank state ∧ turn next = turn state

theorem pending_ends {Rank Turn : Type*} [Preorder Rank] [WellFoundedLT Rank]
    {Sound Pending : State → Prop} {rank : State → Rank} {turn : State → Turn}
    {task : Turn → State → Action → Prop} (ranked : Ranked step Sound Pending rank turn task)
    (execution : Execution step) (sound : ∀ time, Sound (execution.states time))
    (fair : ∀ turn, WeaklyFair execution (task turn)) (time : Nat) :
    ∃ later, time ≤ later ∧ ¬Pending (execution.states later) := by
  induction small : rank (execution.states time) using WellFoundedLT.induction generalizing time with
  | _ value induction =>
      by_contra never
      have pending : ∀ later, time ≤ later → Pending (execution.states later) := by
        intro later after
        by_contra ended
        exact never ⟨later, after, ended⟩
      have smaller : ∀ later, time ≤ later →
          ¬rank (execution.states later) < rank (execution.states time) := by
        intro later after less
        obtain ⟨last, beyond, gone⟩ := induction _ (small ▸ less) later rfl
        exact gone (pending last (Nat.le_trans after beyond))
      have constant : ∀ later, time ≤ later →
          rank (execution.states later) = rank (execution.states time) ∧
            turn (execution.states later) = turn (execution.states time) := by
        intro later after
        induction later, after using Nat.le_induction with
        | base => exact ⟨rfl, rfl⟩
        | succ later after same =>
            have next := Nat.le_succ_of_le after
            rcases ranked.kept _ _ _ (sound later) (sound _) (pending later after) (pending _ next)
              (execution.steps later) with less | ⟨sameRank, sameTurn⟩
            · exact absurd (same.1 ▸ less) (smaller _ next)
            · exact ⟨sameRank.trans same.1, sameTurn.trans same.2⟩
      have able : ∀ later, time ≤ later →
          Enabled step (task (turn (execution.states time))) (execution.states later) := by
        intro later after
        rw [← (constant later after).2]
        exact ranked.enabled _ (sound later) (pending later after)
      obtain ⟨later, after, resumed⟩ := fair (turn (execution.states time)) time able
      rw [← (constant later after).2] at resumed
      have next := Nat.le_succ_of_le after
      have less := ranked.helped _ _ _ (sound later) (sound _) (pending later after)
        (pending _ next) (execution.steps later) resumed
      rw [(constant later after).1] at less
      exact smaller _ next less

/-- The rule without a rank: a task that can go on while something is pending, and ends it,
does so. -/
theorem one_step_ends {Sound Pending : State → Prop} {task : State → Action → Prop}
    (enabled : ∀ state, Sound state → Pending state → Enabled step task state)
    (ends : ∀ state action next, Sound state → Sound next → Pending state →
      step state action = some next → task state action → ¬Pending next)
    (execution : Execution step) (sound : ∀ time, Sound (execution.states time))
    (fair : WeaklyFair execution task) (time : Nat) :
    ∃ later, time ≤ later ∧ ¬Pending (execution.states later) := by
  have ranked : Ranked step Sound Pending (fun _ => (0 : Nat)) (fun _ => ()) fun _ => task := by
    constructor
    · exact enabled
    · intro state action next sound later pending still fired helps
      exact absurd still (ends state action next sound later pending fired helps)
    · intro state action next sound later pending still fired
      exact .inr ⟨rfl, rfl⟩
  exact pending_ends ranked execution sound (fun _ => fair) time

def Execution.after (execution : Execution step) (time : Nat) : Execution step where
  states later := execution.states (time + later)
  actions later := execution.actions (time + later)
  steps later := execution.steps (time + later)

theorem WeaklyFair.after {execution : Execution step} {task : State → Action → Prop}
    (fair : WeaklyFair execution task) (time : Nat) : WeaklyFair (execution.after time) task := by
  intro since able
  have goesOn : ∀ later, time + since ≤ later → Enabled step task (execution.states later) := by
    intro later beyond
    obtain ⟨more, rfl⟩ := Nat.exists_eq_add_of_le beyond
    rw [Nat.add_assoc]
    exact able (since + more) (Nat.le_add_right since more)
  obtain ⟨later, beyond, resumed⟩ := fair (time + since) goesOn
  obtain ⟨more, rfl⟩ := Nat.exists_eq_add_of_le beyond
  rw [Nat.add_assoc] at resumed
  exact ⟨since + more, Nat.le_add_right since more, resumed⟩

end PyConduit.Endless
