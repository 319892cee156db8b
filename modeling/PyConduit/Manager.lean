import PyConduit.Attendance

/-!
# The registry of accounts

`AccountManager` files one account per JID and hands it to every tab of that
JID. The state keeps every account object ever made, so that one that has been
closed and replaced can still be talked about: its last tasks run on, and a tab
dropped by a broadcast detaches from it later.

`attach` and `_on_idle_expired` are each one block: the registry lookup, the
entry into `Account.attach` and its first effects have no suspension between
them, and neither has the removal of an expired account.
-/

namespace PyConduit.Manager

open Lifecycle Attendance GuardedRun

set_option autoImplicit false

variable {Frame : Type}

/-- `accounts`, `jids` and `count` list the accounts in the order of their
creation; `registry` is `_accounts`; `assigned` is the `account` variable of a
tab's `/ws` handler. -/
structure AccountManager (Frame : Type) where
  accounts : Nat → Account Frame
  jids : Nat → String
  count : Nat
  registry : String → Option Nat
  assigned : Tab → Option Nat

def empty : AccountManager Frame where
  accounts := fun _ => fresh
  jids := fun _ => ""
  count := 0
  registry := fun _ => none
  assigned := fun _ => none

def setAccount (manager : AccountManager Frame) (index : Nat) (account : Account Frame) :
    AccountManager Frame :=
  { manager with accounts := Function.update manager.accounts index account }

def attachExisting (env : String → Env Frame) (manager : AccountManager Frame) (tab : Tab)
    (index : Nat) : AccountManager Frame :=
  { setAccount manager index (Account.attach (env (manager.jids index)) (manager.accounts index) tab)
    with assigned := Function.update manager.assigned tab (some index) }

def attachNew (env : String → Env Frame) (manager : AccountManager Frame) (jid : String) (tab : Tab) :
    AccountManager Frame where
  accounts := Function.update manager.accounts manager.count
    (Account.attach (env jid) fresh tab)
  jids := Function.update manager.jids manager.count jid
  count := manager.count + 1
  registry := Function.update manager.registry jid (some manager.count)
  assigned := Function.update manager.assigned tab (some manager.count)

def onIdleExpired (manager : AccountManager Frame) (index : Nat) : AccountManager Frame :=
  if (manager.accounts index).subscribers = [] ∧
      manager.registry (manager.jids index) = some index then
    { manager with registry := Function.update manager.registry (manager.jids index) none }
  else manager

def expires (account : Account Frame) : Lifecycle.Action Frame → Bool
  | .idleExpires outcome => account.callsIdleExpired outcome
  | _ => false

inductive Action (Frame : Type)
  | attach (jid : String) (tab : Tab)
  | account (index : Nat) (action : Lifecycle.Action Frame)

def step (env : String → Env Frame) (manager : AccountManager Frame) :
    Action Frame → Option (AccountManager Frame)
  | .attach jid tab =>
      if manager.assigned tab = none then
        match manager.registry jid with
        | some index =>
            match (manager.accounts index).handlers tab with
            | .absent => some (attachExisting env manager tab index)
            | _ => none
        | none => some (attachNew env manager jid tab)
      else none
  | .account index action =>
      if index < manager.count ∧ attaches action = false then
        match Lifecycle.step (env (manager.jids index)) (manager.accounts index) action with
        | some next =>
            if expires (manager.accounts index) action then
              some (onIdleExpired (setAccount manager index next) index)
            else some (setAccount manager index next)
        | none => none
      else none

inductive Fires (env : String → Env Frame) (manager : AccountManager Frame) :
    Action Frame → AccountManager Frame → Prop
  | attachExisting {jid : String} {tab : Tab} {index : Nat}
      (filed : manager.registry jid = some index)
      (absent : (manager.accounts index).handlers tab = .absent) :
      Fires env manager (.attach jid tab) (attachExisting env manager tab index)
  | attachNew {jid : String} {tab : Tab} (unfiled : manager.registry jid = none) :
      Fires env manager (.attach jid tab) (attachNew env manager jid tab)
  | account {index : Nat} {action : Lifecycle.Action Frame} {next : Account Frame}
      (bound : index < manager.count) (other : attaches action = false)
      (fired : Lifecycle.step (env (manager.jids index)) (manager.accounts index) action =
        some next)
      (stays : expires (manager.accounts index) action = false) :
      Fires env manager (.account index action) (setAccount manager index next)
  | expired {index : Nat} {action : Lifecycle.Action Frame} {next : Account Frame}
      (bound : index < manager.count) (other : attaches action = false)
      (fired : Lifecycle.step (env (manager.jids index)) (manager.accounts index) action =
        some next)
      (leaves : expires (manager.accounts index) action = true) :
      Fires env manager (.account index action)
        (onIdleExpired (setAccount manager index next) index)

theorem fires_of_step {env : String → Env Frame} {manager next : AccountManager Frame}
    {action : Action Frame} (fired : step env manager action = some next) :
    Fires env manager action next := by
  cases action with
  | attach jid tab =>
      simp only [step, Option.ite_none_right_eq_some] at fired
      obtain ⟨_, found⟩ := fired
      cases filed : manager.registry jid with
      | none =>
          rw [filed] at found
          cases found
          exact .attachNew filed
      | some index =>
          simp only [filed] at found
          split at found
          · next absent =>
              cases found
              exact .attachExisting filed absent
          · cases found
  | account index action =>
      simp only [step, Option.ite_none_right_eq_some] at fired
      obtain ⟨⟨bound, other⟩, found⟩ := fired
      split at found
      · next after inner =>
          split at found
          · next leaves =>
              cases found
              exact .expired bound other inner leaves
          · next stays =>
              cases found
              exact .account bound other inner (by simpa using stays)
      · cases found

def AccountsRun (env : String → Env Frame) (manager : AccountManager Frame) : Prop :=
  ∀ index, ∃ actions, replay (Lifecycle.step (env (manager.jids index))) fresh actions =
    some (manager.accounts index)

/-- Seen from one of its accounts, a run of the manager is a run of the lifecycle:
what holds in every run of an account holds of every account of the manager. -/
theorem accounts_run {env : String → Env Frame} {actions : List (Action Frame)}
    {manager : AccountManager Frame} (run : replay (step env) empty actions = some manager) :
    AccountsRun env manager := by
  have stepped : ∀ {before : AccountManager Frame} {index : Nat}
      {action : Lifecycle.Action Frame} {after : Account Frame}, AccountsRun env before →
      Lifecycle.step (env (before.jids index)) (before.accounts index) action = some after →
      AccountsRun env (setAccount before index after) := by
    intro before index action after holds fired other
    obtain ⟨inner, ran⟩ := holds other
    by_cases same : other = index
    · subst other
      exact ⟨inner ++ [action], by simpa [setAccount] using replay_snoc ran fired⟩
    · exact ⟨inner, by simpa [setAccount, same] using ran⟩
  refine run_invariant_unconditional (AccountsRun env)
    (fun before action after holds fired => ?_) (fun _ => ⟨[], rfl⟩) run
  cases fires_of_step fired with
  | @attachExisting jid tab index filed absent =>
      have inside : Lifecycle.step (env (before.jids index)) (before.accounts index) (.attach tab) =
          some (Account.attach (env (before.jids index)) (before.accounts index) tab) := by
        simp [Lifecycle.step, absent]
      exact stepped holds inside
  | @attachNew jid tab unfiled =>
      intro other
      by_cases same : other = before.count
      · subst other
        exact ⟨[.attach tab], by simp [attachNew, replay, Lifecycle.step, fresh]⟩
      · obtain ⟨inner, ran⟩ := holds other
        exact ⟨inner, by simpa [attachNew, same] using ran⟩
  | account _ _ inside => exact stepped holds inside
  | @expired index action after _ _ inside =>
      intro other
      have kept : ∀ next : AccountManager Frame,
          (onIdleExpired next index).accounts = next.accounts ∧
            (onIdleExpired next index).jids = next.jids := by
        intro next
        unfold onIdleExpired
        split_ifs <;> exact ⟨rfl, rfl⟩
      rw [(kept _).1, (kept _).2]
      exact stepped holds inside other

/-- The registry holds exactly the accounts that are open, each under its own
JID, and an account that is closing has no tab. -/
structure Registered (manager : AccountManager Frame) : Prop where
  filed : ∀ jid index, manager.registry jid = some index →
    index < manager.count ∧ manager.jids index = jid ∧
      (manager.accounts index).closing = false
  open_filed : ∀ index, index < manager.count → (manager.accounts index).closing = false →
    manager.registry (manager.jids index) = some index
  closing_empty : ∀ index, index < manager.count → (manager.accounts index).closing = true →
    (manager.accounts index).subscribers = []

theorem empty_registered : Registered (empty : AccountManager Frame) :=
  ⟨fun _ _ filed => (by cases filed), fun _ bound => absurd bound (Nat.not_lt_zero _),
    fun _ bound => absurd bound (Nat.not_lt_zero _)⟩

/-- A countdown's `disconnect()` suspends, so that its own cancellation strikes. -/
def suspends : Action Frame → Bool
  | .account _ (.idleExpires .suspended) => true
  | _ => false

section AccountSteps

variable {env : Env Frame} {account next : Account Frame} {action : Lifecycle.Action Frame}

/-- A countdown that reaches `_on_idle_expired` has closed an account without tabs. -/
theorem expired_closes (leaves : expires account action = true)
    (fired : Lifecycle.step env account action = some next) :
    next.closing = true ∧ next.subscribers = [] := by
  cases Lifecycle.fires_of_step fired with
  | @idleExpires outcome =>
      have reaches : account.subscribers = [] ∧ outcome ≠ .suspended := by
        simpa [expires, Account.callsIdleExpired] using leaves
      simp only [Account.idleCountdown, if_pos reaches.1]
      cases outcome <;> exact ⟨rfl, reaches.1⟩
  | _ => cases leaves

/-- Nothing else closes an account, unless its `disconnect()` suspends. -/
theorem closing_unchanged (other : attaches action = false)
    (stays : expires account action = false) (prompt : action ≠ .idleExpires .suspended)
    (fired : Lifecycle.step env account action = some next) :
    next.closing = account.closing := by
  cases attends_of_step fired with
  | stays _ stays => exact stays.closing
  | attach => cases other
  | escapes => rfl
  | detach =>
      simp only [Account.detach]
      split <;> rfl
  | busy => rfl
  | @closes outcome empty =>
      have suspended : outcome = .suspended := by
        simpa [expires, Account.callsIdleExpired, empty] using stays
      exact (prompt (by rw [suspended])).elim

end AccountSteps

section Registry

variable {manager : AccountManager Frame}

theorem registered_setAccount {index : Nat} {next : Account Frame}
    (registered : Registered manager) (bound : index < manager.count)
    (closing : next.closing = (manager.accounts index).closing)
    (subscribers : (manager.accounts index).closing = true → next.subscribers = []) :
    Registered (setAccount manager index next) := by
  constructor
  · intro jid other filed
    obtain ⟨otherBound, named, running⟩ := registered.filed jid other filed
    refine ⟨otherBound, named, ?_⟩
    by_cases same : other = index
    · subst other
      simpa [setAccount, closing] using running
    · simpa [setAccount, same] using running
  · intro other otherBound running
    by_cases same : other = index
    · subst other
      exact registered.open_filed index bound (by simpa [setAccount, closing] using running)
    · exact registered.open_filed other otherBound (by simpa [setAccount, same] using running)
  · intro other otherBound closed
    by_cases same : other = index
    · subst other
      simpa [setAccount] using subscribers (by simpa [setAccount, closing] using closed)
    · simpa [setAccount, same] using
        registered.closing_empty other otherBound (by simpa [setAccount, same] using closed)

theorem registered_attachNew {env : String → Env Frame} {jid : String} {tab : Tab}
    (registered : Registered manager) (unfiled : manager.registry jid = none)
    (running : (Account.attach (env jid) fresh tab).closing = false) :
    Registered (attachNew env manager jid tab) := by
  have older : ∀ {other : Nat}, other < manager.count + 1 → other ≠ manager.count →
      other < manager.count := by omega
  constructor
  · intro name other filed
    by_cases same : name = jid
    · subst name
      have newest : manager.count = other := by simpa [attachNew] using filed
      subst other
      exact ⟨Nat.lt_succ_self _, by simp [attachNew], by simpa [attachNew] using running⟩
    · obtain ⟨otherBound, named, open_⟩ :=
        registered.filed name other (by simpa [attachNew, same] using filed)
      have apart : other ≠ manager.count := by omega
      exact ⟨by simp only [attachNew]; omega, by simpa [attachNew, apart] using named,
        by simpa [attachNew, apart] using open_⟩
  · intro other bound still
    by_cases same : other = manager.count
    · subst other
      simp [attachNew]
    · have filed := registered.open_filed other (older bound same)
        (by simpa [attachNew, same] using still)
      have named : manager.jids other ≠ jid := by
        intro clash
        rw [clash, unfiled] at filed
        cases filed
      simpa [attachNew, same, named] using filed
  · intro other bound closed
    by_cases same : other = manager.count
    · subst other
      rw [show (attachNew env manager jid tab).accounts manager.count =
        Account.attach (env jid) fresh tab by simp [attachNew], running] at closed
      cases closed
    · simpa [attachNew, same] using
        registered.closing_empty other (older bound same) (by simpa [attachNew, same] using closed)

theorem registered_expired {index : Nat} {next : Account Frame}
    (registered : Registered manager) (bound : index < manager.count)
    (closing : next.closing = true) (subscribers : next.subscribers = []) :
    Registered (onIdleExpired (setAccount manager index next) index) := by
  have closed_empty : ∀ other, other < manager.count →
      ((setAccount manager index next).accounts other).closing = true →
      ((setAccount manager index next).accounts other).subscribers = [] := by
    intro other otherBound closed
    by_cases same : other = index
    · subst other
      simpa [setAccount] using subscribers
    · simpa [setAccount, same] using
        registered.closing_empty other otherBound (by simpa [setAccount, same] using closed)
  have still_open : ∀ other, other < manager.count →
      ((setAccount manager index next).accounts other).closing = false →
      other ≠ index ∧ manager.registry (manager.jids other) = some other := by
    intro other otherBound running
    have apart : other ≠ index := by
      rintro rfl
      simp [setAccount, closing] at running
    exact ⟨apart, registered.open_filed other otherBound (by simpa [setAccount, apart] using running)⟩
  have filed_open : ∀ jid other, manager.registry jid = some other → other ≠ index →
      other < manager.count ∧ manager.jids other = jid ∧
        ((setAccount manager index next).accounts other).closing = false := by
    intro jid other filed apart
    obtain ⟨otherBound, named, running⟩ := registered.filed jid other filed
    exact ⟨otherBound, named, by simpa [setAccount, apart] using running⟩
  unfold onIdleExpired
  split_ifs with removed
  · refine ⟨fun jid other filed => ?_, fun other otherBound running => ?_, closed_empty⟩
    · have elsewhere : jid ≠ manager.jids index := by
        rintro rfl
        simp [setAccount] at filed
      have before : manager.registry jid = some other := by
        simpa [setAccount, elsewhere] using filed
      have apart : other ≠ index := by
        rintro rfl
        exact elsewhere (registered.filed jid other before).2.1.symm
      exact filed_open jid other before apart
    · obtain ⟨apart, filed⟩ := still_open other otherBound running
      have elsewhere : manager.jids other ≠ manager.jids index := by
        intro clash
        have here : manager.registry (manager.jids index) = some index := removed.2
        rw [← clash, filed] at here
        exact apart (Option.some.inj here)
      simpa [setAccount, elsewhere] using filed
  · refine ⟨fun jid other filed => ?_, fun other otherBound running => ?_, closed_empty⟩
    · have apart : other ≠ index := by
        rintro rfl
        have named := (registered.filed jid other filed).2.1
        exact removed ⟨by simpa [setAccount] using subscribers, by rw [← named] at filed; exact filed⟩
      exact filed_open jid other filed apart
    · exact (still_open other otherBound running).2

end Registry

theorem attach_closing (env : Env Frame) {account : Account Frame} {tab : Tab}
    (absent : account.handlers tab = .absent) :
    (Account.attach env account tab).closing = account.closing := by
  cases attends_attach env account tab absent with
  | stays other => cases other
  | attach _ closing => exact closing

theorem registered_step {env : String → Env Frame} {manager next : AccountManager Frame}
    {action : Action Frame} (prompt : suspends action = false) (registered : Registered manager)
    (fired : step env manager action = some next) : Registered next := by
  cases fires_of_step fired with
  | @attachExisting jid tab index filed absent =>
      obtain ⟨bound, _, running⟩ := registered.filed jid index filed
      have kept := registered_setAccount registered bound
        (attach_closing (env (manager.jids index)) absent)
        (fun closing => by rw [running] at closing; cases closing)
      exact { kept with }
  | attachNew unfiled =>
      exact registered_attachNew registered unfiled (attach_closing _ rfl)
  | @account index action after bound other inner stays =>
      have prompt' : action ≠ .idleExpires .suspended := by
        rintro rfl
        cases prompt
      refine registered_setAccount registered bound
        (closing_unchanged other stays prompt' inner) (fun closing => ?_)
      exact (closing_step other (attends_of_step inner)).2
        (registered.closing_empty index bound closing)
  | expired bound _ inner leaves =>
      obtain ⟨closing, subscribers⟩ := expired_closes leaves inner
      exact registered_expired registered bound closing subscribers

end PyConduit.Manager
