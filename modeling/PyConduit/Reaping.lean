import PyConduit.Manager

/-!
# Closing an idle account

The countdown closes an account without tabs and then takes it out of the
registry. `close` cancels the very task that runs it, so the registry is only
reached when `disconnect()` does not suspend; and the countdown is only started
by `detach`, so it is only pending when no exception escapes `attach`.
-/

namespace PyConduit.Reaping

open Lifecycle Attendance Manager GuardedRun

set_option autoImplicit false

variable {Frame : Type}

/-- What closing and attaching owe each other. -/
structure NeverCross (env : String → Env Frame) (manager : AccountManager Frame) : Prop where
  handed : ∀ jid tab next, Manager.step env manager (.attach jid tab) = some next →
    ∃ index, next.assigned tab = some index ∧ (next.accounts index).closing = false
  tabless : ∀ index, index < manager.count → (manager.accounts index).closing = true →
    (manager.accounts index).subscribers = []
  reaped : ∀ index, index < manager.count → (manager.accounts index).closing = true →
    manager.registry (manager.jids index) ≠ some index
  unique : ∀ first second, first < manager.count → second < manager.count →
    manager.jids first = manager.jids second → (manager.accounts first).closing = false →
    (manager.accounts second).closing = false → first = second

theorem registered_run {env : String → Env Frame} {actions : List (Manager.Action Frame)}
    {manager : AccountManager Frame} (run : replay (Manager.step env) empty actions = some manager)
    (prompt : Conforms (Manager.step env) (fun _ action => suspends action = false) empty actions) :
    Registered manager :=
  run_invariant (fun _ _ _ permitted before fired => registered_step permitted before fired)
    empty_registered prompt run

theorem handed_open {env : String → Env Frame} {manager next : AccountManager Frame}
    {jid : String} {tab : Tab} (registered : Registered manager)
    (fired : Manager.step env manager (.attach jid tab) = some next) :
    ∃ index, next.assigned tab = some index ∧ (next.accounts index).closing = false := by
  cases Manager.fires_of_step fired with
  | @attachExisting _ _ index filed absent =>
      obtain ⟨_, _, running⟩ := registered.filed jid index filed
      refine ⟨index, by simp [attachExisting], ?_⟩
      simpa [attachExisting, setAccount] using
        (attach_closing (env (manager.jids index)) absent).trans running
  | attachNew unfiled =>
      have running : (Account.attach (env jid) fresh tab).closing = false :=
        attach_closing _ rfl
      exact ⟨manager.count, by simp [attachNew], by simpa [attachNew] using running⟩

/-- As long as no countdown's `disconnect()` suspends, closing and attaching
never cross, over every interleaving. -/
theorem closing_and_attaching_never_cross (env : String → Env Frame)
    (actions : List (Manager.Action Frame)) (manager : AccountManager Frame)
    (run : replay (Manager.step env) empty actions = some manager)
    (prompt : Conforms (Manager.step env) (fun _ action => suspends action = false)
      empty actions) : NeverCross env manager := by
  have registered := registered_run run prompt
  refine ⟨fun _ _ _ fired => handed_open registered fired, registered.closing_empty,
    fun index _ closed filed => ?_, fun first second firstBound secondBound same left right => ?_⟩
  · have running := (registered.filed _ index filed).2.2
    rw [closed] at running
    cases running
  · have firstFiled := registered.open_filed first firstBound left
    rw [same, registered.open_filed second secondBound right] at firstFiled
    exact (Option.some.inj firstFiled).symm

def visit : List (Manager.Action Unit) :=
  [.attach "alice@example.com" 0, .account 0 .clientUp, .account 0 (.connectReturns 0),
    .account 0 (.snapshotEnds 0), .account 0 (.detach 0)]

/-- A second tab attaches after the countdown, which left `disconnect()` so. -/
def revisit (outcome : DisconnectOutcome) : List (Manager.Action Unit) :=
  visit ++ [.account 0 (.idleExpires outcome), .attach "alice@example.com" 1]

theorem prompt_disconnect_never_crosses :
    ∃ manager, replay (Manager.step fun _ => plainEnv) empty (revisit .returned) = some manager ∧
      NeverCross (fun _ => plainEnv) manager :=
  ⟨_, rfl, closing_and_attaching_never_cross (fun _ => plainEnv) (revisit .returned) _ rfl
    (by decide)⟩

/-- The countdown suspends in `disconnect()`: a tab that attaches then is handed
the closing account, and without one the account stays filed for good. -/
theorem suspended_disconnect_crosses :
    (∃ manager, replay (Manager.step fun _ => plainEnv) empty (revisit .suspended) =
          some manager ∧ manager.assigned 1 = some 0 ∧ (manager.accounts 0).closing = true ∧
        ¬ NeverCross (fun _ => plainEnv) manager) ∧
      ∃ manager, replay (Manager.step fun _ => plainEnv) empty
        (visit ++ [.account 0 (.idleExpires .suspended), .account 0 .closerCancelled]) =
          some manager ∧ (manager.accounts 0).closers = 0 ∧
        ¬ NeverCross (fun _ => plainEnv) manager := by
  refine ⟨⟨_, rfl, rfl, rfl, fun crossed => ?_⟩, ⟨_, rfl, rfl, fun crossed => ?_⟩⟩
  · have nobody := crossed.tabless 0 (by decide) rfl
    cases nobody
  · exact crossed.reaped 0 (by decide) rfl rfl

theorem tended_manager_step {env : String → Env Frame} {manager next : AccountManager Frame}
    {action : Manager.Action Frame}
    (contained : ∀ index inner, action = .account index inner → escapes inner = false)
    (tended : ∀ index, index < manager.count → Tended (manager.accounts index))
    (registered : Registered manager)
    (fired : Manager.step env manager action = some next) :
    ∀ index, index < next.count → Tended (next.accounts index) := by
  have stepped : ∀ {index : Nat} {inner : Lifecycle.Action Frame} {after : Account Frame},
      index < manager.count → escapes inner = false →
      Lifecycle.step (env (manager.jids index)) (manager.accounts index) inner = some after →
      ∀ other, other < manager.count →
        Tended ((setAccount manager index after).accounts other) := by
    intro index inner after bound quiet inside other otherBound
    by_cases same : other = index
    · subst other
      simpa [setAccount] using tended_step quiet (tended index bound) (attends_of_step inside)
    · simpa [setAccount, same] using tended other otherBound
  cases Manager.fires_of_step fired with
  | @attachExisting jid tab index filed absent =>
      have bound := (registered.filed jid index filed).1
      have attends := attends_attach (env (manager.jids index)) (manager.accounts index) tab absent
      intro other otherBound
      by_cases same : other = index
      · subst other
        simpa [attachExisting, setAccount] using tended_attach (tended index bound).owned attends
      · simpa [attachExisting, setAccount, same] using tended other otherBound
  | @attachNew jid tab unfiled =>
      intro other otherBound
      by_cases same : other = manager.count
      · subst other
        simpa [attachNew] using
          tended_attach fresh_owned (attends_attach (env jid) fresh tab rfl)
      · have older : other < manager.count := by
          have bound : other < manager.count + 1 := otherBound
          omega
        simpa [attachNew, same] using tended other older
  | @account index inner after bound _ inside =>
      exact stepped bound (contained index inner rfl) inside
  | @expired index inner after bound _ inside =>
      intro other otherBound
      have kept : (onIdleExpired (setAccount manager index after) index).accounts other =
          (setAccount manager index after).accounts other := by
        unfold onIdleExpired
        split_ifs <;> rfl
      rw [kept]
      apply stepped bound (contained index inner rfl) inside other
      revert otherBound
      unfold onIdleExpired
      split_ifs <;> exact id

/-- The action lets an exception escape `attach`, or suspends a countdown inside
`disconnect()`. -/
def abandons : Manager.Action Frame → Bool
  | .account _ (.snapshotRaises _) => true
  | .account _ (.idleExpires .suspended) => true
  | _ => false

theorem abandons_parts {action : Manager.Action Frame} (kept : abandons action = false) :
    suspends action = false ∧
      ∀ index inner, action = .account index inner → escapes inner = false := by
  cases action with
  | attach => exact ⟨rfl, fun _ _ same => by cases same⟩
  | account index inner =>
      cases inner with
      | idleExpires outcome =>
          refine ⟨?_, fun _ _ same => by cases same; rfl⟩
          cases outcome <;> first | rfl | cases kept
      | snapshotRaises => cases kept
      | _ => exact ⟨rfl, fun _ _ same => by cases same; rfl⟩

def HandlersEnded (manager : AccountManager Frame) : Prop :=
  ∀ index tab, (manager.accounts index).handlers tab = .absent ∨
    (manager.accounts index).handlers tab = .ended

/-- Nothing of the account is left but its countdown, or it is closed and filed
no more. -/
def Released (manager : AccountManager Frame) (index : Nat) : Prop :=
  (manager.accounts index).subscribers = [] ∧
    ((manager.accounts index).idleTask = true ∨
      ((manager.accounts index).closing = true ∧
        manager.registry (manager.jids index) ≠ some index))

structure Intact (manager : AccountManager Frame) : Prop where
  registered : Registered manager
  tended : ∀ index, index < manager.count → Tended (manager.accounts index)

theorem empty_intact : Intact (empty : AccountManager Frame) :=
  ⟨empty_registered, fun _ bound => absurd bound (Nat.not_lt_zero _)⟩

theorem intact_step {env : String → Env Frame} {manager next : AccountManager Frame}
    {action : Manager.Action Frame} (kept : abandons action = false) (intact : Intact manager)
    (fired : Manager.step env manager action = some next) : Intact next := by
  obtain ⟨prompt, contained⟩ := abandons_parts kept
  exact ⟨registered_step prompt intact.registered fired,
    tended_manager_step contained intact.tended intact.registered fired⟩

/-- No account is leaked as long as no exception escapes an `attach` and no
countdown's `disconnect()` suspends. -/
theorem no_account_is_leaked (env : String → Env Frame)
    (actions : List (Manager.Action Frame)) (manager : AccountManager Frame)
    (run : replay (Manager.step env) empty actions = some manager)
    (kept : Conforms (Manager.step env) (fun _ action => abandons action = false) empty actions)
    (ended : HandlersEnded manager) (index : Nat) (bound : index < manager.count) :
    Released manager index := by
  have intact : Intact manager :=
    run_invariant (fun _ _ _ permitted before fired => intact_step permitted before fired)
      empty_intact kept run
  have tended := intact.tended index bound
  have nobody : ∀ tab, ¬ Live ((manager.accounts index).handlers tab) := by
    intro tab live
    rcases ended index tab with absent | finished
    · rw [absent] at live
      exact live
    · rw [finished] at live
      exact live
  constructor
  · refine List.eq_nil_iff_forall_not_mem.mpr fun tab member => ?_
    exact nobody tab (tended.owned tab member)
  · rcases tended.watched with closing | idle | ⟨tab, live⟩
    · refine .inr ⟨closing, fun filed => ?_⟩
      have running := (intact.registered.filed _ index filed).2.2
      rw [closing] at running
      cases running
    · exact .inl idle
    · exact (nobody tab live).elim

theorem visit_releases_the_account :
    ∃ manager, replay (Manager.step fun _ => plainEnv) empty visit = some manager ∧
      Released manager 0 := by
  refine ⟨_, rfl, no_account_is_leaked (fun _ => plainEnv) visit _ rfl (by decide) ?_ 0
    (by decide)⟩
  intro index tab
  cases index with
  | zero => cases tab with
      | zero => exact .inr rfl
      | succ tab => exact .inl rfl
  | succ index => exact .inl rfl

/-- The tab dies while its snapshot is sent: the handler ends without `detach`,
and the account keeps the dead subscriber and no countdown. -/
theorem dead_tab_leaks_the_account :
    ∃ manager, replay (Manager.step fun _ => plainEnv) empty
        [.attach "alice@example.com" 0, .account 0 .clientUp, .account 0 (.connectReturns 0),
          .account 0 (.snapshotRaises 0)] = some manager ∧
      HandlersEnded manager ∧ 0 < manager.count ∧ ¬ Released manager 0 := by
  refine ⟨_, rfl, ?_, by decide, fun released => ?_⟩
  · intro index tab
    cases index with
    | zero => cases tab with
        | zero => exact .inr rfl
        | succ tab => exact .inl rfl
    | succ index => exact .inl rfl
  · have nobody := released.1
    cases nobody

end PyConduit.Reaping
