import PyConduit.Manager

/-!
# The shutdown of the server

`AccountManager.shutdown` takes the accounts out of the registry and closes one after the
other, while the handlers of the tabs and the tasks of the accounts run on between its
suspensions. A closing account has given up its reconnect loop; only tabs that already
wait in `ensure_connected` can still make it call `connect()`.
-/

namespace PyConduit.Shutdown

open Lifecycle Lifecycle.Account GuardedRun
open Manager (AccountManager setAccount)
open Attendance (attaches)

set_option autoImplicit false

variable {Frame : Type}

/-! ### A closing account -/

def LoopOver (account : Account Frame) : Prop :=
  account.reconnectTask = .finished ∨ account.reconnectCancelled = true

structure Calm (before after : Account Frame) : Prop where
  closing : after.closing = before.closing
  task : before.closing = true → after.reconnectTask = before.reconnectTask
  cancelled : before.closing = true → after.reconnectCancelled = before.reconnectCancelled

/-- The tabs that call `connect()` have waited for the lock and do not wait any longer. -/
structure Spends (callers : List Tab) (before after : Account Frame) : Prop where
  calls : after.client.calls.length = before.client.calls.length + callers.length
  waiters : (callers ++ after.lockWaiters).Sublist before.lockWaiters

structure Quiet (before after : Account Frame) : Prop extends Calm before after where
  calls : after.client.calls = before.client.calls
  waiters : after.lockWaiters = before.lockWaiters

def calling (account : Account Frame) (tab : Tab) : List Tab :=
  if account.client.connected then [] else [tab]

section Operations

variable (env : Env Frame) (account : Account Frame) (tab : Tab) (frame : Frame)

theorem quiet_refl : Quiet account account := ⟨⟨rfl, fun _ => rfl, fun _ => rfl⟩, rfl, rfl⟩

theorem Quiet.spends {before after : Account Frame} (quiet : Quiet before after) :
    Spends [] before after :=
  ⟨congrArg List.length quiet.calls, quiet.waiters ▸ List.Sublist.refl _⟩

theorem Calm.trans {first second third : Account Frame} (left : Calm first second)
    (right : Calm second third) : Calm first third where
  closing := right.closing.trans left.closing
  task shut := (right.task (left.closing.trans shut)).trans (left.task shut)
  cancelled shut := (right.cancelled (left.closing.trans shut)).trans (left.cancelled shut)

theorem Calm.loop_over {before after : Account Frame} (calm : Calm before after)
    (stopped : before.closing = true → LoopOver before) (shut : after.closing = true) :
    LoopOver after := by
  have earlier := calm.closing.symm.trans shut
  rcases stopped earlier with finished | cancelled
  · exact .inl ((calm.task earlier).trans finished)
  · exact .inr ((calm.cancelled earlier).trans cancelled)

theorem Quiet.trans {first second third : Account Frame} (left : Quiet first second)
    (right : Quiet second third) : Quiet first third :=
  ⟨left.toCalm.trans right.toCalm, right.calls.trans left.calls, right.waiters.trans left.waiters⟩

theorem quiet_set_handler (handler : Handler Frame) :
    Quiet account (account.setHandler tab handler) := { quiet_refl account with }

theorem quiet_send : Quiet account (account.send tab frame) := { quiet_refl account with }

theorem quiet_send_ended (delivered : Bool) : Quiet account (account.sendEnded tab delivered) := by
  cases delivered
  · exact { quiet_refl account with }
  · exact quiet_refl account

theorem quiet_schedule : Quiet account account.scheduleReconnect := by
  unfold scheduleReconnect
  split_ifs with running idle
  · exact quiet_refl account
  · exact quiet_refl account
  · have serving : account.closing ≠ true := fun shut => idle (.inl shut)
    exact ⟨⟨rfl, fun shut => absurd shut serving, fun shut => absurd shut serving⟩, rfl, rfl⟩

theorem quiet_send_snapshot : Quiet account (sendSnapshot env account tab) :=
  (quiet_set_handler account tab .snapshot).trans (quiet_send _ tab _)

theorem under_lock_calls : Calm account (underLock env account tab) ∧
    (underLock env account tab).client.calls.length =
        account.client.calls.length + (calling account tab).length ∧
      (underLock env account tab).lockWaiters = account.lockWaiters := by
  unfold underLock calling
  split_ifs
  · have released : Quiet account account.releaseLock := { quiet_refl account with }
    have through := released.trans (quiet_send_snapshot env account.releaseLock tab)
    exact ⟨through.toCalm, congrArg List.length through.calls, through.waiters⟩
  · refine ⟨⟨rfl, fun _ => rfl, fun _ => rfl⟩, ?_, rfl⟩
    simp [setHandler, Account.connect, Client.connect]

theorem calm_attach : Calm account (attach env account tab) := by
  unfold attach ensureConnected
  split_ifs
  · have opened : Quiet account { account.cancelIdle with
        subscribers := account.subscribers.insert tab, lockHolder := some tab } :=
      { quiet_refl account with }
    exact opened.toCalm.trans (under_lock_calls env _ tab).1
  · exact ⟨rfl, fun _ => rfl, fun _ => rfl⟩

theorem quiet_report (order : List Tab) : Quiet account (report env account tab frame order) := by
  cases order with
  | nil =>
      have released : Quiet account.scheduleReconnect account.scheduleReconnect.releaseLock :=
        { quiet_refl _ with }
      exact (quiet_schedule account).trans (released.trans (quiet_send_snapshot env _ tab))
  | cons next rest => exact (quiet_set_handler account tab _).trans (quiet_send _ next frame)

theorem quiet_broadcast (order : List Tab) : Quiet account (account.broadcast tab frame order) := by
  cases order with
  | nil => exact quiet_set_handler account tab _
  | cons next rest => exact (quiet_set_handler account tab _).trans (quiet_send _ next frame)

theorem quiet_detach : Quiet account (account.detach tab) := by
  unfold detach
  dsimp only
  split_ifs
  · exact { quiet_refl account with }
  · exact { quiet_refl account with }

theorem quiet_finish_event (afterwards : Afterwards) :
    Quiet account (account.finishEvent afterwards) := by
  cases afterwards with
  | nothing => exact quiet_refl account
  | scheduleReconnect => exact quiet_schedule account

theorem quiet_start_event (afterwards : Afterwards) (order : List Tab) :
    Quiet account (account.startEvent frame afterwards order) := by
  cases order with
  | nil => exact quiet_finish_event account afterwards
  | cons next rest => exact { quiet_refl account with }

theorem quiet_continue_event (index : Nat) (afterwards : Afterwards) (rest : List Tab) :
    Quiet account (account.continueEvent index frame afterwards rest) := by
  cases rest with
  | nil =>
      have erased : Quiet account { account with events := account.events.eraseIdx index } :=
        { quiet_refl account with }
      exact erased.trans (quiet_finish_event _ afterwards)
  | cons next rest => exact { quiet_refl account with }

theorem close_closing (outcome : DisconnectOutcome) : (account.close outcome).closing = true := by
  cases outcome
  all_goals rfl

theorem close_spends (outcome : DisconnectOutcome) : Spends [] account (account.close outcome) := by
  cases outcome
  all_goals exact ⟨rfl, List.Sublist.refl _⟩

theorem close_loop_over (outcome : DisconnectOutcome) : LoopOver (account.close outcome) := by
  have task : (account.close outcome).reconnectTask = account.reconnectTask := by
    cases outcome
    all_goals rfl
  have flag : (account.close outcome).reconnectCancelled =
      if account.reconnectTask = .finished then account.reconnectCancelled else true := by
    cases outcome
    all_goals rfl
  by_cases finished : account.reconnectTask = .finished
  · exact .inl (task.trans finished)
  · exact .inr (by rw [flag, if_neg finished])

end Operations

section Steps

variable {env : Env Frame} {account next : Account Frame} {action : Lifecycle.Action Frame}

def callers (account : Account Frame) : Lifecycle.Action Frame → List Tab
  | .lockGranted tab => calling account tab
  | _ => []

inductive Winds (account : Account Frame) : Lifecycle.Action Frame → Account Frame → Prop
  | attach {tab : Tab} {next : Account Frame} (calm : Calm account next) :
      Winds account (.attach tab) next
  | granted {tab : Tab} {next : Account Frame} (calm : Calm account next)
      (spends : Spends (calling account tab) account next) : Winds account (.lockGranted tab) next
  | quiet {action : Lifecycle.Action Frame} {next : Account Frame} (quiet : Quiet account next)
      (other : callers account action = []) : Winds account action next
  | loops {action : Lifecycle.Action Frame} {next : Account Frame}
      (closing : next.closing = account.closing)
      (ends : account.closing = true → next.reconnectTask = .finished)
      (spends : account.closing = true → Spends [] account next)
      (other : callers account action = []) : Winds account action next
  | closes {action : Lifecycle.Action Frame} (outcome : DisconnectOutcome)
      (other : callers account action = []) : Winds account action (account.close outcome)

theorem winds_of_step (fired : Lifecycle.step env account action = some next) :
    Winds account action next := by
  have loop : ∀ (before : Account Frame) (delay : Rat), before.closing = account.closing →
      Spends [] account before → ∀ action, callers account action = [] →
        Winds account action (before.reconnectLoop delay) := by
    intro before delay closing spends action other
    unfold reconnectLoop
    split_ifs with goesOn
    · have serving : account.closing ≠ true := by simp [← closing, goesOn.1]
      exact .loops closing (fun shut => absurd shut serving) (fun _ => ⟨spends.calls, spends.waiters⟩)
        other
    · exact .loops closing (fun _ => rfl) (fun _ => ⟨spends.calls, spends.waiters⟩) other
  have unchanged := (quiet_refl account).spends
  cases fires_of_step fired with
  | attach => exact .attach (calm_attach env account _)
  | @lockGranted tab waiters _ first =>
      obtain ⟨calm, calls, waiting⟩ := under_lock_calls env
        { account with lockHolder := some tab, lockWaiters := waiters } tab
      refine .granted ⟨calm.closing, calm.task, calm.cancelled⟩ ⟨calls, ?_⟩
      rw [waiting, first]
      unfold calling
      split_ifs
      · exact List.sublist_cons_self tab waiters
      · exact List.Sublist.refl _
  | connectReturns => exact .quiet { quiet_refl account with } rfl
  | connectRaises =>
      have ended : Quiet account account.connectEnds := { quiet_refl account with }
      exact .quiet (ended.trans (quiet_report env _ _ _ _)) rfl
  | reported => exact .quiet ((quiet_send_ended account _ _).trans (quiet_report env _ _ _ _)) rfl
  | broadcast => exact .quiet (quiet_broadcast account _ _ _) rfl
  | broadcastSent =>
      exact .quiet ((quiet_send_ended account _ _).trans (quiet_broadcast _ _ _ _)) rfl
  | detach => exact .quiet (quiet_detach account _) rfl
  | @idleExpires outcome =>
      unfold idleCountdown
      split_ifs
      · exact .closes outcome rfl
      · exact .quiet { quiet_refl account with } rfl
  | reconnectStarts => exact loop account _ rfl unchanged _ rfl
  | reconnectRaises => exact loop account.connectEnds _ rfl ⟨unchanged.calls, unchanged.waiters⟩ _ rfl
  | reconnectWakes =>
      unfold Account.reconnectWakes
      split_ifs with stops
      · exact .loops rfl (fun _ => rfl) (fun _ => ⟨unchanged.calls, unchanged.waiters⟩) rfl
      · have serving : account.closing ≠ true := fun shut => stops (.inl shut)
        exact .loops rfl (fun shut => absurd shut serving) (fun shut => absurd shut serving) rfl
  | reconnectReturns =>
      exact .loops rfl (fun _ => rfl) (fun _ => ⟨unchanged.calls, unchanged.waiters⟩) rfl
  | reconnectCancelledConnecting =>
      exact .loops rfl (fun _ => rfl) (fun _ => ⟨unchanged.calls, unchanged.waiters⟩) rfl
  | reconnectCancelled =>
      exact .loops rfl (fun _ => rfl) (fun _ => ⟨unchanged.calls, unchanged.waiters⟩) rfl
  | event => exact .quiet (quiet_start_event account _ _ _) rfl
  | disconnected =>
      have taken : Quiet account { account with pendingDrops := account.pendingDrops - 1 } :=
        { quiet_refl account with }
      exact .quiet (taken.trans (quiet_start_event _ _ _ _)) rfl
  | eventSent =>
      exact .quiet ((quiet_send_ended account _ _).trans (quiet_continue_event _ _ _ _ _)) rfl
  | _ => exact .quiet { quiet_refl account with } rfl

/-- An account that is closing stays so, and `connect()` is called by tabs that wait alone. -/
theorem closed_step (shut : account.closing = true) (waits : attaches action = false)
    (fired : Lifecycle.step env account action = some next) :
    next.closing = true ∧ Spends (callers account action) account next := by
  cases winds_of_step fired with
  | attach => cases waits
  | granted calm spends => exact ⟨calm.closing.trans shut, spends⟩
  | quiet quiet other => exact ⟨quiet.closing.trans shut, other ▸ quiet.spends⟩
  | loops closing _ spends other => exact ⟨closing.trans shut, other ▸ spends shut⟩
  | closes outcome other => exact ⟨close_closing account outcome, other ▸ close_spends account outcome⟩

theorem loop_over_step (stopped : account.closing = true → LoopOver account)
    (fired : Lifecycle.step env account action = some next) (shut : next.closing = true) :
    LoopOver next := by
  cases winds_of_step fired with
  | attach calm => exact calm.loop_over stopped shut
  | granted calm => exact calm.loop_over stopped shut
  | quiet quiet => exact quiet.toCalm.loop_over stopped shut
  | loops closing ends => exact .inl (ends (closing.symm.trans shut))
  | closes outcome => exact close_loop_over account outcome

end Steps

/-! ### The server -/

/-- How far `shutdown` is: `current` is the account whose `disconnect()` it awaits, `rest`
are those it has still to close. -/
inductive Phase
  | serving
  | closing (current : Nat) (rest : List Nat)
  | finished
  deriving DecidableEq

structure Server (Frame : Type) where
  manager : AccountManager Frame
  phase : Phase

def start : Server Frame := ⟨Manager.empty, .serving⟩

/-- `self._accounts.values()`: an account is filed when it is made, behind the others. -/
def values (manager : AccountManager Frame) : List Nat :=
  (List.range manager.count).filter fun index =>
    manager.registry (manager.jids index) = some index

def clear (manager : AccountManager Frame) : AccountManager Frame :=
  { manager with registry := fun _ => none }

def closeAccount (manager : AccountManager Frame) (index : Nat) (outcome : DisconnectOutcome) :
    AccountManager Frame :=
  setAccount manager index ((manager.accounts index).close outcome)

/-- The loop of `shutdown`, up to its next suspension; `outcome` tells what is known of the
`disconnect()` of an account by then. -/
def closeAccounts (outcome : Nat → DisconnectOutcome) (manager : AccountManager Frame) :
    List Nat → Server Frame
  | [] => ⟨manager, .finished⟩
  | index :: rest =>
      match outcome index with
      -- the client is as it was, and no countdown is suspended here
      | .suspended => ⟨closeAccount manager index .raised, .closing index rest⟩
      | .returned => closeAccounts outcome (closeAccount manager index .returned) rest
      | .raised => closeAccounts outcome (closeAccount manager index .raised) rest

/-- The awaited `disconnect()` is over; what it raises is swallowed. -/
def disconnectEnds (account : Account Frame) (returned : Bool) : Account Frame :=
  if returned then { account with client := { account.client with connected := false } } else account

inductive Action (Frame : Type)
  | manager (action : Manager.Action Frame)
  | shutdown (outcome : Nat → DisconnectOutcome)
  | disconnectEnds (returned : Bool) (outcome : Nat → DisconnectOutcome)

def step (env : String → Env Frame) (server : Server Frame) : Action Frame → Option (Server Frame)
  | .manager action =>
      (Manager.step env server.manager action).map fun next => { server with manager := next }
  | .shutdown outcome =>
      if server.phase = .serving then
        some (closeAccounts outcome (clear server.manager) (values server.manager))
      else none
  | .disconnectEnds returned outcome =>
      match server.phase with
      | .closing current rest =>
          some (closeAccounts outcome (setAccount server.manager current
            (disconnectEnds (server.manager.accounts current) returned)) rest)
      | _ => none

def toClose : Phase → List Nat
  | .closing _ rest => rest
  | _ => []

/-- Accounts that are not closing are in the registry, or `shutdown` has them on its list. -/
structure Sound (manager : AccountManager Frame) (left : List Nat) : Prop where
  filed : ∀ jid index, manager.registry jid = some index →
    index < manager.count ∧ manager.jids index = jid
  kept : ∀ index, index < manager.count → (manager.accounts index).closing = false →
    manager.registry (manager.jids index) = some index ∨ index ∈ left
  stopped : ∀ index, (manager.accounts index).closing = true → LoopOver (manager.accounts index)

def Wanes (callers : List Tab) (before after : Account Frame) : Prop :=
  before.closing = true → after.closing = true ∧ Spends callers before after

section Servers

variable {manager : AccountManager Frame} {left : List Nat}

theorem empty_sound : Sound (Manager.empty : AccountManager Frame) [] := by
  refine ⟨?_, ?_, ?_⟩
  · intro jid index filed
    cases filed
  · intro index bound
    exact absurd bound (Nat.not_lt_zero index)
  · intro index shut
    cases shut

theorem account_set (manager : AccountManager Frame) (index : Nat) (account : Account Frame) :
    (setAccount manager index account).accounts index = account := Function.update_self ..

theorem account_other {index other : Nat} (apart : other ≠ index) (manager : AccountManager Frame)
    (account : Account Frame) :
    (setAccount manager index account).accounts other = manager.accounts other :=
  Function.update_of_ne apart ..

/-- An account goes on without being opened again. -/
theorem sound_set_account (sound : Sound manager left) {index : Nat} {next : Account Frame}
    (mono : (manager.accounts index).closing = true → next.closing = true)
    (stopped : next.closing = true → LoopOver next) : Sound (setAccount manager index next) left := by
  refine ⟨sound.filed, ?_, ?_⟩
  · intro other bound serving
    apply sound.kept other bound
    by_cases same : other = index
    · subst other
      rw [account_set] at serving
      exact Bool.eq_false_iff.mpr fun shut => Bool.eq_false_iff.mp serving (mono shut)
    · rwa [account_other same] at serving
  · intro other shut
    by_cases same : other = index
    · subst other
      rw [account_set] at shut ⊢
      exact stopped shut
    · rw [account_other same] at shut ⊢
      exact sound.stopped other shut

theorem sound_attach_new {env : String → Env Frame} {jid : String} {tab : Tab}
    (sound : Sound manager left) (unfiled : manager.registry jid = none) :
    Sound (Manager.attachNew env manager jid tab) left := by
  have serving : (Account.attach (env jid) (fresh : Account Frame) tab).closing = false :=
    (calm_attach (env jid) fresh tab).closing
  refine ⟨?_, ?_, ?_⟩
  · intro name index filed
    by_cases same : name = jid
    · subst name
      have newest : manager.count = index := by simpa [Manager.attachNew] using filed
      subst index
      exact ⟨Nat.lt_succ_self _, by simp [Manager.attachNew]⟩
    · obtain ⟨bound, named⟩ := sound.filed name index (by simpa [Manager.attachNew, same] using filed)
      exact ⟨Nat.lt_succ_of_lt bound, by simpa [Manager.attachNew, bound.ne] using named⟩
  · intro index bound open_
    by_cases newest : index = manager.count
    · subst index
      exact .inl (by simp [Manager.attachNew])
    · have older : index < manager.count := lt_of_le_of_ne (Nat.le_of_lt_succ bound) newest
      rcases sound.kept index older (by simpa [Manager.attachNew, newest] using open_) with
        filed | listed
      · left
        have apart : manager.jids index ≠ jid := by
          intro clash
          rw [clash, unfiled] at filed
          cases filed
        simpa [Manager.attachNew, newest, apart] using filed
      · exact .inr listed
  · intro index shut
    by_cases newest : index = manager.count
    · subst index
      simp [Manager.attachNew, serving] at shut
    · simp only [Manager.attachNew, Function.update_of_ne newest] at shut ⊢
      exact sound.stopped index shut

theorem sound_expired (sound : Sound manager left) {index : Nat}
    (shut : (manager.accounts index).closing = true) :
    Sound (Manager.onIdleExpired manager index) left := by
  unfold Manager.onIdleExpired
  split_ifs with removed
  · refine ⟨?_, ?_, sound.stopped⟩
    · intro jid other filed
      by_cases same : jid = manager.jids index
      · simp [same] at filed
      · exact sound.filed jid other (by simpa [same] using filed)
    · intro other bound serving
      rcases sound.kept other bound serving with filed | listed
      · left
        have apart : manager.jids other ≠ manager.jids index := by
          intro clash
          rw [clash, removed.2] at filed
          cases filed
          change (manager.accounts index).closing = false at serving
          rw [shut] at serving
          cases serving
        simpa [apart] using filed
      · exact .inr listed
  · exact sound

theorem sound_manager_step {env : String → Env Frame} {next : AccountManager Frame}
    {action : Manager.Action Frame} (sound : Sound manager left)
    (fired : Manager.step env manager action = some next) : Sound next left := by
  cases Manager.fires_of_step fired with
  | @attachExisting jid tab index filed absent =>
      have attached := calm_attach (env (manager.jids index)) (manager.accounts index) tab
      have went : Sound (setAccount manager index _) left :=
        sound_set_account sound (fun shut => attached.closing.trans shut)
          (attached.loop_over (sound.stopped index))
      exact ⟨went.filed, went.kept, went.stopped⟩
  | attachNew unfiled => exact sound_attach_new sound unfiled
  | @account index action after _ waits inner =>
      exact sound_set_account sound (fun shut => (closed_step shut waits inner).1)
        (loop_over_step (sound.stopped index) inner)
  | @expired index action after _ waits inner leaves =>
      have went := sound_set_account sound (fun shut => (closed_step shut waits inner).1)
        (loop_over_step (sound.stopped index) inner)
      apply sound_expired went
      rw [account_set]
      exact (Manager.expired_closes leaves inner).1

theorem sound_close {index : Nat} (sound : Sound manager (index :: left))
    (outcome : DisconnectOutcome) : Sound (closeAccount manager index outcome) left := by
  have closed : Sound (closeAccount manager index outcome) (index :: left) :=
    sound_set_account sound (fun _ => close_closing _ outcome) fun _ => close_loop_over _ outcome
  refine ⟨closed.filed, ?_, closed.stopped⟩
  intro other bound serving
  rcases closed.kept other bound serving with filed | listed
  · exact .inl filed
  · rcases List.mem_cons.mp listed with rfl | later
    · rw [closeAccount, account_set, close_closing] at serving
      cases serving
    · exact .inr later

theorem sound_close_accounts (outcome : Nat → DisconnectOutcome) (sound : Sound manager left) :
    Sound (closeAccounts outcome manager left).manager
      (toClose (closeAccounts outcome manager left).phase) := by
  induction left generalizing manager with
  | nil => exact sound
  | cons index rest induction =>
      unfold closeAccounts
      cases outcome index with
      | suspended => exact sound_close sound .raised
      | returned => exact induction (sound_close sound .returned)
      | raised => exact induction (sound_close sound .raised)

theorem sound_clear (sound : Sound manager []) : Sound (clear manager) (values manager) := by
  refine ⟨?_, ?_, sound.stopped⟩
  · intro jid index filed
    cases filed
  · intro index bound serving
    right
    rcases sound.kept index bound serving with filed | listed
    · exact List.mem_filter.mpr ⟨List.mem_range.mpr bound, decide_eq_true filed⟩
    · cases listed

theorem sound_step {env : String → Env Frame} {server next : Server Frame} {action : Action Frame}
    (sound : Sound server.manager (toClose server.phase))
    (fired : step env server action = some next) : Sound next.manager (toClose next.phase) := by
  cases action with
  | manager action =>
      obtain ⟨manager, inner, rfl⟩ := Option.map_eq_some_iff.mp fired
      exact sound_manager_step sound inner
  | shutdown outcome =>
      obtain ⟨serving, done⟩ := Option.ite_none_right_eq_some.mp fired
      cases done
      rw [serving] at sound
      exact sound_close_accounts outcome (sound_clear sound)
  | disconnectEnds returned outcome =>
      obtain ⟨manager, phase⟩ := server
      cases phase with
      | serving => cases fired
      | finished => cases fired
      | closing current rest =>
          cases fired
          apply sound_close_accounts
          apply sound_set_account sound
          · intro shut
            cases returned
            all_goals exact shut
          · intro shut
            cases returned
            all_goals exact sound.stopped current shut

end Servers

section Runs

variable {env : String → Env Frame} {since : Nat}

/-- The registry has been emptied; what it holds now was made later. -/
structure Begun (since : Nat) (manager : AccountManager Frame) : Prop where
  known : since ≤ manager.count
  later : ∀ jid index, manager.registry jid = some index → since ≤ index

theorem wanes_refl (account : Account Frame) : Wanes [] account account :=
  fun shut => ⟨shut, (quiet_refl account).spends⟩

theorem Spends.trans {first second third : Account Frame} {early late : List Tab}
    (left : Spends early first second) (right : Spends late second third) :
    Spends (early ++ late) first third where
  calls := by rw [right.calls, left.calls, List.length_append, Nat.add_assoc]
  waiters := by
    rw [List.append_assoc]
    exact (right.waiters.append_left early).trans left.waiters

theorem Wanes.trans {first second third : Account Frame} {early late : List Tab}
    (left : Wanes early first second) (right : Wanes late second third) :
    Wanes (early ++ late) first third := by
  intro shut
  obtain ⟨still, spends⟩ := left shut
  obtain ⟨last, more⟩ := right still
  exact ⟨last, spends.trans more⟩

theorem wanes_set {manager : AccountManager Frame} {index : Nat} {next : Account Frame}
    {callers : List Tab} (wanes : Wanes callers (manager.accounts index) next) (other : Nat) :
    Wanes (if index = other then callers else []) (manager.accounts other)
      ((setAccount manager index next).accounts other) := by
  by_cases same : other = index
  · subst other
    rw [account_set, if_pos rfl]
    exact wanes
  · rw [account_other same, if_neg (Ne.symm same)]
    exact wanes_refl _

theorem wanes_set_none {manager : AccountManager Frame} {index : Nat} {next : Account Frame}
    (wanes : Wanes [] (manager.accounts index) next) (other : Nat) :
    Wanes [] (manager.accounts other) ((setAccount manager index next).accounts other) := by
  simpa using wanes_set wanes other

theorem close_accounts_keeps (outcome : Nat → DisconnectOutcome) (manager : AccountManager Frame)
    (left : List Nat) : (closeAccounts outcome manager left).manager.registry = manager.registry ∧
      (closeAccounts outcome manager left).manager.count = manager.count := by
  induction left generalizing manager with
  | nil => exact ⟨rfl, rfl⟩
  | cons index rest induction =>
      unfold closeAccounts
      cases outcome index with
      | suspended => exact ⟨rfl, rfl⟩
      | returned => exact induction _
      | raised => exact induction _

theorem wanes_close_accounts (outcome : Nat → DisconnectOutcome) (manager : AccountManager Frame)
    (left : List Nat) (index : Nat) :
    Wanes [] (manager.accounts index)
      ((closeAccounts outcome manager left).manager.accounts index) := by
  have closes : ∀ (manager : AccountManager Frame) (current : Nat) (ended : DisconnectOutcome),
      Wanes [] (manager.accounts index) ((closeAccount manager current ended).accounts index) := by
    intro manager current ended
    apply wanes_set_none
    exact fun _ => ⟨close_closing _ ended, close_spends _ ended⟩
  induction left generalizing manager with
  | nil => exact wanes_refl _
  | cons current rest induction =>
      unfold closeAccounts
      cases outcome current with
      | suspended => exact closes manager current .raised
      | returned => exact (closes manager current .returned).trans (induction _)
      | raised => exact (closes manager current .raised).trans (induction _)

theorem begun_clear (outcome : Nat → DisconnectOutcome) (manager : AccountManager Frame)
    (left : List Nat) : Begun manager.count (closeAccounts outcome (clear manager) left).manager := by
  obtain ⟨registry, count⟩ := close_accounts_keeps outcome (clear manager) left
  refine ⟨count.ge, ?_⟩
  intro jid index filed
  rw [registry] at filed
  cases filed

theorem begun_manager_step {manager next : AccountManager Frame} {action : Manager.Action Frame}
    (begun : Begun since manager) (fired : Manager.step env manager action = some next) :
    Begun since next := by
  cases Manager.fires_of_step fired with
  | attachExisting => exact ⟨begun.known, begun.later⟩
  | @attachNew jid tab =>
      refine ⟨begun.known.trans (Nat.le_succ _), ?_⟩
      intro name index filed
      by_cases same : name = jid
      · subst name
        have newest : manager.count = index := by simpa [Manager.attachNew] using filed
        exact newest ▸ begun.known
      · exact begun.later name index (by simpa [Manager.attachNew, same] using filed)
  | account => exact ⟨begun.known, begun.later⟩
  | @expired index =>
      unfold Manager.onIdleExpired
      split_ifs
      · refine ⟨begun.known, ?_⟩
        intro jid other filed
        by_cases same : jid = manager.jids index
        · simp [setAccount, same] at filed
        · exact begun.later jid other (by simpa [setAccount, same] using filed)
      · exact ⟨begun.known, begun.later⟩

theorem begun_step {server next : Server Frame} {action : Action Frame}
    (begun : Begun since server.manager) (fired : step env server action = some next) :
    Begun since next.manager := by
  cases action with
  | manager action =>
      obtain ⟨manager, inner, rfl⟩ := Option.map_eq_some_iff.mp fired
      exact begun_manager_step begun inner
  | shutdown outcome =>
      obtain ⟨_, done⟩ := Option.ite_none_right_eq_some.mp fired
      cases done
      have again := begun_clear outcome server.manager (values server.manager)
      exact ⟨begun.known.trans again.known, fun jid index filed =>
        begun.known.trans (again.later jid index filed)⟩
  | disconnectEnds returned outcome =>
      obtain ⟨manager, phase⟩ := server
      cases phase with
      | serving => cases fired
      | finished => cases fired
      | closing current rest =>
          cases fired
          obtain ⟨registry, count⟩ := close_accounts_keeps outcome (setAccount manager current
            (disconnectEnds (manager.accounts current) returned)) rest
          refine ⟨begun.known.trans count.ge, ?_⟩
          intro jid index filed
          rw [registry] at filed
          exact begun.later jid index filed

def callersOf (index : Nat) (server : Server Frame) : Action Frame → List Tab
  | .manager (.account other action) =>
      if other = index then callers (server.manager.accounts other) action else []
  | _ => []

/-- No step reopens an account that was made before the shutdown began, or lets another than
its waiting tabs call `connect()`. -/
theorem wanes_step {server next : Server Frame} {action : Action Frame} {index : Nat}
    (begun : Begun since server.manager) (old : index < since)
    (fired : step env server action = some next) :
    Wanes (callersOf index server action) (server.manager.accounts index)
      (next.manager.accounts index) := by
  cases action with
  | manager action =>
      obtain ⟨manager, inner, rfl⟩ := Option.map_eq_some_iff.mp fired
      have inside : ∀ {other : Nat} {action : Lifecycle.Action Frame} {after : Account Frame},
          attaches action = false →
          Lifecycle.step (env (server.manager.jids other)) (server.manager.accounts other) action =
            some after → Wanes (callers (server.manager.accounts other) action)
              (server.manager.accounts other) after :=
        fun waits stepped shut => closed_step shut waits stepped
      cases Manager.fires_of_step inner with
      | @attachExisting jid tab newer filed =>
          have apart : index ≠ newer := by
            have := begun.later jid newer filed
            omega
          have same := account_other apart server.manager
            (Account.attach (env (server.manager.jids newer)) (server.manager.accounts newer) tab)
          exact same ▸ wanes_refl _
      | attachNew =>
          have apart : index ≠ server.manager.count := by
            have := begun.known
            omega
          simp only [Manager.attachNew, Function.update_of_ne apart]
          exact wanes_refl _
      | account _ other stepped => exact wanes_set (inside other stepped) index
      | @expired other action after _ notAttach stepped =>
          have kept : (Manager.onIdleExpired (setAccount server.manager other after) other).accounts =
              (setAccount server.manager other after).accounts := by
            unfold Manager.onIdleExpired
            split_ifs
            all_goals rfl
          rw [kept]
          exact wanes_set (inside notAttach stepped) index
  | shutdown outcome =>
      obtain ⟨_, done⟩ := Option.ite_none_right_eq_some.mp fired
      cases done
      exact wanes_close_accounts outcome (clear server.manager) _ index
  | disconnectEnds returned outcome =>
      obtain ⟨manager, phase⟩ := server
      cases phase with
      | serving => cases fired
      | finished => cases fired
      | closing current rest =>
          cases fired
          have ended : Wanes [] (manager.accounts current)
              (disconnectEnds (manager.accounts current) returned) := by
            cases returned
            · exact wanes_refl _
            · exact fun shut => ⟨shut, rfl, List.Sublist.refl _⟩
          exact (wanes_set_none ended index).trans (wanes_close_accounts outcome _ rest index)

theorem start_sound : Sound (start : Server Frame).manager (toClose (start : Server Frame).phase) :=
  empty_sound

theorem sound_run {actions : List (Action Frame)} {server : Server Frame}
    (run : replay (step env) start actions = some server) :
    Sound server.manager (toClose server.phase) :=
  run_invariant_unconditional (fun server => Sound server.manager (toClose server.phase))
    (fun _ _ _ sound fired => sound_step sound fired) start_sound run

/-- Once `shutdown` has returned, whatever tabs came, left or failed to connect meanwhile and
whatever `disconnect()` did, every account that was made before it began is closing, has no
reconnect loop that will go on, and is not handed to a tab again. -/
theorem shutdown_closes (env : String → Env Frame) (earlier later : List (Action Frame))
    (outcome : Nat → DisconnectOutcome) (server begun final : Server Frame)
    (served : replay (step env) start earlier = some server)
    (begins : step env server (.shutdown outcome) = some begun)
    (goesOn : replay (step env) begun later = some final) (returned : final.phase = .finished) :
    ∀ index < server.manager.count, (final.manager.accounts index).closing = true ∧
      LoopOver (final.manager.accounts index) ∧
      ∀ jid, final.manager.registry jid ≠ some index := by
  have first : Sound begun.manager (toClose begun.phase) ∧
      Begun server.manager.count begun.manager := by
    refine ⟨sound_step (sound_run served) begins, ?_⟩
    obtain ⟨_, done⟩ := Option.ite_none_right_eq_some.mp begins
    cases done
    exact begun_clear outcome server.manager (values server.manager)
  obtain ⟨sound, emptied⟩ := run_invariant_unconditional
    (fun current => Sound current.manager (toClose current.phase) ∧
      Begun server.manager.count current.manager)
    (fun _ _ _ holds fired => ⟨sound_step holds.1 fired, begun_step holds.2 fired⟩) first goesOn
  intro index old
  have unfiled : ∀ jid, final.manager.registry jid ≠ some index := by
    intro jid filed
    exact absurd (emptied.later jid index filed) (Nat.not_le_of_lt old)
  have closing : (final.manager.accounts index).closing = true := by
    cases shut : (final.manager.accounts index).closing with
    | true => rfl
    | false =>
        rcases sound.kept index (old.trans_le emptied.known) shut with filed | listed
        · exact absurd filed (unfiled _)
        · rw [returned] at listed
          cases listed
  exact ⟨closing, sound.stopped index closing, unfiled⟩

/-- Two accounts, a tab that waits for the first, and one that comes during the shutdown. -/
def busyActions : List (Action Unit) :=
  [.manager (.attach "desk@example.com" 0), .manager (.attach "lab@example.com" 1),
    .manager (.attach "desk@example.com" 2)]

def shutdownActions : List (Action Unit) :=
  [.manager (.attach "desk@example.com" 3), .disconnectEnds true fun _ => .suspended,
    .disconnectEnds false fun _ => .suspended]

def busyServer : Server Unit := (replay (step fun _ => plainEnv) start busyActions).getD start

def shuttingServer : Server Unit :=
  (step (fun _ => plainEnv) busyServer (.shutdown fun _ => .suspended)).getD start

def shutServer : Server Unit :=
  (replay (step fun _ => plainEnv) shuttingServer shutdownActions).getD start

def labAccount : Account Unit := shutServer.manager.accounts 1

theorem lab_account_closes : labAccount.closing = true ∧ LoopOver labAccount ∧
    ∀ jid, shutServer.manager.registry jid ≠ some 1 :=
  shutdown_closes (fun _ => plainEnv) busyActions shutdownActions (fun _ => .suspended) busyServer
    shuttingServer shutServer rfl rfl rfl rfl 1 (by decide)

/-- After `shutdown` has closed an account, `connect()` is called only by tabs that wait for the
lock when they are given it, and each of them, in the order in which they wait, calls it at most
once. -/
theorem few_attempts_left (env : String → Env Frame) (later rest : List (Action Frame))
    (outcome : Nat → DisconnectOutcome) (server begun current final : Server Frame)
    (begins : step env server (.shutdown outcome) = some begun)
    (goesOn : replay (step env) begun later = some current)
    (more : replay (step env) current rest = some final)
    (index : Nat) (old : index < server.manager.count)
    (closed : (current.manager.accounts index).closing = true) :
    (final.manager.accounts index).client.calls.length =
        (current.manager.accounts index).client.calls.length +
          (collect (step env) (callersOf index) current rest).length ∧
      (collect (step env) (callersOf index) current rest).Sublist
        (current.manager.accounts index).lockWaiters := by
  have emptied : Begun server.manager.count begun.manager := by
    obtain ⟨_, done⟩ := Option.ite_none_right_eq_some.mp begins
    cases done
    exact begun_clear outcome server.manager (values server.manager)
  have still := run_invariant_unconditional
    (fun later : Server Frame => Begun server.manager.count later.manager)
    (fun _ _ _ holds fired => begun_step holds fired) emptied goesOn
  have waned := @collect_invariant _ _ _ (step env) (callersOf index)
    (fun later called => Begun server.manager.count later.manager ∧
      Wanes called (current.manager.accounts index) (later.manager.accounts index))
    (fun _ _ _ _ holds fired =>
      ⟨begun_step holds.1 fired, holds.2.trans (wanes_step holds.1 old fired)⟩)
    current final rest [] ⟨still, wanes_refl _⟩ more
  rw [List.nil_append] at waned
  obtain ⟨_, spends⟩ := waned.2 closed
  exact ⟨spends.calls, (List.sublist_append_left _ _).trans spends.waiters⟩

/-- The attempt of the first tab fails; the tab that waited makes the last one. -/
def lastActions : List (Action Unit) :=
  [.manager (.account 0 (.connectRaises 0 () [0, 2])), .manager (.account 0 (.reported 0 true)),
    .manager (.account 0 (.reported 0 false)), .manager (.account 0 (.lockGranted 2))]

def lastServer : Server Unit := (replay (step fun _ => plainEnv) shutServer lastActions).getD start

theorem waiting_tab_makes_the_last :
    (lastServer.manager.accounts 0).client.calls.length =
        (shutServer.manager.accounts 0).client.calls.length + [2].length ∧
      [2].Sublist (shutServer.manager.accounts 0).lockWaiters :=
  few_attempts_left (fun _ => plainEnv) shutdownActions lastActions (fun _ => .suspended) busyServer
    shuttingServer shutServer lastServer rfl rfl rfl 0 (by decide) rfl

end Runs

end PyConduit.Shutdown
