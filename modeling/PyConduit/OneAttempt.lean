import PyConduit.Lifecycle

/-!
# One connection attempt at a time

`ensure_connected` and `_reconnect_loop` exclude themselves: the first by the
lock, the second because `_schedule_reconnect` starts a loop only when none is
unfinished. They do not exclude each other. A tab that attaches during a
backoff connects beside the loop, and the loop connects once more when it wakes.
-/

namespace PyConduit.OneAttempt

open Lifecycle Lifecycle.Account GuardedRun

set_option autoImplicit false

variable {Frame : Type}

/-- Between the acquisition and the release of `_connect_lock`, as far as the
handler suspends there. -/
def HoldsLock : Handler Frame → Prop
  | .connecting => True
  | .reporting _ _ => True
  | _ => False

def handlerConnects : Handler Frame → Nat
  | .connecting => 1
  | _ => 0

def taskConnects : ReconnectTask → Nat
  | .connecting _ => 1
  | _ => 0

/-- The calls of `connect()` under way inside `ensure_connected`. -/
def ensureConnects (account : Account Frame) : Nat :=
  match account.lockHolder with
  | some tab => handlerConnects (account.handlers tab)
  | none => 0

/-- The bookkeeping of the calls, given how many of them `ensure_connected` has
under way. The loop sleeps only over a client that is not connected. -/
structure Attempts (client : Client) (task : ReconnectTask) (ensure : Nat) : Prop where
  inFlight : client.inFlight = ensure + taskConnects task
  exclusive : task ≠ .finished → ensure = 0
  asleep : ∀ delay, task = .sleeping delay → client.connected = false
  calls : ∀ call ∈ client.calls, call = ⟨false, 0⟩

structure Exclusive (account : Account Frame) : Prop where
  locked : ∀ tab, HoldsLock (account.handlers tab) → account.lockHolder = some tab
  attempts : Attempts account.client account.reconnectTask (ensureConnects account)

theorem fresh_exclusive : Exclusive (fresh : Account Frame) :=
  ⟨fun _ inside => inside.elim,
    ⟨rfl, fun _ => rfl, fun _ same => (by cases same), by simp [fresh]⟩⟩

theorem connects_zero {handler : Handler Frame} (outside : ¬ HoldsLock handler) :
    handlerConnects handler = 0 := by
  cases handler <;> first | rfl | exact (outside trivial).elim

/-- The changes that touch neither the lock, nor the client, nor the loop. -/
structure Quiet (before after : Account Frame) : Prop where
  holder : after.lockHolder = before.lockHolder
  client : after.client = before.client
  task : after.reconnectTask = before.reconnectTask
  handlers : ∀ tab, HoldsLock (before.handlers tab) ∨ HoldsLock (after.handlers tab) →
    after.handlers tab = before.handlers tab

theorem Quiet.ensureConnects {before after : Account Frame} (quiet : Quiet before after) :
    ensureConnects after = OneAttempt.ensureConnects before := by
  unfold OneAttempt.ensureConnects
  rw [quiet.holder]
  cases before.lockHolder with
  | none => rfl
  | some tab =>
      by_cases inside : HoldsLock (before.handlers tab) ∨ HoldsLock (after.handlers tab)
      · simp only [quiet.handlers tab inside]
      · simp only [connects_zero (fun held => inside (.inl held)),
          connects_zero (fun held => inside (.inr held))]

theorem Quiet.exclusive {before after : Account Frame} (quiet : Quiet before after)
    (exclusive : Exclusive before) : Exclusive after := by
  constructor
  · intro tab inside
    rw [quiet.holder]
    rw [quiet.handlers tab (.inr inside)] at inside
    exact exclusive.locked tab inside
  · rw [quiet.client, quiet.task, quiet.ensureConnects]
    exact exclusive.attempts

theorem Quiet.refl (account : Account Frame) : Quiet account account :=
  ⟨rfl, rfl, rfl, fun _ _ => rfl⟩

theorem Quiet.trans {first second third : Account Frame} (left : Quiet first second)
    (right : Quiet second third) : Quiet first third := by
  refine ⟨right.holder.trans left.holder, right.client.trans left.client,
    right.task.trans left.task, fun tab inside => ?_⟩
  rcases inside with before | after
  · have same := left.handlers tab (.inl before)
    exact (right.handlers tab (.inl (same ▸ before))).trans same
  · have same := right.handlers tab (.inr after)
    exact same.trans (left.handlers tab (.inr (same ▸ after)))

theorem quiet_send (account : Account Frame) (tab : Tab) (frame : Frame) :
    Quiet account (account.send tab frame) :=
  { Quiet.refl account with }

theorem quiet_sendEnded (account : Account Frame) (tab : Tab) (delivered : Bool) :
    Quiet account (account.sendEnded tab delivered) := by
  cases delivered <;> exact { Quiet.refl account with }

theorem quiet_setHandler (account : Account Frame) (tab : Tab) (handler : Handler Frame)
    (before : ¬ HoldsLock (account.handlers tab)) (after : ¬ HoldsLock handler) :
    Quiet account (account.setHandler tab handler) := by
  refine { Quiet.refl account with handlers := fun other inside => ?_ }
  by_cases same : other = tab
  · subst other
    simp only [setHandler, Function.update_self] at inside
    exact (inside.elim before after).elim
  · simp [setHandler, same]

theorem quiet_broadcast (account : Account Frame) (tab : Tab) (frame : Frame)
    (outside : ¬ HoldsLock (account.handlers tab)) (order : List Tab) :
    Quiet account (account.broadcast tab frame order) := by
  cases order with
  | nil => exact quiet_setHandler account tab .pumping outside (fun inside => inside)
  | cons next rest =>
      exact (quiet_setHandler account tab (.broadcasting frame (next :: rest)) outside
        (fun inside => inside)).trans (quiet_send _ next frame)

theorem quiet_detach (account : Account Frame) (tab : Tab)
    (outside : ¬ HoldsLock (account.handlers tab)) : Quiet account (account.detach tab) := by
  have left : Quiet account ((account.discard tab).setHandler tab .ended) :=
    (quiet_sendEnded account tab false).trans
      (quiet_setHandler _ tab .ended outside (fun inside => inside))
  simp only [Account.detach]
  split
  · exact left.trans { Quiet.refl _ with }
  · exact left

section Schedule

variable {account : Account Frame}

theorem schedule_lockHolder : account.scheduleReconnect.lockHolder = account.lockHolder := by
  unfold scheduleReconnect
  split_ifs <;> rfl

theorem schedule_handlers : account.scheduleReconnect.handlers = account.handlers := by
  unfold scheduleReconnect
  split_ifs <;> rfl

theorem schedule_attempts {ensure : Nat}
    (attempts : Attempts account.client account.reconnectTask ensure)
    (free : account.reconnectTask = .finished → ensure = 0) :
    Attempts account.scheduleReconnect.client account.scheduleReconnect.reconnectTask ensure := by
  unfold scheduleReconnect
  split_ifs with unfinished
  · exact attempts
  · exact attempts
  · have finished : account.reconnectTask = .finished := by simpa using unfinished
    exact ⟨by simpa [finished, taskConnects] using attempts.inFlight, fun _ => free finished,
      fun _ same => by simp at same, attempts.calls⟩

theorem schedule_exclusive (exclusive : Exclusive account)
    (free : account.reconnectTask = .finished → ensureConnects account = 0) :
    Exclusive account.scheduleReconnect := by
  constructor
  · intro tab inside
    rw [schedule_lockHolder]
    rw [schedule_handlers] at inside
    exact exclusive.locked tab inside
  · have same : ensureConnects account.scheduleReconnect = ensureConnects account := by
      simp only [ensureConnects, schedule_lockHolder, schedule_handlers]
    rw [same]
    exact schedule_attempts exclusive.attempts free

end Schedule

section LockHolder

variable {env : Env Frame} {account : Account Frame} {tab : Tab}

theorem snapshot_exclusive
    (only : ∀ other, HoldsLock (account.handlers other) → other = tab)
    (attempts : Attempts account.client account.reconnectTask 0) :
    Exclusive (sendSnapshot env account.releaseLock tab) := by
  refine ⟨fun other inside => ?_, attempts⟩
  by_cases same : other = tab
  · subst other
    simp [sendSnapshot, setHandler, Account.send, HoldsLock] at inside
  · simp only [sendSnapshot, setHandler, Account.send, releaseLock,
      Function.update_of_ne same] at inside
    exact (same (only other inside)).elim

theorem underLock_exclusive (holder : account.lockHolder = some tab)
    (nobody : ∀ other, ¬ HoldsLock (account.handlers other))
    (attempts : Attempts account.client account.reconnectTask 0)
    (alone : account.client.connected = false → account.reconnectTask = .finished) :
    Exclusive (underLock env account tab) := by
  unfold underLock
  split_ifs with connected
  · exact snapshot_exclusive (fun other inside => (nobody other inside).elim) attempts
  · have down : account.client.connected = false := by simpa using connected
    have finished := alone down
    have idle : account.client.inFlight = 0 := by
      simpa [finished, taskConnects] using attempts.inFlight
    constructor
    · intro other inside
      by_cases same : other = tab
      · rw [same]
        exact holder
      · simp only [setHandler, Account.connect, Function.update_of_ne same] at inside
        exact (nobody other inside).elim
    · have one : ensureConnects (account.connect.setHandler tab .connecting) = 1 := by
        simp [ensureConnects, setHandler, Account.connect, holder, handlerConnects]
      rw [one]
      refine ⟨?_, fun unfinished => (unfinished finished).elim,
        fun delay asleep => attempts.asleep delay asleep, ?_⟩
      · simp [setHandler, Account.connect, Client.connect, idle, finished, taskConnects]
      · intro call member
        rcases List.mem_append.mp member with earlier | new
        · exact attempts.calls call earlier
        · rw [List.mem_singleton.mp new, down, idle]

theorem report_exclusive (holder : account.lockHolder = some tab)
    (only : ∀ other, HoldsLock (account.handlers other) → other = tab)
    (attempts : Attempts account.client account.reconnectTask 0) (frame : Frame)
    (order : List Tab) : Exclusive (report env account tab frame order) := by
  cases order with
  | nil =>
      refine snapshot_exclusive (fun other inside => only other ?_)
        (schedule_attempts attempts fun _ => rfl)
      rwa [schedule_handlers] at inside
  | cons next rest =>
      constructor
      · intro other inside
        by_cases same : other = tab
        · rw [same]
          exact holder
        · simp only [report, setHandler, Account.send, Function.update_of_ne same] at inside
          exact (same (only other inside)).elim
      · have zero : ensureConnects (report env account tab frame (next :: rest)) = 0 := by
          simp [ensureConnects, report, setHandler, Account.send, holder, handlerConnects]
        rw [zero]
        exact attempts

/-- When the handler that holds the lock leaves `connect()`, none is under way
inside `ensure_connected` any more. -/
theorem connectEnds_attempts (exclusive : Exclusive account)
    (connecting : account.handlers tab = .connecting) :
    account.lockHolder = some tab ∧
      (∀ other, HoldsLock (account.handlers other) → other = tab) ∧
      Attempts account.client.connectEnds account.reconnectTask 0 := by
  have holder := exclusive.locked tab (by rw [connecting]; trivial)
  have one : ensureConnects account = 1 := by
    simp [ensureConnects, holder, connecting, handlerConnects]
  have attempts := exclusive.attempts
  rw [one] at attempts
  refine ⟨holder, fun other inside => ?_, ?_⟩
  · exact Option.some.inj ((exclusive.locked other inside).symm.trans holder)
  · refine ⟨?_, fun _ => rfl, attempts.asleep, attempts.calls⟩
    have counted := attempts.inFlight
    simp only [Client.connectEnds]
    omega

theorem reporting_attempts (exclusive : Exclusive account) {frame : Frame} {rest : List Tab}
    (reporting : account.handlers tab = .reporting frame rest) :
    account.lockHolder = some tab ∧
      (∀ other, HoldsLock (account.handlers other) → other = tab) ∧
      Attempts account.client account.reconnectTask 0 := by
  have holder := exclusive.locked tab (by rw [reporting]; trivial)
  have zero : ensureConnects account = 0 := by
    simp [ensureConnects, holder, reporting, handlerConnects]
  refine ⟨holder, fun other inside => ?_, zero ▸ exclusive.attempts⟩
  exact Option.some.inj ((exclusive.locked other inside).symm.trans holder)

theorem free_attempts (exclusive : Exclusive account) (free : account.lockHolder = none) :
    (∀ other, ¬ HoldsLock (account.handlers other)) ∧
      Attempts account.client account.reconnectTask 0 := by
  have zero : ensureConnects account = 0 := by simp [ensureConnects, free]
  refine ⟨fun other inside => ?_, zero ▸ exclusive.attempts⟩
  have held := exclusive.locked other inside
  rw [free] at held
  cases held

end LockHolder

/-- The loop's side of the bookkeeping: its task and the client change, the
handlers and the lock do not. -/
theorem loop_exclusive {before after : Account Frame} (exclusive : Exclusive before)
    (holder : after.lockHolder = before.lockHolder)
    (handlers : after.handlers = before.handlers)
    (attempts : Attempts after.client after.reconnectTask (ensureConnects before)) :
    Exclusive after := by
  constructor
  · intro tab inside
    rw [holder]
    rw [handlers] at inside
    exact exclusive.locked tab inside
  · have same : ensureConnects after = ensureConnects before := by
      simp only [ensureConnects, holder, handlers]
    rw [same]
    exact attempts

/-- While the loop is at work and not connecting, nobody is. -/
theorem loop_idle {account : Account Frame} (exclusive : Exclusive account)
    (unfinished : account.reconnectTask ≠ .finished)
    (waiting : taskConnects account.reconnectTask = 0) :
    ensureConnects account = 0 ∧ account.client.inFlight = 0 := by
  have zero := exclusive.attempts.exclusive unfinished
  have counted := exclusive.attempts.inFlight
  constructor
  · exact zero
  · omega

/-- A task that ends takes its own call of `connect()` with it. -/
theorem loop_ends {account after : Account Frame} (exclusive : Exclusive account)
    (unfinished : account.reconnectTask ≠ .finished)
    (holder : after.lockHolder = account.lockHolder)
    (handlers : after.handlers = account.handlers)
    (finished : after.reconnectTask = .finished)
    (inFlight :
      after.client.inFlight = account.client.inFlight - taskConnects account.reconnectTask)
    (calls : after.client.calls = account.client.calls) : Exclusive after := by
  have zero := exclusive.attempts.exclusive unfinished
  have counted := exclusive.attempts.inFlight
  apply loop_exclusive exclusive holder handlers
  rw [finished]
  constructor
  · have own : taskConnects .finished = 0 := rfl
    omega
  · intro _
    exact zero
  · intro delay asleep
    cases asleep
  · rw [calls]
    exact exclusive.attempts.calls

theorem reconnectLoop_exclusive {account : Account Frame} (delay : Rat)
    (locked : ∀ tab, HoldsLock (account.handlers tab) → account.lockHolder = some tab)
    (idle : account.client.inFlight = 0) (zero : ensureConnects account = 0)
    (calls : ∀ call ∈ account.client.calls, call = ⟨false, 0⟩) :
    Exclusive (account.reconnectLoop delay) := by
  unfold reconnectLoop
  split_ifs with goesOn
  · exact ⟨locked, ⟨idle.trans zero.symm, fun _ => zero, fun _ _ => goesOn.2.2, calls⟩⟩
  · exact ⟨locked, ⟨idle.trans zero.symm, fun _ => zero, fun _ same => (by cases same), calls⟩⟩

def entersLock (account : Account Frame) : Action Frame → Bool
  | .attach _ => account.lockHolder = none ∧ account.lockWaiters = []
  | .lockGranted _ => true
  | _ => false

def endsDisconnected (account : Account Frame) : Action Frame → Bool
  | .eventSent index _ =>
      match account.events[index]? with
      | some ⟨_, [_], .scheduleReconnect⟩ => true
      | _ => false
  | _ => false

def raisesConnected : Action Frame → Bool
  | .clientUp => true
  | _ => false

/-- No tab finds the client down inside `ensure_connected` while a reconnect
task is unfinished, no Disconnected event starts such a task during a
`connect()`, and the client comes up only during one. -/
abbrev Undisturbed (account : Account Frame) (action : Action Frame) : Prop :=
  (entersLock account action = true → account.client.connected = false →
    account.reconnectTask = .finished) ∧
  (endsDisconnected account action = true → account.reconnectTask = .finished →
    account.client.inFlight = 0) ∧
  (raisesConnected action = true → 0 < account.client.inFlight)

theorem exclusive_finishEvent {account : Account Frame} (afterwards : Afterwards)
    (exclusive : Exclusive account)
    (free : afterwards = .scheduleReconnect → account.reconnectTask = .finished →
      ensureConnects account = 0) :
    Exclusive (account.finishEvent afterwards) := by
  cases afterwards with
  | nothing => exact exclusive
  | scheduleReconnect => exact schedule_exclusive exclusive (free rfl)

theorem exclusive_startEvent {account : Account Frame} (frame : Frame)
    (afterwards : Afterwards) (exclusive : Exclusive account) {order : List Tab}
    (enumerated : order.Perm account.subscribers) :
    Exclusive (account.startEvent frame afterwards order) := by
  cases order with
  | nil =>
      have empty : account.subscribers = [] := enumerated.nil_eq.symm
      cases afterwards with
      | nothing => exact exclusive
      | scheduleReconnect =>
          have same : account.scheduleReconnect = account := by
            simp [scheduleReconnect, empty]
          simpa [Account.startEvent, finishEvent, same] using exclusive
  | cons next rest =>
      exact Quiet.exclusive { quiet_send account next frame with } exclusive

theorem exclusive_close {account : Account Frame} (outcome : DisconnectOutcome)
    (exclusive : Exclusive account) : Exclusive (account.close outcome) := by
  have attempts := exclusive.attempts
  cases outcome with
  | returned =>
      exact ⟨exclusive.locked,
        ⟨attempts.inFlight, attempts.exclusive, fun _ _ => rfl, attempts.calls⟩⟩
  | raised => exact ⟨exclusive.locked, attempts⟩
  | suspended => exact ⟨exclusive.locked, attempts⟩

theorem exclusive_step {env : Env Frame} {account next : Account Frame} {action : Action Frame}
    (undisturbed : Undisturbed account action) (exclusive : Exclusive account)
    (fired : step env account action = some next) : Exclusive next := by
  obtain ⟨enters, ends, raises⟩ := undisturbed
  have attempts := exclusive.attempts
  have locked := exclusive.locked
  have dropped : ∀ tab delivered, Exclusive (account.sendEnded tab delivered) :=
    fun tab delivered => (quiet_sendEnded account tab delivered).exclusive exclusive
  cases fires_of_step fired with
  | @attach tab absent =>
      unfold attach ensureConnected
      split_ifs with free
      · obtain ⟨nobody, zero⟩ := free_attempts exclusive free.1
        have entered : entersLock account (.attach tab : Action Frame) = true := by
          simpa [entersLock, cancelIdle] using free
        exact underLock_exclusive rfl nobody zero (enters entered)
      · have outside : ¬ HoldsLock (account.handlers tab) := by simp [absent, HoldsLock]
        have quiet := quiet_setHandler account tab .waitLock outside (fun inside => inside)
        exact Quiet.exclusive { quiet with } exclusive
  | lockGranted waiting first free =>
      obtain ⟨nobody, zero⟩ := free_attempts exclusive free
      exact underLock_exclusive rfl nobody zero (enters rfl)
  | connectReturns connecting =>
      obtain ⟨_, only, zero⟩ := connectEnds_attempts exclusive connecting
      exact snapshot_exclusive only zero
  | connectRaises connecting =>
      obtain ⟨holder, only, zero⟩ := connectEnds_attempts exclusive connecting
      refine report_exclusive ?_ ?_ ?_ _ _
      · exact holder
      · exact only
      · exact zero
  | @reported tab current delivered frame rest reporting =>
      have same : (account.sendEnded current delivered).handlers tab =
          .reporting frame (current :: rest) := by
        cases delivered <;> exact reporting
      obtain ⟨holder, only, zero⟩ := reporting_attempts (dropped current delivered) same
      exact report_exclusive holder only zero frame rest
  | snapshotSend => exact (quiet_send account _ _).exclusive exclusive
  | snapshotEnds inside =>
      exact (quiet_setHandler account _ .pumping (by simp [inside, HoldsLock])
        (fun held => held)).exclusive exclusive
  | snapshotRaises inside =>
      exact (quiet_setHandler account _ .ended (by simp [inside, HoldsLock])
        (fun held => held)).exclusive exclusive
  | reply => exact (quiet_send account _ _).exclusive exclusive
  | broadcast pumping =>
      exact (quiet_broadcast account _ _ (by simp [pumping, HoldsLock]) _).exclusive exclusive
  | @broadcastSent tab current delivered frame rest sending =>
      have outside : ¬ HoldsLock ((account.sendEnded current delivered).handlers tab) := by
        cases delivered <;> simp [sendEnded, Account.discard, sending, HoldsLock]
      exact (quiet_broadcast _ tab frame outside rest).exclusive (dropped current delivered)
  | detach pumping =>
      exact (quiet_detach account _ (by simp [pumping, HoldsLock])).exclusive exclusive
  | idleExpires =>
      unfold idleCountdown
      split_ifs
      · exact exclusive_close _ exclusive
      · exact ⟨locked, attempts⟩
  | closerCancelled => exact ⟨locked, attempts⟩
  | reconnectStarts created =>
      obtain ⟨zero, idle⟩ := loop_idle exclusive (by simp [created]) (by rw [created]; rfl)
      exact reconnectLoop_exclusive _ locked idle zero attempts.calls
  | @reconnectWakes delay sleeping =>
      have unfinished : account.reconnectTask ≠ .finished := by simp [sleeping]
      obtain ⟨zero, idle⟩ := loop_idle exclusive unfinished (by rw [sleeping]; rfl)
      unfold Account.reconnectWakes
      split_ifs
      · apply loop_ends exclusive unfinished
        all_goals first | rfl | (rw [sleeping]; rfl)
      · refine ⟨locked, ⟨?_, fun _ => zero, fun _ same => (by cases same), ?_⟩⟩
        · change account.client.inFlight + 1 = ensureConnects account + 1
          omega
        · intro call member
          rcases List.mem_append.mp member with earlier | new
          · exact attempts.calls call earlier
          · rw [List.mem_singleton.mp new, attempts.asleep delay sleeping, idle]
  | @reconnectReturns delay connecting =>
      apply loop_ends exclusive (by simp [connecting])
      all_goals first | rfl | (rw [connecting]; rfl)
  | @reconnectRaises delay connecting =>
      have zero := attempts.exclusive (by simp [connecting])
      have one := attempts.inFlight
      rw [zero, connecting] at one
      have idle : account.connectEnds.client.inFlight = 0 := by
        change account.client.inFlight - 1 = 0
        rw [one]
        rfl
      exact reconnectLoop_exclusive _ locked idle zero attempts.calls
  | @reconnectCancelledConnecting delay connecting =>
      apply loop_ends exclusive (by simp [connecting])
      all_goals first | rfl | (rw [connecting]; rfl)
  | reconnectCancelled unfinished notConnecting =>
      apply loop_ends exclusive unfinished
      all_goals try rfl
      cases task : account.reconnectTask with
      | connecting delay => exact (notConnecting delay task).elim
      | _ => rfl
  | clientUp =>
      have busy := raises rfl
      refine ⟨locked, ⟨attempts.inFlight, attempts.exclusive, fun delay sleeping => ?_,
        attempts.calls⟩⟩
      have asleep : account.reconnectTask = .sleeping delay := sleeping
      obtain ⟨_, idle⟩ := loop_idle exclusive (by simp [asleep]) (by rw [asleep]; rfl)
      omega
  | drop => exact ⟨locked, ⟨attempts.inFlight, attempts.exclusive, fun _ _ => rfl, attempts.calls⟩⟩
  | event enumerated => exact exclusive_startEvent _ .nothing exclusive enumerated
  | disconnected enumerated =>
      refine exclusive_startEvent _ .scheduleReconnect ?_ enumerated
      exact ⟨locked, attempts⟩
  | @eventSent index delivered frame current rest afterwards sending =>
      cases rest with
      | cons next rest =>
          have sent := quiet_send (account.sendEnded current delivered) next frame
          exact Quiet.exclusive { sent with } (dropped current delivered)
      | nil =>
          apply exclusive_finishEvent afterwards
          · have kept := Quiet.refl (account.sendEnded current delivered)
            exact Quiet.exclusive { kept with } (dropped current delivered)
          · rintro rfl finished
            have task : account.reconnectTask = .finished := by
              cases delivered <;> exact finished
            have idle := ends (by simp [endsDisconnected, sending]) task
            have counted := attempts.inFlight
            have same := (quiet_sendEnded account current delivered).ensureConnects
            have none : ensureConnects account = 0 := by omega
            exact same.trans none

/-- Each call of `connect()` finds the client down and no other call under way. -/
theorem one_connection_attempt_at_a_time (env : Env Frame) (actions : List (Action Frame))
    (account : Account Frame) (run : replay (step env) fresh actions = some account)
    (undisturbed : Conforms (step env) Undisturbed fresh actions) :
    ∀ call ∈ account.client.calls, call.connected = false ∧ call.inFlight = 0 := by
  have exclusive : Exclusive account :=
    run_invariant (fun _ _ _ permitted before fired => exclusive_step permitted before fired)
      fresh_exclusive undisturbed run
  intro call member
  rw [exclusive.attempts.calls call member]
  exact ⟨rfl, rfl⟩

def reconnectedRun : List (Action Unit) :=
  [.attach 0, .clientUp, .connectReturns 0, .snapshotEnds 0, .drop,
    .event () .scheduleReconnect [0], .eventSent 0 true, .reconnectStarts, .reconnectWakes]

theorem reconnected_run_attempts :
    ∃ account, replay (step plainEnv) fresh reconnectedRun = some account ∧
      ∀ call ∈ account.client.calls, call.connected = false ∧ call.inFlight = 0 :=
  ⟨_, rfl, one_connection_attempt_at_a_time plainEnv reconnectedRun _ rfl (by decide)⟩

/-- The server is unreachable for the first tab and a second tab attaches while
the loop sleeps. -/
def tabDuringBackoff : List (Action Unit) :=
  [.attach 0, .connectRaises 0 () [0], .reported 0 true, .snapshotEnds 0, .reconnectStarts,
    .attach 1]

/-- The loop wakes during the second tab's `connect()`, or after it: it calls
`connect()` beside another call in the first case and on a connected client in
the second. -/
theorem attempts_overlap_after_a_tab_during_backoff :
    (∃ account, replay (step plainEnv) fresh (tabDuringBackoff ++ [.reconnectWakes]) =
        some account ∧ ⟨false, 1⟩ ∈ account.client.calls) ∧
      ∃ account, replay (step plainEnv) fresh
        (tabDuringBackoff ++ [.clientUp, .connectReturns 1, .reconnectWakes]) = some account ∧
        ⟨true, 0⟩ ∈ account.client.calls :=
  ⟨⟨_, rfl, by decide⟩, ⟨_, rfl, by decide⟩⟩

end PyConduit.OneAttempt
