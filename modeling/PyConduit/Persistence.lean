import PyConduit.Backoff
import PyConduit.ConnectLock
import PyConduit.Reconnection

/-!
# An account does not give up

While an account has a tab and no connection, it goes on calling `connect()`: whoever finds
the connection lost or fails to make one leaves a reconnect loop behind, and the loop calls
`connect()` after each wait. The client reports each loss of the connection once, and its
`connect()` returns only while it is connected.
-/

namespace PyConduit.Persistence

open Lifecycle Lifecycle.Account GuardedRun Endless
open ConnectLock (view Resumes Pending)
open Reconnection (Guarded Settled schedule_settles)

set_option autoImplicit false

variable {Frame : Type}

def Honest (account : Account Frame) : Action Frame → Prop
  | .connectReturns _ => account.client.connected = true
  | .reconnectReturns => account.client.connected = true
  | .event _ .scheduleReconnect _ => 0 < account.pendingDrops
  | _ => True

instance (account : Account Frame) (action : Action Frame) : Decidable (Honest account action) := by
  unfold Honest
  split <;> infer_instance

def honestStep (env : Env Frame) (account : Account Frame) (action : Action Frame) :
    Option (Account Frame) :=
  if Honest account action then step env account action else none

structure Down (account : Account Frame) : Prop where
  tabs : account.subscribers ≠ []
  running : account.closing = false
  down : account.client.connected = false

def Loop : Action Frame → Prop
  | .reconnectStarts => True
  | .reconnectWakes => True
  | .reconnectReturns => True
  | .reconnectRaises => True
  | .reconnectCancelled => True
  | _ => False

/-- The delivery of a Disconnected event, or the end of a send of its handler. -/
def Disconnection (account : Account Frame) : Action Frame → Prop
  | .event _ .scheduleReconnect _ => True
  | .eventSent index _ =>
      (account.events[index]?).map (fun task => task.afterwards) = some .scheduleReconnect
  | _ => False

structure Waits (account : Account Frame) : Prop where
  guarded : Guarded account
  lock : ConnectLock.Sound (view account)
  sending : ∀ task ∈ account.events, task.rest ≠ []
  down : Down account

section Loops

variable {env : Env Frame} {account next : Account Frame} {action : Action Frame}

theorem honest_fired (fired : honestStep env account action = some next) :
    Honest account action ∧ step env account action = some next :=
  Option.ite_none_right_eq_some.mp fired

theorem Down.unsettled (down : Down account) (settled : Settled account) :
    account.reconnectTask ≠ .finished := by
  rcases settled with closing | empty | connected | unfinished
  · rw [down.running] at closing
    cases closing
  · exact absurd empty down.tabs
  · rw [down.down] at connected
    cases connected
  · exact unfinished

theorem Waits.running (waits : Waits account) : account.reconnectCancelled = false := by
  cases cancelled : account.reconnectCancelled with
  | false => rfl
  | true =>
      have closing := waits.guarded.cancelled cancelled
      rw [waits.down.running] at closing
      cases closing

inductive LoopMove (account : Account Frame) : Action Frame → Account Frame → Prop
  | kept {action : Action Frame} {next : Account Frame} (other : ¬Loop action)
      (same : next.reconnectTask = account.reconnectTask) : LoopMove account action next
  | sleeps {action : Action Frame} {next : Account Frame} {delay : Rat}
      (awake : ∀ delay, account.reconnectTask ≠ .sleeping delay)
      (asleep : next.reconnectTask = .sleeping delay) : LoopMove account action next
  | calls {action : Action Frame} {next : Account Frame} {delay : Rat}
      (asleep : account.reconnectTask = .sleeping delay)
      (calling : next.reconnectTask = .connecting delay)
      (call : account.client.calls.length < next.client.calls.length) :
      LoopMove account action next

theorem loop_move (waits : Waits account) (honest : Honest account action)
    (running : account.reconnectTask ≠ .finished)
    (fired : step env account action = some next) : LoopMove account action next := by
  have goesOn : account.closing = false ∧ account.subscribers ≠ [] ∧
      account.client.connected = false := ⟨waits.down.running, waits.down.tabs, waits.down.down⟩
  have cancelled : ∀ {flag : Prop}, account.reconnectCancelled = true → flag := by
    intro flag set
    rw [waits.running] at set
    cases set
  have connected : ∀ {flag : Prop}, account.client.connected = true → flag := by
    intro flag up
    rw [waits.down.down] at up
    cases up
  cases fires_of_step fired with
  | reconnectStarts created =>
      apply LoopMove.sleeps
      · simp [created]
      · rw [reconnectLoop, if_pos goesOn]
  | @reconnectRaises delay connecting =>
      have ended : account.connectEnds.closing = false ∧ account.connectEnds.subscribers ≠ [] ∧
          account.connectEnds.client.connected = false := goesOn
      apply LoopMove.sleeps
      · simp [connecting]
      · rw [reconnectLoop, if_pos ended]
  | reconnectWakes asleep =>
      have stays : ¬(account.closing = true ∨ account.subscribers = []) := by
        simp [waits.down.running, waits.down.tabs]
      apply LoopMove.calls asleep
      · rw [Account.reconnectWakes, if_neg stays]
      · rw [Account.reconnectWakes, if_neg stays]
        simp [Account.connect, Client.connect]
  | reconnectReturns => exact connected honest
  | reconnectCancelledConnecting _ flag => exact cancelled flag
  | reconnectCancelled _ _ flag => exact cancelled flag
  | connectRaises =>
      exact .kept (by simp [Loop]) (@Backoff.task_report Frame env account.connectEnds _ _ running _)
  | reported =>
      apply LoopMove.kept (by simp [Loop])
      rw [Backoff.task_report env _ _ (by rw [Backoff.task_send_ended]; exact running),
        Backoff.task_send_ended]
  | event => exact .kept (by simp [Loop]) (Backoff.task_start_event _ running _ _)
  | disconnected =>
      exact .kept (by simp [Loop]) (@Backoff.task_start_event Frame { account with
        pendingDrops := account.pendingDrops - 1 } _ running _ _)
  | eventSent =>
      apply LoopMove.kept (by simp [Loop])
      rw [Backoff.task_continue_event _ (by rw [Backoff.task_send_ended]; exact running),
        Backoff.task_send_ended]
  | _ => exact .kept (by simp [Loop]) (by simp [releaseLock, Lifecycle.Account.connectEnds])

end Loops

section Calls

variable {env : Env Frame}

theorem waits_move (execution : Execution (honestStep env))
    (waits : ∀ time, Waits (execution.states time)) {time : Nat}
    (running : (execution.states time).reconnectTask ≠ .finished) :
    LoopMove (execution.states time) (execution.actions time) (execution.states (time + 1)) := by
  obtain ⟨honest, fired⟩ := honest_fired (execution.steps time)
  exact loop_move (waits time) honest running fired

theorem loop_goes_on (execution : Execution (honestStep env))
    (waits : ∀ time, Waits (execution.states time)) {time later : Nat} (after : time ≤ later)
    (running : (execution.states time).reconnectTask ≠ .finished) :
    (execution.states later).reconnectTask ≠ .finished := by
  induction later, after using Nat.le_induction with
  | base => exact running
  | succ later after induction =>
      cases waits_move execution waits induction with
      | kept _ same =>
          rw [same]
          exact induction
      | sleeps _ asleep => simp [asleep]
      | calls _ calling _ => simp [calling]

def Asleep (account : Account Frame) : Prop := ∃ delay, account.reconnectTask = .sleeping delay

theorem loop_sleeps (execution : Execution (honestStep env))
    (waits : ∀ time, Waits (execution.states time))
    (running : ∀ time, (execution.states time).reconnectTask ≠ .finished)
    (fair : WeaklyFair execution fun _ => Loop) (time : Nat) :
    ∃ later, time ≤ later ∧ Asleep (execution.states later) := by
  have enabled : ∀ account : Account Frame,
      Waits account ∧ account.reconnectTask ≠ .finished → ¬Asleep account →
        Enabled (honestStep env) (fun _ => Loop) account := by
    rintro account ⟨waits, running⟩ awake
    have flag := waits.running
    cases task : account.reconnectTask with
    | finished => exact absurd task running
    | created => exact ⟨.reconnectStarts, trivial, by simp [honestStep, Honest, step, task, flag]⟩
    | sleeping delay => exact absurd ⟨delay, task⟩ awake
    | connecting delay =>
        exact ⟨.reconnectRaises, trivial, by simp [honestStep, Honest, step, task, flag]⟩
  obtain ⟨later, after, asleep⟩ := one_step_ends enabled
    (by
      rintro account action next ⟨waits, running⟩ _ awake fired loops
      obtain ⟨honest, fired⟩ := honest_fired fired
      cases loop_move waits honest running fired with
      | kept other => exact absurd loops other
      | sleeps _ asleep => exact not_not.mpr ⟨_, asleep⟩
      | calls asleep => exact absurd ⟨_, asleep⟩ awake)
    execution (fun time => ⟨waits time, running time⟩) fair time
  exact ⟨later, after, not_not.mp asleep⟩

theorem loop_wakes (execution : Execution (honestStep env))
    (waits : ∀ time, Waits (execution.states time))
    (running : ∀ time, (execution.states time).reconnectTask ≠ .finished)
    (fair : WeaklyFair execution fun _ => Loop) {time : Nat}
    (asleep : Asleep (execution.states time)) :
    ∃ attempt, time ≤ attempt ∧ (execution.states attempt).client.calls.length <
      (execution.states (attempt + 1)).client.calls.length := by
  have enabled : ∀ account : Account Frame,
      Waits account ∧ account.reconnectTask ≠ .finished → Asleep account →
        Enabled (honestStep env) (fun _ => Loop) account := by
    rintro account ⟨waits, _⟩ ⟨delay, task⟩
    have flag := waits.running
    exact ⟨.reconnectWakes, trivial, by simp [honestStep, Honest, step, task, flag]⟩
  obtain ⟨later, after, awake⟩ := one_step_ends enabled
    (by
      rintro account action next ⟨waits, running⟩ _ ⟨delay, asleep⟩ fired loops ⟨again, still⟩
      obtain ⟨honest, fired⟩ := honest_fired fired
      cases loop_move waits honest running fired with
      | kept other => exact absurd loops other
      | sleeps awake => exact absurd asleep (awake delay)
      | calls _ calling =>
          rw [calling] at still
          cases still)
    execution (fun time => ⟨waits time, running time⟩) fair time
  obtain ⟨last, beyond, _, ⟨delay, sleeps⟩, wakes⟩ := @ends_between
    (fun time => Asleep (execution.states time)) time later after asleep awake
  refine ⟨last, beyond, ?_⟩
  have move := waits_move execution waits (running last)
  cases move with
  | kept _ same => exact absurd ⟨delay, same.trans sleeps⟩ wakes
  | sleeps _ again => exact absurd ⟨_, again⟩ wakes
  | calls _ _ call => exact call

theorem loop_calls (execution : Execution (honestStep env))
    (waits : ∀ time, Waits (execution.states time))
    (fair : WeaklyFair execution fun _ => Loop) {time : Nat}
    (running : (execution.states time).reconnectTask ≠ .finished) :
    ∃ attempt, time ≤ attempt ∧ (execution.states attempt).client.calls.length <
      (execution.states (attempt + 1)).client.calls.length := by
  have goesOn : ∀ later, ((execution.after time).states later).reconnectTask ≠ .finished :=
    fun later => loop_goes_on execution waits (Nat.le_add_right time later) running
  have waitsOn : ∀ later, Waits ((execution.after time).states later) :=
    fun later => waits (time + later)
  obtain ⟨sleep, _, asleep⟩ := loop_sleeps (execution.after time) waitsOn goesOn (fair.after time) 0
  obtain ⟨attempt, _, call⟩ :=
    loop_wakes (execution.after time) waitsOn goesOn (fair.after time) asleep
  exact ⟨time + attempt, Nat.le_add_right time attempt, call⟩

end Calls

section Tabs

variable {env : Env Frame} {account next : Account Frame} {action : Action Frame} {tab : Tab}

theorem rescuing_pending (account : Account Frame) (tab : Tab) :
    Reconnection.Rescuing (account.handlers tab) ↔ Pending tab (view account) := by
  cases found : account.handlers tab
  all_goals simp [Pending, view, found, ConnectLock.stageOf, Reconnection.Rescuing]

theorem leaving_settles (down : Down account) (honest : Honest account action)
    (fired : step env account action = some next) (inside : Pending tab (view account))
    (leaves : ¬Pending tab (view next)) : Settled next := by
  have reported : ∀ (account : Account Frame) (other : Tab) (frame : Frame) (order : List Tab),
      other = tab → ¬Pending tab (view (report env account other frame order)) →
        Settled (report env account other frame order) := by
    rintro account other frame order rfl through
    cases order with
    | nil => exact schedule_settles account
    | cons next rest => exact absurd (by simp [Pending, view, report, setHandler,
        Lifecycle.Account.send, ConnectLock.stageOf]) through
  by_cases moved : Footprint.mover action = some tab
  · rw [← rescuing_pending] at inside
    cases fires_of_step fired with
    | lockGranted =>
        cases moved
        exact absurd (by simp [Pending, view, underLock, down.down, setHandler,
          ConnectLock.stageOf]) leaves
    | connectReturns =>
        have up : account.client.connected = true := honest
        rw [down.down] at up
        cases up
    | connectRaises =>
        cases moved
        exact reported _ _ _ _ rfl leaves
    | reported =>
        cases moved
        exact reported _ _ _ _ rfl leaves
    | attach elsewhere
    | snapshotEnds elsewhere
    | snapshotRaises elsewhere
    | broadcast elsewhere
    | broadcastSent elsewhere
    | detach elsewhere =>
        cases moved
        rw [elsewhere] at inside
        exact absurd inside id
    | _ => cases moved
  · have same : next.handlers tab = account.handlers tab :=
      (Footprint.footprint_of_step fired).handlers tab moved
    rw [← rescuing_pending, same, rescuing_pending] at leaves
    exact absurd inside leaves

def plain (execution : Execution (honestStep env)) : Execution (step env) where
  states := execution.states
  actions := execution.actions
  steps time := (honest_fired (execution.steps time)).2

/-- A handler inside `ensure_connected` that can go on can do so with an honest client: the
call of `connect()` may raise. -/
theorem resumes_honestly (able : Enabled (step env) (fun _ => Resumes tab) account) :
    Enabled (honestStep env) (fun _ => Resumes tab) account := by
  obtain ⟨action, resumes, fires⟩ := able
  have honestly : ∀ action : Action Frame, Resumes tab action → Honest account action →
      (step env account action).isSome → Enabled (honestStep env) (fun _ => Resumes tab) account :=
    fun action resumes honest fires => ⟨action, resumes, by rwa [honestStep, if_pos honest]⟩
  cases action with
  | connectReturns other =>
      have same : other = tab := by simpa [Resumes, ConnectLock.Works] using resumes
      subst same
      obtain ⟨next, fired⟩ := Option.isSome_iff_exists.mp fires
      cases fires_of_step fired with
      | connectReturns connecting =>
          apply honestly (.connectRaises other (env.ready other) account.subscribers) (.inr rfl) trivial
          simp [step, connecting]
  | lockGranted other
  | connectRaises other
  | reported other => exact honestly _ resumes trivial fires
  | _ => simp [Resumes, ConnectLock.Works] at resumes

theorem tab_schedules (execution : Execution (honestStep env))
    (waits : ∀ time, Waits (execution.states time))
    (fair : ∀ tab, WeaklyFair execution fun _ => Resumes tab) {time : Nat}
    (inside : Pending tab (view (execution.states time))) :
    ∃ later, time ≤ later ∧ (execution.states later).reconnectTask ≠ .finished := by
  have plainly : ∀ tab, WeaklyFair (plain execution) fun _ => Resumes tab := by
    intro tab since able
    exact fair tab since fun later after => resumes_honestly (able later after)
  obtain ⟨last, beyond, here, gone⟩ :=
    ConnectLock.pending_leaves (plain execution) (fun time => (waits time).lock) plainly inside
  obtain ⟨honest, fired⟩ := honest_fired (execution.steps last)
  have settled := leaving_settles (waits last).down honest fired here gone
  exact ⟨last + 1, by omega, (waits (last + 1)).down.unsettled settled⟩

end Tabs

/-! ### Losses that are not handled yet -/

section Books

variable (env : Env Frame) (account : Account Frame) (tab : Tab) (frame : Frame)

/-- The losses whose event is to come, and the handlers of events under way. -/
def books (account : Account Frame) : Nat × List (EventTask Frame) :=
  (account.pendingDrops, account.events)

theorem books_schedule : books account.scheduleReconnect = books account := by
  unfold scheduleReconnect
  split_ifs
  all_goals rfl

theorem books_send_ended (delivered : Bool) :
    books (account.sendEnded tab delivered) = books account := by
  cases delivered
  all_goals rfl

theorem books_under_lock : books (underLock env account tab) = books account := by
  unfold underLock
  split
  all_goals rfl

theorem books_attach : books (attach env account tab) = books account := by
  unfold attach ensureConnected
  split
  · exact books_under_lock env _ tab
  · rfl

theorem books_report (order : List Tab) :
    books (report env account tab frame order) = books account := by
  cases order with
  | nil => exact books_schedule account
  | cons next rest => rfl

theorem books_broadcast (order : List Tab) :
    books (account.broadcast tab frame order) = books account := by
  cases order with
  | nil => rfl
  | cons next rest => rfl

theorem books_detach : books (account.detach tab) = books account := by
  unfold detach
  dsimp only
  split
  all_goals rfl

theorem books_idle_countdown (outcome : DisconnectOutcome) :
    books (account.idleCountdown outcome) = books account := by
  unfold idleCountdown close
  split
  · cases outcome
    all_goals rfl
  · rfl

theorem books_finish_event (afterwards : Afterwards) :
    books (account.finishEvent afterwards) = books account := by
  cases afterwards with
  | nothing => rfl
  | scheduleReconnect => exact books_schedule account

theorem books_reconnect_loop (delay : Rat) :
    books (account.reconnectLoop delay) = books account := by
  unfold reconnectLoop
  split
  all_goals rfl

theorem books_reconnect_wakes (delay : Rat) :
    books (account.reconnectWakes delay) = books account := by
  unfold Account.reconnectWakes
  split
  all_goals rfl

end Books

section Duties

variable {env : Env Frame} {account next : Account Frame} {action : Action Frame}

inductive BooksMove (account : Account Frame) : Action Frame → Account Frame → Prop
  | kept {action : Action Frame} {next : Account Frame} (other : ¬Disconnection account action)
      (same : books next = books account) : BooksMove account action next
  | lost {next : Account Frame} (up : account.client.connected = true)
      (same : next.events = account.events) : BooksMove account .drop next
  | begins {frame : Frame} {afterwards : Afterwards} {order : List Tab} {next : Account Frame}
      {begun : List (EventTask Frame)}
      (own : ∀ task ∈ begun, task.rest ≠ [] ∧ task.afterwards = afterwards)
      (same : books next = (account.pendingDrops - (if afterwards = .scheduleReconnect then 1 else 0),
        account.events ++ begun)) : BooksMove account (.event frame afterwards order) next
  | sends {index : Nat} {delivered : Bool} {frame : Frame} {current other : Tab} {rest : List Tab}
      {afterwards : Afterwards} {next : Account Frame}
      (sending : account.events[index]? = some ⟨frame, current :: other :: rest, afterwards⟩)
      (same : books next = (account.pendingDrops,
        account.events.set index ⟨frame, other :: rest, afterwards⟩)) :
      BooksMove account (.eventSent index delivered) next
  | ends {index : Nat} {delivered : Bool} {frame : Frame} {current : Tab}
      {afterwards : Afterwards} {next : Account Frame}
      (sending : account.events[index]? = some ⟨frame, [current], afterwards⟩)
      (same : books next = (account.pendingDrops, account.events.eraseIdx index))
      (schedules : afterwards = .scheduleReconnect → Settled next) :
      BooksMove account (.eventSent index delivered) next

theorem books_move (fired : step env account action = some next) :
    BooksMove account action next := by
  have begins : ∀ (delivered : Account Frame) (frame : Frame) (afterwards : Afterwards)
      (order : List Tab), ∃ begun, (∀ task ∈ begun, task.rest ≠ [] ∧ task.afterwards = afterwards) ∧
        books (delivered.startEvent frame afterwards order) =
          (delivered.pendingDrops, delivered.events ++ begun) := by
    intro delivered frame afterwards order
    cases order with
    | nil =>
        refine ⟨[], by simp, ?_⟩
        rw [List.append_nil]
        exact books_finish_event delivered afterwards
    | cons next rest => exact ⟨[⟨frame, next :: rest, afterwards⟩], by simp, rfl⟩
  cases fires_of_step fired with
  | attach => exact .kept id (books_attach env account _)
  | lockGranted => exact .kept id (books_under_lock env _ _)
  | connectRaises => exact .kept id (books_report env account.connectEnds _ _ _)
  | reported =>
      exact .kept id ((books_report env _ _ _ _).trans (books_send_ended account _ _))
  | broadcast => exact .kept id (books_broadcast account _ _ _)
  | broadcastSent =>
      exact .kept id ((books_broadcast _ _ _ _).trans (books_send_ended account _ _))
  | detach => exact .kept id (books_detach account _)
  | idleExpires => exact .kept id (books_idle_countdown account _)
  | reconnectStarts => exact .kept id (books_reconnect_loop account _)
  | reconnectWakes => exact .kept id (books_reconnect_wakes account _)
  | reconnectRaises => exact .kept id (books_reconnect_loop account.connectEnds _)
  | drop connected => exact .lost connected rfl
  | event =>
      obtain ⟨begun, own, same⟩ := begins account _ .nothing _
      exact .begins own same
  | disconnected =>
      obtain ⟨begun, own, same⟩ := begins
        { account with pendingDrops := account.pendingDrops - 1 } _ .scheduleReconnect _
      exact .begins own same
  | @eventSent index delivered frame current rest afterwards sending =>
      have ended := books_send_ended account current delivered
      have drops : (account.sendEnded current delivered).pendingDrops = account.pendingDrops :=
        congrArg Prod.fst ended
      have events : (account.sendEnded current delivered).events = account.events :=
        congrArg Prod.snd ended
      cases rest with
      | nil =>
          apply BooksMove.ends sending
          · rw [continueEvent, books_finish_event, books, drops, events]
          · rintro rfl
            exact schedule_settles _
      | cons other rest =>
          apply BooksMove.sends sending
          simp [continueEvent, books, Lifecycle.Account.send, drops, events]
  | _ => exact .kept id rfl

theorem fresh_sending : ∀ task ∈ (fresh : Account Frame).events, task.rest ≠ [] := by
  simp [fresh]

theorem sending_step (sending : ∀ task ∈ account.events, task.rest ≠ [])
    (fired : step env account action = some next) : ∀ task ∈ next.events, task.rest ≠ [] := by
  cases books_move fired with
  | kept _ same =>
      have events : next.events = account.events := congrArg Prod.snd same
      rwa [events]
  | lost _ same => rwa [same]
  | begins own same =>
      have events := congrArg Prod.snd same
      change next.events = _ at events
      rw [events]
      intro task member
      rcases List.mem_append.mp member with before | begun
      · exact sending task before
      · exact (own task begun).1
  | sends _ same =>
      have events := congrArg Prod.snd same
      change next.events = _ at events
      rw [events]
      intro task member
      rcases List.mem_or_eq_of_mem_set member with before | rfl
      · exact sending task before
      · simp
  | ends _ same =>
      have events := congrArg Prod.snd same
      change next.events = _ at events
      rw [events]
      exact fun task member => sending task (List.mem_of_mem_eraseIdx member)

/-- The sends that a handler has left before it schedules the loop. -/
def owed (task : EventTask Frame) : Nat :=
  if task.afterwards = .scheduleReconnect then task.rest.length else 0

def duty (account : Account Frame) : Nat ×ₗ Nat :=
  toLex (account.pendingDrops, (account.events.map owed).sum)

theorem duty_of_books {drops : Nat} {events : List (EventTask Frame)}
    (same : books account = (drops, events)) : duty account = toLex (drops, (events.map owed).sum) := by
  cases same
  rfl

/-- Only what has to do with a loss changes the duty, and makes it smaller. -/
theorem duty_move (waits : Waits account) (honest : Honest account action)
    (unsettled : ¬Settled next) (fired : step env account action = some next) :
    duty next < duty account ∨ duty next = duty account ∧ ¬Disconnection account action := by
  cases books_move fired with
  | kept other same =>
      right
      exact ⟨duty_of_books same, other⟩
  | lost up =>
      rw [waits.down.down] at up
      cases up
  | @begins _ afterwards _ _ begun own same =>
      rw [duty_of_books same]
      cases afterwards with
      | nothing =>
          right
          have nothing : (begun.map owed).sum = 0 := by
            apply List.sum_eq_zero
            intro count member
            obtain ⟨task, among, rfl⟩ := List.mem_map.mp member
            simp [owed, (own task among).2]
          refine ⟨?_, id⟩
          simp [duty, nothing]
      | scheduleReconnect =>
          left
          have lost : 0 < account.pendingDrops := honest
          apply Prod.Lex.toLex_lt_toLex.mpr
          left
          simp only [if_true]
          omega
  | @sends index _ frame current other rest afterwards _ sending same =>
      obtain ⟨before, after, parts, rfl⟩ := split_at sending
      rw [duty_of_books same]
      cases afterwards with
      | nothing =>
          right
          refine ⟨?_, by simp [Disconnection, sending]⟩
          simp [duty, parts, owed]
      | scheduleReconnect =>
          left
          apply Prod.Lex.toLex_lt_toLex.mpr
          right
          simp [parts, owed]
  | @ends index _ frame current afterwards _ sending same schedules =>
      obtain ⟨before, after, parts, rfl⟩ := split_at sending
      cases afterwards with
      | scheduleReconnect => exact absurd (schedules rfl) unsettled
      | nothing =>
          right
          refine ⟨?_, by simp [Disconnection, sending]⟩
          rw [duty_of_books same]
          simp [duty, parts, owed, List.eraseIdx_append_of_length_le]

theorem loss_schedules (execution : Execution (honestStep env))
    (waits : ∀ time, Waits (execution.states time))
    (outside : ∀ time tab, ¬Pending tab (view (execution.states time)))
    (fair : WeaklyFair execution Disconnection) :
    ∃ later, (execution.states later).reconnectTask ≠ .finished := by
  have ranked : Ranked (honestStep env)
      (fun account : Account Frame => Waits account ∧ ∀ tab, ¬Pending tab (view account))
      (fun account => account.reconnectTask = .finished) duty (fun _ => ())
      (fun _ => Disconnection) := by
    constructor
    · rintro account ⟨waits, outside⟩ finished
      rcases waits.guarded.covered with settled | ⟨tab, rescuing⟩ | lost | ⟨task, member, schedules⟩
      · exact absurd finished (waits.down.unsettled settled)
      · exact absurd ((rescuing_pending account tab).mp rescuing) (outside tab)
      · refine ⟨.event (env.ready 0) .scheduleReconnect account.subscribers, trivial, ?_⟩
        simp [honestStep, Honest, lost, step]
      · obtain ⟨index, found⟩ := List.mem_iff_getElem?.mp member
        obtain ⟨frame, rest, afterwards⟩ := task
        cases schedules
        cases rest with
        | nil => exact absurd rfl (waits.sending _ member)
        | cons current rest =>
            refine ⟨.eventSent index true, by simp [Disconnection, found], ?_⟩
            simp [honestStep, Honest, step, found]
    · rintro account action next ⟨waits, _⟩ ⟨later, _⟩ _ finished fired own
      obtain ⟨honest, fired⟩ := honest_fired fired
      have unsettled : ¬Settled next := fun settled => later.down.unsettled settled finished
      rcases duty_move waits honest unsettled fired with less | ⟨_, other⟩
      · exact less
      · exact absurd own other
    · rintro account action next ⟨waits, _⟩ ⟨later, _⟩ _ finished fired
      obtain ⟨honest, fired⟩ := honest_fired fired
      have unsettled : ¬Settled next := fun settled => later.down.unsettled settled finished
      rcases duty_move waits honest unsettled fired with less | ⟨same, _⟩
      · exact .inl less
      · exact .inr ⟨same, rfl⟩
  obtain ⟨later, _, running⟩ := pending_ends ranked execution
    (fun time => ⟨waits time, outside time⟩) (fun _ => fair) 0
  exact ⟨later, running⟩

end Duties

section Runs

variable {env : Env Frame}

theorem keeps_calling (execution : Execution (honestStep env))
    (waits : ∀ time, Waits (execution.states time))
    (handlers : ∀ tab, WeaklyFair execution fun _ => Resumes tab)
    (loop : WeaklyFair execution fun _ => Loop) (losses : WeaklyFair execution Disconnection) :
    ∃ attempt, (execution.states attempt).client.calls.length <
      (execution.states (attempt + 1)).client.calls.length := by
  have started : ∃ time, (execution.states time).reconnectTask ≠ .finished := by
    by_contra never
    have finished : ∀ time, ¬(execution.states time).reconnectTask ≠ .finished :=
      not_exists.mp never
    have outside : ∀ time tab, ¬Pending tab (view (execution.states time)) := by
      intro time tab inside
      obtain ⟨later, _, running⟩ := tab_schedules execution waits handlers inside
      exact finished later running
    obtain ⟨later, running⟩ := loss_schedules execution waits outside losses
    exact finished later running
  obtain ⟨time, running⟩ := started
  obtain ⟨attempt, _, call⟩ := loop_calls execution waits loop running
  exact ⟨attempt, call⟩

/-- In every endless execution of an account that from some time on has a tab and no
connection, `connect()` is called again and again, whatever tabs come and go, whatever
attempts and sends fail: each handler inside `ensure_connected`, the reconnect loop and the
handlers of Disconnected events need only be resumed at some time when they can go on. -/
theorem account_does_not_give_up (execution : Execution (honestStep env))
    (start : execution.states 0 = fresh)
    (handlers : ∀ tab, WeaklyFair execution fun _ => Resumes tab)
    (loop : WeaklyFair execution fun _ => Loop) (losses : WeaklyFair execution Disconnection)
    (since : Nat) (down : ∀ time, since ≤ time → Down (execution.states time)) (time : Nat) :
    ∃ attempt, time ≤ attempt ∧ (execution.states attempt).client.calls.length <
      (execution.states (attempt + 1)).client.calls.length := by
  have kept : ∀ time, Guarded (execution.states time) ∧
      ConnectLock.Sound (view (execution.states time)) ∧
        ∀ task ∈ (execution.states time).events, task.rest ≠ [] := by
    apply @Execution.always _ _ _ execution fun account => Guarded account ∧
      ConnectLock.Sound (view account) ∧ ∀ task ∈ account.events, task.rest ≠ []
    · rw [start]
      exact ⟨Reconnection.fresh_guarded, ConnectLock.fresh_sound, fresh_sending⟩
    · rintro account action next ⟨guarded, lock, sending⟩ honestly
      obtain ⟨honest, fired⟩ := honest_fired honestly
      have returns : Reconnection.ClientHonest account action := by
        intro returns
        cases action
        all_goals first | exact honest | cases returns
      exact ⟨Reconnection.guarded_step returns guarded fired, ConnectLock.sound_step lock fired,
        sending_step sending fired⟩
  have waits : ∀ later, Waits ((execution.after (since + time)).states later) := by
    intro later
    obtain ⟨guarded, lock, sending⟩ := kept (since + time + later)
    exact ⟨guarded, lock, sending, down _ (by omega)⟩
  obtain ⟨attempt, call⟩ := keeps_calling (execution.after (since + time)) waits
    (fun tab => (handlers tab).after _) (loop.after _) (losses.after _)
  exact ⟨since + time + attempt, by omega, call⟩

def outageActions : Nat → Action Unit
  | 0 => .attach 0
  | 1 => .connectRaises 0 () [0]
  | 2 => .reported 0 true
  | 3 => .reconnectStarts
  | time + 4 => if time % 2 = 0 then .reconnectWakes else .reconnectRaises

def outageStates : Nat → Account Unit
  | 0 => fresh
  | time + 1 => (honestStep plainEnv (outageStates time) (outageActions time)).getD fresh

/-- What the outage comes back to. -/
structure Outage (time : Nat) (account : Account Unit) : Prop where
  tabs : account.subscribers = [0]
  running : account.closing = false
  down : account.client.connected = false
  flag : account.reconnectCancelled = false
  events : account.events = []
  drops : account.pendingDrops = 0
  handlers : ∀ tab, ¬Pending tab (view account)
  loop : if time % 2 = 0 then ∃ delay, account.reconnectTask = .sleeping delay
    else ∃ delay, account.reconnectTask = .connecting delay

theorem outage_goes_on {time : Nat} {account : Account Unit} (outage : Outage time account) :
    ∃ next, honestStep plainEnv account (outageActions (time + 4)) = some next ∧
      Outage (time + 1) next := by
  obtain ⟨tabs, running, down, flag, events, drops, handlers, loop⟩ := outage
  by_cases even : time % 2 = 0
  · rw [if_pos even] at loop
    obtain ⟨delay, asleep⟩ := loop
    have odd : (time + 1) % 2 ≠ 0 := by omega
    have fired : honestStep plainEnv account (outageActions (time + 4)) =
        some (account.reconnectWakes delay) := by
      simp [outageActions, even, honestStep, Honest, step, asleep, flag]
    have next : account.reconnectWakes delay =
        { account.connect with reconnectTask := .connecting delay } := by
      simp [Account.reconnectWakes, running, tabs]
    refine ⟨_, fired, ?_⟩
    rw [next]
    exact ⟨tabs, running, down, flag, events, drops, handlers, by rw [if_neg odd]; exact ⟨_, rfl⟩⟩
  · rw [if_neg even] at loop
    obtain ⟨delay, connecting⟩ := loop
    have again : (time + 1) % 2 = 0 := by omega
    have fired : honestStep plainEnv account (outageActions (time + 4)) =
        some (account.connectEnds.reconnectLoop (nextDelay plainEnv.reconnect delay)) := by
      simp [outageActions, even, honestStep, Honest, step, connecting, flag]
    have goesOn : account.connectEnds.closing = false ∧ account.connectEnds.subscribers ≠ [] ∧
        account.connectEnds.client.connected = false := ⟨running, by simp [connectEnds, tabs], down⟩
    refine ⟨_, fired, ?_⟩
    rw [reconnectLoop, if_pos goesOn]
    exact ⟨tabs, running, down, flag, events, drops, handlers, by rw [if_pos again]; exact ⟨_, rfl⟩⟩

theorem outage_after (time : Nat) : Outage time (outageStates (time + 4)) := by
  induction time with
  | zero =>
      refine ⟨rfl, rfl, rfl, rfl, rfl, rfl, ?_, ⟨_, rfl⟩⟩
      intro tab
      match tab with
      | 0 | _ + 1 => exact not_not.mpr rfl
  | succ time induction =>
      obtain ⟨next, fired, outage⟩ := outage_goes_on induction
      have same : outageStates (time + 1 + 4) = next := by
        change (honestStep plainEnv (outageStates (time + 4)) (outageActions (time + 4))).getD fresh = next
        rw [fired]
        rfl
      rwa [same]

def outage : Execution (honestStep plainEnv) where
  states := outageStates
  actions := outageActions
  steps
    | 0 | 1 | 2 | 3 => rfl
    | time + 4 => by
        obtain ⟨next, fired, _⟩ := outage_goes_on (outage_after time)
        change honestStep plainEnv (outageStates (time + 4)) (outageActions (time + 4)) =
          some ((honestStep plainEnv (outageStates (time + 4)) (outageActions (time + 4))).getD fresh)
        rw [fired]
        rfl

theorem outage_handlers (tab : Tab) : WeaklyFair outage fun _ => Resumes tab := by
  intro time able
  obtain ⟨action, resumes, fires⟩ := able (time + 4) (Nat.le_add_right time 4)
  obtain ⟨next, honestly⟩ := Option.isSome_iff_exists.mp fires
  obtain ⟨_, fired⟩ := honest_fired honestly
  exact absurd (ConnectLock.resumes_pending resumes fired) ((outage_after time).handlers tab)

theorem outage_loop : WeaklyFair outage fun _ => Loop := by
  intro time able
  refine ⟨time + 4, Nat.le_add_right time 4, ?_⟩
  change Loop (if time % 2 = 0 then .reconnectWakes else .reconnectRaises)
  split_ifs
  · trivial
  · trivial

theorem outage_losses : WeaklyFair outage Disconnection := by
  intro time able
  obtain ⟨action, own, fires⟩ := able (time + 4) (Nat.le_add_right time 4)
  obtain ⟨next, honestly⟩ := Option.isSome_iff_exists.mp fires
  obtain ⟨honest, fired⟩ := honest_fired honestly
  have after := outage_after time
  cases books_move fired with
  | kept other => exact absurd own other
  | lost => cases own
  | @begins _ afterwards =>
      cases afterwards with
      | nothing => cases own
      | scheduleReconnect =>
          have lost : 0 < (outageStates (time + 4)).pendingDrops := honest
          rw [after.drops] at lost
          exact absurd lost (Nat.lt_irrefl 0)
  | sends sending
  | ends sending =>
      have found : (outageStates (time + 4)).events[_]? = some _ := sending
      rw [after.events] at found
      cases found

theorem outage_calls_again : ∃ attempt, 1000 ≤ attempt ∧
    (outage.states attempt).client.calls.length <
      (outage.states (attempt + 1)).client.calls.length := by
  apply account_does_not_give_up outage rfl outage_handlers outage_loop outage_losses 4
  intro later after
  obtain ⟨more, rfl⟩ := Nat.exists_eq_add_of_le after
  have holds : Outage more (outage.states (4 + more)) := by
    rw [Nat.add_comm]
    exact outage_after more
  have tabs : (outage.states (4 + more)).subscribers ≠ [] := by
    rw [holds.tabs]
    exact List.cons_ne_nil 0 []
  exact ⟨tabs, holds.running, holds.down⟩

end Runs

end PyConduit.Persistence
