import PyConduit.Lifecycle

/-!
# What an action leaves alone

An action moves at most one handler and never takes back a call of `send`. The
layers above use this for the handlers that are suspended in code of theirs.
-/

namespace PyConduit.Footprint

open Lifecycle Lifecycle.Account

set_option autoImplicit false

variable {Frame : Type}

structure Moves (actor : Option Tab) (before after : Account Frame) : Prop where
  handlers : ∀ tab, actor ≠ some tab → after.handlers tab = before.handlers tab
  sent : before.sent <+: after.sent

variable {actor : Option Tab}

theorem footprint_same {before after : Account Frame} (handlers : after.handlers = before.handlers)
    (sent : after.sent = before.sent) : Moves actor before after :=
  ⟨fun tab _ => congrFun handlers tab, sent ▸ List.prefix_rfl⟩

theorem Moves.trans {first second third : Account Frame}
    (left : Moves actor first second) (right : Moves actor second third) :
    Moves actor first third :=
  ⟨fun tab other => (right.handlers tab other).trans (left.handlers tab other),
    left.sent.trans right.sent⟩

theorem footprint_set_handler (account : Account Frame) (tab : Tab) (handler : Handler Frame) :
    Moves (some tab) account (account.setHandler tab handler) := by
  constructor
  · intro other apart
    exact Function.update_of_ne (fun same => apart (congrArg some same.symm)) handler
      account.handlers
  · exact List.prefix_rfl

theorem footprint_send (account : Account Frame) (tab : Tab) (frame : Frame) :
    Moves actor account (account.send tab frame) :=
  ⟨fun _ _ => rfl, List.prefix_append _ _⟩

theorem footprint_send_ended (account : Account Frame) (tab : Tab) (delivered : Bool) :
    Moves actor account (account.sendEnded tab delivered) := by
  cases delivered with
  | false => exact footprint_same rfl rfl
  | true => exact footprint_same rfl rfl

theorem footprint_schedule (account : Account Frame) :
    Moves actor account account.scheduleReconnect := by
  unfold scheduleReconnect
  split_ifs
  all_goals exact footprint_same rfl rfl

theorem footprint_send_snapshot (env : Env Frame) (account : Account Frame) (tab : Tab) :
    Moves (some tab) account (sendSnapshot env account tab) :=
  (footprint_set_handler account tab .snapshot).trans (footprint_send _ tab _)

theorem footprint_under_lock (env : Env Frame) (account : Account Frame) (tab : Tab) :
    Moves (some tab) account (underLock env account tab) := by
  unfold underLock
  split_ifs
  · have released : Moves (some tab) account account.releaseLock := footprint_same rfl rfl
    exact released.trans (footprint_send_snapshot env _ tab)
  · have called : Moves (some tab) account account.connect := footprint_same rfl rfl
    exact called.trans (footprint_set_handler _ tab _)

theorem footprint_report (env : Env Frame) (account : Account Frame) (tab : Tab)
    (frame : Frame) (order : List Tab) :
    Moves (some tab) account (report env account tab frame order) := by
  cases order with
  | nil =>
      have released : Moves (some tab) account.scheduleReconnect
          account.scheduleReconnect.releaseLock := footprint_same rfl rfl
      exact (footprint_schedule account).trans
        (released.trans (footprint_send_snapshot env _ tab))
  | cons next rest =>
      exact (footprint_set_handler account tab _).trans (footprint_send _ next frame)

theorem footprint_attach (env : Env Frame) (account : Account Frame) (tab : Tab) :
    Moves (some tab) account (attach env account tab) := by
  unfold attach ensureConnected
  split_ifs
  · have opened : Moves (some tab) account
        { account.cancelIdle with
          subscribers := account.subscribers.insert tab
          lockHolder := some tab } := footprint_same rfl rfl
    exact opened.trans (footprint_under_lock env _ tab)
  · have opened : Moves (some tab) account
        { account.cancelIdle with subscribers := account.subscribers.insert tab } :=
      footprint_same rfl rfl
    have waits := opened.trans (footprint_set_handler _ tab .waitLock)
    exact ⟨waits.handlers, waits.sent⟩

theorem footprint_broadcast (account : Account Frame) (tab : Tab) (frame : Frame)
    (order : List Tab) : Moves (some tab) account (account.broadcast tab frame order) := by
  cases order with
  | nil => exact footprint_set_handler account tab _
  | cons next rest =>
      exact (footprint_set_handler account tab _).trans (footprint_send _ next frame)

theorem footprint_detach (account : Account Frame) (tab : Tab) :
    Moves (some tab) account (account.detach tab) := by
  have discarded : Moves (some tab) account (account.discard tab) := footprint_same rfl rfl
  have ended := discarded.trans (footprint_set_handler _ tab .ended)
  unfold Account.detach
  dsimp only
  split_ifs
  · exact ended.trans (footprint_same rfl rfl)
  · exact ended

theorem footprint_finish_event (account : Account Frame) (afterwards : Afterwards) :
    Moves actor account (account.finishEvent afterwards) := by
  cases afterwards with
  | nothing => exact footprint_same rfl rfl
  | scheduleReconnect => exact footprint_schedule account

theorem footprint_start_event (account : Account Frame) (frame : Frame)
    (afterwards : Afterwards) (order : List Tab) :
    Moves actor account (account.startEvent frame afterwards order) := by
  cases order with
  | nil => exact footprint_finish_event account afterwards
  | cons next rest => exact (footprint_send account next frame).trans (footprint_same rfl rfl)

theorem footprint_continue_event (account : Account Frame) (index : Nat) (frame : Frame)
    (afterwards : Afterwards) (rest : List Tab) :
    Moves actor account (account.continueEvent index frame afterwards rest) := by
  cases rest with
  | nil =>
      have erased : Moves actor account
          { account with events := account.events.eraseIdx index } := footprint_same rfl rfl
      exact erased.trans (footprint_finish_event _ afterwards)
  | cons next rest => exact (footprint_send account next frame).trans (footprint_same rfl rfl)

theorem footprint_reconnect_loop (account : Account Frame) (delay : Rat) :
    Moves actor account (account.reconnectLoop delay) := by
  unfold reconnectLoop
  split_ifs
  all_goals exact footprint_same rfl rfl

theorem footprint_close (account : Account Frame) (outcome : DisconnectOutcome) :
    Moves actor account (account.close outcome) := by
  cases outcome with
  | returned => exact footprint_same rfl rfl
  | raised => exact footprint_same rfl rfl
  | suspended => exact footprint_same rfl rfl

def mover : Action Frame → Option Tab
  | .attach tab => some tab
  | .lockGranted tab => some tab
  | .connectReturns tab => some tab
  | .connectRaises tab _ _ => some tab
  | .reported tab _ => some tab
  | .snapshotEnds tab => some tab
  | .snapshotRaises tab => some tab
  | .broadcast tab _ _ => some tab
  | .broadcastSent tab _ => some tab
  | .detach tab => some tab
  | _ => none

theorem footprint_of_step {env : Env Frame} {account next : Account Frame}
    {action : Action Frame} (fired : step env account action = some next) :
    Moves (mover action) account next := by
  cases fires_of_step fired with
  | attach => exact footprint_attach env account _
  | @lockGranted tab waiters =>
      have granted : Moves (some tab) account
          { account with lockHolder := some tab, lockWaiters := waiters } :=
        footprint_same rfl rfl
      exact granted.trans (footprint_under_lock env _ tab)
  | @connectReturns tab =>
      have released : Moves (some tab) account account.connectEnds.releaseLock :=
        footprint_same rfl rfl
      exact released.trans (footprint_send_snapshot env _ tab)
  | @connectRaises tab frame order =>
      have ended : Moves (some tab) account account.connectEnds := footprint_same rfl rfl
      exact ended.trans (footprint_report env _ tab frame order)
  | reported => exact (footprint_send_ended account _ _).trans (footprint_report env _ _ _ _)
  | snapshotSend => exact footprint_send account _ _
  | snapshotEnds => exact footprint_set_handler account _ _
  | snapshotRaises => exact footprint_set_handler account _ _
  | reply => exact footprint_send account _ _
  | broadcast => exact footprint_broadcast account _ _ _
  | broadcastSent => exact (footprint_send_ended account _ _).trans (footprint_broadcast _ _ _ _)
  | detach => exact footprint_detach account _
  | idleExpires =>
      unfold idleCountdown
      split_ifs
      · exact footprint_close account _
      · exact footprint_same rfl rfl
  | closerCancelled => exact footprint_same rfl rfl
  | reconnectStarts => exact footprint_reconnect_loop account _
  | reconnectWakes =>
      unfold Account.reconnectWakes
      split_ifs
      all_goals exact footprint_same rfl rfl
  | reconnectReturns => exact footprint_same rfl rfl
  | @reconnectRaises delay =>
      have ended : Moves (none : Option Tab) account account.connectEnds :=
        footprint_same rfl rfl
      exact ended.trans (footprint_reconnect_loop _ _)
  | reconnectCancelledConnecting => exact footprint_same rfl rfl
  | reconnectCancelled => exact footprint_same rfl rfl
  | clientUp => exact footprint_same rfl rfl
  | drop => exact footprint_same rfl rfl
  | event => exact footprint_start_event account _ _ _
  | disconnected =>
      have delivered : Moves (none : Option Tab) account
          { account with pendingDrops := account.pendingDrops - 1 } := footprint_same rfl rfl
      exact delivered.trans (footprint_start_event _ _ _ _)
  | eventSent =>
      exact (footprint_send_ended account _ _).trans (footprint_continue_event _ _ _ _ _)

/-- A handler inside `_send_snapshot` is moved by its own two endings alone. -/
theorem snapshot_kept {env : Env Frame} {account next : Account Frame} {action : Action Frame}
    (fired : step env account action = some next) {tab : Tab}
    (inside : account.handlers tab = .snapshot) (notEnded : action ≠ .snapshotEnds tab)
    (notRaised : action ≠ .snapshotRaises tab) : next.handlers tab = .snapshot := by
  by_cases moved : mover action = some tab
  · exfalso
    cases fires_of_step fired with
    | snapshotEnds => exact notEnded (by rw [Option.some.inj moved])
    | snapshotRaises => exact notRaised (by rw [Option.some.inj moved])
    | attach elsewhere
    | lockGranted elsewhere
    | connectReturns elsewhere
    | connectRaises elsewhere
    | reported elsewhere
    | broadcast elsewhere
    | broadcastSent elsewhere
    | detach elsewhere =>
        cases moved
        rw [inside] at elsewhere
        cases elsewhere
    | _ => cases moved
  · rw [(footprint_of_step fired).handlers tab moved, inside]

def Past : Handler Frame → Prop
  | .pumping => True
  | .broadcasting _ _ => True
  | .ended => True
  | _ => False

theorem past_broadcast (account : Account Frame) (tab : Tab) (frame : Frame) (order : List Tab) :
    Past ((account.broadcast tab frame order).handlers tab) := by
  cases order with
  | nil => simp [Account.broadcast, setHandler, Past]
  | cons next rest => simp [Account.broadcast, setHandler, Account.send, Past]

theorem past_kept {env : Env Frame} {account next : Account Frame} {action : Action Frame}
    (fired : step env account action = some next) {tab : Tab}
    (past : Past (account.handlers tab)) : Past (next.handlers tab) := by
  by_cases moved : mover action = some tab
  · cases fires_of_step fired with
    | attach elsewhere
    | lockGranted elsewhere
    | connectReturns elsewhere
    | connectRaises elsewhere
    | reported elsewhere
    | snapshotEnds elsewhere
    | snapshotRaises elsewhere =>
        cases moved
        rw [elsewhere] at past
        exact past.elim
    | broadcast =>
        cases moved
        exact past_broadcast _ tab _ _
    | broadcastSent =>
        cases moved
        exact past_broadcast _ tab _ _
    | detach =>
        cases moved
        unfold Account.detach
        dsimp only
        split_ifs
        all_goals simp [startIdleTimer, cancelIdle, setHandler, Past]
    | _ => cases moved
  · rw [(footprint_of_step fired).handlers tab moved]
    exact past

theorem mover_present {env : Env Frame} {account next : Account Frame} {action : Action Frame}
    (fired : step env account action = some next) {tab : Tab}
    (moved : mover action = some tab) : next.handlers tab ≠ .absent := by
  have underLock : ∀ account : Account Frame,
      (underLock env account tab).handlers tab ≠ .absent := by
    intro account
    unfold Account.underLock
    split_ifs
    all_goals simp [sendSnapshot, setHandler, Account.send]
  have report : ∀ (account : Account Frame) (frame : Frame) (order : List Tab),
      (report env account tab frame order).handlers tab ≠ .absent := by
    intro account frame order
    cases order
    all_goals simp [Account.report, sendSnapshot, setHandler, Account.send]
  have broadcast : ∀ (account : Account Frame) (frame : Frame) (order : List Tab),
      (account.broadcast tab frame order).handlers tab ≠ .absent := by
    intro account frame order absent
    have past := past_broadcast account tab frame order
    rw [absent] at past
    exact past
  cases fires_of_step fired with
  | attach =>
      cases moved
      unfold Account.attach ensureConnected
      split_ifs
      · exact underLock _
      · simp [setHandler]
  | lockGranted =>
      cases moved
      exact underLock _
  | connectReturns =>
      cases moved
      simp [sendSnapshot, setHandler, Account.send]
  | connectRaises =>
      cases moved
      exact report _ _ _
  | reported =>
      cases moved
      exact report _ _ _
  | snapshotEnds =>
      cases moved
      simp [setHandler]
  | snapshotRaises =>
      cases moved
      simp [setHandler]
  | broadcast =>
      cases moved
      exact broadcast _ _ _
  | broadcastSent =>
      cases moved
      exact broadcast _ _ _
  | detach =>
      cases moved
      unfold Account.detach
      dsimp only
      split_ifs
      all_goals simp [startIdleTimer, cancelIdle, setHandler]
  | _ => cases moved

theorem absent_kept {env : Env Frame} {account next : Account Frame} {action : Action Frame}
    (fired : step env account action = some next) {tab : Tab} (elsewhere : action ≠ .attach tab)
    (absent : account.handlers tab = .absent) : next.handlers tab = .absent := by
  by_cases moved : mover action = some tab
  · exfalso
    cases fires_of_step fired with
    | attach =>
        cases moved
        exact elsewhere rfl
    | lockGranted inside
    | connectReturns inside
    | connectRaises inside
    | reported inside
    | snapshotEnds inside
    | snapshotRaises inside
    | broadcast inside
    | broadcastSent inside
    | detach inside =>
        cases moved
        rw [absent] at inside
        cases inside
    | _ => cases moved
  · rw [(footprint_of_step fired).handlers tab moved, absent]

/-- The handler of a tab that has gone stays so. -/
theorem ended_kept {env : Env Frame} {account next : Account Frame} {action : Action Frame}
    (fired : step env account action = some next) {tab : Tab}
    (ended : account.handlers tab = .ended) : next.handlers tab = .ended := by
  by_cases moved : mover action = some tab
  · exfalso
    cases fires_of_step fired with
    | attach inside
    | lockGranted inside
    | connectReturns inside
    | connectRaises inside
    | reported inside
    | snapshotEnds inside
    | snapshotRaises inside
    | broadcast inside
    | broadcastSent inside
    | detach inside =>
        cases moved
        rw [ended] at inside
        cases inside
    | _ => cases moved
  · rw [(footprint_of_step fired).handlers tab moved, ended]

end PyConduit.Footprint
