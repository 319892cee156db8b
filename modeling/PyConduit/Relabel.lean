import PyConduit.Lifecycle

/-!
# The lifecycle does not look into its frames

A map of the frames turns every action of the lifecycle into an action of the
lifecycle. So frames may carry marks that no handler sees, and erasing the marks
gives back the run without them.
-/

namespace PyConduit.Lifecycle

set_option autoImplicit false

variable {Frame Marked : Type} (label : Marked → Frame)

def Env.map (env : Env Marked) : Env Frame := ⟨env.reconnect, fun tab => label (env.ready tab)⟩

def Handler.map : Handler Marked → Handler Frame
  | .absent => .absent
  | .waitLock => .waitLock
  | .connecting => .connecting
  | .reporting frame rest => .reporting (label frame) rest
  | .snapshot => .snapshot
  | .pumping => .pumping
  | .broadcasting frame rest => .broadcasting (label frame) rest
  | .ended => .ended

def EventTask.map (task : EventTask Marked) : EventTask Frame :=
  ⟨label task.frame, task.rest, task.afterwards⟩

def Account.map (account : Account Marked) : Account Frame where
  subscribers := account.subscribers
  idleTask := account.idleTask
  reconnectTask := account.reconnectTask
  reconnectCancelled := account.reconnectCancelled
  lockHolder := account.lockHolder
  lockWaiters := account.lockWaiters
  closing := account.closing
  client := account.client
  handlers := fun tab => (account.handlers tab).map label
  events := account.events.map (·.map label)
  pendingDrops := account.pendingDrops
  closers := account.closers
  sent := account.sent.map fun send => (send.1, label send.2)

def Action.map : Action Marked → Action Frame
  | .attach tab => .attach tab
  | .lockGranted tab => .lockGranted tab
  | .connectReturns tab => .connectReturns tab
  | .connectRaises tab frame order => .connectRaises tab (label frame) order
  | .reported tab delivered => .reported tab delivered
  | .snapshotSend tab frame => .snapshotSend tab (label frame)
  | .snapshotEnds tab => .snapshotEnds tab
  | .snapshotRaises tab => .snapshotRaises tab
  | .reply tab frame => .reply tab (label frame)
  | .broadcast tab frame order => .broadcast tab (label frame) order
  | .broadcastSent tab delivered => .broadcastSent tab delivered
  | .detach tab => .detach tab
  | .idleExpires outcome => .idleExpires outcome
  | .closerCancelled => .closerCancelled
  | .reconnectStarts => .reconnectStarts
  | .reconnectWakes => .reconnectWakes
  | .reconnectReturns => .reconnectReturns
  | .reconnectRaises => .reconnectRaises
  | .reconnectCancelled => .reconnectCancelled
  | .clientUp => .clientUp
  | .drop => .drop
  | .event frame afterwards order => .event (label frame) afterwards order
  | .eventSent index delivered => .eventSent index delivered

namespace Account

section Operations

variable {label} (account : Account Marked)

theorem map_set_handler (tab : Tab) (handler : Handler Marked) :
    (account.setHandler tab handler).map label =
      (account.map label).setHandler tab (handler.map label) := by
  unfold setHandler map
  congr 1
  funext other
  by_cases same : other = tab
  · simp [same]
  · simp [same]

theorem map_send (tab : Tab) (frame : Marked) :
    (account.send tab frame).map label = (account.map label).send tab (label frame) := by
  simp [send, map]

theorem map_send_ended (tab : Tab) (delivered : Bool) :
    (account.sendEnded tab delivered).map label = (account.map label).sendEnded tab delivered := by
  cases delivered
  all_goals rfl

theorem map_schedule :
    account.scheduleReconnect.map label = (account.map label).scheduleReconnect := by
  unfold scheduleReconnect
  split_ifs
  all_goals first | rfl | contradiction

theorem map_send_snapshot (env : Env Marked) (tab : Tab) :
    (sendSnapshot env account tab).map label =
      sendSnapshot (env.map label) (account.map label) tab := by
  unfold sendSnapshot
  rw [map_send, map_set_handler]
  rfl

theorem map_under_lock (env : Env Marked) (tab : Tab) :
    (underLock env account tab).map label =
      underLock (env.map label) (account.map label) tab := by
  unfold underLock
  by_cases connected : account.client.connected = true
  · rw [if_pos connected, if_pos (show (account.map label).client.connected = true from connected),
      map_send_snapshot]
    rfl
  · rw [if_neg connected, if_neg (show ¬(account.map label).client.connected = true from connected),
      map_set_handler]
    rfl

theorem map_attach (env : Env Marked) (tab : Tab) :
    (attach env account tab).map label = attach (env.map label) (account.map label) tab := by
  unfold attach ensureConnected
  by_cases free : account.lockHolder = none ∧ account.lockWaiters = []
  · rw [if_pos (by exact free), if_pos (by exact free), map_under_lock]
    rfl
  · rw [if_neg (by exact free), if_neg (by exact free)]
    have waits := @map_set_handler Frame Marked label account tab .waitLock
    have handlers := congrArg Account.handlers waits
    simp only [map, setHandler] at handlers ⊢
    congr 1

theorem map_report (env : Env Marked) (tab : Tab) (frame : Marked) (order : List Tab) :
    (report env account tab frame order).map label =
      report (env.map label) (account.map label) tab (label frame) order := by
  cases order with
  | nil =>
      simp only [report, map_send_snapshot]
      rw [← map_schedule]
      rfl
  | cons next rest =>
      simp only [report, map_send, map_set_handler]
      rfl

theorem map_broadcast (tab : Tab) (frame : Marked) (order : List Tab) :
    (account.broadcast tab frame order).map label =
      (account.map label).broadcast tab (label frame) order := by
  cases order with
  | nil => simp only [broadcast, map_set_handler, Handler.map]
  | cons next rest => simp only [broadcast, map_send, map_set_handler, Handler.map]

theorem map_detach (tab : Tab) :
    (account.detach tab).map label = (account.map label).detach tab := by
  have ended : ((account.discard tab).setHandler tab .ended).map label =
      ((account.map label).discard tab).setHandler tab .ended := map_set_handler _ _ _
  unfold detach
  simp only [← ended]
  by_cases empty : ((account.discard tab).setHandler tab .ended).subscribers = []
  · rw [if_pos empty, if_pos (by exact empty)]
    rfl
  · rw [if_neg empty, if_neg (by exact empty)]

theorem map_finish_event (afterwards : Afterwards) :
    (account.finishEvent afterwards).map label = (account.map label).finishEvent afterwards := by
  cases afterwards with
  | nothing => rfl
  | scheduleReconnect => exact map_schedule account

theorem map_start_event (frame : Marked) (afterwards : Afterwards) (order : List Tab) :
    (account.startEvent frame afterwards order).map label =
      (account.map label).startEvent (label frame) afterwards order := by
  cases order with
  | nil => exact map_finish_event account afterwards
  | cons next rest => simp [startEvent, send, map, EventTask.map]

theorem map_continue_event (index : Nat) (frame : Marked) (afterwards : Afterwards)
    (rest : List Tab) :
    (account.continueEvent index frame afterwards rest).map label =
      (account.map label).continueEvent index (label frame) afterwards rest := by
  cases rest with
  | nil =>
      simp only [continueEvent, map_finish_event]
      simp [map, List.eraseIdx_map]
  | cons next rest => simp [continueEvent, send, map, EventTask.map, List.map_set]

theorem map_reconnect_loop (delay : Rat) :
    (account.reconnectLoop delay).map label = (account.map label).reconnectLoop delay := by
  unfold reconnectLoop
  split_ifs
  all_goals first | rfl | contradiction

theorem map_reconnect_wakes (delay : Rat) :
    (account.reconnectWakes delay).map label = (account.map label).reconnectWakes delay := by
  unfold reconnectWakes
  split_ifs
  all_goals first | rfl | contradiction

theorem map_idle_countdown (outcome : DisconnectOutcome) :
    (account.idleCountdown outcome).map label = (account.map label).idleCountdown outcome := by
  have closes : (account.close outcome).map label = (account.map label).close outcome := by
    cases outcome
    all_goals rfl
  unfold idleCountdown
  split_ifs
  all_goals first | rfl | contradiction | exact closes

end Operations

end Account

open Account in
/-- The actions commute with a map of the frames. -/
theorem step_map (env : Env Marked) (account : Account Marked) (action : Action Marked) :
    step (env.map label) (account.map label) (action.map label) =
      (step env account action).map (·.map label) := by
  have handlers : ∀ tab, (account.map label).handlers tab = (account.handlers tab).map label :=
    fun _ => rfl
  cases action with
  | attach tab =>
      cases found : account.handlers tab
      all_goals simp [step, Action.map, handlers, found, Handler.map, map_attach]
  | lockGranted tab =>
      have waiters : (account.map label).lockWaiters = account.lockWaiters := rfl
      have holder : (account.map label).lockHolder = account.lockHolder := rfl
      cases found : account.handlers tab with
      | waitLock =>
          cases waiting : account.lockWaiters with
          | nil => simp [step, Action.map, handlers, found, waiters, waiting]
          | cons first later =>
              simp only [step, Action.map, handlers, found, waiters, waiting, Handler.map, holder]
              split_ifs
              · rw [Option.map_some, map_under_lock]
                rfl
              · rfl
      | _ => simp [step, Action.map, handlers, found, Handler.map]
  | connectReturns tab =>
      cases found : account.handlers tab with
      | connecting =>
          simp only [step, Action.map, handlers, found, Handler.map, Option.map_some,
            map_send_snapshot]
          rfl
      | _ => simp [step, Action.map, handlers, found, Handler.map]
  | connectRaises tab frame order =>
      have subscribers : (account.map label).subscribers = account.subscribers := rfl
      cases found : account.handlers tab with
      | connecting =>
          simp only [step, Action.map, handlers, found, Handler.map, subscribers]
          split_ifs
          · rw [Option.map_some, map_report]
            rfl
          · rfl
      | _ => simp [step, Action.map, handlers, found, Handler.map]
  | reported tab delivered =>
      cases found : account.handlers tab with
      | reporting frame rest =>
          cases rest
          all_goals simp [step, Action.map, handlers, found, Handler.map, map_report, map_send_ended]
      | _ => simp [step, Action.map, handlers, found, Handler.map]
  | snapshotSend tab frame =>
      cases found : account.handlers tab
      all_goals simp [step, Action.map, handlers, found, Handler.map, map_send]
  | snapshotEnds tab =>
      cases found : account.handlers tab
      all_goals simp [step, Action.map, handlers, found, Handler.map, map_set_handler]
  | snapshotRaises tab =>
      cases found : account.handlers tab
      all_goals simp [step, Action.map, handlers, found, Handler.map, map_set_handler]
  | reply tab frame =>
      cases found : account.handlers tab
      all_goals simp [step, Action.map, handlers, found, Handler.map, map_send]
  | broadcast tab frame order =>
      have subscribers : (account.map label).subscribers = account.subscribers := rfl
      cases found : account.handlers tab with
      | pumping =>
          simp only [step, Action.map, handlers, found, Handler.map, subscribers]
          split_ifs
          · rw [Option.map_some, map_broadcast]
          · rfl
      | _ => simp [step, Action.map, handlers, found, Handler.map]
  | broadcastSent tab delivered =>
      cases found : account.handlers tab with
      | broadcasting frame rest =>
          cases rest
          all_goals
            simp [step, Action.map, handlers, found, Handler.map, map_broadcast, map_send_ended]
      | _ => simp [step, Action.map, handlers, found, Handler.map]
  | detach tab =>
      cases found : account.handlers tab
      all_goals simp [step, Action.map, handlers, found, Handler.map, map_detach]
  | idleExpires outcome =>
      simp only [step, Action.map]
      have asleep : (account.map label).idleTask = account.idleTask := rfl
      rw [asleep, ← map_idle_countdown]
      split_ifs
      all_goals rfl
  | closerCancelled =>
      have closers : (account.map label).closers = account.closers := rfl
      simp only [step, Action.map, closers]
      split_ifs
      all_goals rfl
  | reconnectStarts
  | reconnectWakes
  | reconnectReturns
  | reconnectRaises
  | reconnectCancelled =>
      have task : (account.map label).reconnectTask = account.reconnectTask := rfl
      have cancelled : (account.map label).reconnectCancelled = account.reconnectCancelled := rfl
      have ended : (account.map label).connectEnds = account.connectEnds.map label := rfl
      have delays : (env.map label).reconnect = env.reconnect := rfl
      simp only [step, Action.map, task, cancelled, ended, delays, ← map_reconnect_loop,
        ← map_reconnect_wakes]
      cases account.reconnectTask
      all_goals
        cases account.reconnectCancelled
        all_goals rfl
  | clientUp => rfl
  | drop =>
      have client : (account.map label).client = account.client := rfl
      simp only [step, Action.map, client]
      split_ifs
      all_goals rfl
  | event frame afterwards order =>
      have subscribers : (account.map label).subscribers = account.subscribers := rfl
      simp only [step, Action.map, subscribers]
      split_ifs
      · cases afterwards with
        | nothing => rw [Option.map_some, map_start_event]
        | scheduleReconnect =>
            rw [Option.map_some, map_start_event]
            rfl
      · rfl
  | eventSent index delivered =>
      have events : (account.map label).events[index]? =
          (account.events[index]?).map (·.map label) := List.getElem?_map ..
      simp only [step, Action.map, events]
      cases account.events[index]? with
      | none => rfl
      | some task =>
          obtain ⟨frame, rest, afterwards⟩ := task
          cases rest with
          | nil => rfl
          | cons current rest =>
              simp only [Option.map_some, EventTask.map, map_continue_event, map_send_ended]

end PyConduit.Lifecycle
