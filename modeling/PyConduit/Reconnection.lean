import PyConduit.Lifecycle

/-!
# Connection attempts of one account

Two tasks call `connect()`: `ensure_connected` under its lock and
`_reconnect_loop` on its own. Between them a lost connection is always
somebody's business: whenever the loop ends or is not started, the account is
closing, has no tab, is connected, or some other task will look at it again.
-/

namespace PyConduit.Reconnection

open Lifecycle Lifecycle.Account GuardedRun

set_option autoImplicit false

variable {Frame : Type}

/-- Inside `ensure_connected`, where the handler will connect or schedule. -/
def Rescuing : Handler Frame → Prop
  | .waitLock => True
  | .connecting => True
  | .reporting _ _ => True
  | _ => False

/-- Nothing is left to do about the connection, or the loop is doing it. -/
def Settled (account : Account Frame) : Prop :=
  account.closing = true ∨ account.subscribers = [] ∨ account.client.connected = true ∨
    account.reconnectTask ≠ .finished

/-- The account is settled, or some task that will settle it is under way. -/
def Covered (account : Account Frame) : Prop :=
  Settled account ∨ (∃ tab, Rescuing (account.handlers tab)) ∨ 0 < account.pendingDrops ∨
    ∃ task ∈ account.events, task.afterwards = .scheduleReconnect

structure Guarded (account : Account Frame) : Prop where
  covered : Covered account
  cancelled : account.reconnectCancelled = true → account.closing = true

theorem fresh_guarded : Guarded (fresh : Account Frame) :=
  ⟨.inl (.inr (.inl rfl)), by simp [fresh]⟩

/-- The changes that cannot uncover an account: tabs only leave, no task that
would settle it ends, and the loop is not cancelled. -/
structure Keeps (before after : Account Frame) : Prop where
  closing : before.closing = true → after.closing = true
  empty : before.subscribers = [] → after.subscribers = []
  connected : before.client.connected = true → after.client.connected = true
  unfinished : before.reconnectTask ≠ .finished → after.reconnectTask ≠ .finished
  rescuing : ∀ tab, Rescuing (before.handlers tab) → Rescuing (after.handlers tab)
  drops : before.pendingDrops ≤ after.pendingDrops
  events : ∀ task ∈ before.events, task.afterwards = .scheduleReconnect →
    ∃ later ∈ after.events, later.afterwards = .scheduleReconnect
  cancelled : after.reconnectCancelled = true → before.reconnectCancelled = true

theorem Keeps.settled {before after : Account Frame} (keeps : Keeps before after)
    (settled : Settled before) : Settled after := by
  rcases settled with closing | empty | connected | unfinished
  · exact .inl (keeps.closing closing)
  · exact .inr (.inl (keeps.empty empty))
  · exact .inr (.inr (.inl (keeps.connected connected)))
  · exact .inr (.inr (.inr (keeps.unfinished unfinished)))

theorem Keeps.guarded {before after : Account Frame} (keeps : Keeps before after)
    (guarded : Guarded before) : Guarded after := by
  refine ⟨?_, fun cancelled => keeps.closing (guarded.cancelled (keeps.cancelled cancelled))⟩
  rcases guarded.covered with settled | ⟨tab, rescuing⟩ | drops | ⟨task, member, schedules⟩
  · exact .inl (keeps.settled settled)
  · exact .inr (.inl ⟨tab, keeps.rescuing tab rescuing⟩)
  · exact .inr (.inr (.inl (drops.trans_le keeps.drops)))
  · exact .inr (.inr (.inr (keeps.events task member schedules)))

theorem Keeps.refl (account : Account Frame) : Keeps account account :=
  ⟨id, id, id, id, fun _ => id, le_rfl, fun task member same => ⟨task, member, same⟩, id⟩

theorem Keeps.trans {first second third : Account Frame} (left : Keeps first second)
    (right : Keeps second third) : Keeps first third where
  closing := right.closing ∘ left.closing
  empty := right.empty ∘ left.empty
  connected := right.connected ∘ left.connected
  unfinished := right.unfinished ∘ left.unfinished
  rescuing tab := right.rescuing tab ∘ left.rescuing tab
  drops := left.drops.trans right.drops
  events task member schedules :=
    have ⟨middle, memberMiddle, schedulesMiddle⟩ := left.events task member schedules
    right.events middle memberMiddle schedulesMiddle
  cancelled := left.cancelled ∘ right.cancelled

theorem keeps_send (account : Account Frame) (tab : Tab) (frame : Frame) :
    Keeps account (account.send tab frame) :=
  { Keeps.refl account with }

theorem keeps_discard (account : Account Frame) (tab : Tab) :
    Keeps account (account.discard tab) :=
  { Keeps.refl account with empty := fun empty => by simp [Account.discard, empty] }

theorem keeps_sendEnded (account : Account Frame) (tab : Tab) (delivered : Bool) :
    Keeps account (account.sendEnded tab delivered) := by
  cases delivered
  · exact keeps_discard account tab
  · exact Keeps.refl account

theorem keeps_setHandler (account : Account Frame) (tab : Tab) (handler : Handler Frame)
    (rescuing : Rescuing (account.handlers tab) → Rescuing handler) :
    Keeps account (account.setHandler tab handler) :=
  { Keeps.refl account with
    rescuing := fun other before => by
      by_cases same : other = tab
      · subst other
        simpa [Account.setHandler] using rescuing before
      · simpa [Account.setHandler, same] using before }

theorem keeps_broadcast (account : Account Frame) (tab : Tab) (frame : Frame)
    (outside : ¬ Rescuing (account.handlers tab)) (order : List Tab) :
    Keeps account (account.broadcast tab frame order) := by
  cases order with
  | nil => exact keeps_setHandler account tab _ (fun inside => (outside inside).elim)
  | cons next rest =>
      exact (keeps_setHandler account tab _ (fun inside => (outside inside).elim)).trans
        (keeps_send _ next frame)

theorem keeps_detach (account : Account Frame) (tab : Tab)
    (outside : ¬ Rescuing (account.handlers tab)) : Keeps account (account.detach tab) := by
  have left : Keeps account ((account.discard tab).setHandler tab .ended) :=
    (keeps_discard account tab).trans
      (keeps_setHandler _ tab _ (fun inside => (outside inside).elim))
  simp only [Account.detach]
  split
  · exact left.trans { Keeps.refl _ with }
  · exact left

theorem schedule_settles (account : Account Frame) : Settled account.scheduleReconnect := by
  unfold Account.scheduleReconnect
  split_ifs with unfinished nothing
  · exact .inr (.inr (.inr unfinished))
  · exact nothing.elim .inl (fun empty => .inr (.inl empty))
  · exact .inr (.inr (.inr (by simp)))

theorem schedule_closing (account : Account Frame) :
    account.scheduleReconnect.closing = account.closing := by
  unfold Account.scheduleReconnect
  split_ifs <;> rfl

theorem schedule_cancelled (account : Account Frame)
    (cancelled : account.scheduleReconnect.reconnectCancelled = true) :
    account.reconnectCancelled = true := by
  unfold Account.scheduleReconnect at cancelled
  split_ifs at cancelled
  · exact cancelled
  · exact cancelled

theorem schedule_guarded {account : Account Frame}
    (cancelled : account.reconnectCancelled = true → account.closing = true) :
    Guarded account.scheduleReconnect :=
  ⟨.inl (schedule_settles account), fun after => by
    rw [schedule_closing]
    exact cancelled (schedule_cancelled account after)⟩

/-- What `sendSnapshot` changes is of no interest to a settled account. -/
theorem snapshot_guarded {env : Env Frame} {account : Account Frame} {tab : Tab}
    (settled : Settled account)
    (cancelled : account.reconnectCancelled = true → account.closing = true) :
    Guarded (sendSnapshot env account.releaseLock tab) :=
  ⟨.inl settled, cancelled⟩

theorem underLock_guarded {env : Env Frame} {account : Account Frame} {tab : Tab}
    (cancelled : account.reconnectCancelled = true → account.closing = true) :
    Guarded (underLock env account tab) := by
  unfold underLock
  split_ifs with connected
  · exact snapshot_guarded (.inr (.inr (.inl connected))) cancelled
  · exact ⟨.inr (.inl ⟨tab, by simp [Account.setHandler, Account.connect, Rescuing]⟩), cancelled⟩

theorem report_guarded {env : Env Frame} {account : Account Frame} {tab : Tab} {frame : Frame}
    (cancelled : account.reconnectCancelled = true → account.closing = true)
    (order : List Tab) : Guarded (report env account tab frame order) := by
  cases order with
  | nil =>
      have scheduled := schedule_guarded cancelled
      exact snapshot_guarded (schedule_settles account) scheduled.cancelled
  | cons next rest =>
      refine ⟨.inr (.inl ⟨tab, ?_⟩), cancelled⟩
      simp [report, Account.setHandler, Account.send, Rescuing]

theorem finishEvent_guarded {account : Account Frame} (afterwards : Afterwards)
    (cancelled : account.reconnectCancelled = true → account.closing = true)
    (covered : afterwards = .nothing → Covered account) :
    Guarded (account.finishEvent afterwards) := by
  cases afterwards with
  | nothing => exact ⟨covered rfl, cancelled⟩
  | scheduleReconnect => exact schedule_guarded cancelled

theorem startEvent_guarded {account : Account Frame} (frame : Frame) (afterwards : Afterwards)
    (cancelled : account.reconnectCancelled = true → account.closing = true)
    (covered : afterwards = .nothing → Covered account) (order : List Tab) :
    Guarded (account.startEvent frame afterwards order) := by
  cases order with
  | nil => exact finishEvent_guarded afterwards cancelled covered
  | cons next rest =>
      cases afterwards with
      | scheduleReconnect =>
          refine ⟨.inr (.inr (.inr ⟨⟨frame, next :: rest, .scheduleReconnect⟩, ?_, rfl⟩)), cancelled⟩
          simp [Account.startEvent]
      | nothing =>
          refine Keeps.guarded ?_ ⟨covered rfl, cancelled⟩
          exact { keeps_send account next frame with
            events := fun task member schedules =>
              ⟨task, List.mem_append_left _ member, schedules⟩ }

theorem other_events_survive {events : List (EventTask Frame)} {index : Nat}
    {finished : EventTask Frame} (found : events[index]? = some finished)
    (plain : finished.afterwards = .nothing) :
    ∀ task ∈ events, task.afterwards = .scheduleReconnect → task ∈ events.eraseIdx index := by
  intro task member schedules
  obtain ⟨position, bound, same⟩ := List.mem_iff_getElem.mp member
  have elsewhere : position ≠ index := by
    rintro rfl
    rw [List.getElem?_eq_getElem bound, same] at found
    cases found
    rw [plain] at schedules
    cases schedules
  exact List.mem_eraseIdx_iff_getElem.mpr ⟨position, bound, elsewhere, same⟩

theorem continueEvent_guarded {account : Account Frame} (guarded : Guarded account)
    {index : Nat} {frame : Frame} {current : List Tab} {afterwards : Afterwards}
    (found : account.events[index]? = some ⟨frame, current, afterwards⟩) (rest : List Tab) :
    Guarded (account.continueEvent index frame afterwards rest) := by
  have bound : index < account.events.length := (List.getElem?_eq_some_iff.mp found).1
  cases rest with
  | nil =>
      cases afterwards with
      | scheduleReconnect => exact schedule_guarded guarded.cancelled
      | nothing =>
          refine Keeps.guarded ?_ guarded
          exact { Keeps.refl account with
            events := fun task member schedules =>
              ⟨task, other_events_survive found rfl task member schedules, schedules⟩ }
  | cons next rest =>
      refine Keeps.guarded ?_ guarded
      refine { keeps_send account next frame with events := fun task member schedules => ?_ }
      obtain ⟨position, positionBound, same⟩ := List.mem_iff_getElem.mp member
      by_cases here : position = index
      · subst position
        rw [List.getElem?_eq_getElem positionBound, same] at found
        cases found
        exact ⟨_, List.mem_set positionBound _, schedules⟩
      · refine ⟨task, ?_, schedules⟩
        exact List.mem_iff_getElem.mpr ⟨position, by simpa [Account.continueEvent] using positionBound,
          by simpa [Account.continueEvent, List.getElem_set_of_ne (Ne.symm here)] using same⟩

theorem reconnectLoop_guarded {account : Account Frame} (delay : Rat)
    (cancelled : account.reconnectCancelled = true → account.closing = true) :
    Guarded (account.reconnectLoop delay) := by
  unfold reconnectLoop
  split_ifs with goesOn
  · exact ⟨.inl (.inr (.inr (.inr (by simp)))), cancelled⟩
  · refine ⟨.inl ?_, cancelled⟩
    simp only [Settled]
    by_cases closing : account.closing = true
    · exact .inl closing
    · by_cases empty : account.subscribers = []
      · exact .inr (.inl empty)
      · by_cases connected : account.client.connected = true
        · exact .inr (.inr (.inl connected))
        · simp_all

theorem idleCountdown_guarded {account : Account Frame} (outcome : DisconnectOutcome)
    (guarded : Guarded account) : Guarded (account.idleCountdown outcome) := by
  unfold idleCountdown
  split_ifs with empty
  · have closing : (account.close outcome).closing = true := by cases outcome <;> rfl
    exact ⟨.inl (.inl closing), fun _ => closing⟩
  · exact ⟨guarded.covered, guarded.cancelled⟩

def returnsConnect : Action Frame → Bool
  | .connectReturns _ => true
  | .reconnectReturns => true
  | _ => false

/-- What is asked of the client: `connect()` returns only while it is connected. -/
abbrev ClientHonest (account : Account Frame) (action : Action Frame) : Prop :=
  returnsConnect action = true → account.client.connected = true

theorem guarded_step {env : Env Frame} {account next : Account Frame} {action : Action Frame}
    (honest : ClientHonest account action) (guarded : Guarded account)
    (fired : step env account action = some next) : Guarded next := by
  have cancelled := guarded.cancelled
  have dropped : ∀ tab delivered, Guarded (account.sendEnded tab delivered) :=
    fun tab delivered => (keeps_sendEnded account tab delivered).guarded guarded
  cases fires_of_step fired with
  | @attach tab absent =>
      unfold attach ensureConnected
      split_ifs
      · exact underLock_guarded cancelled
      · exact ⟨.inr (.inl ⟨tab, by simp [setHandler, Rescuing]⟩), cancelled⟩
  | lockGranted => exact underLock_guarded cancelled
  | connectReturns => exact snapshot_guarded (.inr (.inr (.inl (honest rfl)))) cancelled
  | connectRaises =>
      have ended : account.connectEnds.reconnectCancelled = true →
          account.connectEnds.closing = true := cancelled
      exact report_guarded ended _
  | reported => exact report_guarded (dropped _ _).cancelled _
  | snapshotSend => exact (keeps_send account _ _).guarded guarded
  | snapshotEnds inside =>
      exact (keeps_setHandler account _ _ (by simp [inside, Rescuing])).guarded guarded
  | snapshotRaises inside =>
      exact (keeps_setHandler account _ _ (by simp [inside, Rescuing])).guarded guarded
  | reply => exact (keeps_send account _ _).guarded guarded
  | broadcast pumping =>
      exact (keeps_broadcast account _ _ (by simp [pumping, Rescuing]) _).guarded guarded
  | @broadcastSent tab current delivered frame rest sending =>
      have outside : ¬ Rescuing ((account.sendEnded current delivered).handlers tab) := by
        cases delivered <;> simp [sendEnded, Account.discard, sending, Rescuing]
      exact (keeps_broadcast _ tab frame outside rest).guarded (dropped current delivered)
  | detach pumping =>
      exact (keeps_detach account _ (by simp [pumping, Rescuing])).guarded guarded
  | idleExpires => exact idleCountdown_guarded _ guarded
  | closerCancelled => exact ⟨guarded.covered, cancelled⟩
  | reconnectStarts => exact reconnectLoop_guarded _ cancelled
  | reconnectWakes =>
      unfold Account.reconnectWakes
      split_ifs with stops
      · exact ⟨.inl (stops.elim .inl (fun empty => .inr (.inl empty))), cancelled⟩
      · exact ⟨.inl (.inr (.inr (.inr (by simp)))), cancelled⟩
  | reconnectReturns => exact ⟨.inl (.inr (.inr (.inl (honest rfl)))), cancelled⟩
  | reconnectRaises => exact reconnectLoop_guarded _ cancelled
  | reconnectCancelledConnecting _ flag => exact ⟨.inl (.inl (cancelled flag)), cancelled⟩
  | reconnectCancelled _ _ flag => exact ⟨.inl (.inl (cancelled flag)), cancelled⟩
  | clientUp => exact ⟨.inl (.inr (.inr (.inl rfl))), cancelled⟩
  | drop => exact ⟨.inr (.inr (.inl (Nat.succ_pos _))), cancelled⟩
  | event => exact startEvent_guarded _ _ cancelled (fun _ => guarded.covered) _
  | disconnected =>
      refine startEvent_guarded _ .scheduleReconnect ?_ (fun same => by cases same) _
      exact cancelled
  | @eventSent index delivered frame current rest afterwards sending =>
      have found : (account.sendEnded current delivered).events[index]? =
          some ⟨frame, current :: rest, afterwards⟩ := by
        cases delivered <;> exact sending
      exact continueEvent_guarded (dropped current delivered) found rest

/-- No attach, no event handler and no `connect()` is under way, and every loss
of the connection has been followed by its event. -/
structure Quiescent (account : Account Frame) : Prop where
  attaches : ∀ tab, ¬ Rescuing (account.handlers tab) ∧ account.handlers tab ≠ .snapshot
  handlers : account.events = []
  delivered : account.pendingDrops = 0
  connects : account.client.inFlight = 0

/-- An account that has tabs and no connection is being reconnected. -/
theorem reconnect_is_never_lost (env : Env Frame) (actions : List (Action Frame))
    (account : Account Frame)
    (run : replay (step env) fresh actions = some account)
    (honest : Conforms (step env) ClientHonest fresh actions)
    (quiescent : Quiescent account) (running : account.closing = false)
    (tabs : account.subscribers ≠ []) (down : account.client.connected = false) :
    account.reconnectTask ≠ .finished := by
  have guarded : Guarded account :=
    run_invariant (fun _ _ _ permitted before fired => guarded_step permitted before fired)
      fresh_guarded honest run
  rcases guarded.covered with settled | ⟨tab, rescuing⟩ | drops | ⟨task, member, _⟩
  · rcases settled with closing | empty | connected | unfinished
    · rw [running] at closing
      cases closing
    · exact (tabs empty).elim
    · rw [down] at connected
      cases connected
    · exact unfinished
  · exact ((quiescent.attaches tab).1 rescuing).elim
  · rw [quiescent.delivered] at drops
    exact (Nat.lt_irrefl 0 drops).elim
  · rw [quiescent.handlers] at member
    cases member

def lostConnection : List (Action Unit) :=
  [.attach 0, .clientUp, .connectReturns 0, .snapshotEnds 0, .drop,
    .event () .scheduleReconnect [0], .eventSent 0 true]

theorem lost_connection_is_reconnected :
    ∃ account, replay (step plainEnv) fresh lostConnection = some account ∧
      account.reconnectTask ≠ .finished := by
  refine ⟨_, rfl, ?_⟩
  refine reconnect_is_never_lost plainEnv lostConnection _ rfl (by decide) ?_ rfl (by decide) rfl
  refine ⟨fun tab => ?_, rfl, rfl, rfl⟩
  cases tab with
  | zero => exact ⟨fun inside => inside, fun same => by cases same⟩
  | succ tab => exact ⟨fun inside => inside, fun same => by cases same⟩

end PyConduit.Reconnection
