import PyConduit.Lifecycle

/-!
# Who is attached, and when the countdown starts

Every subscriber belongs to a handler that has still to run `detach`, and an
account that no handler is left to detach from has its countdown pending or is
closed. Both rest on each handler reaching its `detach`: an exception that
escapes `attach` ends the handler before it.
-/

namespace PyConduit.Attendance

open Lifecycle Lifecycle.Account GuardedRun

set_option autoImplicit false

variable {Frame : Type}

/-- The handler has been handed the account and has not ended. -/
def Live : Handler Frame → Prop
  | .absent => False
  | .ended => False
  | _ => True

/-- The changes of a step that neither opens nor closes anything. -/
structure Stays (before after : Account Frame) : Prop where
  closing : after.closing = before.closing
  idle : after.idleTask = before.idleTask
  subscribers : ∀ tab ∈ after.subscribers, tab ∈ before.subscribers
  live : ∀ tab, Live (before.handlers tab) → Live (after.handlers tab)

theorem Stays.refl (account : Account Frame) : Stays account account :=
  ⟨rfl, rfl, fun _ => id, fun _ => id⟩

theorem Stays.trans {first second third : Account Frame} (left : Stays first second)
    (right : Stays second third) : Stays first third :=
  ⟨right.closing.trans left.closing, right.idle.trans left.idle,
    fun tab member => left.subscribers tab (right.subscribers tab member),
    fun tab live => right.live tab (left.live tab live)⟩

theorem stays_send (account : Account Frame) (tab : Tab) (frame : Frame) :
    Stays account (account.send tab frame) :=
  { Stays.refl account with }

theorem stays_sendEnded (account : Account Frame) (tab : Tab) (delivered : Bool) :
    Stays account (account.sendEnded tab delivered) := by
  cases delivered
  · exact { Stays.refl account with
      subscribers := fun other member => (List.mem_filter.mp member).1 }
  · exact Stays.refl account

theorem stays_setHandler (account : Account Frame) (tab : Tab) (handler : Handler Frame)
    (live : Live handler) : Stays account (account.setHandler tab handler) := by
  refine { Stays.refl account with live := fun other before => ?_ }
  by_cases same : other = tab
  · subst other
    simpa [setHandler] using live
  · simpa [setHandler, same] using before

theorem stays_schedule (account : Account Frame) : Stays account account.scheduleReconnect := by
  unfold scheduleReconnect
  split_ifs <;> exact { Stays.refl account with }

theorem stays_sendSnapshot (env : Env Frame) (account : Account Frame) (tab : Tab) :
    Stays account (sendSnapshot env account tab) :=
  (stays_setHandler account tab .snapshot trivial).trans (stays_send _ tab _)

theorem stays_underLock (env : Env Frame) (account : Account Frame) (tab : Tab) :
    Stays account (underLock env account tab) := by
  unfold underLock
  split_ifs
  · have inside := stays_sendSnapshot env account.releaseLock tab
    exact { inside with }
  · have inside := stays_setHandler account.connect tab .connecting trivial
    exact { inside with }

theorem stays_report (env : Env Frame) (account : Account Frame) (tab : Tab) (frame : Frame)
    (order : List Tab) : Stays account (report env account tab frame order) := by
  cases order with
  | nil =>
      refine (stays_schedule account).trans ?_
      have inside := stays_sendSnapshot env account.scheduleReconnect.releaseLock tab
      exact { inside with }
  | cons next rest =>
      exact (stays_setHandler account tab (.reporting frame (next :: rest)) trivial).trans
        (stays_send _ next frame)

theorem stays_broadcast (account : Account Frame) (tab : Tab) (frame : Frame)
    (order : List Tab) : Stays account (account.broadcast tab frame order) := by
  cases order with
  | nil => exact stays_setHandler account tab .pumping trivial
  | cons next rest =>
      exact (stays_setHandler account tab (.broadcasting frame (next :: rest)) trivial).trans
        (stays_send _ next frame)

theorem stays_finishEvent (account : Account Frame) (afterwards : Afterwards) :
    Stays account (account.finishEvent afterwards) := by
  cases afterwards with
  | nothing => exact Stays.refl account
  | scheduleReconnect => exact stays_schedule account

theorem stays_startEvent (account : Account Frame) (frame : Frame) (afterwards : Afterwards)
    (order : List Tab) : Stays account (account.startEvent frame afterwards order) := by
  cases order with
  | nil => exact stays_finishEvent account afterwards
  | cons next rest => exact { stays_send account next frame with }

theorem stays_continueEvent (account : Account Frame) (index : Nat) (frame : Frame)
    (afterwards : Afterwards) (rest : List Tab) :
    Stays account (account.continueEvent index frame afterwards rest) := by
  cases rest with
  | nil =>
      have inside := stays_finishEvent
        { account with events := account.events.eraseIdx index } afterwards
      exact { inside with }
  | cons next rest => exact { stays_send account next frame with }

theorem stays_reconnectLoop (account : Account Frame) (delay : Rat) :
    Stays account (account.reconnectLoop delay) := by
  unfold reconnectLoop
  split_ifs <;> exact { Stays.refl account with }

theorem stays_reconnectWakes (account : Account Frame) (delay : Rat) :
    Stays account (account.reconnectWakes delay) := by
  unfold Account.reconnectWakes
  split_ifs <;> exact { Stays.refl account with }

def attaches : Action Frame → Bool
  | .attach _ => true
  | _ => false

/-- What one action does to the attendance. Only `attach` adds a tab, only a
handler that ends may leave one behind, and only the countdown closes. -/
inductive Attends (before : Account Frame) : Action Frame → Account Frame → Prop
  | stays {action : Action Frame} {after : Account Frame} (other : attaches action = false)
      (stays : Stays before after) : Attends before action after
  | attach {tab : Tab} {after : Account Frame} (absent : before.handlers tab = .absent)
      (closing : after.closing = before.closing)
      (subscribers : ∀ other ∈ after.subscribers, other = tab ∨ other ∈ before.subscribers)
      (member : tab ∈ after.subscribers) (arrived : Live (after.handlers tab))
      (live : ∀ other, Live (before.handlers other) → Live (after.handlers other)) :
      Attends before (.attach tab) after
  | escapes {tab : Tab} : Attends before (.snapshotRaises tab) (before.setHandler tab .ended)
  | detach {tab : Tab} : Attends before (.detach tab) (before.detach tab)
  | busy {outcome : DisconnectOutcome} (tabs : before.subscribers ≠ []) :
      Attends before (.idleExpires outcome) { before with idleTask := false }
  | closes {outcome : DisconnectOutcome} (empty : before.subscribers = []) :
      Attends before (.idleExpires outcome) (before.close outcome)

theorem attends_attach (env : Env Frame) (account : Account Frame) (tab : Tab)
    (absent : account.handlers tab = .absent) :
    Attends account (.attach tab) (attach env account tab) := by
  have opened : ∀ opened : Account Frame,
      opened = { account.cancelIdle with subscribers := account.subscribers.insert tab } →
      ∀ after, Stays opened after → Live (after.handlers tab) →
        (∀ other ∈ opened.subscribers, other ∈ after.subscribers) →
        Attends account (.attach tab) after := by
    rintro opened rfl after stays arrived kept
    refine .attach absent stays.closing (fun other member => ?_) (kept tab ?_) arrived stays.live
    · exact List.mem_insert_iff.mp (stays.subscribers other member)
    · exact List.mem_insert_self
  unfold attach ensureConnected
  split_ifs with free
  · apply opened _ rfl _
    · have inside := stays_underLock env
        { account.cancelIdle with
          subscribers := account.subscribers.insert tab
          lockHolder := some tab } tab
      exact { inside with }
    · unfold underLock
      split_ifs <;> simp [sendSnapshot, setHandler, Account.send, Account.connect, Live]
    · intro other member
      unfold underLock
      split_ifs <;> exact member
  · refine opened _ rfl _ ?_ ?_ (fun other member => member)
    · have inside := stays_setHandler
        { account.cancelIdle with subscribers := account.subscribers.insert tab } tab .waitLock
        trivial
      exact { inside with }
    · simp [setHandler, Live]

theorem attends_of_step {env : Env Frame} {account next : Account Frame} {action : Action Frame}
    (fired : step env account action = some next) : Attends account action next := by
  cases fires_of_step fired with
  | attach absent => exact attends_attach env account _ absent
  | @lockGranted tab waiters =>
      have inside := stays_underLock env
        { account with lockHolder := some tab, lockWaiters := waiters } tab
      exact .stays rfl { inside with }
  | @connectReturns tab =>
      have inside := stays_sendSnapshot env account.connectEnds.releaseLock tab
      exact .stays rfl { inside with }
  | @connectRaises tab frame order =>
      have inside := stays_report env account.connectEnds tab frame order
      exact .stays rfl { inside with }
  | reported => exact .stays rfl ((stays_sendEnded account _ _).trans (stays_report env _ _ _ _))
  | snapshotSend => exact .stays rfl (stays_send account _ _)
  | snapshotEnds => exact .stays rfl (stays_setHandler account _ .pumping trivial)
  | snapshotRaises => exact .escapes
  | reply => exact .stays rfl (stays_send account _ _)
  | broadcast => exact .stays rfl (stays_broadcast account _ _ _)
  | broadcastSent => exact .stays rfl ((stays_sendEnded account _ _).trans (stays_broadcast _ _ _ _))
  | detach => exact .detach
  | idleExpires =>
      unfold idleCountdown
      split_ifs with empty
      · exact .closes empty
      · exact .busy empty
  | closerCancelled => exact .stays rfl { Stays.refl account with }
  | reconnectStarts => exact .stays rfl (stays_reconnectLoop account _)
  | reconnectWakes => exact .stays rfl (stays_reconnectWakes account _)
  | reconnectReturns => exact .stays rfl { Stays.refl account with }
  | @reconnectRaises delay =>
      have inside := stays_reconnectLoop account.connectEnds (nextDelay env.reconnect delay)
      exact .stays rfl { inside with }
  | reconnectCancelledConnecting => exact .stays rfl { Stays.refl account with }
  | reconnectCancelled => exact .stays rfl { Stays.refl account with }
  | clientUp => exact .stays rfl { Stays.refl account with }
  | drop => exact .stays rfl { Stays.refl account with }
  | event => exact .stays rfl (stays_startEvent account _ _ _)
  | @disconnected frame order =>
      have inside := stays_startEvent
        { account with pendingDrops := account.pendingDrops - 1 } frame .scheduleReconnect order
      exact .stays rfl { inside with }
  | eventSent =>
      exact .stays rfl ((stays_sendEnded account _ _).trans (stays_continueEvent _ _ _ _ _))

def Owned (account : Account Frame) : Prop :=
  ∀ tab ∈ account.subscribers, Live (account.handlers tab)

/-- The account is closed, or its countdown is pending, or a handler is left
that will start the countdown. -/
def Watched (account : Account Frame) : Prop :=
  account.closing = true ∨ account.idleTask = true ∨ ∃ tab, Live (account.handlers tab)

structure Tended (account : Account Frame) : Prop where
  owned : Owned account
  watched : Watched account

theorem fresh_owned : Owned (fresh : Account Frame) := fun _ member => by cases member

theorem tended_attach {account next : Account Frame} {tab : Tab} (owned : Owned account)
    (attends : Attends account (.attach tab) next) : Tended next := by
  cases attends with
  | stays other => cases other
  | attach absent closing subscribers member arrived live =>
      refine ⟨fun other inside => ?_, .inr (.inr ⟨tab, arrived⟩)⟩
      rcases subscribers other inside with rfl | earlier
      · exact arrived
      · exact live other (owned other earlier)

theorem tended_detach {account : Account Frame} (tab : Tab) (owned : Owned account) :
    Tended (account.detach tab) := by
  have stillOwned : ∀ other ∈ ((account.discard tab).setHandler tab .ended).subscribers,
      Live (((account.discard tab).setHandler tab .ended).handlers other) := by
    intro other member
    obtain ⟨earlier, different⟩ := List.mem_filter.mp member
    have apart : other ≠ tab := by simpa using different
    simpa [setHandler, Account.discard, apart] using owned other earlier
  simp only [Account.detach]
  split
  · exact ⟨stillOwned, .inr (.inl rfl)⟩
  · next remaining =>
      refine ⟨stillOwned, .inr (.inr ?_)⟩
      obtain ⟨other, member⟩ := List.exists_mem_of_ne_nil _ remaining
      exact ⟨other, stillOwned other member⟩

def escapes : Action Frame → Bool
  | .snapshotRaises _ => true
  | _ => false

theorem tended_step {account next : Account Frame} {action : Action Frame}
    (contained : escapes action = false) (tended : Tended account)
    (attends : Attends account action next) : Tended next := by
  have owned := tended.owned
  cases attends with
  | stays other stays =>
      refine ⟨fun tab member => stays.live tab (owned tab (stays.subscribers tab member)), ?_⟩
      rcases tended.watched with closing | idle | ⟨tab, live⟩
      · exact .inl (stays.closing.trans closing)
      · exact .inr (.inl (stays.idle.trans idle))
      · exact .inr (.inr ⟨tab, stays.live tab live⟩)
  | attach absent closing subscribers member arrived live =>
      exact tended_attach owned (.attach absent closing subscribers member arrived live)
  | escapes => cases contained
  | detach => exact tended_detach _ owned
  | busy tabs =>
      refine ⟨owned, .inr (.inr ?_)⟩
      obtain ⟨tab, member⟩ := List.exists_mem_of_ne_nil _ tabs
      exact ⟨tab, owned tab member⟩
  | @closes outcome empty =>
      have closing : (account.close outcome).closing = true := by cases outcome <;> rfl
      have nobody : (account.close outcome).subscribers = [] := by cases outcome <;> exact empty
      refine ⟨fun tab member => ?_, .inl closing⟩
      rw [nobody] at member
      cases member

/-- A closing account gets no new tab except through `attach`. -/
theorem closing_step {account next : Account Frame} {action : Action Frame}
    (other : attaches action = false) (attends : Attends account action next) :
    (next.closing = account.closing ∨ (account.subscribers = [] ∧ next.closing = true)) ∧
      (account.subscribers = [] → next.subscribers = []) := by
  cases attends with
  | stays _ stays =>
      refine ⟨.inl stays.closing, fun empty => List.eq_nil_iff_forall_not_mem.mpr fun tab member => ?_⟩
      have earlier := stays.subscribers tab member
      rw [empty] at earlier
      cases earlier
  | attach => cases other
  | escapes => exact ⟨.inl rfl, id⟩
  | @detach tab =>
      simp only [Account.detach]
      split <;> refine ⟨.inl rfl, fun empty => ?_⟩ <;>
        simp [startIdleTimer, cancelIdle, setHandler, Account.discard, empty]
  | busy => exact ⟨.inl rfl, id⟩
  | @closes outcome empty =>
      refine ⟨.inr ⟨empty, ?_⟩, fun _ => ?_⟩
      · cases outcome <;> rfl
      · cases outcome <;> exact empty

end PyConduit.Attendance
