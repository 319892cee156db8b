import Mathlib.Data.List.Perm.Basic
import Mathlib.Algebra.Order.Ring.Rat
import PyConduit.GuardedRun

/-!
# The lifecycle of one shared account

This is the part of `Account` that decides who is attached, whether a
connection attempt is running and when the account is closed: `attach`,
`detach`, `ensure_connected`, `_schedule_reconnect`, `_reconnect_loop`,
`_broadcast`, `_idle_countdown` and `close`, with the tasks that run them. One
action is what one task does between two suspensions, so a list of actions is
an interleaving. What a frame carries is left to the layer above.

The manager's lock is not part of the state. Both bodies it guards are free of
suspensions, so it is free whenever any task is resumed and taking it never
suspends; each guarded body is inside one action.
-/

namespace PyConduit.Lifecycle

set_option autoImplicit false

abbrev Tab := Nat

structure ReconnectConfig where
  initialSeconds : Rat := 1
  maxSeconds : Rat := 60
  factor : Rat := 2

/-- What the layer above supplies: the backoff settings and the first frame of
a tab's snapshot. -/
structure Env (Frame : Type) where
  reconnect : ReconnectConfig
  ready : Tab → Frame

def plainEnv : Env Unit := ⟨{}, fun _ => ()⟩

/-- Where the `/ws` handler of a tab is suspended. `waitLock`, `connecting` and
`reporting` are inside `ensure_connected`; the list of a broadcast begins with
the tab whose send is awaited. -/
inductive Handler (Frame : Type)
  | absent
  | waitLock
  | connecting
  | reporting (frame : Frame) (rest : List Tab)
  | snapshot
  | pumping
  | broadcasting (frame : Frame) (rest : List Tab)
  | ended

/-- `finished` stands for a `_reconnect_task` that is None or done. -/
inductive ReconnectTask
  | finished
  | created
  | sleeping (delay : Rat)
  | connecting (delay : Rat)
  deriving DecidableEq

inductive Afterwards
  | nothing
  | scheduleReconnect
  deriving DecidableEq

structure EventTask (Frame : Type) where
  frame : Frame
  rest : List Tab
  afterwards : Afterwards

structure ConnectCall where
  connected : Bool
  inFlight : Nat
  deriving DecidableEq

/-- The account's `XmppClient`, as far as the lifecycle uses it. `inFlight`
counts the calls of `connect()` that have not returned. -/
structure Client where
  connected : Bool
  inFlight : Nat
  calls : List ConnectCall

def Client.connect (client : Client) : Client :=
  { client with
    inFlight := client.inFlight + 1
    calls := client.calls ++ [⟨client.connected, client.inFlight⟩] }

def Client.connectEnds (client : Client) : Client :=
  { client with inFlight := client.inFlight - 1 }

inductive DisconnectOutcome
  | returned
  | raised
  | suspended
  deriving DecidableEq

/-- `idleTask` says that `_idle_task` is a countdown still in its sleep: a
cancelled or finished countdown does nothing more. `closers` counts the
countdowns suspended inside `close`, which have cancelled themselves.
`pendingDrops` counts the losses of the connection whose Disconnected event
has not been delivered. `sent` lists the calls of `send` in order. -/
structure Account (Frame : Type) where
  subscribers : List Tab
  idleTask : Bool
  reconnectTask : ReconnectTask
  reconnectCancelled : Bool
  lockHolder : Option Tab
  lockWaiters : List Tab
  closing : Bool
  client : Client
  handlers : Tab → Handler Frame
  events : List (EventTask Frame)
  pendingDrops : Nat
  closers : Nat
  sent : List (Tab × Frame)

variable {Frame : Type}

def fresh : Account Frame where
  subscribers := []
  idleTask := false
  reconnectTask := .finished
  reconnectCancelled := false
  lockHolder := none
  lockWaiters := []
  closing := false
  client := ⟨false, 0, []⟩
  handlers := fun _ => .absent
  events := []
  pendingDrops := 0
  closers := 0
  sent := []

namespace Account

def setHandler (account : Account Frame) (tab : Tab) (handler : Handler Frame) :
    Account Frame :=
  { account with handlers := Function.update account.handlers tab handler }

/-- One call of `send` on a tab; whether it raises is known when it ends. -/
def send (account : Account Frame) (tab : Tab) (frame : Frame) : Account Frame :=
  { account with sent := account.sent ++ [(tab, frame)] }

def discard (account : Account Frame) (tab : Tab) : Account Frame :=
  { account with subscribers := account.subscribers.filter (· ≠ tab) }

def sendEnded (account : Account Frame) (tab : Tab) (delivered : Bool) : Account Frame :=
  if delivered then account else account.discard tab

def cancelIdle (account : Account Frame) : Account Frame :=
  { account with idleTask := false }

def startIdleTimer (account : Account Frame) : Account Frame :=
  { account.cancelIdle with idleTask := true }

def connect (account : Account Frame) : Account Frame :=
  { account with client := account.client.connect }

def connectEnds (account : Account Frame) : Account Frame :=
  { account with client := account.client.connectEnds }

def scheduleReconnect (account : Account Frame) : Account Frame :=
  if account.reconnectTask ≠ .finished then account
  else if account.closing ∨ account.subscribers = [] then account
  else { account with reconnectTask := .created, reconnectCancelled := false }

/-- `ensure_connected` has returned: `attach` goes on with `_send_snapshot`,
whose first frame is always sent. -/
def sendSnapshot (env : Env Frame) (account : Account Frame) (tab : Tab) : Account Frame :=
  (account.setHandler tab .snapshot).send tab (env.ready tab)

/-- Leaving `async with self._connect_lock`. The first waiter is woken and takes
the lock when its task is resumed; until then nobody else can. -/
def releaseLock (account : Account Frame) : Account Frame :=
  { account with lockHolder := none }

def underLock (env : Env Frame) (account : Account Frame) (tab : Tab) : Account Frame :=
  if account.client.connected then sendSnapshot env account.releaseLock tab
  else account.connect.setHandler tab .connecting

def ensureConnected (env : Env Frame) (account : Account Frame) (tab : Tab) :
    Account Frame :=
  if account.lockHolder = none ∧ account.lockWaiters = [] then
    underLock env { account with lockHolder := some tab } tab
  else
    { account.setHandler tab .waitLock with lockWaiters := account.lockWaiters ++ [tab] }

/-- The broadcast of a failed `connect()` inside `ensure_connected`, with the
tabs that remain; after it a reconnect is scheduled and the lock released. -/
def report (env : Env Frame) (account : Account Frame) (tab : Tab) (frame : Frame) :
    List Tab → Account Frame
  | [] => sendSnapshot env account.scheduleReconnect.releaseLock tab
  | next :: rest => (account.setHandler tab (.reporting frame (next :: rest))).send next frame

def attach (env : Env Frame) (account : Account Frame) (tab : Tab) : Account Frame :=
  ensureConnected env
    { account.cancelIdle with subscribers := account.subscribers.insert tab } tab

def detach (account : Account Frame) (tab : Tab) : Account Frame :=
  let remaining := (account.discard tab).setHandler tab .ended
  if remaining.subscribers = [] then remaining.startIdleTimer else remaining

def broadcast (account : Account Frame) (tab : Tab) (frame : Frame) :
    List Tab → Account Frame
  | [] => account.setHandler tab .pumping
  | next :: rest => (account.setHandler tab (.broadcasting frame (next :: rest))).send next frame

def finishEvent (account : Account Frame) : Afterwards → Account Frame
  | .nothing => account
  | .scheduleReconnect => account.scheduleReconnect

def startEvent (account : Account Frame) (frame : Frame) (afterwards : Afterwards) :
    List Tab → Account Frame
  | [] => account.finishEvent afterwards
  | next :: rest =>
      { account.send next frame with
        events := account.events ++ [⟨frame, next :: rest, afterwards⟩] }

/-- The awaited send of the event handler at `index` is over and `rest` remains. -/
def continueEvent (account : Account Frame) (index : Nat) (frame : Frame)
    (afterwards : Afterwards) : List Tab → Account Frame
  | [] => { account with events := account.events.eraseIdx index }.finishEvent afterwards
  | next :: rest =>
      { account.send next frame with
        events := account.events.set index ⟨frame, next :: rest, afterwards⟩ }

/-- The condition of the `while` of `_reconnect_loop`, then its sleep. -/
def reconnectLoop (account : Account Frame) (delay : Rat) : Account Frame :=
  if account.closing = false ∧ account.subscribers ≠ [] ∧ account.client.connected = false then
    { account with reconnectTask := .sleeping delay }
  else { account with reconnectTask := .finished }

/-- After the sleep: the two guards of the source, then `connect()`. -/
def reconnectWakes (account : Account Frame) (delay : Rat) : Account Frame :=
  if account.closing ∨ account.subscribers = [] then
    { account with reconnectTask := .finished }
  else { account.connect with reconnectTask := .connecting delay }

def nextDelay (config : ReconnectConfig) (delay : Rat) : Rat :=
  min (delay * config.factor) config.maxSeconds

/-- `close` up to and including what is known of `disconnect()` at its first
suspension. `_cancel_idle` cancels the countdown that runs this very code. -/
def close (account : Account Frame) (outcome : DisconnectOutcome) : Account Frame :=
  let cancelled : Account Frame :=
    { account.cancelIdle with
      closing := true
      reconnectCancelled :=
        if account.reconnectTask = .finished then account.reconnectCancelled else true }
  match outcome with
  | .returned => { cancelled with client := { cancelled.client with connected := false } }
  | .raised => cancelled
  | .suspended => { cancelled with closers := cancelled.closers + 1 }

/-- The countdown after its sleep, up to the call of `_on_idle_expired`. -/
def idleCountdown (account : Account Frame) (outcome : DisconnectOutcome) : Account Frame :=
  if account.subscribers = [] then account.close outcome else { account with idleTask := false }

/-- Whether the countdown reaches the call of `_on_idle_expired`: the pending
cancellation strikes at the first suspension, which is inside `disconnect()` or
nowhere. -/
def callsIdleExpired (account : Account Frame) (outcome : DisconnectOutcome) : Bool :=
  account.subscribers = [] ∧ outcome ≠ .suspended

end Account

/-- What a task does between two suspensions. `order` is the order in which
`list(self._subscribers)` enumerates the set. -/
inductive Action (Frame : Type)
  | attach (tab : Tab)
  | lockGranted (tab : Tab)
  | connectReturns (tab : Tab)
  | connectRaises (tab : Tab) (frame : Frame) (order : List Tab)
  | reported (tab : Tab) (delivered : Bool)
  | snapshotSend (tab : Tab) (frame : Frame)
  | snapshotEnds (tab : Tab)
  | snapshotRaises (tab : Tab)
  | reply (tab : Tab) (frame : Frame)
  | broadcast (tab : Tab) (frame : Frame) (order : List Tab)
  | broadcastSent (tab : Tab) (delivered : Bool)
  | detach (tab : Tab)
  | idleExpires (outcome : DisconnectOutcome)
  | closerCancelled
  | reconnectStarts
  | reconnectWakes
  | reconnectReturns
  | reconnectRaises
  | reconnectCancelled
  | clientUp
  | drop
  | event (frame : Frame) (afterwards : Afterwards) (order : List Tab)
  | eventSent (index : Nat) (delivered : Bool)

open Account in
/-- One action; `none` when the task it names is not at that suspension. -/
def step (env : Env Frame) (account : Account Frame) :
    Action Frame → Option (Account Frame)
  | .attach tab =>
      match account.handlers tab with
      | .absent => some (attach env account tab)
      | _ => none
  | .lockGranted tab =>
      match account.handlers tab, account.lockWaiters with
      | .waitLock, first :: waiters =>
          if account.lockHolder = none ∧ first = tab then
            some (underLock env
              { account with lockHolder := some tab, lockWaiters := waiters } tab)
          else none
      | _, _ => none
  | .connectReturns tab =>
      match account.handlers tab with
      | .connecting => some (sendSnapshot env account.connectEnds.releaseLock tab)
      | _ => none
  | .connectRaises tab frame order =>
      match account.handlers tab with
      | .connecting =>
          if order.Perm account.subscribers then
            some (report env account.connectEnds tab frame order)
          else none
      | _ => none
  | .reported tab delivered =>
      match account.handlers tab with
      | .reporting frame (current :: rest) =>
          some (report env (account.sendEnded current delivered) tab frame rest)
      | _ => none
  | .snapshotSend tab frame =>
      match account.handlers tab with
      | .snapshot => some (account.send tab frame)
      | _ => none
  | .snapshotEnds tab =>
      match account.handlers tab with
      | .snapshot => some (account.setHandler tab .pumping)
      | _ => none
  | .snapshotRaises tab =>
      match account.handlers tab with
      -- `handle_ws` awaits `manager.attach` before its `try`, so no `detach` follows
      | .snapshot => some (account.setHandler tab .ended)
      | _ => none
  | .reply tab frame =>
      match account.handlers tab with
      | .pumping => some (account.send tab frame)
      | _ => none
  | .broadcast tab frame order =>
      match account.handlers tab with
      | .pumping =>
          if order.Perm account.subscribers then some (account.broadcast tab frame order)
          else none
      | _ => none
  | .broadcastSent tab delivered =>
      match account.handlers tab with
      | .broadcasting frame (current :: rest) =>
          some ((account.sendEnded current delivered).broadcast tab frame rest)
      | _ => none
  | .detach tab =>
      match account.handlers tab with
      | .pumping => some (account.detach tab)
      | _ => none
  | .idleExpires outcome =>
      if account.idleTask then some (account.idleCountdown outcome) else none
  | .closerCancelled =>
      if 0 < account.closers then some { account with closers := account.closers - 1 } else none
  | .reconnectStarts =>
      match account.reconnectTask, account.reconnectCancelled with
      | .created, false => some (account.reconnectLoop env.reconnect.initialSeconds)
      | _, _ => none
  | .reconnectWakes =>
      match account.reconnectTask, account.reconnectCancelled with
      | .sleeping delay, false => some (account.reconnectWakes delay)
      | _, _ => none
  | .reconnectReturns =>
      match account.reconnectTask, account.reconnectCancelled with
      | .connecting _, false => some { account.connectEnds with reconnectTask := .finished }
      | _, _ => none
  | .reconnectRaises =>
      match account.reconnectTask, account.reconnectCancelled with
      | .connecting delay, false =>
          some (account.connectEnds.reconnectLoop (nextDelay env.reconnect delay))
      | _, _ => none
  | .reconnectCancelled =>
      match account.reconnectTask, account.reconnectCancelled with
      | .finished, _ => none
      | .connecting _, true => some { account.connectEnds with reconnectTask := .finished }
      | _, true => some { account with reconnectTask := .finished }
      | _, false => none
  | .clientUp =>
      some { account with client := { account.client with connected := true } }
  | .drop =>
      if account.client.connected then
        some { account with
          client := { account.client with connected := false }
          pendingDrops := account.pendingDrops + 1 }
      else none
  | .event frame afterwards order =>
      if order.Perm account.subscribers then
        let delivered : Account Frame := match afterwards with
          | .nothing => account
          | .scheduleReconnect => { account with pendingDrops := account.pendingDrops - 1 }
        some (delivered.startEvent frame afterwards order)
      else none
  | .eventSent index delivered =>
      match account.events[index]? with
      | some ⟨frame, current :: rest, afterwards⟩ =>
          some ((account.sendEnded current delivered).continueEvent index frame afterwards rest)
      | _ => none

open Account in
/-- The inversion of `step`: what each action asks of the state and what it
leaves. Every invariant of the lifecycle is a case analysis of this relation. -/
inductive Fires (env : Env Frame) (account : Account Frame) :
    Action Frame → Account Frame → Prop
  | attach {tab : Tab} (absent : account.handlers tab = .absent) :
      Fires env account (.attach tab) (attach env account tab)
  | lockGranted {tab : Tab} {waiters : List Tab} (waiting : account.handlers tab = .waitLock)
      (first : account.lockWaiters = tab :: waiters) (free : account.lockHolder = none) :
      Fires env account (.lockGranted tab)
        (underLock env { account with lockHolder := some tab, lockWaiters := waiters } tab)
  | connectReturns {tab : Tab} (connecting : account.handlers tab = .connecting) :
      Fires env account (.connectReturns tab)
        (sendSnapshot env account.connectEnds.releaseLock tab)
  | connectRaises {tab : Tab} {frame : Frame} {order : List Tab}
      (connecting : account.handlers tab = .connecting)
      (enumerated : order.Perm account.subscribers) :
      Fires env account (.connectRaises tab frame order)
        (report env account.connectEnds tab frame order)
  | reported {tab current : Tab} {delivered : Bool} {frame : Frame} {rest : List Tab}
      (reporting : account.handlers tab = .reporting frame (current :: rest)) :
      Fires env account (.reported tab delivered)
        (report env (account.sendEnded current delivered) tab frame rest)
  | snapshotSend {tab : Tab} {frame : Frame} (inside : account.handlers tab = .snapshot) :
      Fires env account (.snapshotSend tab frame) (account.send tab frame)
  | snapshotEnds {tab : Tab} (inside : account.handlers tab = .snapshot) :
      Fires env account (.snapshotEnds tab) (account.setHandler tab .pumping)
  | snapshotRaises {tab : Tab} (inside : account.handlers tab = .snapshot) :
      Fires env account (.snapshotRaises tab) (account.setHandler tab .ended)
  | reply {tab : Tab} {frame : Frame} (pumping : account.handlers tab = .pumping) :
      Fires env account (.reply tab frame) (account.send tab frame)
  | broadcast {tab : Tab} {frame : Frame} {order : List Tab}
      (pumping : account.handlers tab = .pumping)
      (enumerated : order.Perm account.subscribers) :
      Fires env account (.broadcast tab frame order) (account.broadcast tab frame order)
  | broadcastSent {tab current : Tab} {delivered : Bool} {frame : Frame} {rest : List Tab}
      (sending : account.handlers tab = .broadcasting frame (current :: rest)) :
      Fires env account (.broadcastSent tab delivered)
        ((account.sendEnded current delivered).broadcast tab frame rest)
  | detach {tab : Tab} (pumping : account.handlers tab = .pumping) :
      Fires env account (.detach tab) (account.detach tab)
  | idleExpires {outcome : DisconnectOutcome} (asleep : account.idleTask = true) :
      Fires env account (.idleExpires outcome) (account.idleCountdown outcome)
  | closerCancelled (inside : 0 < account.closers) :
      Fires env account .closerCancelled { account with closers := account.closers - 1 }
  | reconnectStarts (created : account.reconnectTask = .created)
      (running : account.reconnectCancelled = false) :
      Fires env account .reconnectStarts (account.reconnectLoop env.reconnect.initialSeconds)
  | reconnectWakes {delay : Rat} (sleeping : account.reconnectTask = .sleeping delay)
      (running : account.reconnectCancelled = false) :
      Fires env account .reconnectWakes (account.reconnectWakes delay)
  | reconnectReturns {delay : Rat} (connecting : account.reconnectTask = .connecting delay)
      (running : account.reconnectCancelled = false) :
      Fires env account .reconnectReturns
        { account.connectEnds with reconnectTask := .finished }
  | reconnectRaises {delay : Rat} (connecting : account.reconnectTask = .connecting delay)
      (running : account.reconnectCancelled = false) :
      Fires env account .reconnectRaises
        (account.connectEnds.reconnectLoop (nextDelay env.reconnect delay))
  | reconnectCancelledConnecting {delay : Rat}
      (connecting : account.reconnectTask = .connecting delay)
      (cancelled : account.reconnectCancelled = true) :
      Fires env account .reconnectCancelled
        { account.connectEnds with reconnectTask := .finished }
  | reconnectCancelled (unfinished : account.reconnectTask ≠ .finished)
      (notConnecting : ∀ delay, account.reconnectTask ≠ .connecting delay)
      (cancelled : account.reconnectCancelled = true) :
      Fires env account .reconnectCancelled { account with reconnectTask := .finished }
  | clientUp :
      Fires env account .clientUp
        { account with client := { account.client with connected := true } }
  | drop (connected : account.client.connected = true) :
      Fires env account .drop
        { account with
          client := { account.client with connected := false }
          pendingDrops := account.pendingDrops + 1 }
  | event {frame : Frame} {order : List Tab} (enumerated : order.Perm account.subscribers) :
      Fires env account (.event frame .nothing order)
        (account.startEvent frame .nothing order)
  | disconnected {frame : Frame} {order : List Tab}
      (enumerated : order.Perm account.subscribers) :
      Fires env account (.event frame .scheduleReconnect order)
        ({ account with pendingDrops := account.pendingDrops - 1 }.startEvent frame
          .scheduleReconnect order)
  | eventSent {index : Nat} {delivered : Bool} {frame : Frame} {current : Tab}
      {rest : List Tab} {afterwards : Afterwards}
      (sending : account.events[index]? = some ⟨frame, current :: rest, afterwards⟩) :
      Fires env account (.eventSent index delivered)
        ((account.sendEnded current delivered).continueEvent index frame afterwards rest)

theorem fires_of_step {env : Env Frame} {account next : Account Frame} {action : Action Frame}
    (fired : step env account action = some next) : Fires env account action next := by
  cases action with
  | attach tab =>
      cases found : account.handlers tab <;> simp only [step, found, reduceCtorEq] at fired
      cases fired
      exact .attach found
  | lockGranted tab =>
      cases found : account.handlers tab <;> simp only [step, found, reduceCtorEq] at fired
      cases waiting : account.lockWaiters with
      | nil => simp only [waiting, reduceCtorEq] at fired
      | cons first waiters =>
          simp only [waiting, Option.ite_none_right_eq_some] at fired
          obtain ⟨⟨free, rfl⟩, same⟩ := fired
          cases same
          exact .lockGranted found waiting free
  | connectReturns tab =>
      cases found : account.handlers tab <;> simp only [step, found, reduceCtorEq] at fired
      cases fired
      exact .connectReturns found
  | connectRaises tab frame order =>
      cases found : account.handlers tab <;>
        simp only [step, found, reduceCtorEq, Option.ite_none_right_eq_some] at fired
      obtain ⟨enumerated, same⟩ := fired
      cases same
      exact .connectRaises found enumerated
  | reported tab delivered =>
      cases found : account.handlers tab with
      | reporting frame rest =>
          cases rest with
          | nil => simp only [step, found, reduceCtorEq] at fired
          | cons current rest =>
              simp only [step, found] at fired
              cases fired
              exact .reported found
      | _ => simp only [step, found, reduceCtorEq] at fired
  | snapshotSend tab frame =>
      cases found : account.handlers tab <;> simp only [step, found, reduceCtorEq] at fired
      cases fired
      exact .snapshotSend found
  | snapshotEnds tab =>
      cases found : account.handlers tab <;> simp only [step, found, reduceCtorEq] at fired
      cases fired
      exact .snapshotEnds found
  | snapshotRaises tab =>
      cases found : account.handlers tab <;> simp only [step, found, reduceCtorEq] at fired
      cases fired
      exact .snapshotRaises found
  | reply tab frame =>
      cases found : account.handlers tab <;> simp only [step, found, reduceCtorEq] at fired
      cases fired
      exact .reply found
  | broadcast tab frame order =>
      cases found : account.handlers tab <;>
        simp only [step, found, reduceCtorEq, Option.ite_none_right_eq_some] at fired
      obtain ⟨enumerated, same⟩ := fired
      cases same
      exact .broadcast found enumerated
  | broadcastSent tab delivered =>
      cases found : account.handlers tab with
      | broadcasting frame rest =>
          cases rest with
          | nil => simp only [step, found, reduceCtorEq] at fired
          | cons current rest =>
              simp only [step, found] at fired
              cases fired
              exact .broadcastSent found
      | _ => simp only [step, found, reduceCtorEq] at fired
  | detach tab =>
      cases found : account.handlers tab <;> simp only [step, found, reduceCtorEq] at fired
      cases fired
      exact .detach found
  | idleExpires outcome =>
      simp only [step, Option.ite_none_right_eq_some] at fired
      obtain ⟨asleep, same⟩ := fired
      cases same
      exact .idleExpires asleep
  | closerCancelled =>
      simp only [step, Option.ite_none_right_eq_some] at fired
      obtain ⟨inside, same⟩ := fired
      cases same
      exact .closerCancelled inside
  | reconnectStarts =>
      cases found : account.reconnectTask <;> cases flag : account.reconnectCancelled <;>
        simp only [step, found, flag, reduceCtorEq] at fired
      cases fired
      exact .reconnectStarts found flag
  | reconnectWakes =>
      cases found : account.reconnectTask <;> cases flag : account.reconnectCancelled <;>
        simp only [step, found, flag, reduceCtorEq] at fired
      cases fired
      exact .reconnectWakes found flag
  | reconnectReturns =>
      cases found : account.reconnectTask <;> cases flag : account.reconnectCancelled <;>
        simp only [step, found, flag, reduceCtorEq] at fired
      cases fired
      exact .reconnectReturns found flag
  | reconnectRaises =>
      cases found : account.reconnectTask <;> cases flag : account.reconnectCancelled <;>
        simp only [step, found, flag, reduceCtorEq] at fired
      cases fired
      exact .reconnectRaises found flag
  | reconnectCancelled =>
      cases found : account.reconnectTask <;> cases flag : account.reconnectCancelled <;>
        simp only [step, found, flag, reduceCtorEq] at fired <;> cases fired
      · simpa only [flag] using Fires.reconnectCancelled (by simp [found]) (by simp [found]) flag
      · simpa only [flag] using Fires.reconnectCancelled (by simp [found]) (by simp [found]) flag
      · exact .reconnectCancelledConnecting found flag
  | clientUp =>
      cases fired
      exact .clientUp
  | drop =>
      simp only [step, Option.ite_none_right_eq_some] at fired
      obtain ⟨connected, same⟩ := fired
      cases same
      exact .drop connected
  | event frame afterwards order =>
      simp only [step, Option.ite_none_right_eq_some] at fired
      obtain ⟨enumerated, same⟩ := fired
      cases afterwards <;> cases same
      · exact .event enumerated
      · exact .disconnected enumerated
  | eventSent index delivered =>
      simp only [step] at fired
      split at fired
      · next frame current rest afterwards sending =>
          cases fired
          exact .eventSent sending
      · cases fired

end PyConduit.Lifecycle
