import Mathlib.Data.Prod.Lex
import Mathlib.Order.WithBot
import PyConduit.Endless
import PyConduit.Footprint

/-!
# The connect lock serves every tab

`ensure_connected` runs under `_connect_lock`. Of the account only the lock and the place
of each handler inside it matter here; what an action does to them is said once. Whoever
asks for the lock gets through if each call of `connect()` ends, each send of a broadcast
ends, and a task that is woken is run.
-/

namespace PyConduit.ConnectLock

open Lifecycle Lifecycle.Account GuardedRun Endless

set_option autoImplicit false

variable {Frame : Type}

/-- Where a handler is in `ensure_connected`; a report has sends left to await. -/
inductive Stage
  | outside
  | waiting
  | connecting
  | reporting (left : Nat)
  deriving DecidableEq

def stageOf : Handler Frame → Stage
  | .waitLock => .waiting
  | .connecting => .connecting
  | .reporting _ rest => .reporting rest.length
  | _ => .outside

@[ext]
structure View where
  holder : Option Tab
  waiters : List Tab
  stages : Tab → Stage

namespace View

def place (lock : View) (tab : Tab) (stage : Stage) : View :=
  { lock with stages := Function.update lock.stages tab stage }

def enter (lock : View) (tab : Tab) : View := { lock.place tab .connecting with holder := some tab }

def release (lock : View) (tab : Tab) : View := { lock.place tab .outside with holder := none }

def queue (lock : View) (tab : Tab) : View :=
  { lock.place tab .waiting with waiters := lock.waiters ++ [tab] }

def Free (lock : View) : Prop := lock.holder = none ∧ lock.waiters = []

theorem place_same {lock : View} {tab : Tab} {stage : Stage} (there : lock.stages tab = stage) :
    lock.place tab stage = lock := by
  have same : Function.update lock.stages tab stage = lock.stages := by
    rw [← there]
    exact Function.update_eq_self tab lock.stages
  rw [place, same]

end View

def view (account : Account Frame) : View :=
  ⟨account.lockHolder, account.lockWaiters, fun tab => stageOf (account.handlers tab)⟩

def Works (tab : Tab) : Action Frame → Prop
  | .connectReturns other => other = tab
  | .connectRaises other _ _ => other = tab
  | .reported other _ => other = tab
  | _ => False

def Resumes (tab : Tab) (action : Action Frame) : Prop :=
  action = .lockGranted tab ∨ Works tab action

inductive Move (before : View) : Action Frame → View → Prop
  | still {action : Action Frame} (elsewhere : ∀ tab, ¬Resumes tab action)
      (notAsked : ∀ tab, action ≠ .attach tab) : Move before action before
  | passes {tab : Tab} (outside : before.stages tab = .outside) (free : before.Free) :
      Move before (.attach tab) before
  | enters {tab : Tab} (outside : before.stages tab = .outside) (free : before.Free) :
      Move before (.attach tab) (before.enter tab)
  | queues {tab : Tab} (outside : before.stages tab = .outside) (busy : ¬before.Free) :
      Move before (.attach tab) (before.queue tab)
  | grantPasses {tab : Tab} {rest : List Tab} (waiting : before.stages tab = .waiting)
      (first : before.waiters = tab :: rest) (free : before.holder = none) :
      Move before (.lockGranted tab) ({ before with waiters := rest }.release tab)
  | grantEnters {tab : Tab} {rest : List Tab} (waiting : before.stages tab = .waiting)
      (first : before.waiters = tab :: rest) (free : before.holder = none) :
      Move before (.lockGranted tab) ({ before with waiters := rest }.enter tab)
  | reports {tab : Tab} {action : Action Frame} {left : Nat} (works : Works tab action)
      (connecting : before.stages tab = .connecting) :
      Move before action (before.place tab (.reporting (left + 1)))
  | reported {tab : Tab} {action : Action Frame} {left : Nat} (works : Works tab action)
      (reporting : before.stages tab = .reporting (left + 2)) :
      Move before action (before.place tab (.reporting (left + 1)))
  | releases {tab : Tab} {action : Action Frame} (works : Works tab action)
      (inside : before.stages tab = .connecting ∨ before.stages tab = .reporting 1) :
      Move before action (before.release tab)

section Moves

variable {env : Env Frame} {account next : Account Frame}

theorem view_set_handler (account : Account Frame) (tab : Tab) (handler : Handler Frame) :
    view (account.setHandler tab handler) = (view account).place tab (stageOf handler) := by
  have stages : (fun other => stageOf (Function.update account.handlers tab handler other)) =
      Function.update (fun other => stageOf (account.handlers other)) tab (stageOf handler) := by
    funext other
    exact Function.apply_update (fun _ => stageOf) account.handlers tab handler other
  simp only [view, setHandler, View.place, stages]

theorem view_schedule (account : Account Frame) : view account.scheduleReconnect = view account := by
  unfold scheduleReconnect
  split_ifs
  all_goals rfl

theorem view_send_ended (account : Account Frame) (tab : Tab) (delivered : Bool) :
    view (account.sendEnded tab delivered) = view account := by
  cases delivered
  all_goals rfl

theorem view_send_snapshot (env : Env Frame) (account : Account Frame) (tab : Tab) :
    view (sendSnapshot env account tab) = (view account).place tab .outside :=
  view_set_handler account tab .snapshot

theorem view_report (env : Env Frame) (account : Account Frame) (tab : Tab) (frame : Frame) :
    ∀ order : List Tab, view (report env account tab frame order) =
      match order with
      | [] => (view account).release tab
      | _ :: rest => (view account).place tab (.reporting (rest.length + 1))
  | [] => by
      have scheduled := view_schedule account
      rw [report, view_send_snapshot, View.release, ← scheduled]
      rfl
  | next :: rest => view_set_handler account tab (.reporting frame (next :: rest))

theorem view_broadcast (account : Account Frame) (tab : Tab) (frame : Frame) (order : List Tab)
    (outside : stageOf (account.handlers tab) = .outside) :
    view (account.broadcast tab frame order) = view account := by
  have same : (view account).place tab .outside = view account := View.place_same outside
  cases order with
  | nil => exact (view_set_handler account tab .pumping).trans same
  | cons next rest =>
      exact (view_set_handler account tab (.broadcasting frame (next :: rest))).trans same

theorem view_finish_event (account : Account Frame) (afterwards : Afterwards) :
    view (account.finishEvent afterwards) = view account := by
  cases afterwards with
  | nothing => rfl
  | scheduleReconnect => exact view_schedule account

theorem view_start_event (account : Account Frame) (frame : Frame) (afterwards : Afterwards)
    (order : List Tab) : view (account.startEvent frame afterwards order) = view account := by
  cases order with
  | nil => exact view_finish_event account afterwards
  | cons next rest => rfl

theorem view_continue_event (account : Account Frame) (index : Nat) (frame : Frame)
    (afterwards : Afterwards) (rest : List Tab) :
    view (account.continueEvent index frame afterwards rest) = view account := by
  cases rest with
  | nil => exact view_finish_event { account with events := account.events.eraseIdx index } afterwards
  | cons next rest => rfl

theorem view_under_lock (env : Env Frame) (account : Account Frame) (tab : Tab)
    (held : account.lockHolder = some tab) :
    view (underLock env account tab) = (view account).release tab ∨
      view (underLock env account tab) = (view account).enter tab := by
  unfold underLock
  split_ifs
  · left
    exact view_send_snapshot env account.releaseLock tab
  · right
    have called := view_set_handler account.connect tab .connecting
    rw [called, View.enter]
    have holder : (view account).holder = some tab := held
    rw [← holder]
    rfl

theorem move_of_step {action : Action Frame} (fired : step env account action = some next) :
    Move (view account) action (view next) := by
  have still : ∀ {after : View}, after = view account → (∀ tab, ¬Resumes tab action) →
      (∀ tab, action ≠ .attach tab) → Move (view account) action after := by
    rintro after rfl elsewhere notAsked
    exact .still elsewhere notAsked
  cases fires_of_step fired with
  | @attach tab absent =>
      have outside : (view account).stages tab = .outside := by simp [view, absent, stageOf]
      unfold attach ensureConnected
      split_ifs with free
      · have isFree : (view account).Free := free
        rcases view_under_lock env { account.cancelIdle with
            subscribers := account.subscribers.insert tab, lockHolder := some tab } tab rfl with
          released | entered
        · have same : (view account).release tab = view account := by
            rw [View.release, View.place_same outside, ← isFree.1]
          rw [released]
          exact (congrArg (Move (view account) (.attach tab)) same).mpr (.passes outside isFree)
        · rw [entered]
          exact .enters outside isFree
      · have queued := view_set_handler
          { account.cancelIdle with subscribers := account.subscribers.insert tab } tab .waitLock
        have here : ∀ waiters, ({ view (setHandler { account.cancelIdle with
            subscribers := account.subscribers.insert tab } tab .waitLock) with
              waiters := waiters } : View) = { (view account).place tab .waiting with
                waiters := waiters } := by
          intro waiters
          rw [queued]
          rfl
        have after := here (account.lockWaiters ++ [tab])
        exact (congrArg (Move (view account) (.attach tab)) after).mpr (.queues outside free)
  | @lockGranted tab waiters waiting first free =>
      have queued : (view account).stages tab = .waiting := by simp [view, waiting, stageOf]
      rcases view_under_lock env { account with lockHolder := some tab, lockWaiters := waiters } tab
        rfl with released | entered
      · rw [released]
        exact .grantPasses queued first free
      · rw [entered]
        exact .grantEnters queued first free
  | @connectReturns tab connecting =>
      have inside : (view account).stages tab = .connecting := by simp [view, connecting, stageOf]
      rw [view_send_snapshot]
      exact .releases rfl (.inl inside)
  | @connectRaises tab frame order connecting =>
      have inside : (view account).stages tab = .connecting := by simp [view, connecting, stageOf]
      rw [view_report]
      cases order with
      | nil => exact .releases rfl (.inl inside)
      | cons next rest => exact .reports rfl inside
  | @reported tab current delivered frame rest reporting =>
      have inside : (view account).stages tab = .reporting (rest.length + 1) := by
        simp [view, reporting, stageOf]
      rw [view_report, view_send_ended]
      cases rest with
      | nil => exact .releases rfl (.inr inside)
      | cons next rest => exact .reported rfl inside
  | snapshotSend => exact still rfl (by simp [Resumes, Works]) (by simp)
  | snapshotEnds inside =>
      refine still ?_ (by simp [Resumes, Works]) (by simp)
      rw [view_set_handler]
      exact View.place_same (by simp [view, inside, stageOf])
  | snapshotRaises inside =>
      refine still ?_ (by simp [Resumes, Works]) (by simp)
      rw [view_set_handler]
      exact View.place_same (by simp [view, inside, stageOf])
  | reply => exact still rfl (by simp [Resumes, Works]) (by simp)
  | broadcast pumping =>
      refine still ?_ (by simp [Resumes, Works]) (by simp)
      exact view_broadcast account _ _ _ (by simp [pumping, stageOf])
  | @broadcastSent tab current delivered frame rest sending =>
      refine still ?_ (by simp [Resumes, Works]) (by simp)
      rw [view_broadcast, view_send_ended]
      have kept : (account.sendEnded current delivered).handlers = account.handlers := by
        cases delivered
        all_goals rfl
      simp [kept, sending, stageOf]
  | @detach tab pumping =>
      refine still ?_ (by simp [Resumes, Works]) (by simp)
      have ended := view_set_handler (account.discard tab) tab .ended
      have same : (view (account.discard tab)).place tab .outside = view account :=
        View.place_same (by simp [view, Account.discard, pumping, stageOf])
      unfold Account.detach
      dsimp only
      split_ifs
      · exact ended.trans same
      · exact ended.trans same
  | @idleExpires outcome =>
      refine still ?_ (by simp [Resumes, Works]) (by simp)
      unfold idleCountdown
      split_ifs
      · cases outcome
        all_goals rfl
      · rfl
  | closerCancelled => exact still rfl (by simp [Resumes, Works]) (by simp)
  | reconnectStarts =>
      refine still ?_ (by simp [Resumes, Works]) (by simp)
      unfold Account.reconnectLoop
      split_ifs
      all_goals rfl
  | reconnectWakes =>
      refine still ?_ (by simp [Resumes, Works]) (by simp)
      unfold Account.reconnectWakes
      split_ifs
      all_goals rfl
  | reconnectReturns => exact still rfl (by simp [Resumes, Works]) (by simp)
  | reconnectRaises =>
      refine still ?_ (by simp [Resumes, Works]) (by simp)
      unfold Account.reconnectLoop
      split_ifs
      all_goals rfl
  | reconnectCancelledConnecting => exact still rfl (by simp [Resumes, Works]) (by simp)
  | reconnectCancelled => exact still rfl (by simp [Resumes, Works]) (by simp)
  | clientUp => exact still rfl (by simp [Resumes, Works]) (by simp)
  | drop => exact still rfl (by simp [Resumes, Works]) (by simp)
  | event => exact still (view_start_event account _ _ _) (by simp [Resumes, Works]) (by simp)
  | disconnected => exact still (view_start_event _ _ _ _) (by simp [Resumes, Works]) (by simp)
  | eventSent =>
      refine still ?_ (by simp [Resumes, Works]) (by simp)
      rw [view_continue_event, view_send_ended]

end Moves

/-- The holder is inside and nobody else is; the queue lists just those who wait. -/
structure Sound (lock : View) : Prop where
  held : ∀ tab, lock.holder = some tab →
    lock.stages tab = .connecting ∨ ∃ left, lock.stages tab = .reporting (left + 1)
  inside : ∀ tab, lock.stages tab = .connecting ∨ (∃ left, lock.stages tab = .reporting left) →
    lock.holder = some tab
  queued : ∀ tab, tab ∈ lock.waiters ↔ lock.stages tab = .waiting
  distinct : lock.waiters.Nodup

section Soundness

variable {lock next : View} {tab : Tab}

theorem stage_placed (lock : View) (tab other : Tab) (stage : Stage) :
    (lock.place tab stage).stages other = if other = tab then stage else lock.stages other :=
  Function.update_apply ..

theorem fresh_sound : Sound (view (fresh : Account Frame)) := by
  refine ⟨?_, ?_, ?_, List.nodup_nil⟩
  · intro tab holds
    cases holds
  · rintro tab (there | ⟨left, there⟩)
    · cases there
    · cases there
  · intro tab
    simp [view, fresh, stageOf]

theorem sound_move {action : Action Frame} (sound : Sound lock) (move : Move lock action next) :
    Sound next := by
  obtain ⟨held, inside, queued, distinct⟩ := sound
  cases move with
  | still => exact ⟨held, inside, queued, distinct⟩
  | passes => exact ⟨held, inside, queued, distinct⟩
  | @enters tab outside free =>
      obtain ⟨nobody, empty⟩ := free
      constructor
      all_goals simp only [View.enter, View.place, Function.update_apply]
      all_goals grind
  | @queues tab outside busy =>
      constructor
      all_goals simp only [View.queue, View.place, Function.update_apply]
      all_goals grind
  | @grantPasses tab rest waiting first free =>
      constructor
      all_goals simp only [View.release, View.place, Function.update_apply]
      all_goals grind
  | @grantEnters tab rest waiting first free =>
      constructor
      all_goals simp only [View.enter, View.place, Function.update_apply]
      all_goals grind
  | @reports tab _ left works connecting =>
      have holds := inside tab (.inl connecting)
      constructor
      all_goals simp only [View.place, Function.update_apply]
      all_goals grind
  | @reported tab _ left works reporting =>
      have holds := inside tab (.inr ⟨left + 2, reporting⟩)
      constructor
      all_goals simp only [View.place, Function.update_apply]
      all_goals grind
  | @releases tab _ works there =>
      have holds := inside tab (there.imp_right fun reporting => ⟨1, reporting⟩)
      have nobody : ∀ other, other ≠ tab →
          lock.stages other ≠ .connecting ∧ ∀ left, lock.stages other ≠ .reporting left := by
        intro other apart
        have notHolder : lock.holder ≠ some other := by
          rw [holds]
          exact fun same => apart (Option.some.inj same).symm
        exact ⟨fun busy => notHolder (inside other (.inl busy)),
          fun left busy => notHolder (inside other (.inr ⟨left, busy⟩))⟩
      constructor
      all_goals simp only [View.release, View.place, Function.update_apply]
      all_goals grind

theorem sound_step {env : Env Frame} {account after : Account Frame} {action : Action Frame}
    (sound : Sound (view account)) (fired : step env account action = some after) :
    Sound (view after) :=
  sound_move sound (move_of_step fired)

end Soundness

section Rank

def ahead (lock : View) (tab : Tab) : Nat :=
  if lock.stages tab = .waiting then lock.waiters.idxOf tab + 1 else 0

/-- What the holder still has to do; a call of `connect()` may be followed by a report to
any number of tabs. -/
def unfinished (lock : View) : WithTop Nat :=
  match lock.holder.map lock.stages with
  | some .connecting => ⊤
  | some (.reporting left) => WithTop.some left
  | _ => WithTop.some 0

def rank (tab : Tab) (lock : View) : Nat ×ₗ WithTop Nat := toLex (ahead lock tab, unfinished lock)

def turn (lock : View) : Option Tab := lock.holder.or lock.waiters.head?

def Served (turn : Option Tab) (_ : Account Frame) (action : Action Frame) : Prop :=
  ∃ tab, turn = some tab ∧ Resumes tab action

/-- The tab has asked for the lock and is not through with it. -/
def Pending (tab : Tab) (lock : View) : Prop := lock.stages tab ≠ .outside

variable {before after : View} {tab : Tab} {action : Action Frame}

theorem closer (less : ahead after tab < ahead before tab) : rank tab after < rank tab before :=
  Prod.Lex.toLex_lt_toLex.mpr (.inl less)

theorem less_to_do (same : ahead after tab = ahead before tab)
    (less : unfinished after < unfinished before) : rank tab after < rank tab before :=
  Prod.Lex.toLex_lt_toLex.mpr (.inr ⟨same, less⟩)

/-- A pending tab waits in the queue or holds the lock. -/
theorem pending_cases (sound : Sound before) (pending : Pending tab before) :
    tab ∈ before.waiters ∧ before.stages tab = .waiting ∨
      before.holder = some tab ∧ before.stages tab ≠ .waiting := by
  cases stage : before.stages tab with
  | outside => exact absurd stage pending
  | waiting => exact .inl ⟨(sound.queued tab).mpr stage, rfl⟩
  | connecting => exact .inr ⟨sound.inside tab (.inl stage), by simp⟩
  | reporting left => exact .inr ⟨sound.inside tab (.inr ⟨left, stage⟩), by simp⟩

/-- The first waiter is given the lock: every other one moves up. -/
theorem granted_closer (sound : Sound before) (pending : Pending tab before) {first : Tab}
    {rest : List Tab} (queue : before.waiters = first :: rest) (free : before.holder = none)
    (waiters : after.waiters = rest) (stages : tab ≠ first → after.stages tab = before.stages tab)
    (chosen : after.stages first ≠ .waiting) : ahead after tab < ahead before tab := by
  rcases pending_cases sound pending with ⟨member, waiting⟩ | ⟨holds, _⟩
  · by_cases same : tab = first
    · subst same
      simp only [ahead, chosen, waiting, if_false, if_true]
      omega
    · have position : before.waiters.idxOf tab = rest.idxOf tab + 1 := by
        rw [queue, List.idxOf_cons_ne _ (Ne.symm same)]
      simp only [ahead, stages same, waiting, if_true, position, waiters]
      omega
  · rw [free] at holds
    cases holds

theorem ahead_placed {other : Tab} {stage : Stage} (leaves : before.stages other ≠ .waiting)
    (into : stage ≠ .waiting) (tab : Tab) :
    ahead (before.place other stage) tab = ahead before tab := by
  have same : (before.place other stage).stages tab = .waiting ↔ before.stages tab = .waiting := by
    rw [stage_placed]
    by_cases own : tab = other
    · subst own
      simp [leaves, into]
    · simp [own]
  simp only [ahead, same]
  rfl

/-- A tab that asks stands behind all others. -/
theorem rank_queued (sound : Sound before) (pending : Pending tab before) {other : Tab}
    (outside : before.stages other = .outside) :
    rank tab (before.queue other) = rank tab before ∧ turn (before.queue other) = turn before := by
  have kept : ∀ stays, before.stages stays ≠ .outside →
      (before.queue other).stages stays = before.stages stays := by
    intro stays there
    apply Function.update_of_ne
    rintro rfl
    exact there outside
  have busy : unfinished (before.queue other) = unfinished before := by
    have inside : (before.queue other).holder.map (before.queue other).stages =
        before.holder.map before.stages := by
      change before.holder.map (before.queue other).stages = _
      cases holds : before.holder with
      | none => rfl
      | some holder =>
          rw [Option.map_some, Option.map_some, kept holder]
          rcases sound.held holder holds with connecting | ⟨left, reporting⟩
          · simp [connecting]
          · simp [reporting]
    simp only [unfinished, inside]
  rcases pending_cases sound pending with ⟨member, waiting⟩ | ⟨holds, notWaiting⟩
  · have place : ahead (before.queue other) tab = ahead before tab := by
      have position : (before.waiters ++ [other]).idxOf tab = before.waiters.idxOf tab :=
        List.idxOf_append_of_mem member
      have queue : (before.queue other).waiters = before.waiters ++ [other] := rfl
      simp only [ahead, kept tab pending, waiting, if_true, queue, position]
    have first : (before.waiters ++ [other]).head? = before.waiters.head? := by
      cases queue : before.waiters with
      | nil =>
          rw [queue] at member
          cases member
      | cons first rest => rfl
    refine ⟨?_, ?_⟩
    · rw [rank, rank, place, busy]
    · rw [turn, turn, ← first]
      rfl
  · have place : ahead (before.queue other) tab = ahead before tab := by
      simp only [ahead, kept tab pending, notWaiting, if_false]
    refine ⟨?_, ?_⟩
    · rw [rank, rank, place, busy]
    · rw [turn, turn, holds]
      exact congrArg (Option.or · _) holds

/-- Every move but one of the turn leaves rank and turn, unless it makes the rank smaller. -/
theorem rank_move (sound : Sound before) (move : Move before action after)
    (pending : Pending tab before) (still : Pending tab after) :
    rank tab after < rank tab before ∨
      rank tab after = rank tab before ∧ turn after = turn before ∧
        ∀ tab, ¬Resumes tab action := by
  cases move with
  | still elsewhere => exact .inr ⟨rfl, rfl, elsewhere⟩
  | passes => exact .inr ⟨rfl, rfl, by simp [Resumes, Works]⟩
  | enters outside free =>
      obtain ⟨nobody, empty⟩ := free
      rcases pending_cases sound pending with ⟨member, _⟩ | ⟨holds, _⟩
      · rw [empty] at member
        cases member
      · rw [nobody] at holds
        cases holds
  | @queues other outside busy =>
      obtain ⟨sameRank, sameTurn⟩ := rank_queued sound pending outside
      exact .inr ⟨sameRank, sameTurn, by simp [Resumes, Works]⟩
  | @grantPasses first rest waiting queue free =>
      left
      apply closer
      apply granted_closer sound pending queue free rfl
      · exact fun apart => Function.update_of_ne apart ..
      · rw [View.release, stage_placed]
        simp
  | @grantEnters first rest waiting queue free =>
      left
      apply closer
      apply granted_closer sound pending queue free rfl
      · exact fun apart => Function.update_of_ne apart ..
      · rw [View.enter, stage_placed]
        simp
  | @reports holder _ left works connecting =>
      left
      have holds := sound.inside holder (.inl connecting)
      apply less_to_do (ahead_placed (by simp [connecting]) (by simp) tab)
      have now : unfinished (before.place holder (.reporting (left + 1))) = WithTop.some (left + 1) := by
        simp [unfinished, View.place, holds]
      have earlier : unfinished before = ⊤ := by simp [unfinished, holds, connecting]
      rw [now, earlier]
      exact WithTop.coe_lt_top _
  | @reported holder _ left works reporting =>
      left
      have holds := sound.inside holder (.inr ⟨_, reporting⟩)
      apply less_to_do (ahead_placed (by simp [reporting]) (by simp) tab)
      have now : unfinished (before.place holder (.reporting (left + 1))) = WithTop.some (left + 1) := by
        simp [unfinished, View.place, holds]
      have earlier : unfinished before = WithTop.some (left + 2) := by
        simp [unfinished, holds, reporting]
      rw [now, earlier]
      exact WithTop.coe_lt_coe.mpr (by omega)
  | @releases holder _ works there =>
      left
      have now : unfinished (before.release holder) = WithTop.some 0 := rfl
      have notWaiting : before.stages holder ≠ .waiting := by
        rcases there with connecting | reporting
        · simp [connecting]
        · simp [reporting]
      have place : ahead (before.release holder) tab = ahead before tab :=
        ahead_placed notWaiting (show Stage.outside ≠ .waiting by simp) tab
      apply less_to_do place
      rw [now]
      rcases there with connecting | reporting
      · have holds := sound.inside holder (.inl connecting)
        have earlier : unfinished before = ⊤ := by simp [unfinished, holds, connecting]
        rw [earlier]
        exact WithTop.coe_lt_top _
      · have holds := sound.inside holder (.inr ⟨_, reporting⟩)
        have earlier : unfinished before = WithTop.some 1 := by simp [unfinished, holds, reporting]
        rw [earlier]
        exact WithTop.coe_lt_coe.mpr Nat.one_pos

end Rank

section Liveness

variable {env : Env Frame}

theorem turn_enabled {account : Account Frame} {tab : Tab} (sound : Sound (view account))
    (pending : Pending tab (view account)) :
    Enabled (step env) (Served (turn (view account))) account := by
  cases holds : account.lockHolder with
  | some holder =>
      have next : turn (view account) = some holder := by simp [turn, view, holds]
      rcases sound.held holder holds with connecting | ⟨left, reporting⟩
      · have handler : account.handlers holder = .connecting := by
          cases found : account.handlers holder
          all_goals simp [view, found, stageOf] at connecting
          rfl
        refine ⟨.connectReturns holder, ⟨holder, next, .inr rfl⟩, ?_⟩
        simp [step, handler]
      · have handler : ∃ frame current rest,
            account.handlers holder = .reporting frame (current :: rest) := by
          cases found : account.handlers holder with
          | reporting frame rest =>
              cases rest with
              | nil => simp [view, found, stageOf] at reporting
              | cons current rest => exact ⟨frame, current, rest, rfl⟩
          | _ => simp [view, found, stageOf] at reporting
        obtain ⟨frame, current, rest, handler⟩ := handler
        refine ⟨.reported holder true, ⟨holder, next, .inr rfl⟩, ?_⟩
        simp [step, handler]
  | none =>
      rcases pending_cases sound pending with ⟨member, _⟩ | ⟨other, _⟩
      · cases queue : account.lockWaiters with
        | nil =>
            have empty : (view account).waiters = [] := queue
            rw [empty] at member
            cases member
        | cons first rest =>
            have next : turn (view account) = some first := by simp [turn, view, holds, queue]
            have waiting : (view account).stages first = .waiting := by
              apply (sound.queued first).mp
              simp [view, queue]
            have handler : account.handlers first = .waitLock := by
              cases found : account.handlers first
              all_goals simp [view, found, stageOf] at waiting
              rfl
            refine ⟨.lockGranted first, ⟨first, next, .inl rfl⟩, ?_⟩
            simp [step, handler, queue, holds]
      · have nobody : (view account).holder = none := holds
        rw [nobody] at other
        cases other

theorem lock_ranked (env : Env Frame) (tab : Tab) :
    Ranked (step env) (fun account : Account Frame => Sound (view account))
      (fun account => Pending tab (view account)) (fun account => rank tab (view account))
      (fun account => turn (view account)) Served := by
  constructor
  · intro account sound pending
    exact turn_enabled sound pending
  · rintro account action next sound _ pending still fired ⟨served, chosen, resumes⟩
    rcases rank_move sound (move_of_step fired) pending still with less | ⟨_, _, nobody⟩
    · exact less
    · exact absurd resumes (nobody served)
  · intro account action next sound _ pending still fired
    rcases rank_move sound (move_of_step fired) pending still with less | ⟨same, sameTurn, _⟩
    · exact .inl less
    · exact .inr ⟨same, sameTurn⟩

/-- The only way out is `_send_snapshot`. -/
theorem out_to_snapshot {account next : Account Frame} {action : Action Frame} {tab : Tab}
    (fired : step env account action = some next) (inside : Pending tab (view account))
    (out : ¬Pending tab (view next)) : next.handlers tab = .snapshot := by
  have left : stageOf (next.handlers tab) = .outside := not_not.mp out
  have here : stageOf (account.handlers tab) ≠ .outside := inside
  by_cases moved : Footprint.mover action = some tab
  · have underLock : ∀ account : Account Frame,
        stageOf ((underLock env account tab).handlers tab) = .outside →
          (Account.underLock env account tab).handlers tab = .snapshot := by
      intro account through
      unfold Account.underLock at through ⊢
      split_ifs at through ⊢
      · exact Function.update_self ..
      · simp [setHandler, stageOf] at through
    have report : ∀ (account : Account Frame) (frame : Frame) (order : List Tab),
        stageOf ((report env account tab frame order).handlers tab) = .outside →
          (Account.report env account tab frame order).handlers tab = .snapshot := by
      intro account frame order through
      cases order with
      | nil => exact Function.update_self ..
      | cons => simp [Account.report, setHandler, Account.send, stageOf] at through
    cases fires_of_step fired with
    | lockGranted =>
        cases moved
        exact underLock _ left
    | connectReturns =>
        cases moved
        exact Function.update_self ..
    | connectRaises =>
        cases moved
        exact report _ _ _ left
    | reported =>
        cases moved
        exact report _ _ _ left
    | attach elsewhere
    | snapshotEnds elsewhere
    | snapshotRaises elsewhere
    | broadcast elsewhere
    | broadcastSent elsewhere
    | detach elsewhere =>
        cases moved
        exact absurd (by rw [elsewhere]; rfl) here
    | _ => cases moved
  · rw [(Footprint.footprint_of_step fired).handlers tab moved] at left
    exact absurd left here

theorem attach_pending {account next : Account Frame} {tab : Tab}
    (fired : step env account (.attach tab) = some next) :
    next.handlers tab = .snapshot ∨ Pending tab (view next) := by
  cases fires_of_step fired with
  | attach absent =>
      unfold attach ensureConnected underLock
      split_ifs
      · left
        exact Function.update_self ..
      · right
        simp [Pending, view, setHandler, stageOf]
      · right
        simp [Pending, view, setHandler, stageOf]

theorem pending_leaves (execution : Execution (step env))
    (sound : ∀ time, Sound (view (execution.states time)))
    (fair : ∀ tab, WeaklyFair execution fun _ => Resumes tab) {tab : Tab} {time : Nat}
    (pending : Pending tab (view (execution.states time))) :
    ∃ last, time ≤ last ∧ Pending tab (view (execution.states last)) ∧
      ¬Pending tab (view (execution.states (last + 1))) := by
  have turns : ∀ turn, WeaklyFair execution (Served turn) := by
    intro turn time able
    cases turn with
    | none =>
        obtain ⟨action, ⟨_, absent, _⟩, _⟩ := able time (Nat.le_refl time)
        cases absent
    | some chosen =>
        have goesOn : ∀ later, time ≤ later →
            Enabled (step env) (fun _ => Resumes chosen) (execution.states later) := by
          intro later after
          obtain ⟨action, ⟨_, same, resumes⟩, fires⟩ := able later after
          cases same
          exact ⟨action, resumes, fires⟩
        obtain ⟨later, after, resumed⟩ := fair chosen time goesOn
        exact ⟨later, after, chosen, rfl, resumed⟩
  obtain ⟨later, after, out⟩ := pending_ends (lock_ranked env tab) execution sound turns time
  obtain ⟨last, beyond, _, inside, leaves⟩ := @ends_between
    (fun time => Pending tab (view (execution.states time))) time later after pending out
  exact ⟨last, beyond, inside, leaves⟩

/-- In every endless execution of an account in which each handler inside
`ensure_connected` that can go on is at some time resumed, every tab that attaches comes
to its snapshot: whatever attempts to connect fail, whoever else comes, and however
many tabs each failure is reported to. -/
theorem every_tab_gets_through (execution : Execution (step env))
    (start : execution.states 0 = fresh)
    (fair : ∀ tab, WeaklyFair execution fun _ => Resumes tab) (tab : Tab) (time : Nat)
    (attaches : execution.actions time = .attach tab) :
    ∃ later, time < later ∧ (execution.states later).handlers tab = .snapshot := by
  have sound : ∀ time, Sound (view (execution.states time)) := by
    apply @Execution.always _ _ _ execution fun account => Sound (view account)
    · rw [start]
      exact fresh_sound
    · exact fun account action next sound fired => sound_step sound fired
  have asked := execution.steps time
  rw [attaches] at asked
  rcases attach_pending asked with there | pending
  · exact ⟨time + 1, Nat.lt_succ_self time, there⟩
  · obtain ⟨last, beyond, inside, leaves⟩ := pending_leaves execution sound fair pending
    exact ⟨last + 1, by omega, out_to_snapshot (execution.steps last) inside leaves⟩

theorem resumes_pending {account next : Account Frame} {action : Action Frame} {tab : Tab}
    (resumes : Resumes tab action) (fired : step env account action = some next) :
    Pending tab (view account) := by
  have inside : account.handlers tab = .waitLock ∨ account.handlers tab = .connecting ∨
      ∃ frame rest, account.handlers tab = .reporting frame rest := by
    rcases resumes with rfl | works
    · cases fires_of_step fired with
      | lockGranted waiting => exact .inl waiting
    · cases fires_of_step fired with
      | connectReturns connecting =>
          cases works
          exact .inr (.inl connecting)
      | connectRaises connecting =>
          cases works
          exact .inr (.inl connecting)
      | reported reporting =>
          cases works
          exact .inr (.inr ⟨_, _, reporting⟩)
      | _ => cases works
  rcases inside with there | there | ⟨frame, rest, there⟩
  all_goals simp [Pending, view, stageOf, there]

/-- Two tabs come, the attempt of the first fails, that of the second succeeds; then the
client reports a connection over and over. -/
def visitActions (time : Nat) : Action Unit :=
  [.attach 0, .attach 1, .connectRaises 0 () [0, 1], .reported 0 true, .reported 0 true,
    .lockGranted 1, .connectReturns 1].getD time .clientUp

def visitStates : Nat → Account Unit
  | 0 => fresh
  | time + 1 => (step plainEnv (visitStates time) (visitActions time)).getD fresh

def visit : Execution (step plainEnv) where
  states := visitStates
  actions := visitActions
  steps
    | 0 | 1 | 2 | 3 | 4 | 5 | 6 => rfl
    | _ + 7 => rfl

theorem visit_settles (time : Nat) (tab : Tab) : ¬Pending tab (view (visit.states (time + 7))) := by
  induction time with
  | zero =>
      have outside : stageOf ((visitStates 7).handlers tab) = .outside := by
        match tab with
        | 0 | 1 => rfl
        | _ + 2 => rfl
      exact not_not.mpr outside
  | succ time induction => exact induction

theorem visit_fair (tab : Tab) : WeaklyFair visit fun _ => Resumes tab := by
  intro time able
  obtain ⟨action, resumes, fires⟩ := able (time + 7) (Nat.le_add_right time 7)
  obtain ⟨next, fired⟩ := Option.isSome_iff_exists.mp fires
  exact absurd (resumes_pending resumes fired) (visit_settles time tab)

theorem second_tab_gets_through : ∃ later, 1 < later ∧ (visit.states later).handlers 1 = .snapshot :=
  every_tab_gets_through visit rfl visit_fair 1 1 rfl

end Liveness

end PyConduit.ConnectLock
