import PyConduit.Numbered

/-!
# What an account does to its group

Every action of an account is a list of moves of the group of its tabs: tabs join and
quit, are told something alone, and broadcasts begin and go on.
-/

namespace PyConduit.Numbered

open Lifecycle Lifecycle.Account GuardedRun

set_option autoImplicit false

variable {Frame : Type}

section Moves

def greeting (env : Env Frame) (tab : Tab) : Fanout.Move Tab Frame := .direct tab (env.ready tab)

def dropped (tab : Tab) (delivered : Bool) : List (Fanout.Move Tab Frame) :=
  if delivered then [] else [.quit tab]

/-- What an action does with the group of the tabs. -/
def moves (env : Env Frame) (book : Book Frame) : Action Frame → List (Fanout.Move Tab Frame)
  | .attach tab =>
      .join tab ::
        if book.account.lockHolder = none ∧ book.account.lockWaiters = [] ∧
            book.account.client.connected = true then [greeting env tab]
        else []
  | .lockGranted tab => if book.account.client.connected then [greeting env tab] else []
  | .connectReturns tab => [greeting env tab]
  | .connectRaises tab frame order =>
      .begin frame order :: if order = [] then [greeting env tab] else []
  | .reported tab delivered =>
      match book.account.handlers tab with
      | .reporting (some number, _) (current :: rest) =>
          dropped current delivered ++
            .advance number :: if rest = [] then [greeting env tab] else []
      | _ => []
  | .snapshotSend tab frame => [.direct tab frame]
  | .reply tab frame => [.direct tab frame]
  | .broadcast _ frame order => [.begin frame order]
  | .broadcastSent tab delivered =>
      match book.account.handlers tab with
      | .broadcasting (some number, _) (current :: _) =>
          dropped current delivered ++ [.advance number]
      | _ => []
  | .detach tab => [.quit tab]
  | .event frame _ order => [.begin frame order]
  | .eventSent index delivered =>
      match book.account.events[index]? with
      | some ⟨(some number, _), current :: _, _⟩ => dropped current delivered ++ [.advance number]
      | _ => []
  | _ => []

/-- What a filter keeps of the moves, when it keeps nothing of the others: the broadcast
that begins, or what is said to one tab alone. -/
theorem filter_moves {Kept : Type} (env : Env Frame) (book : Book Frame) (action : Action Frame)
    (keep : Fanout.Move Tab Frame → Option Kept) (joins : ∀ tab, keep (.join tab) = none)
    (quits : ∀ tab, keep (.quit tab) = none) (advances : ∀ number, keep (.advance number) = none)
    (greets : ∀ tab, keep (greeting env tab) = none) :
    (moves env book action).filterMap keep =
      ((begun action).bind fun broadcast => keep (.begin broadcast.1 broadcast.2)).toList ++
        ((spoken action).bind fun send => keep (.direct send.1 send.2)).toList := by
  have one : ∀ move, [move].filterMap keep = (keep move).toList := by
    intro move
    cases kept : keep move with
    | none => exact List.filterMap_cons_none kept
    | some entry => exact List.filterMap_cons_some kept
  have greeted : ∀ (tab : Tab) (holds : Prop) [Decidable holds],
      (if holds then [greeting env tab] else []).filterMap keep = [] := by
    intro tab holds _
    split_ifs
    · exact List.filterMap_cons_none (greets tab)
    · rfl
  have drops : ∀ (tab : Tab) (delivered : Bool), (dropped tab delivered).filterMap keep = [] := by
    intro tab delivered
    cases delivered with
    | true => rfl
    | false => exact List.filterMap_cons_none (quits tab)
  have goesOn : ∀ (tab : Tab) (delivered : Bool) (number : Nat) (rest : List (Fanout.Move Tab Frame)),
      rest.filterMap keep = [] →
        (dropped tab delivered ++ Fanout.Move.advance number :: rest).filterMap keep = [] := by
    intro tab delivered number rest nothing
    rw [List.filterMap_append, drops, List.filterMap_cons_none (advances number)]
    exact nothing
  cases action with
  | attach tab => exact (List.filterMap_cons_none (joins tab)).trans (greeted tab _)
  | lockGranted tab => exact greeted tab _
  | connectReturns tab => exact List.filterMap_cons_none (greets tab)
  | connectRaises tab frame order =>
      have begins := one (.begin frame order)
      have first : moves env book (.connectRaises tab frame order) =
          [.begin frame order] ++ if order = [] then [greeting env tab] else [] := rfl
      rw [first, List.filterMap_append, begins, greeted]
      rfl
  | reported tab delivered =>
      simp only [moves]
      split
      · exact goesOn _ _ _ _ (greeted tab _)
      · rfl
  | broadcastSent tab delivered =>
      simp only [moves]
      split
      · exact goesOn _ _ _ _ rfl
      · rfl
  | eventSent index delivered =>
      simp only [moves]
      split
      · exact goesOn _ _ _ _ rfl
      · rfl
  | detach tab => exact List.filterMap_cons_none (quits tab)
  | broadcast tab frame order => exact (one _).trans (List.append_nil _).symm
  | event frame afterwards order => exact (one _).trans (List.append_nil _).symm
  | snapshotSend tab frame => exact one _
  | reply tab frame => exact one _
  | _ => rfl

theorem begins_moves (env : Env Frame) (book : Book Frame) (action : Action Frame) :
    (moves env book action).filterMap Fanout.Move.begins = (begun action).toList := by
  rw [filter_moves env book action Fanout.Move.begins (fun _ => rfl) (fun _ => rfl) (fun _ => rfl)
    fun _ => rfl]
  simp [Fanout.Move.begins]

/-- The sends outside of the broadcasts are those of the layer above and greetings. -/
theorem alone_moves {Kept : Type} (env : Env Frame) (book : Book Frame) (action : Action Frame)
    (keep : Tab × Frame → Option Kept) (greets : ∀ tab, keep (tab, env.ready tab) = none) :
    ((moves env book action).filterMap Fanout.Move.alone).filterMap keep =
      (spoken action).toList.filterMap keep := by
  rw [List.filterMap_filterMap, filter_moves env book action (fun move => move.alone.bind keep)
    (fun _ => rfl) (fun _ => rfl) (fun _ => rfl) greets]
  cases spoken action with
  | none => simp [Fanout.Move.alone]
  | some send =>
      cases kept : keep send
      all_goals simp [Fanout.Move.alone, kept]

inductive Follows (next : Account (Marked Frame)) (count : Nat) :
    Fanout Tab Frame → List (Fanout.Move Tab Frame) → Prop
  | nil {owner : Nat → Option Tab} {fanout : Fanout Tab Frame} (link : Link owner next fanout)
      (counted : fanout.begun.length = count) : Follows next count fanout []
  | cons {fanout middle : Fanout Tab Frame} {move : Fanout.Move Tab Frame}
      {moves : List (Fanout.Move Tab Frame)} (enumerates : fanout.Enumerates move)
      (stepped : fanout.step move = some middle) (later : Follows next count middle moves) :
      Follows next count fanout (move :: moves)

variable {env : Env Frame} {owner : Nat → Option Tab} {account next : Account (Marked Frame)}
  {fanout : Fanout Tab Frame}

theorem Link.aside (link : Link owner account fanout) (aside : Aside account next) :
    Link owner next fanout :=
  link.of_same aside.subscribers aside.sent
    (fun tab => congrArg sending (congrFun aside.handlers tab)) aside.events

theorem Link.set_handler (link : Link owner account fanout) {tab : Tab}
    {handler : Handler (Marked Frame)} (before : sending (account.handlers tab) = none)
    (after : sending handler = none) : Link owner (account.setHandler tab handler) fanout := by
  refine link.of_same rfl rfl ?_ rfl
  intro other
  rw [sending_set_handler]
  split_ifs with same
  · rw [after, same, before]
  · rfl

theorem Link.send_snapshot (link : Link owner account fanout) {tab : Tab}
    (before : sending (account.handlers tab) = none) :
    Link owner (sendSnapshot (markedEnv env) account tab) (fanout.direct tab (env.ready tab)) :=
  (link.set_handler before rfl).direct tab (env.ready tab)

theorem Link.dropped (link : Link owner account fanout) (tab : Tab) (delivered : Bool) :
    Link owner (account.sendEnded tab delivered)
      (if delivered then fanout else fanout.quit tab) := by
  cases delivered with
  | false => exact link.quit tab
  | true => exact link

theorem follows_dropped {count : Nat} (tab : Tab) (delivered : Bool)
    {moves : List (Fanout.Move Tab Frame)}
    (later : Follows next count (if delivered then fanout else fanout.quit tab) moves) :
    Follows next count fanout (Numbered.dropped tab delivered ++ moves) := by
  cases delivered with
  | false => exact .cons trivial rfl later
  | true => exact later

theorem sending_send_ended (account : Account (Marked Frame)) (tab current : Tab)
    (delivered : Bool) :
    sending ((account.sendEnded current delivered).handlers tab) =
      sending (account.handlers tab) := by
  cases delivered
  all_goals rfl

theorem begun_dropped (tab : Tab) (delivered : Bool) :
    (if delivered then fanout else fanout.quit tab).begun = fanout.begun := by
  cases delivered
  all_goals rfl

theorem follows_under_lock {count : Nat} (link : Link owner account fanout)
    (counted : fanout.begun.length = count) {tab : Tab}
    (before : sending (account.handlers tab) = none) :
    Follows (underLock (markedEnv env) account tab) count fanout
      (if account.client.connected then [greeting env tab] else []) := by
  unfold underLock
  by_cases connected : account.client.connected = true
  · rw [if_pos connected, if_pos connected]
    have released : Link owner account.releaseLock fanout := link.aside ⟨rfl, rfl, rfl, rfl⟩
    exact .cons trivial rfl (.nil (released.send_snapshot before) counted)
  · rw [if_neg connected, if_neg connected]
    have called : Link owner account.connect fanout := link.aside ⟨rfl, rfl, rfl, rfl⟩
    exact .nil (called.set_handler before rfl) counted

theorem follows_attach {count : Nat} (link : Link owner account fanout)
    (counted : fanout.begun.length = count) {tab : Tab}
    (before : sending (account.handlers tab) = none) :
    Follows (attach (markedEnv env) account tab) count fanout
      (moves env ⟨account, count⟩ (.attach tab)) := by
  have joined : Link owner
      { account.cancelIdle with subscribers := account.subscribers.insert tab }
      (fanout.join tab) := (link.join tab).aside ⟨rfl, rfl, rfl, rfl⟩
  refine .cons trivial rfl ?_
  unfold attach ensureConnected
  by_cases free : account.lockHolder = none ∧ account.lockWaiters = []
  · have held : Link owner
        { account.cancelIdle with
          subscribers := account.subscribers.insert tab
          lockHolder := some tab } (fanout.join tab) := joined.aside ⟨rfl, rfl, rfl, rfl⟩
    have greets : (if account.lockHolder = none ∧ account.lockWaiters = [] ∧
          account.client.connected = true then [greeting env tab] else []) =
        if account.client.connected then [greeting env tab] else [] := by
      simp only [free, true_and]
    rw [if_pos (by exact free), greets]
    exact follows_under_lock held counted before
  · rw [if_neg (by exact free), if_neg (fun all => free ⟨all.1, all.2.1⟩)]
    have waiting := @Link.set_handler _ _ _ _ joined tab .waitLock before rfl
    exact .nil (waiting.aside ⟨rfl, rfl, rfl, rfl⟩) counted

theorem begun_length_begin (fanout : Fanout Tab Frame) (item : Frame) (order : List Tab) :
    (fanout.begin item order).begun.length = fanout.begun.length + 1 := by
  rw [Fanout.begin_eq, List.length_append, List.length_singleton]

theorem follows_report {count : Nat} {tab : Tab} {frame : Marked Frame} {order : List Tab}
    (turned : ∀ after, Turns tab frame order account after → ∃ owner, Link owner after fanout)
    (counted : fanout.begun.length = count) :
    Follows (report (markedEnv env) account tab frame order) count fanout
      (if order = [] then [greeting env tab] else []) := by
  cases order with
  | nil =>
      obtain ⟨_, ended⟩ := turned _ (turns_report_ends account tab frame)
      exact .cons trivial rfl (.nil (ended.direct tab (env.ready tab)) counted)
  | cons next rest =>
      obtain ⟨_, reports⟩ := turned _ (turns_report _ account tab frame next rest)
      exact .nil reports counted

theorem link_finish_event (link : Link owner account fanout) (afterwards : Afterwards) :
    Link owner (account.finishEvent afterwards) fanout := by
  cases afterwards with
  | nothing => exact link
  | scheduleReconnect => exact link.aside (aside_schedule account)

theorem link_start_event (link : Link owner account fanout) (sound : fanout.Sound)
    (frame : Frame) (afterwards : Afterwards) (order : List Tab) :
    Link (Function.update owner fanout.begun.length none)
      (account.startEvent (some fanout.begun.length, frame) afterwards order)
      (fanout.begin frame order) := by
  cases order with
  | nil =>
      apply link_finish_event
      exact @Link.event_begins Frame owner account account fanout link sound frame [] .nothing rfl (fun _ => rfl)
        (List.append_nil _).symm (List.append_nil _).symm
  | cons next rest => exact link.event_begins sound rfl (fun _ => rfl) rfl rfl

theorem link_continue_event (link : Link owner account fanout) {index number : Nat}
    {frame : Frame} {current : Tab} {ahead : List Tab} {afterwards : Afterwards}
    (sends : account.events[index]? = some ⟨(some number, frame), current :: ahead, afterwards⟩) :
    Link owner (account.continueEvent index (some number, frame) afterwards ahead)
      (fanout.advance number) := by
  cases ahead with
  | nil =>
      apply link_finish_event
      exact link.event_advances sends rfl (fun _ => rfl) (List.append_nil _).symm rfl
  | cons next rest => exact link.event_advances sends rfl (fun _ => rfl) rfl rfl

theorem link_detach (link : Link owner account fanout) {tab : Tab}
    (before : sending (account.handlers tab) = none) :
    Link owner (account.detach tab) (fanout.quit tab) := by
  have quits := link.quit tab
  have ended : Link owner ((account.discard tab).setHandler tab .ended) (fanout.quit tab) :=
    quits.set_handler before rfl
  unfold Account.detach
  dsimp only
  split_ifs
  · exact ended.aside ⟨rfl, rfl, rfl, rfl⟩
  · exact ended

theorem Link.enumerates (link : Link owner account fanout) {item : Frame} {order : List Tab}
    (enumerated : order.Perm account.subscribers) : fanout.Enumerates (.begin item order) := by
  rw [Fanout.Enumerates, link.members]
  exact enumerated

theorem aside_reconnect_loop (account : Account (Marked Frame)) (delay : Rat) :
    Aside account (account.reconnectLoop delay) := by
  unfold reconnectLoop
  split_ifs
  all_goals exact ⟨rfl, rfl, rfl, rfl⟩

theorem aside_reconnect_wakes (account : Account (Marked Frame)) (delay : Rat) :
    Aside account (account.reconnectWakes delay) := by
  unfold Account.reconnectWakes
  split_ifs
  all_goals exact ⟨rfl, rfl, rfl, rfl⟩

theorem aside_idle_countdown (account : Account (Marked Frame)) (outcome : DisconnectOutcome) :
    Aside account (account.idleCountdown outcome) := by
  unfold idleCountdown
  split_ifs
  · cases outcome
    all_goals exact ⟨rfl, rfl, rfl, rfl⟩
  · exact ⟨rfl, rfl, rfl, rfl⟩

/-- Every action of the account is a list of moves of the group. -/
theorem follows_step {book after : Book Frame} {action : Action Frame}
    (link : Link owner book.account fanout) (sound : fanout.Sound)
    (counted : fanout.begun.length = book.count) (fired : step env book action = some after) :
    Follows after.account after.count fanout (moves env book action) := by
  obtain ⟨next, stepped, rfl⟩ := Option.map_eq_some_iff.mp fired
  have idle : ∀ {tab : Tab} {handler : Handler (Marked Frame)},
      book.account.handlers tab = handler → sending handler = none →
        sending (book.account.handlers tab) = none := by
    intro tab handler found nothing
    rw [found, nothing]
  cases action with
  | attach tab =>
      cases fires_of_step stepped with
      | attach absent => exact follows_attach link counted (idle absent rfl)
  | lockGranted tab =>
      cases fires_of_step stepped with
      | @lockGranted _ waiters waiting =>
          have held : Link owner
              { book.account with lockHolder := some tab, lockWaiters := waiters } fanout :=
            link.aside ⟨rfl, rfl, rfl, rfl⟩
          exact follows_under_lock held counted (idle waiting rfl)
  | connectReturns tab =>
      cases fires_of_step stepped with
      | connectReturns connecting =>
          have ended : Link owner book.account.connectEnds.releaseLock fanout :=
            link.aside ⟨rfl, rfl, rfl, rfl⟩
          exact .cons trivial rfl (.nil (ended.send_snapshot (idle connecting rfl)) counted)
  | connectRaises tab frame order =>
      cases fires_of_step stepped with
      | connectRaises connecting enumerated =>
          have ended : Link owner book.account.connectEnds fanout :=
            link.aside ⟨rfl, rfl, rfl, rfl⟩
          refine .cons (link.enumerates enumerated) rfl ?_
          apply follows_report
          · intro after turned
            rw [← counted] at turned
            exact ⟨_, ended.begins sound (idle connecting rfl) turned⟩
          · rw [begun_length_begin, counted]
            rfl
  | reported tab delivered =>
      cases fires_of_step stepped with
      | @reported _ current _ frame rest reporting =>
          have sends : sending (book.account.handlers tab) = some (frame, rest) := by
            rw [reporting]
            rfl
          obtain ⟨number, marked, _⟩ := link.tabs tab frame rest sends
          obtain ⟨_, frame⟩ := frame
          cases marked
          simp only [moves, reporting]
          apply follows_dropped
          refine .cons trivial rfl ?_
          apply follows_report
          · intro after turned
            refine ⟨_, (link.dropped current delivered).advances ?_ turned⟩
            rw [sending_send_ended]
            exact sends
          · rw [Fanout.begun_advance, begun_dropped, counted]
            rfl
  | snapshotSend tab frame =>
      cases fires_of_step stepped with
      | snapshotSend => exact .cons trivial rfl (.nil (link.direct tab frame) counted)
  | snapshotEnds tab =>
      cases fires_of_step stepped with
      | snapshotEnds inside => exact .nil (link.set_handler (idle inside rfl) rfl) counted
  | snapshotRaises tab =>
      cases fires_of_step stepped with
      | snapshotRaises inside => exact .nil (link.set_handler (idle inside rfl) rfl) counted
  | reply tab frame =>
      cases fires_of_step stepped with
      | reply => exact .cons trivial rfl (.nil (link.direct tab frame) counted)
  | broadcast tab frame order =>
      cases fires_of_step stepped with
      | broadcast pumping enumerated =>
          have turned := turns_broadcast book.account tab (some fanout.begun.length, frame) order
          have begins := link.begins sound (idle pumping rfl) turned
          rw [counted] at begins
          refine .cons (link.enumerates enumerated) rfl (.nil begins ?_)
          rw [begun_length_begin, counted]
          rfl
  | broadcastSent tab delivered =>
      cases fires_of_step stepped with
      | @broadcastSent _ current _ frame rest broadcasting =>
          have sends : sending (book.account.handlers tab) = some (frame, rest) := by
            rw [broadcasting]
            rfl
          obtain ⟨number, marked, _⟩ := link.tabs tab frame rest sends
          obtain ⟨_, frame⟩ := frame
          cases marked
          simp only [moves, broadcasting]
          apply follows_dropped
          refine .cons trivial rfl (.nil ((link.dropped current delivered).advances ?_
            (turns_broadcast _ tab _ rest)) ?_)
          · rw [sending_send_ended]
            exact sends
          · rw [Fanout.begun_advance, begun_dropped, counted]
            rfl
  | detach tab =>
      cases fires_of_step stepped with
      | detach pumping => exact .cons trivial rfl (.nil (link_detach link (idle pumping rfl)) counted)
  | event frame afterwards order =>
      have started : ∀ account, Aside book.account account →
          order.Perm book.account.subscribers →
          Follows (account.startEvent (some book.count, frame) afterwards order)
            (book.count + 1) fanout [.begin frame order] := by
        intro account aside enumerated
        have begins := link_start_event (link.aside aside) sound frame afterwards order
        rw [counted] at begins
        refine .cons (link.enumerates enumerated) rfl (.nil begins ?_)
        rw [begun_length_begin, counted]
      cases fires_of_step stepped with
      | event enumerated => exact started _ ⟨rfl, rfl, rfl, rfl⟩ enumerated
      | disconnected enumerated => exact started _ ⟨rfl, rfl, rfl, rfl⟩ enumerated
  | eventSent index delivered =>
      cases fires_of_step stepped with
      | @eventSent _ _ frame current rest afterwards sends =>
          obtain ⟨number, _, marked, _⟩ := link.events index _ sends
          obtain ⟨_, frame⟩ := frame
          cases marked
          have still : (book.account.sendEnded current delivered).events[index]? =
              some ⟨(some number, frame), current :: rest, afterwards⟩ := by
            cases delivered
            all_goals exact sends
          have continues := link_continue_event (link.dropped current delivered) still
          simp only [moves, sends]
          apply follows_dropped
          refine .cons trivial rfl (.nil continues ?_)
          rw [Fanout.begun_advance, begun_dropped, counted]
          rfl
  | idleExpires outcome =>
      cases fires_of_step stepped with
      | idleExpires => exact .nil (link.aside (aside_idle_countdown _ outcome)) counted
  | closerCancelled =>
      cases fires_of_step stepped with
      | closerCancelled => exact .nil (link.aside ⟨rfl, rfl, rfl, rfl⟩) counted
  | reconnectStarts =>
      cases fires_of_step stepped with
      | reconnectStarts => exact .nil (link.aside (aside_reconnect_loop _ _)) counted
  | reconnectWakes =>
      cases fires_of_step stepped with
      | reconnectWakes => exact .nil (link.aside (aside_reconnect_wakes _ _)) counted
  | reconnectReturns =>
      cases fires_of_step stepped with
      | reconnectReturns => exact .nil (link.aside ⟨rfl, rfl, rfl, rfl⟩) counted
  | reconnectRaises =>
      cases fires_of_step stepped with
      | reconnectRaises =>
          have ended : Link owner book.account.connectEnds fanout :=
            link.aside ⟨rfl, rfl, rfl, rfl⟩
          exact .nil (ended.aside (aside_reconnect_loop _ _)) counted
  | reconnectCancelled =>
      cases fires_of_step stepped with
      | reconnectCancelledConnecting => exact .nil (link.aside ⟨rfl, rfl, rfl, rfl⟩) counted
      | reconnectCancelled => exact .nil (link.aside ⟨rfl, rfl, rfl, rfl⟩) counted
  | clientUp =>
      cases fires_of_step stepped with
      | clientUp => exact .nil (link.aside ⟨rfl, rfl, rfl, rfl⟩) counted
  | drop =>
      cases fires_of_step stepped with
      | drop => exact .nil (link.aside ⟨rfl, rfl, rfl, rfl⟩) counted

theorem run_of_follows {count : Nat} {moves : List (Fanout.Move Tab Frame)}
    (follows : Follows next count fanout moves) :
    ∃ owner final, replay Fanout.step fanout moves = some final ∧ Link owner next final ∧
      final.begun.length = count ∧ Conforms Fanout.step Fanout.Enumerates fanout moves := by
  induction follows with
  | nil link counted => exact ⟨_, _, rfl, link, counted, trivial⟩
  | cons enumerates stepped later induction =>
      obtain ⟨owner, final, run, link, counted, conforms⟩ := induction
      refine ⟨owner, final, ?_, link, counted, enumerates, ?_⟩
      · rw [replay, stepped]
        exact run
      · rw [stepped]
        exact conforms

end Moves

end PyConduit.Numbered
