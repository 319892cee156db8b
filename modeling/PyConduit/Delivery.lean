import PyConduit.Tracking

/-!
# What a broadcast does to the tabs

`_broadcast` copies the subscribers and sends to one after the other; tabs come and
go and other broadcasts run while a send is awaited. A send that raises drops its tab
and nothing else. The broadcasts of an account are told apart by their numbers.
-/

namespace PyConduit.Delivery

open Lifecycle Lifecycle.Account Numbered GuardedRun

set_option autoImplicit false

variable {Frame : Type}

/-- The tab whose send a handler awaits for its broadcast. -/
def awaited : Handler Frame → Option Tab
  | .reporting _ order => order.head?
  | .broadcasting _ order => order.head?
  | _ => none

/-- The tab that an action drops because the awaited send to it has raised. -/
def raised (account : Account Frame) : Action Frame → Option Tab
  | .reported tab false => awaited (account.handlers tab)
  | .broadcastSent tab false => awaited (account.handlers tab)
  | .eventSent index false => account.events[index]?.bind fun task => task.rest.head?
  | _ => none

def subscribersAfter (account : Account Frame) (action : Action Frame) : List Tab :=
  match action with
  | .attach tab => account.subscribers.insert tab
  | .detach tab => account.subscribers.filter (· ≠ tab)
  | action =>
      match raised account action with
      | some tab => account.subscribers.filter (· ≠ tab)
      | none => account.subscribers

/-- The tab does not leave, and no send to it raises. -/
def Spares (tab : Tab) (account : Account Frame) (action : Action Frame) : Prop :=
  action ≠ .detach tab ∧ raised account action ≠ some tab

def reached (account : Account (Marked Frame)) (number : Nat) : List Tab :=
  account.sent.filterMap fun send => if send.2.1 = some number then some send.1 else none

inductive UnderWay (account : Account (Marked Frame)) (number : Nat) :
    Tab → List Tab → Prop
  | report {tab current : Tab} {frame : Frame} {ahead : List Tab}
      (awaits : account.handlers tab = .reporting (some number, frame) (current :: ahead)) :
      UnderWay account number current ahead
  | command {tab current : Tab} {frame : Frame} {ahead : List Tab}
      (awaits : account.handlers tab = .broadcasting (some number, frame) (current :: ahead)) :
      UnderWay account number current ahead
  | event {index : Nat} {current : Tab} {frame : Frame} {ahead : List Tab}
      {afterwards : Afterwards}
      (awaits : account.events[index]? =
        some ⟨(some number, frame), current :: ahead, afterwards⟩) :
      UnderWay account number current ahead

def Over (account : Account (Marked Frame)) (number : Nat) : Prop :=
  ∀ current ahead, ¬ UnderWay account number current ahead

/-- A broadcast sends its frame along its order, and when it is over it has sent to
everybody in it. -/
structure InOrder (account : Account (Marked Frame)) (number : Nat) (frame : Frame)
    (order : List Tab) : Prop where
  frames : ∀ send ∈ account.sent, send.2.1 = some number → send.2.2 = frame
  sofar : ∀ current ahead, UnderWay account number current ahead →
    reached account number ++ ahead = order
  ended : Over account number → reached account number = order

/-- A broadcast whose awaited send has ended goes on with the next tab, or is over. -/
structure GoesOn (number : Nat) (ahead : List Tab) (before after : Account (Marked Frame)) :
    Prop where
  next : ∀ tab later, ahead = tab :: later → UnderWay after number tab later ∧
    ∃ frame, after.sent = before.sent ++ [(tab, some number, frame)]
  ends : ahead = [] → Over after number

section Subscribers

variable {env : Env Frame} {account next : Account Frame} {action : Action Frame}

theorem subscribers_send_ended (account : Account Frame) (tab : Tab) (delivered : Bool) :
    (account.sendEnded tab delivered).subscribers =
      if delivered then account.subscribers else account.subscribers.filter (· ≠ tab) := by
  cases delivered
  all_goals rfl

theorem subscribers_schedule (account : Account Frame) :
    account.scheduleReconnect.subscribers = account.subscribers := by
  unfold scheduleReconnect
  split_ifs
  all_goals rfl

theorem subscribers_report (account : Account Frame) (tab : Tab) (frame : Frame)
    (order : List Tab) : (report env account tab frame order).subscribers = account.subscribers := by
  cases order with
  | nil => exact subscribers_schedule account
  | cons next rest => rfl

theorem subscribers_broadcast (account : Account Frame) (tab : Tab) (frame : Frame)
    (order : List Tab) : (account.broadcast tab frame order).subscribers = account.subscribers := by
  cases order
  all_goals rfl

theorem subscribers_finish (account : Account Frame) (afterwards : Afterwards) :
    (account.finishEvent afterwards).subscribers = account.subscribers := by
  cases afterwards with
  | nothing => rfl
  | scheduleReconnect => exact subscribers_schedule account

theorem subscribers_start (account : Account Frame) (frame : Frame) (afterwards : Afterwards)
    (order : List Tab) :
    (account.startEvent frame afterwards order).subscribers = account.subscribers := by
  cases order with
  | nil => exact subscribers_finish account afterwards
  | cons next rest => rfl

theorem subscribers_continue (account : Account Frame) (index : Nat) (frame : Frame)
    (afterwards : Afterwards) (order : List Tab) :
    (account.continueEvent index frame afterwards order).subscribers = account.subscribers := by
  cases order with
  | nil => exact subscribers_finish _ afterwards
  | cons next rest => rfl

theorem subscribers_under_lock (account : Account Frame) (tab : Tab) :
    (underLock env account tab).subscribers = account.subscribers := by
  unfold underLock
  split_ifs
  all_goals rfl

theorem subscribers_attach (account : Account Frame) (tab : Tab) :
    (attach env account tab).subscribers = account.subscribers.insert tab := by
  unfold attach ensureConnected
  split_ifs
  · exact subscribers_under_lock _ tab
  · rfl

theorem subscribers_reconnect_loop (account : Account Frame) (delay : Rat) :
    (account.reconnectLoop delay).subscribers = account.subscribers := by
  unfold reconnectLoop
  split_ifs
  all_goals rfl

/-- Whatever an action does, the subscribers change only by the tab that attaches, the
one that detaches and the one whose send raised. -/
theorem subscribers_step (fired : Lifecycle.step env account action = some next) :
    next.subscribers = subscribersAfter account action := by
  cases fires_of_step fired with
  | attach => exact subscribers_attach account _
  | lockGranted => exact subscribers_under_lock _ _
  | connectRaises => exact subscribers_report _ _ _ _
  | @reported tab current delivered frame rest reporting =>
      rw [subscribers_report, subscribers_send_ended, subscribersAfter]
      cases delivered
      all_goals simp [raised, awaited, reporting]
  | broadcast => exact subscribers_broadcast _ _ _ _
  | @broadcastSent tab current delivered frame rest sending =>
      rw [subscribers_broadcast, subscribers_send_ended, subscribersAfter]
      cases delivered
      all_goals simp [raised, awaited, sending]
  | detach =>
      unfold Account.detach
      dsimp only
      split_ifs
      all_goals rfl
  | @idleExpires outcome =>
      unfold idleCountdown
      split_ifs
      · cases outcome
        all_goals rfl
      · rfl
  | reconnectStarts => exact subscribers_reconnect_loop account _
  | reconnectWakes =>
      unfold Account.reconnectWakes
      split_ifs
      all_goals rfl
  | reconnectRaises => exact subscribers_reconnect_loop _ _
  | event => exact subscribers_start account _ _ _
  | disconnected => exact subscribers_start _ _ _ _
  | @eventSent index delivered frame current rest afterwards sending =>
      rw [subscribers_continue, subscribers_send_ended, subscribersAfter]
      cases delivered
      all_goals simp [raised, sending]
  | _ => rfl

theorem spared_step {tab : Tab} (spares : Spares tab account action)
    (inside : tab ∈ account.subscribers)
    (fired : Lifecycle.step env account action = some next) : tab ∈ next.subscribers := by
  rw [subscribers_step fired]
  unfold subscribersAfter
  split
  · exact List.mem_insert_of_mem inside
  · next other =>
      refine List.mem_filter.mpr ⟨inside, decide_eq_true ?_⟩
      rintro rfl
      exact spares.1 rfl
  · split
    · next other dropped =>
        refine List.mem_filter.mpr ⟨inside, decide_eq_true ?_⟩
        rintro rfl
        exact spares.2 dropped
    · exact inside

end Subscribers

section Runs

variable {env : Env Frame} {book : Book Frame} {fanout : Fanout Tab Frame}

theorem underway_unfinished {owner : Nat → Option Tab} {account : Account (Marked Frame)}
    (link : Link owner account fanout) {number : Nat} {current : Tab} {ahead : List Tab}
    (underway : UnderWay account number current ahead) :
    fanout.unfinished number = some ahead := by
  cases underway with
  | @report tab _ frame _ awaits =>
      obtain ⟨_, marked, _, waits⟩ := link.tabs tab (some number, frame) ahead
        (by rw [awaits]; rfl)
      cases marked
      exact waits.unfinished
  | @command tab _ frame _ awaits =>
      obtain ⟨_, marked, _, waits⟩ := link.tabs tab (some number, frame) ahead
        (by rw [awaits]; rfl)
      cases marked
      exact waits.unfinished
  | event awaits =>
      obtain ⟨_, _, marked, _, rest, waits⟩ := link.events _ _ awaits
      cases marked
      cases rest
      exact waits.unfinished

theorem underway_of_unfinished {owner : Nat → Option Tab} {account : Account (Marked Frame)}
    (link : Link owner account fanout) {number : Nat} {ahead : List Tab}
    (unfinished : fanout.unfinished number = some ahead) :
    ∃ current, UnderWay account number current ahead := by
  rcases link.owned number ahead unfinished with ⟨tab, frame, sends⟩ | ⟨index, task, found, marked⟩
  · cases handler : account.handlers tab with
    | reporting frame' order =>
        rw [handler] at sends
        obtain ⟨left, tail, same⟩ := Option.map_eq_some_iff.mp sends
        cases same
        cases order with
        | nil => cases tail
        | cons current rest =>
            cases tail
            exact ⟨current, .report handler⟩
    | broadcasting frame' order =>
        rw [handler] at sends
        obtain ⟨left, tail, same⟩ := Option.map_eq_some_iff.mp sends
        cases same
        cases order with
        | nil => cases tail
        | cons current rest =>
            cases tail
            exact ⟨current, .command handler⟩
    | _ =>
        rw [handler] at sends
        cases sends
  · obtain ⟨_, left, alsoMarked, _, rest, waits⟩ := link.events index task found
    obtain ⟨⟨mark, frame⟩, order, afterwards⟩ := task
    cases marked
    cases alsoMarked
    cases waits.unfinished.symm.trans unfinished
    cases order with
    | nil => cases rest
    | cons current later =>
        cases rest
        exact ⟨current, .event found⟩

theorem in_order_of_tracks (tracks : Tracks book fanout) {number : Nat} {frame : Frame}
    {order : List Tab} (begun : fanout.begun[number]? = some (frame, order)) :
    InOrder book.account number frame order := by
  obtain ⟨owner, link⟩ := tracks.link
  have passed := tracks.sound.passed number (frame, order) begun
  have same : reached book.account number = fanout.passedBy number := by
    rw [reached, Fanout.passedBy, link.sent]
  refine ⟨?_, ?_, ?_⟩
  · intro send sends numbered
    rw [← link.sent] at sends
    obtain ⟨_, found⟩ := tracks.sound.items send sends number numbered
    cases begun.symm.trans found
    rfl
  · intro current ahead underway
    rw [underway_unfinished link underway, Option.getD_some] at passed
    rw [same, passed]
  · intro ended
    cases unfinished : fanout.unfinished number with
    | none =>
        rw [unfinished, Option.getD_none, List.append_nil] at passed
        rw [same, passed]
    | some ahead =>
        obtain ⟨current, underway⟩ := underway_of_unfinished link unfinished
        exact absurd underway (ended current ahead)

theorem tracked_run {final : Book Frame} {actions : List (Action Frame)}
    (tracks : Tracks book fanout) (run : replay (Numbered.step env) book actions = some final) :
    ∃ after, Tracks final after ∧ after.begun = fanout.begun ++ actions.filterMap begun := by
  induction actions generalizing book fanout with
  | nil =>
      cases run
      exact ⟨fanout, tracks, by simp⟩
  | cons action rest induction =>
      obtain ⟨middle, fired, later⟩ := replay_cons run
      obtain ⟨between, moved, _, tracked⟩ := tracks.step fired
      obtain ⟨after, ends, begun⟩ := induction tracked later
      refine ⟨after, ends, ?_⟩
      rw [begun, Fanout.begun_run moved, begins_moves, List.append_assoc]
      congr 1
      cases begins : Numbered.begun action with
      | none => rw [List.filterMap_cons_none begins]; rfl
      | some broadcast => rw [List.filterMap_cons_some begins]; rfl

theorem numbered_run {account final : Account Frame} {actions : List (Action Frame)}
    (erased : book.erase = account)
    (run : replay (Lifecycle.step env) account actions = some final) :
    ∃ after, replay (Numbered.step env) book actions = some after ∧ after.erase = final := by
  have counted : ∀ account action next book, Lifecycle.step env account action = some next →
      book.erase = account →
        ∃ after, Numbered.step env book action = some after ∧ after.erase = next := by
    rintro account action next book fired rfl
    rw [erase_step] at fired
    exact Option.map_eq_some_iff.mp fired
  exact replay_lift counted erased run

theorem raised_mark (book : Book Frame) (number : Nat) (action : Action Frame) :
    raised book.erase action = raised book.account (mark number action) := by
  have handlers : ∀ tab, awaited (book.erase.handlers tab) =
      awaited (book.account.handlers tab) := by
    intro tab
    simp only [Book.erase, Account.map]
    cases book.account.handlers tab
    all_goals rfl
  cases action with
  | reported tab delivered | broadcastSent tab delivered =>
      cases delivered with
      | true => rfl
      | false => exact handlers tab
  | eventSent index delivered =>
      cases delivered with
      | true => rfl
      | false =>
          simp only [raised, mark, Book.erase, Account.map, List.getElem?_map]
          cases book.account.events[index]?
          all_goals rfl
  | _ => rfl

theorem over_after {after : Book Frame} {final : Fanout Tab Frame} (sound : fanout.Sound)
    (tracks : Tracks after final) {number : Nat} {tab : Tab} {delivered : Bool}
    {rest : List (Fanout.Move Tab Frame)}
    (greets : rest = [] ∨ ∃ other frame, rest = [.direct other frame])
    (unfinished : fanout.unfinished number = some [])
    (moved : replay Fanout.step fanout (dropped tab delivered ++ .advance number :: rest) =
      some final) : Over after.account number := by
  intro current ahead underway
  obtain ⟨_, link⟩ := tracks.link
  have still := underway_unfinished link underway
  have ended : final.unfinished number = none := by
    have left : (fanout.advance number).unfinished number = none := by
      rw [Fanout.unfinished_advance sound, if_pos rfl, unfinished]
      rfl
    have quit : ((fanout.quit tab).advance number).unfinished number = none := by
      rw [Fanout.unfinished_advance (sound.quit tab), if_pos rfl]
      exact congrArg (fun left => left.bind List.tail?) unfinished
    cases delivered with
    | true =>
        rcases greets with rfl | ⟨other, frame, rfl⟩
        · cases moved
          exact left
        · cases moved
          exact left
    | false =>
        rcases greets with rfl | ⟨other, frame, rfl⟩
        · cases moved
          exact quit
        · cases moved
          exact quit
  rw [ended] at still
  cases still

theorem goes_on (env : Env Frame) (tracks : Tracks book fanout) {number : Nat} {current : Tab} {ahead : List Tab}
    (underway : UnderWay book.account number current ahead) (delivered : Bool) :
    ∃ action after, Numbered.step env book action = some after ∧
      raised book.account (mark book.count action) = (if delivered then none else some current) ∧
        GoesOn number ahead book.account after.account := by
  obtain ⟨owner, link⟩ := tracks.link
  have unfinished := underway_unfinished link underway
  cases underway with
  | @report tab _ frame _ awaits =>
      have fired : Numbered.step env book (.reported tab delivered) =
          some ⟨report (markedEnv env) (book.account.sendEnded current delivered) tab
            (some number, frame) ahead, book.count⟩ := by
        simp [Numbered.step, mark, Lifecycle.step, awaits, begun]
      refine ⟨.reported tab delivered, _, fired, ?_, ?_, ?_⟩
      · cases delivered
        all_goals simp [mark, raised, awaited, awaits]
      · rintro next later rfl
        refine ⟨.report (Function.update_self ..), frame, ?_⟩
        cases delivered
        all_goals rfl
      · rintro rfl
        obtain ⟨final, moved, _, tracked⟩ := tracks.step fired
        simp only [moves, awaits] at moved
        exact over_after tracks.sound tracked (Or.inr ⟨_, _, rfl⟩) unfinished moved
  | @command tab _ frame _ awaits =>
      have fired : Numbered.step env book (.broadcastSent tab delivered) =
          some ⟨(book.account.sendEnded current delivered).broadcast tab (some number, frame) ahead,
            book.count⟩ := by
        simp [Numbered.step, mark, Lifecycle.step, awaits, begun]
      refine ⟨.broadcastSent tab delivered, _, fired, ?_, ?_, ?_⟩
      · cases delivered
        all_goals simp [mark, raised, awaited, awaits]
      · rintro next later rfl
        refine ⟨.command (Function.update_self ..), frame, ?_⟩
        cases delivered
        all_goals rfl
      · rintro rfl
        obtain ⟨final, moved, _, tracked⟩ := tracks.step fired
        simp only [moves, awaits] at moved
        exact over_after tracks.sound tracked (Or.inl rfl) unfinished moved
  | @event index _ frame _ afterwards awaits =>
      have fired : Numbered.step env book (.eventSent index delivered) =
          some ⟨(book.account.sendEnded current delivered).continueEvent index (some number, frame)
            afterwards ahead, book.count⟩ := by
        simp [Numbered.step, mark, Lifecycle.step, awaits, begun]
      refine ⟨.eventSent index delivered, _, fired, ?_, ?_, ?_⟩
      · cases delivered
        all_goals simp [mark, raised, awaits]
      · rintro next later rfl
        have inside := (List.getElem?_eq_some_iff.mp awaits).1
        have events : (book.account.sendEnded current delivered).events = book.account.events := by
          cases delivered
          all_goals rfl
        have goes : UnderWay ((book.account.sendEnded current delivered).continueEvent index
            (some number, frame) afterwards (next :: later)) number next later := by
          have awaited : ((book.account.sendEnded current delivered).continueEvent index
              (some number, frame) afterwards (next :: later)).events[index]? =
                some ⟨(some number, frame), next :: later, afterwards⟩ := by
            simp only [continueEvent, events]
            exact List.getElem?_set_self inside
          exact .event awaited
        refine ⟨goes, frame, ?_⟩
        cases delivered
        all_goals rfl
      · rintro rfl
        obtain ⟨final, moved, _, tracked⟩ := tracks.step fired
        simp only [moves, awaits] at moved
        exact over_after tracks.sound tracked (Or.inl rfl) unfinished moved

end Runs

/-- Every broadcast of a run sends its frame once to each tab that was there when it
began, in their order, and to no other. Whether or not an awaited send raises, the
broadcast goes on; what it does to the subscribers is to drop that tab. So a tab whose
sends succeed stays, and gets every broadcast that begins before it leaves. -/
theorem broadcasts_deliver (env : Env Frame) {actions : List (Action Frame)}
    {account : Account Frame} (run : replay (Lifecycle.step env) fresh actions = some account) :
    ∃ book : Book Frame, replay (Numbered.step env) (opened fresh) actions = some book ∧
      book.erase = account ∧
      (∀ before action after frame order, actions = before ++ action :: after →
        begun action = some (frame, order) →
          ∃ start, replay (Lifecycle.step env) fresh before = some start ∧
            order.Perm start.subscribers ∧ order.Nodup ∧
              InOrder book.account (before.filterMap begun).length frame order) ∧
      (∀ number current ahead, UnderWay book.account number current ahead →
        ∀ delivered : Bool, ∃ action next, Numbered.step env book action = some next ∧
          raised account action = (if delivered then none else some current) ∧
            GoesOn number ahead book.account next.account) ∧
      (∀ action next, Lifecycle.step env account action = some next →
        next.subscribers = subscribersAfter account action) ∧
      ∀ before later start tab, actions = before ++ later →
        replay (Lifecycle.step env) fresh before = some start → tab ∈ start.subscribers →
          Conforms (Lifecycle.step env) (Spares tab) start later →
            tab ∈ account.subscribers ∧
              ∀ middle action after frame order, later = middle ++ action :: after →
                begun action = some (frame, order) →
                  Over book.account ((before ++ middle).filterMap begun).length →
                    (reached book.account
                      ((before ++ middle).filterMap begun).length).count tab = 1 := by
  have opens : (opened fresh : Book Frame).erase = fresh := rfl
  obtain ⟨book, counted, erased⟩ := numbered_run opens run
  obtain ⟨fanout, tracks, begins⟩ := tracked_run tracks_fresh counted
  have each : ∀ before action after frame order, actions = before ++ action :: after →
      begun action = some (frame, order) →
        ∃ start, replay (Lifecycle.step env) fresh before = some start ∧
          order.Perm start.subscribers ∧ order.Nodup ∧
            InOrder book.account (before.filterMap begun).length frame order := by
    intro before action after frame order split starts
    rw [split, replay_append] at run
    obtain ⟨start, earlier, onwards⟩ := Option.bind_eq_some_iff.mp run
    obtain ⟨next, fired, _⟩ := replay_cons onwards
    have listed : fanout.begun[(before.filterMap begun).length]? = some (frame, order) := by
      rw [begins, split, List.filterMap_append, List.filterMap_cons_some starts]
      simp [Fanout.idle]
    exact ⟨start, earlier, begun_enumerates fired starts,
      tracks.sound.orders _ (List.mem_of_getElem? listed), in_order_of_tracks tracks listed⟩
  refine ⟨book, counted, erased, each, ?_, ?_, ?_⟩
  · intro number current ahead underway delivered
    obtain ⟨action, next, fired, drops, goesOn⟩ := goes_on env tracks underway delivered
    refine ⟨action, next, fired, ?_, goesOn⟩
    rw [← erased, raised_mark book book.count]
    exact drops
  · intro action next fired
    exact subscribers_step fired
  · intro before later start tab split reaches inside spares
    have stays : ∀ {actions final}, Conforms (Lifecycle.step env) (Spares tab) start actions →
        replay (Lifecycle.step env) start actions = some final → tab ∈ final.subscribers :=
      run_invariant (fun _ _ _ spared member fired => spared_step spared member fired) inside
    have onwards : replay (Lifecycle.step env) start later = some account := by
      rw [split, replay_append, reaches] at run
      exact run
    refine ⟨stays spares onwards, ?_⟩
    intro middle action after frame order further starts ended
    obtain ⟨between, reached, enumerated, distinct, inOrder⟩ :=
      each (before ++ middle) action after frame order (by rw [split, further, List.append_assoc])
        starts
    rw [replay_append, reaches] at reached
    rw [further] at spares
    have among : tab ∈ order := enumerated.mem_iff.mpr (stays (conforms_before spares) reached)
    rw [inOrder.ended ended]
    exact List.count_eq_one_of_mem distinct among

theorem first_tab_dies :
    let actions : List (Action Unit) :=
      [.attach 0, .attach 1, .event () .nothing [1, 0], .eventSent 0 false, .eventSent 0 true]
    ∃ (account : Account Unit) (book : Book Unit),
      replay (Lifecycle.step plainEnv) fresh actions = some account ∧
        replay (Numbered.step plainEnv) (opened fresh) actions = some book ∧
          book.erase = account ∧ account.subscribers = [0] ∧
            InOrder book.account 0 () [1, 0] ∧ reached book.account 0 = [1, 0] := by
  intro actions
  obtain ⟨account, run⟩ : ∃ account, replay (Lifecycle.step plainEnv) fresh actions = some account :=
    ⟨_, rfl⟩
  obtain ⟨book, counted, erased, each, -⟩ := broadcasts_deliver plainEnv run
  obtain ⟨_, _, _, _, inOrder⟩ :=
    each [.attach 0, .attach 1] (.event () .nothing [1, 0]) _ () [1, 0] rfl rfl
  have tabs : account.subscribers = [0] := by
    cases run
    rfl
  have sends : reached book.account 0 = [1, 0] := by
    cases counted
    rfl
  exact ⟨account, book, run, counted, erased, tabs, inOrder, sends⟩

end PyConduit.Delivery
