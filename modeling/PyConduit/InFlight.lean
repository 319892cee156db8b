import PyConduit.Numbered

/-!
# What tabs are told

A frame reaches a tab in a broadcast, in the snapshot or as a reply. The broadcasts of event
handlers are kept apart: whatever of a kind is told by nobody else, a tab is told once for each
event that begins while it is subscribed, or the handler of the event still has it ahead. If no
broadcast tells anything of a kind, a tab is told of that kind just what is sent to it alone.
-/

namespace PyConduit.InFlight

open Lifecycle Lifecycle.Account GuardedRun

set_option autoImplicit false

variable {Frame : Type}

def HandlerCarries (fits : Frame → Prop) : Handler Frame → Prop
  | .reporting frame _ => fits frame
  | .broadcasting frame _ => fits frame
  | _ => True

def Handlers (fits : Frame → Prop) (account : Account Frame) : Prop :=
  ∀ tab, HandlerCarries fits (account.handlers tab)

structure Carries (fits : Frame → Prop) (account : Account Frame) : Prop where
  handlers : Handlers fits account
  events : ∀ task ∈ account.events, fits task.frame

/-- Only frames that fit are sent, and are left to the handlers; the event tasks stay. -/
structure Says (fits : Frame → Prop) (before after : Account Frame) : Prop where
  handlers : Handlers fits after
  events : after.events = before.events
  sent : ∃ new, after.sent = before.sent ++ new ∧ ∀ entry ∈ new, fits entry.2

section Operations

variable {fits : Frame → Prop} {env : Env Frame} {account : Account Frame} (tab : Tab) (frame : Frame)

theorem fresh_handlers (fits : Frame → Prop) : Handlers fits (fresh : Account Frame) := by
  intro tab
  trivial

theorem fresh_carries (fits : Frame → Prop) : Carries fits (fresh : Account Frame) := by
  refine ⟨fresh_handlers fits, ?_⟩
  intro task member
  cases member

theorem Says.trans {first second third : Account Frame} (left : Says fits first second)
    (right : Says fits second third) : Says fits first third := by
  obtain ⟨early, sentEarly, fitEarly⟩ := left.sent
  obtain ⟨late, sentLate, fitLate⟩ := right.sent
  refine ⟨right.handlers, right.events.trans left.events, early ++ late, ?_, ?_⟩
  · rw [sentLate, sentEarly, List.append_assoc]
  · intro entry among
    rcases List.mem_append.mp among with here | there
    · exact fitEarly entry here
    · exact fitLate entry there

theorem says_same {next : Account Frame} (carries : Handlers fits account)
    (handlers : next.handlers = account.handlers) (events : next.events = account.events)
    (sent : next.sent = account.sent) : Says fits account next := by
  refine ⟨?_, events, [], ?_, ?_⟩
  · intro tab
    rw [handlers]
    exact carries tab
  · rw [sent, List.append_nil]
  · intro entry among
    cases among

theorem says_set_handler (carries : Handlers fits account) {handler : Handler Frame}
    (holds : HandlerCarries fits handler) : Says fits account (account.setHandler tab handler) := by
  refine ⟨?_, rfl, [], (List.append_nil _).symm, by simp⟩
  intro other
  by_cases same : other = tab
  · subst other
    simpa [setHandler] using holds
  · simpa [setHandler, same] using carries other

theorem says_send (carries : Handlers fits account) {frame : Frame} (fit : fits frame) :
    Says fits account (account.send tab frame) := by
  refine ⟨carries, rfl, [(tab, frame)], rfl, ?_⟩
  intro entry among
  cases List.mem_singleton.mp among
  exact fit

theorem says_send_ended (carries : Handlers fits account) (delivered : Bool) :
    Says fits account (account.sendEnded tab delivered) := by
  cases delivered
  all_goals exact says_same carries rfl rfl rfl

theorem says_schedule (carries : Handlers fits account) :
    Says fits account account.scheduleReconnect := by
  unfold scheduleReconnect
  split_ifs
  all_goals exact says_same carries rfl rfl rfl

theorem says_send_snapshot (carries : Handlers fits account) (ready : fits (env.ready tab)) :
    Says fits account (sendSnapshot env account tab) :=
  have placed := says_set_handler tab carries (show HandlerCarries fits .snapshot from trivial)
  placed.trans (says_send tab placed.handlers ready)

theorem says_under_lock (carries : Handlers fits account) (ready : fits (env.ready tab)) :
    Says fits account (underLock env account tab) := by
  unfold underLock
  split_ifs
  · have released : Says fits account account.releaseLock := says_same carries rfl rfl rfl
    exact released.trans (says_send_snapshot tab released.handlers ready)
  · have called : Says fits account account.connect := says_same carries rfl rfl rfl
    exact called.trans (says_set_handler tab called.handlers trivial)

theorem says_attach (carries : Handlers fits account) (ready : fits (env.ready tab)) :
    Says fits account (attach env account tab) := by
  unfold attach ensureConnected
  split_ifs
  · have opened : Says fits account { account.cancelIdle with
        subscribers := account.subscribers.insert tab, lockHolder := some tab } :=
      says_same carries rfl rfl rfl
    exact opened.trans (says_under_lock tab opened.handlers ready)
  · have opened : Says fits account { account.cancelIdle with
        subscribers := account.subscribers.insert tab } := says_same carries rfl rfl rfl
    have waits := opened.trans
      (says_set_handler tab opened.handlers (show HandlerCarries fits .waitLock from trivial))
    exact ⟨waits.handlers, waits.events, waits.sent⟩

variable {frame}

theorem says_report (carries : Handlers fits account) (ready : fits (env.ready tab))
    (fit : fits frame) (order : List Tab) : Says fits account (report env account tab frame order) := by
  cases order with
  | nil =>
      have scheduled := says_schedule carries
      have released : Says fits account.scheduleReconnect account.scheduleReconnect.releaseLock :=
        says_same scheduled.handlers rfl rfl rfl
      exact scheduled.trans (released.trans (says_send_snapshot tab released.handlers ready))
  | cons next rest =>
      have placed := says_set_handler tab carries
        (show HandlerCarries fits (.reporting frame (next :: rest)) from fit)
      exact placed.trans (says_send next placed.handlers fit)

theorem says_broadcast (carries : Handlers fits account) (fit : fits frame) (order : List Tab) :
    Says fits account (account.broadcast tab frame order) := by
  cases order with
  | nil => exact says_set_handler tab carries trivial
  | cons next rest =>
      have placed := says_set_handler tab carries
        (show HandlerCarries fits (.broadcasting frame (next :: rest)) from fit)
      exact placed.trans (says_send next placed.handlers fit)

theorem says_detach (carries : Handlers fits account) : Says fits account (account.detach tab) := by
  have discarded : Says fits account (account.discard tab) := says_same carries rfl rfl rfl
  have ended := discarded.trans
    (says_set_handler tab discarded.handlers (show HandlerCarries fits .ended from trivial))
  unfold detach
  dsimp only
  split_ifs
  · exact ended.trans (says_same ended.handlers rfl rfl rfl)
  · exact ended

end Operations

def firstSend (frame : Frame) (order : List Tab) : List (Tab × Frame) :=
  (order.head?.map fun tab => (tab, frame)).toList

def goneOn (tasks : List (EventTask Frame)) (index : Nat) (task : EventTask Frame) :
    List Tab → List (EventTask Frame)
  | [] => tasks.eraseIdx index
  | next :: rest => tasks.set index { task with rest := next :: rest }

section Events

variable {account : Account Frame} (frame : Frame) (afterwards : Afterwards) (order : List Tab)

theorem finish_event_same :
    (account.finishEvent afterwards).handlers = account.handlers ∧
      (account.finishEvent afterwards).events = account.events ∧
        (account.finishEvent afterwards).sent = account.sent := by
  cases afterwards with
  | nothing => exact ⟨rfl, rfl, rfl⟩
  | scheduleReconnect =>
      simp only [finishEvent, scheduleReconnect]
      split_ifs
      all_goals exact ⟨rfl, rfl, rfl⟩

theorem start_event_fields :
    (account.startEvent frame afterwards order).handlers = account.handlers ∧
      (account.startEvent frame afterwards order).events =
          account.events ++ (if order = [] then [] else [⟨frame, order, afterwards⟩]) ∧
        (account.startEvent frame afterwards order).sent = account.sent ++ firstSend frame order := by
  cases order with
  | nil =>
      obtain ⟨handlers, events, sent⟩ := @finish_event_same _ account afterwards
      exact ⟨handlers, events.trans (List.append_nil _).symm, sent.trans (List.append_nil _).symm⟩
  | cons next rest => exact ⟨rfl, by simp [startEvent], rfl⟩

theorem continue_event_fields (index : Nat) :
    (account.continueEvent index frame afterwards order).handlers = account.handlers ∧
      (account.continueEvent index frame afterwards order).events =
          goneOn account.events index ⟨frame, [], afterwards⟩ order ∧
        (account.continueEvent index frame afterwards order).sent =
          account.sent ++ firstSend frame order := by
  cases order with
  | nil =>
      obtain ⟨handlers, events, sent⟩ := @finish_event_same _
        { account with events := account.events.eraseIdx index } afterwards
      exact ⟨handlers, events, sent.trans (List.append_nil _).symm⟩
  | cons next rest => exact ⟨rfl, rfl, rfl⟩

end Events

def direct : Action Frame → Option (Tab × Frame)
  | .reply tab frame => some (tab, frame)
  | .snapshotSend tab frame => some (tab, frame)
  | _ => none

def news : Action Frame → Option Frame
  | .event frame _ _ => some frame
  | _ => none

/-- An action sends one frame to one tab, begins or goes on with the broadcast of an event, or
does neither. -/
inductive Spoken (fits : Frame → Prop) (account : Account Frame) (action : Action Frame)
    (next : Account Frame) : Prop
  | aside (spoken : Says fits account next) (alone : direct action = none)
      (nothing : news action = none)
  | alone {tab : Tab} {frame : Frame} (alone : direct action = some (tab, frame))
      (nothing : news action = none) (same : next = account.send tab frame)
  | begins {frame : Frame} {afterwards : Afterwards} {order : List Tab}
      (same : action = .event frame afterwards order) (all : order.Perm account.subscribers)
      (handlers : next.handlers = account.handlers)
      (events : next.events =
        account.events ++ if order = [] then [] else [⟨frame, order, afterwards⟩])
      (sent : next.sent = account.sent ++ firstSend frame order)
  | goesOn {index : Nat} {frame : Frame} {current : Tab} {rest : List Tab} {afterwards : Afterwards}
      (alone : direct action = none) (nothing : news action = none)
      (begun : Numbered.begun action = none)
      (sending : account.events[index]? = some ⟨frame, current :: rest, afterwards⟩)
      (handlers : next.handlers = account.handlers)
      (events : next.events = goneOn account.events index ⟨frame, [], afterwards⟩ rest)
      (sent : next.sent = account.sent ++ firstSend frame rest)

section Steps

variable {fits : Frame → Prop} {env : Env Frame} {account next : Account Frame}
  {action : Action Frame}

theorem spoken_of_step (ready : ∀ tab, fits (env.ready tab)) (carries : Handlers fits account)
    (begins : ∀ frame order, Numbered.begun action = some (frame, order) → news action = none →
      fits frame)
    (fired : step env account action = some next) : Spoken fits account action next := by
  have kept : ∀ {next : Account Frame}, next.handlers = account.handlers →
      next.events = account.events → next.sent = account.sent → direct action = none →
        news action = none → Spoken fits account action next :=
    fun handlers events sent alone nothing =>
      .aside (says_same carries handlers events sent) alone nothing
  cases fires_of_step fired with
  | attach => exact .aside (says_attach _ carries (ready _)) rfl rfl
  | @lockGranted tab waiters =>
      have taken : Says fits account { account with
          lockHolder := some tab, lockWaiters := waiters } := says_same carries rfl rfl rfl
      exact .aside (taken.trans (says_under_lock _ taken.handlers (ready _))) rfl rfl
  | connectReturns =>
      have ended : Says fits account account.connectEnds.releaseLock :=
        says_same carries rfl rfl rfl
      exact .aside (ended.trans (says_send_snapshot _ ended.handlers (ready _))) rfl rfl
  | connectRaises =>
      have ended : Says fits account account.connectEnds := says_same carries rfl rfl rfl
      exact .aside (ended.trans (says_report _ ended.handlers (ready _) (begins _ _ rfl rfl) _))
        rfl rfl
  | @reported tab current delivered frame rest reporting =>
      have ended := says_send_ended current carries delivered
      have fit : HandlerCarries fits (account.handlers tab) := carries tab
      rw [reporting] at fit
      exact .aside (ended.trans (says_report _ ended.handlers (ready _) fit _)) rfl rfl
  | snapshotSend => exact .alone rfl rfl rfl
  | snapshotEnds => exact .aside (says_set_handler _ carries trivial) rfl rfl
  | snapshotRaises => exact .aside (says_set_handler _ carries trivial) rfl rfl
  | reply => exact .alone rfl rfl rfl
  | broadcast => exact .aside (says_broadcast _ carries (begins _ _ rfl rfl) _) rfl rfl
  | @broadcastSent tab current delivered frame rest sending =>
      have ended := says_send_ended current carries delivered
      have fit : HandlerCarries fits (account.handlers tab) := carries tab
      rw [sending] at fit
      exact .aside (ended.trans (says_broadcast _ ended.handlers fit _)) rfl rfl
  | detach => exact .aside (says_detach _ carries) rfl rfl
  | @idleExpires outcome =>
      unfold idleCountdown
      split_ifs
      · cases outcome
        all_goals exact kept rfl rfl rfl rfl rfl
      · exact kept rfl rfl rfl rfl rfl
  | reconnectStarts =>
      unfold reconnectLoop
      split_ifs
      all_goals exact kept rfl rfl rfl rfl rfl
  | reconnectWakes =>
      unfold Account.reconnectWakes
      split_ifs
      all_goals exact kept rfl rfl rfl rfl rfl
  | reconnectRaises =>
      unfold reconnectLoop
      split_ifs
      all_goals exact kept rfl rfl rfl rfl rfl
  | @event frame order all =>
      obtain ⟨handlers, events, sent⟩ := @start_event_fields _ account frame .nothing order
      exact .begins rfl all handlers events sent
  | @disconnected frame order all =>
      obtain ⟨handlers, events, sent⟩ := @start_event_fields _
        { account with pendingDrops := account.pendingDrops - 1 } frame .scheduleReconnect order
      exact .begins rfl all handlers events sent
  | @eventSent index delivered frame current rest afterwards sending =>
      obtain ⟨handlers, events, sent⟩ := @continue_event_fields _
        (account.sendEnded current delivered) frame afterwards rest index
      cases delivered
      all_goals exact .goesOn rfl rfl rfl sending handlers events sent
  | _ => exact kept rfl rfl rfl rfl rfl

/-- Only a frame that fits is sent first. -/
theorem fits_first_send {frame : Frame} (fit : fits frame) (order : List Tab) :
    ∀ entry ∈ firstSend frame order, fits entry.2 := by
  intro entry among
  obtain ⟨tab, _, rfl⟩ := Option.map_eq_some_iff.mp (Option.mem_toList.mp among)
  exact fit

theorem mem_gone_on {tasks : List (EventTask Frame)} {index : Nat} {task other : EventTask Frame}
    {rest : List Tab} (among : other ∈ goneOn tasks index task rest) :
    other ∈ tasks ∨ other = { task with rest := rest } := by
  cases rest with
  | nil => exact .inl (List.mem_of_mem_eraseIdx among)
  | cons next rest => exact List.mem_or_eq_of_mem_set among

theorem says_step (ready : ∀ tab, fits (env.ready tab)) (carries : Carries fits account)
    (begins : ∀ frame order, Numbered.begun action = some (frame, order) → fits frame)
    (fired : step env account action = some next) :
    Carries fits next ∧ ∃ new, next.sent = account.sent ++ new ∧
      ((∀ entry ∈ new, fits entry.2) ∧ direct action = none ∨
        ∃ entry, direct action = some entry ∧ new = [entry]) := by
  cases spoken_of_step ready carries.handlers (fun frame order begun _ => begins frame order begun)
      fired with
  | aside spoken alone =>
      obtain ⟨new, sent, fit⟩ := spoken.sent
      exact ⟨⟨spoken.handlers, spoken.events ▸ carries.events⟩, new, sent, .inl ⟨fit, alone⟩⟩
  | alone addressed _ same =>
      subst same
      exact ⟨⟨carries.handlers, carries.events⟩, _, rfl, .inr ⟨_, addressed, rfl⟩⟩
  | @begins frame _ order same _ handlers events sent =>
      subst same
      have fit : fits frame := begins _ _ rfl
      refine ⟨⟨?_, ?_⟩, _, sent, .inl ⟨fits_first_send fit order, rfl⟩⟩
      · intro tab
        rw [handlers]
        exact carries.handlers tab
      · rw [events]
        intro task among
        rcases List.mem_append.mp among with before | new
        · exact carries.events task before
        · split_ifs at new
          · cases new
          · cases List.mem_singleton.mp new
            exact fit
  | goesOn alone _ _ sending handlers events sent =>
      have fit := carries.events _ (List.mem_of_getElem? sending)
      refine ⟨⟨?_, ?_⟩, _, sent, .inl ⟨fits_first_send fit _, alone⟩⟩
      · intro tab
        rw [handlers]
        exact carries.handlers tab
      · rw [events]
        intro task among
        rcases mem_gone_on among with before | rfl
        · exact carries.events task before
        · exact fit

end Steps

section Told

variable {Item : Type} (read : Frame → Option Item)

def told (tab : Tab) (sent : List (Tab × Frame)) : List Item :=
  sent.filterMap fun entry => if entry.1 = tab then read entry.2 else none

theorem told_append (tab : Tab) (sent later : List (Tab × Frame)) :
    told read tab (sent ++ later) = told read tab sent ++ told read tab later :=
  List.filterMap_append ..

theorem told_nothing (tab : Tab) {sent : List (Tab × Frame)}
    (silent : ∀ entry ∈ sent, read entry.2 = none) : told read tab sent = [] := by
  apply List.filterMap_eq_nil_iff.mpr
  intro entry among
  rw [silent entry among, ite_self]

def toldAlone (tab : Tab) (action : Action Frame) : List Item :=
  match direct action with
  | some entry => told read tab [entry]
  | none => []

variable {read} {env : Env Frame} {account next : Account Frame} {action : Action Frame}

theorem told_step (ready : ∀ tab, read (env.ready tab) = none)
    (carries : Carries (fun frame => read frame = none) account)
    (begins : ∀ frame order, Numbered.begun action = some (frame, order) → read frame = none)
    (fired : step env account action = some next) :
    Carries (fun frame => read frame = none) next ∧
      ∀ tab, told read tab next.sent = told read tab account.sent ++ toldAlone read tab action := by
  obtain ⟨still, new, sent, told⟩ := says_step ready carries begins fired
  refine ⟨still, ?_⟩
  intro tab
  rw [sent, told_append, toldAlone]
  rcases told with ⟨silent, alone⟩ | ⟨entry, alone, rfl⟩
  · rw [told_nothing read tab silent, alone]
  · rw [alone]

end Told

section Due

variable {Item : Type} (read : Frame → Option Item) (tab : Tab)

def ahead (task : EventTask Frame) : List Item :=
  if tab ∈ task.rest.tail then (read task.frame).toList else []

def due (account : Account Frame) : List Item := account.events.flatMap (ahead read tab)

def newsTo (account : Account Frame) (action : Action Frame) : List Item :=
  if tab ∈ account.subscribers then ((news action).bind read).toList else []

def Distinct (account : Account Frame) : Prop := ∀ task ∈ account.events, task.rest.Nodup

/-- What is sent first and what is left make the whole. -/
theorem told_first_send {order : List Tab} (distinct : order.Nodup) (frame : Frame)
    (afterwards : Afterwards) :
    told read tab (firstSend frame order) ++ ahead read tab ⟨frame, order, afterwards⟩ =
      if tab ∈ order then (read frame).toList else [] := by
  cases order with
  | nil => rfl
  | cons first rest =>
      have apart : first ∉ rest := (List.nodup_cons.mp distinct).1
      by_cases same : first = tab
      · subst same
        cases found : read frame
        all_goals simp [told, firstSend, ahead, apart, found]
      · have others : tab ≠ first := fun equal => same equal.symm
        by_cases later : tab ∈ rest
        all_goals simp [told, firstSend, ahead, same, others, later]

variable {read tab}

theorem due_gone_on {tasks : List (EventTask Frame)} {index : Nat} (bound : index < tasks.length)
    (task : EventTask Frame) (rest : List Tab) :
    ((goneOn tasks index task rest).flatMap (ahead read tab)).Perm
      (ahead read tab { task with rest := rest } ++
        (tasks.eraseIdx index).flatMap (ahead read tab)) := by
  cases rest with
  | nil => exact List.Perm.refl _
  | cons next rest =>
      have placed := List.set_perm_cons_eraseIdx bound { task with rest := next :: rest }
      exact placed.flatMap_right (ahead read tab)

theorem distinct_gone_on {tasks : List (EventTask Frame)} {index : Nat} {task : EventTask Frame}
    {rest : List Tab} (each : ∀ other ∈ tasks, other.rest.Nodup) (distinct : rest.Nodup) :
    ∀ other ∈ goneOn tasks index task rest, other.rest.Nodup := by
  intro other among
  rcases mem_gone_on among with before | rfl
  · exact each other before
  · exact distinct

variable {env : Env Frame} {account next : Account Frame} {action : Action Frame}

theorem distinct_begun {frame : Frame} {afterwards : Afterwards} {order : List Tab}
    (distinct : Distinct account) (once : order.Nodup)
    (events : next.events =
      account.events ++ if order = [] then [] else [⟨frame, order, afterwards⟩]) :
    Distinct next := by
  rw [Distinct, events]
  intro task among
  rcases List.mem_append.mp among with before | new
  · exact distinct task before
  · split_ifs at new
    · cases new
    · cases List.mem_singleton.mp new
      exact once

theorem due_begun {frame : Frame} {afterwards : Afterwards} {order : List Tab} (once : order.Nodup)
    (events : next.events =
      account.events ++ if order = [] then [] else [⟨frame, order, afterwards⟩])
    (sent : next.sent = account.sent ++ firstSend frame order) :
    (told read tab next.sent ++ due read tab next).Perm
      (told read tab account.sent ++ due read tab account ++
        if tab ∈ order then (read frame).toList else []) := by
  have left : due read tab next =
      due read tab account ++ ahead read tab ⟨frame, order, afterwards⟩ := by
    rw [due, events, List.flatMap_append]
    cases order
    all_goals simp [due, ahead]
  have whole := told_first_send read tab once frame afterwards
  rw [sent, told_append, left, ← whole, List.append_assoc, List.append_assoc]
  apply List.Perm.append_left
  rw [← List.append_assoc, ← List.append_assoc]
  exact List.Perm.append_right _ List.perm_append_comm

theorem due_gone {frame : Frame} {current : Tab} {rest : List Tab} {afterwards : Afterwards}
    {index : Nat} (once : rest.Nodup)
    (sending : account.events[index]? = some ⟨frame, current :: rest, afterwards⟩)
    (events : next.events = goneOn account.events index ⟨frame, [], afterwards⟩ rest)
    (sent : next.sent = account.sent ++ firstSend frame rest) :
    (told read tab next.sent ++ due read tab next).Perm
      (told read tab account.sent ++ due read tab account) := by
  obtain ⟨bound, found⟩ := List.getElem?_eq_some_iff.mp sending
  have whole := told_first_send read tab once frame afterwards
  have before : (due read tab account).Perm
      ((if tab ∈ rest then (read frame).toList else []) ++
        (account.events.eraseIdx index).flatMap (ahead read tab)) := by
    have placed := (List.getElem_cons_eraseIdx_perm bound).symm.flatMap_right (ahead read tab)
    rw [found] at placed
    exact placed
  have after := @due_gone_on _ _ read tab _ _ bound ⟨frame, [], afterwards⟩ rest
  rw [sent, told_append, List.append_assoc]
  apply List.Perm.append_left
  rw [due, events]
  refine (List.Perm.append_left _ after).trans ?_
  rw [← List.append_assoc, whole]
  exact before.symm

/-- If nobody else tells anything of a kind, what a tab has been told and what it has still to be
told grow by the events that begin while it is subscribed. -/
theorem due_step (ready : ∀ tab, read (env.ready tab) = none)
    (carries : Handlers (fun frame => read frame = none) account)
    (subscribed : account.subscribers.Nodup) (distinct : Distinct account)
    (begins : ∀ frame order, Numbered.begun action = some (frame, order) → news action = none →
      read frame = none)
    (silent : ∀ entry, direct action = some entry → read entry.2 = none)
    (fired : step env account action = some next) :
    Handlers (fun frame => read frame = none) next ∧ Distinct next ∧
      ∀ tab, (told read tab next.sent ++ due read tab next).Perm
        (told read tab account.sent ++ due read tab account ++ newsTo read tab account action) := by
  have quiet : ∀ tab, news action = none → newsTo read tab account action = [] := by
    intro tab nothing
    rw [newsTo, nothing]
    exact ite_self []
  have keep : next.handlers = account.handlers →
      Handlers (fun frame => read frame = none) next := by
    intro same tab
    rw [same]
    exact carries tab
  cases spoken_of_step ready carries begins fired with
  | aside spoken _ nothing =>
      obtain ⟨new, sent, unread⟩ := spoken.sent
      refine ⟨spoken.handlers, ?_, ?_⟩
      · rw [Distinct, spoken.events]
        exact distinct
      · intro tab
        rw [sent, told_append, told_nothing read tab unread, due, spoken.events, quiet tab nothing,
          List.append_nil, List.append_nil]
        exact List.Perm.refl _
  | @alone other frame addressed nothing same =>
      subst same
      refine ⟨carries, distinct, ?_⟩
      intro tab
      have untold : told read tab [(other, frame)] = [] := by
        apply told_nothing
        intro entry among
        cases List.mem_singleton.mp among
        exact silent _ addressed
      have sent : told read tab (account.send other frame).sent = told read tab account.sent := by
        rw [send, told_append, untold, List.append_nil]
      rw [sent, quiet tab nothing, List.append_nil]
      exact List.Perm.refl _
  | @begins frame afterwards order same all handlers events sent =>
      subst same
      have once : order.Nodup := all.nodup_iff.mpr subscribed
      refine ⟨keep handlers, distinct_begun distinct once events, ?_⟩
      intro tab
      have same : newsTo read tab account (.event frame afterwards order) =
          if tab ∈ order then (read frame).toList else [] := by
        simp [newsTo, news, all.mem_iff]
      rw [same]
      exact due_begun once events sent
  | @goesOn index frame current rest afterwards _ nothing _ sending handlers events sent =>
      have once : (current :: rest).Nodup := distinct _ (List.mem_of_getElem? sending)
      have later : rest.Nodup := (List.nodup_cons.mp once).2
      refine ⟨keep handlers, ?_, ?_⟩
      · rw [Distinct, events]
        exact distinct_gone_on distinct later
      · intro tab
        rw [quiet tab nothing, List.append_nil]
        exact due_gone later sending events sent

end Due

end PyConduit.InFlight
