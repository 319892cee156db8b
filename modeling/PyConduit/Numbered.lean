import PyConduit.FanoutOrder
import PyConduit.Footprint
import PyConduit.Relabel

/-!
# Broadcasts with numbers

Every broadcast of an account gets the next number as it begins, and its frames
carry it; all other frames carry none. No handler sees the numbers, so the account
runs as it does without them. The broadcasts under way, the ones of the handlers
of the tabs and the ones of the events, are those of a `Fanout`.
-/

namespace PyConduit.Numbered

open Lifecycle Lifecycle.Account GuardedRun

set_option autoImplicit false

variable {Frame : Type}

abbrev Marked (Frame : Type) := Option Nat × Frame

def begun : Action Frame → Option (Frame × List Tab)
  | .connectRaises _ frame order => some (frame, order)
  | .broadcast _ frame order => some (frame, order)
  | .event frame _ order => some (frame, order)
  | _ => none

def mark (number : Nat) : Action Frame → Action (Marked Frame)
  | .attach tab => .attach tab
  | .lockGranted tab => .lockGranted tab
  | .connectReturns tab => .connectReturns tab
  | .connectRaises tab frame order => .connectRaises tab (some number, frame) order
  | .reported tab delivered => .reported tab delivered
  | .snapshotSend tab frame => .snapshotSend tab (none, frame)
  | .snapshotEnds tab => .snapshotEnds tab
  | .snapshotRaises tab => .snapshotRaises tab
  | .reply tab frame => .reply tab (none, frame)
  | .broadcast tab frame order => .broadcast tab (some number, frame) order
  | .broadcastSent tab delivered => .broadcastSent tab delivered
  | .detach tab => .detach tab
  | .idleExpires outcome => .idleExpires outcome
  | .closerCancelled => .closerCancelled
  | .reconnectStarts => .reconnectStarts
  | .reconnectWakes => .reconnectWakes
  | .reconnectReturns => .reconnectReturns
  | .reconnectRaises => .reconnectRaises
  | .reconnectCancelled => .reconnectCancelled
  | .clientUp => .clientUp
  | .drop => .drop
  | .event frame afterwards order => .event (some number, frame) afterwards order
  | .eventSent index delivered => .eventSent index delivered

/-- What an action sends to one tab on behalf of the layer above. -/
def spoken : Action Frame → Option (Tab × Frame)
  | .snapshotSend tab frame => some (tab, frame)
  | .reply tab frame => some (tab, frame)
  | _ => none

theorem begun_enumerates {env : Env Frame} {account next : Account Frame} {action : Action Frame}
    (fired : Lifecycle.step env account action = some next) {broadcast : Frame × List Tab}
    (begins : begun action = some broadcast) : broadcast.2.Perm account.subscribers := by
  cases fires_of_step fired with
  | connectRaises connecting enumerated
  | broadcast pumping enumerated =>
      cases begins
      exact enumerated
  | event enumerated
  | disconnected enumerated =>
      cases begins
      exact enumerated
  | _ => cases begins

def markedEnv (env : Env Frame) : Env (Marked Frame) :=
  ⟨env.reconnect, fun tab => (none, env.ready tab)⟩

/-- `count` is the number of the next broadcast. -/
structure Book (Frame : Type) where
  account : Account (Marked Frame)
  count : Nat

def Book.erase (book : Book Frame) : Account Frame := book.account.map Prod.snd

/-- The account as it is found, with no broadcast counted yet. -/
def opened (account : Account Frame) : Book Frame := ⟨account.map fun frame => (none, frame), 0⟩

def step (env : Env Frame) (book : Book Frame) (action : Action Frame) : Option (Book Frame) :=
  (Lifecycle.step (markedEnv env) book.account (mark book.count action)).map fun account =>
    ⟨account, if (begun action).isSome then book.count + 1 else book.count⟩

theorem erase_mark (number : Nat) (action : Action Frame) :
    (mark number action).map Prod.snd = action := by
  cases action
  all_goals rfl

/-- Without the numbers the account does what it always does. -/
theorem erase_step (env : Env Frame) (book : Book Frame) (action : Action Frame) :
    Lifecycle.step env book.erase action = (step env book action).map Book.erase := by
  have mapped := step_map Prod.snd (markedEnv env) book.account (mark book.count action)
  rw [erase_mark] at mapped
  have same : (markedEnv env).map Prod.snd = env := rfl
  rw [same] at mapped
  simp only [Book.erase, step, Option.map_map]
  exact mapped

def sending : Handler Frame → Option (Frame × List Tab)
  | .reporting frame order => order.tail?.map (frame, ·)
  | .broadcasting frame order => order.tail?.map (frame, ·)
  | _ => none

def Waiting (account : Account (Marked Frame)) (tab : Tab) (number : Nat) : Prop :=
  (∃ other frame ahead, sending (account.handlers other) = some ((some number, frame), ahead) ∧
    tab ∈ ahead) ∨
    ∃ task ∈ account.events, task.frame.1 = some number ∧ tab ∈ task.rest.tail

/-- The broadcast that an action sends for, and the tab it sends to. -/
def turn (book : Book Frame) : Action Frame → Option (Nat × Tab)
  | .connectRaises _ _ order | .broadcast _ _ order | .event _ _ order =>
      order.head?.map (book.count, ·)
  | .reported tab _ | .broadcastSent tab _ =>
      match sending (book.account.handlers tab) with
      | some ((some number, _), next :: _) => some (number, next)
      | _ => none
  | .eventSent index _ =>
      match book.account.events[index]? with
      | some ⟨(some number, _), _ :: next :: _, _⟩ => some (number, next)
      | _ => none
  | _ => none

/-- An action sends for a broadcast to a tab only when no broadcast that began
earlier still has the tab ahead. -/
def InTurn (book : Book Frame) (action : Action Frame) : Prop :=
  ∀ number tab, turn book action = some (number, tab) →
    ∀ earlier < number, ¬Waiting book.account tab earlier

structure Waits (fanout : Fanout Tab Frame) (number : Nat) (frame : Frame)
    (ahead : List Tab) : Prop where
  unfinished : fanout.unfinished number = some ahead
  begun : fanout.begun[number]?.map Prod.fst = some frame

/-- The account is a group of tabs with the broadcasts of its handlers and events.
The owner of a number is the tab whose handler has begun the broadcast. -/
structure Link (owner : Nat → Option Tab) (account : Account (Marked Frame))
    (fanout : Fanout Tab Frame) : Prop where
  members : fanout.members = account.subscribers
  sent : fanout.sent = account.sent
  tabs : ∀ tab frame ahead, sending (account.handlers tab) = some (frame, ahead) →
    ∃ number, frame.1 = some number ∧ owner number = some tab ∧ Waits fanout number frame.2 ahead
  events : ∀ (index : Nat) (task : EventTask (Marked Frame)), account.events[index]? = some task →
    ∃ number ahead, task.frame.1 = some number ∧ owner number = none ∧
      task.rest.tail? = some ahead ∧ Waits fanout number task.frame.2 ahead
  distinct : ∀ (index other : Nat) (task later : EventTask (Marked Frame)),
    account.events[index]? = some task → account.events[other]? = some later → task.frame.1 = later.frame.1 → index = other
  owned : ∀ number ahead, fanout.unfinished number = some ahead →
    (∃ tab frame, sending (account.handlers tab) = some ((some number, frame), ahead)) ∨
      ∃ index : Nat, ∃ task : EventTask (Marked Frame), account.events[index]? = some task ∧
        task.frame.1 = some number

/-- The handler of a tab turns to the next send of a broadcast, or leaves it when
there is none. -/
structure Turns (tab : Tab) (frame : Marked Frame) (order : List Tab)
    (account next : Account (Marked Frame)) : Prop where
  subscribers : next.subscribers = account.subscribers
  events : next.events = account.events
  others : ∀ other, other ≠ tab →
    sending (next.handlers other) = sending (account.handlers other)
  own : sending (next.handlers tab) = order.tail?.map (frame, ·)
  sent : next.sent = account.sent ++ (order.head?.map (·, frame)).toList

section Links

variable {owner : Nat → Option Tab} {account next : Account (Marked Frame)}
  {fanout : Fanout Tab Frame}

theorem Link.of_same (link : Link owner account fanout)
    (subscribers : next.subscribers = account.subscribers) (sent : next.sent = account.sent)
    (handlers : ∀ tab, sending (next.handlers tab) = sending (account.handlers tab))
    (events : next.events = account.events) : Link owner next fanout := by
  refine ⟨?_, ?_, ?_, ?_, ?_, ?_⟩
  · rw [subscribers]
    exact link.members
  · rw [sent]
    exact link.sent
  · intro tab
    rw [handlers tab]
    exact link.tabs tab
  · rw [events]
    exact link.events
  · rw [events]
    exact link.distinct
  · rw [events]
    simp only [handlers]
    exact link.owned

theorem Link.join (link : Link owner account fanout) (tab : Tab) :
    Link owner { account with subscribers := account.subscribers.insert tab }
      (fanout.join tab) := by
  refine ⟨?_, link.sent, ?_, ?_, link.distinct, link.owned⟩
  · simp only [Fanout.join, link.members]
  · intro other frame ahead found
    obtain ⟨number, marked, owns, waits⟩ := link.tabs other frame ahead found
    exact ⟨number, marked, owns, waits.unfinished, waits.begun⟩
  · intro index task found
    obtain ⟨number, ahead, marked, owns, rest, waits⟩ := link.events index task found
    exact ⟨number, ahead, marked, owns, rest, waits.unfinished, waits.begun⟩

theorem Link.quit (link : Link owner account fanout) (tab : Tab) :
    Link owner (account.discard tab) (fanout.quit tab) := by
  refine ⟨?_, link.sent, ?_, ?_, link.distinct, link.owned⟩
  · simp only [Fanout.quit, Account.discard, link.members]
  · intro other frame ahead found
    obtain ⟨number, marked, owns, waits⟩ := link.tabs other frame ahead found
    exact ⟨number, marked, owns, waits.unfinished, waits.begun⟩
  · intro index task found
    obtain ⟨number, ahead, marked, owns, rest, waits⟩ := link.events index task found
    exact ⟨number, ahead, marked, owns, rest, waits.unfinished, waits.begun⟩

theorem Link.direct (link : Link owner account fanout) (tab : Tab) (frame : Frame) :
    Link owner (account.send tab (none, frame)) (fanout.direct tab frame) := by
  refine ⟨link.members, ?_, ?_, ?_, link.distinct, link.owned⟩
  · simp only [Fanout.direct, send, link.sent]
  · intro other marked ahead found
    obtain ⟨number, same, owns, waits⟩ := link.tabs other marked ahead found
    exact ⟨number, same, owns, waits.unfinished, waits.begun⟩
  · intro index task found
    obtain ⟨number, ahead, marked, owns, rest, waits⟩ := link.events index task found
    exact ⟨number, ahead, marked, owns, rest, waits.unfinished, waits.begun⟩

theorem Waits.begin {number : Nat} {frame : Frame} {ahead : List Tab}
    (waits : Waits fanout number frame ahead) (sound : fanout.Sound) (item : Frame)
    (order : List Tab) :
    number ≠ fanout.begun.length ∧ Waits (fanout.begin item order) number frame ahead := by
  have bound : number < fanout.begun.length := by
    by_contra beyond
    have unknown := sound.known number (by omega)
    rw [waits.unfinished] at unknown
    cases unknown
  have differs : number ≠ fanout.begun.length := by omega
  rw [Fanout.begin_eq]
  refine ⟨differs, ?_, ?_⟩
  · simpa only [Function.update_of_ne differs] using waits.unfinished
  · simpa only [List.getElem?_append_left bound] using waits.begun

theorem Waits.advance {number other : Nat} {item frame : Frame} {left ahead : List Tab}
    (waits : Waits fanout other frame ahead) (sending : Waits fanout number item left)
    (differs : other ≠ number) : Waits (fanout.advance number) other frame ahead := by
  obtain ⟨⟨_, order⟩, found, same⟩ := Option.map_eq_some_iff.mp sending.begun
  cases same
  rw [Fanout.advance_eq found sending.unfinished]
  refine ⟨?_, waits.begun⟩
  simpa only [Function.update_of_ne differs] using waits.unfinished

theorem Link.begins (link : Link owner account fanout) (sound : fanout.Sound) {tab : Tab}
    {item : Frame} {order : List Tab} (idle : sending (account.handlers tab) = none)
    (turns : Turns tab (some fanout.begun.length, item) order account next) :
    Link (Function.update owner fanout.begun.length (some tab)) next
      (fanout.begin item order) := by
  refine ⟨?_, ?_, ?_, ?_, ?_, ?_⟩
  · rw [Fanout.begin_eq, turns.subscribers]
    exact link.members
  · rw [Fanout.begin_eq, turns.sent, ← link.sent]
  · intro other frame ahead found
    by_cases same : other = tab
    · subst same
      rw [turns.own] at found
      obtain ⟨rest, left, marked⟩ := Option.map_eq_some_iff.mp found
      cases marked
      refine ⟨fanout.begun.length, rfl, Function.update_self .., ?_, ?_⟩
      · rw [Fanout.begin_eq]
        exact (Function.update_self ..).trans left
      · rw [Fanout.begin_eq, List.getElem?_concat_length]
        rfl
    · rw [turns.others other same] at found
      obtain ⟨number, marked, owns, waits⟩ := link.tabs other frame ahead found
      obtain ⟨differs, still⟩ := waits.begin sound item order
      exact ⟨number, marked, (Function.update_of_ne differs ..).trans owns, still⟩
  · rw [turns.events]
    intro index task found
    obtain ⟨number, ahead, marked, owns, rest, waits⟩ := link.events index task found
    obtain ⟨differs, still⟩ := waits.begin sound item order
    exact ⟨number, ahead, marked, (Function.update_of_ne differs ..).trans owns, rest, still⟩
  · rw [turns.events]
    exact link.distinct
  · intro number ahead unfinished
    rw [Fanout.begin_eq] at unfinished
    dsimp only at unfinished
    by_cases last : number = fanout.begun.length
    · rw [last, Function.update_self] at unfinished
      left
      refine ⟨tab, item, ?_⟩
      rw [turns.own, unfinished, last, Option.map_some]
    · rw [Function.update_of_ne last] at unfinished
      rw [turns.events]
      rcases link.owned number ahead unfinished with ⟨other, frame, found⟩ | byEvent
      · left
        refine ⟨other, frame, ?_⟩
        rw [turns.others other _]
        · exact found
        · rintro rfl
          rw [idle] at found
          cases found
      · exact Or.inr byEvent

theorem Link.advances (link : Link owner account fanout) {tab : Tab} {number : Nat}
    {item : Frame} {ahead : List Tab}
    (sends : sending (account.handlers tab) = some ((some number, item), ahead))
    (turns : Turns tab (some number, item) ahead account next) :
    Link owner next (fanout.advance number) := by
  obtain ⟨_, marked, owns, waits⟩ := link.tabs tab _ ahead sends
  cases marked
  obtain ⟨⟨_, order⟩, found, same⟩ := Option.map_eq_some_iff.mp waits.begun
  cases same
  have moves := Fanout.advance_eq found waits.unfinished
  refine ⟨?_, ?_, ?_, ?_, ?_, ?_⟩
  · rw [moves, turns.subscribers]
    exact link.members
  · rw [moves, turns.sent, ← link.sent]
  · intro other frame left again
    by_cases same : other = tab
    · subst same
      rw [turns.own] at again
      obtain ⟨rest, remains, marked⟩ := Option.map_eq_some_iff.mp again
      cases marked
      refine ⟨number, rfl, owns, ?_, ?_⟩
      · rw [moves]
        exact (Function.update_self ..).trans remains
      · rw [moves]
        exact waits.begun
    · rw [turns.others other same] at again
      obtain ⟨earlier, marked, ownsOther, still⟩ := link.tabs other frame left again
      refine ⟨earlier, marked, ownsOther, still.advance waits ?_⟩
      rintro rfl
      exact same (Option.some.inj (ownsOther.symm.trans owns))
  · rw [turns.events]
    intro index task event
    obtain ⟨earlier, left, marked, ownsOther, rest, still⟩ := link.events index task event
    refine ⟨earlier, left, marked, ownsOther, rest, still.advance waits ?_⟩
    rintro rfl
    cases ownsOther.symm.trans owns
  · rw [turns.events]
    exact link.distinct
  · intro other left unfinished
    rw [moves] at unfinished
    dsimp only at unfinished
    by_cases same : other = number
    · rw [same, Function.update_self] at unfinished
      left
      refine ⟨tab, item, ?_⟩
      rw [turns.own, unfinished, same, Option.map_some]
    · rw [Function.update_of_ne same] at unfinished
      rw [turns.events]
      rcases link.owned other left unfinished with ⟨owning, frame, again⟩ | byEvent
      · left
        refine ⟨owning, frame, ?_⟩
        rw [turns.others owning _]
        · exact again
        · rintro rfl
          rw [sends] at again
          cases again
          exact same rfl
      · exact Or.inr byEvent

theorem Link.event_begins (link : Link owner account fanout) (sound : fanout.Sound)
    {item : Frame} {order : List Tab} {afterwards : Afterwards}
    (subscribers : next.subscribers = account.subscribers)
    (handlers : ∀ tab, sending (next.handlers tab) = sending (account.handlers tab))
    (sent : next.sent =
      account.sent ++ (order.head?.map (·, (some fanout.begun.length, item))).toList)
    (events : next.events = account.events ++ (order.tail?.map fun _ =>
      ⟨(some fanout.begun.length, item), order, afterwards⟩).toList) :
    Link (Function.update owner fanout.begun.length none) next (fanout.begin item order) := by
  -- the events are the earlier ones and, when there is somebody to send to, the new one
  have classified : ∀ (index : Nat) (task : EventTask (Marked Frame)),
      next.events[index]? = some task →
      account.events[index]? = some task ∨
        index = account.events.length ∧
          task = ⟨(some fanout.begun.length, item), order, afterwards⟩ ∧
            ∃ ahead, order.tail? = some ahead := by
    intro index task found
    rw [events] at found
    by_cases before : index < account.events.length
    · rw [List.getElem?_append_left before] at found
      exact Or.inl found
    · rw [List.getElem?_append_right (by omega)] at found
      right
      cases order with
      | nil => cases found
      | cons next rest =>
          have first := (List.getElem?_eq_some_iff.mp found).1
          have atEnd : index = account.events.length := by
            simp only [List.tail?_cons, Option.map_some, Option.toList_some,
              List.length_singleton] at first
            omega
          rw [atEnd, Nat.sub_self] at found
          cases found
          exact ⟨atEnd, rfl, rest, rfl⟩
  have earlier : ∀ (index : Nat) (task : EventTask (Marked Frame)),
      account.events[index]? = some task → next.events[index]? = some task := by
    intro index task found
    rw [events, List.getElem?_append_left (List.getElem?_eq_some_iff.mp found).1]
    exact found
  have fresh : ∀ (index : Nat) (task : EventTask (Marked Frame)),
      account.events[index]? = some task → task.frame.1 ≠ some fanout.begun.length := by
    intro index task found same
    obtain ⟨number, ahead, marked, _, _, waits⟩ := link.events index task found
    rw [marked] at same
    exact (waits.begin sound item order).1 (Option.some.inj same)
  refine ⟨?_, ?_, ?_, ?_, ?_, ?_⟩
  · rw [Fanout.begin_eq, subscribers]
    exact link.members
  · rw [Fanout.begin_eq, sent, ← link.sent]
  · intro tab frame ahead found
    rw [handlers] at found
    obtain ⟨number, marked, owns, waits⟩ := link.tabs tab frame ahead found
    obtain ⟨differs, still⟩ := waits.begin sound item order
    exact ⟨number, marked, (Function.update_of_ne differs ..).trans owns, still⟩
  · intro index task found
    rcases classified index task found with before | ⟨_, rfl, ahead, left⟩
    · obtain ⟨number, ahead, marked, owns, rest, waits⟩ := link.events index task before
      obtain ⟨differs, still⟩ := waits.begin sound item order
      exact ⟨number, ahead, marked, (Function.update_of_ne differs ..).trans owns, rest, still⟩
    · refine ⟨fanout.begun.length, ahead, rfl, Function.update_self .., left, ?_, ?_⟩
      · rw [Fanout.begin_eq]
        exact (Function.update_self ..).trans left
      · rw [Fanout.begin_eq, List.getElem?_concat_length]
        rfl
  · intro index other task later found again same
    rcases classified index task found with before | ⟨atEnd, isNew, _⟩
    · rcases classified other later again with also | ⟨_, isNew, _⟩
      · exact link.distinct index other task later before also same
      · rw [isNew] at same
        exact absurd same (fresh index task before)
    · rcases classified other later again with before | ⟨alsoAtEnd, _⟩
      · rw [isNew] at same
        exact absurd same.symm (fresh other later before)
      · rw [atEnd, alsoAtEnd]
  · intro number ahead unfinished
    rw [Fanout.begin_eq] at unfinished
    dsimp only at unfinished
    by_cases last : number = fanout.begun.length
    · rw [last, Function.update_self] at unfinished
      refine Or.inr ⟨account.events.length,
        ⟨(some fanout.begun.length, item), order, afterwards⟩, ?_, by rw [last]⟩
      rw [events, unfinished]
      simp
    · rw [Function.update_of_ne last] at unfinished
      rcases link.owned number ahead unfinished with ⟨tab, frame, found⟩ | ⟨index, task, found, marked⟩
      · exact Or.inl ⟨tab, frame, by rw [handlers]; exact found⟩
      · exact Or.inr ⟨index, task, earlier index task found, marked⟩

/-- Where a task of an event is found after the one at `index` has gone on with
`ahead`: it is removed when nothing is left. -/
def place (index : Nat) (ahead : List Tab) (before : Nat) : Nat :=
  if ahead = [] ∧ index < before then before - 1 else before

def continued (events : List (EventTask (Marked Frame))) (index : Nat) (frame : Marked Frame)
    (afterwards : Afterwards) : List Tab → List (EventTask (Marked Frame))
  | [] => events.eraseIdx index
  | next :: rest => events.set index ⟨frame, next :: rest, afterwards⟩

theorem continued_cases {events : List (EventTask (Marked Frame))} {index later : Nat}
    {frame : Marked Frame} {afterwards : Afterwards} {ahead : List Tab}
    {task : EventTask (Marked Frame)}
    (found : (continued events index frame afterwards ahead)[later]? = some task) :
    (∃ before, before ≠ index ∧ events[before]? = some task ∧ later = place index ahead before) ∨
      later = index ∧ task = ⟨frame, ahead, afterwards⟩ ∧ ahead ≠ [] := by
  cases ahead with
  | nil =>
      left
      simp only [continued, List.getElem?_eraseIdx] at found
      split_ifs at found with before
      · exact ⟨later, by omega, found, by simp [place]; omega⟩
      · exact ⟨later + 1, by omega, found, by simp [place]; omega⟩
  | cons next rest =>
      simp only [continued, List.getElem?_set] at found
      split_ifs at found with same inside
      · cases found
        exact Or.inr ⟨same.symm, rfl, by simp⟩
      · exact Or.inl ⟨later, Ne.symm same, found, by simp [place]⟩

theorem continued_place {events : List (EventTask (Marked Frame))} {index before : Nat}
    (frame : Marked Frame) (afterwards : Afterwards) (ahead : List Tab)
    {task : EventTask (Marked Frame)} (differs : before ≠ index)
    (found : events[before]? = some task) :
    (continued events index frame afterwards ahead)[place index ahead before]? = some task := by
  cases ahead with
  | nil =>
      simp only [continued, List.getElem?_eraseIdx, place, true_and]
      by_cases after : index < before
      · rw [if_pos after, if_neg (by omega), Nat.sub_add_cancel (by omega)]
        exact found
      · rw [if_neg after, if_pos (by omega)]
        exact found
  | cons next rest =>
      simp only [continued, place, reduceCtorEq, false_and, if_false]
      rw [List.getElem?_set_ne (Ne.symm differs)]
      exact found

theorem continued_here {events : List (EventTask (Marked Frame))} {index : Nat}
    (frame : Marked Frame) (afterwards : Afterwards) (next : Tab) (rest : List Tab)
    (inside : index < events.length) :
    (continued events index frame afterwards (next :: rest))[index]? =
      some ⟨frame, next :: rest, afterwards⟩ := by
  rw [continued, List.getElem?_set_self inside]

theorem Link.event_advances (link : Link owner account fanout) {index number : Nat}
    {item : Frame} {current : Tab} {ahead : List Tab} {afterwards : Afterwards}
    (sends : account.events[index]? = some ⟨(some number, item), current :: ahead, afterwards⟩)
    (subscribers : next.subscribers = account.subscribers)
    (handlers : ∀ tab, sending (next.handlers tab) = sending (account.handlers tab))
    (sent : next.sent = account.sent ++ (ahead.head?.map (·, (some number, item))).toList)
    (events : next.events = continued account.events index (some number, item) afterwards ahead) :
    Link owner next (fanout.advance number) := by
  obtain ⟨_, _, marked, owns, remains, waits⟩ := link.events index _ sends
  cases marked
  cases remains
  obtain ⟨⟨_, order⟩, found, same⟩ := Option.map_eq_some_iff.mp waits.begun
  cases same
  have moves := Fanout.advance_eq found waits.unfinished
  have apart : ∀ (before : Nat) (task : EventTask (Marked Frame)), before ≠ index →
      account.events[before]? = some task → task.frame.1 ≠ some number := by
    intro before task differs present same
    exact differs (link.distinct before index task _ present sends same)
  refine ⟨?_, ?_, ?_, ?_, ?_, ?_⟩
  · rw [moves, subscribers]
    exact link.members
  · rw [moves, sent, ← link.sent]
  · intro tab frame left again
    rw [handlers] at again
    obtain ⟨earlier, marked, ownsOther, still⟩ := link.tabs tab frame left again
    refine ⟨earlier, marked, ownsOther, still.advance waits ?_⟩
    rintro rfl
    cases ownsOther.symm.trans owns
  · intro later task again
    rw [events] at again
    rcases continued_cases again with ⟨before, differs, present, _⟩ | ⟨_, rfl, notEmpty⟩
    · obtain ⟨earlier, left, marked, ownsOther, rest, still⟩ := link.events before task present
      refine ⟨earlier, left, marked, ownsOther, rest, still.advance waits ?_⟩
      rintro rfl
      exact apart before task differs present marked
    · cases ahead with
      | nil => exact absurd rfl notEmpty
      | cons next rest =>
          refine ⟨number, rest, rfl, owns, rfl, ?_, ?_⟩
          · rw [moves]
            exact Function.update_self ..
          · rw [moves]
            exact waits.begun
  · intro first second task later one two same
    rw [events] at one two
    rcases continued_cases one with ⟨before, differs, present, place⟩ | ⟨here, rfl, _⟩
    · rcases continued_cases two with ⟨other, _, also, placeOther⟩ | ⟨_, rfl, _⟩
      · rw [place, placeOther, link.distinct before other task later present also same]
      · exact absurd same (apart before task differs present)
    · rcases continued_cases two with ⟨other, differs, also, _⟩ | ⟨alsoHere, _⟩
      · exact absurd same.symm (apart other later differs also)
      · rw [here, alsoHere]
  · intro other left unfinished
    rw [moves] at unfinished
    dsimp only at unfinished
    by_cases same : other = number
    · rw [same, Function.update_self] at unfinished
      cases ahead with
      | nil => cases unfinished
      | cons next rest =>
          refine Or.inr ⟨index, ⟨(some number, item), next :: rest, afterwards⟩, ?_, by rw [same]⟩
          rw [events]
          exact continued_here _ _ _ _ (List.getElem?_eq_some_iff.mp sends).1
    · rw [Function.update_of_ne same] at unfinished
      rcases link.owned other left unfinished with ⟨tab, frame, again⟩ | ⟨before, task, present, marked⟩
      · exact Or.inl ⟨tab, frame, by rw [handlers]; exact again⟩
      · have differs : before ≠ index := by
          rintro rfl
          rw [sends] at present
          cases present
          exact same (Option.some.inj marked).symm
        refine Or.inr ⟨place index ahead before, task, ?_, marked⟩
        rw [events]
        exact continued_place _ _ _ differs present

end Links

section Turning

variable {account : Account (Marked Frame)}

theorem sending_set_handler (account : Account (Marked Frame)) (tab other : Tab)
    (handler : Handler (Marked Frame)) :
    sending ((account.setHandler tab handler).handlers other) =
      if other = tab then sending handler else sending (account.handlers other) := by
  unfold setHandler
  by_cases same : other = tab
  · simp [same]
  · simp [same]

theorem turns_broadcast (account : Account (Marked Frame)) (tab : Tab) (frame : Marked Frame)
    (order : List Tab) : Turns tab frame order account (account.broadcast tab frame order) := by
  cases order with
  | nil =>
      refine ⟨rfl, rfl, ?_, ?_, (List.append_nil _).symm⟩
      · intro other differs
        rw [Account.broadcast, sending_set_handler, if_neg differs]
      · rw [Account.broadcast, sending_set_handler, if_pos rfl]
        rfl
  | cons next rest =>
      refine ⟨rfl, rfl, ?_, ?_, rfl⟩
      · intro other differs
        exact (sending_set_handler account tab other _).trans (if_neg differs)
      · exact (sending_set_handler account tab tab _).trans (if_pos rfl)

theorem turns_report (env : Env (Marked Frame)) (account : Account (Marked Frame)) (tab : Tab)
    (frame : Marked Frame) (next : Tab) (rest : List Tab) :
    Turns tab frame (next :: rest) account (report env account tab frame (next :: rest)) := by
  refine ⟨rfl, rfl, ?_, ?_, rfl⟩
  · intro other differs
    exact (sending_set_handler account tab other _).trans (if_neg differs)
  · exact (sending_set_handler account tab tab _).trans (if_pos rfl)

/-- What has no part in the broadcasts under way. -/
structure Aside (account next : Account (Marked Frame)) : Prop where
  subscribers : next.subscribers = account.subscribers
  sent : next.sent = account.sent
  handlers : next.handlers = account.handlers
  events : next.events = account.events

theorem aside_schedule (account : Account (Marked Frame)) :
    Aside account account.scheduleReconnect := by
  unfold scheduleReconnect
  split_ifs
  all_goals exact ⟨rfl, rfl, rfl, rfl⟩

def reportEnds (account : Account (Marked Frame)) (tab : Tab) : Account (Marked Frame) :=
  account.scheduleReconnect.releaseLock.setHandler tab .snapshot

theorem turns_report_ends (account : Account (Marked Frame)) (tab : Tab)
    (frame : Marked Frame) : Turns tab frame [] account (reportEnds account tab) := by
  have aside := aside_schedule account
  refine ⟨aside.subscribers, aside.events, ?_, ?_, ?_⟩
  · intro other differs
    rw [reportEnds, sending_set_handler, if_neg differs]
    exact congrArg sending (congrFun aside.handlers other)
  · rw [reportEnds, sending_set_handler, if_pos rfl]
    rfl
  · exact aside.sent.trans (List.append_nil _).symm

end Turning

end PyConduit.Numbered
