import PyConduit.Arrivals
import PyConduit.Unread

/-!
# Badges

While nobody looks at a conversation its badge counts the messages that the client has reported
for it, but for those that are still on their way to the page.
-/

namespace PyConduit.Badges

open Protocol GuardedRun
open Browser (Page change bump)
open Screen (opensRoom unseen rings)
open Unread (looksAt marks tally unread)
open Arrivals (handles onTheWay report isReport reportedTo)

set_option autoImplicit false

/-- The message of somebody else for a conversation. -/
def countsFor (id : String) : Frame → Bool
  | .message message => message.conversation = .str id ∧ message.direction = .incoming
  | .mucMessage room _ _ _ _ isSelf _ => room = id ∧ isSelf = false
  | _ => false

section Pages

variable {screen next : Screen.State} {id : String}

theorem active_bump (page : Page) (other : String) : (bump page other).active = page.active := by
  unfold bump
  split
  · split_ifs
    all_goals rfl
  · rfl

theorem active_set_active (page : Page) (other : String) :
    (Browser.setActive page other).1.active = some other := rfl

theorem active_frame {socket : Nat} {frame : Frame} (away : screen.page.active ≠ some id)
    (unlooked : looksAt screen (.frame socket frame) ≠ some id) :
    (Browser.handleFrame screen.page frame).1.active ≠ some id := by
  cases frame with
  | message message =>
      simp only [Browser.handleFrame]
      split
      · dsimp only
        split_ifs
        · rw [active_bump]
          exact away
        · exact away
      · exact away
  | history conversation messages complete =>
      cases conversation
      all_goals exact away
  | mucJoined room nick subject =>
      cases room with
      | str room =>
          have handled : Browser.handleFrame screen.page (.mucJoined (.str room) nick subject) =
              Browser.joined screen.page room := rfl
          rw [handled, Screen.joined_eq]
          simp only [looksAt] at unlooked
          split_ifs with opens
          · rw [if_pos opens] at unlooked
            exact unlooked
          · exact away
      | _ => exact away
  | mucLeft room =>
      cases room with
      | str room =>
          simp only [Browser.handleFrame, Browser.dropped]
          split_ifs
          · simp
          · exact away
      | _ => exact away
  | mucMessage room nick body msgId timestamp isSelf mentionsMe =>
      simp only [Browser.handleFrame]
      split_ifs
      · exact away
      · rw [active_bump]
        exact away
  | mucOccupants room occupants =>
      cases room
      all_goals exact away
  | error context message conversation =>
      rcases conversation with _ | conversation
      · exact away
      · cases conversation with
        | str other =>
            simp only [Browser.handleFrame]
            split_ifs
            all_goals exact away
        | _ => exact away
  | _ => exact away

theorem active_step {action : Screen.Action} (away : screen.page.active ≠ some id)
    (unlooked : looksAt screen action ≠ some id) (fired : Screen.step screen action = some next) :
    next.page.active ≠ some id := by
  rcases Screen.page_cases fired with ⟨gesture, rfl, acts⟩ | ⟨socket, frame, rfl, rfl⟩ | ⟨_, same⟩
  · cases acts with
    | opens =>
        rw [Screen.page_set_active, active_set_active]
        exact unlooked
    | adds filled =>
        rw [Screen.page_set_active, active_set_active]
        simpa [looksAt, filled] using unlooked
    | removes =>
        simp only [Screen.removeContact, Screen.page_update_title, Browser.removeContact,
          Browser.dropped]
        split_ifs
        · simp
        · exact away
    | loadsOlder =>
        rw [Screen.page_send_all]
        exact away
    | _ => exact away
  · rw [Screen.page_frame]
    exact active_frame away unlooked
  · rwa [same]

/-- A message for a conversation that nobody looks at rings, and no other frame rings for it. -/
theorem marks_frame (away : screen.page.active ≠ some id) {socket : Nat} {frame : Frame}
    (unlooked : looksAt screen (.frame socket frame) ≠ some id) :
    marks id screen (.frame socket frame) = if countsFor id frame then [.missed] else [] := by
  have hidden : unseen screen.page id = true := by simp [unseen, away]
  rw [marks, if_neg unlooked, List.append_nil]
  cases frame with
  | message message =>
      obtain ⟨conversation, fromJid, toJid, body, msgId, timestamp, direction⟩ := message
      cases conversation with
      | str other =>
          by_cases same : other = id
          · subst same
            by_cases comes : direction = .incoming
            · simp [Unread.missedBy, rings, countsFor, comes, hidden]
            · simp [Unread.missedBy, rings, countsFor, comes]
          · by_cases heard : direction = .incoming ∧ unseen screen.page other = true
            · simp [Unread.missedBy, rings, countsFor, heard, same]
            · simp [Unread.missedBy, rings, countsFor, heard, same]
      | _ => simp [Unread.missedBy, rings, countsFor]
  | mucMessage room nick body msgId timestamp isSelf mentionsMe =>
      by_cases same : room = id
      · subst same
        cases isSelf
        all_goals simp [Unread.missedBy, rings, countsFor, hidden]
      · by_cases heard : isSelf = false ∧ unseen screen.page room = true
        · simp [Unread.missedBy, rings, countsFor, heard, same]
        · simp [Unread.missedBy, rings, countsFor, heard, same]
  | _ => rfl

theorem marks_other {action : Screen.Action} (unlooked : looksAt screen action ≠ some id)
    (own : World.isFrame action = false) : marks id screen action = [] := by
  rw [marks, if_neg unlooked, List.append_nil]
  cases action with
  | frame socket frame => cases own
  | _ => rfl

end Pages

/-- The user does not look at the conversation, and nothing that comes removes it. -/
def Unlooked (browser : Nat) (id : String) (world : World.State) : World.Action → Prop
  | .page other action => other = browser → looksAt (world.screens browser) action ≠ some id
  | .shows other socket =>
      other = browser →
        ∀ frame ∈ handles browser socket world (.shows browser socket),
          looksAt (world.screens browser) (.frame socket frame) ≠ some id
  | _ => True

instance (browser : Nat) (id : String) (world : World.State) :
    (action : World.Action) → Decidable (Unlooked browser id world action)
  | .page other action =>
      inferInstanceAs (Decidable (other = browser → looksAt (world.screens browser) action ≠ some id))
  | .shows other socket =>
      inferInstanceAs (Decidable (other = browser →
        ∀ frame ∈ handles browser socket world (.shows browser socket),
          looksAt (world.screens browser) (.frame socket frame) ≠ some id))
  | .site _ | .hears _ _ _ _ => inferInstanceAs (Decidable True)

def handlesAny (browser : Nat) (world : World.State) : World.Action → List (Nat × Frame)
  | .shows other socket =>
      if other = browser then
        (handles browser socket world (.shows browser socket)).map fun frame => (socket, frame)
      else []
  | _ => []

/-- The badge counts what the page has handled, on sockets that it has opened. -/
structure Counted (browser : Nat) (id : String) (world : World.State) (frames : List (Nat × Frame)) :
    Prop where
  away : (world.screens browser).page.active ≠ some id
  badge : unread (world.screens browser).page id =
    ((frames.map Prod.snd).filter (countsFor id)).length
  opened : ∀ entry ∈ frames, entry.1 < (world.screens browser).sockets.length

section Worlds

variable {env : Site.Env} {world next : World.State} {browser : Nat} {id : String}
  {frames : List (Nat × Frame)}

theorem screen_set (browser : Nat) (screen : Screen.State) :
    (World.setScreen world browser screen).screens browser = screen := Function.update_self ..

theorem screen_set_of_ne {other : Nat} (apart : other ≠ browser) (screen : Screen.State) :
    (World.setScreen world browser screen).screens other = world.screens other :=
  Function.update_of_ne apart ..

theorem start_counted (browser : Nat) (id : String) (preferences : Nat → Option String) :
    Counted browser id (World.start preferences) [] := by
  refine ⟨?_, rfl, ?_⟩
  · simp [World.start, Screen.start, Browser.blank]
  · intro entry among
    cases among

theorem Counted.same (counted : Counted browser id world frames)
    (same : next.screens browser = world.screens browser) : Counted browser id next frames :=
  ⟨same ▸ counted.away, same ▸ counted.badge, same ▸ counted.opened⟩

theorem counted_step {action : World.Action} (counted : Counted browser id world frames)
    (unlooked : Unlooked browser id world action) (fired : World.step env world action = some next) :
    Counted browser id next (frames ++ handlesAny browser world action) := by
  have stays : next.screens browser = world.screens browser → handlesAny browser world action = [] →
      Counted browser id next (frames ++ handlesAny browser world action) := by
    intro same nothing
    rw [nothing, List.append_nil]
    exact counted.same same
  cases World.fires_of_step fired with
  | @page other action screen own inner =>
      by_cases here : other = browser
      · subst here
        have looks := unlooked rfl
        have nothing : handlesAny other world (.page other action) = [] := rfl
        rw [nothing, List.append_nil]
        constructor
        · rw [screen_set]
          exact active_step counted.away looks inner
        · rw [screen_set, Unread.unread_step inner, marks_other looks own]
          exact counted.badge
        · rw [screen_set]
          intro entry among
          exact (counted.opened entry among).trans_le (Screen.more_sockets inner)
      · exact stays (screen_set_of_ne (Ne.symm here) screen) rfl
  | @shows other socket frame screen waits inner =>
      by_cases here : other = browser
      · subst here
        have comes : handles other socket world (.shows other socket) = [frame] := by
          simp [handles, waits]
        have looks : looksAt (world.screens other) (.frame socket frame) ≠ some id :=
          unlooked rfl frame (by rw [comes]; exact List.mem_singleton_self _)
        have added : handlesAny other world (.shows other socket) = [(socket, frame)] := by
          simp [handlesAny, comes]
        rw [added]
        constructor
        · dsimp only
          rw [screen_set]
          exact active_step counted.away looks inner
        · dsimp only
          rw [screen_set, Unread.unread_step inner, marks_frame counted.away looks, counted.badge,
            List.map_append, List.filter_append, List.length_append]
          cases counts : countsFor id frame
          all_goals simp [counts, tally]
        · dsimp only
          rw [screen_set]
          intro entry among
          have grown := Screen.more_sockets inner
          rcases List.mem_append.mp among with before | new
          · exact (counted.opened entry before).trans_le grown
          · cases List.mem_singleton.mp new
            obtain ⟨opened, _⟩ := Option.ite_none_right_eq_some.mp inner
            exact (List.getElem?_eq_some_iff.mp opened).1.trans_le grown
      · exact stays (screen_set_of_ne (Ne.symm here) screen) (if_neg here)
  | site => exact stays rfl rfl
  | hears => exact stays rfl rfl

theorem handles_of_any (browser socket : Nat) (world : World.State) (action : World.Action) :
    handles browser socket world action = (handlesAny browser world action).filterMap
      fun entry => if entry.1 = socket then some entry.2 else none := by
  cases action with
  | shows other second =>
      by_cases here : other = browser
      · subst here
        by_cases same : second = socket
        · subst same
          simp [handlesAny, List.filterMap_map]
        · simp [handles, handlesAny, same, List.filterMap_map]
      · simp [handles, handlesAny, here]
  | _ => rfl

theorem counted_run {preferences : Nat → Option String} {actions : List World.Action}
    (run : replay (World.step env) (World.start preferences) actions = some world)
    (unlooked : Conforms (World.step env) (Unlooked browser id) (World.start preferences) actions) :
    Counted browser id world
      (collect (World.step env) (handlesAny browser) (World.start preferences) actions) := by
  refine @collect_invariant_conforming _ _ _ (World.step env) (Unlooked browser id)
    (handlesAny browser) (Counted browser id) ?_ _ _ actions []
    (start_counted browser id preferences) unlooked run
  intro current action after frames looks counted fired
  exact counted_step counted looks fired

/-- With one socket all frames are those of the first. -/
theorem handles_first {start : World.State} {actions : List World.Action}
    (counted : Counted browser id world
      (collect (World.step env) (handlesAny browser) start actions))
    (one : (world.screens browser).sockets.length = 1) :
    (collect (World.step env) (handlesAny browser) start actions).map Prod.snd =
      collect (World.step env) (handles browser 0) start actions := by
  have first : handles browser 0 = fun world action => (handlesAny browser world action).filterMap
      fun entry => if entry.1 = 0 then some entry.2 else none := by
    funext world action
    exact handles_of_any browser 0 world action
  rw [first, ← collect_filter_map, ← List.filterMap_eq_map]
  apply List.filterMap_congr
  intro entry among
  have opened := counted.opened entry among
  have zero : entry.1 = 0 := by omega
  simp [zero]

theorem report_of_counts {frame : Frame} (counts : countsFor id frame = true) :
    isReport frame = true := by
  cases frame with
  | message message =>
      simp only [countsFor, decide_eq_true_eq] at counts
      simp [isReport, counts.2]
  | mucMessage => rfl
  | _ => cases counts

theorem filter_reports (id : String) (frames : List Frame) :
    (frames.filter isReport).filter (countsFor id) = frames.filter (countsFor id) := by
  rw [List.filter_filter]
  apply List.filter_congr
  intro frame _
  cases counts : countsFor id frame with
  | true => simp [report_of_counts counts]
  | false => rfl

/-- As long as a page has opened one socket, and its user has not looked at a conversation, the
badge of the conversation counts the messages that the client has reported for it while the tab
was subscribed, but for those that the socket or a handler of the account has still ahead. -/
theorem badge_counts_reports {preferences : Nat → Option String} {actions : List World.Action}
    {index : Nat} (run : replay (World.step env) (World.start preferences) actions = some world)
    (attached : world.site.connections (World.tabOf browser 0) = .attached index)
    (one : (world.screens browser).sockets.length = 1)
    (unlooked : Conforms (World.step env) (Unlooked browser id) (World.start preferences) actions) :
    unread (world.screens browser).page id +
        ((onTheWay world browser 0).filter (countsFor id)).length +
          ((InFlight.due report (World.tabOf browser 0)
            (world.site.sessions index).account).filter (countsFor id)).length =
      ((collect (World.step env) (reportedTo index (World.tabOf browser 0))
        (World.start preferences) actions).filter (countsFor id)).length := by
  have counted := counted_run run unlooked
  have balance := (Arrivals.followed_run run index (World.tabOf browser 0)).balance attached
  have counts := (balance.filter (countsFor id)).length_eq
  rw [List.filter_append, List.length_append, filter_reports] at counts
  rw [counted.badge, handles_first counted one, (Arrivals.handled_run run browser 0).same, ← counts,
    onTheWay, ← List.length_append, ← List.filter_append, List.take_append_drop]

end Worlds

/-- Alice has not opened the conversation with bob, and his message has come to her first tab. -/
theorem hello_is_unread :
    unread (Arrivals.afterHello.screens 0).page "bob@example.com" +
        ((onTheWay Arrivals.afterHello 0 0).filter (countsFor "bob@example.com")).length +
          ((InFlight.due report (World.tabOf 0 0)
            (Arrivals.afterHello.site.sessions 0).account).filter
              (countsFor "bob@example.com")).length = 1 := by
  have ran : replay (World.step Isolation.office) (World.start fun _ => none)
      Arrivals.bobSaysHello = some Arrivals.afterHello := rfl
  exact badge_counts_reports ran rfl rfl (by decide)

end PyConduit.Badges
