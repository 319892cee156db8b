import PyConduit.Browser
import PyConduit.Mentions
import PyConduit.RoomNotices

/-!
# Rooms and 1:1 conversations in the tabs

The client turns stanzas into events, the account broadcasts their frames, and each tab
files them under the conversation they name. `_on_message` does not ask whether it is a
room that wrote: a private message and a message from the room itself are filed under
the room. What is sent to a tab arrives in any order here, and a snapshot may send any
frame of its five types at any time.
-/

namespace PyConduit.RoomTalk

open Protocol Replay Commands GuardedRun Browser
open Conversations (MessageStanza onMessage)
open Mentions (onGroupchatMessage)

set_option autoImplicit false

/-- A tab with the frames on their way to it, those it has handled, and what it has
asked for. -/
structure Tab where
  page : Page
  arriving : List Frame
  handled : List Frame
  asked : List Request

structure System where
  membership : RoomMembership.System
  tabs : List Tab

def start : System := ⟨RoomMembership.start, []⟩

inductive Gesture
  | opens (id : String)
  | loadsOlder
  | submits (body : String)
  | removes (jid : String)
  | hides (hidden : Bool)

inductive Action
  | membership (action : RoomMembership.Action)
  | message (stanza : MessageStanza) (newId now : String)
  | aside (event : Event)
  | connects
  | reconnects (tab : Nat) (begun : Request → Bool)
  | replays (tab : Nat) (frame : Frame)
  | arrives (tab index : Nat)
  | gesture (tab : Nat) (gesture : Gesture)
  | serves (tab index : Nat)
      (outcome : (operation : Operation) → Except String operation.Value) (now : String)

def System.joined (system : System) : Dict String Json := system.membership.rooms.joined

/-- The handlers of a message stanza, with the events they hand to the account. -/
def received (joinedRooms : Dict String Json) (newId now : String) (stanza : MessageStanza) :
    List Event :=
  (onMessage newId now stanza).toList ++
    if stanza.kind = "groupchat" then
      (onGroupchatMessage joinedRooms newId now stanza).toList
    else []

def isAside : Event → Bool
  | .disconnected _ => true
  | .presenceUpdate _ _ _ => true
  | .rosterSnapshot _ => true
  | .subscriptionRequest _ => true
  | _ => false

def isReplay : Frame → Bool
  | .ready _ _ _ _ _ _ => true
  | .roster _ => true
  | .presence _ _ _ => true
  | .mucJoined _ _ _ => true
  | .mucOccupants _ _ => true
  | _ => false

def command : Request → ClientMessage
  | .loadHistory jid before =>
      ⟨.loadHistory, [("jid", .str jid), ("before", before.elim .null .str)]⟩
  | .sendMessage peer body => ⟨.sendMessage, [("to", .str peer), ("body", .str body)]⟩
  | .sendMuc room body => ⟨.sendMuc, [("room", .str room), ("body", .str body)]⟩

def concluded (env : Env) (caches : Caches) (request : Request)
    (outcome : (operation : Operation) → Except String operation.Value) (now : String) : Finish :=
  match handleCommand env caches (command request) with
  | .ok (_, .finish finish) => finish
  | .ok (_, .call operation resume) => resume (outcome operation) now
  | .error exception => .raise exception

def Tab.sent (tab : Tab) (frames : List Frame) : Tab :=
  { tab with arriving := tab.arriving ++ frames }

def broadcast (tabs : List Tab) (frames : List Frame) : List Tab :=
  tabs.map fun tab => tab.sent frames

/-- What the user does with a page; none for a button that is not shown. -/
def act (page : Page) : Gesture → Option (Page × List Request)
  | .opens id => some (setActive page id)
  | .loadsOlder => if offersOlder page then some (page, loadOlder page) else none
  | .submits body => some (page, submit page body)
  | .removes jid => some (removeContact page jid, [])
  | .hides hidden => some ({ page with hidden := hidden }, [])

section Machine

variable (bare : Json → Except String String) (env : Env)

def handleEvents (system : System) (events : List Event) : System where
  membership :=
    { system.membership with
      rooms :=
        { system.membership.rooms with
          caches := events.foldl onEvent system.membership.rooms.caches } }
  tabs := broadcast system.tabs (events.filterMap eventFrame)

def setTab (system : System) (index : Nat) (tab : Tab) : System :=
  { system with tabs := system.tabs.set index tab }

def step (system : System) : Action → Option System
  | .membership action =>
      (RoomMembership.step bare env system.membership action).map fun next =>
        ⟨next, broadcast system.tabs
          (next.rooms.frames.drop system.membership.rooms.frames.length)⟩
  | .message stanza newId now =>
      some (handleEvents system (received system.joined newId now stanza))
  | .aside event => if isAside event then some (handleEvents system [event]) else none
  | .connects => some { system with tabs := system.tabs ++ [⟨blank, [], [], []⟩] }
  -- the account goes on with the commands it has begun
  | .reconnects index begun =>
      system.tabs[index]?.map fun tab =>
        setTab system index { tab with arriving := [], asked := tab.asked.filter begun }
  | .replays index frame =>
      if isReplay frame then
        system.tabs[index]?.map fun tab => setTab system index (tab.sent [frame])
      else none
  | .arrives index position =>
      system.tabs[index]?.bind fun tab =>
        tab.arriving[position]?.map fun frame =>
          let shown := handleFrame tab.page frame
          setTab system index
            ⟨shown.1, tab.arriving.eraseIdx position, tab.handled ++ [frame],
              tab.asked ++ shown.2⟩
  | .gesture index gesture =>
      system.tabs[index]?.bind fun tab =>
        (act tab.page gesture).map fun done =>
          setTab system index { tab with page := done.1, asked := tab.asked ++ done.2 }
  | .serves index position outcome now =>
      system.tabs[index]?.bind fun tab =>
        tab.asked[position]?.map fun request =>
          let answered := { tab with asked := tab.asked.eraseIdx position }
          match concluded env system.membership.rooms.caches request outcome now with
          | .reply frame => setTab system index (answered.sent [frame])
          | .broadcast frame =>
              let served := setTab system index answered
              { served with tabs := broadcast served.tabs [frame] }
          | _ => setTab system index answered

def FromRoom (tab : Tab) (room : String) (entry : Entry) : Prop :=
  ∃ frame ∈ tab.handled, shownIn frame = some (room, entry)

/-- What a tab shows under the bare JID of a room is the room, and nothing but it. -/
def ShowsRoom (tab : Tab) (room : String) : Prop := RoomOnly (FromRoom tab room) tab.page room

def Asks (room : String) : Request → Prop
  | .loadHistory jid _ => jid = room
  | .sendMessage peer _ => peer = room
  | .sendMuc _ _ => False

/-- A tab has no 1:1 conversation of the name, and nothing on its way that makes one. -/
structure Free (tab : Tab) (room : String) : Prop where
  shown : ShowsRoom tab room
  arriving : ∀ frame ∈ tab.arriving, ¬Chats room frame
  asked : ∀ request ∈ tab.asked, ¬Asks room request

def Enters (system : System) (action : RoomMembership.Action) (room : String) : Prop :=
  room ∉ system.joined.keys ∧ ∃ next,
    RoomMembership.step bare env system.membership action = some next ∧
      room ∈ next.rooms.joined.keys

/-- No message of type chat or normal comes from a room we are in, a room is joined only
while no tab has its name for a 1:1 conversation, and a tab opens a conversation under
the name of a room only once it shows the room. -/
def Apart (system : System) : Action → Prop
  | .membership action =>
      ∀ room, Enters bare env system action room → ∀ tab ∈ system.tabs, Free tab room
  | .message stanza _ _ =>
      stanza.kind = "chat" ∨ stanza.kind = "normal" → stanza.body ≠ "" →
        stanza.sender.bare ∉ system.joined.keys
  | .gesture index (.opens id) =>
      id ∈ system.joined.keys → ∀ tab, system.tabs[index]? = some tab →
        (tab.page.convos.lookup id).isSome
  | _ => True

end Machine

section Frames

variable {bare : Json → Except String String} {env : Env} {room : String}

theorem news_quiet {system : RoomMembership.System} {action : RoomMembership.Action}
    {frames : List Frame} (news : RoomNotices.News system action frames) :
    ∀ frame ∈ frames, ¬Chats room frame := by
  intro frame member
  cases news with
  | room silent news =>
      have about := news frame member
      cases frame with
      | mucJoined | mucLeft | mucOccupants => exact not_false
      | _ => cases about
  | outside => cases member
  | ours inside same =>
      rw [List.mem_singleton.mp member]
      exact not_false
  | another inside other =>
      rw [List.mem_singleton.mp member]
      exact not_false

/-- A stanza whose frame files a message under a room is one of type chat or normal,
with a body, from that room. -/
theorem received_chats {joinedRooms : Dict String Json} {newId now : String}
    {stanza : MessageStanza} {frame : Frame}
    (shown : frame ∈ (received joinedRooms newId now stanza).filterMap eventFrame)
    (chats : Chats room frame) :
    (stanza.kind = "chat" ∨ stanza.kind = "normal") ∧ stanza.body ≠ "" ∧
      stanza.sender.bare = room := by
  obtain ⟨event, among, visible⟩ := List.mem_filterMap.mp shown
  rcases List.mem_append.mp among with direct | grouped
  · rw [Option.mem_toList] at direct
    unfold onMessage at direct
    split at direct
    · cases direct
      cases visible
      cases chats
    · split at direct
      · cases direct
      · next conversational =>
          split at direct
          · cases direct
          · next filled =>
              cases direct
              cases visible
              cases chats
              exact ⟨by tauto, filled, rfl⟩
  · split at grouped
    · rw [Option.mem_toList] at grouped
      unfold onGroupchatMessage at grouped
      dsimp only at grouped
      split at grouped
      · cases grouped
      · obtain ⟨mentions, _, rfl⟩ := Option.map_eq_some_iff.mp grouped
        cases visible
        cases chats
    · cases grouped

theorem aside_quiet {event : Event} (aside : isAside event = true) {frame : Frame}
    (visible : eventFrame event = some frame) : ¬Chats room frame := by
  cases event with
  | disconnected | presenceUpdate | rosterSnapshot | subscriptionRequest =>
      cases visible
      exact not_false
  | _ => cases aside

theorem replay_quiet {frame : Frame} (replay : isReplay frame = true) : ¬Chats room frame := by
  cases frame with
  | ready | roster | presence | mucJoined | mucOccupants => exact not_false
  | _ => cases replay

theorem concluded_load_history (env : Env) (caches : Caches) (jid : String)
    (before : Option String)
    (outcome : (operation : Operation) → Except String operation.Value) (now : String) :
    (∃ exception, concluded env caches (.loadHistory jid before) outcome now =
        .raise exception) ∨
      concluded env caches (.loadHistory jid before) outcome now =
        afterLoadHistory env (.str jid)
          (outcome (.fetchHistory (.str jid) (before.elim .null .str) env.config.pageSize)) now := by
  unfold concluded
  split
  · next finish handled =>
      obtain ⟨_, same⟩ := (load_history_ok_iff env caches _ _).mp handled
      cases same
  · next operation resume handled =>
      obtain ⟨_, same⟩ := (load_history_ok_iff env caches _ _).mp handled
      cases same
      exact Or.inr rfl
  · next exception _ => exact Or.inl ⟨exception, rfl⟩

theorem concluded_send_message (env : Env) (caches : Caches) (peer body : String)
    (outcome : (operation : Operation) → Except String operation.Value) (now : String) :
    (∃ exception, concluded env caches (.sendMessage peer body) outcome now =
        .raise exception) ∨
      (∃ text, concluded env caches (.sendMessage peer body) outcome now =
        .reply (.error "delivery" text (some (.str peer)))) ∨
      concluded env caches (.sendMessage peer body) outcome now =
        afterSendMessage env (.str peer) (.str body)
          (outcome (.sendMessage (.str peer) (.str body))) now := by
  unfold concluded
  split
  · next finish handled =>
      obtain ⟨_, ⟨refusal, refused, same⟩ | ⟨_, same⟩⟩ :=
        (send_message_ok_iff env caches _ _).mp handled
      · obtain ⟨text, rfl⟩ := too_long_error refused
        cases same
        exact Or.inr (Or.inl ⟨text, rfl⟩)
      · cases same
  · next operation resume handled =>
      obtain ⟨_, ⟨refusal, _, same⟩ | ⟨_, same⟩⟩ :=
        (send_message_ok_iff env caches _ _).mp handled
      · cases same
      · cases same
        exact Or.inr (Or.inr rfl)
  · next exception _ => exact Or.inl ⟨exception, rfl⟩

theorem concluded_send_muc (env : Env) (caches : Caches) (room body : String)
    (outcome : (operation : Operation) → Except String operation.Value) (now : String) :
    (∃ exception, concluded env caches (.sendMuc room body) outcome now = .raise exception) ∨
      (∃ text, concluded env caches (.sendMuc room body) outcome now =
        .reply (.error "delivery" text (some (.str room)))) ∨
      concluded env caches (.sendMuc room body) outcome now = .done := by
  unfold concluded
  split
  · next finish handled =>
      obtain ⟨_, rest⟩ := (required_then_ok_iff env _ _ _ _).mp handled
      obtain ⟨verdict, checked, decided⟩ := ok_of_bind rest
      cases verdict with
      | none => cases decided
      | some refusal =>
          obtain ⟨text, rfl⟩ := too_long_error checked
          cases decided
          exact Or.inr (Or.inl ⟨text, rfl⟩)
  · next operation resume handled =>
      obtain ⟨_, rest⟩ := (required_then_ok_iff env _ _ _ _).mp handled
      obtain ⟨verdict, checked, decided⟩ := ok_of_bind rest
      cases verdict with
      | some refusal => cases decided
      | none =>
          cases decided
          dsimp only
          split
          · exact Or.inr (Or.inr rfl)
          · exact Or.inr (Or.inl ⟨_, rfl⟩)
  · next exception _ => exact Or.inl ⟨exception, rfl⟩

theorem concluded_chats {caches : Caches} {request : Request}
    {outcome : (operation : Operation) → Except String operation.Value} {now : String}
    {frame : Frame} (ends : (concluded env caches request outcome now).frame = some frame)
    (chats : Chats room frame) : Asks room request := by
  cases request with
  | loadHistory jid before =>
      rcases concluded_load_history env caches jid before outcome now with
        ⟨exception, refused⟩ | answered
      · rw [refused] at ends
        cases ends
      · rw [answered] at ends
        unfold afterLoadHistory unguarded at ends
        split at ends
        · cases ends
          exact Json.str.inj chats
        · cases ends
  | sendMessage peer body =>
      rcases concluded_send_message env caches peer body outcome now with
        ⟨exception, refused⟩ | ⟨text, tooLong⟩ | answered
      · rw [refused] at ends
        cases ends
      · rw [tooLong] at ends
        cases ends
        cases chats
      · rw [answered] at ends
        unfold afterSendMessage at ends
        split at ends
        · cases ends
          exact Json.str.inj chats
        · cases ends
          cases chats
  | sendMuc other body =>
      rcases concluded_send_muc env caches other body outcome now with
        ⟨exception, refused⟩ | ⟨text, failed⟩ | silent
      · rw [refused] at ends
        cases ends
      · rw [failed] at ends
        cases ends
        cases chats
      · rw [silent] at ends
        cases ends

end Frames

section Tabs

variable {room : String} {tab : Tab}

theorem free_blank (room : String) : Free ⟨blank, [], [], []⟩ room where
  shown := fun convo found => by cases found
  arriving := fun frame member => by cases member
  asked := fun request member => by cases member

theorem Free.sent (free : Free tab room) {frames : List Frame}
    (quiet : ∀ frame ∈ frames, ¬Chats room frame) : Free (tab.sent frames) room where
  shown := free.shown
  arriving := by
    intro frame member
    rcases List.mem_append.mp member with earlier | new
    · exact free.arriving frame earlier
    · exact quiet frame new
  asked := free.asked

theorem Free.loses (free : Free tab room) {arriving : List Frame} {asked : List Request}
    (frames : arriving ⊆ tab.arriving) (requests : asked ⊆ tab.asked) :
    Free { tab with arriving := arriving, asked := asked } room where
  shown := free.shown
  arriving := fun frame member => free.arriving frame (frames member)
  asked := fun request member => free.asked request (requests member)

theorem Free.handles (free : Free tab room) {position : Nat} {frame : Frame}
    (found : tab.arriving[position]? = some frame) :
    Free ⟨(handleFrame tab.page frame).1, tab.arriving.eraseIdx position, tab.handled ++ [frame],
      tab.asked ++ (handleFrame tab.page frame).2⟩ room := by
  have quiet : ¬Chats room frame := free.arriving frame (List.mem_of_getElem? found)
  have before : RoomOnly
      (fun entry => ∃ handled ∈ tab.handled ++ [frame], shownIn handled = some (room, entry))
      tab.page room := by
    intro convo present
    obtain ⟨isMuc, entries⟩ := free.shown convo present
    refine ⟨isMuc, ?_⟩
    intro entry member
    obtain ⟨handled, among, shows⟩ := entries entry member
    exact ⟨handled, List.mem_append_left _ among, shows⟩
  obtain ⟨shown, asks⟩ := before.handle_frame quiet
    fun entry shows => ⟨frame, List.mem_append_right _ (List.mem_singleton_self frame), shows⟩
  refine ⟨shown, ?_, ?_⟩
  · intro other member
    exact free.arriving other (List.mem_of_mem_eraseIdx member)
  · intro request member
    rcases List.mem_append.mp member with earlier | new
    · exact free.asked request earlier
    · obtain ⟨id, rfl, elsewhere⟩ := asks request new
      exact elsewhere

theorem Free.acts (free : Free tab room) {gesture : Gesture} {done : Page × List Request}
    (acted : act tab.page gesture = some done)
    (shownFirst : gesture = .opens room → (tab.page.convos.lookup room).isSome) :
    Free { tab with page := done.1, asked := tab.asked ++ done.2 } room := by
  have kept : RoomOnly (FromRoom tab room) done.1 room ∧
      ∀ request ∈ done.2, ¬Asks room request := by
    cases gesture with
    | opens id =>
        cases acted
        obtain ⟨shown, asks⟩ := free.shown.set_active fun same => same ▸ shownFirst (same ▸ rfl)
        refine ⟨shown, ?_⟩
        intro request member
        obtain ⟨rfl, elsewhere⟩ := asks request member
        exact elsewhere
    | loadsOlder =>
        obtain ⟨offered, same⟩ := Option.ite_none_right_eq_some.mp acted
        cases same
        refine ⟨free.shown, ?_⟩
        intro request member
        obtain ⟨id, before, rfl, elsewhere⟩ := free.shown.load_older offered request member
        exact elsewhere
    | submits body =>
        cases acted
        refine ⟨free.shown, ?_⟩
        intro request member
        rcases free.shown.submit body request member with ⟨other, rfl, _⟩ | ⟨peer, rfl, _, elsewhere⟩
        · exact not_false
        · exact elsewhere
    | removes jid =>
        cases acted
        refine ⟨?_, fun request member => by cases member⟩
        have without : RoomOnly (FromRoom tab room)
            { tab.page with roster := tab.page.roster.pop jid } room := free.shown
        exact without.dropped jid
    | hides hidden =>
        cases acted
        exact ⟨free.shown, fun request member => by cases member⟩
  refine ⟨kept.1, free.arriving, ?_⟩
  intro request member
  rcases List.mem_append.mp member with earlier | new
  · exact free.asked request earlier
  · exact kept.2 request new

end Tabs

section Runs

variable {bare : Json → Except String String} {env : Env} {room : String}

def RoomsFree (system : System) : Prop :=
  ∀ room ∈ system.joined.keys, ∀ tab ∈ system.tabs, Free tab room

theorem free_of_broadcast {tabs : List Tab} (free : ∀ tab ∈ tabs, Free tab room)
    {frames : List Frame} (quiet : ∀ frame ∈ frames, ¬Chats room frame) :
    ∀ tab ∈ broadcast tabs frames, Free tab room := by
  intro tab member
  obtain ⟨before, among, rfl⟩ := List.mem_map.mp member
  exact (free before among).sent quiet

theorem free_of_set {tabs : List Tab} (free : ∀ tab ∈ tabs, Free tab room) {index : Nat}
    {tab : Tab} (kept : Free tab room) : ∀ other ∈ tabs.set index tab, Free other room := by
  intro other member
  rcases List.mem_or_eq_of_mem_set member with earlier | rfl
  · exact free other earlier
  · exact kept

/-- A room is joined, or was and still is: the frames of its tasks are no messages of a
peer, and before it is joined no tab has its name for a conversation. -/
theorem rooms_free_membership {system next : System} {action : RoomMembership.Action}
    (allowed : Apart bare env system (.membership action)) (free : RoomsFree system)
    (fired : step bare env system (.membership action) = some next) : RoomsFree next := by
  obtain ⟨membership, moved, rfl⟩ := Option.map_eq_some_iff.mp fired
  obtain ⟨frames, appended, news⟩ := RoomNotices.step_news moved
  intro room inside
  have before : ∀ tab ∈ system.tabs, Free tab room := by
    by_cases already : room ∈ system.joined.keys
    · exact free room already
    · exact allowed room ⟨already, membership, moved, inside⟩
  apply free_of_broadcast before
  rw [appended, List.drop_left]
  exact news_quiet news

theorem rooms_free_events {system : System} (free : RoomsFree system) {events : List Event}
    (quiet : ∀ room ∈ system.joined.keys, ∀ frame ∈ events.filterMap eventFrame,
      ¬Chats room frame) : RoomsFree (handleEvents system events) :=
  fun room inside => free_of_broadcast (free room inside) (quiet room inside)

theorem rooms_free_serves {system next : System} {index position : Nat}
    {outcome : (operation : Operation) → Except String operation.Value} {now : String}
    (free : RoomsFree system)
    (fired : step bare env system (.serves index position outcome now) = some next) :
    RoomsFree next := by
  obtain ⟨tab, there, served⟩ := Option.bind_eq_some_iff.mp fired
  obtain ⟨request, asked, same⟩ := Option.map_eq_some_iff.mp served
  have answers : ∀ room ∈ system.joined.keys, ∀ frame,
      (concluded env system.membership.rooms.caches request outcome now).frame = some frame →
        ¬Chats room frame := by
    intro room inside frame ends chats
    exact (free room inside tab (List.mem_of_getElem? there)).asked request
      (List.mem_of_getElem? asked) (concluded_chats ends chats)
  have answered : ∀ room ∈ system.joined.keys,
      Free { tab with asked := tab.asked.eraseIdx position } room :=
    fun room inside => (free room inside tab (List.mem_of_getElem? there)).loses
      (List.Subset.refl _) (List.eraseIdx_subset)
  dsimp only at same
  split at same
  · next frame concluding =>
      subst same
      intro room inside
      apply free_of_set (free room inside)
      apply (answered room inside).sent
      intro other member
      rw [List.mem_singleton.mp member]
      exact answers room inside frame (by rw [concluding]; rfl)
  · next frame concluding =>
      subst same
      intro room inside
      apply free_of_broadcast (free_of_set (free room inside) (answered room inside))
      intro other member
      rw [List.mem_singleton.mp member]
      exact answers room inside frame (by rw [concluding]; rfl)
  · subst same
    exact fun room inside => free_of_set (free room inside) (answered room inside)

theorem rooms_free_step {system next : System} {action : Action}
    (allowed : Apart bare env system action) (free : RoomsFree system)
    (fired : step bare env system action = some next) : RoomsFree next := by
  cases action with
  | membership action => exact rooms_free_membership allowed free fired
  | message stanza newId now =>
      cases fired
      apply rooms_free_events free
      intro room inside frame shown chats
      obtain ⟨conversational, filled, rfl⟩ := received_chats shown chats
      exact allowed conversational filled inside
  | aside event =>
      obtain ⟨aside, same⟩ := Option.ite_none_right_eq_some.mp fired
      cases same
      apply rooms_free_events free
      intro room inside frame shown
      obtain ⟨other, among, visible⟩ := List.mem_filterMap.mp shown
      rw [List.mem_singleton.mp among] at visible
      exact aside_quiet aside visible
  | connects =>
      cases fired
      intro room inside tab member
      rcases List.mem_append.mp member with earlier | new
      · exact free room inside tab earlier
      · rw [List.mem_singleton.mp new]
        exact free_blank room
  | reconnects index begun =>
      obtain ⟨tab, there, rfl⟩ := Option.map_eq_some_iff.mp fired
      intro room inside
      apply free_of_set (free room inside)
      exact (free room inside tab (List.mem_of_getElem? there)).loses
        (List.nil_subset _) (List.filter_subset_self _)
  | replays index frame =>
      obtain ⟨replay, sent⟩ := Option.ite_none_right_eq_some.mp fired
      obtain ⟨tab, there, rfl⟩ := Option.map_eq_some_iff.mp sent
      intro room inside
      apply free_of_set (free room inside)
      apply (free room inside tab (List.mem_of_getElem? there)).sent
      intro other member
      rw [List.mem_singleton.mp member]
      exact replay_quiet replay
  | arrives index position =>
      obtain ⟨tab, there, handled⟩ := Option.bind_eq_some_iff.mp fired
      obtain ⟨frame, found, rfl⟩ := Option.map_eq_some_iff.mp handled
      intro room inside
      apply free_of_set (free room inside)
      exact (free room inside tab (List.mem_of_getElem? there)).handles found
  | gesture index gesture =>
      obtain ⟨tab, there, acts⟩ := Option.bind_eq_some_iff.mp fired
      obtain ⟨done, acted, rfl⟩ := Option.map_eq_some_iff.mp acts
      intro room inside
      apply free_of_set (free room inside)
      apply (free room inside tab (List.mem_of_getElem? there)).acts acted
      rintro rfl
      exact allowed inside tab there
  | serves index position outcome now => exact rooms_free_serves free fired

/-- In every tab what stands under the bare JID of a joined room is the room, and its
composer sends to the room. -/
def RoomsApart (system : System) : Prop :=
  ∀ room ∈ system.joined.keys, ∀ tab ∈ system.tabs,
    ShowsRoom tab room ∧ (tab.page.active = some room →
      ∀ body, ∀ request ∈ submit tab.page body, request = .sendMuc room body)

theorem apart_of_free {system : System} (free : RoomsFree system) : RoomsApart system := by
  intro room inside tab member
  have shown : ShowsRoom tab room := (free room inside tab member).shown
  refine ⟨shown, ?_⟩
  intro active body request asked
  rcases shown.submit body request asked with ⟨other, rfl, same⟩ | ⟨peer, _, same, elsewhere⟩
  · rw [active] at same
    cases same
    rfl
  · rw [active] at same
    cases same
    exact absurd rfl elsewhere

/-- Rooms and 1:1 conversations stay apart in every run in which no name is used for
both. -/
theorem rooms_stay_apart (bare : Json → Except String String) (env : Env)
    {actions : List Action} {final : System}
    (conforms : Conforms (step bare env) (Apart bare env) start actions)
    (run : replay (step bare env) start actions = some final) : RoomsApart final := by
  have free : RoomsFree start := fun room inside => by cases inside
  exact apart_of_free
    (run_invariant (fun _ _ _ allowed free fired => rooms_free_step allowed free fired)
      free conforms run)

end Runs

def privately (sender : Presence.Jid) (body : String) : Action :=
  .message ⟨"chat", sender, ⟨"alice@example.com", ""⟩, body, "m1", "", ""⟩ "new" "now"

def joinsTeam : List Action :=
  [.connects, .membership (.command Rooms.joinTeam), .membership (.resumes 0 true []),
    .arrives 0 0]

/-- Bob comes to the room, and Carol, who is not in it, writes. -/
def bobComesAndCarolWrites : List Action :=
  joinsTeam ++ [.membership (.presence "team@conference.example.com" "bob" true []),
    privately ⟨"carol@example.com", "phone"⟩ "hi", .arrives 0 0, .arrives 0 0]

theorem carol_writes :
    ∃ final,
      replay (step Rooms.bareOf Pump.alice) start bobComesAndCarolWrites = some final ∧
        final.joined.keys = ["team@conference.example.com"] ∧ RoomsApart final := by
  have stays : ∀ {system : System} {action : RoomMembership.Action}
      {next : RoomMembership.System},
      RoomMembership.step Rooms.bareOf Pump.alice system.membership action = some next →
      next.rooms.joined = system.joined →
        Apart Rooms.bareOf Pump.alice system (.membership action) := by
    intro system action next moved same room enters
    obtain ⟨outside, other, fired, inside⟩ := enters
    rw [moved] at fired
    cases fired
    exact absurd (same ▸ inside) outside
  have conforms : Conforms (step Rooms.bareOf Pump.alice) (Apart Rooms.bareOf Pump.alice) start
      bobComesAndCarolWrites := by
    refine ⟨trivial, ?_, stays rfl rfl, trivial, stays rfl rfl, ?_, trivial, trivial, trivial⟩
    · intro room _ tab member
      rw [List.mem_singleton.mp member]
      exact free_blank room
    · intro _ _
      decide
  exact ⟨_, rfl, rfl, rooms_stay_apart Rooms.bareOf Pump.alice conforms rfl⟩

theorem private_message_in_the_room :
    ∃ final,
      replay (step Rooms.bareOf Pump.alice) start
        (joinsTeam ++ [privately ⟨"team@conference.example.com", "bob"⟩ "psst", .arrives 0 0]) =
        some final ∧
      ¬RoomsApart final := by
  refine ⟨_, rfl, ?_⟩
  intro apart
  obtain ⟨shown, _⟩ := apart "team@conference.example.com" (List.mem_singleton_self _) _
    (List.mem_singleton_self _)
  obtain ⟨_, entries⟩ := shown _ rfl
  obtain ⟨frame, handled, shows⟩ := entries _ (List.mem_singleton_self _)
  unfold shownIn at shows
  split at shows
  all_goals cases shows

end PyConduit.RoomTalk
