import PyConduit.Dict
import PyConduit.Protocol
import PyConduit.Text

/-!
# What a tab shows

The state of `app.js` as far as the conversations go, `handleFrame` and what the user
does with them, with the frames each of these sends. A frame that names a conversation
by anything but a text is left out: a `Map` keeps such an id apart from every text,
though what is drawn of it may raise.
-/

namespace PyConduit.Browser

open Protocol

set_option autoImplicit false

inductive Kind
  | chat
  | muc
  deriving DecidableEq

/-- An element of `messages`: a message of a peer, one of a room, or a notice or a
warning, of which only the text is rendered. -/
inductive Entry
  | chat (author body : Json) (timestamp : String) (direction : Direction) (id : String)
  | room (author body timestamp : String) (isSelf : Bool) (id : String) (mention : Bool)
  | notice (text : String)
  | warning (text : String)

structure Convo where
  kind : Kind
  name : String
  messages : List Entry
  unread : Nat
  complete : Bool
  oldestId : Option String
  occupants : List Occupant

structure RosterEntry where
  name : String
  subscription : String
  shown : Show
  status : Option String

/-- `state`, and `document.hidden`. -/
structure Page where
  roster : Dict String RosterEntry
  convos : Dict String Convo
  active : Option String
  hidden : Bool

def blank : Page := ⟨.empty, .empty, none, false⟩

/-- The frames a tab sends that have to do with a conversation. -/
inductive Request
  | loadHistory (jid : String) (before : Option String)
  | sendMessage (peer body : String)
  | sendMuc (room body : String)
  deriving DecidableEq

def added (kind : Kind) (name : String) : Convo := ⟨kind, name, [], 0, false, none, []⟩

/-- `getConvo`, and an assignment to what it returns. -/
def change (page : Page) (id : String) (kind : Kind) (name : String)
    (assigned : Convo → Convo) : Page :=
  { page with
    convos := page.convos.setItem id
      (assigned ((page.convos.lookup id).getD (added kind name))) }

def pushed (entry : Entry) (convo : Convo) : Convo :=
  { convo with messages := convo.messages ++ [entry] }

def setActive (page : Page) (id : String) : Page × List Request :=
  let convo := (page.convos.lookup id).getD (added .chat id)
  (change { page with active := some id } id .chat id fun convo => { convo with unread := 0 },
    if convo.kind = .chat ∧ convo.messages = [] ∧ convo.complete = false then
      [.loadHistory id none]
    else [])

def bump (page : Page) (id : String) : Page :=
  match page.convos.lookup id with
  | some convo =>
      if page.active = some id ∧ page.hidden = false then page
      else
        { page with
          convos := page.convos.setItem id { convo with unread := convo.unread + 1 } }
  | none => page

def labelFor (page : Page) : Json → Json
  | .str jid =>
      match page.roster.lookup jid with
      | some entry => .str (if entry.name = "" then jid else entry.name)
      | none => .str jid
  | other => other

def chatEntry (page : Page) (message : ChatMessage) : Entry :=
  .chat (if message.direction = .outgoing then .str "You" else labelFor page message.fromJid)
    message.body message.timestamp message.direction message.msgId

/-- The `roster` case, for one contact. -/
def addContact (roster : Dict String RosterEntry) (contact : Contact) :
    Dict String RosterEntry :=
  let current := roster.lookup contact.jid
  roster.setItem contact.jid
    ⟨contact.name, contact.subscription, (current.map (·.shown)).getD .offline,
      current.bind (·.status)⟩

def joined (page : Page) (room : String) : Page × List Request :=
  let name := Text.before '@' room
  let shown := change page room .muc name fun convo => { convo with name := name }
  if shown.active = none ∨ shown.active = some "" then setActive shown room else (shown, [])

/-- The `muc_left` case, and the end of `removeContact`. -/
def dropped (page : Page) (id : String) : Page :=
  { page with
    convos := page.convos.pop id
    active := if page.active = some id then none else page.active }

def merged (page : Page) (messages : List ChatMessage) (complete : Bool) (convo : Convo) : Convo :=
  { convo with
    complete := complete
    oldestId := (messages.head?.map (·.msgId)).or convo.oldestId
    messages := messages.map (chatEntry page) ++ convo.messages }

def noticeText (nick : String) (joined : Bool) : String :=
  if joined then s!"{nick} joined" else s!"{nick} left"

def handleFrame (page : Page) : Frame → Page × List Request
  | .message message =>
      match message.conversation with
      | .str id =>
          let shown := change page id .chat id (pushed (chatEntry page message))
          (if message.direction = .incoming then bump shown id else shown, [])
      | _ => (page, [])
  | .history conversation messages complete =>
      match conversation with
      | .str id => (change page id .chat id (merged page messages complete), [])
      | _ => (page, [])
  | .presence jid shown status =>
      let entry := (page.roster.lookup jid).getD ⟨jid, "none", .offline, none⟩
      ({ page with
        roster := page.roster.setItem jid { entry with shown := shown, status := status } }, [])
  | .roster contacts => ({ page with roster := contacts.foldl addContact page.roster }, [])
  | .mucJoined (.str room) _ _ => joined page room
  | .mucLeft (.str room) => (dropped page room, [])
  | .mucMessage room nick body msgId timestamp isSelf mentionsMe =>
      let shown := change page room .muc room
        (pushed (.room nick body timestamp isSelf msgId mentionsMe))
      (if isSelf then shown else bump shown room, [])
  | .mucOccupants (.str room) occupants =>
      (change page room .muc room fun convo => { convo with occupants := occupants }, [])
  | .mucPresence room nick joined =>
      (change page room .muc room
        (pushed (.notice (noticeText nick joined))), [])
  | .error _ message (some (.str id)) =>
      if id ≠ "" ∧ (page.convos.lookup id).isSome then
        (change page id .chat id (pushed (.warning message)), [])
      else (page, [])
  | _ => (page, [])

/-- What a frame names the conversation by that it is filed under. -/
def filedUnder : Frame → Option Json
  | .message message => some message.conversation
  | .history conversation _ _ => some conversation
  | .mucOccupants room _ => some room
  | _ => none

/-- Whether `renderMessages` leaves the button for older messages visible. -/
def offersOlder (page : Page) : Bool :=
  match page.active.bind page.convos.lookup with
  | some convo => convo.kind = .chat ∧ convo.complete = false
  | none => false

def loadOlder (page : Page) : List Request :=
  match page.active with
  | some id =>
      match page.convos.lookup id with
      | some convo => [.loadHistory id convo.oldestId]
      | none => []
  | none => []

/-- The handler of the composer, given the trimmed text. -/
def submit (page : Page) (body : String) : List Request :=
  match page.active with
  | some id =>
      match page.convos.lookup id with
      | some convo =>
          if body = "" then []
          else if convo.kind = .muc then [.sendMuc id body]
          else [.sendMessage id body]
      | none => []
  | none => []

/-- `removeContact`, once it is confirmed. -/
def removeContact (page : Page) (jid : String) : Page :=
  dropped { page with roster := page.roster.pop jid } jid

theorem lookup_change (page : Page) (id other : String) (kind : Kind) (name : String)
    (assigned : Convo → Convo) :
    (change page id kind name assigned).convos.lookup other =
      if other = id then some (assigned ((page.convos.lookup id).getD (added kind name)))
      else page.convos.lookup other :=
  Dict.lookup_set_item ..

theorem lookup_dropped (page : Page) (id other : String) :
    (dropped page id).convos.lookup other =
      if other = id then none else page.convos.lookup other :=
  Dict.lookup_pop ..

theorem pushed_cases {allowed : Entry → Prop} {added : Entry} (permitted : allowed added)
    {convo : Convo} : ∀ entry ∈ (pushed added convo).messages,
      entry ∈ convo.messages ∨ allowed entry := by
  intro entry member
  rcases List.mem_append.mp member with earlier | last
  · exact Or.inl earlier
  · rw [List.mem_singleton.mp last]
    exact Or.inr permitted

section Rooms

variable {page : Page} {room : String} {allowed : Entry → Prop}

/-- A conversation that the page shows under a name is one of a room, with allowed
entries. -/
def RoomOnly (allowed : Entry → Prop) (page : Page) (room : String) : Prop :=
  ∀ convo, page.convos.lookup room = some convo →
    convo.kind = .muc ∧ ∀ entry ∈ convo.messages, allowed entry

theorem RoomOnly.change (holds : RoomOnly allowed page room) {id name : String} {kind : Kind}
    {assigned : Convo → Convo}
    (opens : id = room → kind = .muc ∨ (page.convos.lookup id).isSome)
    (keeps : id = room → ∀ convo, (assigned convo).kind = convo.kind ∧
      ∀ entry ∈ (assigned convo).messages, entry ∈ convo.messages ∨ allowed entry) :
    RoomOnly allowed (Browser.change page id kind name assigned) room := by
  intro convo found
  rw [lookup_change] at found
  split_ifs at found with same
  · subst same
    cases found
    have before : ((page.convos.lookup room).getD (added kind name)).kind = .muc ∧
        ∀ entry ∈ ((page.convos.lookup room).getD (added kind name)).messages, allowed entry := by
      cases present : page.convos.lookup room with
      | some convo => exact holds convo present
      | none =>
          rcases opens rfl with isMuc | found
          · exact ⟨isMuc, fun entry member => by cases member⟩
          · rw [present] at found
            cases found
    obtain ⟨sameKind, entries⟩ := keeps rfl ((page.convos.lookup room).getD (added kind name))
    refine ⟨sameKind.trans before.1, ?_⟩
    intro entry member
    rcases entries entry member with earlier | new
    · exact before.2 entry earlier
    · exact new
  · exact holds convo found

theorem RoomOnly.bump (holds : RoomOnly allowed page room) (id : String) :
    RoomOnly allowed (Browser.bump page id) room := by
  unfold Browser.bump
  split
  · next convo present =>
      split_ifs
      · exact holds
      · intro other found
        rw [Dict.lookup_set_item] at found
        split_ifs at found with same
        · cases found
          exact holds convo (same ▸ present)
        · exact holds other found
  · exact holds

theorem RoomOnly.dropped (holds : RoomOnly allowed page room) (id : String) :
    RoomOnly allowed (Browser.dropped page id) room := by
  intro convo found
  rw [lookup_dropped] at found
  split_ifs at found
  exact holds convo found

theorem RoomOnly.set_active (holds : RoomOnly allowed page room) {id : String}
    (known : id = room → (page.convos.lookup id).isSome) :
    RoomOnly allowed (setActive page id).1 room ∧
      ∀ request ∈ (setActive page id).2, request = .loadHistory id none ∧ id ≠ room := by
  constructor
  · have active : RoomOnly allowed { page with active := some id } room := holds
    exact active.change (fun same => Or.inr (known same))
      fun _ convo => ⟨rfl, fun entry member => Or.inl member⟩
  · intro request asked
    simp only [setActive] at asked
    split_ifs at asked with lazily
    · refine ⟨List.mem_singleton.mp asked, ?_⟩
      rintro rfl
      obtain ⟨convo, present⟩ := Option.isSome_iff_exists.mp (known rfl)
      rw [present, Option.getD_some, (holds convo present).1] at lazily
      cases lazily.1
    · cases asked

def Chats (id : String) : Frame → Prop
  | .message message => message.conversation = .str id
  | .history conversation _ _ => conversation = .str id
  | _ => False

/-- The entry a frame of a room adds, and the room. -/
def shownIn : Frame → Option (String × Entry)
  | .mucMessage room nick body msgId timestamp isSelf mentionsMe =>
      some (room, .room nick body timestamp isSelf msgId mentionsMe)
  | .mucPresence room nick joined =>
      some (room, .notice (noticeText nick joined))
  | .error _ message (some (.str room)) => some (room, .warning message)
  | _ => none

theorem RoomOnly.joined (holds : RoomOnly allowed page room) (other : String) :
    RoomOnly allowed (Browser.joined page other).1 room ∧
      ∀ request ∈ (Browser.joined page other).2, ∃ id, request = .loadHistory id none ∧ id ≠ room := by
  have shown : RoomOnly allowed (Browser.change page other .muc (Text.before '@' other)
      fun convo => { convo with name := Text.before '@' other }) room :=
    holds.change (fun _ => Or.inl rfl) fun _ convo => ⟨rfl, fun entry member => Or.inl member⟩
  unfold Browser.joined
  dsimp only
  split_ifs
  · obtain ⟨still, asks⟩ := @RoomOnly.set_active _ room allowed shown other fun _ => by
      rw [lookup_change, if_pos rfl]
      rfl
    refine ⟨still, ?_⟩
    intro request asked
    obtain ⟨same, differs⟩ := asks request asked
    exact ⟨other, same, differs⟩
  · exact ⟨shown, fun request asked => by cases asked⟩

/-- A frame that files no message of a peer under a room leaves it one of a room; what
it adds there is what the frame shows. -/
theorem RoomOnly.handle_frame (holds : RoomOnly allowed page room) {frame : Frame}
    (noChat : ¬Chats room frame) (shows : ∀ entry, shownIn frame = some (room, entry) → allowed entry) :
    RoomOnly allowed (handleFrame page frame).1 room ∧
      ∀ request ∈ (handleFrame page frame).2, ∃ id, request = .loadHistory id none ∧ id ≠ room := by
  have quiet : ∀ request ∈ ([] : List Request), ∃ id, request = .loadHistory id none ∧ id ≠ room :=
    fun request asked => by cases asked
  unfold handleFrame
  split
  · next message =>
      split
      · next id conversation =>
          have elsewhere : id ≠ room := by
            rintro rfl
            exact noChat conversation
          have filed : RoomOnly allowed
              (Browser.change page id .chat id (pushed (chatEntry page message))) room :=
            holds.change (fun same => absurd same elsewhere) fun same => absurd same elsewhere
          refine ⟨?_, quiet⟩
          split_ifs
          · exact filed.bump id
          · exact filed
      · exact ⟨holds, quiet⟩
  · next conversation messages complete =>
      split
      · next id =>
          have elsewhere : id ≠ room := by
            rintro rfl
            exact noChat rfl
          exact ⟨holds.change (fun same => absurd same elsewhere) fun same => absurd same elsewhere,
            quiet⟩
      · exact ⟨holds, quiet⟩
  · exact ⟨holds, quiet⟩
  · exact ⟨holds, quiet⟩
  · exact holds.joined _
  · exact ⟨holds.dropped _, quiet⟩
  · next other nick body msgId timestamp isSelf mentionsMe =>
      have filed : RoomOnly allowed (Browser.change page other .muc other
          (pushed (.room nick body timestamp isSelf msgId mentionsMe))) room := by
        apply holds.change (fun _ => Or.inl rfl)
        rintro rfl convo
        exact ⟨rfl, pushed_cases (shows _ rfl)⟩
      refine ⟨?_, quiet⟩
      split_ifs
      · exact filed
      · exact filed.bump other
  · exact ⟨holds.change (fun _ => Or.inl rfl)
      fun _ convo => ⟨rfl, fun entry member => Or.inl member⟩, quiet⟩
  · refine ⟨holds.change (fun _ => Or.inl rfl) ?_, quiet⟩
    rintro rfl convo
    exact ⟨rfl, pushed_cases (shows _ rfl)⟩
  · split_ifs with known
    · refine ⟨holds.change (fun _ => Or.inr known.2) ?_, quiet⟩
      rintro rfl convo
      exact ⟨rfl, pushed_cases (shows _ rfl)⟩
    · exact ⟨holds, quiet⟩
  · exact ⟨holds, quiet⟩

theorem RoomOnly.load_older (holds : RoomOnly allowed page room)
    (offered : offersOlder page = true) :
    ∀ request ∈ loadOlder page, ∃ id before, request = .loadHistory id before ∧ id ≠ room := by
  intro request asked
  unfold offersOlder at offered
  unfold loadOlder at asked
  split at asked
  · next id active =>
      split at asked
      · next convo present =>
          rw [active, Option.bind_some, present] at offered
          refine ⟨id, convo.oldestId, List.mem_singleton.mp asked, ?_⟩
          rintro rfl
          have isMuc := (holds convo present).1
          simp [isMuc] at offered
      · cases asked
  · cases asked

/-- The composer sends a room's text to the room, and nothing to a peer of its name. -/
theorem RoomOnly.submit (holds : RoomOnly allowed page room) (body : String) :
    ∀ request ∈ submit page body, (∃ other, request = .sendMuc other body ∧
        page.active = some other) ∨
      ∃ peer, request = .sendMessage peer body ∧ page.active = some peer ∧ peer ≠ room := by
  intro request asked
  unfold Browser.submit at asked
  split at asked
  · next id active =>
      split at asked
      · next convo present =>
          split_ifs at asked with empty isMuc
          · cases asked
          · exact Or.inl ⟨id, List.mem_singleton.mp asked, active⟩
          · refine Or.inr ⟨id, List.mem_singleton.mp asked, active, ?_⟩
            rintro rfl
            exact isMuc (holds convo present).1
      · cases asked
  · cases asked

end Rooms

end PyConduit.Browser
