import PyConduit.Browser
import PyConduit.GuardedRun

/-!
# A tab of the browser

The whole of `app.js` but for what it draws: the page of `Browser`, the title, the sounds,
the composer, the banner, the list of rooms to join, and the WebSockets it opens one after
the other. An action is one event of the browser, which runs one handler to its end. A
socket delivers a message only while it is open, and a form whose text is longer than its
`maxLength` is not submitted.
-/

namespace PyConduit.Screen

open Protocol Browser GuardedRun

set_option autoImplicit false

/-- What `send` is called with. -/
inductive Sent
  | talk (request : Request)
  | setPresence (shown : Show)
  | addContact (jid : String)
  | removeContact (jid : String)
  | subscription (jid : String) (accept : Bool)
  | joinRoom (room : String)
  | leaveRoom (room : String)
  | discoServers
  deriving DecidableEq

inductive Sound
  | blip
  | mention
  deriving DecidableEq

inductive ReadyState
  | connecting
  | opened
  | closing
  | closed
  deriving DecidableEq

/-- `sockets` lists the WebSockets in the order of their creation, `state.ws` is the last;
`timers` counts the pending calls of `connect`. `log` lists the calls of `send`, each with
the socket that took it, and none where it was not open. -/
structure State where
  page : Page
  brandTitle : String
  title : String
  soundEnabled : Bool
  preference : Option String
  sounds : List Sound
  composer : String
  maxLength : Option Nat
  disabled : Bool
  banner : Option String
  modal : Bool
  listing : List ServerRooms
  sockets : List ReadyState
  timers : Nat
  log : List (Option Nat × Sent)

def start (preference : Option String) : State where
  page := blank
  brandTitle := "PyConduit"
  title := "PyConduit"
  soundEnabled := true
  preference := preference
  sounds := []
  composer := ""
  maxLength := none
  disabled := true
  banner := none
  modal := false
  listing := []
  sockets := [.connecting]
  timers := 0
  log := []

/-- What `trim` takes away. -/
def isSpace (char : Char) : Bool :=
  char.toNat ∈ [0x9, 0xa, 0xb, 0xc, 0xd, 0x20, 0xa0, 0x1680, 0x2028, 0x2029, 0x202f, 0x205f, 0x3000,
    0xfeff] ∨ 0x2000 ≤ char.toNat ∧ char.toNat ≤ 0x200a

def trim (text : String) : String :=
  String.ofList ((text.toList.dropWhile isSpace).reverse.dropWhile isSpace).reverse

/-- `length` of a text in the browser. -/
def length (text : String) : Nat :=
  (text.toList.map fun char => if char.toNat < 0x10000 then 1 else 2).sum

def openSocket (screen : State) : Option Nat :=
  if screen.sockets.getLast? = some .opened then some (screen.sockets.length - 1) else none

def send (screen : State) (request : Sent) : State :=
  { screen with log := screen.log ++ [(openSocket screen, request)] }

def sendAll (screen : State) (requests : List Sent) : State := requests.foldl send screen

def total (page : Page) : Nat := (page.convos.values.map fun convo => convo.unread).sum

def titleText (unread : Nat) (brandTitle : String) : String :=
  if 0 < unread then s!"({unread}) {brandTitle}" else brandTitle

def updateTitle (screen : State) : State :=
  { screen with title := titleText (total screen.page) screen.brandTitle }

/-- `setActive`; `focusComposer` enables the composer. -/
def setActive (screen : State) (id : String) : State :=
  let opened := Browser.setActive screen.page id
  { updateTitle (sendAll { screen with page := opened.1 } (opened.2.map .talk)) with
    disabled := false }

def loadSoundPref (preference : Option String) (default : Bool) : Bool :=
  match preference with
  | none => default
  | some stored => stored = "1"

/-- The assignment to `maxLength`, which takes an integer of 32 bits and raises an
IndexSizeError for a negative one. -/
def asLength (limit : Int) : Option Nat :=
  let long := (BitVec.ofInt 32 limit).toInt
  if long < 0 then none else some long.toNat

def brandOf (brandTitle : String) : String := if brandTitle = "" then "PyConduit" else brandTitle

def ready (screen : State) (brandTitle : String) (soundDefault : Bool) (limit : Int) : State :=
  let assigned := { screen with
    brandTitle := brandOf brandTitle
    soundEnabled := loadSoundPref screen.preference soundDefault }
  if limit = 0 then updateTitle assigned
  else
    match asLength limit with
    | some length => updateTitle { assigned with maxLength := some length }
    | none => assigned

def unseen (page : Page) (id : String) : Bool := ¬(page.active = some id ∧ page.hidden = false)

/-- The conversation whose counter a frame raises, with the sound it makes. -/
def rings (page : Page) : Frame → List (String × Sound)
  | .message message =>
      match message.conversation with
      | .str id => if message.direction = .incoming ∧ unseen page id then [(id, .blip)] else []
      | _ => []
  | .mucMessage room _ _ _ _ isSelf mentionsMe =>
      if isSelf = false ∧ unseen page room then
        [(room, if mentionsMe then .mention else .blip)]
      else []
  | _ => []

/-- `muc_joined` opens the room when no conversation is active. -/
def opensRoom (page : Page) : Prop := page.active = none ∨ page.active = some ""

instance (page : Page) : Decidable (opensRoom page) :=
  inferInstanceAs (Decidable (page.active = none ∨ page.active = some ""))

/-- The page of `muc_joined` before it may open the room. -/
def entered (page : Page) (room : String) : Page :=
  change page room .muc (Text.before '@' room) fun convo =>
    { convo with name := Text.before '@' room }

theorem joined_eq (page : Page) (room : String) :
    joined page room =
      if opensRoom page then Browser.setActive (entered page room) room
      else (entered page room, []) := rfl

def handleFrame (screen : State) (frame : Frame) : State :=
  let handled := Browser.handleFrame screen.page frame
  let shown := { screen with page := handled.1 }
  match frame with
  | .ready _ _ brandTitle soundDefault _ limit => ready screen brandTitle soundDefault limit
  | .roster _ => updateTitle shown
  | .presence _ _ _ => updateTitle shown
  | .message _ | .mucMessage _ _ _ _ _ _ _ =>
      let rung := (rings screen.page frame).map Prod.snd
      updateTitle { shown with
        sounds := if screen.soundEnabled then screen.sounds ++ rung else screen.sounds }
  | .mucJoined (.str room) _ _ =>
      if opensRoom screen.page then setActive { screen with page := entered screen.page room } room
      else shown
  | .mucLeft _ => updateTitle shown
  | .subscriptionRequest jid => { screen with banner := some jid }
  | .discoServers servers => { screen with listing := servers }
  | _ => shown

section Pages

variable (screen : State)

@[simp] theorem page_send (request : Sent) : (send screen request).page = screen.page := rfl

@[simp] theorem page_update_title : (updateTitle screen).page = screen.page := rfl

/-- Sending changes the log and nothing else. -/
theorem send_all_eq (requests : List Sent) :
    ∃ log, sendAll screen requests = { screen with log := log } := by
  induction requests generalizing screen with
  | nil => exact ⟨screen.log, rfl⟩
  | cons request rest induction =>
      obtain ⟨log, sent⟩ := induction (send screen request)
      exact ⟨log, sent⟩

@[simp] theorem page_send_all (requests : List Sent) : (sendAll screen requests).page = screen.page := by
  obtain ⟨log, sent⟩ := send_all_eq screen requests
  rw [sent]

theorem set_active_eq (id : String) :
    ∃ title log, setActive screen id =
      { screen with
        page := (Browser.setActive screen.page id).1
        title := title
        log := log
        disabled := false } := by
  obtain ⟨log, sent⟩ := send_all_eq { screen with page := (Browser.setActive screen.page id).1 }
    ((Browser.setActive screen.page id).2.map .talk)
  refine ⟨titleText (total (Browser.setActive screen.page id).1) screen.brandTitle, log, ?_⟩
  simp only [setActive, sent, updateTitle]

@[simp] theorem page_set_active (id : String) :
    (setActive screen id).page = (Browser.setActive screen.page id).1 :=
  page_send_all _ _

@[simp] theorem page_ready (brandTitle : String) (soundDefault : Bool) (limit : Int) :
    (ready screen brandTitle soundDefault limit).page = screen.page := by
  unfold ready
  dsimp only
  split_ifs
  · rfl
  · split
    all_goals rfl

theorem page_frame (frame : Frame) :
    (handleFrame screen frame).page = (Browser.handleFrame screen.page frame).1 := by
  cases frame with
  | ready _ _ brandTitle soundDefault _ limit => exact page_ready screen brandTitle soundDefault limit
  | mucJoined room nick subject =>
      cases room with
      | str room =>
          have handled : Browser.handleFrame screen.page (.mucJoined (.str room) nick subject) =
              joined screen.page room := rfl
          rw [handled, joined_eq]
          simp only [handleFrame]
          split_ifs with opens
          · exact page_set_active { screen with page := entered screen.page room } room
          · dsimp only
            rw [handled, joined_eq, if_neg opens]
      | _ => rfl
  | _ => rfl

end Pages

inductive Gesture
  | opens (id : String)
  | adds (typed : Option String)
  | removes (jid : String)
  | leaves (room : String)
  | answers (accept : Bool)
  | selects (shown : Show)
  | browses
  | dismisses
  | joins (room : String)
  | edits (text : String)
  | submits
  | loadsOlder
  | focuses
  | hides (hidden : Bool)
  | sounds (enabled : Bool)

/-- There is a row for the conversation in the sidebar. -/
def listed (page : Page) (id : String) : Prop := id ∈ page.roster.keys ∨ id ∈ page.convos.keys

instance (page : Page) (id : String) : Decidable (listed page id) :=
  inferInstanceAs (Decidable (id ∈ page.roster.keys ∨ id ∈ page.convos.keys))

def offered (screen : State) (room : String) : Prop :=
  ∃ server ∈ screen.listing, server.online = true ∧ room ∈ server.rooms.map fun room => room.jid

instance (screen : State) (room : String) : Decidable (offered screen room) :=
  inferInstanceAs (Decidable (∃ server ∈ screen.listing, _))

def fits (screen : State) : Prop :=
  match screen.maxLength with
  | none => True
  | some limit => length screen.composer ≤ limit

instance (screen : State) : Decidable (fits screen) := by
  unfold fits
  split <;> infer_instance

/-- `addContact`, with what the prompt returns. -/
def addContact (screen : State) : Option String → State
  | none => screen
  | some typed =>
      if typed = "" then screen
      else
        let bare := trim typed
        setActive (send screen (.addContact bare)) bare

def removeContact (screen : State) (jid : String) : State :=
  let asked := send screen (.removeContact jid)
  updateTitle { asked with page := Browser.removeContact asked.page jid }

def submit (screen : State) : State :=
  match Browser.submit screen.page (trim screen.composer) with
  | [] => screen
  | request :: _ => { send screen (.talk request) with composer := "" }

def focus (screen : State) : State :=
  match screen.page.active with
  | some id =>
      if (screen.page.convos.lookup id).isSome then
        updateTitle { screen with
          page := change screen.page id .chat id fun convo => { convo with unread := 0 } }
      else screen
  | none => screen

/-- The buttons of the banner. -/
def answer (screen : State) (accept : Bool) : Option State :=
  screen.banner.map fun jid =>
    let answered := { send screen (.subscription jid accept) with banner := none }
    if accept then send answered (.addContact jid) else answered

/-- What a gesture does; none for one that the tab does not offer. -/
def act (screen : State) : Gesture → Option State
  | .opens id => if listed screen.page id then some (setActive screen id) else none
  | .adds typed => some (addContact screen typed)
  | .removes jid => if listed screen.page jid then some (removeContact screen jid) else none
  | .leaves room =>
      if (screen.page.convos.lookup room).map (·.kind) = some .muc then
        some (send screen (.leaveRoom room))
      else none
  | .answers accept => answer screen accept
  | .selects shown => some (updateTitle (send screen (.setPresence shown)))
  | .browses => some (send { screen with listing := [], modal := true } .discoServers)
  | .dismisses => some { screen with modal := false }
  | .joins room =>
      if screen.modal ∧ offered screen room then
        some { send screen (.joinRoom room) with modal := false }
      else none
  | .edits text => if screen.disabled then none else some { screen with composer := text }
  | .submits => if screen.disabled ∨ ¬fits screen then none else some (submit screen)
  | .loadsOlder =>
      if offersOlder screen.page then some (sendAll screen ((loadOlder screen.page).map .talk))
      else none
  | .focuses => some (focus screen)
  | .hides hidden => some { screen with page := { screen.page with hidden := hidden } }
  | .sounds enabled =>
      some { screen with
        soundEnabled := enabled
        preference := some (if enabled then "1" else "0") }

inductive Acts (screen : State) : Gesture → State → Prop
  | opens {id : String} (row : listed screen.page id) :
      Acts screen (.opens id) (setActive screen id)
  | cancels {typed : Option String} (nothing : typed = none ∨ typed = some "") :
      Acts screen (.adds typed) screen
  | adds {typed : String} (filled : typed ≠ "") :
      Acts screen (.adds (some typed))
        (setActive (send screen (.addContact (trim typed))) (trim typed))
  | removes {jid : String} (row : listed screen.page jid) :
      Acts screen (.removes jid) (removeContact screen jid)
  | leaves {room : String} {convo : Convo} (found : screen.page.convos.lookup room = some convo)
      (isMuc : convo.kind = .muc) : Acts screen (.leaves room) (send screen (.leaveRoom room))
  | accepts {jid : String} (shown : screen.banner = some jid) :
      Acts screen (.answers true)
        (send { send screen (.subscription jid true) with banner := none } (.addContact jid))
  | declines {jid : String} (shown : screen.banner = some jid) :
      Acts screen (.answers false) { send screen (.subscription jid false) with banner := none }
  | selects {shown : Show} :
      Acts screen (.selects shown) (updateTitle (send screen (.setPresence shown)))
  | browses : Acts screen .browses (send { screen with listing := [], modal := true } .discoServers)
  | dismisses : Acts screen .dismisses { screen with modal := false }
  | joins {room : String} (offers : offered screen room) :
      Acts screen (.joins room) { send screen (.joinRoom room) with modal := false }
  | edits {text : String} (enabled : screen.disabled = false) :
      Acts screen (.edits text) { screen with composer := text }
  | submitsNothing (nothing : Browser.submit screen.page (trim screen.composer) = []) :
      Acts screen .submits screen
  | submits {request : Request} (enabled : screen.disabled = false) (short : fits screen)
      (asked : Browser.submit screen.page (trim screen.composer) = [request]) :
      Acts screen .submits { send screen (.talk request) with composer := "" }
  | loadsOlder (offers : offersOlder screen.page = true) :
      Acts screen .loadsOlder (sendAll screen ((loadOlder screen.page).map .talk))
  | focuses {id : String} (active : screen.page.active = some id)
      (known : (screen.page.convos.lookup id).isSome) :
      Acts screen .focuses (updateTitle { screen with
        page := change screen.page id .chat id fun convo => { convo with unread := 0 } })
  | focusesNothing (nothing : ∀ id, screen.page.active = some id →
      screen.page.convos.lookup id = none) : Acts screen .focuses screen
  | hides {hidden : Bool} :
      Acts screen (.hides hidden) { screen with page := { screen.page with hidden := hidden } }
  | sounds {enabled : Bool} :
      Acts screen (.sounds enabled)
        { screen with
          soundEnabled := enabled
          preference := some (if enabled then "1" else "0") }

theorem submit_cases (page : Page) (body : String) :
    Browser.submit page body = [] ∨ body ≠ "" ∧ ∃ id convo, page.active = some id ∧
      page.convos.lookup id = some convo ∧
        Browser.submit page body =
          [if convo.kind = .muc then .sendMuc id body else .sendMessage id body] := by
  cases active : page.active with
  | none =>
      left
      rw [Browser.submit, active]
  | some id =>
      cases found : page.convos.lookup id with
      | none =>
          left
          rw [Browser.submit, active]
          simp only [found]
      | some convo =>
          have asked : Browser.submit page body =
              if body = "" then [] else if convo.kind = .muc then [.sendMuc id body]
                else [.sendMessage id body] := by
            rw [Browser.submit, active]
            simp only [found]
          by_cases empty : body = ""
          · left
            rw [asked, if_pos empty]
          · refine .inr ⟨empty, id, convo, rfl, found, ?_⟩
            rw [asked, if_neg empty]
            split_ifs
            all_goals rfl

theorem acts_of_act {screen next : State} {gesture : Gesture} (done : act screen gesture = some next) :
    Acts screen gesture next := by
  cases gesture with
  | opens id =>
      obtain ⟨row, same⟩ := Option.ite_none_right_eq_some.mp done
      cases same
      exact .opens row
  | adds typed =>
      cases done
      cases typed with
      | none => exact .cancels (.inl rfl)
      | some typed =>
          unfold addContact
          dsimp only
          split_ifs with empty
          · exact .cancels (.inr (congrArg some empty))
          · exact .adds empty
  | removes jid =>
      obtain ⟨row, same⟩ := Option.ite_none_right_eq_some.mp done
      cases same
      exact .removes row
  | leaves room =>
      obtain ⟨isRoom, same⟩ := Option.ite_none_right_eq_some.mp done
      obtain ⟨convo, found, isMuc⟩ := Option.map_eq_some_iff.mp isRoom
      cases same
      exact .leaves found isMuc
  | answers accept =>
      obtain ⟨jid, shown, rfl⟩ := Option.map_eq_some_iff.mp done
      cases accept with
      | true => exact .accepts shown
      | false => exact .declines shown
  | selects shown =>
      cases done
      exact .selects
  | browses =>
      cases done
      exact .browses
  | dismisses =>
      cases done
      exact .dismisses
  | joins room =>
      obtain ⟨⟨_, offers⟩, same⟩ := Option.ite_none_right_eq_some.mp done
      cases same
      exact .joins offers
  | edits text =>
      obtain ⟨enabled, same⟩ := Option.ite_none_left_eq_some.mp done
      cases same
      exact .edits (by simpa using enabled)
  | submits =>
      obtain ⟨allowed, same⟩ := Option.ite_none_left_eq_some.mp done
      cases same
      obtain ⟨usable, fitting⟩ := not_or.mp allowed
      have enabled : screen.disabled = false := by simpa using usable
      have short : fits screen := not_not.mp fitting
      unfold submit
      rcases submit_cases screen.page (trim screen.composer) with nothing | ⟨_, id, convo, _, _, asked⟩
      · rw [nothing]
        exact .submitsNothing nothing
      · rw [asked]
        exact .submits enabled short asked
  | loadsOlder =>
      obtain ⟨offers, same⟩ := Option.ite_none_right_eq_some.mp done
      cases same
      exact .loadsOlder offers
  | focuses =>
      cases done
      unfold focus
      cases active : screen.page.active with
      | none => exact .focusesNothing (by simp [active])
      | some id =>
          dsimp only
          split_ifs with known
          · exact .focuses active known
          · apply Acts.focusesNothing
            intro other same
            cases active.symm.trans same
            simpa using known
  | hides hidden =>
      cases done
      exact .hides
  | sounds enabled =>
      cases done
      exact .sounds

/-- One event of the browser; another tab of it may change the sound preference. -/
inductive Action
  | gesture (gesture : Gesture)
  | frame (socket : Nat) (frame : Frame)
  | opens (socket : Nat)
  | shuts (socket : Nat)
  | closes (socket : Nat)
  | timer
  | stores (preference : Option String)

/-- A conversation that is filed under anything but a text makes `renderContacts` or
`renderConvoHeader` raise from then on. -/
def NamesText : Action → Prop
  | .frame _ frame => ∀ id ∈ Browser.filedUnder frame, id.isText = true
  | _ => True

instance decidableNamesText : (action : Action) → Decidable (NamesText action)
  | .frame _ frame => inferInstanceAs (Decidable (∀ id ∈ Browser.filedUnder frame, id.isText = true))
  | .gesture _ | .opens _ | .shuts _ | .closes _ | .timer | .stores _ => .isTrue trivial

def connect (screen : State) : State :=
  { screen with sockets := screen.sockets ++ [.connecting] }

def onClose (screen : State) (socket : Nat) : State :=
  { screen with
    sockets := screen.sockets.set socket .closed
    disabled := true
    timers := screen.timers + 1 }

def step (screen : State) : Action → Option State
  | .gesture gesture => act screen gesture
  | .frame socket frame =>
      if screen.sockets[socket]? = some .opened then some (handleFrame screen frame) else none
  | .opens socket =>
      if screen.sockets[socket]? = some .connecting then
        some { screen with sockets := screen.sockets.set socket .opened }
      else none
  | .shuts socket =>
      if screen.sockets[socket]? = some .opened then
        some { screen with sockets := screen.sockets.set socket .closing }
      else none
  | .closes socket =>
      match screen.sockets[socket]? with
      | none | some .closed => none
      | _ => some (onClose screen socket)
  | .timer =>
      if 0 < screen.timers then some (connect { screen with timers := screen.timers - 1 }) else none
  | .stores preference => some { screen with preference := preference }

theorem page_cases {screen next : State} {action : Action} (fired : step screen action = some next) :
    (∃ gesture, action = .gesture gesture ∧ Acts screen gesture next) ∨
      (∃ socket frame, action = .frame socket frame ∧ next = handleFrame screen frame) ∨
        (∀ socket frame, action ≠ .frame socket frame) ∧ next.page = screen.page := by
  cases action with
  | gesture gesture => exact .inl ⟨gesture, rfl, acts_of_act fired⟩
  | frame socket frame =>
      obtain ⟨_, same⟩ := Option.ite_none_right_eq_some.mp fired
      exact .inr (.inl ⟨socket, frame, rfl, (Option.some.inj same).symm⟩)
  | opens socket =>
      obtain ⟨_, same⟩ := Option.ite_none_right_eq_some.mp fired
      cases same
      exact .inr (.inr ⟨by simp, rfl⟩)
  | shuts socket =>
      obtain ⟨_, same⟩ := Option.ite_none_right_eq_some.mp fired
      cases same
      exact .inr (.inr ⟨by simp, rfl⟩)
  | closes socket =>
      simp only [step] at fired
      split at fired
      · cases fired
      · cases fired
      · cases fired
        exact .inr (.inr ⟨by simp, rfl⟩)
  | timer =>
      obtain ⟨_, same⟩ := Option.ite_none_right_eq_some.mp fired
      cases same
      exact .inr (.inr ⟨by simp, rfl⟩)
  | stores preference =>
      cases fired
      exact .inr (.inr ⟨by simp, rfl⟩)

def asks (screen : State) : Action → List Sent
  | .gesture (.opens id) => (Browser.setActive screen.page id).2.map .talk
  | .gesture (.adds none) => []
  | .gesture (.adds (some typed)) =>
      if typed = "" then []
      else .addContact (trim typed) :: (Browser.setActive screen.page (trim typed)).2.map .talk
  | .gesture (.removes jid) => [.removeContact jid]
  | .gesture (.leaves room) => [.leaveRoom room]
  | .gesture (.answers accept) =>
      match screen.banner with
      | some jid => .subscription jid accept :: if accept then [.addContact jid] else []
      | none => []
  | .gesture (.selects shown) => [.setPresence shown]
  | .gesture .browses => [.discoServers]
  | .gesture (.joins room) => [.joinRoom room]
  | .gesture .submits => (Browser.submit screen.page (trim screen.composer)).map .talk
  | .gesture .loadsOlder => (loadOlder screen.page).map .talk
  | .frame _ frame => (Browser.handleFrame screen.page frame).2.map .talk
  | _ => []

section Traffic

variable {before middle after : State} {requests more : List Sent}

/-- A handler leaves the sockets and the timers, and sends on the socket that is open. -/
structure Handles (requests : List Sent) (before after : State) : Prop where
  sockets : after.sockets = before.sockets
  timers : after.timers = before.timers
  log : after.log = before.log ++ requests.map fun request => (openSocket before, request)

theorem handles_quietly (sockets : after.sockets = before.sockets)
    (timers : after.timers = before.timers) (log : after.log = before.log) :
    Handles [] before after :=
  ⟨sockets, timers, by rw [log, List.map_nil, List.append_nil]⟩

theorem Handles.trans (one : Handles requests before middle) (two : Handles more middle after) :
    Handles (requests ++ more) before after := by
  have same : openSocket middle = openSocket before := by rw [openSocket, openSocket, one.sockets]
  refine ⟨two.sockets.trans one.sockets, two.timers.trans one.timers, ?_⟩
  rw [two.log, one.log, same, List.map_append, List.append_assoc]

theorem Handles.beside (one : Handles requests before middle)
    (sockets : after.sockets = middle.sockets) (timers : after.timers = middle.timers)
    (log : after.log = middle.log) : Handles requests before after :=
  ⟨sockets.trans one.sockets, timers.trans one.timers, log.trans one.log⟩

theorem handles_send (screen : State) (request : Sent) :
    Handles [request] screen (send screen request) :=
  ⟨rfl, rfl, rfl⟩

theorem handles_send_all (screen : State) (requests : List Sent) :
    Handles requests screen (sendAll screen requests) := by
  induction requests generalizing screen with
  | nil => exact handles_quietly rfl rfl rfl
  | cons request rest induction => exact (handles_send screen request).trans (induction _)

theorem handles_set_active (screen : State) (id : String) :
    Handles ((Browser.setActive screen.page id).2.map .talk) screen (setActive screen id) := by
  have opened : Handles [] screen { screen with page := (Browser.setActive screen.page id).1 } :=
    handles_quietly rfl rfl rfl
  exact (opened.trans (handles_send_all _ _)).beside rfl rfl rfl

theorem handles_ready (screen : State) (brandTitle : String) (soundDefault : Bool) (limit : Int) :
    Handles [] screen (ready screen brandTitle soundDefault limit) := by
  unfold ready
  dsimp only
  split_ifs
  · exact handles_quietly rfl rfl rfl
  · split
    all_goals exact handles_quietly rfl rfl rfl

theorem handles_frame (screen : State) (frame : Frame) :
    Handles ((Browser.handleFrame screen.page frame).2.map .talk) screen
      (handleFrame screen frame) := by
  cases frame with
  | ready _ _ brandTitle soundDefault _ limit =>
      exact handles_ready screen brandTitle soundDefault limit
  | mucJoined room nick subject =>
      cases room with
      | str room =>
          have handled : Browser.handleFrame screen.page (.mucJoined (.str room) nick subject) =
              joined screen.page room := rfl
          rw [handled, joined_eq]
          simp only [handleFrame]
          split_ifs
          · have named : Handles [] screen { screen with page := entered screen.page room } :=
              handles_quietly rfl rfl rfl
            exact named.trans
              (handles_set_active { screen with page := entered screen.page room } room)
          · exact handles_quietly rfl rfl rfl
      | _ => exact handles_quietly rfl rfl rfl
  | message message =>
      have quiet : (Browser.handleFrame screen.page (.message message)).2 = [] := by
        unfold Browser.handleFrame
        dsimp only
        split
        all_goals rfl
      rw [quiet]
      exact handles_quietly rfl rfl rfl
  | history conversation messages complete =>
      cases conversation with
      | _ => exact handles_quietly rfl rfl rfl
  | mucLeft room =>
      cases room with
      | _ => exact handles_quietly rfl rfl rfl
  | mucOccupants room occupants =>
      cases room with
      | _ => exact handles_quietly rfl rfl rfl
  | error context message conversation =>
      have quiet : (Browser.handleFrame screen.page (.error context message conversation)).2 = [] := by
        rcases conversation with _ | conversation
        · rfl
        · cases conversation with
          | str id =>
              simp only [Browser.handleFrame]
              split_ifs
              all_goals rfl
          | _ => rfl
      rw [quiet]
      exact handles_quietly rfl rfl rfl
  | _ => exact handles_quietly rfl rfl rfl

theorem handles_act {gesture : Gesture} (done : Acts before gesture after) :
    Handles (asks before (.gesture gesture)) before after := by
  cases done with
  | opens => exact handles_set_active before _
  | cancels nothing =>
      have quiet : Handles [] before before := handles_quietly rfl rfl rfl
      rcases nothing with rfl | rfl
      · exact quiet
      · exact quiet
  | @adds typed filled =>
      have added := (handles_send before (.addContact (trim typed))).trans
        (handles_set_active _ (trim typed))
      simp only [asks, if_neg filled]
      exact added
  | @removes jid => exact (handles_send before (.removeContact jid)).beside rfl rfl rfl
  | leaves => exact handles_send before _
  | @accepts jid shown =>
      have answered : Handles [.subscription jid true] before
          { send before (.subscription jid true) with banner := none } :=
        (handles_send before _).beside rfl rfl rfl
      simp only [asks, shown]
      exact answered.trans (handles_send _ (.addContact jid))
  | @declines jid shown =>
      simp only [asks, shown]
      exact (handles_send before (.subscription jid false)).beside rfl rfl rfl
  | @selects shown => exact (handles_send before (.setPresence shown)).beside rfl rfl rfl
  | browses => exact (handles_send before .discoServers).beside rfl rfl rfl
  | dismisses => exact handles_quietly rfl rfl rfl
  | @joins room => exact (handles_send before (.joinRoom room)).beside rfl rfl rfl
  | edits => exact handles_quietly rfl rfl rfl
  | submitsNothing nothing =>
      simp only [asks, nothing]
      exact handles_quietly rfl rfl rfl
  | @submits request _ _ asked =>
      simp only [asks, asked]
      exact (handles_send before (.talk request)).beside rfl rfl rfl
  | loadsOlder => exact handles_send_all before _
  | focuses => exact handles_quietly rfl rfl rfl
  | focusesNothing => exact handles_quietly rfl rfl rfl
  | hides => exact handles_quietly rfl rfl rfl
  | sounds => exact handles_quietly rfl rfl rfl

inductive Fires (screen : State) : Action → State → Prop
  | handles {action : Action} {next : State} (work : Handles (asks screen action) screen next)
      (here : ∀ socket frame, action = .frame socket frame →
        screen.sockets[socket]? = some .opened) : Fires screen action next
  | opens {socket : Nat} (waits : screen.sockets[socket]? = some .connecting) :
      Fires screen (.opens socket) { screen with sockets := screen.sockets.set socket .opened }
  | shuts {socket : Nat} (opened : screen.sockets[socket]? = some .opened) :
      Fires screen (.shuts socket) { screen with sockets := screen.sockets.set socket .closing }
  | closes {socket : Nat} {state : ReadyState} (found : screen.sockets[socket]? = some state)
      (alive : state ≠ .closed) : Fires screen (.closes socket) (onClose screen socket)
  | timer (pending : 0 < screen.timers) :
      Fires screen .timer (connect { screen with timers := screen.timers - 1 })

theorem fires_of_step {action : Action} (fired : step before action = some after) :
    Fires before action after := by
  cases action with
  | gesture gesture => exact .handles (handles_act (acts_of_act fired)) (by simp)
  | frame socket frame =>
      obtain ⟨opened, same⟩ := Option.ite_none_right_eq_some.mp fired
      cases same
      refine .handles (handles_frame before frame) ?_
      intro other _ same
      cases same
      exact opened
  | opens socket =>
      obtain ⟨waits, same⟩ := Option.ite_none_right_eq_some.mp fired
      cases same
      exact .opens waits
  | shuts socket =>
      obtain ⟨opened, same⟩ := Option.ite_none_right_eq_some.mp fired
      cases same
      exact .shuts opened
  | closes socket =>
      simp only [step] at fired
      split at fired
      · cases fired
      · cases fired
      · next alive =>
          cases found : before.sockets[socket]? with
          | none => exact absurd found ‹_›
          | some state =>
              cases fired
              refine .closes found ?_
              rintro rfl
              exact absurd found ‹_›
  | timer =>
      obtain ⟨pending, same⟩ := Option.ite_none_right_eq_some.mp fired
      cases same
      exact .timer pending
  | stores preference =>
      cases fired
      exact .handles (handles_quietly rfl rfl rfl) (by simp)

/-- All sockets but the newest are closed, and a timer is pending only while that one is
closed as well. -/
def InTurn (screen : State) : Prop :=
  ∃ older newest, screen.sockets = older ++ [newest] ∧ (∀ socket ∈ older, socket = .closed) ∧
    screen.timers = if newest = .closed then 1 else 0

theorem newest_of_alive {older : List ReadyState} {newest state : ReadyState} {socket : Nat}
    (closed : ∀ socket ∈ older, socket = .closed) (alive : state ≠ .closed)
    (found : (older ++ [newest])[socket]? = some state) :
    socket = older.length ∧ state = newest := by
  rcases Nat.lt_trichotomy socket older.length with earlier | same | later
  · rw [List.getElem?_append_left earlier] at found
    exact absurd (closed state (List.mem_of_getElem? found)) alive
  · rw [same, List.getElem?_concat_length] at found
    exact ⟨same, (Option.some.inj found).symm⟩
  · rw [List.getElem?_eq_none (by simp; omega)] at found
    cases found

theorem in_turn_of_newest {older : List ReadyState} {newest : ReadyState}
    (sockets : before.sockets = older ++ [newest]) (closed : ∀ socket ∈ older, socket = .closed)
    {state : ReadyState} (now : after.sockets = before.sockets.set older.length state)
    (timers : after.timers = if state = .closed then 1 else 0) : InTurn after := by
  refine ⟨older, state, ?_, closed, timers⟩
  rw [now, sockets, List.set_append_right _ _ (Nat.le_refl _), Nat.sub_self, List.set_cons_zero]

theorem in_turn_step {action : Action} (turn : InTurn before)
    (fired : step before action = some after) : InTurn after := by
  obtain ⟨older, newest, sockets, closed, timers⟩ := turn
  cases fires_of_step fired with
  | handles work =>
      exact ⟨older, newest, work.sockets.trans sockets, closed, work.timers.trans timers⟩
  | opens waits =>
      rw [sockets] at waits
      obtain ⟨rfl, rfl⟩ := newest_of_alive closed (by simp) waits
      exact in_turn_of_newest sockets closed rfl (by simpa using timers)
  | shuts opened =>
      rw [sockets] at opened
      obtain ⟨rfl, rfl⟩ := newest_of_alive closed (by simp) opened
      exact in_turn_of_newest sockets closed rfl (by simpa using timers)
  | closes found alive =>
      rw [sockets] at found
      obtain ⟨rfl, rfl⟩ := newest_of_alive closed alive found
      refine in_turn_of_newest sockets closed rfl ?_
      simp [onClose, timers, alive]
  | timer pending =>
      have last : newest = .closed := by
        by_contra alive
        simp [timers, alive] at pending
      refine ⟨older ++ [newest], .connecting, ?_, ?_, ?_⟩
      · rw [← sockets]
        rfl
      · intro socket among
        rcases List.mem_append.mp among with early | same
        · exact closed socket early
        · exact (List.mem_singleton.mp same).trans last
      · simp [connect, timers, last]

def uses (screen : State) (action : Action) : List Nat :=
  (match action with
    | .frame socket _ => [socket]
    | _ => []) ++ (asks screen action).filterMap fun _ => openSocket screen

theorem uses_newest {action : Action} (turn : InTurn before)
    (fired : step before action = some after) :
    ∀ socket ∈ uses before action, socket + 1 = before.sockets.length := by
  obtain ⟨older, newest, sockets, closed, _⟩ := turn
  intro socket among
  rcases List.mem_append.mp among with delivers | sends
  · cases action with
    | frame other frame =>
        cases List.mem_singleton.mp delivers
        obtain ⟨opened, _⟩ := Option.ite_none_right_eq_some.mp fired
        rw [sockets] at opened ⊢
        obtain ⟨rfl, _⟩ := newest_of_alive closed (by simp) opened
        simp
    | _ => cases delivers
  · obtain ⟨_, _, here⟩ := List.mem_filterMap.mp sends
    obtain ⟨_, same⟩ := Option.ite_none_right_eq_some.mp here
    cases same
    rw [sockets, List.length_append, List.length_singleton]
    rfl

theorem more_sockets {action : Action} (fired : step before action = some after) :
    before.sockets.length ≤ after.sockets.length := by
  cases fires_of_step fired with
  | handles work => rw [work.sockets]
  | opens => exact (List.length_set ..).ge
  | shuts => exact (List.length_set ..).ge
  | closes => exact (List.length_set ..).ge
  | timer => exact (List.length_append ..).ge.trans' (Nat.le_add_right _ _)

/-- In every run of a tab at most one of its sockets is not closed, there is either such a
socket or one timer that will open the next, and the sockets are used one after the other:
once a frame has come or gone on one, none comes or goes on an older one. -/
theorem sockets_in_turn (preference : Option String) (actions : List Action) (screen : State)
    (run : replay step (start preference) actions = some screen) :
    InTurn screen ∧ (collect step uses (start preference) actions).Pairwise (· ≤ ·) := by
  have holds := @collect_invariant _ _ _ step uses
    (fun screen used => InTurn screen ∧ used.Pairwise (· ≤ ·) ∧
      ∀ socket ∈ used, socket + 1 ≤ screen.sockets.length) ?_
    (start preference) screen actions [] ⟨⟨[], .connecting, rfl, by simp, rfl⟩, .nil, by simp⟩ run
  · exact ⟨holds.1, holds.2.1⟩
  · rintro screen action next used ⟨turn, sorted, bounded⟩ fired
    have newest := uses_newest turn fired
    have grows := more_sockets fired
    refine ⟨in_turn_step turn fired, ?_, ?_⟩
    · apply List.pairwise_append.mpr
      refine ⟨sorted, ?_, ?_⟩
      · apply List.pairwise_of_forall_mem_list
        intro one here other there
        have := newest one here
        have := newest other there
        omega
      · intro one here other there
        have := bounded one here
        have := newest other there
        omega
    · intro socket among
      rcases List.mem_append.mp among with early | late
      · exact (bounded socket early).trans grows
      · exact (newest socket late).le.trans grows

/-- A room is opened on the first socket, which then closes; the second carries an alert. -/
def reconnects : List Action :=
  [.opens 0, .frame 0 (.ready "alice@example.com" "alice" "" true [] 1000),
    .frame 0 (.mucJoined (.str "team@rooms.example.org") (.str "alice") none), .closes 0, .timer,
    .opens 1, .frame 1 (.ready "alice@example.com" "alice" "" true [] 1000), .gesture .browses,
    .shuts 1]

def reconnected : State := (replay step (start none) reconnects).getD (start none)

theorem reconnects_in_turn : InTurn reconnected ∧
    (collect step uses (start none) reconnects).Pairwise (· ≤ ·) :=
  sockets_in_turn none reconnects reconnected rfl

end Traffic

end PyConduit.Screen
