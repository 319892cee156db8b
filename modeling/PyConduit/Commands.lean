import PyConduit.History
import PyConduit.Replay
import PyConduit.Text

/-!
# The commands of a tab

The methods `_cmd_*` of `Account`. A command validates the frame, may reply at
once, and otherwise awaits one operation of the XMPP client and goes on with its
result: a plan is what the command does up to that point, with the rest as a
function of the result and of the time. `lower` is `str.lower`, `repr` Python's
`repr` of a string.
-/

namespace PyConduit.Commands

open Protocol Replay

set_option autoImplicit false

/-- The settings the session layer reads, with their defaults. -/
structure Config where
  brandTitle : String := "PyConduit"
  maxMessageChars : Int := 1000
  discoveryServers : List String := ["conference.example.com"]
  pageSize : Int := 50
  soundEnabledDefault : Bool := true

structure Env where
  jid : String
  config : Config
  lower : String → String
  repr : String → String

inductive PyException
  | protocolError (error : ProtocolError)
  | typeError
  | attributeError
  | clientError (text : String)
  deriving DecidableEq

/-- The calls of the client a command may await. The calls of `disco_rooms` that
are gathered count as one. -/
inductive Operation
  | sendMessage (toJid body : Json)
  | fetchHistory (peer before : Json) (limit : Int)
  | setPresence (shown status : Json)
  | addContact (jid name : Json)
  | removeContact (jid : Json)
  | respondSubscription (jid : Json) (accept : Bool)
  | joinRoom (room nick : Json)
  | leaveRoom (room : Json)
  | sendMuc (room body : Json)
  | discoRooms (servers : List String)

/-- What an operation returns; `gather` returns exceptions among the results. -/
def Operation.Value : Operation → Type
  | .sendMessage _ _ => String
  | .fetchHistory _ _ _ => List History.ArchivedMessage × Bool
  | .sendMuc _ _ => String
  | .discoRooms _ => List (Except String ServerRooms)
  | _ => Unit

inductive Finish
  | done
  | reply (frame : Frame)
  | broadcast (frame : Frame)
  | raise (exception : PyException)

def Finish.frame : Finish → Option Frame
  | .reply frame => some frame
  | .broadcast frame => some frame
  | _ => none

inductive Plan
  | finish (finish : Finish)
  | call (operation : Operation) (resume : Except String operation.Value → String → Finish)

/-- The ending of a command that neither catches nor uses the result. -/
def unguarded {Value : Type} (returned : Value → String → Finish)
    (result : Except String Value) (now : String) : Finish :=
  match result with
  | .ok value => returned value now
  | .error text => .raise (.clientError text)

def required (env : Env) (message : ClientMessage) (fields : List String) :
    Except PyException Unit :=
  (message.require env.repr fields).mapError .protocolError

/-- `_too_long`; `len` is only taken when there is a limit. -/
def tooLong (env : Env) (body conversation : Json) : Except PyException (Option Frame) :=
  let limit := env.config.maxMessageChars
  if limit = 0 then .ok none
  else
    match body.len with
    | none => .error .typeError
    | some length =>
        if limit < length then
          .ok (some (.error "delivery" s!"Message too long ({length}/{limit} characters)."
            (some conversation)))
        else .ok none

def cmdSendMessage (env : Env) (caches : Caches) (message : ClientMessage) :
    Except PyException (Caches × Plan) := do
  required env message ["to", "body"]
  let toJid := message.get "to"
  let body := message.get "body"
  match ← tooLong env body toJid with
  | some frame => return (caches, .finish (.reply frame))
  | none =>
      return (caches, .call (.sendMessage toJid body) fun result now =>
        match result with
        | .ok msgId =>
            .broadcast (.message ⟨toJid, .str env.jid, toJid, body, msgId, now, .outgoing⟩)
        | .error text =>
            .reply (.error "delivery" s!"Could not send message: {text}" (some toJid)))

def historyMessage (env : Env) (peer : Json) (message : History.ArchivedMessage) : ChatMessage where
  conversation := peer
  fromJid := .str message.fromJid
  toJid := .str message.toJid
  body := .str message.body
  msgId := message.msgId
  timestamp := message.timestamp
  direction := if message.fromJid = env.jid then .outgoing else .incoming

def cmdLoadHistory (env : Env) (caches : Caches) (message : ClientMessage) :
    Except PyException (Caches × Plan) := do
  required env message ["jid"]
  let peer := message.get "jid"
  return (caches, .call (.fetchHistory peer (message.get "before") env.config.pageSize)
    (unguarded fun page _ => .reply (.history peer (page.1.map (historyMessage env peer)) page.2)))

def cmdSetPresence (_ : Env) (caches : Caches) (message : ClientMessage) :
    Except PyException (Caches × Plan) :=
  let shown := (message.data.lookup "show").getD (.str "online")
  .ok (caches, .call (.setPresence shown (message.get "status")) (unguarded fun _ _ => .done))

def cmdAddContact (env : Env) (caches : Caches) (message : ClientMessage) :
    Except PyException (Caches × Plan) := do
  required env message ["jid"]
  return (caches, .call (.addContact (message.get "jid") (message.get "name"))
    (unguarded fun _ _ => .done))

def cmdRemoveContact (env : Env) (caches : Caches) (message : ClientMessage) :
    Except PyException (Caches × Plan) := do
  required env message ["jid"]
  return (caches, .call (.removeContact (message.get "jid")) (unguarded fun _ _ => .done))

def accepts : Json → Bool
  | .str text => text = "accept"
  | _ => false

def cmdSubscription (env : Env) (caches : Caches) (message : ClientMessage) :
    Except PyException (Caches × Plan) := do
  required env message ["jid", "action"]
  return (caches,
    .call (.respondSubscription (message.get "jid") (accepts (message.get "action")))
      (unguarded fun _ _ => .done))

/-- The domain `_room_domain_allowed` reads off a room, before lower-casing. -/
def checkedDomain (room : String) : String := Text.before '/' (Text.after '@' room)

/-- `_room_domain_allowed`; only text has a `split`. -/
def roomDomainAllowed (env : Env) (room : Json) : Except PyException Bool :=
  if env.config.discoveryServers = [] then .ok true
  else
    match room with
    | .str text =>
        .ok (decide (env.lower (checkedDomain text) ∈ env.config.discoveryServers.map env.lower))
    | _ => .error .attributeError

/-- The nick asked for, or the local part of the account. -/
def roomNick (env : Env) (message : ClientMessage) : Json :=
  let nick := message.get "nick"
  if nick.truthy then nick else .str (Text.before '@' env.jid)

def textOf : Json → String
  | .str text => text
  | _ => ""

def cmdJoinRoom (env : Env) (caches : Caches) (message : ClientMessage) :
    Except PyException (Caches × Plan) := do
  required env message ["room"]
  let room := message.get "room"
  if ← roomDomainAllowed env room then
    match room.key with
    | none => throw .typeError
    | some key =>
        return (joinRoom caches key (roomNick env message),
          .call (.joinRoom room (roomNick env message)) (unguarded fun _ _ => .done))
  else
    -- a room that is refused is text
    return (caches, .finish (.reply (.error "muc" s!"Room server not allowed: {textOf room}" none)))

/-- The removal from both tables. An empty dictionary does not hash the key it is
asked to pop. -/
def popRoom (caches : Caches) (room : Json) : Except PyException Caches :=
  match room.key with
  | some key => .ok (leaveRoom caches key)
  | none =>
      if caches.joinedRooms.size = 0 ∧ caches.mucOccupants.size = 0 then .ok caches
      else .error .typeError

def cmdLeaveRoom (env : Env) (caches : Caches) (message : ClientMessage) :
    Except PyException (Caches × Plan) := do
  required env message ["room"]
  let room := message.get "room"
  let remaining ← popRoom caches room
  return (remaining, .call (.leaveRoom room) (unguarded fun _ _ => .broadcast (.mucLeft room)))

def cmdSendMuc (env : Env) (caches : Caches) (message : ClientMessage) :
    Except PyException (Caches × Plan) := do
  required env message ["room", "body"]
  let room := message.get "room"
  let body := message.get "body"
  match ← tooLong env body room with
  | some frame => return (caches, .finish (.reply frame))
  | none =>
      return (caches, .call (.sendMuc room body) fun result _ =>
        match result with
        | .ok _ => .done
        | .error text =>
            .reply (.error "delivery" s!"Could not send to room: {text}" (some room)))

def serverEntry (env : Env) (server : String) : Except String ServerRooms → ServerRooms
  | .ok found =>
      ⟨server, found.online,
        found.rooms.mergeSort fun first second => env.lower first.name ≤ env.lower second.name⟩
  | .error _ => ⟨server, false, []⟩

def cmdDiscoServers (env : Env) (caches : Caches) (_ : ClientMessage) :
    Except PyException (Caches × Plan) :=
  let servers := env.config.discoveryServers
  .ok (caches, .call (.discoRooms servers) (unguarded fun results _ =>
    .reply (.discoServers ((List.zipWith (serverEntry env) servers results).mergeSort
      fun first second => env.lower first.server ≤ env.lower second.server))))

/-- `handle_command`. Every recognized type has its method, so the reply to an
unknown command is never sent. -/
def handleCommand (env : Env) (caches : Caches) (message : ClientMessage) :
    Except PyException (Caches × Plan) :=
  match message.type with
  | .sendMessage => cmdSendMessage env caches message
  | .loadHistory => cmdLoadHistory env caches message
  | .setPresence => cmdSetPresence env caches message
  | .joinRoom => cmdJoinRoom env caches message
  | .leaveRoom => cmdLeaveRoom env caches message
  | .sendMuc => cmdSendMuc env caches message
  | .addContact => cmdAddContact env caches message
  | .removeContact => cmdRemoveContact env caches message
  | .subscription => cmdSubscription env caches message
  | .discoServers => cmdDiscoServers env caches message

def Operation.joins : Operation → Bool
  | .joinRoom _ _ => true
  | _ => false

def Plan.joins : Plan → Bool
  | .finish _ => false
  | .call operation _ => operation.joins

/-- The inversion of `handle_command`: what a command does to the caches, and
which plan asks the client to join a room. -/
inductive Handles (env : Env) (caches : Caches) (message : ClientMessage) :
    Caches × Plan → Prop
  | keeps {plan : Plan} (other : plan.joins = false) : Handles env caches message (caches, plan)
  | joins {key : Key} {nick : Json} {resume : Except String Unit → String → Finish}
      (type : message.type = .joinRoom)
      (allowed : roomDomainAllowed env (message.get "room") = .ok true)
      (hashed : (message.get "room").key = some key) :
      Handles env caches message
        (joinRoom caches key nick, .call (.joinRoom (message.get "room") nick) resume)
  | leaves {plan : Plan} {key : Key} (other : plan.joins = false) :
      Handles env caches message (leaveRoom caches key, plan)

theorem ok_of_bind {Value Result : Type} {first : Except PyException Value}
    {rest : Value → Except PyException Result} {result : Result}
    (done : (first >>= rest) = .ok result) :
    ∃ value, first = .ok value ∧ rest value = .ok result := by
  cases first with
  | error exception => cases done
  | ok value => exact ⟨value, rfl, done⟩

theorem required_then_ok_iff {Result : Type} (env : Env) (message : ClientMessage)
    (fields : List String) (rest : Except PyException Result) (result : Result) :
    (required env message fields >>= fun _ => rest) = .ok result ↔
      (∀ field ∈ fields, ClientMessage.missing (message.get field) = false) ∧
        rest = .ok result := by
  rw [required, ClientMessage.require_spec]
  cases found : fields.find? fun field => ClientMessage.missing (message.get field) with
  | none =>
      have present : ∀ field ∈ fields, ClientMessage.missing (message.get field) = false := by
        simpa using found
      exact ⟨fun goesOn => ⟨present, goesOn⟩, fun goesOn => goesOn.2⟩
  | some field =>
      constructor
      · intro goesOn
        cases goesOn
      · rintro ⟨present, _⟩
        have absent := List.find?_some found
        rw [present field (List.mem_of_find?_eq_some found)] at absent
        cases absent

theorem too_long_error {env : Env} {body conversation : Json} {frame : Frame}
    (refused : tooLong env body conversation = .ok (some frame)) :
    ∃ text, frame = .error "delivery" text (some conversation) := by
  unfold tooLong at refused
  dsimp only at refused
  split at refused
  · cases refused
  · split at refused
    · cases refused
    · split at refused
      · cases refused
        exact ⟨_, rfl⟩
      · cases refused

def afterSendMessage (env : Env) (toJid body : Json) (result : Except String String)
    (now : String) : Finish :=
  match result with
  | .ok msgId => .broadcast (.message ⟨toJid, .str env.jid, toJid, body, msgId, now, .outgoing⟩)
  | .error text =>
      .reply (.error "delivery" s!"Could not send message: {text}" (some toJid))

theorem send_message_ok_iff (env : Env) (caches : Caches) (message : ClientMessage)
    (outcome : Caches × Plan) :
    cmdSendMessage env caches message = .ok outcome ↔
      (∀ field ∈ ["to", "body"], ClientMessage.missing (message.get field) = false) ∧
        ((∃ frame, tooLong env (message.get "body") (message.get "to") = .ok (some frame) ∧
            outcome = (caches, .finish (.reply frame))) ∨
          tooLong env (message.get "body") (message.get "to") = .ok none ∧
            outcome = (caches, .call (.sendMessage (message.get "to") (message.get "body"))
              (afterSendMessage env (message.get "to") (message.get "body")))) := by
  apply (required_then_ok_iff env message ["to", "body"] _ outcome).trans
  apply and_congr_right
  intro _
  dsimp only
  cases checked : tooLong env (message.get "body") (message.get "to") with
  | error exception =>
      constructor
      · intro handled
        cases handled
      · rintro (⟨_, passed, _⟩ | ⟨passed, _⟩)
        all_goals cases passed
  | ok verdict =>
      cases verdict with
      | some frame =>
          constructor
          · intro handled
            cases handled
            exact Or.inl ⟨frame, rfl, rfl⟩
          · rintro (⟨other, passed, rfl⟩ | ⟨passed, _⟩)
            · cases passed
              rfl
            · cases passed
      | none =>
          constructor
          · intro handled
            cases handled
            refine Or.inr ⟨rfl, ?_⟩
            congr
            funext result now
            cases result
            all_goals rfl
          · rintro (⟨_, passed, _⟩ | ⟨_, rfl⟩)
            · cases passed
            · change Except.ok _ = Except.ok _
              congr
              funext result now
              cases result
              all_goals rfl

def afterLoadHistory (env : Env) (peer : Json) :
    Except String (List History.ArchivedMessage × Bool) → String → Finish :=
  unguarded fun page _ => .reply (.history peer (page.1.map (historyMessage env peer)) page.2)

theorem load_history_ok_iff (env : Env) (caches : Caches) (message : ClientMessage)
    (outcome : Caches × Plan) :
    cmdLoadHistory env caches message = .ok outcome ↔
      (∀ field ∈ ["jid"], ClientMessage.missing (message.get field) = false) ∧
        outcome = (caches,
          .call (.fetchHistory (message.get "jid") (message.get "before") env.config.pageSize)
            (afterLoadHistory env (message.get "jid"))) := by
  apply (required_then_ok_iff env message ["jid"] _ outcome).trans
  apply and_congr_right
  intro _
  constructor
  · intro handled
    cases handled
    rfl
  · rintro rfl
    rfl

def afterSendMuc (room : Json) (result : Except String String) (_ : String) : Finish :=
  match result with
  | .ok _ => .done
  | .error text => .reply (.error "delivery" s!"Could not send to room: {text}" (some room))

inductive Ran (env : Env) (caches : Caches) (message : ClientMessage) : Caches × Plan → Prop
  | tooLong {conversation : Json} {text : String}
      (type : message.type = .sendMessage ∧ conversation = message.get "to" ∨
        message.type = .sendMuc ∧ conversation = message.get "room") :
      Ran env caches message
        (caches, .finish (.reply (.error "delivery" text (some conversation))))
  | sendMessage (type : message.type = .sendMessage) :
      Ran env caches message
        (caches, .call (.sendMessage (message.get "to") (message.get "body"))
          (afterSendMessage env (message.get "to") (message.get "body")))
  | loadHistory (type : message.type = .loadHistory) :
      Ran env caches message
        (caches, .call (.fetchHistory (message.get "jid") (message.get "before")
          env.config.pageSize) (afterLoadHistory env (message.get "jid")))
  | setPresence {shown status : Json} (type : message.type = .setPresence) :
      Ran env caches message
        (caches, .call (.setPresence shown status) (unguarded fun _ _ => .done))
  | addContact {jid name : Json} (type : message.type = .addContact) :
      Ran env caches message (caches, .call (.addContact jid name) (unguarded fun _ _ => .done))
  | removeContact {jid : Json} (type : message.type = .removeContact) :
      Ran env caches message (caches, .call (.removeContact jid) (unguarded fun _ _ => .done))
  | subscription {jid : Json} {accept : Bool} (type : message.type = .subscription) :
      Ran env caches message
        (caches, .call (.respondSubscription jid accept) (unguarded fun _ _ => .done))
  | notAllowed {text : String} (type : message.type = .joinRoom) :
      Ran env caches message (caches, .finish (.reply (.error "muc" text none)))
  | joinRoom {key : Key} (type : message.type = .joinRoom)
      (allowed : roomDomainAllowed env (message.get "room") = .ok true)
      (hashed : (message.get "room").key = some key) :
      Ran env caches message
        (joinRoom caches key (roomNick env message),
          .call (.joinRoom (message.get "room") (roomNick env message))
            (unguarded fun _ _ => .done))
  | leaveRoom {remaining : Caches} (type : message.type = .leaveRoom)
      (popped : popRoom caches (message.get "room") = .ok remaining) :
      Ran env caches message
        (remaining, .call (.leaveRoom (message.get "room"))
          (unguarded fun _ _ => .broadcast (.mucLeft (message.get "room"))))
  | sendMuc (type : message.type = .sendMuc) :
      Ran env caches message
        (caches, .call (.sendMuc (message.get "room") (message.get "body"))
          (afterSendMuc (message.get "room")))
  | discoServers (type : message.type = .discoServers) :
      Ran env caches message
        (caches, .call (.discoRooms env.config.discoveryServers) (unguarded fun results _ =>
          .reply (.discoServers ((List.zipWith (serverEntry env) env.config.discoveryServers
            results).mergeSort fun first second => env.lower first.server ≤ env.lower second.server))))

theorem ran_of_command {env : Env} {caches : Caches} {message : ClientMessage}
    {outcome : Caches × Plan} (handled : handleCommand env caches message = .ok outcome) :
    Ran env caches message outcome := by
  unfold handleCommand at handled
  cases kind : message.type with
  | sendMessage =>
      rw [kind] at handled
      obtain ⟨_, ⟨frame, long, rfl⟩ | ⟨_, rfl⟩⟩ := (send_message_ok_iff ..).mp handled
      · obtain ⟨text, rfl⟩ := too_long_error long
        exact .tooLong (Or.inl ⟨kind, rfl⟩)
      · exact .sendMessage kind
  | sendMuc =>
      rw [kind] at handled
      obtain ⟨_, _, checked⟩ := ok_of_bind handled
      obtain ⟨verdict, long, rest⟩ := ok_of_bind checked
      cases verdict with
      | some frame =>
          obtain ⟨text, rfl⟩ := too_long_error long
          cases rest
          exact .tooLong (Or.inr ⟨kind, rfl⟩)
      | none =>
          cases rest
          refine Eq.mp (congrArg (Ran env caches message) ?_) (.sendMuc kind)
          congr
          funext result now
          cases result
          all_goals rfl
  | joinRoom =>
      rw [kind] at handled
      obtain ⟨_, _, checked⟩ := ok_of_bind handled
      obtain ⟨allowed, checks, rest⟩ := ok_of_bind checked
      cases allowed with
      | false =>
          cases rest
          exact .notAllowed kind
      | true =>
          cases hashed : (message.get "room").key with
          | none =>
              rw [if_pos rfl, hashed] at rest
              cases rest
          | some key =>
              rw [if_pos rfl, hashed] at rest
              cases rest
              exact .joinRoom kind checks hashed
  | leaveRoom =>
      rw [kind] at handled
      obtain ⟨_, _, checked⟩ := ok_of_bind handled
      obtain ⟨remaining, popped, rest⟩ := ok_of_bind checked
      cases rest
      exact .leaveRoom kind popped
  | setPresence =>
      rw [kind] at handled
      cases handled
      exact .setPresence kind
  | discoServers =>
      rw [kind] at handled
      cases handled
      exact .discoServers kind
  | loadHistory =>
      rw [kind] at handled
      obtain ⟨_, rfl⟩ := (load_history_ok_iff ..).mp handled
      exact .loadHistory kind
  | addContact =>
      rw [kind] at handled
      obtain ⟨_, _, rest⟩ := ok_of_bind handled
      cases rest
      exact .addContact kind
  | removeContact =>
      rw [kind] at handled
      obtain ⟨_, _, rest⟩ := ok_of_bind handled
      cases rest
      exact .removeContact kind
  | subscription =>
      rw [kind] at handled
      obtain ⟨_, _, rest⟩ := ok_of_bind handled
      cases rest
      exact .subscription kind

theorem handles_of_command {env : Env} {caches : Caches} {message : ClientMessage}
    {outcome : Caches × Plan} (handled : handleCommand env caches message = .ok outcome) :
    Handles env caches message outcome := by
  cases ran_of_command handled with
  | joinRoom type allowed hashed => exact .joins type allowed hashed
  | leaveRoom type popped =>
      unfold popRoom at popped
      split at popped
      · cases popped
        exact .leaves rfl
      · split at popped
        · cases popped
          exact .keeps rfl
        · cases popped
  | _ => exact .keeps rfl

def Operation.command : Operation → ClientType
  | .sendMessage _ _ => .sendMessage
  | .fetchHistory _ _ _ => .loadHistory
  | .setPresence _ _ => .setPresence
  | .addContact _ _ => .addContact
  | .removeContact _ => .removeContact
  | .respondSubscription _ _ => .subscription
  | .joinRoom _ _ => .joinRoom
  | .leaveRoom _ => .leaveRoom
  | .sendMuc _ _ => .sendMuc
  | .discoRooms _ => .discoServers

theorem command_of_call {env : Env} {caches after : Caches} {message : ClientMessage}
    {operation : Operation} {resume : Except String operation.Value → String → Finish}
    (handled : handleCommand env caches message = .ok (after, .call operation resume)) :
    message.type = operation.command := by
  cases ran_of_command handled with
  | _ => assumption

/-- What has been checked when a message is handed to the client, and what is
done with the answer. -/
theorem send_message_of_call {env : Env} {caches after : Caches} {message : ClientMessage}
    {toJid body : Json} {resume : Except String String → String → Finish}
    (handled : handleCommand env caches message =
      .ok (after, .call (.sendMessage toJid body) resume)) :
    after = caches ∧ ClientMessage.missing toJid = false ∧ ClientMessage.missing body = false ∧
      tooLong env body toJid = .ok none ∧ resume = afterSendMessage env toJid body := by
  have type : message.type = .sendMessage := command_of_call handled
  simp only [handleCommand, type, send_message_ok_iff] at handled
  obtain ⟨present, ⟨frame, _, other⟩ | ⟨passed, same⟩⟩ := handled
  · cases other
  · have toPresent := present "to" (by simp)
    have bodyPresent := present "body" (by simp)
    generalize message.get "to" = given at *
    generalize message.get "body" = text at *
    cases same
    exact ⟨rfl, toPresent, bodyPresent, passed, rfl⟩

theorem load_history_of_call {env : Env} {caches after : Caches} {message : ClientMessage}
    {peer before : Json} {limit : Int}
    {resume : Except String (List History.ArchivedMessage × Bool) → String → Finish}
    (handled : handleCommand env caches message =
      .ok (after, .call (.fetchHistory peer before limit) resume)) :
    ClientMessage.missing peer = false ∧ resume = afterLoadHistory env peer := by
  have type : message.type = .loadHistory := command_of_call handled
  simp only [handleCommand, type, load_history_ok_iff] at handled
  obtain ⟨present, same⟩ := handled
  have peerPresent := present "jid" (by simp)
  generalize message.get "jid" = given at *
  cases same
  exact ⟨peerPresent, rfl⟩

/-- What has been assigned when a room is asked for, and how the command ends. -/
theorem join_room_of_call {env : Env} {caches after : Caches} {message : ClientMessage}
    {room nick : Json} {resume : Except String Unit → String → Finish}
    (handled : handleCommand env caches message =
      .ok (after, .call (.joinRoom room nick) resume)) :
    room = message.get "room" ∧ nick = roomNick env message ∧
      (∃ key, room.key = some key ∧ after = joinRoom caches key nick) ∧
        resume = unguarded fun _ _ => .done := by
  cases ran_of_command handled with
  | joinRoom type allowed hashed => exact ⟨rfl, rfl, ⟨_, hashed, rfl⟩, rfl⟩

theorem leave_room_of_call {env : Env} {caches after : Caches} {message : ClientMessage}
    {room : Json} {resume : Except String Unit → String → Finish}
    (handled : handleCommand env caches message = .ok (after, .call (.leaveRoom room) resume)) :
    room = message.get "room" ∧ popRoom caches room = .ok after ∧
      resume = unguarded fun _ _ => .broadcast (.mucLeft room) := by
  cases ran_of_command handled with
  | leaveRoom type popped => exact ⟨rfl, popped, rfl⟩

end PyConduit.Commands
