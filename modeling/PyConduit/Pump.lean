import PyConduit.Commands
import PyConduit.GuardedRun
import PyConduit.Surrogates

/-!
# The pump of the `/ws` handler

`handle_ws` receives one text after another, decodes it, and lets the account
handle it; a ProtocolError is reported to the tab, every other exception ends
the loop, whose `finally` detaches the tab. `loads` is `json.loads`, and none
where it raises. While the socket is connected a frame cannot be sent only where
it cannot be written: a reply then raises, and a broadcast drops its subscribers.
-/

namespace PyConduit.Pump

open Protocol Replay Commands GuardedRun

set_option autoImplicit false

/-- What the client does with each operation while a frame is handled.
`gather(return_exceptions=True)` does not raise; `bare` is `JID(room).bare` of a room that
is joined, and `occupants` what `_emit_occupants` finds there. -/
structure Client where
  perform : (operation : Operation) → Except String operation.Value
  gathers : ∀ servers, ∃ results, perform (.discoRooms servers) = .ok results ∧
    results.length = servers.length
  bare : Json → String
  occupants : String → List Occupant

/-- What an operation hands to the account before it returns: `join_room` announces the room
and who is in it. -/
def Client.events (client : Client) : Operation → List Event
  | .joinRoom room nick =>
      let jid := client.bare room
      [.mucJoined jid nick none, .mucOccupants jid (client.occupants jid)]
  | _ => []

abbrev Returns (client : Client) (operation : Operation) : Prop :=
  (client.perform operation).isOk = true

theorem returns_iff (client : Client) (operation : Operation) :
    Returns client operation ↔ ∃ value, client.perform operation = .ok value := by
  unfold Returns
  cases client.perform operation with
  | error text => simp [Except.isOk, Except.toBool]
  | ok value => simp [Except.isOk, Except.toBool]

/-- What handling one frame comes to. The operation the command awaited is listed
with whether it returned. -/
structure Handled where
  running : Bool
  attached : Bool
  replies : List Frame
  broadcasts : List Frame
  operations : List (Operation × Bool)

section Rounds

variable (sends : Frame → Bool)

/-- `sub.send`, whose exception nothing catches inside the loop. -/
def replied (operations : List (Operation × Bool)) (frame : Frame) : Handled :=
  if sends frame then ⟨true, true, [frame], [], operations⟩ else ⟨false, false, [], [], operations⟩

/-- The two `except` clauses around `handle_command` and around the loop. -/
def raised (operations : List (Operation × Bool)) : PyException → Handled
  | .protocolError error => replied sends operations (.error "protocol" error.message none)
  | _ => ⟨false, false, [], [], operations⟩

/-- The end of a command. `_broadcast` discards each subscriber that it cannot send to. -/
def finished (operations : List (Operation × Bool)) : Finish → Handled
  | .done => ⟨true, true, [], [], operations⟩
  | .reply frame => replied sends operations frame
  | .broadcast frame =>
      ⟨true, sends frame, [], if sends frame then [frame] else [], operations⟩
  | .raise exception => raised sends operations exception

/-- A command behind the events of its operation, each of which is broadcast. -/
def behind (events : List Event) (handled : Handled) : Handled :=
  let frames := events.filterMap eventFrame
  { handled with
    attached := frames.all sends && handled.attached
    broadcasts := frames.takeWhile sends ++ if frames.all sends then handled.broadcasts else [] }

def carryOut (client : Client) (now : String) (caches : Caches) : Plan → Caches × Handled
  | .finish finish => (caches, finished sends [] finish)
  | .call operation resume =>
      match client.perform operation with
      | .ok value =>
          let events := client.events operation
          (events.foldl onEvent caches,
            behind sends events (finished sends [(operation, true)] (resume (.ok value) now)))
      | .error text => (caches, finished sends [(operation, false)] (resume (.error text) now))

def conclude (client : Client) (now : String) (caches : Caches) :
    Except PyException (Caches × Plan) → Caches × Handled
  | .ok (after, plan) => carryOut sends client now after plan
  | .error exception => (caches, raised sends [] exception)

end Rounds

def parseAndHandle (env : Env) (caches : Caches) (raw : Json) :
    Except PyException (Caches × Plan) := do
  let message ← (parseClientMessage env.repr raw).mapError .protocolError
  handleCommand env caches message

theorem parse_and_handle_ok_iff (env : Env) (caches : Caches) (raw : Json)
    (outcome : Caches × Plan) :
    parseAndHandle env caches raw = .ok outcome ↔
      ∃ message, parseClientMessage env.repr raw = .ok message ∧
        handleCommand env caches message = .ok outcome := by
  unfold parseAndHandle
  cases parseClientMessage env.repr raw with
  | error error =>
      constructor
      · intro handled
        cases handled
      · rintro ⟨message, parsed, _⟩
        cases parsed
  | ok found =>
      constructor
      · intro handled
        exact ⟨found, rfl, handled⟩
      · rintro ⟨message, parsed, handled⟩
        cases parsed
        exact handled

theorem handles_of_parse {env : Env} {caches : Caches} {raw : Json} {outcome : Caches × Plan}
    (handled : parseAndHandle env caches raw = .ok outcome) :
    ∃ message, parseClientMessage env.repr raw = .ok message ∧
      Handles env caches message outcome := by
  obtain ⟨message, parsed, command⟩ := (parse_and_handle_ok_iff env caches raw outcome).mp handled
  exact ⟨message, parsed, handles_of_command command⟩

def handleFrame (env : Env) (surrogates : Surrogates env.repr) (loads : String → Option Json)
    (client : Client) (now : String) (caches : Caches) (text : String) : Caches × Handled :=
  match loads text with
  | none => (caches, ⟨false, false, [], [], []⟩)
  | some raw => conclude surrogates.sends client now caches (parseAndHandle env caches raw)

/-- The tab stays attached, and is told when no operation was carried out for
its frame. -/
def Survives (handled : Handled) : Prop :=
  handled.running = true ∧ handled.attached = true ∧
    ((∃ call ∈ handled.operations, call.2 = true) ∨ ∃ frame ∈ handled.replies, frame.isError = true)

def requiredFields : ClientType → List String
  | .sendMessage => ["to", "body"]
  | .loadHistory => ["jid"]
  | .setPresence => []
  | .joinRoom => ["room"]
  | .leaveRoom => ["room"]
  | .sendMuc => ["room", "body"]
  | .addContact => ["jid"]
  | .removeContact => ["jid"]
  | .subscription => ["jid", "action"]
  | .discoServers => []

section Conditions

variable (env : Env) (surrogates : Surrogates env.repr) (client : Client) (now : String)
  (caches : Caches) (message : ClientMessage)

def Measured (body : Json) : Prop := env.config.maxMessageChars = 0 ∨ body.len.isSome = true

/-- The entries of an archived message that a history page shows. -/
def archivedTexts (archived : History.ArchivedMessage) : List String :=
  [archived.fromJid, archived.toJid, archived.body, archived.msgId, archived.timestamp]

/-- `send_message` is refused, or its echo or the error of the client can be written. -/
def SendMessageSafe (toJid body : Json) : Prop :=
  Measured env body ∧ surrogates.writes toJid = true ∧
    (tooLong env body toJid = .ok none →
      match client.perform (.sendMessage toJid body) with
      | .ok msgId => surrogates.writes body = true ∧ surrogates.clean env.jid = true ∧
          surrogates.clean msgId = true ∧ surrogates.clean now = true
      | .error text => surrogates.clean text = true)

/-- `send_muc` echoes nothing. -/
def SendMucSafe (room body : Json) : Prop :=
  Measured env body ∧ (tooLong env body room ≠ .ok none → surrogates.writes room = true) ∧
    (tooLong env body room = .ok none →
      ∀ text, client.perform (.sendMuc room body) = .error text →
        surrogates.clean text = true ∧ surrogates.writes room = true)

def occupantTexts (occupant : Occupant) : List String :=
  [occupant.nick, occupant.role, occupant.jid]

/-- The room and its occupants can be announced; the nick is passed on as it is given. -/
def AnnouncedSafe (room nick : Json) : Prop :=
  let jid := client.bare room
  surrogates.clean jid = true ∧ surrogates.writes nick = true ∧
    ∀ occupant ∈ client.occupants jid, ∀ text ∈ occupantTexts occupant, surrogates.clean text = true

/-- What a command needs in order not to raise and to be answered, once its required
fields are there. -/
def CommandSafe : Prop :=
  match message.type with
  | .sendMessage =>
      SendMessageSafe env surrogates client now (message.get "to") (message.get "body")
  | .sendMuc => SendMucSafe env surrogates client (message.get "room") (message.get "body")
  | .loadHistory =>
      let peer := message.get "jid"
      ∃ page, client.perform (.fetchHistory peer (message.get "before") env.config.pageSize) =
          .ok page ∧
        surrogates.writes peer = true ∧
          ∀ archived ∈ page.1, ∀ text ∈ archivedTexts archived, surrogates.clean text = true
  | .setPresence =>
      Returns client
        (.setPresence ((message.data.lookup "show").getD (.str "online")) (message.get "status"))
  | .addContact => Returns client (.addContact (message.get "jid") (message.get "name"))
  | .removeContact => Returns client (.removeContact (message.get "jid"))
  | .subscription =>
      Returns client
        (.respondSubscription (message.get "jid") (accepts (message.get "action")))
  | .joinRoom =>
      let room := message.get "room"
      (env.config.discoveryServers ≠ [] → room.isText = true) ∧
        (roomDomainAllowed env room = .ok true →
          room.key.isSome = true ∧ Returns client (.joinRoom room (roomNick env message)) ∧
            AnnouncedSafe env surrogates client room (roomNick env message)) ∧
          (roomDomainAllowed env room = .ok false → surrogates.writes room = true)
  | .leaveRoom =>
      let room := message.get "room"
      (room.key.isSome = true ∨ caches.joinedRooms.size = 0 ∧ caches.mucOccupants.size = 0) ∧
        Returns client (.leaveRoom room) ∧ surrogates.writes room = true
  | .discoServers =>
      (∀ server ∈ env.config.discoveryServers, surrogates.clean server = true) ∧
        ∀ results : List (Except String ServerRooms),
          client.perform (.discoRooms env.config.discoveryServers) = .ok results →
            ∀ found, .ok found ∈ results → ∀ room ∈ found.rooms,
              surrogates.clean room.jid = true ∧ surrogates.clean room.name = true

/-- The frame is text that decodes, and a valid message among them is safe. -/
def FrameSafe (loads : String → Option Json) (text : String) : Prop :=
  ∃ raw, loads text = some raw ∧
    ∀ message, parseClientMessage env.repr raw = .ok message →
      (∀ field ∈ requiredFields message.type,
        ClientMessage.missing (message.get field) = false) →
      CommandSafe env surrogates client now caches message

end Conditions

section Endings

variable (sends : Frame → Bool)

theorem survives_done {operations : List (Operation × Bool)}
    (returned : ∃ call ∈ operations, call.2 = true) : Survives (finished sends operations .done) :=
  ⟨rfl, rfl, .inl returned⟩

theorem survives_reply_iff {operations : List (Operation × Bool)} {frame : Frame}
    (answers : (∃ call ∈ operations, call.2 = true) ∨ frame.isError = true) :
    Survives (finished sends operations (.reply frame)) ↔ sends frame = true := by
  simp only [finished, replied]
  constructor
  · intro survives
    by_contra unsent
    rw [if_neg unsent] at survives
    cases survives.1
  · intro sent
    rw [if_pos sent]
    refine ⟨rfl, rfl, answers.imp_right fun error => ?_⟩
    exact ⟨frame, List.mem_singleton_self _, error⟩

theorem survives_broadcast_iff {operations : List (Operation × Bool)} {frame : Frame}
    (returned : ∃ call ∈ operations, call.2 = true) :
    Survives (finished sends operations (.broadcast frame)) ↔ sends frame = true :=
  ⟨fun survives => survives.2.1, fun sent => ⟨rfl, sent, .inl returned⟩⟩

theorem torn_down (exception : PyException)
    (other : ∀ error, exception ≠ .protocolError error) (operations : List (Operation × Bool)) :
    ¬Survives (raised sends operations exception) := by
  intro survives
  cases exception with
  | protocolError error => exact other error rfl
  | typeError => cases survives.1
  | attributeError => cases survives.1
  | clientError text => cases survives.1

variable (client : Client) (now : String) (caches : Caches)

theorem survives_behind_iff (events : List Event) (handled : Handled) :
    Survives (behind sends events handled) ↔
      (events.filterMap eventFrame).all sends = true ∧ Survives handled := by
  simp only [Survives, behind, Bool.and_eq_true, and_assoc]
  exact and_left_comm

@[simp] theorem survives_behind_nothing (handled : Handled) :
    Survives (behind sends [] handled) ↔ Survives handled := by
  rw [survives_behind_iff]
  exact and_iff_right rfl

theorem survives_unguarded_iff (after : Caches) (operation : Operation)
    (returned : operation.Value → String → Finish) :
    Survives (conclude sends client now caches (.ok (after, .call operation (unguarded returned)))).2 ↔
      ∃ value, client.perform operation = .ok value ∧
        ((client.events operation).filterMap eventFrame).all sends = true ∧
          Survives (finished sends [(operation, true)] (returned value now)) := by
  simp only [conclude, carryOut]
  cases client.perform operation with
  | error text =>
      constructor
      · intro survives
        cases survives.1
      · rintro ⟨value, other, _⟩
        cases other
  | ok value =>
      refine (survives_behind_iff sends _ _).trans ?_
      constructor
      · intro survives
        exact ⟨value, rfl, survives⟩
      · rintro ⟨_, same, survives⟩
        cases same
        exact survives

theorem survives_silent_iff (after : Caches) {operation : Operation}
    (silent : client.events operation = []) (returned : operation.Value → String → Finish) :
    Survives (conclude sends client now caches (.ok (after, .call operation (unguarded returned)))).2 ↔
      ∃ value, client.perform operation = .ok value ∧
        Survives (finished sends [(operation, true)] (returned value now)) := by
  rw [survives_unguarded_iff, silent]
  exact exists_congr fun value => and_congr_right fun _ => and_iff_right rfl

theorem survives_done_iff (after : Caches) (operation : Operation) :
    Survives (conclude sends client now caches
      (.ok (after, .call operation (unguarded fun _ _ => .done)))).2 ↔
        Returns client operation ∧
          ((client.events operation).filterMap eventFrame).all sends = true := by
  rw [survives_unguarded_iff, returns_iff]
  constructor
  · rintro ⟨value, returned, sent, _⟩
    exact ⟨⟨value, returned⟩, sent⟩
  · rintro ⟨⟨value, returned⟩, sent⟩
    exact ⟨value, returned, sent, survives_done sends ⟨_, List.mem_singleton_self _, rfl⟩⟩

theorem survives_quiet_iff (after : Caches) {operation : Operation}
    (silent : client.events operation = []) :
    Survives (conclude sends client now caches
      (.ok (after, .call operation (unguarded fun _ _ => .done)))).2 ↔ Returns client operation := by
  rw [survives_done_iff, silent]
  exact and_iff_left rfl

end Endings

/-- The texts of the replies that name a field or a type are ASCII but for what `repr` returns. -/
theorem clean_missing {repr : String → String} (surrogates : Surrogates repr) (type : ClientType)
    (field : String) : surrogates.clean s!"{type.text}: missing field {repr field}" = true := by
  have named : surrogates.clean type.text = true := by
    apply surrogates.clean_of_ascii
    cases type
    all_goals decide
  have words : surrogates.clean ": missing field " = true := surrogates.clean_of_ascii (by decide)
  simp [named, words, toString]

theorem clean_interpolated {repr : String → String} (surrogates : Surrogates repr) {first : String}
    (ascii : ∀ char ∈ first.toList, char.toNat < 0x80) (text : String) :
    surrogates.clean (toString first ++ toString text) = surrogates.clean text := by
  rw [Surrogates.clean_append, toString, instToStringString, surrogates.clean_of_ascii ascii,
    Bool.true_and]

theorem sends_too_long {repr : String → String} (surrogates : Surrogates repr) (length : Nat)
    (limit : Int) (conversation : Json) :
    surrogates.sends (.error "delivery" s!"Message too long ({length}/{limit} characters)."
      (some conversation)) = surrogates.writes conversation := by
  have opening : surrogates.clean "Message too long (" = true := surrogates.clean_of_ascii (by decide)
  have between : surrogates.clean "/" = true := surrogates.clean_of_ascii (by decide)
  have ending : surrogates.clean " characters)." = true := surrogates.clean_of_ascii (by decide)
  rw [surrogates.sends_error (by decide)]
  simp only [Surrogates.clean_append, Surrogates.clean_nat, Surrogates.clean_int]
  simp [toString, opening, between, ending]

theorem sends_failure {repr : String → String} (surrogates : Surrogates repr) {context words : String}
    (ascii : ∀ char ∈ context.toList ++ words.toList, char.toNat < 0x80) (text : String)
    (conversation : Option Json) :
    surrogates.sends (.error context (toString words ++ toString text) conversation) =
      (surrogates.clean text && conversation.all surrogates.writes) := by
  rw [surrogates.sends_error fun char member => ascii char (List.mem_append_left _ member),
    clean_interpolated surrogates fun char member => ascii char (List.mem_append_right _ member)]

theorem refused_is_text {env : Env} {room : Json} (refused : roomDomainAllowed env room = .ok false) :
    ∃ text, room = .str text := by
  unfold roomDomainAllowed at refused
  split at refused
  · cases refused
  · cases room with
    | str text => exact ⟨text, rfl⟩
    | _ => cases refused

section Commands

variable (env : Env) (surrogates : Surrogates env.repr) (client : Client) (now : String)
  (caches : Caches) (message : ClientMessage)

theorem survives_protocol_error {error : ProtocolError}
    (clean : surrogates.clean error.message = true) :
    Survives (conclude surrogates.sends client now caches (.error (.protocolError error))).2 := by
  refine (survives_reply_iff surrogates.sends (.inr rfl)).mpr ?_
  rw [surrogates.sends_error (by decide), clean]
  rfl

/-- A missing field is reported; otherwise the command goes on. -/
theorem survives_required_then (fields : List String)
    {rest : Except PyException (Caches × Plan)} {condition : Prop}
    (goesOn : Survives (conclude surrogates.sends client now caches rest).2 ↔ condition) :
    Survives (conclude surrogates.sends client now caches
      (required env message fields >>= fun _ => rest)).2 ↔
        ((∀ field ∈ fields, ClientMessage.missing (message.get field) = false) → condition) := by
  rw [required, ClientMessage.require_spec, ← goesOn]
  cases found : fields.find? fun field => ClientMessage.missing (message.get field) with
  | none =>
      have present : ∀ field ∈ fields, ClientMessage.missing (message.get field) = false := by
        simpa using found
      exact ⟨fun survives _ => survives, fun survives => survives present⟩
  | some field =>
      constructor
      · intro _ present
        have absent := List.find?_some found
        rw [present field (List.mem_of_find?_eq_some found)] at absent
        cases absent
      · intro _
        exact survives_protocol_error env surrogates client now caches
          (clean_missing surrogates message.type field)

/-- `_too_long` raises where a limit meets a value without a length. -/
theorem too_long_spec (body conversation : Json) :
    (tooLong env body conversation = .error .typeError ∧ ¬Measured env body) ∨
      (Measured env body ∧ ∃ verdict, tooLong env body conversation = .ok verdict ∧
        ∀ frame ∈ verdict, frame.isError = true ∧
          surrogates.sends frame = surrogates.writes conversation) := by
  unfold tooLong Measured
  by_cases unlimited : env.config.maxMessageChars = 0
  · exact Or.inr ⟨Or.inl unlimited, none, by simp [unlimited]⟩
  · cases measured : body.len with
    | none => exact Or.inl (by simp [unlimited])
    | some length =>
        refine Or.inr ⟨Or.inr rfl, ?_⟩
        by_cases long : env.config.maxMessageChars < length
        · refine ⟨_, by simp only [if_neg unlimited, if_pos long]; rfl, ?_⟩
          intro frame member
          cases member
          exact ⟨rfl, sends_too_long surrogates length _ conversation⟩
        · exact ⟨none, by simp only [if_neg unlimited, if_neg long], by simp⟩

theorem survives_guarded_send_iff (after : Caches) (body conversation : Json)
    (operation : Operation) (resume : Except String operation.Value → String → Finish) :
    Survives (conclude surrogates.sends client now caches (do
      match ← tooLong env body conversation with
      | some frame => return (after, .finish (.reply frame))
      | none => return (after, .call operation resume))).2 ↔
      Measured env body ∧
        (tooLong env body conversation ≠ .ok none → surrogates.writes conversation = true) ∧
          (tooLong env body conversation = .ok none →
            Survives (carryOut surrogates.sends client now after (.call operation resume)).2) := by
  rcases too_long_spec env surrogates body conversation with
    ⟨raises, lengthless⟩ | ⟨safe, verdict, passes, error⟩
  · rw [raises]
    constructor
    · intro survives
      exact absurd survives (torn_down surrogates.sends .typeError (by simp) [])
    · intro safe
      exact absurd safe.1 lengthless
  · rw [passes]
    cases verdict with
    | some frame =>
        obtain ⟨isError, sent⟩ := error frame rfl
        refine (survives_reply_iff surrogates.sends (.inr isError)).trans ?_
        rw [sent]
        simp [safe]
    | none => simp [safe]; rfl

theorem send_message_eq : cmdSendMessage env caches message =
    required env message ["to", "body"] >>= fun _ => do
      match ← tooLong env (message.get "body") (message.get "to") with
      | some frame => return (caches, .finish (.reply frame))
      | none => return (caches, .call (.sendMessage (message.get "to") (message.get "body"))
          (afterSendMessage env (message.get "to") (message.get "body"))) := by
  unfold cmdSendMessage
  congr 1
  funext _
  dsimp only
  cases tooLong env (message.get "body") (message.get "to") with
  | error exception => rfl
  | ok verdict =>
      cases verdict with
      | some frame => rfl
      | none =>
          change Except.ok _ = Except.ok _
          congr
          funext result now
          cases result
          all_goals rfl

theorem survives_send_message_iff :
    Survives (conclude surrogates.sends client now caches (cmdSendMessage env caches message)).2 ↔
      ((∀ field ∈ ["to", "body"], ClientMessage.missing (message.get field) = false) →
        SendMessageSafe env surrogates client now (message.get "to") (message.get "body")) := by
  rw [send_message_eq]
  apply survives_required_then
  refine (survives_guarded_send_iff env surrogates client now caches _ _ _ _ _).trans ?_
  generalize message.get "to" = toJid
  generalize message.get "body" = body
  have concluded : Survives (carryOut surrogates.sends client now caches
      (.call (.sendMessage toJid body) (afterSendMessage env toJid body))).2 ↔
      surrogates.writes toJid = true ∧
        match client.perform (.sendMessage toJid body) with
        | .ok msgId => surrogates.writes body = true ∧ surrogates.clean env.jid = true ∧
            surrogates.clean msgId = true ∧ surrogates.clean now = true
        | .error text => surrogates.clean text = true := by
    simp only [carryOut]
    cases client.perform (.sendMessage toJid body) with
    | ok msgId =>
        refine (survives_behind_nothing surrogates.sends _).trans ?_
        refine (survives_broadcast_iff surrogates.sends ⟨_, List.mem_singleton_self _, rfl⟩).trans ?_
        simp [Surrogates.sends, Frame.values, ChatMessage.values, Surrogates.writes]
        tauto
    | error text =>
        refine (survives_reply_iff surrogates.sends (.inr rfl)).trans ?_
        rw [sends_failure surrogates (by decide)]
        simp [and_comm]
  unfold SendMessageSafe
  apply and_congr_right
  intro _
  by_cases passed : tooLong env body toJid = .ok none
  · simp only [passed, ne_eq, not_true, false_imp_iff, true_and, forall_const]
    exact concluded
  · simp [passed]

theorem send_muc_eq : cmdSendMuc env caches message =
    required env message ["room", "body"] >>= fun _ => do
      match ← tooLong env (message.get "body") (message.get "room") with
      | some frame => return (caches, .finish (.reply frame))
      | none => return (caches, .call (.sendMuc (message.get "room") (message.get "body"))
          (afterSendMuc (message.get "room"))) := by
  unfold cmdSendMuc
  congr 1
  funext _
  dsimp only
  cases tooLong env (message.get "body") (message.get "room") with
  | error exception => rfl
  | ok verdict =>
      cases verdict with
      | some frame => rfl
      | none =>
          change Except.ok _ = Except.ok _
          congr
          funext result now
          cases result
          all_goals rfl

theorem survives_send_muc_iff :
    Survives (conclude surrogates.sends client now caches (cmdSendMuc env caches message)).2 ↔
      ((∀ field ∈ ["room", "body"], ClientMessage.missing (message.get field) = false) →
        SendMucSafe env surrogates client (message.get "room") (message.get "body")) := by
  rw [send_muc_eq]
  apply survives_required_then
  refine (survives_guarded_send_iff env surrogates client now caches _ _ _ _ _).trans ?_
  generalize message.get "room" = room
  generalize message.get "body" = body
  have concluded : Survives (carryOut surrogates.sends client now caches
      (.call (.sendMuc room body) (afterSendMuc room))).2 ↔
      ∀ text, client.perform (.sendMuc room body) = .error text →
        surrogates.clean text = true ∧ surrogates.writes room = true := by
    simp only [carryOut]
    cases client.perform (.sendMuc room body) with
    | ok msgId =>
        have survives := survives_done surrogates.sends
          (⟨_, List.mem_singleton_self _, rfl⟩ :
            ∃ call ∈ [(Operation.sendMuc room body, true)], call.2 = true)
        exact iff_of_true ((survives_behind_nothing surrogates.sends _).mpr survives)
          fun text other => by cases other
    | error text =>
        refine (survives_reply_iff surrogates.sends (.inr rfl)).trans ?_
        rw [sends_failure surrogates (by decide)]
        simp
  unfold SendMucSafe
  rw [concluded]

theorem survives_load_history_iff :
    Survives (conclude surrogates.sends client now caches (cmdLoadHistory env caches message)).2 ↔
      ((∀ field ∈ ["jid"], ClientMessage.missing (message.get field) = false) →
        ∃ page, client.perform (.fetchHistory (message.get "jid") (message.get "before")
            env.config.pageSize) = .ok page ∧
          surrogates.writes (message.get "jid") = true ∧
            ∀ archived ∈ page.1, ∀ text ∈ archivedTexts archived, surrogates.clean text = true) := by
  apply survives_required_then
  refine (survives_silent_iff surrogates.sends client now caches _ rfl _).trans ?_
  apply exists_congr
  intro page
  apply and_congr_right
  intro _
  refine (survives_reply_iff surrogates.sends (.inl ⟨_, List.mem_singleton_self _, rfl⟩)).trans ?_
  simp +contextual [Surrogates.sends, Frame.values, ChatMessage.values, Surrogates.writes,
    historyMessage, archivedTexts]

/-- Without an allowlist nothing is asked of a room, with one it must be text. -/
theorem room_domain_allowed_spec (room : Json) :
    (roomDomainAllowed env room = .error .attributeError ∧
        ¬(env.config.discoveryServers ≠ [] → room.isText = true)) ∨
      ((env.config.discoveryServers ≠ [] → room.isText = true) ∧
        ∃ allowed, roomDomainAllowed env room = .ok allowed) := by
  unfold roomDomainAllowed
  by_cases unrestricted : env.config.discoveryServers = []
  · exact Or.inr ⟨fun restricted => absurd unrestricted restricted, true, if_pos unrestricted⟩
  · cases room with
    | str text => exact Or.inr ⟨fun _ => rfl, _, if_neg unrestricted⟩
    | _ => exact Or.inl ⟨if_neg unrestricted, by simp [unrestricted, Json.isText]⟩

theorem announced_safe_iff (room nick : Json) :
    ((client.events (.joinRoom room nick)).filterMap eventFrame).all surrogates.sends = true ↔
      AnnouncedSafe env surrogates client room nick := by
  have sent : ((client.events (.joinRoom room nick)).filterMap eventFrame).all surrogates.sends =
        true ↔
      (surrogates.clean (client.bare room) = true ∧ surrogates.writes nick = true) ∧
        surrogates.clean (client.bare room) = true ∧
          ∀ occupant ∈ client.occupants (client.bare room),
            ∀ text ∈ occupantTexts occupant, surrogates.clean text = true := by
    simp [Client.events, eventFrame, Surrogates.sends, Frame.values, Surrogates.writes,
      occupantTexts]
  refine sent.trans ?_
  constructor
  · rintro ⟨⟨named, nicked⟩, _, shown⟩
    exact ⟨named, nicked, shown⟩
  · rintro ⟨named, nicked, shown⟩
    exact ⟨⟨named, nicked⟩, named, shown⟩

theorem survives_join_room_iff :
    Survives (conclude surrogates.sends client now caches (cmdJoinRoom env caches message)).2 ↔
      ((∀ field ∈ ["room"], ClientMessage.missing (message.get field) = false) →
        (env.config.discoveryServers ≠ [] → (message.get "room").isText = true) ∧
          (roomDomainAllowed env (message.get "room") = .ok true →
            (message.get "room").key.isSome = true ∧
              Returns client (.joinRoom (message.get "room") (roomNick env message)) ∧
                AnnouncedSafe env surrogates client (message.get "room") (roomNick env message)) ∧
            (roomDomainAllowed env (message.get "room") = .ok false →
              surrogates.writes (message.get "room") = true)) := by
  apply survives_required_then
  dsimp only
  rcases room_domain_allowed_spec env (message.get "room") with
    ⟨raises, unfit⟩ | ⟨fit, allowed, checked⟩
  · rw [raises]
    constructor
    · intro survives
      exact absurd survives (torn_down surrogates.sends .attributeError (by simp) [])
    · intro safe
      exact absurd safe.1 unfit
  · rw [checked]
    cases allowed with
    | false =>
        refine (survives_reply_iff surrogates.sends (.inr rfl)).trans ?_
        rw [sends_failure surrogates (by decide)]
        obtain ⟨text, named⟩ := refused_is_text checked
        simp [named, textOf, Surrogates.writes, Json.isText]
    | true =>
        cases hashed : (message.get "room").key with
        | none =>
            constructor
            · intro survives
              exact absurd survives (torn_down surrogates.sends .typeError (by simp) [])
            · intro safe
              cases (safe.2.1 rfl).1
        | some key =>
            have joins := survives_done_iff surrogates.sends client now caches
              (joinRoom caches key (roomNick env message))
              (.joinRoom (message.get "room") (roomNick env message))
            refine joins.trans ?_
            rw [announced_safe_iff env surrogates client]
            constructor
            · intro joined
              exact ⟨fit, fun _ => ⟨rfl, joined⟩, fun refused => by cases refused⟩
            · intro safe
              exact (safe.2.1 rfl).2

theorem pop_room_spec (room : Json) :
    (popRoom caches room = .error .typeError ∧
        ¬(room.key.isSome = true ∨
          caches.joinedRooms.size = 0 ∧ caches.mucOccupants.size = 0)) ∨
      ((room.key.isSome = true ∨
          caches.joinedRooms.size = 0 ∧ caches.mucOccupants.size = 0) ∧
        ∃ remaining, popRoom caches room = .ok remaining) := by
  unfold popRoom
  cases room.key with
  | some key => exact Or.inr ⟨Or.inl rfl, _, rfl⟩
  | none =>
      by_cases bothEmpty : caches.joinedRooms.size = 0 ∧ caches.mucOccupants.size = 0
      · exact Or.inr ⟨Or.inr bothEmpty, _, if_pos bothEmpty⟩
      · exact Or.inl ⟨if_neg bothEmpty, by simp [bothEmpty]⟩

theorem survives_leave_room_iff :
    Survives (conclude surrogates.sends client now caches (cmdLeaveRoom env caches message)).2 ↔
      ((∀ field ∈ ["room"], ClientMessage.missing (message.get field) = false) →
        ((message.get "room").key.isSome = true ∨
            caches.joinedRooms.size = 0 ∧ caches.mucOccupants.size = 0) ∧
          Returns client (.leaveRoom (message.get "room")) ∧
            surrogates.writes (message.get "room") = true) := by
  apply survives_required_then
  dsimp only
  rcases pop_room_spec caches (message.get "room") with
    ⟨raises, unfit⟩ | ⟨fit, remaining, popped⟩
  · rw [raises]
    constructor
    · intro survives
      exact absurd survives (torn_down surrogates.sends .typeError (by simp) [])
    · intro safe
      exact absurd safe.1 unfit
  · rw [popped]
    refine (survives_silent_iff surrogates.sends client now caches _ rfl _).trans ?_
    have told : Survives (finished surrogates.sends [(.leaveRoom (message.get "room"), true)]
        (.broadcast (.mucLeft (message.get "room")))) ↔
          surrogates.writes (message.get "room") = true := by
      refine (survives_broadcast_iff surrogates.sends ⟨_, List.mem_singleton_self _, rfl⟩).trans ?_
      simp [Surrogates.sends, Frame.values]
    rw [returns_iff]
    constructor
    · rintro ⟨value, returned, survives⟩
      exact ⟨fit, ⟨value, returned⟩, told.mp survives⟩
    · rintro ⟨_, ⟨value, returned⟩, written⟩
      exact ⟨value, returned, told.mpr written⟩

/-- What the reply to `disco_servers` shows of one server. -/
def ServerClean (server : ServerRooms) : Prop :=
  surrogates.clean server.server = true ∧
    ∀ room ∈ server.rooms, surrogates.clean room.jid = true ∧ surrogates.clean room.name = true

theorem sends_disco_servers_iff (servers : List ServerRooms) :
    surrogates.sends (.discoServers servers) = true ↔
      ∀ server ∈ servers, ServerClean env surrogates server := by
  simp only [Surrogates.sends, Frame.values, ServerRooms.values, List.all_flatMap, List.all_cons,
    List.all_nil, Surrogates.writes, Bool.and_true]
  simp [ServerClean]

theorem server_entry_clean_iff (server : String) (result : Except String ServerRooms) :
    ServerClean env surrogates (serverEntry env server result) ↔
      surrogates.clean server = true ∧ ∀ found, result = .ok found →
        ∀ room ∈ found.rooms, surrogates.clean room.jid = true ∧ surrogates.clean room.name = true := by
  cases result with
  | error text => simp [serverEntry, ServerClean]
  | ok found => simp [serverEntry, ServerClean]

theorem entries_clean_iff (servers : List String) (results : List (Except String ServerRooms))
    (one : results.length = servers.length) :
    (∀ entry ∈ List.zipWith (serverEntry env) servers results, ServerClean env surrogates entry) ↔
      (∀ server ∈ servers, surrogates.clean server = true) ∧
        ∀ found, .ok found ∈ results → ∀ room ∈ found.rooms,
          surrogates.clean room.jid = true ∧ surrogates.clean room.name = true := by
  induction servers generalizing results with
  | nil =>
      cases List.length_eq_zero_iff.mp one
      simp
  | cons server rest induction =>
      cases results with
      | nil => cases one
      | cons result others =>
          have later := induction others (Nat.succ.inj one)
          simp only [List.zipWith_cons_cons, List.forall_mem_cons, later,
            server_entry_clean_iff env surrogates]
          constructor
          · rintro ⟨⟨named, here⟩, names, there⟩
            refine ⟨⟨named, names⟩, fun found member => ?_⟩
            rcases List.mem_cons.mp member with first | behind
            · exact here found first.symm
            · exact there found behind
          · rintro ⟨⟨named, names⟩, rooms⟩
            refine ⟨⟨named, fun found first => ?_⟩, names, fun found member => ?_⟩
            · exact rooms found (first ▸ List.mem_cons_self)
            · exact rooms found (List.mem_cons_of_mem _ member)

theorem survives_disco_servers_iff :
    Survives (conclude surrogates.sends client now caches (cmdDiscoServers env caches message)).2 ↔
      (∀ server ∈ env.config.discoveryServers, surrogates.clean server = true) ∧
        ∀ results : List (Except String ServerRooms),
          client.perform (.discoRooms env.config.discoveryServers) = .ok results →
            ∀ found, .ok found ∈ results → ∀ room ∈ found.rooms,
              surrogates.clean room.jid = true ∧ surrogates.clean room.name = true := by
  refine (survives_silent_iff surrogates.sends client now caches _ rfl _).trans ?_
  obtain ⟨results, gathered, one⟩ := client.gathers env.config.discoveryServers
  have told : ∀ entries : List ServerRooms,
      Survives (finished surrogates.sends
        [(.discoRooms env.config.discoveryServers, true)] (.reply (.discoServers (entries.mergeSort
          fun first second => env.lower first.server ≤ env.lower second.server)))) ↔
        ∀ entry ∈ entries, ServerClean env surrogates entry := by
    intro entries
    refine (survives_reply_iff surrogates.sends (.inl ⟨_, List.mem_singleton_self _, rfl⟩)).trans ?_
    rw [sends_disco_servers_iff env surrogates]
    simp only [List.mem_mergeSort]
  constructor
  · rintro ⟨_, same, survives⟩
    rw [gathered] at same
    cases same
    obtain ⟨names, rooms⟩ := (entries_clean_iff env surrogates _ _ one).mp ((told _).mp survives)
    refine ⟨names, fun _ same => ?_⟩
    rw [gathered] at same
    cases same
    exact rooms
  · rintro ⟨names, rooms⟩
    refine ⟨results, gathered, (told _).mpr ?_⟩
    exact (entries_clean_iff env surrogates _ _ one).mpr ⟨names, rooms results gathered⟩

theorem survives_command_iff :
    Survives (conclude surrogates.sends client now caches (handleCommand env caches message)).2 ↔
      ((∀ field ∈ requiredFields message.type,
          ClientMessage.missing (message.get field) = false) →
        CommandSafe env surrogates client now caches message) := by
  unfold handleCommand CommandSafe
  cases message.type with
  | sendMessage => exact survives_send_message_iff env surrogates client now caches message
  | loadHistory => exact survives_load_history_iff env surrogates client now caches message
  | setPresence =>
      refine (survives_quiet_iff surrogates.sends client now caches _ rfl).trans ?_
      simp [requiredFields]
  | joinRoom => exact survives_join_room_iff env surrogates client now caches message
  | leaveRoom => exact survives_leave_room_iff env surrogates client now caches message
  | sendMuc => exact survives_send_muc_iff env surrogates client now caches message
  | addContact =>
      exact survives_required_then env surrogates client now caches message ["jid"]
        (survives_quiet_iff surrogates.sends client now caches _ rfl)
  | removeContact =>
      exact survives_required_then env surrogates client now caches message ["jid"]
        (survives_quiet_iff surrogates.sends client now caches _ rfl)
  | subscription =>
      exact survives_required_then env surrogates client now caches message ["jid", "action"]
        (survives_quiet_iff surrogates.sends client now caches _ rfl)
  | discoServers =>
      refine (survives_disco_servers_iff env surrogates client now caches message).trans ?_
      simp [requiredFields]

theorem clean_refused {repr : String → String} (surrogates : Surrogates repr) {raw : Json}
    {error : ProtocolError} (refused : parseClientMessage repr raw = .error error) :
    surrogates.clean error.message = true := by
  unfold parseClientMessage at refused
  split at refused
  · split at refused
    · split at refused
      · cases refused
        exact surrogates.clean_of_ascii (by decide)
      · split at refused
        · cases refused
        · cases refused
          have opening : surrogates.clean "unknown client message type: " = true :=
            surrogates.clean_of_ascii (by decide)
          simp [opening, toString]
    · cases refused
      exact surrogates.clean_of_ascii (by decide)
  · cases refused
    exact surrogates.clean_of_ascii (by decide)

theorem frame_survives_iff (loads : String → Option Json) (text : String) :
    Survives (handleFrame env surrogates loads client now caches text).2 ↔
      FrameSafe env surrogates client now caches loads text := by
  unfold handleFrame FrameSafe
  cases decoded : loads text with
  | none =>
      constructor
      · intro survives
        cases survives.1
      · rintro ⟨raw, found, _⟩
        cases found
  | some raw =>
      simp only [Option.some.injEq, exists_eq_left', parseAndHandle]
      cases parsed : parseClientMessage env.repr raw with
      | error error =>
          constructor
          · intro _ message found
            cases found
          · intro _
            exact survives_protocol_error env surrogates client now caches
              (clean_refused surrogates parsed)
      | ok message =>
          refine (survives_command_iff env surrogates client now caches message).trans ?_
          constructor
          · intro safe other same
            cases same
            exact safe
          · intro safe
            exact safe message rfl

end Commands

structure Received where
  text : String
  client : Client
  now : String

/-- The loop between two frames, with what came of the frames so far. -/
structure Loop where
  running : Bool
  attached : Bool
  caches : Caches
  handled : List Handled

def opened (caches : Caches) : Loop := ⟨true, true, caches, []⟩

def step (env : Env) (surrogates : Surrogates env.repr) (loads : String → Option Json)
    (loop : Loop) (received : Received) : Option Loop :=
  if loop.running then
    let outcome :=
      handleFrame env surrogates loads received.client received.now loop.caches received.text
    some ⟨outcome.2.running, loop.attached && outcome.2.attached, outcome.1,
      loop.handled ++ [outcome.2]⟩
  else none

section Runs

variable (env : Env) (surrogates : Surrogates env.repr) (loads : String → Option Json)

abbrev SafeWhenReceived (loop : Loop) (received : Received) : Prop :=
  FrameSafe env surrogates received.client received.now loop.caches loads received.text

/-- Every frame has been handled and the tab survived each. -/
def Outlives (loop : Loop) (frames : List Received) : Prop :=
  ∃ final, replay (step env surrogates loads) loop frames = some final ∧
    final.running = true ∧ final.attached = true ∧ ∀ handled ∈ final.handled, Survives handled

theorem handled_kept {loop final : Loop} {frames : List Received}
    (run : replay (step env surrogates loads) loop frames = some final) {handled : Handled}
    (earlier : handled ∈ loop.handled) : handled ∈ final.handled := by
  have kept : ∀ current received next, handled ∈ Loop.handled current →
      step env surrogates loads current received = some next → handled ∈ next.handled := by
    intro current received next member fired
    unfold step at fired
    split at fired
    · cases fired
      exact List.mem_append_left _ member
    · cases fired
  exact run_invariant_unconditional (fun current : Loop => handled ∈ current.handled)
    kept earlier run

/-- Induction on the frames still to come, from any running loop. -/
theorem outlives_from_iff (frames : List Received) (loop : Loop)
    (running : loop.running = true) (attached : loop.attached = true)
    (before : ∀ handled ∈ loop.handled, Survives handled) :
    Outlives env surrogates loads loop frames ↔
      Conforms (step env surrogates loads) (SafeWhenReceived env surrogates loads) loop frames := by
  induction frames generalizing loop with
  | nil => exact ⟨fun _ => trivial, fun _ => ⟨loop, rfl, running, attached, before⟩⟩
  | cons received rest induction =>
      have survives := frame_survives_iff env surrogates received.client received.now loop.caches
        loads received.text
      let outcome :=
        handleFrame env surrogates loads received.client received.now loop.caches received.text
      let next : Loop := ⟨outcome.2.running, loop.attached && outcome.2.attached, outcome.1,
        loop.handled ++ [outcome.2]⟩
      have fired : step env surrogates loads loop received = some next := if_pos running
      have goesOn : Survives outcome.2 →
          (Outlives env surrogates loads next rest ↔
            Conforms (step env surrogates loads) (SafeWhenReceived env surrogates loads) next
              rest) := by
        intro survived
        apply induction next survived.1 (by simp [next, attached, survived.2.1])
        intro handled member
        rcases List.mem_append.mp member with earlier | last
        · exact before handled earlier
        · exact List.mem_singleton.mp last ▸ survived
      constructor
      · rintro ⟨final, run, stillRunning, stillAttached, all⟩
        obtain ⟨_, same, later⟩ := replay_cons run
        rw [fired] at same
        cases same
        have survived : Survives outcome.2 :=
          all outcome.2 (handled_kept env surrogates loads later (by simp [next]))
        refine ⟨survives.mp survived, ?_⟩
        rw [fired]
        exact (goesOn survived).mp ⟨final, later, stillRunning, stillAttached, all⟩
      · intro conforms
        obtain ⟨safe, later⟩ := conforms_cons fired conforms
        obtain ⟨final, run, stillRunning, stillAttached, all⟩ := (goesOn (survives.mpr safe)).mpr later
        refine ⟨final, ?_, stillRunning, stillAttached, all⟩
        simp only [replay, fired]
        exact run

end Runs

def asciiLower (text : String) : String := String.ofList (text.toList.map Char.toLower)

/-- `JID(text).bare` of an address in ASCII; none where a part that is there is
empty. -/
def bareOf (text : String) : Option String :=
  let bare := Text.before '/' text
  if Text.after '@' bare = "" ∨ '@' ∈ bare.toList ∧ Text.before '@' bare = "" ∨
      '/' ∈ text.toList ∧ Text.after '/' text = "" then none
  else some (asciiLower bare)

def obliging : Client where
  perform
    | .sendMessage _ _ => .ok "1"
    | .fetchHistory _ _ _ => .ok ([], true)
    | .setPresence _ _ => .ok ()
    | .addContact _ _ => .ok ()
    | .removeContact _ => .ok ()
    | .respondSubscription _ _ => .ok ()
    | .joinRoom _ _ => .ok ()
    | .leaveRoom _ => .ok ()
    | .sendMuc _ _ => .ok "1"
    | .discoRooms servers => .ok (servers.map fun server => .ok ⟨server, true, []⟩)
  gathers _ := ⟨_, rfl, List.length_map _⟩
  bare
    | .str room => (bareOf room).getD ""
    | _ => ""
  occupants _ := []

/-- `repr` of printable text without quotes; U+E000 stands for the surrogate U+D800. -/
def quoted (text : String) : String :=
  "'" ++ String.ofList (text.toList.flatMap fun char =>
    if char = '\uE000' then "\\ud800".toList else [char]) ++ "'"

def highSurrogate : Surrogates quoted where
  lone char := char = '\uE000'
  ascii char low := by
    apply decide_eq_false
    rintro rfl
    exact absurd low (by decide)
  escaped text char member := by
    apply decide_eq_false
    rintro rfl
    simp only [quoted, String.toList_append, String.toList_ofList, List.mem_append,
      List.mem_flatMap] at member
    rcases member with (quote | ⟨other, _, written⟩) | quote
    · exact absurd quote (by decide)
    · by_cases same : other = '\uE000'
      · rw [if_pos same] at written
        exact absurd written (by decide)
      · rw [if_neg same] at written
        exact same (List.mem_singleton.mp written).symm
    · exact absurd quote (by decide)

def alice : Env := ⟨"alice@example.com", {}, asciiLower, quoted⟩

/-- A decoder that knows two objects: a message whose body is a number, and a request for a
room whose name is half of a surrogate pair. -/
def twoObjects (text : String) : Option Json :=
  if text = "\x7b\"type\":\"send_message\",\"to\":\"bob@example.com\",\"body\":5\x7d" then
    some (.obj [("type", .str "send_message"), ("to", .str "bob@example.com"),
      ("body", .number 5)])
  else if text = "\x7b\"type\":\"join_room\",\"room\":\"\\ud800@evil\"\x7d" then
    some (.obj [("type", .str "join_room"), ("room", .str "\uE000@evil")])
  else none

end PyConduit.Pump
