import PyConduit.Pump

/-!
# The rooms of an account and of its client

The account keys its two tables of rooms by what a tab wrote, the client its own
by the bare JID, and the events of the client carry that JID. `bare` is
`JID(room).bare`, with the text of the exception where it raises. A command that
nobody interrupts is one function here.
-/

namespace PyConduit.Rooms

open Protocol Replay Commands

set_option autoImplicit false

/-- The caches of the account, `_joined_rooms` of the client, and the frames the
account has broadcast, in the order in which the broadcasts began. -/
structure State where
  caches : Caches
  joined : Dict String Json
  frames : List Frame

def fresh : State := ⟨empty, .empty, []⟩

def broadcast (state : State) (frame : Frame) : State :=
  { state with frames := state.frames ++ [frame] }

def handleEvent (state : State) (event : Event) : State :=
  { state with
    caches := onEvent state.caches event
    frames := state.frames ++ (eventFrame event).toList }

/-- `join_room` of the client up to its first suspension. -/
def enterRoom (state : State) (room : String) (nick : Json) : State :=
  { state with joined := state.joined.setItem room nick }

def announce (state : State) (room : String) (nick : Json) : State :=
  handleEvent state (.mucJoined room nick none)

def emitOccupants (state : State) (room : String) (occupants : List Occupant) : State :=
  handleEvent state (.mucOccupants room occupants)

/-- The removal in `leave_room` of the client. -/
def exitRoom (state : State) (room : String) : State :=
  { state with joined := state.joined.pop room }

/-- What the XMPP library answers in an operation: the occupants of the room, or
the text of the exception. -/
abbrev Answer := Except String (List Occupant)

section Client

variable (bare : Json → Except String String)

def clientJoin (state : State) (room nick : Json) (answer : Answer) :
    State × Except String Unit :=
  match bare room with
  | .error text => (state, .error text)
  | .ok roomBare =>
      match answer with
      | .error text => (enterRoom state roomBare nick, .error text)
      | .ok occupants =>
          (emitOccupants (announce (enterRoom state roomBare nick) roomBare nick) roomBare
            occupants, .ok ())

/-- `leave_room` of the client; `leave_muc` is only called for a room it is in. -/
def clientLeave (state : State) (room : Json) (answer : Answer) : State × Except String Unit :=
  match bare room with
  | .error text => (state, .error text)
  | .ok roomBare =>
      match state.joined.lookup roomBare, answer with
      | some _, .error text => (exitRoom state roomBare, .error text)
      | _, _ => (exitRoom state roomBare, .ok ())

def conclude (state : State) : Finish → State
  | .broadcast frame => broadcast state frame
  | _ => state

/-- A room command from its first to its last step, with the result of the client's
operation; none for a command that does not come to one. -/
def perform (env : Env) (state : State) (message : ClientMessage) (answer : Answer) :
    Option (State × Except String Unit) :=
  match handleCommand env state.caches message with
  | .ok (caches, .call (.joinRoom room nick) resume) =>
      let called := clientJoin bare { state with caches := caches } room nick answer
      some (conclude called.1 (resume called.2 ""), called.2)
  | .ok (caches, .call (.leaveRoom room) resume) =>
      let called := clientLeave bare { state with caches := caches } room answer
      some (conclude called.1 (resume called.2 ""), called.2)
  | _ => none

end Client

inductive Performs (bare : Json → Except String String) (env : Env) (state : State)
    (message : ClientMessage) : Answer → State × Except String Unit → Prop
  | joins {key : Key} {room : String} {occupants : List Occupant}
      (type : message.type = .joinRoom) (hashed : (message.get "room").key = some key)
      (parsed : bare (message.get "room") = .ok room) :
      Performs bare env state message (.ok occupants)
        (emitOccupants (announce (enterRoom
          { state with caches := joinRoom state.caches key (roomNick env message) } room
          (roomNick env message)) room (roomNick env message)) room occupants, .ok ())
  | joinFails {key : Key} {room text : String} (type : message.type = .joinRoom)
      (hashed : (message.get "room").key = some key)
      (parsed : bare (message.get "room") = .ok room) :
      Performs bare env state message (.error text)
        (enterRoom { state with caches := joinRoom state.caches key (roomNick env message) } room
          (roomNick env message), .error text)
  | joinInvalid {key : Key} {text : String} {answer : Answer} (type : message.type = .joinRoom)
      (hashed : (message.get "room").key = some key)
      (parsed : bare (message.get "room") = .error text) :
      Performs bare env state message answer
        ({ state with caches := joinRoom state.caches key (roomNick env message) }, .error text)
  | leaves {caches : Caches} {room : String} {answer : Answer}
      (type : message.type = .leaveRoom)
      (popped : popRoom state.caches (message.get "room") = .ok caches)
      (parsed : bare (message.get "room") = .ok room) :
      Performs bare env state message answer
        (broadcast (exitRoom { state with caches := caches } room) (.mucLeft (message.get "room")),
          .ok ())
  | leaveFails {caches : Caches} {room text : String} {nick : Json}
      (type : message.type = .leaveRoom)
      (popped : popRoom state.caches (message.get "room") = .ok caches)
      (parsed : bare (message.get "room") = .ok room)
      (inside : state.joined.lookup room = some nick) :
      Performs bare env state message (.error text)
        (exitRoom { state with caches := caches } room, .error text)
  | leaveInvalid {caches : Caches} {text : String} {answer : Answer}
      (type : message.type = .leaveRoom)
      (popped : popRoom state.caches (message.get "room") = .ok caches)
      (parsed : bare (message.get "room") = .error text) :
      Performs bare env state message answer ({ state with caches := caches }, .error text)

theorem performs_of_perform {bare : Json → Except String String} {env : Env} {state : State}
    {message : ClientMessage} {answer : Answer} {outcome : State × Except String Unit}
    (performed : perform bare env state message answer = some outcome) :
    Performs bare env state message answer outcome := by
  unfold perform at performed
  split at performed
  · next caches room nick resume handled =>
      have type := command_of_call handled
      obtain ⟨rfl, rfl, ⟨key, hashed, rfl⟩, rfl⟩ := join_room_of_call handled
      cases performed
      unfold clientJoin
      cases parsed : bare (message.get "room") with
      | error text => exact .joinInvalid type hashed parsed
      | ok room =>
          cases answer with
          | error text => exact .joinFails type hashed parsed
          | ok occupants => exact .joins type hashed parsed
  · next caches room resume handled =>
      have type := command_of_call handled
      obtain ⟨rfl, popped, rfl⟩ := leave_room_of_call handled
      cases performed
      unfold clientLeave
      cases parsed : bare (message.get "room") with
      | error text => exact .leaveInvalid type popped parsed
      | ok room =>
          dsimp only
          cases inside : state.joined.lookup room with
          | none => exact .leaves type popped parsed
          | some nick =>
              cases answer with
              | error text => exact .leaveFails type popped parsed inside
              | ok occupants => exact .leaves type popped parsed
  · cases performed

/-- `JID(room).bare` where lower-casing is that of ASCII. -/
def bareOf : Json → Except String String
  | .str text =>
      match Pump.bareOf text with
      | some room => .ok room
      | none => .error "JID could not be parsed"
  | _ => .error "JID could not be parsed"

def joinTeam : ClientMessage := ⟨.joinRoom, [("room", .str "team@conference.example.com")]⟩

def leaveTeam : ClientMessage := ⟨.leaveRoom, [("room", .str "team@conference.example.com")]⟩

section Tables

variable {account : Dict Key Json} {client : Dict String Json}

theorem keys_agree_join
    (agree : ∀ key, key ∈ account.keys ↔ ∃ room ∈ client.keys, key = .text room)
    (room : String) (nick : Json) (key : Key) :
    key ∈ (account.setItem (.text room) nick).keys ↔
      ∃ other ∈ (client.setItem room nick).keys, key = .text other := by
  simp only [Dict.mem_keys_set_item, agree]
  constructor
  · rintro (⟨other, member, same⟩ | same)
    · exact ⟨other, Or.inl member, same⟩
    · exact ⟨room, Or.inr rfl, same⟩
  · rintro ⟨other, member | rfl, same⟩
    · exact Or.inl ⟨other, member, same⟩
    · exact Or.inr same

theorem keys_agree_leave
    (agree : ∀ key, key ∈ account.keys ↔ ∃ room ∈ client.keys, key = .text room)
    {text room : String} (same : ∀ other ∈ client.keys, other = room ↔ other = text) (key : Key) :
    key ∈ (account.pop (.text text)).keys ↔ ∃ other ∈ (client.pop room).keys, key = .text other := by
  simp only [Dict.keys_pop, List.mem_filter, decide_eq_true_eq, agree]
  constructor
  · rintro ⟨⟨other, member, rfl⟩, differs⟩
    refine ⟨other, ⟨member, ?_⟩, rfl⟩
    intro equal
    exact differs (congrArg Key.text ((same other member).mp equal))
  · rintro ⟨other, ⟨member, differs⟩, rfl⟩
    refine ⟨⟨other, member, rfl⟩, ?_⟩
    intro equal
    exact differs ((same other member).mpr (Key.text.inj equal))

end Tables

end PyConduit.Rooms
