import Mathlib.Data.List.Basic
import PyConduit.Json

/-!
# The message contract between browser and server

Inbound frames are decoded JSON of any shape and are validated here; outbound
frames are what the builders `server_*` return, one constructor for each. A
field of an outbound frame that is copied from an inbound one without a check
has type `Json`. `repr` is Python's, of a string.
-/

namespace PyConduit.Protocol

set_option autoImplicit false

structure ProtocolError where
  message : String
  deriving DecidableEq

inductive ClientType
  | sendMessage
  | loadHistory
  | setPresence
  | joinRoom
  | leaveRoom
  | sendMuc
  | addContact
  | removeContact
  | subscription
  | discoServers
  deriving DecidableEq

def ClientType.text : ClientType → String
  | .sendMessage => "send_message"
  | .loadHistory => "load_history"
  | .setPresence => "set_presence"
  | .joinRoom => "join_room"
  | .leaveRoom => "leave_room"
  | .sendMuc => "send_muc"
  | .addContact => "add_contact"
  | .removeContact => "remove_contact"
  | .subscription => "subscription"
  | .discoServers => "disco_servers"

def clientTypes : List ClientType :=
  [.sendMessage, .loadHistory, .setPresence, .joinRoom, .leaveRoom, .sendMuc, .addContact,
    .removeContact, .subscription, .discoServers]

def ClientType.ofText (text : String) : Option ClientType :=
  clientTypes.find? fun type => type.text = text

theorem client_type_of_text {text : String} {type : ClientType} :
    ClientType.ofText text = some type ↔ type.text = text := by
  constructor
  · intro found
    simpa using List.find?_some found
  · intro named
    subst named
    cases type
    all_goals rfl

structure ClientMessage where
  type : ClientType
  data : List (String × Json)

namespace ClientMessage

/-- `msg.data.get(field)`, and `msg.data[field]` of a required field. -/
def get (message : ClientMessage) (field : String) : Json := Json.get message.data field

def missing : Json → Bool
  | .null => true
  | .str text => text = ""
  | _ => false

def require (repr : String → String) (message : ClientMessage) :
    List String → Except ProtocolError Unit
  | [] => .ok ()
  | field :: rest =>
      if missing (message.get field) then
        .error ⟨s!"{message.type.text}: missing field {repr field}"⟩
      else require repr message rest

/-- `require` passes when no field is missing, and otherwise names the first
missing one. -/
theorem require_spec (repr : String → String) (message : ClientMessage) (fields : List String) :
    message.require repr fields =
      match fields.find? fun field => missing (message.get field) with
      | none => .ok ()
      | some field => .error ⟨s!"{message.type.text}: missing field {repr field}"⟩ := by
  induction fields with
  | nil => rfl
  | cons field rest induction =>
      cases absent : missing (message.get field) with
      | true => simp [require, absent]
      | false => simpa [require, absent] using induction

end ClientMessage

def parseClientMessage (repr : String → String) : Json → Except ProtocolError ClientMessage
  | .obj raw =>
      match Json.get raw "type" with
      | .str mtype =>
          if mtype = "" then .error ⟨"frame missing string 'type'"⟩
          else
            match ClientType.ofText mtype with
            | some type => .ok ⟨type, raw.filter fun field => field.1 ≠ "type"⟩
            | none => .error ⟨s!"unknown client message type: {repr mtype}"⟩
      | _ => .error ⟨"frame missing string 'type'"⟩
  | _ => .error ⟨"frame must be a JSON object"⟩

inductive Show
  | online
  | away
  | dnd
  | xa
  | offline
  deriving DecidableEq

inductive Direction
  | incoming
  | outgoing
  deriving DecidableEq

structure Contact where
  jid : String
  name : String
  subscription : String
  deriving DecidableEq

structure Occupant where
  nick : String
  role : String
  shown : Show
  jid : String
  deriving DecidableEq

structure Room where
  jid : String
  name : String
  deriving DecidableEq

structure ServerRooms where
  server : String
  online : Bool
  rooms : List Room
  deriving DecidableEq

/-- A message as `server_message` and the entries of `server_history` carry it. -/
structure ChatMessage where
  conversation : Json
  fromJid : Json
  toJid : Json
  body : Json
  msgId : String
  timestamp : String
  direction : Direction

/-- The frames of the builders `server_*`. -/
inductive Frame
  | ready (jid username brandTitle : String) (soundDefault : Bool) (mucServers : List String)
      (maxMessageChars : Int)
  | message (message : ChatMessage)
  | history (conversation : Json) (messages : List ChatMessage) (complete : Bool)
  | presence (jid : String) (shown : Show) (status : Option String)
  | roster (contacts : List Contact)
  | subscriptionRequest (jid : String)
  | mucJoined (room nick : Json) (subject : Option String)
  | mucLeft (room : Json)
  | mucMessage (room nick body msgId timestamp : String) (isSelf mentionsMe : Bool)
  | mucOccupants (room : Json) (occupants : List Occupant)
  | mucPresence (room nick : String) (joined : Bool)
  | discoServers (servers : List ServerRooms)
  | error (context message : String) (conversation : Option Json)

def Frame.isError : Frame → Bool
  | .error _ _ _ => true
  | _ => false

end PyConduit.Protocol
