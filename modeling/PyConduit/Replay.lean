import PyConduit.Dict
import PyConduit.Protocol

/-!
# The replayable state of an account

`Account` keeps a roster, a presence frame for each contact, the rooms it has
joined and their occupants, to replay them to a tab that arrives late. These
are the assignments `_on_event`, `_cmd_join_room` and `_cmd_leave_room` make to
the four, each of which runs without a suspension, and the frame each event is
turned into.
-/

namespace PyConduit.Replay

open Protocol

set_option autoImplicit false

/-- The events of the interface. The nick of `MucJoined` is the one `join_room` was
given, which for a command is any value of the frame. -/
inductive Event
  | connected (jid : String)
  | disconnected (reason : String)
  | incomingMessage (fromJid toJid body msgId timestamp : String)
  | deliveryFailure (toJid error : String) (msgId : Option String)
  | presenceUpdate (jid : String) (shown : Show) (status : Option String)
  | rosterSnapshot (items : List Contact)
  | subscriptionRequest (fromJid : String)
  | mucJoined (room : String) (nick : Json) (subject : Option String)
  | mucMessage (room nick body msgId timestamp : String) (isSelf mentionsMe : Bool)
  | mucOccupants (room : String) (occupants : List Occupant)
  | mucPresence (room nick : String) (joined : Bool)

/-- A room is keyed by whatever hashable value a tab named it with. -/
structure Caches where
  roster : List Contact
  presence : Dict String Frame
  joinedRooms : Dict Key Json
  mucOccupants : Dict Key (List Occupant)

def empty : Caches := ⟨[], .empty, .empty, .empty⟩

/-- What `_on_event` assigns before its broadcast. -/
def onEvent (caches : Caches) : Event → Caches
  | .presenceUpdate jid shown status =>
      { caches with presence := caches.presence.setItem jid (.presence jid shown status) }
  | .rosterSnapshot items => { caches with roster := items }
  | .mucOccupants room occupants =>
      { caches with mucOccupants := caches.mucOccupants.setItem (.text room) occupants }
  | _ => caches

/-- The frame `_on_event` broadcasts. Connected is not shown to the tabs. -/
def eventFrame : Event → Option Frame
  | .connected _ => none
  | .disconnected _ =>
      some (.error "connection" "Chat server connection lost; reconnecting…" none)
  | .incomingMessage fromJid toJid body msgId timestamp =>
      some (.message ⟨.str fromJid, .str fromJid, .str toJid, .str body, msgId, timestamp,
        .incoming⟩)
  | .deliveryFailure toJid error _ =>
      some (.error "delivery" s!"Message to {toJid} could not be delivered: {error}"
        (some (.str toJid)))
  | .presenceUpdate jid shown status => some (.presence jid shown status)
  | .rosterSnapshot items => some (.roster items)
  | .subscriptionRequest fromJid => some (.subscriptionRequest fromJid)
  | .mucJoined room nick subject => some (.mucJoined (.str room) nick subject)
  | .mucMessage room nick body msgId timestamp isSelf mentionsMe =>
      some (.mucMessage room nick body msgId timestamp isSelf mentionsMe)
  | .mucOccupants room occupants => some (.mucOccupants (.str room) occupants)
  | .mucPresence room nick joined => some (.mucPresence room nick joined)

section StoredKeys

variable {Value : Type*}

/-- A dictionary keeps the first of the keys that are equal. -/
def storedKey (table : Dict Key Value) (room : Key) : Key :=
  (table.keys.find? fun other => other.compared = room.compared).getD room

@[simp] theorem stored_key_text (table : Dict Key Value) (room : String) :
    storedKey table (.text room) = .text room := by
  unfold storedKey
  cases found : table.keys.find? fun other => other.compared = (Key.text room).compared with
  | none => rfl
  | some other =>
      have same : other.compared = (Key.text room).compared := by simpa using List.find?_some found
      exact (Key.compared_text_iff other room).mp same

theorem stored_key_cases (table : Dict Key Value) (room : Key) :
    storedKey table room = room ∨ storedKey table room ∈ table.keys := by
  unfold storedKey
  cases found : table.keys.find? fun other => other.compared = room.compared with
  | none => exact .inl rfl
  | some other => exact .inr (List.mem_of_find?_eq_some found)

theorem stored_key_compared (table : Dict Key Value) (room : Key) :
    (storedKey table room).compared = room.compared := by
  unfold storedKey
  cases found : table.keys.find? fun other => other.compared = room.compared with
  | none => rfl
  | some other => simpa using List.find?_some found

end StoredKeys

def joinRoom (caches : Caches) (room : Key) (nick : Json) : Caches :=
  { caches with
    joinedRooms := caches.joinedRooms.setItem (storedKey caches.joinedRooms room) nick }

/-- The second join is of the room `True`, which `1` is another name of. -/
example : (joinRoom (joinRoom empty (.bool true) (.str "alice")) (.number 1)
    (.str "al")).joinedRooms.entries = [(.bool true, .str "al")] := rfl

def leaveRoom (caches : Caches) (room : Key) : Caches :=
  { caches with
    joinedRooms := caches.joinedRooms.pop (storedKey caches.joinedRooms room)
    mucOccupants := caches.mucOccupants.pop (storedKey caches.mucOccupants room) }

def occupantsOf (caches : Caches) (room : Key) : List Occupant :=
  (caches.mucOccupants.lookup (storedKey caches.mucOccupants room)).getD []

theorem join_text (caches : Caches) (room : String) (nick : Json) :
    joinRoom caches (.text room) nick =
      { caches with joinedRooms := caches.joinedRooms.setItem (.text room) nick } := by
  rw [joinRoom, stored_key_text]

theorem leave_text (caches : Caches) (room : String) :
    leaveRoom caches (.text room) =
      { caches with
        joinedRooms := caches.joinedRooms.pop (.text room)
        mucOccupants := caches.mucOccupants.pop (.text room) } := by
  rw [leaveRoom, stored_key_text, stored_key_text]

def PresenceKeyed (caches : Caches) : Prop :=
  ∀ jid frame, caches.presence.lookup jid = some frame →
    ∃ shown status, frame = .presence jid shown status

theorem empty_presence_keyed : PresenceKeyed empty := by
  intro jid frame found
  simp [empty] at found

theorem on_event_presence_keyed {caches : Caches} (keyed : PresenceKeyed caches)
    (event : Event) : PresenceKeyed (onEvent caches event) := by
  cases event with
  | presenceUpdate jid shown status =>
      intro other frame found
      simp only [onEvent, Dict.lookup_set_item] at found
      split at found
      · next same =>
          cases found
          exact ⟨shown, status, by rw [same]⟩
      · exact keyed other frame found
  | _ => exact keyed

end PyConduit.Replay
