import PyConduit.Protocol

/-!
# Texts that cannot be written

`send_json` writes a frame in UTF-8, and raises where a text of it has a surrogate without its
partner, as `json.loads` makes of a lone escape. Lean's characters leave the surrogates out;
here some others stand for them.
-/

namespace PyConduit

open Protocol

set_option autoImplicit false

/-- The characters that stand for lone surrogates. `repr` escapes them. -/
structure Surrogates (repr : String → String) where
  lone : Char → Bool
  ascii : ∀ char, char.toNat < 0x80 → lone char = false
  escaped : ∀ text, ∀ char ∈ (repr text).toList, lone char = false

namespace Protocol

def ChatMessage.values (message : ChatMessage) : List Json :=
  [message.conversation, message.fromJid, message.toJid, message.body, .str message.msgId,
    .str message.timestamp]

def ServerRooms.values (server : ServerRooms) : List Json :=
  .str server.server :: server.rooms.flatMap fun room => [.str room.jid, .str room.name]

/-- What a frame holds besides the names and words of its type, its numbers and flags. -/
def Frame.values : Frame → List Json
  | .ready jid username brandTitle _ mucServers _ =>
      (jid :: username :: brandTitle :: mucServers).map .str
  | .message chat => chat.values
  | .history conversation messages _ => conversation :: messages.flatMap ChatMessage.values
  | .presence jid _ status => (jid :: status.toList).map .str
  | .roster contacts =>
      contacts.flatMap fun contact => [.str contact.jid, .str contact.name, .str contact.subscription]
  | .subscriptionRequest jid => [.str jid]
  | .mucJoined room nick subject => room :: nick :: subject.toList.map .str
  | .mucLeft room => [room]
  | .mucMessage room nick body msgId timestamp _ _ => [room, nick, body, msgId, timestamp].map .str
  | .mucOccupants room occupants => room :: occupants.flatMap fun occupant =>
      [.str occupant.nick, .str occupant.role, .str occupant.jid]
  | .mucPresence room nick _ => [.str room, .str nick]
  | .discoServers servers => servers.flatMap ServerRooms.values
  | .error context text conversation => .str context :: .str text :: conversation.toList

end Protocol

namespace Surrogates

variable {repr : String → String} (surrogates : Surrogates repr)

def clean (text : String) : Bool := text.toList.all fun char => !surrogates.lone char

mutual

def writes : Json → Bool
  | .str text => surrogates.clean text
  | .arr items => writesItems items
  | .obj fields => writesFields fields
  | _ => true

def writesItems : List Json → Bool
  | [] => true
  | item :: rest => writes item && writesItems rest

def writesFields : List (String × Json) → Bool
  | [] => true
  | (name, value) :: rest => surrogates.clean name && (writes value && writesFields rest)

end

/-- `send_json` does not raise. -/
def sends (frame : Frame) : Bool := frame.values.all surrogates.writes

@[simp] theorem clean_append (first second : String) :
    surrogates.clean (first ++ second) = (surrogates.clean first && surrogates.clean second) := by
  simp [clean, String.toList_append]

theorem clean_of_ascii {text : String} (ascii : ∀ char ∈ text.toList, char.toNat < 0x80) :
    surrogates.clean text = true := by
  apply List.all_eq_true.mpr
  intro char member
  rw [surrogates.ascii char (ascii char member)]
  rfl

@[simp] theorem clean_repr (text : String) : surrogates.clean (repr text) = true := by
  apply List.all_eq_true.mpr
  intro char member
  rw [surrogates.escaped text char member]
  rfl

theorem ascii_of_digit {char : Char} (digit : char.isDigit = true) : char.toNat < 0x80 := by
  rw [Char.isDigit_iff_toNat] at digit
  exact Nat.lt_of_le_of_lt digit.2 (by decide)

@[simp] theorem clean_nat (number : Nat) : surrogates.clean (toString number) = true := by
  apply surrogates.clean_of_ascii
  intro char member
  rw [Nat.toString_eq_repr, Nat.toList_repr] at member
  exact ascii_of_digit (Nat.isDigit_of_mem_toDigits (by decide) (by decide) member)

@[simp] theorem clean_int (number : Int) : surrogates.clean (toString number) = true := by
  cases number with
  | ofNat number => exact surrogates.clean_nat number
  | negSucc number =>
      have written : toString (Int.negSucc number) = "-" ++ toString (number + 1) := rfl
      rw [written, clean_append, clean_nat, Bool.and_true]
      apply surrogates.clean_of_ascii
      intro char member
      cases List.mem_singleton.mp member
      decide

theorem sends_error {context : String} (ascii : ∀ char ∈ context.toList, char.toNat < 0x80)
    (text : String) (conversation : Option Json) :
    surrogates.sends (.error context text conversation) =
      (surrogates.clean text && conversation.all surrogates.writes) := by
  cases conversation with
  | none => simp [sends, Frame.values, writes, surrogates.clean_of_ascii ascii]
  | some value => simp [sends, Frame.values, writes, surrogates.clean_of_ascii ascii]

end Surrogates

end PyConduit
