import PyConduit.Payloads
import PyConduit.Presence

/-!
# The conversation a message belongs to

The echo of a sent message and the reply to `load_history` carry the address as
the tab wrote it; received messages and delivery failures carry the bare JID the
client read off the stanza, and so does the archive. The account itself is named
by the JID of the user file in the first two and by its bare JID in the others.
-/

namespace PyConduit.Conversations

open Protocol Replay Commands
open Presence (Jid)

set_option autoImplicit false

/-- A message stanza; its addresses are parsed and `kind` is `msg["type"]`. -/
structure MessageStanza where
  kind : String
  sender : Jid
  recipient : Jid
  body : String
  id : String
  errorText : String
  errorCondition : String

/-- The text of an error stanza: the first of the three that is not empty. -/
def failureText (stanza : MessageStanza) : String :=
  if stanza.errorText ≠ "" then stanza.errorText
  else if stanza.errorCondition ≠ "" then stanza.errorCondition
  else "delivery failed"

/-- `_on_message`, with the event it hands to the account. -/
def onMessage (newId now : String) (stanza : MessageStanza) : Option Event :=
  if stanza.kind = "error" then
    some (.deliveryFailure stanza.sender.bare (failureText stanza)
      (if stanza.id = "" then none else some stanza.id))
  else if stanza.kind ≠ "chat" ∧ stanza.kind ≠ "normal" then none
  else if stanza.body = "" then none
  else
    some (.incomingMessage stanza.sender.bare stanza.recipient.bare stanza.body
      (if stanza.id = "" then newId else stanza.id) now)

def Echoes (env : Env) (address : String) (frame : Frame) : Prop :=
  ∃ caches raw after body resume msgId now,
    Pump.parseAndHandle env caches raw =
        .ok (after, .call (.sendMessage (.str address) body) resume) ∧
      resume (.ok msgId) now = .broadcast frame

def RepliesHistory (env : Env) (address : String)
    (page : List History.ArchivedMessage × Bool) (frame : Frame) : Prop :=
  ∃ caches raw after before limit resume now,
    Pump.parseAndHandle env caches raw =
        .ok (after, .call (.fetchHistory (.str address) before limit) resume) ∧
      resume (.ok page) now = .reply frame

def Shows (peer : String) (frame : Frame) : Prop :=
  ∃ newId now stanza event, stanza.sender.bare = peer ∧
    onMessage newId now stanza = some event ∧ eventFrame event = some frame

def conversationOf : Frame → Option Json
  | .message message => some message.conversation
  | .history conversation _ _ => some conversation
  | .error _ _ conversation => conversation
  | _ => none

/-- A message as `fetch_history` returns it, archived under two bare JIDs. -/
def archivedCopy (own peer body msgId timestamp : String) : History.ArchivedMessage :=
  ⟨own, peer, body, msgId, timestamp⟩

structure Agree (echo copy : ChatMessage) : Prop where
  conversation : copy.conversation = echo.conversation
  fromJid : copy.fromJid = echo.fromJid
  toJid : copy.toJid = echo.toJid
  direction : copy.direction = echo.direction

/-- All views of the messages with a peer, written to as `address` and asked for
as `asked`: `own` and `peer` are the two bare JIDs. -/
structure OneConversation (env : Env) (own peer address asked : String) : Prop where
  echo : ∀ frame, Echoes env address frame → conversationOf frame = some (.str peer)
  history : ∀ page frame, RepliesHistory env asked page frame →
    conversationOf frame = some (.str peer)
  shown : ∀ frame, Shows peer frame → conversationOf frame = some (.str peer)
  archived : ∀ (echo copy : ChatMessage) (body msgId timestamp : String)
      (page : List History.ArchivedMessage × Bool) (conversation : Json)
      (messages : List ChatMessage) (complete : Bool) (position : Nat),
    Echoes env address (.message echo) → echo.body = .str body →
    RepliesHistory env asked page (.history conversation messages complete) →
    page.1[position]? = some (archivedCopy own peer body msgId timestamp) →
    messages[position]? = some copy → Agree echo copy

section Views

variable {env : Env}

theorem echoes_iff (address : String) (frame : Frame) :
    Echoes env address frame ↔
      address ≠ "" ∧ ∃ body msgId now, ClientMessage.missing body = false ∧
        Payloads.WithinLimit env body ∧
          frame = .message ⟨.str address, .str env.jid, .str address, body, msgId, now,
            .outgoing⟩ := by
  constructor
  · rintro ⟨caches, raw, after, body, resume, msgId, now, handled, echoed⟩
    obtain ⟨message, _, command⟩ := (Pump.parse_and_handle_ok_iff ..).mp handled
    obtain ⟨_, toPresent, bodyPresent, passed, rfl⟩ := send_message_of_call command
    cases echoed
    refine ⟨by simpa [ClientMessage.missing] using toPresent, body, msgId, now, bodyPresent, ?_, rfl⟩
    exact (Payloads.too_long_none_iff body _).mp passed
  · rintro ⟨filled, body, msgId, now, bodyPresent, within, rfl⟩
    let fields : List (String × Json) := [("to", .str address), ("body", body)]
    refine ⟨empty, .obj (("type", .str "send_message") :: fields), empty, body,
      afterSendMessage env (.str address) body, msgId, now, ?_, rfl⟩
    apply (Pump.parse_and_handle_ok_iff ..).mpr
    refine ⟨⟨.sendMessage, fields⟩, rfl, ?_⟩
    apply (send_message_ok_iff ..).mpr
    constructor
    · intro field member
      rcases List.mem_cons.mp member with rfl | member
      · simpa [ClientMessage.missing, ClientMessage.get, Json.get, fields] using filled
      · rw [List.mem_singleton.mp member]
        exact bodyPresent
    · exact Or.inr ⟨(Payloads.too_long_none_iff body _).mpr within, rfl⟩

theorem replies_history_iff (address : String) (page : List History.ArchivedMessage × Bool)
    (frame : Frame) :
    RepliesHistory env address page frame ↔
      address ≠ "" ∧
        frame = .history (.str address) (page.1.map (historyMessage env (.str address))) page.2 := by
  constructor
  · rintro ⟨caches, raw, after, before, limit, resume, now, handled, replied⟩
    obtain ⟨message, _, command⟩ := (Pump.parse_and_handle_ok_iff ..).mp handled
    obtain ⟨present, rfl⟩ := load_history_of_call command
    cases replied
    exact ⟨by simpa [ClientMessage.missing] using present, rfl⟩
  · rintro ⟨filled, rfl⟩
    let fields : List (String × Json) := [("jid", .str address)]
    refine ⟨empty, .obj (("type", .str "load_history") :: fields), empty, .null,
      env.config.pageSize, afterLoadHistory env (.str address), "", ?_, rfl⟩
    apply (Pump.parse_and_handle_ok_iff ..).mpr
    refine ⟨⟨.loadHistory, fields⟩, rfl, ?_⟩
    apply (load_history_ok_iff ..).mpr
    constructor
    · intro field member
      rw [List.mem_singleton.mp member]
      simpa [ClientMessage.missing, ClientMessage.get, Json.get, fields] using filled
    · rfl

theorem shows_conversation {peer : String} {frame : Frame} (shows : Shows peer frame) :
    conversationOf frame = some (.str peer) := by
  obtain ⟨newId, now, stanza, event, rfl, handled, shown⟩ := shows
  unfold onMessage at handled
  split at handled
  · cases handled
    cases shown
    rfl
  · split at handled
    · cases handled
    · split at handled
      · cases handled
      · cases handled
        cases shown
        rfl

/-- Something is echoed unless the limit is negative. -/
theorem echoes_text (address : String) (filled : address ≠ "")
    (accepts : 0 ≤ env.config.maxMessageChars) :
    Echoes env address (.message ⟨.str address, .str env.jid, .str address, .str "a", "1", "",
      .outgoing⟩) := by
  apply (echoes_iff ..).mpr
  refine ⟨filled, .str "a", "1", "", rfl, ?_, rfl⟩
  by_cases unlimited : env.config.maxMessageChars = 0
  · exact Or.inl unlimited
  · apply Or.inr
    refine ⟨1, rfl, ?_⟩
    omega

theorem within_limit_nonneg {body : Json} (within : Payloads.WithinLimit env body) :
    0 ≤ env.config.maxMessageChars := by
  rcases within with unlimited | ⟨length, _, short⟩
  · omega
  · omega

end Views

/-- Both addresses are bare as they are written, and so is the JID of the account;
with a negative limit nothing is ever echoed, and only the history counts. -/
theorem one_conversation_iff (env : Env) (bare : String → Option String)
    (own peer address asked : String) (account : bare env.jid = some own)
    (addressed : bare address = some peer) (same : bare asked = some peer)
    (filled : address ≠ "") (given : asked ≠ "") :
    OneConversation env own peer address asked ↔
      bare asked = some asked ∧
        (0 ≤ env.config.maxMessageChars →
          bare address = some address ∧ bare env.jid = some env.jid) := by
  rw [account, addressed, same]
  simp only [Option.some.injEq]
  constructor
  · intro one
    constructor
    · have replied := (@replies_history_iff env asked ([], true) _).mpr ⟨given, rfl⟩
      have filed := one.history _ _ replied
      simpa [conversationOf] using filed.symm
    · intro accepts
      have echoed := @echoes_text env address filled accepts
      constructor
      · have filed := one.echo _ echoed
        simpa [conversationOf] using filed.symm
      · have replied := (@replies_history_iff env asked
          ([archivedCopy own peer "a" "1" ""], true) _).mpr ⟨given, rfl⟩
        have agree := one.archived _ _ "a" "1" "" _ _ _ _ 0 echoed rfl replied rfl rfl
        simpa [historyMessage, archivedCopy] using agree.fromJid
  · rintro ⟨asksBare, otherwise⟩
    constructor
    case echo =>
      intro frame echoed
      obtain ⟨_, body, msgId, now, _, within, rfl⟩ := (echoes_iff ..).mp echoed
      have writesBare := (otherwise (within_limit_nonneg within)).1
      rw [conversationOf, writesBare]
    case history =>
      intro page frame replied
      obtain ⟨_, rfl⟩ := (replies_history_iff ..).mp replied
      rw [conversationOf, asksBare]
    case shown =>
      intro frame shows
      exact shows_conversation shows
    case archived =>
      intro echo copy body msgId timestamp page conversation messages complete position
        echoed _ replied stored found
      obtain ⟨_, text, _, _, _, within, framed⟩ := (echoes_iff ..).mp echoed
      cases framed
      obtain ⟨_, reply⟩ := (replies_history_iff ..).mp replied
      cases reply
      obtain ⟨writesBare, ownBare⟩ := otherwise (within_limit_nonneg within)
      rw [List.getElem?_map, stored] at found
      cases found
      subst asksBare writesBare ownBare
      constructor
      · rfl
      · rfl
      · rfl
      · exact if_pos rfl

theorem one_conversation_bob :
    OneConversation Pump.alice "alice@example.com" "bob@example.com" "bob@example.com"
      "bob@example.com" := by
  apply (one_conversation_iff Pump.alice Pump.bareOf "alice@example.com" "bob@example.com"
    "bob@example.com" "bob@example.com" (by decide +kernel) (by decide +kernel)
    (by decide +kernel) (by decide) (by decide)).mpr
  decide +kernel

theorem another_spelling_is_another_conversation :
    Pump.bareOf "Bob@example.com/phone" = some "bob@example.com" ∧
      Echoes Pump.alice "Bob@example.com/phone" (.message ⟨.str "Bob@example.com/phone",
        .str "alice@example.com", .str "Bob@example.com/phone", .str "a", "1", "", .outgoing⟩) ∧
      ¬OneConversation Pump.alice "alice@example.com" "bob@example.com" "Bob@example.com/phone"
        "bob@example.com" := by
  have echoed := @echoes_text Pump.alice "Bob@example.com/phone" (by decide) (by decide)
  refine ⟨by decide +kernel, echoed, ?_⟩
  intro one
  have filed := one.echo _ echoed
  simp [conversationOf] at filed

end PyConduit.Conversations
