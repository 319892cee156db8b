import PyConduit.Pump

/-!
# What reaches the client

The fields of a frame are arbitrary JSON values. `require` refuses null and the
empty string, `_too_long` takes the length of the body, and the commands for
rooms use the room as text or as a dictionary key; none of the three asks for a
string, and what passes them is handed to the client.
-/

namespace PyConduit.Payloads

open Protocol Replay Commands

set_option autoImplicit false

def calledOperation : Except PyException (Caches × Plan) → Option Operation
  | .ok (_, .call operation _) => some operation
  | _ => none

def passedOn (env : Env) (caches : Caches) (raw : Json) : Option Operation :=
  calledOperation (Pump.parseAndHandle env caches raw)

/-- The to, jid and room of an operation. The servers of `disco_rooms` come from
the configuration. -/
def addresses : Operation → List Json
  | .sendMessage toJid _ => [toJid]
  | .fetchHistory peer _ _ => [peer]
  | .setPresence _ _ => []
  | .addContact jid _ => [jid]
  | .removeContact jid => [jid]
  | .respondSubscription jid _ => [jid]
  | .joinRoom room _ => [room]
  | .leaveRoom room => [room]
  | .sendMuc room _ => [room]
  | .discoRooms _ => []

def bodies : Operation → List Json
  | .sendMessage _ body => [body]
  | .sendMuc _ body => [body]
  | _ => []

def NonEmptyText (value : Json) : Prop := ∃ text, value = .str text ∧ text ≠ ""

def ValidBody (env : Env) (body : Json) : Prop :=
  ∃ text, body = .str text ∧ text ≠ "" ∧
    (0 < env.config.maxMessageChars → (text.length : Int) ≤ env.config.maxMessageChars)

def ValidPayload (env : Env) (operation : Operation) : Prop :=
  (∀ address ∈ addresses operation, NonEmptyText address) ∧
    ∀ body ∈ bodies operation, ValidBody env body

def OnlyValidPayloads (env : Env) (caches : Caches) (raw : Json) : Prop :=
  ∀ operation ∈ passedOn env caches raw, ValidPayload env operation

/-- `_too_long` has nothing to say: there is no limit, or the body has a length
within it. -/
def WithinLimit (env : Env) (body : Json) : Prop :=
  env.config.maxMessageChars = 0 ∨
    ∃ length, body.len = some length ∧ (length : Int) ≤ env.config.maxMessageChars

/-- A value other than a string in a place the checks do not look at: a body that
has a length within the limit, or any when there is no limit; the addressee of a
body that passes; a room that is hashable, with no allowlist; a room to leave that
is hashable, or any while both tables are empty; a jid. -/
def SlipsThrough (env : Env) (caches : Caches) (message : ClientMessage) : Prop :=
  match message.type with
  | .sendMessage =>
      WithinLimit env (message.get "body") ∧
        ((message.get "to").isText = false ∨ (message.get "body").isText = false)
  | .sendMuc =>
      WithinLimit env (message.get "body") ∧
        ((message.get "room").isText = false ∨ (message.get "body").isText = false)
  | .joinRoom =>
      (message.get "room").isText = false ∧ (message.get "room").key.isSome = true ∧
        env.config.discoveryServers = []
  | .leaveRoom =>
      (message.get "room").isText = false ∧
        ((message.get "room").key.isSome = true ∨
          caches.joinedRooms.size = 0 ∧ caches.mucOccupants.size = 0)
  | .loadHistory | .addContact | .removeContact | .subscription =>
      (message.get "jid").isText = false
  | .setPresence | .discoServers => False

section Checks

variable {env : Env} {caches : Caches} {message : ClientMessage}

theorem present_text_iff {value : Json} (present : ClientMessage.missing value = false) :
    NonEmptyText value ↔ value.isText = true := by
  cases value with
  | str text =>
      have filled : text ≠ "" := by simpa [ClientMessage.missing] using present
      exact ⟨fun _ => rfl, fun _ => ⟨text, rfl, filled⟩⟩
  | _ =>
      constructor
      · rintro ⟨text, same, _⟩
        cases same
      · intro text
        cases text

theorem too_long_none_iff (body conversation : Json) :
    tooLong env body conversation = .ok none ↔ WithinLimit env body := by
  unfold tooLong WithinLimit
  by_cases unlimited : env.config.maxMessageChars = 0
  · simp [unlimited]
  · cases body.len with
    | none => simp [unlimited]
    | some length => simp [unlimited]

theorem valid_body_iff {body : Json} (present : ClientMessage.missing body = false)
    (within : WithinLimit env body) : ValidBody env body ↔ body.isText = true := by
  rw [← present_text_iff present]
  constructor
  · rintro ⟨text, same, filled, _⟩
    exact ⟨text, same, filled⟩
  · rintro ⟨text, rfl, filled⟩
    refine ⟨text, rfl, filled, ?_⟩
    intro limited
    rcases within with unlimited | ⟨length, measured, short⟩
    · omega
    · cases measured
      exact short

theorem mem_called_required_iff (fields : List String)
    (rest : Except PyException (Caches × Plan)) (operation : Operation) :
    operation ∈ calledOperation (required env message fields >>= fun _ => rest) ↔
      (∀ field ∈ fields, ClientMessage.missing (message.get field) = false) ∧
        operation ∈ calledOperation rest := by
  have calls_iff : ∀ outcome : Except PyException (Caches × Plan),
      operation ∈ calledOperation outcome ↔
        ∃ after resume, outcome = .ok (after, .call operation resume) := by
    intro outcome
    unfold calledOperation
    split
    · next after called resume =>
        constructor
        · intro same
          cases same
          exact ⟨after, resume, rfl⟩
        · rintro ⟨_, _, same⟩
          cases same
          rfl
    · next other =>
        constructor
        · intro same
          cases same
        · rintro ⟨after, resume, same⟩
          exact absurd same (other after operation resume)
  simp only [calls_iff, required_then_ok_iff, exists_and_left]

theorem mem_called_guarded_send_iff (body conversation : Json) (operation : Operation)
    (resume : Except String operation.Value → String → Finish) (called : Operation) :
    called ∈ calledOperation (do
      match ← tooLong env body conversation with
      | some frame => return (caches, .finish (.reply frame))
      | none => return (caches, .call operation resume)) ↔
      WithinLimit env body ∧ called = operation := by
  rw [← too_long_none_iff body conversation]
  cases checked : tooLong env body conversation with
  | error exception =>
      constructor
      · intro member
        cases member
      · rintro ⟨passed, _⟩
        cases passed
  | ok verdict =>
      cases verdict with
      | some frame =>
          constructor
          · intro member
            cases member
          · rintro ⟨passed, _⟩
            cases passed
      | none =>
          constructor
          · intro member
            cases member
            exact ⟨rfl, rfl⟩
          · rintro ⟨_, rfl⟩
            rfl

theorem mem_called_join_room_iff (operation : Operation) :
    operation ∈ calledOperation (cmdJoinRoom env caches message) ↔
      (∀ field ∈ ["room"], ClientMessage.missing (message.get field) = false) ∧
        roomDomainAllowed env (message.get "room") = .ok true ∧
          (message.get "room").key.isSome = true ∧
            operation = .joinRoom (message.get "room") (roomNick env message) := by
  apply (mem_called_required_iff ["room"] _ operation).trans
  apply and_congr_right
  intro _
  dsimp only
  cases checked : roomDomainAllowed env (message.get "room") with
  | error exception =>
      constructor
      · intro member
        cases member
      · rintro ⟨passed, _⟩
        cases passed
  | ok allowed =>
      cases allowed with
      | false =>
          constructor
          · intro member
            cases member
          · rintro ⟨passed, _⟩
            cases passed
      | true =>
          cases hashed : (message.get "room").key with
          | none =>
              constructor
              · intro member
                cases member
              · rintro ⟨_, passed, _⟩
                cases passed
          | some key =>
              constructor
              · intro member
                cases member
                exact ⟨rfl, rfl, rfl⟩
              · rintro ⟨_, _, rfl⟩
                rfl

theorem mem_called_leave_room_iff (operation : Operation) :
    operation ∈ calledOperation (cmdLeaveRoom env caches message) ↔
      (∀ field ∈ ["room"], ClientMessage.missing (message.get field) = false) ∧
        ((message.get "room").key.isSome = true ∨
          caches.joinedRooms.size = 0 ∧ caches.mucOccupants.size = 0) ∧
          operation = .leaveRoom (message.get "room") := by
  apply (mem_called_required_iff ["room"] _ operation).trans
  apply and_congr_right
  intro _
  dsimp only
  rcases Pump.pop_room_spec caches (message.get "room") with
    ⟨raises, unfit⟩ | ⟨fit, remaining, popped⟩
  · rw [raises]
    constructor
    · intro member
      cases member
    · rintro ⟨fit, _⟩
      exact absurd fit unfit
  · rw [popped]
    constructor
    · intro member
      cases member
      exact ⟨fit, rfl⟩
    · rintro ⟨_, rfl⟩
      rfl

theorem address_valid_iff {field : String} {operation : Operation}
    {resume : Except String operation.Value → String → Finish}
    (address : addresses operation = [message.get field]) (bodiless : bodies operation = [])
    (fields : List String) (member : field ∈ fields) :
    (∀ called ∈ calledOperation (required env message fields >>= fun _ =>
        return (caches, .call operation resume)), ValidPayload env called) ↔
      ((∀ field ∈ fields, ClientMessage.missing (message.get field) = false) →
        ¬(message.get field).isText = false) := by
  simp only [mem_called_required_iff]
  constructor
  · intro valid present
    have handed := (valid operation ⟨present, rfl⟩).1 (message.get field) (by simp [address])
    simpa using (present_text_iff (present field member)).mp handed
  · rintro text called ⟨present, same⟩
    cases same
    constructor
    · rw [address]
      intro value single
      rw [List.mem_singleton.mp single, present_text_iff (present field member)]
      simpa using text present
    · simp [bodiless]

/-- The commands that send a body. -/
theorem send_valid_iff (addressee : String) {conversation : Json} {operation : Operation}
    {resume : Except String operation.Value → String → Finish}
    (address : addresses operation = [message.get addressee])
    (body : bodies operation = [message.get "body"]) :
    (∀ called ∈ calledOperation (required env message [addressee, "body"] >>= fun _ => do
        match ← tooLong env (message.get "body") conversation with
        | some frame => return (caches, .finish (.reply frame))
        | none => return (caches, .call operation resume)), ValidPayload env called) ↔
      ((∀ field ∈ [addressee, "body"], ClientMessage.missing (message.get field) = false) →
        ¬(WithinLimit env (message.get "body") ∧
          ((message.get addressee).isText = false ∨ (message.get "body").isText = false))) := by
  simp only [mem_called_required_iff, mem_called_guarded_send_iff]
  constructor
  · rintro valid present ⟨within, wrong⟩
    have handed := valid operation ⟨present, within, rfl⟩
    have named := handed.1 (message.get addressee) (by simp [address])
    have filled := handed.2 (message.get "body") (by simp [body])
    rw [present_text_iff (present addressee (by simp))] at named
    rw [valid_body_iff (present "body" (by simp)) within] at filled
    simp [named, filled] at wrong
  · rintro right called ⟨present, within, rfl⟩
    have texts : (message.get addressee).isText = true ∧ (message.get "body").isText = true := by
      by_contra wrong
      apply right present
      refine ⟨within, ?_⟩
      simpa only [not_and_or, Bool.not_eq_true] using wrong
    constructor
    · rw [address]
      intro value single
      rw [List.mem_singleton.mp single, present_text_iff (present addressee (by simp))]
      exact texts.1
    · rw [body]
      intro value single
      rw [List.mem_singleton.mp single, valid_body_iff (present "body" (by simp)) within]
      exact texts.2

theorem command_valid_iff :
    (∀ called ∈ calledOperation (handleCommand env caches message), ValidPayload env called) ↔
      ((∀ field ∈ Pump.requiredFields message.type,
          ClientMessage.missing (message.get field) = false) →
        ¬SlipsThrough env caches message) := by
  unfold handleCommand SlipsThrough
  cases message.type with
  | sendMessage =>
      apply send_valid_iff "to"
      · rfl
      · rfl
  | sendMuc =>
      apply send_valid_iff "room"
      · rfl
      · rfl
  | loadHistory => exact address_valid_iff rfl rfl ["jid"] (by simp)
  | addContact => exact address_valid_iff rfl rfl ["jid"] (by simp)
  | removeContact => exact address_valid_iff rfl rfl ["jid"] (by simp)
  | subscription => exact address_valid_iff rfl rfl ["jid", "action"] (by simp)
  | setPresence =>
      constructor
      · intro _ _ slips
        exact slips
      · intro _ called member
        cases member
        simp [ValidPayload, addresses, bodies]
  | discoServers =>
      constructor
      · intro _ _ slips
        exact slips
      · intro _ called member
        cases member
        simp [ValidPayload, addresses, bodies]
  | joinRoom =>
      simp only [mem_called_join_room_iff]
      constructor
      · rintro valid present ⟨other, hashed, unrestricted⟩
        have handed := (valid _ ⟨present, if_pos unrestricted, hashed, rfl⟩).1
          (message.get "room") (List.mem_singleton_self _)
        rw [present_text_iff (present "room" (List.mem_singleton_self _)), other] at handed
        cases handed
      · rintro right called ⟨present, allowed, hashed, rfl⟩
        have text : (message.get "room").isText = true := by
          by_contra other
          rcases Pump.room_domain_allowed_spec env (message.get "room") with
            ⟨raises, _⟩ | ⟨fit, _⟩
          · rw [raises] at allowed
            cases allowed
          · apply right present
            refine ⟨by simpa using other, hashed, ?_⟩
            by_contra restricted
            exact other (fit restricted)
        constructor
        · intro value single
          have filled := present "room" (List.mem_singleton_self _)
          rw [List.mem_singleton.mp single, present_text_iff filled]
          exact text
        · simp [bodies]
  | leaveRoom =>
      simp only [mem_called_leave_room_iff]
      constructor
      · rintro valid present ⟨other, fit⟩
        have handed := (valid _ ⟨present, fit, rfl⟩).1 (message.get "room")
          (List.mem_singleton_self _)
        rw [present_text_iff (present "room" (List.mem_singleton_self _)), other] at handed
        cases handed
      · rintro right called ⟨present, fit, rfl⟩
        constructor
        · intro value single
          have filled := present "room" (List.mem_singleton_self _)
          rw [List.mem_singleton.mp single, present_text_iff filled]
          by_contra other
          exact right present ⟨by simpa using other, fit⟩
        · simp [bodies]

end Checks

/-- Everything a frame hands to the client is valid exactly when none of the
required fields slips through as another JSON value. -/
theorem only_valid_payloads_iff (env : Env) (caches : Caches) (raw : Json) :
    OnlyValidPayloads env caches raw ↔
      ∀ message, parseClientMessage env.repr raw = .ok message →
        (∀ field ∈ Pump.requiredFields message.type,
          ClientMessage.missing (message.get field) = false) →
        ¬SlipsThrough env caches message := by
  unfold OnlyValidPayloads passedOn Pump.parseAndHandle
  cases parsed : parseClientMessage env.repr raw with
  | error error =>
      constructor
      · intro _ message same
        cases same
      · intro _ operation member
        cases member
  | ok message =>
      apply command_valid_iff.trans
      simp only [Except.ok.injEq, forall_eq']

def listBody : Json :=
  .obj [("type", .str "send_message"), ("to", .str "bob@example.com"),
    ("body", .arr [.str "hello"])]

theorem list_body_reaches_the_client :
    passedOn Pump.alice empty listBody =
        some (.sendMessage (.str "bob@example.com") (.arr [.str "hello"])) ∧
      ¬OnlyValidPayloads Pump.alice empty listBody := by
  refine ⟨rfl, ?_⟩
  intro valid
  obtain ⟨text, same, _⟩ := (valid _ rfl).2 (.arr [.str "hello"]) (List.mem_singleton_self _)
  cases same

end PyConduit.Payloads
