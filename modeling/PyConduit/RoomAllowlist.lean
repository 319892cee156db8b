import PyConduit.Activity

/-!
# The allowlist of room servers

`_room_domain_allowed` splits a room at its first `@` and then at the next `/`;
the client's JID splits it at the first `/` and then at the `@` before it. The
two agree on the domain unless the first `@` comes after the first `/`. What
passes the check is kept in `_joined_rooms` and joined again on every reconnect.
-/

namespace PyConduit.RoomAllowlist

open Protocol Replay Activity GuardedRun
open Commands (Operation Finish Plan Handles checkedDomain roomDomainAllowed)

set_option autoImplicit false

structure Address where
  localPart : String
  domain : String
  resource : String
  deriving DecidableEq

/-- The resource is everything after the first `/`, and only then is the local
part what precedes the `@` in the remainder. -/
def domainText (room : String) : String := Text.after '@' (Text.before '/' room)

/-- What is assumed of the client's parser, up to the case of letters. -/
def SplitsSlashFirst (lower : String → String) (parse : String → Option Address) : Prop :=
  ∀ text address, parse text = some address →
    lower address.domain = lower (domainText text)

abbrev Listed (env : Commands.Env) (domain : String) : Prop :=
  env.lower domain ∈ env.config.discoveryServers.map env.lower

/-- Wherever the client is told to go by this room is on the list. A room that
does not parse raises. -/
def DomainListed (env : Commands.Env) (parse : String → Option Address) (room : String) : Prop :=
  ∀ address, parse room = some address → Listed env address.domain

/-- The first `@` comes after the first `/`, what follows it is listed, what the
room begins with is not, and it parses. -/
def Evades (env : Commands.Env) (parse : String → Option Address) (room : String) : Prop :=
  '@' ∈ room.toList ∧ '@' ∉ (Text.before '/' room).toList ∧
    Listed env (Text.before '/' (Text.after '@' room)) ∧ ¬Listed env (Text.before '/' room) ∧
      (parse room).isSome = true

/-- Unless the `@` comes late, both parsers read the same domain. -/
theorem checked_domain_eq {room : String}
    (early : ¬('@' ∈ room.toList ∧ '@' ∉ (Text.before '/' room).toList)) :
    checkedDomain room = domainText room := by
  unfold checkedDomain domainText
  by_cases inFront : '@' ∈ (Text.before '/' room).toList
  · exact Text.before_after_of_first (by decide) inFront
  · have absent : '@' ∉ room.toList := fun present => early ⟨present, inFront⟩
    rw [Text.after_of_absent absent, Text.after_of_absent inFront]

theorem allowed_iff_listed {env : Commands.Env} (restricted : env.config.discoveryServers ≠ [])
    (room : String) :
    roomDomainAllowed env (.str room) = .ok true ↔ Listed env (checkedDomain room) := by
  simp [roomDomainAllowed, restricted, Listed]

theorem check_right_iff {env : Commands.Env} {parse : String → Option Address}
    (splits : SplitsSlashFirst env.lower parse)
    (restricted : env.config.discoveryServers ≠ []) (room : String) :
    (roomDomainAllowed env (.str room) = .ok true → DomainListed env parse room) ↔
      ¬Evades env parse room := by
  rw [allowed_iff_listed restricted]
  constructor
  · rintro right ⟨present, late, passes, unlisted, parses⟩
    obtain ⟨address, parsed⟩ := Option.isSome_iff_exists.mp parses
    have listed := right passes address parsed
    rw [Listed, splits room address parsed, domainText, Text.after_of_absent late] at listed
    exact unlisted listed
  · intro plain passes address parsed
    rw [Listed, splits room address parsed]
    by_cases late : '@' ∈ room.toList ∧ '@' ∉ (Text.before '/' room).toList
    · by_contra unlisted
      rw [domainText, Text.after_of_absent late.2] at unlisted
      exact plain ⟨late.1, late.2, passes, unlisted, by simp [parsed]⟩
    · rw [← checked_domain_eq late]
      exact passes

theorem allowed_is_text {env : Commands.Env} (restricted : env.config.discoveryServers ≠ [])
    {room : Json} (allowed : roomDomainAllowed env room = .ok true) :
    ∃ text, room = .str text := by
  unfold roomDomainAllowed at allowed
  rw [if_neg restricted] at allowed
  cases room with
  | str text => exact ⟨text, rfl⟩
  | _ => cases allowed

def joinedText (env : Commands.Env) (raw : Json) : Option String :=
  match parseClientMessage env.repr raw with
  | .ok message =>
      match message.type, message.get "room" with
      | .joinRoom, .str text => some text
      | _, _ => none
  | .error _ => none

theorem joined_text_of_message {env : Commands.Env} {raw : Json} {message : ClientMessage}
    {text : String} (parsed : parseClientMessage env.repr raw = .ok message)
    (type : message.type = .joinRoom) (room : message.get "room" = .str text) :
    joinedText env raw = some text := by
  simp only [joinedText, parsed, type, room]

def PlainJoins (env : Env) (parse : String → Option Address) (_ : Session) : Action → Prop
  | .receive _ raw _ => ∀ room ∈ joinedText env.commands raw, ¬Evades env.commands parse room
  | _ => True

instance (env : Env) (parse : String → Option Address) (session : Session) (action : Action) :
    Decidable (PlainJoins env parse session action) := by
  cases action
  all_goals
    unfold PlainJoins Evades
    infer_instance

def Approved (env : Env) (parse : String → Option Address) (room : Json) : Prop :=
  ∃ text, room = .str text ∧ DomainListed env.commands parse text

/-- Every room the account has, is about to rejoin or has told the client to join
is approved. -/
structure Vetted (env : Env) (parse : String → Option Address) (session : Session) : Prop where
  rooms : ∀ room ∈ session.caches.joinedRooms.keys, Approved env parse room.json
  rejoins : ∀ rooms, Rejoin.joining rooms ∈ session.rejoins →
    ∀ room ∈ rooms, Approved env parse room.1.json
  joins : ∀ room nick, Operation.joinRoom room nick ∈ session.operations →
    Approved env parse room

section Steps

variable {env : Env} {parse : String → Option Address} {session next : Session}

theorem fresh_vetted : Vetted env parse fresh := by
  constructor
  · intro room member
    cases member
  · intro rooms member
    cases member
  · intro room nick member
    cases member

theorem Vetted.untouched (vetted : Vetted env parse session)
    (untouched : Untouched session next) : Vetted env parse next := by
  obtain ⟨caches, _, _, rejoins, operations, _⟩ := untouched
  constructor
  · rw [caches]
    exact vetted.rooms
  · rw [rejoins]
    exact vetted.rejoins
  · rw [operations]
    exact vetted.joins

theorem Vetted.assign (vetted : Vetted env parse session) {caches : Caches}
    (rooms : ∀ room ∈ caches.joinedRooms.keys, Approved env parse room.json) :
    Vetted env parse (assign session caches) :=
  ⟨rooms, vetted.rejoins, vetted.joins⟩

theorem Vetted.call (vetted : Vetted env parse session) {operation : Operation}
    (approved : ∀ room nick, operation = .joinRoom room nick → Approved env parse room) :
    Vetted env parse (call session operation) := by
  refine ⟨vetted.rooms, vetted.rejoins, ?_⟩
  intro room nick member
  rcases List.mem_append.mp member with earlier | last
  · exact vetted.joins room nick earlier
  · exact approved room nick (List.mem_singleton.mp last).symm

theorem Vetted.rejoin (vetted : Vetted env parse session) (index : Nat)
    {rooms : List (Key × Json)} (approved : ∀ room ∈ rooms, Approved env parse room.1.json) :
    Vetted env parse (rejoin session index rooms) := by
  cases rooms with
  | nil =>
      refine ⟨vetted.rooms, ?_, vetted.joins⟩
      intro rooms member
      exact vetted.rejoins rooms (List.mem_of_mem_eraseIdx member)
  | cons entry rest =>
      have called : Vetted env parse (Activity.call session (.joinRoom entry.1.json entry.2)) := by
        apply vetted.call
        rintro room nick ⟨⟩
        exact approved entry List.mem_cons_self
      refine ⟨called.rooms, ?_, called.joins⟩
      intro rooms member
      rcases List.mem_or_eq_of_mem_set member with earlier | same
      · exact vetted.rejoins rooms earlier
      · cases same
        exact approved

theorem on_event_joined_rooms (caches : Caches) (event : Event) :
    (onEvent caches event).joinedRooms = caches.joinedRooms := by
  cases event
  all_goals rfl

/-- The only command that adds a room has checked it first. -/
theorem handled_rooms_approved (splits : SplitsSlashFirst env.commands.lower parse)
    (restricted : env.commands.config.discoveryServers ≠ []) {raw : Json}
    (plain : ∀ room ∈ joinedText env.commands raw, ¬Evades env.commands parse room)
    (vetted : Vetted env parse session) {caches : Caches} {plan : Plan}
    (handled : Pump.parseAndHandle env.commands session.caches raw = .ok (caches, plan)) :
    (∀ room ∈ caches.joinedRooms.keys, Approved env parse room.json) ∧
      ∀ room nick resume, plan = .call (.joinRoom room nick) resume → Approved env parse room := by
  obtain ⟨message, parsed, handles⟩ := Pump.handles_of_parse handled
  cases handles with
  | keeps other =>
      refine ⟨vetted.rooms, ?_⟩
      rintro room nick resume rfl
      cases other
  | leaves other =>
      constructor
      · intro room member
        simp only [leaveRoom, Dict.keys_pop, List.mem_filter] at member
        exact vetted.rooms room member.1
      · rintro room nick resume rfl
        cases other
  | @joins key nick resume type allowed hashed =>
      obtain ⟨text, room⟩ := allowed_is_text restricted allowed
      have approved : Approved env parse (message.get "room") := by
        refine ⟨text, room, ?_⟩
        apply (check_right_iff splits restricted text).mpr
        · exact plain text (joined_text_of_message parsed type room)
        · rw [← room]
          exact allowed
      constructor
      · intro other member
        simp only [joinRoom, Dict.mem_keys_set_item] at member
        rcases member with earlier | rfl
        · exact vetted.rooms other earlier
        · rw [room] at hashed approved
          cases hashed
          rw [stored_key_text]
          exact approved
      · rintro other nick resume ⟨⟩
        exact approved

theorem Vetted.event (vetted : Vetted env parse session) (event : Event) :
    Vetted env parse (Activity.assign session (onEvent session.caches event)) := by
  apply vetted.assign
  rw [on_event_joined_rooms]
  exact vetted.rooms

theorem vetted_step (splits : SplitsSlashFirst env.commands.lower parse)
    (restricted : env.commands.config.discoveryServers ≠ []) {action : Action}
    (plain : PlainJoins env parse session action) (vetted : Vetted env parse session)
    (fired : step env session action = some next) : Vetted env parse next := by
  cases fires_of_step fired with
  | lifecycle _ fired => exact vetted.untouched (untouched_lifecycle fired)
  | connectRaises fired => exact vetted.untouched (untouched_lifecycle fired)
  | event _ fired => exact (vetted.event _).untouched (untouched_lifecycle fired)
  | @connected event order _ =>
      have called : Vetted env parse
          (call (assign session (onEvent session.caches event))
            (.setPresence (.str "online") .null)) := by
        apply (vetted.event event).call
        rintro room nick ⟨⟩
      refine ⟨called.rooms, ?_, called.joins⟩
      intro rooms member
      rcases List.mem_append.mp member with earlier | last
      · exact vetted.rejoins rooms earlier
      · cases List.mem_singleton.mp last
  | refused _ _ _ fired => exact vetted.untouched (untouched_conclude fired)
  | finished _ _ handled fired =>
      have approved := handled_rooms_approved splits restricted plain vetted handled
      exact (vetted.assign approved.1).untouched (untouched_conclude fired)
  | @called tab raw order caches operation resume _ _ handled =>
      have approved := handled_rooms_approved splits restricted plain vetted handled
      have called : Vetted env parse (call (assign session caches) operation) := by
        apply (vetted.assign approved.1).call
        rintro room nick rfl
        exact approved.2 room nick resume rfl
      exact ⟨called.rooms, called.rejoins, called.joins⟩
  | @operationEnds tab _ _ _ _ _ _ fired =>
      have emptied : Vetted env parse
          { session with commands := Function.update session.commands tab none } :=
        ⟨vetted.rooms, vetted.rejoins, vetted.joins⟩
      exact emptied.untouched (untouched_conclude fired)
  | announced =>
      apply vetted.rejoin
      intro room member
      exact vetted.rooms room.1 (List.mem_map_of_mem member)
  | announceRaises =>
      refine ⟨vetted.rooms, ?_, vetted.joins⟩
      intro rooms member
      exact vetted.rejoins rooms (List.mem_of_mem_eraseIdx member)
  | rejoined joining =>
      apply vetted.rejoin
      intro room member
      exact vetted.rejoins _ (List.mem_of_getElem? joining) room (List.mem_cons_of_mem _ member)
  | sent _ advanced => exact vetted.untouched (untouched_advance advanced)
  | sendRaises _ advanced => exact vetted.untouched (untouched_advance advanced)

end Steps

/-- With a list, the check lets a room through wrongly exactly when the room
evades it, and a run whose join commands name no such room only ever tells the
client to join and rejoin rooms of listed domains. -/
theorem room_allowlist_holds_iff (env : Env) (parse : String → Option Address)
    (splits : SplitsSlashFirst env.commands.lower parse)
    (restricted : env.commands.config.discoveryServers ≠ []) :
    (∀ room,
      (roomDomainAllowed env.commands (.str room) = .ok true →
          DomainListed env.commands parse room) ↔
        ¬Evades env.commands parse room) ∧
      ∀ actions session, Conforms (step env) (PlainJoins env parse) fresh actions →
        replay (step env) fresh actions = some session →
          ∀ room nick, Operation.joinRoom room nick ∈ session.operations →
            ∃ text, room = .str text ∧ DomainListed env.commands parse text := by
  refine ⟨check_right_iff splits restricted, ?_⟩
  intro actions session conforms run
  have vetted : Vetted env parse session := run_invariant
    (fun _ _ _ plain holds fired => vetted_step splits restricted plain holds fired)
    fresh_vetted conforms run
  exact vetted.joins

/-- The splitting of RFC 7622, with what may not be empty. -/
def parseAddress (text : String) : Option Address :=
  let bare := Text.before '/' text
  let localPart := if '@' ∈ bare.toList then some (Text.before '@' bare) else none
  let resource := if '/' ∈ text.toList then some (Text.after '/' text) else none
  if Text.after '@' bare = "" ∨ localPart = some "" ∨ resource = some "" then none
  else some ⟨localPart.getD "", Text.after '@' bare, resource.getD ""⟩

theorem parse_address_splits (lower : String → String) : SplitsSlashFirst lower parseAddress := by
  intro text address parsed
  simp only [parseAddress, Option.ite_none_left_eq_some] at parsed
  cases parsed.2
  rfl

def alice : Env := ⟨Pump.alice, {}, fun _ => "alice"⟩

def joinAndReconnect (room : String) : List Action :=
  [.lifecycle (.attach 0), .lifecycle .clientUp, .lifecycle (.connectReturns 0), .sent 0 none,
    .receive 0 (.obj [("type", .str "join_room"), ("room", .str room)]) [],
    .operationEnds 0 Pump.obliging.perform "" [], .event (.connected "alice@example.com") [],
    .announced 0 true]

theorem team_room_is_joined_twice :
    ∃ session,
      replay (step alice) fresh (joinAndReconnect "team@conference.example.com") =
          some session ∧
        session.operations =
          [.joinRoom (.str "team@conference.example.com") (.str "alice"),
            .setPresence (.str "online") .null,
            .joinRoom (.str "team@conference.example.com") (.str "alice")] ∧
        ∀ room nick, Operation.joinRoom room nick ∈ session.operations →
          ∃ text, room = .str text ∧ DomainListed alice.commands parseAddress text := by
  have holds := room_allowlist_holds_iff alice parseAddress (parse_address_splits _) (by decide)
  refine ⟨_, rfl, rfl, ?_⟩
  exact holds.2 (joinAndReconnect "team@conference.example.com") _ (by decide) rfl

/-- Everything after the `/` is the resource for the client. -/
theorem resource_names_the_listed_server :
    roomDomainAllowed alice.commands (.str "evil.example.com/@conference.example.com") =
        .ok true ∧
      ¬DomainListed alice.commands parseAddress "evil.example.com/@conference.example.com" ∧
      ∃ session,
        replay (step alice) fresh (joinAndReconnect "evil.example.com/@conference.example.com") =
            some session ∧
          Operation.joinRoom (.str "evil.example.com/@conference.example.com") (.str "alice") ∈
            session.operations := by
  refine ⟨by decide, ?_, ?_⟩
  · intro listed
    have evil := listed ⟨"", "evil.example.com", "@conference.example.com"⟩ (by decide)
    revert evil
    decide
  · refine ⟨_, rfl, ?_⟩
    exact List.mem_cons_self

end PyConduit.RoomAllowlist
