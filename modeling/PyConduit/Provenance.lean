import PyConduit.Payloads
import PyConduit.Isolation
import PyConduit.Ledgers

/-!
# On whose behalf

The client of an account does what its tabs ask for, and two things unasked: at each session
start the account shows itself online and rejoins its rooms. Every operation is traced back to
the frame of a tab it is done for, and every frame that passes its checks to its one operation.
-/

namespace PyConduit.Provenance

open Protocol Replay Activity GuardedRun
open Commands (Operation Finish Plan PyException roomNick roomDomainAllowed accepts)
open Payloads (calledOperation WithinLimit)
open Lifecycle (Tab)

set_option autoImplicit false

def operationOf (env : Commands.Env) (message : ClientMessage) : Operation :=
  match message.type with
  | .sendMessage => .sendMessage (message.get "to") (message.get "body")
  | .loadHistory => .fetchHistory (message.get "jid") (message.get "before") env.config.pageSize
  | .setPresence =>
      .setPresence ((message.data.lookup "show").getD (.str "online")) (message.get "status")
  | .joinRoom => .joinRoom (message.get "room") (roomNick env message)
  | .leaveRoom => .leaveRoom (message.get "room")
  | .sendMuc => .sendMuc (message.get "room") (message.get "body")
  | .addContact => .addContact (message.get "jid") (message.get "name")
  | .removeContact => .removeContact (message.get "jid")
  | .subscription => .respondSubscription (message.get "jid") (accepts (message.get "action"))
  | .discoServers => .discoRooms env.config.discoveryServers

def withinLimit (env : Commands.Env) (body : Json) : Bool :=
  env.config.maxMessageChars = 0 ||
    body.len.any fun length => (length : Int) ≤ env.config.maxMessageChars

def domainAllowed (env : Commands.Env) (room : Json) : Bool :=
  match roomDomainAllowed env room with
  | .ok allowed => allowed
  | .error _ => false

def passesChecks (env : Commands.Env) (caches : Caches) (message : ClientMessage) : Bool :=
  ((Pump.requiredFields message.type).all fun field => !ClientMessage.missing (message.get field)) &&
    match message.type with
    | .sendMessage | .sendMuc => withinLimit env (message.get "body")
    | .joinRoom => domainAllowed env (message.get "room") && (message.get "room").key.isSome
    | .leaveRoom =>
        (message.get "room").key.isSome ||
          (caches.joinedRooms.size = 0 && caches.mucOccupants.size = 0)
    | _ => true

section Checks

variable {env : Commands.Env} {caches : Caches} {message : ClientMessage}

theorem within_limit_iff (body : Json) : withinLimit env body = true ↔ WithinLimit env body := by
  unfold withinLimit WithinLimit
  cases body.len
  all_goals simp

theorem domain_allowed_iff (room : Json) :
    domainAllowed env room = true ↔ roomDomainAllowed env room = .ok true := by
  unfold domainAllowed
  cases roomDomainAllowed env room with
  | error exception => simp
  | ok allowed => simp

/-- A command whose required fields are there carries out its operation. -/
theorem called_required_iff {fields : List String} {operation : Operation}
    {resume : Except String operation.Value → String → Finish} (called : Operation) :
    called ∈ calledOperation (Commands.required env message fields >>= fun _ =>
        return (caches, .call operation resume)) ↔
      (∀ field ∈ fields, ClientMessage.missing (message.get field) = false) ∧
        called = operation := by
  rw [Payloads.mem_called_required_iff]
  apply and_congr_right
  intro _
  constructor
  · intro member
    cases member
    rfl
  · rintro rfl
    rfl

theorem called_iff (operation : Operation) :
    operation ∈ calledOperation (Commands.handleCommand env caches message) ↔
      passesChecks env caches message = true ∧ operation = operationOf env message := by
  unfold passesChecks operationOf Commands.handleCommand
  rw [Bool.and_eq_true, and_assoc, List.all_eq_true]
  cases message.type with
  | sendMessage =>
      simp only [within_limit_iff, Bool.not_eq_true']
      exact (Payloads.mem_called_required_iff ..).trans
        (and_congr_right fun _ => Payloads.mem_called_guarded_send_iff ..)
  | sendMuc =>
      simp only [within_limit_iff, Bool.not_eq_true']
      exact (Payloads.mem_called_required_iff ..).trans
        (and_congr_right fun _ => Payloads.mem_called_guarded_send_iff ..)
  | joinRoom =>
      simp only [Bool.and_eq_true, domain_allowed_iff, Bool.not_eq_true', and_assoc]
      exact Payloads.mem_called_join_room_iff operation
  | leaveRoom =>
      simp only [Bool.or_eq_true, Bool.and_eq_true, decide_eq_true_eq, Bool.not_eq_true']
      exact Payloads.mem_called_leave_room_iff operation
  | setPresence | discoServers =>
      constructor
      · intro member
        cases member
        exact ⟨fun _ absent => absurd absent List.not_mem_nil, rfl, rfl⟩
      · rintro ⟨_, _, rfl⟩
        rfl
  | _ =>
      simp only [true_and, Bool.not_eq_true']
      exact called_required_iff operation

end Checks

/-- The frames of tabs that pass their checks in an action. -/
def heard (env : Env) (session : Session) : Action → List (Tab × ClientMessage)
  | .receive tab raw _ =>
      match parseClientMessage env.commands.repr raw with
      | .ok message =>
          if passesChecks env.commands session.caches message then [(tab, message)] else []
      | .error _ => []
  | _ => []

/-- Two frames name the same room. `True` and `1` are one room, and it keeps the name that it
was given first. -/
def SameRoom (first latest : ClientMessage) : Prop :=
  (first.get "room").key.map Key.compared = (latest.get "room").key.map Key.compared

/-- What an operation of the client is done for: a session start, a frame of a tab, or a room
that is joined again, which has its name from one frame and its nick from another. -/
inductive Cause
  | sessionStart
  | frame (tab : Tab) (message : ClientMessage)
  | rejoin (first latest : Tab × ClientMessage)

namespace Cause

def operation (env : Commands.Env) : Cause → Operation
  | sessionStart => .setPresence (.str "online") .null
  | frame _ message => operationOf env message
  | rejoin first latest => .joinRoom (first.2.get "room") (roomNick env latest.2)

def tabs : Cause → List Tab
  | sessionStart => []
  | frame tab _ => [tab]
  | rejoin first latest => [first.1, latest.1]

def asked : Cause → Option (Tab × ClientMessage)
  | frame tab message => some (tab, message)
  | _ => none

def After (earlier : List Cause) : Cause → Prop
  | rejoin first latest =>
      (.frame first.1 first.2 ∈ earlier ∧ first.2.type = .joinRoom) ∧
        (.frame latest.1 latest.2 ∈ earlier ∧ latest.2.type = .joinRoom) ∧
          SameRoom first.2 latest.2
  | _ => True

end Cause

def Grounded (causes : List Cause) : Prop :=
  ∀ earlier cause later, causes = earlier ++ cause :: later → cause.After earlier

theorem grounded_snoc {causes : List Cause} {cause : Cause} (grounded : Grounded causes)
    (after : cause.After causes) : Grounded (causes ++ [cause]) := by
  intro earlier other later split
  rcases List.eq_nil_or_concat later with rfl | ⟨rest, last, rfl⟩
  · obtain ⟨rfl, same⟩ := List.append_inj' split rfl
    cases same
    exact after
  · rw [List.concat_eq_append, ← List.cons_append, ← List.append_assoc] at split
    obtain ⟨same, _⟩ := List.append_inj' split rfl
    exact grounded earlier other rest same

theorem mem_asked {causes : List Cause} {tab : Tab} {message : ClientMessage} :
    (tab, message) ∈ causes.filterMap Cause.asked ↔ .frame tab message ∈ causes := by
  rw [List.mem_filterMap]
  constructor
  · rintro ⟨cause, among, same⟩
    cases cause with
    | frame other text =>
        cases same
        exact among
    | _ => cases same
  · intro among
    exact ⟨_, among, rfl⟩

structure NamedBy (env : Commands.Env) (frames : List (Tab × ClientMessage)) (room : Key × Json)
    (first latest : Tab × ClientMessage) : Prop where
  firstSent : first ∈ frames ∧ first.2.type = .joinRoom
  latestSent : latest ∈ frames ∧ latest.2.type = .joinRoom
  same : SameRoom first.2 latest.2
  name : (first.2.get "room").key = some room.1
  nick : room.2 = roomNick env latest.2

def Joined (env : Commands.Env) (frames : List (Tab × ClientMessage)) (room : Key × Json) : Prop :=
  ∃ first latest, NamedBy env frames room first latest

/-- Everything the client has done is traced, and whatever will be joined again was asked for. -/
structure Traced (env : Commands.Env) (session : Session) (frames : List (Tab × ClientMessage)) :
    Prop where
  causes : ∃ causes : List Cause, session.operations = causes.map (Cause.operation env) ∧
    causes.filterMap Cause.asked = frames ∧ Grounded causes
  rooms : ∀ key nick, session.caches.joinedRooms.lookup key = some nick →
    Joined env frames (key, nick)
  rejoins : ∀ rooms, Rejoin.joining rooms ∈ session.rejoins →
    ∀ room ∈ rooms, Joined env frames room

section Traces

variable {env : Commands.Env} {session next : Session} {frames more : List (Tab × ClientMessage)}

theorem Joined.later {room : Key × Json} (joined : Joined env frames room) :
    Joined env (frames ++ more) room := by
  obtain ⟨first, latest, named⟩ := joined
  exact ⟨first, latest, named.firstSent.imp_left (List.mem_append_left more),
    named.latestSent.imp_left (List.mem_append_left more), named.same, named.name, named.nick⟩

/-- A frame that joins a room anew keeps the name that the room has. -/
theorem joined_anew {caches : Caches} {named : Key} {tab : Tab} {message : ClientMessage}
    (rooms : ∀ key nick, caches.joinedRooms.lookup key = some nick → Joined env frames (key, nick))
    (type : message.type = .joinRoom) (hashed : (message.get "room").key = some named) :
    Joined env (frames ++ [(tab, message)])
      (storedKey caches.joinedRooms named, roomNick env message) := by
  have sent : (tab, message) ∈ frames ++ [(tab, message)] ∧ message.type = .joinRoom :=
    ⟨List.mem_append_right _ (List.mem_singleton_self _), type⟩
  rcases stored_key_cases caches.joinedRooms named with own | known
  · rw [own]
    exact ⟨_, _, sent, sent, rfl, hashed, rfl⟩
  · obtain ⟨old, found⟩ := (caches.joinedRooms.mem_keys_iff _).mp known
    obtain ⟨first, _, before⟩ := rooms _ _ found
    refine ⟨first, _, before.firstSent.imp_left (List.mem_append_left _), sent, ?_, before.name, rfl⟩
    unfold SameRoom
    rw [before.name, hashed, Option.map_some, Option.map_some, stored_key_compared]

theorem fresh_traced : Traced env fresh [] := by
  constructor
  · refine ⟨[], rfl, rfl, ?_⟩
    intro earlier cause later split
    simp at split
  · intro key nick found
    cases found
  · intro rooms among
    cases among

theorem Traced.untouched (traced : Traced env session frames) (untouched : Untouched session next) :
    Traced env next frames := by
  obtain ⟨caches, _, _, rejoins, operations, _⟩ := untouched
  constructor
  · rw [operations]
    exact traced.causes
  · rw [caches]
    exact traced.rooms
  · rw [rejoins]
    exact traced.rejoins

theorem Traced.assign (traced : Traced env session frames) {caches : Caches}
    (rooms : ∀ key nick, caches.joinedRooms.lookup key = some nick →
      Joined env frames (key, nick)) : Traced env (assign session caches) frames :=
  ⟨traced.causes, rooms, traced.rejoins⟩

theorem Traced.call (traced : Traced env session frames) {cause : Cause}
    (after : ∀ causes, causes.filterMap Cause.asked = frames → cause.After causes) :
    Traced env (call session (cause.operation env)) (frames ++ cause.asked.toList) := by
  constructor
  · obtain ⟨causes, operations, asked, grounded⟩ := traced.causes
    refine ⟨causes ++ [cause], ?_, ?_, grounded_snoc grounded (after causes asked)⟩
    · simp only [Activity.call, operations, List.map_append, List.map_cons, List.map_nil]
    · rw [List.filterMap_append, asked]
      cases cause
      all_goals rfl
  · intro key nick found
    exact (traced.rooms key nick found).later
  · intro rooms among room inside
    exact (traced.rejoins rooms among room inside).later

theorem Traced.call_rejoin (traced : Traced env session frames) {room : Key × Json}
    (joined : Joined env frames room) :
    Traced env (Activity.call session (.joinRoom room.1.json room.2)) frames := by
  obtain ⟨first, latest, named⟩ := joined
  have same : (Cause.rejoin first latest).operation env = .joinRoom room.1.json room.2 := by
    rw [Cause.operation, Key.json_of_key named.name, named.nick]
  have called : Traced env (Activity.call session ((Cause.rejoin first latest).operation env))
      (frames ++ []) := by
    apply traced.call
    intro causes asked
    refine ⟨?_, ?_, named.same⟩
    · exact named.firstSent.imp_left fun among => mem_asked.mp (asked ▸ among)
    · exact named.latestSent.imp_left fun among => mem_asked.mp (asked ▸ among)
  rw [same, List.append_nil] at called
  exact called

theorem Traced.rejoin (traced : Traced env session frames) (index : Nat)
    {rooms : List (Key × Json)} (joined : ∀ room ∈ rooms, Joined env frames room) :
    Traced env (Activity.rejoin session index rooms) frames := by
  cases rooms with
  | nil =>
      refine ⟨traced.causes, traced.rooms, ?_⟩
      intro rooms among
      exact traced.rejoins rooms (List.mem_of_mem_eraseIdx among)
  | cons room rest =>
      have called := traced.call_rejoin (joined room List.mem_cons_self)
      refine ⟨called.causes, called.rooms, ?_⟩
      intro rooms among
      rcases List.mem_or_eq_of_mem_set among with before | same
      · exact traced.rejoins rooms before
      · cases same
        exact joined

/-- The rooms after a command are those of before and the one it joins. -/
theorem rooms_of_command {caches after : Caches} {message : ClientMessage} {plan : Plan}
    (handled : Commands.handleCommand env caches message = .ok (after, plan)) {key : Key}
    {nick : Json} (found : after.joinedRooms.lookup key = some nick) :
    caches.joinedRooms.lookup key = some nick ∨
      message.type = .joinRoom ∧
        (∃ named, (message.get "room").key = some named ∧
          key = storedKey caches.joinedRooms named) ∧
          nick = roomNick env message ∧ ∃ operation resume, plan = .call operation resume := by
  cases Commands.ran_of_command handled with
  | @joinRoom joined type allowed hashed =>
      simp only [Replay.joinRoom, Dict.lookup_set_item] at found
      split_ifs at found with same
      · cases found
        right
        exact ⟨type, ⟨joined, hashed, same⟩, rfl, _, _, rfl⟩
      · exact .inl found
  | leaveRoom type popped =>
      left
      unfold Commands.popRoom at popped
      split at popped
      · cases popped
        simp only [Replay.leaveRoom, Dict.lookup_pop] at found
        split_ifs at found
        exact found
      · split_ifs at popped
        cases popped
        exact found
  | _ => exact .inl found

theorem Traced.event (traced : Traced env session frames) (event : Event) :
    Traced env (Activity.assign session (onEvent session.caches event)) frames := by
  apply traced.assign
  have same : (onEvent session.caches event).joinedRooms = session.caches.joinedRooms := by
    cases event
    all_goals rfl
  rw [same]
  exact traced.rooms

end Traces

section Steps

variable {env : Env} {session next : Session} {frames : List (Tab × ClientMessage)}

theorem heard_of_handled {raw : Json} {after : Caches} {plan : Plan} {tab : Tab} {order : List Tab}
    (handled : Pump.parseAndHandle env.commands session.caches raw = .ok (after, plan)) :
    ∃ message, parseClientMessage env.commands.repr raw = .ok message ∧
      Commands.handleCommand env.commands session.caches message = .ok (after, plan) ∧
        (∀ operation resume, plan = .call operation resume →
          heard env session (.receive tab raw order) = [(tab, message)]) ∧
          ∀ finish, plan = .finish finish → heard env session (.receive tab raw order) = [] := by
  obtain ⟨message, parsed, command⟩ := (Pump.parse_and_handle_ok_iff _ _ _ _).mp handled
  have calls := @called_iff env.commands session.caches message
  rw [command] at calls
  refine ⟨message, parsed, command, ?_, ?_⟩
  · rintro operation resume rfl
    have passes := ((calls operation).mp rfl).1
    simp only [heard, parsed, passes, if_true]
  · rintro finish rfl
    have refused : passesChecks env.commands session.caches message = false := by
      by_contra passes
      have called := (calls _).mpr ⟨by simpa using passes, rfl⟩
      cases called
    simp [heard, parsed, refused]

theorem heard_of_raised {raw : Json} {exception : PyException} {tab : Tab} {order : List Tab}
    (raised : Pump.parseAndHandle env.commands session.caches raw = .error exception) :
    heard env session (.receive tab raw order) = [] := by
  cases parsed : parseClientMessage env.commands.repr raw with
  | error error => simp [heard, parsed]
  | ok message =>
      have command : Commands.handleCommand env.commands session.caches message =
          .error exception := by
        unfold Pump.parseAndHandle at raised
        rw [parsed] at raised
        exact raised
      have calls := @called_iff env.commands session.caches message
      rw [command] at calls
      have refused : passesChecks env.commands session.caches message = false := by
        by_contra passes
        have called := (calls _).mpr ⟨by simpa using passes, rfl⟩
        cases called
      simp [heard, parsed, refused]

theorem traced_step {action : Action} (traced : Traced env.commands session frames)
    (fired : Activity.step env session action = some next) :
    Traced env.commands next (frames ++ heard env session action) := by
  have silent : heard env session action = [] → Traced env.commands next frames →
      Traced env.commands next (frames ++ heard env session action) := by
    intro nothing kept
    rw [nothing, List.append_nil]
    exact kept
  cases fires_of_step fired with
  | lifecycle _ fired => exact silent rfl (traced.untouched (untouched_lifecycle fired))
  | connectRaises fired => exact silent rfl (traced.untouched (untouched_lifecycle fired))
  | event _ fired => exact silent rfl ((traced.event _).untouched (untouched_lifecycle fired))
  | @connected event order _ =>
      have called : Traced env.commands
          (Activity.call (Activity.assign session (onEvent session.caches event))
            (Cause.sessionStart.operation env.commands)) (frames ++ []) := by
        apply (traced.event event).call
        intro causes asked
        trivial
      rw [List.append_nil] at called
      refine silent rfl ⟨called.causes, called.rooms, ?_⟩
      intro rooms among
      rcases List.mem_append.mp among with before | last
      · exact called.rejoins rooms before
      · cases List.mem_singleton.mp last
  | refused _ _ handled fired =>
      exact silent (heard_of_raised handled) (traced.untouched (untouched_conclude fired))
  | @finished tab raw order caches finish _ _ _ handled fired =>
      obtain ⟨message, _, command, _, nothing⟩ := @heard_of_handled _ _ _ _ _ tab order handled
      apply silent (nothing finish rfl)
      have assigned : Traced env.commands (Activity.assign session caches) frames := by
        apply traced.assign
        intro key nick found
        rcases rooms_of_command command found with before | ⟨_, _, _, _, _, same⟩
        · exact traced.rooms key nick before
        · cases same
      exact assigned.untouched (untouched_conclude fired)
  | @called tab raw order caches operation resume _ _ handled =>
      obtain ⟨message, _, command, own, _⟩ := @heard_of_handled _ _ _ _ _ tab order handled
      have asks : operation = operationOf env.commands message := by
        have calls := @called_iff env.commands session.caches message operation
        rw [command] at calls
        exact (calls.mp rfl).2
      subst asks
      have called : Traced env.commands
          (Activity.call session ((Cause.frame tab message).operation env.commands))
            (frames ++ [(tab, message)]) := by
        apply traced.call
        intro causes asked
        trivial
      rw [own _ resume rfl]
      refine ⟨called.causes, ?_, called.rejoins⟩
      · intro key nick found
        rcases rooms_of_command command found with before | ⟨type, ⟨named, hashed, rfl⟩, rfl, _⟩
        · exact called.rooms key nick before
        · exact joined_anew traced.rooms type hashed
  | @operationEnds tab _ _ _ _ _ _ fired =>
      have answered : Traced env.commands
          { session with commands := Function.update session.commands tab none } frames :=
        ⟨traced.causes, traced.rooms, traced.rejoins⟩
      exact silent rfl (answered.untouched (untouched_conclude fired))
  | announced =>
      apply silent rfl (traced.rejoin _ _)
      intro room among
      exact traced.rooms room.1 room.2
        ((session.caches.joinedRooms.lookup_eq_some_iff room.1 room.2).mpr among)
  | announceRaises =>
      refine silent rfl ⟨traced.causes, traced.rooms, ?_⟩
      intro rooms among
      exact traced.rejoins rooms (List.mem_of_mem_eraseIdx among)
  | rejoined joining =>
      apply silent rfl (traced.rejoin _ _)
      intro room among
      exact traced.rejoins _ (List.mem_of_getElem? joining) room (List.mem_cons_of_mem _ among)
  | sent _ advanced => exact silent rfl (traced.untouched (untouched_advance advanced))
  | sendRaises _ advanced => exact silent rfl (traced.untouched (untouched_advance advanced))

theorem present_after {action : Action} (fired : Activity.step env session action = some next)
    {tab : Tab} (there : session.account.handlers tab ≠ .absent) :
    next.account.handlers tab ≠ .absent := by
  have viewed := Observed.taken_step fired
  cases takes : Observed.taken env session action with
  | none =>
      rw [takes] at viewed
      have same : session.account = next.account := Option.some.inj viewed
      exact same ▸ there
  | some part =>
      rw [takes] at viewed
      by_cases moved : Footprint.mover part = some tab
      · exact Footprint.mover_present viewed moved
      · rw [(Footprint.footprint_of_step viewed).handlers tab moved]
        exact there

theorem heard_present {action : Action} (fired : Activity.step env session action = some next)
    {pair : Tab × ClientMessage} (among : pair ∈ heard env session action) :
    session.account.handlers pair.1 ≠ .absent := by
  have pumping : ∀ {tab raw order}, action = .receive tab raw order →
      session.account.handlers tab = .pumping := by
    rintro tab raw order rfl
    cases fires_of_step fired with
    | refused pumping => exact pumping
    | finished pumping => exact pumping
    | called pumping => exact pumping
  cases action with
  | receive tab raw order =>
      have own : pair.1 = tab := by
        cases parsed : parseClientMessage env.commands.repr raw with
        | error error => simp [heard, parsed] at among
        | ok message =>
            simp only [heard, parsed] at among
            split_ifs at among
            · rw [List.mem_singleton.mp among]
            · cases among
      rw [own, pumping rfl]
      intro absent
      cases absent
  | _ => cases among

end Steps

def heardBy (env : Site.Env) (index : Nat) (site : Site.State) :
    Site.Action → List (Tab × ClientMessage)
  | .connect _ => []
  | .account other action =>
      if other = index then heard (Site.accountEnv env (site.jids index)) (site.sessions index) action
      else []

theorem heard_by_eq (env : Site.Env) (index : Nat) :
    heardBy env index = Ledgers.contributed heard env index := by
  funext site action
  cases action
  all_goals rfl

/-- What an account has done for the frames it has heard, whose tabs have their handlers. -/
structure Accounts (env : Env) (session : Session) (frames : List (Tab × ClientMessage)) : Prop where
  traced : Traced env.commands session frames
  present : ∀ pair ∈ frames, session.account.handlers pair.1 ≠ .absent

abbrev Ledger (env : Site.Env) (index : Nat) (site : Site.State)
    (frames : List (Tab × ClientMessage)) : Prop :=
  Ledgers.Ledger Accounts env index site frames

theorem accounts_kept : Ledgers.Kept Accounts heard := by
  refine ⟨?_, ?_, fun _ _ _ => rfl⟩
  · intro env
    refine ⟨fresh_traced, ?_⟩
    intro pair among
    cases among
  · intro env session next frames action accounts fired
    refine ⟨traced_step accounts.traced fired, ?_⟩
    intro pair among
    apply present_after fired
    rcases List.mem_append.mp among with before | new
    · exact accounts.present pair before
    · exact heard_present fired new

section Ledgers

variable {env : Site.Env} {index : Nat} {site next : Site.State}
  {frames : List (Tab × ClientMessage)}

theorem ledger_step {action : Site.Action} (ledger : Ledger env index site frames)
    (fired : Site.step env site action = some next) :
    Ledger env index next (frames ++ heardBy env index site action) := by
  rw [heard_by_eq]
  exact Ledgers.ledger_step accounts_kept ledger fired

theorem ledger_mapped (ledger : Ledger env index site frames) (sound : Site.Sound env site)
    {causes : List Cause} (asked : causes.filterMap Cause.asked = frames)
    (grounded : Grounded causes) :
    ∀ cause ∈ causes, ∀ tab ∈ cause.tabs, Site.jidOf env tab = some (site.jids index) := by
  have mapped : ∀ tab message, Cause.frame tab message ∈ causes →
      Site.jidOf env tab = some (site.jids index) := by
    intro tab message among
    have there := ledger.holds.present (tab, message) (asked ▸ mem_asked.mpr among)
    exact (sound.present index tab there).2.2
  intro cause among tab own
  cases cause with
  | sessionStart => cases own
  | frame other message =>
      cases List.mem_singleton.mp own
      exact mapped tab message among
  | rejoin first latest =>
      obtain ⟨earlier, later, split⟩ := List.append_of_mem among
      obtain ⟨⟨named, _⟩, ⟨nicked, _⟩, _⟩ := grounded earlier _ later split
      rcases List.mem_pair.mp own with rfl | rfl
      · exact mapped _ _ (split ▸ List.mem_append_left _ named)
      · exact mapped _ _ (split ▸ List.mem_append_left _ nicked)

end Ledgers

/-- In every run of the site, whatever the client of an account is made to do is done for a
frame of a tab of the account's own users, frame by frame, unless it shows the account online or
joins again a room that such frames asked for. -/
theorem operations_are_asked_for {env : Site.Env} {site : Site.State} {actions : List Site.Action}
    (run : replay (Site.step env) Site.empty actions = some site) (index : Nat) :
    ∃ causes : List Cause,
      (site.sessions index).operations =
          causes.map (Cause.operation (Site.accountEnv env (site.jids index)).commands) ∧
        causes.filterMap Cause.asked =
            collect (Site.step env) (heardBy env index) Site.empty actions ∧
          Grounded causes ∧
            ∀ cause ∈ causes, ∀ tab ∈ cause.tabs,
              Site.jidOf env tab = some (site.jids index) := by
  have ledger := Ledgers.ledger_run accounts_kept run index
  rw [← heard_by_eq] at ledger
  obtain ⟨causes, operations, asked, grounded⟩ := ledger.holds.traced.causes
  exact ⟨causes, operations, asked, grounded, ledger_mapped ledger (Site.sound_run run) asked grounded⟩

/-- Alice joins a room, her stream comes back, and bob has a message sent. -/
def joinsAndSends : List Site.Action :=
  [.connect 0] ++ Isolation.settles 0 0 ++
    [.account 0 (.receive 0 (.obj [("type", .str "join_room"),
        ("room", .str "team@conference.example.com")]) []),
      .account 0 (.event (.connected "alice@example.com") []), .account 0 (.announced 0 true),
      .connect 1] ++ Isolation.settles 1 1 ++
    [.account 1 (.receive 1 (.obj [("type", .str "send_message"), ("to", .str "carol@example.com"),
      ("body", .str "hello")]) [])]

def afterJoinsAndSends : Site.State :=
  (replay (Site.step Isolation.office) Site.empty joinsAndSends).getD Site.empty

theorem alice_and_bob_are_answered_for :
    (∃ causes : List Cause,
      [.joinRoom (.str "team@conference.example.com") (.str "alice"), .setPresence (.str "online") .null,
          .joinRoom (.str "team@conference.example.com") (.str "alice")] =
          causes.map (Cause.operation (Site.accountEnv Isolation.office "alice@example.com").commands) ∧
        causes.filterMap Cause.asked =
            [(0, ⟨.joinRoom, [("room", .str "team@conference.example.com")]⟩)] ∧
          Grounded causes ∧
            ∀ cause ∈ causes, ∀ tab ∈ cause.tabs,
              Site.jidOf Isolation.office tab = some "alice@example.com") ∧
      ∃ causes : List Cause,
        [.sendMessage (.str "carol@example.com") (.str "hello")] =
            causes.map (Cause.operation (Site.accountEnv Isolation.office "bob@example.com").commands) ∧
          causes.filterMap Cause.asked =
              [(1, ⟨.sendMessage, [("to", .str "carol@example.com"), ("body", .str "hello")]⟩)] ∧
            Grounded causes ∧
              ∀ cause ∈ causes, ∀ tab ∈ cause.tabs,
                Site.jidOf Isolation.office tab = some "bob@example.com" := by
  have ran : replay (Site.step Isolation.office) Site.empty joinsAndSends =
      some afterJoinsAndSends := rfl
  exact ⟨operations_are_asked_for ran 0, operations_are_asked_for ran 1⟩

end PyConduit.Provenance
