import PyConduit.Payloads
import PyConduit.RoomTalk
import PyConduit.Screen

/-!
# What a tab sends and what the account makes of it

`app.js` writes its frames as object literals, and `parse_client_message` and the commands
read their fields by name. A frame that names whom it is for, and whose text is not over the
limit, becomes the one operation of the client that the user meant; the tab sends no other
frames, unless somebody gave it an empty name.
-/

namespace PyConduit.Requests

open Protocol Replay Commands Browser Screen GuardedRun
open Payloads (calledOperation passedOn WithinLimit mem_called_required_iff
  mem_called_guarded_send_iff mem_called_join_room_iff mem_called_leave_room_iff)

set_option autoImplicit false

/-- The values of the options of the presence select. -/
def showText : Show → String
  | .online => "online"
  | .away => "away"
  | .dnd => "dnd"
  | .xa => "xa"
  | .offline => "offline"

def typed (type : String) (fields : List (String × Json)) : Json := .obj (("type", .str type) :: fields)

def literal : Sent → Json
  | .talk (.loadHistory jid before) =>
      typed "load_history" [("jid", .str jid), ("before", before.elim .null .str)]
  | .talk (.sendMessage peer body) => typed "send_message" [("to", .str peer), ("body", .str body)]
  | .talk (.sendMuc room body) => typed "send_muc" [("room", .str room), ("body", .str body)]
  | .setPresence shown => typed "set_presence" [("show", .str (showText shown))]
  | .addContact jid => typed "add_contact" [("jid", .str jid)]
  | .removeContact jid => typed "remove_contact" [("jid", .str jid)]
  | .subscription jid accept =>
      typed "subscription"
        [("jid", .str jid), ("action", .str (if accept then "accept" else "decline"))]
  | .joinRoom room => typed "join_room" [("room", .str room)]
  | .leaveRoom room => typed "leave_room" [("room", .str room)]
  | .discoServers => typed "disco_servers" []

def parsed : Sent → ClientMessage
  | .talk request => RoomTalk.command request
  | .setPresence shown => ⟨.setPresence, [("show", .str (showText shown))]⟩
  | .addContact jid => ⟨.addContact, [("jid", .str jid)]⟩
  | .removeContact jid => ⟨.removeContact, [("jid", .str jid)]⟩
  | .subscription jid accept =>
      ⟨.subscription, [("jid", .str jid), ("action", .str (if accept then "accept" else "decline"))]⟩
  | .joinRoom room => ⟨.joinRoom, [("room", .str room)]⟩
  | .leaveRoom room => ⟨.leaveRoom, [("room", .str room)]⟩
  | .discoServers => ⟨.discoServers, []⟩

def meant (env : Env) : Sent → Operation
  | .talk (.loadHistory jid before) =>
      .fetchHistory (.str jid) (before.elim .null .str) env.config.pageSize
  | .talk (.sendMessage peer body) => .sendMessage (.str peer) (.str body)
  | .talk (.sendMuc room body) => .sendMuc (.str room) (.str body)
  | .setPresence shown => .setPresence (.str (showText shown)) .null
  | .addContact jid => .addContact (.str jid) .null
  | .removeContact jid => .removeContact (.str jid)
  | .subscription jid accept => .respondSubscription (.str jid) accept
  | .joinRoom room => .joinRoom (.str room) (.str (Text.before '@' env.jid))
  | .leaveRoom room => .leaveRoom (.str room)
  | .discoServers => .discoRooms env.config.discoveryServers

def named : Sent → List String
  | .talk (.loadHistory jid _) => [jid]
  | .talk (.sendMessage peer _) => [peer]
  | .talk (.sendMuc room _) => [room]
  | .setPresence _ => []
  | .addContact jid => [jid]
  | .removeContact jid => [jid]
  | .subscription jid _ => [jid]
  | .joinRoom room => [room]
  | .leaveRoom room => [room]
  | .discoServers => []

def text : Sent → Option String
  | .talk (.sendMessage _ body) => some body
  | .talk (.sendMuc _ body) => some body
  | _ => none

/-- The frame asks for a room on a server that is not configured. -/
def Foreign (env : Env) (request : Sent) : Prop :=
  ∃ room, request = .joinRoom room ∧ roomDomainAllowed env (.str room) = .ok false

section Frames

variable {env : Env} {caches : Caches}

theorem room_domain_text (env : Env) (room : String) :
    roomDomainAllowed env (.str room) = .ok true ∨ roomDomainAllowed env (.str room) = .ok false := by
  unfold roomDomainAllowed
  split
  · exact .inl rfl
  · rcases Bool.eq_false_or_eq_true
      (decide (env.lower (checkedDomain room) ∈ env.config.discoveryServers.map env.lower)) with
      found | absent
    · exact .inl (congrArg Except.ok found)
    · exact .inr (congrArg Except.ok absent)

theorem parse_literal (repr : String → String) (request : Sent) :
    parseClientMessage repr (literal request) = .ok (parsed request) := by
  cases request with
  | talk request =>
      cases request with
      | _ => rfl
  | _ => rfl

theorem passed_on_eq (env : Env) (caches : Caches) (request : Sent) :
    passedOn env caches (literal request) =
      calledOperation (handleCommand env caches (parsed request)) := by
  rw [passedOn, Pump.parseAndHandle, parse_literal]
  rfl

theorem missing_text (name : String) : ClientMessage.missing (.str name) = false ↔ name ≠ "" := by
  simp [ClientMessage.missing]

theorem called_one_iff (message : ClientMessage) (field : String) {name : String}
    {operation : Operation}
    {resume : Except String operation.Value → String → Finish}
    (given : message.get field = .str name) :
    operation ∈ calledOperation (required env message [field] >>= fun _ =>
        return (caches, .call operation resume)) ↔ name ≠ "" := by
  rw [mem_called_required_iff, ← missing_text, ← given]
  constructor
  · rintro ⟨present, _⟩
    exact present field (List.mem_singleton_self field)
  · intro present
    refine ⟨?_, rfl⟩
    intro other among
    rw [List.mem_singleton.mp among]
    exact present

theorem called_send_iff (message : ClientMessage) (field : String) {name body : String}
    {operation : Operation}
    {resume : Except String operation.Value → String → Finish}
    (given : message.get field = .str name) (written : message.get "body" = .str body) :
    operation ∈ calledOperation (required env message [field, "body"] >>= fun _ => do
        match ← tooLong env (message.get "body") (message.get field) with
        | some frame => return (caches, .finish (.reply frame))
        | none => return (caches, .call operation resume)) ↔
      name ≠ "" ∧ body ≠ "" ∧ WithinLimit env (.str body) := by
  apply (mem_called_required_iff [field, "body"] _ operation).trans
  refine (and_congr_right fun _ => mem_called_guarded_send_iff _ _ operation resume operation).trans ?_
  rw [← missing_text, ← missing_text, ← given, ← written]
  constructor
  · rintro ⟨present, within, _⟩
    exact ⟨present field (by simp), present "body" (by simp), within⟩
  · rintro ⟨there, filled, within⟩
    refine ⟨?_, within, rfl⟩
    intro other among
    rcases List.mem_pair.mp among with rfl | rfl
    · exact there
    · exact filled

theorem passed_on_literal (env : Env) (caches : Caches) (request : Sent) :
    passedOn env caches (literal request) = some (meant env request) ↔
      (∀ name ∈ named request, name ≠ "") ∧
        (∀ body ∈ text request, body ≠ "" ∧ WithinLimit env (.str body)) ∧
          ¬Foreign env request := by
  rw [passed_on_eq]
  cases request with
  | talk request =>
      cases request with
      | loadHistory jid before =>
          apply (called_one_iff (parsed (.talk (.loadHistory jid before))) "jid" rfl).trans
          simp [named, text, Foreign]
      | sendMessage peer body =>
          apply (called_send_iff (parsed (.talk (.sendMessage peer body))) "to" rfl rfl).trans
          simp [named, text, Foreign]
      | sendMuc room body =>
          apply (called_send_iff (parsed (.talk (.sendMuc room body))) "room" rfl rfl).trans
          simp [named, text, Foreign]
  | setPresence shown =>
      have called : calledOperation (handleCommand env caches (parsed (.setPresence shown))) =
          some (meant env (.setPresence shown)) := rfl
      simp [called, named, text, Foreign]
  | addContact jid =>
      apply (called_one_iff (parsed (.addContact jid)) "jid" rfl).trans
      simp [named, text, Foreign]
  | removeContact jid =>
      apply (called_one_iff (parsed (.removeContact jid)) "jid" rfl).trans
      simp [named, text, Foreign]
  | subscription jid accept =>
      have given : (parsed (.subscription jid accept)).get "jid" = .str jid := rfl
      have filled : ClientMessage.missing ((parsed (.subscription jid accept)).get "action") = false := by
        cases accept
        all_goals rfl
      have calls : meant env (.subscription jid accept) ∈ calledOperation (return (caches,
          .call (.respondSubscription (.str jid)
            (accepts ((parsed (.subscription jid accept)).get "action")))
            (unguarded fun _ _ => .done))) := by
        cases accept
        all_goals rfl
      apply (mem_called_required_iff ["jid", "action"] _ _).trans
      constructor
      · rintro ⟨present, _⟩
        have there := present "jid" (by simp)
        rw [given, missing_text] at there
        simpa [named, text, Foreign] using there
      · rintro ⟨there, _⟩
        refine ⟨?_, calls⟩
        intro field among
        rcases List.mem_pair.mp among with rfl | rfl
        · rw [given, missing_text]
          exact there jid (List.mem_singleton_self jid)
        · exact filled
  | joinRoom room =>
      have given : (parsed (.joinRoom room)).get "room" = .str room := rfl
      apply (mem_called_join_room_iff _).trans
      simp only [List.forall_mem_singleton, given, missing_text, named, text, Foreign]
      have same : meant env (.joinRoom room) =
          .joinRoom (.str room) (roomNick env (parsed (.joinRoom room))) := rfl
      constructor
      · rintro ⟨there, allowed, _⟩
        refine ⟨there, by simp, ?_⟩
        rintro ⟨other, same, refused⟩
        cases same
        rw [allowed] at refused
        cases refused
      · rintro ⟨there, _, home⟩
        refine ⟨there, ?_, rfl, same⟩
        rcases room_domain_text env room with allowed | refused
        · exact allowed
        · exact absurd ⟨room, rfl, refused⟩ home
  | leaveRoom room =>
      have given : (parsed (.leaveRoom room)).get "room" = .str room := rfl
      apply (mem_called_leave_room_iff _).trans
      simp [given, missing_text, named, text, Foreign, meant, Json.key]
  | discoServers =>
      have called : calledOperation (handleCommand env caches (parsed .discoServers)) =
          some (meant env .discoServers) := rfl
      simp [called, named, text, Foreign]

end Frames

section Lengths

theorem length_trim (text : String) : (trim text).length ≤ text.length := by
  have inner : (text.toList.dropWhile isSpace).length ≤ text.toList.length :=
    (List.dropWhile_sublist _).length_le
  have outer : ((text.toList.dropWhile isSpace).reverse.dropWhile isSpace).length ≤
      (text.toList.dropWhile isSpace).reverse.length := (List.dropWhile_sublist _).length_le
  rw [List.length_reverse] at outer
  have kept := outer.trans inner
  rw [← String.length_toList, ← String.length_toList, trim, String.toList_ofList, List.length_reverse]
  exact kept

/-- The browser counts a character outside the basic plane twice. -/
theorem length_le (text : String) : text.length ≤ length text := by
  have each : ∀ chars : List Char,
      chars.length ≤ (chars.map fun char => if char.toNat < 0x10000 then 1 else 2).sum := by
    intro chars
    induction chars with
    | nil => exact Nat.le_refl 0
    | cons char rest induction =>
        rw [List.map_cons, List.sum_cons, List.length_cons]
        split_ifs
        · omega
        · omega
  rw [← String.length_toList]
  exact each text.toList

end Lengths

def NamesAll : Frame → Prop
  | .message message => message.conversation ≠ .str ""
  | .history conversation _ _ => conversation ≠ .str ""
  | .presence jid _ _ => jid ≠ ""
  | .roster contacts => ∀ contact ∈ contacts, contact.jid ≠ ""
  | .subscriptionRequest jid => jid ≠ ""
  | .mucJoined room _ _ => room ≠ .str ""
  | .mucMessage room _ _ _ _ _ _ => room ≠ ""
  | .mucOccupants room _ => room ≠ .str ""
  | .mucPresence room _ _ => room ≠ ""
  | .discoServers servers => ∀ server ∈ servers, ∀ room ∈ server.rooms, room.jid ≠ ""
  | _ => True

instance decidableText (value : Json) (text : String) : Decidable (value = .str text) :=
  match value with
  | .str other => decidable_of_iff (other = text) (by simp)
  | .null | .bool _ | .number _ | .nonFinite _ | .arr _ | .obj _ => isFalse (by simp)

instance (frame : Frame) : Decidable (NamesAll frame) := by
  unfold NamesAll
  split <;> infer_instance

structure NamedPage (page : Page) : Prop where
  convos : "" ∉ page.convos.keys
  roster : "" ∉ page.roster.keys
  active : page.active ≠ some ""

section Pages

variable {page : Page} {id name : String}

theorem absent_set_item {Value : Type} {dict : Dict String Value} {key : String} {value : Value}
    (absent : "" ∉ dict.keys) (filled : key ≠ "") : "" ∉ (dict.setItem key value).keys := by
  rw [Dict.mem_keys_set_item]
  rintro (early | same)
  · exact absent early
  · exact filled same.symm

theorem absent_pop {Value : Type} {dict : Dict String Value} {key : String}
    (absent : "" ∉ dict.keys) : "" ∉ (dict.pop key).keys := by
  rw [Dict.keys_pop]
  exact fun among => absent (List.mem_filter.mp among).1

theorem NamedPage.change (holds : NamedPage page) (filled : id ≠ "") {kind : Kind}
    {assigned : Convo → Convo} : NamedPage (Browser.change page id kind name assigned) :=
  ⟨absent_set_item holds.convos filled, holds.roster, holds.active⟩

theorem NamedPage.bump (holds : NamedPage page) (filled : id ≠ "") :
    NamedPage (Browser.bump page id) := by
  unfold Browser.bump
  split
  · split_ifs
    · exact holds
    · exact ⟨absent_set_item holds.convos filled, holds.roster, holds.active⟩
  · exact holds

theorem NamedPage.dropped (holds : NamedPage page) (id : String) :
    NamedPage (Browser.dropped page id) := by
  refine ⟨absent_pop holds.convos, holds.roster, ?_⟩
  unfold Browser.dropped
  dsimp only
  split_ifs
  · simp
  · exact holds.active

theorem NamedPage.set_active (holds : NamedPage page) (filled : id ≠ "") :
    NamedPage (Browser.setActive page id).1 :=
  ⟨absent_set_item holds.convos filled, holds.roster, fun same => filled (Option.some.inj same)⟩

theorem NamedPage.contacts (holds : NamedPage page) {contacts : List Contact}
    (filled : ∀ contact ∈ contacts, contact.jid ≠ "") :
    "" ∉ (contacts.foldl Browser.addContact page.roster).keys := by
  have each : ∀ roster : Dict String RosterEntry, "" ∉ roster.keys →
      "" ∉ (contacts.foldl Browser.addContact roster).keys := by
    induction contacts with
    | nil => exact fun _ absent => absent
    | cons contact rest induction =>
        intro roster absent
        apply induction fun contact among => filled contact (List.mem_cons_of_mem _ among)
        exact absent_set_item absent (filled contact List.mem_cons_self)
  exact each page.roster holds.roster

theorem NamedPage.joined (holds : NamedPage page) (filled : id ≠ "") :
    NamedPage (Browser.joined page id).1 := by
  have named : NamedPage (entered page id) := holds.change filled
  rw [joined_eq]
  split_ifs
  · exact named.set_active filled
  · exact named

theorem NamedPage.handle_frame (holds : NamedPage page) {frame : Frame} (names : NamesAll frame) :
    NamedPage (Browser.handleFrame page frame).1 := by
  have text : ∀ {id : String}, Json.str id ≠ .str "" → id ≠ "" := by
    rintro id apart rfl
    exact apart rfl
  unfold Browser.handleFrame
  split
  · next message =>
      split
      · next id conversation =>
          have filled : id ≠ "" := text (conversation ▸ names)
          split_ifs
          · exact (holds.change filled).bump filled
          · exact holds.change filled
      · exact holds
  · next conversation messages complete =>
      split
      · exact holds.change (text names)
      · exact holds
  · exact ⟨holds.convos, absent_set_item holds.roster names, holds.active⟩
  · exact ⟨holds.convos, holds.contacts names, holds.active⟩
  · exact holds.joined (text names)
  · exact holds.dropped _
  · split_ifs
    · exact holds.change names
    · exact (holds.change names).bump names
  · dsimp only
    exact holds.change (text names)
  · exact holds.change names
  · split_ifs with known
    · exact holds.change known.1
    · exact holds
  · exact holds

theorem set_active_asks {request : Request} (asked : request ∈ (Browser.setActive page id).2) :
    request = .loadHistory id none := by
  simp only [Browser.setActive] at asked
  split_ifs at asked
  · exact List.mem_singleton.mp asked
  · cases asked

/-- The only frame that makes a tab ask for something is that of a room that is joined. -/
theorem frame_asks {frame : Frame} {request : Request}
    (asked : request ∈ (Browser.handleFrame page frame).2) :
    ∃ room nick subject, frame = .mucJoined (.str room) nick subject ∧
      request = .loadHistory room none := by
  unfold Browser.handleFrame at asked
  split at asked
  · split at asked
    · cases asked
    · cases asked
  · split at asked
    · cases asked
    · cases asked
  · cases asked
  · cases asked
  · next room nick subject =>
      refine ⟨room, nick, subject, rfl, ?_⟩
      rw [joined_eq] at asked
      split_ifs at asked
      · exact set_active_asks asked
      · cases asked
  · cases asked
  · cases asked
  · cases asked
  · cases asked
  · split_ifs at asked
    · cases asked
    · cases asked
  · cases asked

end Pages

/-- The frames come from the server of this configuration and name what they are about, a
contact is added under a name that is not blank, and no text is submitted before the first
`ready` has set the limit. -/
def Careful (env : Env) (screen : State) : Screen.Action → Prop
  | .frame _ (.ready _ _ _ _ _ limit) => limit = env.config.maxMessageChars
  | .frame _ frame => NamesAll frame
  | .gesture (.adds (some typed)) => typed = "" ∨ trim typed ≠ ""
  | .gesture .submits => env.config.maxMessageChars = 0 ∨ screen.maxLength.isSome
  | _ => True

instance (env : Env) (screen : State) (action : Screen.Action) :
    Decidable (Careful env screen action) := by
  unfold Careful
  split <;> infer_instance

structure Named (env : Env) (screen : State) : Prop where
  page : NamedPage screen.page
  banner : screen.banner ≠ some ""
  listing : ∀ server ∈ screen.listing, ∀ room ∈ server.rooms, room.jid ≠ ""
  limit : ∀ length, screen.maxLength = some length → (length : Int) = env.config.maxMessageChars

def Complete (env : Env) (request : Sent) : Prop :=
  (∀ name ∈ named request, name ≠ "") ∧
    ∀ body ∈ text request, body ≠ "" ∧ WithinLimit env (.str body)

section Runs

variable {env : Env} {screen next : State}

theorem complete_of_named {request : Sent} (textless : text request = none)
    (filled : ∀ name ∈ named request, name ≠ "") : Complete env request := by
  refine ⟨filled, ?_⟩
  rw [textless]
  intro body among
  cases among

theorem complete_set_active {page : Page} {id : String} (filled : id ≠ "") :
    ∀ request ∈ (Browser.setActive page id).2.map .talk, Complete env request := by
  intro request among
  obtain ⟨talk, asked, rfl⟩ := List.mem_map.mp among
  rw [set_active_asks asked]
  exact complete_of_named rfl (by simpa [named] using filled)

theorem active_filled (holds : Named env screen) {id : String}
    (active : screen.page.active = some id) : id ≠ "" := by
  rintro rfl
  exact holds.page.active active

theorem known_filled (holds : Named env screen) {id : String} {convo : Convo}
    (found : screen.page.convos.lookup id = some convo) : id ≠ "" := by
  rintro rfl
  exact holds.page.convos ((Dict.mem_keys_iff ..).mpr ⟨convo, found⟩)

theorem listed_filled (holds : Named env screen) {id : String} (row : listed screen.page id) :
    id ≠ "" := by
  rintro rfl
  rcases row with contact | convo
  · exact holds.page.roster contact
  · exact holds.page.convos convo

theorem within_of_fits (holds : Named env screen) (short : fits screen)
    (limited : env.config.maxMessageChars = 0 ∨ screen.maxLength.isSome) :
    WithinLimit env (.str (trim screen.composer)) := by
  rcases limited with unlimited | set
  · exact .inl unlimited
  · obtain ⟨limit, found⟩ := Option.isSome_iff_exists.mp set
    simp only [fits, found] at short
    have trimmed := length_trim screen.composer
    have counted := length_le screen.composer
    have same := holds.limit limit found
    exact .inr ⟨(trim screen.composer).length, rfl, by omega⟩

theorem complete_asks {action : Screen.Action} (holds : Named env screen)
    (careful : Careful env screen action) (fired : step screen action = some next) :
    ∀ request ∈ asks screen action, Complete env request := by
  have one : ∀ {single : Sent}, Complete env single → ∀ request ∈ [single], Complete env request := by
    intro single complete request among
    rw [List.mem_singleton.mp among]
    exact complete
  have none : ∀ request ∈ ([] : List Sent), Complete env request := by
    intro request among
    cases among
  cases action with
  | frame socket frame =>
      intro request among
      obtain ⟨talk, asked, rfl⟩ := List.mem_map.mp among
      obtain ⟨room, nick, subject, rfl, rfl⟩ := frame_asks asked
      have filled : room ≠ "" := by
        rintro rfl
        exact careful rfl
      exact complete_of_named rfl (by simpa [named] using filled)
  | gesture gesture =>
      cases acts_of_act fired with
      | opens row => exact complete_set_active (listed_filled holds row)
      | cancels nothing =>
          rcases nothing with rfl | rfl
          · exact none
          · exact none
      | @adds typed filled =>
          have bare : trim typed ≠ "" := careful.resolve_left filled
          simp only [asks, if_neg filled]
          intro request among
          rcases List.mem_cons.mp among with rfl | later
          · exact complete_of_named rfl (by simpa [named] using bare)
          · exact complete_set_active bare request later
      | removes row =>
          exact one (complete_of_named rfl (by simpa [named] using listed_filled holds row))
      | leaves found => exact one (complete_of_named rfl (by simpa [named] using known_filled holds found))
      | @accepts jid shown =>
          have filled : jid ≠ "" := by
            rintro rfl
            exact holds.banner shown
          simp only [asks, shown]
          intro request among
          rcases List.mem_pair.mp among with rfl | rfl
          · exact complete_of_named rfl (by simpa [named] using filled)
          · exact complete_of_named rfl (by simpa [named] using filled)
      | @declines jid shown =>
          have filled : jid ≠ "" := by
            rintro rfl
            exact holds.banner shown
          simp only [asks, shown]
          exact one (complete_of_named rfl (by simpa [named] using filled))
      | selects => exact one (complete_of_named rfl (by simp [named]))
      | browses => exact one (complete_of_named rfl (by simp [named]))
      | @joins room offers =>
          obtain ⟨server, among, _, there⟩ := offers
          obtain ⟨found, inside, same⟩ := List.mem_map.mp there
          have filled : room ≠ "" := same ▸ holds.listing server among found inside
          exact one (complete_of_named rfl (by simpa [named] using filled))
      | submitsNothing nothing =>
          simp only [asks, nothing]
          exact none
      | submits enabled short asked =>
          rcases submit_cases screen.page (trim screen.composer) with
            nothing | ⟨written, id, convo, active, _, asks⟩
          · rw [nothing] at asked
            cases asked
          · have filled := active_filled holds active
            have within := within_of_fits holds short careful
            simp only [Screen.asks, asks, List.map_singleton]
            apply one
            split_ifs
            · exact ⟨by simpa [named] using filled, by simpa [text] using ⟨written, within⟩⟩
            · exact ⟨by simpa [named] using filled, by simpa [text] using ⟨written, within⟩⟩
      | loadsOlder offers =>
          intro request among
          obtain ⟨talk, asked, rfl⟩ := List.mem_map.mp among
          unfold loadOlder at asked
          split at asked
          · next id active =>
              split at asked
              · rw [List.mem_singleton.mp asked]
                exact complete_of_named rfl (by simpa [named] using active_filled holds active)
              · cases asked
          · cases asked
      | _ => exact none
  | _ => exact none

theorem as_length_eq {limit : Int} (positive : 0 ≤ limit) (small : limit < 2 ^ 31) :
    asLength limit = some limit.toNat := by
  have same : (BitVec.ofInt 32 limit).toInt = limit := by
    rw [BitVec.toInt_ofInt]
    exact Int.bmod_eq_of_le (by omega) (by omega)
  simp only [asLength, same]
  rw [if_neg (by omega)]

theorem named_beside (holds : Named env screen) (page : NamedPage next.page)
    (banner : next.banner = none ∨ next.banner = screen.banner)
    (listing : next.listing = [] ∨ next.listing = screen.listing)
    (limit : next.maxLength = screen.maxLength) : Named env next := by
  refine ⟨page, ?_, ?_, ?_⟩
  · rcases banner with gone | same
    · simp [gone]
    · exact same ▸ holds.banner
  · rcases listing with gone | same
    · simp [gone]
    · exact same ▸ holds.listing
  · exact limit ▸ holds.limit

theorem named_set_active (holds : Named env screen) {id : String} (filled : id ≠ "") :
    Named env (Screen.setActive screen id) := by
  obtain ⟨title, log, opened⟩ := set_active_eq screen id
  rw [opened]
  exact named_beside holds (holds.page.set_active filled) (.inr rfl) (.inr rfl) rfl

theorem named_frame (positive : 0 ≤ env.config.maxMessageChars)
    (small : env.config.maxMessageChars < 2 ^ 31) {socket : Nat} {frame : Frame}
    (holds : Named env screen) (careful : Careful env screen (.frame socket frame)) :
    Named env (Screen.handleFrame screen frame) := by
  have quiet : NamesAll frame → NamedPage (Screen.handleFrame screen frame).page := by
    intro names
    rw [page_frame]
    exact holds.page.handle_frame names
  cases frame with
  | ready jid username brandTitle soundDefault mucServers limit =>
      cases careful
      simp only [Screen.handleFrame, ready, as_length_eq positive small]
      split_ifs
      · exact named_beside holds holds.page (.inr rfl) (.inr rfl) rfl
      · refine ⟨holds.page, holds.banner, holds.listing, ?_⟩
        intro length set
        cases set
        exact Int.toNat_of_nonneg positive
  | mucJoined room nick subject =>
      cases room with
      | str room =>
          have filled : room ≠ "" := by
            rintro rfl
            exact careful rfl
          have page := quiet careful
          simp only [Screen.handleFrame] at page ⊢
          split_ifs at page ⊢
          · have shown : NamedPage (entered screen.page room) := holds.page.change filled
            have named : Named env { screen with page := entered screen.page room } :=
              named_beside holds shown (.inr rfl) (.inr rfl) rfl
            exact named_set_active named filled
          · exact named_beside holds page (.inr rfl) (.inr rfl) rfl
      | _ => exact named_beside holds (quiet careful) (.inr rfl) (.inr rfl) rfl
  | subscriptionRequest jid =>
      exact ⟨holds.page, fun same => careful (Option.some.inj same), holds.listing, holds.limit⟩
  | discoServers servers => exact ⟨holds.page, holds.banner, careful, holds.limit⟩
  | _ => exact named_beside holds (quiet careful) (.inr rfl) (.inr rfl) rfl

theorem named_step (positive : 0 ≤ env.config.maxMessageChars)
    (small : env.config.maxMessageChars < 2 ^ 31) {action : Screen.Action}
    (holds : Named env screen) (careful : Careful env screen action)
    (fired : step screen action = some next) : Named env next := by
  have beside : ∀ {next : State}, NamedPage next.page → next.banner = none ∨ next.banner = screen.banner →
      next.listing = [] ∨ next.listing = screen.listing → next.maxLength = screen.maxLength →
        Named env next := fun page banner listing limit => named_beside holds page banner listing limit
  cases action with
  | frame socket frame =>
      obtain ⟨_, done⟩ := Option.ite_none_right_eq_some.mp fired
      cases done
      exact named_frame positive small holds careful
  | gesture gesture =>
      cases acts_of_act fired with
      | opens row => exact named_set_active holds (listed_filled holds row)
      | @adds typed filled =>
          have asked : Named env (send screen (.addContact (trim typed))) :=
            beside holds.page (.inr rfl) (.inr rfl) rfl
          exact named_set_active asked (careful.resolve_left filled)
      | @removes jid row =>
          have without : NamedPage { screen.page with roster := screen.page.roster.pop jid } :=
            ⟨holds.page.convos, absent_pop holds.page.roster, holds.page.active⟩
          exact beside (without.dropped jid) (.inr rfl) (.inr rfl) rfl
      | accepts => exact beside holds.page (.inl rfl) (.inr rfl) rfl
      | declines => exact beside holds.page (.inl rfl) (.inr rfl) rfl
      | browses => exact beside holds.page (.inr rfl) (.inl rfl) rfl
      | loadsOlder =>
          obtain ⟨log, sent⟩ := send_all_eq screen ((loadOlder screen.page).map .talk)
          rw [sent]
          exact beside holds.page (.inr rfl) (.inr rfl) rfl
      | @focuses id active =>
          have looked : NamedPage (change screen.page id .chat id fun convo =>
              { convo with unread := 0 }) := holds.page.change (active_filled holds active)
          exact beside looked (.inr rfl) (.inr rfl) rfl
      | hides =>
          exact beside ⟨holds.page.convos, holds.page.roster, holds.page.active⟩ (.inr rfl) (.inr rfl) rfl
      | _ => exact beside holds.page (.inr rfl) (.inr rfl) rfl
  | opens socket =>
      obtain ⟨_, done⟩ := Option.ite_none_right_eq_some.mp fired
      cases done
      exact beside holds.page (.inr rfl) (.inr rfl) rfl
  | shuts socket =>
      obtain ⟨_, done⟩ := Option.ite_none_right_eq_some.mp fired
      cases done
      exact beside holds.page (.inr rfl) (.inr rfl) rfl
  | closes socket =>
      simp only [step] at fired
      split at fired
      · cases fired
      · cases fired
      · cases fired
        exact beside holds.page (.inr rfl) (.inr rfl) rfl
  | timer =>
      obtain ⟨_, done⟩ := Option.ite_none_right_eq_some.mp fired
      cases done
      exact beside holds.page (.inr rfl) (.inr rfl) rfl
  | stores preference =>
      cases fired
      exact beside holds.page (.inr rfl) (.inr rfl) rfl

theorem start_named (env : Env) (preference : Option String) : Named env (start preference) := by
  refine ⟨⟨?_, ?_, ?_⟩, ?_, ?_, ?_⟩
  all_goals simp [start, blank, Dict.keys, Dict.empty]

/-- Whatever a tab sends in a run, in whatever state the account is then, is carried out as
the one operation of the client that it was meant for; only a room of the discover modal
that is on a server which is not configured is refused. No text is refused as too long. -/
theorem requests_understood (env : Env) (positive : 0 ≤ env.config.maxMessageChars)
    (small : env.config.maxMessageChars < 2 ^ 31) (preference : Option String)
    (actions : List Screen.Action) (screen : State)
    (run : replay step (start preference) actions = some screen)
    (careful : Conforms step (Careful env) (start preference) actions) :
    ∀ entry ∈ screen.log, ∀ caches,
      passedOn env caches (literal entry.2) = some (meant env entry.2) ∨ Foreign env entry.2 := by
  have holds : Named env screen ∧ ∀ entry ∈ screen.log, Complete env entry.2 := by
    have first : ∀ entry ∈ (start preference).log, Complete env entry.2 := by
      intro entry among
      cases among
    refine @run_invariant _ _ step (Careful env)
      (fun screen => Named env screen ∧ ∀ entry ∈ screen.log, Complete env entry.2) ?_ _ _ _
      ⟨start_named env preference, first⟩ careful run
    rintro screen action next here ⟨named, complete⟩ fired
    refine ⟨named_step positive small named here fired, ?_⟩
    have asked := complete_asks named here fired
    cases fires_of_step fired with
    | handles work =>
        rw [work.log]
        intro entry among
        rcases List.mem_append.mp among with early | late
        · exact complete entry early
        · obtain ⟨request, new, rfl⟩ := List.mem_map.mp late
          exact asked request new
    | _ => exact complete
  intro entry among caches
  by_cases foreign : Foreign env entry.2
  · exact .inr foreign
  · left
    obtain ⟨filled, fitting⟩ := holds.2 entry among
    exact (passed_on_literal env caches entry.2).mpr ⟨filled, fitting, foreign⟩

/-- Conversations are opened while the socket is open, and nothing is submitted while it
is closing. -/
def Attentive (screen : State) : Screen.Action → Prop
  | .gesture (.opens _) => (openSocket screen).isSome
  | .gesture (.adds _) => (openSocket screen).isSome
  | .gesture .submits => screen.sockets.getLast? ≠ some .closing
  | _ => True

instance (screen : State) (action : Screen.Action) : Decidable (Attentive screen action) := by
  unfold Attentive
  split <;> infer_instance

/-- Where something can be typed a socket is open, or just closing. -/
def Usable (screen : State) : Prop :=
  screen.disabled = false →
    screen.sockets.getLast? = some .opened ∨ screen.sockets.getLast? = some .closing

theorem open_socket_iff : (openSocket screen).isSome ↔ screen.sockets.getLast? = some .opened := by
  unfold openSocket
  split_ifs with opened
  · simp [opened]
  · simp [opened]

theorem usable_gesture {gesture : Gesture} (usable : Usable screen)
    (attentive : Attentive screen (.gesture gesture)) (done : Acts screen gesture next)
    (sockets : next.sockets = screen.sockets) : Usable next := by
  intro enabled
  rw [sockets]
  cases done with
  | opens => exact .inl (open_socket_iff.mp attentive)
  | adds => exact .inl (open_socket_iff.mp attentive)
  | loadsOlder =>
      obtain ⟨log, sent⟩ := send_all_eq screen ((loadOlder screen.page).map .talk)
      rw [sent] at enabled
      exact usable enabled
  | _ => exact usable enabled

theorem usable_step {action : Screen.Action} (turn : InTurn screen) (usable : Usable screen)
    (attentive : Attentive screen action) (fired : step screen action = some next) : Usable next := by
  obtain ⟨older, newest, sockets, closed, timers⟩ := turn
  have last : screen.sockets.getLast? = some newest := by rw [sockets, List.getLast?_concat]
  cases action with
  | gesture gesture =>
      have acted := acts_of_act fired
      exact usable_gesture usable attentive acted (handles_act acted).sockets
  | frame socket frame =>
      obtain ⟨opened, done⟩ := Option.ite_none_right_eq_some.mp fired
      cases done
      rw [sockets] at opened
      obtain ⟨_, rfl⟩ := newest_of_alive closed (by simp) opened
      intro _
      rw [(handles_frame screen frame).sockets]
      exact .inl last
  | opens socket =>
      obtain ⟨waits, done⟩ := Option.ite_none_right_eq_some.mp fired
      cases done
      rw [sockets] at waits
      obtain ⟨_, rfl⟩ := newest_of_alive closed (by simp) waits
      intro enabled
      have was := usable enabled
      simp [last] at was
  | shuts socket =>
      obtain ⟨opened, done⟩ := Option.ite_none_right_eq_some.mp fired
      cases done
      rw [sockets] at opened
      obtain ⟨rfl, rfl⟩ := newest_of_alive closed (by simp) opened
      intro _
      right
      simp [sockets, List.set_append_right]
  | closes socket =>
      simp only [step] at fired
      split at fired
      · cases fired
      · cases fired
      · cases fired
        intro enabled
        cases enabled
  | timer =>
      obtain ⟨pending, done⟩ := Option.ite_none_right_eq_some.mp fired
      cases done
      have gone : newest = .closed := by
        by_contra alive
        simp [timers, alive] at pending
      intro enabled
      have was := usable enabled
      simp [last, gone] at was
  | stores preference =>
      cases fired
      exact usable

theorem submits_of_text {action : Screen.Action} (fired : step screen action = some next)
    {request : Sent} (asked : request ∈ asks screen action) (written : (text request).isSome) :
    action = .gesture .submits ∧ screen.disabled = false := by
  have opening : ∀ {page : Page} {id : String}, request ∉ (Browser.setActive page id).2.map .talk := by
    intro page id among
    obtain ⟨talk, there, rfl⟩ := List.mem_map.mp among
    rw [set_active_asks there] at written
    cases written
  cases action with
  | frame socket frame =>
      obtain ⟨talk, there, rfl⟩ := List.mem_map.mp asked
      obtain ⟨_, _, _, _, rfl⟩ := frame_asks there
      cases written
  | gesture gesture =>
      cases acts_of_act fired with
      | submits enabled => exact ⟨rfl, enabled⟩
      | submitsNothing nothing =>
          simp only [asks, nothing] at asked
          cases asked
      | opens => exact absurd asked opening
      | cancels nothing =>
          rcases nothing with rfl | rfl
          · cases asked
          · cases asked
      | adds filled =>
          simp only [asks, if_neg filled] at asked
          rcases List.mem_cons.mp asked with rfl | later
          · cases written
          · exact absurd later opening
      | accepts shown =>
          simp only [asks, shown] at asked
          rcases List.mem_pair.mp asked with rfl | rfl
          · cases written
          · cases written
      | declines shown =>
          simp only [asks, shown] at asked
          cases List.mem_singleton.mp asked
          cases written
      | loadsOlder =>
          obtain ⟨talk, there, rfl⟩ := List.mem_map.mp asked
          unfold loadOlder at there
          split at there
          · split at there
            · cases List.mem_singleton.mp there
              cases written
            · cases there
          · cases there
      | removes =>
          cases List.mem_singleton.mp asked
          cases written
      | leaves =>
          cases List.mem_singleton.mp asked
          cases written
      | selects =>
          cases List.mem_singleton.mp asked
          cases written
      | browses =>
          cases List.mem_singleton.mp asked
          cases written
      | joins =>
          cases List.mem_singleton.mp asked
          cases written
      | _ => cases asked
  | _ => cases asked

/-- In every run in which the user opens conversations only while the socket is open, and
submits nothing while it is closing, no text that the composer takes is lost: each goes
on a socket. -/
theorem texts_are_sent (preference : Option String) (actions : List Screen.Action)
    (screen : State) (run : replay step (start preference) actions = some screen)
    (attentive : Conforms step Attentive (start preference) actions) :
    ∀ entry ∈ screen.log, (text entry.2).isSome → entry.1.isSome := by
  have first : InTurn (start preference) ∧ Usable (start preference) ∧
      ∀ entry ∈ (start preference).log, (text entry.2).isSome → entry.1.isSome := by
    refine ⟨⟨[], .connecting, rfl, by simp, rfl⟩, ?_, ?_⟩
    · intro enabled
      cases enabled
    · intro entry among
      cases among
  refine (@run_invariant _ _ step Attentive
    (fun screen => InTurn screen ∧ Usable screen ∧
      ∀ entry ∈ screen.log, (text entry.2).isSome → entry.1.isSome) ?_ _ _ _
    first attentive run).2.2
  rintro screen action next here ⟨turn, usable, sent⟩ fired
  refine ⟨in_turn_step turn fired, usable_step turn usable here fired, ?_⟩
  have asked := fun request => @submits_of_text screen next action fired request
  cases fires_of_step fired with
  | handles work =>
      rw [work.log]
      intro entry among written
      rcases List.mem_append.mp among with early | late
      · exact sent entry early written
      · obtain ⟨request, new, rfl⟩ := List.mem_map.mp late
        obtain ⟨rfl, enabled⟩ := asked request new written
        exact open_socket_iff.mpr ((usable enabled).resolve_right here)
  | _ => exact sent

def alice : Env := ⟨"alice@example.com", {}, Pump.asciiLower, fun text => text⟩

def acceptsAndWrites : List Screen.Action :=
  [.opens 0, .frame 0 (.ready "alice@example.com" "alice" "" true [] 1000),
    .frame 0 (.subscriptionRequest "bob@example.com"), .gesture (.answers true),
    .gesture (.adds (some " bob@example.com ")), .gesture (.edits " hi "), .gesture .submits,
    .gesture .browses,
    .frame 0 (.discoServers [⟨"rooms.example.org", true, [⟨"team@rooms.example.org", "Team"⟩]⟩]),
    .gesture (.joins "team@rooms.example.org"), .gesture (.selects .dnd)]

def accepted : State := (replay step (start none) acceptsAndWrites).getD (start none)

def hi : Option Nat × Sent := (some 0, .talk (.sendMessage "bob@example.com" "hi"))

theorem alice_is_understood :
    passedOn alice Replay.empty (literal hi.2) = some (meant alice hi.2) ∨ Foreign alice hi.2 :=
  requests_understood alice (by decide) (by decide) none acceptsAndWrites accepted rfl (by decide)
    hi (by decide) Replay.empty

theorem alice_loses_nothing : hi.1.isSome :=
  texts_are_sent none acceptsAndWrites accepted rfl (by decide) hi (by decide) rfl

end Runs

end PyConduit.Requests
