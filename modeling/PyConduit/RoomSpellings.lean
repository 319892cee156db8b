import PyConduit.Rooms
import PyConduit.SnapshotFrames

/-!
# The spellings of a room

A tab may name a room with a resource or in upper case; the account keys its
tables by what was written and the client by the bare JID. One command after the
other, the two sides and the tabs agree on a room for as long as all commands
that name it write its bare JID.
-/

namespace PyConduit.RoomSpellings

open Protocol Replay Commands Rooms GuardedRun
open SnapshotFrames (roomFrames occupantFrames)

set_option autoImplicit false

/-- A room command, and the occupants the client finds when it joins. -/
structure Request where
  message : ClientMessage
  occupants : List Occupant

def Request.room (request : Request) : Json := request.message.get "room"

section Requests

variable (bare : Json → Except String String) (env : Env)

def step (state : State) (request : Request) : Option State :=
  match perform bare env state request.message (.ok request.occupants) with
  | some (after, .ok ()) => some after
  | _ => none

/-- The rooms among `state.convos` of the browser. -/
def handleFrame (convos : List String) : Frame → List String
  | .mucJoined (.str room) _ _ => convos.insert room
  | .mucOccupants (.str room) _ => convos.insert room
  | .mucMessage room _ _ _ _ _ _ => convos.insert room
  | .mucPresence room _ _ => convos.insert room
  | .mucLeft (.str room) => convos.filter (· ≠ room)
  | _ => convos

def tabRooms (attached state : State) : List String :=
  (roomFrames attached.caches attached.caches.joinedRooms.entries ++
    state.frames.drop attached.frames.length).foldl handleFrame []

def roomId : Frame → Option Json
  | .mucJoined room _ _ => some room
  | .mucLeft room => some room
  | _ => none

structure OneKeyPerRoom (state : State) : Prop where
  keys : ∀ key, key ∈ state.caches.joinedRooms.keys ↔
    ∃ room ∈ state.joined.keys, key = .text room
  occupants : ∀ key, key ∈ state.caches.mucOccupants.keys ↔ key ∈ state.caches.joinedRooms.keys
  ids : ∀ first ∈ state.frames.filterMap roomId, ∀ second ∈ state.frames.filterMap roomId,
    bare first = bare second → first = second

/-- Nothing is left of a room, in any table and in any tab, whenever it attached. -/
structure Forgotten (requests : List Request) (state : State) (room : String) : Prop where
  account : ∀ key, key ∈ state.caches.joinedRooms.keys ∨ key ∈ state.caches.mucOccupants.keys →
    bare key.json ≠ .ok room
  client : room ∉ state.joined.keys
  tabs : ∀ earlier later attached, requests = earlier ++ later →
    replay (step bare env) fresh earlier = some attached →
    ∀ text ∈ tabRooms attached state, bare (.str text) ≠ .ok room

def Consistent (requests : List Request) (state : State) : Prop :=
  OneKeyPerRoom bare state ∧
    ∀ earlier request room, requests = earlier ++ [request] →
      request.message.type = .leaveRoom → bare request.room = .ok room →
      Forgotten bare env requests state room

def ConsistentThroughout (requests : List Request) : Prop :=
  ∀ earlier later state, requests = earlier ++ later →
    replay (step bare env) fresh earlier = some state → Consistent bare env earlier state

/-- Every join writes the bare JID, and commands for one room write it alike. -/
def SpelledAlike (requests : List Request) : Prop :=
  (∀ request ∈ requests, request.message.type = .joinRoom →
    ∀ room, bare request.room = .ok room → request.room = .str room) ∧
    ∀ first ∈ requests, ∀ second ∈ requests,
      bare first.room = bare second.room → first.room = second.room

def Addressed (requests : List Request) : Prop :=
  ∀ request ∈ requests, ∃ text, request.room = .str text

end Requests

def afterJoin (state : State) (text room : String) (nick : Json) (occupants : List Occupant) :
    State :=
  emitOccupants (announce (enterRoom
    { state with caches := joinRoom state.caches (.text text) nick } room nick) room nick) room
    occupants

def afterLeave (state : State) (text room : String) : State :=
  broadcast (exitRoom { state with caches := leaveRoom state.caches (.text text) } room)
    (.mucLeft (.str text))

theorem after_join_tables (state : State) (text room : String) (nick : Json)
    (occupants : List Occupant) :
    (afterJoin state text room nick occupants).caches.joinedRooms =
        state.caches.joinedRooms.setItem (.text text) nick ∧
      (afterJoin state text room nick occupants).caches.mucOccupants =
        state.caches.mucOccupants.setItem (.text room) occupants := by
  unfold afterJoin
  rw [join_text]
  exact ⟨rfl, rfl⟩

theorem after_leave_tables (state : State) (text room : String) :
    (afterLeave state text room).caches.joinedRooms =
        state.caches.joinedRooms.pop (.text text) ∧
      (afterLeave state text room).caches.mucOccupants =
        state.caches.mucOccupants.pop (.text text) := by
  unfold afterLeave
  rw [leave_text]
  exact ⟨rfl, rfl⟩

inductive Moves (bare : Json → Except String String) (state : State) (request : Request)
    (text : String) : State → Prop
  | joins {room : String} {nick : Json} (type : request.message.type = .joinRoom)
      (parsed : bare (.str text) = .ok room) :
      Moves bare state request text (afterJoin state text room nick request.occupants)
  | leaves {room : String} (type : request.message.type = .leaveRoom)
      (parsed : bare (.str text) = .ok room) :
      Moves bare state request text (afterLeave state text room)

section Steps

variable {bare : Json → Except String String} {env : Env}

theorem moves_of_step {state next : State} {request : Request} {text : String}
    (written : request.room = .str text) (fired : step bare env state request = some next) :
    Moves bare state request text next := by
  unfold step at fired
  split at fired
  · next after performed =>
      cases fired
      have asked : request.message.get "room" = .str text := written
      cases performs_of_perform performed with
      | joins type hashed parsed =>
          rw [asked] at hashed parsed
          cases hashed
          exact .joins type parsed
      | leaves type popped parsed =>
          rw [asked] at popped parsed ⊢
          cases popped
          exact .leaves type parsed
  · cases fired

structure Kept (bare : Json → Except String String) (requests : List Request) (state : State) :
    Prop where
  keys : ∀ key, key ∈ state.caches.joinedRooms.keys ↔
    ∃ room ∈ state.joined.keys, key = .text room
  occupants : ∀ key, key ∈ state.caches.mucOccupants.keys ↔ key ∈ state.caches.joinedRooms.keys
  ids : ∀ id ∈ state.frames.filterMap roomId, ∃ request ∈ requests, request.room = id
  named : ∀ room ∈ state.joined.keys, bare (.str room) = .ok room ∧
    ∃ request ∈ requests, request.room = .str room

theorem SpelledAlike.before {earlier later : List Request}
    (alike : SpelledAlike bare (earlier ++ later)) : SpelledAlike bare earlier :=
  ⟨fun request member => alike.1 request (List.mem_append_left _ member),
    fun first member second other =>
      alike.2 first (List.mem_append_left _ member) second (List.mem_append_left _ other)⟩

theorem kept_join {earlier : List Request} {request : Request} {state : State} {room : String}
    {nick : Json} (kept : Kept bare earlier state) (written : request.room = .str room)
    (parsed : bare (.str room) = .ok room) :
    Kept bare (earlier ++ [request])
      (afterJoin state room room nick request.occupants) := by
  have more : ∀ id, (∃ request ∈ earlier, request.room = id) →
      ∃ other ∈ earlier ++ [request], other.room = id := by
    rintro id ⟨other, member, same⟩
    exact ⟨other, List.mem_append_left _ member, same⟩
  have last : ∃ other ∈ earlier ++ [request], other.room = .str room :=
    ⟨request, List.mem_append_right _ (List.mem_singleton_self _), written⟩
  constructor
  case keys =>
    intro key
    rw [(after_join_tables ..).1]
    exact keys_agree_join kept.keys room nick key
  case occupants =>
    intro key
    rw [(after_join_tables ..).1, (after_join_tables ..).2, Dict.mem_keys_set_item,
      Dict.mem_keys_set_item, kept.occupants]
  case ids =>
    intro id member
    have frames : (afterJoin state room room nick request.occupants).frames.filterMap roomId =
        state.frames.filterMap roomId ++ [.str room] := by
      simp [afterJoin, emitOccupants, announce, handleEvent, enterRoom, eventFrame, roomId,
        List.filterMap_append]
    rw [frames] at member
    rcases List.mem_append.mp member with before | same
    · exact more id (kept.ids id before)
    · rw [List.mem_singleton.mp same]
      exact last
  case named =>
    intro other member
    change other ∈ (state.joined.setItem room nick).keys at member
    rcases (Dict.mem_keys_set_item ..).mp member with before | rfl
    · exact ⟨(kept.named other before).1, more _ (kept.named other before).2⟩
    · exact ⟨parsed, last⟩

theorem kept_leave {earlier : List Request} {request : Request} {state : State}
    {text room : String} (kept : Kept bare earlier state) (written : request.room = .str text)
    (alike : ∀ other ∈ earlier, bare other.room = bare request.room → other.room = request.room)
    (parsed : bare (.str text) = .ok room) :
    Kept bare (earlier ++ [request]) (afterLeave state text room) := by
  have sameRoom : ∀ other ∈ state.joined.keys, other = room ↔ other = text := by
    intro other member
    obtain ⟨named, joiner, before, wrote⟩ := kept.named other member
    constructor
    · rintro rfl
      have spelled := alike joiner before (by rw [wrote, written, named, parsed])
      rw [wrote, written] at spelled
      exact Json.str.inj spelled
    · rintro rfl
      rw [named] at parsed
      exact Except.ok.inj parsed
  constructor
  case keys =>
    intro key
    rw [(after_leave_tables ..).1]
    exact keys_agree_leave kept.keys sameRoom key
  case occupants =>
    intro key
    rw [(after_leave_tables ..).1, (after_leave_tables ..).2]
    simp only [Dict.keys_pop, List.mem_filter, kept.occupants]
  case ids =>
    intro id member
    have frames : (afterLeave state text room).frames.filterMap roomId =
        state.frames.filterMap roomId ++ [.str text] := by
      simp [afterLeave, broadcast, exitRoom, roomId, List.filterMap_append]
    rw [frames] at member
    rcases List.mem_append.mp member with before | same
    · obtain ⟨other, among, same⟩ := kept.ids id before
      exact ⟨other, List.mem_append_left _ among, same⟩
    · rw [List.mem_singleton.mp same]
      exact ⟨request, List.mem_append_right _ (List.mem_singleton_self _), written⟩
  case named =>
    intro other member
    change other ∈ (state.joined.pop room).keys at member
    rw [Dict.keys_pop] at member
    obtain ⟨named, joiner, before, wrote⟩ := kept.named other (List.mem_of_mem_filter member)
    exact ⟨named, joiner, List.mem_append_left _ before, wrote⟩

theorem kept_of_run {requests : List Request} {state : State}
    (addressed : Addressed requests) (alike : SpelledAlike bare requests)
    (run : replay (step bare env) fresh requests = some state) : Kept bare requests state := by
  induction requests using List.reverseRecOn generalizing state with
  | nil =>
      cases run
      constructor
      all_goals simp [fresh, empty, Dict.empty, Dict.keys]
  | append_singleton earlier request induction =>
      obtain ⟨middle, before, fired⟩ := replay_of_snoc run
      have kept := induction
        (fun other member => addressed other (List.mem_append_left _ member)) alike.before before
      have member : request ∈ earlier ++ [request] :=
        List.mem_append_right _ (List.mem_singleton_self _)
      obtain ⟨text, written⟩ := addressed request member
      cases moves_of_step written fired with
      | @joins room nick type parsed =>
          have spelled := alike.1 request member type room (written ▸ parsed)
          rw [written] at spelled
          cases spelled
          exact kept_join kept written parsed
      | leaves type parsed =>
          apply kept_leave kept written _ parsed
          intro other among
          exact alike.2 other (List.mem_append_left _ among) request member

/-- The frames of rooms in a snapshot show the rooms that are named by text. -/
theorem room_frames_show (caches : Caches) (rooms : List (Key × Json)) (convos : List String)
    (text : String) :
    text ∈ (roomFrames caches rooms).foldl handleFrame convos ↔
      text ∈ convos ∨ .text text ∈ rooms.map Prod.fst := by
  unfold roomFrames
  induction rooms generalizing convos with
  | nil => simp
  | cons room rest induction =>
      obtain ⟨key, nick⟩ := room
      rw [List.flatMap_cons, List.foldl_append, induction, List.foldl_cons, List.map_cons,
        List.mem_cons]
      unfold occupantFrames
      cases key with
      | text value =>
          split
          · simp [Key.json, handleFrame, or_assoc, or_left_comm]
          · simp [Key.json, handleFrame, or_assoc, or_left_comm]
      | _ =>
          split
          · simp [Key.json, handleFrame]
          · simp [Key.json, handleFrame]

/-- A tab shows the rooms of the account, whenever it attached. -/
theorem tab_rooms_iff {attached state : State} {later : List Request}
    (addressed : Addressed later)
    (joins : ∀ request ∈ later, request.message.type = .joinRoom →
      ∀ room, bare request.room = .ok room → request.room = .str room)
    (run : replay (step bare env) attached later = some state) :
    attached.frames.length ≤ state.frames.length ∧
      ∀ text, text ∈ tabRooms attached state ↔ .text text ∈ state.caches.joinedRooms.keys := by
  induction later using List.reverseRecOn generalizing state with
  | nil =>
      cases run
      refine ⟨Nat.le_refl _, ?_⟩
      intro text
      rw [tabRooms, List.drop_length, List.append_nil, room_frames_show]
      simp [Dict.keys]
  | append_singleton earlier request induction =>
      obtain ⟨middle, before, fired⟩ := replay_of_snoc run
      obtain ⟨grown, shown⟩ := induction
        (fun other member => addressed other (List.mem_append_left _ member))
        (fun other member => joins other (List.mem_append_left _ member)) before
      have member : request ∈ earlier ++ [request] :=
        List.mem_append_right _ (List.mem_singleton_self _)
      obtain ⟨text, written⟩ := addressed request member
      have more : ∀ (next : State) (frames : List Frame), next.frames = middle.frames ++ frames →
          attached.frames.length ≤ next.frames.length ∧
            tabRooms attached next = frames.foldl handleFrame (tabRooms attached middle) := by
        intro next frames appended
        constructor
        · rw [appended, List.length_append]
          omega
        · rw [tabRooms, appended, List.drop_append_of_le_length grown, ← List.append_assoc,
            List.foldl_append]
          rfl
      cases moves_of_step written fired with
      | @joins room nick type parsed =>
          have spelled := joins request member type room (written ▸ parsed)
          rw [written] at spelled
          cases spelled
          obtain ⟨longer, convos⟩ := more (afterJoin middle text text nick request.occupants)
            [.mucJoined (.str text) nick none, .mucOccupants (.str text) request.occupants]
            (List.append_assoc ..)
          refine ⟨longer, ?_⟩
          intro other
          rw [(after_join_tables ..).1, convos, Dict.mem_keys_set_item, ← shown]
          simp [handleFrame, or_comm]
      | @leaves room type parsed =>
          obtain ⟨longer, convos⟩ := more (afterLeave middle text room) [.mucLeft (.str text)] rfl
          refine ⟨longer, ?_⟩
          intro other
          rw [(after_leave_tables ..).1, convos, Dict.keys_pop, List.mem_filter, ← shown]
          simp [handleFrame]

theorem consistent_of_alike {requests : List Request} {state : State}
    (addressed : Addressed requests) (alike : SpelledAlike bare requests)
    (run : replay (step bare env) fresh requests = some state) :
    Consistent bare env requests state := by
  have kept := kept_of_run addressed alike run
  constructor
  · refine ⟨kept.keys, kept.occupants, ?_⟩
    intro first member second other same
    obtain ⟨firstRequest, among, rfl⟩ := kept.ids first member
    obtain ⟨secondRequest, also, rfl⟩ := kept.ids second other
    exact alike.2 firstRequest among secondRequest also same
  · intro earlier request room split type parsed
    have gone : room ∉ state.joined.keys := by
      subst split
      obtain ⟨middle, before, fired⟩ := replay_of_snoc run
      obtain ⟨text, written⟩ := addressed request
        (List.mem_append_right _ (List.mem_singleton_self _))
      cases moves_of_step written fired with
      | joins join =>
          rw [type] at join
          cases join
      | leaves _ left =>
          rw [written, left] at parsed
          cases parsed
          change room ∉ (middle.joined.pop room).keys
          simp [Dict.keys_pop]
    have unkeyed : ∀ key, key ∈ state.caches.joinedRooms.keys → bare key.json ≠ .ok room := by
      intro key member same
      obtain ⟨other, inside, rfl⟩ := (kept.keys key).mp member
      rw [Key.json, (kept.named other inside).1] at same
      cases same
      exact gone inside
    constructor
    · intro key
      rw [kept.occupants, or_self]
      exact unkeyed key
    · exact gone
    · intro before later attached parts attaches text shown
      subst parts
      rw [replay_append, attaches] at run
      have rest : ∀ request ∈ later, request ∈ before ++ later :=
        fun request member => List.mem_append_right _ member
      have shows := (tab_rooms_iff (fun request member => addressed request (rest request member))
        (fun request member => alike.1 request (rest request member)) run).2 text
      exact unkeyed (.text text) (shows.mp shown)

/-- The rooms the client is in are bare JIDs. -/
theorem joined_bare (idempotent : ∀ value room, bare value = .ok room →
      bare (.str room) = .ok room) {requests : List Request} {state : State}
    (addressed : Addressed requests)
    (run : replay (step bare env) fresh requests = some state) :
    ∀ room ∈ state.joined.keys, bare (.str room) = .ok room := by
  induction requests using List.reverseRecOn generalizing state with
  | nil =>
      cases run
      simp [fresh, Dict.empty, Dict.keys]
  | append_singleton earlier request induction =>
      obtain ⟨middle, before, fired⟩ := replay_of_snoc run
      have inside := induction
        (fun other member => addressed other (List.mem_append_left _ member)) before
      obtain ⟨text, written⟩ := addressed request
        (List.mem_append_right _ (List.mem_singleton_self _))
      intro other member
      cases moves_of_step written fired with
      | @joins room nick type parsed =>
          change other ∈ (middle.joined.setItem room nick).keys at member
          rcases (Dict.mem_keys_set_item ..).mp member with earlier | rfl
          · exact inside other earlier
          · exact idempotent _ _ parsed
      | @leaves room type parsed =>
          change other ∈ (middle.joined.pop room).keys at member
          rw [Dict.keys_pop] at member
          exact inside other (List.mem_of_mem_filter member)

theorem frames_stay {start state : State} {requests : List Request}
    (addressed : Addressed requests)
    (run : replay (step bare env) start requests = some state) : start.frames <+: state.frames := by
  induction requests generalizing start with
  | nil =>
      cases run
      exact List.prefix_rfl
  | cons request rest induction =>
      obtain ⟨next, fired, later⟩ := replay_cons run
      obtain ⟨text, written⟩ := addressed request List.mem_cons_self
      have longer := induction
        (fun other member => addressed other (List.mem_cons_of_mem _ member)) later
      cases moves_of_step written fired with
      | joins => exact ((List.prefix_append ..).trans (List.prefix_append ..)).trans longer
      | leaves => exact (List.prefix_append ..).trans longer

/-- Every command leaves a frame with the room it was given, or with the bare JID
if it joined. -/
theorem announced_of_mem {requests : List Request} {state : State}
    (addressed : Addressed requests)
    (run : replay (step bare env) fresh requests = some state) {request : Request}
    (member : request ∈ requests) :
    (request.message.type = .joinRoom ∧ ∃ room, bare request.room = .ok room ∧
        .str room ∈ state.frames.filterMap roomId) ∨
      request.room ∈ state.frames.filterMap roomId := by
  obtain ⟨earlier, later, rfl⟩ := List.append_of_mem member
  rw [replay_append] at run
  obtain ⟨middle, _, last⟩ := Option.bind_eq_some_iff.mp run
  obtain ⟨next, fired, rest⟩ := replay_cons last
  have grows := frames_stay (fun other among => addressed other
    (List.mem_append_right _ (List.mem_cons_of_mem _ among))) rest
  obtain ⟨text, written⟩ := addressed request (List.mem_append_right _ List.mem_cons_self)
  cases moves_of_step written fired with
  | @joins room nick type parsed =>
      refine Or.inl ⟨type, room, written ▸ parsed, ?_⟩
      have announced : Frame.mucJoined (.str room) nick none ∈ state.frames := by
        apply grows.subset
        exact List.mem_append_left _ (List.mem_append_right _ (List.mem_singleton_self _))
      exact List.mem_filterMap.mpr ⟨_, announced, rfl⟩
  | leaves type parsed =>
      apply Or.inr
      have announced : Frame.mucLeft (.str text) ∈ state.frames := by
        apply grows.subset
        exact List.mem_append_right _ (List.mem_singleton_self _)
      rw [written]
      exact List.mem_filterMap.mpr ⟨_, announced, rfl⟩

theorem joins_bare (idempotent : ∀ value room, bare value = .ok room →
      bare (.str room) = .ok room) {requests : List Request} {final : State}
    (addressed : Addressed requests)
    (consistent : ConsistentThroughout bare env requests)
    (run : replay (step bare env) fresh requests = some final) {request : Request}
    (member : request ∈ requests) (type : request.message.type = .joinRoom) {room : String}
    (parsed : bare request.room = .ok room) : request.room = .str room := by
  obtain ⟨earlier, later, rfl⟩ := List.append_of_mem member
  have split : earlier ++ request :: later = (earlier ++ [request]) ++ later := by simp
  rw [split] at run addressed
  rw [replay_append] at run
  obtain ⟨next, joined, _⟩ := Option.bind_eq_some_iff.mp run
  have addressedHere : Addressed (earlier ++ [request]) :=
    fun other among => addressed other (List.mem_append_left _ among)
  have keys := (consistent _ later next split joined).1.keys
  have inside := joined_bare idempotent addressedHere joined
  obtain ⟨middle, _, fired⟩ := replay_of_snoc joined
  obtain ⟨text, written⟩ := addressedHere request
    (List.mem_append_right _ (List.mem_singleton_self _))
  cases moves_of_step written fired with
  | leaves leave =>
      rw [type] at leave
      cases leave
  | @joins jid nick _ parsedText =>
      rw [written, parsedText] at parsed
      cases parsed
      have stored : Key.text text ∈
          (afterJoin middle text room nick request.occupants).caches.joinedRooms.keys := by
        simp [after_join_tables, Dict.mem_keys_set_item]
      obtain ⟨other, among, same⟩ := (keys (.text text)).mp stored
      cases same
      rw [inside text among] at parsedText
      cases parsedText
      exact written

end Steps

/-- The commands leave one key for each room, everywhere and at all times, exactly
when they spell rooms alike. -/
theorem one_key_per_room_iff (bare : Json → Except String String) (env : Env)
    (requests : List Request) (final : State)
    (idempotent : ∀ value room, bare value = .ok room → bare (.str room) = .ok room)
    (addressed : Addressed requests)
    (run : replay (step bare env) fresh requests = some final) :
    ConsistentThroughout bare env requests ↔ SpelledAlike bare requests := by
  constructor
  · intro consistent
    have joins : ∀ request ∈ requests, request.message.type = .joinRoom →
        ∀ room, bare request.room = .ok room → request.room = .str room :=
      fun request member type room parsed =>
        joins_bare idempotent addressed consistent run member type parsed
    refine ⟨joins, ?_⟩
    have announced : ∀ request ∈ requests, request.room ∈ final.frames.filterMap roomId := by
      intro request member
      rcases announced_of_mem addressed run member with ⟨type, room, parsed, framed⟩ | framed
      · rw [joins request member type room parsed]
        exact framed
      · exact framed
    intro first member second other same
    have ids := (consistent requests [] final (List.append_nil _).symm run).1.ids
    exact ids _ (announced first member) _ (announced second other) same
  · intro alike earlier later state split before
    subst split
    exact consistent_of_alike
      (fun other member => addressed other (List.mem_append_left _ member)) alike.before before

def teamOf : Json → Except String String
  | .str text =>
      if text = "team@conference.example.com" ∨ text = "Team@conference.example.com/alice" then
        .ok "team@conference.example.com"
      else .error "JID could not be parsed"
  | _ => .error "JID could not be parsed"

def joinAndLeave (room : String) : List Request :=
  [⟨⟨.joinRoom, [("room", .str room)]⟩, []⟩, ⟨⟨.leaveRoom, [("room", .str room)]⟩, []⟩]

theorem team_leaves_nothing :
    ConsistentThroughout teamOf Pump.alice (joinAndLeave "team@conference.example.com") := by
  apply (one_key_per_room_iff teamOf Pump.alice (joinAndLeave "team@conference.example.com") _
    _ _ rfl).mpr
  · constructor
    · intro request member _ room parsed
      rcases List.mem_pair.mp member with rfl | rfl
      · cases parsed
        rfl
      · cases parsed
        rfl
    · intro first member second other _
      rcases List.mem_pair.mp member with rfl | rfl
      · rcases List.mem_pair.mp other with rfl | rfl
        · rfl
        · rfl
      · rcases List.mem_pair.mp other with rfl | rfl
        · rfl
        · rfl
  · intro value room parsed
    unfold teamOf at parsed
    split at parsed
    · split at parsed
      · cases parsed
        rfl
      · cases parsed
    · cases parsed
  · intro request member
    rcases List.mem_pair.mp member with rfl | rfl
    · exact ⟨_, rfl⟩
    · exact ⟨_, rfl⟩

/-- The room is joined by an address with a resource and an upper-case letter. -/
theorem resource_makes_a_second_key :
    ¬ConsistentThroughout teamOf Pump.alice
      (joinAndLeave "Team@conference.example.com/alice") := by
  intro consistent
  have keys := (consistent [⟨⟨.joinRoom, [("room", .str "Team@conference.example.com/alice")]⟩,
    []⟩] _ _ rfl rfl).1.keys
  obtain ⟨room, member, same⟩ :=
    (keys (.text "Team@conference.example.com/alice")).mp (List.mem_singleton_self _)
  cases same
  exact absurd (List.mem_singleton.mp member) (by decide)

end PyConduit.RoomSpellings
