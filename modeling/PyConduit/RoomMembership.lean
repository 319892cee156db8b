import PyConduit.GuardedRun
import PyConduit.Rooms

/-!
# Room membership under interleaved tasks

A join is announced only when it is over, the handler of Connected rejoins a copy
of the rooms one by one, and the occupants of a room are stored late; a leave may
come in between. What a task has still to do is part of the state here, and an
action is what one task does between two suspensions.
-/

namespace PyConduit.RoomMembership

open Protocol Replay Commands Rooms GuardedRun

set_option autoImplicit false

/-- Where a task is suspended: in `set_presence`, in a join or in one of its two
broadcasts (with the rooms its loop has left, none for a command), in the broadcast
of MucPresence, in `leave_room` of the client, or in a last broadcast. -/
inductive Task
  | connected
  | joining (room : String) (nick : Json) (rest : List (Key × Json))
  | announcing (room : String) (rest : List (Key × Json))
  | emitting (rest : List (Key × Json))
  | presence (room : String)
  | leaving (room : Json)
  | closing

structure System where
  rooms : State
  tasks : List Task

def start : System := ⟨fresh, []⟩

inductive Action
  | command (message : ClientMessage)
  | connected
  | presence (room nick : String) (available : Bool) (occupants : List Occupant)
  | resumes (index : Nat) (returned : Bool) (occupants : List Occupant)

section Machine

variable (bare : Json → Except String String) (env : Env)

/-- The loop of the handler of Connected over the rooms left. -/
def rejoin (state : State) : List (Key × Json) → State × List Task
  | [] => (state, [])
  | (key, nick) :: rest =>
      match bare key.json with
      | .error _ => rejoin state rest
      | .ok room => (enterRoom state room nick, [.joining room nick rest])

/-- A room command up to its first suspension. -/
def begin (state : State) (message : ClientMessage) : Option (State × List Task) :=
  match handleCommand env state.caches message with
  | .ok (caches, .call (.joinRoom room nick) _) =>
      match bare room with
      | .error _ => some ({ state with caches := caches }, [])
      | .ok jid => some (enterRoom { state with caches := caches } jid nick, [.joining jid nick []])
  | .ok (caches, .call (.leaveRoom room) _) =>
      match bare room with
      | .error _ => some ({ state with caches := caches }, [])
      | .ok jid => some (exitRoom { state with caches := caches } jid, [.leaving room])
  | _ => none

def isOwnNick (nick : String) : Option Json → Bool
  | some (.str own) => nick = own
  | _ => false

/-- `_on_groupchat_presence` up to its first suspension. -/
def onGroupchatPresence (state : State) (room nick : String) (available : Bool)
    (occupants : List Occupant) : State × List Task :=
  match state.joined.lookup room with
  | none => (state, [])
  | some own =>
      if isOwnNick nick (some own) then (emitOccupants state room occupants, [.closing])
      else (handleEvent state (.mucPresence room nick available), [.presence room])

/-- What a task does next. `returned` is false when the operation it awaits raises,
and `occupants` what the client finds when it comes to emit them. -/
def resume (state : State) (returned : Bool) (occupants : List Occupant) :
    Task → State × List Task
  | .connected =>
      if returned then rejoin bare state state.caches.joinedRooms.entries else (state, [])
  | .joining room nick rest =>
      if returned then (announce state room nick, [.announcing room rest])
      else rejoin bare state rest
  | .announcing room rest => (emitOccupants state room occupants, [.emitting rest])
  | .emitting rest => rejoin bare state rest
  | .presence room => (emitOccupants state room occupants, [.closing])
  | .leaving room =>
      if returned then (broadcast state (.mucLeft room), [.closing]) else (state, [])
  | .closing => (state, [])

def step (system : System) : Action → Option System
  | .command message =>
      (begin bare env system.rooms message).map fun begun =>
        ⟨begun.1, system.tasks ++ begun.2⟩
  | .connected => some ⟨system.rooms, system.tasks ++ [.connected]⟩
  | .presence room nick available occupants =>
      let handled := onGroupchatPresence system.rooms room nick available occupants
      some ⟨handled.1, system.tasks ++ handled.2⟩
  | .resumes index returned occupants =>
      match system.tasks[index]? with
      | some task =>
          let resumed := resume bare system.rooms returned occupants task
          some ⟨resumed.1, system.tasks.eraseIdx index ++ resumed.2⟩
      | none => none

def Task.rooms : Task → List String
  | .joining room _ rest => room :: rest.filterMap fun entry => (bare entry.1.json).toOption
  | .announcing room rest => room :: rest.filterMap fun entry => (bare entry.1.json).toOption
  | .emitting rest => rest.filterMap fun entry => (bare entry.1.json).toOption
  | .presence room => [room]
  | _ => []

/-- Commands name rooms by bare JIDs as the parser writes them, and every operation
of the client succeeds. -/
def Tidy : Action → Prop
  | .command message =>
      ∃ room, message.get "room" = .str room ∧ bare (.str room) = .ok room
  | .resumes _ returned _ => returned = true
  | _ => True

/-- A room is left only when no task has still to do with it, and joined only when
no leave of it has still to be announced. -/
def Untangled (system : System) : Action → Prop
  | .command message =>
      match message.type with
      | .leaveRoom =>
          ∀ room, bare (message.get "room") = .ok room →
            ∀ task ∈ system.tasks, room ∉ task.rooms bare
      | .joinRoom => Task.leaving (message.get "room") ∉ system.tasks
      | _ => True
  | _ => True

end Machine

def announces (room : String) : Frame → Option Bool
  | .mucJoined (.str other) _ _ => if other = room then some true else none
  | .mucLeft (.str other) => if other = room then some false else none
  | _ => none

def lastAnnounced (frames : List Frame) (room : String) : Option Bool :=
  (frames.filterMap (announces room)).getLast?

structure MembershipAgrees (state : State) : Prop where
  keys : ∀ key, key ∈ state.caches.joinedRooms.keys ↔
    ∃ room ∈ state.joined.keys, key = .text room
  occupants : ∀ key ∈ state.caches.mucOccupants.keys, key ∈ state.caches.joinedRooms.keys
  announced : ∀ room, lastAnnounced state.frames room = some true ↔
    .text room ∈ state.caches.joinedRooms.keys

section Steps

variable {bare : Json → Except String String} {env : Env}

inductive Begins (state : State) (message : ClientMessage) (room : String) :
    State × List Task → Prop
  | joins {nick : Json} (type : message.type = .joinRoom) :
      Begins state message room
        (enterRoom { state with caches := joinRoom state.caches (.text room) nick } room nick,
          [.joining room nick []])
  | leaves (type : message.type = .leaveRoom) :
      Begins state message room
        (exitRoom { state with caches := leaveRoom state.caches (.text room) } room,
          [.leaving (.str room)])

theorem begins_of_begin {state : State} {message : ClientMessage} {room : String}
    {begun : State × List Task} (written : message.get "room" = .str room)
    (parsed : bare (.str room) = .ok room) (begins : begin bare env state message = some begun) :
    Begins state message room begun := by
  unfold begin at begins
  split at begins
  · next caches asked nick resume handled =>
      have type := command_of_call handled
      obtain ⟨rfl, rfl, ⟨key, hashed, rfl⟩, rfl⟩ := join_room_of_call handled
      rw [written] at hashed begins
      cases hashed
      rw [parsed] at begins
      cases begins
      exact .joins type
  · next caches asked resume handled =>
      have type := command_of_call handled
      obtain ⟨rfl, popped, rfl⟩ := leave_room_of_call handled
      rw [written] at popped begins
      cases popped
      rw [parsed] at begins
      cases begins
      exact .leaves type
  · cases begins

theorem last_announced_append (frames : List Frame) (frame : Frame) (room : String) :
    lastAnnounced (frames ++ [frame]) room =
      (announces room frame).or (lastAnnounced frames room) := by
  unfold lastAnnounced
  rw [List.filterMap_append, List.getLast?_append]
  cases said : announces room frame with
  | none => simp [said]
  | some joined => simp [said]

/-- A succeeding command that nobody interrupts is the command as one function. -/
theorem uninterrupted_command
    {state after : State} {message : ClientMessage} {occupants : List Occupant}
    (performed : perform bare env state message (.ok occupants) = some (after, .ok ())) :
    ∃ actions, replay (step bare env) ⟨state, []⟩ actions = some ⟨after, []⟩ := by
  unfold perform at performed
  split at performed
  · next caches room nick finish handled =>
      obtain ⟨_, _, _, rfl⟩ := join_room_of_call handled
      simp only [clientJoin] at performed
      cases parsed : bare room with
      | error text =>
          rw [parsed] at performed
          cases performed
      | ok jid =>
          rw [parsed] at performed
          cases performed
          have begins : begin bare env state message =
              some (enterRoom { state with caches := caches } jid nick, [.joining jid nick []]) := by
            simp only [begin, handled, parsed]
          refine ⟨[.command message, .resumes 0 true [], .resumes 0 true occupants,
            .resumes 0 true []], ?_⟩
          simp only [replay, step, begins, Option.map_some]
          rfl
  · next caches room finish handled =>
      obtain ⟨_, _, rfl⟩ := leave_room_of_call handled
      cases parsed : bare room with
      | error text =>
          simp only [clientLeave, parsed] at performed
          cases performed
      | ok jid =>
          have left : clientLeave bare { state with caches := caches } room (.ok occupants) =
              (exitRoom { state with caches := caches } jid, .ok ()) := by
            simp only [clientLeave, parsed]
            split
            · contradiction
            · rfl
          rw [left] at performed
          cases performed
          have begins : begin bare env state message =
              some (exitRoom { state with caches := caches } jid, [.leaving room]) := by
            simp only [begin, handled, parsed]
          refine ⟨[.command message, .resumes 0 true [], .resumes 0 true []], ?_⟩
          simp only [replay, step, begins, Option.map_some]
          rfl
  · cases performed

structure Membership (bare : Json → Except String String) (system : System) : Prop where
  keys : ∀ key, key ∈ system.rooms.caches.joinedRooms.keys ↔
    ∃ room ∈ system.rooms.joined.keys, key = .text room
  occupants : ∀ key ∈ system.rooms.caches.mucOccupants.keys,
    key ∈ system.rooms.caches.joinedRooms.keys
  parsed : ∀ room ∈ system.rooms.joined.keys, bare (.str room) = .ok room
  pending : ∀ task ∈ system.tasks, ∀ room ∈ task.rooms bare, room ∈ system.rooms.joined.keys
  inside : ∀ room ∈ system.rooms.joined.keys, lastAnnounced system.rooms.frames room = some true ∨
    ∃ nick rest, Task.joining room nick rest ∈ system.tasks
  outside : ∀ room, room ∉ system.rooms.joined.keys →
    lastAnnounced system.rooms.frames room ≠ some true ∨ Task.leaving (.str room) ∈ system.tasks
  leaving : ∀ room, Task.leaving (.str room) ∈ system.tasks → room ∉ system.rooms.joined.keys

theorem membership_start : Membership bare start := by
  constructor
  all_goals simp [start, fresh, empty, Dict.empty, Dict.keys, lastAnnounced]

structure Quiet (state next : State) : Prop where
  joined : ∀ room, room ∈ next.joined.keys ↔ room ∈ state.joined.keys
  account : next.caches.joinedRooms = state.caches.joinedRooms
  occupants : ∀ key ∈ next.caches.mucOccupants.keys, key ∈ state.caches.mucOccupants.keys ∨
    ∃ room ∈ state.joined.keys, key = .text room
  announced : ∀ room, lastAnnounced next.frames room = lastAnnounced state.frames room

theorem Quiet.same (state : State) : Quiet state state :=
  ⟨fun _ => Iff.rfl, rfl, fun _ member => Or.inl member, fun _ => rfl⟩

theorem quiet_emit {state : State} {room : String} (inside : room ∈ state.joined.keys)
    (occupants : List Occupant) : Quiet state (emitOccupants state room occupants) := by
  constructor
  · intro _
    rfl
  · rfl
  · intro key member
    change key ∈ (state.caches.mucOccupants.setItem (.text room) occupants).keys at member
    rcases (Dict.mem_keys_set_item ..).mp member with before | same
    · exact Or.inl before
    · exact Or.inr ⟨room, inside, same⟩
  · intro other
    exact last_announced_append state.frames (.mucOccupants (.str room) occupants) other

/-- New tasks are harmless when they have to do with rooms both sides are in only
and announce no leave. -/
def Harmless (bare : Json → Except String String) (state : State) (tasks : List Task) : Prop :=
  ∀ task ∈ tasks, (∀ room ∈ task.rooms bare, room ∈ state.joined.keys) ∧
    ∀ room, task ≠ .leaving room

theorem rejoin_quiet {state : State} {rooms : List (Key × Json)}
    (inside : ∀ room ∈ rooms.filterMap fun entry => (bare entry.1.json).toOption,
      room ∈ state.joined.keys) :
    Quiet state (rejoin bare state rooms).1 ∧ Harmless bare state (rejoin bare state rooms).2 := by
  induction rooms with
  | nil =>
      refine ⟨Quiet.same state, ?_⟩
      intro task member
      cases member
  | cons entry rest induction =>
      obtain ⟨key, nick⟩ := entry
      unfold rejoin
      cases parsed : bare key.json with
      | error text =>
          apply induction
          intro room member
          apply inside
          simpa [parsed, Except.toOption] using member
      | ok room =>
          have named : ∀ other, (other = room ∨
              other ∈ rest.filterMap fun entry => (bare entry.1.json).toOption) →
              other ∈ state.joined.keys := by
            intro other member
            apply inside
            simpa [parsed, Except.toOption] using member
          constructor
          · constructor
            · intro other
              change other ∈ (state.joined.setItem room nick).keys ↔ _
              rw [Dict.mem_keys_set_item]
              constructor
              · rintro (member | rfl)
                · exact member
                · exact named other (Or.inl rfl)
              · exact Or.inl
            · rfl
            · intro other member
              exact Or.inl member
            · intro other
              rfl
          · intro task member
            rw [List.mem_singleton.mp member]
            refine ⟨?_, fun _ => by simp⟩
            intro other among
            exact named other (List.mem_cons.mp among)

/-- Whatever leaves the tasks that join and leave alone keeps the invariant when
it is quiet. -/
theorem membership_quiet {system : System} (holds : Membership bare system) {next : State}
    (quiet : Quiet system.rooms next) {tasks : List Task}
    (origin : ∀ task ∈ tasks, task ∈ system.tasks ∨
      (∀ room ∈ task.rooms bare, room ∈ system.rooms.joined.keys) ∧ ∀ room, task ≠ .leaving room)
    (joins : ∀ room nick rest, Task.joining room nick rest ∈ system.tasks →
      Task.joining room nick rest ∈ tasks)
    (leaves : ∀ room, Task.leaving room ∈ system.tasks → Task.leaving room ∈ tasks) :
    Membership bare ⟨next, tasks⟩ := by
  constructor
  case keys =>
    intro key
    simp only [quiet.account, quiet.joined]
    exact holds.keys key
  case occupants =>
    intro key member
    rw [quiet.account]
    rcases quiet.occupants key member with before | inside
    · exact holds.occupants key before
    · exact (holds.keys key).mpr inside
  case parsed =>
    intro room member
    exact holds.parsed room ((quiet.joined room).mp member)
  case pending =>
    intro task member room among
    rw [quiet.joined]
    rcases origin task member with before | ⟨inside, _⟩
    · exact holds.pending task before room among
    · exact inside room among
  case inside =>
    intro room member
    rw [quiet.announced]
    rcases holds.inside room ((quiet.joined room).mp member) with said | ⟨nick, rest, joining⟩
    · exact Or.inl said
    · exact Or.inr ⟨nick, rest, joins room nick rest joining⟩
  case outside =>
    intro room absent
    rw [quiet.announced]
    rcases holds.outside room (fun inside => absent ((quiet.joined room).mpr inside)) with
      said | leaving
    · exact Or.inl said
    · exact Or.inr (leaves _ leaving)
  case leaving =>
    intro room member inside
    rcases origin _ member with before | ⟨_, other⟩
    · exact holds.leaving room before ((quiet.joined room).mp inside)
    · exact other _ rfl

theorem membership_joins {system : System} (holds : Membership bare system) {room : String}
    {nick : Json} (parsed : bare (.str room) = .ok room)
    (apart : Task.leaving (.str room) ∉ system.tasks) :
    Membership bare
      ⟨enterRoom { system.rooms with
          caches := joinRoom system.rooms.caches (.text room) nick } room nick,
        system.tasks ++ [.joining room nick []]⟩ := by
  have joined : ∀ other, other ∈ (system.rooms.joined.setItem room nick).keys ↔
      other ∈ system.rooms.joined.keys ∨ other = room := by
    intro other
    exact Dict.mem_keys_set_item ..
  rw [join_text]
  constructor
  case keys =>
    intro key
    exact keys_agree_join holds.keys room nick key
  case occupants =>
    intro key member
    change key ∈ (system.rooms.caches.joinedRooms.setItem (.text room) nick).keys
    rw [Dict.mem_keys_set_item]
    exact Or.inl (holds.occupants key member)
  case parsed =>
    intro other member
    rcases (joined other).mp member with before | rfl
    · exact holds.parsed other before
    · exact parsed
  case pending =>
    intro task member other among
    apply (joined other).mpr
    rcases List.mem_append.mp member with before | last
    · exact Or.inl (holds.pending task before other among)
    · rw [List.mem_singleton.mp last] at among
      exact Or.inr (List.mem_singleton.mp among)
  case inside =>
    intro other member
    rcases (joined other).mp member with before | rfl
    · rcases holds.inside other before with said | ⟨nick, rest, joining⟩
      · exact Or.inl said
      · exact Or.inr ⟨nick, rest, List.mem_append_left _ joining⟩
    · exact Or.inr ⟨nick, [], List.mem_append_right _ (List.mem_singleton_self _)⟩
  case outside =>
    intro other absent
    rcases holds.outside other (fun before => absent ((joined other).mpr (Or.inl before))) with
      said | leaving
    · exact Or.inl said
    · exact Or.inr (List.mem_append_left _ leaving)
  case leaving =>
    intro other member inside
    have leaving : Task.leaving (.str other) ∈ system.tasks := by simpa using member
    rcases (joined other).mp inside with before | rfl
    · exact holds.leaving other leaving before
    · exact apart leaving

theorem membership_leaves {system : System} (holds : Membership bare system) {room : String}
    (free : ∀ task ∈ system.tasks, room ∉ task.rooms bare) :
    Membership bare
      ⟨exitRoom { system.rooms with caches := leaveRoom system.rooms.caches (.text room) } room,
        system.tasks ++ [.leaving (.str room)]⟩ := by
  have joined : ∀ other, other ∈ (system.rooms.joined.pop room).keys ↔
      other ∈ system.rooms.joined.keys ∧ other ≠ room := by
    intro other
    rw [Dict.keys_pop, List.mem_filter, decide_eq_true_eq]
  rw [leave_text]
  constructor
  case keys =>
    intro key
    exact keys_agree_leave holds.keys (fun _ _ => Iff.rfl) key
  case occupants =>
    intro key member
    change key ∈ (system.rooms.caches.mucOccupants.pop (.text room)).keys at member
    change key ∈ (system.rooms.caches.joinedRooms.pop (.text room)).keys
    rw [Dict.keys_pop, List.mem_filter] at member ⊢
    exact ⟨holds.occupants key member.1, member.2⟩
  case parsed =>
    intro other member
    exact holds.parsed other ((joined other).mp member).1
  case pending =>
    intro task member other among
    rcases List.mem_append.mp member with before | last
    · apply (joined other).mpr
      refine ⟨holds.pending task before other among, ?_⟩
      rintro rfl
      exact free task before among
    · rw [List.mem_singleton.mp last] at among
      cases among
  case inside =>
    intro other member
    rcases holds.inside other ((joined other).mp member).1 with said | ⟨nick, rest, joining⟩
    · exact Or.inl said
    · exact Or.inr ⟨nick, rest, List.mem_append_left _ joining⟩
  case outside =>
    intro other absent
    by_cases same : other = room
    · exact Or.inr (List.mem_append_right _ (by simp [same]))
    · rcases holds.outside other (fun before => absent ((joined other).mpr ⟨before, same⟩)) with
        said | leaving
      · exact Or.inl said
      · exact Or.inr (List.mem_append_left _ leaving)
  case leaving =>
    intro other member inside
    obtain ⟨before, differs⟩ := (joined other).mp inside
    rcases List.mem_append.mp member with earlier | last
    · exact holds.leaving other earlier before
    · simp only [List.mem_singleton, Task.leaving.injEq, Json.str.injEq] at last
      exact differs last

theorem mem_erase_of_ne {tasks : List Task} {index : Nat} {task other : Task}
    (resumes : tasks[index]? = some task) (member : other ∈ tasks) (differs : other ≠ task) :
    other ∈ tasks.eraseIdx index := by
  obtain ⟨position, found⟩ := List.mem_iff_getElem?.mp member
  apply List.mem_eraseIdx_iff_getElem?.mpr
  refine ⟨position, ?_, found⟩
  rintro rfl
  rw [resumes] at found
  exact differs (Option.some.inj found).symm

theorem mem_resumed {tasks : List Task} {index : Nat} {task fresh : Task}
    (member : task ∈ tasks.eraseIdx index ++ [fresh]) : task ∈ tasks ∨ task = fresh := by
  rcases List.mem_append.mp member with before | last
  · exact Or.inl (List.mem_of_mem_eraseIdx before)
  · exact Or.inr (List.mem_singleton.mp last)

theorem membership_announces {system : System} (holds : Membership bare system) {index : Nat}
    {room : String} {nick : Json} {rest : List (Key × Json)}
    (resumes : system.tasks[index]? = some (.joining room nick rest)) :
    Membership bare
      ⟨announce system.rooms room nick,
        system.tasks.eraseIdx index ++ [.announcing room rest]⟩ := by
  have said : ∀ other, lastAnnounced (announce system.rooms room nick).frames other =
      if room = other then some true else lastAnnounced system.rooms.frames other := by
    intro other
    apply (last_announced_append system.rooms.frames (.mucJoined (.str room) nick none) other).trans
    by_cases same : room = other
    · simp [announces, same]
    · simp [announces, same]
  have joining : Task.joining room nick rest ∈ system.tasks := List.mem_of_getElem? resumes
  have entered : room ∈ system.rooms.joined.keys := holds.pending _ joining room List.mem_cons_self
  constructor
  case keys => exact holds.keys
  case occupants => exact holds.occupants
  case parsed => exact holds.parsed
  case pending =>
    intro task member other among
    rcases mem_resumed member with before | rfl
    · exact holds.pending task before other among
    · exact holds.pending _ joining other among
  case inside =>
    intro other member
    simp only [said]
    by_cases same : room = other
    · exact Or.inl (if_pos same)
    · rw [if_neg same]
      rcases holds.inside other member with announced | ⟨otherNick, others, waiting⟩
      · exact Or.inl announced
      · refine Or.inr ⟨otherNick, others, List.mem_append_left _ ?_⟩
        apply mem_erase_of_ne resumes waiting
        intro equal
        cases equal
        exact same rfl
  case outside =>
    intro other absent
    simp only [said]
    have differs : room ≠ other := by
      rintro rfl
      exact absent entered
    rw [if_neg differs]
    rcases holds.outside other absent with silent | leaving
    · exact Or.inl silent
    · refine Or.inr (List.mem_append_left _ ?_)
      exact mem_erase_of_ne resumes leaving (by simp)
  case leaving =>
    intro other member
    rcases mem_resumed member with before | equal
    · exact holds.leaving other before
    · cases equal

theorem membership_left {system : System} (holds : Membership bare system) {index : Nat}
    {room : Json} (resumes : system.tasks[index]? = some (.leaving room)) :
    Membership bare
      ⟨broadcast system.rooms (.mucLeft room), system.tasks.eraseIdx index ++ [.closing]⟩ := by
  have said : ∀ other, lastAnnounced (broadcast system.rooms (.mucLeft room)).frames other =
      (announces other (.mucLeft room)).or (lastAnnounced system.rooms.frames other) :=
    last_announced_append system.rooms.frames (.mucLeft room)
  have leftRoom : ∀ other, announces other (.mucLeft room) = none ∨
      room = .str other ∧ announces other (.mucLeft room) = some false := by
    intro other
    cases room with
    | str named =>
        by_cases same : named = other
        · exact Or.inr ⟨by rw [same], by simp [announces, same]⟩
        · exact Or.inl (by simp [announces, same])
    | _ => exact Or.inl rfl
  have gone : ∀ other, room = .str other → other ∉ system.rooms.joined.keys := by
    rintro other rfl
    exact holds.leaving other (List.mem_of_getElem? resumes)
  constructor
  case keys => exact holds.keys
  case occupants => exact holds.occupants
  case parsed => exact holds.parsed
  case pending =>
    intro task member other among
    rcases mem_resumed member with before | rfl
    · exact holds.pending task before other among
    · cases among
  case inside =>
    intro other member
    simp only [said]
    rcases leftRoom other with silent | ⟨same, _⟩
    · rw [silent, Option.none_or]
      rcases holds.inside other member with announced | ⟨nick, rest, waiting⟩
      · exact Or.inl announced
      · exact Or.inr ⟨nick, rest,
          List.mem_append_left _ (mem_erase_of_ne resumes waiting (by simp))⟩
    · exact absurd member (gone other same)
  case outside =>
    intro other absent
    simp only [said]
    rcases leftRoom other with silent | ⟨_, leaves⟩
    · rw [silent, Option.none_or]
      rcases holds.outside other absent with quiet | leaving
      · exact Or.inl quiet
      · refine Or.inr (List.mem_append_left _ (mem_erase_of_ne resumes leaving ?_))
        intro equal
        cases equal
        simp [announces] at silent
    · rw [leaves]
      exact Or.inl (by simp)
  case leaving =>
    intro other member
    rcases mem_resumed member with before | equal
    · exact holds.leaving other before
    · cases equal

theorem membership_resumes {system : System} (holds : Membership bare system) {index : Nat}
    {task : Task} (resumes : system.tasks[index]? = some task)
    (joins : ∀ room nick rest, task ≠ .joining room nick rest)
    (leaves : ∀ room, task ≠ .leaving room) {resumed : State × List Task}
    (quiet : Quiet system.rooms resumed.1) (harmless : Harmless bare system.rooms resumed.2) :
    Membership bare ⟨resumed.1, system.tasks.eraseIdx index ++ resumed.2⟩ := by
  apply membership_quiet holds quiet
  · intro other member
    rcases List.mem_append.mp member with before | fresh
    · exact Or.inl (List.mem_of_mem_eraseIdx before)
    · exact Or.inr (harmless other fresh)
  · intro room nick rest member
    exact List.mem_append_left _ (mem_erase_of_ne resumes member (joins room nick rest).symm)
  · intro room member
    exact List.mem_append_left _ (mem_erase_of_ne resumes member (leaves room).symm)

theorem harmless_one {state : State} {task : Task}
    (inside : ∀ room ∈ task.rooms bare, room ∈ state.joined.keys)
    (other : ∀ room, task ≠ .leaving room) : Harmless bare state [task] := by
  intro only member
  rw [List.mem_singleton.mp member]
  exact ⟨inside, other⟩

/-- The copy of the account's rooms names the rooms the client is in. -/
theorem entries_inside {system : System} (holds : Membership bare system) :
    ∀ room ∈ system.rooms.caches.joinedRooms.entries.filterMap fun entry =>
      (bare entry.1.json).toOption, room ∈ system.rooms.joined.keys := by
  intro room member
  obtain ⟨entry, among, parses⟩ := List.mem_filterMap.mp member
  obtain ⟨other, inside, same⟩ := (holds.keys entry.1).mp (List.mem_map.mpr ⟨entry, among, rfl⟩)
  rw [same, Key.json, holds.parsed other inside] at parses
  cases parses
  exact inside

/-- A stanza of an occupant changes no membership, and leaves a task for a joined room. -/
theorem presence_quiet (state : State) (room nick : String) (available : Bool)
    (occupants : List Occupant) :
    Quiet state (onGroupchatPresence state room nick available occupants).1 ∧
      Harmless bare state (onGroupchatPresence state room nick available occupants).2 := by
  unfold onGroupchatPresence
  cases found : state.joined.lookup room with
  | none =>
      refine ⟨Quiet.same _, ?_⟩
      intro task member
      cases member
  | some own =>
      have inside : room ∈ state.joined.keys := (Dict.mem_keys_iff ..).mpr ⟨own, found⟩
      dsimp only
      split
      · exact ⟨quiet_emit inside occupants, harmless_one (fun _ none => by cases none)
          (fun _ => by simp)⟩
      · constructor
        · refine ⟨fun _ => Iff.rfl, rfl, fun _ member => Or.inl member, ?_⟩
          intro other
          exact last_announced_append state.frames (.mucPresence room nick available) other
        · apply harmless_one
          · intro other member
            rw [List.mem_singleton.mp member]
            exact inside
          · simp

theorem membership_step {system next : System} {action : Action} (tidy : Tidy bare action)
    (untangled : Untangled bare system action) (holds : Membership bare system)
    (fired : step bare env system action = some next) : Membership bare next := by
  cases action with
  | command message =>
      obtain ⟨room, written, parsed⟩ := tidy
      obtain ⟨begun, begins, rfl⟩ := Option.map_eq_some_iff.mp fired
      cases begins_of_begin written parsed begins with
      | joins type =>
          simp only [Untangled, type, written] at untangled
          exact membership_joins holds parsed untangled
      | leaves type =>
          simp only [Untangled, type, written] at untangled
          exact membership_leaves holds (untangled room parsed)
  | connected =>
      cases fired
      apply membership_quiet holds (Quiet.same _)
      · intro task member
        rcases List.mem_append.mp member with before | last
        · exact Or.inl before
        · rw [List.mem_singleton.mp last]
          exact Or.inr ⟨fun _ none => (by cases none), fun _ => by simp⟩
      · intro room nick rest member
        exact List.mem_append_left _ member
      · intro room member
        exact List.mem_append_left _ member
  | presence room nick available occupants =>
      cases fired
      have handled : _ ∧ Harmless bare system.rooms _ :=
        presence_quiet system.rooms room nick available occupants
      apply membership_quiet holds handled.1
      · intro task member
        rcases List.mem_append.mp member with before | fresh
        · exact Or.inl before
        · exact Or.inr (handled.2 task fresh)
      · intro other own rest member
        exact List.mem_append_left _ member
      · intro other member
        exact List.mem_append_left _ member
  | resumes index returned occupants =>
      have succeeded : returned = true := tidy
      subst succeeded
      simp only [step] at fired
      cases waits : system.tasks[index]? with
      | none =>
          rw [waits] at fired
          cases fired
      | some task =>
          rw [waits] at fired
          cases fired
          have pending := holds.pending task (List.mem_of_getElem? waits)
          cases task with
          | joining room nick rest => exact membership_announces holds waits
          | leaving room => exact membership_left holds waits
          | connected =>
              have quiet := rejoin_quiet (entries_inside holds)
              exact membership_resumes holds waits (by simp) (by simp) quiet.1 quiet.2
          | announcing room rest =>
              apply membership_resumes holds waits (by simp) (by simp)
                (quiet_emit (pending room List.mem_cons_self) occupants)
              apply harmless_one
              · intro other member
                exact pending other (List.mem_cons_of_mem room member)
              · simp
          | emitting rest =>
              have quiet := rejoin_quiet pending
              exact membership_resumes holds waits (by simp) (by simp) quiet.1 quiet.2
          | presence room =>
              apply membership_resumes holds waits (by simp) (by simp)
                (quiet_emit (pending room List.mem_cons_self) occupants)
              exact harmless_one (fun _ none => by cases none) (by simp)
          | closing =>
              apply membership_resumes holds waits (by simp) (by simp) (Quiet.same _)
              intro other member
              cases member

end Steps

/-- In every run in which no room is left while a task has still to do with it, and
none is joined while its leave has still to be announced, membership agrees
whenever all tasks are over. -/
theorem membership_agrees_when_settled (bare : Json → Except String String) (env : Env)
    (actions : List Action) (final : System)
    (conforms : Conforms (step bare env)
      (fun system action => Tidy bare action ∧ Untangled bare system action) start actions)
    (run : replay (step bare env) start actions = some final) (settled : final.tasks = []) :
    MembershipAgrees final.rooms := by
  have holds : Membership bare final :=
    run_invariant (fun _ _ _ allowed holds fired =>
      membership_step allowed.1 allowed.2 holds fired) membership_start conforms run
  refine ⟨holds.keys, holds.occupants, ?_⟩
  intro room
  rw [holds.keys]
  constructor
  · intro said
    by_contra absent
    have outside : room ∉ final.rooms.joined.keys := fun inside => absent ⟨room, inside, rfl⟩
    rcases holds.outside room outside with silent | leaving
    · exact silent said
    · rw [settled] at leaving
      cases leaving
  · rintro ⟨other, inside, same⟩
    cases same
    rcases holds.inside room inside with said | ⟨nick, rest, joining⟩
    · exact said
    · rw [settled] at joining
      cases joining

def joinGuests : ClientMessage := ⟨.joinRoom, [("room", .str "guests@conference.example.com")]⟩

/-- Two rooms are joined at once, a Connected is handled and bob shows up in the first
one, which is left while the join of the second is awaited and its own leave with it. -/
def leaveAmongJoins : List Action :=
  [.command joinTeam, .command joinGuests, .resumes 0 true [], .connected,
    .presence "team@conference.example.com" "bob" true [], .resumes 3 true [],
    .resumes 1 true [], .resumes 3 true [], .command leaveTeam, .resumes 0 true [],
    .resumes 2 true [], .resumes 0 true [], .resumes 0 true [], .resumes 0 true [],
    .resumes 0 true [], .resumes 0 true [], .resumes 0 true [], .resumes 0 true [],
    .resumes 0 true []]

theorem left_after_the_join :
    ∃ final, replay (step bareOf Pump.alice) start leaveAmongJoins = some final ∧
      MembershipAgrees final.rooms := by
  refine ⟨_, rfl, ?_⟩
  apply membership_agrees_when_settled bareOf Pump.alice leaveAmongJoins _ _ rfl rfl
  have joinable (tasks : List Task) (none : ∀ task ∈ tasks, ∀ room, task ≠ .leaving room)
      (room : Json) : Task.leaving room ∉ tasks :=
    fun inside => none _ inside room rfl
  refine ⟨⟨⟨"team@conference.example.com", rfl, rfl⟩, joinable _ (by simp [start]) _⟩, ?_⟩
  refine ⟨⟨⟨"guests@conference.example.com", rfl, rfl⟩, joinable _ ?_ _⟩, ?_⟩
  · intro task inside room
    cases List.mem_singleton.mp inside
    exact Task.noConfusion
  refine ⟨⟨rfl, trivial⟩, ⟨trivial, trivial⟩, ⟨trivial, trivial⟩, ⟨rfl, trivial⟩,
    ⟨rfl, trivial⟩, ⟨rfl, trivial⟩, ⟨⟨"team@conference.example.com", rfl, rfl⟩, ?_⟩, ?_⟩
  · -- only the join of the other room has still to do with one
    intro room named task inside
    cases named
    rcases inside with _ | ⟨_, _ | ⟨_, _ | ⟨_, none⟩⟩⟩
    · decide
    · decide
    · decide
    · cases none
  · exact ⟨⟨rfl, trivial⟩, ⟨rfl, trivial⟩, ⟨rfl, trivial⟩, ⟨rfl, trivial⟩, ⟨rfl, trivial⟩,
      ⟨rfl, trivial⟩, ⟨rfl, trivial⟩, ⟨rfl, trivial⟩, ⟨rfl, trivial⟩, ⟨rfl, trivial⟩, trivial⟩

def leaveDuringJoin : List Action :=
  [.command joinTeam, .command leaveTeam, .resumes 1 true [], .resumes 1 true [],
    .resumes 0 true [], .resumes 0 true [], .resumes 0 true []]

theorem left_room_comes_back :
    Conforms (step bareOf Pump.alice) (fun _ action => Tidy bareOf action) start
        leaveDuringJoin ∧
      ∃ final, replay (step bareOf Pump.alice) start leaveDuringJoin = some final ∧
        final.tasks = [] ∧ ¬MembershipAgrees final.rooms := by
  constructor
  · exact ⟨⟨"team@conference.example.com", rfl, rfl⟩, ⟨"team@conference.example.com", rfl, rfl⟩,
      rfl, rfl, rfl, rfl, rfl, trivial⟩
  · refine ⟨_, rfl, rfl, ?_⟩
    intro agrees
    have entered := agrees.occupants (.text "team@conference.example.com")
      (List.mem_singleton_self _)
    cases entered

end PyConduit.RoomMembership
