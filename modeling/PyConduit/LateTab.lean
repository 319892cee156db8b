import PyConduit.Activity

/-!
# The snapshot of a late tab

`_send_snapshot` iterates over dictionaries that events and commands change in
between its sends. While nobody inserts into or removes from the dictionary that
is being walked through, everything before the iterator has been sent; from
there the frames of the roster, the contacts and the rooms follow one by one.
-/

namespace PyConduit.LateTab

open Protocol Replay Activity GuardedRun
open Lifecycle (Tab)

set_option autoImplicit false

def sendRaisesAt : Action → Option Tab
  | .sendRaises tab => some tab
  | _ => none

/-- No send to the tab raises; no event empties the roster during its first
send; no contact is added during its walk through the contacts, and no room is
added or removed during its walk through the rooms. -/
def Calm (env : Env) (tab : Tab) (session : Session) (action : Action) : Prop :=
  sendRaisesAt action ≠ some tab ∧
    match session.snapshots tab with
    | .ready => session.caches.roster ≠ [] → (cachesAfter env session action).roster ≠ []
    | .presence _ =>
        (cachesAfter env session action).presence.keys = session.caches.presence.keys
    | .room _ _ | .occupants _ =>
        (cachesAfter env session action).joinedRooms.keys = session.caches.joinedRooms.keys
    | _ => True

instance (env : Env) (tab : Tab) (session : Session) (action : Action) :
    Decidable (Calm env tab session action) := by
  unfold Calm
  cases session.snapshots tab
  all_goals infer_instance

section Shown

variable (tab : Tab) (sent : List (Tab × Frame))

def RosterShown : Prop := ∃ contacts, (tab, Frame.roster contacts) ∈ sent

def ContactShown (jid : String) : Prop :=
  ∃ shown status, (tab, Frame.presence jid shown status) ∈ sent

def RoomShown (room : Key) : Prop :=
  ∃ nick subject, (tab, Frame.mucJoined room.json nick subject) ∈ sent

end Shown

def SnapshotComplete (tab : Tab) (start : Caches) (session : Session) : Prop :=
  (start.roster ≠ [] → session.caches.roster ≠ [] → RosterShown tab session.account.sent) ∧
    (∀ jid ∈ start.presence.keys, jid ∈ session.caches.presence.keys →
      ContactShown tab session.account.sent jid) ∧
    ∀ room ∈ start.joinedRooms.keys, room ∈ session.caches.joinedRooms.keys →
      RoomShown tab session.account.sent room

/-- The iterator is in step with the dictionary, and what lies before it has been
shown. -/
structure Walk {Name : Type} (keys : List Name) (changes : Nat) (shown : Name → Prop)
    (cursor : Cursor) : Prop where
  size : cursor.size = keys.length
  changes : cursor.changes = changes
  passed : ∀ name ∈ keys.take cursor.index, shown name

/-- Where the snapshot is suspended says what it has sent. -/
def Place (tab : Tab) (start : Caches) (session : Session) : Snapshot → Prop
  | .idle => True
  | .ready => start.roster ≠ [] → session.caches.roster ≠ []
  | .roster => start.roster ≠ [] → RosterShown tab session.account.sent
  | .presence cursor =>
      (start.roster ≠ [] → RosterShown tab session.account.sent) ∧
        Walk session.caches.presence.keys session.presenceChanges
          (ContactShown tab session.account.sent) cursor
  | .room cursor _ | .occupants cursor =>
      (start.roster ≠ [] → RosterShown tab session.account.sent) ∧
        (∀ jid ∈ start.presence.keys, ContactShown tab session.account.sent jid) ∧
        Walk session.caches.joinedRooms.keys session.roomChanges
          (RoomShown tab session.account.sent) cursor

section Steps

variable {env : Env} {session next : Session} {tab : Tab} {start : Caches}

theorem carried_sent (carried : Carried env session next) :
    session.account.sent <+: next.account.sent := by
  cases carried with
  | still account => exact account ▸ List.prefix_rfl
  | moved _ fired account =>
      rw [account]
      exact (Footprint.footprint_of_step (lifecycle_view fired)).sent

/-- The handler of the tab is inside `_send_snapshot` for as long as its snapshot
has a place, and has left `attach` behind afterwards. -/
def Matches (tab : Tab) (session : Session) : Prop :=
  if session.snapshots tab = .idle then Footprint.Past (session.account.handlers tab)
  else session.account.handlers tab = .snapshot

theorem Matches.of_same (matching : Matches tab session)
    (handler : next.account.handlers tab = session.account.handlers tab)
    (snapshot : next.snapshots tab = session.snapshots tab) : Matches tab next := by
  unfold Matches at matching ⊢
  rwa [handler, snapshot]

theorem carried_matches (carried : Carried env session next) (matching : Matches tab session) :
    Matches tab next ∧ next.snapshots tab = session.snapshots tab := by
  cases carried with
  | still account snapshots =>
      unfold Matches at matching ⊢
      rw [account, snapshots]
      exact ⟨matching, rfl⟩
  | moved continues fired account snapshots =>
      obtain ⟨after, stepped, rfl⟩ := Option.map_eq_some_iff.mp fired
      unfold Matches at matching ⊢
      rw [account, snapshots]
      by_cases idle : session.snapshots tab = .idle
      · rw [if_pos idle] at matching
        have past := Footprint.past_kept stepped matching
        have outside : isSnapshot (after.handlers tab) = false := by
          cases handler : after.handlers tab
          all_goals first | rfl | exact (handler ▸ past).elim
        simp [outside, idle, past]
      · rw [if_neg idle] at matching
        have kept : after.handlers tab = .snapshot := by
          apply Footprint.snapshot_kept stepped matching
          · rintro rfl
            cases continues
          · rintro rfl
            cases continues
        simp [matching, kept, isSnapshot, idle]

structure Underway (tab : Tab) (start : Caches) (session : Session) : Prop where
  matching : Matches tab session
  keyed : PresenceKeyed session.caches
  grown : ∀ jid ∈ start.presence.keys, jid ∈ session.caches.presence.keys
  place : Place tab start session (session.snapshots tab)

theorem RosterShown.mono {earlier later : List (Tab × Frame)} (grows : earlier <+: later)
    (shown : RosterShown tab earlier) : RosterShown tab later := by
  obtain ⟨contacts, member⟩ := shown
  exact ⟨contacts, grows.subset member⟩

theorem ContactShown.mono {earlier later : List (Tab × Frame)} (grows : earlier <+: later)
    {jid : String} (shown : ContactShown tab earlier jid) : ContactShown tab later jid := by
  obtain ⟨availability, status, member⟩ := shown
  exact ⟨availability, status, grows.subset member⟩

theorem RoomShown.mono {earlier later : List (Tab × Frame)} (grows : earlier <+: later)
    {room : Key} (shown : RoomShown tab earlier room) : RoomShown tab later room := by
  obtain ⟨nick, subject, member⟩ := shown
  exact ⟨nick, subject, grows.subset member⟩

theorem Walk.mono {Name : Type} {keys : List Name} {changes : Nat} {shown more : Name → Prop}
    {cursor : Cursor} (implies : ∀ name, shown name → more name)
    (walk : Walk keys changes shown cursor) : Walk keys changes more cursor :=
  ⟨walk.size, walk.changes, fun name member => implies name (walk.passed name member)⟩

/-- Frames sent meanwhile do no harm, nor do changes of what is not walked
through. -/
theorem place_kept {snapshot : Snapshot} (place : Place tab start session snapshot)
    (sent : session.account.sent <+: next.account.sent)
    (roster : snapshot = .ready → session.caches.roster ≠ [] → next.caches.roster ≠ [])
    (contacts : (∃ cursor, snapshot = .presence cursor) →
      next.caches.presence.keys = session.caches.presence.keys ∧
        next.presenceChanges = session.presenceChanges)
    (rooms : (∃ cursor, (∃ room, snapshot = .room cursor room) ∨ snapshot = .occupants cursor) →
      next.caches.joinedRooms.keys = session.caches.joinedRooms.keys ∧
        next.roomChanges = session.roomChanges) :
    Place tab start next snapshot := by
  cases snapshot with
  | idle => trivial
  | ready => exact fun began => roster rfl (place began)
  | roster => exact fun began => (place began).mono sent
  | presence cursor =>
      obtain ⟨keys, changes⟩ := contacts ⟨cursor, rfl⟩
      refine ⟨fun began => (place.1 began).mono sent, ?_⟩
      rw [keys, changes]
      exact place.2.mono fun jid shown => shown.mono sent
  | room cursor room =>
      obtain ⟨keys, changes⟩ := rooms ⟨cursor, Or.inl ⟨room, rfl⟩⟩
      refine ⟨fun began => (place.1 began).mono sent,
        fun jid member => (place.2.1 jid member).mono sent, ?_⟩
      rw [keys, changes]
      exact place.2.2.mono fun name shown => shown.mono sent
  | occupants cursor =>
      obtain ⟨keys, changes⟩ := rooms ⟨cursor, Or.inr rfl⟩
      refine ⟨fun began => (place.1 began).mono sent,
        fun jid member => (place.2.1 jid member).mono sent, ?_⟩
      rw [keys, changes]
      exact place.2.2.mono fun name shown => shown.mono sent

def afterSend (session : Session) (tab : Tab) (frame : Frame) : Session :=
  { session with account := session.account.send tab frame }

/-- What may come of a step of the snapshot: it goes on from a place that is
right once its frame is sent, or it ends with everything shown. -/
def Sound (tab : Tab) (start : Caches) (session : Session) : Progress → Prop
  | .send frame place => place ≠ .idle ∧ Place tab start (afterSend session tab frame) place
  | .ends =>
      (start.roster ≠ [] → RosterShown tab session.account.sent) ∧
        (∀ jid ∈ start.presence.keys, ContactShown tab session.account.sent jid) ∧
        ∀ room ∈ session.caches.joinedRooms.keys, RoomShown tab session.account.sent room
  | .raises => False

theorem walk_next {Name Value : Type} {dict : Dict Name Value} {changes : Nat}
    {shown : Name → Prop} {cursor : Cursor} (walk : Walk dict.keys changes shown cursor)
    (choice : Option Nat) : cursor.next dict.size changes choice = some cursor.index := by
  have size : dict.size = cursor.size := by rw [walk.size, dict.size_eq_keys_length]
  rw [Cursor.next, if_neg (not_not_intro size), if_pos walk.changes.symm]

theorem walk_ends {Name Value : Type} {dict : Dict Name Value} {changes : Nat}
    {shown : Name → Prop} {cursor : Cursor} (walk : Walk dict.keys changes shown cursor)
    (passed : dict.entries[cursor.index]? = none) : ∀ name ∈ dict.keys, shown name := by
  have beyond : dict.keys.length ≤ cursor.index := by
    rw [← dict.size_eq_keys_length]
    exact List.getElem?_eq_none_iff.mp passed
  intro name member
  exact walk.passed name (by rwa [List.take_of_length_le beyond])

theorem walk_passes {Name Value : Type} {dict : Dict Name Value} {changes : Nat}
    {shown more : Name → Prop} {cursor : Cursor} (walk : Walk dict.keys changes shown cursor)
    (implies : ∀ name, shown name → more name) {name : Name} {value : Value}
    (entry : dict.entries[cursor.index]? = some (name, value)) (isShown : more name) :
    Walk dict.keys changes more { cursor with index := cursor.index + 1 } := by
  have key : dict.keys[cursor.index]? = some name := by
    simp [Dict.keys, entry]
  refine ⟨walk.size, walk.changes, ?_⟩
  intro other member
  rw [List.take_add_one, key] at member
  rcases List.mem_append.mp member with earlier | last
  · exact implies other (walk.passed other earlier)
  · have same : other = name := by simpa using last
    exact same ▸ isShown

theorem room_loop_sound (roster : start.roster ≠ [] → RosterShown tab session.account.sent)
    (contacts : ∀ jid ∈ start.presence.keys, ContactShown tab session.account.sent jid)
    {cursor : Cursor}
    (walk : Walk session.caches.joinedRooms.keys session.roomChanges
      (RoomShown tab session.account.sent) cursor) (choice : Option Nat) :
    Sound tab start session (roomLoop session cursor choice) := by
  simp only [roomLoop, walk_next walk choice]
  cases found : session.caches.joinedRooms.entries[cursor.index]? with
  | none => exact ⟨roster, contacts, walk_ends walk found⟩
  | some entry =>
      obtain ⟨room, nick⟩ := entry
      have grows : session.account.sent <+:
          (afterSend session tab (.mucJoined room.json nick none)).account.sent :=
        List.prefix_append _ _
      refine ⟨by simp, fun began => (roster began).mono grows,
        fun jid member => (contacts jid member).mono grows, ?_⟩
      apply walk_passes walk (fun name shown => shown.mono grows) found
      exact ⟨nick, none, List.mem_append_right _ (List.mem_singleton_self _)⟩

theorem walk_starts {Name Value : Type} (dict : Dict Name Value) (changes : Nat)
    (shown : Name → Prop) : Walk dict.keys changes shown ⟨dict.size, changes, 0⟩ :=
  ⟨dict.size_eq_keys_length, rfl, fun _ member => by cases member⟩

theorem presence_loop_sound (keyed : PresenceKeyed session.caches)
    (grown : ∀ jid ∈ start.presence.keys, jid ∈ session.caches.presence.keys)
    (roster : start.roster ≠ [] → RosterShown tab session.account.sent) {cursor : Cursor}
    (walk : Walk session.caches.presence.keys session.presenceChanges
      (ContactShown tab session.account.sent) cursor) (choice : Option Nat) :
    Sound tab start session (presenceLoop session cursor choice) := by
  simp only [presenceLoop, walk_next walk choice]
  cases found : session.caches.presence.entries[cursor.index]? with
  | none =>
      apply room_loop_sound roster
      · intro jid member
        exact walk_ends walk found jid (grown jid member)
      · exact walk_starts _ _ _
  | some entry =>
      obtain ⟨jid, frame⟩ := entry
      have member : (jid, frame) ∈ session.caches.presence.entries :=
        List.mem_of_getElem? found
      obtain ⟨shown, status, rfl⟩ :=
        keyed jid frame ((session.caches.presence.lookup_eq_some_iff jid frame).mpr member)
      have grows : session.account.sent <+:
          (afterSend session tab (.presence jid shown status)).account.sent :=
        List.prefix_append _ _
      refine ⟨by simp, fun began => (roster began).mono grows, ?_⟩
      apply walk_passes walk (fun name isShown => isShown.mono grows) found
      exact ⟨shown, status, List.mem_append_right _ (List.mem_singleton_self _)⟩

theorem after_room_sound (roster : start.roster ≠ [] → RosterShown tab session.account.sent)
    (contacts : ∀ jid ∈ start.presence.keys, ContactShown tab session.account.sent jid)
    {cursor : Cursor}
    (walk : Walk session.caches.joinedRooms.keys session.roomChanges
      (RoomShown tab session.account.sent) cursor) (room : Key) (choice : Option Nat) :
    Sound tab start session (afterRoom session cursor room choice) := by
  unfold afterRoom
  split
  · exact room_loop_sound roster contacts walk choice
  · have grows : ∀ frame, session.account.sent <+: (afterSend session tab frame).account.sent :=
        fun _ => List.prefix_append _ _
    exact ⟨by simp, fun began => (roster began).mono (grows _),
      fun jid member => (contacts jid member).mono (grows _),
      walk.mono fun name shown => shown.mono (grows _)⟩

theorem send_snapshot_sound (underway : Underway tab start session) {choice : Option Nat}
    {progress : Progress}
    (goesOn : sendSnapshot session choice (session.snapshots tab) = some progress) :
    Sound tab start session progress := by
  have place := underway.place
  cases snapshot : session.snapshots tab with
  | idle =>
      rw [snapshot] at goesOn
      cases goesOn
  | ready =>
      rw [snapshot] at place goesOn
      simp only [sendSnapshot] at goesOn
      split at goesOn
      · next bare =>
          cases goesOn
          apply presence_loop_sound underway.keyed underway.grown
          · intro began
            exact absurd bare (place began)
          · exact walk_starts _ _ _
      · cases goesOn
        refine ⟨by simp, fun _ => ?_⟩
        exact ⟨_, List.mem_append_right _ (List.mem_singleton_self _)⟩
  | roster =>
      rw [snapshot] at place goesOn
      cases goesOn
      exact presence_loop_sound underway.keyed underway.grown place (walk_starts _ _ _) choice
  | presence cursor =>
      rw [snapshot] at place goesOn
      cases goesOn
      exact presence_loop_sound underway.keyed underway.grown place.1 place.2 choice
  | room cursor room =>
      rw [snapshot] at place goesOn
      cases goesOn
      exact after_room_sound place.1 place.2.1 place.2.2 room choice
  | occupants cursor =>
      rw [snapshot] at place goesOn
      cases goesOn
      exact room_loop_sound place.1 place.2.1 place.2.2 choice

theorem handled_presence {commands : Commands.Env} {caches : Caches} {raw : Json}
    {outcome : Caches × Commands.Plan}
    (handled : Pump.parseAndHandle commands caches raw = .ok outcome) :
    outcome.1.presence = caches.presence := by
  obtain ⟨message, _, handles⟩ := Pump.handles_of_parse handled
  cases handles with
  | keeps => rfl
  | joins => rfl
  | leaves => rfl

theorem caches_after_keyed (keyed : PresenceKeyed session.caches) (action : Action) :
    PresenceKeyed (cachesAfter env session action) := by
  cases action with
  | event event order => exact on_event_presence_keyed keyed event
  | receive other raw order =>
      simp only [cachesAfter]
      split
      · next handled =>
          intro jid frame found
          rw [handled_presence handled] at found
          exact keyed jid frame found
      · exact keyed
  | _ => exact keyed

/-- No contact is ever dropped from the cache. -/
theorem caches_after_grown (action : Action) :
    ∀ jid ∈ session.caches.presence.keys, jid ∈ (cachesAfter env session action).presence.keys := by
  intro jid member
  cases action with
  | event event order =>
      cases event with
      | presenceUpdate other shown status =>
          exact (Dict.mem_keys_set_item _ _ _ _).mpr (Or.inl member)
      | _ => exact member
  | receive other raw order =>
      simp only [cachesAfter]
      split
      · next handled => rwa [handled_presence handled]
      · exact member
  | _ => exact member

/-- A calm action finds the snapshot where it was and changes nothing that is
being walked through. -/
theorem place_calm {action : Action} (calm : Calm env tab session action)
    (tables : Assigned session (cachesAfter env session action) next)
    (place : Place tab start session (session.snapshots tab))
    (sent : session.account.sent <+: next.account.sent) :
    Place tab start next (session.snapshots tab) := by
  apply place_kept place sent
  · intro ready began
    have kept := calm.2
    rw [ready] at kept
    rw [tables.caches]
    exact kept began
  · rintro ⟨cursor, walking⟩
    have kept := calm.2
    rw [walking] at kept
    rw [tables.caches, tables.presenceChanges]
    exact ⟨kept, if_pos kept⟩
  · rintro ⟨cursor, walking⟩
    have kept : (cachesAfter env session action).joinedRooms.keys =
        session.caches.joinedRooms.keys := by
      have calmNow := calm.2
      rcases walking with ⟨room, walking⟩ | walking
      all_goals
        rw [walking] at calmNow
        exact calmNow
    rw [tables.caches, tables.roomChanges]
    exact ⟨kept, if_pos kept⟩

theorem advance_other {other : Tab} (apart : other ≠ tab) {progress : Progress}
    (advanced : advance env session other progress = some next) :
    next.account.handlers tab = session.account.handlers tab ∧
      next.snapshots tab = session.snapshots tab ∧
      session.account.sent <+: next.account.sent := by
  have moves : ∀ {action : Lifecycle.Action Frame} {middle : Session} {place : Snapshot},
      lifecycle env session action = some middle → Footprint.mover action ≠ some tab →
      (setSnapshot middle other place).account.handlers tab = session.account.handlers tab ∧
        (setSnapshot middle other place).snapshots tab = session.snapshots tab ∧
        session.account.sent <+: (setSnapshot middle other place).account.sent := by
    intro action middle place fired unmoved
    have leaves := Footprint.footprint_of_step (lifecycle_view fired)
    have same := leaves.handlers tab unmoved
    obtain ⟨after, stepped, rfl⟩ := Option.map_eq_some_iff.mp fired
    refine ⟨same, ?_, leaves.sent⟩
    simp only [setSnapshot, Function.update_of_ne (Ne.symm apart)]
    dsimp only at same
    simp [same]
  cases progress with
  | send frame place =>
      obtain ⟨middle, fired, rfl⟩ := Option.map_eq_some_iff.mp advanced
      exact moves fired (by simp [Footprint.mover])
  | ends =>
      obtain ⟨middle, fired, rfl⟩ := Option.map_eq_some_iff.mp advanced
      exact moves fired (fun same => apart (Option.some.inj same))
  | raises =>
      obtain ⟨middle, fired, rfl⟩ := Option.map_eq_some_iff.mp advanced
      exact moves fired (fun same => apart (Option.some.inj same))

theorem advance_send {frame : Frame} {place : Snapshot}
    (inside : session.account.handlers tab = .snapshot)
    (advanced : advance env session tab (.send frame place) = some next) :
    next.account = session.account.send tab frame ∧ next.snapshots tab = place := by
  obtain ⟨middle, fired, rfl⟩ := Option.map_eq_some_iff.mp advanced
  obtain ⟨after, stepped, rfl⟩ := Option.map_eq_some_iff.mp fired
  simp only [Lifecycle.step, inside, Option.some.injEq] at stepped
  exact ⟨stepped.symm, Function.update_self ..⟩

theorem advance_ends (inside : session.account.handlers tab = .snapshot)
    (advanced : advance env session tab .ends = some next) :
    next.account.handlers tab = .pumping ∧ next.snapshots tab = .idle := by
  obtain ⟨middle, fired, rfl⟩ := Option.map_eq_some_iff.mp advanced
  obtain ⟨after, stepped, rfl⟩ := Option.map_eq_some_iff.mp fired
  simp only [Lifecycle.step, inside, Option.some.injEq] at stepped
  subst stepped
  exact ⟨Function.update_self .., Function.update_self ..⟩

theorem underway_sent {choice : Option Nat} {progress : Progress}
    (underway : Underway tab start session) (keyed : PresenceKeyed next.caches)
    (grown : ∀ jid ∈ start.presence.keys, jid ∈ next.caches.presence.keys)
    (goesOn : sendSnapshot session choice (session.snapshots tab) = some progress)
    (advanced : advance env session tab progress = some next) :
    Underway tab start next := by
  have busy : session.snapshots tab ≠ .idle := by
    intro idle
    rw [idle] at goesOn
    cases goesOn
  have inside : session.account.handlers tab = .snapshot := by
    simpa only [Matches, if_neg busy] using underway.matching
  have sound := send_snapshot_sound underway goesOn
  cases progress with
  | raises => exact sound.elim
  | ends =>
      obtain ⟨handler, idle⟩ := advance_ends inside advanced
      refine ⟨?_, keyed, grown, ?_⟩
      · rw [Matches, if_pos idle, handler]
        trivial
      · rw [idle]
        trivial
  | send frame place =>
      obtain ⟨account, arrived⟩ := advance_send inside advanced
      have tables := untouched_advance advanced
      refine ⟨?_, keyed, grown, ?_⟩
      · rw [Matches, arrived, if_neg sound.1, account]
        exact inside
      · rw [arrived]
        apply place_kept sound.2
        · rw [account]
          exact List.prefix_rfl
        · intro _
          rw [tables.caches]
          exact id
        · intro _
          rw [tables.caches]
          exact ⟨rfl, tables.presenceChanges⟩
        · intro _
          rw [tables.caches]
          exact ⟨rfl, tables.roomChanges⟩

theorem underway_step {action : Action} (calm : Calm env tab session action)
    (underway : Underway tab start session) (fired : step env session action = some next) :
    Underway tab start next := by
  have tables := assigned_step fired
  have keyed : PresenceKeyed next.caches := by
    rw [tables.caches]
    exact caches_after_keyed underway.keyed action
  have grown : ∀ jid ∈ start.presence.keys, jid ∈ next.caches.presence.keys := by
    intro jid member
    rw [tables.caches]
    exact caches_after_grown action jid (underway.grown jid member)
  have place := place_calm calm tables underway.place
  -- what does not go on with this snapshot leaves it where it is
  have elsewhere : Matches tab next → next.snapshots tab = session.snapshots tab →
      session.account.sent <+: next.account.sent → Underway tab start next :=
    fun matching same sent => ⟨matching, keyed, grown, same ▸ place sent⟩
  have besides : ∀ {other : Tab} {progress : Progress}, other ≠ tab →
      advance env session other progress = some next → Underway tab start next := by
    intro other progress apart advanced
    obtain ⟨handler, same, sent⟩ := advance_other apart advanced
    exact elsewhere (underway.matching.of_same handler same) same sent
  cases action with
  | sent other choice =>
      obtain ⟨progress, goesOn, advanced⟩ := Option.bind_eq_some_iff.mp fired
      by_cases own : other = tab
      · subst own
        exact underway_sent underway keyed grown goesOn advanced
      · exact besides own advanced
  | sendRaises other =>
      simp only [step, Option.ite_none_left_eq_some] at fired
      by_cases own : other = tab
      · exact absurd (congrArg some own) calm.1
      · exact besides own fired.2
  | _ =>
      have carried := carried_step fired rfl
      obtain ⟨matching, same⟩ := carried_matches carried underway.matching
      exact elsewhere matching same (carried_sent carried)

def remaining (caches : Caches) : Snapshot → Nat
  | .idle => 0
  | .ready => caches.presence.size + 2 * caches.joinedRooms.size + 3
  | .roster => caches.presence.size + 2 * caches.joinedRooms.size + 2
  | .presence cursor =>
      (caches.presence.size - cursor.index) + 2 * caches.joinedRooms.size + 1
  | .room cursor _ => 2 * (caches.joinedRooms.size - cursor.index) + 1
  | .occupants cursor => 2 * (caches.joinedRooms.size - cursor.index)

theorem room_loop_remaining {shown : Key → Prop} {cursor : Cursor}
    (walk : Walk session.caches.joinedRooms.keys session.roomChanges shown cursor)
    {choice : Option Nat} {frame : Frame} {place : Snapshot}
    (goesOn : roomLoop session cursor choice = .send frame place) :
    remaining session.caches place < 2 * (session.caches.joinedRooms.size - cursor.index) := by
  simp only [roomLoop, walk_next walk choice] at goesOn
  split at goesOn
  · cases goesOn
  · next room nick found =>
      cases goesOn
      have inside : cursor.index < session.caches.joinedRooms.size :=
        (List.getElem?_eq_some_iff.mp found).1
      simp only [remaining]
      omega

theorem presence_loop_remaining {shown : String → Prop} {cursor : Cursor}
    (walk : Walk session.caches.presence.keys session.presenceChanges shown cursor)
    {choice : Option Nat} {frame : Frame} {place : Snapshot}
    (goesOn : presenceLoop session cursor choice = .send frame place) :
    remaining session.caches place <
      (session.caches.presence.size - cursor.index) + 2 * session.caches.joinedRooms.size + 1 := by
  simp only [presenceLoop, walk_next walk choice] at goesOn
  split at goesOn
  · have fewer := room_loop_remaining (walk_starts _ _ (fun _ => True)) goesOn
    simp only [Nat.sub_zero] at fewer
    omega
  · next jid cached found =>
      cases goesOn
      have inside : cursor.index < session.caches.presence.size :=
        (List.getElem?_eq_some_iff.mp found).1
      simp only [remaining]
      omega

theorem start_presence_remaining {choice : Option Nat} {frame : Frame} {place : Snapshot}
    (goesOn : startPresence session choice = .send frame place) :
    remaining session.caches place <
      session.caches.presence.size + 2 * session.caches.joinedRooms.size + 1 :=
  presence_loop_remaining (walk_starts _ _ (fun _ => True)) goesOn

/-- Each send brings the end of the snapshot nearer. -/
theorem send_snapshot_remaining (underway : Underway tab start session) {choice : Option Nat}
    {frame : Frame} {place : Snapshot}
    (goesOn : sendSnapshot session choice (session.snapshots tab) = some (.send frame place)) :
    remaining session.caches place < remaining session.caches (session.snapshots tab) := by
  have held := underway.place
  cases snapshot : session.snapshots tab with
  | idle =>
      rw [snapshot] at goesOn
      cases goesOn
  | ready =>
      rw [snapshot] at goesOn
      simp only [sendSnapshot] at goesOn
      split at goesOn
      · have fewer := start_presence_remaining (Option.some.inj goesOn)
        apply fewer.trans
        simp only [remaining]
        omega
      · cases goesOn
        simp only [remaining]
        omega
  | roster =>
      rw [snapshot] at goesOn
      have fewer := start_presence_remaining (Option.some.inj goesOn)
      apply fewer.trans
      simp only [remaining]
      omega
  | presence cursor =>
      rw [snapshot] at held goesOn
      exact presence_loop_remaining held.2 (Option.some.inj goesOn)
  | room cursor room =>
      rw [snapshot] at held goesOn
      simp only [sendSnapshot, Option.some.injEq, afterRoom] at goesOn
      split at goesOn
      · apply (room_loop_remaining held.2.2 goesOn).trans
        simp only [remaining]
        omega
      · cases goesOn
        simp only [remaining]
        omega
  | occupants cursor =>
      rw [snapshot] at held goesOn
      exact room_loop_remaining held.2.2 (Option.some.inj goesOn)

/-- When the tab's sends return, the snapshot comes to its end and the pump
begins. Induction on the sends that are left. -/
theorem snapshot_finishes (env : Env) (left : Nat) (session : Session)
    (underway : Underway tab start session) (busy : session.snapshots tab ≠ .idle)
    (bound : remaining session.caches (session.snapshots tab) ≤ left) :
    ∃ sends final,
      replay (step env) session (List.replicate sends (.sent tab none)) = some final ∧
        final.snapshots tab = .idle ∧ final.account.handlers tab = .pumping := by
  induction left using Nat.strong_induction_on generalizing session with
  | _ left induction =>
      have inside : session.account.handlers tab = .snapshot := by
        simpa only [Matches, if_neg busy] using underway.matching
      obtain ⟨progress, goesOn⟩ :
          ∃ progress, sendSnapshot session none (session.snapshots tab) = some progress := by
        cases snapshot : session.snapshots tab with
        | idle => exact absurd snapshot busy
        | ready =>
            simp only [sendSnapshot]
            split
            all_goals exact ⟨_, rfl⟩
        | _ => exact ⟨_, rfl⟩
      have sound := send_snapshot_sound underway goesOn
      cases progress with
      | raises => exact sound.elim
      | ends =>
          obtain ⟨next, advanced⟩ : ∃ next, advance env session tab .ends = some next := by
            simp only [advance, lifecycle, Lifecycle.step, inside, Option.map_some]
            exact ⟨_, rfl⟩
          have fired : step env session (.sent tab none) = some next :=
            Option.bind_eq_some_iff.mpr ⟨_, goesOn, advanced⟩
          obtain ⟨handler, idle⟩ := advance_ends inside advanced
          exact ⟨1, next, by simp only [List.replicate, replay, fired], idle, handler⟩
      | send frame place =>
          obtain ⟨next, advanced⟩ :
              ∃ next, advance env session tab (.send frame place) = some next := by
            simp only [advance, lifecycle, Lifecycle.step, inside, Option.map_some]
            exact ⟨_, rfl⟩
          have fired : step env session (.sent tab none) = some next :=
            Option.bind_eq_some_iff.mpr ⟨_, goesOn, advanced⟩
          have caches := (untouched_advance advanced).caches
          have arrived := (advance_send inside advanced).2
          have underwayNext : Underway tab start next :=
            underway_sent underway (caches ▸ underway.keyed) (caches ▸ underway.grown) goesOn
              advanced
          have fewer := send_snapshot_remaining underway goesOn
          obtain ⟨sends, final, run, ended⟩ :=
            induction (remaining next.caches (next.snapshots tab))
              (by rw [caches, arrived]; omega) next underwayNext
              (by rw [arrived]; exact sound.1) le_rfl
          exact ⟨sends + 1, final, by simp only [List.replicate, replay, fired, run], ended⟩

def Placed (session : Session) : Prop :=
  ∀ tab, session.snapshots tab ≠ .idle → session.account.handlers tab = .snapshot

theorem placed_carried (carried : Carried env session next) (placed : Placed session) :
    Placed next := by
  cases carried with
  | still account snapshots =>
      unfold Placed at placed ⊢
      rw [account, snapshots]
      exact placed
  | moved continues fired account snapshots =>
      obtain ⟨after, stepped, rfl⟩ := Option.map_eq_some_iff.mp fired
      intro tab busy
      rw [account]
      rw [snapshots] at busy
      by_cases arrived : isSnapshot (after.handlers tab) = true
      · cases handler : after.handlers tab
        all_goals first | rfl | (rw [handler] at arrived; cases arrived)
      · simp only [arrived, Bool.false_and, Bool.false_eq_true, if_false] at busy
        apply Footprint.snapshot_kept stepped (placed tab busy)
        · rintro rfl
          cases continues
        · rintro rfl
          cases continues

theorem placed_advance {progress : Progress} (busy : session.snapshots tab ≠ .idle)
    (advanced : advance env session tab progress = some next) (placed : Placed session) :
    Placed next := by
  have inside := placed tab busy
  intro other busyThen
  by_cases own : tab = other
  · subst own
    cases progress with
    | send frame place =>
        rw [(advance_send inside advanced).1]
        exact inside
    | ends => exact absurd (advance_ends inside advanced).2 busyThen
    | raises =>
        obtain ⟨middle, _, rfl⟩ := Option.map_eq_some_iff.mp advanced
        exact absurd (Function.update_self ..) busyThen
  · obtain ⟨handler, same, _⟩ := advance_other own advanced
    rw [same] at busyThen
    rw [handler]
    exact placed other busyThen

theorem placed_step {action : Action} (placed : Placed session)
    (fired : step env session action = some next) : Placed next := by
  cases action with
  | sent other choice =>
      obtain ⟨progress, goesOn, advanced⟩ := Option.bind_eq_some_iff.mp fired
      refine placed_advance (fun idle => ?_) advanced placed
      rw [idle] at goesOn
      cases goesOn
  | sendRaises other =>
      simp only [step, Option.ite_none_left_eq_some] at fired
      exact placed_advance fired.1 fired.2 placed
  | _ => exact placed_carried (carried_step fired rfl) placed

theorem fresh_placed : Placed fresh := fun _ busy => absurd rfl busy

theorem underway_begins {before : List Action}
    (reached : replay (step env) fresh before = some session)
    (begins : session.snapshots tab = .ready) : Underway tab session.caches session := by
  have placed : Placed session := run_invariant_unconditional Placed
    (fun _ _ _ holds fired => placed_step holds fired) fresh_placed reached
  have keyed : PresenceKeyed session.caches :=
    run_invariant_unconditional (fun current : Session => PresenceKeyed current.caches)
      (fun _ action _ holds fired => (assigned_step fired).caches ▸ caches_after_keyed holds action)
      empty_presence_keyed reached
  refine ⟨?_, keyed, fun _ member => member, ?_⟩
  · have busy : session.snapshots tab ≠ .idle := by
      rw [begins]
      decide
    rw [Matches, if_neg busy]
    exact placed tab busy
  · rw [begins]
    exact id

end Steps

/-- From the first frame of a tab's snapshot on, whatever calm actions happen
meanwhile: the next step of the snapshot does not raise, it ends only with
everything shown, and it ends once the sends under way return. -/
theorem late_tab_snapshot_survives (env : Env) (tab : Tab) (before during : List Action)
    (start state : Session) (reached : replay (step env) fresh before = some start)
    (begins : start.snapshots tab = .ready)
    (calm : Conforms (step env) (Calm env tab) start during)
    (run : replay (step env) start during = some state) :
    (∀ choice, sendSnapshot state choice (state.snapshots tab) ≠ some .raises) ∧
      (∀ choice, sendSnapshot state choice (state.snapshots tab) = some .ends →
        SnapshotComplete tab start.caches state) ∧
      (state.snapshots tab ≠ .idle →
        ∃ sends final,
          replay (step env) state (List.replicate sends (.sent tab none)) = some final ∧
            final.snapshots tab = .idle ∧ final.account.handlers tab = .pumping) := by
  have underway : Underway tab start.caches state := run_invariant
    (fun _ _ _ allowed holds fired => underway_step allowed holds fired)
    (underway_begins reached begins) calm run
  refine ⟨?_, ?_, ?_⟩
  · intro choice raises
    exact send_snapshot_sound underway raises
  · intro choice ends
    obtain ⟨roster, contacts, rooms⟩ := send_snapshot_sound underway ends
    exact ⟨fun began _ => roster began, fun jid began _ => contacts jid began,
      fun room _ now => rooms room now⟩
  · intro busy
    exact snapshot_finishes env _ state underway busy le_rfl

def online (jid : String) : Event := .presenceUpdate jid .online none

def joinTeam : Json :=
  .obj [("type", .str "join_room"), ("room", .str "team@conference.example.com")]

/-- Tab 0 is in a room and knows one contact, and tab 1 attaches. -/
def secondTab : List Action :=
  [.lifecycle (.attach 0), .lifecycle .clientUp, .lifecycle (.connectReturns 0), .sent 0 none,
    .event (.rosterSnapshot [⟨"bob@example.com", "Bob", "both"⟩]) [0],
    .lifecycle (.eventSent 0 true), .event (online "bob@example.com") [0],
    .lifecycle (.eventSent 0 true), .receive 0 joinTeam [],
    .operationEnds 0 Pump.obliging.perform "" [], .lifecycle (.attach 1)]

def atSecondTab : Session := (replay (step alice) fresh secondTab).getD fresh

/-- The contact changes its show during the walk through the contacts. -/
def quietSnapshot : List Action :=
  [.sent 1 none, .sent 1 none, .event (.presenceUpdate "bob@example.com" .away none) [0, 1],
    .sent 1 none]

def afterQuiet : Session := (replay (step alice) atSecondTab quietSnapshot).getD fresh

theorem quiet_snapshot_completes :
    sendSnapshot afterQuiet none (afterQuiet.snapshots 1) = some .ends ∧
      SnapshotComplete 1 atSecondTab.caches afterQuiet := by
  have survives := late_tab_snapshot_survives alice 1 secondTab quietSnapshot atSecondTab
    afterQuiet rfl rfl (by decide) rfl
  exact ⟨rfl, survives.2.1 none rfl⟩

theorem new_contact_breaks_the_snapshot :
    replay (step alice) fresh secondTab = some atSecondTab ∧ atSecondTab.snapshots 1 = .ready ∧
      ∃ state,
        replay (step alice) atSecondTab
          [.sent 1 none, .sent 1 none, .event (online "carol@example.com") [0, 1]] =
            some state ∧
          sendSnapshot state none (state.snapshots 1) = some .raises := by
  refine ⟨rfl, rfl, ?_⟩
  refine ⟨_, rfl, ?_⟩
  rfl

end PyConduit.LateTab
