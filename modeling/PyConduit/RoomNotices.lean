import PyConduit.RoomMembership

/-!
# Joined and left notices

`_on_groupchat_presence` turns every stanza of another occupant into a notice, by its
type alone. So the notices of an occupant alternate exactly when its stanzas do: an
occupant who only changes show or status is announced again.
-/

namespace PyConduit.RoomNotices

open Protocol Replay Commands Rooms RoomMembership GuardedRun

set_option autoImplicit false

def notice (room nick : String) : Frame → Option Bool
  | .mucPresence other occupant joined =>
      if other = room ∧ occupant = nick then some joined else none
  | _ => none

def noticesOf (room nick : String) (frames : List Frame) : List Bool :=
  frames.filterMap (notice room nick)

def stanzaOf (room nick : String) : Action → Option Bool
  | .presence other occupant available _ =>
      if other = room ∧ occupant = nick then some available else none
  | _ => none

def InRoom (room nick : String) (actions : List Action) : Prop :=
  (actions.filterMap (stanzaOf room nick)).getLast? = some true

/-- The flags change from each to the next, and the first is `expected`. -/
def Alternates : Bool → List Bool → Prop
  | _, [] => True
  | expected, flag :: rest => flag = expected ∧ Alternates (!expected) rest

def Inside (room : String) (own : Json) (system : System) (_ : Action) : Prop :=
  system.rooms.joined.lookup room = some own

section Machine

variable (bare : Json → Except String String) (env : Env) (room : String) (own : Json)

/-- The notices about every other nick alternate, and each says what its occupant did:
come in from outside, or leave from inside. -/
structure NoticesAlternate (start : System) (actions : List Action) : Prop where
  alternate : ∀ final nick, isOwnNick nick (some own) = false →
    replay (step bare env) start actions = some final →
    Alternates true (noticesOf room nick (final.rooms.frames.drop start.rooms.frames.length))
  just : ∀ earlier action later before after nick joined, actions = earlier ++ action :: later →
    replay (step bare env) start earlier = some before →
    step bare env before action = some after → isOwnNick nick (some own) = false →
    .mucPresence room nick joined ∈ after.rooms.frames.drop before.rooms.frames.length →
    (joined = true ↔ ¬InRoom room nick earlier)

/-- Another occupant sends an available stanza only from outside of the room and an
unavailable one only from inside. -/
def OnlyComeAndGo (actions : List Action) : Prop :=
  ∀ earlier nick available occupants later,
    actions = earlier ++ .presence room nick available occupants :: later →
    isOwnNick nick (some own) = false → (available = true ↔ ¬InRoom room nick earlier)

end Machine

theorem alternates_iff (expected : Bool) (flags : List Bool) :
    Alternates expected flags ↔
      ∀ earlier flag later, flags = earlier ++ flag :: later →
        flag = (earlier.getLast?.map not).getD expected := by
  induction flags generalizing expected with
  | nil => simp [Alternates]
  | cons first rest induction =>
      rw [Alternates, induction]
      constructor
      · rintro ⟨rfl, alternates⟩ earlier flag later split
        cases earlier with
        | nil =>
            cases split
            rfl
        | cons other earlier =>
            cases split
            rw [alternates earlier flag later rfl, List.getLast?_cons]
            cases earlier.getLast? with
            | none => rfl
            | some last => rfl
      · intro alternates
        constructor
        · exact alternates [] first rest rfl
        · intro earlier flag later split
          subst split
          have same := alternates (first :: earlier) flag later rfl
          have head := alternates [] first _ rfl
          change first = expected at head
          rw [same, List.getLast?_cons, head]
          cases earlier.getLast? with
          | none => rfl
          | some last => rfl

section Steps

variable {bare : Json → Except String String} {env : Env} {room nick : String} {own : Json}

/-- The frames of a room itself: that we joined or left it, or who is in it. -/
def isNews : Frame → Bool
  | .mucJoined _ _ _ => true
  | .mucLeft _ => true
  | .mucOccupants _ _ => true
  | _ => false

inductive News (system : System) : Action → List Frame → Prop
  | room {action : Action} {frames : List Frame}
      (silent : ∀ room nick available occupants, action ≠ .presence room nick available occupants)
      (news : ∀ frame ∈ frames, isNews frame = true) : News system action frames
  | outside {room nick : String} {available : Bool} {occupants : List Occupant}
      (outside : system.rooms.joined.lookup room = none) :
      News system (.presence room nick available occupants) []
  | ours {room nick : String} {available : Bool} {occupants : List Occupant} {own : Json}
      (inside : system.rooms.joined.lookup room = some own)
      (same : isOwnNick nick (some own) = true) :
      News system (.presence room nick available occupants) [.mucOccupants (.str room) occupants]
  | another {room nick : String} {available : Bool} {occupants : List Occupant} {own : Json}
      (inside : system.rooms.joined.lookup room = some own)
      (other : isOwnNick nick (some own) = false) :
      News system (.presence room nick available occupants) [.mucPresence room nick available]

theorem rejoin_frames (state : State) (rooms : List (Key × Json)) :
    (rejoin bare state rooms).1.frames = state.frames := by
  induction rooms with
  | nil => rfl
  | cons entry rest induction =>
      obtain ⟨key, nick⟩ := entry
      unfold rejoin
      split
      · exact induction
      · rfl

theorem begin_frames {state : State} {message : ClientMessage} {begun : State × List Task}
    (begins : begin bare env state message = some begun) : begun.1.frames = state.frames := by
  unfold begin at begins
  split at begins
  · split at begins
    all_goals
      cases begins
      rfl
  · split at begins
    all_goals
      cases begins
      rfl
  · cases begins

theorem resume_news (state : State) (returned : Bool) (occupants : List Occupant) (task : Task) :
    ∃ frames, (resume bare state returned occupants task).1.frames = state.frames ++ frames ∧
      ∀ frame ∈ frames, isNews frame = true := by
  have nothing : ∀ {after : State}, after.frames = state.frames →
      ∃ frames, after.frames = state.frames ++ frames ∧
        ∀ frame ∈ frames, isNews frame = true :=
    fun same => ⟨[], by rw [same, List.append_nil], fun frame member => by cases member⟩
  have one : ∀ {after : State} (frame : Frame), isNews frame = true →
      after.frames = state.frames ++ [frame] →
      ∃ frames, after.frames = state.frames ++ frames ∧
        ∀ frame ∈ frames, isNews frame = true :=
    fun frame news same => ⟨[frame], same, fun other member => by
      rw [List.mem_singleton.mp member]
      exact news⟩
  cases task with
  | connected =>
      cases returned
      · exact nothing rfl
      · exact nothing (rejoin_frames state _)
  | joining other nick rest =>
      cases returned
      · exact nothing (rejoin_frames state rest)
      · exact one (.mucJoined (.str other) nick none) rfl rfl
  | announcing other rest => exact one (.mucOccupants (.str other) occupants) rfl rfl
  | emitting rest => exact nothing (rejoin_frames state rest)
  | presence other => exact one (.mucOccupants (.str other) occupants) rfl rfl
  | leaving other =>
      cases returned
      · exact nothing rfl
      · exact one (.mucLeft other) rfl rfl
  | closing => exact nothing rfl

theorem step_news {system next : System} {action : Action}
    (fired : step bare env system action = some next) :
    ∃ frames, next.rooms.frames = system.rooms.frames ++ frames ∧ News system action frames := by
  cases action with
  | command message =>
      obtain ⟨begun, begins, rfl⟩ := Option.map_eq_some_iff.mp fired
      refine ⟨[], ?_, .room (fun _ _ _ _ same => by cases same) fun frame member => by cases member⟩
      rw [List.append_nil]
      exact begin_frames begins
  | connected =>
      cases fired
      exact ⟨[], (List.append_nil _).symm, .room (fun _ _ _ _ same => by cases same)
        fun frame member => by cases member⟩
  | presence other occupant available occupants =>
      cases fired
      dsimp only
      unfold onGroupchatPresence
      split
      · next outside => exact ⟨[], (List.append_nil _).symm, .outside outside⟩
      · next own inside =>
          cases same : isOwnNick occupant (some own) with
          | true => exact ⟨_, rfl, .ours inside same⟩
          | false => exact ⟨_, rfl, .another inside same⟩
  | resumes index returned occupants =>
      simp only [step] at fired
      split at fired
      · cases fired
        obtain ⟨frames, appended, news⟩ := resume_news system.rooms returned occupants _
        exact ⟨frames, appended, .room (fun _ _ _ _ same => by cases same) news⟩
      · cases fired

/-- What a step sends to the tabs, as far as it concerns one occupant. -/
def Adds (room nick : String) (before after : State) (notices : List Bool) : Prop :=
  ∃ frames, after.frames = before.frames ++ frames ∧ noticesOf room nick frames = notices

theorem news_notices {system : System} {action : Action} {frames : List Frame}
    (inside : Inside room own system action) (another : isOwnNick nick (some own) = false)
    (news : News system action frames) :
    noticesOf room nick frames = (stanzaOf room nick action).toList := by
  cases news with
  | room silent news =>
      have noNotice : noticesOf room nick frames = [] := by
        apply List.filterMap_eq_nil_iff.mpr
        intro frame member
        have about := news frame member
        cases frame with
        | mucJoined | mucLeft | mucOccupants => rfl
        | _ => cases about
      cases action with
      | presence other occupant available occupants => exact absurd rfl (silent _ _ _ _)
      | _ => exact noNotice
  | @outside other occupant available occupants outside =>
      have elsewhere : ¬(other = room ∧ occupant = nick) := by
        rintro ⟨rfl, rfl⟩
        rw [Inside, outside] at inside
        cases inside
      rw [stanzaOf, if_neg elsewhere]
      rfl
  | @ours other occupant available occupants ours entered same =>
      have elsewhere : ¬(other = room ∧ occupant = nick) := by
        rintro ⟨rfl, rfl⟩
        rw [Inside, entered] at inside
        cases inside
        rw [another] at same
        cases same
      rw [stanzaOf, if_neg elsewhere]
      rfl
  | @another other occupant available occupants ours entered differs =>
      by_cases same : other = room ∧ occupant = nick
      · simp [noticesOf, notice, stanzaOf, same]
      · simp [noticesOf, notice, stanzaOf, same]

theorem step_adds {system next : System} {action : Action}
    (inside : Inside room own system action) (another : isOwnNick nick (some own) = false)
    (fired : step bare env system action = some next) :
    Adds room nick system.rooms next.rooms (stanzaOf room nick action).toList := by
  obtain ⟨frames, appended, news⟩ := step_news fired
  exact ⟨frames, appended, news_notices inside another news⟩

/-- While we are in the room, the notices are the stanzas. -/
theorem run_adds {start final : System} {actions : List Action}
    (another : isOwnNick nick (some own) = false)
    (inside : Conforms (step bare env) (Inside room own) start actions)
    (run : replay (step bare env) start actions = some final) :
    Adds room nick start.rooms final.rooms (actions.filterMap (stanzaOf room nick)) := by
  induction actions generalizing start with
  | nil =>
      cases run
      exact ⟨[], (List.append_nil _).symm, rfl⟩
  | cons action rest induction =>
      obtain ⟨next, fired, later⟩ := replay_cons run
      obtain ⟨here, insideLater⟩ := conforms_cons fired inside
      obtain ⟨first, firstFrames, firstNotices⟩ := step_adds here another fired
      obtain ⟨second, secondFrames, secondNotices⟩ := induction insideLater later
      refine ⟨first ++ second, ?_, ?_⟩
      · rw [secondFrames, firstFrames, List.append_assoc]
      · rw [noticesOf, List.filterMap_append]
        unfold noticesOf at firstNotices secondNotices
        rw [firstNotices, secondNotices, List.filterMap_cons]
        cases stanzaOf room nick action with
        | none => rfl
        | some available => rfl

end Steps

theorem stanza_of_eq_some {room nick : String} {action : Action} {available : Bool}
    (said : stanzaOf room nick action = some available) :
    ∃ occupants, action = .presence room nick available occupants := by
  unfold stanzaOf at said
  split at said
  · split at said
    · next same =>
        obtain ⟨rfl, rfl⟩ := same
        cases said
        exact ⟨_, rfl⟩
    · cases said
  · cases said

theorem only_come_and_go_iff (room : String) (own : Json) (actions : List Action) :
    OnlyComeAndGo room own actions ↔
      ∀ nick, isOwnNick nick (some own) = false →
        Alternates true (actions.filterMap (stanzaOf room nick)) := by
  simp only [alternates_iff]
  constructor
  · intro comeAndGo nick another before flag after split
    obtain ⟨earlier, rest, rfl, rfl, tail⟩ := List.filterMap_eq_append_iff.mp split
    obtain ⟨silent, action, later, rfl, quiet, said, _⟩ := List.filterMap_eq_cons_iff.mp tail
    obtain ⟨occupants, rfl⟩ := stanza_of_eq_some said
    have changes := comeAndGo (earlier ++ silent) nick flag occupants later (by simp) another
    rw [InRoom, List.filterMap_append, List.filterMap_eq_nil_iff.mpr quiet,
      List.append_nil] at changes
    cases last : (earlier.filterMap (stanzaOf room nick)).getLast? with
    | none => simpa [last] using changes
    | some available => cases available <;> simpa [last] using changes
  · intro alternates earlier nick available occupants later split another
    have flag := alternates nick another (earlier.filterMap (stanzaOf room nick)) available
      (later.filterMap (stanzaOf room nick)) (by simp [split, stanzaOf])
    rw [flag, InRoom]
    cases (earlier.filterMap (stanzaOf room nick)).getLast? with
    | none => simp
    | some last => cases last <;> simp

/-- The notices of a stay in a room alternate exactly when everybody else only comes and
goes. -/
theorem notices_alternate_iff (bare : Json → Except String String) (env : Env) (room : String)
    (own : Json) (start final : System) (actions : List Action)
    (run : replay (step bare env) start actions = some final)
    (inside : Conforms (step bare env) (Inside room own) start actions) :
    NoticesAlternate bare env room own start actions ↔ OnlyComeAndGo room own actions := by
  have told : ∀ nick, isOwnNick nick (some own) = false →
      noticesOf room nick (final.rooms.frames.drop start.rooms.frames.length) =
        actions.filterMap (stanzaOf room nick) := by
    intro nick another
    obtain ⟨frames, appended, notices⟩ := run_adds another inside run
    rw [appended, List.drop_left, notices]
  constructor
  · intro holds
    rw [only_come_and_go_iff]
    intro nick another
    rw [← told nick another]
    exact holds.alternate final nick another run
  · intro comeAndGo
    constructor
    · intro other nick another ran
      rw [run] at ran
      cases ran
      rw [told nick another]
      exact (only_come_and_go_iff room own actions).mp comeAndGo nick another
    · intro earlier action later before after nick joined split ran fired another member
      subst split
      have here := (conforms_of_append inside ran).1
      obtain ⟨frames, appended, notices⟩ := step_adds here another fired
      rw [appended, List.drop_left] at member
      have said : joined ∈ noticesOf room nick frames :=
        List.mem_filterMap.mpr ⟨_, member, by simp [notice]⟩
      rw [notices, Option.mem_toList] at said
      obtain ⟨occupants, rfl⟩ := stanza_of_eq_some said
      exact comeAndGo earlier nick joined occupants later rfl another

def inTeam (nick : String) (available : Bool) : Action :=
  .presence "team@conference.example.com" nick available []

theorem bob_comes_and_goes :
    ∃ joined final,
      replay (step bareOf Pump.alice) RoomMembership.start [.command joinTeam] = some joined ∧
      replay (step bareOf Pump.alice) joined
          [inTeam "bob" true, inTeam "bob" false, inTeam "bob" true] = some final ∧
        NoticesAlternate bareOf Pump.alice "team@conference.example.com" (.str "alice") joined
          [inTeam "bob" true, inTeam "bob" false, inTeam "bob" true] := by
  refine ⟨_, _, rfl, rfl, ?_⟩
  refine (notices_alternate_iff bareOf Pump.alice "team@conference.example.com" (.str "alice") _ _
    [inTeam "bob" true, inTeam "bob" false, inTeam "bob" true] rfl ?inside).mpr ?changes
  case inside => exact ⟨rfl, rfl, rfl, trivial⟩
  case changes =>
    rw [only_come_and_go_iff]
    intro nick _
    by_cases bob : nick = "bob"
    · subst bob
      exact ⟨rfl, rfl, rfl, trivial⟩
    · simp [inTeam, stanzaOf, Ne.symm bob, Alternates]

theorem away_is_announced_as_joining :
    ∃ joined final,
      replay (step bareOf Pump.alice) RoomMembership.start [.command joinTeam] = some joined ∧
      replay (step bareOf Pump.alice) joined [inTeam "bob" true, inTeam "bob" true] = some final ∧
        noticesOf "team@conference.example.com" "bob" final.rooms.frames = [true, true] ∧
        ¬NoticesAlternate bareOf Pump.alice "team@conference.example.com" (.str "alice") joined
          [inTeam "bob" true, inTeam "bob" true] := by
  refine ⟨_, _, rfl, rfl, rfl, ?_⟩
  intro holds
  have alternate := holds.alternate _ "bob" rfl rfl
  exact Bool.noConfusion alternate.2.1

end PyConduit.RoomNotices
