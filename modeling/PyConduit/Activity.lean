import PyConduit.Footprint
import PyConduit.Pump

/-!
# One account with its tabs, its caches and its client

The lifecycle of an account together with what its handlers do beside it: the
events and commands change the caches, a command awaits an operation of the
client, the handler of Connected rejoins the rooms, and `_send_snapshot` walks
through the caches with a send in each round. An action is again what one task
does between two suspensions.
-/

namespace PyConduit.Activity

open Protocol Replay Commands GuardedRun
open Lifecycle (Tab Handler)

set_option autoImplicit false

structure Env where
  commands : Commands.Env
  reconnect : Lifecycle.ReconnectConfig
  username : Tab → String

def readyFrame (env : Env) (tab : Tab) : Frame :=
  let config := env.commands.config
  .ready env.commands.jid (env.username tab) config.brandTitle config.soundEnabledDefault
    config.discoveryServers config.maxMessageChars

def lifecycleEnv (env : Env) : Lifecycle.Env Frame := ⟨env.reconnect, readyFrame env⟩

/-- An iterator over a dictionary: its size and the number of insertions and
removals of keys when the loop began, and the position of the next entry. -/
structure Cursor where
  size : Nat
  changes : Nat
  index : Nat
  deriving DecidableEq

/-- The send at which `_send_snapshot` is suspended; idle outside of it. -/
inductive Snapshot
  | idle
  | ready
  | roster
  | presence (cursor : Cursor)
  | room (cursor : Cursor) (room : Key)
  | occupants (cursor : Cursor)
  deriving DecidableEq

structure Pending where
  operation : Operation
  resume : Except String operation.Value → String → Finish

/-- Where a handler of Connected is suspended. The list begins with the room
whose join is awaited. -/
inductive Rejoin
  | announcing
  | joining (rooms : List (Key × Json))

/-- `presenceChanges` and `roomChanges` count the insertions and removals of keys
in the two dictionaries that are iterated, `operations` lists the calls of the
client. -/
structure Session where
  account : Lifecycle.Account Frame
  caches : Caches
  presenceChanges : Nat
  roomChanges : Nat
  snapshots : Tab → Snapshot
  commands : Tab → Option Pending
  rejoins : List Rejoin
  operations : List Operation

def fresh : Session where
  account := Lifecycle.fresh
  caches := empty
  presenceChanges := 0
  roomChanges := 0
  snapshots := fun _ => .idle
  commands := fun _ => none
  rejoins := []
  operations := []

def isSnapshot : Handler Frame → Bool
  | .snapshot => true
  | _ => false

/-- An action of the lifecycle. A handler that comes to `_send_snapshot` awaits
the send of its first frame. -/
def lifecycle (env : Env) (session : Session) (action : Lifecycle.Action Frame) :
    Option Session :=
  (Lifecycle.step (lifecycleEnv env) session.account action).map fun account =>
    { session with
      account := account
      snapshots := fun tab =>
        if isSnapshot (account.handlers tab) && !isSnapshot (session.account.handlers tab) then
          .ready
        else session.snapshots tab }

def assign (session : Session) (caches : Caches) : Session :=
  { session with
    caches := caches
    presenceChanges :=
      if caches.presence.keys = session.caches.presence.keys then session.presenceChanges
      else session.presenceChanges + 1
    roomChanges :=
      if caches.joinedRooms.keys = session.caches.joinedRooms.keys then session.roomChanges
      else session.roomChanges + 1 }

def setSnapshot (session : Session) (tab : Tab) (snapshot : Snapshot) : Session :=
  { session with snapshots := Function.update session.snapshots tab snapshot }

inductive Progress
  | send (frame : Frame) (next : Snapshot)
  | ends
  | raises

/-- The position an iterator yields next. A dictionary of another size raises;
with the same size after insertions and removals the language leaves open what
comes, and `choice` says it (none for a RuntimeError). -/
def Cursor.next (cursor : Cursor) (size changes : Nat) (choice : Option Nat) : Option Nat :=
  if size ≠ cursor.size then none
  else if changes = cursor.changes then some cursor.index
  else choice

def roomLoop (session : Session) (cursor : Cursor) (choice : Option Nat) : Progress :=
  let rooms := session.caches.joinedRooms
  match cursor.next rooms.size session.roomChanges choice with
  | none => .raises
  | some position =>
      match rooms.entries[position]? with
      | none => .ends
      | some (room, nick) =>
          .send (.mucJoined room.json nick none)
            (.room { cursor with index := position + 1 } room)

def afterRoom (session : Session) (cursor : Cursor) (room : Key) (choice : Option Nat) :
    Progress :=
  match occupantsOf session.caches room with
  | [] => roomLoop session cursor choice
  | occupants => .send (.mucOccupants room.json occupants) (.occupants cursor)

def startRooms (session : Session) (choice : Option Nat) : Progress :=
  roomLoop session ⟨session.caches.joinedRooms.size, session.roomChanges, 0⟩ choice

def presenceLoop (session : Session) (cursor : Cursor) (choice : Option Nat) : Progress :=
  let contacts := session.caches.presence
  match cursor.next contacts.size session.presenceChanges choice with
  | none => .raises
  | some position =>
      match contacts.entries[position]? with
      | none => startRooms session choice
      | some (_, frame) => .send frame (.presence { cursor with index := position + 1 })

def startPresence (session : Session) (choice : Option Nat) : Progress :=
  presenceLoop session ⟨session.caches.presence.size, session.presenceChanges, 0⟩ choice

/-- `_send_snapshot` after the send it was suspended at has returned. -/
def sendSnapshot (session : Session) (choice : Option Nat) : Snapshot → Option Progress
  | .idle => none
  | .ready =>
      if session.caches.roster = [] then some (startPresence session choice)
      else some (.send (.roster session.caches.roster) .roster)
  | .roster => some (startPresence session choice)
  | .presence cursor => some (presenceLoop session cursor choice)
  | .room cursor room => some (afterRoom session cursor room choice)
  | .occupants cursor => some (roomLoop session cursor choice)

def advance (env : Env) (session : Session) (tab : Tab) : Progress → Option Session
  | .send frame next =>
      (lifecycle env session (.snapshotSend tab frame)).map (setSnapshot · tab next)
  | .ends => (lifecycle env session (.snapshotEnds tab)).map (setSnapshot · tab .idle)
  | .raises => (lifecycle env session (.snapshotRaises tab)).map (setSnapshot · tab .idle)

/-- A command ends, or the exception it ends with is handled by the pump. -/
def conclude (env : Env) (session : Session) (tab : Tab) (order : List Tab) :
    Finish → Option Session
  | .done => some session
  | .reply frame => lifecycle env session (.reply tab frame)
  | .broadcast frame => lifecycle env session (.broadcast tab frame order)
  | .raise (.protocolError error) =>
      lifecycle env session (.reply tab (.error "protocol" error.message none))
  | .raise _ => lifecycle env session (.detach tab)

def call (session : Session) (operation : Operation) : Session :=
  { session with operations := session.operations ++ [operation] }

def receive (env : Env) (session : Session) (tab : Tab) (raw : Json) (order : List Tab) :
    Option Session :=
  match Pump.parseAndHandle env.commands session.caches raw with
  | .error exception => conclude env session tab order (.raise exception)
  | .ok (caches, .finish finish) => conclude env (assign session caches) tab order finish
  | .ok (caches, .call operation resume) =>
      some
        { call (assign session caches) operation with
          commands := Function.update session.commands tab (some ⟨operation, resume⟩) }

/-- The loop over `list(self._joined_rooms.items())`, with the rooms left. -/
def rejoin (session : Session) (index : Nat) : List (Key × Json) → Session
  | [] => { session with rejoins := session.rejoins.eraseIdx index }
  | (room, nick) :: rest =>
      { call session (.joinRoom room.json nick) with
        rejoins := session.rejoins.set index (.joining ((room, nick) :: rest)) }

def afterwards : Event → Lifecycle.Afterwards
  | .disconnected _ => .scheduleReconnect
  | _ => .nothing

def handleEvent (env : Env) (session : Session) (event : Event) (order : List Tab) :
    Option Session :=
  let assigned := assign session (onEvent session.caches event)
  match eventFrame event with
  | some frame => lifecycle env assigned (.event frame (afterwards event) order)
  | none =>
      some
        { call assigned (.setPresence (.str "online") .null) with
          rejoins := assigned.rejoins ++ [.announcing] }

inductive Action
  | lifecycle (action : Lifecycle.Action Frame)
  | connectRaises (tab : Tab) (text : String) (order : List Tab)
  | event (event : Event) (order : List Tab)
  | receive (tab : Tab) (raw : Json) (order : List Tab)
  | operationEnds (tab : Tab) (result : (operation : Operation) → Except String operation.Value)
      (now : String) (order : List Tab)
  | announced (index : Nat) (returned : Bool)
  | rejoined (index : Nat)
  | sent (tab : Tab) (choice : Option Nat)
  | sendRaises (tab : Tab)

/-- The actions of the lifecycle that only happen as part of another action here.
The pump does not leave its loop while a command awaits an operation. -/
def within (session : Session) : Lifecycle.Action Frame → Bool
  | .snapshotSend _ _ => true
  | .snapshotEnds _ => true
  | .snapshotRaises _ => true
  | .connectRaises _ _ _ => true
  | .reply _ _ => true
  | .broadcast _ _ _ => true
  | .event _ _ _ => true
  | .detach tab => (session.commands tab).isSome
  | _ => false

def unreachableFrame (text : String) : Frame :=
  .error "connection" s!"Cannot reach chat server: {text}" none

def step (env : Env) (session : Session) : Action → Option Session
  | .lifecycle action => if within session action then none else lifecycle env session action
  | .connectRaises tab text order =>
      lifecycle env session (.connectRaises tab (unreachableFrame text) order)
  | .event event order => handleEvent env session event order
  | .receive tab raw order =>
      match session.account.handlers tab, session.commands tab with
      | .pumping, none => receive env session tab raw order
      | _, _ => none
  | .operationEnds tab result now order =>
      match session.commands tab with
      | some pending =>
          conclude env
            { session with commands := Function.update session.commands tab none } tab order
            (pending.resume (result pending.operation) now)
      | none => none
  | .announced index returned =>
      match session.rejoins[index]? with
      | some .announcing =>
          if returned then some (rejoin session index session.caches.joinedRooms.entries)
          else some { session with rejoins := session.rejoins.eraseIdx index }
      | _ => none
  | .rejoined index =>
      match session.rejoins[index]? with
      | some (.joining (_ :: rest)) => some (rejoin session index rest)
      | _ => none
  | .sent tab choice =>
      (sendSnapshot session choice (session.snapshots tab)).bind (advance env session tab)
  | .sendRaises tab =>
      if session.snapshots tab = .idle then none else advance env session tab .raises

inductive Fires (env : Env) (session : Session) : Action → Session → Prop
  | lifecycle {action : Lifecycle.Action Frame} {next : Session}
      (outside : within session action = false)
      (fired : lifecycle env session action = some next) :
      Fires env session (.lifecycle action) next
  | connectRaises {tab : Tab} {text : String} {order : List Tab} {next : Session}
      (fired : lifecycle env session (.connectRaises tab (unreachableFrame text) order) =
        some next) :
      Fires env session (.connectRaises tab text order) next
  | event {event : Event} {order : List Tab} {frame : Frame} {next : Session}
      (visible : eventFrame event = some frame)
      (fired : lifecycle env (assign session (onEvent session.caches event))
        (.event frame (afterwards event) order) = some next) :
      Fires env session (.event event order) next
  | connected {event : Event} {order : List Tab} (hidden : eventFrame event = none) :
      Fires env session (.event event order)
        { call (assign session (onEvent session.caches event))
            (.setPresence (.str "online") .null) with
          rejoins := session.rejoins ++ [.announcing] }
  | refused {tab : Tab} {raw : Json} {order : List Tab} {exception : PyException}
      {next : Session} (pumping : session.account.handlers tab = .pumping)
      (free : session.commands tab = none)
      (handled : Pump.parseAndHandle env.commands session.caches raw = .error exception)
      (fired : conclude env session tab order (.raise exception) = some next) :
      Fires env session (.receive tab raw order) next
  | finished {tab : Tab} {raw : Json} {order : List Tab} {caches : Caches} {finish : Finish}
      {next : Session} (pumping : session.account.handlers tab = .pumping)
      (free : session.commands tab = none)
      (handled : Pump.parseAndHandle env.commands session.caches raw =
        .ok (caches, .finish finish))
      (fired : conclude env (assign session caches) tab order finish = some next) :
      Fires env session (.receive tab raw order) next
  | called {tab : Tab} {raw : Json} {order : List Tab} {caches : Caches}
      {operation : Operation} {resume : Except String operation.Value → String → Finish}
      (pumping : session.account.handlers tab = .pumping)
      (free : session.commands tab = none)
      (handled : Pump.parseAndHandle env.commands session.caches raw =
        .ok (caches, .call operation resume)) :
      Fires env session (.receive tab raw order)
        { call (assign session caches) operation with
          commands := Function.update session.commands tab (some ⟨operation, resume⟩) }
  | operationEnds {tab : Tab}
      {result : (operation : Operation) → Except String operation.Value} {now : String}
      {order : List Tab} {pending : Pending} {next : Session}
      (awaited : session.commands tab = some pending)
      (fired : conclude env
        { session with commands := Function.update session.commands tab none } tab order
        (pending.resume (result pending.operation) now) = some next) :
      Fires env session (.operationEnds tab result now order) next
  | announced {index : Nat} (announcing : session.rejoins[index]? = some .announcing) :
      Fires env session (.announced index true)
        (rejoin session index session.caches.joinedRooms.entries)
  | announceRaises {index : Nat} (announcing : session.rejoins[index]? = some .announcing) :
      Fires env session (.announced index false)
        { session with rejoins := session.rejoins.eraseIdx index }
  | rejoined {index : Nat} {room : Key × Json} {rest : List (Key × Json)}
      (joining : session.rejoins[index]? = some (.joining (room :: rest))) :
      Fires env session (.rejoined index) (rejoin session index rest)
  | sent {tab : Tab} {choice : Option Nat} {progress : Progress} {next : Session}
      (goesOn : sendSnapshot session choice (session.snapshots tab) = some progress)
      (advanced : advance env session tab progress = some next) :
      Fires env session (.sent tab choice) next
  | sendRaises {tab : Tab} {next : Session} (busy : session.snapshots tab ≠ .idle)
      (advanced : advance env session tab .raises = some next) :
      Fires env session (.sendRaises tab) next

theorem fires_of_step {env : Env} {session next : Session} {action : Action}
    (fired : step env session action = some next) : Fires env session action next := by
  cases action with
  | lifecycle action =>
      simp only [step, Option.ite_none_left_eq_some, Bool.not_eq_true] at fired
      exact .lifecycle fired.1 fired.2
  | connectRaises tab text order => exact .connectRaises fired
  | event event order =>
      simp only [step, handleEvent] at fired
      split at fired
      · next visible => exact .event visible fired
      · next hidden =>
          cases fired
          exact .connected hidden
  | receive tab raw order =>
      simp only [step] at fired
      split at fired
      · next pumping free =>
          simp only [receive] at fired
          split at fired
          · next handled => exact .refused pumping free handled fired
          · next handled => exact .finished pumping free handled fired
          · next handled =>
              cases fired
              exact .called pumping free handled
      · cases fired
  | operationEnds tab result now order =>
      simp only [step] at fired
      split at fired
      · next awaited => exact .operationEnds awaited fired
      · cases fired
  | announced index returned =>
      simp only [step] at fired
      split at fired
      · next announcing =>
          cases returned with
          | true =>
              cases fired
              exact .announced announcing
          | false =>
              cases fired
              exact .announceRaises announcing
      · cases fired
  | rejoined index =>
      simp only [step] at fired
      split at fired
      · next joining =>
          cases fired
          exact .rejoined joining
      · cases fired
  | sent tab choice =>
      obtain ⟨progress, goesOn, advanced⟩ := Option.bind_eq_some_iff.mp fired
      exact .sent goesOn advanced
  | sendRaises tab =>
      simp only [step, Option.ite_none_left_eq_some] at fired
      exact .sendRaises fired.1 fired.2

def snapshotTab : Action → Option Tab
  | .sent tab _ => some tab
  | .sendRaises tab => some tab
  | _ => none

def endsSnapshot : Lifecycle.Action Frame → Bool
  | .snapshotEnds _ => true
  | .snapshotRaises _ => true
  | _ => false

/-- The lifecycle and the places of the snapshots after an action that goes on
with no snapshot: the lifecycle takes at most one action. -/
inductive Carried (env : Env) (session next : Session) : Prop
  | still (account : next.account = session.account) (snapshots : next.snapshots = session.snapshots)
  | moved {middle : Session} {action : Lifecycle.Action Frame}
      (continues : endsSnapshot action = false)
      (fired : lifecycle env session action = some middle)
      (account : next.account = middle.account) (snapshots : next.snapshots = middle.snapshots)

section Refinement

variable {env : Env} {session next : Session}

theorem carried_conclude {tab : Tab} {order : List Tab} {finish : Finish}
    (fired : conclude env session tab order finish = some next) : Carried env session next := by
  cases finish with
  | done =>
      cases fired
      exact .still rfl rfl
  | reply frame => exact .moved rfl fired rfl rfl
  | broadcast frame => exact .moved rfl fired rfl rfl
  | raise exception =>
      cases exception
      all_goals exact .moved rfl fired rfl rfl

theorem Carried.of_same {start : Session} (carried : Carried env start next)
    (account : start.account = session.account)
    (snapshots : start.snapshots = session.snapshots) : Carried env session next := by
  cases carried with
  | still sameAccount sameSnapshots =>
      exact .still (sameAccount.trans account) (sameSnapshots.trans snapshots)
  | @moved middle action continues fired movedAccount movedSnapshots =>
      obtain ⟨after, stepped, rfl⟩ := Option.map_eq_some_iff.mp fired
      rw [account] at stepped
      refine .moved continues
        (show lifecycle env session action = some _ from
          Option.map_eq_some_iff.mpr ⟨after, stepped, rfl⟩) movedAccount ?_
      rw [movedSnapshots]
      simp only [account, snapshots]

theorem carried_rejoin (index : Nat) (rooms : List (Key × Json)) :
    Carried env session (rejoin session index rooms) := by
  cases rooms
  all_goals exact .still rfl rfl

theorem carried_step {action : Action} (fired : step env session action = some next)
    (other : snapshotTab action = none) : Carried env session next := by
  cases fires_of_step fired with
  | @lifecycle action _ outside fired =>
      apply Carried.moved _ fired rfl rfl
      cases action
      all_goals first | rfl | cases outside
  | connectRaises fired => exact .moved rfl fired rfl rfl
  | event _ fired => exact (Carried.moved rfl fired rfl rfl).of_same rfl rfl
  | connected => exact .still rfl rfl
  | refused _ _ _ fired => exact carried_conclude fired
  | finished _ _ _ fired => exact (carried_conclude fired).of_same rfl rfl
  | called => exact .still rfl rfl
  | operationEnds _ fired => exact (carried_conclude fired).of_same rfl rfl
  | announced => exact carried_rejoin _ _
  | announceRaises => exact .still rfl rfl
  | rejoined => exact carried_rejoin _ _
  | sent => cases other
  | sendRaises => cases other

theorem lifecycle_view {action : Lifecycle.Action Frame}
    (fired : lifecycle env session action = some next) :
    Lifecycle.step (lifecycleEnv env) session.account action = some next.account := by
  obtain ⟨account, stepped, rfl⟩ := Option.map_eq_some_iff.mp fired
  exact stepped

theorem advance_view {tab : Tab} {progress : Progress}
    (fired : advance env session tab progress = some next) :
    ∃ action, Lifecycle.step (lifecycleEnv env) session.account action = some next.account := by
  cases progress
  all_goals
    obtain ⟨middle, stepped, rfl⟩ := Option.map_eq_some_iff.mp fired
    exact ⟨_, @lifecycle_view env session middle _ stepped⟩

/-- An action here is at most one action of the lifecycle. -/
theorem lifecycle_of_step {action : Action} (fired : step env session action = some next) :
    ∃ trace,
      replay (Lifecycle.step (lifecycleEnv env)) session.account trace = some next.account := by
  cases own : snapshotTab action with
  | none =>
      cases carried_step fired own with
      | still account => exact ⟨[], by rw [account]; rfl⟩
      | @moved _ action _ moved account =>
          exact ⟨[action], by simp only [replay, lifecycle_view moved, account]⟩
  | some tab =>
      have advanced : ∃ progress, advance env session tab progress = some next := by
        cases fires_of_step fired with
        | sent _ advanced =>
            cases own
            exact ⟨_, advanced⟩
        | sendRaises _ advanced =>
            cases own
            exact ⟨_, advanced⟩
        | _ => cases own
      obtain ⟨progress, advanced⟩ := advanced
      obtain ⟨action, viewed⟩ := advance_view advanced
      exact ⟨[action], by simp only [replay, viewed]⟩

/-- Every run here is a run of the lifecycle, so what holds of the lifecycle in
every run holds of the account under its events and commands. -/
theorem lifecycle_of_run {actions : List Action}
    (run : replay (step env) session actions = some next) :
    ∃ trace,
      replay (Lifecycle.step (lifecycleEnv env)) session.account trace = some next.account :=
  replay_simulation Session.account (fun _ _ _ fired => lifecycle_of_step fired) run

end Refinement

def cachesAfter (env : Env) (session : Session) : Action → Caches
  | .event event _ => onEvent session.caches event
  | .receive _ raw _ =>
      match Pump.parseAndHandle env.commands session.caches raw with
      | .ok (caches, _) => caches
      | .error _ => session.caches
  | _ => session.caches

section Tables

variable {env : Env} {session next : Session}

/-- What the lifecycle and the snapshots have no part in. -/
structure Untouched (session next : Session) : Prop where
  caches : next.caches = session.caches
  presenceChanges : next.presenceChanges = session.presenceChanges
  roomChanges : next.roomChanges = session.roomChanges
  rejoins : next.rejoins = session.rejoins
  operations : next.operations = session.operations
  commands : next.commands = session.commands

theorem untouched_lifecycle {action : Lifecycle.Action Frame}
    (fired : lifecycle env session action = some next) : Untouched session next := by
  obtain ⟨account, _, rfl⟩ := Option.map_eq_some_iff.mp fired
  exact ⟨rfl, rfl, rfl, rfl, rfl, rfl⟩

theorem untouched_conclude {tab : Tab} {order : List Tab} {finish : Finish}
    (fired : conclude env session tab order finish = some next) : Untouched session next := by
  cases finish with
  | done =>
      cases fired
      exact ⟨rfl, rfl, rfl, rfl, rfl, rfl⟩
  | reply frame => exact untouched_lifecycle fired
  | broadcast frame => exact untouched_lifecycle fired
  | raise exception =>
      cases exception
      all_goals exact untouched_lifecycle fired

theorem untouched_advance {tab : Tab} {progress : Progress}
    (fired : advance env session tab progress = some next) : Untouched session next := by
  cases progress
  all_goals
    obtain ⟨middle, stepped, rfl⟩ := Option.map_eq_some_iff.mp fired
    have same := @untouched_lifecycle env session middle _ stepped
    exact ⟨same.caches, same.presenceChanges, same.roomChanges, same.rejoins, same.operations,
      same.commands⟩

/-- The caches are those given and the counts of their changes are up to date. -/
structure Assigned (session : Session) (assigned : Caches) (next : Session) : Prop where
  caches : next.caches = assigned
  presenceChanges :
    next.presenceChanges =
      if assigned.presence.keys = session.caches.presence.keys then session.presenceChanges
      else session.presenceChanges + 1
  roomChanges :
    next.roomChanges =
      if assigned.joinedRooms.keys = session.caches.joinedRooms.keys then session.roomChanges
      else session.roomChanges + 1

theorem assigned_assign {caches : Caches}
    (untouched : Untouched (assign session caches) next) : Assigned session caches next :=
  ⟨untouched.caches, untouched.presenceChanges, untouched.roomChanges⟩

theorem assigned_untouched (untouched : Untouched session next) :
    Assigned session session.caches next :=
  ⟨untouched.caches, untouched.presenceChanges.trans (if_pos rfl).symm,
    untouched.roomChanges.trans (if_pos rfl).symm⟩

theorem assigned_rejoin (session : Session) (index : Nat) (rooms : List (Key × Json)) :
    Assigned session session.caches (rejoin session index rooms) := by
  cases rooms
  all_goals exact ⟨rfl, (if_pos rfl).symm, (if_pos rfl).symm⟩

theorem assigned_step {action : Action} (fired : step env session action = some next) :
    Assigned session (cachesAfter env session action) next := by
  cases fires_of_step fired with
  | lifecycle _ fired => exact assigned_untouched (untouched_lifecycle fired)
  | connectRaises fired => exact assigned_untouched (untouched_lifecycle fired)
  | event _ fired => exact assigned_assign (untouched_lifecycle fired)
  | connected => exact ⟨rfl, rfl, rfl⟩
  | refused _ _ handled fired =>
      simp only [cachesAfter, handled]
      exact assigned_untouched (untouched_conclude fired)
  | finished _ _ handled fired =>
      simp only [cachesAfter, handled]
      exact assigned_assign (untouched_conclude fired)
  | called _ _ handled =>
      simp only [cachesAfter, handled]
      exact ⟨rfl, rfl, rfl⟩
  | operationEnds _ fired =>
      have kept := assigned_untouched (untouched_conclude fired)
      exact ⟨kept.caches, kept.presenceChanges, kept.roomChanges⟩
  | announced => exact assigned_rejoin session _ _
  | announceRaises => exact ⟨rfl, (if_pos rfl).symm, (if_pos rfl).symm⟩
  | rejoined => exact assigned_rejoin session _ _
  | sent _ advanced => exact assigned_untouched (untouched_advance advanced)
  | sendRaises _ advanced => exact assigned_untouched (untouched_advance advanced)

end Tables

def alice : Env :=
  ⟨{ Pump.alice with config := { discoveryServers := [] } }, {}, fun _ => "alice"⟩

end PyConduit.Activity
