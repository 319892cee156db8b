import Mathlib.Data.List.Basic
import PyConduit.GuardedRun

/-!
# The connection flag of the slixmpp client

`SlixmppClient` records in `_connected` whether its stream is up. Three of its
handlers write the flag, each in a task of its own, and `_on_session_start`
suspends in `get_roster` before it does. An action is what one handler or one
call does between two suspensions; `get_roster` may end at any later time, and
the handler goes on alike after a result, an IqError and an IqTimeout.
-/

namespace PyConduit.ClientSession

open GuardedRun

set_option autoImplicit false

abbrev Stream := Nat

/-- Where `_on_session_start` is suspended for a stream. -/
inductive Handler
  | absent
  | roster
  | announcing
  | emitting
  | finished
  deriving DecidableEq

inductive ConnectError
  | connectionError (message : String)
  | permissionError (message : String)
  deriving DecidableEq

/-- The future `_session_failed` of one call of `connect`. -/
inductive Future
  | pending
  | failed (error : ConnectError)
  | cancelled
  deriving DecidableEq

inductive Event
  | connected
  | disconnected (reason : String)
  | rosterSnapshot
  deriving DecidableEq

/-- A report that a stream has ended, with what was true of it then: whether
Connected had been emitted for it, whether `disconnect()` was called after that,
and whether Disconnected is emitted now. -/
structure Ending where
  stream : Stream
  announced : Bool
  asked : Bool
  reported : Bool
  deriving DecidableEq

/-- `connected`, `sessionReady` and `sessionFailed` are the fields of the source;
the calls of `connect` are numbered and each owns the future of its number.
`streams` lists the streams of all `session_start`s, the most recent first. -/
structure Client where
  connected : Bool
  sessionReady : Bool
  sessionFailed : Option Nat
  futures : Nat → Future
  waiting : Nat → Bool
  calls : Nat
  results : List (Nat × Option ConnectError)
  handlers : Stream → Handler
  emitted : List Event
  streams : List Stream
  ended : Stream → Bool
  announced : Stream → Bool
  asked : Stream → Bool
  endings : List Ending

def fresh : Client where
  connected := false
  sessionReady := false
  sessionFailed := none
  futures := fun _ => .pending
  waiting := fun _ => false
  calls := 0
  results := []
  handlers := fun _ => .absent
  emitted := []
  streams := []
  ended := fun _ => false
  announced := fun _ => false
  asked := fun _ => false
  endings := []

/-- `connect` up to its wait. -/
def connect (client : Client) : Client :=
  { client with
    sessionReady := false
    sessionFailed := some client.calls
    futures := Function.update client.futures client.calls .pending
    waiting := Function.update client.waiting client.calls true
    calls := client.calls + 1 }

/-- The rest of `connect`, whose wait is over because the session is ready, its
future is done or thirty seconds have passed. The error is read from the
attribute, which by now may be the future of a later call. -/
def connectResult (client : Client) : Option ConnectError :=
  match client.sessionFailed.map client.futures with
  | some (.failed error) => some error
  | _ =>
      if client.sessionReady then none
      else some (.connectionError "XMPP connection timed out")

def connectResumes (client : Client) (call : Nat) : Client :=
  let cancelled : Client :=
    if client.futures call = .pending then
      { client with futures := Function.update client.futures call .cancelled }
    else client
  { cancelled with
    waiting := Function.update client.waiting call false
    results := client.results ++ [(call, connectResult cancelled)] }

/-- `_session_failed.set_exception`, when there is a future that is not done. -/
def fail (client : Client) (error : ConnectError) : Client :=
  match client.sessionFailed with
  | some call =>
      if client.futures call = .pending then
        { client with futures := Function.update client.futures call (.failed error) }
      else client
  | none => client

def disconnect (client : Client) : Client :=
  { client with
    connected := false
    asked := fun stream => client.asked stream || client.announced stream }

def onSessionStart (client : Client) (stream : Stream) : Client :=
  { client with
    streams := stream :: client.streams
    handlers := Function.update client.handlers stream .roster }

/-- `get_roster` has ended: the flag is set whatever happened meanwhile. -/
def rosterEnds (client : Client) (stream : Stream) : Client :=
  { client with
    connected := true
    sessionReady := true
    handlers := Function.update client.handlers stream .announcing
    announced := Function.update client.announced stream true
    emitted := client.emitted ++ [.connected] }

def emitRoster (client : Client) (stream : Stream) : Client :=
  { client with
    handlers := Function.update client.handlers stream .emitting
    emitted := client.emitted ++ [.rosterSnapshot] }

def recordEnding (client : Client) : Option Stream → Client
  | none => client
  | some stream =>
      { client with
        ended := Function.update client.ended stream true
        endings := client.endings ++
          [⟨stream, client.announced stream, client.asked stream, client.connected⟩] }

def disconnectedError (reason : String) : ConnectError :=
  .connectionError (if reason = "" then "disconnected" else reason)

/-- `_on_disconnected`. The stream is none for a connection that broke before
its `session_start`. -/
def onDisconnected (client : Client) (stream : Option Stream) (reason : String) : Client :=
  let failed := fail { recordEnding client stream with connected := false }
    (disconnectedError reason)
  if client.connected then { failed with emitted := failed.emitted ++ [.disconnected reason] }
  else failed

def onFailedAuth (client : Client) : Client :=
  fail client (.permissionError "XMPP authentication failed")

inductive Action
  | connect
  | connectResumes (call : Nat)
  | disconnect
  | sessionStart (stream : Stream)
  | rosterEnds (stream : Stream)
  | connectedHandled (stream : Stream)
  | rosterHandled (stream : Stream)
  | disconnected (stream : Option Stream) (reason : String)
  | failedAuth
  deriving DecidableEq

abbrev LiveStream (client : Client) (stream : Stream) : Prop :=
  stream ∈ client.streams ∧ client.ended stream = false

def step (client : Client) : Action → Option Client
  | .connect => some (connect client)
  | .connectResumes call =>
      if client.waiting call then some (connectResumes client call) else none
  | .disconnect => some (disconnect client)
  | .sessionStart stream =>
      if stream ∈ client.streams then none else some (onSessionStart client stream)
  | .rosterEnds stream =>
      if client.handlers stream = .roster then some (rosterEnds client stream) else none
  | .connectedHandled stream =>
      if client.handlers stream = .announcing then some (emitRoster client stream) else none
  | .rosterHandled stream =>
      if client.handlers stream = .emitting then
        some { client with handlers := Function.update client.handlers stream .finished }
      else none
  | .disconnected stream reason =>
      if ∀ reported ∈ stream, LiveStream client reported then
        some (onDisconnected client stream reason)
      else none
  | .failedAuth => some (onFailedAuth client)

def FlagTruthful (client : Client) : Prop :=
  client.connected = true →
    ∃ stream, client.streams.head? = some stream ∧ client.ended stream = false

/-- A stream that ends after its Connected is reported, unless somebody asked. -/
def EndingsReported (client : Client) : Prop :=
  ∀ ending ∈ client.endings, ending.announced = true → ending.asked = false →
    ending.reported = true

/-- A stream is reported disconnected only when no `_on_session_start` is inside
`get_roster` and no other stream is up. -/
abbrev Orderly (client : Client) (action : Action) : Prop :=
  ∀ stream ∈ client.streams, ∀ report ∈ reportOf action,
    client.handlers stream ≠ .roster ∧
      (client.ended stream = false → report = some stream)
where
  reportOf : Action → Option (Option Stream)
    | .disconnected stream _ => some stream
    | _ => none

/-- What holds in every state of an orderly run. `flag` is FlagTruthful;
`rosterUp` says the same ahead of the write for a handler inside `get_roster`,
and `live` keeps the flag set for as long as an announced stream is up. -/
structure Sound (client : Client) : Prop where
  known : ∀ stream, client.handlers stream = .roster → stream ∈ client.streams
  announcedKnown : ∀ stream, client.announced stream = true → stream ∈ client.streams
  endedKnown : ∀ stream, client.ended stream = true → stream ∈ client.streams
  rosterUp : ∀ stream, client.handlers stream = .roster →
    ∃ latest, client.streams.head? = some latest ∧ client.ended latest = false
  flag : FlagTruthful client
  live : ∀ stream, LiveStream client stream → client.announced stream = true →
    client.asked stream = false → client.connected = true
  endings : EndingsReported client

theorem sound_fresh : Sound fresh := by
  constructor
  all_goals simp [fresh, FlagTruthful, EndingsReported]

theorem fail_futures (client : Client) (error : ConnectError) :
    ∃ futures, fail client error = { client with futures := futures } := by
  unfold fail
  split
  · split
    · exact ⟨_, rfl⟩
    · exact ⟨client.futures, rfl⟩
  · exact ⟨client.futures, rfl⟩

theorem sound_fail {client : Client} (sound : Sound client) (error : ConnectError) :
    Sound (fail client error) := by
  obtain ⟨futures, failed⟩ := fail_futures client error
  rw [failed]
  exact ⟨sound.known, sound.announcedKnown, sound.endedKnown, sound.rosterUp, sound.flag,
    sound.live, sound.endings⟩

theorem sound_connect_resumes {client : Client} (sound : Sound client) (call : Nat) :
    Sound (connectResumes client call) := by
  unfold connectResumes
  split
  all_goals exact ⟨sound.known, sound.announcedKnown, sound.endedKnown, sound.rosterUp,
    sound.flag, sound.live, sound.endings⟩

theorem sound_disconnect {client : Client} (sound : Sound client) :
    Sound (disconnect client) := by
  refine ⟨sound.known, sound.announcedKnown, sound.endedKnown, sound.rosterUp, ?_, ?_,
    sound.endings⟩
  · intro set
    cases set
  · intro stream _ announced asked
    have wasAsked : (client.asked stream || client.announced stream) = false := asked
    rw [show client.announced stream = true from announced, Bool.or_true] at wasAsked
    cases wasAsked

theorem sound_session_start {client : Client} (sound : Sound client) {stream : Stream}
    (new : stream ∉ client.streams) : Sound (onSessionStart client stream) := by
  have up : client.ended stream = false := by
    by_contra finished
    exact new (sound.endedKnown stream (by simpa using finished))
  constructor
  · intro other suspended
    by_cases same : other = stream
    · simp [onSessionStart, same]
    · have before : client.handlers other = .roster := by
        simpa [onSessionStart, Function.update_of_ne same] using suspended
      exact List.mem_cons_of_mem _ (sound.known other before)
  · intro other announced
    exact List.mem_cons_of_mem _ (sound.announcedKnown other announced)
  · intro other finished
    exact List.mem_cons_of_mem _ (sound.endedKnown other finished)
  · intro other _
    exact ⟨stream, rfl, up⟩
  · intro _
    exact ⟨stream, rfl, up⟩
  · intro other isLive announced asked
    have before : other ∈ client.streams := sound.announcedKnown other announced
    exact sound.live other ⟨before, isLive.2⟩ announced asked
  · exact sound.endings

theorem sound_roster_ends {client : Client} (sound : Sound client) {stream : Stream}
    (suspended : client.handlers stream = .roster) : Sound (rosterEnds client stream) := by
  refine ⟨?_, ?_, sound.endedKnown, ?_, ?_, ?_, sound.endings⟩
  · intro other inside
    by_cases same : other = stream
    · simp [rosterEnds, same] at inside
    · have before : client.handlers other = .roster := by
        simpa [rosterEnds, Function.update_of_ne same] using inside
      exact sound.known other before
  · intro other announced
    by_cases same : other = stream
    · exact same ▸ sound.known stream suspended
    · have before : client.announced other = true := by
        simpa [rosterEnds, Function.update_of_ne same] using announced
      exact sound.announcedKnown other before
  · intro other _
    exact sound.rosterUp stream suspended
  · intro _
    exact sound.rosterUp stream suspended
  · intro other _ _ _
    rfl

/-- A handler that goes on after `get_roster` leaves all else as it is. -/
theorem sound_handler_moves {client : Client} (sound : Sound client) (stream : Stream)
    {place : Handler} (past : place ≠ .roster) (emitted : List Event) :
    Sound { client with
      handlers := Function.update client.handlers stream place
      emitted := emitted } := by
  have before : ∀ other, Function.update client.handlers stream place other = .roster →
      client.handlers other = .roster := by
    intro other inside
    by_cases same : other = stream
    · rw [same, Function.update_self] at inside
      exact absurd inside past
    · rwa [Function.update_of_ne same] at inside
  exact ⟨fun other inside => sound.known other (before other inside), sound.announcedKnown,
    sound.endedKnown, fun other inside => sound.rosterUp other (before other inside),
    sound.flag, sound.live, sound.endings⟩

theorem sound_record_ending {client : Client} (sound : Sound client)
    {report : Option Stream} (isLive : ∀ reported ∈ report, LiveStream client reported)
    (orderly : ∀ stream ∈ client.streams, client.handlers stream ≠ .roster ∧
      (client.ended stream = false → report = some stream)) :
    Sound { recordEnding client report with connected := false } := by
  have elsewhere : ∀ stream, client.handlers stream ≠ .roster := by
    intro stream inside
    exact (orderly stream (sound.known stream inside)).1 inside
  cases report with
  | none =>
      refine ⟨sound.known, sound.announcedKnown, sound.endedKnown, ?_, ?_, ?_, sound.endings⟩
      · intro stream inside
        exact absurd inside (elsewhere stream)
      · intro set
        cases set
      · intro stream stillLive
        cases (orderly stream stillLive.1).2 stillLive.2
  | some reported =>
      have wasLive : LiveStream client reported := isLive reported rfl
      refine ⟨sound.known, sound.announcedKnown, ?_, ?_, ?_, ?_, ?_⟩
      · intro stream finished
        by_cases same : stream = reported
        · exact same ▸ wasLive.1
        · have before : client.ended stream = true := by
            simpa [recordEnding, Function.update_of_ne same] using finished
          exact sound.endedKnown stream before
      · intro stream inside
        exact absurd inside (elsewhere stream)
      · intro set
        cases set
      · intro stream stillLive
        by_cases same : stream = reported
        · have finished := stillLive.2
          simp [recordEnding, same] at finished
        · have up : client.ended stream = false := by
            simpa [recordEnding, Function.update_of_ne same] using stillLive.2
          have only := (orderly stream stillLive.1).2 up
          exact absurd (Option.some.inj only).symm same
      · intro ending member announced asked
        rcases List.mem_append.mp member with earlier | last
        · exact sound.endings ending earlier announced asked
        · have is : ending = ⟨reported, client.announced reported, client.asked reported,
              client.connected⟩ := List.mem_singleton.mp last
          subst is
          exact sound.live reported wasLive announced asked

theorem sound_disconnected {client : Client} (sound : Sound client)
    {report : Option Stream} (reason : String)
    (isLive : ∀ reported ∈ report, LiveStream client reported)
    (orderly : ∀ stream ∈ client.streams, client.handlers stream ≠ .roster ∧
      (client.ended stream = false → report = some stream)) :
    Sound (onDisconnected client report reason) := by
  have recorded := sound_fail (sound_record_ending sound isLive orderly)
    (disconnectedError reason)
  unfold onDisconnected
  split
  · exact ⟨recorded.known, recorded.announcedKnown, recorded.endedKnown, recorded.rosterUp,
      recorded.flag, recorded.live, recorded.endings⟩
  · exact recorded

theorem sound_step {client next : Client} {action : Action} (orderly : Orderly client action)
    (sound : Sound client) (fired : step client action = some next) : Sound next := by
  cases action with
  | connect =>
      cases fired
      exact ⟨sound.known, sound.announcedKnown, sound.endedKnown, sound.rosterUp, sound.flag,
        sound.live, sound.endings⟩
  | connectResumes call =>
      simp only [step, Option.ite_none_right_eq_some, Option.some.injEq] at fired
      rw [← fired.2]
      exact sound_connect_resumes sound call
  | disconnect =>
      cases fired
      exact sound_disconnect sound
  | sessionStart stream =>
      simp only [step, Option.ite_none_left_eq_some, Option.some.injEq] at fired
      rw [← fired.2]
      exact sound_session_start sound fired.1
  | rosterEnds stream =>
      simp only [step, Option.ite_none_right_eq_some, Option.some.injEq] at fired
      rw [← fired.2]
      exact sound_roster_ends sound fired.1
  | connectedHandled stream =>
      simp only [step, Option.ite_none_right_eq_some, Option.some.injEq] at fired
      rw [← fired.2]
      exact sound_handler_moves sound stream (by decide) _
  | rosterHandled stream =>
      simp only [step, Option.ite_none_right_eq_some, Option.some.injEq] at fired
      rw [← fired.2]
      exact sound_handler_moves sound stream (by decide) client.emitted
  | disconnected report reason =>
      simp only [step, Option.ite_none_right_eq_some, Option.some.injEq] at fired
      rw [← fired.2]
      apply sound_disconnected sound reason fired.1
      intro stream member
      exact orderly stream member report rfl
  | failedAuth =>
      cases fired
      exact sound_fail sound _

/-- In a run whose reports are orderly, the flag tells the truth and no
announced stream ends in silence. -/
theorem connection_flag_tells_the_truth {actions : List Action} {client : Client}
    (orderly : Conforms step Orderly fresh actions)
    (run : replay step fresh actions = some client) :
    FlagTruthful client ∧ EndingsReported client := by
  have sound : Sound client := run_invariant
    (fun _ _ _ allowed before fired => sound_step allowed before fired) sound_fresh orderly run
  exact ⟨sound.flag, sound.endings⟩

def replacedStream : List Action :=
  [.connect, .sessionStart 0, .rosterEnds 0, .connectResumes 0, .connectedHandled 0,
    .rosterHandled 0, .disconnected (some 0) "timeout", .connect, .sessionStart 1,
    .rosterEnds 1]

theorem replaced_stream_is_reported :
    ∃ client, replay step fresh replacedStream = some client ∧
      FlagTruthful client ∧ EndingsReported client ∧ client.connected = true ∧
      client.endings = [⟨0, true, false, true⟩] := by
  have truth := connection_flag_tells_the_truth
    (show Conforms step Orderly fresh replacedStream by decide) rfl
  exact ⟨_, rfl, truth.1, truth.2, rfl, rfl⟩

theorem dropped_stream_is_announced :
    ∃ client, replay step fresh
        [.connect, .sessionStart 0, .disconnected (some 0) "", .rosterEnds 0] = some client ∧
      ¬FlagTruthful client := by
  refine ⟨_, rfl, ?_⟩
  intro truthful
  obtain ⟨stream, latest, up⟩ := truthful rfl
  cases latest
  cases up

end PyConduit.ClientSession
