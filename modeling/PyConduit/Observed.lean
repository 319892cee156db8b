import PyConduit.Activity
import PyConduit.Tracking

/-!
# An account whose broadcasts are counted

Beside the account with its caches and commands runs the same account with its
broadcasts numbered. The numbers have no part in what happens: every run can be
counted, and without the numbers the second account is the first.
-/

namespace PyConduit.Observed

open Protocol Replay Activity GuardedRun
open Commands (Finish)
open Lifecycle (Tab)
open Numbered (Book Tracks)

set_option autoImplicit false

/-- How a command ends. -/
def concluding (tab : Tab) (order : List Tab) : Finish → Option (Lifecycle.Action Frame)
  | .done => none
  | .reply frame => some (.reply tab frame)
  | .broadcast frame => some (.broadcast tab frame order)
  | .raise (.protocolError error) => some (.reply tab (.error "protocol" error.message none))
  | .raise _ => some (.detach tab)

def progressing (tab : Tab) : Progress → Lifecycle.Action Frame
  | .send frame _ => .snapshotSend tab frame
  | .ends => .snapshotEnds tab
  | .raises => .snapshotRaises tab

/-- The action of the lifecycle that is taken as part of an action. -/
def taken (env : Env) (session : Session) : Action → Option (Lifecycle.Action Frame)
  | .lifecycle action => some action
  | .connectRaises tab text order => some (.connectRaises tab (unreachableFrame text) order)
  | .event event order =>
      (eventFrame event).map fun frame => .event frame (afterwards event) order
  | .receive tab raw order =>
      match Pump.parseAndHandle env.commands session.caches raw with
      | .error exception => concluding tab order (.raise exception)
      | .ok (_, .finish finish) => concluding tab order finish
      | .ok (_, .call _ _) => none
  | .operationEnds tab result now order =>
      (session.commands tab).bind fun pending =>
        concluding tab order (pending.resume (result pending.operation) now)
  | .sent tab choice =>
      (sendSnapshot session choice (session.snapshots tab)).map (progressing tab)
  | .sendRaises tab => some (.snapshotRaises tab)
  | _ => none

def takenStep (env : Env) (account : Lifecycle.Account Frame) :
    Option (Lifecycle.Action Frame) → Option (Lifecycle.Account Frame)
  | some action => Lifecycle.step (lifecycleEnv env) account action
  | none => some account

section Taken

variable {env : Env} {session next : Session}

theorem taken_conclude {tab : Tab} {order : List Tab} {finish : Finish}
    (fired : conclude env session tab order finish = some next) :
    takenStep env session.account (concluding tab order finish) = some next.account := by
  cases finish with
  | done =>
      cases fired
      rfl
  | reply frame => exact lifecycle_view fired
  | broadcast frame => exact lifecycle_view fired
  | raise exception =>
      cases exception
      all_goals exact lifecycle_view fired

theorem taken_advance {tab : Tab} {progress : Progress}
    (fired : advance env session tab progress = some next) :
    Lifecycle.step (lifecycleEnv env) session.account (progressing tab progress) =
      some next.account := by
  cases progress
  all_goals
    obtain ⟨middle, stepped, rfl⟩ := Option.map_eq_some_iff.mp fired
    exact @lifecycle_view env session middle _ stepped

theorem account_rejoin (session : Session) (index : Nat) (rooms : List (Key × Json)) :
    (rejoin session index rooms).account = session.account := by
  cases rooms
  all_goals rfl

theorem taken_step {action : Action} (fired : Activity.step env session action = some next) :
    takenStep env session.account (taken env session action) = some next.account := by
  cases fires_of_step fired with
  | lifecycle _ fired => exact lifecycle_view fired
  | connectRaises fired => exact lifecycle_view fired
  | event visible fired =>
      simp only [taken, visible, Option.map_some]
      exact lifecycle_view fired
  | connected hidden =>
      simp only [taken, hidden, Option.map_none]
      rfl
  | refused _ _ handled fired =>
      simp only [taken, handled]
      exact taken_conclude fired
  | finished _ _ handled fired =>
      have concluded := taken_conclude fired
      simp only [taken, handled]
      exact concluded
  | called _ _ handled =>
      simp only [taken, handled]
      rfl
  | operationEnds awaited fired =>
      have concluded := taken_conclude fired
      simp only [taken, awaited, Option.bind_some]
      exact concluded
  | announced => exact congrArg some (account_rejoin session _ _).symm
  | announceRaises => rfl
  | rejoined => exact congrArg some (account_rejoin session _ _).symm
  | sent goesOn advanced =>
      simp only [taken, goesOn, Option.map_some]
      exact taken_advance advanced
  | sendRaises _ advanced => exact taken_advance advanced

theorem taken_inside {action : Action} {part : Lifecycle.Action Frame}
    (takes : taken env session action = some part) :
    action = .lifecycle part ∨
      (∀ tab, part ≠ .attach tab) ∧ ∀ outcome, part ≠ .idleExpires outcome := by
  have concludes : ∀ {tab : Tab} {order : List Tab} {finish : Finish},
      concluding tab order finish = some part →
        (∀ tab, part ≠ .attach tab) ∧ ∀ outcome, part ≠ .idleExpires outcome := by
    intro tab order finish ends
    cases finish with
    | done => cases ends
    | raise exception =>
        cases exception
        all_goals
          cases ends
          simp
    | _ =>
        cases ends
        simp
  cases action with
  | lifecycle inner =>
      cases takes
      exact Or.inl rfl
  | receive tab raw order =>
      right
      simp only [taken] at takes
      split at takes
      · exact concludes takes
      · exact concludes takes
      · cases takes
  | operationEnds tab result now order =>
      obtain ⟨_, _, ends⟩ := Option.bind_eq_some_iff.mp takes
      exact Or.inr (concludes ends)
  | event event order =>
      obtain ⟨frame, _, rfl⟩ := Option.map_eq_some_iff.mp takes
      simp
  | sent tab choice =>
      obtain ⟨progress, _, rfl⟩ := Option.map_eq_some_iff.mp takes
      cases progress
      all_goals simp [progressing]
  | connectRaises
  | sendRaises =>
      cases takes
      simp
  | _ => cases takes

/-- The commands that are suspended after an action: none is new but the one that
the action has called. -/
theorem commands_after {action : Action} (fired : Activity.step env session action = some next)
    {tab : Tab} {pending : Pending} (awaits : next.commands tab = some pending) :
    session.commands tab = some pending ∨
      ∃ raw order after operation resume,
        Pump.parseAndHandle env.commands session.caches raw = .ok (after, .call operation resume) ∧
          action = .receive tab raw order ∧ pending = ⟨operation, resume⟩ := by
  have rejoined : ∀ (index : Nat) (rooms : List (Key × Json)),
      (rejoin session index rooms).commands = session.commands := by
    intro index rooms
    cases rooms
    all_goals rfl
  cases fires_of_step fired with
  | lifecycle _ fired => exact Or.inl ((untouched_lifecycle fired).commands ▸ awaits)
  | connectRaises fired => exact Or.inl ((untouched_lifecycle fired).commands ▸ awaits)
  | event _ fired =>
      have same := (untouched_lifecycle fired).commands
      exact Or.inl (same ▸ awaits)
  | connected => exact Or.inl awaits
  | refused _ _ _ fired => exact Or.inl ((untouched_conclude fired).commands ▸ awaits)
  | finished _ _ _ fired =>
      have same := (untouched_conclude fired).commands
      exact Or.inl (same ▸ awaits)
  | @called other raw order after operation resume _ _ handled =>
      by_cases own : tab = other
      · subst own
        simp only [Function.update_self] at awaits
        cases awaits
        exact Or.inr ⟨raw, order, after, operation, resume, handled, rfl, rfl⟩
      · simp only [Function.update_of_ne own] at awaits
        exact Or.inl awaits
  | @operationEnds other _ _ _ _ _ awaited fired =>
      rw [(untouched_conclude fired).commands] at awaits
      by_cases own : tab = other
      · subst own
        simp only [Function.update_self] at awaits
        cases awaits
      · simp only [Function.update_of_ne own] at awaits
        exact Or.inl awaits
  | announced => exact Or.inl (rejoined _ _ ▸ awaits)
  | announceRaises => exact Or.inl awaits
  | rejoined => exact Or.inl (rejoined _ _ ▸ awaits)
  | sent _ goesOn => exact Or.inl ((untouched_advance goesOn).commands ▸ awaits)
  | sendRaises _ goesOn => exact Or.inl ((untouched_advance goesOn).commands ▸ awaits)

end Taken

inductive Replayed (caches : Caches) : Frame → Prop
  | roster (filled : caches.roster ≠ []) : Replayed caches (.roster caches.roster)
  | presence {jid : String} {shown : Show} {status : Option String}
      (held : caches.presence.lookup jid = some (.presence jid shown status)) :
      Replayed caches (.presence jid shown status)
  | joined (room nick : Json) : Replayed caches (.mucJoined room nick none)
  | occupants (room : Json) (occupants : List Occupant) :
      Replayed caches (.mucOccupants room occupants)

section Snapshots

variable {session : Session} {frame : Frame} {next : Snapshot}

theorem room_loop_frame {cursor : Cursor} {choice : Option Nat}
    (sends : roomLoop session cursor choice = .send frame next) :
    Replayed session.caches frame := by
  unfold roomLoop at sends
  dsimp only at sends
  split at sends
  · cases sends
  · split at sends
    · cases sends
    · cases sends
      exact .joined _ _

theorem after_room_frame {cursor : Cursor} {room : Key} {choice : Option Nat}
    (sends : afterRoom session cursor room choice = .send frame next) :
    Replayed session.caches frame := by
  unfold afterRoom at sends
  split at sends
  · exact room_loop_frame sends
  · cases sends
    exact .occupants _ _

theorem presence_loop_frame (keyed : PresenceKeyed session.caches) {cursor : Cursor}
    {choice : Option Nat} (sends : presenceLoop session cursor choice = .send frame next) :
    Replayed session.caches frame := by
  unfold presenceLoop at sends
  dsimp only at sends
  split at sends
  · cases sends
  · split at sends
    · exact room_loop_frame sends
    · next jid found entry =>
        cases sends
        have held := (session.caches.presence.lookup_eq_some_iff jid frame).mpr
          (List.mem_of_getElem? entry)
        obtain ⟨shown, status, rfl⟩ := keyed jid frame held
        exact .presence held

theorem snapshot_frame (keyed : PresenceKeyed session.caches) {choice : Option Nat}
    {place : Snapshot} (sends : sendSnapshot session choice place = some (.send frame next)) :
    Replayed session.caches frame := by
  cases place with
  | idle => cases sends
  | ready =>
      simp only [sendSnapshot] at sends
      split_ifs at sends with empty
      · exact presence_loop_frame keyed (Option.some.inj sends)
      · cases sends
        exact .roster empty
  | roster => exact presence_loop_frame keyed (Option.some.inj sends)
  | presence cursor => exact presence_loop_frame keyed (Option.some.inj sends)
  | room cursor room => exact after_room_frame (Option.some.inj sends)
  | occupants cursor => exact room_loop_frame (Option.some.inj sends)

end Snapshots

structure State where
  session : Session
  book : Book Frame

def bookStep (env : Env) (book : Book Frame) :
    Option (Lifecycle.Action Frame) → Option (Book Frame)
  | some action => Numbered.step (lifecycleEnv env) book action
  | none => some book

def step (env : Env) (state : State) (action : Action) : Option State :=
  (Activity.step env state.session action).bind fun session =>
    (bookStep env state.book (taken env state.session action)).map fun book => ⟨session, book⟩

/-- The account is found idle, and its broadcasts are counted from here. -/
def opened (session : Session) : State := ⟨session, Numbered.opened session.account⟩

section Erasure

variable {env : Env}

theorem erase_book_step (book : Book Frame) (action : Option (Lifecycle.Action Frame)) :
    takenStep env book.erase action = (bookStep env book action).map Book.erase := by
  cases action with
  | none => rfl
  | some action => exact Numbered.erase_step (lifecycleEnv env) book action

theorem step_cases {state next : State} {action : Action} (fired : step env state action = some next) :
    Activity.step env state.session action = some next.session ∧
      bookStep env state.book (taken env state.session action) = some next.book := by
  obtain ⟨session, stepped, rest⟩ := Option.bind_eq_some_iff.mp fired
  obtain ⟨book, counted, rfl⟩ := Option.map_eq_some_iff.mp rest
  exact ⟨stepped, counted⟩

theorem observed_step {session next : Session} {book : Book Frame} {action : Action}
    (erased : book.erase = session.account)
    (fired : Activity.step env session action = some next) :
    ∃ after, step env ⟨session, book⟩ action = some ⟨next, after⟩ ∧
      after.erase = next.account := by
  have viewed := taken_step fired
  rw [← erased, erase_book_step] at viewed
  obtain ⟨after, counted, same⟩ := Option.map_eq_some_iff.mp viewed
  refine ⟨after, ?_, same⟩
  rw [step, fired, Option.bind_some, counted, Option.map_some]

theorem observed_run {session final : Session} {book : Book Frame} {actions : List Action}
    (erased : book.erase = session.account)
    (run : replay (Activity.step env) session actions = some final) :
    ∃ after, replay (step env) ⟨session, book⟩ actions = some ⟨final, after⟩ ∧
      after.erase = final.account := by
  have lifted : ∀ session action next (state : State), Activity.step env session action = some next →
      state.session = session ∧ state.book.erase = session.account →
        ∃ after : State, step env state action = some after ∧
          after.session = next ∧ after.book.erase = next.account := by
    rintro session action next ⟨_, book⟩ fired ⟨rfl, same⟩
    obtain ⟨after, stepped, still⟩ := observed_step same fired
    exact ⟨⟨next, after⟩, stepped, rfl, still⟩
  have start : (⟨session, book⟩ : State).session = session ∧
      (⟨session, book⟩ : State).book.erase = session.account := ⟨rfl, erased⟩
  obtain ⟨⟨_, after⟩, counted, rfl, still⟩ := replay_lift lifted start run
  exact ⟨after, counted, still⟩

theorem erase_opened (session : Session) : (opened session).book.erase = session.account := by
  have handlers : ∀ handler : Lifecycle.Handler Frame,
      (handler.map fun frame => ((none : Option Nat), frame)).map Prod.snd = handler := by
    intro handler
    cases handler
    all_goals rfl
  have tasks : ∀ task : Lifecycle.EventTask Frame,
      (task.map fun frame => ((none : Option Nat), frame)).map Prod.snd = task := fun _ => rfl
  simp [opened, Numbered.opened, Book.erase, Lifecycle.Account.map, Function.comp_def, handlers,
    tasks]

end Erasure

section Strangers

variable {env : Env}

def Tracked (state : State) : Prop := ∃ fanout, Tracks state.book fanout

theorem tracked_step {state next : State} {action : Action} (tracked : Tracked state)
    (fired : step env state action = some next) : Tracked next := by
  obtain ⟨fanout, tracks⟩ := tracked
  obtain ⟨_, booked⟩ := step_cases fired
  cases takes : taken env state.session action with
  | none =>
      rw [takes] at booked
      exact ⟨fanout, Option.some.inj booked ▸ tracks⟩
  | some part =>
      rw [takes] at booked
      obtain ⟨after, _, _, tracked⟩ := tracks.step booked
      exact ⟨after, tracked⟩

theorem strangers {session : Session} {before : List Action}
    (reached : replay (Activity.step env) fresh before = some session) :
    session.account.subscribers.Nodup ∧
      ∀ tab, session.account.handlers tab = .absent →
        tab ∉ session.account.subscribers ∧ ∀ send ∈ session.account.sent, send.1 ≠ tab := by
  obtain ⟨book, counted, erased⟩ :=
    @observed_run env fresh session (opened fresh).book before rfl reached
  obtain ⟨fanout, tracks⟩ : Tracked ⟨session, book⟩ :=
    run_invariant_unconditional Tracked (fun _ _ _ tracked fired => tracked_step tracked fired)
      ⟨_, Numbered.tracks_fresh⟩ counted
  obtain ⟨owner, link⟩ := tracks.link
  have members : fanout.members = session.account.subscribers := by
    rw [link.members, ← erased]
    rfl
  refine ⟨members ▸ tracks.sound.distinct, ?_⟩
  intro tab absent
  have unmarked : book.account.handlers tab = .absent := by
    rw [← erased] at absent
    cases found : book.account.handlers tab
    all_goals
      simp only [Book.erase, Lifecycle.Account.map, found, Lifecycle.Handler.map,
        reduceCtorEq] at absent
    rfl
  have unseen := tracks.unseen tab unmarked
  refine ⟨members ▸ unseen.outside, ?_⟩
  intro send sends
  rw [← erased] at sends
  obtain ⟨marked, among, rfl⟩ := List.mem_map.mp sends
  exact unseen.unsent marked (link.sent ▸ among)

end Strangers

end PyConduit.Observed
