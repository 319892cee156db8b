import PyConduit.Origins
import PyConduit.Provenance
import PyConduit.Requests

/-!
# What the frames of an account name

The pages of `app.js` take the names in the frames for granted. An account whose client
reports only what has a name sends only frames that name what they are about, with the limit
of its configuration in each `ready`.
-/

namespace PyConduit.Naming

open Protocol Replay Activity GuardedRun
open Commands (Finish Plan Operation)
open Lifecycle (Tab)
open Origins (Origin Sends)
open Requests (NamesAll)

set_option autoImplicit false

def Fits (config : Commands.Config) : Frame → Prop
  | .ready _ _ _ _ _ limit => limit = config.maxMessageChars
  | frame => NamesAll frame

def NamedRooms : Except String ServerRooms → Prop
  | .ok found => ∀ room ∈ found.rooms, room.jid ≠ ""
  | .error _ => True

instance (outcome : Except String ServerRooms) : Decidable (NamedRooms outcome) := by
  unfold NamedRooms
  split <;> infer_instance

def NamedResult : (operation : Operation) → Except String operation.Value → Prop
  | .discoRooms _, .ok (results : List (Except String ServerRooms)) =>
      ∀ outcome ∈ results, NamedRooms outcome
  | _, _ => True

instance (operation : Operation) (result : Except String operation.Value) :
    Decidable (NamedResult operation result) := by
  unfold NamedResult
  split <;> infer_instance

def NamedReport (session : Session) : Action → Prop
  | .event event _ => ∀ frame ∈ eventFrame event, NamesAll frame
  | .operationEnds tab result _ _ =>
      ∀ pending ∈ session.commands tab, NamedResult pending.operation (result pending.operation)
  | _ => True

instance (session : Session) : (action : Action) → Decidable (NamedReport session action)
  | .event event _ => inferInstanceAs (Decidable (∀ frame ∈ eventFrame event, NamesAll frame))
  | .operationEnds tab result _ _ =>
      inferInstanceAs (Decidable
        (∀ pending ∈ session.commands tab, NamedResult pending.operation (result pending.operation)))
  | .lifecycle _ | .connectRaises _ _ _ | .receive _ _ _ | .announced _ _ | .rejoined _
  | .sent _ _ | .sendRaises _ => inferInstanceAs (Decidable True)

def PlanFits (config : Commands.Config) : Plan → Prop
  | .finish finish => ∀ frame ∈ finish.frame, Fits config frame
  | .call operation resume =>
      ∀ result now, NamedResult operation result → ∀ frame ∈ (resume result now).frame,
        Fits config frame

section Commands

variable {env : Commands.Env} {caches after : Caches} {message : ClientMessage} {plan : Plan}

theorem fits_unguarded {Value : Type} {returned : Value → String → Finish}
    {result : Except String Value} {now : String}
    (fits : ∀ value, result = .ok value → ∀ frame ∈ (returned value now).frame,
      Fits env.config frame) :
    ∀ frame ∈ (Commands.unguarded returned result now).frame, Fits env.config frame := by
  cases result with
  | ok value => exact fits value rfl
  | error text =>
      intro frame ends
      cases ends

theorem fits_error (context message : String) (conversation : Option Json) :
    Fits env.config (.error context message conversation) := trivial

theorem fits_nothing : ∀ frame ∈ Finish.done.frame, Fits env.config frame := by
  intro frame ends
  cases ends

theorem server_entry_names {server : String} {outcome : Except String ServerRooms}
    (named : NamedRooms outcome) : ∀ room ∈ (Commands.serverEntry env server outcome).rooms, room.jid ≠ "" := by
  cases outcome with
  | ok found =>
      intro room among
      exact named room (List.mem_mergeSort.mp among)
  | error text =>
      intro room among
      cases among

theorem mem_entries {servers : List String} {results : List (Except String ServerRooms)}
    {entry : ServerRooms}
    (among : entry ∈ List.zipWith (Commands.serverEntry env) servers results) :
    ∃ server, ∃ outcome ∈ results, entry = Commands.serverEntry env server outcome := by
  rw [← List.map_uncurry_zip_eq_zipWith] at among
  obtain ⟨⟨server, outcome⟩, pair, rfl⟩ := List.mem_map.mp among
  exact ⟨server, outcome, (List.of_mem_zip pair).2, rfl⟩

theorem missing_names {value : Json} (present : ClientMessage.missing value = false) :
    value ≠ .str "" := by
  rintro rfl
  cases present

theorem plan_fits (handled : Commands.handleCommand env caches message = .ok (after, plan)) :
    PlanFits env.config plan := by
  have calls := @Provenance.called_iff env caches message
  rw [handled] at calls
  have present : ∀ operation resume, plan = .call operation resume →
      ∀ field ∈ Pump.requiredFields message.type,
        ClientMessage.missing (message.get field) = false := by
    rintro operation resume rfl field among
    have passes := ((calls operation).mp rfl).1
    simp only [Provenance.passesChecks, Bool.and_eq_true, List.all_eq_true] at passes
    simpa using passes.1 field among
  cases Commands.ran_of_command handled with
  | tooLong | notAllowed =>
      intro frame ends
      cases ends
      exact fits_error _ _ _
  | sendMessage type =>
      intro result now _ frame ends
      cases result with
      | ok msgId =>
          cases ends
          exact missing_names (present _ _ rfl "to" (by simp [type, Pump.requiredFields]))
      | error text =>
          cases ends
          exact fits_error _ _ _
  | sendMuc type =>
      intro result now _ frame ends
      cases result with
      | ok msgId => cases ends
      | error text =>
          cases ends
          exact fits_error _ _ _
  | loadHistory type =>
      intro result now _
      apply fits_unguarded
      intro page _ frame ends
      cases ends
      exact missing_names (present _ _ rfl "jid" (by simp [type, Pump.requiredFields]))
  | leaveRoom =>
      intro result now _
      apply fits_unguarded
      intro value _ frame ends
      cases ends
      trivial
  | discoServers =>
      intro result now named
      apply fits_unguarded
      rintro results rfl frame ends
      cases ends
      intro server among room inside
      obtain ⟨name, outcome, returned, rfl⟩ := mem_entries (List.mem_mergeSort.mp among)
      exact server_entry_names (named outcome returned) room inside
  | _ =>
      intro result now _
      apply fits_unguarded
      intro value _
      exact fits_nothing

end Commands

structure Kept (caches : Caches) : Prop where
  roster : ∀ contact ∈ caches.roster, contact.jid ≠ ""
  presence : ∀ jid frame, caches.presence.lookup jid = some frame →
    jid ≠ "" ∧ ∃ shown status, frame = .presence jid shown status
  rooms : ∀ key nick, caches.joinedRooms.lookup key = some nick → key.json ≠ .str ""

section Caches

variable {env : Commands.Env} {caches after : Caches} {message : ClientMessage} {plan : Plan}

theorem empty_kept : Kept Replay.empty := by
  constructor
  · intro contact among
    cases among
  · intro jid frame held
    cases held
  · intro key nick found
    cases found

theorem kept_event (kept : Kept caches) {event : Event}
    (named : ∀ frame ∈ eventFrame event, NamesAll frame) : Kept (onEvent caches event) := by
  cases event with
  | presenceUpdate jid shown status =>
      refine ⟨kept.roster, ?_, kept.rooms⟩
      intro other frame held
      simp only [onEvent, Dict.lookup_set_item] at held
      split_ifs at held with same
      · cases held
        subst same
        exact ⟨named _ rfl, shown, status, rfl⟩
      · exact kept.presence other frame held
  | rosterSnapshot items => exact ⟨named _ rfl, kept.presence, kept.rooms⟩
  | _ => exact ⟨kept.roster, kept.presence, kept.rooms⟩

theorem kept_command (handled : Commands.handleCommand env caches message = .ok (after, plan))
    (kept : Kept caches) : Kept after := by
  have same : after.roster = caches.roster ∧ after.presence = caches.presence := by
    cases Commands.ran_of_command handled with
    | leaveRoom type popped =>
        unfold Commands.popRoom at popped
        split at popped
        · cases popped
          exact ⟨rfl, rfl⟩
        · split_ifs at popped
          cases popped
          exact ⟨rfl, rfl⟩
    | _ => exact ⟨rfl, rfl⟩
  refine ⟨same.1 ▸ kept.roster, same.2 ▸ kept.presence, ?_⟩
  intro key nick found
  rcases Provenance.rooms_of_command handled found with
    before | ⟨type, ⟨named, hashed, rfl⟩, _, operation, resume, calls⟩
  · exact kept.rooms key nick before
  rcases stored_key_cases caches.joinedRooms named with own | known
  · have called := @Provenance.called_iff env caches message operation
    rw [handled, calls] at called
    have passes := (called.mp rfl).1
    simp only [Provenance.passesChecks, type, Pump.requiredFields, Bool.and_eq_true,
      List.all_eq_true, List.mem_singleton, forall_eq, Bool.not_eq_true'] at passes
    rw [own, Key.json_of_key hashed]
    exact missing_names passes.1
  · obtain ⟨old, before⟩ := (caches.joinedRooms.mem_keys_iff _).mp known
    exact kept.rooms _ old before

end Caches

def placeRoom : Snapshot → Option Key
  | .room _ room => some room
  | _ => none

/-- An account that sends frames a page can take, and goes on so. -/
structure Named (env : Env) (session : Session) : Prop where
  sends : Sends (Fits env.commands.config) session
  kept : Kept session.caches
  places : ∀ tab, ∀ room ∈ placeRoom (session.snapshots tab), room.json ≠ .str ""
  commands : ∀ tab, ∀ pending ∈ session.commands tab,
    PlanFits env.commands.config (.call pending.operation pending.resume)

section Snapshots

variable {session : Session} {frame : Frame} {place : Snapshot} {choice : Option Nat}
  {config : Commands.Config}

theorem room_loop_names (kept : Kept session.caches) {cursor : Cursor}
    (sends : roomLoop session cursor choice = .send frame place) :
    Fits config frame ∧ ∀ room ∈ placeRoom place, room.json ≠ .str "" := by
  unfold roomLoop at sends
  dsimp only at sends
  split at sends
  · cases sends
  · split at sends
    · cases sends
    · next room nick entry =>
        cases sends
        have named := kept.rooms room nick
          ((session.caches.joinedRooms.lookup_eq_some_iff room nick).mpr
            (List.mem_of_getElem? entry))
        refine ⟨named, ?_⟩
        intro other same
        cases same
        exact named

theorem presence_loop_names (kept : Kept session.caches) {cursor : Cursor}
    (sends : presenceLoop session cursor choice = .send frame place) :
    Fits config frame ∧ ∀ room ∈ placeRoom place, room.json ≠ .str "" := by
  unfold presenceLoop at sends
  dsimp only at sends
  split at sends
  · cases sends
  · split at sends
    · exact room_loop_names kept sends
    · next jid found entry =>
        cases sends
        have held := (session.caches.presence.lookup_eq_some_iff jid frame).mpr
          (List.mem_of_getElem? entry)
        obtain ⟨filled, shown, status, rfl⟩ := kept.presence jid frame held
        refine ⟨filled, ?_⟩
        intro room same
        cases same

/-- A snapshot names every contact and room. -/
theorem snapshot_names (kept : Kept session.caches) {before : Snapshot}
    (here : ∀ room ∈ placeRoom before, room.json ≠ .str "")
    (sends : sendSnapshot session choice before = some (.send frame place)) :
    Fits config frame ∧ ∀ room ∈ placeRoom place, room.json ≠ .str "" := by
  cases before with
  | idle => cases sends
  | ready =>
      simp only [sendSnapshot] at sends
      split_ifs at sends
      · exact presence_loop_names kept (Option.some.inj sends)
      · cases sends
        refine ⟨kept.roster, ?_⟩
        intro room same
        cases same
  | roster => exact presence_loop_names kept (Option.some.inj sends)
  | presence cursor => exact presence_loop_names kept (Option.some.inj sends)
  | room cursor room =>
      have goesOn : afterRoom session cursor room choice = .send frame place := Option.some.inj sends
      unfold afterRoom at goesOn
      split at goesOn
      · exact room_loop_names kept goesOn
      · cases goesOn
        refine ⟨here room rfl, ?_⟩
        intro other same
        cases same
  | occupants cursor => exact room_loop_names kept (Option.some.inj sends)

end Snapshots

section Steps

variable {env : Env} {session next : Session}

theorem fits_event {event : Event} {frame : Frame} {config : Commands.Config}
    (visible : eventFrame event = some frame) (named : NamesAll frame) : Fits config frame := by
  cases event
  all_goals cases visible
  all_goals exact named

theorem origin_fits (named : Named env session) {action : Action}
    (report : NamedReport session action) {part : Lifecycle.Action Frame} {frame : Frame}
    (origin : Origin env session action part frame) : Fits env.commands.config frame := by
  cases origin with
  | error => trivial
  | event same visible =>
      subst same
      exact fits_event visible (report _ visible)
  | finishes same handled _ ends =>
      obtain ⟨message, _, command⟩ := (Pump.parse_and_handle_ok_iff _ _ _ _).mp handled
      exact plan_fits command _ ends
  | answers same suspended _ ends =>
      subst same
      exact named.commands _ _ suspended _ _ (report _ suspended) _ ends
  | replays _ _ goesOn => exact (snapshot_names named.kept (named.places _) goesOn).1

theorem fresh_named (env : Env) : Named env fresh := by
  refine ⟨Origins.fresh_sends _, empty_kept, ?_, ?_⟩
  · intro tab room same
    cases same
  · intro tab pending suspended
    cases suspended

theorem caches_kept (kept : Kept session.caches) {action : Action}
    (report : NamedReport session action) : Kept (cachesAfter env session action) := by
  cases action with
  | event event order => exact kept_event kept report
  | receive tab raw order =>
      cases handled : Pump.parseAndHandle env.commands session.caches raw with
      | error exception =>
          simp only [cachesAfter, handled]
          exact kept
      | ok outcome =>
          obtain ⟨message, _, command⟩ := (Pump.parse_and_handle_ok_iff _ _ _ _).mp handled
          simp only [cachesAfter, handled]
          exact kept_command command kept
  | _ => exact kept

/-- Where a snapshot is after an action. -/
inductive Goes (session : Session) (action : Action) (tab : Tab) (place : Snapshot) : Prop
  | stays (same : place = session.snapshots tab)
  | outside (roomless : placeRoom place = none)
  | sends {choice : Option Nat} {frame : Frame} (same : action = .sent tab choice)
      (goesOn : sendSnapshot session choice (session.snapshots tab) = some (.send frame place))

theorem place_lifecycle {part : Lifecycle.Action Frame} (tab : Tab)
    (fired : lifecycle env session part = some next) :
    next.snapshots tab = session.snapshots tab ∨ placeRoom (next.snapshots tab) = none := by
  obtain ⟨account, _, rfl⟩ := Option.map_eq_some_iff.mp fired
  dsimp only
  split_ifs
  · exact .inr rfl
  · exact .inl rfl

theorem place_conclude {other : Tab} {order : List Tab} {finish : Finish} (tab : Tab)
    (fired : conclude env session other order finish = some next) :
    next.snapshots tab = session.snapshots tab ∨ placeRoom (next.snapshots tab) = none := by
  cases finish with
  | done =>
      cases fired
      exact .inl rfl
  | reply frame => exact place_lifecycle tab fired
  | broadcast frame => exact place_lifecycle tab fired
  | raise exception =>
      cases exception
      all_goals exact place_lifecycle tab fired

theorem goes_advance {other : Tab} {progress : Progress} {action : Action} (tab : Tab)
    (fired : advance env session other progress = some next)
    (sends : ∀ frame place, progress = .send frame place → ∃ choice, action = .sent other choice ∧
      sendSnapshot session choice (session.snapshots other) = some (.send frame place)) :
    Goes session action tab (next.snapshots tab) := by
  have away : ∀ {middle : Session} {part : Lifecycle.Action Frame} (place : Snapshot),
      lifecycle env session part = some middle → other ≠ tab →
        Goes session action tab ((setSnapshot middle other place).snapshots tab) := by
    intro middle part place stepped apart
    have kept : (setSnapshot middle other place).snapshots tab = middle.snapshots tab :=
      Function.update_of_ne (Ne.symm apart) ..
    rw [kept]
    exact (place_lifecycle tab stepped).elim .stays .outside
  have here : ∀ (middle : Session) (place : Snapshot),
      (setSnapshot middle tab place).snapshots tab = place := fun _ _ => Function.update_self ..
  cases progress with
  | send frame place =>
      obtain ⟨middle, stepped, rfl⟩ := Option.map_eq_some_iff.mp fired
      by_cases own : other = tab
      · subst own
        obtain ⟨choice, same, goesOn⟩ := sends frame place rfl
        rw [here]
        exact .sends same goesOn
      · exact away place stepped own
  | ends | raises =>
      obtain ⟨middle, stepped, rfl⟩ := Option.map_eq_some_iff.mp fired
      by_cases own : other = tab
      · subst own
        rw [here]
        exact .outside rfl
      · exact away .idle stepped own

theorem goes_step {action : Action} (fired : Activity.step env session action = some next)
    (tab : Tab) : Goes session action tab (next.snapshots tab) := by
  cases fires_of_step fired with
  | lifecycle _ fired => exact (place_lifecycle tab fired).elim .stays .outside
  | connectRaises fired => exact (place_lifecycle tab fired).elim .stays .outside
  | event _ fired =>
      have moved := place_lifecycle tab fired
      exact moved.elim (fun same => .stays same) .outside
  | refused _ _ _ fired => exact (place_conclude tab fired).elim .stays .outside
  | finished _ _ _ fired =>
      have moved := place_conclude tab fired
      exact moved.elim (fun same => .stays same) .outside
  | operationEnds _ fired =>
      have moved := place_conclude tab fired
      exact moved.elim (fun same => .stays same) .outside
  | @announced index =>
      cases session.caches.joinedRooms.entries
      all_goals exact .stays rfl
  | @rejoined index room rest =>
      cases rest
      all_goals exact .stays rfl
  | @sent other choice progress _ goesOn advanced =>
      apply goes_advance tab advanced
      rintro frame place rfl
      exact ⟨choice, rfl, goesOn⟩
  | sendRaises _ advanced =>
      apply goes_advance tab advanced
      intro frame place same
      cases same
  | _ => exact .stays rfl

theorem named_step (named : Named env session) {action : Action}
    (report : NamedReport session action) (fired : Activity.step env session action = some next) :
    Named env next := by
  have ready : ∀ tab, Fits env.commands.config (readyFrame env tab) := fun _ => rfl
  refine ⟨?_, ?_, ?_, ?_⟩
  · apply named.sends.step ready _ fired
    intro part frame origin
    exact origin_fits named report origin
  · rw [(assigned_step fired).caches]
    exact caches_kept named.kept report
  · intro tab
    cases goes_step fired tab with
    | stays same =>
        rw [same]
        exact named.places tab
    | outside roomless =>
        rw [roomless]
        intro room absent
        cases absent
    | sends _ goesOn =>
        have names := @snapshot_names session _ _ _ env.commands.config named.kept _
          (named.places tab) goesOn
        exact names.2
  · intro tab pending suspended
    rcases Observed.commands_after fired suspended with before | ⟨raw, order, after, operation,
      resume, handled, _, same⟩
    · exact named.commands tab pending before
    · subst same
      obtain ⟨message, _, command⟩ := (Pump.parse_and_handle_ok_iff _ _ _ _).mp handled
      exact plan_fits command

end Steps

end PyConduit.Naming
