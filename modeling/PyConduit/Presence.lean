import Mathlib.Data.List.DropRight
import Mathlib.Data.List.MinMax
import PyConduit.Replay

/-!
# Presence across sessions

`SlixmppClient._on_presence` keeps a show for each resource of each contact and
reports the most available one; the account caches the report for late tabs.
Neither table is touched when a session ends or begins. The handler runs up to
the assignment of the cache without a suspension, so a run is a list of stanzas
and of the two ends of a session.
-/

namespace PyConduit.Presence

open Protocol Replay

set_option autoImplicit false

structure Jid where
  bare : String
  resource : String
  deriving DecidableEq

/-- `kind` is `pres["type"]` and `mucUser` the presence of a `muc#user` element. -/
structure Stanza where
  sender : Jid
  kind : String
  shown : String
  status : String
  mucUser : Bool
  deriving DecidableEq

def showMap : List (String × Show) :=
  [("", .online), ("chat", .online), ("away", .away), ("xa", .xa), ("dnd", .dnd)]

def showOf (text : String) : Show := (showMap.lookup text).getD .online

/-- `_SHOW_PRIORITY.get(show, 0)` -/
def showPriority : Show → Nat
  | .online => 0
  | .away => 1
  | .xa => 2
  | .dnd => 3
  | .offline => 0

structure Client where
  bare : String
  joinedRooms : Dict String String
  presenceResources : Dict String (Dict String Show)

/-- Neither our own presence nor that of a room. -/
abbrev FromContact (bare : String) (joinedRooms : Dict String String) (stanza : Stanza) : Prop :=
  ¬(stanza.sender.bare = bare ∨ stanza.sender.bare ∈ joinedRooms.keys) ∧
    stanza.mucUser = false

def resourcesOf (client : Client) (bare : String) : Dict String Show :=
  (client.presenceResources.lookup bare).getD .empty

def aggregate (resources : Dict String Show) (status : String) : Show × Option String :=
  match resources.values.argmin showPriority with
  | some shown => (shown, if status = "" then none else some status)
  | none => (.offline, none)

def changedResources (client : Client) (stanza : Stanza) : Dict String Show :=
  let resources := resourcesOf client stanza.sender.bare
  if stanza.kind = "unavailable" then resources.pop stanza.sender.resource
  else resources.setItem stanza.sender.resource (showOf stanza.shown)

/-- `_on_presence`, with the event it hands to the account. -/
def onPresence (client : Client) (stanza : Stanza) : Client × Option Event :=
  if stanza.sender.bare = client.bare ∨ stanza.sender.bare ∈ client.joinedRooms.keys then
    (client, none)
  else if stanza.mucUser then (client, none)
  else
    let resources := changedResources client stanza
    let reported := aggregate resources stanza.status
    ({ client with
        presenceResources := client.presenceResources.setItem stanza.sender.bare resources },
      some (.presenceUpdate stanza.sender.bare reported.1 reported.2))

structure System where
  client : Client
  connected : Bool
  caches : Caches

def fresh (bare : String) (joinedRooms : Dict String String) : System :=
  ⟨⟨bare, joinedRooms, .empty⟩, false, Replay.empty⟩

inductive Action
  | stanza (stanza : Stanza)
  | disconnected (reason : String)
  | sessionStart
  deriving DecidableEq

def step (system : System) : Action → System
  | .stanza stanza =>
      let handled := onPresence system.client stanza
      { system with
        client := handled.1
        caches := (handled.2.map (onEvent system.caches)).getD system.caches }
  | .disconnected reason =>
      { system with
        connected := false
        caches := onEvent system.caches (.disconnected reason) }
  | .sessionStart =>
      { system with
        connected := true
        caches := onEvent system.caches (.connected system.client.bare) }

def run (bare : String) (joinedRooms : Dict String String) (history : List Action) : System :=
  history.foldl step (fresh bare joinedRooms)

def contactStanzas (bare : String) (joinedRooms : Dict String String) (history : List Action) :
    List Stanza :=
  history.filterMap fun
    | .stanza stanza => if FromContact bare joinedRooms stanza then some stanza else none
    | _ => none

/-- What a device announces about itself. Any text but these three means that it is online. -/
def shownAs (text : String) : Show :=
  if text = "away" then .away
  else if text = "xa" then .xa
  else if text = "dnd" then .dnd
  else .online

def currentSession (history : List Action) : List Action :=
  history.rtakeWhile fun action => action ≠ .sessionStart

def lastFrom (stanzas : List Stanza) (sender : Jid) : Option Stanza :=
  (stanzas.filter fun stanza => stanza.sender = sender).getLast?

/-- The resource sent an available presence and no later unavailable one. -/
def Available (stanzas : List Stanza) (sender : Jid) : Prop :=
  ∃ stanza, lastFrom stanzas sender = some stanza ∧ stanza.kind ≠ "unavailable"

def Silent (stanzas : List Stanza) (sender : Jid) : Prop :=
  ∀ stanza ∈ stanzas, stanza.sender ≠ sender

def ShownOnline (caches : Caches) (contact : String) : Prop :=
  ∃ shown status, caches.presence.lookup contact = some (.presence contact shown status) ∧
    shown ≠ .offline

/-- Who is shown online is online by the stanzas of the current session. -/
def NoGhost (bare : String) (joinedRooms : Dict String String) (history : List Action) : Prop :=
  ∀ contact, ShownOnline (run bare joinedRooms history).caches contact →
    ∃ resource, Available (contactStanzas bare joinedRooms (currentSession history))
      ⟨contact, resource⟩

/-- A device that was available when last heard of and is silent in the current
session belongs to a contact with a device available in the current session. -/
def LeftoversReplaced (bare : String) (joinedRooms : Dict String String)
    (history : List Action) : Prop :=
  ∀ device, Available (contactStanzas bare joinedRooms history) device →
    Silent (contactStanzas bare joinedRooms (currentSession history)) device →
    ∃ resource, Available (contactStanzas bare joinedRooms (currentSession history))
      ⟨device.bare, resource⟩

theorem last_from_append (stanzas : List Stanza) (stanza : Stanza) (sender : Jid) :
    lastFrom (stanzas ++ [stanza]) sender =
      if stanza.sender = sender then some stanza else lastFrom stanzas sender := by
  unfold lastFrom
  by_cases same : stanza.sender = sender
  · simp [List.filter_append, same]
  · simp [List.filter_append, same]

theorem last_from_none_iff (stanzas : List Stanza) (sender : Jid) :
    lastFrom stanzas sender = none ↔ Silent stanzas sender := by
  simp [lastFrom, Silent]

theorem contact_stanzas_append (bare : String) (joinedRooms : Dict String String)
    (history later : List Action) :
    contactStanzas bare joinedRooms (history ++ later) =
      contactStanzas bare joinedRooms history ++ contactStanzas bare joinedRooms later :=
  List.filterMap_append

theorem show_of_eq (text : String) : showOf text = shownAs text := by
  unfold showOf shownAs
  by_cases away : text = "away"
  · subst away
    rfl
  by_cases extended : text = "xa"
  · subst extended
    rfl
  by_cases busy : text = "dnd"
  · subst busy
    rfl
  simp only [showMap, List.lookup_cons, List.lookup_nil, if_neg away, if_neg extended, if_neg busy,
    beq_eq_false_iff_ne.mpr away, beq_eq_false_iff_ne.mpr extended, beq_eq_false_iff_ne.mpr busy]
  cases text == "" with
  | true => rfl
  | false => cases text == "chat" with
    | true => rfl
    | false => rfl

theorem shown_as_not_offline (text : String) : shownAs text ≠ .offline := by
  unfold shownAs
  split_ifs
  all_goals simp

def lastShow (stanzas : List Stanza) (sender : Jid) : Option Show :=
  (lastFrom stanzas sender).bind fun stanza =>
    if stanza.kind = "unavailable" then none else some (shownAs stanza.shown)

theorem available_iff_last_show (stanzas : List Stanza) (sender : Jid) :
    Available stanzas sender ↔ ∃ shown, lastShow stanzas sender = some shown := by
  unfold Available lastShow
  cases lastFrom stanzas sender with
  | none => simp
  | some stanza => simp

theorem last_show_append (stanzas : List Stanza) (stanza : Stanza) (sender : Jid) :
    lastShow (stanzas ++ [stanza]) sender =
      if stanza.sender = sender then
        if stanza.kind = "unavailable" then none else some (shownAs stanza.shown)
      else lastShow stanzas sender := by
  unfold lastShow
  rw [last_from_append]
  split
  · rfl
  · rfl

theorem last_show_not_offline {stanzas : List Stanza} {sender : Jid} {shown : Show}
    (found : lastShow stanzas sender = some shown) : shown ≠ .offline := by
  unfold lastShow at found
  obtain ⟨stanza, _, value⟩ := Option.bind_eq_some_iff.mp found
  split at value
  · cases value
  · cases value
    exact shown_as_not_offline stanza.shown

theorem aggregate_offline_iff {resources : Dict String Show} (status : String)
    (present : ∀ resource shown, resources.lookup resource = some shown → shown ≠ .offline) :
    (aggregate resources status).1 ≠ .offline ↔
      ∃ resource shown, resources.lookup resource = some shown := by
  unfold aggregate
  cases best : resources.values.argmin showPriority with
  | none =>
      have empty : resources.values = [] := List.argmin_eq_none.mp best
      constructor
      · intro differs
        exact absurd rfl differs
      · rintro ⟨resource, shown, found⟩
        have member := (resources.mem_values_iff shown).mpr ⟨resource, found⟩
        rw [empty] at member
        cases member
  | some shown =>
      obtain ⟨resource, found⟩ :=
        (resources.mem_values_iff shown).mp (List.argmin_mem best)
      constructor
      · intro _
        exact ⟨resource, shown, found⟩
      · intro _
        exact present resource shown found

theorem changed_resources_lookup (client : Client) (stanza : Stanza) (resource : String) :
    (changedResources client stanza).lookup resource =
      if resource = stanza.sender.resource then
        if stanza.kind = "unavailable" then none else some (shownAs stanza.shown)
      else (resourcesOf client stanza.sender.bare).lookup resource := by
  unfold changedResources
  by_cases gone : stanza.kind = "unavailable"
  · simp only [if_pos gone, Dict.lookup_pop]
  · simp only [if_neg gone, Dict.lookup_set_item, show_of_eq]

theorem on_presence_contact {client : Client} {stanza : Stanza}
    (contact : FromContact client.bare client.joinedRooms stanza) :
    onPresence client stanza =
      ({ client with
          presenceResources := client.presenceResources.setItem stanza.sender.bare
            (changedResources client stanza) },
        some (.presenceUpdate stanza.sender.bare
          (aggregate (changedResources client stanza) stanza.status).1
          (aggregate (changedResources client stanza) stanza.status).2)) := by
  simp only [onPresence, if_neg contact.1, contact.2, Bool.false_eq_true, if_false]

theorem on_presence_ignored {client : Client} {stanza : Stanza}
    (other : ¬FromContact client.bare client.joinedRooms stanza) :
    onPresence client stanza = (client, none) := by
  unfold onPresence
  split
  · rfl
  · next notRoom =>
      split
      · rfl
      · next plain => exact absurd ⟨notRoom, by simpa using plain⟩ other

/-- Both tables say what the last stanza of each resource says, whatever session
it came in. -/
structure Tracks (system : System) (stanzas : List Stanza) : Prop where
  resources : ∀ contact resource,
    (resourcesOf system.client contact).lookup resource = lastShow stanzas ⟨contact, resource⟩
  cached : ∀ contact,
    ShownOnline system.caches contact ↔ ∃ resource, Available stanzas ⟨contact, resource⟩

/-- The sender's table is right after its stanza. -/
theorem changed_resources_track {system : System} {stanzas : List Stanza}
    (tracks : Tracks system stanzas) (stanza : Stanza) (resource : String) :
    (changedResources system.client stanza).lookup resource =
      lastShow (stanzas ++ [stanza]) ⟨stanza.sender.bare, resource⟩ := by
  rw [changed_resources_lookup, last_show_append, tracks.resources]
  by_cases same : resource = stanza.sender.resource
  · subst same
    rw [if_pos rfl, if_pos rfl]
  · have differs : stanza.sender ≠ ⟨stanza.sender.bare, resource⟩ := by
      intro equal
      exact same (congrArg Jid.resource equal).symm
    rw [if_neg same, if_neg differs]

theorem shown_after_stanza {system : System} {stanza : Stanza}
    (contact : FromContact system.client.bare system.client.joinedRooms stanza)
    (other : String) :
    ShownOnline (step system (.stanza stanza)).caches other ↔
      if other = stanza.sender.bare then
        (aggregate (changedResources system.client stanza) stanza.status).1 ≠ .offline
      else ShownOnline system.caches other := by
  simp only [step, on_presence_contact contact, ShownOnline, onEvent, Option.map_some,
    Option.getD_some, Dict.lookup_set_item]
  by_cases same : other = stanza.sender.bare
  · simp [same]
  · simp only [if_neg same]

theorem tracks_contact_stanza {system : System} {stanzas : List Stanza} {stanza : Stanza}
    (tracks : Tracks system stanzas)
    (contact : FromContact system.client.bare system.client.joinedRooms stanza) :
    Tracks (step system (.stanza stanza)) (stanzas ++ [stanza]) := by
  have ofOther : ∀ other resource, other ≠ stanza.sender.bare →
      lastShow (stanzas ++ [stanza]) ⟨other, resource⟩ = lastShow stanzas ⟨other, resource⟩ := by
    intro other resource differs
    rw [last_show_append, if_neg (fun equal => differs (congrArg Jid.bare equal).symm)]
  constructor
  · intro other resource
    simp only [step, on_presence_contact contact, resourcesOf, Dict.lookup_set_item]
    by_cases same : other = stanza.sender.bare
    · rw [if_pos same, same]
      exact changed_resources_track tracks stanza resource
    · rw [if_neg same, ofOther other resource same]
      exact tracks.resources other resource
  · intro other
    rw [shown_after_stanza contact]
    simp only [available_iff_last_show]
    by_cases same : other = stanza.sender.bare
    · have present : ∀ resource shown,
          (changedResources system.client stanza).lookup resource = some shown →
            shown ≠ .offline := by
        intro resource shown found
        rw [changed_resources_track tracks] at found
        exact last_show_not_offline found
      rw [if_pos same, aggregate_offline_iff stanza.status present, same]
      simp only [changed_resources_track tracks]
    · simp only [if_neg same, ofOther other _ same, tracks.cached, available_iff_last_show]

theorem run_client (bare : String) (joinedRooms : Dict String String) (history : List Action) :
    (run bare joinedRooms history).client.bare = bare ∧
      (run bare joinedRooms history).client.joinedRooms = joinedRooms := by
  induction history using List.reverseRecOn with
  | nil => exact ⟨rfl, rfl⟩
  | append_singleton earlier action induction =>
      unfold run at induction ⊢
      rw [List.foldl_concat]
      cases action with
      | stanza stanza =>
          simp only [step, onPresence]
          split
          · exact induction
          · split
            · exact induction
            · exact induction
      | disconnected reason => exact induction
      | sessionStart => exact induction

theorem run_tracks (bare : String) (joinedRooms : Dict String String) (history : List Action) :
    Tracks (run bare joinedRooms history) (contactStanzas bare joinedRooms history) := by
  induction history using List.reverseRecOn with
  | nil =>
      constructor
      · intro contact resource
        rfl
      · intro contact
        simp [ShownOnline, run, fresh, Replay.empty, Available, contactStanzas, lastFrom]
  | append_singleton earlier action induction =>
      have filter := run_client bare joinedRooms earlier
      have last : run bare joinedRooms (earlier ++ [action]) =
          step (run bare joinedRooms earlier) action := List.foldl_concat ..
      rw [last, contact_stanzas_append]
      cases action with
      | stanza stanza =>
          by_cases contact : FromContact bare joinedRooms stanza
          · have appended : contactStanzas bare joinedRooms [.stanza stanza] = [stanza] := by
              simp only [contactStanzas, List.filterMap_cons, if_pos contact, List.filterMap_nil]
            rw [appended]
            apply tracks_contact_stanza induction
            rw [filter.1, filter.2]
            exact contact
          · have appended : contactStanzas bare joinedRooms [.stanza stanza] = [] := by
              simp only [contactStanzas, List.filterMap_cons, if_neg contact, List.filterMap_nil]
            rw [appended, List.append_nil]
            have ignored : ¬FromContact (run bare joinedRooms earlier).client.bare
                (run bare joinedRooms earlier).client.joinedRooms stanza := by
              rw [filter.1, filter.2]
              exact contact
            simp only [step, on_presence_ignored ignored]
            exact induction
      | disconnected reason =>
          simpa [contactStanzas] using ⟨induction.resources, induction.cached⟩
      | sessionStart =>
          simpa [contactStanzas] using ⟨induction.resources, induction.cached⟩

theorem last_from_current {bare : String} {joinedRooms : Dict String String}
    {history : List Action} {device : Jid}
    (spoke : ¬Silent (contactStanzas bare joinedRooms (currentSession history)) device) :
    lastFrom (contactStanzas bare joinedRooms history) device =
      lastFrom (contactStanzas bare joinedRooms (currentSession history)) device := by
  obtain ⟨earlier, split⟩ : currentSession history <:+ history := List.rtakeWhile_suffix _ _
  have said : lastFrom (contactStanzas bare joinedRooms (currentSession history)) device ≠ none :=
    fun silent => spoke ((last_from_none_iff _ device).mp silent)
  obtain ⟨stanza, last⟩ := Option.ne_none_iff_exists'.mp said
  rw [last]
  conv_lhs => rw [← split, contact_stanzas_append]
  unfold lastFrom at last ⊢
  rw [List.filter_append, List.getLast?_append, last]
  rfl

/-- After every history, connected or not, the cache is free of ghosts exactly
when every device left over from an earlier session belongs to a contact who is
online in this one. -/
theorem no_ghost_presence_iff (bare : String) (joinedRooms : Dict String String)
    (history : List Action) :
    NoGhost bare joinedRooms history ↔ LeftoversReplaced bare joinedRooms history := by
  have tracks := run_tracks bare joinedRooms history
  constructor
  · intro noGhost device available _
    apply noGhost device.bare
    exact (tracks.cached device.bare).mpr ⟨device.resource, available⟩
  · intro replaced contact shown
    obtain ⟨resource, available⟩ := (tracks.cached contact).mp shown
    by_cases silent : Silent (contactStanzas bare joinedRooms (currentSession history))
        ⟨contact, resource⟩
    · exact replaced ⟨contact, resource⟩ available silent
    · obtain ⟨stanza, last, kind⟩ := available
      rw [last_from_current silent] at last
      exact ⟨resource, stanza, last, kind⟩

def bobsPhone (kind : String) : Stanza := ⟨⟨"bob@example.com", "phone"⟩, kind, "", "", false⟩

theorem left_during_outage_is_ghost :
    let history : List Action :=
      [.sessionStart, .stanza (bobsPhone "available"), .disconnected "timeout", .sessionStart]
    (run "alice@example.com" .empty history).connected = true ∧
      ¬NoGhost "alice@example.com" .empty history := by
  refine ⟨rfl, ?_⟩
  intro noGhost
  have shown : ShownOnline (run "alice@example.com" .empty
      [.sessionStart, .stanza (bobsPhone "available"), .disconnected "timeout",
        .sessionStart]).caches "bob@example.com" := ⟨.online, none, rfl, by decide⟩
  obtain ⟨resource, stanza, last, _⟩ := noGhost "bob@example.com" shown
  cases last

end PyConduit.Presence
