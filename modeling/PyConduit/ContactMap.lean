import PyConduit.PresenceReports
import PyConduit.SnapshotFrames

/-!
# The contacts a tab shows

The browser folds roster and presence frames into one map and deletes nothing
from it; the account replaces its roster and adds to its presence, and a late tab
starts from the frames of the two. What either has for a contact is decided by
the last roster that lists it, if one does, and its last presence frame.
-/

namespace PyConduit.ContactMap

open Protocol Replay
open Lifecycle (Tab)
open Presence (lastUpdate updateOf)
open SnapshotFrames (roomFrames occupantFrames snapshotFrames)

set_option autoImplicit false

/-- A value of `state.roster`; a status that was never assigned is undefined. -/
structure Shown where
  name : String
  subscription : String
  shown : Show
  status : Option (Option String)
  deriving DecidableEq

/-- One round of the loop for a roster frame. -/
def listContact (contacts : Dict String Shown) (contact : Contact) : Dict String Shown :=
  let current := contacts.lookup contact.jid
  contacts.setItem contact.jid
    { name := contact.name
      subscription := contact.subscription
      shown := (current.map Shown.shown).getD .offline
      status := current.bind Shown.status }

/-- `handleFrame` of the browser, as far as it concerns `state.roster`. -/
def handleFrame (contacts : Dict String Shown) : Frame → Dict String Shown
  | .roster listed => listed.foldl listContact contacts
  | .presence jid shown status =>
      let current := (contacts.lookup jid).getD ⟨jid, "none", .offline, none⟩
      contacts.setItem jid { current with shown := shown, status := some status }
  | _ => contacts

def contactsOf (frames : List Frame) : Dict String Shown := frames.foldl handleFrame .empty

def cachesOf (events : List Event) : Caches := events.foldl onEvent empty

/-- The frames of a tab that attached before the first event. -/
def oldFrames (env : Activity.Env) (tab : Tab) (events : List Event) : List Frame :=
  snapshotFrames env tab empty ++ events.filterMap eventFrame

/-- The frames of a tab that attaches after the last one. -/
def lateFrames (env : Activity.Env) (tab : Tab) (events : List Event) : List Frame :=
  snapshotFrames env tab (cachesOf events)

def SameContacts (env : Activity.Env) (old late : Tab) (events : List Event) : Prop :=
  ∀ jid, (contactsOf (oldFrames env old events)).lookup jid =
    (contactsOf (lateFrames env late events)).lookup jid

def rosterOf : Event → Option (List Contact)
  | .rosterSnapshot items => some items
  | _ => none

def latestRoster (events : List Event) : List Contact :=
  ((events.filterMap rosterOf).getLast?).getD []

def listing (contacts : List Contact) (jid : String) : Option Contact :=
  (contacts.filter fun contact => contact.jid = jid).getLast?

def everListed (events : List Event) : List Contact := (events.filterMap rosterOf).flatten

/-- Whoever has vanished from the roster has a presence, and was last listed as a
tab would list a contact it only knows by presence. -/
def VanishedUnnoticed (events : List Event) : Prop :=
  ∀ jid contact, listing (everListed events) jid = some contact →
    listing (latestRoster events) jid = none →
    contact.name = jid ∧ contact.subscription = "none" ∧ ∃ last, lastUpdate events jid = some last

/-- What is shown for a contact, by its last listing and its last presence. -/
def entryOf (jid : String) : Option Contact → Option (Show × Option String) → Option Shown
  | none, none => none
  | none, some presence => some ⟨jid, "none", presence.1, some presence.2⟩
  | some contact, presence =>
      some ⟨contact.name, contact.subscription, (presence.map Prod.fst).getD .offline,
        presence.map Prod.snd⟩

def listed : Frame → List Contact
  | .roster contacts => contacts
  | _ => []

def presenceOf (jid : String) : Frame → Option (Show × Option String)
  | .presence contact shown status => if contact = jid then some (shown, status) else none
  | _ => none

section Frames

theorem listing_append (earlier later : List Contact) (jid : String) :
    listing (earlier ++ later) jid = (listing later jid).or (listing earlier jid) := by
  unfold listing
  rw [List.filter_append, List.getLast?_append]

theorem list_contacts_lookup (contacts : List Contact) (jid : String)
    (earlier : List Contact) (presence : Option (Show × Option String))
    {known : Dict String Shown} (found : known.lookup jid = entryOf jid (listing earlier jid) presence) :
    (contacts.foldl listContact known).lookup jid =
      entryOf jid (listing (earlier ++ contacts) jid) presence := by
  induction contacts generalizing known earlier with
  | nil => simpa using found
  | cons contact rest induction =>
      rw [List.foldl_cons, ← List.singleton_append, ← List.append_assoc]
      apply induction
      rw [listing_append, listContact, Dict.lookup_set_item]
      by_cases same : jid = contact.jid
      · subst same
        rw [if_pos rfl, found]
        cases listing earlier contact.jid with
        | none =>
            cases presence
            all_goals simp [listing, entryOf]
        | some before =>
            cases presence
            all_goals simp [listing, entryOf]
      · rw [if_neg same, found]
        simp [listing, Ne.symm same]

/-- What a map holds after any frames, contact by contact. -/
theorem contacts_of_lookup (frames : List Frame) (jid : String) :
    (contactsOf frames).lookup jid =
      entryOf jid (listing (frames.flatMap listed) jid)
        ((frames.filterMap (presenceOf jid)).getLast?) := by
  unfold contactsOf
  induction frames using List.reverseRecOn with
  | nil => rfl
  | append_singleton earlier frame induction =>
      rw [List.foldl_concat, List.flatMap_append, List.filterMap_append]
      cases frame with
      | roster contacts =>
          have quiet : [Frame.roster contacts].filterMap (presenceOf jid) = [] := rfl
          rw [quiet, List.append_nil, List.flatMap_singleton]
          exact list_contacts_lookup contacts jid _ _ induction
      | presence contact shown status =>
          have unlisted : [Frame.presence contact shown status].flatMap listed = [] := rfl
          rw [unlisted, List.append_nil, handleFrame, Dict.lookup_set_item]
          by_cases same : jid = contact
          · subst same
            rw [if_pos rfl, induction]
            cases listing (earlier.flatMap listed) jid with
            | none =>
                cases (earlier.filterMap (presenceOf jid)).getLast?
                all_goals simp [entryOf, presenceOf]
            | some before =>
                cases (earlier.filterMap (presenceOf jid)).getLast?
                all_goals simp [entryOf, presenceOf]
          · rw [if_neg same, induction]
            simp [presenceOf, Ne.symm same]
      | _ =>
          simpa [handleFrame, listed, presenceOf] using induction

theorem room_frames_quiet (caches : Caches) (rooms : List (Key × Json)) (jid : String) :
    (roomFrames caches rooms).flatMap listed = [] ∧
      (roomFrames caches rooms).filterMap (presenceOf jid) = [] := by
  unfold roomFrames
  induction rooms with
  | nil => exact ⟨rfl, rfl⟩
  | cons room rest induction =>
      rw [List.flatMap_cons, List.flatMap_append, List.filterMap_append, induction.1,
        induction.2]
      unfold occupantFrames
      split
      all_goals exact ⟨rfl, rfl⟩

theorem values_presence (entries : List (String × Frame)) (jid : String)
    (distinct : (entries.map Prod.fst).Nodup)
    (keyed : ∀ entry ∈ entries, ∃ shown status, entry.2 = .presence entry.1 shown status) :
    (entries.map Prod.snd).filterMap (presenceOf jid) =
      ((entries.lookup jid).bind (presenceOf jid)).toList := by
  induction entries with
  | nil => rfl
  | cons entry rest induction =>
      obtain ⟨contact, frame⟩ := entry
      rw [List.map_cons, List.nodup_cons] at distinct
      rw [List.forall_mem_cons] at keyed
      obtain ⟨shown, status, presents⟩ := keyed.1
      change frame = .presence contact shown status at presents
      subst presents
      rw [List.map_cons, List.filterMap_cons, induction distinct.2 keyed.2,
        Dict.lookup_cons_entry]
      by_cases same : jid = contact
      · subst same
        have gone : rest.lookup jid = none := by
          rw [List.lookup_eq_none_iff]
          intro other member
          have differs : other.1 ≠ jid := by
            rintro rfl
            exact distinct.1 (List.mem_map.mpr ⟨other, member, rfl⟩)
          simpa using differs.symm
        simp [presenceOf, gone]
      · simp [presenceOf, same, Ne.symm same]

end Frames

section Histories

variable (env : Activity.Env) (tab : Tab) (events : List Event)

theorem caches_keyed : PresenceKeyed (cachesOf events) := by
  unfold cachesOf
  induction events using List.reverseRecOn with
  | nil => exact empty_presence_keyed
  | append_singleton earlier event induction =>
      rw [List.foldl_concat]
      exact on_event_presence_keyed induction event

theorem caches_roster : (cachesOf events).roster = latestRoster events := by
  unfold cachesOf latestRoster
  induction events using List.reverseRecOn with
  | nil => rfl
  | append_singleton earlier event induction =>
      rw [List.foldl_concat, List.filterMap_append, List.getLast?_append]
      cases event with
      | rosterSnapshot items => rfl
      | _ => exact induction

theorem caches_presence (jid : String) :
    ((cachesOf events).presence.lookup jid).bind (presenceOf jid) = lastUpdate events jid := by
  unfold cachesOf lastUpdate
  induction events using List.reverseRecOn with
  | nil => rfl
  | append_singleton earlier event induction =>
      rw [List.foldl_concat, List.filterMap_append, List.getLast?_append]
      cases event with
      | presenceUpdate contact shown status =>
          rw [onEvent, Dict.lookup_set_item]
          by_cases same : jid = contact
          · subst same
            simp [presenceOf, updateOf]
          · rw [if_neg same, induction]
            simp [updateOf, Ne.symm same]
      | _ => exact induction

theorem old_frames_listed : (oldFrames env tab events).flatMap listed = everListed events := by
  have began : (oldFrames env tab events).flatMap listed =
      (events.filterMap eventFrame).flatMap listed := rfl
  rw [began]
  clear began
  unfold everListed
  induction events with
  | nil => rfl
  | cons event rest induction =>
      cases event with
      | rosterSnapshot items =>
          simp only [List.filterMap_cons, eventFrame, rosterOf, List.flatMap_cons, listed,
            List.flatten_cons, induction]
      | _ => exact induction

theorem old_frames_presence (jid : String) :
    ((oldFrames env tab events).filterMap (presenceOf jid)).getLast? = lastUpdate events jid := by
  have began : (oldFrames env tab events).filterMap (presenceOf jid) =
      (events.filterMap eventFrame).filterMap (presenceOf jid) := rfl
  rw [began, List.filterMap_filterMap]
  unfold lastUpdate
  congr
  funext event
  cases event
  all_goals rfl

theorem late_frames_listed :
    (lateFrames env tab events).flatMap listed = latestRoster events := by
  have quiet := room_frames_quiet (cachesOf events) (cachesOf events).joinedRooms.entries ""
  have presences : ((cachesOf events).presence.values).flatMap listed = [] := by
    apply List.flatMap_eq_nil_iff.mpr
    intro frame member
    obtain ⟨jid, found⟩ := ((cachesOf events).presence.mem_values_iff frame).mp member
    obtain ⟨shown, status, rfl⟩ := caches_keyed events jid frame found
    rfl
  rw [lateFrames, snapshotFrames, List.flatMap_cons, List.flatMap_append, List.flatMap_append,
    quiet.1, presences, ← caches_roster]
  by_cases noRoster : (cachesOf events).roster = []
  · simp [noRoster, listed, Activity.readyFrame]
  · simp [noRoster, listed, Activity.readyFrame]

theorem late_frames_presence (jid : String) :
    ((lateFrames env tab events).filterMap (presenceOf jid)).getLast? =
      lastUpdate events jid := by
  have quiet := room_frames_quiet (cachesOf events) (cachesOf events).joinedRooms.entries jid
  have presences := values_presence (cachesOf events).presence.entries jid
    (cachesOf events).presence.distinct (by
      intro entry member
      exact caches_keyed events entry.1 entry.2
        (((cachesOf events).presence.lookup_eq_some_iff entry.1 entry.2).mpr member))
  have cached := caches_presence events jid
  unfold Dict.lookup at cached
  rw [lateFrames, snapshotFrames, List.filterMap_cons, List.filterMap_append,
    List.filterMap_append, quiet.2, Dict.values, presences, cached]
  have getsLast : (lastUpdate events jid).toList.getLast? = lastUpdate events jid := by
    cases lastUpdate events jid
    all_goals rfl
  by_cases noRoster : (cachesOf events).roster = []
  · simpa [noRoster, presenceOf, Activity.readyFrame] using getsLast
  · simpa [noRoster, presenceOf, Activity.readyFrame] using getsLast

/-- Who is in the latest roster was last listed there. -/
theorem listed_latest {jid : String} {contact : Contact}
    (found : listing (latestRoster events) jid = some contact) :
    listing (everListed events) jid = some contact := by
  unfold latestRoster everListed at *
  cases list : events.filterMap rosterOf using List.reverseRecOn with
  | nil =>
      rw [list] at found
      exact found
  | append_singleton earlier last =>
      rw [list, List.getLast?_concat, Option.getD_some] at found
      rw [List.flatten_append, List.flatten_singleton, listing_append, found, Option.some_or]

end Histories

/-- A contact that is no longer listed looks the same to both when it was last
listed the way a tab fills in for a presence. -/
theorem entry_unlisted_iff (jid : String) (contact : Contact)
    (presence : Option (Show × Option String)) :
    entryOf jid (some contact) presence = entryOf jid none presence ↔
      contact.name = jid ∧ contact.subscription = "none" ∧ ∃ last, presence = some last := by
  cases presence with
  | none => simp [entryOf]
  | some last => simp [entryOf]

/-- An old and a late tab show the same contacts exactly when nobody can tell that
a contact has vanished. -/
theorem same_contacts_iff (env : Activity.Env) (old late : Tab) (events : List Event) :
    SameContacts env old late events ↔ VanishedUnnoticed events := by
  unfold SameContacts VanishedUnnoticed
  simp only [contacts_of_lookup, old_frames_listed, old_frames_presence, late_frames_listed,
    late_frames_presence]
  constructor
  · intro same jid contact ever vanished
    have entries := same jid
    rw [ever, vanished] at entries
    exact (entry_unlisted_iff jid contact _).mp entries
  · intro unnoticed jid
    cases latest : listing (latestRoster events) jid with
    | some contact => rw [listed_latest events latest]
    | none =>
        cases ever : listing (everListed events) jid with
        | none => rfl
        | some contact => exact (entry_unlisted_iff jid contact _).mpr (unnoticed jid contact ever latest)

theorem removed_contact_lingers :
    ¬SameContacts ⟨Pump.alice, ⟨1, 2, 60⟩, fun _ => "alice"⟩ 0 1
      [.rosterSnapshot [⟨"bob@example.com", "Bob", "both"⟩], .rosterSnapshot []] := by
  intro same
  have entries := same "bob@example.com"
  revert entries
  decide

end PyConduit.ContactMap
