import Mathlib.Data.List.Destutter
import PyConduit.Presence

/-!
# The show reported for a contact with several devices

A stanza raises several events of slixmpp, so `_on_presence` may see it several
times in a row. What the last PresenceUpdate of a contact shows is determined by
the last stanza of each of its resources alone.
-/

namespace PyConduit.Presence

open Protocol Replay

set_option autoImplicit false

def report (sofar : Client × List Event) (stanza : Stanza) : Client × List Event :=
  let handled := onPresence sofar.1 stanza
  (handled.1, sofar.2 ++ handled.2.toList)

def reported (bare : String) (joinedRooms : Dict String String) (stanzas : List Stanza) :
    Client × List Event :=
  stanzas.foldl report (⟨bare, joinedRooms, .empty⟩, [])

def updateOf (contact : String) : Event → Option (Show × Option String)
  | .presenceUpdate jid shown status => if jid = contact then some (shown, status) else none
  | _ => none

def lastUpdate (events : List Event) (contact : String) : Option (Show × Option String) :=
  (events.filterMap (updateOf contact)).getLast?

def availability : List Show := [.online, .away, .xa, .dnd]

/-- What the last stanzas of its resources say about a contact. -/
structure Aggregated (stanzas : List Stanza) (contact : String) (shown : Show) : Prop where
  offline : shown = .offline ↔
    ∀ resource stanza, lastFrom stanzas ⟨contact, resource⟩ = some stanza →
      stanza.kind = "unavailable"
  sent : shown ≠ .offline → ∃ resource, lastShow stanzas ⟨contact, resource⟩ = some shown
  best : shown ≠ .offline → ∀ resource other, lastShow stanzas ⟨contact, resource⟩ = some other →
    availability.idxOf shown ≤ availability.idxOf other

/-- Each device sent the same stanzas in the same order, up to repetitions. -/
def SameFromEachDevice (first second : List Stanza) : Prop :=
  ∀ sender : Jid, (first.filter fun stanza => stanza.sender = sender).destutter (· ≠ ·) =
    (second.filter fun stanza => stanza.sender = sender).destutter (· ≠ ·)

theorem show_priority_of_available {shown : Show} (available : shown ≠ .offline) :
    showPriority shown = availability.idxOf shown := by
  cases shown with
  | offline => exact absurd rfl available
  | online | away | dnd | xa => rfl

theorem availability_injective {first second : Show} (available : first ≠ .offline)
    (same : availability.idxOf first = availability.idxOf second) : first = second := by
  have listed : first ∈ availability := by
    cases first with
    | offline => exact absurd rfl available
    | online | away | dnd | xa => decide
  exact (List.idxOf_inj listed).mp same

section Repetitions

variable {Item : Type*} [DecidableEq Item]

theorem get_last_destutter_from (first : Item) (items : List Item) :
    (items.destutter' (· ≠ ·) first).getLast? = (first :: items).getLast? := by
  induction items generalizing first with
  | nil => rfl
  | cons next rest induction =>
      by_cases differs : first ≠ next
      · rw [List.destutter'_cons_pos _ differs, List.getLast?_cons, induction]
        simp [List.getLast?_cons]
      · have same : first = next := by simpa using differs
        rw [List.destutter'_cons_neg _ differs, induction, same]
        simp [List.getLast?_cons]

theorem get_last_destutter (items : List Item) :
    (items.destutter (· ≠ ·)).getLast? = items.getLast? := by
  cases items with
  | nil => rfl
  | cons first rest => exact get_last_destutter_from first rest

theorem mem_of_mem_from {item : Item} (first : Item) (items : List Item)
    (member : item ∈ first :: items) : item ∈ items.destutter' (· ≠ ·) first := by
  induction items generalizing first with
  | nil => exact member
  | cons next rest induction =>
      by_cases differs : first ≠ next
      · rw [List.destutter'_cons_pos _ differs]
        rcases List.mem_cons.mp member with same | later
        · exact same ▸ List.mem_cons_self
        · exact List.mem_cons_of_mem first (induction next later)
      · have same : first = next := by simpa using differs
        rw [List.destutter'_cons_neg _ differs]
        apply induction first
        rw [← same] at member
        simpa using member

theorem mem_destutter_iff {item : Item} (items : List Item) :
    item ∈ items.destutter (· ≠ ·) ↔ item ∈ items := by
  constructor
  · intro member
    exact (List.destutter_sublist _ items).subset member
  · intro member
    cases items with
    | nil => cases member
    | cons first rest => exact mem_of_mem_from first rest member

end Repetitions

theorem mem_same {first second : List Stanza} (same : SameFromEachDevice first second)
    (stanza : Stanza) : stanza ∈ first ↔ stanza ∈ second := by
  have sent := same stanza.sender
  have among : ∀ stanzas : List Stanza, stanza ∈ stanzas ↔
      stanza ∈ (stanzas.filter fun other => other.sender = stanza.sender).destutter (· ≠ ·) := by
    intro stanzas
    simp [mem_destutter_iff]
  rw [among first, among second, sent]

theorem last_from_same {first second : List Stanza} (same : SameFromEachDevice first second)
    (sender : Jid) : lastFrom first sender = lastFrom second sender := by
  unfold lastFrom
  rw [← get_last_destutter, same sender, get_last_destutter]

theorem last_show_same {first second : List Stanza} (same : SameFromEachDevice first second)
    (sender : Jid) : lastShow first sender = lastShow second sender := by
  unfold lastShow
  rw [last_from_same same]

theorem aggregated_unique {first second : List Stanza} {contact : String} {shown other : Show}
    (same : SameFromEachDevice first second) (here : Aggregated first contact shown)
    (there : Aggregated second contact other) : shown = other := by
  have bothOffline : shown = .offline ↔ other = .offline := by
    rw [here.offline, there.offline]
    simp only [last_from_same same]
  by_cases offline : shown = .offline
  · rw [offline, bothOffline.mp offline]
  · have alsoAvailable : other ≠ .offline := fun gone => offline (bothOffline.mpr gone)
    obtain ⟨resource, shows⟩ := here.sent offline
    obtain ⟨otherResource, otherShows⟩ := there.sent alsoAvailable
    apply availability_injective offline
    apply Nat.le_antisymm
    · apply here.best offline otherResource
      rw [last_show_same same]
      exact otherShows
    · apply there.best alsoAvailable resource
      rw [← last_show_same same]
      exact shows

section Reports

variable {bare : String} {joinedRooms : Dict String String}

theorem reported_append (stanzas : List Stanza) (stanza : Stanza) :
    reported bare joinedRooms (stanzas ++ [stanza]) =
      report (reported bare joinedRooms stanzas) stanza :=
  List.foldl_concat ..

theorem reported_client (stanzas : List Stanza) :
    (reported bare joinedRooms stanzas).1 =
      (run bare joinedRooms (stanzas.map .stanza)).client := by
  induction stanzas using List.reverseRecOn with
  | nil => rfl
  | append_singleton earlier stanza induction =>
      rw [reported_append, List.map_append]
      unfold run at induction ⊢
      rw [List.map_singleton, List.foldl_concat]
      simp only [report, step, induction]

theorem contact_stanzas_all {stanzas : List Stanza}
    (contacts : ∀ stanza ∈ stanzas, FromContact bare joinedRooms stanza) :
    contactStanzas bare joinedRooms (stanzas.map .stanza) = stanzas := by
  induction stanzas with
  | nil => rfl
  | cons stanza rest induction =>
      rw [List.forall_mem_cons] at contacts
      simp only [contactStanzas, List.map_cons, List.filterMap_cons, if_pos contacts.1]
      congr
      exact induction contacts.2

theorem reported_resources {stanzas : List Stanza}
    (contacts : ∀ stanza ∈ stanzas, FromContact bare joinedRooms stanza)
    (contact resource : String) :
    (resourcesOf (reported bare joinedRooms stanzas).1 contact).lookup resource =
      lastShow stanzas ⟨contact, resource⟩ := by
  have tracks := run_tracks bare joinedRooms (stanzas.map .stanza)
  rw [contact_stanzas_all contacts] at tracks
  rw [reported_client]
  exact tracks.resources contact resource

theorem last_update_append (events : List Event) (jid : String) (shown : Show)
    (status : Option String) (contact : String) :
    lastUpdate (events ++ [.presenceUpdate jid shown status]) contact =
      if jid = contact then some (shown, status) else lastUpdate events contact := by
  unfold lastUpdate
  rw [List.filterMap_append]
  by_cases same : jid = contact
  · simp [updateOf, same]
  · simp [updateOf, same]

theorem last_update_reported {stanzas : List Stanza}
    (contacts : ∀ stanza ∈ stanzas, FromContact bare joinedRooms stanza) {contact : String}
    (spoke : ∃ stanza ∈ stanzas, stanza.sender.bare = contact) :
    ∃ text, lastUpdate (reported bare joinedRooms stanzas).2 contact =
      some (aggregate (resourcesOf (reported bare joinedRooms stanzas).1 contact) text) := by
  induction stanzas using List.reverseRecOn with
  | nil =>
      obtain ⟨stanza, member, _⟩ := spoke
      cases member
  | append_singleton earlier stanza induction =>
      have contactsBefore : ∀ stanza ∈ earlier, FromContact bare joinedRooms stanza :=
        fun stanza member => contacts stanza (List.mem_append_left _ member)
      have isContact : FromContact (reported bare joinedRooms earlier).1.bare
          (reported bare joinedRooms earlier).1.joinedRooms stanza := by
        have filter := run_client bare joinedRooms (earlier.map .stanza)
        rw [reported_client, filter.1, filter.2]
        exact contacts stanza (List.mem_append_right _ (List.mem_singleton_self _))
      rw [reported_append]
      simp only [report, on_presence_contact isContact, Option.toList_some, last_update_append]
      by_cases same : stanza.sender.bare = contact
      · refine ⟨stanza.status, ?_⟩
        rw [if_pos same, resourcesOf, Dict.lookup_set_item, if_pos same.symm]
        rfl
      · rw [if_neg same, resourcesOf, Dict.lookup_set_item, if_neg (Ne.symm same)]
        apply induction contactsBefore
        obtain ⟨speaker, member, speaks⟩ := spoke
        rcases List.mem_append.mp member with before | last
        · exact ⟨speaker, before, speaks⟩
        · rw [List.mem_singleton.mp last] at speaks
          exact absurd speaks same

theorem last_show_none_iff {stanzas : List Stanza} {sender : Jid} :
    lastShow stanzas sender = none ↔
      ∀ stanza, lastFrom stanzas sender = some stanza → stanza.kind = "unavailable" := by
  unfold lastShow
  cases lastFrom stanzas sender with
  | none => simp
  | some stanza => simp

/-- The minimum over a table that says what the last stanzas say. -/
theorem aggregate_aggregated {stanzas : List Stanza} {contact : String}
    {resources : Dict String Show}
    (tracks : ∀ resource, resources.lookup resource = lastShow stanzas ⟨contact, resource⟩)
    (text : String) : Aggregated stanzas contact (aggregate resources text).1 := by
  have present : ∀ resource shown, resources.lookup resource = some shown → shown ≠ .offline := by
    intro resource shown found
    rw [tracks] at found
    exact last_show_not_offline found
  constructor
  case offline =>
    rw [← not_iff_not, ← ne_eq, aggregate_offline_iff text present]
    simp only [← last_show_none_iff, ← tracks, not_forall, Option.ne_none_iff_exists', ← ne_eq]
  case sent =>
    intro available
    unfold aggregate at available ⊢
    cases best : resources.values.argmin showPriority with
    | none => simp [best] at available
    | some shown =>
        obtain ⟨resource, found⟩ := (resources.mem_values_iff shown).mp (List.argmin_mem best)
        exact ⟨resource, tracks resource ▸ found⟩
  case best =>
    intro available resource other shows
    rw [← show_priority_of_available available,
      ← show_priority_of_available (last_show_not_offline shows)]
    unfold aggregate at available ⊢
    cases best : resources.values.argmin showPriority with
    | none => simp [best] at available
    | some shown =>
        rw [← tracks] at shows
        have member := (resources.mem_values_iff other).mpr ⟨resource, shows⟩
        exact List.le_of_mem_argmin member best

end Reports

/-- The last PresenceUpdate of a contact shows the most available of its resources
by their last stanzas, or offline when there is none, and so it does after every
other history in which each device sent the same. -/
theorem last_update_aggregates (bare : String) (joinedRooms : Dict String String)
    (stanzas : List Stanza) (contact : String)
    (contacts : ∀ stanza ∈ stanzas, FromContact bare joinedRooms stanza)
    (spoke : ∃ stanza ∈ stanzas, stanza.sender.bare = contact) :
    ∃ shown status,
      lastUpdate (reported bare joinedRooms stanzas).2 contact = some (shown, status) ∧
      Aggregated stanzas contact shown ∧
      ∀ others, SameFromEachDevice stanzas others →
        ∃ status, lastUpdate (reported bare joinedRooms others).2 contact =
          some (shown, status) := by
  obtain ⟨text, updated⟩ := last_update_reported contacts spoke
  have aggregated := aggregate_aggregated (reported_resources contacts contact) text
  generalize aggregate (resourcesOf (reported bare joinedRooms stanzas).1 contact) text = last
    at updated aggregated
  refine ⟨last.1, last.2, updated, aggregated, ?_⟩
  intro others same
  have otherContacts : ∀ stanza ∈ others, FromContact bare joinedRooms stanza :=
    fun stanza member => contacts stanza ((mem_same same stanza).mpr member)
  have otherSpoke : ∃ stanza ∈ others, stanza.sender.bare = contact := by
    obtain ⟨stanza, member, speaks⟩ := spoke
    exact ⟨stanza, (mem_same same stanza).mp member, speaks⟩
  obtain ⟨otherText, otherUpdated⟩ := last_update_reported otherContacts otherSpoke
  have otherAggregated :=
    aggregate_aggregated (reported_resources otherContacts contact) otherText
  rw [aggregated_unique same aggregated otherAggregated]
  exact ⟨_, otherUpdated⟩

/-- Two devices of one contact, of which one leaves and is handled twice. -/
theorem bob_stays_away_on_his_tablet :
    let tablet : Stanza := ⟨⟨"bob@example.com", "tablet"⟩, "away", "away", "lunch", false⟩
    let stanzas := [bobsPhone "available", tablet, bobsPhone "unavailable",
      bobsPhone "unavailable"]
    ∃ shown status,
      lastUpdate (reported "alice@example.com" .empty stanzas).2 "bob@example.com" =
        some (shown, status) ∧
      Aggregated stanzas "bob@example.com" shown ∧
      ∀ others, SameFromEachDevice stanzas others →
        ∃ status, lastUpdate (reported "alice@example.com" .empty others).2 "bob@example.com" =
          some (shown, status) := by
  intro tablet stanzas
  apply last_update_aggregates "alice@example.com" .empty stanzas "bob@example.com"
  · decide
  · exact ⟨tablet, by decide, rfl⟩

end PyConduit.Presence
