import PyConduit.PresenceReports

/-!
# The status reported for a contact with several devices

`_on_presence` takes the show from all devices of a contact and the status from the
stanza it handles, whichever device sent it and whether it has left. The two are the
pair of one device as long as every stanza says what a most available device says.
-/

namespace PyConduit.Presence

open Protocol Replay

set_option autoImplicit false

def statusOf (stanza : Stanza) : Option String :=
  if stanza.status = "" then none else some stanza.status

/-- The stanzas that are neither ours nor a room's. -/
def heard (bare : String) (joinedRooms : Dict String String) (stanzas : List Stanza) :
    List Stanza :=
  stanzas.filter fun stanza => FromContact bare joinedRooms stanza

/-- The last stanza of an available device of the contact, than which no other
available device has a better show. -/
structure MostAvailable (stanzas : List Stanza) (contact : String) (stanza : Stanza) : Prop where
  last : ∃ resource, lastFrom stanzas ⟨contact, resource⟩ = some stanza
  available : stanza.kind ≠ "unavailable"
  best : ∀ resource other, lastShow stanzas ⟨contact, resource⟩ = some other →
    availability.idxOf (shownAs stanza.shown) ≤ availability.idxOf other

/-- Whenever a contact was last reported available, the show and the status are those
of the last stanza of one most available device. -/
def PairedReports (bare : String) (joinedRooms : Dict String String) (stanzas : List Stanza) :
    Prop :=
  ∀ handled, handled <+: stanzas → ∀ contact shown status,
    lastUpdate (reported bare joinedRooms handled).2 contact = some (shown, status) →
    shown ≠ .offline →
    ∃ stanza, MostAvailable (heard bare joinedRooms handled) contact stanza ∧
      (shown, status) = (shownAs stanza.shown, statusOf stanza)

/-- Every stanza after which its contact has an available device carries the status of
the last stanza of a most available device, its own or another. -/
def SpeaksForTheBest (bare : String) (joinedRooms : Dict String String)
    (stanzas : List Stanza) : Prop :=
  ∀ earlier stanza, earlier ++ [stanza] <+: stanzas → FromContact bare joinedRooms stanza →
    (∃ resource, Available (heard bare joinedRooms (earlier ++ [stanza]))
      ⟨stanza.sender.bare, resource⟩) →
    ∃ best, MostAvailable (heard bare joinedRooms (earlier ++ [stanza])) stanza.sender.bare best ∧
      statusOf best = statusOf stanza

section Reports

variable {bare : String} {joinedRooms : Dict String String}

theorem heard_contacts (stanzas : List Stanza) :
    ∀ stanza ∈ heard bare joinedRooms stanzas, FromContact bare joinedRooms stanza := by
  intro stanza member
  exact of_decide_eq_true (List.mem_filter.mp member).2

theorem heard_contact (earlier : List Stanza) {stanza : Stanza}
    (contact : FromContact bare joinedRooms stanza) :
    heard bare joinedRooms (earlier ++ [stanza]) = heard bare joinedRooms earlier ++ [stanza] := by
  simp only [heard, List.filter_append, List.filter_singleton, decide_eq_true contact, cond_true]

theorem heard_other (earlier : List Stanza) {stanza : Stanza}
    (other : ¬FromContact bare joinedRooms stanza) :
    heard bare joinedRooms (earlier ++ [stanza]) = heard bare joinedRooms earlier := by
  simp only [heard, List.filter_append, List.filter_singleton, decide_eq_false other, cond_false,
    List.append_nil]

theorem reported_filter (stanzas : List Stanza) :
    (reported bare joinedRooms stanzas).1.bare = bare ∧
      (reported bare joinedRooms stanzas).1.joinedRooms = joinedRooms := by
  rw [reported_client]
  exact run_client bare joinedRooms _

theorem reported_other (earlier : List Stanza) {stanza : Stanza}
    (other : ¬FromContact bare joinedRooms stanza) :
    reported bare joinedRooms (earlier ++ [stanza]) = reported bare joinedRooms earlier := by
  have filter := @reported_filter bare joinedRooms earlier
  have ignored : ¬FromContact (reported bare joinedRooms earlier).1.bare
      (reported bare joinedRooms earlier).1.joinedRooms stanza := by
    rw [filter.1, filter.2]
    exact other
  rw [reported_append, report, on_presence_ignored ignored]
  simp

theorem reported_heard (stanzas : List Stanza) :
    reported bare joinedRooms (heard bare joinedRooms stanzas) =
      reported bare joinedRooms stanzas := by
  induction stanzas using List.reverseRecOn with
  | nil => rfl
  | append_singleton earlier stanza induction =>
      by_cases contact : FromContact bare joinedRooms stanza
      · rw [heard_contact earlier contact, reported_append, reported_append, induction]
      · rw [heard_other earlier contact, reported_other earlier contact, induction]

theorem resources_heard (stanzas : List Stanza) (contact resource : String) :
    (resourcesOf (reported bare joinedRooms stanzas).1 contact).lookup resource =
      lastShow (heard bare joinedRooms stanzas) ⟨contact, resource⟩ := by
  rw [← reported_heard]
  exact reported_resources (heard_contacts stanzas) contact resource

/-- The event that a contact's stanza raises. -/
theorem last_update_snoc (earlier : List Stanza) {stanza : Stanza}
    (contact : FromContact bare joinedRooms stanza) (asked : String) :
    lastUpdate (reported bare joinedRooms (earlier ++ [stanza])).2 asked =
      if stanza.sender.bare = asked then
        some (aggregate (resourcesOf (reported bare joinedRooms (earlier ++ [stanza])).1 asked)
          stanza.status)
      else lastUpdate (reported bare joinedRooms earlier).2 asked := by
  have filter := @reported_filter bare joinedRooms earlier
  have passes : FromContact (reported bare joinedRooms earlier).1.bare
      (reported bare joinedRooms earlier).1.joinedRooms stanza := by
    rw [filter.1, filter.2]
    exact contact
  rw [reported_append]
  simp only [report, on_presence_contact passes, Option.toList_some, last_update_append]
  by_cases same : stanza.sender.bare = asked
  · subst same
    rw [if_pos rfl, if_pos rfl, resourcesOf, Dict.lookup_set_item, if_pos rfl, Option.getD_some]
  · rw [if_neg same, if_neg same]

end Reports

/-- An available contact is reported with the status of the stanza. -/
theorem aggregate_status {resources : Dict String Show} {stanza : Stanza}
    (available : (aggregate resources stanza.status).1 ≠ .offline) :
    (aggregate resources stanza.status).2 = statusOf stanza := by
  unfold aggregate at available ⊢
  cases best : resources.values.argmin showPriority with
  | none => simp [best] at available
  | some shown => rfl

section Choices

variable {stanzas : List Stanza} {contact : String}

theorem MostAvailable.shows {stanza : Stanza} (most : MostAvailable stanzas contact stanza) :
    ∃ resource, lastShow stanzas ⟨contact, resource⟩ = some (shownAs stanza.shown) := by
  obtain ⟨resource, last⟩ := most.last
  refine ⟨resource, ?_⟩
  rw [lastShow, last, Option.bind_some, if_neg most.available]

/-- Most available devices show the same. -/
theorem MostAvailable.aggregated {stanza : Stanza} {shown : Show}
    (most : MostAvailable stanzas contact stanza) (aggregated : Aggregated stanzas contact shown)
    (available : shown ≠ .offline) : shown = shownAs stanza.shown := by
  apply availability_injective available
  apply Nat.le_antisymm
  · obtain ⟨resource, shows⟩ := most.shows
    exact aggregated.best available resource _ shows
  · obtain ⟨resource, shows⟩ := aggregated.sent available
    exact most.best resource shown shows

theorem MostAvailable.snoc {stanza last : Stanza} (most : MostAvailable stanzas contact stanza)
    (other : last.sender.bare ≠ contact) : MostAvailable (stanzas ++ [last]) contact stanza := by
  have differs : ∀ resource, last.sender ≠ ⟨contact, resource⟩ :=
    fun resource same => other (congrArg Jid.bare same)
  constructor
  · obtain ⟨resource, found⟩ := most.last
    refine ⟨resource, ?_⟩
    rw [last_from_append, if_neg (differs resource), found]
  · exact most.available
  · intro resource shown shows
    rw [last_show_append, if_neg (differs resource)] at shows
    exact most.best resource shown shows

end Choices

theorem Aggregated.available {stanzas : List Stanza} {contact : String} {shown : Show}
    (aggregated : Aggregated stanzas contact shown) :
    shown ≠ .offline ↔ ∃ resource, Available stanzas ⟨contact, resource⟩ := by
  rw [ne_eq, aggregated.offline]
  simp only [not_forall, Available, exists_prop]

/-- The pairs are right exactly when no stanza speaks for a device that is not among the
most available ones. -/
theorem paired_reports_iff (bare : String) (joinedRooms : Dict String String)
    (stanzas : List Stanza) :
    PairedReports bare joinedRooms stanzas ↔ SpeaksForTheBest bare joinedRooms stanzas := by
  have aggregated : ∀ handled contact text,
      Aggregated (heard bare joinedRooms handled) contact
        (aggregate (resourcesOf (reported bare joinedRooms handled).1 contact) text).1 :=
    fun handled contact text => aggregate_aggregated (resources_heard handled contact) text
  constructor
  · intro paired earlier stanza handled contact device
    have updated := last_update_snoc earlier contact stanza.sender.bare
    rw [if_pos rfl] at updated
    have available := (aggregated (earlier ++ [stanza]) stanza.sender.bare
      stanza.status).available.mpr device
    obtain ⟨best, most, same⟩ := paired _ handled _ _ _ updated available
    refine ⟨best, most, ?_⟩
    rw [← aggregate_status available]
    exact (congrArg Prod.snd same).symm
  · intro speaks handled
    induction handled using List.reverseRecOn with
    | nil =>
        intro _ contact shown status updated
        cases updated
    | append_singleton earlier stanza induction =>
        intro within contact shown status updated available
        have before := induction ((List.prefix_append earlier [stanza]).trans within)
        by_cases passes : FromContact bare joinedRooms stanza
        · rw [last_update_snoc earlier passes] at updated
          by_cases same : stanza.sender.bare = contact
          · rw [if_pos same, Option.some.injEq] at updated
            have sums := aggregated (earlier ++ [stanza]) contact stanza.status
            have carried := @aggregate_status
              (resourcesOf (reported bare joinedRooms (earlier ++ [stanza])).1 contact) stanza
            rw [updated] at sums carried
            obtain ⟨best, most, agrees⟩ :=
              speaks earlier stanza within passes (same ▸ sums.available.mp available)
            rw [same] at most
            refine ⟨best, most, ?_⟩
            rw [agrees, ← carried available, ← most.aggregated sums available]
          · rw [if_neg same] at updated
            obtain ⟨best, most, pair⟩ := before contact shown status updated available
            refine ⟨best, ?_, pair⟩
            rw [heard_contact earlier passes]
            exact most.snoc same
        · rw [reported_other earlier passes] at updated
          rw [heard_other earlier passes]
          exact before contact shown status updated available

theorem last_word_of_another_device :
    let tablet : Stanza := ⟨⟨"bob@example.com", "tablet"⟩, "available", "", "reading", false⟩
    let phone : Stanza := ⟨⟨"bob@example.com", "phone"⟩, "available", "away", "", false⟩
    let leaves : Stanza := ⟨⟨"bob@example.com", "phone"⟩, "unavailable", "", "battery empty", false⟩
    let stanzas := [tablet, phone, leaves]
    lastUpdate (reported "alice@example.com" .empty stanzas).2 "bob@example.com" =
        some (.online, some "battery empty") ∧
      ¬PairedReports "alice@example.com" .empty stanzas := by
  intro tablet phone leaves stanzas
  have updated : lastUpdate (reported "alice@example.com" .empty stanzas).2 "bob@example.com" =
      some (.online, some "battery empty") := by decide +kernel
  refine ⟨updated, ?_⟩
  intro paired
  obtain ⟨best, most, pair⟩ := paired stanzas (List.prefix_refl stanzas) _ _ _ updated (by decide)
  obtain ⟨resource, last⟩ := most.last
  have among : best ∈ stanzas := by
    have member := List.mem_of_getLast? last
    exact List.mem_of_mem_filter (List.mem_of_mem_filter member)
  have said : ∀ stanza ∈ stanzas, statusOf stanza = some "battery empty" →
      stanza.kind = "unavailable" := by decide
  exact most.available (said best among (congrArg Prod.snd pair).symm)

end PyConduit.Presence
