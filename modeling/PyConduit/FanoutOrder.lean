import PyConduit.Fanout

/-!
# Broadcasts in turn

When no broadcast sends to a member that an earlier one still has ahead, every
member gets the broadcasts in the order of their numbers, and the last item of a
topic that a member got is the latest one.
-/

namespace PyConduit.Fanout

open GuardedRun

set_option autoImplicit false

variable {Member Item : Type*}

def Clear (fanout : Fanout Member Item) (member : Member) (number : Nat) : Prop :=
  ∀ earlier < number, ¬fanout.Ahead member earlier

def AdvanceClear (fanout : Fanout Member Item) (number : Nat) : Prop :=
  ∀ next ahead, fanout.unfinished number = some (next :: ahead) → fanout.Clear next number

section Order

variable [DecidableEq Member] {fanout : Fanout Member Item}

structure Ordered (fanout : Fanout Member Item) : Prop where
  increasing : ∀ member, (fanout.numbersOf member).Pairwise (· < ·)
  behind : ∀ member number, fanout.Ahead member number →
    ∀ earlier ∈ fanout.numbersOf member, earlier < number

theorem ordered_idle (members : List Member) (earlier : List (Member × Item)) :
    (idle members earlier).Ordered := by
  have nothing : ∀ member, (idle members earlier).numbersOf member = [] := by
    intro member
    simp [idle, numbersOf, List.filterMap_map]
  constructor
  · intro member
    rw [nothing]
    exact List.Pairwise.nil
  · rintro member number ⟨ahead, found, _⟩
    cases found

theorem numbers_of_append (earlier : List (Member × Option Nat × Item)) (member other : Member)
    (number : Option Nat) (item : Item) (begun : List (Item × List Member))
    (members : List Member) (unfinished : Nat → Option (List Member)) :
    numbersOf ⟨members, begun, unfinished, earlier ++ [(other, number, item)]⟩ member =
      numbersOf ⟨members, begun, unfinished, earlier⟩ member ++
        if other = member then number.toList else [] := by
  unfold numbersOf
  rw [List.filterMap_append]
  by_cases same : other = member
  · cases number
    all_goals simp [same]
  · simp [same]

theorem Ordered.join (ordered : fanout.Ordered) (member : Member) :
    (fanout.join member).Ordered :=
  ⟨ordered.increasing, ordered.behind⟩

theorem Ordered.quit (ordered : fanout.Ordered) (member : Member) :
    (fanout.quit member).Ordered :=
  ⟨ordered.increasing, ordered.behind⟩

theorem Ordered.direct (ordered : fanout.Ordered) (member : Member) (item : Item) :
    (fanout.direct member item).Ordered := by
  have same : ∀ other, (fanout.direct member item).numbersOf other = fanout.numbersOf other := by
    intro other
    apply (numbers_of_append ..).trans
    by_cases same : member = other
    · simp [same, numbersOf]
    · simp [same, numbersOf]
  constructor
  · intro other
    rw [same]
    exact ordered.increasing other
  · intro other number ahead
    rw [same]
    exact ordered.behind other number ahead

theorem Ordered.opened (ordered : fanout.Ordered) (sound : fanout.Sound) (item : Item)
    (order : List Member) : (fanout.opened item order).Ordered := by
  refine ⟨ordered.increasing, ?_⟩
  rintro member number ⟨ahead, found, among⟩ earlier sentEarlier
  by_cases last : number = fanout.begun.length
  · subst last
    obtain ⟨send, sends, numbered⟩ := List.mem_filterMap.mp sentEarlier
    rw [Option.ite_none_right_eq_some] at numbered
    obtain ⟨_, begun⟩ := sound.items send sends earlier numbered.2
    exact (List.getElem?_eq_some_iff.mp begun).1
  · apply ordered.behind member number _ earlier sentEarlier
    refine ⟨ahead, ?_, among⟩
    simpa only [Fanout.opened, Function.update_of_ne last] using found

theorem Ordered.advance (ordered : fanout.Ordered) (sound : fanout.Sound) (number : Nat)
    (clear : fanout.AdvanceClear number) : (fanout.advance number).Ordered := by
  rcases advance_cases sound number with ⟨ends, _⟩ | ⟨item, order, next, ahead, _, waits, moves⟩
  · have same : ∀ member, (fanout.advance number).numbersOf member = fanout.numbersOf member := by
      intro member
      rw [ends]
      rfl
    constructor
    · intro member
      rw [same]
      exact ordered.increasing member
    · intro member other waiting
      rw [same]
      exact ordered.behind member other (ahead_of_advance sound waiting)
  · have turn : fanout.Ahead next number := ⟨next :: ahead, waits, List.mem_cons_self⟩
    have grows : ∀ member, (fanout.advance number).numbersOf member =
        fanout.numbersOf member ++ if next = member then [number] else [] := by
      intro member
      rw [moves]
      exact numbers_of_append ..
    constructor
    · intro member
      rw [grows]
      by_cases same : next = member
      · subst same
        rw [if_pos rfl]
        apply List.pairwise_append.mpr
        refine ⟨ordered.increasing next, List.pairwise_singleton _ _, ?_⟩
        intro earlier sentEarlier last member
        rw [List.mem_singleton.mp member]
        exact ordered.behind next number turn earlier sentEarlier
      · rw [if_neg same, List.append_nil]
        exact ordered.increasing member
    · intro member other waiting earlier sentEarlier
      obtain ⟨before, passed⟩ := (ahead_advance_iff sound).mp waiting
      rw [grows] at sentEarlier
      by_cases same : next = member
      · subst same
        have differs := passed ahead waits
        have later : number < other := by
          by_contra notLater
          exact clear next ahead waits other (by omega) before
        rw [if_pos rfl] at sentEarlier
        rcases List.mem_append.mp sentEarlier with old | new
        · exact ordered.behind next other before earlier old
        · rw [List.mem_singleton.mp new]
          exact later
      · rw [if_neg same, List.append_nil] at sentEarlier
        exact ordered.behind member other before earlier sentEarlier

end Order

section Topic

variable {fanout : Fanout Member Item} (about : Item → Bool)

def latest (fanout : Fanout Member Item) : Option Item :=
  ((fanout.begun.map Prod.fst).filter about).getLast?

variable {about}

theorem latest_opened (item : Item) (order : List Member) :
    (fanout.opened item order).latest about =
      if about item then some item else fanout.latest about := by
  unfold latest opened
  cases isAbout : about item
  all_goals simp [isAbout, List.filter_append]

theorem latest_from {begun : List (Item × List Member)} {number : Nat} {item : Item}
    {order : List Member} (found : begun[number]? = some (item, order))
    (isAbout : about item = true) :
    ∃ later, number ≤ later ∧ later < begun.length ∧
      begun[later]?.map Prod.fst = ((begun.map Prod.fst).filter about).getLast? := by
  induction begun using List.reverseRecOn with
  | nil => cases found
  | append_singleton begun last induction =>
      cases lastAbout : about last.1 with
      | true =>
          have bound := (List.getElem?_eq_some_iff.mp found).1
          rw [List.length_append, List.length_singleton] at bound
          refine ⟨begun.length, by omega, by simp, ?_⟩
          simp [lastAbout, List.filter_append]
      | false =>
          by_cases atEnd : number = begun.length
          · subst atEnd
            rw [List.getElem?_concat_length, Option.some.injEq] at found
            rw [found, isAbout] at lastAbout
            cases lastAbout
          · have bound := (List.getElem?_eq_some_iff.mp found).1
            rw [List.length_append, List.length_singleton] at bound
            rw [List.getElem?_append_left (by omega)] at found
            obtain ⟨later, notBefore, inside, same⟩ := induction found
            refine ⟨later, notBefore, by simp; omega, ?_⟩
            rw [List.getElem?_append_left inside, same]
            simp [lastAbout, List.filter_append]

variable [DecidableEq Member] (about)

def lastTo (fanout : Fanout Member Item) (member : Member) : Option Item :=
  ((fanout.sent.filter (·.1 = member)).map (·.2.2)).filter about |>.getLast?

/-- A member that a broadcast has ahead has all later ones ahead, and what it got
last about the topic is the latest item or will be replaced by it. -/
structure Current (fanout : Fanout Member Item) : Prop where
  caughtUp : ∀ member ∈ fanout.members, ∀ number, fanout.Ahead member number →
    ∀ later, number < later → later < fanout.begun.length → fanout.Ahead member later
  shown : ∀ member ∈ fanout.members, ∀ item, fanout.lastTo about member = some item →
    fanout.latest about = some item ∨
      ∃ number, fanout.Ahead member number ∧
        (fanout.begun[number]?.map Prod.fst) = fanout.latest about

variable {about}

theorem current_idle (members : List Member) :
    (@idle Member Item members []).Current about := by
  constructor
  · rintro member _ number ⟨ahead, found, _⟩
    cases found
  · intro member _ item found
    simp [idle, lastTo] at found

theorem last_to_append (earlier : List (Member × Option Nat × Item)) (member other : Member)
    (number : Option Nat) (item : Item) (begun : List (Item × List Member))
    (members : List Member) (unfinished : Nat → Option (List Member)) :
    lastTo about ⟨members, begun, unfinished, earlier ++ [(other, number, item)]⟩ member =
      if other = member ∧ about item then some item
      else lastTo about ⟨members, begun, unfinished, earlier⟩ member := by
  unfold lastTo
  by_cases same : other = member
  · cases isAbout : about item
    all_goals simp [same, isAbout, List.filter_append]
  · simp [same, List.filter_append]

theorem Current.join (current : fanout.Current about) {member : Member}
    (absent : ∀ number, ¬fanout.Ahead member number)
    (unsent : fanout.lastTo about member = none) : (fanout.join member).Current about := by
  constructor
  · intro other among number ahead
    rcases List.mem_insert_iff.mp among with same | before
    · exact absurd ahead (same ▸ absent number)
    · exact current.caughtUp other before number ahead
  · intro other among item found
    rcases List.mem_insert_iff.mp among with same | before
    · subst same
      exact absurd (unsent.symm.trans found) (by simp)
    · exact current.shown other before item found

theorem Current.quit (current : fanout.Current about) (member : Member) :
    (fanout.quit member).Current about := by
  constructor
  · intro other among
    exact current.caughtUp other (List.mem_of_mem_filter among)
  · intro other among
    exact current.shown other (List.mem_of_mem_filter among)

/-- What is sent to one member alone is the latest item or about something else. -/
theorem Current.direct (current : fanout.Current about) (member : Member) {item : Item}
    (upToDate : about item = true → fanout.latest about = some item) :
    (fanout.direct member item).Current about := by
  constructor
  · exact current.caughtUp
  · intro other among last found
    unfold Fanout.direct at found
    rw [last_to_append] at found
    split at found
    · next shows =>
        cases found
        exact Or.inl (upToDate shows.2)
    · exact current.shown other among last found

theorem Current.opened (current : fanout.Current about) (sound : fanout.Sound) (item : Item)
    {order : List Member} (enumerated : order.Perm fanout.members) :
    (fanout.opened item order).Current about := by
  constructor
  · intro member among number ahead later after before
    rw [ahead_opened_iff] at ahead ⊢
    simp only [Fanout.opened, List.length_append, List.length_singleton] at before
    split_ifs with last
    · exact enumerated.mem_iff.mpr among
    · rw [if_neg (by omega)] at ahead
      exact current.caughtUp member among number ahead later after (by omega)
  · intro member among last found
    have before := current.shown member among last found
    rw [latest_opened]
    cases isAbout : about item with
    | true =>
        refine Or.inr ⟨fanout.begun.length, ?_, ?_⟩
        · rw [ahead_opened_iff, if_pos rfl]
          exact enumerated.mem_iff.mpr among
        · simp [Fanout.opened]
    | false =>
        simp only [Bool.false_eq_true, if_false]
        rcases before with upToDate | ⟨number, ahead, latestOne⟩
        · exact Or.inl upToDate
        · have bound := begun_of_ahead sound ahead
          refine Or.inr ⟨number, ?_, ?_⟩
          · rw [ahead_opened_iff, if_neg (by omega)]
            exact ahead
          · rw [← latestOne, Fanout.opened, List.getElem?_append_left bound]

theorem Current.advance (current : fanout.Current about) (sound : fanout.Sound) (number : Nat)
    (clear : fanout.AdvanceClear number) : (fanout.advance number).Current about := by
  have latestSame : (fanout.advance number).latest about = fanout.latest about := by
    simp only [latest, begun_advance]
  rcases advance_cases sound number with ⟨ends, empty⟩ | ⟨item, order, next, left, found, waits, moves⟩
  · -- nobody was ahead of a broadcast that ends
    have same : ∀ member other, fanout.Ahead member other → (fanout.advance number).Ahead member other :=
      fun member other ahead => (ahead_advance_iff sound).mpr
        ⟨ahead, fun rest waits => absurd waits (empty member rest)⟩
    have members : (fanout.advance number).members = fanout.members := by rw [ends]
    constructor
    · intro member among other ahead later after before
      rw [members] at among
      rw [begun_advance] at before
      exact same _ _ (current.caughtUp member among other (ahead_of_advance sound ahead) later after
        before)
    · intro member among last shows
      rw [latestSame, begun_advance]
      rw [ends] at among shows
      rcases current.shown member among last shows with upToDate | ⟨other, ahead, latestOne⟩
      · exact Or.inl upToDate
      · exact Or.inr ⟨other, same _ _ ahead, latestOne⟩
  · have turn : fanout.Ahead next number := ⟨next :: left, waits, List.mem_cons_self⟩
    have same : ∀ member other, other ≠ number ∨ member ≠ next → fanout.Ahead member other →
        (fanout.advance number).Ahead member other := by
      intro member other differs ahead
      refine (ahead_advance_iff sound).mpr ⟨ahead, ?_⟩
      rintro rest again rfl
      cases waits.symm.trans again
      exact differs.elim (fun apart => apart rfl) (fun apart => apart rfl)
    have members : (fanout.advance number).members = fanout.members := by rw [moves]
    constructor
    · intro member among other ahead later after before
      rw [members] at among
      rw [begun_advance] at before
      obtain ⟨still, passed⟩ := (ahead_advance_iff sound).mp ahead
      apply same member later _ (current.caughtUp member among other still later after before)
      by_cases isNext : member = next
      · subst isNext
        have differs := passed left waits
        have notEarlier : ¬other < number := fun less => clear member left waits other less still
        exact Or.inl (by omega)
      · exact Or.inr isNext
    · intro member among last shows
      rw [members] at among
      rw [latestSame, begun_advance]
      rw [moves, last_to_append] at shows
      split at shows
      · next sends =>
          obtain ⟨rfl, isAbout⟩ := sends
          cases shows
          obtain ⟨later, notBefore, inside, latestOne⟩ := latest_from found isAbout
          by_cases isLast : later = number
          · subst isLast
            left
            rw [latest, ← latestOne, found]
            rfl
          · right
            refine ⟨later, ?_, latestOne⟩
            apply same next later (Or.inl isLast)
            exact current.caughtUp next among number turn later (by omega) inside
      · next sends =>
          rcases current.shown member among last shows with upToDate | ⟨other, ahead, latestOne⟩
          · exact Or.inl upToDate
          · right
            refine ⟨other, ?_, latestOne⟩
            apply same member other _ ahead
            by_contra bothSame
            rw [not_or, not_not, not_not] at bothSame
            obtain ⟨rfl, rfl⟩ := bothSame
            rw [found] at latestOne
            have isAbout : about item = true := by
              have among := List.mem_of_getLast? latestOne.symm
              exact (List.mem_filter.mp among).2
            exact sends ⟨rfl, isAbout⟩

/-- Once all broadcasts are over, a member has the latest item or never got one. -/
theorem Current.settled (current : fanout.Current about) (settled : fanout.Settled)
    {member : Member} (among : member ∈ fanout.members) {item : Item}
    (found : fanout.lastTo about member = some item) : fanout.latest about = some item := by
  rcases current.shown member among item found with upToDate | ⟨number, ⟨ahead, left, _⟩, _⟩
  · exact upToDate
  · rw [settled number] at left
    cases left

end Topic

section Turns

variable [DecidableEq Member] {fanout final : Fanout Member Item}

/-- A broadcast turns to a member that no earlier one has ahead. -/
def InTurn (fanout : Fanout Member Item) : Move Member Item → Prop
  | .begin item order => (fanout.opened item order).AdvanceClear fanout.begun.length
  | .advance number => fanout.AdvanceClear number
  | _ => True

/-- Who joins got nothing about the topic so far and is ahead of no broadcast, and
what is sent about the topic to one member alone is the latest item. -/
def UpToDate (about : Item → Bool) (fanout : Fanout Member Item) : Move Member Item → Prop
  | .join member => (∀ number, ¬fanout.Ahead member number) ∧ fanout.lastTo about member = none
  | .direct _ item => about item = true → fanout.latest about = some item
  | _ => True

structure Kept (about : Item → Bool) (fanout : Fanout Member Item) : Prop where
  sound : fanout.Sound
  ordered : fanout.Ordered
  current : fanout.Current about

structure Allowed (about : Item → Bool) (fanout : Fanout Member Item)
    (move : Move Member Item) : Prop where
  enumerates : fanout.Enumerates move
  inTurn : fanout.InTurn move
  upToDate : fanout.UpToDate about move

theorem Kept.step {about : Item → Bool} (kept : fanout.Kept about) {move : Move Member Item}
    (allowed : fanout.Allowed about move) (fired : fanout.step move = some final) :
    final.Kept about := by
  obtain ⟨sound, ordered, current⟩ := kept
  cases move
  all_goals cases fired
  case join member =>
      have fresh := allowed.upToDate
      exact ⟨sound.join member, ordered.join member, current.join fresh.1 fresh.2⟩
  case quit member => exact ⟨sound.quit member, ordered.quit member, current.quit member⟩
  case direct member item =>
      exact ⟨sound.direct member item, ordered.direct member item,
        current.direct member allowed.upToDate⟩
  case begin item order =>
      have opened := sound.opened item allowed.enumerates
      have clear := allowed.inTurn
      exact ⟨opened.advance _, (ordered.opened sound item order).advance opened _ clear,
        (current.opened sound item allowed.enumerates).advance opened _ clear⟩
  case advance number =>
      exact ⟨sound.advance number, ordered.advance sound number allowed.inTurn,
        current.advance sound number allowed.inTurn⟩

theorem kept_run {about : Item → Bool} (kept : fanout.Kept about)
    {moves : List (Move Member Item)} (allowed : Conforms Fanout.step (Allowed about) fanout moves)
    (run : replay Fanout.step fanout moves = some final) : final.Kept about :=
  run_invariant (fun _ _ _ permitted holds fired => holds.step permitted fired) kept allowed run

end Turns

end PyConduit.Fanout
