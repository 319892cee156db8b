import Mathlib.Data.List.Induction
import Mathlib.Data.List.Nodup
import Mathlib.Data.List.Perm.Basic
import PyConduit.GuardedRun

/-!
# Concurrent broadcasts to a changing group

A broadcast copies the members when it begins and sends its item to one after
the other, so several broadcasts may be under way at once. They are numbered in
the order in which they begin. Once a broadcast is over, every member of its order
got it once. Nothing here names a particular program.
-/

namespace PyConduit

open GuardedRun

set_option autoImplicit false

/-- `unfinished` has the members that lie ahead of a broadcast under way, without
the one whose send is awaited. A send outside of the broadcasts has no number. -/
structure Fanout (Member Item : Type*) where
  members : List Member
  begun : List (Item × List Member)
  unfinished : Nat → Option (List Member)
  sent : List (Member × Option Nat × Item)

namespace Fanout

variable {Member Item : Type*}

def idle (members : List Member) (earlier : List (Member × Item)) : Fanout Member Item where
  members := members
  begun := []
  unfinished := fun _ => none
  sent := earlier.map fun send => (send.1, none, send.2)

def join [DecidableEq Member] (fanout : Fanout Member Item) (member : Member) :
    Fanout Member Item :=
  { fanout with members := fanout.members.insert member }

def quit [DecidableEq Member] (fanout : Fanout Member Item) (member : Member) :
    Fanout Member Item :=
  { fanout with members := fanout.members.filter (· ≠ member) }

def direct (fanout : Fanout Member Item) (member : Member) (item : Item) : Fanout Member Item :=
  { fanout with sent := fanout.sent ++ [(member, none, item)] }

def advance (fanout : Fanout Member Item) (number : Nat) : Fanout Member Item :=
  match fanout.begun[number]?, fanout.unfinished number with
  | some (item, _), some (next :: ahead) =>
      { fanout with
        unfinished := Function.update fanout.unfinished number (some ahead)
        sent := fanout.sent ++ [(next, some number, item)] }
  | _, _ => { fanout with unfinished := Function.update fanout.unfinished number none }

def opened (fanout : Fanout Member Item) (item : Item) (order : List Member) :
    Fanout Member Item :=
  { fanout with
    begun := fanout.begun ++ [(item, order)]
    unfinished := Function.update fanout.unfinished fanout.begun.length (some order) }

def begin (fanout : Fanout Member Item) (item : Item) (order : List Member) :
    Fanout Member Item :=
  (fanout.opened item order).advance fanout.begun.length

def Settled (fanout : Fanout Member Item) : Prop := ∀ number, fanout.unfinished number = none

def Ahead (fanout : Fanout Member Item) (member : Member) (number : Nat) : Prop :=
  ∃ ahead, fanout.unfinished number = some ahead ∧ member ∈ ahead

def numbersOf [DecidableEq Member] (fanout : Fanout Member Item) (member : Member) : List Nat :=
  fanout.sent.filterMap fun send => if send.1 = member then send.2.1 else none

def passedBy (fanout : Fanout Member Item) (number : Nat) : List Member :=
  fanout.sent.filterMap fun send => if send.2.1 = some number then some send.1 else none

def broadcastTo [DecidableEq Member] (fanout : Fanout Member Item) (member : Member) :
    List Item :=
  fanout.sent.filterMap fun send =>
    if send.1 = member ∧ send.2.1.isSome then some send.2.2 else none

structure Sound (fanout : Fanout Member Item) : Prop where
  distinct : fanout.members.Nodup
  orders : ∀ broadcast ∈ fanout.begun, broadcast.2.Nodup
  known : ∀ number, fanout.begun.length ≤ number → fanout.unfinished number = none
  passed : ∀ number broadcast, fanout.begun[number]? = some broadcast →
    fanout.passedBy number ++ (fanout.unfinished number).getD [] = broadcast.2
  items : ∀ send ∈ fanout.sent, ∀ number, send.2.1 = some number →
    ∃ order, fanout.begun[number]? = some (send.2.2, order)

section Soundness

variable {fanout : Fanout Member Item}

theorem sound_idle {members : List Member} (distinct : members.Nodup)
    (earlier : List (Member × Item)) : (idle members earlier).Sound := by
  refine ⟨distinct, by simp [idle], by simp [idle], by simp [idle], ?_⟩
  intro send member number numbered
  obtain ⟨other, _, rfl⟩ := List.mem_map.mp member
  cases numbered

theorem Sound.join [DecidableEq Member] (sound : fanout.Sound) (member : Member) :
    (fanout.join member).Sound :=
  ⟨sound.distinct.insert, sound.orders, sound.known, sound.passed, sound.items⟩

theorem Sound.quit [DecidableEq Member] (sound : fanout.Sound) (member : Member) :
    (fanout.quit member).Sound :=
  ⟨sound.distinct.filter _, sound.orders, sound.known, sound.passed, sound.items⟩

theorem Sound.direct (sound : fanout.Sound) (member : Member) (item : Item) :
    (fanout.direct member item).Sound := by
  refine ⟨sound.distinct, sound.orders, sound.known, ?_, ?_⟩
  · intro number broadcast found
    have same : (fanout.direct member item).passedBy number = fanout.passedBy number := by
      simp [Fanout.direct, passedBy]
    rw [same]
    exact sound.passed number broadcast found
  · intro send sends number numbered
    rcases List.mem_append.mp sends with before | last
    · exact sound.items send before number numbered
    · rw [List.mem_singleton.mp last] at numbered
      cases numbered

/-- A broadcast that opens has everybody ahead, and none of its number was sent. -/
theorem Sound.opened (sound : fanout.Sound) (item : Item) {order : List Member}
    (enumerated : order.Perm fanout.members) : (fanout.opened item order).Sound := by
  have unsent : fanout.passedBy fanout.begun.length = [] := by
    apply List.filterMap_eq_nil_iff.mpr
    intro send sends
    rw [ite_eq_right_iff]
    intro numbered
    obtain ⟨_, found⟩ := sound.items send sends _ numbered
    simp at found
  refine ⟨sound.distinct, ?_, ?_, ?_, ?_⟩
  · intro broadcast member
    rcases List.mem_append.mp member with before | last
    · exact sound.orders broadcast before
    · rw [List.mem_singleton.mp last]
      exact enumerated.nodup_iff.mpr sound.distinct
  · intro number beyond
    simp only [Fanout.opened, List.length_append, List.length_singleton] at beyond
    have differs : number ≠ fanout.begun.length := by omega
    simp only [Fanout.opened, Function.update_of_ne differs]
    exact sound.known number (by omega)
  · intro number broadcast found
    have same : (fanout.opened item order).passedBy number = fanout.passedBy number := rfl
    rw [same]
    by_cases last : number = fanout.begun.length
    · subst last
      simp only [Fanout.opened, List.getElem?_concat_length, Option.some.injEq] at found
      subst found
      simp [Fanout.opened, unsent]
    · have bound := (List.getElem?_eq_some_iff.mp found).1
      simp only [Fanout.opened, List.length_append, List.length_singleton] at bound
      simp only [Fanout.opened, Function.update_of_ne last]
      apply sound.passed
      rw [← found, Fanout.opened, List.getElem?_append_left (by omega)]
  · intro send sends number numbered
    obtain ⟨order, found⟩ := sound.items send sends number numbered
    have bound := (List.getElem?_eq_some_iff.mp found).1
    exact ⟨order, by rw [Fanout.opened, List.getElem?_append_left bound, found]⟩

theorem advance_cases (sound : fanout.Sound) (number : Nat) :
    (fanout.advance number =
        { fanout with unfinished := Function.update fanout.unfinished number none } ∧
      ∀ next ahead, fanout.unfinished number ≠ some (next :: ahead)) ∨
      ∃ item order next ahead, fanout.begun[number]? = some (item, order) ∧
        fanout.unfinished number = some (next :: ahead) ∧
          fanout.advance number =
            { fanout with
              unfinished := Function.update fanout.unfinished number (some ahead)
              sent := fanout.sent ++ [(next, some number, item)] } := by
  unfold advance
  cases waits : fanout.unfinished number with
  | none => exact Or.inl ⟨by split <;> simp_all, by simp⟩
  | some left =>
      have bound : number < fanout.begun.length := by
        by_contra beyond
        rw [sound.known number (by omega)] at waits
        cases waits
      obtain ⟨⟨item, order⟩, found⟩ : ∃ broadcast, fanout.begun[number]? = some broadcast :=
        ⟨_, List.getElem?_eq_getElem bound⟩
      rw [found]
      cases left with
      | nil => exact Or.inl ⟨rfl, by simp⟩
      | cons next ahead => exact Or.inr ⟨item, order, next, ahead, rfl, rfl, rfl⟩

theorem sent_advance (fanout : Fanout Member Item) (number : Nat) :
    ∃ later, (fanout.advance number).sent = fanout.sent ++ later ∧
      ∀ send ∈ later, send.2.1 = some number := by
  unfold advance
  split
  · next item _ next _ _ _ =>
      refine ⟨[(next, some number, item)], rfl, ?_⟩
      intro send sends
      rw [List.mem_singleton.mp sends]
  · exact ⟨[], (List.append_nil _).symm, fun _ sends => by cases sends⟩

/-- The sends outside of the broadcasts. -/
def alone (fanout : Fanout Member Item) : List (Member × Item) :=
  fanout.sent.filterMap fun send => if send.2.1 = none then some (send.1, send.2.2) else none

theorem alone_advance (fanout : Fanout Member Item) (number : Nat) :
    (fanout.advance number).alone = fanout.alone := by
  obtain ⟨later, sent, numbered⟩ := sent_advance fanout number
  have nothing : (later.filterMap fun send =>
      if send.2.1 = none then some (send.1, send.2.2) else none) = [] := by
    apply List.filterMap_eq_nil_iff.mpr
    intro send sends
    simp [numbered send sends]
  unfold alone
  rw [sent, List.filterMap_append, nothing, List.append_nil]

theorem advance_eq {number : Nat} {item : Item} {order ahead : List Member}
    (found : fanout.begun[number]? = some (item, order))
    (waits : fanout.unfinished number = some ahead) :
    fanout.advance number =
      { fanout with
        unfinished := Function.update fanout.unfinished number ahead.tail?
        sent := fanout.sent ++ (ahead.head?.map fun next => (next, some number, item)).toList } := by
  unfold advance
  rw [found, waits]
  cases ahead with
  | nil => simp
  | cons next rest => rfl

theorem begin_eq (item : Item) (order : List Member) :
    fanout.begin item order =
      { fanout with
        begun := fanout.begun ++ [(item, order)]
        unfinished := Function.update fanout.unfinished fanout.begun.length order.tail?
        sent := fanout.sent ++
          (order.head?.map fun next => (next, some fanout.begun.length, item)).toList } := by
  have found : (fanout.opened item order).begun[fanout.begun.length]? = some (item, order) :=
    List.getElem?_concat_length
  have waits : (fanout.opened item order).unfinished fanout.begun.length = some order :=
    Function.update_self ..
  rw [begin, advance_eq found waits]
  simp only [opened, Function.update_idem]

@[simp] theorem begun_advance (fanout : Fanout Member Item) (number : Nat) :
    (fanout.advance number).begun = fanout.begun := by
  unfold advance
  split
  all_goals rfl

theorem passed_by_append (earlier : List (Member × Option Nat × Item)) (member : Member)
    (other number : Nat) (item : Item) (begun : List (Item × List Member))
    (members : List Member) (unfinished : Nat → Option (List Member)) :
    passedBy ⟨members, begun, unfinished, earlier ++ [(member, some other, item)]⟩ number =
      passedBy ⟨members, begun, unfinished, earlier⟩ number ++
        if other = number then [member] else [] := by
  unfold passedBy
  rw [List.filterMap_append]
  by_cases same : other = number
  · simp [same]
  · simp [same]

theorem Sound.advance (sound : fanout.Sound) (number : Nat) : (fanout.advance number).Sound := by
  rcases advance_cases sound number with ⟨ends, empty⟩ | ⟨item, order, next, ahead, found, waits, moves⟩
  · rw [ends]
    refine ⟨sound.distinct, sound.orders, ?_, ?_, sound.items⟩
    · intro other beyond
      by_cases same : other = number
      · simp [same]
      · simp only [Function.update_of_ne same]
        exact sound.known other beyond
    · intro other broadcast begun
      have before := sound.passed other broadcast begun
      by_cases same : other = number
      · subst same
        have nothing : (fanout.unfinished other).getD [] = [] := by
          cases left : fanout.unfinished other with
          | none => rfl
          | some members =>
              cases members with
              | nil => rfl
              | cons next ahead => exact absurd left (empty next ahead)
        rw [nothing] at before
        simpa [passedBy] using before
      · simp only [Function.update_of_ne same]
        exact before
  · rw [moves]
    refine ⟨sound.distinct, sound.orders, ?_, ?_, ?_⟩
    · intro other beyond
      have differs : other ≠ number := by
        rintro rfl
        rw [sound.known other beyond] at waits
        cases waits
      simp only [Function.update_of_ne differs]
      exact sound.known other beyond
    · intro other broadcast begun
      have before := sound.passed other broadcast begun
      rw [passed_by_append]
      by_cases same : number = other
      · subst same
        rw [waits] at before
        rw [if_pos rfl, List.append_assoc]
        simpa [passedBy] using before
      · rw [if_neg same, List.append_nil]
        simp only [Function.update_of_ne (Ne.symm same)]
        exact before
    · intro send sends other numbered
      rcases List.mem_append.mp sends with before | last
      · exact sound.items send before other numbered
      · rw [List.mem_singleton.mp last] at numbered ⊢
        cases numbered
        exact ⟨order, found⟩

theorem Sound.begin (sound : fanout.Sound) (item : Item) {order : List Member}
    (enumerated : order.Perm fanout.members) : (fanout.begin item order).Sound :=
  (sound.opened item enumerated).advance _

/-- The member a broadcast sends to is not ahead of it any more. -/
theorem not_ahead_twice (sound : fanout.Sound) {number : Nat} {next : Member}
    {ahead : List Member} (waits : fanout.unfinished number = some (next :: ahead)) :
    next ∉ ahead := by
  have bound : number < fanout.begun.length := by
    by_contra beyond
    rw [sound.known number (by omega)] at waits
    cases waits
  have found := List.getElem?_eq_getElem bound
  have order := sound.orders _ (List.mem_of_getElem? found)
  rw [← sound.passed number _ found, waits, Option.getD_some] at order
  exact (List.nodup_cons.mp (List.nodup_append.mp order).2.1).1

end Soundness

section Ahead

variable {fanout : Fanout Member Item}

theorem unfinished_advance (sound : fanout.Sound) (number other : Nat) :
    (fanout.advance number).unfinished other =
      if other = number then (fanout.unfinished number).bind List.tail?
      else fanout.unfinished other := by
  rcases advance_cases sound number with ⟨ends, empty⟩ | ⟨item, order, next, left, _, waits, moves⟩
  · have nothing : (fanout.unfinished number).bind List.tail? = none := by
      cases left : fanout.unfinished number with
      | none => rfl
      | some members =>
          cases members with
          | nil => rfl
          | cons next ahead => exact absurd left (empty next ahead)
    rw [ends, nothing]
    exact Function.update_apply ..
  · rw [moves, waits]
    exact Function.update_apply ..

/-- A broadcast that goes on passes the member it sends to and nobody else. -/
theorem ahead_advance_iff (sound : fanout.Sound) {number other : Nat} {member : Member} :
    (fanout.advance number).Ahead member other ↔
      fanout.Ahead member other ∧
        ∀ left, fanout.unfinished number = some (member :: left) → other ≠ number := by
  unfold Ahead
  rw [unfinished_advance sound]
  by_cases same : other = number
  · subst same
    rw [if_pos rfl]
    constructor
    · rintro ⟨ahead, rest, among⟩
      obtain ⟨members, waits, tail⟩ := Option.bind_eq_some_iff.mp rest
      cases members with
      | nil => cases tail
      | cons next left =>
          cases tail
          refine ⟨⟨next :: ahead, waits, List.mem_cons_of_mem next among⟩, ?_⟩
          intro left again _
          cases waits.symm.trans again
          exact not_ahead_twice sound waits among
    · rintro ⟨⟨members, waits, among⟩, passed⟩
      cases members with
      | nil => cases among
      | cons next left =>
          rw [waits]
          refine ⟨left, rfl, (List.mem_cons.mp among).resolve_left ?_⟩
          rintro rfl
          exact passed left waits rfl
  · rw [if_neg same]
    exact ⟨fun ahead => ⟨ahead, fun _ _ => same⟩, fun both => both.1⟩

theorem ahead_of_advance (sound : fanout.Sound) {number other : Nat} {member : Member}
    (ahead : (fanout.advance number).Ahead member other) : fanout.Ahead member other :=
  ((ahead_advance_iff sound).mp ahead).1

theorem ahead_opened_iff (item : Item) (order : List Member) (member : Member) (number : Nat) :
    (fanout.opened item order).Ahead member number ↔
      if number = fanout.begun.length then member ∈ order else fanout.Ahead member number := by
  unfold Ahead opened
  by_cases last : number = fanout.begun.length
  · simp [last]
  · simp [last]

theorem begun_of_ahead (sound : fanout.Sound) {member : Member} {number : Nat}
    (ahead : fanout.Ahead member number) : number < fanout.begun.length := by
  obtain ⟨left, found, _⟩ := ahead
  by_contra beyond
  rw [sound.known number (by omega)] at found
  cases found

end Ahead

section Complete

variable [DecidableEq Member] {fanout : Fanout Member Item}

theorem count_numbers_of (fanout : Fanout Member Item) (member : Member) (number : Nat) :
    (fanout.numbersOf member).count number = (fanout.passedBy number).count member := by
  unfold numbersOf passedBy
  induction fanout.sent with
  | nil => rfl
  | cons send sends induction =>
      obtain ⟨other, numbered, item⟩ := send
      by_cases same : other = member
      · subst same
        cases numbered with
        | none => simpa using induction
        | some earlier =>
            by_cases equal : earlier = number
            · simpa [equal] using induction
            · simpa [equal] using induction
      · by_cases equal : numbered = some number
        · simpa [same, equal] using induction
        · simpa [same, equal] using induction

/-- Once all broadcasts are over, a member of every order got each of them once. -/
theorem numbers_of_settled (sound : fanout.Sound) (settled : fanout.Settled) {member : Member}
    (throughout : ∀ broadcast ∈ fanout.begun, member ∈ broadcast.2) :
    (fanout.numbersOf member).Perm (List.range fanout.begun.length) := by
  apply List.perm_iff_count.mpr
  intro number
  rw [count_numbers_of]
  by_cases inside : number < fanout.begun.length
  · have found := List.getElem?_eq_getElem inside
    have passed := sound.passed number _ found
    have among := List.mem_of_getElem? found
    rw [settled number, Option.getD_none, List.append_nil] at passed
    rw [passed, List.count_eq_one_of_mem (sound.orders _ among) (throughout _ among)]
    exact (List.count_eq_one_of_mem List.nodup_range (List.mem_range.mpr inside)).symm
  · rw [List.count_eq_zero_of_not_mem (fun among => inside (List.mem_range.mp among))]
    apply List.count_eq_zero_of_not_mem
    intro among
    obtain ⟨send, sends, numbered⟩ := List.mem_filterMap.mp among
    obtain ⟨_, found⟩ := sound.items send sends number
      ((Option.ite_none_right_eq_some.mp numbered).1)
    exact inside (List.getElem?_eq_some_iff.mp found).1

/-- The items a member got are those of the broadcasts with the numbers it got. -/
theorem broadcast_to_eq (sound : fanout.Sound) (member : Member) :
    (fanout.broadcastTo member).map some =
      (fanout.numbersOf member).map fun number => fanout.begun[number]?.map Prod.fst := by
  have items := sound.items
  unfold broadcastTo numbersOf
  revert items
  induction fanout.sent with
  | nil => intro _; rfl
  | cons send sends induction =>
      intro items
      have later := induction fun other among => items other (List.mem_cons_of_mem send among)
      obtain ⟨other, numbered, item⟩ := send
      by_cases same : other = member
      · cases numbered with
        | none => simpa [same] using later
        | some number =>
            obtain ⟨order, found⟩ := items (other, some number, item) List.mem_cons_self number rfl
            simpa [same, found] using later
      · simpa [same] using later

theorem broadcast_to_settled (sound : fanout.Sound) (settled : fanout.Settled)
    {member : Member} (throughout : ∀ broadcast ∈ fanout.begun, member ∈ broadcast.2) :
    (fanout.broadcastTo member).Perm (fanout.begun.map Prod.fst) := by
  have all : (fanout.begun.map Prod.fst).map some =
      (List.range fanout.begun.length).map fun number => fanout.begun[number]?.map Prod.fst := by
    apply List.ext_getElem?
    intro number
    by_cases inside : number < fanout.begun.length
    · simp [inside]
    · simp [inside]
  apply (List.map_perm_map_iff (fun _ _ same => Option.some.inj same)).mp
  rw [broadcast_to_eq sound, all]
  exact (numbers_of_settled sound settled throughout).map _

end Complete

section Moves

variable [DecidableEq Member] {fanout final : Fanout Member Item}

inductive Move (Member Item : Type*)
  | join (member : Member)
  | quit (member : Member)
  | direct (member : Member) (item : Item)
  | begin (item : Item) (order : List Member)
  | advance (number : Nat)

def step (fanout : Fanout Member Item) : Move Member Item → Option (Fanout Member Item)
  | .join member => some (fanout.join member)
  | .quit member => some (fanout.quit member)
  | .direct member item => some (fanout.direct member item)
  | .begin item order => some (fanout.begin item order)
  | .advance number => some (fanout.advance number)

/-- A broadcast begins with the members there are. -/
def Enumerates (fanout : Fanout Member Item) : Move Member Item → Prop
  | .begin _ order => order.Perm fanout.members
  | _ => True

theorem Sound.step (sound : fanout.Sound) {move : Move Member Item}
    (enumerates : fanout.Enumerates move) (fired : fanout.step move = some final) :
    final.Sound := by
  cases move
  all_goals cases fired
  case join member => exact sound.join member
  case quit member => exact sound.quit member
  case direct member item => exact sound.direct member item
  case begin item order => exact sound.begin item enumerates
  case advance number => exact sound.advance number

theorem sound_run (sound : fanout.Sound) {moves : List (Move Member Item)}
    (enumerates : Conforms Fanout.step Enumerates fanout moves)
    (run : replay Fanout.step fanout moves = some final) : final.Sound :=
  run_invariant (fun _ _ _ enumerated holds fired => holds.step enumerated fired) sound
    enumerates run

def Move.begins : Move Member Item → Option (Item × List Member)
  | .begin item order => some (item, order)
  | _ => none

theorem begun_run {moves : List (Move Member Item)}
    (run : replay Fanout.step fanout moves = some final) :
    final.begun = fanout.begun ++ moves.filterMap Move.begins := by
  induction moves generalizing fanout with
  | nil =>
      cases run
      simp
  | cons move rest induction =>
      obtain ⟨middle, fired, later⟩ := replay_cons run
      rw [induction later]
      cases move with
      | begin item order =>
          cases fired
          simp [begin_eq, Move.begins]
      | advance number =>
          cases fired
          rw [begun_advance]
          rfl
      | _ =>
          cases fired
          rfl

def Move.alone : Move Member Item → Option (Member × Item)
  | .direct member item => some (member, item)
  | _ => none

theorem sent_step {move : Move Member Item} (fired : fanout.step move = some final) :
    fanout.sent <+: final.sent := by
  cases move with
  | direct member item =>
      cases fired
      exact List.prefix_append _ _
  | begin item order =>
      cases fired
      obtain ⟨later, sent, _⟩ := sent_advance (fanout.opened item order) fanout.begun.length
      exact ⟨later, sent.symm⟩
  | advance number =>
      cases fired
      obtain ⟨later, sent, _⟩ := sent_advance fanout number
      exact ⟨later, sent.symm⟩
  | _ =>
      cases fired
      exact List.prefix_rfl

theorem sent_run {moves : List (Move Member Item)}
    (run : replay Fanout.step fanout moves = some final) : fanout.sent <+: final.sent := by
  induction moves generalizing fanout with
  | nil =>
      cases run
      exact List.prefix_rfl
  | cons move rest induction =>
      obtain ⟨middle, fired, later⟩ := replay_cons run
      exact (sent_step fired).trans (induction later)

theorem alone_run {moves : List (Move Member Item)}
    (run : replay Fanout.step fanout moves = some final) :
    final.alone = fanout.alone ++ moves.filterMap Move.alone := by
  induction moves generalizing fanout with
  | nil =>
      cases run
      simp
  | cons move rest induction =>
      obtain ⟨middle, fired, later⟩ := replay_cons run
      rw [induction later]
      cases move with
      | direct member item =>
          cases fired
          simp [alone, direct, Move.alone]
      | begin item order =>
          cases fired
          exact congrArg (· ++ _) (alone_advance (fanout.opened item order) _)
      | advance number =>
          cases fired
          exact congrArg (· ++ _) (alone_advance fanout number)
      | _ =>
          cases fired
          rfl

end Moves

section Unseen

variable {fanout final : Fanout Member Item} {member : Member}

structure Unseen (fanout : Fanout Member Item) (member : Member) : Prop where
  outside : member ∉ fanout.members
  notAhead : ∀ number, ¬fanout.Ahead member number
  unsent : ∀ send ∈ fanout.sent, send.1 ≠ member

theorem Unseen.opened (unseen : fanout.Unseen member) (item : Item) {order : List Member}
    (enumerated : order.Perm fanout.members) : (fanout.opened item order).Unseen member := by
  refine ⟨unseen.outside, ?_, unseen.unsent⟩
  intro number
  rw [ahead_opened_iff]
  split_ifs
  · exact fun among => unseen.outside (enumerated.mem_iff.mp among)
  · exact unseen.notAhead number

theorem Unseen.advance (unseen : fanout.Unseen member) (sound : fanout.Sound) (number : Nat) :
    (fanout.advance number).Unseen member := by
  have still : ∀ other, ¬(fanout.advance number).Ahead member other := fun other ahead =>
    unseen.notAhead other (ahead_of_advance sound ahead)
  rcases advance_cases sound number with ⟨ends, _⟩ | ⟨item, order, next, left, _, waits, moves⟩
  · rw [ends] at still ⊢
    exact ⟨unseen.outside, still, unseen.unsent⟩
  · rw [moves] at still ⊢
    refine ⟨unseen.outside, still, ?_⟩
    intro send sends
    rcases List.mem_append.mp sends with before | last
    · exact unseen.unsent send before
    · rw [List.mem_singleton.mp last]
      rintro rfl
      exact unseen.notAhead number ⟨next :: left, waits, List.mem_cons_self⟩

variable [DecidableEq Member]

def Move.reaches : Move Member Item → Option Member
  | .join member => some member
  | .direct member _ => some member
  | _ => none

theorem Unseen.step (unseen : fanout.Unseen member) (sound : fanout.Sound)
    {move : Move Member Item} (enumerates : fanout.Enumerates move)
    (elsewhere : move.reaches ≠ some member) (fired : fanout.step move = some final) :
    final.Unseen member := by
  cases move
  all_goals cases fired
  case join other =>
      refine ⟨?_, unseen.notAhead, unseen.unsent⟩
      intro among
      rcases List.mem_insert_iff.mp among with same | before
      · exact elsewhere (congrArg some same.symm)
      · exact unseen.outside before
  case quit other =>
      exact ⟨fun among => unseen.outside (List.mem_of_mem_filter among), unseen.notAhead,
        unseen.unsent⟩
  case direct other item =>
      refine ⟨unseen.outside, unseen.notAhead, ?_⟩
      intro send sends
      rcases List.mem_append.mp sends with before | last
      · exact unseen.unsent send before
      · rw [List.mem_singleton.mp last]
        exact fun same => elsewhere (congrArg some same)
  case begin item order =>
      exact (unseen.opened item enumerates).advance (sound.opened item enumerates) _
  case advance number => exact unseen.advance sound number

theorem unseen_run {moves : List (Move Member Item)} (unseen : fanout.Unseen member)
    (sound : fanout.Sound) (enumerates : Conforms Fanout.step Enumerates fanout moves)
    (elsewhere : ∀ move ∈ moves, move.reaches ≠ some member)
    (run : replay Fanout.step fanout moves = some final) : final.Unseen member := by
  induction moves generalizing fanout with
  | nil =>
      cases run
      exact unseen
  | cons move rest induction =>
      obtain ⟨middle, fired, later⟩ := replay_cons run
      obtain ⟨enumerated, onwards⟩ := conforms_cons fired enumerates
      exact induction (unseen.step sound enumerated (elsewhere move List.mem_cons_self) fired)
        (sound.step enumerated fired) onwards
        (fun other among => elsewhere other (List.mem_cons_of_mem move among)) later

end Unseen

end Fanout

end PyConduit
