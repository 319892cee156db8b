import PyConduit.NumberedMoves

/-!
# The group follows the account

From a time when no broadcast is under way the group of the tabs can be followed
through every run. An action in turn is made of moves in turn, so what holds of the
broadcasts of the group holds of the account.
-/

namespace PyConduit.Numbered

open Lifecycle Lifecycle.Account GuardedRun

set_option autoImplicit false

variable {Frame : Type}

section Linked

variable {env : Env Frame} {owner : Nat → Option Tab} {account next : Account (Marked Frame)}
  {fanout final : Fanout Tab Frame}

def Quiet (account : Account Frame) : Prop :=
  (∀ tab, sending (account.handlers tab) = none) ∧ account.events = []

theorem sending_map {Other : Type} (label : Frame → Other) (handler : Handler Frame) :
    sending (handler.map label) = (sending handler).map fun pair => (label pair.1, pair.2) := by
  cases handler
  all_goals simp [sending, Handler.map, Function.comp_def]

theorem link_opened {account : Account Frame} (quiet : Quiet account) :
    Link (fun _ => none) (opened account).account
      (Fanout.idle account.subscribers account.sent) := by
  have noEvents : (opened account).account.events = [] := by
    simp [opened, Account.map, quiet.2]
  refine ⟨rfl, rfl, ?_, ?_, ?_, ?_⟩
  · intro tab frame ahead found
    have nothing := sending_map (fun frame => ((none : Option Nat), frame)) (account.handlers tab)
    rw [quiet.1 tab] at nothing
    cases nothing.symm.trans found
  · intro index task found
    rw [noEvents] at found
    cases found
  · intro index other task later found
    rw [noEvents] at found
    cases found
  · intro number ahead found
    cases found

theorem Link.waiting_iff (link : Link owner account fanout) (tab : Tab) (number : Nat) :
    Waiting account tab number ↔ fanout.Ahead tab number := by
  constructor
  · rintro (⟨other, frame, ahead, sends, among⟩ | ⟨task, event, marked, among⟩)
    · obtain ⟨same, marked, _, waits⟩ := link.tabs other _ ahead sends
      cases marked
      exact ⟨ahead, waits.unfinished, among⟩
    · obtain ⟨index, found⟩ := List.mem_iff_getElem?.mp event
      obtain ⟨same, ahead, alsoMarked, _, rest, waits⟩ := link.events index task found
      cases marked.symm.trans alsoMarked
      refine ⟨ahead, waits.unfinished, ?_⟩
      cases order : task.rest with
      | nil =>
          rw [order] at rest
          cases rest
      | cons current later =>
          rw [order] at rest among
          cases rest
          exact among
  · rintro ⟨ahead, unfinished, among⟩
    rcases link.owned number ahead unfinished with ⟨other, frame, sends⟩ | ⟨index, task, found, marked⟩
    · exact Or.inl ⟨other, frame, ahead, sends, among⟩
    · right
      refine ⟨task, List.mem_of_getElem? found, marked, ?_⟩
      obtain ⟨same, left, alsoMarked, _, rest, waits⟩ := link.events index task found
      cases marked.symm.trans alsoMarked
      cases waits.unfinished.symm.trans unfinished
      cases order : task.rest with
      | nil =>
          rw [order] at rest
          cases rest
      | cons current later =>
          rw [order] at rest
          cases rest
          exact among

theorem Link.settled (link : Link owner account fanout) (quiet : Quiet account) :
    fanout.Settled := by
  intro number
  cases unfinished : fanout.unfinished number with
  | none => rfl
  | some ahead =>
      exfalso
      rcases link.owned number ahead unfinished with ⟨tab, frame, sends⟩ | ⟨index, task, found, _⟩
      · rw [quiet.1 tab] at sends
        cases sends
      · rw [quiet.2] at found
        cases found

theorem clear_dropped (tab : Tab) (delivered : Bool) (number : Nat)
    (clear : fanout.AdvanceClear number) :
    (if delivered then fanout else fanout.quit tab).AdvanceClear number := by
  cases delivered
  all_goals exact clear

theorem conforms_dropped {allowed : Fanout Tab Frame → Fanout.Move Tab Frame → Prop}
    {tab : Tab} {delivered : Bool} {moves : List (Fanout.Move Tab Frame)}
    (quits : allowed fanout (.quit tab))
    (later : Conforms Fanout.step allowed (if delivered then fanout else fanout.quit tab) moves) :
    Conforms Fanout.step allowed fanout (Numbered.dropped tab delivered ++ moves) := by
  cases delivered with
  | false => exact ⟨quits, later⟩
  | true => exact later

theorem conforms_greeting {allowed : Fanout Tab Frame → Fanout.Move Tab Frame → Prop}
    {env : Env Frame} {tab : Tab} (may : ∀ fanout, allowed fanout (greeting env tab))
    (greets : Prop) [Decidable greets] (fanout : Fanout Tab Frame) :
    Conforms Fanout.step allowed fanout (if greets then [greeting env tab] else []) := by
  split_ifs
  · exact ⟨may fanout, trivial⟩
  · trivial

theorem begin_in_turn {book : Book Frame} (link : Link owner book.account fanout)
    (counted : fanout.begun.length = book.count) (item : Frame)
    {order : List Tab}
    (clear : ∀ tab, order.head? = some tab →
      ∀ earlier < book.count, ¬Waiting book.account tab earlier) :
    fanout.InTurn (.begin item order) := by
  intro tab ahead found earlier less waits
  have same : order = tab :: ahead := by
    simpa only [Fanout.opened, Function.update_self, Option.some.injEq] using found
  rw [Fanout.ahead_opened_iff, if_neg (Nat.ne_of_lt less)] at waits
  apply clear tab (by rw [same]; rfl) earlier (counted ▸ less)
  exact (link.waiting_iff tab earlier).mpr waits

theorem advance_in_turn {number : Nat} {item : Frame} {left : List Tab}
    (link : Link owner account fanout) (waits : Waits fanout number item left)
    (clear : ∀ tab, left.head? = some tab → ∀ earlier < number, ¬Waiting account tab earlier) :
    fanout.AdvanceClear number := by
  intro tab ahead found earlier less waiting
  cases waits.unfinished.symm.trans found
  exact clear tab rfl earlier less ((link.waiting_iff tab earlier).mpr waiting)

theorem goes_on_in_turn {book : Book Frame} {action : Action Frame}
    (link : Link owner book.account fanout) (inTurn : InTurn book action) {number : Nat}
    {item : Frame} {left : List Tab} (waits : Waits fanout number item left)
    (turned : ∀ next later, left = next :: later → turn book action = some (number, next))
    {current : Tab} {delivered : Bool} {rest : List (Fanout.Move Tab Frame)}
    (later : ∀ fanout, Conforms Fanout.step Fanout.InTurn fanout rest) :
    Conforms Fanout.step Fanout.InTurn fanout (dropped current delivered ++ .advance number :: rest) := by
  apply conforms_dropped trivial
  refine ⟨clear_dropped current delivered number ?_, later _⟩
  apply advance_in_turn link waits
  intro next first
  obtain ⟨rest, split⟩ := List.head?_eq_some_iff.mp first
  exact inTurn number next (turned next rest split)

theorem in_turn_moves {book : Book Frame} {action : Action Frame}
    (link : Link owner book.account fanout)
    (counted : fanout.begun.length = book.count) (inTurn : InTurn book action) :
    Conforms Fanout.step Fanout.InTurn fanout (moves env book action) := by
  have greets : ∀ (tab : Tab) (greeted : Prop) [Decidable greeted] (fanout : Fanout Tab Frame),
      Conforms Fanout.step Fanout.InTurn fanout (if greeted then [greeting env tab] else []) :=
    fun tab greeted _ fanout => conforms_greeting (fun _ => trivial) greeted fanout
  cases action with
  | attach tab => exact ⟨trivial, greets tab _ _⟩
  | lockGranted tab => exact greets tab _ _
  | connectRaises tab frame order =>
      refine ⟨begin_in_turn link counted frame ?_, greets tab _ _⟩
      intro next first
      exact inTurn book.count next (by rw [turn, first]; rfl)
  | broadcast tab frame order =>
      refine ⟨begin_in_turn link counted frame ?_, trivial⟩
      intro next first
      exact inTurn book.count next (by rw [turn, first]; rfl)
  | event frame afterwards order =>
      refine ⟨begin_in_turn link counted frame ?_, trivial⟩
      intro next first
      exact inTurn book.count next (by rw [turn, first]; rfl)
  | reported tab delivered =>
      simp only [moves]
      split
      · next number frame current rest reporting =>
          have sends : sending (book.account.handlers tab) = some ((some number, frame), rest) := by
            rw [reporting]
            rfl
          obtain ⟨_, marked, _, waits⟩ := link.tabs tab _ rest sends
          cases marked
          apply goes_on_in_turn link inTurn waits
          · rintro next later rfl
            rw [turn, sends]
          · exact fun fanout => greets tab _ fanout
      · trivial
  | broadcastSent tab delivered =>
      simp only [moves]
      split
      · next number frame current rest broadcasting =>
          have sends : sending (book.account.handlers tab) = some ((some number, frame), rest) := by
            rw [broadcasting]
            rfl
          obtain ⟨_, marked, _, waits⟩ := link.tabs tab _ rest sends
          cases marked
          apply goes_on_in_turn link inTurn waits
          · rintro next later rfl
            rw [turn, sends]
          · exact fun fanout => trivial
      · trivial
  | eventSent index delivered =>
      simp only [moves]
      split
      · next number frame current rest afterwards sends =>
          obtain ⟨_, _, marked, _, remains, waits⟩ := link.events index _ sends
          cases marked
          cases remains
          apply goes_on_in_turn link inTurn waits
          · rintro next later rfl
            simp only [turn, sends]
          · exact fun fanout => trivial
      · trivial
  | connectReturns tab
  | snapshotSend tab frame
  | reply tab frame
  | detach tab => exact ⟨trivial, trivial⟩
  | _ => trivial

end Linked

structure Tracks (book : Book Frame) (fanout : Fanout Tab Frame) : Prop where
  link : ∃ owner, Link owner book.account fanout
  counted : fanout.begun.length = book.count
  sound : fanout.Sound
  unseen : ∀ tab, book.account.handlers tab = .absent → fanout.Unseen tab

section Tracking

variable {env : Env Frame} {book after : Book Frame} {action : Action Frame}
  {fanout final : Fanout Tab Frame}

theorem moves_reach {move : Fanout.Move Tab Frame} (among : move ∈ moves env book action)
    {tab : Tab} (reaches : move.reaches = some tab) :
    Footprint.mover action = some tab ∨ (∃ frame, action = .snapshotSend tab frame) ∨
      ∃ frame, action = .reply tab frame := by
  have greets : ∀ (other : Tab) (greeted : Prop) [Decidable greeted],
      move ∈ (if greeted then [greeting env other] else []) → other = tab := by
    intro other greeted _ among
    split_ifs at among with holds
    · rw [List.mem_singleton.mp among] at reaches
      exact Option.some.inj reaches
    · cases among
  have drops : ∀ (other : Tab) (delivered : Bool), move ∉ dropped other delivered := by
    intro other delivered among
    cases delivered with
    | true => cases among
    | false =>
        rw [List.mem_singleton.mp among] at reaches
        cases reaches
  have begins : ∀ (item : Frame) (order : List Tab), move ≠ .begin item order := by
    rintro item order rfl
    cases reaches
  have advances : ∀ number, move ≠ .advance number := by
    rintro number rfl
    cases reaches
  cases action with
  | attach other =>
      left
      rcases List.mem_cons.mp among with joins | rest
      · rw [joins] at reaches
        exact reaches
      · exact congrArg some (greets _ _ rest)
  | lockGranted other => exact Or.inl (congrArg some (greets _ _ among))
  | connectReturns other =>
      rw [List.mem_singleton.mp among] at reaches
      exact Or.inl reaches
  | connectRaises other frame order =>
      left
      rcases List.mem_cons.mp among with isBegin | rest
      · exact absurd isBegin (begins _ _)
      · exact congrArg some (greets _ _ rest)
  | reported other delivered =>
      left
      simp only [moves] at among
      split at among
      · rcases List.mem_append.mp among with isDrop | rest
        · exact absurd isDrop (drops _ _)
        · rcases List.mem_cons.mp rest with isAdvance | greeted
          · exact absurd isAdvance (advances _)
          · exact congrArg some (greets _ _ greeted)
      · cases among
  | snapshotSend other frame =>
      rw [List.mem_singleton.mp among] at reaches
      cases reaches
      exact Or.inr (Or.inl ⟨frame, rfl⟩)
  | reply other frame =>
      rw [List.mem_singleton.mp among] at reaches
      cases reaches
      exact Or.inr (Or.inr ⟨frame, rfl⟩)
  | broadcast other frame order => exact absurd (List.mem_singleton.mp among) (begins _ _)
  | event frame afterwards order => exact absurd (List.mem_singleton.mp among) (begins _ _)
  | detach other =>
      rw [List.mem_singleton.mp among] at reaches
      cases reaches
  | broadcastSent other delivered =>
      simp only [moves] at among
      split at among
      · rcases List.mem_append.mp among with isDrop | rest
        · exact absurd isDrop (drops _ _)
        · exact absurd (List.mem_singleton.mp rest) (advances _)
      · cases among
  | eventSent index delivered =>
      simp only [moves] at among
      split at among
      · rcases List.mem_append.mp among with isDrop | rest
        · exact absurd isDrop (drops _ _)
        · exact absurd (List.mem_singleton.mp rest) (advances _)
      · cases among
  | _ => cases among

theorem mover_mark (number : Nat) (action : Action Frame) :
    Footprint.mover (mark number action) = Footprint.mover action := by
  cases action
  all_goals rfl

theorem step_view (fired : step env book action = some after) :
    Lifecycle.step (markedEnv env) book.account (mark book.count action) =
      some after.account := by
  obtain ⟨account, stepped, rfl⟩ := Option.map_eq_some_iff.mp fired
  exact stepped

theorem absent_elsewhere (fired : step env book action = some after) {tab : Tab}
    (absent : after.account.handlers tab = .absent) :
    book.account.handlers tab = .absent ∧
      ∀ move ∈ moves env book action, move.reaches ≠ some tab := by
  have viewed := step_view fired
  have unmoved : Footprint.mover action ≠ some tab := by
    intro moved
    rw [← mover_mark book.count] at moved
    exact Footprint.mover_present viewed moved absent
  have same := (Footprint.footprint_of_step viewed).handlers tab (by rwa [mover_mark])
  obtain ⟨_, stepped⟩ : ∃ next, Lifecycle.step (markedEnv env) book.account
      (mark book.count action) = some next := ⟨_, viewed⟩
  have before : book.account.handlers tab = .absent := same.symm.trans absent
  refine ⟨before, ?_⟩
  intro move among reaches
  rcases moves_reach among reaches with moved | ⟨frame, rfl⟩ | ⟨frame, rfl⟩
  · exact unmoved moved
  · cases fires_of_step stepped with
    | snapshotSend inside =>
        rw [before] at inside
        cases inside
  · cases fires_of_step stepped with
    | reply pumping =>
        rw [before] at pumping
        cases pumping

theorem Tracks.step (tracks : Tracks book fanout) (fired : Numbered.step env book action = some after) :
    ∃ final, replay Fanout.step fanout (moves env book action) = some final ∧
      Conforms Fanout.step Fanout.Enumerates fanout (moves env book action) ∧
        Tracks after final := by
  obtain ⟨owner, link⟩ := tracks.link
  have follows := follows_step link tracks.sound tracks.counted fired
  obtain ⟨owner, final, run, linked, counted, enumerates⟩ := run_of_follows follows
  refine ⟨final, run, enumerates, ⟨owner, linked⟩, counted, ?_, ?_⟩
  · exact Fanout.sound_run tracks.sound enumerates run
  · intro tab absent
    obtain ⟨before, elsewhere⟩ := absent_elsewhere fired absent
    exact Fanout.unseen_run (tracks.unseen tab before) tracks.sound enumerates elsewhere run

theorem tracks_opened {account : Account Frame} (quiet : Quiet account)
    (distinct : account.subscribers.Nodup)
    (unseen : ∀ tab, account.handlers tab = .absent → tab ∉ account.subscribers ∧
      ∀ send ∈ account.sent, send.1 ≠ tab) :
    Tracks (opened account) (Fanout.idle account.subscribers account.sent) := by
  refine ⟨⟨_, link_opened quiet⟩, rfl, Fanout.sound_idle distinct _, ?_⟩
  intro tab absent
  have before : account.handlers tab = .absent := by
    cases found : account.handlers tab
    all_goals
      simp only [opened, Account.map, found, Handler.map, reduceCtorEq] at absent
    rfl
  refine ⟨(unseen tab before).1, ?_, ?_⟩
  · rintro number ⟨ahead, found, _⟩
    cases found
  · intro send sends
    obtain ⟨original, among, rfl⟩ := List.mem_map.mp sends
    exact (unseen tab before).2 original among

theorem tracks_fresh : Tracks (opened (fresh : Account Frame)) (Fanout.idle [] []) :=
  tracks_opened ⟨fun _ => rfl, rfl⟩ List.nodup_nil
    fun tab _ => ⟨List.not_mem_nil, fun _ sends => by cases sends⟩

theorem up_to_date_moves {about : Frame → Bool} (tracks : Tracks book fanout)
    (fired : step env book action = some after) (ready : ∀ tab, about (env.ready tab) = false)
    (directs : ∀ tab frame, action = .snapshotSend tab frame ∨ action = .reply tab frame →
      about frame = true → fanout.latest about = some frame) :
    Conforms Fanout.step (Fanout.UpToDate about) fanout (moves env book action) := by
  have unread : ∀ (tab : Tab) (fanout : Fanout Tab Frame),
      fanout.UpToDate about (greeting env tab) := by
    intro tab fanout isAbout
    rw [ready tab] at isAbout
    cases isAbout
  have greets : ∀ (tab : Tab) (greeted : Prop) [Decidable greeted] (fanout : Fanout Tab Frame),
      Conforms Fanout.step (Fanout.UpToDate about) fanout
        (if greeted then [greeting env tab] else []) :=
    fun tab greeted _ fanout => conforms_greeting (unread tab) greeted fanout
  obtain ⟨_, stepped⟩ : ∃ next, Lifecycle.step (markedEnv env) book.account
      (mark book.count action) = some next := ⟨_, step_view fired⟩
  cases action with
  | attach tab =>
      cases fires_of_step stepped with
      | attach absent =>
          have unseen := tracks.unseen tab absent
          refine ⟨⟨unseen.notAhead, ?_⟩, greets tab _ _⟩
          rw [Fanout.lastTo, List.getLast?_eq_none_iff, List.filter_eq_nil_iff]
          intro frame among
          obtain ⟨send, sends, _⟩ := List.mem_map.mp among
          obtain ⟨isSent, own⟩ := List.mem_filter.mp sends
          exact absurd (of_decide_eq_true own) (unseen.unsent send isSent)
  | lockGranted tab => exact greets tab _ _
  | connectReturns tab => exact ⟨unread tab fanout, trivial⟩
  | connectRaises tab frame order => exact ⟨trivial, greets tab _ _⟩
  | snapshotSend tab frame => exact ⟨directs tab frame (Or.inl rfl), trivial⟩
  | reply tab frame => exact ⟨directs tab frame (Or.inr rfl), trivial⟩
  | reported tab delivered =>
      simp only [moves]
      split
      · exact conforms_dropped trivial ⟨trivial, greets tab _ _⟩
      · trivial
  | broadcastSent tab delivered =>
      simp only [moves]
      split
      · exact conforms_dropped trivial ⟨trivial, trivial⟩
      · trivial
  | eventSent index delivered =>
      simp only [moves]
      split
      · exact conforms_dropped trivial ⟨trivial, trivial⟩
      · trivial
  | broadcast tab frame order
  | event frame afterwards order
  | detach tab => exact ⟨trivial, trivial⟩
  | _ => trivial

/-- In turn, the order of the broadcasts and the topic are kept. -/
theorem Tracks.kept {about : Frame → Bool} (tracks : Tracks book fanout)
    (kept : fanout.Kept about) (fired : Numbered.step env book action = some after)
    (run : replay Fanout.step fanout (moves env book action) = some final)
    (enumerates : Conforms Fanout.step Fanout.Enumerates fanout (moves env book action))
    (inTurn : InTurn book action) (ready : ∀ tab, about (env.ready tab) = false)
    (directs : ∀ tab frame, action = .snapshotSend tab frame ∨ action = .reply tab frame →
      about frame = true → fanout.latest about = some frame) : final.Kept about := by
  obtain ⟨owner, link⟩ := tracks.link
  have turns := @in_turn_moves Frame env owner fanout book action link tracks.counted inTurn
  have topics := up_to_date_moves tracks fired ready directs
  have all := conforms_and (conforms_and enumerates turns) topics
  refine Fanout.kept_run kept (all.mono ?_) run
  rintro state move ⟨⟨enumerated, clear⟩, upToDate⟩
  exact ⟨enumerated, clear, upToDate⟩

end Tracking

end PyConduit.Numbered
