import PyConduit.Screen

/-!
# Unread messages

Each conversation of a tab counts the messages that came while nobody was looking at it,
since the user last looked. The title shows the sum of all counters.
-/

namespace PyConduit.Unread

open Protocol Browser Screen GuardedRun

set_option autoImplicit false

/-- The `unread` of a conversation; one the tab does not have counts nothing. -/
def unread (page : Page) (id : String) : Nat :=
  ((page.convos.lookup id).map fun convo => convo.unread).getD 0

inductive Mark
  | missed
  | seen
  deriving DecidableEq

/-- How many messages were missed since the conversation was last seen. -/
def tally : Nat → List Mark → Nat
  | count, [] => count
  | count, .missed :: rest => tally (count + 1) rest
  | _, .seen :: rest => tally 0 rest

theorem tally_append (count : Nat) (first second : List Mark) :
    tally count (first ++ second) = tally (tally count first) second := by
  induction first generalizing count with
  | nil => rfl
  | cons mark rest induction =>
      cases mark with
      | missed => exact induction _
      | seen => exact induction _

def looksAt (screen : Screen.State) : Screen.Action → Option String
  | .gesture (.opens other) => some other
  | .gesture (.adds typed) => if typed = some "" then none else typed.map trim
  | .gesture (.removes other) => some other
  | .gesture .focuses => screen.page.active
  | .frame _ (.mucLeft (.str room)) => some room
  | .frame _ (.mucJoined (.str room) _ _) => if opensRoom screen.page then some room else none
  | _ => none

/-- The messages of a conversation that an action brings while nobody looks at it. -/
def missedBy (id : String) (screen : Screen.State) : Screen.Action → List Mark
  | .frame _ frame =>
      (rings screen.page frame).filterMap fun ring => if ring.1 = id then some .missed else none
  | _ => []

def marks (id : String) (screen : Screen.State) (action : Screen.Action) : List Mark :=
  missedBy id screen action ++ if looksAt screen action = some id then [.seen] else []

section Pages

variable (page : Page) {id other name : String} {kind : Kind} {assigned : Convo → Convo}

theorem unread_change (id other name : String) (kind : Kind) (assigned : Convo → Convo) :
    unread (change page other kind name assigned) id =
      if id = other then (assigned ((page.convos.lookup other).getD (added kind name))).unread
      else unread page id := by
  rw [unread, lookup_change]
  split_ifs
  · rfl
  · rfl

theorem unread_default (id name : String) (kind : Kind) :
    ((page.convos.lookup id).getD (added kind name)).unread = unread page id := by
  rw [unread]
  cases page.convos.lookup id with
  | none => rfl
  | some convo => rfl

theorem unread_kept (kept : ∀ convo, (assigned convo).unread = convo.unread) (id : String) :
    unread (change page other kind name assigned) id = unread page id := by
  rw [unread_change]
  split_ifs with same
  · rw [kept, unread_default, same]
  · rfl

theorem unread_set_active (id other : String) :
    unread (Browser.setActive page other).1 id = if id = other then 0 else unread page id :=
  unread_change { page with active := some other } id other other .chat _

theorem unread_bump (id other : String) (present : (page.convos.lookup other).isSome) :
    unread (bump page other) id =
      unread page id + if id = other ∧ unseen page other = true then 1 else 0 := by
  obtain ⟨convo, found⟩ := Option.isSome_iff_exists.mp present
  have apart : unseen page other = true ↔ ¬(page.active = some other ∧ page.hidden = false) :=
    decide_eq_true_iff
  simp only [bump, found, apart]
  by_cases looked : page.active = some other ∧ page.hidden = false
  · rw [if_pos looked, if_neg (fun both => both.2 looked)]
    rfl
  · rw [if_neg looked, unread, Dict.lookup_set_item]
    by_cases same : id = other
    · subst same
      simp [unread, found, looked]
    · simp [unread, same]

theorem unread_dropped (id other : String) :
    unread (dropped page other) id = if id = other then 0 else unread page id := by
  rw [unread, lookup_dropped]
  split_ifs
  · rfl
  · rfl

theorem count_rung (id other : String) (sound : Sound) (heard : Prop) [Decidable heard] :
    ((if heard then [(other, sound)] else []).filter fun ring => ring.1 = id).length =
      if id = other ∧ heard then 1 else 0 := by
  by_cases same : id = other
  · subst same
    by_cases rung : heard
    · simp [rung]
    · simp [rung]
  · by_cases rung : heard
    · simp [rung, same, Ne.symm same]
    · simp [rung]

theorem unread_message (message : ChatMessage) (id : String) :
    unread (Browser.handleFrame page (.message message)).1 id =
      unread page id + ((rings page (.message message)).filter fun ring => ring.1 = id).length := by
  cases conversation : message.conversation with
  | str other =>
      have filed : ∀ id, unread (change page other .chat other (pushed (chatEntry page message))) id =
          unread page id := unread_kept page (fun _ => rfl)
      simp only [Browser.handleFrame, rings, conversation, count_rung]
      by_cases incoming : message.direction = .incoming
      · have there : ((change page other .chat other (pushed (chatEntry page message))).convos.lookup
            other).isSome := by
          rw [lookup_change, if_pos rfl]
          rfl
        rw [if_pos incoming, unread_bump _ _ _ there, filed]
        simp only [incoming, true_and]
        rfl
      · simp [incoming, filed]
  | _ => simp [Browser.handleFrame, rings, conversation]

theorem unread_muc_message (room nick body msgId timestamp : String) (isSelf mentionsMe : Bool)
    (id : String) :
    unread (Browser.handleFrame page
        (.mucMessage room nick body msgId timestamp isSelf mentionsMe)).1 id =
      unread page id + ((rings page (.mucMessage room nick body msgId timestamp isSelf
        mentionsMe)).filter fun ring => ring.1 = id).length := by
  have filed : ∀ id, unread (change page room .muc room
      (pushed (.room nick body timestamp isSelf msgId mentionsMe))) id = unread page id :=
    unread_kept page (fun _ => rfl)
  have there : ((change page room .muc room
      (pushed (.room nick body timestamp isSelf msgId mentionsMe))).convos.lookup room).isSome := by
    rw [lookup_change, if_pos rfl]
    rfl
  simp only [Browser.handleFrame, rings, count_rung]
  cases isSelf with
  | true => simp [filed]
  | false =>
      simp only [Bool.false_eq_true, if_false, unread_bump _ _ _ there, filed, true_and]
      rfl

theorem tally_missed (count : Nat) (id : String) (rung : List (String × Sound)) :
    tally count (rung.filterMap fun ring => if ring.1 = id then some .missed else none) =
      count + (rung.filter fun ring => ring.1 = id).length := by
  induction rung generalizing count with
  | nil => rfl
  | cons ring rest induction =>
      by_cases own : ring.1 = id
      · simp only [own, List.filterMap_cons, if_true, tally, induction, List.filter_cons,
          decide_true, List.length_cons]
        omega
      · simp [own, induction]

theorem unread_frame (screen : Screen.State) (socket : Nat) (frame : Frame) (id : String) :
    unread (Browser.handleFrame screen.page frame).1 id =
      tally (unread screen.page id) (marks id screen (.frame socket frame)) := by
  have quiet : ∀ {kind name} {assigned : Convo → Convo} (room : String),
      (∀ convo, (assigned convo).unread = convo.unread) →
        unread (change screen.page room kind name assigned) id = unread screen.page id :=
    fun _ kept => unread_kept screen.page kept id
  cases frame with
  | message message =>
      rw [unread_message, marks, missedBy, if_neg (by simp [looksAt]), List.append_nil, tally_missed]
  | mucMessage room nick body msgId timestamp isSelf mentionsMe =>
      rw [unread_muc_message, marks, missedBy, if_neg (by simp [looksAt]), List.append_nil, tally_missed]
  | mucJoined room nick subject =>
      cases room with
      | str room =>
          have handled : Browser.handleFrame screen.page (.mucJoined (.str room) nick subject) =
              joined screen.page room := rfl
          have named : ∀ id, unread (entered screen.page room) id = unread screen.page id :=
            unread_kept screen.page (fun _ => rfl)
          rw [handled, joined_eq]
          by_cases opens : opensRoom screen.page
          · rw [if_pos opens, unread_set_active, named]
            by_cases own : id = room
            · simp [own, marks, missedBy, rings, looksAt, opens, tally]
            · simp [own, Ne.symm own, marks, missedBy, rings, looksAt, tally]
          · rw [if_neg opens, named]
            simp [marks, missedBy, rings, looksAt, opens, tally]
      | _ => rfl
  | mucLeft room =>
      cases room with
      | str room =>
          have handled : (Browser.handleFrame screen.page (.mucLeft (.str room))).1 =
              dropped screen.page room := rfl
          rw [handled, unread_dropped]
          by_cases own : id = room
          · simp [own, marks, missedBy, rings, looksAt, tally]
          · simp [own, Ne.symm own, marks, missedBy, rings, looksAt, tally]
      | _ => rfl
  | history conversation messages complete =>
      cases conversation with
      | str other => exact quiet other fun _ => rfl
      | _ => rfl
  | mucOccupants room occupants =>
      cases room with
      | str room => exact quiet room fun _ => rfl
      | _ => rfl
  | mucPresence room nick joined => exact quiet room fun _ => rfl
  | error context message conversation =>
      rcases conversation with _ | conversation
      · rfl
      · cases conversation with
        | str other =>
            simp only [Browser.handleFrame]
            split_ifs
            · exact quiet other fun _ => rfl
            · rfl
        | _ => rfl
  | _ => rfl

end Pages

section Counters

variable {screen next : Screen.State}

theorem unread_step {action : Screen.Action} (fired : step screen action = some next) (id : String) :
    unread next.page id = tally (unread screen.page id) (marks id screen action) := by
  cases action with
  | frame socket frame =>
      obtain ⟨_, same⟩ := Option.ite_none_right_eq_some.mp fired
      cases same
      rw [page_frame, unread_frame screen socket]
  | gesture gesture =>
      have opens : ∀ other, unread (Browser.setActive screen.page other).1 id =
          tally (unread screen.page id) (if other = id then [.seen] else []) := by
        intro other
        rw [unread_set_active]
        by_cases same : other = id
        · simp [same, tally]
        · simp [same, Ne.symm same, tally]
      cases acts_of_act fired with
      | @opens other =>
          rw [page_set_active]
          simpa [marks, missedBy, looksAt] using opens other
      | cancels nothing =>
          rcases nothing with rfl | rfl
          · simp [marks, missedBy, looksAt, tally]
          · simp [marks, missedBy, looksAt, tally]
      | @adds typed filled =>
          rw [page_set_active]
          simpa [marks, missedBy, looksAt, filled] using opens (trim typed)
      | @removes other =>
          have removed : unread (Screen.removeContact screen other).page id =
              if id = other then 0 else unread screen.page id :=
            unread_dropped { screen.page with roster := screen.page.roster.pop other } id other
          by_cases same : id = other
          · simpa [marks, missedBy, looksAt, same, tally] using removed
          · simpa [marks, missedBy, looksAt, same, Ne.symm same, tally] using removed
      | @focuses other active known =>
          have looked : unread (change screen.page other .chat other fun convo =>
              { convo with unread := 0 }) id = if id = other then 0 else unread screen.page id :=
            unread_change ..
          by_cases same : id = other
          · simpa [marks, missedBy, looksAt, active, same, tally] using looked
          · simpa [marks, missedBy, looksAt, active, same, Ne.symm same, tally] using looked
      | focusesNothing nothing =>
          by_cases active : screen.page.active = some id
          · have gone : unread screen.page id = 0 := by
              rw [unread, nothing id active]
              rfl
            simp [marks, missedBy, looksAt, active, gone, tally]
          · simp [marks, missedBy, looksAt, active, tally]
      | loadsOlder =>
          rw [page_send_all]
          rfl
      | _ => rfl
  | opens socket =>
      obtain ⟨_, same⟩ := Option.ite_none_right_eq_some.mp fired
      cases same
      rfl
  | shuts socket =>
      obtain ⟨_, same⟩ := Option.ite_none_right_eq_some.mp fired
      cases same
      rfl
  | closes socket =>
      simp only [step] at fired
      split at fired
      · cases fired
      · cases fired
      · cases fired
        rfl
  | timer =>
      obtain ⟨_, same⟩ := Option.ite_none_right_eq_some.mp fired
      cases same
      rfl
  | stores preference =>
      cases fired
      rfl

end Counters

section Title

variable {screen next : Screen.State}

theorem total_change (page : Page) (id name : String) (kind : Kind) (assigned : Convo → Convo) :
    total (change page id kind name assigned) + unread page id =
      total page + (assigned ((page.convos.lookup id).getD (added kind name))).unread :=
  Dict.sum_set_item Convo.unread page.convos id _

theorem total_kept (page : Page) {id name : String} {kind : Kind} {assigned : Convo → Convo}
    (kept : ∀ convo, (assigned convo).unread = convo.unread) :
    total (change page id kind name assigned) = total page := by
  have sums := total_change page id name kind assigned
  rw [kept, unread_default] at sums
  exact Nat.add_right_cancel sums

theorem total_eq (page : Page) : total page = (page.convos.keys.map (unread page)).sum := by
  have same : page.convos.values.map (fun convo => convo.unread) =
      page.convos.keys.map (unread page) := by
    rw [Dict.values, Dict.keys, List.map_map, List.map_map]
    apply List.map_congr_left
    intro entry member
    have found : page.convos.lookup entry.1 = some entry.2 :=
      (Dict.lookup_eq_some_iff ..).mpr member
    simp [unread, found]
  rw [total, same]

/-- The title is as `updateTitle` would set it now. -/
def Titled (screen : Screen.State) : Prop :=
  screen.title = titleText (total screen.page) screen.brandTitle

theorem titled_of_eq (titled : Titled screen) (title : next.title = screen.title)
    (brandTitle : next.brandTitle = screen.brandTitle) (sum : total next.page = total screen.page) :
    Titled next := by
  rw [Titled, title, brandTitle, sum]
  exact titled

theorem titled_set_active (screen : Screen.State) (id : String) : Titled (Screen.setActive screen id) :=
  rfl

def limitOf : Screen.Action → Option Int
  | .frame _ (.ready _ _ _ _ _ limit) => some limit
  | _ => none

/-- The tab can set its `maxLength`, and draw the lists before it gets to the title. -/
def Accepts (action : Screen.Action) : Prop :=
  (∀ limit ∈ limitOf action, limit = 0 ∨ (asLength limit).isSome) ∧ Screen.NamesText action

instance (action : Screen.Action) : Decidable (Accepts action) :=
  inferInstanceAs (Decidable (_ ∧ Screen.NamesText action))

theorem titled_frame {socket : Nat} {frame : Frame} (titled : Titled screen)
    (accepts : Accepts (.frame socket frame)) : Titled (Screen.handleFrame screen frame) := by
  have quiet : ∀ {id name kind} {assigned : Convo → Convo},
      (∀ convo, (assigned convo).unread = convo.unread) →
        Titled { screen with page := change screen.page id kind name assigned } :=
    fun kept => titled_of_eq titled rfl rfl (total_kept screen.page kept)
  cases frame with
  | ready _ _ brandTitle soundDefault _ limit =>
      simp only [Screen.handleFrame, ready]
      by_cases unlimited : limit = 0
      · rw [if_pos unlimited]
        rfl
      · rcases accepts.1 _ rfl with zero | accepted
        · exact absurd zero unlimited
        · obtain ⟨length, set⟩ := Option.isSome_iff_exists.mp accepted
          rw [if_neg unlimited, set]
          rfl
  | mucJoined room nick subject =>
      cases room with
      | str room =>
          simp only [Screen.handleFrame]
          split_ifs with opens
          · exact titled_set_active _ room
          · have handled : Browser.handleFrame screen.page (.mucJoined (.str room) nick subject) =
                joined screen.page room := rfl
            rw [handled, joined_eq, if_neg opens]
            exact quiet fun _ => rfl
      | _ => exact titled
  | history conversation messages complete =>
      cases conversation with
      | str other => exact quiet fun _ => rfl
      | _ => exact titled
  | mucOccupants room occupants =>
      cases room with
      | str room => exact quiet fun _ => rfl
      | _ => exact titled
  | mucPresence room nick joined => exact quiet fun _ => rfl
  | error context message conversation =>
      rcases conversation with _ | conversation
      · exact titled
      · cases conversation with
        | str other =>
            simp only [Screen.handleFrame, Browser.handleFrame]
            split_ifs
            · exact quiet fun _ => rfl
            · exact titled
        | _ => exact titled
  | subscriptionRequest => exact titled
  | discoServers => exact titled
  | _ => rfl

theorem titled_step {action : Screen.Action} (accepts : Accepts action) (titled : Titled screen)
    (fired : step screen action = some next) : Titled next := by
  have same : ∀ {next : Screen.State}, next.title = screen.title →
      next.brandTitle = screen.brandTitle → total next.page = total screen.page → Titled next :=
    fun title brandTitle sum => titled_of_eq titled title brandTitle sum
  cases action with
  | frame socket frame =>
      obtain ⟨_, done⟩ := Option.ite_none_right_eq_some.mp fired
      cases done
      exact titled_frame titled accepts
  | gesture gesture =>
      cases acts_of_act fired with
      | loadsOlder =>
          obtain ⟨log, sent⟩ := send_all_eq screen ((loadOlder screen.page).map .talk)
          rw [sent]
          exact same rfl rfl rfl
      | opens => rfl
      | adds => rfl
      | removes => rfl
      | selects => rfl
      | focuses => rfl
      | _ => exact same rfl rfl rfl
  | opens socket =>
      obtain ⟨_, done⟩ := Option.ite_none_right_eq_some.mp fired
      cases done
      exact same rfl rfl rfl
  | shuts socket =>
      obtain ⟨_, done⟩ := Option.ite_none_right_eq_some.mp fired
      cases done
      exact same rfl rfl rfl
  | closes socket =>
      simp only [step] at fired
      split at fired
      · cases fired
      · cases fired
      · cases fired
        exact same rfl rfl rfl
  | timer =>
      obtain ⟨_, done⟩ := Option.ite_none_right_eq_some.mp fired
      cases done
      exact same rfl rfl rfl
  | stores preference =>
      cases fired
      exact same rfl rfl rfl

/-- In every run of a tab the counter of each conversation is the number of the messages of
others that came for it, while it was not the active conversation of a visible tab, since it was
last opened, looked at again or removed; and if `maxLength` takes the limit of each `ready`
frame and conversations are named by texts, the title shows the sum over the conversations the
tab has. -/
theorem unread_counts (preference : Option String) (actions : List Screen.Action)
    (screen : Screen.State) (run : replay step (start preference) actions = some screen) :
    (∀ id, unread screen.page id = tally 0 (collect step (marks id) (start preference) actions)) ∧
      (Conforms step (fun _ => Accepts) (start preference) actions →
        screen.title = titleText
          ((screen.page.convos.keys.map fun id =>
            tally 0 (collect step (marks id) (start preference) actions)).sum)
          screen.brandTitle) := by
  have counted : ∀ id,
      unread screen.page id = tally 0 (collect step (marks id) (start preference) actions) := by
    intro id
    have holds := @collect_invariant _ _ _ step (marks id)
      (fun screen marked => unread screen.page id = tally 0 marked) ?_
      (start preference) screen actions [] rfl run
    · exact holds
    · intro screen action next marked counted fired
      rw [unread_step fired, counted, tally_append]
  refine ⟨counted, ?_⟩
  intro accepted
  have titled : Titled screen := by
    refine run_invariant ?_ (show Titled (start preference) from rfl) accepted run
    intro screen action next accepts titled fired
    exact titled_step accepts titled fired
  have shown : unread screen.page =
      fun id => tally 0 (collect step (marks id) (start preference) actions) := funext counted
  rw [← shown, ← total_eq]
  exact titled

/-- Bob writes twice while the tab is hidden, and once more after the user has come back. -/
def bobWrites (hidden : Bool) : List Screen.Action :=
  [.gesture (.hides hidden),
    .frame 0 (.message ⟨.str "bob@example.com", .str "bob@example.com", .str "alice@example.com",
      .str "hello", "1", "now", .incoming⟩)]

def awayAndBack : List Screen.Action :=
  [.opens 0, .gesture (.adds (some " bob@example.com"))] ++ bobWrites true ++ bobWrites true ++
    [.gesture .focuses] ++ bobWrites true ++ bobWrites false

def cameBack : Screen.State := (replay step (start none) awayAndBack).getD (start none)

theorem one_unread_from_bob :
    (∀ id, unread cameBack.page id = tally 0 (collect step (marks id) (start none) awayAndBack)) ∧
      cameBack.title = titleText
        ((cameBack.page.convos.keys.map fun id =>
          tally 0 (collect step (marks id) (start none) awayAndBack)).sum) cameBack.brandTitle :=
  have counts := unread_counts none awayAndBack cameBack rfl
  ⟨counts.1, counts.2 (by decide)⟩

end Title

end PyConduit.Unread
