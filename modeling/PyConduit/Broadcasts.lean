import PyConduit.Observed

/-!
# Every tab sees the same order

`_broadcast` awaits the send to one tab before it turns to the next, and the
handlers of two events, or of an event and a command, may be inside of it at the
same time. Each event assigns the caches before its broadcast begins. While no
broadcast overtakes an earlier one on the way to a tab, all tabs get the
broadcasts in the order in which they began, and what a tab got last is what the
caches have.
-/

namespace PyConduit.Broadcasts

open Protocol Replay Activity GuardedRun
open Commands (Finish Plan)
open Lifecycle (Tab)
open Numbered (Book Marked Quiet Tracks)
open Observed (Replayed State taken)

set_option autoImplicit false

/-- What the caches hold the latest frame of. -/
inductive Topic
  | roster
  | presence (jid : String)

def Topic.about : Topic → Frame → Bool
  | .roster, .roster _ => true
  | .presence jid, .presence other _ _ => other = jid
  | _, _ => false

def cached (caches : Caches) : Topic → Option Frame
  | .roster => some (.roster caches.roster)
  | .presence jid => caches.presence.lookup jid

def lastFrame (topic : Topic) (tab : Tab) (sent : List (Tab × Frame)) : Option Frame :=
  ((sent.filter (·.1 = tab)).map Prod.snd).filter topic.about |>.getLast?

def numbersTo (tab : Tab) (book : Book Frame) : List Nat :=
  book.account.sent.filterMap fun send => if send.1 = tab then send.2.1 else none

/-- Of two broadcasts that both tabs got, both got the same one first. -/
def SameOrder (first second : List Nat) : Prop :=
  ∀ one other, [one, other].Sublist first → one ∈ second → other ∈ second →
    [one, other].Sublist second

/-- The action sends for no broadcast to a tab that an earlier broadcast still has
ahead. -/
def InTurn (env : Env) (state : State) (action : Action) : Prop :=
  ∀ part, taken env state.session action = some part → Numbered.InTurn state.book part

def OffTopic (frame : Frame) : Prop := ∀ topic : Topic, topic.about frame = false

def FinishOffTopic : Finish → Prop
  | .reply frame => OffTopic frame
  | .broadcast frame => OffTopic frame
  | _ => True

def PlanOffTopic : Plan → Prop
  | .finish finish => FinishOffTopic finish
  | .call _ resume => ∀ result now, FinishOffTopic (resume result now)

section Commands

variable {env : Commands.Env} {caches after : Caches} {message : ClientMessage} {plan : Plan}

theorem error_off_topic (context message : String) (conversation : Option Json) :
    OffTopic (.error context message conversation) := by
  intro topic
  cases topic
  all_goals rfl

theorem unguarded_off_topic {Value : Type} {returned : Value → String → Finish}
    (off : ∀ value now, FinishOffTopic (returned value now)) (result : Except String Value)
    (now : String) : FinishOffTopic (Commands.unguarded returned result now) := by
  cases result with
  | ok value => exact off value now
  | error text => trivial

theorem command_off_topic
    (handled : Commands.handleCommand env caches message = .ok (after, plan)) :
    PlanOffTopic plan := by
  cases Commands.ran_of_command handled with
  | tooLong | notAllowed => exact error_off_topic _ _ _
  | sendMessage =>
      intro result now
      cases result with
      | ok msgId =>
          intro topic
          cases topic
          all_goals rfl
      | error text => exact error_off_topic _ _ _
  | sendMuc =>
      intro result now
      cases result with
      | ok value => trivial
      | error text => exact error_off_topic _ _ _
  | loadHistory | leaveRoom | discoServers =>
      apply unguarded_off_topic
      intro _ _ topic
      cases topic
      all_goals rfl
  | setPresence | addContact | removeContact | subscription | joinRoom =>
      exact unguarded_off_topic fun _ _ => trivial

theorem command_keeps_topics
    (handled : Commands.handleCommand env caches message = .ok (after, plan)) :
    after.roster = caches.roster ∧ after.presence = caches.presence := by
  have kept : ∀ outcome, Commands.Handles env caches message outcome →
      outcome.1.roster = caches.roster ∧ outcome.1.presence = caches.presence := by
    intro outcome handles
    cases handles
    all_goals exact ⟨rfl, rfl⟩
  exact kept _ (Commands.handles_of_command handled)

end Commands

/-- What the session keeps ready to be sent: each cached presence is one of its
contact, and a command that is suspended will not answer with a cached frame. -/
structure Plain (session : Session) : Prop where
  keyed : PresenceKeyed session.caches
  pending : ∀ tab pending, session.commands tab = some pending → ∀ result now,
    FinishOffTopic (pending.resume result now)

section Sessions

variable {env : Env} {session next : Session}

theorem parse_off_topic {raw : Json} {after : Caches} {plan : Plan}
    (handled : Pump.parseAndHandle env.commands session.caches raw = .ok (after, plan)) :
    PlanOffTopic plan ∧ after.roster = session.caches.roster ∧
      after.presence = session.caches.presence := by
  obtain ⟨message, _, command⟩ := (Pump.parse_and_handle_ok_iff _ _ _ _).mp handled
  exact ⟨command_off_topic command, command_keeps_topics command⟩

/-- An action that is no event assigns neither the roster nor a presence. -/
theorem topics_after {action : Action} (noEvent : ∀ event order, action ≠ .event event order) :
    (cachesAfter env session action).roster = session.caches.roster ∧
      (cachesAfter env session action).presence = session.caches.presence := by
  cases action with
  | event event order => exact absurd rfl (noEvent event order)
  | receive tab raw order =>
      simp only [cachesAfter]
      cases handled : Pump.parseAndHandle env.commands session.caches raw with
      | error exception => exact ⟨rfl, rfl⟩
      | ok outcome => exact (parse_off_topic handled).2
  | _ => exact ⟨rfl, rfl⟩

theorem plain_keyed (keyed : PresenceKeyed session.caches) (action : Action) :
    PresenceKeyed (cachesAfter env session action) := by
  by_cases isEvent : ∃ event order, action = .event event order
  · obtain ⟨event, order, rfl⟩ := isEvent
    exact on_event_presence_keyed keyed event
  · have same := @topics_after env session action
      fun event order equal => isEvent ⟨event, order, equal⟩
    unfold PresenceKeyed
    rw [same.2]
    exact keyed

theorem Plain.step (plain : Plain session) {action : Action}
    (fired : Activity.step env session action = some next) : Plain next := by
  constructor
  · rw [(assigned_step fired).caches]
    exact plain_keyed plain.keyed action
  · intro tab pending awaits result now
    rcases Observed.commands_after fired awaits with before | ⟨raw, _, after, operation, resume, handled, _, same⟩
    · exact plain.pending tab pending before result now
    · subst same
      exact (parse_off_topic handled).1 result now

end Sessions

/-- The frame is what the caches hold, if it is of their topics. -/
def UpToDate (caches : Caches) (frame : Frame) : Prop :=
  ∀ topic : Topic, topic.about frame = true →
    cached caches topic = some frame ∧ (topic = .roster → caches.roster ≠ [])

theorem OffTopic.upToDate {frame : Frame} (off : OffTopic frame) (caches : Caches) :
    UpToDate caches frame := by
  intro topic about
  rw [off topic] at about
  cases about

theorem replayed_up_to_date {caches : Caches} {frame : Frame} (replayed : Replayed caches frame) :
    UpToDate caches frame := by
  intro topic about
  cases replayed with
  | roster filled =>
      cases topic with
      | roster => exact ⟨rfl, fun _ => filled⟩
      | presence jid => cases about
  | @presence jid shown status held =>
      cases topic with
      | roster => cases about
      | presence other =>
          have same : jid = other := of_decide_eq_true about
          subst same
          refine ⟨held, ?_⟩
          intro other
          cases other
  | joined room nick =>
      cases topic
      all_goals cases about
  | occupants room occupants =>
      cases topic
      all_goals cases about

section Parts

variable {env : Env} {session next : Session} {action : Action}
  {part : Lifecycle.Action Frame}

theorem concluding_off_topic {tab : Tab} {order : List Tab} {finish : Finish}
    (off : FinishOffTopic finish) (taken : Observed.concluding tab order finish = some part) :
    (∀ other frame, part ≠ .snapshotSend other frame) ∧
      (∀ other frame, part = .reply other frame → OffTopic frame) ∧
        ∀ frame members, Numbered.begun part = some (frame, members) → OffTopic frame := by
  cases finish with
  | done => cases taken
  | reply frame =>
      cases taken
      refine ⟨by simp, ?_, by simp [Numbered.begun]⟩
      intro other reply same
      cases same
      exact off
  | broadcast frame =>
      cases taken
      refine ⟨by simp, by simp, ?_⟩
      intro other members same
      cases same
      exact off
  | raise exception =>
      cases exception with
      | protocolError error =>
          cases taken
          refine ⟨by simp, ?_, by simp [Numbered.begun]⟩
          intro other reply same
          cases same
          exact error_off_topic _ _ _
      | _ =>
          cases taken
          exact ⟨by simp, by simp, by simp [Numbered.begun]⟩

/-- What an action sends to one tab alone, and what it begins to broadcast. -/
structure Speaks (session : Session) (action : Action) (part : Lifecycle.Action Frame) : Prop where
  directs : ∀ tab frame, part = .snapshotSend tab frame ∨ part = .reply tab frame →
    UpToDate session.caches frame
  begins : ∀ frame order, Numbered.begun part = some (frame, order) →
    (∃ event, action = .event event order ∧ eventFrame event = some frame) ∨
      OffTopic frame ∧ ∀ event members, action ≠ .event event members

theorem speaks_concluding (session : Session) (action : Action)
    (noEvent : ∀ event members, action ≠ .event event members) {tab : Tab} {order : List Tab}
    {finish : Finish} (off : FinishOffTopic finish)
    (taken : Observed.concluding tab order finish = some part) :
    Speaks session action part := by
  obtain ⟨noSnapshot, replies, begins⟩ := concluding_off_topic off taken
  constructor
  · rintro other frame (isSnapshot | isReply)
    · exact absurd isSnapshot (noSnapshot other frame)
    · exact (replies other frame isReply).upToDate _
  · intro frame members begun
    exact Or.inr ⟨begins frame members begun, noEvent⟩

theorem speaks_step (plain : Plain session)
    (fired : Activity.step env session action = some next)
    (takes : taken env session action = some part) : Speaks session action part := by
  cases fires_of_step fired with
  | lifecycle outside =>
      cases takes
      constructor
      · rintro tab frame (rfl | rfl)
        all_goals cases outside
      · intro frame order begun
        exfalso
        cases part
        all_goals simp [within, Numbered.begun] at outside begun
  | connectRaises =>
      cases takes
      refine ⟨by simp, ?_⟩
      intro frame order begun
      cases begun
      exact Or.inr ⟨error_off_topic _ _ _, by simp⟩
  | event visible =>
      simp only [taken, visible, Option.map_some, Option.some.injEq] at takes
      subst takes
      refine ⟨by simp, ?_⟩
      intro frame order begun
      cases begun
      exact Or.inl ⟨_, rfl, visible⟩
  | connected hidden =>
      simp only [taken, hidden, Option.map_none] at takes
      cases takes
  | @refused _ _ _ exception _ _ _ handled =>
      have off : FinishOffTopic (.raise exception) := trivial
      simp only [taken, handled] at takes
      exact speaks_concluding session _ (by simp) off takes
  | finished _ _ handled =>
      simp only [taken, handled] at takes
      exact speaks_concluding session _ (by simp) (parse_off_topic handled).1 takes
  | called _ _ handled =>
      simp only [taken, handled] at takes
      cases takes
  | operationEnds awaited =>
      simp only [taken, awaited, Option.bind_some] at takes
      exact speaks_concluding session _ (by simp) (plain.pending _ _ awaited _ _) takes
  | announced => cases takes
  | announceRaises => cases takes
  | rejoined => cases takes
  | @sent tab choice progress _ goesOn =>
      simp only [taken, goesOn, Option.map_some, Option.some.injEq] at takes
      subst takes
      cases progress with
      | send frame place =>
          refine ⟨?_, by simp [Observed.progressing, Numbered.begun]⟩
          rintro other shown (same | same)
          · cases same
            exact replayed_up_to_date (Observed.snapshot_frame plain.keyed goesOn)
          · cases same
      | ends => exact ⟨by simp [Observed.progressing], by simp [Observed.progressing, Numbered.begun]⟩
      | raises => exact ⟨by simp [Observed.progressing], by simp [Observed.progressing, Numbered.begun]⟩
  | sendRaises =>
      cases takes
      exact ⟨by simp, by simp [Numbered.begun]⟩

end Parts

structure Mirrors (caches : Caches) (fanout : Fanout Tab Frame) : Prop where
  presence : ∀ jid, fanout.latest (Topic.presence jid).about = caches.presence.lookup jid
  roster : fanout.latest Topic.roster.about = some (.roster caches.roster) ∨
    fanout.latest Topic.roster.about = none ∧ caches.roster = []

section Latest

variable {caches after : Caches} {fanout final : Fanout Tab Frame} {frame : Frame}

theorem Mirrors.cached (mirrors : Mirrors caches fanout) {topic : Topic}
    (latest : fanout.latest topic.about = some frame) :
    Broadcasts.cached caches topic = some frame := by
  cases topic with
  | roster =>
      rcases mirrors.roster with same | ⟨nothing, _⟩
      · exact same.symm.trans latest
      · cases nothing.symm.trans latest
  | presence jid => exact (mirrors.presence jid).symm.trans latest

theorem Mirrors.latest (mirrors : Mirrors caches fanout) {topic : Topic}
    (held : Broadcasts.cached caches topic = some frame)
    (filled : topic = .roster → caches.roster ≠ []) :
    fanout.latest topic.about = some frame := by
  cases topic with
  | roster =>
      rcases mirrors.roster with same | ⟨_, empty⟩
      · exact same.trans held
      · exact absurd empty (filled rfl)
  | presence jid => exact (mirrors.presence jid).trans held

theorem Mirrors.of_same (mirrors : Mirrors caches fanout)
    (latest : ∀ topic : Topic, final.latest topic.about = fanout.latest topic.about)
    (roster : after.roster = caches.roster) (presence : after.presence = caches.presence) :
    Mirrors after final := by
  constructor
  · intro jid
    rw [latest, presence]
    exact mirrors.presence jid
  · rw [latest, roster]
    exact mirrors.roster

theorem latest_begun {about : Frame → Bool} {order : List Tab}
    (begun : final.begun = fanout.begun ++ [(frame, order)]) :
    final.latest about = if about frame then some frame else fanout.latest about := by
  have opened : final.latest about = (fanout.opened frame order).latest about := by
    simp only [Fanout.latest, Fanout.opened, begun]
  rw [opened, Fanout.latest_opened]

theorem Mirrors.event (mirrors : Mirrors caches fanout) {event : Event} {order : List Tab}
    (visible : eventFrame event = some frame)
    (begun : final.begun = fanout.begun ++ [(frame, order)]) :
    Mirrors (onEvent caches event) final := by
  have latest : ∀ topic : Topic, final.latest topic.about =
      if topic.about frame then some frame else fanout.latest topic.about :=
    fun topic => latest_begun begun
  cases event with
  | presenceUpdate jid shown status =>
      cases visible
      constructor
      · intro other
        rw [latest]
        simp only [Topic.about, onEvent, Dict.lookup_set_item, decide_eq_true_eq]
        by_cases same : jid = other
        · simp [same]
        · rw [if_neg same, if_neg (Ne.symm same)]
          exact mirrors.presence other
      · rw [latest]
        exact mirrors.roster
  | rosterSnapshot items =>
      cases visible
      constructor
      · intro jid
        rw [latest]
        exact mirrors.presence jid
      · left
        rw [latest]
        rfl
  | connected jid => cases visible
  | _ =>
      cases visible
      have same : ∀ topic : Topic, final.latest topic.about = fanout.latest topic.about := by
        intro topic
        rw [latest]
        cases topic
        all_goals rfl
      exact mirrors.of_same same rfl rfl

end Latest

/-- The account is the group of its tabs, each topic is kept in the group, and the
caches hold the latest broadcasts. -/
structure Faithful (state : State) (fanout : Fanout Tab Frame) : Prop where
  tracks : Tracks state.book fanout
  kept : ∀ topic : Topic, fanout.Kept topic.about
  plain : Plain state.session
  mirrors : Mirrors state.session.caches fanout

def IsFaithful (state : State) : Prop := ∃ fanout, Faithful state fanout

section Runs

variable {env : Env} {state next : State} {fanout : Fanout Tab Frame}

theorem faithful_step {action : Action} (faithful : Faithful state fanout)
    (inTurn : InTurn env state action) (fired : Observed.step env state action = some next) :
    IsFaithful next := by
  obtain ⟨stepped, counted⟩ := Observed.step_cases fired
  have plain := faithful.plain.step stepped
  have caches := (assigned_step stepped).caches
  cases takes : taken env state.session action with
  | none =>
      rw [takes] at counted
      have same : state.book = next.book := Option.some.inj counted
      refine ⟨fanout, same ▸ faithful.tracks, faithful.kept, plain, ?_⟩
      rw [caches]
      by_cases isEvent : ∃ event order, action = .event event order
      · obtain ⟨event, order, rfl⟩ := isEvent
        have hidden : eventFrame event = none := Option.map_eq_none_iff.mp takes
        cases event with
        | connected jid => exact faithful.mirrors
        | _ => cases hidden
      · have topics := @topics_after env state.session action
          fun event order equal => isEvent ⟨event, order, equal⟩
        exact faithful.mirrors.of_same (fun _ => rfl) topics.1 topics.2
  | some part =>
      rw [takes] at counted
      have speaks := speaks_step faithful.plain stepped takes
      obtain ⟨final, run, enumerates, tracks⟩ := faithful.tracks.step counted
      have begun := Fanout.begun_run run
      rw [Numbered.begins_moves] at begun
      refine ⟨final, tracks, ?_, plain, ?_⟩
      · intro topic
        apply faithful.tracks.kept (faithful.kept topic) counted run enumerates (inTurn part takes)
        · intro tab
          cases topic
          all_goals rfl
        · intro tab frame direct about
          obtain ⟨held, filled⟩ := speaks.directs tab frame direct topic about
          exact faithful.mirrors.latest held filled
      · rw [caches]
        cases opens : Numbered.begun part with
        | none =>
            rw [opens, Option.toList_none, List.append_nil] at begun
            have noEvent : ∀ event order, action ≠ .event event order := by
              rintro event order rfl
              obtain ⟨frame, _, rfl⟩ := Option.map_eq_some_iff.mp takes
              cases opens
            have topics := @topics_after env state.session action noEvent
            apply faithful.mirrors.of_same _ topics.1 topics.2
            intro topic
            rw [Fanout.latest, begun, Fanout.latest]
        | some broadcast =>
            obtain ⟨frame, order⟩ := broadcast
            rw [opens, Option.toList_some] at begun
            rcases speaks.begins frame order opens with ⟨event, rfl, visible⟩ | ⟨off, noEvent⟩
            · exact faithful.mirrors.event visible begun
            · have topics := @topics_after env state.session action noEvent
              apply faithful.mirrors.of_same _ topics.1 topics.2
              intro topic
              rw [latest_begun begun, off topic]
              rfl

theorem faithful_run {actions : List Action} {final : State}
    (start : IsFaithful state)
    (inTurn : Conforms (Observed.step env) (InTurn env) state actions)
    (run : replay (Observed.step env) state actions = some final) :
    IsFaithful final :=
  run_invariant (fun _ _ _ clear ⟨_, faithful⟩ fired => faithful_step faithful clear fired)
    start inTurn run

theorem fresh_faithful : Faithful (Observed.opened fresh) (Fanout.idle [] []) := by
  have tracks : Tracks (Observed.opened fresh).book (Fanout.idle [] []) := Numbered.tracks_fresh
  refine ⟨tracks, ?_, ⟨empty_presence_keyed, ?_⟩, ⟨?_, Or.inr ⟨rfl, rfl⟩⟩⟩
  · intro topic
    exact ⟨tracks.sound, Fanout.ordered_idle [] [], Fanout.current_idle []⟩
  · intro tab pending awaits
    cases awaits
  · intro jid
    rfl

theorem sublist_of_lt {numbers : List Nat} (growing : numbers.Pairwise (· < ·)) {one other : Nat}
    (first : one ∈ numbers) (second : other ∈ numbers) (less : one < other) :
    [one, other].Sublist numbers := by
  induction growing with
  | nil => cases first
  | @cons head rest above growing induction =>
      rcases List.mem_cons.mp first with same | later
      · subst same
        apply List.Sublist.cons_cons
        apply List.singleton_sublist.mpr
        exact (List.mem_cons.mp second).resolve_left (by omega)
      · have bound := above one later
        apply List.Sublist.cons
        exact induction later ((List.mem_cons.mp second).resolve_left (by omega))

theorem same_order {first second : List Nat} (growing : first.Pairwise (· < ·))
    (also : second.Pairwise (· < ·)) : SameOrder first second := by
  intro one other inOrder oneSent otherSent
  have less : one < other := by
    have pair := growing.sublist inOrder
    simpa using pair
  exact sublist_of_lt also oneSent otherSent less

theorem quiet_book {book : Book Frame} (quiet : Quiet book.erase) : Quiet book.account := by
  constructor
  · intro tab
    have nothing := quiet.1 tab
    have mapped := Numbered.sending_map Prod.snd (book.account.handlers tab)
    exact Option.map_eq_none_iff.mp (mapped.symm.trans nothing)
  · exact List.map_eq_nil_iff.mp quiet.2

/-- In every run in which no broadcast overtakes an earlier one on the way to a tab,
all tabs get the broadcasts in one order, and whenever none is under way the last
roster and the last presence of each contact that a tab got are the cached ones. -/
theorem same_order_in_turn (env : Env) (actions : List Action) (final : Session)
    (run : replay (Activity.step env) fresh actions = some final)
    (inTurn : Conforms (Observed.step env) (InTurn env) (Observed.opened fresh) actions) :
    ∃ book, replay (Observed.step env) (Observed.opened fresh) actions = some ⟨final, book⟩ ∧
      book.erase = final.account ∧
        (∀ first second, SameOrder (numbersTo first book) (numbersTo second book)) ∧
          (Quiet final.account → ∀ tab ∈ final.account.subscribers, ∀ topic frame,
            lastFrame topic tab final.account.sent = some frame →
              cached final.caches topic = some frame) := by
  obtain ⟨book, counted, erased⟩ :=
    @Observed.observed_run env fresh final (Observed.opened fresh).book actions rfl run
  obtain ⟨fanout, faithful⟩ := faithful_run ⟨_, fresh_faithful⟩ inTurn counted
  obtain ⟨owner, link⟩ := faithful.tracks.link
  refine ⟨book, counted, erased, ?_, ?_⟩
  · have growing : ∀ tab, (numbersTo tab book).Pairwise (· < ·) := by
      intro tab
      have increasing := (faithful.kept .roster).ordered.increasing tab
      rwa [Fanout.numbersOf, link.sent] at increasing
    intro first second
    exact same_order (growing first) (growing second)
  · intro quiet tab subscribed topic frame last
    rw [← erased] at quiet subscribed last
    have settled := link.settled (quiet_book quiet)
    have among : tab ∈ fanout.members := link.members ▸ subscribed
    have got : fanout.lastTo topic.about tab = some frame := by
      rw [← last, Fanout.lastTo, link.sent, lastFrame]
      simp [Book.erase, Lifecycle.Account.map, List.filter_map, Function.comp_def]
    exact faithful.mirrors.cached ((faithful.kept topic).current.settled settled among got)

end Runs

def bobIs (shown : Show) : Event := .presenceUpdate "bob@example.com" shown none

def twoTabs : List Action :=
  [.lifecycle (.attach 0), .lifecycle .clientUp, .lifecycle (.connectReturns 0), .sent 0 none,
    .lifecycle (.attach 1), .sent 1 none]

def shownOnce : List Action :=
  twoTabs ++
    [.event (bobIs .online) [0, 1], .lifecycle (.eventSent 0 true), .lifecycle (.eventSent 0 true)]

def afterShownOnce : Session := (replay (Activity.step alice) fresh shownOnce).getD fresh

theorem first_in_turn {env : Env} {state : State} {action : Action}
    (first : ∀ pair ∈ (taken env state.session action).bind (Numbered.turn state.book),
      pair.1 = 0) : InTurn env state action := by
  intro part takes number tab turn earlier less
  have zero := first (number, tab) (by rw [takes]; exact turn)
  dsimp only at zero
  omega

theorem shown_once_to_both_tabs :
    lastFrame (.presence "bob@example.com") 1 afterShownOnce.account.sent =
        some (.presence "bob@example.com" .online none) ∧
      cached afterShownOnce.caches (.presence "bob@example.com") =
        some (.presence "bob@example.com" .online none) := by
  have first : Conforms (Observed.step alice) (fun state action =>
      ∀ pair ∈ (taken alice state.session action).bind (Numbered.turn state.book), pair.1 = 0)
      (Observed.opened fresh) shownOnce := by decide
  have inTurn := first.mono fun _ _ => first_in_turn
  obtain ⟨_, _, _, _, latest⟩ :=
    same_order_in_turn alice shownOnce afterShownOnce rfl inTurn
  refine ⟨rfl, latest ⟨?_, rfl⟩ 1 (by decide) _ _ rfl⟩
  intro tab
  match tab with
  | 0 => rfl
  | 1 => rfl
  | later + 2 => rfl

/-- The second presence overtakes the first on the way to the second tab. -/
def overtaken : List Action :=
  twoTabs ++
    [.event (bobIs .online) [0, 1], .event (bobIs .away) [0, 1], .lifecycle (.eventSent 1 true),
      .lifecycle (.eventSent 0 true), .lifecycle (.eventSent 0 true),
      .lifecycle (.eventSent 0 true)]

def afterOvertaken : State :=
  (replay (Observed.step alice) (Observed.opened fresh) overtaken).getD (Observed.opened fresh)

theorem overtaken_at_the_second_tab :
    replay (Observed.step alice) (Observed.opened fresh) overtaken = some afterOvertaken ∧
      afterOvertaken.session.account.subscribers = [1, 0] ∧ Quiet afterOvertaken.session.account ∧
        ¬SameOrder (numbersTo 0 afterOvertaken.book) (numbersTo 1 afterOvertaken.book) ∧
          lastFrame (.presence "bob@example.com") 1 afterOvertaken.session.account.sent =
              some (.presence "bob@example.com" .online none) ∧
            cached afterOvertaken.session.caches (.presence "bob@example.com") =
              some (.presence "bob@example.com" .away none) := by
  refine ⟨rfl, rfl, ⟨?_, rfl⟩, ?_, rfl, rfl⟩
  · intro tab
    match tab with
    | 0 => rfl
    | 1 => rfl
    | later + 2 => rfl
  · intro same
    have zero : numbersTo 0 afterOvertaken.book = [0, 1] := rfl
    have one : numbersTo 1 afterOvertaken.book = [1, 0] := rfl
    rw [zero, one] at same
    exact absurd (same 0 1 (by decide) (by decide) (by decide)) (by decide)

end PyConduit.Broadcasts
