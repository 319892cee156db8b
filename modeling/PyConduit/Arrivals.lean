import PyConduit.Broadcasts
import PyConduit.Ledgers
import PyConduit.Origins
import PyConduit.SiteViews
import PyConduit.World

/-!
# What the clients report

Messages of others, the comings and goings in rooms and requests to be a contact are told by
events of the client alone. They are followed from the client to the pages: none is lost on the
way, none comes twice, and none comes to a tab of another account.
-/

namespace PyConduit.Arrivals

open Protocol Replay Activity GuardedRun
open Commands (Finish Plan)
open Lifecycle (Tab)
open Observed (taken)
open Origins (Origin)
open InFlight (told due)

set_option autoImplicit false

def isReport : Frame → Bool
  | .message message => message.direction = .incoming
  | .mucMessage _ _ _ _ _ _ _ => true
  | .mucPresence _ _ _ => true
  | .subscriptionRequest _ => true
  | _ => false

def report (frame : Frame) : Option Frame := if isReport frame then some frame else none

def reported (tab : Tab) (session : Session) : Action → List Frame
  | .event event _ =>
      if tab ∈ session.account.subscribers then ((eventFrame event).bind report).toList else []
  | _ => []

def PlanQuiet : Plan → Prop
  | .finish finish => ∀ frame ∈ finish.frame, report frame = none
  | .call _ resume => ∀ result now, ∀ frame ∈ (resume result now).frame, report frame = none

section Commands

variable {env : Commands.Env} {caches after : Caches} {message : ClientMessage} {plan : Plan}

theorem quiet_unguarded {Value : Type} {returned : Value → String → Finish}
    {result : Except String Value} {now : String}
    (quiet : ∀ value, ∀ frame ∈ (returned value now).frame, report frame = none) :
    ∀ frame ∈ (Commands.unguarded returned result now).frame, report frame = none := by
  cases result with
  | ok value => exact quiet value
  | error text =>
      intro frame ends
      cases ends

theorem plan_quiet (handled : Commands.handleCommand env caches message = .ok (after, plan)) :
    PlanQuiet plan := by
  cases Commands.ran_of_command handled with
  | tooLong | notAllowed =>
      intro frame ends
      cases ends
      rfl
  | sendMessage | sendMuc =>
      intro result now frame ends
      cases result with
      | ok msgId =>
          cases ends
          try rfl
      | error text =>
          cases ends
          rfl
  | loadHistory | leaveRoom | discoServers =>
      intro result now
      apply quiet_unguarded
      intro value frame ends
      cases ends
      rfl
  | _ =>
      intro result now
      apply quiet_unguarded
      intro value frame ends
      cases ends

end Commands

/-- Nothing but the events of the client has anything to report. -/
structure Quiet (session : Session) : Prop where
  handlers : InFlight.Handlers (fun frame => report frame = none) session.account
  distinct : InFlight.Distinct session.account
  keyed : PresenceKeyed session.caches
  commands : ∀ tab, ∀ pending ∈ session.commands tab,
    PlanQuiet (.call pending.operation pending.resume)

section Sessions

variable {env : Env} {session next : Session} {action : Action} {part : Lifecycle.Action Frame}

theorem fresh_quiet : Quiet fresh := by
  refine ⟨InFlight.fresh_handlers _, ?_, empty_presence_keyed, ?_⟩
  · intro task among
    cases among
  · intro tab pending suspended
    cases suspended

theorem replayed_quiet {frame : Frame} (replayed : Observed.Replayed session.caches frame) :
    report frame = none := by
  cases replayed
  all_goals rfl

/-- What an action brings in that is no event is no report. -/
theorem origin_quiet (quiet : Quiet session) {frame : Frame}
    (noEvent : ∀ event order, action ≠ .event event order)
    (origin : Origin env session action part frame) : report frame = none := by
  cases origin with
  | error => rfl
  | event same => exact absurd same (noEvent _ _)
  | finishes same handled _ ends =>
      obtain ⟨message, _, command⟩ := (Pump.parse_and_handle_ok_iff _ _ _ _).mp handled
      exact plan_quiet command _ ends
  | answers same suspended _ ends => exact quiet.commands _ _ suspended _ _ _ ends
  | replays _ _ goesOn => exact replayed_quiet (Observed.snapshot_frame quiet.keyed goesOn)

theorem news_concluding {tab : Tab} {order : List Tab} {finish : Finish}
    (takes : Observed.concluding tab order finish = some part) : InFlight.news part = none := by
  cases finish with
  | done => cases takes
  | reply frame =>
      cases takes
      rfl
  | broadcast frame =>
      cases takes
      rfl
  | raise exception =>
      cases exception
      all_goals
        cases takes
        rfl

theorem news_of_taken (fired : Activity.step env session action = some next)
    (takes : taken env session action = some part) :
    (InFlight.news part = none ∧ ∀ event order, action ≠ .event event order) ∨
      ∃ event order, action = .event event order ∧ eventFrame event = InFlight.news part := by
  cases fires_of_step fired with
  | lifecycle outside =>
      cases takes
      refine .inl ⟨?_, by simp⟩
      cases part
      all_goals first | rfl | cases outside
  | connectRaises =>
      cases takes
      exact .inl ⟨rfl, by simp⟩
  | event visible =>
      simp only [taken, visible, Option.map_some, Option.some.injEq] at takes
      subst takes
      exact .inr ⟨_, _, rfl, visible⟩
  | connected hidden =>
      simp only [taken, hidden, Option.map_none] at takes
      cases takes
  | refused _ _ handled =>
      simp only [taken, handled] at takes
      exact .inl ⟨news_concluding takes, by simp⟩
  | finished _ _ handled =>
      simp only [taken, handled] at takes
      exact .inl ⟨news_concluding takes, by simp⟩
  | called _ _ handled =>
      simp only [taken, handled] at takes
      cases takes
  | operationEnds suspended =>
      simp only [taken, suspended, Option.bind_some] at takes
      exact .inl ⟨news_concluding takes, by simp⟩
  | @sent tab choice progress _ goesOn =>
      simp only [taken, goesOn, Option.map_some, Option.some.injEq] at takes
      subst takes
      cases progress
      all_goals exact .inl ⟨rfl, by simp⟩
  | sendRaises =>
      cases takes
      exact .inl ⟨rfl, by simp⟩
  | _ => cases takes

/-- What a tab has been told of reports and has still to be told grows by the events that begin
while it is subscribed. -/
theorem reported_step (quiet : Quiet session) (subscribed : session.account.subscribers.Nodup)
    (fired : Activity.step env session action = some next) :
    Quiet next ∧ ∀ tab, (told report tab next.account.sent ++ due report tab next.account).Perm
      (told report tab session.account.sent ++ due report tab session.account ++
        reported tab session action) := by
  have viewed := Observed.taken_step fired
  have keyed : PresenceKeyed next.caches := by
    rw [(assigned_step fired).caches]
    exact Broadcasts.plain_keyed quiet.keyed action
  have commands : ∀ tab, ∀ pending ∈ next.commands tab,
      PlanQuiet (.call pending.operation pending.resume) := by
    intro tab pending suspended
    rcases Observed.commands_after fired suspended with
      before | ⟨raw, _, after, operation, resume, handled, _, rfl⟩
    · exact quiet.commands tab pending before
    · obtain ⟨message, _, command⟩ := (Pump.parse_and_handle_ok_iff _ _ _ _).mp handled
      exact plan_quiet command
  cases takes : taken env session action with
  | none =>
      rw [takes] at viewed
      have same : session.account = next.account := Option.some.inj viewed
      refine ⟨⟨same ▸ quiet.handlers, same ▸ quiet.distinct, keyed, commands⟩, ?_⟩
      intro tab
      have nothing : reported tab session action = [] := by
        cases action with
        | event event order =>
            have hidden : eventFrame event = none := Option.map_eq_none_iff.mp takes
            simp [reported, hidden]
        | _ => rfl
      rw [nothing, List.append_nil, same]
  | some part =>
      rw [takes] at viewed
      have silent : InFlight.news part = none → ∀ frame, Origins.brought part = some frame →
          report frame = none := by
        intro nothing frame brings
        rcases news_of_taken fired takes with ⟨_, noEvent⟩ | ⟨event, order, same, visible⟩
        · exact origin_quiet quiet noEvent (Origins.origin_of_step fired takes brings)
        · subst same
          rw [nothing] at visible
          simp [taken, visible] at takes
      have alone : ∀ entry, InFlight.direct part = some entry →
          InFlight.news part = none ∧ Numbered.begun part = none := by
        intro entry addressed
        cases part
        all_goals first | exact ⟨rfl, rfl⟩ | cases addressed
      have told : ∀ tab, InFlight.newsTo report tab session.account part =
          reported tab session action := by
        intro tab
        rcases news_of_taken fired takes with ⟨nothing, noEvent⟩ | ⟨event, order, same, visible⟩
        · have nobody : reported tab session action = [] := by
            cases action with
            | event event order => exact absurd rfl (noEvent event order)
            | _ => rfl
          simp [InFlight.newsTo, nothing, nobody]
        · subst same
          rw [InFlight.newsTo, reported, visible]
      obtain ⟨handlers, distinct, balance⟩ := @InFlight.due_step _ _ report (lifecycleEnv env)
        session.account next.account part (fun _ => rfl) quiet.handlers subscribed quiet.distinct
        (fun frame order begins nothing => silent nothing frame (by rw [Origins.brought, begins]; rfl))
        (fun entry addressed => silent (alone entry addressed).1 entry.2
          (by rw [Origins.brought, (alone entry addressed).2, addressed]; rfl))
        viewed
      refine ⟨⟨handlers, distinct, keyed, commands⟩, ?_⟩
      intro tab
      rw [← told tab]
      exact balance tab

/-- A tab of an account has been told what was reported to it, but for what is still ahead. -/
structure Accounted (tab : Tab) (env : Env) (session : Session) (reports : List Frame) : Prop where
  reached : ∃ before, replay (Activity.step env) fresh before = some session
  quiet : Quiet session
  balance :
    (told report tab session.account.sent ++ due report tab session.account).Perm reports

theorem accounted_kept (tab : Tab) :
    Ledgers.Kept (Accounted tab) fun _ session action => reported tab session action := by
  refine ⟨?_, ?_, fun _ _ _ => rfl⟩
  · intro env
    exact ⟨⟨[], rfl⟩, fresh_quiet, List.Perm.refl _⟩
  · intro env session next reports action accounted fired
    obtain ⟨before, run⟩ := accounted.reached
    obtain ⟨quiet, balance⟩ := reported_step accounted.quiet (Observed.strangers run).1 fired
    exact ⟨⟨before ++ [action], replay_snoc run fired⟩, quiet,
      (balance tab).trans (accounted.balance.append_right _)⟩

end Sessions

def reportedTo (index : Nat) (tab : Tab) (world : World.State) : World.Action → List Frame
  | .site (.account other (.event event _)) =>
      if other = index ∧ tab ∈ (world.site.sessions index).account.subscribers then
        ((eventFrame event).bind report).toList
      else []
  | _ => []

def handles (browser socket : Nat) (world : World.State) : World.Action → List Frame
  | .shows other second =>
      if other = browser ∧ second = socket then
        ((Site.framesTo (World.tabOf browser socket) world.site.delivered)[world.shown
          (World.tabOf browser socket)]?).toList
      else []
  | _ => []

def onTheWay (world : World.State) (browser socket : Nat) : List Frame :=
  (Site.framesTo (World.tabOf browser socket) world.site.delivered).drop
    (world.shown (World.tabOf browser socket))

section Worlds

variable {env : Site.Env} {world next : World.State} {index browser socket : Nat}

theorem delivered_step {site after : Site.State} {action : Site.Action}
    (fired : Site.step env site action = some after) :
    ∃ new, after.delivered = site.delivered ++ new := by
  have attached : ∀ {before : Site.State} {tab : Tab} {index : Nat},
      Site.attachTo env before tab index = some after →
        ∃ new, after.delivered = before.delivered ++ new := by
    intro before tab index fired
    obtain ⟨session, _, rfl⟩ := Option.map_eq_some_iff.mp fired
    exact ⟨_, rfl⟩
  cases Site.fires_of_step fired with
  | rejected => exact ⟨[], (List.append_nil _).symm⟩
  | denied => exact ⟨_, rfl⟩
  | @attached tab identity _ _ _ attaches =>
      unfold Site.attach at attaches
      cases filed : site.registry identity.jid with
      | some index =>
          simp only [filed] at attaches
          exact attached attaches
      | none =>
          simp only [filed] at attaches
          obtain ⟨new, grown⟩ := attached attaches
          exact ⟨new, grown⟩
  | account => exact ⟨_, rfl⟩
  | expired =>
      unfold Site.onIdleExpired
      split_ifs
      all_goals exact ⟨_, rfl⟩

/-- What a page has handled of a socket is the beginning of what the socket was given. -/
structure Handled (browser socket : Nat) (world : World.State) (frames : List Frame) : Prop where
  bound : world.shown (World.tabOf browser socket) ≤
    (Site.framesTo (World.tabOf browser socket) world.site.delivered).length
  same : frames = (Site.framesTo (World.tabOf browser socket) world.site.delivered).take
    (world.shown (World.tabOf browser socket))

theorem Handled.grows {frames : List Frame} (handled : Handled browser socket world frames)
    {site : Site.State} {new : List (Tab × Frame)} {heard : Tab → Nat}
    (grown : site.delivered = world.site.delivered ++ new) :
    Handled browser socket { world with site := site, heard := heard } frames := by
  constructor
  · dsimp only
    rw [grown, Site.frames_to_append, List.length_append]
    exact handled.bound.trans (Nat.le_add_right _ _)
  · dsimp only
    rw [grown, Site.frames_to_append, List.take_append_of_le_length handled.bound]
    exact handled.same

theorem handled_step {action : World.Action} {frames : List Frame}
    (handled : Handled browser socket world frames) (fired : World.step env world action = some next) :
    Handled browser socket next (frames ++ handles browser socket world action) := by
  have quiet : (∀ other second, action ≠ .shows other second) →
      handles browser socket world action = [] := by
    intro others
    cases action with
    | shows other second => exact absurd rfl (others other second)
    | _ => rfl
  cases World.fires_of_step fired with
  | page =>
      rw [quiet (by simp), List.append_nil]
      exact ⟨handled.bound, handled.same⟩
  | @shows other second frame screen waits _ =>
      by_cases same : World.tabOf other second = World.tabOf browser socket
      · obtain ⟨rfl, rfl⟩ := World.tab_inj same
        have counted : World.count world.shown (World.tabOf other second) (World.tabOf other second) =
            world.shown (World.tabOf other second) + 1 := Function.update_self ..
        have shows : handles other second world (.shows other second) = [frame] := by
          simp [handles, waits]
        constructor
        · dsimp only
          rw [counted]
          exact (List.getElem?_eq_some_iff.mp waits).1
        · dsimp only
          have site : (World.setScreen world other screen).site = world.site := rfl
          rw [counted, shows, handled.same, List.take_add_one, site, waits]
          rfl
      · have apart : ¬(other = browser ∧ second = socket) := by
          rintro ⟨rfl, rfl⟩
          exact same rfl
        have others : World.count world.shown (World.tabOf other second) (World.tabOf browser socket) =
            world.shown (World.tabOf browser socket) := Function.update_of_ne (Ne.symm same) ..
        rw [handles, if_neg apart, List.append_nil]
        constructor
        · dsimp only
          rw [others]
          exact handled.bound
        · dsimp only
          rw [others]
          exact handled.same
  | site _ inner =>
      obtain ⟨new, grown⟩ := delivered_step inner
      rw [quiet (by simp), List.append_nil]
      exact handled.grows grown
  | hears _ inner =>
      obtain ⟨new, grown⟩ := delivered_step inner
      rw [quiet (by simp), List.append_nil]
      exact handled.grows grown

theorem handled_run {preferences : Nat → Option String} {actions : List World.Action}
    (run : replay (World.step env) (World.start preferences) actions = some world)
    (browser socket : Nat) :
    Handled browser socket world
      (collect (World.step env) (handles browser socket) (World.start preferences) actions) := by
  have each : ∀ current action after frames, Handled browser socket current frames →
      World.step env current action = some after →
        Handled browser socket after (frames ++ handles browser socket current action) := by
    intro current action after frames handled fired
    exact handled_step handled fired
  exact collect_invariant each ⟨Nat.le_refl 0, rfl⟩ run

structure Followed (env : Site.Env) (index : Nat) (tab : Tab) (world : World.State)
    (reports : List Frame) : Prop where
  sound : Site.Sound env world.site
  logged : Site.Logged world.site
  ledger : Ledgers.Ledger (Accounted tab) env index world.site reports

theorem start_followed (env : Site.Env) (index : Nat) (tab : Tab)
    (preferences : Nat → Option String) :
    Followed env index tab (World.start preferences) [] :=
  ⟨Site.empty_sound env, @Site.delivered_run env Site.empty [] rfl,
    Ledgers.empty_ledger (accounted_kept tab) env index⟩

theorem reported_to_site (index : Nat) (tab : Tab) (action : Site.Action) :
    reportedTo index tab world (.site action) =
      Ledgers.contributed (fun _ => reported tab) env index world.site action := by
  cases action with
  | connect => rfl
  | account other inner =>
      by_cases own : other = index
      · subst own
        cases inner
        all_goals simp [reportedTo, Ledgers.contributed, reported]
      · cases inner
        all_goals simp [reportedTo, Ledgers.contributed, own]

theorem followed_step {tab : Tab} {action : World.Action} {reports : List Frame}
    (followed : Followed env index tab world reports)
    (fired : World.step env world action = some next) :
    Followed env index tab next (reports ++ reportedTo index tab world action) := by
  have stays : ∀ {after : World.State}, after.site = world.site →
      Followed env index tab after (reports ++ []) := by
    intro after same
    rw [List.append_nil]
    exact ⟨same ▸ followed.sound, same ▸ followed.logged, same ▸ followed.ledger⟩
  have acts : ∀ {inner : Site.Action} {site : Site.State},
      Site.step env world.site inner = some site →
        Site.Sound env site ∧ Site.Logged site ∧ Ledgers.Ledger (Accounted tab) env index site
          (reports ++ Ledgers.contributed (fun _ => reported tab) env index world.site inner) := by
    intro inner site stepped
    exact ⟨Site.sound_step followed.sound stepped,
      Site.logged_step followed.sound followed.logged stepped,
      Ledgers.ledger_step (accounted_kept tab) followed.ledger stepped⟩
  cases World.fires_of_step fired with
  | page => exact stays rfl
  | shows => exact stays rfl
  | site _ inner =>
      obtain ⟨sound, logged, ledger⟩ := acts inner
      rw [@reported_to_site env]
      exact ⟨sound, logged, ledger⟩
  | hears _ inner =>
      obtain ⟨sound, logged, ledger⟩ := acts inner
      have nothing : ∀ account other raw order, Ledgers.contributed (fun _ => reported tab) env index
          world.site (.account account (.receive other raw order)) = [] := by
        intro account other raw order
        exact ite_self []
      rw [nothing] at ledger
      exact ⟨sound, logged, ledger⟩

theorem followed_run {preferences : Nat → Option String} {actions : List World.Action}
    (run : replay (World.step env) (World.start preferences) actions = some world) (index : Nat)
    (tab : Tab) :
    Followed env index tab world
      (collect (World.step env) (reportedTo index tab) (World.start preferences) actions) := by
  have each : ∀ current action after reports, Followed env index tab current reports →
      World.step env current action = some after →
        Followed env index tab after (reports ++ reportedTo index tab current action) := by
    intro current action after reports followed fired
    exact followed_step followed fired
  exact collect_invariant each (start_followed env index tab preferences) run

theorem told_reports (tab : Tab) (sent : List (Tab × Frame)) :
    told report tab sent = (Site.framesTo tab sent).filter isReport := by
  rw [told, Site.framesTo, List.filter_filterMap]
  apply List.filterMap_congr
  intro send _
  by_cases own : send.1 = tab
  · simp only [own, if_true, report, Option.filter_some]
  · simp only [own, if_false, Option.filter_none]

theorem Followed.balance {tab : Tab} {reports : List Frame}
    (followed : Followed env index tab world reports)
    (attached : world.site.connections tab = .attached index) :
    ((Site.framesTo tab world.site.delivered).filter isReport ++
      due report tab (world.site.sessions index).account).Perm reports := by
  rw [followed.logged.attached tab index attached, ← told_reports]
  exact followed.ledger.holds.balance

/-- In every run of browsers and server what the client of an account reports while a tab is
subscribed comes to the page of the tab, once each: the page has handled it, or the socket or a
handler of the account has it still ahead. Nothing else comes to the page of this kind. -/
theorem reports_reach_pages {preferences : Nat → Option String} {actions : List World.Action}
    (run : replay (World.step env) (World.start preferences) actions = some world)
    (attached : world.site.connections (World.tabOf browser socket) = .attached index) :
    ((collect (World.step env) (handles browser socket) (World.start preferences) actions).filter
        isReport ++
      (onTheWay world browser socket).filter isReport ++
        due report (World.tabOf browser socket) (world.site.sessions index).account).Perm
      (collect (World.step env) (reportedTo index (World.tabOf browser socket))
        (World.start preferences) actions) := by
  have balance := (followed_run run index (World.tabOf browser socket)).balance attached
  rw [(handled_run run browser socket).same, onTheWay, ← List.filter_append, List.take_append_drop]
  exact balance

end Worlds

def hello : Frame :=
  .message ⟨.str "bob@example.com", .str "bob@example.com", .str "alice@example.com", .str "hello",
    "1", "now", .incoming⟩

/-- Bob's message has come to the first of alice's browsers, and is yet to be sent to the other. -/
def bobSaysHello : List World.Action :=
  [.site (.connect 0), .site (.account 0 (.lifecycle .clientUp)),
    .site (.account 0 (.lifecycle (.connectReturns 0))), .page 0 (.opens 0), .shows 0 0,
    .site (.account 0 (.sent 0 none)), .site (.connect 2), .site (.account 0 (.sent 2 none)),
    .site (.account 0
      (.event (.incomingMessage "bob@example.com" "alice@example.com" "hello" "1" "now") [0, 2])),
    .shows 0 0]

def afterHello : World.State :=
  (replay (World.step Isolation.office) (World.start fun _ => none) bobSaysHello).getD
    (World.start fun _ => none)

theorem hello_comes_once :
    ((collect (World.step Isolation.office) (handles 0 0) (World.start fun _ => none)
        bobSaysHello).filter isReport ++ (onTheWay afterHello 0 0).filter isReport ++
      due report (World.tabOf 0 0) (afterHello.site.sessions 0).account).Perm [hello] ∧
    ((collect (World.step Isolation.office) (handles 1 0) (World.start fun _ => none)
        bobSaysHello).filter isReport ++ (onTheWay afterHello 1 0).filter isReport ++
      due report (World.tabOf 1 0) (afterHello.site.sessions 0).account).Perm [hello] := by
  have ran : replay (World.step Isolation.office) (World.start fun _ => none) bobSaysHello =
      some afterHello := rfl
  exact ⟨reports_reach_pages ran rfl, reports_reach_pages ran rfl⟩

end PyConduit.Arrivals
