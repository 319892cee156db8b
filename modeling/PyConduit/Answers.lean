import PyConduit.Broadcasts
import PyConduit.Origins

/-!
# Questions and answers

Two commands ask for something: `load_history` for a page of a conversation, and
`disco_servers` for the rooms of the configured servers. The answer goes to the tab that
asked, from a command that other tabs, events and broadcasts run past meanwhile.
-/

namespace PyConduit.Answers

open Protocol Replay Activity GuardedRun
open Commands (Finish Plan Operation)
open Lifecycle (Tab)
open Observed (taken Replayed)
open InFlight (Carries told told_step toldAlone)

set_option autoImplicit false

inductive Question
  | history (conversation : Json)
  | servers

def questionOf (message : ClientMessage) : Option Question :=
  match message.type with
  | .loadHistory =>
      if ClientMessage.missing (message.get "jid") then none else some (.history (message.get "jid"))
  | .discoServers => some .servers
  | _ => none

def answerOf : Frame → Option Question
  | .history conversation _ _ => some (.history conversation)
  | .discoServers _ => some .servers
  | _ => none

def awaits : Operation → Option Question
  | .fetchHistory peer _ _ => some (.history peer)
  | .discoRooms _ => some .servers
  | _ => none

def awaited (session : Session) (tab : Tab) : Option Question :=
  (session.commands tab).bind fun pending => awaits pending.operation

def asked (env : Env) (tab : Tab) : Action → List Question
  | .receive other raw _ =>
      match parseClientMessage env.commands.repr raw with
      | .ok message => if other = tab then (questionOf message).toList else []
      | .error _ => []
  | _ => []

/-- The command answers the question when it ends, unless it ends the tab. -/
def Ends (question : Option Question) : Finish → Prop
  | .done => question = none
  | .reply frame => answerOf frame = question
  | .broadcast frame => question = none ∧ answerOf frame = none
  | .raise (.protocolError _) => question = none
  | .raise _ => True

def PlanAnswers (question : Option Question) : Plan → Prop
  | .finish finish => question = none ∧ Ends none finish
  | .call operation resume =>
      question = awaits operation ∧ ∀ result now, Ends (awaits operation) (resume result now)

section Commands

variable {env : Commands.Env} {caches after : Caches} {message : ClientMessage} {plan : Plan}

theorem unguarded_ends {Value : Type} {question : Option Question}
    {returned : Value → String → Finish} (ends : ∀ value now, Ends question (returned value now))
    (result : Except String Value) (now : String) :
    Ends question (Commands.unguarded returned result now) := by
  cases result with
  | ok value => exact ends value now
  | error text => trivial

theorem command_answers (handled : Commands.handleCommand env caches message = .ok (after, plan)) :
    PlanAnswers (questionOf message) plan := by
  cases Commands.ran_of_command handled with
  | tooLong type =>
      rcases type with ⟨type, _⟩ | ⟨type, _⟩
      all_goals exact ⟨by rw [questionOf, type], rfl⟩
  | notAllowed type => exact ⟨by rw [questionOf, type], rfl⟩
  | loadHistory type =>
      have present := (Commands.load_history_of_call handled).1
      refine ⟨by simp [questionOf, type, present, awaits], ?_⟩
      exact unguarded_ends fun _ _ => rfl
  | discoServers type =>
      refine ⟨by simp [questionOf, type, awaits], ?_⟩
      exact unguarded_ends fun _ _ => rfl
  | sendMessage type =>
      refine ⟨by simp [questionOf, type, awaits], ?_⟩
      intro result now
      cases result with
      | ok msgId => exact ⟨rfl, rfl⟩
      | error text => exact rfl
  | sendMuc type =>
      refine ⟨by simp [questionOf, type, awaits], ?_⟩
      intro result now
      cases result with
      | ok msgId => exact rfl
      | error text => exact rfl
  | leaveRoom type =>
      refine ⟨by simp [questionOf, type, awaits], ?_⟩
      exact unguarded_ends fun _ _ => ⟨rfl, rfl⟩
  | setPresence type
  | addContact type
  | removeContact type
  | subscription type
  | joinRoom type =>
      refine ⟨by simp [questionOf, type, awaits], ?_⟩
      exact unguarded_ends fun _ _ => rfl

theorem question_of_error {exception : Commands.PyException}
    (raised : Commands.handleCommand env caches message = .error exception) :
    questionOf message = none := by
  cases type : message.type with
  | loadHistory =>
      cases absent : ClientMessage.missing (message.get "jid") with
      | true => simp [questionOf, type, absent]
      | false =>
          have handled := (Commands.load_history_ok_iff env caches message _).mpr
            ⟨by simpa using absent, rfl⟩
          simp [Commands.handleCommand, type, handled] at raised
  | discoServers => simp [Commands.handleCommand, type, Commands.cmdDiscoServers] at raised
  | _ => simp [questionOf, type]

end Commands

section Parsing

variable {env : Env} {caches after : Caches} {raw : Json} {plan : Plan} {tab : Tab}
  {order : List Tab}

theorem asked_of_handled
    (handled : Pump.parseAndHandle env.commands caches raw = .ok (after, plan)) :
    ∃ question, asked env tab (.receive tab raw order) = question.toList ∧
      PlanAnswers question plan := by
  obtain ⟨message, parsed, command⟩ := (Pump.parse_and_handle_ok_iff _ _ _ _).mp handled
  refine ⟨questionOf message, ?_, command_answers command⟩
  simp [asked, parsed]

theorem asked_of_raised {exception : Commands.PyException}
    (raised : Pump.parseAndHandle env.commands caches raw = .error exception) :
    asked env tab (.receive tab raw order) = [] := by
  cases parsed : parseClientMessage env.commands.repr raw with
  | error error => simp [asked, parsed]
  | ok message =>
      have command : Commands.handleCommand env.commands caches message = .error exception := by
        unfold Pump.parseAndHandle at raised
        rw [parsed] at raised
        exact raised
      simp [asked, parsed, question_of_error command]

theorem asked_elsewhere {other : Tab} (apart : other ≠ tab) :
    asked env tab (.receive other raw order) = [] := by
  cases parsed : parseClientMessage env.commands.repr raw with
  | error error => simp [asked, parsed]
  | ok message => simp [asked, parsed, apart]

end Parsing

def answered (env : Env) (session : Session) (tab : Tab) (action : Action) : List Question :=
  match taken env session action with
  | some part => toldAlone answerOf tab part
  | none => []

/-- What an action is to the questions of one tab. -/
inductive Turn (env : Env) (tab : Tab) (session : Session) (action : Action) (next : Session) : Prop
  | quiet (silent : asked env tab action = []) (untold : answered env session tab action = [])
      (same : awaited next tab = awaited session tab)
  | asks (pumping : session.account.handlers tab = .pumping) (free : awaited session tab = none)
      (own : asked env tab action = (awaited next tab).toList)
      (untold : answered env session tab action = [])
  | answers {question : Question} (pumping : session.account.handlers tab = .pumping)
      (waits : awaited session tab = some question) (silent : asked env tab action = [])
      (own : answered env session tab action = [question]) (done : awaited next tab = none)
  | ends (silent : asked env tab action = []) (untold : answered env session tab action = [])
      (left : next.account.handlers tab = .ended)

section Turns

variable {env : Env} {session next : Session} {tab : Tab}

theorem told_alone_silent {action : Lifecycle.Action Frame} (silent : InFlight.direct action = none) :
    toldAlone answerOf tab action = [] := by
  rw [toldAlone, silent]

theorem told_alone_reply (other : Tab) (frame : Frame) :
    toldAlone answerOf tab (.reply other frame) =
      if other = tab then (answerOf frame).toList else [] := by
  by_cases same : other = tab
  · cases read : answerOf frame
    all_goals simp [toldAlone, InFlight.direct, told, same, read]
  · simp [toldAlone, InFlight.direct, told, same]

theorem told_alone_snapshot {other : Tab} {frame : Frame} (unread : answerOf frame = none) :
    toldAlone answerOf tab (.snapshotSend other frame) = [] := by
  simp [toldAlone, InFlight.direct, told, unread]

theorem commands_lifecycle {action : Lifecycle.Action Frame}
    (fired : lifecycle env session action = some next) : next.commands = session.commands := by
  obtain ⟨account, _, rfl⟩ := Option.map_eq_some_iff.mp fired
  rfl

theorem commands_conclude {order : List Tab} {finish : Finish}
    (fired : conclude env session tab order finish = some next) :
    next.commands = session.commands := by
  cases finish with
  | done =>
      cases fired
      rfl
  | reply frame => exact commands_lifecycle fired
  | broadcast frame => exact commands_lifecycle fired
  | raise exception =>
      cases exception
      all_goals exact commands_lifecycle fired

theorem commands_advance {progress : Progress}
    (fired : advance env session tab progress = some next) : next.commands = session.commands := by
  cases progress
  all_goals
    obtain ⟨middle, stepped, rfl⟩ := Option.map_eq_some_iff.mp fired
    exact @commands_lifecycle env session middle _ stepped

theorem awaited_of_commands (same : next.commands = session.commands) (tab : Tab) :
    awaited next tab = awaited session tab := by
  rw [awaited, awaited, same]

theorem told_concluding {other : Tab} {order : List Tab} {finish : Finish} {question : Option Question}
    (ends : Ends question finish) (stays : ∀ exception, finish = .raise exception → question = none) :
    (match Observed.concluding other order finish with
      | some part => toldAlone answerOf tab part
      | none => []) = if other = tab then question.toList else [] := by
  cases finish with
  | done =>
      have nothing : question = none := ends
      simp [Observed.concluding, nothing]
  | reply frame =>
      have answers : answerOf frame = question := ends
      simp only [Observed.concluding, told_alone_reply, answers]
  | broadcast frame =>
      have nothing : question = none := ends.1
      simp [Observed.concluding, nothing, toldAlone, InFlight.direct]
  | raise exception =>
      have nothing : question = none := stays exception rfl
      cases exception with
      | protocolError error =>
          simp [Observed.concluding, told_alone_reply, nothing, answerOf]
      | _ => simp [Observed.concluding, nothing, toldAlone, InFlight.direct]

theorem quiet_concluding {action : Action} {other : Tab} {order : List Tab} {finish : Finish}
    {question : Option Question} (silent : asked env tab action = [])
    (takes : taken env session action = Observed.concluding other order finish)
    (ends : Ends question finish) (stays : ∀ exception, finish = .raise exception → question = none)
    (unanswered : other = tab → question = none) (same : awaited next tab = awaited session tab) :
    Turn env tab session action next := by
  apply Turn.quiet silent _ same
  have heard := @told_concluding tab other order finish question ends stays
  rw [answered, takes, heard]
  split_ifs with own
  · rw [unanswered own]
    rfl
  · rfl

/-- The commands that are suspended will answer what they are about. -/
def Prepared (session : Session) : Prop :=
  ∀ tab pending, session.commands tab = some pending → ∀ result now,
    Ends (awaits pending.operation) (pending.resume result now)

theorem prepared_step (prepared : Prepared session) {action : Action}
    (fired : Activity.step env session action = some next) : Prepared next := by
  intro tab pending suspended result now
  rcases Observed.commands_after fired suspended with before | ⟨raw, order, after, operation, resume,
    handled, rfl, rfl⟩
  · exact prepared tab pending before result now
  · obtain ⟨question, _, _, ends⟩ := @asked_of_handled env _ _ raw _ tab order handled
    exact ends result now

theorem quiet_beside {action : Action} (silent : asked env tab action = [])
    (direct : ∀ part, taken env session action = some part →
      InFlight.direct part = none ∨ ∃ other frame, part = .snapshotSend other frame ∧
        answerOf frame = none)
    (same : next.commands = session.commands) : Turn env tab session action next := by
  apply Turn.quiet silent _ (awaited_of_commands same tab)
  cases takes : taken env session action with
  | none => rw [answered, takes]
  | some part =>
      rw [answered, takes]
      rcases direct part takes with nobody | ⟨other, frame, rfl, unread⟩
      · exact told_alone_silent nobody
      · exact told_alone_snapshot unread

theorem replayed_unread {caches : Caches} {frame : Frame} (replayed : Replayed caches frame) :
    answerOf frame = none := by
  cases replayed
  all_goals rfl

theorem ended_of_detach {middle : Session}
    (fired : lifecycle env middle (.detach tab) = some next) :
    next.account.handlers tab = .ended := by
  have stepped := lifecycle_view fired
  generalize next.account = after at stepped ⊢
  cases Lifecycle.fires_of_step stepped with
  | detach =>
      unfold Lifecycle.Account.detach
      dsimp only
      split_ifs
      all_goals
        simp [Lifecycle.Account.setHandler, Lifecycle.Account.startIdleTimer,
          Lifecycle.Account.cancelIdle]

theorem pumping_of_reply {middle : Session} {frame : Frame}
    (fired : lifecycle env middle (.reply tab frame) = some next) :
    middle.account.handlers tab = .pumping := by
  have stepped := lifecycle_view fired
  generalize next.account = after at stepped
  cases Lifecycle.fires_of_step stepped with
  | reply pumping => exact pumping

theorem awaited_update_self {question : Option Pending}
    (placed : next.commands = Function.update session.commands tab question) :
    awaited next tab = question.bind fun pending => awaits pending.operation := by
  rw [awaited, placed, Function.update_self]

theorem awaited_update {other : Tab} {question : Option Pending} (apart : other ≠ tab)
    (placed : next.commands = Function.update session.commands other question) :
    awaited next tab = awaited session tab := by
  rw [awaited, placed, Function.update_of_ne (Ne.symm apart), awaited]

/-- A command that asked something answers its tab, or ends it. -/
theorem turn_of_own_end (prepared : Prepared session)
    {result : (operation : Operation) → Except String operation.Value} {now : String}
    {order : List Tab} {pending : Pending} (suspended : session.commands tab = some pending)
    (stepped : conclude env { session with commands := Function.update session.commands tab none } tab
      order (pending.resume (result pending.operation) now) = some next) :
    Turn env tab session (.operationEnds tab result now order) next := by
  have ends := prepared tab pending suspended (result pending.operation) now
  have about : awaited session tab = awaits pending.operation := by
    rw [awaited, suspended, Option.bind_some]
  have done : awaited next tab = none := awaited_update_self (commands_conclude stepped)
  have takes : taken env session (.operationEnds tab result now order) =
      Observed.concluding tab order (pending.resume (result pending.operation) now) := by
    simp only [taken, suspended, Option.bind_some]
  cases asks : awaits pending.operation with
  | none =>
      rw [asks] at ends about
      exact quiet_concluding rfl takes ends (fun _ _ => rfl) (fun _ => rfl) (done.trans about.symm)
  | some question =>
      rw [asks] at ends about
      cases ending : pending.resume (result pending.operation) now with
      | done =>
          rw [ending] at ends
          cases ends
      | broadcast frame =>
          rw [ending] at ends
          cases ends.1
      | reply frame =>
          rw [ending] at ends stepped takes
          have answers : answerOf frame = some question := ends
          have ready := pumping_of_reply stepped
          have pumping : session.account.handlers tab = .pumping := ready
          apply Turn.answers pumping about rfl _ done
          rw [answered, takes]
          simp [Observed.concluding, told_alone_reply, answers]
      | raise exception =>
          rw [ending] at ends stepped takes
          cases exception with
          | protocolError error => cases ends
          | _ =>
              apply Turn.ends rfl _ (ended_of_detach stepped)
              rw [answered, takes]
              simp [Observed.concluding, toldAlone, InFlight.direct]

theorem turn_of_other_end {other : Tab} (apart : other ≠ tab)
    {result : (operation : Operation) → Except String operation.Value} {now : String}
    {order : List Tab} {pending : Pending} (suspended : session.commands other = some pending)
    (stepped : conclude env { session with commands := Function.update session.commands other none }
      other order (pending.resume (result pending.operation) now) = some next) :
    Turn env tab session (.operationEnds other result now order) next := by
  have away : awaited next tab = awaited session tab :=
    awaited_update apart (commands_conclude stepped)
  apply Turn.quiet rfl _ away
  have takes : taken env session (.operationEnds other result now order) =
      Observed.concluding other order (pending.resume (result pending.operation) now) := by
    simp only [taken, suspended, Option.bind_some]
  rw [answered, takes]
  cases pending.resume (result pending.operation) now with
  | done => rfl
  | reply frame => exact (told_alone_reply other frame).trans (if_neg apart)
  | broadcast frame => rfl
  | raise exception =>
      cases exception with
      | protocolError error => exact (told_alone_reply other _).trans (if_neg apart)
      | _ => rfl

theorem turn_of_step (keyed : PresenceKeyed session.caches) (prepared : Prepared session)
    {action : Action} (fired : Activity.step env session action = some next) (tab : Tab) :
    Turn env tab session action next := by
  cases fires_of_step fired with
  | @lifecycle action _ outside stepped =>
      apply quiet_beside rfl _ (commands_lifecycle stepped)
      intro part takes
      cases takes
      left
      cases action
      all_goals first | rfl | cases outside
  | connectRaises stepped =>
      apply quiet_beside rfl _ (commands_lifecycle stepped)
      intro part takes
      cases takes
      exact .inl rfl
  | event visible stepped =>
      have kept := commands_lifecycle stepped
      have same : next.commands = session.commands := kept
      apply quiet_beside rfl _ same
      intro part takes
      simp only [taken, visible, Option.map_some, Option.some.injEq] at takes
      subst takes
      exact .inl rfl
  | @connected event order hidden =>
      have silent : asked env tab (.event event order) = [] := rfl
      apply quiet_beside silent
      · intro part takes
        simp only [taken, hidden, Option.map_none] at takes
        cases takes
      · rfl
  | @refused other raw order exception _ _ _ handled stepped =>
      have silent : asked env tab (.receive other raw order) = [] := by
        by_cases own : other = tab
        · subst own
          exact asked_of_raised handled
        · exact asked_elsewhere own
      have ends : Ends none (.raise exception) := by
        cases exception
        all_goals trivial
      have takes : taken env session (.receive other raw order) =
          Observed.concluding other order (.raise exception) := by
        simp only [taken, handled]
      exact quiet_concluding silent takes ends (fun _ _ => rfl) (fun _ => rfl)
        (awaited_of_commands (commands_conclude stepped) tab)
  | @finished other raw order caches finish _ _ _ handled stepped =>
      obtain ⟨question, own, nothing, ends⟩ := @asked_of_handled env _ _ raw _ other order handled
      have silent : asked env tab (.receive other raw order) = [] := by
        by_cases same : other = tab
        · subst same
          rw [own, nothing]
          rfl
        · exact asked_elsewhere same
      have takes : taken env session (.receive other raw order) =
          Observed.concluding other order finish := by
        simp only [taken, handled]
      have kept := commands_conclude stepped
      have same : next.commands = session.commands := kept
      exact quiet_concluding silent takes ends (fun _ _ => rfl) (fun _ => rfl)
        (awaited_of_commands same tab)
  | @called other raw order caches operation resume pumping free handled =>
      obtain ⟨question, own, about, _⟩ := @asked_of_handled env _ _ raw _ other order handled
      have untold : answered env session tab (.receive other raw order) = [] := by
        simp only [answered, taken, handled]
      by_cases same : other = tab
      · subst same
        apply Turn.asks pumping
        · rw [awaited, free, Option.bind_none]
        · rw [own, about, @awaited_update_self session _ other (some ⟨operation, resume⟩) rfl,
            Option.bind_some]
        · exact untold
      · exact Turn.quiet (asked_elsewhere same) untold
          (@awaited_update session _ tab other (some ⟨operation, resume⟩) same rfl)
  | @operationEnds other result now order pending _ suspended stepped =>
      by_cases same : other = tab
      · subst same
        exact turn_of_own_end prepared suspended stepped
      · exact turn_of_other_end same suspended stepped
  | @announced index announcing =>
      have same : (rejoin session index session.caches.joinedRooms.entries).commands =
          session.commands := by
        cases session.caches.joinedRooms.entries
        all_goals rfl
      exact quiet_beside rfl (by simp [taken]) same
  | @announceRaises index announcing =>
      have silent : asked env tab (.announced index false) = [] := rfl
      apply quiet_beside silent
      · simp [taken]
      · rfl
  | @rejoined index room rest =>
      have same : (rejoin session index rest).commands = session.commands := by
        cases rest
        all_goals rfl
      exact quiet_beside rfl (by simp [taken]) same
  | @sent other choice progress _ goesOn advanced =>
      apply quiet_beside rfl _ (commands_advance advanced)
      intro part takes
      simp only [taken, goesOn, Option.map_some, Option.some.injEq] at takes
      subst takes
      cases progress with
      | send frame place =>
          right
          exact ⟨other, frame, rfl, replayed_unread (Observed.snapshot_frame keyed goesOn)⟩
      | ends => exact .inl rfl
      | raises => exact .inl rfl
  | sendRaises _ advanced =>
      apply quiet_beside rfl _ (commands_advance advanced)
      intro part takes
      cases takes
      exact .inl rfl

theorem begun_concluding {other : Tab} {order members : List Tab} {finish : Finish}
    {question : Option Question} {part : Lifecycle.Action Frame} {frame : Frame}
    (ends : Ends question finish) (takes : Observed.concluding other order finish = some part)
    (begins : Numbered.begun part = some (frame, members)) : answerOf frame = none := by
  cases finish with
  | done => cases takes
  | reply reply =>
      cases takes
      cases begins
  | broadcast shown =>
      cases takes
      cases begins
      exact ends.2
  | raise exception =>
      cases exception
      all_goals
        cases takes
        cases begins

theorem event_unanswering {event : Event} {frame : Frame}
    (visible : eventFrame event = some frame) : answerOf frame = none := by
  cases event
  all_goals cases visible
  all_goals rfl

/-- No broadcast answers a question. -/
theorem begins_unanswering (prepared : Prepared session) {action : Action}
    {part : Lifecycle.Action Frame} {frame : Frame} {members : List Tab}
    (fired : Activity.step env session action = some next)
    (takes : taken env session action = some part)
    (begins : Numbered.begun part = some (frame, members)) : answerOf frame = none := by
  have brings : Origins.brought part = some frame := by
    rw [Origins.brought, begins]
    rfl
  cases Origins.origin_of_step fired takes brings with
  | error => rfl
  | event _ visible => exact event_unanswering visible
  | @finishes tab raw order caches finish _ _ handled concludes =>
      obtain ⟨question, _, _, ends⟩ := @asked_of_handled env _ _ raw _ tab order handled
      exact begun_concluding ends concludes begins
  | answers _ suspended concludes =>
      exact begun_concluding (prepared _ _ suspended _ _) concludes begins
  | replays _ alone =>
      rw [alone] at begins
      cases begins

end Turns

/-- What a tab has asked it has been told, up to the question of its suspended command. -/
structure Ledger (tab : Tab) (session : Session) (questions : List Question) : Prop where
  carries : Carries (fun frame => answerOf frame = none) session.account
  keyed : PresenceKeyed session.caches
  prepared : Prepared session
  settled : ∃ last : Option Question,
    questions = told answerOf tab session.account.sent ++ last.toList ∧
      (session.account.handlers tab ≠ .ended → last = awaited session tab)

section Runs

variable {env : Env} {session next : Session} {tab : Tab} {questions : List Question}

theorem fresh_ledger (tab : Tab) : Ledger tab fresh [] := by
  constructor
  · exact InFlight.fresh_carries _
  · exact empty_presence_keyed
  · intro other pending suspended
    cases suspended
  · exact ⟨none, rfl, fun _ => rfl⟩

/-- A tab is told in an action just what is sent to it alone. -/
theorem told_of_step (carries : Carries (fun frame => answerOf frame = none) session.account)
    (prepared : Prepared session) {action : Action}
    (fired : Activity.step env session action = some next) :
    Carries (fun frame => answerOf frame = none) next.account ∧
      told answerOf tab next.account.sent =
        told answerOf tab session.account.sent ++ answered env session tab action := by
  have viewed := Observed.taken_step fired
  cases takes : taken env session action with
  | none =>
      rw [takes] at viewed
      have same : session.account = next.account := Option.some.inj viewed
      simp only [answered, takes, List.append_nil, ← same]
      exact ⟨carries, trivial⟩
  | some part =>
      rw [takes] at viewed
      have begins : ∀ frame members, Numbered.begun part = some (frame, members) →
          answerOf frame = none :=
        fun frame members begun => begins_unanswering prepared fired takes begun
      have ready : ∀ other, answerOf ((lifecycleEnv env).ready other) = none := fun _ => rfl
      obtain ⟨kept, heard⟩ := told_step ready carries begins viewed
      refine ⟨kept, ?_⟩
      simp only [answered, takes, heard tab]

theorem ended_of_step {action : Action} (fired : Activity.step env session action = some next)
    (ended : session.account.handlers tab = .ended) : next.account.handlers tab = .ended := by
  have viewed := Observed.taken_step fired
  cases takes : taken env session action with
  | none =>
      rw [takes] at viewed
      have same : session.account = next.account := Option.some.inj viewed
      exact same ▸ ended
  | some part =>
      rw [takes] at viewed
      exact Footprint.ended_kept viewed ended

theorem Ledger.step (ledger : Ledger tab session questions) {action : Action}
    (fired : Activity.step env session action = some next) :
    Ledger tab next (questions ++ asked env tab action) := by
  obtain ⟨carries, heard⟩ := @told_of_step env session next tab ledger.carries ledger.prepared _ fired
  obtain ⟨last, balance, current⟩ := ledger.settled
  have keyed : PresenceKeyed next.caches := by
    rw [(assigned_step fired).caches]
    exact Broadcasts.plain_keyed ledger.keyed action
  refine ⟨carries, keyed, prepared_step ledger.prepared fired, ?_⟩
  cases turn_of_step ledger.keyed ledger.prepared fired tab with
  | quiet silent untold same =>
      refine ⟨last, ?_, ?_⟩
      · rw [silent, List.append_nil, heard, untold, List.append_nil, balance]
      · intro stays
        rw [same]
        exact current fun ended => stays (ended_of_step fired ended)
  | asks pumping free own untold =>
      have nothing : last = none := by
        rw [current (by simp [pumping]), free]
      refine ⟨awaited next tab, ?_, fun _ => rfl⟩
      rw [own, heard, untold, List.append_nil, balance, nothing, Option.toList_none, List.append_nil]
  | @answers question pumping waits silent own done =>
      have latest : last = some question := by
        rw [current (by simp [pumping]), waits]
      refine ⟨none, ?_, fun _ => done.symm⟩
      rw [silent, List.append_nil, heard, own, balance, latest, Option.toList_none,
        List.append_nil, Option.toList_some]
  | ends silent untold left =>
      refine ⟨last, ?_, fun stays => absurd left stays⟩
      rw [silent, List.append_nil, heard, untold, List.append_nil, balance]

/-- In every run a tab is told of the pages and room lists that it asked for, each once and in the
order it asked, and of no others; only the last can be outstanding. -/
theorem questions_answered {actions : List Action}
    (run : replay (Activity.step env) fresh actions = some session) (tab : Tab) :
    ∃ last : Option Question,
      collect (Activity.step env) (fun _ action => asked env tab action) fresh actions =
          told answerOf tab session.account.sent ++ last.toList ∧
        (session.account.handlers tab ≠ .ended → last = awaited session tab) := by
  have each : ∀ current action after questions, Ledger tab current questions →
      Activity.step env current action = some after →
        Ledger tab after (questions ++ asked env tab action) := by
    intro current action after questions ledger fired
    exact ledger.step fired
  have ledger := collect_invariant each (fresh_ledger tab) run
  exact ledger.settled

end Runs

def pageOf (operation : Operation) : Except String operation.Value :=
  match operation with
  | .fetchHistory _ _ _ => .ok ([], true)
  | _ => .error "not here"

/-- The second tab asks for a page, and for the rooms when it has the page; the first tab asks for
a page of its own meanwhile. -/
def asking : List Action :=
  Broadcasts.twoTabs ++
    [.receive 1 (.obj [("type", .str "load_history"), ("jid", .str "bob@example.com")]) [],
      .receive 0 (.obj [("type", .str "load_history"), ("jid", .str "carol@example.com")]) [],
      .operationEnds 1 pageOf "2026-02-14T09:00:00Z" [],
      .receive 1 (.obj [("type", .str "disco_servers")]) []]

def afterAsking : Session :=
  (replay (Activity.step alice) fresh asking).getD fresh

theorem page_comes_before_rooms : ∃ last : Option Question,
    [.history (.str "bob@example.com"), .servers] =
        told answerOf 1 afterAsking.account.sent ++ last.toList ∧
      (afterAsking.account.handlers 1 ≠ .ended → last = some .servers) :=
  questions_answered (show replay (Activity.step alice) fresh asking = some afterAsking
    from rfl) 1

end PyConduit.Answers
