import PyConduit.Broadcasts
import PyConduit.Payloads

/-!
# Sent and echoed messages are the same

`_cmd_send_message` hands a body that is not too long to the client and, when the
client has accepted it, broadcasts its echo; a message that is too long or that
the client refuses is answered with one error. Over a whole run with overlapping
commands this is a ledger: what the client has accepted on one side, the echoes of
a tab on the other.
-/

namespace PyConduit.Echoes

open Protocol Replay Activity GuardedRun
open Commands (Finish Plan Operation afterSendMessage)
open Lifecycle (Tab)
open Numbered (Book Quiet Tracks)
open Observed (Replayed State taken)
open Payloads (NonEmptyText WithinLimit)
open Broadcasts (Plain)

set_option autoImplicit false

/-- The message an echo is of: to, body and id. -/
def echoOf : Frame → Option (Json × Json × String)
  | .message message =>
      if message.direction = .outgoing then some (message.toJid, message.body, message.msgId)
      else none
  | _ => none

/-- The tab that is told of a message that was not sent, and whom the message was to. -/
def deliveryError : Tab × Frame → Option (Tab × Json)
  | (tab, .error context _ conversation) =>
      if context = "delivery" then conversation.map (tab, ·) else none
  | _ => none

def overLimit (env : Commands.Env) (body : Json) : Bool :=
  match body.len with
  | some length => env.config.maxMessageChars ≠ 0 ∧ env.config.maxMessageChars < length
  | none => false

def accepted (session : Session) : Action → List (Json × Json × String)
  | .operationEnds tab result _ _ =>
      match session.commands tab with
      | some ⟨.sendMessage toJid body, _⟩ =>
          match result (.sendMessage toJid body) with
          | .ok msgId => [(toJid, body, msgId)]
          | .error _ => []
      | _ => []
  | _ => []

/-- The message that is found too long in an action, or that the client refuses,
with the tab it comes from. -/
def refused (env : Env) (session : Session) : Action → List (Tab × Json)
  | .receive tab raw _ =>
      match parseClientMessage env.commands.repr raw with
      | .ok message =>
          if overLimit env.commands (message.get "body") then [(tab, message.get "to")] else []
      | .error _ => []
  | .operationEnds tab result _ _ =>
      match session.commands tab with
      | some ⟨.sendMessage toJid body, _⟩ =>
          match result (.sendMessage toJid body) with
          | .ok _ => []
          | .error _ => [(tab, toJid)]
      | _ => []
  | _ => []

/-- The commands are messages with text that is not empty, and the server returns
none of them later. -/
def SendsOnly (env : Env) : Action → Prop
  | .receive _ raw _ =>
      ∃ message, parseClientMessage env.commands.repr raw = .ok message ∧
        message.type = .sendMessage ∧ NonEmptyText (message.get "to") ∧
          NonEmptyText (message.get "body")
  | .event (.deliveryFailure _ _ _) _ => False
  | _ => True

structure OnlyTells (tab : Tab) (session next : Session) : Prop where
  account : ∃ frame, frame.isError = true ∧ next.account = session.account.send tab frame
  caches : next.caches = session.caches
  snapshots : next.snapshots = session.snapshots
  rejoins : next.rejoins = session.rejoins
  operations : next.operations = session.operations
  commands : ∀ other, other ≠ tab → next.commands other = session.commands other

def Sending (env : Env) (session : Session) : Prop :=
  ∀ tab pending, session.commands tab = some pending →
    ∃ toJid body, pending = ⟨.sendMessage toJid body, afterSendMessage env.commands toJid body⟩

section Receiving

variable {env : Env} {caches : Caches} {raw : Json} {message : ClientMessage}

theorem over_limit_iff {body : Json} (text : NonEmptyText body) :
    overLimit env.commands body = true ↔ ¬WithinLimit env.commands body := by
  obtain ⟨text, rfl, _⟩ := text
  simp [overLimit, WithinLimit, Json.len]

theorem send_message_cases (parsed : parseClientMessage env.commands.repr raw = .ok message)
    (kind : message.type = .sendMessage) (addressee : NonEmptyText (message.get "to"))
    (body : NonEmptyText (message.get "body")) :
    (overLimit env.commands (message.get "body") = true ∧
        ∃ text, Pump.parseAndHandle env.commands caches raw =
          .ok (caches, .finish (.reply (.error "delivery" text (some (message.get "to")))))) ∨
      overLimit env.commands (message.get "body") = false ∧
        Pump.parseAndHandle env.commands caches raw =
          .ok (caches, .call (.sendMessage (message.get "to") (message.get "body"))
            (afterSendMessage env.commands (message.get "to") (message.get "body"))) := by
  have missing : ∀ value, NonEmptyText value → ClientMessage.missing value = false := by
    rintro value ⟨text, rfl, filled⟩
    simpa [ClientMessage.missing] using filled
  have present : ∀ field ∈ ["to", "body"], ClientMessage.missing (message.get field) = false := by
    intro field among
    rcases List.mem_cons.mp among with rfl | rest
    · exact missing _ addressee
    · rw [List.mem_singleton.mp rest]
      exact missing _ body
  have handled : ∀ outcome,
      Commands.cmdSendMessage env.commands caches message = .ok outcome →
        Pump.parseAndHandle env.commands caches raw = .ok outcome := by
    intro outcome command
    apply (Pump.parse_and_handle_ok_iff _ _ _ _).mpr
    refine ⟨message, parsed, ?_⟩
    rw [Commands.handleCommand, kind]
    exact command
  cases exceeds : overLimit env.commands (message.get "body") with
  | true =>
      left
      refine ⟨rfl, ?_⟩
      obtain ⟨text, same, _⟩ := body
      rw [same] at exceeds
      have limits : env.commands.config.maxMessageChars ≠ 0 ∧
          env.commands.config.maxMessageChars < text.length := by
        simpa [overLimit, Json.len] using exceeds
      have long : Commands.tooLong env.commands (message.get "body") (message.get "to") =
          .ok (some (.error "delivery"
            s!"Message too long ({text.length}/{env.commands.config.maxMessageChars} characters)."
            (some (message.get "to")))) := by
        rw [same]
        simp only [Commands.tooLong, Json.len, if_neg limits.1, if_pos limits.2]
      exact ⟨_, handled _ ((Commands.send_message_ok_iff _ _ _ _).mpr
        ⟨present, Or.inl ⟨_, long, rfl⟩⟩)⟩
  | false =>
      right
      refine ⟨rfl, handled _ ((Commands.send_message_ok_iff _ _ _ _).mpr
        ⟨present, Or.inr ⟨?_, rfl⟩⟩)⟩
      apply (Payloads.too_long_none_iff _ _).mpr
      by_contra beyond
      rw [(over_limit_iff body).mpr beyond] at exceeds
      cases exceeds

end Receiving

/-- What an action does to the ledger: the broadcast it begins is the echo of what is
accepted, and what it says to one tab alone is the error of what is refused. -/
structure Posts (env : Env) (session : Session) (action : Action) : Prop where
  echoes : ((taken env session action).bind Numbered.begun).toList.filterMap
    (fun broadcast => echoOf broadcast.1) = accepted session action
  errors : ((taken env session action).bind Numbered.spoken).toList.filterMap deliveryError =
    refused env session action
  silent : ∀ send ∈ (taken env session action).bind Numbered.spoken, echoOf send.2 = none
  shared : ∀ broadcast ∈ (taken env session action).bind Numbered.begun, ∀ tab,
    deliveryError (tab, broadcast.1) = none

section Steps

variable {env : Env} {session next : Session} {action : Action}

theorem posts_nothing (nothing : taken env session action = none)
    (noneAccepted : accepted session action = []) (noneRefused : refused env session action = []) :
    Posts env session action := by
  constructor
  · rw [nothing, noneAccepted]
    rfl
  · rw [nothing, noneRefused]
    rfl
  · rw [nothing]
    intro send sends
    cases sends
  · rw [nothing]
    intro broadcast begun
    cases begun

theorem posts_silent {part : Lifecycle.Action Frame} (takes : taken env session action = some part)
    (begins : Numbered.begun part = none) (speaks : Numbered.spoken part = none)
    (noneAccepted : accepted session action = []) (noneRefused : refused env session action = []) :
    Posts env session action := by
  constructor
  · rw [takes, Option.bind_some, begins, noneAccepted]
    rfl
  · rw [takes, Option.bind_some, speaks, noneRefused]
    rfl
  · simp [takes, speaks]
  · simp [takes, begins]

theorem posts_says {part : Lifecycle.Action Frame} {tab : Tab} {frame : Frame}
    (takes : taken env session action = some part) (begins : Numbered.begun part = none)
    (speaks : Numbered.spoken part = some (tab, frame)) (noEcho : echoOf frame = none)
    (noneAccepted : accepted session action = [])
    (refuses : refused env session action = (deliveryError (tab, frame)).toList) :
    Posts env session action := by
  constructor
  · rw [takes, Option.bind_some, begins, noneAccepted]
    rfl
  · rw [takes, Option.bind_some, speaks, refuses]
    cases shown : deliveryError (tab, frame)
    all_goals simp [shown]
  · simp [takes, speaks, noEcho]
  · simp [takes, begins]

/-- An action that begins a broadcast, and not of an error. -/
theorem posts_broadcast {part : Lifecycle.Action Frame} {frame : Frame} {order : List Tab}
    (takes : taken env session action = some part)
    (begins : Numbered.begun part = some (frame, order))
    (speaks : Numbered.spoken part = none)
    (noError : ∀ tab, deliveryError (tab, frame) = none)
    (accepts : accepted session action = (echoOf frame).toList)
    (noneRefused : refused env session action = []) : Posts env session action := by
  constructor
  · rw [takes, Option.bind_some, begins, accepts]
    cases shown : echoOf frame
    all_goals simp [shown]
  · rw [takes, Option.bind_some, speaks, noneRefused]
    rfl
  · simp [takes, speaks]
  · rw [takes, Option.bind_some, begins]
    intro broadcast same tab
    cases same
    exact noError tab

theorem replayed_posts {caches : Caches} {frame : Frame} (replayed : Replayed caches frame)
    (tab : Tab) : echoOf frame = none ∧ deliveryError (tab, frame) = none := by
  cases replayed
  all_goals exact ⟨rfl, rfl⟩

theorem event_posts {event : Event} {frame : Frame} {order : List Tab}
    (sends : SendsOnly env (.event event order)) (visible : eventFrame event = some frame)
    (tab : Tab) : echoOf frame = none ∧ deliveryError (tab, frame) = none := by
  cases event with
  | deliveryFailure => exact sends.elim
  | connected => cases visible
  | disconnected =>
      cases visible
      exact ⟨rfl, by simp [deliveryError]⟩
  | _ =>
      cases visible
      exact ⟨rfl, rfl⟩

theorem posts_step (plain : Plain session) (sending : Sending env session)
    (sends : SendsOnly env action) (fired : Activity.step env session action = some next) :
    Posts env session action := by
  cases fires_of_step fired with
  | @lifecycle part _ outside =>
      have quiet : Numbered.begun part = none ∧ Numbered.spoken part = none := by
        cases part
        all_goals first | exact ⟨rfl, rfl⟩ | cases outside
      exact posts_silent rfl quiet.1 quiet.2 rfl rfl
  | @connectRaises tab text order =>
      have noError : ∀ other, deliveryError (other, unreachableFrame text) = none :=
        fun other => by simp [deliveryError, unreachableFrame]
      exact posts_broadcast rfl rfl rfl noError rfl rfl
  | @event event order frame _ visible =>
      have posts := event_posts sends visible
      have takes : taken env session (.event event order) =
          some (.event frame (afterwards event) order) := by
        simp only [taken, visible, Option.map_some]
      have accepts : accepted session (.event event order) = (echoOf frame).toList := by
        rw [(posts 0).1]
        rfl
      exact posts_broadcast takes rfl rfl (fun other => (posts other).2) accepts rfl
  | connected hidden =>
      apply posts_nothing _ rfl rfl
      simp only [taken, hidden, Option.map_none]
  | @refused tab raw order exception _ _ _ handled =>
      obtain ⟨message, parsed, kind, addressee, body⟩ := sends
      rcases @send_message_cases env session.caches raw message parsed kind addressee body with
        ⟨_, text, answered⟩ | ⟨_, calls⟩
      · cases handled.symm.trans answered
      · cases handled.symm.trans calls
  | @finished tab raw order caches finish _ _ _ handled =>
      obtain ⟨message, parsed, kind, addressee, body⟩ := sends
      rcases @send_message_cases env session.caches raw message parsed kind addressee body with
        ⟨exceeds, text, answered⟩ | ⟨_, calls⟩
      · have takes : taken env session (.receive tab raw order) =
            some (.reply tab (.error "delivery" text (some (message.get "to")))) := by
          simp only [taken, answered]
          rfl
        apply posts_says takes rfl rfl rfl rfl
        simp [Echoes.refused, parsed, exceeds, deliveryError]
      · cases handled.symm.trans calls
  | @called tab raw order caches operation resume _ _ handled =>
      obtain ⟨message, parsed, kind, addressee, body⟩ := sends
      rcases @send_message_cases env session.caches raw message parsed kind addressee body with
        ⟨_, text, answered⟩ | ⟨within, calls⟩
      · cases handled.symm.trans answered
      · apply posts_nothing _ rfl
        · simp [Echoes.refused, parsed, within]
        · simp only [taken, calls]
  | @operationEnds tab result now order pending _ awaited =>
      obtain ⟨toJid, body, rfl⟩ := sending tab pending awaited
      cases answer : result (.sendMessage toJid body) with
      | ok msgId =>
          have takes : taken env session (.operationEnds tab result now order) =
              some (.broadcast tab (.message ⟨toJid, .str env.commands.jid, toJid, body, msgId,
                now, .outgoing⟩) order) := by
            simp only [taken, awaited, Option.bind_some, answer]
            rfl
          apply posts_broadcast takes rfl rfl (fun other => rfl)
          · simp [accepted, awaited, answer, echoOf]
          · simp [Echoes.refused, awaited, answer]
      | error text =>
          have takes : taken env session (.operationEnds tab result now order) =
              some (.reply tab (.error "delivery" s!"Could not send message: {text}"
                (some toJid))) := by
            simp only [taken, awaited, Option.bind_some, answer]
            rfl
          apply posts_says takes rfl rfl rfl
          · simp [accepted, awaited, answer]
          · simp [Echoes.refused, awaited, answer, deliveryError]
  | announced => exact posts_nothing rfl rfl rfl
  | announceRaises => exact posts_nothing rfl rfl rfl
  | rejoined => exact posts_nothing rfl rfl rfl
  | @sent tab choice progress _ goesOn =>
      have takes : taken env session (.sent tab choice) =
          some (Observed.progressing tab progress) := by
        simp only [taken, goesOn, Option.map_some]
      cases progress with
      | send frame place =>
          obtain ⟨noEcho, noError⟩ :=
            replayed_posts (Observed.snapshot_frame plain.keyed goesOn) tab
          have refuses : refused env session (.sent tab choice) =
              (deliveryError (tab, frame)).toList := by
            rw [noError]
            rfl
          exact posts_says takes rfl rfl noEcho rfl refuses
      | ends => exact posts_silent takes rfl rfl rfl rfl
      | raises => exact posts_silent takes rfl rfl rfl rfl
  | sendRaises => exact posts_silent rfl rfl rfl rfl rfl

theorem Sending.step (sending : Sending env session) (sends : SendsOnly env action)
    (fired : Activity.step env session action = some next) : Sending env next := by
  intro tab pending awaits
  rcases Observed.commands_after fired awaits with
    before | ⟨raw, order, after, operation, resume, handled, rfl, rfl⟩
  · exact sending tab pending before
  · obtain ⟨message, parsed, kind, addressee, body⟩ := sends
    rcases @send_message_cases env session.caches raw message parsed kind addressee body with
      ⟨_, text, answered⟩ | ⟨_, calls⟩
    · cases handled.symm.trans answered
    · cases handled.symm.trans calls
      exact ⟨_, _, rfl⟩

end Steps

section Refusals

variable {env : Env} {session next : Session} {action : Action}

theorem conclude_reply {tab : Tab} {order : List Tab} {frame : Frame}
    (fired : conclude env session tab order (.reply frame) = some next) :
    next = { session with account := session.account.send tab frame } := by
  obtain ⟨account, stepped, rfl⟩ := Option.map_eq_some_iff.mp fired
  cases Lifecycle.fires_of_step stepped with
  | reply =>
      have same : (fun other => if isSnapshot ((session.account.send tab frame).handlers other) &&
            !isSnapshot (session.account.handlers other) then Snapshot.ready
          else session.snapshots other) = session.snapshots := by
        funext other
        have handlers : (session.account.send tab frame).handlers other =
            session.account.handlers other := rfl
        simp [handlers]
      rw [same]

/-- A message that is refused, or too long, tells its own tab and nobody else. -/
theorem refused_only_tells (sending : Sending env session) (sends : SendsOnly env action)
    (fired : Activity.step env session action = some next) {entry : Tab × Json}
    (among : entry ∈ refused env session action) : OnlyTells entry.1 session next := by
  cases fires_of_step fired with
  | @refused tab raw order exception _ _ _ handled =>
      obtain ⟨message, parsed, kind, addressee, body⟩ := sends
      rcases @send_message_cases env session.caches raw message parsed kind addressee body with
        ⟨_, text, answered⟩ | ⟨_, calls⟩
      · cases handled.symm.trans answered
      · cases handled.symm.trans calls
  | @finished tab raw order caches finish _ _ _ handled concluded =>
      obtain ⟨message, parsed, kind, addressee, body⟩ := sends
      rcases @send_message_cases env session.caches raw message parsed kind addressee body with
        ⟨exceeds, text, answered⟩ | ⟨_, calls⟩
      · cases handled.symm.trans answered
        rw [conclude_reply concluded]
        simp only [Echoes.refused, parsed, exceeds, if_true, List.mem_singleton] at among
        subst among
        exact ⟨⟨_, rfl, rfl⟩, rfl, rfl, rfl, rfl, fun _ _ => rfl⟩
      · cases handled.symm.trans calls
  | @called tab raw order caches operation resume _ _ handled =>
      obtain ⟨message, parsed, kind, addressee, body⟩ := sends
      rcases @send_message_cases env session.caches raw message parsed kind addressee body with
        ⟨_, text, answered⟩ | ⟨within, _⟩
      · cases handled.symm.trans answered
      · simp only [Echoes.refused, parsed, within] at among
        cases among
  | @operationEnds tab result now order pending _ awaited concluded =>
      obtain ⟨toJid, body, rfl⟩ := sending tab pending awaited
      cases answer : result (.sendMessage toJid body) with
      | ok msgId =>
          simp only [Echoes.refused, awaited, answer] at among
          cases among
      | error text =>
          simp only [Echoes.refused, awaited, answer, List.mem_singleton] at among
          subst among
          rw [answer] at concluded
          rw [conclude_reply concluded]
          refine ⟨⟨_, rfl, rfl⟩, rfl, rfl, rfl, rfl, ?_⟩
          intro other differs
          exact Function.update_of_ne differs ..
  | _ => cases among

theorem only_tells_run {actions : List Action} (sending : Sending env session)
    (sends : ∀ action ∈ actions, SendsOnly env action) :
    Conforms (Activity.step env) (fun session action => ∀ next,
      Activity.step env session action = some next →
        ∀ entry ∈ refused env session action, OnlyTells entry.1 session next)
      session actions := by
  induction actions generalizing session with
  | nil => trivial
  | cons action rest induction =>
      have now := sends action List.mem_cons_self
      refine ⟨fun _ fired _ among => refused_only_tells sending now fired among, ?_⟩
      cases fired : Activity.step env session action with
      | none => trivial
      | some after =>
          exact induction (sending.step now fired) fun other among =>
            sends other (List.mem_cons_of_mem action among)

def Checked (env : Env) (session : Session) : Prop :=
  ∀ toJid body, .sendMessage toJid body ∈ session.operations → WithinLimit env.commands body

theorem Checked.step (checked : Checked env session)
    (fired : Activity.step env session action = some next) : Checked env next := by
  have same : ∀ middle : Session, Untouched middle next →
      middle.operations = session.operations → Checked env next := by
    intro middle untouched operations toJid body among
    rw [untouched.operations, operations] at among
    exact checked toJid body among
  have adds : ∀ {operation : Operation}, next.operations = session.operations ++ [operation] →
      (∀ toJid body, operation = .sendMessage toJid body → WithinLimit env.commands body) →
        Checked env next := by
    intro operation operations within toJid body among
    rw [operations] at among
    rcases List.mem_append.mp among with before | last
    · exact checked toJid body before
    · exact within toJid body (List.mem_singleton.mp last).symm
  have rejoins : ∀ (index : Nat) (rooms : List (Key × Json)),
      Checked env (rejoin session index rooms) := by
    intro index rooms toJid body among
    cases rooms with
    | nil => exact checked toJid body among
    | cons room rest =>
        rcases List.mem_append.mp among with before | last
        · exact checked toJid body before
        · cases List.mem_singleton.mp last
  cases fires_of_step fired with
  | lifecycle _ fired => exact same _ (untouched_lifecycle fired) rfl
  | connectRaises fired => exact same _ (untouched_lifecycle fired) rfl
  | event _ fired => exact same _ (untouched_lifecycle fired) rfl
  | connected => exact adds rfl (by simp)
  | refused _ _ _ fired => exact same _ (untouched_conclude fired) rfl
  | finished _ _ _ fired => exact same _ (untouched_conclude fired) rfl
  | called _ _ handled =>
      apply adds rfl
      rintro toJid body rfl
      obtain ⟨message, _, command⟩ := (Pump.parse_and_handle_ok_iff _ _ _ _).mp handled
      obtain ⟨_, _, _, passed, _⟩ := Commands.send_message_of_call command
      exact (Payloads.too_long_none_iff _ _).mp passed
  | operationEnds _ fired => exact same _ (untouched_conclude fired) rfl
  | announced => exact rejoins _ _
  | announceRaises => exact checked
  | rejoined => exact rejoins _ _
  | sent _ advanced => exact same _ (untouched_advance advanced) rfl
  | sendRaises _ advanced => exact same _ (untouched_advance advanced) rfl

def messageOf : Operation → Option (Json × Json)
  | .sendMessage toJid body => some (toJid, body)
  | _ => none

def messagesOf (operations : List Operation) : List (Json × Json) := operations.filterMap messageOf

/-- The message that the suspended command of a tab has handed to the client. -/
def waiting (session : Session) (tab : Tab) : Option (Json × Json) :=
  (session.commands tab).bind fun pending => messageOf pending.operation

inductive Hands (session next : Session) : Action → Prop
  | stays {action : Action} (messages : messagesOf next.operations = messagesOf session.operations)
      (commands : next.commands = session.commands) (quiet : accepted session action = []) :
      Hands session next action
  | calls {tab : Tab} {raw : Json} {order : List Tab} (free : session.commands tab = none)
      (operation : Operation) (resume : Except String operation.Value → String → Finish)
      (operations : next.operations = session.operations ++ [operation])
      (commands : next.commands = Function.update session.commands tab (some ⟨operation, resume⟩)) :
      Hands session next (.receive tab raw order)
  | ends {tab : Tab} {result : (operation : Operation) → Except String operation.Value}
      {now : String} {order : List Tab} (operations : next.operations = session.operations)
      (commands : next.commands = Function.update session.commands tab none) :
      Hands session next (.operationEnds tab result now order)

theorem hands_of_step {action : Action} (fired : Activity.step env session action = some next) :
    Hands session next action := by
  have same : ∀ middle : Session, Untouched middle next →
      middle.operations = session.operations → middle.commands = session.commands →
        accepted session action = [] → Hands session next action := by
    intro middle untouched operations commands quiet
    exact .stays (by rw [untouched.operations, operations]) (untouched.commands.trans commands) quiet
  have rejoins : ∀ (index : Nat) (rooms : List (Key × Json)), accepted session action = [] →
      Hands session (rejoin session index rooms) action := by
    intro index rooms quiet
    refine .stays ?_ ?_ quiet
    all_goals cases rooms
    all_goals simp [rejoin, Activity.call, messagesOf, messageOf]
  cases fires_of_step fired with
  | lifecycle _ fired => exact same _ (untouched_lifecycle fired) rfl rfl rfl
  | connectRaises fired => exact same _ (untouched_lifecycle fired) rfl rfl rfl
  | event _ fired => exact same _ (untouched_lifecycle fired) rfl rfl rfl
  | connected => exact .stays (by simp [Activity.call, messagesOf, messageOf, assign]) rfl rfl
  | refused _ _ _ fired => exact same _ (untouched_conclude fired) rfl rfl rfl
  | finished _ _ _ fired => exact same _ (untouched_conclude fired) rfl rfl rfl
  | called _ free _ => exact .calls free _ _ rfl rfl
  | operationEnds _ fired =>
      have untouched := untouched_conclude fired
      exact .ends untouched.operations untouched.commands
  | announced => exact rejoins _ _ rfl
  | announceRaises => exact .stays rfl rfl rfl
  | rejoined => exact rejoins _ _ rfl
  | sent _ advanced => exact same _ (untouched_advance advanced) rfl rfl rfl
  | sendRaises _ advanced => exact same _ (untouched_advance advanced) rfl rfl rfl

/-- The client was handed the messages it has accepted, and those that it has still to answer. -/
def Handed (start : Session) (session : Session) (taken : List (Json × Json × String)) : Prop :=
  ∃ pending : List (Tab × Json × Json), pending.Nodup ∧
    (∀ tab message, (tab, message) ∈ pending ↔ waiting session tab = some message) ∧
      (messagesOf start.operations ++ taken.map (fun message => (message.1, message.2.1)) ++
        pending.map Prod.snd).Subperm (messagesOf session.operations)

theorem messages_append (operations : List Operation) (operation : Operation) :
    messagesOf (operations ++ [operation]) =
      messagesOf operations ++ (messageOf operation).toList := by
  rw [messagesOf, List.filterMap_append]
  cases found : messageOf operation
  all_goals simp [messagesOf, found]

theorem waiting_update {tab : Tab} {pending : Option Activity.Pending}
    (commands : next.commands = Function.update session.commands tab pending) (other : Tab) :
    waiting next other =
      if other = tab then pending.bind fun pending => messageOf pending.operation
      else waiting session other := by
  rw [waiting, commands]
  by_cases own : other = tab
  · rw [if_pos own, own, Function.update_self]
  · rw [if_neg own, Function.update_of_ne own, waiting]

theorem accepted_waits (session : Session) (tab : Tab)
    (result : (operation : Operation) → Except String operation.Value) (now : String)
    (order : List Tab) :
    accepted session (.operationEnds tab result now order) = [] ∨
      ∃ toJid body msgId, waiting session tab = some (toJid, body) ∧
        accepted session (.operationEnds tab result now order) = [(toJid, body, msgId)] := by
  rw [waiting]
  simp only [accepted]
  cases session.commands tab with
  | none => exact .inl rfl
  | some pending =>
      obtain ⟨operation, resume⟩ := pending
      cases operation with
      | sendMessage toJid body =>
          dsimp only
          cases result (.sendMessage toJid body) with
          | error text => exact .inl rfl
          | ok msgId => exact .inr ⟨toJid, body, msgId, rfl, rfl⟩
      | _ => exact .inl rfl

theorem handed_step {start : Session} {action : Action} {taken : List (Json × Json × String)}
    (handed : Handed start session taken) (fired : Activity.step env session action = some next) :
    Handed start next (taken ++ accepted session action) := by
  obtain ⟨pending, distinct, waits, among⟩ := handed
  cases hands_of_step fired with
  | stays messages commands quiet =>
      rw [quiet, List.append_nil]
      refine ⟨pending, distinct, ?_, messages ▸ among⟩
      intro tab message
      rw [waits, waiting, waiting, commands]
  | @calls tab raw order free operation resume operations commands =>
      have nothing : waiting session tab = none := by rw [waiting, free]; rfl
      have quiet : accepted session (.receive tab raw order) = [] := rfl
      rw [quiet, List.append_nil]
      cases sends : messageOf operation with
      | none =>
          refine ⟨pending, distinct, ?_, ?_⟩
          · intro other message
            rw [waits, waiting_update commands, Option.bind_some, sends]
            split_ifs with own
            · rw [own, nothing]
              simp
            · rfl
          · rw [operations, messages_append, sends, Option.toList_none, List.append_nil]
            exact among
      | some message =>
          refine ⟨pending ++ [(tab, message)], ?_, ?_, ?_⟩
          · refine List.nodup_append.mpr ⟨distinct, List.nodup_singleton _, ?_⟩
            rintro entry member _ last rfl
            rw [List.mem_singleton.mp last, waits, nothing] at member
            cases member
          · intro other text
            rw [List.mem_append, List.mem_singleton, Prod.mk.injEq, waits, waiting_update commands,
              Option.bind_some, sends]
            split_ifs with own
            · rw [own, nothing]
              simp [eq_comm]
            · simp [own]
          · rw [operations, messages_append, sends, List.map_append, ← List.append_assoc]
            exact List.subperm_append_right _ |>.mpr among
  | @ends tab result now order operations commands =>
      cases found : waiting session tab with
      | none =>
          have quiet : accepted session (.operationEnds tab result now order) = [] := by
            refine (accepted_waits session tab result now order).resolve_right ?_
            rintro ⟨toJid, body, msgId, waited, _⟩
            cases found.symm.trans waited
          rw [quiet, List.append_nil]
          refine ⟨pending, distinct, ?_, operations ▸ among⟩
          intro other text
          rw [waits, waiting_update commands]
          split_ifs with own
          · rw [own, found]
            rfl
          · rfl
      | some message =>
          classical
          have answered := List.perm_cons_erase ((waits tab message).mpr found)
          have left : (messagesOf start.operations ++
              taken.map (fun message => (message.1, message.2.1)) ++
                message :: (pending.erase (tab, message)).map Prod.snd).Subperm
                  (messagesOf session.operations) :=
            (((answered.map Prod.snd).symm.append_left _).subperm).trans among
          refine ⟨pending.erase (tab, message), distinct.erase _, ?_, ?_⟩
          · intro other text
            rw [distinct.mem_erase_iff, waits, waiting_update commands]
            split_ifs with own
            · rw [own, found]
              simp [eq_comm]
            · simp [own]
          · rw [operations]
            rcases accepted_waits session tab result now order with
              quiet | ⟨toJid, body, msgId, waited, accepts⟩
            · rw [quiet, List.append_nil]
              refine List.Subperm.trans (List.Sublist.subperm ?_) left
              exact (List.sublist_cons_self _ _).append_left _
            · cases found.symm.trans waited
              rw [accepts]
              simpa using left

end Refusals

/-- What a run has put into the ledger: the broadcasts that have begun, and what was
said to one tab alone. -/
structure Ledger (env : Env) (session : Session) (actions : List Action)
    (broadcasts : List (Frame × List Tab)) (directs : List (Tab × Frame)) : Prop where
  echoes : broadcasts.filterMap (fun broadcast => echoOf broadcast.1) =
    collect (Activity.step env) accepted session actions
  errors : directs.filterMap deliveryError =
    collect (Activity.step env) (refused env) session actions
  silent : ∀ send ∈ directs, echoOf send.2 = none
  shared : ∀ broadcast ∈ broadcasts, ∀ tab, deliveryError (tab, broadcast.1) = none
  attended : ∀ tab, Conforms (Activity.step env) (fun session _ => tab ∈ session.account.subscribers)
    session actions → ∀ broadcast ∈ broadcasts, tab ∈ broadcast.2

section Ledgers

variable {env : Env} {session next : Session} {action : Action} {rest : List Action}
  {broadcasts later : List (Frame × List Tab)} {directs after : List (Tab × Frame)}

theorem ledger_nil (env : Env) (session : Session) : Ledger env session [] [] [] := by
  refine ⟨rfl, rfl, ?_, ?_, ?_⟩
  · intro send sends
    cases sends
  · intro broadcast begun
    cases begun
  · intro tab _ broadcast begun
    cases begun

theorem Ledger.cons (ledger : Ledger env next rest later after)
    (fired : Activity.step env session action = some next) (posts : Posts env session action)
    (begins : broadcasts = ((taken env session action).bind Numbered.begun).toList)
    (keeps : ∀ (Kept : Type) (keep : Tab × Frame → Option Kept),
      (∀ tab, keep (tab, readyFrame env tab) = none) → directs.filterMap keep =
        ((taken env session action).bind Numbered.spoken).toList.filterMap keep) :
    Ledger env session (action :: rest) (broadcasts ++ later) (directs ++ after) := by
  refine ⟨?_, ?_, ?_, ?_, ?_⟩
  · rw [List.filterMap_append, ledger.echoes, collect_cons accepted fired, begins, posts.echoes]
  · rw [List.filterMap_append, ledger.errors, collect_cons (refused env) fired,
      keeps _ deliveryError (fun _ => rfl), posts.errors]
  · intro send among
    rcases List.mem_append.mp among with now | onwards
    · have echoless := keeps _ (fun send => echoOf send.2) fun _ => rfl
      have nothing : ((taken env session action).bind Numbered.spoken).toList.filterMap
          (fun send => echoOf send.2) = [] := by
        apply List.filterMap_eq_nil_iff.mpr
        intro other said
        exact posts.silent other (Option.mem_toList.mp said)
      rw [nothing, List.filterMap_eq_nil_iff] at echoless
      exact echoless send now
    · exact ledger.silent send onwards
  · intro broadcast among
    rcases List.mem_append.mp among with now | onwards
    · rw [begins] at now
      exact posts.shared broadcast (Option.mem_toList.mp now)
    · exact ledger.shared broadcast onwards
  · intro tab throughout broadcast among
    obtain ⟨present, onwards⟩ := conforms_cons fired throughout
    rcases List.mem_append.mp among with now | later
    · rw [begins] at now
      obtain ⟨part, takes, begun⟩ := Option.bind_eq_some_iff.mp (Option.mem_toList.mp now)
      have viewed := Observed.taken_step fired
      rw [takes] at viewed
      exact (Numbered.begun_enumerates viewed begun).mem_iff.mpr present
    · exact ledger.attended tab onwards broadcast later

structure Keeps (env : Env) (state : State) (fanout : Fanout Tab Frame) : Prop where
  tracks : Tracks state.book fanout
  plain : Plain state.session
  sending : Sending env state.session

theorem keeps_step {state final : State} {fanout : Fanout Tab Frame} (keeps : Keeps env state fanout)
    (sends : SendsOnly env action) (fired : Observed.step env state action = some final) :
    ∃ moves after, replay Fanout.step fanout moves = some after ∧ Keeps env final after ∧
      moves.filterMap Fanout.Move.begins =
        ((taken env state.session action).bind Numbered.begun).toList ∧
      ∀ (Kept : Type) (keep : Tab × Frame → Option Kept),
        (∀ tab, keep (tab, readyFrame env tab) = none) →
          (moves.filterMap Fanout.Move.alone).filterMap keep =
            ((taken env state.session action).bind Numbered.spoken).toList.filterMap keep := by
  obtain ⟨stepped, counted⟩ := Observed.step_cases fired
  have plain := keeps.plain.step stepped
  have sending := keeps.sending.step sends stepped
  cases takes : taken env state.session action with
  | none =>
      rw [takes] at counted
      have same : state.book = final.book := Option.some.inj counted
      exact ⟨[], fanout, rfl, ⟨same ▸ keeps.tracks, plain, sending⟩, rfl, fun _ _ _ => rfl⟩
  | some part =>
      rw [takes] at counted
      obtain ⟨after, run, _, tracks⟩ := keeps.tracks.step counted
      exact ⟨_, after, run, ⟨tracks, plain, sending⟩, Numbered.begins_moves _ _ _,
        fun _ keep greets => Numbered.alone_moves _ _ _ keep greets⟩

theorem ledger_run {state final : State} {fanout : Fanout Tab Frame} {actions : List Action}
    (keeps : Keeps env state fanout) (sends : ∀ action ∈ actions, SendsOnly env action)
    (run : replay (Observed.step env) state actions = some final) :
    ∃ after broadcasts directs, Tracks final.book after ∧ fanout.sent <+: after.sent ∧
      after.begun = fanout.begun ++ broadcasts ∧ after.alone = fanout.alone ++ directs ∧
        Ledger env state.session actions broadcasts directs := by
  induction actions generalizing state fanout with
  | nil =>
      cases run
      exact ⟨fanout, [], [], keeps.tracks, List.prefix_rfl, (List.append_nil _).symm,
        (List.append_nil _).symm, ledger_nil env final.session⟩
  | cons action rest induction =>
      obtain ⟨middle, fired, onwards⟩ := replay_cons run
      have now := sends action List.mem_cons_self
      obtain ⟨moves, group, moved, kept, begins, spoken⟩ := keeps_step keeps now fired
      obtain ⟨after, broadcasts, directs, tracks, sent, begun, alone, ledger⟩ :=
        induction kept (fun other among => sends other (List.mem_cons_of_mem action among)) onwards
      have stepped := (Observed.step_cases fired).1
      have posts := posts_step keeps.plain keeps.sending now stepped
      refine ⟨after, moves.filterMap Fanout.Move.begins ++ broadcasts,
        moves.filterMap Fanout.Move.alone ++ directs, tracks, ?_, ?_, ?_, ?_⟩
      · exact (Fanout.sent_run moved).trans sent
      · rw [begun, Fanout.begun_run moved, List.append_assoc]
      · rw [alone, Fanout.alone_run moved, List.append_assoc]
      · exact ledger.cons stepped posts begins spoken

end Ledgers

def echoesTo (tab : Tab) (sends : List (Tab × Frame)) : List (Json × Json × String) :=
  sends.filterMap fun send => if send.1 = tab then echoOf send.2 else none

section Sends

variable {marked : List (Tab × Option Nat × Frame)}

theorem filter_alone {Kept : Type} (keep : Tab × Frame → Option Kept)
    (shared : ∀ send ∈ marked, send.2.1 ≠ none → keep (send.1, send.2.2) = none) :
    (marked.map fun send => (send.1, send.2.2)).filterMap keep =
      (marked.filterMap fun send =>
        if send.2.1 = none then some (send.1, send.2.2) else none).filterMap keep := by
  rw [List.filterMap_map, List.filterMap_filterMap]
  apply List.filterMap_congr
  intro send among
  by_cases direct : send.2.1 = none
  · rw [if_pos direct]
    rfl
  · rw [if_neg direct]
    exact shared send among direct

theorem echoes_to_eq {tab : Tab}
    (silent : ∀ send ∈ marked, send.2.1 = none → echoOf send.2.2 = none) :
    echoesTo tab (marked.map fun send => (send.1, send.2.2)) =
      (marked.filterMap fun send =>
        if send.1 = tab ∧ send.2.1.isSome then some send.2.2 else none).filterMap echoOf := by
  rw [echoesTo, List.filterMap_map, List.filterMap_filterMap]
  apply List.filterMap_congr
  intro send among
  by_cases own : send.1 = tab
  · cases numbered : send.2.1 with
    | none => simp [own, silent send among numbered]
    | some number => simp [own]
  · simp [own]

end Sends

section Runs

variable {env : Env} {start final : Session} {before actions : List Action}

theorem tracks_reached (reached : replay (Activity.step env) fresh before = some start)
    (quiet : Quiet start.account) :
    Tracks (Observed.opened start).book (Fanout.idle start.account.subscribers start.account.sent) := by
  obtain ⟨distinct, strangers⟩ := Observed.strangers reached
  exact Numbered.tracks_opened quiet distinct strangers

theorem ledger_reached (reached : replay (Activity.step env) fresh before = some start)
    (idle : ∀ tab, start.commands tab = none) (quiet : Quiet start.account)
    (sends : ∀ action ∈ actions, SendsOnly env action)
    (run : replay (Activity.step env) start actions = some final) :
    ∃ (book : Book Frame) (after : Fanout Tab Frame) (broadcasts : List (Frame × List Tab))
        (directs : List (Tab × Frame)), book.erase = final.account ∧ Tracks book after ∧
      (Fanout.idle start.account.subscribers start.account.sent).sent <+: after.sent ∧
        after.begun = broadcasts ∧ after.alone = start.account.sent ++ directs ∧
          Ledger env start actions broadcasts directs := by
  obtain ⟨book, counted, erased⟩ :=
    @Observed.observed_run env start final (Observed.opened start).book actions
      (Observed.erase_opened start) run
  have tracks := tracks_reached reached quiet
  have plain : Plain start :=
    run_invariant_unconditional Plain (fun _ _ _ holds fired => holds.step fired)
      Broadcasts.fresh_faithful.plain reached
  have sending : Sending env start := by
    intro tab pending awaits
    cases (idle tab).symm.trans awaits
  have keeps : Keeps env (Observed.opened start)
      (Fanout.idle start.account.subscribers start.account.sent) := ⟨tracks, plain, sending⟩
  obtain ⟨after, broadcasts, directs, tracked, sent, begun, alone, ledger⟩ :=
    ledger_run keeps sends counted
  refine ⟨book, after, broadcasts, directs, erased, tracked, sent, begun, ?_, ledger⟩
  have earlier : (Fanout.idle start.account.subscribers start.account.sent).alone =
      start.account.sent := by
    simp [Fanout.alone, Fanout.idle]
  rw [alone, earlier]

/-- In every run of messages, with any tabs that come, go or fail and any answers of
the client, the echoes that a tab attached throughout got are the messages that the
client accepted, once no broadcast is under way; the client got no message beyond the
limit; each message that is refused or too long is one error to its own tab, which
changes nothing of the others; and what the client accepted was handed to it. -/
theorem sent_and_echoed (env : Env) (before actions : List Action) (start final : Session)
    (reached : replay (Activity.step env) fresh before = some start)
    (idle : ∀ tab, start.commands tab = none) (quiet : Quiet start.account)
    (sends : ∀ action ∈ actions, SendsOnly env action)
    (run : replay (Activity.step env) start actions = some final) :
    ∃ later, final.account.sent = start.account.sent ++ later ∧
      (Quiet final.account → ∀ tab,
        Conforms (Activity.step env) (fun session _ => tab ∈ session.account.subscribers)
            start actions →
          (echoesTo tab later).Perm (collect (Activity.step env) accepted start actions)) ∧
        (∀ toJid body, .sendMessage toJid body ∈ final.operations →
          WithinLimit env.commands body) ∧
          later.filterMap deliveryError =
              collect (Activity.step env) (refused env) start actions ∧
            Conforms (Activity.step env) (fun session action => ∀ next,
              Activity.step env session action = some next →
                ∀ entry ∈ refused env session action, OnlyTells entry.1 session next)
              start actions ∧
              (messagesOf start.operations ++
                (collect (Activity.step env) accepted start actions).map
                  fun message => (message.1, message.2.1)).Subperm
                    (messagesOf final.operations) := by
  obtain ⟨book, after, broadcasts, directs, erased, tracks, ⟨marked, grown⟩, begun, alone, ledger⟩ :=
    ledger_reached reached idle quiet sends run
  obtain ⟨owner, link⟩ := tracks.link
  have sent : final.account.sent =
      start.account.sent ++ marked.map fun send => (send.1, send.2.2) := by
    rw [← erased, Book.erase, Lifecycle.Account.map, ← link.sent, ← grown]
    simp [Fanout.idle, Function.comp_def]
  have direct : (marked.filterMap fun send =>
      if send.2.1 = none then some (send.1, send.2.2) else none) = directs := by
    rw [Fanout.alone, ← grown, List.filterMap_append] at alone
    apply List.append_cancel_left
    rw [← alone]
    simp [Fanout.idle]
  have among : ∀ send ∈ marked, send ∈ after.sent := by
    intro send isMarked
    rw [← grown]
    exact List.mem_append_right _ isMarked
  refine ⟨_, sent, ?_, ?_, ?_, ?_, ?_⟩
  · intro settles tab throughout
    rw [← erased] at settles
    have settled := link.settled (Broadcasts.quiet_book settles)
    have all := Fanout.broadcast_to_settled tracks.sound settled (begun ▸ ledger.attended tab throughout)
    have silent : ∀ send ∈ marked, send.2.1 = none → echoOf send.2.2 = none := by
      intro send isMarked unnumbered
      apply ledger.silent (send.1, send.2.2)
      rw [← direct]
      exact List.mem_filterMap.mpr ⟨send, isMarked, if_pos unnumbered⟩
    have later : after.broadcastTo tab = marked.filterMap fun send =>
        if send.1 = tab ∧ send.2.1.isSome then some send.2.2 else none := by
      rw [Fanout.broadcastTo, ← grown, List.filterMap_append]
      simp [Fanout.idle]
    rw [echoes_to_eq silent, ← later, ← ledger.echoes]
    have echoed := all.filterMap echoOf
    rw [List.filterMap_map, begun] at echoed
    exact echoed
  · exact run_invariant_unconditional (Checked env) (fun _ _ _ holds fired => holds.step fired)
      (run_invariant_unconditional (Checked env) (fun _ _ _ holds fired => holds.step fired)
        (fun _ _ handed => by cases handed) reached) run
  · rw [filter_alone deliveryError _, direct, ledger.errors]
    intro send isMarked numbered
    obtain ⟨number, same⟩ := Option.ne_none_iff_exists'.mp numbered
    obtain ⟨order, found⟩ := tracks.sound.items send (among send isMarked) number same
    rw [begun] at found
    exact ledger.shared _ (List.mem_of_getElem? found) send.1
  · have sending : Sending env start := by
      intro tab pending awaits
      cases (idle tab).symm.trans awaits
    exact only_tells_run sending sends
  · have before : Handed start start [] := by
      refine ⟨[], List.nodup_nil, ?_, by simpa using List.Subperm.refl _⟩
      intro tab message
      simp [waiting, idle tab]
    obtain ⟨pending, _, _, among⟩ := collect_invariant
      (fun _ _ _ _ handed fired => handed_step handed fired) before run
    rw [List.nil_append] at among
    exact (List.sublist_append_left _ _).subperm.trans among

end Runs

def alice : Env :=
  ⟨{ Pump.alice with config := { maxMessageChars := 5 } }, {}, fun _ => "alice"⟩

def saying (body : String) : Json :=
  .obj [("type", .str "send_message"), ("to", .str "bob@example.com"), ("body", .str body)]

def gone : (operation : Operation) → Except String operation.Value := fun _ => .error "not connected"

/-- The second tab dies while the first message is echoed. -/
def threeMessages : List Action :=
  [.receive 0 (saying "hi") [], .receive 1 (saying "far too long") [],
    .operationEnds 0 Pump.obliging.perform "now" [1, 0], .lifecycle (.broadcastSent 0 false),
    .lifecycle (.broadcastSent 0 true), .receive 0 (saying "bye") [], .operationEnds 0 gone "now" []]

def attended : Session := (replay (Activity.step alice) fresh Broadcasts.twoTabs).getD fresh

def afterMessages : Session := (replay (Activity.step alice) attended threeMessages).getD attended

theorem saying_sends {body : String} (filled : body ≠ "") (tab : Tab) (order : List Tab) :
    SendsOnly alice (.receive tab (saying body) order) :=
  ⟨_, rfl, rfl, ⟨_, rfl, by decide⟩, ⟨_, rfl, filled⟩⟩

theorem three_messages_sent :
    collect (Activity.step alice) accepted attended threeMessages =
        [(.str "bob@example.com", .str "hi", "1")] ∧
      collect (Activity.step alice) (refused alice) attended threeMessages =
          [(1, .str "bob@example.com"), (0, .str "bob@example.com")] ∧
        ∃ later, afterMessages.account.sent = attended.account.sent ++ later ∧
          (echoesTo 0 later).Perm [(.str "bob@example.com", .str "hi", "1")] ∧
            later.filterMap deliveryError =
              [(1, .str "bob@example.com"), (0, .str "bob@example.com")] := by
  have quiet : ∀ session : Session, session = attended ∨ session = afterMessages →
      Quiet session.account := by
    rintro session (rfl | rfl)
    all_goals
      refine ⟨?_, rfl⟩
      intro tab
      match tab with
      | 0 => rfl
      | 1 => rfl
      | later + 2 => rfl
  have idle : ∀ tab, attended.commands tab = none := fun _ => rfl
  have sends : ∀ action ∈ threeMessages, SendsOnly alice action := by
    simp only [threeMessages, List.forall_mem_cons]
    refine ⟨saying_sends (by decide) 0 [], saying_sends (by decide) 1 [], trivial, trivial, trivial,
      saying_sends (by decide) 0 [], trivial, ?_⟩
    intro action among
    cases among
  obtain ⟨later, sent, echoes, _, errors, _⟩ :=
    sent_and_echoed alice Broadcasts.twoTabs threeMessages attended afterMessages rfl idle
      (quiet _ (Or.inl rfl)) sends rfl
  exact ⟨rfl, rfl, later, sent, echoes (quiet _ (Or.inr rfl)) 0 (by decide), errors⟩

end PyConduit.Echoes
