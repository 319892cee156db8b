import PyConduit.InFlight
import PyConduit.Observed

/-!
# Where frames come from

A frame that a tab is sent is an error, what an event is shown as, what a command ends with,
or part of a snapshot. Broadcasts under way carry what they were begun with.
-/

namespace PyConduit.Origins

open Protocol Replay Activity GuardedRun
open Commands (Finish)
open Lifecycle (Tab)
open Observed (taken)
open InFlight (Carries)

set_option autoImplicit false

def brought (part : Lifecycle.Action Frame) : Option Frame :=
  ((Numbered.begun part).map Prod.fst).or ((InFlight.direct part).map Prod.snd)

inductive Origin (env : Env) (session : Session) (action : Action) (part : Lifecycle.Action Frame) :
    Frame → Prop
  | error (context message : String) (conversation : Option Json) :
      Origin env session action part (.error context message conversation)
  | event {event : Event} {order : List Tab} {frame : Frame} (same : action = .event event order)
      (visible : eventFrame event = some frame) : Origin env session action part frame
  | finishes {tab : Tab} {raw : Json} {order : List Tab} {caches : Caches} {finish : Finish}
      {frame : Frame} (same : action = .receive tab raw order)
      (handled : Pump.parseAndHandle env.commands session.caches raw = .ok (caches, .finish finish))
      (concludes : Observed.concluding tab order finish = some part)
      (ends : finish.frame = some frame) : Origin env session action part frame
  | answers {tab : Tab} {result : (operation : Commands.Operation) → Except String operation.Value}
      {now : String} {order : List Tab} {pending : Pending} {frame : Frame}
      (same : action = .operationEnds tab result now order)
      (suspended : session.commands tab = some pending)
      (concludes : Observed.concluding tab order
        (pending.resume (result pending.operation) now) = some part)
      (ends : (pending.resume (result pending.operation) now).frame = some frame) :
      Origin env session action part frame
  | replays {tab : Tab} {choice : Option Nat} {frame : Frame} {place : Snapshot}
      (same : action = .sent tab choice) (alone : part = .snapshotSend tab frame)
      (goesOn : sendSnapshot session choice (session.snapshots tab) = some (.send frame place)) :
      Origin env session action part frame

section Steps

variable {env : Env} {session next : Session} {action : Action} {part : Lifecycle.Action Frame}
  {frame : Frame}

/-- What the end of a command brings in. -/
theorem brought_concluding {tab : Tab} {order : List Tab} {finish : Finish}
    (takes : Observed.concluding tab order finish = some part)
    (brings : brought part = some frame) :
    finish.frame = some frame ∨ ∃ context message conversation,
      frame = .error context message conversation := by
  cases finish with
  | done => cases takes
  | reply reply =>
      cases takes
      exact .inl brings
  | broadcast told =>
      cases takes
      exact .inl brings
  | raise exception =>
      cases exception with
      | protocolError error =>
          cases takes
          cases brings
          exact .inr ⟨_, _, _, rfl⟩
      | _ =>
          cases takes
          cases brings

theorem origin_of_step (fired : Activity.step env session action = some next)
    (takes : taken env session action = some part) (brings : brought part = some frame) :
    Origin env session action part frame := by
  cases fires_of_step fired with
  | lifecycle outside =>
      cases takes
      exfalso
      cases part
      all_goals simp [within, brought, Numbered.begun, InFlight.direct] at outside brings
  | connectRaises =>
      cases takes
      cases brings
      exact .error _ _ _
  | event visible =>
      simp only [taken, visible, Option.map_some, Option.some.injEq] at takes
      subst takes
      cases brings
      exact .event rfl visible
  | connected hidden =>
      simp only [taken, hidden, Option.map_none] at takes
      cases takes
  | refused _ _ handled =>
      simp only [taken, handled] at takes
      rcases brought_concluding takes brings with ends | ⟨_, _, _, rfl⟩
      · cases ends
      · exact .error _ _ _
  | finished _ _ handled =>
      simp only [taken, handled] at takes
      rcases brought_concluding takes brings with ends | ⟨_, _, _, rfl⟩
      · exact .finishes rfl handled takes ends
      · exact .error _ _ _
  | called _ _ handled =>
      simp only [taken, handled] at takes
      cases takes
  | operationEnds suspended =>
      simp only [taken, suspended, Option.bind_some] at takes
      rcases brought_concluding takes brings with ends | ⟨_, _, _, rfl⟩
      · exact .answers rfl suspended takes ends
      · exact .error _ _ _
  | @sent tab choice progress _ goesOn =>
      simp only [taken, goesOn, Option.map_some, Option.some.injEq] at takes
      subst takes
      cases progress with
      | send told place =>
          cases brings
          exact .replays rfl rfl goesOn
      | ends => cases brings
      | raises => cases brings
  | sendRaises =>
      cases takes
      cases brings
  | _ => cases takes

end Steps

/-- What holds of all frames that actions bring in holds of all frames that are sent. -/
structure Sends (fits : Frame → Prop) (session : Session) : Prop where
  carries : Carries fits session.account
  sent : ∀ entry ∈ session.account.sent, fits entry.2

section Sending

variable {env : Env} {session next : Session} {fits : Frame → Prop}

theorem fresh_sends (fits : Frame → Prop) : Sends fits fresh := by
  refine ⟨InFlight.fresh_carries fits, ?_⟩
  intro entry among
  cases among

theorem Sends.step (sends : Sends fits session) (ready : ∀ tab, fits (readyFrame env tab))
    {action : Action} (origins : ∀ part frame, Origin env session action part frame → fits frame)
    (fired : Activity.step env session action = some next) : Sends fits next := by
  have viewed := Observed.taken_step fired
  cases takes : taken env session action with
  | none =>
      rw [takes] at viewed
      have same : session.account = next.account := Option.some.inj viewed
      exact ⟨same ▸ sends.carries, same ▸ sends.sent⟩
  | some part =>
      rw [takes] at viewed
      have begins : ∀ frame order, Numbered.begun part = some (frame, order) → fits frame := by
        intro frame order begun
        apply origins part
        apply origin_of_step fired takes
        rw [brought, begun]
        rfl
      obtain ⟨carries, new, sent, told⟩ := InFlight.says_step ready sends.carries begins viewed
      refine ⟨carries, ?_⟩
      rw [sent]
      intro entry among
      rcases List.mem_append.mp among with before | later
      · exact sends.sent entry before
      · rcases told with ⟨fit, _⟩ | ⟨other, alone, rfl⟩
        · exact fit entry later
        · cases List.mem_singleton.mp later
          apply origins part
          apply origin_of_step fired takes
          have nothing : Numbered.begun part = none := by
            cases part
            all_goals first | rfl | cases alone
          rw [brought, nothing, alone]
          rfl

end Sending

end PyConduit.Origins
