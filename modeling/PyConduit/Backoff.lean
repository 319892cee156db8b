import Mathlib.Algebra.Order.Ring.Pow
import Mathlib.Tactic.Positivity
import PyConduit.Lifecycle

/-!
# The waits of a reconnect loop

`_reconnect_loop` keeps the wait it has just used and multiplies that one for the
next. The cap is applied to the product alone, so the first wait is whatever the
configuration says.
-/

namespace PyConduit.Backoff

open Lifecycle Lifecycle.Account GuardedRun

set_option autoImplicit false

variable {Frame : Type}

/-- The wait that a step begins: the loop has started or an attempt has failed, and
the loop goes on. -/
def waitBegun (env : Env Frame) (account : Account Frame) (action : Action Frame) : List Rat :=
  match action, step env account action with
  | .reconnectStarts, some next | .reconnectRaises, some next =>
      match next.reconnectTask with
      | .sleeping delay => [delay]
      | _ => []
  | _, _ => []

def waits (env : Env Frame) (account : Account Frame) (actions : List (Action Frame)) : List Rat :=
  collect (step env) (waitBegun env) account actions

/-- The loop has not come to its end, so no attempt before has succeeded. -/
def LoopRuns (account : Account Frame) (_ : Action Frame) : Prop :=
  account.reconnectTask ≠ .finished

def lawfulWait (config : ReconnectConfig) (attempt : Nat) : Rat :=
  min (config.initialSeconds * config.factor ^ attempt) config.maxSeconds

/-- The law of the waits, in every run of the account in which one loop runs from its
start on. -/
def BackoffLaw (env : Env Frame) : Prop :=
  ∀ earlier actions account final, replay (step env) fresh earlier = some account →
    account.reconnectTask = .created → replay (step env) account actions = some final →
    Conforms (step env) LoopRuns account actions →
    (∀ attempt wait, (waits env account actions)[attempt]? = some wait →
      wait = lawfulWait env.reconnect attempt) ∧
    (∀ wait ∈ waits env account actions, wait ≤ env.reconnect.maxSeconds) ∧
    (waits env account actions).Pairwise (· ≤ ·)

/-- The wait before an attempt, as the loop computes it from the wait before. -/
def delayBefore (config : ReconnectConfig) : Nat → Rat
  | 0 => config.initialSeconds
  | attempt + 1 => nextDelay config (delayBefore config attempt)

section Operations

variable (env : Env Frame) (account : Account Frame) (tab : Tab) (frame : Frame)

@[simp] theorem task_set_handler (handler : Handler Frame) :
    (account.setHandler tab handler).reconnectTask = account.reconnectTask := rfl

@[simp] theorem task_send : (account.send tab frame).reconnectTask = account.reconnectTask := rfl

@[simp] theorem task_send_ended (delivered : Bool) :
    (account.sendEnded tab delivered).reconnectTask = account.reconnectTask := by
  cases delivered
  · rfl
  · rfl

@[simp] theorem task_send_snapshot :
    (sendSnapshot env account tab).reconnectTask = account.reconnectTask := rfl

@[simp] theorem task_under_lock :
    (underLock env account tab).reconnectTask = account.reconnectTask := by
  unfold underLock
  split
  · rfl
  · rfl

@[simp] theorem task_attach : (attach env account tab).reconnectTask = account.reconnectTask := by
  unfold attach ensureConnected
  split
  · rw [task_under_lock]
    rfl
  · rfl

@[simp] theorem task_detach : (account.detach tab).reconnectTask = account.reconnectTask := by
  unfold detach
  dsimp only
  split
  · rfl
  · rfl

@[simp] theorem task_broadcast (order : List Tab) :
    (account.broadcast tab frame order).reconnectTask = account.reconnectTask := by
  cases order with
  | nil => rfl
  | cons next rest => rfl

@[simp] theorem task_idle_countdown (outcome : DisconnectOutcome) :
    (account.idleCountdown outcome).reconnectTask = account.reconnectTask := by
  unfold idleCountdown close
  split
  · cases outcome
    all_goals rfl
  · rfl

variable {account}

theorem schedule_running (running : account.reconnectTask ≠ .finished) :
    account.scheduleReconnect = account := by
  rw [scheduleReconnect, if_pos running]

theorem task_report (running : account.reconnectTask ≠ .finished) (order : List Tab) :
    (report env account tab frame order).reconnectTask = account.reconnectTask := by
  cases order with
  | nil => rw [report, schedule_running running, task_send_snapshot]; rfl
  | cons next rest => rfl

theorem task_finish_event (running : account.reconnectTask ≠ .finished)
    (afterwards : Afterwards) :
    (account.finishEvent afterwards).reconnectTask = account.reconnectTask := by
  cases afterwards with
  | nothing => rfl
  | scheduleReconnect => rw [finishEvent, schedule_running running]

theorem task_start_event (running : account.reconnectTask ≠ .finished) (afterwards : Afterwards)
    (order : List Tab) :
    (account.startEvent frame afterwards order).reconnectTask = account.reconnectTask := by
  cases order with
  | nil => exact task_finish_event running afterwards
  | cons next rest => rfl

theorem task_continue_event (running : account.reconnectTask ≠ .finished) (index : Nat)
    (afterwards : Afterwards) (rest : List Tab) :
    (account.continueEvent index frame afterwards rest).reconnectTask = account.reconnectTask := by
  cases rest with
  | nil =>
      exact @task_finish_event Frame { account with events := account.events.eraseIdx index }
        running afterwards
  | cons next rest => rfl

end Operations

/-- Where a running loop is: `attempt` is the number of waits it has begun. -/
def Stage (config : ReconnectConfig) (attempt : Nat) : ReconnectTask → Prop
  | .created => attempt = 0
  | .sleeping delay => ∃ last, attempt = last + 1 ∧ delay = delayBefore config last
  | .connecting delay => ∃ last, attempt = last + 1 ∧ delay = delayBefore config last
  | .finished => False

/-- What a step does to a running loop: the loop begins its next wait, or it does not
and either comes to its end or is still behind the same waits. -/
def Continues (env : Env Frame) (account : Account Frame) (action : Action Frame)
    (next : Account Frame) (attempt : Nat) : Prop :=
  (waitBegun env account action = [] ∧
      (next.reconnectTask = .finished ∨ Stage env.reconnect attempt next.reconnectTask)) ∨
    (waitBegun env account action = [delayBefore env.reconnect attempt] ∧
      Stage env.reconnect (attempt + 1) next.reconnectTask)

section Runs

variable {env : Env Frame} {account next : Account Frame} {action : Action Frame}
  {attempt : Nat}

theorem stage_running {config : ReconnectConfig} {task : ReconnectTask}
    (stage : Stage config attempt task) : task ≠ .finished := by
  rintro rfl
  exact stage

theorem continues_loop (fired : step env account action = some next) {before : Account Frame}
    (loops : next = before.reconnectLoop (delayBefore env.reconnect attempt))
    (begins : action = .reconnectStarts ∨ action = .reconnectRaises) :
    Continues env account action next attempt := by
  unfold reconnectLoop at loops
  by_cases goesOn : before.closing = false ∧ before.subscribers ≠ [] ∧
      before.client.connected = false
  · rw [if_pos goesOn] at loops
    right
    constructor
    · rcases begins with rfl | rfl
      · simp only [waitBegun, fired, loops]
      · simp only [waitBegun, fired, loops]
    · rw [loops]
      exact ⟨attempt, rfl, rfl⟩
  · rw [if_neg goesOn] at loops
    left
    constructor
    · rcases begins with rfl | rfl
      · simp only [waitBegun, fired, loops]
      · simp only [waitBegun, fired, loops]
    · rw [loops]
      exact Or.inl rfl

theorem continues_step (stage : Stage env.reconnect attempt account.reconnectTask)
    (fired : step env account action = some next) :
    Continues env account action next attempt := by
  have running := stage_running stage
  have same : waitBegun env account action = [] →
      next.reconnectTask = account.reconnectTask → Continues env account action next attempt :=
    fun silent kept => Or.inl ⟨silent, Or.inr (kept ▸ stage)⟩
  have ends : waitBegun env account action = [] →
      next.reconnectTask = .finished → Continues env account action next attempt :=
    fun silent finished => Or.inl ⟨silent, Or.inl finished⟩
  cases fires_of_step fired with
  | reconnectStarts created =>
      rw [created] at stage
      have first : attempt = 0 := stage
      subst first
      exact continues_loop fired rfl (Or.inl rfl)
  | reconnectRaises connecting =>
      rw [connecting] at stage
      obtain ⟨last, rfl, rfl⟩ := stage
      exact continues_loop fired rfl (Or.inr rfl)
  | reconnectWakes sleeping =>
      rw [sleeping] at stage
      unfold reconnectWakes
      split
      · exact Or.inl ⟨rfl, Or.inl rfl⟩
      · exact Or.inl ⟨rfl, Or.inr stage⟩
  | reconnectReturns => exact ends rfl rfl
  | reconnectCancelledConnecting => exact ends rfl rfl
  | reconnectCancelled => exact ends rfl rfl
  | connectRaises => exact same rfl (@task_report Frame env account.connectEnds _ _ running _)
  | reported =>
      apply same rfl
      rw [task_report env _ _ (by rw [task_send_ended]; exact running), task_send_ended]
  | event => exact same rfl (task_start_event _ running _ _)
  | disconnected =>
      exact same rfl (@task_start_event Frame { account with
        pendingDrops := account.pendingDrops - 1 } _ running _ _)
  | eventSent =>
      apply same rfl
      rw [task_continue_event _ (by rw [task_send_ended]; exact running), task_send_ended]
  | _ => exact same rfl (by simp [releaseLock, Lifecycle.Account.connectEnds])

theorem waits_from {final : Account Frame} {actions : List (Action Frame)}
    (stage : Stage env.reconnect attempt account.reconnectTask)
    (run : replay (step env) account actions = some final)
    (runs : Conforms (step env) LoopRuns account actions) (index : Nat) (wait : Rat)
    (found : (waits env account actions)[index]? = some wait) :
    wait = delayBefore env.reconnect (attempt + index) := by
  induction actions generalizing account attempt index with
  | nil => cases found
  | cons action rest induction =>
      obtain ⟨next, fired, later⟩ := replay_cons run
      obtain ⟨_, runsLater⟩ := conforms_cons fired runs
      unfold waits at found induction
      rw [collect_cons (waitBegun env) fired] at found
      rcases continues_step stage fired with ⟨silent, ended | stageNext⟩ | ⟨begins, stageNext⟩
      · -- the loop is over, so this was the last action of the run
        rw [silent, List.nil_append] at found
        cases rest with
        | nil => cases found
        | cons other others => exact absurd ended runsLater.1
      · rw [silent, List.nil_append] at found
        exact induction stageNext later runsLater index found
      · rw [begins, List.singleton_append] at found
        cases index with
        | zero =>
            cases found
            rfl
        | succ index =>
            rw [List.getElem?_cons_succ] at found
            rw [induction stageNext later runsLater index found]
            congr 1
            omega

end Runs

section Law

variable {config : ReconnectConfig}

/-- The capped value carries on: from a wait that was cut off, the product is cut off
again. -/
theorem next_lawful (longer : 1 ≤ config.factor) (bounded : 0 < config.maxSeconds)
    (wait : Rat) :
    nextDelay config (min wait config.maxSeconds) =
      min (wait * config.factor) config.maxSeconds := by
  unfold nextDelay
  rcases le_total wait config.maxSeconds with short | cut
  · rw [min_eq_left short]
  · have again : config.maxSeconds ≤ config.maxSeconds * config.factor :=
      le_mul_of_one_le_right bounded.le longer
    have product : config.maxSeconds ≤ wait * config.factor :=
      cut.trans (le_mul_of_one_le_right (bounded.le.trans cut) longer)
    rw [min_eq_right cut, min_eq_right again, min_eq_right product]

theorem delay_before_eq (longer : 1 ≤ config.factor) (bounded : 0 < config.maxSeconds)
    (capped : config.initialSeconds ≤ config.maxSeconds) (attempt : Nat) :
    delayBefore config attempt = lawfulWait config attempt := by
  induction attempt with
  | zero => rw [delayBefore, lawfulWait, pow_zero, mul_one, min_eq_left capped]
  | succ attempt induction =>
      rw [delayBefore, induction, lawfulWait, next_lawful longer bounded, lawfulWait, pow_succ,
        mul_assoc]

theorem lawful_wait_le (config : ReconnectConfig) (attempt : Nat) :
    lawfulWait config attempt ≤ config.maxSeconds := min_le_right _ _

theorem lawful_wait_mono (positive : 0 < config.initialSeconds) (longer : 1 ≤ config.factor)
    {first second : Nat} (earlier : first ≤ second) :
    lawfulWait config first ≤ lawfulWait config second := by
  apply min_le_min_right
  exact mul_le_mul_of_nonneg_left (pow_le_pow_right₀ longer earlier) positive.le

end Law

def failedAttach (frame : Frame) : List (Action Frame) :=
  [.attach 0, .connectRaises 0 frame [0], .reported 0 true]

/-- The first wait of a loop is the one of the configuration, whatever the maximum. -/
theorem first_wait_begins (env : Env Frame) : ∃ account final,
    replay (step env) fresh (failedAttach (env.ready 0)) = some account ∧
      account.reconnectTask = .created ∧
      replay (step env) account [.reconnectStarts] = some final ∧
      waits env account [.reconnectStarts] = [env.reconnect.initialSeconds] :=
  ⟨_, _, rfl, rfl, rfl, rfl⟩

theorem first_wait_capped {env : Env Frame} (law : BackoffLaw env) :
    env.reconnect.initialSeconds ≤ env.reconnect.maxSeconds := by
  obtain ⟨account, final, attached, created, started, begun⟩ := first_wait_begins env
  have runs : Conforms (step env) LoopRuns account [.reconnectStarts] := by
    constructor
    · rw [LoopRuns, created]
      exact ReconnectTask.noConfusion
    · obtain ⟨next, fired, _⟩ := replay_cons started
      rw [fired]
      trivial
  have short := (law _ _ account final attached created started runs).2.1
  rw [begun] at short
  exact short _ (List.mem_singleton_self _)

/-- The waits follow the law for all settings in which the first one is not above the
maximum, and for no others. -/
theorem backoff_law_iff (env : Env Frame) (positive : 0 < env.reconnect.initialSeconds)
    (bounded : 0 < env.reconnect.maxSeconds) (longer : 1 ≤ env.reconnect.factor) :
    BackoffLaw env ↔ env.reconnect.initialSeconds ≤ env.reconnect.maxSeconds := by
  constructor
  · exact first_wait_capped
  · intro capped earlier actions account final _ created run runs
    have stage : Stage env.reconnect 0 account.reconnectTask := by
      rw [created]
      rfl
    have lawful : ∀ attempt wait, (waits env account actions)[attempt]? = some wait →
        wait = lawfulWait env.reconnect attempt := by
      intro attempt wait found
      rw [← delay_before_eq longer bounded capped, waits_from stage run runs attempt wait found,
        Nat.zero_add]
    refine ⟨lawful, ?_, ?_⟩
    · intro wait member
      obtain ⟨attempt, found⟩ := List.mem_iff_getElem?.mp member
      rw [lawful attempt wait found]
      exact lawful_wait_le _ _
    · rw [List.pairwise_iff_getElem]
      intro first second firstBound secondBound before
      rw [lawful first _ (List.getElem?_eq_getElem firstBound),
        lawful second _ (List.getElem?_eq_getElem secondBound)]
      exact lawful_wait_mono positive longer before.le

theorem default_backoff_is_lawful : BackoffLaw plainEnv :=
  (backoff_law_iff plainEnv (by decide +kernel) (by decide +kernel) (by decide +kernel)).mpr
    (by decide +kernel)

theorem first_wait_is_not_capped :
    let config : ReconnectConfig := { initialSeconds := 120 }
    0 < config.initialSeconds ∧ 0 < config.maxSeconds ∧ 1 ≤ config.factor ∧
      ¬BackoffLaw (⟨config, fun _ => ()⟩ : Env Unit) := by
  refine ⟨by decide +kernel, by decide +kernel, by decide +kernel, ?_⟩
  intro law
  have capped := first_wait_capped law
  revert capped
  decide +kernel

end PyConduit.Backoff
