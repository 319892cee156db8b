import PyConduit.Auth
import PyConduit.Observed

/-!
# All tabs, users and accounts

`handle_ws` logs a tab in and hands it to `AccountManager.attach`, which files one
account for each JID; from then on the tab's frames go to that account. The state
keeps every account object ever made, each with its caches, commands and client,
and what all tabs have been sent. An action is what one task does between two
suspensions, so a run is any interleaving of any number of accounts.
-/

namespace PyConduit.Site

open Protocol Activity GuardedRun
open Lifecycle (Tab)
open Auth (Login Identity Request login)

set_option autoImplicit false

/-- The handshake of a tab's WebSocket is there before its handler starts. -/
structure Env where
  auth : Auth.Env
  config : Commands.Config
  reconnect : Lifecycle.ReconnectConfig
  requests : Tab → Request

def username (env : Env) (tab : Tab) : String :=
  match login env.auth (env.requests tab) with
  | .identified identity => identity.username
  | _ => ""

/-- What an Account is made with; the client is in the actions. -/
def accountEnv (env : Env) (jid : String) : Activity.Env :=
  ⟨⟨jid, env.config, env.auth.lower, env.auth.repr⟩, env.reconnect, username env⟩

/-- The `account` variable of a tab's `/ws` handler, once there is one. -/
inductive Connection
  | waiting
  | refused
  | attached (index : Nat)

/-- `sessions`, `jids` and `count` list the accounts in the order of their creation;
`registry` is `_accounts`; `delivered` lists the calls of `send` on all tabs. -/
structure State where
  sessions : Nat → Session
  jids : Nat → String
  count : Nat
  registry : String → Option Nat
  connections : Tab → Connection
  delivered : List (Tab × Frame)

def empty : State where
  sessions := fun _ => fresh
  jids := fun _ => ""
  count := 0
  registry := fun _ => none
  connections := fun _ => .waiting
  delivered := []

def framesTo (tab : Tab) (sends : List (Tab × Frame)) : List Frame :=
  sends.filterMap fun send => if send.1 = tab then some send.2 else none

theorem frames_to_append (tab : Tab) (sends later : List (Tab × Frame)) :
    framesTo tab (sends ++ later) = framesTo tab sends ++ framesTo tab later :=
  List.filterMap_append ..

theorem frames_elsewhere {tab : Tab} {sends : List (Tab × Frame)}
    (elsewhere : ∀ send ∈ sends, send.1 ≠ tab) : framesTo tab sends = [] := by
  apply List.filterMap_eq_nil_iff.mpr
  intro send among
  exact if_neg (elsewhere send among)

def newSends (session next : Session) : List (Tab × Frame) :=
  next.account.sent.drop session.account.sent.length

def setSession (site : State) (index : Nat) (session : Session) : State :=
  { site with
    sessions := Function.update site.sessions index session
    delivered := site.delivered ++ newSends (site.sessions index) session }

def setConnection (site : State) (tab : Tab) (connection : Connection) : State :=
  { site with connections := Function.update site.connections tab connection }

def fileAccount (site : State) (jid : String) : State :=
  { site with
    sessions := Function.update site.sessions site.count fresh
    jids := Function.update site.jids site.count jid
    count := site.count + 1
    registry := Function.update site.registry jid (some site.count) }

section Fields

variable (site : State) {index other : Nat} {session : Session} {jid : String}

@[simp] theorem session_set (index : Nat) (session : Session) :
    (setSession site index session).sessions index = session := Function.update_self ..

theorem session_set_of_ne (apart : other ≠ index) :
    (setSession site index session).sessions other = site.sessions other :=
  Function.update_of_ne apart ..

@[simp] theorem session_filed (jid : String) :
    (fileAccount site jid).sessions site.count = fresh := Function.update_self ..

theorem session_filed_of_ne (apart : other ≠ site.count) :
    (fileAccount site jid).sessions other = site.sessions other := Function.update_of_ne apart ..

@[simp] theorem jid_filed (jid : String) : (fileAccount site jid).jids site.count = jid :=
  Function.update_self ..

theorem jid_filed_of_ne (apart : other ≠ site.count) :
    (fileAccount site jid).jids other = site.jids other := Function.update_of_ne apart ..

end Fields

/-- `account.attach`, up to its first suspension. -/
def attachTo (env : Env) (site : State) (tab : Tab) (index : Nat) : Option State :=
  (Activity.step (accountEnv env (site.jids index)) (site.sessions index)
      (.lifecycle (.attach tab))).map fun session =>
    setConnection (setSession site index session) tab (.attached index)

/-- `AccountManager.attach`: the account filed under the JID, or a new one. -/
def attach (env : Env) (site : State) (tab : Tab) (jid : String) : Option State :=
  match site.registry jid with
  | some index => attachTo env site tab index
  | none => attachTo env (fileAccount site jid) tab site.count

def onIdleExpired (site : State) (index : Nat) : State :=
  if (site.sessions index).account.subscribers = [] ∧
      site.registry (site.jids index) = some index then
    { site with registry := Function.update site.registry (site.jids index) none }
  else site

def expires (session : Session) : Activity.Action → Bool
  | .lifecycle (.idleExpires outcome) => session.account.callsIdleExpired outcome
  | _ => false

def attaches : Activity.Action → Bool
  | .lifecycle (.attach _) => true
  | _ => false

inductive Action
  | connect (tab : Tab)
  | account (index : Nat) (action : Activity.Action)

def connect (env : Env) (site : State) (tab : Tab) : Option State :=
  match login env.auth (env.requests tab) with
  | .rejected => some (setConnection site tab .refused)
  | .denied frame =>
      some { setConnection site tab .refused with delivered := site.delivered ++ [(tab, frame)] }
  | .identified identity => attach env site tab identity.jid

def step (env : Env) (site : State) : Action → Option State
  | .connect tab =>
      match site.connections tab with
      | .waiting => connect env site tab
      | _ => none
  | .account index action =>
      if index < site.count ∧ attaches action = false then
        (Activity.step (accountEnv env (site.jids index)) (site.sessions index) action).map
          fun session =>
            if expires (site.sessions index) action then
              onIdleExpired (setSession site index session) index
            else setSession site index session
      else none

inductive Fires (env : Env) (site : State) : Action → State → Prop
  | rejected {tab : Tab} (waiting : site.connections tab = .waiting)
      (refused : login env.auth (env.requests tab) = .rejected) :
      Fires env site (.connect tab) (setConnection site tab .refused)
  | denied {tab : Tab} {frame : Frame} (waiting : site.connections tab = .waiting)
      (refused : login env.auth (env.requests tab) = .denied frame) :
      Fires env site (.connect tab)
        { setConnection site tab .refused with delivered := site.delivered ++ [(tab, frame)] }
  | attached {tab : Tab} {identity : Identity} {next : State}
      (waiting : site.connections tab = .waiting)
      (logged : login env.auth (env.requests tab) = .identified identity)
      (fired : attach env site tab identity.jid = some next) :
      Fires env site (.connect tab) next
  | account {index : Nat} {action : Activity.Action} {session : Session}
      (bound : index < site.count) (other : attaches action = false)
      (fired : Activity.step (accountEnv env (site.jids index)) (site.sessions index) action =
        some session) (stays : expires (site.sessions index) action = false) :
      Fires env site (.account index action) (setSession site index session)
  | expired {index : Nat} {action : Activity.Action} {session : Session}
      (bound : index < site.count) (other : attaches action = false)
      (fired : Activity.step (accountEnv env (site.jids index)) (site.sessions index) action =
        some session) (leaves : expires (site.sessions index) action = true) :
      Fires env site (.account index action) (onIdleExpired (setSession site index session) index)

theorem fires_of_step {env : Env} {site next : State} {action : Action}
    (fired : step env site action = some next) : Fires env site action next := by
  cases action with
  | connect tab =>
      simp only [step] at fired
      split at fired
      · next waiting =>
          cases logged : login env.auth (env.requests tab) with
          | rejected =>
              simp only [connect, logged] at fired
              cases fired
              exact .rejected waiting logged
          | denied frame =>
              simp only [connect, logged] at fired
              cases fired
              exact .denied waiting logged
          | identified identity =>
              simp only [connect, logged] at fired
              exact .attached waiting logged fired
      · cases fired
  | account index action =>
      simp only [step, Option.ite_none_right_eq_some] at fired
      obtain ⟨⟨bound, other⟩, found⟩ := fired
      obtain ⟨session, inner, rfl⟩ := Option.map_eq_some_iff.mp found
      split_ifs with leaves
      · exact .expired bound other inner leaves
      · exact .account bound other inner (by simpa using leaves)

def jidOf (env : Env) (tab : Tab) : Option String :=
  match login env.auth (env.requests tab) with
  | .identified identity => some identity.jid
  | _ => none

theorem jid_of_identified {env : Env} {tab : Tab} {identity : Identity}
    (logged : login env.auth (env.requests tab) = .identified identity) :
    jidOf env tab = some identity.jid := by
  simp only [jidOf, logged]

/-- Every account is reached on its own, the registry has each one under its JID, and
the handlers inside an account are those of the tabs that were attached to it, whose
users are mapped to its JID. -/
structure Sound (env : Env) (site : State) : Prop where
  reached : ∀ index, ∃ actions,
    replay (Activity.step (accountEnv env (site.jids index))) fresh actions =
      some (site.sessions index)
  filed : ∀ jid index, site.registry jid = some index →
    index < site.count ∧ site.jids index = jid
  present : ∀ index tab, (site.sessions index).account.handlers tab ≠ .absent →
    index < site.count ∧ site.connections tab = .attached index ∧
      jidOf env tab = some (site.jids index)

section Soundness

variable {env : Env} {site next : State}

theorem empty_sound (env : Env) : Sound env empty := by
  refine ⟨fun _ => ⟨[], rfl⟩, ?_, ?_⟩
  · intro jid index filed
    cases filed
  · intro index tab there
    exact absurd rfl there

theorem taken_attaches {env : Activity.Env} {session : Session} {action : Activity.Action}
    (other : attaches action = false) {part : Lifecycle.Action Frame}
    (takes : Observed.taken env session action = some part) (tab : Tab) :
    part ≠ .attach tab := by
  rcases Observed.taken_inside takes with rfl | ⟨noAttach, _⟩
  · rintro rfl
    cases other
  · exact noAttach tab

theorem present_before {env : Activity.Env} {session after : Session} {action : Activity.Action}
    (other : attaches action = false) (fired : Activity.step env session action = some after)
    {tab : Tab} (there : after.account.handlers tab ≠ .absent) :
    session.account.handlers tab ≠ .absent := by
  intro absent
  have viewed := Observed.taken_step fired
  cases takes : Observed.taken env session action with
  | none =>
      rw [takes] at viewed
      have same : session.account = after.account := Option.some.inj viewed
      exact there (same ▸ absent)
  | some part =>
      rw [takes] at viewed
      exact there (Footprint.absent_kept viewed (taken_attaches other takes tab) absent)

theorem reached_step {index : Nat} {action : Activity.Action} {session : Session}
    (sound : Sound env site)
    (fired : Activity.step (accountEnv env (site.jids index)) (site.sessions index) action =
      some session) (other : Nat) :
    ∃ actions, replay (Activity.step (accountEnv env (site.jids other))) fresh actions =
      some ((setSession site index session).sessions other) := by
  obtain ⟨actions, run⟩ := sound.reached other
  by_cases same : other = index
  · subst same
    refine ⟨actions ++ [action], ?_⟩
    rw [session_set]
    exact replay_snoc run fired
  · refine ⟨actions, ?_⟩
    rw [session_set_of_ne site same]
    exact run

theorem sound_set_session {index : Nat} {action : Activity.Action} {session : Session}
    (sound : Sound env site) (other : attaches action = false)
    (fired : Activity.step (accountEnv env (site.jids index)) (site.sessions index) action =
      some session) : Sound env (setSession site index session) := by
  refine ⟨reached_step sound fired, sound.filed, ?_⟩
  intro account tab there
  apply sound.present
  by_cases same : account = index
  · subst same
    rw [session_set] at there
    exact present_before other fired there
  · rwa [session_set_of_ne site same] at there

theorem sound_expired (sound : Sound env site) (index : Nat) :
    Sound env (onIdleExpired site index) := by
  unfold onIdleExpired
  split_ifs
  · refine ⟨sound.reached, ?_, sound.present⟩
    intro jid account filed
    by_cases same : jid = site.jids index
    · rw [same] at filed
      simp only [Function.update_self] at filed
      cases filed
    · simp only [Function.update_of_ne same] at filed
      exact sound.filed jid account filed
  · exact sound

theorem sound_refuse (sound : Sound env site) {tab : Tab}
    (waiting : site.connections tab = .waiting) (delivered : List (Tab × Frame)) :
    Sound env { setConnection site tab .refused with delivered := delivered } := by
  refine ⟨sound.reached, sound.filed, ?_⟩
  intro index other there
  obtain ⟨bound, attached, mapped⟩ := sound.present index other there
  have apart : other ≠ tab := by
    rintro rfl
    cases waiting.symm.trans attached
  exact ⟨bound, (Function.update_of_ne apart ..).trans attached, mapped⟩

theorem sound_file (sound : Sound env site) (jid : String) : Sound env (fileAccount site jid) := by
  refine ⟨?_, ?_, ?_⟩
  · intro index
    by_cases last : index = site.count
    · subst last
      refine ⟨[], ?_⟩
      rw [session_filed]
      rfl
    · rw [session_filed_of_ne site last, jid_filed_of_ne site last]
      exact sound.reached index
  · intro other index filed
    by_cases same : other = jid
    · subst same
      simp only [fileAccount, Function.update_self] at filed
      cases filed
      exact ⟨Nat.lt_succ_self _, jid_filed site other⟩
    · simp only [fileAccount, Function.update_of_ne same] at filed
      obtain ⟨bound, named⟩ := sound.filed other index filed
      refine ⟨Nat.lt_succ_of_lt bound, ?_⟩
      rw [jid_filed_of_ne site (Nat.ne_of_lt bound)]
      exact named
  · intro index tab there
    by_cases last : index = site.count
    · subst last
      rw [session_filed] at there
      exact absurd rfl there
    · rw [session_filed_of_ne site last] at there
      rw [jid_filed_of_ne site last]
      obtain ⟨bound, attached, mapped⟩ := sound.present index tab there
      exact ⟨Nat.lt_succ_of_lt bound, attached, mapped⟩

theorem sound_attach_to (sound : Sound env site) {tab : Tab} {index : Nat}
    (waiting : site.connections tab = .waiting) (bound : index < site.count)
    (mapped : jidOf env tab = some (site.jids index))
    (fired : attachTo env site tab index = some next) : Sound env next := by
  obtain ⟨session, inner, rfl⟩ := Option.map_eq_some_iff.mp fired
  refine ⟨reached_step sound inner, sound.filed, ?_⟩
  intro account other there
  by_cases own : other = tab
  · subst own
    have here : account = index := by
      by_contra apart
      have before : (setSession site index session).sessions account = site.sessions account :=
        session_set_of_ne site apart
      obtain ⟨_, attached, _⟩ := sound.present account other (before ▸ there)
      cases waiting.symm.trans attached
    subst here
    exact ⟨bound, Function.update_self .., mapped⟩
  · have before : (site.sessions account).account.handlers other ≠ .absent := by
      by_cases same : account = index
      · subst same
        have now : (setSession site account session).sessions account = session := session_set ..
        have kept := (Footprint.footprint_of_step (lifecycle_view inner)).handlers other
          (fun same => own (Option.some.inj same).symm)
        exact kept ▸ now ▸ there
      · have before : (setSession site index session).sessions account = site.sessions account :=
          session_set_of_ne site same
        exact before ▸ there
    obtain ⟨bound, attached, mapped⟩ := sound.present account other before
    exact ⟨bound, (Function.update_of_ne own ..).trans attached, mapped⟩

theorem sound_step {action : Action} (sound : Sound env site)
    (fired : step env site action = some next) : Sound env next := by
  cases fires_of_step fired with
  | rejected waiting => exact sound_refuse sound waiting site.delivered
  | denied waiting => exact sound_refuse sound waiting _
  | @attached tab identity _ waiting logged attached =>
      have mapped := jid_of_identified logged
      unfold attach at attached
      cases filed : site.registry identity.jid with
      | some index =>
          rw [filed] at attached
          obtain ⟨bound, named⟩ := sound.filed identity.jid index filed
          exact sound_attach_to sound waiting bound (named ▸ mapped) attached
      | none =>
          rw [filed] at attached
          apply sound_attach_to (sound_file sound identity.jid) waiting (Nat.lt_succ_self _) _ attached
          rw [jid_filed]
          exact mapped
  | account _ other inner => exact sound_set_session sound other inner
  | expired _ other inner => exact sound_expired (sound_set_session sound other inner) _

theorem sound_run {actions : List Action} (run : replay (step env) empty actions = some site) :
    Sound env site :=
  run_invariant_unconditional (Sound env) (fun _ _ _ sound fired => sound_step sound fired)
    (empty_sound env) run

theorem Sound.subscribed (sound : Sound env site) {index : Nat} {tab : Tab}
    (among : tab ∈ (site.sessions index).account.subscribers) :
    site.connections tab = .attached index ∧ jidOf env tab = some (site.jids index) := by
  obtain ⟨_, run⟩ := sound.reached index
  have there : (site.sessions index).account.handlers tab ≠ .absent :=
    fun absent => ((Observed.strangers run).2 tab absent).1 among
  exact (sound.present index tab there).2

/-- An account sends to the tabs that were attached to it. -/
theorem Sound.addressed (sound : Sound env site) {index : Nat} {send : Tab × Frame}
    (among : send ∈ (site.sessions index).account.sent) :
    site.connections send.1 = .attached index ∧ jidOf env send.1 = some (site.jids index) := by
  obtain ⟨_, run⟩ := sound.reached index
  have there : (site.sessions index).account.handlers send.1 ≠ .absent :=
    fun absent => ((Observed.strangers run).2 send.1 absent).2 send among rfl
  exact (sound.present index send.1 there).2

end Soundness

end PyConduit.Site
