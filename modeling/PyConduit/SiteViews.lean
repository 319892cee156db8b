import PyConduit.Manager
import PyConduit.Site

/-!
# The log and the registry of the site

What a tab is sent is what its account sends it. Without the caches and commands
of the accounts and without the logins, a run of the site is a run of the registry.
-/

namespace PyConduit.Site

open Protocol Activity GuardedRun
open Lifecycle (Tab)
open Auth (Login Identity Request login)

set_option autoImplicit false

structure Logged (site : State) : Prop where
  waiting : ∀ tab, site.connections tab = .waiting → framesTo tab site.delivered = []
  bound : ∀ tab index, site.connections tab = .attached index → index < site.count
  attached : ∀ tab index, site.connections tab = .attached index →
    framesTo tab site.delivered = framesTo tab (site.sessions index).account.sent

section Logs

variable {env : Env} {site next : State}

/-- An account takes back no call of `send`. -/
theorem new_sends {env : Activity.Env} {session after : Session} {action : Activity.Action}
    (fired : Activity.step env session action = some after) :
    after.account.sent = session.account.sent ++ newSends session after := by
  have grown : session.account.sent <+: after.account.sent := by
    have viewed := Observed.taken_step fired
    cases takes : Observed.taken env session action with
    | none =>
        rw [takes] at viewed
        have same : session.account = after.account := Option.some.inj viewed
        exact same ▸ List.prefix_rfl
    | some part =>
        rw [takes] at viewed
        exact (Footprint.footprint_of_step viewed).sent
  exact (List.prefix_iff_eq_append.mp grown).symm

theorem logged_set_session {index : Nat} {action : Activity.Action} {session : Session}
    {connections : Tab → Connection} (logged : Logged site) (bound : index < site.count)
    (fired : Activity.step (accountEnv env (site.jids index)) (site.sessions index) action =
      some session)
    (addressed : ∀ send ∈ session.account.sent, connections send.1 = .attached index)
    (waits : ∀ tab, connections tab = .waiting → site.connections tab = .waiting)
    (attaches : ∀ tab other, connections tab = .attached other →
      site.connections tab = .attached other ∨ site.connections tab = .waiting ∧ other = index ∧
        framesTo tab (site.sessions index).account.sent = []) :
    Logged { setSession site index session with connections := connections } := by
  have elsewhere : ∀ tab, connections tab ≠ .attached index →
      framesTo tab (newSends (site.sessions index) session) = [] := by
    intro tab apart
    apply frames_elsewhere
    rintro send among rfl
    exact apart (addressed send (List.mem_of_mem_drop among))
  constructor
  · intro tab waiting
    have before := logged.waiting tab (waits tab waiting)
    have nothing := elsewhere tab fun attached => by cases waiting.symm.trans attached
    exact (frames_to_append ..).trans (by rw [before, nothing]; rfl)
  · intro tab other attached
    rcases attaches tab other attached with before | ⟨_, rfl, _⟩
    · exact logged.bound tab other before
    · exact bound
  · intro tab other attached
    have grown : framesTo tab (setSession site index session).delivered =
        framesTo tab site.delivered ++ framesTo tab (newSends (site.sessions index) session) :=
      frames_to_append ..
    change framesTo tab (setSession site index session).delivered =
      framesTo tab ((setSession site index session).sessions other).account.sent
    rw [grown]
    rcases attaches tab other attached with before | ⟨before, rfl, unsent⟩
    · by_cases same : other = index
      · subst same
        rw [session_set, new_sends fired, frames_to_append, logged.attached tab other before]
      · have nothing := elsewhere tab fun again => by
          cases attached.symm.trans again
          exact same rfl
        rw [session_set_of_ne site same, nothing, List.append_nil, logged.attached tab other before]
    · rw [session_set, new_sends fired, frames_to_append, unsent, logged.waiting tab before]

theorem logged_refuse (logged : Logged site) (tab : Tab) (sends : List (Tab × Frame))
    (own : ∀ send ∈ sends, send.1 = tab) :
    Logged { setConnection site tab .refused with delivered := site.delivered ++ sends } := by
  have others : ∀ other, other ≠ tab → framesTo other (site.delivered ++ sends) =
      framesTo other site.delivered := by
    intro other apart
    have nothing : framesTo other sends = [] := by
      apply frames_elsewhere
      rintro send among rfl
      exact apart (own send among)
    rw [frames_to_append, nothing, List.append_nil]
  have unrefused : ∀ other connection, connection ≠ .refused →
      (setConnection site tab .refused).connections other = connection →
        other ≠ tab ∧ site.connections other = connection := by
    intro other connection apart found
    by_cases same : other = tab
    · subst same
      exact absurd (found.symm.trans (Function.update_self ..)) apart
    · exact ⟨same, (Function.update_of_ne same ..).symm.trans found⟩
  constructor
  · intro other waiting
    obtain ⟨apart, before⟩ := unrefused other .waiting (by simp) waiting
    exact (others other apart).trans (logged.waiting other before)
  · intro other index attached
    exact logged.bound other index (unrefused other (.attached index) (by simp) attached).2
  · intro other index attached
    obtain ⟨apart, before⟩ := unrefused other (.attached index) (by simp) attached
    exact (others other apart).trans (logged.attached other index before)

theorem logged_attach_to (sound : Sound env next) {tab : Tab} {index : Nat} (logged : Logged site)
    (bound : index < site.count) (waiting : site.connections tab = .waiting)
    (unsent : framesTo tab (site.sessions index).account.sent = [])
    (fired : attachTo env site tab index = some next) : Logged next := by
  obtain ⟨session, inner, rfl⟩ := Option.map_eq_some_iff.mp fired
  have here : (setConnection (setSession site index session) tab (.attached index)).sessions index =
      session := session_set ..
  apply logged_set_session logged bound inner
  · intro send among
    rw [← here] at among
    exact (sound.addressed among).1
  · intro other waits
    by_cases same : other = tab
    · exact same ▸ waiting
    · exact (Function.update_of_ne same ..).symm.trans waits
  · intro other account attached
    by_cases same : other = tab
    · subst same
      right
      have last : Connection.attached account = .attached index :=
        attached.symm.trans (Function.update_self ..)
      cases last
      exact ⟨waiting, rfl, unsent⟩
    · left
      exact (Function.update_of_ne same ..).symm.trans attached

theorem logged_step {action : Action} (sound : Sound env site) (logged : Logged site)
    (fired : step env site action = some next) : Logged next := by
  have after := sound_step sound fired
  have unsent : ∀ (tab : Tab) (index : Nat), site.connections tab = .waiting →
      framesTo tab (site.sessions index).account.sent = [] := by
    intro tab index waiting
    apply frames_elsewhere
    rintro send among rfl
    cases waiting.symm.trans (sound.addressed among).1
  have acts : ∀ {index : Nat} {inner : Activity.Action} {session : Session}, index < site.count →
      attaches inner = false →
      Activity.step (accountEnv env (site.jids index)) (site.sessions index) inner = some session →
      Logged (setSession site index session) := by
    intro index inner session bound other stepped
    have still := sound_set_session sound other stepped
    apply @logged_set_session env site index inner session site.connections logged bound
      stepped
    · intro send among
      have here : (setSession site index session).sessions index = session := session_set ..
      rw [← here] at among
      exact (still.addressed among).1
    · exact fun _ waiting => waiting
    · exact fun _ _ attached => Or.inl attached
  cases fires_of_step fired with
  | @rejected tab =>
      have refused := logged_refuse logged tab [] (by simp)
      rwa [List.append_nil] at refused
  | denied => exact logged_refuse logged _ _ (by simp)
  | @attached tab identity _ waiting _ attached =>
      unfold attach at attached
      cases filed : site.registry identity.jid with
      | some index =>
          rw [filed] at attached
          have bound := (sound.filed identity.jid index filed).1
          exact logged_attach_to after logged bound waiting (unsent tab index waiting) attached
      | none =>
          rw [filed] at attached
          have files : Logged (fileAccount site identity.jid) := by
            refine ⟨logged.waiting, ?_, ?_⟩
            · intro other index found
              exact Nat.lt_succ_of_lt (logged.bound other index found)
            · intro other index found
              rw [session_filed_of_ne site (Nat.ne_of_lt (logged.bound other index found))]
              exact logged.attached other index found
          apply logged_attach_to after files (Nat.lt_succ_self _) waiting _ attached
          rw [session_filed]
          rfl
  | account bound other inner => exact acts bound other inner
  | expired bound other inner =>
      have told := acts bound other inner
      unfold onIdleExpired
      split_ifs
      · exact ⟨told.waiting, told.bound, told.attached⟩
      · exact told

/-- What a tab is sent in a run is what its account sends it. -/
theorem delivered_run {actions : List Action} (run : replay (step env) empty actions = some site) :
    Logged site := by
  have both : Sound env site ∧ Logged site := by
    apply run_invariant_unconditional (fun site => Sound env site ∧ Logged site) _ _ run
    · rintro site action next ⟨sound, logged⟩ fired
      exact ⟨sound_step sound fired, logged_step sound logged fired⟩
    · refine ⟨empty_sound env, fun _ _ => rfl, ?_, ?_⟩
      · intro tab index attached
        cases attached
      · intro tab index attached
        cases attached
  exact both.2

end Logs

/-- The registry, with the lifecycles of its accounts. -/
def managerOf (site : State) : Manager.AccountManager Frame where
  accounts := fun index => (site.sessions index).account
  jids := site.jids
  count := site.count
  registry := site.registry
  assigned := fun tab =>
    match site.connections tab with
    | .attached index => some index
    | _ => none

def managerEnv (env : Env) (jid : String) : Lifecycle.Env Frame := lifecycleEnv (accountEnv env jid)

section Refinement

variable {env : Env} {site next : State}

theorem manager_set_session (site : State) (index : Nat) (session : Session) :
    managerOf (setSession site index session) =
      Manager.setAccount (managerOf site) index session.account := by
  have accounts : (fun other => (Function.update site.sessions index session other).account) =
      Function.update (fun other => (site.sessions other).account) index session.account := by
    funext other
    exact Function.apply_update (fun _ session => session.account) site.sessions index session other
  simp only [managerOf, Manager.setAccount, setSession, accounts]

theorem manager_set_connection (site : State) (tab : Tab) (index : Nat) :
    managerOf (setConnection site tab (.attached index)) =
      { managerOf site with assigned := Function.update (managerOf site).assigned tab (some index) } := by
  simp only [managerOf, setConnection, Manager.AccountManager.mk.injEq, true_and]
  funext other
  by_cases same : other = tab
  · subst same
    simp
  · simp [Function.update_of_ne same]

theorem manager_file (site : State) (jid : String) :
    managerOf (fileAccount site jid) =
      ⟨Function.update (managerOf site).accounts site.count Lifecycle.fresh,
        Function.update site.jids site.count jid, site.count + 1,
        Function.update site.registry jid (some site.count), (managerOf site).assigned⟩ := by
  have accounts : (fun other => (Function.update site.sessions site.count fresh other).account) =
      Function.update (fun other => (site.sessions other).account) site.count Lifecycle.fresh := by
    funext other
    exact Function.apply_update (fun _ session => session.account) site.sessions site.count fresh other
  simp only [managerOf, fileAccount, accounts]

theorem manager_refuse {tab : Tab} (waiting : site.connections tab = .waiting)
    (delivered : List (Tab × Frame)) :
    managerOf { setConnection site tab .refused with delivered := delivered } = managerOf site := by
  simp only [managerOf, setConnection, Manager.AccountManager.mk.injEq, true_and]
  funext other
  by_cases same : other = tab
  · subst same
    simp [waiting]
  · simp [Function.update_of_ne same]

theorem manager_expired (site : State) (index : Nat) :
    managerOf (onIdleExpired site index) = Manager.onIdleExpired (managerOf site) index := by
  unfold onIdleExpired Manager.onIdleExpired
  by_cases leaves : (site.sessions index).account.subscribers = [] ∧
      site.registry (site.jids index) = some index
  · rw [if_pos leaves, if_pos (by exact leaves)]
    rfl
  · rw [if_neg leaves, if_neg (by exact leaves)]

theorem expires_taken {env : Activity.Env} {session : Session} {action : Activity.Action}
    {part : Lifecycle.Action Frame} (takes : Observed.taken env session action = some part) :
    Manager.expires session.account part = expires session action := by
  cases action with
  | lifecycle inner =>
      cases takes
      cases part
      all_goals rfl
  | _ =>
      rcases Observed.taken_inside takes with same | ⟨_, noCountdown⟩
      · cases same
      · cases part with
        | idleExpires outcome => exact absurd rfl (noCountdown outcome)
        | _ => rfl

theorem manager_account {index : Nat} {action : Activity.Action} {session : Session}
    (bound : index < site.count) (other : attaches action = false)
    (fired : Activity.step (accountEnv env (site.jids index)) (site.sessions index) action =
      some session) :
    ∃ trace, replay (Manager.step (managerEnv env)) (managerOf site) trace =
      some (managerOf (if expires (site.sessions index) action then
        onIdleExpired (setSession site index session) index else setSession site index session)) := by
  have viewed := Observed.taken_step fired
  cases takes : Observed.taken (accountEnv env (site.jids index)) (site.sessions index) action with
  | none =>
      rw [takes] at viewed
      have same : (site.sessions index).account = session.account := Option.some.inj viewed
      have stays : expires (site.sessions index) action = false := by
        cases action with
        | lifecycle inner => cases takes
        | _ => rfl
      refine ⟨[], ?_⟩
      rw [stays, if_neg (by decide), manager_set_session, Manager.setAccount, ← same]
      have unchanged : Function.update (managerOf site).accounts index (site.sessions index).account =
          (managerOf site).accounts := Function.update_eq_self ..
      rw [unchanged]
      rfl
  | some part =>
      rw [takes] at viewed
      have noAttach : Attendance.attaches part = false := by
        cases part with
        | attach tab => exact absurd rfl (taken_attaches other takes tab)
        | _ => rfl
      have expiry := expires_taken takes
      refine ⟨[.account index part], ?_⟩
      have inner : Lifecycle.step (managerEnv env ((managerOf site).jids index))
          ((managerOf site).accounts index) part = some session.account := viewed
      have expired : Manager.expires ((managerOf site).accounts index) part =
          expires (site.sessions index) action := expiry
      have within : index < (managerOf site).count := bound
      simp only [replay, Manager.step, within, noAttach, and_self, if_true, inner, expired]
      split_ifs
      · rw [manager_expired, manager_set_session]
      · rw [manager_set_session]

theorem attach_to_lifecycle {tab : Tab} {index : Nat} (fired : attachTo env site tab index = some next) :
    (site.sessions index).account.handlers tab = .absent ∧
      managerOf next =
        { Manager.setAccount (managerOf site) index
            (Lifecycle.Account.attach (managerEnv env (site.jids index))
              (site.sessions index).account tab) with
          assigned := Function.update (managerOf site).assigned tab (some index) } := by
  obtain ⟨session, inner, rfl⟩ := Option.map_eq_some_iff.mp fired
  have viewed := lifecycle_view inner
  have absent : (site.sessions index).account.handlers tab = .absent := by
    generalize session.account = after at viewed
    cases Lifecycle.fires_of_step viewed with
    | attach absent => exact absent
  refine ⟨absent, ?_⟩
  simp only [Lifecycle.step, absent, Option.some.injEq] at viewed
  rw [manager_set_connection, manager_set_session, ← viewed]
  rfl

theorem manager_step {action : Action} (fired : step env site action = some next) :
    ∃ trace, replay (Manager.step (managerEnv env)) (managerOf site) trace =
      some (managerOf next) := by
  cases fires_of_step fired with
  | rejected waiting => exact ⟨[], congrArg some (manager_refuse waiting site.delivered).symm⟩
  | denied waiting => exact ⟨[], congrArg some (manager_refuse waiting _).symm⟩
  | @attached tab identity _ waiting logged attached =>
      refine ⟨[.attach identity.jid tab], ?_⟩
      have free : (managerOf site).assigned tab = none := by simp [managerOf, waiting]
      unfold attach at attached
      cases filed : site.registry identity.jid with
      | some index =>
          rw [filed] at attached
          obtain ⟨absent, view⟩ := attach_to_lifecycle attached
          have found : (managerOf site).registry identity.jid = some index := filed
          have unstarted : ((managerOf site).accounts index).handlers tab = .absent := absent
          simp only [replay, Manager.step, free, if_true, found, unstarted, view]
          rfl
      | none =>
          rw [filed] at attached
          obtain ⟨absent, view⟩ := attach_to_lifecycle attached
          have found : (managerOf site).registry identity.jid = none := filed
          rw [session_filed, jid_filed, manager_file] at view
          simp only [replay, Manager.step, free, if_true, found, view, Manager.setAccount,
            Function.update_idem]
          rfl
  | account bound other inner stays =>
      have matched := manager_account bound other inner
      rwa [stays, if_neg (by decide)] at matched
  | expired bound other inner leaves =>
      have matched := manager_account bound other inner
      rwa [leaves, if_pos rfl] at matched

/-- What holds of the registry and of its accounts' lifecycles in every run holds here. -/
theorem manager_run {actions : List Action} (run : replay (step env) empty actions = some site) :
    ∃ trace, replay (Manager.step (managerEnv env)) Manager.empty trace = some (managerOf site) :=
  replay_simulation managerOf (fun _ _ _ fired => manager_step fired) run

end Refinement

end PyConduit.Site
