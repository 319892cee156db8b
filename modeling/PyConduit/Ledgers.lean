import PyConduit.Site

/-!
# What the accounts of the site have done

What holds of a new account and is kept by all of its actions, together with what these have
contributed, holds of each account of the site in every run.
-/

namespace PyConduit.Ledgers

open Activity GuardedRun
open Lifecycle (Tab)
open Site (accountEnv attachTo fileAccount setSession)

set_option autoImplicit false

variable {Entry : Type} {Holds : Activity.Env → Session → List Entry → Prop}
  {outcome : Activity.Env → Session → Activity.Action → List Entry}

structure Kept (Holds : Activity.Env → Session → List Entry → Prop)
    (outcome : Activity.Env → Session → Activity.Action → List Entry) : Prop where
  new : ∀ env, Holds env fresh []
  step : ∀ {env session next entries action}, Holds env session entries →
    Activity.step env session action = some next →
      Holds env next (entries ++ outcome env session action)
  attaching : ∀ env session tab, outcome env session (.lifecycle (.attach tab)) = []

def contributed (outcome : Activity.Env → Session → Activity.Action → List Entry) (env : Site.Env)
    (index : Nat) (site : Site.State) : Site.Action → List Entry
  | .connect _ => []
  | .account other action =>
      if other = index then outcome (accountEnv env (site.jids index)) (site.sessions index) action
      else []

structure Ledger (Holds : Activity.Env → Session → List Entry → Prop) (env : Site.Env) (index : Nat)
    (site : Site.State) (entries : List Entry) : Prop where
  holds : Holds (accountEnv env (site.jids index)) (site.sessions index) entries
  unmade : site.count ≤ index → entries = []

variable {env : Site.Env} {index : Nat} {site next : Site.State} {entries : List Entry}

theorem empty_ledger (kept : Kept Holds outcome) (env : Site.Env) (index : Nat) :
    Ledger Holds env index Site.empty [] :=
  ⟨kept.new _, fun _ => rfl⟩

theorem Ledger.same (ledger : Ledger Holds env index site entries)
    (sessions : next.sessions = site.sessions) (jids : next.jids = site.jids)
    (count : next.count = site.count) : Ledger Holds env index next entries := by
  constructor
  · rw [sessions, jids]
    exact ledger.holds
  · rw [count]
    exact ledger.unmade

theorem Ledger.file (kept : Kept Holds outcome) (ledger : Ledger Holds env index site entries)
    (jid : String) : Ledger Holds env index (fileAccount site jid) entries := by
  by_cases last : index = site.count
  · subst last
    have nothing : entries = [] := ledger.unmade le_rfl
    subst nothing
    refine ⟨?_, fun _ => rfl⟩
    rw [Site.session_filed]
    exact kept.new _
  · refine ⟨?_, fun beyond => ledger.unmade (Nat.le_of_succ_le beyond)⟩
    rw [Site.session_filed_of_ne site last, Site.jid_filed_of_ne site last]
    exact ledger.holds

theorem Ledger.set (kept : Kept Holds outcome) (ledger : Ledger Holds env index site entries)
    {other : Nat} {action : Activity.Action} {session : Session}
    (fired : Activity.step (accountEnv env (site.jids other)) (site.sessions other) action =
      some session)
    (made : other < site.count ∨ contributed outcome env index site (.account other action) = []) :
    Ledger Holds env index (setSession site other session)
      (entries ++ contributed outcome env index site (.account other action)) := by
  by_cases own : other = index
  · subst own
    have contributes : contributed outcome env other site (.account other action) =
        outcome (accountEnv env (site.jids other)) (site.sessions other) action := if_pos rfl
    refine ⟨?_, ?_⟩
    · rw [Site.session_set, contributes]
      exact kept.step ledger.holds fired
    · intro beyond
      rcases made with bound | nothing
      · exact absurd bound (Nat.not_lt.mpr beyond)
      · rw [nothing, List.append_nil]
        exact ledger.unmade beyond
  · have nothing : contributed outcome env index site (.account other action) = [] := if_neg own
    rw [nothing, List.append_nil]
    refine ⟨?_, ledger.unmade⟩
    rw [Site.session_set_of_ne site (Ne.symm own)]
    exact ledger.holds

theorem Ledger.attach_to (kept : Kept Holds outcome) (ledger : Ledger Holds env index site entries)
    {tab : Tab} {other : Nat} (fired : attachTo env site tab other = some next) :
    Ledger Holds env index next entries := by
  obtain ⟨session, inner, rfl⟩ := Option.map_eq_some_iff.mp fired
  have nothing : contributed outcome env index site (.account other (.lifecycle (.attach tab))) =
      [] := by
    simp only [contributed, kept.attaching, ite_self]
  have placed := ledger.set kept inner (.inr nothing)
  rw [nothing, List.append_nil] at placed
  exact placed.same rfl rfl rfl

theorem ledger_step (kept : Kept Holds outcome) {action : Site.Action}
    (ledger : Ledger Holds env index site entries) (fired : Site.step env site action = some next) :
    Ledger Holds env index next (entries ++ contributed outcome env index site action) := by
  cases Site.fires_of_step fired with
  | rejected =>
      rw [contributed, List.append_nil]
      exact ledger.same rfl rfl rfl
  | denied =>
      rw [contributed, List.append_nil]
      exact ledger.same rfl rfl rfl
  | @attached tab identity _ waiting logged attached =>
      rw [contributed, List.append_nil]
      unfold Site.attach at attached
      cases filed : site.registry identity.jid with
      | some account =>
          rw [filed] at attached
          exact ledger.attach_to kept attached
      | none =>
          rw [filed] at attached
          exact (ledger.file kept identity.jid).attach_to kept attached
  | account bound _ inner => exact ledger.set kept inner (.inl bound)
  | expired bound _ inner =>
      have placed := ledger.set kept inner (.inl bound)
      unfold Site.onIdleExpired
      split_ifs
      all_goals exact placed.same rfl rfl rfl

/-- In a run of the site each account has what its actions contribute. -/
theorem ledger_run (kept : Kept Holds outcome) {actions : List Site.Action}
    (run : replay (Site.step env) Site.empty actions = some site) (index : Nat) :
    Ledger Holds env index site
      (collect (Site.step env) (contributed outcome env index) Site.empty actions) := by
  have each : ∀ current action after entries, Ledger Holds env index current entries →
      Site.step env current action = some after →
        Ledger Holds env index after (entries ++ contributed outcome env index current action) := by
    intro current action after entries ledger fired
    exact ledger_step kept ledger fired
  exact collect_invariant each (empty_ledger kept env index) run

end PyConduit.Ledgers
