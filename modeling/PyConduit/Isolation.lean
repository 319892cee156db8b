import Mathlib.Data.Nat.Count
import PyConduit.Site

/-!
# Accounts do not leak into each other

All accounts are in one registry and every tab comes in through it. What concerns
one JID is the logins of its users and what its accounts do, each account counted
among those of the JID. Left to themselves these actions are a run of the same
machine, in which no other JID has ever been heard of, and it delivers the same
frames to the tabs of the JID.
-/

namespace PyConduit.Isolation

open Protocol GuardedRun Site
open Activity (Session fresh)
open Lifecycle (Tab)
open Auth (Identity login)

set_option autoImplicit false

def ordinal (jid : String) (site : State) (index : Nat) : Nat :=
  Nat.count (fun other => site.jids other = jid) index

/-- What an action has to do with the JID. -/
def about (env : Env) (jid : String) (site : State) : Site.Action → List Site.Action
  | .connect tab => if jidOf env tab = some jid then [.connect tab] else []
  | .account index action =>
      if site.jids index = jid then [.account (ordinal jid site index) action] else []

/-- The smaller site has the accounts of the JID and no others, and its users cannot
tell the difference. -/
structure Shadows (env : Env) (jid : String) (site small : State) : Prop where
  count : small.count = ordinal jid site site.count
  sessions : ∀ index < site.count, site.jids index = jid →
    small.sessions (ordinal jid site index) = site.sessions index ∧
      small.jids (ordinal jid site index) = jid
  registry : small.registry jid = (site.registry jid).map (ordinal jid site)
  waiting : ∀ tab, jidOf env tab = some jid →
    (small.connections tab = .waiting ↔ site.connections tab = .waiting)
  delivered : ∀ tab, jidOf env tab = some jid →
    framesTo tab small.delivered = framesTo tab site.delivered

section Ordinals

variable {jid : String} {site next : State} {index other : Nat}

theorem ordinal_congr (same : ∀ other < index, next.jids other = site.jids other) :
    ordinal jid next index = ordinal jid site index := by
  apply Nat.le_antisymm
  · apply Nat.count_mono_left
    intro other below named
    exact same other below ▸ named
  · apply Nat.count_mono_left
    intro other below named
    exact (same other below).trans named

theorem ordinal_lt (named : site.jids index = jid) (below : index < other) :
    ordinal jid site index < ordinal jid site other :=
  Nat.count_strict_mono named below

theorem ordinal_inj (named : site.jids index = jid) (also : site.jids other = jid) :
    ordinal jid site index = ordinal jid site other ↔ index = other :=
  ⟨Nat.count_injective named also, congrArg _⟩

theorem ordinal_filed (name : String) (below : index ≤ site.count) :
    ordinal jid (fileAccount site name) index = ordinal jid site index := by
  apply ordinal_congr
  intro other before
  apply jid_filed_of_ne
  omega

end Ordinals

section Apart

variable {env : Env} {jid name : String} {site small : State} {index : Nat} {tab : Tab}

theorem Shadows.file_other (shadows : Shadows env jid site small) (sound : Sound env site)
    (apart : name ≠ jid) : Shadows env jid (fileAccount site name) small := by
  have last : ordinal jid (fileAccount site name) (site.count + 1) =
      ordinal jid (fileAccount site name) site.count := by
    apply Nat.count_succ_eq_count_iff.mpr
    rw [jid_filed]
    exact apart
  refine ⟨?_, ?_, ?_, shadows.waiting, shadows.delivered⟩
  · rw [shadows.count]
    exact (last.trans (ordinal_filed name le_rfl)).symm
  · intro other bound named
    have older : other ≠ site.count := by
      rintro rfl
      rw [jid_filed] at named
      exact apart named
    have below : other < site.count := by
      have within : other < site.count + 1 := bound
      omega
    rw [jid_filed_of_ne site older] at named
    rw [session_filed_of_ne site older, ordinal_filed name (Nat.le_of_lt below)]
    exact shadows.sessions other below named
  · have same : (fileAccount site name).registry jid = site.registry jid :=
      Function.update_of_ne (Ne.symm apart) ..
    rw [same, shadows.registry]
    cases filed : site.registry jid with
    | none => rfl
    | some other =>
        have below := (sound.filed jid other filed).1
        rw [Option.map_some, Option.map_some, ordinal_filed name (Nat.le_of_lt below)]

theorem Shadows.tell_other (shadows : Shadows env jid site small) {sends : List (Tab × Frame)}
    (elsewhere : ∀ send ∈ sends, jidOf env send.1 ≠ some jid) :
    Shadows env jid { site with delivered := site.delivered ++ sends } small := by
  refine ⟨shadows.count, shadows.sessions, shadows.registry, shadows.waiting, ?_⟩
  intro tab mapped
  have nothing : framesTo tab sends = [] := by
    apply frames_elsewhere
    rintro send among rfl
    exact elsewhere send among mapped
  rw [shadows.delivered tab mapped, frames_to_append, nothing, List.append_nil]

theorem Shadows.set_other (shadows : Shadows env jid site small) {session : Session}
    (apart : site.jids index ≠ jid)
    (elsewhere : ∀ send ∈ newSends (site.sessions index) session, jidOf env send.1 ≠ some jid) :
    Shadows env jid (setSession site index session) small := by
  have told := shadows.tell_other elsewhere
  refine ⟨told.count, ?_, told.registry, told.waiting, told.delivered⟩
  intro other bound named
  have different : other ≠ index := by
    rintro rfl
    exact apart named
  rw [session_set_of_ne site different]
  exact shadows.sessions other bound named

theorem Shadows.connection_other (shadows : Shadows env jid site small)
    (apart : jidOf env tab ≠ some jid) (connection : Connection) :
    Shadows env jid (setConnection site tab connection) small := by
  refine ⟨shadows.count, shadows.sessions, shadows.registry, ?_, shadows.delivered⟩
  intro other mapped
  have different : other ≠ tab := by
    rintro rfl
    exact apart mapped
  have same : (setConnection site tab connection).connections other = site.connections other :=
    Function.update_of_ne different ..
  rw [same]
  exact shadows.waiting other mapped

theorem Shadows.expired_other (shadows : Shadows env jid site small)
    (apart : site.jids index ≠ jid) : Shadows env jid (onIdleExpired site index) small := by
  unfold onIdleExpired
  split_ifs
  · refine ⟨shadows.count, shadows.sessions, ?_, shadows.waiting, shadows.delivered⟩
    simp only [Function.update_of_ne (Ne.symm apart)]
    exact shadows.registry
  · exact shadows

end Apart

section Own

variable {env : Env} {jid : String} {site small next : State} {index : Nat} {tab : Tab}

theorem Shadows.file (shadows : Shadows env jid site small) :
    Shadows env jid (fileAccount site jid) (fileAccount small jid) := by
  have last : ordinal jid (fileAccount site jid) (site.count + 1) =
      ordinal jid (fileAccount site jid) site.count + 1 :=
    Nat.count_succ_eq_succ_count_iff.mpr (jid_filed site jid)
  have counted : ordinal jid (fileAccount site jid) site.count = small.count :=
    (ordinal_filed jid le_rfl).trans shadows.count.symm
  refine ⟨?_, ?_, ?_, shadows.waiting, shadows.delivered⟩
  · exact (last.trans (congrArg (· + 1) counted)).symm
  · intro other bound named
    by_cases newest : other = site.count
    · subst newest
      rw [counted]
      simp only [session_filed, jid_filed, and_self]
    · have below : other < site.count := by
        have within : other < site.count + 1 := bound
        omega
      rw [jid_filed_of_ne site newest] at named
      have older : ordinal jid site other ≠ small.count := by
        rw [shadows.count]
        exact Nat.ne_of_lt (ordinal_lt named below)
      rw [ordinal_filed jid (Nat.le_of_lt below), session_filed_of_ne site newest,
        session_filed_of_ne small older, jid_filed_of_ne small older]
      exact shadows.sessions other below named
  · have now : (fileAccount site jid).registry jid = some site.count := Function.update_self ..
    rw [now, Option.map_some, counted]
    exact Function.update_self ..

theorem Shadows.set (shadows : Shadows env jid site small) (bound : index < site.count)
    (named : site.jids index = jid) (session : Session) :
    Shadows env jid (setSession site index session)
      (setSession small (ordinal jid site index) session) := by
  refine ⟨shadows.count, ?_, shadows.registry, shadows.waiting, ?_⟩
  · intro other otherBound alsoNamed
    by_cases same : other = index
    · subst same
      have numbered : ordinal jid (setSession site other session) other = ordinal jid site other := rfl
      rw [numbered, session_set, session_set]
      exact ⟨rfl, (shadows.sessions other bound named).2⟩
    · have numbered : ordinal jid (setSession site index session) other = ordinal jid site other :=
        rfl
      have apart : ordinal jid site other ≠ ordinal jid site index :=
        fun equal => same ((ordinal_inj alsoNamed named).mp equal)
      rw [numbered, session_set_of_ne site same, session_set_of_ne small apart]
      exact shadows.sessions other otherBound alsoNamed
  · intro tab mapped
    have before := (shadows.sessions index bound named).1
    rw [setSession, setSession, frames_to_append, frames_to_append, before,
      shadows.delivered tab mapped]

theorem Shadows.connection (shadows : Shadows env jid site small) (index : Nat) :
    Shadows env jid (setConnection site tab (.attached index))
      (setConnection small tab (.attached (ordinal jid site index))) := by
  refine ⟨shadows.count, shadows.sessions, shadows.registry, ?_, shadows.delivered⟩
  intro other mapped
  by_cases same : other = tab
  · subst same
    simp [setConnection]
  · simp only [setConnection, Function.update_of_ne same]
    exact shadows.waiting other mapped

theorem Shadows.expired (shadows : Shadows env jid site small) (sound : Sound env site)
    (bound : index < site.count) (named : site.jids index = jid) :
    Shadows env jid (onIdleExpired site index) (onIdleExpired small (ordinal jid site index)) := by
  obtain ⟨session, also⟩ := shadows.sessions index bound named
  have filed : small.registry jid = some (ordinal jid site index) ↔ site.registry jid = some index := by
    rw [shadows.registry]
    constructor
    · intro found
      obtain ⟨other, filed, equal⟩ := Option.map_eq_some_iff.mp found
      rw [filed, (ordinal_inj (sound.filed jid other filed).2 named).mp equal]
    · intro found
      rw [found, Option.map_some]
  unfold onIdleExpired
  rw [session, also, named]
  simp only [filed]
  split_ifs
  · refine ⟨shadows.count, shadows.sessions, ?_, shadows.waiting, shadows.delivered⟩
    simp
  · exact shadows

theorem Shadows.attach_to (shadows : Shadows env jid site small) (bound : index < site.count)
    (named : site.jids index = jid) (fired : attachTo env site tab index = some next) :
    ∃ after, attachTo env small tab (ordinal jid site index) = some after ∧
      Shadows env jid next after := by
  obtain ⟨session, inner, rfl⟩ := Option.map_eq_some_iff.mp fired
  obtain ⟨same, also⟩ := shadows.sessions index bound named
  rw [named] at inner
  refine ⟨_, ?_, (shadows.set bound named session).connection index⟩
  rw [attachTo, same, also, inner]
  rfl

end Own

section Steps

variable {env : Env} {jid : String} {site small next : State}

/-- What an account of another JID sends does not reach the tabs of this one. -/
theorem sends_elsewhere (sound : Sound env next) {index : Nat} {before : Session}
    (apart : next.jids index ≠ jid) :
    ∀ send ∈ newSends before (next.sessions index), jidOf env send.1 ≠ some jid := by
  intro send among mapped
  have own := (sound.addressed (List.mem_of_mem_drop among)).2
  rw [mapped] at own
  exact apart (Option.some.inj own).symm

theorem Shadows.attach_to_other (shadows : Shadows env jid site small) {tab : Tab} {index : Nat}
    (sound : Sound env next) (apart : site.jids index ≠ jid) (mapped : jidOf env tab ≠ some jid)
    (fired : attachTo env site tab index = some next) : Shadows env jid next small := by
  obtain ⟨session, _, rfl⟩ := Option.map_eq_some_iff.mp fired
  have elsewhere := @sends_elsewhere env jid _ sound index (site.sessions index) apart
  have here : (setConnection (setSession site index session) tab (.attached index)).sessions index =
      session := session_set ..
  rw [here] at elsewhere
  exact (shadows.set_other apart elsewhere).connection_other mapped _

theorem shadows_attach (sound : Sound env site) (shadows : Shadows env jid site small) {tab : Tab}
    {identity : Identity} (waiting : site.connections tab = .waiting)
    (logged : login env.auth (env.requests tab) = .identified identity)
    (fired : attach env site tab identity.jid = some next) (after : Sound env next) :
    ∃ other, replay (Site.step env) small (about env jid site (.connect tab)) = some other ∧
      Shadows env jid next other := by
  have mapped := jid_of_identified logged
  by_cases own : identity.jid = jid
  · subst own
    have concerned : about env identity.jid site (.connect tab) = [.connect tab] := if_pos mapped
    have taken : ∀ other, attach env small tab identity.jid = some other →
        replay (Site.step env) small [.connect tab] = some other := by
      intro other attached
      have free := (shadows.waiting tab mapped).mpr waiting
      simp only [replay, Site.step, free, connect, logged, attached]
    rw [concerned]
    unfold attach at fired
    have registry := shadows.registry
    cases filed : site.registry identity.jid with
    | some index =>
        rw [filed] at fired registry
        obtain ⟨bound, named⟩ := sound.filed identity.jid index filed
        obtain ⟨other, attached, shadowed⟩ := shadows.attach_to bound named fired
        refine ⟨other, taken other ?_, shadowed⟩
        rw [attach, registry]
        exact attached
    | none =>
        rw [filed] at fired registry
        have bound : site.count < (fileAccount site identity.jid).count := Nat.lt_succ_self _
        obtain ⟨other, attached, shadowed⟩ :=
          shadows.file.attach_to bound (jid_filed site identity.jid) fired
        have counted : ordinal identity.jid (fileAccount site identity.jid) site.count =
            small.count := (ordinal_filed _ le_rfl).trans shadows.count.symm
        rw [counted] at attached
        refine ⟨other, taken other ?_, shadowed⟩
        rw [attach, registry]
        exact attached
  · have apart : jidOf env tab ≠ some jid := by
      rw [mapped]
      exact fun same => own (Option.some.inj same)
    have unconcerned : about env jid site (.connect tab) = [] := if_neg apart
    rw [unconcerned]
    refine ⟨small, rfl, ?_⟩
    unfold attach at fired
    cases filed : site.registry identity.jid with
    | some index =>
        rw [filed] at fired
        have named := (sound.filed identity.jid index filed).2
        exact shadows.attach_to_other after (named ▸ own) apart fired
    | none =>
        rw [filed] at fired
        have other := shadows.file_other sound own
        apply other.attach_to_other after _ apart fired
        rw [jid_filed]
        exact own

/-- Every action is, for the JID, either the same action or nothing. -/
theorem shadows_step {action : Site.Action} (sound : Sound env site)
    (shadows : Shadows env jid site small) (fired : Site.step env site action = some next) :
    ∃ after, replay (Site.step env) small (about env jid site action) = some after ∧
      Shadows env jid next after := by
  have after := sound_step sound fired
  cases Site.fires_of_step fired with
  | @rejected tab waiting refused =>
      have apart : jidOf env tab ≠ some jid := by simp [jidOf, refused]
      have unconcerned : about env jid site (.connect tab) = [] := if_neg apart
      rw [unconcerned]
      exact ⟨small, rfl, shadows.connection_other apart _⟩
  | @denied tab frame waiting refused =>
      have apart : jidOf env tab ≠ some jid := by simp [jidOf, refused]
      have unconcerned : about env jid site (.connect tab) = [] := if_neg apart
      rw [unconcerned]
      refine ⟨small, rfl, (shadows.connection_other apart .refused).tell_other ?_⟩
      intro send among
      rw [List.mem_singleton.mp among]
      exact apart
  | attached waiting logged attached => exact shadows_attach sound shadows waiting logged attached after
  | @account index action session bound other inner stays =>
      by_cases own : site.jids index = jid
      · have concerned : about env jid site (.account index action) =
            [.account (ordinal jid site index) action] := if_pos own
        obtain ⟨same, also⟩ := shadows.sessions index bound own
        have within : ordinal jid site index < small.count := shadows.count ▸ ordinal_lt own bound
        refine ⟨_, ?_, shadows.set bound own session⟩
        rw [own] at inner
        simp [concerned, replay, Site.step, within, other, also, same, inner, stays]
      · have unconcerned : about env jid site (.account index action) = [] := if_neg own
        rw [unconcerned]
        refine ⟨small, rfl, shadows.set_other own ?_⟩
        have elsewhere := @sends_elsewhere env jid _ after index (site.sessions index) own
        rwa [session_set] at elsewhere
  | @expired index action session bound other inner leaves =>
      have stepped := sound_set_session sound other inner
      by_cases own : site.jids index = jid
      · have concerned : about env jid site (.account index action) =
            [.account (ordinal jid site index) action] := if_pos own
        obtain ⟨same, also⟩ := shadows.sessions index bound own
        have within : ordinal jid site index < small.count := shadows.count ▸ ordinal_lt own bound
        refine ⟨_, ?_, (shadows.set bound own session).expired stepped bound own⟩
        rw [own] at inner
        have numbered : ordinal jid (setSession site index session) index = ordinal jid site index :=
          rfl
        simp [concerned, replay, Site.step, within, other, also, same, inner, leaves, numbered]
      · have unconcerned : about env jid site (.account index action) = [] := if_neg own
        rw [unconcerned]
        have elsewhere := @sends_elsewhere env jid _ stepped index (site.sessions index) own
        rw [session_set] at elsewhere
        exact ⟨small, rfl, (shadows.set_other own elsewhere).expired_other own⟩

theorem empty_shadows (env : Env) (jid : String) : Shadows env jid empty empty := by
  refine ⟨?_, ?_, rfl, fun _ _ => Iff.rfl, fun _ _ => rfl⟩
  · exact (Nat.count_zero _).symm
  · intro index bound
    exact absurd bound (Nat.not_lt_zero index)

structure Projects (env : Env) (jid : String) (site small : State) : Prop where
  sound : Sound env site
  shadows : Shadows env jid site small

theorem projected_run {actions : List Site.Action}
    (run : replay (Site.step env) empty actions = some site) :
    ∃ small, replay (Site.step env) empty (collect (Site.step env) (about env jid) empty actions) =
        some small ∧ Shadows env jid site small := by
  have start : Projects env jid empty empty := ⟨empty_sound env, empty_shadows env jid⟩
  have follows : ∀ state action next small, Site.step env state action = some next →
      Projects env jid state small → ∃ after,
        replay (Site.step env) small (about env jid state action) = some after ∧
          Projects env jid next after := by
    intro state action next small fired projects
    obtain ⟨after, taken, shadows⟩ := shadows_step projects.sound projects.shadows fired
    exact ⟨after, taken, sound_step projects.sound fired, shadows⟩
  obtain ⟨small, projected, projects⟩ := replay_projection follows start run
  exact ⟨small, projected, projects.shadows⟩

end Steps

/-- A tab whose user is mapped to a JID is, in every run of any tabs, users and
accounts, subscribed to at most one account, which is of this JID; and what it is sent
depends on nothing but the logins of the users of this JID and the actions of its
accounts. -/
theorem accounts_do_not_leak (env : Env) (tab : Tab) (identity : Identity)
    (logged : login env.auth (env.requests tab) = .identified identity) :
    env.auth.mapper.users.lookup identity.username = some identity.jid ∧
      (∀ actions site, replay (Site.step env) empty actions = some site →
        ∀ index, tab ∈ (site.sessions index).account.subscribers →
          site.jids index = identity.jid ∧
            ∀ other, tab ∈ (site.sessions other).account.subscribers → other = index) ∧
        ∀ first second one two, replay (Site.step env) empty first = some one →
          replay (Site.step env) empty second = some two →
            collect (Site.step env) (about env identity.jid) empty first =
              collect (Site.step env) (about env identity.jid) empty second →
                framesTo tab one.delivered = framesTo tab two.delivered := by
  have mapped := jid_of_identified logged
  refine ⟨(Auth.login_identified logged).2, ?_, ?_⟩
  · intro actions site run index among
    have sound := sound_run run
    obtain ⟨attached, named⟩ := sound.subscribed among
    refine ⟨(Option.some.inj (mapped.symm.trans named)).symm, ?_⟩
    intro other also
    have again := (sound.subscribed also).1
    rw [attached] at again
    cases again
    rfl
  · intro first second one two ran alsoRan same
    obtain ⟨small, projected, shadows⟩ := @projected_run env identity.jid one first ran
    obtain ⟨other, alsoProjected, alsoShadows⟩ := @projected_run env identity.jid two second alsoRan
    rw [same, alsoProjected] at projected
    cases projected
    rw [← shadows.delivered tab mapped, alsoShadows.delivered tab mapped]

def mapper : Auth.AuthMapper where
  users := ⟨[("alice", "alice@example.com"), ("bob", "bob@example.com")], by decide⟩
  credentials := ⟨[("alice@example.com", "apw"), ("bob@example.com", "bpw")], by decide⟩

def office : Env where
  auth := ⟨mapper, { mode := .dev }, [], Pump.asciiLower, fun text => text⟩
  config := {}
  reconnect := {}
  requests := fun tab => ⟨none, .empty, if tab % 2 = 0 then none else some "bob"⟩

def settles (index : Nat) (tab : Tab) : List Site.Action :=
  [.account index (.lifecycle .clientUp), .account index (.lifecycle (.connectReturns tab)),
    .account index (.sent tab none)]

def hears (index : Nat) (tab : Tab) (fromJid : String) : List Site.Action :=
  [.account index (.event (.incomingMessage fromJid "" "hello" "1" "now") [tab]),
    .account index (.lifecycle (.eventSent 0 true))]

def aliceAlone : List Site.Action :=
  [.connect 0] ++ settles 0 0 ++ hears 0 0 "carol@example.com"

/-- The same, after bob has come and in between his own messages. -/
def aliceAndBob : List Site.Action :=
  [.connect 1, .connect 0] ++ settles 0 1 ++ settles 1 0 ++ hears 0 1 "dave@example.com" ++
    hears 1 0 "carol@example.com" ++ [.account 0 (.lifecycle (.detach 1))]

def afterAlone : State := (replay (Site.step office) empty aliceAlone).getD empty

def afterBoth : State := (replay (Site.step office) empty aliceAndBob).getD empty

theorem bob_does_not_show :
    (0 ∈ (afterBoth.sessions 1).account.subscribers ∧ 0 ∉ (afterBoth.sessions 0).account.subscribers ∧
        afterBoth.jids 1 = "alice@example.com") ∧
      framesTo 0 afterAlone.delivered = framesTo 0 afterBoth.delivered ∧
        (framesTo 0 afterBoth.delivered).length = 2 ∧ afterBoth.delivered.length = 4 := by
  obtain ⟨_, one, same⟩ := accounts_do_not_leak office 0 ⟨"alice", "alice@example.com", "apw"⟩ rfl
  obtain ⟨named, only⟩ := one aliceAndBob afterBoth rfl 1 (by decide)
  refine ⟨⟨by decide, ?_, named⟩, ?_, rfl, rfl⟩
  · intro other
    cases only 0 other
  · have alone : collect (Site.step office) (about office "alice@example.com") empty aliceAlone =
        aliceAlone := rfl
    have both : collect (Site.step office) (about office "alice@example.com") empty aliceAndBob =
        aliceAlone := rfl
    exact same aliceAlone aliceAndBob afterAlone afterBoth rfl rfl (alone.trans both.symm)

end PyConduit.Isolation
