import PyConduit.Audit
import PyConduit.SiteViews

/-!
# The audit trail of a tab

The calls of the audit log in `handle_ws` and `Account`, none of which suspends. What
the log tells about one tab follows from where its handler has come to: nobody is
logged out who was not logged in, or twice.
-/

namespace PyConduit.AuditTrail

open Audit Protocol Activity GuardedRun
open Lifecycle (Tab Handler)
open Auth (Identity Request login lowered extractUsername resolve)
open Site (Connection State)

set_option autoImplicit false

/-- The socket's peer address and the header a proxy sets, beside what the site is
made of. -/
structure Env where
  site : Site.Env
  clientIpHeader : Option String
  peer : Tab → Option String

def strip (text : String) : String :=
  rstrip (String.ofList (text.toList.dropWhile isSpace))

def clientIp (env : Auth.Env) (headers : Dict String String) (peer ipHeader : Option String) :
    String :=
  let fallback := if peer.getD "" = "" then "unknown" else peer.getD ""
  match ipHeader with
  | none => fallback
  | some header =>
      if header = "" then fallback
      else
        match (lowered env headers).lookup (env.lower header) with
        | none => fallback
        | some value => if value = "" then fallback else strip (Text.before ',' value)

/-- The `ip` of a tab's handler and of its Subscriber. -/
def ipOf (env : Env) (tab : Tab) : String :=
  clientIp env.site.auth (env.site.requests tab).headers (env.peer tab) env.clientIpHeader

/-- The call that ends the login of a tab. A name that was read off the request is in
the record of a refusal. -/
def loginEvent (env : Env) (tab : Tab) : AuditEvent :=
  let auth := env.site.auth
  let request := env.site.requests tab
  if Auth.originAllowed request.origin auth.allowedOrigins then
    match extractUsername auth request with
    | .error text => .authDenied none (ipOf env tab) text
    | .ok username =>
        match resolve auth username with
        | .error text => .authDenied (some username) (ipOf env tab) text
        | .ok identity => .authOk identity.username identity.jid (ipOf env tab)
  else
    .authDenied none (ipOf env tab)
      ("origin not allowed: " ++ (request.origin.map auth.repr).getD "None")

/-- `attach` records the session when the snapshot is sent, `detach` when the tab is
discarded. -/
def sessionEvents (env : Env) (jid : String) (session : Session) :
    Option (Lifecycle.Action Frame) → List (Option Tab × AuditEvent)
  | some (.snapshotEnds tab) =>
      [(some tab, .sessionOpen (Site.username env.site tab) jid (ipOf env tab)
        session.account.subscribers.length)]
  | some (.detach tab) =>
      [(some tab, .sessionClose (Site.username env.site tab) jid (ipOf env tab)
        (session.account.discard tab).subscribers.length)]
  | _ => []

def accountEvents (env : Env) (jid : String) (session : Session) :
    Activity.Action → List (Option Tab × AuditEvent)
  | .connectRaises _ text _ => [(none, .xmppDisconnect jid s!"connect failed: {text}")]
  | .event (.connected _) _ => [(none, .xmppConnect jid)]
  | .event (.disconnected reason) _ => [(none, .xmppDisconnect jid reason)]
  | action =>
      sessionEvents env jid session
        (Observed.taken (Site.accountEnv env.site jid) session action)

def audited (env : Env) (site : State) : Site.Action → List (Option Tab × AuditEvent)
  | .connect tab => [(some tab, loginEvent env tab)]
  | .account index action => accountEvents env (site.jids index) (site.sessions index) action

def about (tab : Tab) (entries : List (Option Tab × AuditEvent)) : List AuditEvent :=
  entries.filterMap fun entry => if entry.1 = some tab then some entry.2 else none

/-- The handler is in the pump. -/
def Inside (handler : Handler Frame) : Prop := Footprint.Past handler ∧ handler ≠ .ended

/-- The records of a session, by where the handler of the tab is. A handler whose
snapshot raised ends without any. -/
inductive SessionTrail (username jid ip : String) : Handler Frame → List AuditEvent → Prop
  | attaching {handler : Handler Frame} (before : ¬Footprint.Past handler) :
      SessionTrail username jid ip handler []
  | inside {handler : Handler Frame} (talking : Inside handler) (tabs : Int) :
      SessionTrail username jid ip handler [.sessionOpen username jid ip tabs]
  | failed {handler : Handler Frame} (ended : handler = .ended) :
      SessionTrail username jid ip handler []
  | past {handler : Handler Frame} (ended : handler = .ended) (opened closed : Int) :
      SessionTrail username jid ip handler
        [.sessionOpen username jid ip opened, .sessionClose username jid ip closed]

inductive TabTrail (env : Env) (site : State) (tab : Tab) : List AuditEvent → Prop
  | waiting (outside : site.connections tab = .waiting) : TabTrail env site tab []
  | refused (outside : site.connections tab = .refused) {username : Option String} {reason : String}
      (denied : loginEvent env tab = .authDenied username (ipOf env tab) reason) :
      TabTrail env site tab [.authDenied username (ipOf env tab) reason]
  | attached {index : Nat} {identity : Identity} {records : List AuditEvent}
      (there : site.connections tab = .attached index)
      (logged : login env.site.auth (env.site.requests tab) = .identified identity)
      (named : site.jids index = identity.jid)
      (session : SessionTrail identity.username identity.jid (ipOf env tab)
        ((site.sessions index).account.handlers tab) records) :
      TabTrail env site tab
        (.authOk identity.username identity.jid (ipOf env tab) :: records)

inductive Turn (tab : Tab) (before after : Handler Frame) : Lifecycle.Action Frame → Prop
  | still {action : Lifecycle.Action Frame} (same : after = before)
      (notOpened : action ≠ .snapshotEnds tab) (notClosed : action ≠ .detach tab) :
      Turn tab before after action
  | attaching {action : Lifecycle.Action Frame} (leaves : ¬Footprint.Past before)
      (into : ¬Footprint.Past after) (notOpened : action ≠ .snapshotEnds tab)
      (notClosed : action ≠ .detach tab) : Turn tab before after action
  | opened (leaves : ¬Footprint.Past before) (into : Inside after) :
      Turn tab before after (.snapshotEnds tab)
  | failed (leaves : ¬Footprint.Past before) (into : after = .ended) :
      Turn tab before after (.snapshotRaises tab)
  | talking {action : Lifecycle.Action Frame} (leaves : Inside before) (into : Inside after)
      (notOpened : action ≠ .snapshotEnds tab) (notClosed : action ≠ .detach tab) :
      Turn tab before after action
  | closed (leaves : Inside before) (into : after = .ended) :
      Turn tab before after (.detach tab)

section Turns

variable {account next : Lifecycle.Account Frame} {lifecycleEnv : Lifecycle.Env Frame}

open Lifecycle.Account in
theorem under_lock_attaching (account : Lifecycle.Account Frame) (tab : Tab) :
    ¬Footprint.Past ((underLock lifecycleEnv account tab).handlers tab) := by
  unfold Lifecycle.Account.underLock
  split_ifs
  all_goals simp [Lifecycle.Account.sendSnapshot, setHandler, Lifecycle.Account.send, Footprint.Past]

open Lifecycle.Account in
theorem report_attaching (account : Lifecycle.Account Frame) (tab : Tab) (frame : Frame)
    (order : List Tab) :
    ¬Footprint.Past ((report lifecycleEnv account tab frame order).handlers tab) := by
  cases order
  all_goals
    simp [Lifecycle.Account.report, Lifecycle.Account.sendSnapshot, setHandler, Lifecycle.Account.send,
      Footprint.Past]

theorem broadcast_inside (account : Lifecycle.Account Frame) (tab : Tab) (frame : Frame)
    (order : List Tab) : Inside ((account.broadcast tab frame order).handlers tab) := by
  refine ⟨Footprint.past_broadcast account tab frame order, ?_⟩
  cases order
  all_goals simp [Lifecycle.Account.broadcast, Lifecycle.Account.setHandler, Lifecycle.Account.send]

open Lifecycle.Account in
theorem turn_of_step {action : Lifecycle.Action Frame}
    (fired : Lifecycle.step lifecycleEnv account action = some next) (tab : Tab) :
    Turn tab (account.handlers tab) (next.handlers tab) action := by
  by_cases moved : Footprint.mover action = some tab
  · cases Lifecycle.fires_of_step fired with
    | attach absent =>
        cases moved
        refine .attaching (by simp [absent, Footprint.Past]) ?_ (by simp) (by simp)
        unfold Lifecycle.Account.attach ensureConnected
        split_ifs
        · exact under_lock_attaching _ tab
        · simp [setHandler, Footprint.Past]
    | lockGranted waiting =>
        cases moved
        exact .attaching (by simp [waiting, Footprint.Past]) (under_lock_attaching _ tab) (by simp)
          (by simp)
    | connectReturns connecting =>
        cases moved
        refine .attaching (by simp [connecting, Footprint.Past]) ?_ (by simp) (by simp)
        simp [Lifecycle.Account.sendSnapshot, setHandler, Lifecycle.Account.send, Footprint.Past]
    | connectRaises connecting =>
        cases moved
        exact .attaching (by simp [connecting, Footprint.Past]) (report_attaching _ tab _ _) (by simp)
          (by simp)
    | reported reporting =>
        cases moved
        exact .attaching (by simp [reporting, Footprint.Past]) (report_attaching _ tab _ _) (by simp)
          (by simp)
    | snapshotEnds inside =>
        cases moved
        exact .opened (by simp [inside, Footprint.Past]) (by simp [setHandler, Inside, Footprint.Past])
    | snapshotRaises inside =>
        cases moved
        exact .failed (by simp [inside, Footprint.Past]) (by simp [setHandler])
    | broadcast pumping =>
        cases moved
        exact .talking (by simp [pumping, Inside, Footprint.Past]) (broadcast_inside _ tab _ _)
          (by simp) (by simp)
    | broadcastSent sending =>
        cases moved
        exact .talking (by simp [sending, Inside, Footprint.Past]) (broadcast_inside _ tab _ _)
          (by simp) (by simp)
    | detach pumping =>
        cases moved
        refine .closed (by simp [pumping, Inside, Footprint.Past]) ?_
        unfold Lifecycle.Account.detach
        dsimp only
        split_ifs
        all_goals simp [startIdleTimer, cancelIdle, setHandler]
    | _ => cases moved
  · refine .still ((Footprint.footprint_of_step fired).handlers tab moved) ?_ ?_
    · rintro rfl
      exact moved rfl
    · rintro rfl
      exact moved rfl

end Turns

section Trails

variable {env : Env} {tab : Tab}

theorem about_append (tab : Tab) (entries later : List (Option Tab × AuditEvent)) :
    about tab (entries ++ later) = about tab entries ++ about tab later :=
  List.filterMap_append ..

theorem about_account (env : Env) (jid : String) (session : Session) (action : Activity.Action)
    (tab : Tab) :
    about tab (accountEvents env jid session action) =
      about tab (sessionEvents env jid session
        (Observed.taken (Site.accountEnv env.site jid) session action)) := by
  cases action with
  | event event order => cases event <;> rfl
  | _ => rfl

theorem nothing_noted {jid : String} {session : Session} {part : Lifecycle.Action Frame}
    (notOpened : part ≠ .snapshotEnds tab) (notClosed : part ≠ .detach tab) :
    about tab (sessionEvents env jid session (some part)) = [] := by
  unfold sessionEvents
  split
  · next other same =>
      cases same
      have elsewhere : other ≠ tab := fun own => notOpened (by rw [own])
      simp [about, elsewhere]
  · next other same =>
      cases same
      have elsewhere : other ≠ tab := fun own => notClosed (by rw [own])
      simp [about, elsewhere]
  · rfl

/-- One action of an account goes on with the trail of each tab. -/
theorem session_trail_step {jid username : String} {session next : Session}
    {action : Activity.Action} {records : List AuditEvent}
    (named : Site.username env.site tab = username)
    (fired : Activity.step (Site.accountEnv env.site jid) session action = some next)
    (trail : SessionTrail username jid (ipOf env tab) (session.account.handlers tab) records) :
    SessionTrail username jid (ipOf env tab) (next.account.handlers tab)
      (records ++ about tab (accountEvents env jid session action)) := by
  have viewed := Observed.taken_step fired
  rw [about_account]
  cases takes : Observed.taken (Site.accountEnv env.site jid) session action with
  | none =>
      rw [takes] at viewed
      have same : session.account = next.account := Option.some.inj viewed
      rw [show about tab (sessionEvents env jid session none) = [] from rfl, List.append_nil, ← same]
      exact trail
  | some part =>
      rw [takes] at viewed
      cases turn_of_step viewed tab with
      | still same notOpened notClosed =>
          rw [nothing_noted notOpened notClosed, List.append_nil, same]
          exact trail
      | attaching leaves into notOpened notClosed =>
          rw [nothing_noted notOpened notClosed, List.append_nil]
          cases trail with
          | attaching => exact .attaching into
          | inside talking => exact absurd talking.1 leaves
          | failed ended => exact absurd (ended ▸ trivial) leaves
          | past ended => exact absurd (ended ▸ trivial) leaves
      | opened leaves into =>
          simp only [sessionEvents, about, List.filterMap_cons, List.filterMap_nil, if_true, named]
          cases trail with
          | attaching => exact .inside into _
          | inside talking => exact absurd talking.1 leaves
          | failed ended => exact absurd (ended ▸ trivial) leaves
          | past ended => exact absurd (ended ▸ trivial) leaves
      | failed leaves into =>
          rw [nothing_noted (by simp) (by simp), List.append_nil, into]
          cases trail with
          | attaching => exact .failed rfl
          | inside talking => exact absurd talking.1 leaves
          | failed ended => exact absurd (ended ▸ trivial) leaves
          | past ended => exact absurd (ended ▸ trivial) leaves
      | talking leaves into notOpened notClosed =>
          rw [nothing_noted notOpened notClosed, List.append_nil]
          cases trail with
          | attaching before => exact absurd leaves.1 before
          | inside _ tabs => exact .inside into tabs
          | failed ended => exact absurd ended leaves.2
          | past ended => exact absurd ended leaves.2
      | closed leaves into =>
          simp only [sessionEvents, about, List.filterMap_cons, List.filterMap_nil, if_true, named]
          rw [into]
          cases trail with
          | attaching before => exact absurd leaves.1 before
          | inside _ tabs => exact .past rfl tabs _
          | failed ended => exact absurd ended leaves.2
          | past ended => exact absurd ended leaves.2

theorem absent_trail {username jid ip : String} {handler : Handler Frame}
    {records : List AuditEvent} (absent : handler = .absent)
    (trail : SessionTrail username jid ip handler records) : records = [] := by
  cases trail with
  | attaching => rfl
  | failed => rfl
  | inside talking => exact absurd talking.1 (by simp [absent, Footprint.Past])
  | past ended =>
      rw [absent] at ended
      cases ended

end Trails

section Runs

variable {env : Env} {site next : State} {tab : Tab}

theorem login_event_identified {identity : Identity}
    (logged : login env.site.auth (env.site.requests tab) = .identified identity) :
    loginEvent env tab = .authOk identity.username identity.jid (ipOf env tab) := by
  unfold login at logged
  unfold loginEvent
  split_ifs at logged with allowed
  cases extracted : extractUsername env.site.auth (env.site.requests tab) with
  | error text =>
      rw [extracted] at logged
      cases logged
  | ok username =>
      rw [extracted] at logged
      cases resolved : resolve env.site.auth username with
      | error text =>
          simp only [bind, Except.bind, resolved] at logged
          cases logged
      | ok found =>
          simp only [bind, Except.bind, resolved] at logged
          cases logged
          simp only [if_pos allowed, extracted, resolved]

theorem login_event_refused
    (refused : ∀ identity, login env.site.auth (env.site.requests tab) ≠ .identified identity) :
    ∃ username reason, loginEvent env tab = .authDenied username (ipOf env tab) reason := by
  unfold login at refused
  unfold loginEvent
  split_ifs at refused with allowed
  · cases extracted : extractUsername env.site.auth (env.site.requests tab) with
    | error text => exact ⟨none, text, by simp only [if_pos allowed, extracted]⟩
    | ok username =>
        rw [extracted] at refused
        cases resolved : resolve env.site.auth username with
        | error text => exact ⟨some username, text, by simp only [if_pos allowed, extracted, resolved]⟩
        | ok identity =>
            simp only [bind, Except.bind, resolved] at refused
            exact absurd rfl (refused identity)
  · exact ⟨none, _, if_neg allowed⟩

theorem silent_elsewhere (sound : Site.Sound env.site site) {index : Nat}
    (elsewhere : site.connections tab ≠ .attached index) {action : Activity.Action}
    {session : Session} (other : Site.attaches action = false)
    (fired : Activity.step (Site.accountEnv env.site (site.jids index)) (site.sessions index)
      action = some session) :
    about tab (accountEvents env (site.jids index) (site.sessions index) action) = [] := by
  have before : (site.sessions index).account.handlers tab = .absent := by
    by_contra there
    exact elsewhere (sound.present index tab there).2.1
  have after : session.account.handlers tab = .absent := by
    by_contra there
    exact Site.present_before other fired there before
  have start : SessionTrail (Site.username env.site tab) (site.jids index) (ipOf env tab)
      ((site.sessions index).account.handlers tab) [] :=
    .attaching (by simp [before, Footprint.Past])
  exact absent_trail after (session_trail_step rfl fired start)

theorem tab_trail_acts (sound : Site.Sound env.site site) {records : List AuditEvent}
    (trail : TabTrail env site tab records) {index : Nat} {action : Activity.Action}
    {session : Session} (other : Site.attaches action = false)
    (fired : Activity.step (Site.accountEnv env.site (site.jids index)) (site.sessions index)
      action = some session) :
    TabTrail env (Site.setSession site index session) tab
      (records ++ about tab (accountEvents env (site.jids index) (site.sessions index) action)) := by
  cases trail with
  | waiting outside =>
      rw [silent_elsewhere sound (by simp [outside]) other fired]
      exact .waiting outside
  | refused outside denied =>
      have still : (Site.setSession site index session).connections tab = .refused := outside
      rw [silent_elsewhere sound (by simp [outside]) other fired, List.append_nil]
      exact .refused still denied
  | @attached own identity records there logged named trail =>
      rw [List.cons_append]
      by_cases same : own = index
      · subst same
        have username : Site.username env.site tab = identity.username := by
          simp only [Site.username, logged]
        rw [← named] at trail
        have goesOn := session_trail_step username fired trail
        refine .attached there logged named ?_
        rw [Site.session_set, ← named]
        exact goesOn
      · have apart : site.connections tab ≠ .attached index := by
          rw [there]
          intro equal
          exact same (Connection.attached.inj equal)
        rw [silent_elsewhere sound apart other fired, List.append_nil]
        refine .attached there logged named ?_
        rw [Site.session_set_of_ne site same]
        exact trail

theorem TabTrail.same {records : List AuditEvent} (trail : TabTrail env site tab records)
    (connection : next.connections tab = site.connections tab)
    (accounts : ∀ index, site.connections tab = .attached index →
      (next.sessions index).account.handlers tab = (site.sessions index).account.handlers tab ∧
        next.jids index = site.jids index) :
    TabTrail env next tab records := by
  cases trail with
  | waiting outside => exact .waiting (connection.trans outside)
  | refused outside denied => exact .refused (connection.trans outside) denied
  | @attached index identity records there logged named session =>
      obtain ⟨same, sameJid⟩ := accounts index there
      exact .attached (connection.trans there) logged (sameJid.trans named) (same ▸ session)

theorem about_login (env : Env) (tab other : Tab) :
    about other [(some tab, loginEvent env tab)] = if tab = other then [loginEvent env tab] else [] := by
  by_cases own : tab = other
  · simp [about, own]
  · simp [about, own]

theorem TabTrail.unseen {records : List AuditEvent} (trail : TabTrail env site tab records)
    (waiting : site.connections tab = .waiting) : records = [] := by
  cases trail with
  | waiting => rfl
  | refused outside => cases waiting.symm.trans outside
  | attached there => cases waiting.symm.trans there

theorem refused_trails {delivered : List (Tab × Frame)} {entries : List (Option Tab × AuditEvent)}
    (trails : ∀ tab, TabTrail env site tab (about tab entries))
    (waiting : site.connections tab = .waiting)
    (refused : ∀ identity, login env.site.auth (env.site.requests tab) ≠ .identified identity)
    (other : Tab) :
    TabTrail env { Site.setConnection site tab .refused with delivered := delivered } other
      (about other (entries ++ [(some tab, loginEvent env tab)])) := by
  rw [about_append, about_login]
  by_cases own : tab = other
  · subst own
    obtain ⟨username, reason, denied⟩ := login_event_refused refused
    rw [(trails tab).unseen waiting, if_pos rfl, List.nil_append, denied]
    exact .refused (Function.update_self ..) denied
  · rw [if_neg own, List.append_nil]
    exact (trails other).same (Function.update_of_ne (Ne.symm own) ..) fun _ _ => ⟨rfl, rfl⟩

theorem attached_trails {entries : List (Option Tab × AuditEvent)} {index : Nat}
    {identity : Identity} (sound : Site.Sound env.site site)
    (trails : ∀ tab, TabTrail env site tab (about tab entries))
    (waiting : site.connections tab = .waiting)
    (logged : login env.site.auth (env.site.requests tab) = .identified identity)
    (named : site.jids index = identity.jid)
    (fired : Site.attachTo env.site site tab index = some next) (other : Tab) :
    TabTrail env next other (about other (entries ++ [(some tab, loginEvent env tab)])) := by
  obtain ⟨session, inner, rfl⟩ := Option.map_eq_some_iff.mp fired
  have viewed : Lifecycle.step _ (site.sessions index).account (.attach tab) = some session.account :=
    lifecycle_view inner
  have before : (site.sessions index).account.handlers tab = .absent := by
    by_contra there
    have attached := (sound.present index tab there).2.1
    cases waiting.symm.trans attached
  rw [about_append, about_login]
  by_cases own : tab = other
  · subst own
    have attaching : ¬Footprint.Past (session.account.handlers tab) := by
      cases turn_of_step viewed tab with
      | still same => simp [same, before, Footprint.Past]
      | attaching _ into => exact into
      | talking leaves => exact absurd leaves.1 (by simp [before, Footprint.Past])
    rw [(trails tab).unseen waiting, if_pos rfl, List.nil_append, login_event_identified logged]
    refine .attached (Function.update_self ..) logged named (.attaching ?_)
    change ¬Footprint.Past (((Site.setSession site index session).sessions index).account.handlers tab)
    rw [Site.session_set]
    exact attaching
  · rw [if_neg own, List.append_nil]
    have kept : session.account.handlers other = (site.sessions index).account.handlers other :=
      (Footprint.footprint_of_step viewed).handlers other fun same => own (Option.some.inj same)
    have connection : (Site.setConnection (Site.setSession site index session) tab
        (.attached index)).connections other = site.connections other :=
      Function.update_of_ne (Ne.symm own) ..
    apply (trails other).same connection
    intro account there
    refine ⟨?_, rfl⟩
    change ((Site.setSession site index session).sessions account).account.handlers other = _
    by_cases here : account = index
    · rw [here, Site.session_set, kept]
    · rw [Site.session_set_of_ne site here]

theorem trails_step {action : Site.Action} {entries : List (Option Tab × AuditEvent)}
    (sound : Site.Sound env.site site) (logs : Site.Logged site)
    (trails : ∀ tab, TabTrail env site tab (about tab entries))
    (fired : Site.step env.site site action = some next) (tab : Tab) :
    TabTrail env next tab (about tab (entries ++ audited env site action)) := by
  cases Site.fires_of_step fired with
  | rejected waiting refused =>
      exact refused_trails trails waiting (by simp [refused]) tab
  | denied waiting refused =>
      exact refused_trails trails waiting (by simp [refused]) tab
  | @attached newcomer identity _ waiting logged attached =>
      unfold Site.attach at attached
      cases filed : site.registry identity.jid with
      | some index =>
          rw [filed] at attached
          have named := (sound.filed identity.jid index filed).2
          exact attached_trails sound trails waiting logged named attached tab
      | none =>
          rw [filed] at attached
          have newcomers : ∀ tab, TabTrail env (Site.fileAccount site identity.jid) tab
              (about tab entries) := by
            intro other
            apply @TabTrail.same env site (Site.fileAccount site identity.jid) other _ (trails other) rfl
            intro index there
            have earlier : index ≠ site.count := Nat.ne_of_lt (logs.bound other index there)
            rw [Site.session_filed_of_ne site earlier, Site.jid_filed_of_ne site earlier]
            exact ⟨rfl, rfl⟩
          exact attached_trails (Site.sound_file sound identity.jid) newcomers waiting logged
            (Site.jid_filed site identity.jid) attached tab
  | account bound other inner =>
      rw [about_append]
      exact tab_trail_acts sound (trails tab) other inner
  | @expired index _ session bound other inner =>
      have acted := tab_trail_acts sound (trails tab) other inner
      rw [about_append]
      apply acted.same
      · unfold Site.onIdleExpired
        split_ifs <;> rfl
      · intro index there
        unfold Site.onIdleExpired
        split_ifs <;> exact ⟨rfl, rfl⟩

/-- In every run of the site the records about a tab are those of its handshake and of
the part of its session that its handler has been through, all under the name, JID and
address of the tab: a session is closed at most once, after it was opened, and open in
the log exactly while the handler is in the pump. -/
theorem audit_trail (env : Env) (actions : List Site.Action) (site : State)
    (run : replay (Site.step env.site) Site.empty actions = some site) (tab : Tab) :
    TabTrail env site tab
      (about tab (collect (Site.step env.site) (audited env) Site.empty actions)) := by
  have start : (Site.Sound env.site Site.empty ∧ Site.Logged Site.empty) ∧
      ∀ tab, TabTrail env Site.empty tab (about tab []) := by
    refine ⟨⟨Site.empty_sound env.site, ?_⟩, fun tab => .waiting rfl⟩
    exact @Site.delivered_run env.site Site.empty [] rfl
  have preserved : ∀ state action next entries,
      ((Site.Sound env.site state ∧ Site.Logged state) ∧
        ∀ tab, TabTrail env state tab (about tab entries)) →
      Site.step env.site state action = some next →
        (Site.Sound env.site next ∧ Site.Logged next) ∧
          ∀ tab, TabTrail env next tab (about tab (entries ++ audited env state action)) := by
    intro state action next entries holds fired
    obtain ⟨⟨sound, logs⟩, trails⟩ := holds
    have still := And.intro (Site.sound_step sound fired) (Site.logged_step sound logs fired)
    exact ⟨still, trails_step sound logs trails fired⟩
  have ended := collect_invariant preserved start run
  rw [List.nil_append] at ended
  exact ended.2 tab

def frontDesk : Auth.AuthMapper where
  users := ⟨[("alice", "desk@example.com")], by decide⟩
  credentials := ⟨[("desk@example.com", "pw")], by decide⟩

/-- Tab 0 is alice's, the others are of a user nobody knows; all come through a proxy. -/
def proxied : Env where
  site :=
    { auth := ⟨frontDesk, { mode := .dev }, [], Pump.asciiLower, fun text => text⟩
      config := {}
      reconnect := {}
      requests := fun tab =>
        ⟨none, ⟨[("X-Forwarded-For", " 203.0.113.9 , 10.0.0.1")], by decide⟩,
          if tab = 0 then none else some "mallory"⟩ }
  clientIpHeader := some "x-forwarded-for"
  peer := fun _ => some "10.0.0.1"

def visit : List Site.Action :=
  [.connect 0, .account 0 (.lifecycle .clientUp), .account 0 (.lifecycle (.connectReturns 0)),
    .connect 1, .account 0 (.sent 0 none), .account 0 (.lifecycle (.detach 0))]

def afterVisit : State :=
  (replay (Site.step proxied.site) Site.empty visit).getD Site.empty

theorem visit_trail :
    TabTrail proxied afterVisit 0
        [.authOk "alice" "desk@example.com" "203.0.113.9",
          .sessionOpen "alice" "desk@example.com" "203.0.113.9" 1,
          .sessionClose "alice" "desk@example.com" "203.0.113.9" 0] ∧
      TabTrail proxied afterVisit 1
        [.authDenied (some "mallory") "203.0.113.9" "unknown user: mallory"] := by
  have first : about 0 (collect (Site.step proxied.site) (audited proxied) Site.empty visit) =
      [.authOk "alice" "desk@example.com" "203.0.113.9",
        .sessionOpen "alice" "desk@example.com" "203.0.113.9" 1,
        .sessionClose "alice" "desk@example.com" "203.0.113.9" 0] := rfl
  have second : about 1 (collect (Site.step proxied.site) (audited proxied) Site.empty visit) =
      [.authDenied (some "mallory") "203.0.113.9" "unknown user: mallory"] := rfl
  have ran : replay (Site.step proxied.site) Site.empty visit = some afterVisit := rfl
  constructor
  · rw [← first]
    exact audit_trail proxied visit afterVisit ran 0
  · rw [← second]
    exact audit_trail proxied visit afterVisit ran 1

end Runs

end PyConduit.AuditTrail
