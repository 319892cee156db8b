import Mathlib.Data.Nat.Pairing
import PyConduit.Naming

/-!
# Browsers and server

Every WebSocket of the site is one that a page of `app.js` has opened. A socket carries the
frames of the account to the page and those of the page to its account, each in the order in
which they were sent, as far as they come. What the pages send is what users do, and it is
followed to the clients of the accounts.
-/

namespace PyConduit.World

open Protocol Replay GuardedRun
open Lifecycle (Tab)
open Screen (Sent)
open Requests (literal parsed meant Complete Foreign)
open Provenance (Cause Grounded)

set_option autoImplicit false

def tabOf (browser socket : Nat) : Tab := Nat.pair browser socket

/-- `heard` counts the frames of the page that its handler has received, `shown` those of the
account that the page has handled. -/
structure State where
  site : Site.State
  screens : Nat → Screen.State
  heard : Tab → Nat
  shown : Tab → Nat

def start (preferences : Nat → Option String) : State where
  site := Site.empty
  screens := fun browser => Screen.start (preferences browser)
  heard := fun _ => 0
  shown := fun _ => 0

def requestsOn (socket : Nat) (log : List (Option Nat × Sent)) : List Sent :=
  log.filterMap fun entry => if entry.1 = some socket then some entry.2 else none

def requestsOf (world : State) (browser socket : Nat) : List Sent :=
  requestsOn socket (world.screens browser).log

inductive Action
  | page (browser : Nat) (action : Screen.Action)
  | shows (browser socket : Nat)
  | site (action : Site.Action)
  | hears (index browser socket : Nat) (order : List Tab)

/-- A page gets frames, and a handler requests, off the socket alone. -/
def isFrame : Screen.Action → Bool
  | .frame _ _ => true
  | _ => false

def isReceive : Site.Action → Bool
  | .account _ (.receive _ _ _) => true
  | _ => false

def setScreen (world : State) (browser : Nat) (screen : Screen.State) : State :=
  { world with screens := Function.update world.screens browser screen }

def count (counts : Tab → Nat) (tab : Tab) : Tab → Nat :=
  Function.update counts tab (counts tab + 1)

def step (env : Site.Env) (world : State) : Action → Option State
  | .page browser action =>
      if isFrame action then none
      else (Screen.step (world.screens browser) action).map (setScreen world browser)
  | .shows browser socket =>
      ((Site.framesTo (tabOf browser socket) world.site.delivered)[world.shown
          (tabOf browser socket)]?).bind fun frame =>
        (Screen.step (world.screens browser) (.frame socket frame)).map fun screen =>
          { setScreen world browser screen with
            shown := count world.shown (tabOf browser socket) }
  | .site action =>
      if isReceive action then none
      else (Site.step env world.site action).map fun site => { world with site := site }
  | .hears index browser socket order =>
      ((requestsOf world browser socket)[world.heard (tabOf browser socket)]?).bind fun request =>
        (Site.step env world.site
          (.account index (.receive (tabOf browser socket) (literal request) order))).map fun site =>
            { world with site := site, heard := count world.heard (tabOf browser socket) }

inductive Fires (env : Site.Env) (world : State) : Action → State → Prop
  | page {browser : Nat} {action : Screen.Action} {screen : Screen.State}
      (own : isFrame action = false)
      (fired : Screen.step (world.screens browser) action = some screen) :
      Fires env world (.page browser action) (setScreen world browser screen)
  | shows {browser socket : Nat} {frame : Frame} {screen : Screen.State}
      (next : (Site.framesTo (tabOf browser socket) world.site.delivered)[world.shown
        (tabOf browser socket)]? = some frame)
      (fired : Screen.step (world.screens browser) (.frame socket frame) = some screen) :
      Fires env world (.shows browser socket)
        { setScreen world browser screen with shown := count world.shown (tabOf browser socket) }
  | site {action : Site.Action} {site : Site.State} (own : isReceive action = false)
      (fired : Site.step env world.site action = some site) :
      Fires env world (.site action) { world with site := site }
  | hears {index browser socket : Nat} {order : List Tab} {request : Sent} {site : Site.State}
      (next : (requestsOf world browser socket)[world.heard (tabOf browser socket)]? = some request)
      (fired : Site.step env world.site
        (.account index (.receive (tabOf browser socket) (literal request) order)) = some site) :
      Fires env world (.hears index browser socket order)
        { world with site := site, heard := count world.heard (tabOf browser socket) }

theorem fires_of_step {env : Site.Env} {world next : State} {action : Action}
    (fired : step env world action = some next) : Fires env world action next := by
  cases action with
  | page browser action =>
      obtain ⟨own, found⟩ := Option.ite_none_left_eq_some.mp fired
      obtain ⟨screen, inner, rfl⟩ := Option.map_eq_some_iff.mp found
      exact .page (by simpa using own) inner
  | shows browser socket =>
      obtain ⟨frame, waits, found⟩ := Option.bind_eq_some_iff.mp fired
      obtain ⟨screen, inner, rfl⟩ := Option.map_eq_some_iff.mp found
      exact .shows waits inner
  | site action =>
      obtain ⟨own, found⟩ := Option.ite_none_left_eq_some.mp fired
      obtain ⟨site, inner, rfl⟩ := Option.map_eq_some_iff.mp found
      exact .site (by simpa using own) inner
  | hears index browser socket order =>
      obtain ⟨request, waits, found⟩ := Option.bind_eq_some_iff.mp fired
      obtain ⟨site, inner, rfl⟩ := Option.map_eq_some_iff.mp found
      exact .hears waits inner

/-- The configuration that all accounts share; no page knows their JIDs. -/
def commandsOf (env : Site.Env) : Commands.Env := (Site.accountEnv env "").commands

/-- Users add nobody under a blank name and submit nothing before the first `ready`, and what
the clients report has a name. -/
def Careful (env : Site.Env) (world : State) : Action → Prop
  | .page browser action => Requests.Careful (commandsOf env) (world.screens browser) action
  | .site (.account index action) => Naming.NamedReport (world.site.sessions index) action
  | _ => True

instance (env : Site.Env) (world : State) (action : Action) :
    Decidable (Careful env world action) := by
  unfold Careful
  split <;> infer_instance

def allowed (env : Commands.Env) : Sent → Bool
  | .joinRoom room => Provenance.domainAllowed env (.str room)
  | _ => true

section Requests

variable {env : Commands.Env} {caches : Caches} {request : Sent}

theorem allowed_iff : allowed env request = true ↔ ¬Foreign env request := by
  have texts : ∀ room, Provenance.domainAllowed env (.str room) = true ↔
      Commands.roomDomainAllowed env (.str room) ≠ .ok false := by
    intro room
    rw [Provenance.domain_allowed_iff]
    rcases Requests.room_domain_text env room with accepted | refused
    · simp [accepted]
    · simp [refused]
  cases request with
  | joinRoom room => simpa [allowed, Foreign] using texts room
  | _ => simp [allowed, Foreign]

theorem understood (complete : Complete env request) :
    (Provenance.passesChecks env caches (parsed request) = true ↔ allowed env request = true) ∧
      (allowed env request = true →
        Provenance.operationOf env (parsed request) = meant env request) := by
  have forward : allowed env request = true →
      Provenance.passesChecks env caches (parsed request) = true ∧
        meant env request = Provenance.operationOf env (parsed request) := by
    intro accepted
    apply Provenance.called_iff (meant env request) |>.mp
    rw [← Requests.passed_on_eq]
    exact (Requests.passed_on_literal env caches request).mpr
      ⟨complete.1, complete.2, allowed_iff.mp accepted⟩
  refine ⟨⟨?_, fun accepted => (forward accepted).1⟩, fun accepted => (forward accepted).2.symm⟩
  intro passes
  cases request with
  | joinRoom room =>
      simp only [Provenance.passesChecks, parsed, Bool.and_eq_true] at passes
      exact passes.2.1
  | _ => rfl

end Requests

structure Tells (env : Site.Env) (site : Site.State) : Prop where
  accounts : ∀ index, Naming.Named (Site.accountEnv env (site.jids index)) (site.sessions index)
  delivered : ∀ entry ∈ site.delivered, Naming.Fits env.config entry.2

section Sites

variable {env : Site.Env} {site next : Site.State}

theorem empty_tells (env : Site.Env) : Tells env Site.empty := by
  refine ⟨fun index => Naming.fresh_named _, ?_⟩
  intro entry among
  cases among

theorem Tells.file (tells : Tells env site) (jid : String) :
    Tells env (Site.fileAccount site jid) := by
  refine ⟨?_, tells.delivered⟩
  intro index
  by_cases last : index = site.count
  · subst last
    rw [Site.session_filed]
    exact Naming.fresh_named _
  · rw [Site.session_filed_of_ne site last, Site.jid_filed_of_ne site last]
    exact tells.accounts index

theorem Tells.set (tells : Tells env site) {index : Nat} {action : Activity.Action}
    {session : Activity.Session} (report : Naming.NamedReport (site.sessions index) action)
    (fired : Activity.step (Site.accountEnv env (site.jids index)) (site.sessions index) action =
      some session) : Tells env (Site.setSession site index session) := by
  have named := Naming.named_step (tells.accounts index) report fired
  constructor
  · intro other
    by_cases same : other = index
    · subst same
      rw [Site.session_set]
      exact named
    · rw [Site.session_set_of_ne site same]
      exact tells.accounts other
  · intro entry among
    rcases List.mem_append.mp among with before | new
    · exact tells.delivered entry before
    · exact named.sends.sent entry (List.mem_of_mem_drop new)

theorem Tells.attach_to (tells : Tells env site) {tab : Tab} {index : Nat}
    (fired : Site.attachTo env site tab index = some next) : Tells env next := by
  obtain ⟨session, inner, rfl⟩ := Option.map_eq_some_iff.mp fired
  have report : Naming.NamedReport (site.sessions index) (.lifecycle (.attach tab)) := trivial
  have set := tells.set report inner
  exact ⟨set.accounts, set.delivered⟩

theorem denied_fits {tab : Tab} {frame : Frame}
    (denied : Auth.login env.auth (env.requests tab) = .denied frame) :
    Naming.Fits env.config frame := by
  unfold Auth.login at denied
  split_ifs at denied
  split at denied
  · cases denied
    trivial
  · cases denied

theorem tells_step (tells : Tells env site) {action : Site.Action}
    (report : ∀ index inner, action = .account index inner →
      Naming.NamedReport (site.sessions index) inner)
    (fired : Site.step env site action = some next) : Tells env next := by
  cases Site.fires_of_step fired with
  | rejected => exact ⟨tells.accounts, tells.delivered⟩
  | denied _ refused =>
      refine ⟨tells.accounts, ?_⟩
      intro entry among
      rcases List.mem_append.mp among with before | new
      · exact tells.delivered entry before
      · cases List.mem_singleton.mp new
        exact denied_fits refused
  | @attached tab identity _ _ _ attached =>
      unfold Site.attach at attached
      cases filed : site.registry identity.jid with
      | some index =>
          rw [filed] at attached
          exact tells.attach_to attached
      | none =>
          rw [filed] at attached
          exact (tells.file identity.jid).attach_to attached
  | account _ _ inner => exact tells.set (report _ _ rfl) inner
  | expired _ _ inner =>
      have set := tells.set (report _ _ rfl) inner
      unfold Site.onIdleExpired
      split_ifs
      · exact ⟨set.accounts, set.delivered⟩
      · exact set

theorem connections_step {action : Site.Action} (fired : Site.step env site action = some next)
    (tab : Tab) : next.connections tab = site.connections tab ∨ site.connections tab = .waiting ∧
      action = .connect tab := by
  have placed : ∀ {before : Site.State} {other : Tab} {connection : Site.Connection},
      site.connections other = .waiting → before.connections = site.connections →
        (Site.setConnection before other connection).connections tab = site.connections tab ∨
          site.connections tab = .waiting ∧ Site.Action.connect other = .connect tab := by
    intro before other connection waiting same
    by_cases own : tab = other
    · subst own
      exact .inr ⟨waiting, rfl⟩
    · left
      rw [← same]
      exact Function.update_of_ne own ..
  have attached : ∀ {before : Site.State} {other : Tab} {index : Nat},
      site.connections other = .waiting → before.connections = site.connections →
        Site.attachTo env before other index = some next →
          next.connections tab = site.connections tab ∨
            site.connections tab = .waiting ∧ Site.Action.connect other = .connect tab := by
    intro before other index waiting same fired
    obtain ⟨session, _, rfl⟩ := Option.map_eq_some_iff.mp fired
    exact placed waiting same
  cases Site.fires_of_step fired with
  | rejected waiting => exact placed waiting rfl
  | denied waiting =>
      have moved := @placed site _ .refused waiting rfl
      exact moved
  | @attached other identity _ waiting _ attaches =>
      unfold Site.attach at attaches
      cases filed : site.registry identity.jid with
      | some index =>
          rw [filed] at attaches
          exact attached waiting rfl attaches
      | none =>
          rw [filed] at attaches
          have same : (Site.fileAccount site identity.jid).connections = site.connections := rfl
          exact attached waiting same attaches
  | account => exact .inl rfl
  | expired =>
      left
      unfold Site.onIdleExpired
      split_ifs
      all_goals rfl

end Sites

def framesOf (tab : Tab) (frames : List (Tab × ClientMessage)) : List ClientMessage :=
  frames.filterMap fun pair => if pair.1 = tab then some pair.2 else none

def isFrameOf (tab : Tab) : Cause → Bool
  | .frame other _ => other = tab
  | _ => false

structure Speaks (env : Site.Env) (world : State) : Prop where
  site : Site.Sound env world.site
  tells : Tells env world.site
  screens : ∀ browser, Requests.Named (commandsOf env) (world.screens browser)
  complete : ∀ browser, ∀ entry ∈ (world.screens browser).log,
    Complete (commandsOf env) entry.2

section Pages

variable {env : Site.Env} {world next : State}

theorem start_speaks (env : Site.Env) (preferences : Nat → Option String) :
    Speaks env (start preferences) := by
  refine ⟨Site.empty_sound env, empty_tells env, ?_, ?_⟩
  · intro browser
    exact Requests.start_named _ _
  · intro browser entry among
    cases among

theorem log_grows {screen after : Screen.State} {action : Screen.Action}
    (fired : Screen.step screen action = some after) :
    after.log = screen.log ∨
      after.log = screen.log ++ (Screen.asks screen action).map fun request =>
        (Screen.openSocket screen, request) := by
  cases Screen.fires_of_step fired with
  | handles work => exact .inr work.log
  | _ => exact .inl rfl

theorem Speaks.screen (speaks : Speaks env world) (positive : 0 ≤ env.config.maxMessageChars)
    (small : env.config.maxMessageChars < 2 ^ 31) {browser : Nat} {action : Screen.Action}
    {screen : Screen.State}
    (careful : Requests.Careful (commandsOf env) (world.screens browser) action)
    (fired : Screen.step (world.screens browser) action = some screen) :
    Speaks env (setScreen world browser screen) := by
  refine ⟨speaks.site, speaks.tells, ?_, ?_⟩
  · intro other
    by_cases same : other = browser
    · subst same
      simp only [setScreen, Function.update_self]
      exact Requests.named_step positive small (speaks.screens other) careful fired
    · simp only [setScreen, Function.update_of_ne same]
      exact speaks.screens other
  · intro other entry among
    by_cases same : other = browser
    · subst same
      simp only [setScreen, Function.update_self] at among
      rcases log_grows fired with kept | grown
      · exact speaks.complete other entry (kept ▸ among)
      · rw [grown] at among
        rcases List.mem_append.mp among with before | new
        · exact speaks.complete other entry before
        · obtain ⟨request, asked, rfl⟩ := List.mem_map.mp new
          exact Requests.complete_asks (speaks.screens other) careful fired request asked
    · simp only [setScreen, Function.update_of_ne same] at among
      exact speaks.complete other entry among

theorem careful_frame {screen : Screen.State} {socket : Nat} {frame : Frame}
    (fits : Naming.Fits env.config frame) :
    Requests.Careful (commandsOf env) screen (.frame socket frame) := by
  cases frame
  all_goals exact fits

theorem speaks_step (positive : 0 ≤ env.config.maxMessageChars)
    (small : env.config.maxMessageChars < 2 ^ 31) (speaks : Speaks env world) {action : Action}
    (careful : Careful env world action) (fired : step env world action = some next) :
    Speaks env next := by
  cases fires_of_step fired with
  | page _ inner => exact speaks.screen positive small careful inner
  | @shows browser socket frame screen waits inner =>
      have fits : Naming.Fits env.config frame := by
        obtain ⟨entry, among, same⟩ := List.mem_filterMap.mp (List.mem_of_getElem? waits)
        split_ifs at same
        cases same
        exact speaks.tells.delivered entry among
      have placed := speaks.screen positive small (careful_frame fits) inner
      exact ⟨placed.site, placed.tells, placed.screens, placed.complete⟩
  | @site action site own inner =>
      have report : ∀ index work, action = .account index work →
          Naming.NamedReport (world.site.sessions index) work := by
        rintro index work rfl
        exact careful
      exact ⟨Site.sound_step speaks.site inner, tells_step speaks.tells report inner,
        speaks.screens, speaks.complete⟩
  | @hears index browser socket order request site _ inner =>
      have report : ∀ other work, Site.Action.account index
          (.receive (tabOf browser socket) (literal request) order) = .account other work →
            Naming.NamedReport (world.site.sessions other) work := by
        intro other work same
        cases same
        trivial
      exact ⟨Site.sound_step speaks.site inner, tells_step speaks.tells report inner,
        speaks.screens, speaks.complete⟩

end Pages

section Frames

variable {env : Site.Env} {index : Nat} {site : Site.State} {tab : Tab}

theorem frames_of_append (frames more : List (Tab × ClientMessage)) :
    framesOf tab (frames ++ more) = framesOf tab frames ++ framesOf tab more :=
  List.filterMap_append ..

theorem heard_nothing {action : Site.Action} (own : isReceive action = false) :
    Provenance.heardBy env index site action = [] := by
  cases action with
  | connect tab => rfl
  | account other action =>
      cases action with
      | receive tab raw order => cases own
      | _ => exact ite_self []

theorem heard_request {request : Sent} {order : List Tab}
    (complete : Complete (commandsOf env) request) :
    Provenance.heardBy env index site (.account index (.receive tab (literal request) order)) =
      ([request].filter (allowed (commandsOf env))).map fun request => (tab, parsed request) := by
  have understands := @understood (Site.accountEnv env (site.jids index)).commands
    (site.sessions index).caches request complete
  have checks : Provenance.passesChecks (Site.accountEnv env (site.jids index)).commands
      (site.sessions index).caches (parsed request) = allowed (commandsOf env) request :=
    Bool.eq_iff_iff.mpr understands.1
  have reads := Requests.parse_literal
    (Site.accountEnv env (site.jids index)).commands.repr request
  simp only [Provenance.heardBy, if_true, Provenance.heard, reads, checks]
  cases accepted : allowed (commandsOf env) request with
  | true => simp [accepted]
  | false => simp [accepted]

theorem frames_of_request (other : Tab) (requests : List Sent) :
    framesOf tab (requests.map fun request => (other, parsed request)) =
      if other = tab then requests.map parsed else [] := by
  by_cases own : other = tab
  · simp [framesOf, own, List.filterMap_map, List.filterMap_eq_map']
  · simp [framesOf, own]

theorem requests_append (socket : Nat) (log more : List (Option Nat × Sent)) :
    requestsOn socket (log ++ more) = requestsOn socket log ++ requestsOn socket more :=
  List.filterMap_append ..

theorem operations_of_tab (env : Commands.Env) (causes : List Cause) :
    (causes.filter (isFrameOf tab)).map (Cause.operation env) =
      (framesOf tab (causes.filterMap Cause.asked)).map (Provenance.operationOf env) := by
  induction causes with
  | nil => rfl
  | cons cause rest induction =>
      cases cause with
      | frame other message =>
          by_cases own : other = tab
          · simpa [isFrameOf, framesOf, Cause.asked, own, Cause.operation] using induction
          · simpa [isFrameOf, framesOf, Cause.asked, own] using induction
      | _ => exact induction

end Frames

/-- What an account has heard of each tab is what its page has sent, as far as it was received
and is allowed. -/
structure Followed (env : Site.Env) (index : Nat) (world : State)
    (frames : List (Tab × ClientMessage)) : Prop where
  ledger : Provenance.Ledger env index world.site frames
  received : ∀ browser socket,
    world.heard (tabOf browser socket) ≤ (requestsOf world browser socket).length
  waits : ∀ tab, world.site.connections tab = .waiting → world.heard tab = 0
  strangers : ∀ tab, world.site.connections tab ≠ .attached index → framesOf tab frames = []
  same : ∀ browser socket, world.site.connections (tabOf browser socket) = .attached index →
    framesOf (tabOf browser socket) frames =
      (((requestsOf world browser socket).take (world.heard (tabOf browser socket))).filter
        (allowed (commandsOf env))).map parsed

section Following

variable {env : Site.Env} {index : Nat} {world next : State}
  {frames : List (Tab × ClientMessage)}

theorem start_followed (env : Site.Env) (index : Nat) (preferences : Nat → Option String) :
    Followed env index (start preferences) [] := by
  refine ⟨Ledgers.empty_ledger Provenance.accounts_kept env index, ?_, fun _ _ => rfl, fun _ _ => rfl, ?_⟩
  · intro browser socket
    exact Nat.zero_le _
  · intro browser socket attached
    cases attached

theorem Followed.screen (followed : Followed env index world frames) {browser : Nat}
    {action : Screen.Action} {screen : Screen.State}
    (fired : Screen.step (world.screens browser) action = some screen) :
    Followed env index (setScreen world browser screen) frames := by
  have grows : ∀ other socket, ∃ more,
      requestsOf (setScreen world browser screen) other socket =
        requestsOf world other socket ++ more := by
    intro other socket
    by_cases same : other = browser
    · subst same
      have placed : (setScreen world other screen).screens other = screen := Function.update_self ..
      rw [requestsOf, placed, requestsOf]
      rcases log_grows fired with kept | grown
      · exact ⟨[], by rw [kept, List.append_nil]⟩
      · exact ⟨_, by rw [grown, requests_append]⟩
    · have placed : (setScreen world browser screen).screens other = world.screens other :=
        Function.update_of_ne same ..
      rw [requestsOf, placed]
      exact ⟨[], (List.append_nil _).symm⟩
  refine ⟨followed.ledger, ?_, followed.waits, followed.strangers, ?_⟩
  · intro other socket
    obtain ⟨more, grown⟩ := grows other socket
    rw [grown, List.length_append]
    exact Nat.le_add_right_of_le (followed.received other socket)
  · intro other socket attached
    obtain ⟨more, grown⟩ := grows other socket
    have received : (requestsOf (setScreen world browser screen) other socket).take
        (world.heard (tabOf other socket)) =
          (requestsOf world other socket).take (world.heard (tabOf other socket)) := by
      rw [grown, List.take_append_of_le_length (followed.received other socket)]
    have same := followed.same other socket attached
    rw [← received] at same
    exact same

theorem Followed.site (followed : Followed env index world frames) {action : Site.Action}
    {site : Site.State} (own : isReceive action = false)
    (fired : Site.step env world.site action = some site) :
    Followed env index { world with site := site } frames := by
  have ledger := Provenance.ledger_step followed.ledger fired
  rw [heard_nothing own, List.append_nil] at ledger
  refine ⟨ledger, followed.received, ?_, ?_, ?_⟩
  · intro tab waiting
    rcases connections_step fired tab with kept | ⟨waited, _⟩
    · exact followed.waits tab (kept ▸ waiting)
    · exact followed.waits tab waited
  · intro tab apart
    rcases connections_step fired tab with kept | ⟨waited, _⟩
    · exact followed.strangers tab (kept ▸ apart)
    · apply followed.strangers tab
      rw [waited]
      intro attached
      cases attached
  · intro browser socket attached
    rcases connections_step fired (tabOf browser socket) with kept | ⟨waited, _⟩
    · exact followed.same browser socket (kept ▸ attached)
    · -- the tab has just come, and nothing of its page was received
      have unheard : world.heard (tabOf browser socket) = 0 := followed.waits _ waited
      have strange : framesOf (tabOf browser socket) frames = [] := by
        apply followed.strangers
        rw [waited]
        intro attached
        cases attached
      rw [strange]
      dsimp only
      rw [unheard]
      rfl

theorem attached_of_receive {site next : Site.State} (sound : Site.Sound env site) {tab : Tab}
    {raw : Json} {order : List Tab}
    (fired : Site.step env site (.account index (.receive tab raw order)) = some next) :
    site.connections tab = .attached index := by
  have pumping : ∀ {session : Activity.Session}, Activity.step
      (Site.accountEnv env (site.jids index)) (site.sessions index) (.receive tab raw order) =
        some session → (site.sessions index).account.handlers tab = .pumping := by
    intro session inner
    cases Activity.fires_of_step inner with
    | refused pumping => exact pumping
    | finished pumping => exact pumping
    | called pumping => exact pumping
  have there : (site.sessions index).account.handlers tab ≠ .absent := by
    cases Site.fires_of_step fired with
    | account _ _ inner =>
        rw [pumping inner]
        intro absent
        cases absent
    | expired _ _ inner =>
        rw [pumping inner]
        intro absent
        cases absent
  exact (sound.present index tab there).2.1

theorem tab_inj {browser socket other second : Nat}
    (same : tabOf other second = tabOf browser socket) : other = browser ∧ second = socket :=
  Nat.pair_eq_pair.mp same

theorem Followed.hears (followed : Followed env index world frames) (speaks : Speaks env world)
    {account browser socket : Nat} {order : List Tab} {request : Sent} {site : Site.State}
    (waits : (requestsOf world browser socket)[world.heard (tabOf browser socket)]? = some request)
    (fired : Site.step env world.site
      (.account account (.receive (tabOf browser socket) (literal request) order)) = some site) :
    Followed env index
      { world with site := site, heard := count world.heard (tabOf browser socket) }
      (frames ++ Provenance.heardBy env index world.site
        (.account account (.receive (tabOf browser socket) (literal request) order))) := by
  have here := attached_of_receive speaks.site fired
  have connections : ∀ tab, site.connections tab = world.site.connections tab := by
    intro tab
    rcases connections_step fired tab with kept | ⟨_, connect⟩
    · exact kept
    · cases connect
  have counted : count world.heard (tabOf browser socket) (tabOf browser socket) =
      world.heard (tabOf browser socket) + 1 := Function.update_self ..
  have others : ∀ tab, tab ≠ tabOf browser socket →
      count world.heard (tabOf browser socket) tab = world.heard tab :=
    fun tab apart => Function.update_of_ne apart ..
  have bound : world.heard (tabOf browser socket) < (requestsOf world browser socket).length :=
    (List.getElem?_eq_some_iff.mp waits).1
  have complete : Complete (commandsOf env) request := by
    obtain ⟨entry, among, same⟩ := List.mem_filterMap.mp (List.mem_of_getElem? waits)
    split_ifs at same
    cases same
    exact speaks.complete browser entry among
  have strange : ∀ tab, tab ≠ tabOf browser socket ∨ account ≠ index →
      framesOf tab (Provenance.heardBy env index world.site
        (.account account (.receive (tabOf browser socket) (literal request) order))) = [] := by
    intro tab apart
    by_cases own : account = index
    · subst own
      rw [heard_request complete, frames_of_request]
      exact if_neg fun same => (apart.resolve_right fun differs => differs rfl) same.symm
    · have nothing : Provenance.heardBy env index world.site
          (.account account (.receive (tabOf browser socket) (literal request) order)) = [] :=
        if_neg own
      rw [nothing]
      rfl
  refine ⟨Provenance.ledger_step followed.ledger fired, ?_, ?_, ?_, ?_⟩
  · intro other second
    by_cases same : tabOf other second = tabOf browser socket
    · obtain ⟨rfl, rfl⟩ := tab_inj same
      dsimp only
      rw [counted]
      exact bound
    · dsimp only
      rw [others _ same]
      exact followed.received other second
  · intro tab waiting
    have waited : world.site.connections tab = .waiting := (connections tab).symm.trans waiting
    have apart : tab ≠ tabOf browser socket := by
      rintro rfl
      cases waited.symm.trans here
    dsimp only
    rw [others tab apart]
    exact followed.waits tab waited
  · intro tab apart
    have before : world.site.connections tab ≠ .attached index := connections tab ▸ apart
    rw [frames_of_append, followed.strangers tab before, List.nil_append]
    apply strange
    by_cases same : tab = tabOf browser socket
    · right
      rintro rfl
      exact before (same ▸ here)
    · exact .inl same
  · intro other second attached
    have before : world.site.connections (tabOf other second) = .attached index :=
      (connections _).symm.trans attached
    rw [frames_of_append, followed.same other second before]
    by_cases same : tabOf other second = tabOf browser socket
    · obtain ⟨rfl, rfl⟩ := tab_inj same
      have own : account = index := by
        cases here.symm.trans before
        rfl
      subst own
      have longer : (requestsOf world other second).take (world.heard (tabOf other second) + 1) =
          (requestsOf world other second).take (world.heard (tabOf other second)) ++ [request] := by
        rw [List.take_add_one, waits]
        rfl
      rw [heard_request complete, frames_of_request, if_pos rfl, ← List.map_append,
        ← List.filter_append, ← longer, ← counted]
      rfl
    · rw [strange _ (.inl same), List.append_nil]
      dsimp only
      rw [others _ same]
      rfl

theorem followed_step (speaks : Speaks env world) {action : Action}
    (followed : ∃ frames, Followed env index world frames)
    (fired : step env world action = some next) : ∃ frames, Followed env index next frames := by
  obtain ⟨frames, followed⟩ := followed
  cases fires_of_step fired with
  | page _ inner => exact ⟨frames, followed.screen inner⟩
  | shows _ inner =>
      have placed := followed.screen inner
      exact ⟨frames, placed.ledger, placed.received, placed.waits, placed.strangers, placed.same⟩
  | site own inner => exact ⟨frames, followed.site own inner⟩
  | hears waits inner => exact ⟨_, followed.hears speaks waits inner⟩

end Following

/-- Alice adds bob and writes to him; her second browser is open as well. -/
def alicesDesk : List Action :=
  [.site (.connect 0), .site (.account 0 (.lifecycle .clientUp)),
    .site (.account 0 (.lifecycle (.connectReturns 0))), .page 0 (.opens 0), .shows 0 0,
    .site (.account 0 (.sent 0 none)), .site (.connect 2), .site (.account 0 (.sent 2 none)),
    .page 0 (.gesture (.adds (some "bob@example.com"))), .hears 0 0 0 [],
    .site (.account 0 (.operationEnds 0 Pump.obliging.perform "" [])),
    .page 0 (.gesture (.edits "hi")), .page 0 (.gesture .submits), .hears 0 0 0 []]

def afterDesk : State :=
  (replay (step Isolation.office) (start fun _ => none) alicesDesk).getD (start fun _ => none)

end PyConduit.World
