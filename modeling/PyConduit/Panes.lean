import PyConduit.Requests

/-!
# What the panes show

`app.js` draws anew only the parts of the page that a handler names, and for most frames only
those of the active conversation. What is drawn is nevertheless what the state calls for, but
for the header where a joined room gets its name while it is open.

Left out are the times of the messages and the initials and colours of the avatars.
-/

namespace PyConduit.Panes

open Protocol Browser GuardedRun
open Screen (opensRoom entered asLength acts_of_act)
open Requests (showText)

set_option autoImplicit false

def current (page : Page) : Option (String × Convo) :=
  page.active.bind fun id => (page.convos.lookup id).map fun convo => (id, convo)

def presenceOf (page : Page) (jid : String) : Show :=
  ((page.roster.lookup jid).map (·.shown)).getD .offline

structure Header where
  title : String
  hover : String
  sub : String
  dot : Option Show
  leave : Bool

def statusOf (page : Page) (jid : String) : String :=
  match (page.roster.lookup jid).bind (·.status) with
  | some status => if status = "" then showText (presenceOf page jid) else status
  | none => showText (presenceOf page jid)

/-- `id.split("@")[1] || ""` -/
def domainOf (id : String) : String :=
  if '@' ∈ id.toList then Text.before '@' (Text.after '@' id) else ""

def renderConvoHeader (page : Page) : Header :=
  match current page with
  | none => ⟨"Select a conversation", "", "", none, false⟩
  | some (id, convo) =>
      match convo.kind with
      | .chat => ⟨convo.name, id, statusOf page id, some (presenceOf page id), false⟩
      | .muc => ⟨convo.name, id, domainOf id, none, true⟩

/-- A child of the message pane. -/
inductive Line
  | notice (text : String)
  | warning (text : String)
  | message (outgoing mention : Bool) (author body : Json)

/-- `renderMessage`; an empty text does not make a notice or a warning. -/
def renderMessage : Entry → Line
  | .chat author body _ direction _ => .message (direction = .outgoing) false author body
  | .room author body _ isSelf _ mention => .message isSelf mention (.str author) (.str body)
  | .notice text => if text = "" then .message false false .null .null else .notice text
  | .warning text => if text = "" then .message false false .null .null else .warning text

structure Messages where
  older : Bool
  lines : List Line

def renderMessages (page : Page) : Messages where
  older := offersOlder page
  lines :=
    match current page with
    | none => []
    | some (_, convo) => convo.messages.map renderMessage

structure Row where
  name : String
  hover : String
  dot : Show

structure Members where
  head : String
  rows : List Row

/-- The row of an occupant; it hovers with its real address where the room tells it. -/
def rowOf (room : String) (occupant : Occupant) : Row where
  name := occupant.nick
  hover := if occupant.jid = "" then s!"{room}/{occupant.nick}" else occupant.jid
  dot := occupant.shown

/-- `renderOccupants`, hidden but for a room. `precedes` is `localeCompare` of the browser. -/
def renderOccupants (precedes : String → String → Bool) (page : Page) : Option Members :=
  match current page with
  | none => none
  | some (id, convo) =>
      if convo.kind = .muc then
        some
          { head := s!"Members — {convo.occupants.length}"
            rows := (convo.occupants.mergeSort fun first second =>
              precedes first.nick second.nick).map (rowOf id) }
      else none

/-- What a handler can draw anew. -/
inductive Part
  | header
  | messages
  | members
  deriving DecidableEq

def everything : List Part := [.header, .messages, .members]

def ifActive (page : Page) (id : String) (parts : List Part) : List Part :=
  if page.active = some id then parts else []

/-- What the cases of `handleFrame` draw. The `ready` case gets there unless `maxLength` refuses
its limit. -/
def framed (page : Page) : Frame → List Part
  | .ready _ _ _ _ _ limit => if limit = 0 ∨ (asLength limit).isSome then everything else []
  | .roster _ => everything
  | .presence _ _ _ => everything
  | .message message =>
      match message.conversation with
      | .str id => ifActive page id [.messages]
      | _ => []
  | .history (.str id) _ _ => ifActive page id [.messages]
  | .mucJoined (.str _) _ _ => if opensRoom page then everything else []
  | .mucLeft _ => everything
  | .mucMessage room _ _ _ _ _ _ => ifActive page room [.messages]
  | .mucOccupants (.str room) _ => ifActive page room [.members, .header]
  | .mucPresence room _ _ => ifActive page room [.messages]
  | .error _ _ (some (.str id)) =>
      if id ≠ "" ∧ (page.convos.lookup id).isSome then ifActive page id [.messages] else []
  | _ => []

def renders (page : Page) : Screen.Action → List Part
  | .frame _ frame => framed page frame
  | .gesture (.opens _) => everything
  | .gesture (.adds (some typed)) => if typed = "" then [] else everything
  | .gesture (.removes _) => everything
  | .gesture .focuses => if (current page).isSome then everything else []
  | _ => []

structure Drawn where
  header : Header
  messages : Messages
  members : Option Members

/-- What `index.html` has in their place. -/
def undrawn : Drawn := ⟨⟨"Select a conversation", "", "", none, false⟩, ⟨false, []⟩, none⟩

structure State where
  screen : Screen.State
  drawn : Drawn

def start (preference : Option String) : State := ⟨Screen.start preference, undrawn⟩

section Steps

variable (precedes : String → String → Bool)

def redraw (page : Page) (parts : List Part) (drawn : Drawn) : Drawn where
  header := if .header ∈ parts then renderConvoHeader page else drawn.header
  messages := if .messages ∈ parts then renderMessages page else drawn.messages
  members := if .members ∈ parts then renderOccupants precedes page else drawn.members

/-- One event, with what its handler draws at its end. There is no step where a handler could
raise while it draws. -/
def step (state : State) (action : Screen.Action) : Option State :=
  if Screen.NamesText action then
    (Screen.step state.screen action).map fun next =>
      ⟨next, redraw precedes next.page (renders state.screen.page action) state.drawn⟩
  else none

def Shows (state : State) : Part → Prop
  | .header => state.drawn.header = renderConvoHeader state.screen.page
  | .messages => state.drawn.messages = renderMessages state.screen.page
  | .members => state.drawn.members = renderOccupants precedes state.screen.page

def Same (page next : Page) : Part → Prop
  | .header => renderConvoHeader next = renderConvoHeader page
  | .messages => renderMessages next = renderMessages page
  | .members => renderOccupants precedes next = renderOccupants precedes page

end Steps

def Alike (convo assigned : Convo) : Part → Prop
  | .header => assigned.kind = convo.kind ∧ assigned.name = convo.name
  | .messages => assigned.kind = convo.kind ∧ assigned.messages = convo.messages ∧
      assigned.complete = convo.complete
  | .members => assigned.kind = convo.kind ∧ assigned.occupants = convo.occupants

def Known (page : Page) : Prop := ∀ id, page.active = some id → (page.convos.lookup id).isSome

/-- The event gives the conversation that is open another name, and nothing draws it. -/
def renames (page : Page) : Screen.Action → Bool
  | .frame _ (.mucJoined (.str room) _ _) =>
      ¬opensRoom page ∧ page.active = some room ∧
        (page.convos.lookup room).map (·.name) ≠ some (Text.before '@' room)
  | _ => false

inductive Mark
  | drawn
  | renamed
  deriving DecidableEq

def marks (screen : Screen.State) (action : Screen.Action) : List Mark :=
  if .header ∈ renders screen.page action then [.drawn]
  else if renames screen.page action then [.renamed]
  else []

section Pages

variable {precedes : String → String → Bool} {page : Page} {part : Part}

theorem current_eq {id : String} (active : page.active = some id) :
    current page = (page.convos.lookup id).map fun convo => (id, convo) := by
  rw [current, active]
  rfl

theorem current_none (closed : page.active = none) : current page = none := by
  rw [current, closed]
  rfl

theorem same_refl : Same precedes page page part := by
  cases part
  all_goals rfl

theorem Same.trans {next last : Page} (first : Same precedes page next part)
    (second : Same precedes next last part) : Same precedes page last part := by
  cases part
  all_goals exact Eq.trans second first

theorem same_closed {next : Page} (before : page.active = none) (after : next.active = none) :
    Same precedes page next part := by
  cases part
  · simp only [Same, renderConvoHeader, current_none before, current_none after]
  · simp only [Same, renderMessages, current_none before, current_none after, offersOlder, before,
      after, Option.bind_none]
  · simp only [Same, renderOccupants, current_none before, current_none after]

theorem same_open {next : Page} {id : String} {convo assigned : Convo}
    (before : page.active = some id) (after : next.active = some id)
    (found : page.convos.lookup id = some convo) (finds : next.convos.lookup id = some assigned)
    (roster : next.roster = page.roster) (alike : Alike convo assigned part) :
    Same precedes page next part := by
  have here : current page = some (id, convo) := by rw [current_eq before, found]; rfl
  have there : current next = some (id, assigned) := by rw [current_eq after, finds]; rfl
  cases part with
  | header =>
      obtain ⟨kind, name⟩ := alike
      simp only [Same, renderConvoHeader, here, there, kind, name, statusOf, presenceOf, roster]
  | messages =>
      obtain ⟨kind, messages, complete⟩ := alike
      simp only [Same, renderMessages, here, there, messages, offersOlder, before, after, found,
        finds, Option.bind_some, kind, complete]
  | members =>
      obtain ⟨kind, occupants⟩ := alike
      simp only [Same, renderOccupants, here, there, kind, occupants]

theorem same_change (known : Known page) {id name : String} {kind : Kind} {assigned : Convo → Convo}
    (alike : page.active = some id → ∀ convo, page.convos.lookup id = some convo →
      Alike convo (assigned convo) part) :
    Same precedes page (change page id kind name assigned) part := by
  cases active : page.active with
  | none => exact same_closed active active
  | some other =>
      obtain ⟨convo, found⟩ := Option.isSome_iff_exists.mp (known other active)
      by_cases own : other = id
      · subst own
        have finds : (change page other kind name assigned).convos.lookup other =
            some (assigned convo) := by
          rw [lookup_change, if_pos rfl, found, Option.getD_some]
        exact same_open active active found finds rfl (alike active convo found)
      · have finds : (change page id kind name assigned).convos.lookup other = some convo := by
          rw [lookup_change, if_neg own, found]
        have same : Alike convo convo part := by
          cases part
          · exact ⟨rfl, rfl⟩
          · exact ⟨rfl, rfl, rfl⟩
          · exact ⟨rfl, rfl⟩
        exact same_open active active found finds rfl same

theorem known_change (known : Known page) (id name : String) (kind : Kind)
    (assigned : Convo → Convo) : Known (change page id kind name assigned) := by
  intro other active
  rw [lookup_change]
  split_ifs
  · rfl
  · exact known other active

/-- A raised counter is a change that no part draws. -/
theorem bump_cases (page : Page) (id : String) : bump page id = page ∨
    bump page id = change page id .chat id fun convo => { convo with unread := convo.unread + 1 } := by
  unfold bump
  split
  · next convo found =>
      split_ifs
      · exact .inl rfl
      · right
        rw [change, found, Option.getD_some]
  · exact .inl rfl

theorem known_bump (known : Known page) (id : String) : Known (bump page id) := by
  rcases bump_cases page id with same | raised
  · rwa [same]
  · rw [raised]
    exact known_change known _ _ _ _

theorem same_bump (known : Known page) (id : String) : Same precedes page (bump page id) part := by
  rcases bump_cases page id with same | raised
  · rw [same]
    exact same_refl
  · rw [raised]
    apply same_change known
    intro _ convo _
    cases part
    · exact ⟨rfl, rfl⟩
    · exact ⟨rfl, rfl, rfl⟩
    · exact ⟨rfl, rfl⟩

theorem known_dropped (known : Known page) (id : String) : Known (dropped page id) := by
  intro other active
  rw [lookup_dropped]
  simp only [dropped] at active
  split_ifs at active with shown
  · have apart : other ≠ id := by
      rintro rfl
      exact shown active
    rw [if_neg apart]
    exact known other active

theorem known_set_active (page : Page) (id : String) : Known (Browser.setActive page id).1 := by
  intro other active
  cases active
  simp only [Browser.setActive, lookup_change, if_true]
  rfl

end Pages

section Frames

variable {precedes : String → String → Bool} {page : Page} {part : Part}

theorem mem_everything (part : Part) : part ∈ everything := by
  cases part
  all_goals decide

/-- A change that its own part alone could tell is drawn where it is told. -/
theorem change_drawn (known : Known page) {id name : String} {kind : Kind}
    {assigned : Convo → Convo} {parts : List Part}
    (alike : ∀ convo, part ∈ parts ∨ Alike convo (assigned convo) part) :
    part ∈ ifActive page id parts ∨ Same precedes page (change page id kind name assigned) part := by
  by_cases drawn : page.active = some id ∧ part ∈ parts
  · left
    rw [ifActive, if_pos drawn.1]
    exact drawn.2
  · right
    apply same_change known
    intro active convo _
    exact (alike convo).resolve_left fun told => drawn ⟨active, told⟩

theorem pushed_alike (entry : Entry) (convo : Convo) :
    part ∈ [Part.messages] ∨ Alike convo (pushed entry convo) part := by
  cases part
  · exact .inr ⟨rfl, rfl⟩
  · exact .inl (by decide)
  · exact .inr ⟨rfl, rfl⟩

theorem known_frame (known : Known page) (frame : Frame) :
    Known (Browser.handleFrame page frame).1 := by
  cases frame with
  | message message =>
      simp only [Browser.handleFrame]
      split
      · dsimp only
        split_ifs
        · exact known_bump (known_change known _ _ _ _) _
        · exact known_change known _ _ _ _
      · exact known
  | history conversation messages complete =>
      cases conversation with
      | str id => exact known_change known _ _ _ _
      | _ => exact known
  | mucJoined room nick subject =>
      cases room with
      | str room =>
          have handled : Browser.handleFrame page (.mucJoined (.str room) nick subject) =
              joined page room := rfl
          rw [handled, Screen.joined_eq]
          split_ifs
          · exact known_set_active _ room
          · exact known_change known _ _ _ _
      | _ => exact known
  | mucLeft room =>
      cases room with
      | str room => exact known_dropped known room
      | _ => exact known
  | mucMessage room nick body msgId timestamp isSelf mentionsMe =>
      simp only [Browser.handleFrame]
      split_ifs
      · exact known_change known _ _ _ _
      · exact known_bump (known_change known _ _ _ _) _
  | mucOccupants room occupants =>
      cases room with
      | str room => exact known_change known _ _ _ _
      | _ => exact known
  | mucPresence room nick joined => exact known_change known _ _ _ _
  | error context message conversation =>
      rcases conversation with _ | conversation
      · exact known
      · cases conversation with
        | str other =>
            simp only [Browser.handleFrame]
            split_ifs
            · exact known_change known _ _ _ _
            · exact known
        | _ => exact known
  | _ => exact known

theorem frame_drawn (known : Known page) {socket : Nat} {frame : Frame}
    (keeps : part = .header → renames page (.frame socket frame) = false) :
    part ∈ framed page frame ∨ Same precedes page (Browser.handleFrame page frame).1 part := by
  cases frame with
  | message message =>
      cases conversation : message.conversation with
      | str id =>
          simp only [Browser.handleFrame, framed, conversation]
          apply (@change_drawn precedes page part known id id .chat
            (pushed (chatEntry page message)) [.messages] (pushed_alike _)).imp_right
          intro same
          split_ifs
          · exact same.trans (same_bump (known_change known _ _ _ _) id)
          · exact same
      | _ =>
          simp only [Browser.handleFrame, conversation]
          exact .inr same_refl
  | history conversation messages complete =>
      cases conversation with
      | str id =>
          apply change_drawn known
          intro convo
          cases part
          · exact .inr ⟨rfl, rfl⟩
          · exact .inl (by decide)
          · exact .inr ⟨rfl, rfl⟩
      | _ => exact .inr same_refl
  | mucJoined room nick subject =>
      cases room with
      | str room =>
          have handled : Browser.handleFrame page (.mucJoined (.str room) nick subject) =
              joined page room := rfl
          rw [handled, Screen.joined_eq, framed]
          split_ifs with opens
          · exact .inl (mem_everything part)
          · right
            apply same_change known
            intro active convo found
            cases part
            · have named : (page.convos.lookup room).map (·.name) = some (Text.before '@' room) := by
                simpa [renames, opens, active] using keeps rfl
              rw [found] at named
              exact ⟨rfl, (Option.some.inj named).symm⟩
            · exact ⟨rfl, rfl, rfl⟩
            · exact ⟨rfl, rfl⟩
      | _ => exact .inr same_refl
  | mucMessage room nick body msgId timestamp isSelf mentionsMe =>
      have filed := @change_drawn precedes page part known room room .muc
        (pushed (.room nick body timestamp isSelf msgId mentionsMe)) [.messages] (pushed_alike _)
      apply filed.imp_right
      intro same
      simp only [Browser.handleFrame]
      split_ifs
      · exact same
      · exact same.trans (same_bump (known_change known _ _ _ _) room)
  | mucOccupants room occupants =>
      cases room with
      | str room =>
          apply change_drawn known
          intro convo
          cases part
          · exact .inl (by decide)
          · exact .inr ⟨rfl, rfl, rfl⟩
          · exact .inl (by decide)
      | _ => exact .inr same_refl
  | mucPresence room nick joined => exact change_drawn known (pushed_alike _)
  | error context message conversation =>
      rcases conversation with _ | conversation
      · exact .inr same_refl
      · cases conversation with
        | str other =>
            simp only [Browser.handleFrame, framed]
            split_ifs
            · exact change_drawn known (pushed_alike _)
            · exact .inr same_refl
        | _ => exact .inr same_refl
  | roster => exact .inl (mem_everything part)
  | presence => exact .inl (mem_everything part)
  | mucLeft => exact .inl (mem_everything part)
  | _ => exact .inr same_refl

end Frames

section Runs

variable {precedes : String → String → Bool} {screen next : Screen.State} {part : Part}

theorem known_step (known : Known screen.page) {action : Screen.Action}
    (fired : Screen.step screen action = some next) : Known next.page := by
  rcases Screen.page_cases fired with ⟨gesture, rfl, acts⟩ | ⟨socket, frame, rfl, rfl⟩ | ⟨_, same⟩
  · cases acts with
    | opens =>
        rw [Screen.page_set_active]
        exact known_set_active _ _
    | adds =>
        rw [Screen.page_set_active]
        exact known_set_active _ _
    | removes => exact known_dropped known _
    | focuses => exact known_change known _ _ _ _
    | loadsOlder =>
        rw [Screen.page_send_all]
        exact known
    | _ => exact known
  · rw [Screen.page_frame]
    exact known_frame known frame
  · rwa [same]

theorem event_drawn (known : Known screen.page) {action : Screen.Action}
    (keeps : part = .header → renames screen.page action = false)
    (fired : Screen.step screen action = some next) :
    part ∈ renders screen.page action ∨ Same precedes screen.page next.page part := by
  rcases Screen.page_cases fired with ⟨gesture, rfl, acts⟩ | ⟨socket, frame, rfl, rfl⟩ | ⟨_, same⟩
  · cases acts with
    | opens => exact .inl (mem_everything part)
    | adds filled =>
        left
        rw [renders, if_neg filled]
        exact mem_everything part
    | removes => exact .inl (mem_everything part)
    | focuses active present =>
        left
        obtain ⟨convo, found⟩ := Option.isSome_iff_exists.mp present
        rw [renders, current_eq active, found, Option.map_some, Option.isSome_some, if_pos rfl]
        exact mem_everything part
    | loadsOlder =>
        rw [Screen.page_send_all]
        exact .inr same_refl
    | hides =>
        right
        cases part
        all_goals rfl
    | _ => exact .inr same_refl
  · rw [Screen.page_frame]
    exact frame_drawn known keeps
  · rw [same]
    exact .inr same_refl

variable {state after : State}

/-- Drawing changes nothing else. -/
theorem step_view (precedes : String → String → Bool) (state : State) {action : Screen.Action}
    (named : Screen.NamesText action) :
    (step precedes state action).map State.screen = Screen.step state.screen action := by
  rw [step, if_pos named, Option.map_map]
  exact Option.map_id' ..

theorem moved_of_step {action : Screen.Action} (fired : step precedes state action = some after) :
    ∃ next, Screen.step state.screen action = some next ∧
      ⟨next, redraw precedes next.page (renders state.screen.page action) state.drawn⟩ = after :=
  Option.map_eq_some_iff.mp (Option.ite_none_right_eq_some.mp fired).2

/-- What is drawn at an event is right, and what is not drawn stays right. -/
theorem shows_step (known : Known state.screen.page) {action : Screen.Action}
    (keeps : part = .header → renames state.screen.page action = false)
    (shows : Shows precedes state part) (fired : step precedes state action = some after) :
    Shows precedes after part := by
  obtain ⟨next, moved, rfl⟩ := moved_of_step fired
  rcases @event_drawn precedes _ _ _ known _ keeps moved with drawn | same
  · cases part
    all_goals exact if_pos drawn
  · cases part
    all_goals
      simp only [Shows, redraw]
      split_ifs
      · rfl
      · exact Eq.trans shows same.symm

/-- The header has an earlier name of the room. -/
def Lags (state : State) : Prop :=
  let now := renderConvoHeader state.screen.page
  state.drawn.header.title ≠ now.title ∧ now.title = Text.before '@' now.hover

theorem header_open {page : Page} {id : String} {convo : Convo} (active : page.active = some id)
    (found : page.convos.lookup id = some convo) :
    (renderConvoHeader page).title = convo.name ∧ (renderConvoHeader page).hover = id := by
  have here : current page = some (id, convo) := by rw [current_eq active, found]; rfl
  rw [renderConvoHeader, here]
  dsimp only
  split
  all_goals exact ⟨rfl, rfl⟩

theorem header_renamed (known : Known screen.page) {action : Screen.Action}
    (renamed : renames screen.page action = true) (fired : Screen.step screen action = some next) :
    (renderConvoHeader next.page).hover = (renderConvoHeader screen.page).hover ∧
      (renderConvoHeader next.page).title = Text.before '@' (renderConvoHeader screen.page).hover ∧
        (renderConvoHeader screen.page).title ≠
          Text.before '@' (renderConvoHeader screen.page).hover := by
  unfold renames at renamed
  split at renamed
  · next socket room nick subject =>
      obtain ⟨closed, active, other⟩ := of_decide_eq_true renamed
      obtain ⟨convo, found⟩ := Option.isSome_iff_exists.mp (known room active)
      obtain ⟨_, same⟩ := Option.ite_none_right_eq_some.mp fired
      cases same
      have differs : convo.name ≠ Text.before '@' room := by
        simpa [found] using other
      have entering : (Screen.handleFrame screen (.mucJoined (.str room) nick subject)).page =
          entered screen.page room := by
        rw [Screen.page_frame]
        exact congrArg Prod.fst ((Screen.joined_eq screen.page room).trans (if_neg closed))
      have finds : (entered screen.page room).convos.lookup room =
          some { convo with name := Text.before '@' room } := by
        rw [entered, lookup_change, if_pos rfl, found, Option.getD_some]
      have stays : (entered screen.page room).active = some room := active
      obtain ⟨title, hover⟩ := header_open active found
      obtain ⟨titleAfter, hoverAfter⟩ := header_open stays finds
      rw [entering, title, hover, titleAfter, hoverAfter]
      exact ⟨rfl, rfl, differs⟩
  · cases renamed

theorem lags_of_renamed (known : Known state.screen.page) {action : Screen.Action}
    (undrawn : .header ∉ renders state.screen.page action)
    (renamed : renames state.screen.page action = true)
    (before : Shows precedes state .header ∨ Lags state)
    (fired : step precedes state action = some after) : Lags after := by
  obtain ⟨next, moved, rfl⟩ := moved_of_step fired
  obtain ⟨hover, title, differs⟩ := header_renamed known renamed moved
  -- A header that lags is behind the room's own name, so another event cannot rename the room.
  have shown : state.drawn.header = renderConvoHeader state.screen.page := by
    rcases before with right | ⟨_, named⟩
    · exact right
    · exact absurd named differs
  simp only [Lags, redraw, if_neg undrawn]
  rw [shown, hover, title]
  exact ⟨differs, rfl⟩

theorem Lags.kept (lags : Lags state) (known : Known state.screen.page) {action : Screen.Action}
    (undrawn : .header ∉ renders state.screen.page action)
    (keeps : renames state.screen.page action = false)
    (fired : step precedes state action = some after) : Lags after := by
  obtain ⟨next, moved, rfl⟩ := moved_of_step fired
  have same : renderConvoHeader next.page = renderConvoHeader state.screen.page :=
    (@event_drawn precedes _ _ .header known _ (fun _ => keeps) moved).resolve_left undrawn
  simp only [Lags, redraw, if_neg undrawn, same]
  exact lags

/-- The parts are right, but for a header that lags by what happened to it last. -/
structure Settled (precedes : String → String → Bool) (state : State) (marked : List Mark) :
    Prop where
  known : Known state.screen.page
  messages : Shows precedes state .messages
  members : Shows precedes state .members
  header : marked.getLast? ≠ some .renamed → Shows precedes state .header
  lags : marked.getLast? = some .renamed → Lags state

theorem settled_start (preference : Option String) : Settled precedes (start preference) [] where
  known := fun _ active => by cases active
  messages := rfl
  members := rfl
  header := fun _ => rfl
  lags := fun renamed => by cases renamed

theorem settled_step {action : Screen.Action} {marked : List Mark}
    (settled : Settled precedes state marked) (fired : step precedes state action = some after) :
    Settled precedes after (marked ++ marks state.screen action) := by
  obtain ⟨next, moved, rfl⟩ := moved_of_step fired
  have known := known_step settled.known moved
  have messages := shows_step settled.known (fun other => by cases other) settled.messages fired
  have members := shows_step settled.known (fun other => by cases other) settled.members fired
  by_cases drawn : .header ∈ renders state.screen.page action
  · rw [marks, if_pos drawn]
    refine ⟨known, messages, members, fun _ => if_pos drawn, fun renamed => ?_⟩
    simp at renamed
  · by_cases renamed : renames state.screen.page action = true
    · rw [marks, if_neg drawn, if_pos renamed]
      refine ⟨known, messages, members, fun other => absurd (by simp) other, fun _ => ?_⟩
      have before : Shows precedes state .header ∨ Lags state := by
        by_cases last : marked.getLast? = some .renamed
        · exact .inr (settled.lags last)
        · exact .inl (settled.header last)
      exact lags_of_renamed settled.known drawn renamed before fired
    · have keeps : renames state.screen.page action = false := by simpa using renamed
      rw [marks, if_neg drawn, if_neg renamed, List.append_nil]
      refine ⟨known, messages, members, fun last => ?_, fun last => ?_⟩
      · exact shows_step settled.known (fun _ => keeps) (settled.header last) fired
      · exact (settled.lags last).kept settled.known drawn keeps fired

/-- In every run of a tab whose frames name conversations by texts the message pane, the button
for older messages and the list of members are what the active conversation has now; and so is
the header, if and only if no room has got another name while it was open since the header was
drawn last. -/
theorem panes_follow_the_state (precedes : String → String → Bool) (preference : Option String)
    (actions : List Screen.Action) (named : ∀ action ∈ actions, Screen.NamesText action)
    (screen : Screen.State)
    (run : replay Screen.step (Screen.start preference) actions = some screen) :
    ∃ drawn, replay (step precedes) (start preference) actions = some ⟨screen, drawn⟩ ∧
      drawn.messages = renderMessages screen.page ∧
        drawn.members = renderOccupants precedes screen.page ∧
          (drawn.header = renderConvoHeader screen.page ↔
            (collect Screen.step marks (Screen.start preference) actions).getLast? ≠
              some .renamed) := by
  have viewed : ∀ state, ∀ action ∈ actions,
      (step precedes state action).map State.screen = Screen.step state.screen action :=
    fun state action among => step_view precedes state (named action among)
  have drawing := (replay_view viewed (start preference)).trans run
  obtain ⟨⟨_, drawn⟩, runs, rfl⟩ := Option.map_eq_some_iff.mp drawing
  have settled := @collect_invariant _ _ _ (step precedes) (fun state => marks state.screen)
    (Settled precedes) (fun _ _ _ _ settled fired => settled_step settled fired) _ _ _ []
    (settled_start preference) runs
  rw [List.nil_append, collect_view viewed] at settled
  refine ⟨drawn, runs, settled.messages, settled.members, ?_⟩
  constructor
  · intro shown renamed
    exact (settled.lags renamed).1 (congrArg Header.title shown)
  · exact settled.header

def joinsTeam : List Screen.Action :=
  [.opens 0, .gesture (.adds (some "team@rooms.example.com")),
    .frame 0 (.mucJoined (.str "team@rooms.example.com") (.str "alice") none)]

def teamTab : Screen.State := (replay Screen.step (Screen.start none) joinsTeam).getD (Screen.start none)

def byCode (first second : String) : Bool := first ≤ second

theorem team_keeps_its_address : ∃ drawn,
    replay (step byCode) (start none) joinsTeam = some ⟨teamTab, drawn⟩ ∧
      drawn.messages = renderMessages teamTab.page ∧
        drawn.members = renderOccupants byCode teamTab.page ∧
          drawn.header ≠ renderConvoHeader teamTab.page := by
  obtain ⟨drawn, runs, messages, members, header⟩ :=
    panes_follow_the_state byCode none joinsTeam (by decide) teamTab rfl
  have renamed : (collect Screen.step marks (Screen.start none) joinsTeam).getLast? =
      some .renamed := by
    decide
  exact ⟨drawn, runs, messages, members, fun shown => header.mp shown renamed⟩

end Runs

end PyConduit.Panes
