import PyConduit.Panes
import PyConduit.Unread

/-!
# What the sidebar shows

The contacts and the rooms have a row each, with a badge. A handler that draws only one of
the lists, or none, may leave the other behind: what it lacks then is a row, or a message in
the count of a badge, until the list is drawn again.
-/

namespace PyConduit.Sidebar

open Protocol Browser GuardedRun
open Screen (opensRoom entered unseen rings)
open Unread (unread unread_change unread_default unread_kept unread_bump)
open Panes (presenceOf)

set_option autoImplicit false

inductive Side
  | contacts
  | rooms
  deriving DecidableEq

/-- What `liFor` makes, but for the initial and the colour of the avatar and the button. A
badge is shown where it is not zero. -/
structure Row where
  id : String
  label : String
  dot : Option Show
  active : Bool
  badge : Nat

def liFor (page : Page) (id label : String) (dot : Option Show) : Row where
  id := id
  label := label
  dot := dot
  active := page.active = some id
  badge := unread page id

def kindOf : Side → Kind
  | .contacts => .chat
  | .rooms => .muc

def ofKind (page : Page) (kind : Kind) : List String :=
  page.convos.keys.filter fun id => (page.convos.lookup id).map (·.kind) = some kind

def units (text : String) : List Nat :=
  text.toList.flatMap fun char =>
    if char.toNat < 0x10000 then [char.toNat]
    else [0xd800 + (char.toNat - 0x10000) / 0x400, 0xdc00 + (char.toNat - 0x10000) % 0x400]

/-- The order of `sort`. -/
def sorted : List Nat → List Nat → Bool
  | [], _ => true
  | _ :: _, [] => false
  | first :: rest, second :: others =>
      Nat.blt first second || (Nat.beq first second && sorted rest others)

/-- The roster, and the chats that are not in it. -/
def jids (page : Page) : List String :=
  (page.roster.keys ++ (ofKind page .chat).filter (· ∉ page.roster.keys)).mergeSort
    fun first second => sorted (units first) (units second)

def listed (page : Page) : Side → List String
  | .contacts => jids page
  | .rooms => ofKind page .muc

def nameOf (page : Page) (jid : String) : String :=
  match page.roster.lookup jid with
  | some entry => if entry.name = "" then jid else entry.name
  | none => jid

def roomName (page : Page) (id : String) : String :=
  ((page.convos.lookup id).map (·.name)).getD ""

def rowOf (page : Page) : Side → String → Row
  | .contacts, jid => liFor page jid (nameOf page jid) (some (presenceOf page jid))
  | .rooms, id => liFor page id (roomName page id) none

/-- `renderContacts` and `renderRooms` -/
def render (page : Page) (side : Side) : List Row := (listed page side).map (rowOf page side)

def draws (page : Page) (action : Screen.Action) : List Side :=
  if Panes.renders page action = Panes.everything then [.contacts, .rooms]
  else
    match action with
    | .frame _ (.message _) => [.contacts]
    | .frame _ (.mucMessage _ _ _ _ _ _ _) => [.rooms]
    | .frame _ (.mucJoined (.str _) _ _) => [.rooms]
    | _ => []

structure State where
  screen : Screen.State
  drawn : Side → List Row

def start (preference : Option String) : State := ⟨Screen.start preference, fun _ => []⟩

def redraw (state : State) (action : Screen.Action) (next : Screen.State) : State where
  screen := next
  drawn := fun side =>
    if side ∈ draws state.screen.page action then render next.page side else state.drawn side

/-- There is no step where `renderContacts` could raise. -/
def step (state : State) (action : Screen.Action) : Option State :=
  if Screen.NamesText action then (Screen.step state.screen action).map (redraw state action)
  else none

def HasRow (page : Page) (side : Side) (id : String) : Prop :=
  side = .contacts ∧ id ∈ page.roster.keys ∨
    (page.convos.lookup id).map (·.kind) = some (kindOf side)

instance (page : Page) (side : Side) (id : String) : Decidable (HasRow page side id) :=
  inferInstanceAs (Decidable (side = .contacts ∧ id ∈ page.roster.keys ∨
    (page.convos.lookup id).map (·.kind) = some (kindOf side)))

def appears (page : Page) (side : Side) (kind : Kind) (id : String) : Bool :=
  page.convos.lookup id = none ∧ kind = kindOf side ∧ ¬HasRow page side id

def disturbs (page : Page) (side : Side) : Screen.Action → Bool
  | .frame _ (.history (.str id) _ _) => appears page side .chat id
  | .frame _ (.mucOccupants (.str room) _) => appears page side .muc room
  | .frame _ (.mucPresence room _ _) => appears page side .muc room
  | .frame _ frame => (rings page frame).any fun ring => HasRow page side ring.1
  | _ => false

inductive Mark
  | drawn
  | disturbed
  deriving DecidableEq

def marks (side : Side) (screen : Screen.State) (action : Screen.Action) : List Mark :=
  if side ∈ draws screen.page action then [.drawn]
  else if disturbs screen.page side action then [.disturbed]
  else []

section Rows

variable {rows now next : List Row}

/-- A row is missing, or its badge is too low. -/
def Lags (rows now : List Row) : Prop :=
  ∃ row ∈ now, ∀ old ∈ rows, old.id = row.id → old.badge < row.badge

/-- No row goes, and no badge is lowered. -/
def Grows (now next : List Row) : Prop :=
  ∀ row ∈ now, ∃ later ∈ next, later.id = row.id ∧ row.badge ≤ later.badge

theorem Lags.ne (lags : Lags rows now) : rows ≠ now := by
  rintro rfl
  obtain ⟨row, member, behind⟩ := lags
  exact Nat.lt_irrefl _ (behind row member rfl)

theorem Lags.grows (lags : Lags rows now) (grows : Grows now next) : Lags rows next := by
  obtain ⟨row, member, behind⟩ := lags
  obtain ⟨later, stays, same, more⟩ := grows row member
  refine ⟨later, stays, ?_⟩
  intro old before other
  exact Nat.lt_of_lt_of_le (behind old before (other.trans same)) more

end Rows

section Pages

variable {page next : Page} {side : Side} {id : String}

@[simp] theorem row_id : (rowOf page side id).id = id := by
  cases side
  all_goals rfl

@[simp] theorem row_badge : (rowOf page side id).badge = unread page id := by
  cases side
  all_goals rfl

theorem mem_of_kind {kind : Kind} :
    id ∈ ofKind page kind ↔ (page.convos.lookup id).map (·.kind) = some kind := by
  rw [ofKind, List.mem_filter, decide_eq_true_iff]
  constructor
  · exact fun both => both.2
  · intro found
    obtain ⟨convo, present, _⟩ := Option.map_eq_some_iff.mp found
    exact ⟨(Dict.mem_keys_iff ..).mpr ⟨convo, present⟩, found⟩

theorem mem_listed : id ∈ listed page side ↔ HasRow page side id := by
  unfold HasRow
  cases side with
  | contacts =>
      simp only [listed, jids, List.mem_mergeSort, List.mem_append, List.mem_filter, mem_of_kind,
        decide_eq_true_iff, true_and, kindOf]
      tauto
  | rooms => simp [listed, mem_of_kind, kindOf]

theorem grows_of (stays : ∀ id ∈ listed page side, id ∈ listed next side)
    (more : ∀ id, unread page id ≤ unread next id) : Grows (render page side) (render next side) := by
  intro row member
  obtain ⟨id, here, rfl⟩ := List.mem_map.mp member
  refine ⟨rowOf next side id, List.mem_map_of_mem (stays id here), ?_⟩
  rw [row_id, row_id, row_badge, row_badge]
  exact ⟨rfl, more id⟩

theorem lags_of (here : id ∈ listed next side)
    (behind : id ∈ listed page side → unread page id < unread next id) :
    Lags (render page side) (render next side) := by
  refine ⟨rowOf next side id, List.mem_map_of_mem here, ?_⟩
  intro old member same
  obtain ⟨other, shown, rfl⟩ := List.mem_map.mp member
  rw [row_id, row_id] at same
  subst same
  rw [row_badge, row_badge]
  exact behind shown

end Pages

section Changes

variable {page : Page} {side : Side} {id name : String} {kind : Kind} {assigned : Convo → Convo}

theorem kind_change (kept : ∀ convo, (assigned convo).kind = convo.kind) (other : String) :
    ((change page id kind name assigned).convos.lookup other).map (·.kind) =
      if other = id then some (((page.convos.lookup id).map (·.kind)).getD kind)
      else (page.convos.lookup other).map (·.kind) := by
  rw [lookup_change]
  split_ifs
  · rw [Option.map_some, kept]
    cases page.convos.lookup id with
    | none => rfl
    | some convo => rfl
  · rfl

theorem mem_listed_change (kept : ∀ convo, (assigned convo).kind = convo.kind) (other : String) :
    other ∈ listed (change page id kind name assigned) side ↔
      other ∈ listed page side ∨ other = id ∧ page.convos.lookup id = none ∧ kind = kindOf side := by
  rw [mem_listed, mem_listed, HasRow, HasRow, kind_change kept]
  have roster : (change page id kind name assigned).roster = page.roster := rfl
  rw [roster]
  by_cases own : other = id
  · subst own
    cases found : page.convos.lookup other with
    | none => simp
    | some convo => simp
  · simp [own]

theorem grows_change (kept : ∀ convo, (assigned convo).kind = convo.kind)
    (more : ∀ convo, convo.unread ≤ (assigned convo).unread) :
    Grows (render page side) (render (change page id kind name assigned) side) := by
  apply grows_of
  · intro other here
    exact (mem_listed_change kept other).mpr (.inl here)
  · intro other
    rw [unread_change]
    split_ifs with own
    · rw [own, ← unread_default page id name kind]
      exact more _
    · exact Nat.le_refl _

theorem lags_of_appears (kept : ∀ convo, (assigned convo).kind = convo.kind)
    (new : appears page side kind id = true) :
    Lags (render page side) (render (change page id kind name assigned) side) := by
  obtain ⟨absent, own, unlisted⟩ := of_decide_eq_true new
  apply lags_of
  · exact (mem_listed_change kept id).mpr (.inr ⟨rfl, absent, own⟩)
  · intro here
    exact absurd (mem_listed.mp here) unlisted

theorem of_kind_change (kept : ∀ convo, (assigned convo).kind = convo.kind) (listedKind : Kind) :
    ofKind (change page id kind name assigned) listedKind =
      ofKind page listedKind ++
        if page.convos.lookup id = none ∧ kind = listedKind then [id] else [] := by
  have kinds : ∀ other, other ≠ id →
      ((change page id kind name assigned).convos.lookup other).map (·.kind) =
        (page.convos.lookup other).map (·.kind) := by
    intro other apart
    rw [kind_change kept, if_neg apart]
  have keys : (change page id kind name assigned).convos.keys =
      if id ∈ page.convos.keys then page.convos.keys else page.convos.keys ++ [id] :=
    Dict.keys_set_item ..
  rw [ofKind, ofKind, keys]
  by_cases present : id ∈ page.convos.keys
  · obtain ⟨convo, found⟩ := (Dict.mem_keys_iff ..).mp present
    rw [if_pos present, if_neg (by simp [found]), List.append_nil]
    apply List.filter_congr
    intro other _
    rw [kind_change kept]
    split_ifs with own
    · rw [own, found]
      rfl
    · rfl
  · have absent : page.convos.lookup id = none := (Dict.lookup_none_iff ..).mpr present
    rw [if_neg present, List.filter_append]
    congr 1
    · apply List.filter_congr
      intro other member
      rw [kinds other (fun own => present (own ▸ member))]
    · rw [List.filter_singleton, kind_change kept, if_pos rfl, absent]
      by_cases own : kind = listedKind
      · simp [own]
      · simp [own]

theorem listed_change (kept : ∀ convo, (assigned convo).kind = convo.kind)
    (old : appears page side kind id = false) :
    listed (change page id kind name assigned) side = listed page side := by
  have known : ¬(page.convos.lookup id = none ∧ kind = kindOf side ∧ ¬HasRow page side id) :=
    of_decide_eq_false old
  cases side with
  | rooms =>
      have none : ¬(page.convos.lookup id = none ∧ kind = .muc) := by
        rintro ⟨absent, own⟩
        refine known ⟨absent, own, ?_⟩
        rw [HasRow, absent]
        simp
      simp only [listed, of_kind_change kept, if_neg none, List.append_nil]
  | contacts =>
      have roster : (change page id kind name assigned).roster = page.roster := rfl
      simp only [listed, jids, roster, of_kind_change kept]
      split_ifs with new
      · have inRoster : id ∈ page.roster.keys := by
          have here : HasRow page .contacts id := by
            by_contra unlisted
            exact known ⟨new.1, new.2, unlisted⟩
          rw [HasRow, new.1] at here
          simpa using here
        rw [List.filter_append]
        simp [inRoster]
      · rw [List.append_nil]

theorem render_change (kept : ∀ convo, (assigned convo).kind = convo.kind)
    (unreads : ∀ other ∈ listed page side,
      unread (change page id kind name assigned) other = unread page other)
    (names : side = .rooms → ∀ convo, (assigned convo).name = convo.name)
    (old : appears page side kind id = false) :
    render (change page id kind name assigned) side = render page side := by
  rw [render, render, listed_change kept old]
  apply List.map_congr_left
  intro other here
  cases side with
  | contacts =>
      simp only [rowOf, liFor, unreads other here]
      rfl
  | rooms =>
      have named : roomName (change page id kind name assigned) other = roomName page other := by
        rw [roomName, lookup_change]
        split_ifs with own
        · subst own
          rw [mem_listed, HasRow] at here
          obtain ⟨convo, found, _⟩ : ∃ convo, page.convos.lookup other = some convo ∧
              convo.kind = kindOf .rooms := by simpa using here
          rw [roomName, found, Option.getD_some, Option.map_some, Option.map_some, names rfl]
        · rfl
      simp only [rowOf, liFor, unreads other here, named]
      rfl

end Changes

section Frames

variable {page middle next : Page} {side : Side} {disturbed : Bool}

/-- What an event that does not draw a list does to what the list should show. -/
structure Follows (page next : Page) (side : Side) (disturbed : Bool) : Prop where
  grows : Grows (render page side) (render next side)
  lags : disturbed = true → Lags (render page side) (render next side)
  quiet : disturbed = false → render next side = render page side

theorem follows_same (same : render next side = render page side) : Follows page next side false where
  grows := by
    rw [same]
    exact fun row member => ⟨row, member, rfl, Nat.le_refl _⟩
  lags := fun other => by cases other
  quiet := fun _ => same

theorem Follows.beside (follows : Follows middle next side disturbed)
    (same : render middle side = render page side) : Follows page next side disturbed := by
  obtain ⟨grows, lags, quiet⟩ := follows
  rw [same] at grows lags quiet
  exact ⟨grows, lags, quiet⟩

theorem follows_change {id name : String} {kind : Kind} {assigned : Convo → Convo}
    (kept : ∀ convo, (assigned convo).kind = convo.kind)
    (unreads : ∀ convo, (assigned convo).unread = convo.unread)
    (names : side = .rooms → ∀ convo, (assigned convo).name = convo.name) :
    Follows page (change page id kind name assigned) side (appears page side kind id) where
  grows := grows_change kept fun convo => Nat.le_of_eq (unreads convo).symm
  lags := lags_of_appears kept
  quiet := render_change kept (fun other _ => unread_kept page unreads other) names

theorem appears_of_known {kind : Kind} {id : String} (known : (page.convos.lookup id).isSome) :
    appears page side kind id = false := by
  obtain ⟨convo, found⟩ := Option.isSome_iff_exists.mp known
  simp [appears, found]

theorem appears_of_other {kind : Kind} {id : String} (other : kind ≠ kindOf side) :
    appears page side kind id = false := by
  simp [appears, other]

theorem follows_bump {id : String} (known : (page.convos.lookup id).isSome) :
    Follows page (bump page id) side (decide (HasRow page side id ∧ unseen page id = true)) := by
  rcases Panes.bump_cases page id with same | raised
  · by_cases rung : HasRow page side id ∧ unseen page id = true
    · have more := unread_bump page id id known
      rw [same, if_pos ⟨rfl, rung.2⟩] at more
      omega
    · rw [decide_eq_false rung, same]
      exact follows_same rfl
  · have lists : listed (bump page id) side = listed page side := by
      rw [raised]
      exact listed_change (fun _ => rfl) (appears_of_known known)
    have grows : Grows (render page side) (render (bump page id) side) := by
      rw [raised]
      exact grows_change (fun _ => rfl) fun convo => Nat.le_succ _
    refine ⟨grows, fun rung => ?_, fun quiet => ?_⟩
    · obtain ⟨here, nobody⟩ := of_decide_eq_true rung
      apply lags_of (lists.symm ▸ mem_listed.mpr here)
      intro _
      rw [unread_bump page id id known, if_pos ⟨rfl, nobody⟩]
      exact Nat.lt_succ_self _
    · have unreads : ∀ other ∈ listed page side, unread (bump page id) other = unread page other := by
        intro other here
        rw [unread_bump page other id known, if_neg, Nat.add_zero]
        rintro ⟨rfl, nobody⟩
        exact of_decide_eq_false quiet ⟨mem_listed.mp here, nobody⟩
      rw [raised] at unreads ⊢
      exact render_change (fun _ => rfl) unreads (fun _ _ => rfl) (appears_of_known known)

theorem unseen_change {id name other : String} {kind : Kind} {assigned : Convo → Convo} :
    unseen (change page id kind name assigned) other = unseen page other := rfl

theorem follows_filed {id : String} {kind : Kind} (entry : Entry) (rung : Bool)
    (other : kind ≠ kindOf side) :
    Follows page
      (if rung then bump (change page id kind id (pushed entry)) id
        else change page id kind id (pushed entry)) side
      (decide (rung = true ∧ HasRow page side id ∧ unseen page id = true)) := by
  have old : appears page side kind id = false := appears_of_other other
  have unreads : ∀ convo, (pushed entry convo).unread = convo.unread := fun _ => rfl
  have same : render (change page id kind id (pushed entry)) side = render page side :=
    render_change (fun _ => rfl) (fun other _ => unread_kept page unreads other) (fun _ _ => rfl) old
  cases rung with
  | false => exact follows_same same
  | true =>
      have known : ((change page id kind id (pushed entry)).convos.lookup id).isSome := by
        rw [lookup_change, if_pos rfl]
        rfl
      have rows : HasRow (change page id kind id (pushed entry)) side id ↔ HasRow page side id := by
        have lists : listed (change page id kind id (pushed entry)) side = listed page side :=
          listed_change (fun _ => rfl) old
        rw [← mem_listed, ← mem_listed, lists]
      have rings := @follows_bump (change page id kind id (pushed entry)) side id known
      rw [unseen_change] at rings
      simp only [rows] at rings
      simpa using rings.beside same

theorem message_drawn {socket : Nat} {message : ChatMessage} :
    Side.contacts ∈ draws page (.frame socket (.message message)) := by
  unfold draws
  split_ifs
  all_goals simp

theorem room_message_drawn {socket : Nat} {room nick body msgId timestamp : String}
    {isSelf mentionsMe : Bool} : Side.rooms ∈ draws page
      (.frame socket (.mucMessage room nick body msgId timestamp isSelf mentionsMe)) := by
  unfold draws
  split_ifs
  all_goals simp

theorem joined_drawn {socket : Nat} {room : String} {nick : Json} {subject : Option String} :
    Side.rooms ∈ draws page (.frame socket (.mucJoined (.str room) nick subject)) := by
  unfold draws
  split_ifs
  all_goals simp

theorem all_drawn {action : Screen.Action} (all : Panes.renders page action = Panes.everything) :
    side ∈ draws page action := by
  unfold draws
  rw [if_pos all]
  cases side
  all_goals simp

/-- A frame that draws only the other list files a message there, which may ring here. -/
theorem frame_follows {socket : Nat} {frame : Frame}
    (undrawn : side ∉ draws page (.frame socket frame)) :
    Follows page (Browser.handleFrame page frame).1 side
      (disturbs page side (.frame socket frame)) := by
  cases frame with
  | roster => exact absurd (all_drawn rfl) undrawn
  | presence => exact absurd (all_drawn rfl) undrawn
  | mucLeft => exact absurd (all_drawn rfl) undrawn
  | message message =>
      cases side with
      | contacts => exact absurd message_drawn undrawn
      | rooms =>
          cases conversation : message.conversation with
          | str id =>
              have filed := @follows_filed page .rooms id .chat (chatEntry page message)
                (decide (message.direction = .incoming)) (by decide)
              have rung : disturbs page .rooms (.frame socket (.message message)) =
                  decide (message.direction = .incoming ∧ HasRow page .rooms id ∧
                    unseen page id = true) := by
                simp only [disturbs, rings, conversation]
                by_cases incoming : message.direction = .incoming
                · by_cases nobody : unseen page id = true
                  · simp [incoming, nobody]
                  · simp [incoming, nobody]
                · simp [incoming]
              rw [rung]
              simpa [Browser.handleFrame, conversation] using filed
          | _ =>
              simp only [Browser.handleFrame, disturbs, rings, conversation]
              exact follows_same rfl
  | mucMessage room nick body msgId timestamp isSelf mentionsMe =>
      cases side with
      | rooms => exact absurd room_message_drawn undrawn
      | contacts =>
          have filed := @follows_filed page .contacts room .muc
            (.room nick body timestamp isSelf msgId mentionsMe) (!isSelf) (by decide)
          have rung : disturbs page .contacts
              (.frame socket (.mucMessage room nick body msgId timestamp isSelf mentionsMe)) =
                decide (isSelf = false ∧ HasRow page .contacts room ∧ unseen page room = true) := by
            simp only [disturbs, rings]
            cases isSelf
            · by_cases nobody : unseen page room = true
              · simp [nobody]
              · simp [nobody]
            · simp
          rw [rung]
          cases isSelf
          all_goals simpa [Browser.handleFrame] using filed
  | history conversation messages complete =>
      cases conversation with
      | str id => exact follows_change (fun _ => rfl) (fun _ => rfl) fun _ _ => rfl
      | _ => exact follows_same rfl
  | mucJoined room nick subject =>
      cases room with
      | str room =>
          have handled : Browser.handleFrame page (.mucJoined (.str room) nick subject) =
              joined page room := rfl
          rw [handled, Screen.joined_eq]
          by_cases opens : opensRoom page
          · refine absurd (all_drawn ?_) undrawn
            exact if_pos opens
          · rw [if_neg opens]
            cases side with
            | rooms => exact absurd joined_drawn undrawn
            | contacts =>
                have old : appears page .contacts .muc room = false := appears_of_other (by decide)
                have filed : Follows page (entered page room) .contacts
                    (appears page .contacts .muc room) :=
                  follows_change (fun _ => rfl) (fun _ => rfl) fun other => by cases other
                rw [old] at filed
                exact filed
      | _ => exact follows_same rfl
  | mucOccupants room occupants =>
      cases room with
      | str room =>
          exact (follows_change (fun _ => rfl) (fun _ => rfl) fun _ _ => rfl :
            Follows page (change page room .muc room fun convo => { convo with occupants := occupants })
              side (appears page side .muc room))
      | _ => exact follows_same rfl
  | mucPresence room nick joined =>
      exact follows_change (fun _ => rfl) (fun _ => rfl) fun _ _ => rfl
  | error context message conversation =>
      rcases conversation with _ | conversation
      · exact follows_same rfl
      · cases conversation with
        | str other =>
            simp only [Browser.handleFrame]
            split_ifs with known
            · have filed : Follows page (change page other .chat other (pushed (.warning message)))
                  side (appears page side .chat other) :=
                follows_change (fun _ => rfl) (fun _ => rfl) fun _ _ => rfl
              rw [appears_of_known known.2] at filed
              exact filed
            · exact follows_same rfl
        | _ => exact follows_same rfl
  | _ => exact follows_same rfl

end Frames

section Runs

variable {screen next : Screen.State} {state after : State} {side : Side}
  {action : Screen.Action}

theorem event_follows (undrawn : side ∉ draws screen.page action)
    (fired : Screen.step screen action = some next) :
    Follows screen.page next.page side (disturbs screen.page side action) := by
  rcases Screen.page_cases fired with ⟨gesture, rfl, acts⟩ | ⟨socket, frame, rfl, rfl⟩ | ⟨apart, same⟩
  · cases acts with
    | opens => exact absurd (all_drawn rfl) undrawn
    | adds filled =>
        refine absurd (all_drawn ?_) undrawn
        exact if_neg filled
    | removes => exact absurd (all_drawn rfl) undrawn
    | focuses active known =>
        obtain ⟨convo, found⟩ := Option.isSome_iff_exists.mp known
        refine absurd (all_drawn ?_) undrawn
        rw [Panes.renders, Panes.current_eq active, found]
        rfl
    | loadsOlder =>
        rw [Screen.page_send_all]
        exact follows_same rfl
    | hides =>
        apply follows_same
        cases side
        all_goals rfl
    | _ => exact follows_same rfl
  · rw [Screen.page_frame]
    exact frame_follows undrawn
  · rw [same]
    cases action with
    | frame socket frame => exact absurd rfl (apart socket frame)
    | _ => exact follows_same rfl

theorem step_screen (state : State) (named : Screen.NamesText action) :
    (step state action).map State.screen = Screen.step state.screen action := by
  rw [step, if_pos named, Option.map_map]
  exact Option.map_id' ..

/-- A list is right or lags, by what happened to it last. -/
structure Settled (side : Side) (state : State) (marked : List Mark) : Prop where
  right : marked.getLast? ≠ some .disturbed → state.drawn side = render state.screen.page side
  lags : marked.getLast? = some .disturbed → Lags (state.drawn side) (render state.screen.page side)

theorem settled_start (preference : Option String) : Settled side (start preference) [] where
  right := by
    intro _
    cases side
    all_goals simp [start, render, listed, jids, ofKind, Screen.start, blank, Dict.keys, Dict.empty]
  lags := fun disturbed => by cases disturbed

theorem settled_step {marked : List Mark} (settled : Settled side state marked)
    (fired : step state action = some after) :
    Settled side after (marked ++ marks side state.screen action) := by
  obtain ⟨next, moved, same⟩ :=
    Option.map_eq_some_iff.mp (Option.ite_none_right_eq_some.mp fired).2
  have screen : after.screen = next := by rw [← same]; rfl
  by_cases drawn : side ∈ draws state.screen.page action
  · rw [marks, if_pos drawn]
    refine ⟨fun _ => ?_, fun disturbed => ?_⟩
    · rw [← same]
      exact if_pos drawn
    · simp at disturbed
  · have left : after.drawn side = state.drawn side := by
      rw [← same]
      exact if_neg drawn
    have follows := event_follows drawn moved
    have still : marked.getLast? = some .disturbed →
        Lags (state.drawn side) (render next.page side) :=
      fun last => (settled.lags last).grows follows.grows
    by_cases disturbed : disturbs state.screen.page side action = true
    · rw [marks, if_neg drawn, if_pos disturbed]
      refine ⟨fun other => absurd (by simp) other, fun _ => ?_⟩
      rw [left, screen]
      by_cases last : marked.getLast? = some .disturbed
      · exact still last
      · rw [settled.right last]
        exact follows.lags disturbed
    · rw [marks, if_neg drawn, if_neg disturbed, List.append_nil]
      constructor
      · intro last
        rw [left, screen, settled.right last]
        exact (follows.quiet (by simpa using disturbed)).symm
      · intro last
        rw [left, screen]
        exact still last

/-- In every run of a tab whose frames name conversations by texts the list of contacts and the
list of rooms are what the state has now, if and only if nothing has disturbed them since they
were drawn: a conversation that a history page, a list of members or a notice adds, or a message
that rings for a conversation of the other list. -/
theorem lists_follow_iff (preference : Option String) (actions : List Screen.Action)
    (named : ∀ action ∈ actions, Screen.NamesText action) (screen : Screen.State)
    (run : replay Screen.step (Screen.start preference) actions = some screen) :
    ∃ drawn, replay step (start preference) actions = some ⟨screen, drawn⟩ ∧
      ∀ side, drawn side = render screen.page side ↔
        (collect Screen.step (marks side) (Screen.start preference) actions).getLast? ≠
          some .disturbed := by
  have viewed : ∀ state, ∀ action ∈ actions,
      (step state action).map State.screen = Screen.step state.screen action :=
    fun state action among => step_screen state (named action among)
  have drawing := (replay_view viewed (start preference)).trans run
  obtain ⟨⟨_, drawn⟩, runs, rfl⟩ := Option.map_eq_some_iff.mp drawing
  refine ⟨drawn, runs, ?_⟩
  intro side
  have settled := @collect_invariant _ _ _ step (fun state => marks side state.screen)
    (Settled side) (fun _ _ _ _ settled fired => settled_step settled fired) _ _ _ []
    (settled_start preference) runs
  rw [List.nil_append, collect_view viewed] at settled
  constructor
  · intro shown disturbed
    exact (settled.lags disturbed).ne shown
  · exact settled.right

/-- The user opens a chat and removes the contact before its first page arrives. -/
def removesBob : List Screen.Action :=
  [.opens 0, .gesture (.adds (some "bob@example.com")), .gesture (.removes "bob@example.com"),
    .frame 0 (.history (.str "bob@example.com") [] true)]

def bobsTab : Screen.State := (replay Screen.step (Screen.start none) removesBob).getD (Screen.start none)

theorem bob_has_no_row : ∃ drawn, replay step (start none) removesBob = some ⟨bobsTab, drawn⟩ ∧
    drawn .contacts ≠ render bobsTab.page .contacts ∧ drawn .rooms = render bobsTab.page .rooms := by
  obtain ⟨drawn, runs, right⟩ := lists_follow_iff none removesBob (by decide) bobsTab rfl
  have disturbed : (collect Screen.step (marks .contacts) (Screen.start none) removesBob).getLast? =
      some .disturbed := by
    decide
  refine ⟨drawn, runs, fun shown => (right .contacts).mp shown disturbed, (right .rooms).mpr ?_⟩
  decide

end Runs

end PyConduit.Sidebar
