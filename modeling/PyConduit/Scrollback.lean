import Mathlib.Data.List.Flatten
import PyConduit.RoomTalk

/-!
# The messages that a conversation lists

A tab lists the messages with one peer: live ones are appended, and a page of the archive
is put in front of whatever the list is by then. Requests for pages are answered at any
time and in any order, and what is sent to the tab may overtake. A message is stored in
the archive before the tab is told of it; a message that another client of the user sent
is only stored. `shown` keeps the ids that the listed messages have in the archive.
-/

namespace PyConduit.Scrollback

open Protocol Replay Commands GuardedRun Browser
open History (Archive ArchivedMessage fetchHistory serve)
open Conversations (MessageStanza onMessage)
open RoomTalk (concluded)

set_option autoImplicit false

/-- What is on its way to the tab; the id of a live message is the one of the archive. -/
inductive Coming
  | live (id : String) (message : ChatMessage)
  | page (messages : List ChatMessage) (complete : Bool)

def Coming.liveIds : Coming → List String
  | .live id _ => [id]
  | .page _ _ => []

def Coming.pageIds : Coming → List String
  | .live _ _ => []
  | .page messages _ => messages.map (·.msgId)

structure System where
  archive : Archive
  page : Page
  asked : List Request
  coming : List Coming
  shown : List String

def start (archive : Archive) : System := ⟨archive, blank, [], [], []⟩

inductive Action
  | opens (id : String)
  | loadsOlder
  | hides (hidden : Bool)
  | receives (stanza : MessageStanza) (id stamp newId now : String)
  | sends (body id stamp msgId now : String)
  | stores (stored : History.Entry)
  | serves (position : Nat) (now : String)
  | arrives (position : Nat)
  | elsewhere (frame : Frame)

def ids (archive : Archive) : List String := archive.entries.map (·.id)

def extended (archive : Archive) (stored : History.Entry) (named : stored.id ≠ "")
    (fresh : stored.id ∉ ids archive) : Archive where
  entries := archive.entries ++ [stored]
  distinct := by
    rw [List.map_append, List.nodup_append]
    refine ⟨archive.distinct, List.nodup_singleton _, ?_⟩
    rintro id member other last rfl
    rw [List.map_singleton, List.mem_singleton] at last
    exact fresh (last ▸ member)
  named := by
    intro entry member
    rcases List.mem_append.mp member with earlier | last
    · exact archive.named entry earlier
    · rw [List.mem_singleton.mp last]
      exact named

def store (system : System) (stored : History.Entry) (live : Option ChatMessage) :
    Option System :=
  if fresh : stored.id ≠ "" ∧ stored.id ∉ ids system.archive then
    some { system with
      archive := extended system.archive stored fresh.1 fresh.2
      coming := system.coming ++ (live.map (Coming.live stored.id)).toList }
  else none

def carried : Option Frame → Option ChatMessage
  | some (.message message) => some message
  | _ => none

def cursor : Json → Option String
  | .str id => some id
  | _ => none

def archiveAnswers (archive : Archive) :
    (operation : Operation) → Except String operation.Value
  | .fetchHistory _ before limit =>
      .ok (fetchHistory "" (serve archive) (cursor before) limit.toNat)
  | _ => .error ""

def named : Frame → Option String
  | .message ⟨.str id, _, _, _, _, _, _⟩ => some id
  | .history (.str id) _ _ => some id
  | .mucJoined (.str room) _ _ => some room
  | .mucLeft (.str room) => some room
  | .mucMessage room _ _ _ _ _ _ => some room
  | .mucOccupants (.str room) _ => some room
  | .mucPresence room _ _ => some room
  | .error _ _ (some (.str id)) => some id
  | _ => none

def conversation (page : Page) (peer : String) : Convo :=
  (page.convos.lookup peer).getD (added .chat peer)

section Machine

variable (env : Env) (peer : String)

def Coming.frame : Coming → Frame
  | .live _ message => .message message
  | .page messages complete => .history (.str peer) messages complete

def step (system : System) : Action → Option System
  | .opens id =>
      let opened := setActive system.page id
      some { system with page := opened.1, asked := system.asked ++ opened.2 }
  | .loadsOlder =>
      if offersOlder system.page then
        some { system with asked := system.asked ++ loadOlder system.page }
      else none
  | .hides hidden => some { system with page := { system.page with hidden := hidden } }
  | .receives stanza id stamp newId now =>
      if stanza.sender.bare = peer ∧ (stanza.kind = "chat" ∨ stanza.kind = "normal") then
        store system ⟨id, stanza.sender.bare, stanza.recipient.bare, stanza.body, stamp⟩
          (carried ((onMessage newId now stanza).bind eventFrame))
      else none
  | .sends body id stamp msgId now =>
      store system ⟨id, env.jid, peer, body, stamp⟩
        (carried (afterSendMessage env (.str peer) (.str body) (.ok msgId) now).frame)
  | .stores stored => store system stored none
  | .serves position now =>
      match system.asked[position]? with
      | some (.loadHistory jid before) =>
          if jid = peer then
            let rest := { system with asked := system.asked.eraseIdx position }
            match concluded env empty (.loadHistory jid before)
              (archiveAnswers system.archive) now with
            | .reply (.history _ messages complete) =>
                some { rest with coming := system.coming ++ [.page messages complete] }
            | _ => some rest
          else none
      | _ => none
  | .arrives position =>
      system.coming[position]?.map fun coming =>
        let handled := handleFrame system.page (coming.frame peer)
        { system with
          page := handled.1
          asked := system.asked ++ handled.2
          coming := system.coming.eraseIdx position
          shown := coming.pageIds ++ (system.shown ++ coming.liveIds) }
  | .elsewhere frame =>
      if named frame = some peer then none
      else
        let handled := handleFrame system.page frame
        some { system with page := handled.1, asked := system.asked ++ handled.2 }

def served (archive : Archive) (before : Option String) : List ArchivedMessage × Bool :=
  fetchHistory "" (serve archive) before env.config.pageSize.toNat

/-- A page with messages is served only while none is on its way, for the id that is
still the oldest one and, for none, while nothing is listed or on its way; live messages
do not overtake one another. -/
def InTurn (system : System) : Action → Prop
  | .serves position _ =>
      ∀ before, system.asked[position]? = some (.loadHistory peer before) →
        (served env system.archive before).1 ≠ [] →
          (∀ coming ∈ system.coming, coming.pageIds = []) ∧
          before = (conversation system.page peer).oldestId ∧
          (before = none → (conversation system.page peer).messages = [] ∧
            ∀ coming ∈ system.coming, coming.liveIds = [])
  | .arrives position =>
      ∀ id message, system.coming[position]? = some (.live id message) →
        ∀ earlier ∈ system.coming.take position, earlier.liveIds = []
  | _ => True

def Displays (archive : Archive) (id : String) (entry : Browser.Entry) : Prop :=
  ∃ stored ∈ archive.entries, stored.id = id ∧
    ∃ author timestamp direction msgId,
      entry = .chat author (.str stored.body) timestamp direction msgId

/-- No message is listed twice, and all in the order of the archive. -/
structure ListedInOrder (system : System) : Prop where
  lists : List.Forall₂ (Displays system.archive) system.shown
    (conversation system.page peer).messages
  once : system.shown.Nodup
  chronological : system.shown.Sublist (ids system.archive)

end Machine

section Conversations

variable {peer : String}

theorem conversation_change (page : Page) (id name : String) (kind : Kind)
    (assigned : Convo → Convo) :
    conversation (change page id kind name assigned) peer =
      if peer = id then assigned ((page.convos.lookup id).getD (added kind name))
      else conversation page peer := by
  unfold conversation
  rw [lookup_change]
  split_ifs
  · rfl
  · rfl

structure Unread (peer : String) (before after : Page) : Prop where
  messages : (conversation after peer).messages = (conversation before peer).messages
  oldest : (conversation after peer).oldestId = (conversation before peer).oldestId

theorem Unread.trans {first second third : Page} (one : Unread peer first second)
    (two : Unread peer second third) : Unread peer first third :=
  ⟨two.messages.trans one.messages, two.oldest.trans one.oldest⟩

theorem unread_of_eq {before after : Page}
    (same : conversation after peer = conversation before peer) : Unread peer before after :=
  ⟨congrArg Convo.messages same, congrArg Convo.oldestId same⟩

theorem unread_change (page : Page) {id : String} (elsewhere : id ≠ peer) (kind : Kind)
    (name : String) (assigned : Convo → Convo) :
    Unread peer page (change page id kind name assigned) := by
  apply unread_of_eq
  rw [conversation_change, if_neg (Ne.symm elsewhere)]

theorem unread_set_active (page : Page) (id : String) :
    Unread peer page (setActive page id).1 := by
  have changed : conversation (setActive page id).1 peer =
      if peer = id then { conversation page id with unread := 0 } else conversation page peer :=
    conversation_change { page with active := some id } id id .chat _
  by_cases same : peer = id
  · subst same
    rw [if_pos rfl] at changed
    exact ⟨by rw [changed], by rw [changed]⟩
  · rw [if_neg same] at changed
    exact unread_of_eq changed

theorem unread_bump (page : Page) (id : String) : Unread peer page (bump page id) := by
  unfold bump
  split
  · next convo present =>
      split_ifs
      · exact unread_of_eq rfl
      · have changed : conversation { page with
              convos := page.convos.setItem id { convo with unread := convo.unread + 1 } } peer =
            if peer = id then { convo with unread := convo.unread + 1 }
            else conversation page peer := by
          unfold conversation
          dsimp only
          rw [Dict.lookup_set_item]
          split_ifs
          · rfl
          · rfl
        by_cases same : peer = id
        · subst same
          have before : conversation page peer = convo := by
            rw [conversation, present, Option.getD_some]
          rw [if_pos rfl] at changed
          exact ⟨by rw [changed, before], by rw [changed, before]⟩
        · rw [if_neg same] at changed
          exact unread_of_eq changed
  · exact unread_of_eq rfl

theorem unread_joined (page : Page) {room : String} (elsewhere : room ≠ peer) :
    Unread peer page (joined page room).1 := by
  have shown := unread_change page elsewhere .muc (Text.before '@' room)
    fun convo => { convo with name := Text.before '@' room }
  unfold joined
  dsimp only
  split_ifs
  · exact shown.trans (unread_set_active _ room)
  · exact shown

theorem unread_dropped (page : Page) {id : String} (elsewhere : id ≠ peer) :
    Unread peer page (dropped page id) := by
  apply unread_of_eq
  unfold conversation
  rw [lookup_dropped, if_neg (Ne.symm elsewhere)]

theorem unread_handle_frame (page : Page) {frame : Frame} (elsewhere : named frame ≠ some peer) :
    Unread peer page (handleFrame page frame).1 := by
  unfold handleFrame
  split
  · next message =>
      split
      · next id conversation =>
          have other : id ≠ peer := by
            rintro rfl
            cases message
            subst conversation
            exact elsewhere rfl
          have filed := unread_change page other .chat id (pushed (chatEntry page message))
          split_ifs
          · exact filed.trans (unread_bump _ id)
          · exact filed
      · exact unread_of_eq rfl
  · next conversation messages complete =>
      split
      · next id => exact unread_change page (fun same => elsewhere (congrArg some same)) ..
      · exact unread_of_eq rfl
  · exact unread_of_eq rfl
  · exact unread_of_eq rfl
  · exact unread_joined page fun same => elsewhere (congrArg some same)
  · exact unread_dropped page fun same => elsewhere (congrArg some same)
  · next room nick body msgId timestamp isSelf mentionsMe =>
      have filed := unread_change page (fun same => elsewhere (congrArg some same)) .muc room
        (pushed (.room nick body timestamp isSelf msgId mentionsMe))
      split_ifs
      · exact filed
      · exact filed.trans (unread_bump _ room)
  · next room occupants =>
      exact unread_change page (fun same => elsewhere (congrArg some same)) .muc room
        fun convo => { convo with occupants := occupants }
  · exact unread_change page (fun same => elsewhere (congrArg some same)) ..
  · split_ifs
    · exact unread_change page (fun same => elsewhere (congrArg some same)) ..
    · exact unread_of_eq rfl
  · exact unread_of_eq rfl

theorem handle_live (page : Page) {message : ChatMessage}
    (filed : message.conversation = .str peer) :
    (conversation (handleFrame page (.message message)).1 peer).messages =
        (conversation page peer).messages ++ [chatEntry page message] ∧
      (conversation (handleFrame page (.message message)).1 peer).oldestId =
        (conversation page peer).oldestId := by
  have changed : conversation (change page peer .chat peer (pushed (chatEntry page message))) peer =
      pushed (chatEntry page message) (conversation page peer) := by
    rw [conversation_change, if_pos rfl]
    rfl
  have appended : Unread peer
      (change page peer .chat peer (pushed (chatEntry page message)))
      (handleFrame page (.message message)).1 := by
    simp only [handleFrame, filed]
    split_ifs
    · exact unread_bump _ peer
    · exact unread_of_eq rfl
  exact ⟨appended.messages.trans (by rw [changed]; rfl), appended.oldest.trans (by rw [changed]; rfl)⟩

theorem handle_page (page : Page) (messages : List ChatMessage) (complete : Bool) :
    conversation (handleFrame page (.history (.str peer) messages complete)).1 peer =
      merged page messages complete (conversation page peer) := by
  have changed : conversation (change page peer .chat peer (merged page messages complete)) peer =
      _ := conversation_change page peer peer .chat (merged page messages complete)
  rw [if_pos rfl] at changed
  exact changed

end Conversations

section Pages

variable {env : Env} {peer : String} {archive : Archive}

theorem filter_map_ids (newId : String) {entries : List History.Entry}
    (named : ∀ entry ∈ entries, entry.id ≠ "") :
    (entries.filterMap (History.archived newId)).map (·.msgId) =
      (entries.filter History.hasBody).map (·.id) := by
  induction entries with
  | nil => rfl
  | cons entry rest induction =>
      have later := induction fun other member => named other (List.mem_cons_of_mem _ member)
      have isSome := History.archived_is_some newId entry
      cases found : History.archived newId entry with
      | none =>
          rw [found] at isSome
          rw [List.filterMap_cons_none found, List.filter_cons_of_neg (by simp [← isSome]), later]
      | some message =>
          rw [found] at isSome
          have sameId := History.archived_id newId (named entry (List.mem_cons_self ..)) found
          rw [List.filterMap_cons_some found, List.filter_cons_of_pos isSome.symm, List.map_cons,
            List.map_cons, later, sameId]

theorem served_ids_sublist {before : Option String} {older : List History.Entry}
    (stands : History.Stands archive before older) :
    ((served env archive before).1.map (·.msgId)).Sublist (older.map (·.id)) := by
  have inside : ∀ entry ∈ older, entry ∈ archive.entries := by
    intro entry member
    rcases stands with ⟨_, whole⟩ | ⟨last, newer, _, split⟩
    · exact whole ▸ member
    · rw [split]
      exact List.mem_append_left _ member
  have named : ∀ entry ∈ older.rtake env.config.pageSize.toNat, entry.id ≠ "" :=
    fun entry member => archive.named entry (inside entry (List.mem_of_mem_drop member))
  rw [served, History.fetch_of_stands "" (History.serve_serves archive) stands,
    filter_map_ids "" named]
  exact (List.filter_sublist.trans (List.drop_sublist _ _)).map _

/-- A message of a page is one of the archive. -/
theorem served_stored {before : Option String} {message : ArchivedMessage}
    (member : message ∈ (served env archive before).1) :
    ∃ stored ∈ archive.entries, stored.id = message.msgId ∧ message.body = stored.body := by
  obtain ⟨stored, among, found⟩ := List.mem_filterMap.mp member
  have preceding : stored ∈ archive.entries := by
    have inPage := List.mem_of_mem_drop among
    unfold History.preceding at inPage
    split at inPage
    · exact inPage
    · exact List.takeWhile_subset _ inPage
  refine ⟨stored, preceding, (History.archived_id "" (archive.named _ preceding) found).symm, ?_⟩
  unfold History.archived at found
  split_ifs at found
  all_goals
    cases found
    rfl

theorem concluded_page {before : Option String} {now : String} {filed : Json}
    {messages : List ChatMessage} {complete : Bool}
    (replied : concluded env empty (.loadHistory peer before) (archiveAnswers archive) now =
      .reply (.history filed messages complete)) :
    messages = (served env archive before).1.map (historyMessage env (.str peer)) := by
  rcases RoomTalk.concluded_load_history env empty peer before (archiveAnswers archive) now with
    ⟨exception, refused⟩ | answered
  · rw [refused] at replied
    cases replied
  · rw [answered] at replied
    cases before with
    | none =>
        cases replied
        rfl
    | some id =>
        cases replied
        rfl

/-- What comes after an entry of a list without repetition comes after it in every part of
the list that begins with it. -/
theorem sublist_from {id : String} {rest older newer : List String} (fresh : id ∉ older)
    (inside : (id :: rest).Sublist (older ++ id :: newer)) :
    (id :: rest).Sublist (id :: newer) := by
  induction older with
  | nil => exact inside
  | cons first older induction =>
      rw [List.mem_cons, not_or] at fresh
      cases inside with
      | cons _ later => exact induction fresh.2 later
      | cons_cons _ _ => exact absurd rfl fresh.1

theorem page_before_sublist {id : String} {rest : List String}
    (inside : (id :: rest).Sublist (ids archive)) :
    ((served env archive (some id)).1.map (·.msgId) ++ id :: rest).Sublist (ids archive) := by
  have stored : id ∈ archive.entries.map (·.id) := inside.subset (List.mem_cons_self ..)
  obtain ⟨entry, member, sameId⟩ := List.mem_map.mp stored
  obtain ⟨older, newer, split⟩ := List.append_of_mem member
  have whole : ids archive = older.map (·.id) ++ id :: newer.map (·.id) := by
    rw [ids, split, List.map_append, List.map_cons, sameId]
  have fresh : id ∉ older.map (·.id) := by
    have distinct : (ids archive).Nodup := archive.distinct
    rw [whole, List.nodup_append] at distinct
    exact fun early => distinct.2.2 id early id (List.mem_cons_self ..) rfl
  have page : ((served env archive (some id)).1.map (·.msgId)).Sublist (older.map (·.id)) :=
    served_ids_sublist (Or.inr ⟨entry, newer, by rw [sameId], split⟩)
  rw [whole] at inside ⊢
  exact page.append (sublist_from fresh inside)

end Pages

section Steps

variable {env : Env} {peer : String} {system next : System}

def Stored (archive : Archive) (id : String) (message : ChatMessage) : Prop :=
  ∃ stored ∈ archive.entries, stored.id = id ∧ message.body = .str stored.body

/-- What is listed and what is on its way are messages of the archive, under their ids. -/
structure Sourced (peer : String) (system : System) : Prop where
  lists : List.Forall₂ (Displays system.archive) system.shown
    (conversation system.page peer).messages
  live : ∀ id message, .live id message ∈ system.coming →
    message.conversation = .str peer ∧ Stored system.archive id message
  pages : ∀ messages complete, .page messages complete ∈ system.coming →
    ∀ message ∈ messages, Stored system.archive message.msgId message

theorem displays_of_stored {archive : Archive} {id : String} {message : ChatMessage}
    (stored : Stored archive id message) (page : Page) :
    Displays archive id (chatEntry page message) := by
  obtain ⟨entry, member, sameId, sameBody⟩ := stored
  refine ⟨entry, member, sameId, ?_⟩
  unfold chatEntry
  rw [sameBody]
  exact ⟨_, _, _, _, rfl⟩

theorem Sourced.unread (sourced : Sourced peer system) {page : Page}
    (same : Unread peer system.page page) (asked : List Request) :
    Sourced peer { system with page := page, asked := asked } where
  lists := by
    change List.Forall₂ _ system.shown (conversation page peer).messages
    rw [same.messages]
    exact sourced.lists
  live := sourced.live
  pages := sourced.pages

theorem store_cases {stored : History.Entry} {live : Option ChatMessage}
    (stores : store system stored live = some next) :
    ∃ (named : stored.id ≠ "") (fresh : stored.id ∉ ids system.archive),
      next = { system with
        archive := extended system.archive stored named fresh
        coming := system.coming ++ (live.map (Coming.live stored.id)).toList } := by
  obtain ⟨fresh, same⟩ := Option.dite_none_right_eq_some.mp stores
  cases same
  exact ⟨fresh.1, fresh.2, rfl⟩

theorem Sourced.store (sourced : Sourced peer system) {stored : History.Entry}
    {live : Option ChatMessage} (stores : store system stored live = some next)
    (tells : ∀ message, live = some message →
      message.conversation = .str peer ∧ message.body = .str stored.body) :
    Sourced peer next := by
  obtain ⟨named, fresh, rfl⟩ := store_cases stores
  have keeps : ∀ id message, Stored system.archive id message →
      Stored (extended system.archive stored named fresh) id message := by
    rintro id message ⟨entry, member, sameId, sameBody⟩
    exact ⟨entry, List.mem_append_left _ member, sameId, sameBody⟩
  refine ⟨?_, ?_, ?_⟩
  · apply sourced.lists.imp
    rintro id entry ⟨earlier, member, sameId, shows⟩
    exact ⟨earlier, List.mem_append_left _ member, sameId, shows⟩
  · intro id message member
    rcases List.mem_append.mp member with earlier | new
    · obtain ⟨filed, before⟩ := sourced.live id message earlier
      exact ⟨filed, keeps id message before⟩
    · rw [Option.mem_toList] at new
      obtain ⟨told, isLive, same⟩ := Option.map_eq_some_iff.mp new
      cases same
      obtain ⟨filed, sameBody⟩ := tells message isLive
      exact ⟨filed, stored, List.mem_append_right _ (List.mem_singleton_self _), rfl, sameBody⟩
  · intro messages complete member message among
    rcases List.mem_append.mp member with earlier | new
    · exact keeps _ _ (sourced.pages messages complete earlier message among)
    · rw [Option.mem_toList] at new
      obtain ⟨told, _, same⟩ := Option.map_eq_some_iff.mp new
      cases same

theorem received_live {stanza : MessageStanza} {newId now : String} {message : ChatMessage}
    (told : carried ((onMessage newId now stanza).bind eventFrame) = some message) :
    message.conversation = .str stanza.sender.bare ∧ message.body = .str stanza.body := by
  unfold onMessage at told
  split at told
  · cases told
  · split at told
    · cases told
    · split at told
      · cases told
      · cases told
        exact ⟨rfl, rfl⟩

theorem Sourced.arrives (sourced : Sourced peer system) {position : Nat} {coming : Coming}
    (found : system.coming[position]? = some coming) (asked : List Request) :
    Sourced peer
      { system with
        page := (handleFrame system.page (coming.frame peer)).1
        asked := asked
        coming := system.coming.eraseIdx position
        shown := coming.pageIds ++ (system.shown ++ coming.liveIds) } := by
  have among : coming ∈ system.coming := List.mem_of_getElem? found
  refine ⟨?_, ?_, ?_⟩
  · cases coming with
    | live id message =>
        obtain ⟨filed, stored⟩ := sourced.live id message among
        change List.Forall₂ _ (system.shown ++ [id]) _
        rw [Coming.frame, (handle_live system.page filed).1]
        exact List.rel_append sourced.lists
          (.cons (displays_of_stored stored system.page) .nil)
    | page messages complete =>
        have stored := sourced.pages messages complete among
        change List.Forall₂ _ (messages.map (·.msgId) ++ (system.shown ++ [])) _
        rw [List.append_nil, Coming.frame, handle_page]
        apply List.rel_append _ sourced.lists
        rw [List.forall₂_map_left_iff, List.forall₂_map_right_iff, List.forall₂_same]
        exact fun message member => displays_of_stored (stored message member) system.page
  · exact fun id message member => sourced.live id message (List.mem_of_mem_eraseIdx member)
  · exact fun messages complete member =>
      sourced.pages messages complete (List.mem_of_mem_eraseIdx member)

theorem Sourced.serves (sourced : Sourced peer system) {before : Option String}
    {complete : Bool} (asked : List Request) :
    Sourced peer
      { system with
        asked := asked
        coming := system.coming ++
          [.page ((served env system.archive before).1.map (historyMessage env (.str peer)))
            complete] } where
  lists := sourced.lists
  live := by
    intro id message member
    rcases List.mem_append.mp member with earlier | new
    · exact sourced.live id message earlier
    · cases List.mem_singleton.mp new
  pages := by
    intro messages whole member message among
    rcases List.mem_append.mp member with earlier | new
    · exact sourced.pages messages whole earlier message among
    · cases List.mem_singleton.mp new
      obtain ⟨archived, inPage, rfl⟩ := List.mem_map.mp among
      obtain ⟨stored, inside, sameId, sameBody⟩ := served_stored inPage
      exact ⟨stored, inside, sameId, congrArg Json.str sameBody⟩

inductive Moves (env : Env) (peer : String) (system : System) : Action → System → Prop
  | unread {action : Action} {page : Page} (asked : List Request)
      (same : Unread peer system.page page) :
      Moves env peer system action { system with page := page, asked := asked }
  | stores {action : Action} {stored : History.Entry} {live : Option ChatMessage}
      {next : System} (stores : store system stored live = some next)
      (tells : ∀ message, live = some message →
        message.conversation = .str peer ∧ message.body = .str stored.body) :
      Moves env peer system action next
  | serves {position : Nat} {now : String} {before : Option String} (complete : Bool)
      (asked : List Request)
      (requested : system.asked[position]? = some (.loadHistory peer before)) :
      Moves env peer system (.serves position now)
        { system with
          asked := asked
          coming := system.coming ++
            [.page ((served env system.archive before).1.map (historyMessage env (.str peer)))
              complete] }
  | arrives {position : Nat} {coming : Coming} (asked : List Request)
      (found : system.coming[position]? = some coming) :
      Moves env peer system (.arrives position)
        { system with
          page := (handleFrame system.page (coming.frame peer)).1
          asked := asked
          coming := system.coming.eraseIdx position
          shown := coming.pageIds ++ (system.shown ++ coming.liveIds) }

theorem moves_of_step {action : Action} (fired : step env peer system action = some next) :
    Moves env peer system action next := by
  have untouched : Unread peer system.page system.page := ⟨rfl, rfl⟩
  cases action with
  | opens id =>
      cases fired
      exact .unread _ (unread_set_active system.page id)
  | loadsOlder =>
      obtain ⟨_, same⟩ := Option.ite_none_right_eq_some.mp fired
      cases same
      exact .unread _ untouched
  | hides hidden =>
      cases fired
      exact .unread system.asked ⟨rfl, rfl⟩
  | receives stanza id stamp newId now =>
      obtain ⟨⟨sender, _⟩, stores⟩ := Option.ite_none_right_eq_some.mp fired
      apply Moves.stores stores
      intro message told
      obtain ⟨filed, body⟩ := received_live told
      exact ⟨filed.trans (congrArg Json.str sender), body⟩
  | sends body id stamp msgId now =>
      apply Moves.stores fired
      intro message told
      cases told
      exact ⟨rfl, rfl⟩
  | stores stored =>
      apply Moves.stores fired
      intro message told
      cases told
  | serves position now =>
      simp only [step] at fired
      split at fired
      · next jid before requested =>
          obtain ⟨rfl, served⟩ := Option.ite_none_right_eq_some.mp fired
          split at served
          · next filed messages complete replied =>
              cases served
              rw [concluded_page replied]
              exact .serves complete _ requested
          · cases served
            exact .unread _ untouched
      · cases fired
  | arrives position =>
      obtain ⟨coming, found, rfl⟩ := Option.map_eq_some_iff.mp fired
      exact .arrives _ found
  | elsewhere frame =>
      obtain ⟨other, same⟩ := Option.ite_none_left_eq_some.mp fired
      cases same
      exact .unread _ (unread_handle_frame system.page other)

theorem sourced_step {action : Action} (sourced : Sourced peer system)
    (fired : step env peer system action = some next) : Sourced peer next := by
  cases moves_of_step fired with
  | unread asked same => exact sourced.unread same asked
  | stores stores tells => exact sourced.store stores tells
  | serves complete asked requested => exact sourced.serves asked
  | arrives asked found => exact sourced.arrives found asked

end Steps

section Order

variable {env : Env} {peer : String} {system next : System}

/-- What is listed and what is on its way comes in the order of the archive, the page in
front and the live messages behind; the cursor is the first message. -/
structure Orderly (peer : String) (system : System) : Prop where
  sorted : (system.coming.flatMap Coming.pageIds ++
    (system.shown ++ system.coming.flatMap Coming.liveIds)).Sublist (ids system.archive)
  single : system.coming.Pairwise fun one other => one.pageIds = [] ∨ other.pageIds = []
  cursor : ∀ id, (conversation system.page peer).oldestId = some id →
    system.shown.head? = some id

theorem Orderly.single_snoc (orderly : Orderly peer system) {coming : Coming}
    (only : coming.pageIds = [] ∨ ∀ other ∈ system.coming, other.pageIds = []) :
    (system.coming ++ [coming]).Pairwise fun one other => one.pageIds = [] ∨ other.pageIds = [] := by
  apply List.pairwise_append.mpr
  refine ⟨orderly.single, List.pairwise_singleton .., ?_⟩
  intro one among other last
  rw [List.mem_singleton.mp last]
  rcases only with blank | others
  · exact Or.inr blank
  · exact Or.inl (others one among)

theorem Orderly.unread (orderly : Orderly peer system) {page : Page}
    (same : Unread peer system.page page) (asked : List Request) :
    Orderly peer { system with page := page, asked := asked } where
  sorted := orderly.sorted
  single := orderly.single
  cursor := fun id oldest => orderly.cursor id (same.oldest.symm.trans oldest)

theorem Orderly.store (orderly : Orderly peer system) {stored : History.Entry}
    {live : Option ChatMessage} (stores : store system stored live = some next) :
    Orderly peer next := by
  obtain ⟨named, fresh, rfl⟩ := store_cases stores
  have longer : ids (extended system.archive stored named fresh) =
      ids system.archive ++ [stored.id] := by
    simp only [ids, extended, List.map_append, List.map_singleton]
  cases live with
  | none =>
      refine ⟨?_, ?_, orderly.cursor⟩
      · rw [longer]
        simpa using orderly.sorted.trans (List.sublist_append_left _ _)
      · simpa using orderly.single
  | some message =>
      refine ⟨?_, ?_, orderly.cursor⟩
      · rw [longer]
        have appended := orderly.sorted.append (List.Sublist.refl [stored.id])
        simpa [Coming.pageIds, Coming.liveIds, List.append_assoc] using appended
      · exact orderly.single_snoc (Or.inl rfl)

theorem order_of_arrival {front back : List Coming} {coming : Coming} (shown : List String)
    (inTurn : ∀ id message, coming = .live id message → ∀ earlier ∈ front, earlier.liveIds = [])
    (single : (front ++ coming :: back).Pairwise
      fun one other => one.pageIds = [] ∨ other.pageIds = []) :
    (front ++ back).flatMap Coming.pageIds ++ ((coming.pageIds ++ (shown ++ coming.liveIds)) ++
        (front ++ back).flatMap Coming.liveIds) =
      (front ++ coming :: back).flatMap Coming.pageIds ++
        (shown ++ (front ++ coming :: back).flatMap Coming.liveIds) := by
  simp only [List.flatMap_append, List.flatMap_cons]
  cases coming with
  | live id message =>
      have noneBefore : front.flatMap Coming.liveIds = [] :=
        List.flatMap_eq_nil_iff.mpr (inTurn id message rfl)
      simp [Coming.pageIds, Coming.liveIds, noneBefore]
  | page messages complete =>
      by_cases blank : (Coming.page messages complete).pageIds = []
      · simp [blank, Coming.liveIds]
      · obtain ⟨_, later, across⟩ := List.pairwise_append.mp single
        have noneBefore : front.flatMap Coming.pageIds = [] :=
          List.flatMap_eq_nil_iff.mpr fun one member =>
            (across one member _ (List.mem_cons_self ..)).resolve_right blank
        have noneAfter : back.flatMap Coming.pageIds = [] :=
          List.flatMap_eq_nil_iff.mpr fun other member =>
            ((List.pairwise_cons.mp later).1 other member).resolve_left blank
        simp [noneBefore, noneAfter, Coming.liveIds]

theorem Orderly.arrives (orderly : Orderly peer system) (sourced : Sourced peer system)
    {position : Nat} {coming : Coming} (found : system.coming[position]? = some coming)
    (inTurn : InTurn env peer system (.arrives position)) (asked : List Request) :
    Orderly peer
      { system with
        page := (handleFrame system.page (coming.frame peer)).1
        asked := asked
        coming := system.coming.eraseIdx position
        shown := coming.pageIds ++ (system.shown ++ coming.liveIds) } := by
  refine ⟨?_, ?_, ?_⟩
  · obtain ⟨front, back, split, rfl⟩ := split_at found
    have earlier : system.coming.take front.length = front := by rw [split, List.take_left]
    have left : system.coming.eraseIdx front.length = front ++ back := by
      rw [split, List.eraseIdx_append_of_length_le le_rfl, Nat.sub_self, List.eraseIdx_cons_zero]
    have single := orderly.single
    rw [split] at single
    have order := order_of_arrival system.shown
      (fun id message same => earlier ▸ inTurn id message (same ▸ found)) single
    dsimp only
    rw [left, order, ← split]
    exact orderly.sorted
  · exact orderly.single.sublist (List.eraseIdx_sublist _ _)
  · cases coming with
    | live id message =>
        have filed := (sourced.live id message (List.mem_of_getElem? found)).1
        intro first oldest
        have head := orderly.cursor first ((handle_live system.page filed).2.symm.trans oldest)
        change (system.shown ++ [id]).head? = some first
        rw [List.head?_append, head, Option.some_or]
    | page messages complete =>
        intro first oldest
        dsimp only at oldest
        rw [Coming.frame, handle_page] at oldest
        cases messages with
        | nil =>
            have head := orderly.cursor first oldest
            simpa [Coming.pageIds, Coming.liveIds] using head
        | cons message rest => exact oldest

/-- The ids of the page that answers a request made in turn come before all others. -/
theorem served_in_order (env : Env) (orderly : Orderly peer system) (sourced : Sourced peer system)
    {before : Option String}
    (noPage : ∀ coming ∈ system.coming, coming.pageIds = [])
    (oldest : before = (conversation system.page peer).oldestId)
    (first : before = none → (conversation system.page peer).messages = [] ∧
      ∀ coming ∈ system.coming, coming.liveIds = []) :
    ((served env system.archive before).1.map (·.msgId) ++
      (system.shown ++ system.coming.flatMap Coming.liveIds)).Sublist (ids system.archive) := by
  have sorted := orderly.sorted
  rw [List.flatMap_eq_nil_iff.mpr noPage, List.nil_append] at sorted
  cases before with
  | none =>
      obtain ⟨nothing, noLive⟩ := first rfl
      have unlisted : system.shown = [] := by
        have lists := sourced.lists
        rw [nothing] at lists
        exact List.forall₂_nil_right_iff.mp lists
      rw [unlisted, List.flatMap_eq_nil_iff.mpr noLive, List.append_nil, List.append_nil]
      exact served_ids_sublist (Or.inl ⟨rfl, rfl⟩)
  | some id =>
      obtain ⟨rest, shown⟩ := List.head?_eq_some_iff.mp (orderly.cursor id oldest.symm)
      rw [shown] at sorted ⊢
      exact page_before_sublist sorted

theorem Orderly.serves (orderly : Orderly peer system) (sourced : Sourced peer system)
    {position : Nat} {now : String} {before : Option String}
    (requested : system.asked[position]? = some (.loadHistory peer before))
    (inTurn : InTurn env peer system (.serves position now)) (complete : Bool)
    (asked : List Request) :
    Orderly peer
      { system with
        asked := asked
        coming := system.coming ++
          [.page ((served env system.archive before).1.map (historyMessage env (.str peer)))
            complete] } := by
  have pageIds : (Coming.page ((served env system.archive before).1.map
      (historyMessage env (.str peer))) complete).pageIds =
        (served env system.archive before).1.map (·.msgId) := by
    rw [Coming.pageIds, List.map_map]
    rfl
  by_cases nothing : (served env system.archive before).1 = []
  · rw [nothing] at pageIds ⊢
    refine ⟨?_, ?_, orderly.cursor⟩
    · simpa [Coming.pageIds, Coming.liveIds] using orderly.sorted
    · exact orderly.single_snoc (Or.inl rfl)
  · obtain ⟨noPage, oldest, first⟩ := inTurn before requested nothing
    refine ⟨?_, ?_, orderly.cursor⟩
    · have inOrder := served_in_order env orderly sourced noPage oldest first
      simpa [pageIds, List.flatMap_eq_nil_iff.mpr noPage, Coming.liveIds] using inOrder
    · exact orderly.single_snoc (Or.inr noPage)

theorem orderly_step {action : Action} (inTurn : InTurn env peer system action)
    (sourced : Sourced peer system) (orderly : Orderly peer system)
    (fired : step env peer system action = some next) : Orderly peer next := by
  cases moves_of_step fired with
  | unread asked same => exact orderly.unread same asked
  | stores stores tells => exact orderly.store stores
  | serves complete asked requested =>
      exact orderly.serves sourced requested inTurn complete asked
  | arrives asked found => exact orderly.arrives sourced found inTurn asked

theorem listed_of_orderly (sourced : Sourced peer system) (orderly : Orderly peer system) :
    ListedInOrder peer system := by
  have chronological : system.shown.Sublist (ids system.archive) := by
    refine List.Sublist.trans ?_ orderly.sorted
    exact (List.sublist_append_left _ _).trans (List.sublist_append_right _ _)
  exact ⟨sourced.lists, chronological.nodup system.archive.distinct, chronological⟩

theorem starts_in_order (peer : String) (archive : Archive) :
    Sourced peer (start archive) ∧ Orderly peer (start archive) := by
  refine ⟨⟨.nil, ?_, ?_⟩, ⟨List.nil_sublist _, .nil, ?_⟩⟩
  · intro id message member
    cases member
  · intro messages complete member
    cases member
  · intro id oldest
    cases oldest

theorem sourced_run {archive : Archive} {actions : List Action} {final : System}
    (run : replay (step env peer) (start archive) actions = some final) : Sourced peer final :=
  run_invariant_unconditional (Sourced peer)
    (fun _ _ _ sourced fired => sourced_step sourced fired) (starts_in_order peer archive).1 run

/-- In every run whose pages are served in turn, the conversation lists no message twice
and all in order. -/
theorem listed_in_order (env : Env) (peer : String) (archive : Archive)
    {actions : List Action} {final : System}
    (conforms : Conforms (step env peer) (InTurn env peer) (start archive) actions)
    (run : replay (step env peer) (start archive) actions = some final) :
    ListedInOrder peer final := by
  have preserved : ∀ system action next, InTurn env peer system action →
      Sourced peer system ∧ Orderly peer system → step env peer system action = some next →
        Sourced peer next ∧ Orderly peer next := by
    intro system action next inTurn holds fired
    exact ⟨sourced_step holds.1 fired, orderly_step inTurn holds.1 holds.2 fired⟩
  have kept : Sourced peer final ∧ Orderly peer final :=
    run_invariant preserved (starts_in_order peer archive) conforms run
  exact listed_of_orderly (sourced_run run) kept.2

end Order

def alice : Env := ⟨"alice@example.com", { pageSize := 2 }, Pump.asciiLower, fun text => text⟩

def bobWrites : Action :=
  .receives ⟨"chat", ⟨"bob@example.com", "phone"⟩, ⟨"alice@example.com", ""⟩, "and now?", "m1",
    "", ""⟩ "4" "stamp" "new" "now"

/-- The newest page, a live message while the older one is asked for, and that page. -/
def opensAndLoadsOlder : List Action :=
  [.opens "bob@example.com", .serves 0 "now", .arrives 0, bobWrites, .loadsOlder, .serves 0 "now",
    .arrives 0, .arrives 0]

theorem older_page_in_front :
    ∃ final,
      replay (step alice "bob@example.com") (start History.threeMessages) opensAndLoadsOlder =
          some final ∧
        final.shown = ["1", "2", "3", "4"] ∧ ListedInOrder "bob@example.com" final := by
  have conforms : Conforms (step alice "bob@example.com") (InTurn alice "bob@example.com")
      (start History.threeMessages) opensAndLoadsOlder := by
    refine ⟨trivial, ?newest, ?arrives, trivial, trivial, ?older, ?live, ?page, trivial⟩
    case newest =>
      intro before requested _
      cases requested
      exact ⟨fun coming member => (by cases member), rfl,
        fun _ => ⟨rfl, fun coming member => by cases member⟩⟩
    case older =>
      intro before requested _
      cases requested
      refine ⟨?_, rfl, fun none => by cases none⟩
      intro coming member
      cases List.mem_singleton.mp member
      rfl
    case arrives => exact fun id message _ earlier member => by cases member
    case live => exact fun id message _ earlier member => by cases member
    case page => exact fun id message _ earlier member => by cases member
  exact ⟨_, rfl, rfl, listed_in_order alice "bob@example.com" History.threeMessages conforms rfl⟩

/-- A second click before the older page has come. -/
theorem two_clicks_show_a_message_twice :
    ∃ final,
      replay (step alice "bob@example.com") (start History.threeMessages)
          [.opens "bob@example.com", .serves 0 "now", .arrives 0, .loadsOlder, .loadsOlder,
            .serves 0 "now", .serves 0 "now", .arrives 0, .arrives 0] = some final ∧
        final.shown = ["1", "1", "2", "3"] ∧ ¬ListedInOrder "bob@example.com" final := by
  refine ⟨_, rfl, rfl, ?_⟩
  intro listed
  exact absurd listed.once (by decide)

end PyConduit.Scrollback
