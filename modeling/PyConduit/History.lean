import Mathlib.Data.List.DropRight

/-!
# Paging through the message archive

`fetch_history` asks the MAM server for one page that ends before a given id and
skips the stanzas without a body; a tab prepends the page and asks again with
the id of the oldest message it got, until a page is called complete. The
server is a parameter, and what is assumed of it is `Serves`.
-/

namespace PyConduit.History

set_option autoImplicit false

/-- A stored stanza: the bare addresses and the body of the forwarded message,
and its stamp as `_stamp_to_iso` writes it. An absent body is empty. -/
structure Entry where
  id : String
  fromJid : String
  toJid : String
  body : String
  stamp : String
  deriving DecidableEq

structure ArchivedMessage where
  fromJid : String
  toJid : String
  body : String
  msgId : String
  timestamp : String
  deriving DecidableEq

/-- The answer to a query; `complete` is the attribute of `<fin>`. -/
structure Page where
  results : List Entry
  complete : Bool

def hasBody (entry : Entry) : Bool := entry.body ≠ ""

/-- One round of the loop over the results. `newId` is the client's fresh id. -/
def archived (newId : String) (entry : Entry) : Option ArchivedMessage :=
  if entry.body = "" then none
  else
    some ⟨entry.fromJid, entry.toJid, entry.body, if entry.id = "" then newId else entry.id,
      entry.stamp⟩

/-- `fetch_history`. `retrieve` is none when the query raises an IqError or an
IqTimeout. -/
def fetchHistory (newId : String) (retrieve : String → Nat → Option Page)
    (before : Option String) (limit : Nat) : List ArchivedMessage × Bool :=
  match retrieve (before.getD "") limit with
  | none => ([], true)
  | some page =>
      let collected := page.results.filterMap (archived newId)
      (collected, page.complete || decide (collected.length < limit))

structure Call where
  before : Option String
  messages : List ArchivedMessage
  complete : Bool

/-- The id of the oldest message so far; a page without messages leaves it. -/
def oldest (messages : List ArchivedMessage) (before : Option String) : Option String :=
  match messages with
  | [] => before
  | first :: _ => some first.msgId

/-- The calls a tab makes from a cursor on, until one is complete. -/
def loadAll (fetch : Option String → List ArchivedMessage × Bool) :
    Nat → Option String → Option (List Call)
  | 0, _ => none
  | fuel + 1, before =>
      let reply := fetch before
      if reply.2 then some [⟨before, reply.1, reply.2⟩]
      else
        (loadAll fetch fuel (oldest reply.1 before)).map
          (⟨before, reply.1, reply.2⟩ :: ·)

/-- Every page is put in front of what the tab has. -/
def conversation : List Call → List ArchivedMessage
  | [] => []
  | call :: later => conversation later ++ call.messages

structure Archive where
  entries : List Entry
  distinct : (entries.map Entry.id).Nodup
  named : ∀ entry ∈ entries, entry.id ≠ ""

def lastPage (older : List Entry) (limit : Nat) : Page :=
  ⟨older.rtake limit, decide (older.length ≤ limit)⟩

/-- The server answers every query, with the entries that immediately precede
the id, or with the newest ones for an empty id. -/
def Serves (archive : Archive) (retrieve : String → Nat → Option Page) : Prop :=
  ∀ limit, retrieve "" limit = some (lastPage archive.entries limit) ∧
    ∀ older entry newer, archive.entries = older ++ entry :: newer →
      retrieve entry.id limit = some (lastPage older limit)

def preceding (archive : Archive) : Option String → List Entry
  | none => archive.entries
  | some id => archive.entries.takeWhile fun entry => entry.id ≠ id

/-- Paging ends, the pages make up the messages of the archive, and when a page
is called complete no older message remains. -/
def PagingComplete (newId : String) (archive : Archive)
    (retrieve : String → Nat → Option Page) (limit : Nat) : Prop :=
  ∃ calls,
    (∀ fuel, archive.entries.length < fuel →
      loadAll (fetchHistory newId retrieve · limit) fuel none = some calls) ∧
    conversation calls = archive.entries.filterMap (archived newId) ∧
    ∀ call ∈ calls, call.complete = true →
      ((preceding archive call.before).rdrop limit).filterMap (archived newId) = []

/-- How many of the newest entries are in the pages of `limit` entries up to and
including the one that holds the newest entry without a body. -/
def horizon (limit : Nat) (entries : List Entry) : Nat :=
  ((entries.rtakeWhile hasBody).length / limit + 1) * limit

section ListEnds

variable {α : Type}

theorem rdrop_append_rtake (list : List α) (count : Nat) :
    list.rdrop count ++ list.rtake count = list :=
  List.take_append_drop _ _

theorem rtake_add (list : List α) (first second : Nat) :
    list.rtake (second + first) = (list.rdrop first).rtake second ++ list.rtake first := by
  simp only [List.rtake_eq_reverse_take_reverse, List.rdrop_eq_reverse_drop_reverse,
    List.reverse_reverse, Nat.add_comm second first, List.take_add, List.reverse_append]

theorem rdrop_add (list : List α) (first second : Nat) :
    list.rdrop (second + first) = (list.rdrop first).rdrop second := by
  simp only [List.rdrop_eq_reverse_drop_reverse, List.reverse_reverse, List.drop_drop,
    Nat.add_comm second first]

theorem rtake_of_length_le {list : List α} {count : Nat} (short : list.length ≤ count) :
    list.rtake count = list := by
  simp [List.rtake, Nat.sub_eq_zero_of_le short]

theorem rdrop_of_length_le {list : List α} {count : Nat} (short : list.length ≤ count) :
    list.rdrop count = [] := by
  simp [List.rdrop, Nat.sub_eq_zero_of_le short]

theorem rtake_while_append {keep : α → Bool} (front back : List α)
    (kept : ∀ item ∈ back, keep item = true) :
    (front ++ back).rtakeWhile keep = front.rtakeWhile keep ++ back := by
  induction back using List.reverseRecOn with
  | nil => simp
  | append_singleton rest last induction =>
      have keptRest : ∀ item ∈ rest, keep item = true := by
        intro item member
        exact kept item (List.mem_append_left _ member)
      have keptLast : keep last = true := kept last (by simp)
      rw [← List.append_assoc, List.rtakeWhile_concat_pos _ _ _ keptLast, induction keptRest,
        List.append_assoc]

end ListEnds

def Stands (archive : Archive) (before : Option String) (older : List Entry) : Prop :=
  (before = none ∧ archive.entries = older) ∨
    ∃ entry newer, before = some entry.id ∧ archive.entries = older ++ entry :: newer

theorem preceding_of_stands {archive : Archive} {before : Option String} {older : List Entry}
    (stands : Stands archive before older) : preceding archive before = older := by
  rcases stands with ⟨rfl, whole⟩ | ⟨entry, newer, rfl, split⟩
  · exact whole
  · have distinct := archive.distinct
    rw [split, List.map_append, List.map_cons] at distinct
    have apart : ∀ earlier ∈ older, earlier.id ≠ entry.id := by
      intro earlier member same
      have inFront : entry.id ∈ older.map Entry.id := same ▸ List.mem_map_of_mem member
      exact (List.nodup_append.mp distinct).2.2 _ inFront _ (List.mem_cons_self ..) rfl
    rw [preceding, split, List.takeWhile_append_of_pos (by simpa using apart),
      List.takeWhile_cons_of_neg (by simp), List.append_nil]

theorem fetch_of_stands (newId : String) {archive : Archive}
    {retrieve : String → Nat → Option Page} (serves : Serves archive retrieve)
    {before : Option String} {older : List Entry} (stands : Stands archive before older)
    (limit : Nat) :
    fetchHistory newId retrieve before limit =
      ((older.rtake limit).filterMap (archived newId),
        decide (older.length ≤ limit) ||
          decide (((older.rtake limit).filterMap (archived newId)).length < limit)) := by
  rcases stands with ⟨rfl, whole⟩ | ⟨entry, newer, rfl, split⟩
  · simp only [fetchHistory, Option.getD_none, (serves limit).1, lastPage, whole]
  · simp only [fetchHistory, Option.getD_some, (serves limit).2 older entry newer split, lastPage]

theorem archived_is_some (newId : String) (entry : Entry) :
    (archived newId entry).isSome = hasBody entry := by
  unfold archived hasBody
  by_cases bodyless : entry.body = ""
  · simp [bodyless]
  · simp [bodyless]

theorem archived_id (newId : String) {entry : Entry} (named : entry.id ≠ "")
    {message : ArchivedMessage} (found : archived newId entry = some message) :
    message.msgId = entry.id := by
  by_cases bodyless : entry.body = ""
  · simp [archived, bodyless] at found
  · simp only [archived, if_neg bodyless, if_neg named, Option.some.injEq] at found
    rw [← found]

/-- A page of a full list that skips nothing is made of entries with a body. -/
theorem full_page_has_bodies (newId : String) {older : List Entry} {limit : Nat}
    (long : limit < older.length)
    (full : limit ≤ ((older.rtake limit).filterMap (archived newId)).length) :
    ∀ entry ∈ older.rtake limit, hasBody entry = true := by
  have pageLength : (older.rtake limit).length = limit := by
    simp only [List.rtake, List.length_drop]
    omega
  have atMost := List.length_filterMap_le (archived newId) (older.rtake limit)
  have same : ((older.rtake limit).filterMap (archived newId)).length =
      (older.rtake limit).length := by omega
  intro entry member
  rw [← archived_is_some newId]
  exact List.filterMap_length_eq_length.mp same entry member

theorem horizon_of_last_page {older : List Entry} {limit : Nat} (positive : 0 < limit)
    (last : older.length ≤ limit ∨ ∃ entry ∈ older.rtake limit, hasBody entry = false) :
    older.rtake (horizon limit older) = older.rtake limit ∧
      older.rdrop (horizon limit older) = older.rdrop limit := by
  rcases last with short | ⟨entry, member, bodyless⟩
  · have within : older.length ≤ horizon limit older := by
      unfold horizon
      rw [Nat.add_mul, Nat.one_mul]
      omega
    rw [rtake_of_length_le short, rtake_of_length_le within, rdrop_of_length_le short,
      rdrop_of_length_le within]
    exact ⟨rfl, rfl⟩
  · have early : (older.rtakeWhile hasBody).length < limit := by
      by_contra late
      have inside : older.rtake limit <:+ older.rtakeWhile hasBody := by
        apply List.suffix_of_suffix_length_le (List.drop_suffix _ _)
          (List.rtakeWhile_suffix _ _)
        rw [List.length_drop]
        omega
      have body := List.mem_rtakeWhile_imp (inside.subset member)
      rw [bodyless] at body
      cases body
    have exact : horizon limit older = limit := by
      rw [horizon, Nat.div_eq_of_lt early, Nat.zero_add, Nat.one_mul]
    rw [exact]
    exact ⟨rfl, rfl⟩

/-- A full page of messages is one page of the horizon. -/
theorem horizon_of_full_page {older : List Entry} {limit : Nat} (positive : 0 < limit)
    (long : limit < older.length) (bodies : ∀ entry ∈ older.rtake limit, hasBody entry = true) :
    horizon limit older = horizon limit (older.rdrop limit) + limit := by
  have pageLength : (older.rtake limit).length = limit := by
    simp only [List.rtake, List.length_drop]
    omega
  have run : (older.rtakeWhile hasBody).length =
      ((older.rdrop limit).rtakeWhile hasBody).length + limit := by
    conv_lhs => rw [← rdrop_append_rtake older limit, rtake_while_append _ _ bodies]
    rw [List.length_append, pageLength]
  rw [horizon, horizon, run, Nat.add_div_right _ positive]
  exact Nat.succ_mul _ limit

/-- After a full page of messages the next cursor stands before that page. -/
theorem stands_after_full_page {newId : String} {archive : Archive} {before : Option String}
    {older : List Entry} {limit : Nat} (positive : 0 < limit)
    (stands : Stands archive before older) (long : limit < older.length)
    (bodies : ∀ entry ∈ older.rtake limit, hasBody entry = true) :
    Stands archive (oldest ((older.rtake limit).filterMap (archived newId)) before)
      (older.rdrop limit) := by
  obtain ⟨newer, suffix⟩ : ∃ newer, archive.entries = older ++ newer := by
    rcases stands with ⟨_, whole⟩ | ⟨entry, newer, _, split⟩
    · exact ⟨[], by rw [whole, List.append_nil]⟩
    · exact ⟨entry :: newer, split⟩
  have pageLength : (older.rtake limit).length = limit := by
    simp only [List.rtake, List.length_drop]
    omega
  cases page : older.rtake limit with
  | nil =>
      rw [page, List.length_nil] at pageLength
      omega
  | cons first rest =>
      have whole : archive.entries = older.rdrop limit ++ first :: (rest ++ newer) := by
        rw [suffix]
        conv_lhs => rw [← rdrop_append_rtake older limit, page]
        simp
      have named : first.id ≠ "" := by
        apply archive.named
        rw [whole]
        simp
      have body : (archived newId first).isSome = true := by
        rw [archived_is_some]
        apply bodies
        rw [page]
        exact List.mem_cons_self ..
      obtain ⟨message, found⟩ := Option.isSome_iff_exists.mp body
      refine Or.inr ⟨first, rest ++ newer, ?_, whole⟩
      rw [List.filterMap_cons_some found, oldest, archived_id newId named found]

/-- What a tab gets by paging on from a cursor: the calls end, they return the
messages within the horizon, and what a complete page leaves unserved lies
beyond it. -/
def Pages (newId : String) (archive : Archive) (retrieve : String → Nat → Option Page)
    (limit : Nat) (older : List Entry) (before : Option String) (calls : List Call) : Prop :=
  (∀ fuel, older.length < fuel →
    loadAll (fetchHistory newId retrieve · limit) fuel before = some calls) ∧
  conversation calls = (older.rtake (horizon limit older)).filterMap (archived newId) ∧
  ∀ call ∈ calls, call.complete = true →
    (preceding archive call.before).rdrop limit = older.rdrop (horizon limit older)

theorem short_page_skips (newId : String) {older : List Entry} {limit : Nat}
    (complete : older.length ≤ limit ∨
      ((older.rtake limit).filterMap (archived newId)).length < limit) :
    older.length ≤ limit ∨ ∃ entry ∈ older.rtake limit, hasBody entry = false := by
  rcases complete with short | skipped
  · exact Or.inl short
  · by_contra neither
    simp only [not_or, not_le, not_exists, not_and, Bool.not_eq_false] at neither
    have all : ∀ entry ∈ older.rtake limit, (archived newId entry).isSome = true := by
      intro entry member
      rw [archived_is_some]
      exact neither.2 entry member
    rw [List.filterMap_length_eq_length.mpr all] at skipped
    simp only [List.rtake, List.length_drop] at skipped
    omega

theorem pages_of_complete_page (newId : String) {archive : Archive}
    {retrieve : String → Nat → Option Page} (serves : Serves archive retrieve)
    {limit : Nat} (positive : 0 < limit) {older : List Entry} {before : Option String}
    (stands : Stands archive before older)
    (complete : older.length ≤ limit ∨
      ((older.rtake limit).filterMap (archived newId)).length < limit) :
    Pages newId archive retrieve limit older before
      [⟨before, (older.rtake limit).filterMap (archived newId), true⟩] := by
  have fetched := fetch_of_stands newId serves stands limit
  obtain ⟨served, unserved⟩ := horizon_of_last_page positive (short_page_skips newId complete)
  refine ⟨?_, ?_, ?_⟩
  · intro fuel enough
    obtain ⟨rest, rfl⟩ : ∃ rest, fuel = rest + 1 := ⟨fuel - 1, by omega⟩
    simp [loadAll, fetched, complete]
  · rw [served]
    rfl
  · intro call member _
    rw [List.mem_singleton.mp member, preceding_of_stands stands, unserved]

theorem pages_of_full_page (newId : String) {archive : Archive}
    {retrieve : String → Nat → Option Page} (serves : Serves archive retrieve)
    {limit : Nat} (positive : 0 < limit) {older : List Entry} {before : Option String}
    (stands : Stands archive before older) (long : limit < older.length)
    (full : limit ≤ ((older.rtake limit).filterMap (archived newId)).length)
    {calls : List Call}
    (later : Pages newId archive retrieve limit (older.rdrop limit)
      (oldest ((older.rtake limit).filterMap (archived newId)) before) calls) :
    Pages newId archive retrieve limit older before
      (⟨before, (older.rtake limit).filterMap (archived newId), false⟩ :: calls) := by
  have fetched := fetch_of_stands newId serves stands limit
  have beyond := horizon_of_full_page positive long (full_page_has_bodies newId long full)
  obtain ⟨ends, messages, unserved⟩ := later
  refine ⟨?_, ?_, ?_⟩
  · intro fuel enough
    obtain ⟨rest, rfl⟩ : ∃ rest, fuel = rest + 1 := ⟨fuel - 1, by omega⟩
    have shorter : (older.rdrop limit).length < rest := by
      simp only [List.rdrop, List.length_take]
      omega
    have more : (decide (older.length ≤ limit) || decide
        (((older.rtake limit).filterMap (archived newId)).length < limit)) = false := by
      simp only [Bool.or_eq_false_iff, decide_eq_false_iff_not]
      omega
    simp only [loadAll, fetched, more, Bool.false_eq_true, if_false, ends rest shorter,
      Option.map_some]
  · rw [conversation, messages, beyond, rtake_add, List.filterMap_append]
  · intro call member complete
    rcases List.mem_cons.mp member with rfl | member
    · cases complete
    · rw [unserved call member complete, beyond, rdrop_add]

/-- Induction on the entries before the cursor, one page at a time. -/
theorem pages_from_cursor (newId : String) {archive : Archive}
    {retrieve : String → Nat → Option Page} (serves : Serves archive retrieve)
    {limit : Nat} (positive : 0 < limit) (older : List Entry) (before : Option String)
    (stands : Stands archive before older) :
    ∃ calls, Pages newId archive retrieve limit older before calls := by
  induction size : older.length using Nat.strong_induction_on generalizing older before with
  | _ length induction =>
      by_cases complete : older.length ≤ limit ∨
          ((older.rtake limit).filterMap (archived newId)).length < limit
      · exact ⟨_, pages_of_complete_page newId serves positive stands complete⟩
      · have long : limit < older.length := by omega
        have full : limit ≤ ((older.rtake limit).filterMap (archived newId)).length := by omega
        have next : Stands archive (oldest ((older.rtake limit).filterMap (archived newId)) before)
            (older.rdrop limit) :=
          stands_after_full_page positive stands long (full_page_has_bodies newId long full)
        have shorter : (older.rdrop limit).length < length := by
          simp only [List.rdrop, List.length_take]
          omega
        obtain ⟨calls, later⟩ := induction _ shorter _ _ next rfl
        exact ⟨_, pages_of_full_page newId serves positive stands long full later⟩

/-- Paging is complete exactly when no message is older than the page on which
the newest stanza without a body lies. -/
theorem history_paging_complete_iff (newId : String) (archive : Archive)
    (retrieve : String → Nat → Option Page) (serves : Serves archive retrieve)
    (limit : Nat) (positive : 0 < limit) :
    PagingComplete newId archive retrieve limit ↔
      ∀ entry ∈ archive.entries.rdrop (horizon limit archive.entries), entry.body = "" := by
  obtain ⟨calls, ends, messages, unserved⟩ :=
    pages_from_cursor newId serves positive archive.entries none (Or.inl ⟨rfl, rfl⟩)
  have beyond : (∀ entry ∈ archive.entries.rdrop (horizon limit archive.entries),
      entry.body = "") ↔
      (archive.entries.rdrop (horizon limit archive.entries)).filterMap (archived newId) = [] := by
    simp [List.filterMap_eq_nil_iff, archived]
  have whole : archive.entries.filterMap (archived newId) =
      (archive.entries.rdrop (horizon limit archive.entries)).filterMap (archived newId) ++
        conversation calls := by
    rw [messages, ← List.filterMap_append, rdrop_append_rtake]
  rw [beyond]
  constructor
  · rintro ⟨others, othersEnd, all, _⟩
    have same : others = calls := by
      have ended := othersEnd _ (Nat.lt_succ_self _)
      rw [ends _ (Nat.lt_succ_self _)] at ended
      exact (Option.some.inj ended).symm
    rw [same] at all
    exact List.self_eq_append_left.mp (all.trans whole)
  · intro none
    refine ⟨calls, ends, ?_, ?_⟩
    · rw [whole, none, List.nil_append]
    · intro call member complete
      rw [unserved call member complete, none]

def serve (archive : Archive) (before : String) (limit : Nat) : Option Page :=
  some (lastPage (preceding archive (if before = "" then none else some before)) limit)

theorem serve_serves (archive : Archive) : Serves archive (serve archive) := by
  intro limit
  constructor
  · rfl
  · intro older entry newer split
    have named : entry.id ≠ "" := by
      apply archive.named
      rw [split]
      simp
    rw [serve, if_neg named, preceding_of_stands (Or.inr ⟨entry, newer, rfl, split⟩)]

def stored (id body : String) : Entry := ⟨id, "bob@example.com", "alice@example.com", body, ""⟩

def threeMessages : Archive where
  entries := [stored "1" "hi", stored "2" "are you there?", stored "3" "hello"]
  distinct := by decide
  named := by decide

theorem three_messages_in_pages_of_two :
    PagingComplete "new" threeMessages (serve threeMessages) 2 :=
  (history_paging_complete_iff "new" threeMessages (serve threeMessages)
    (serve_serves threeMessages) 2 (by decide)).mpr (by decide)

def receiptInBetween : Archive where
  entries := [stored "1" "hi", stored "2" "", stored "3" "hello"]
  distinct := by decide
  named := by decide

theorem receipt_ends_paging_early :
    ¬PagingComplete "new" receiptInBetween (serve receiptInBetween) 2 := by
  rintro ⟨calls, ends, all, _⟩
  have loaded := ends 4 (by decide)
  cases loaded
  revert all
  decide

end PyConduit.History
