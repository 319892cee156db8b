import Mathlib.Data.List.DropRight
import PyConduit.Labelled
import PyConduit.Text

/-!
# The text lines of the audit log

`_format_text` joins cleaned values with the separators they may hold themselves, and
drops whitespace at the end of the line. Which lines can be read as another record's
depends on what stands in the values.
-/

namespace PyConduit.Audit

open Labelled (joined joined_append Apart Names)

set_option autoImplicit false

inductive Value
  | none
  | text (given : String)
  | count (number : Int)

def Value.str : Value → String
  | .none => "None"
  | .text given => given
  | .count number => toString number

def clean (value : Value) : String :=
  String.ofList (value.str.toList.map fun char => if char.toNat < 0x20 then ' ' else char)

/-- `str.isspace` of a character. -/
def isSpace (char : Char) : Bool :=
  char.toNat ∈ [0x20, 0x85, 0xA0, 0x1680, 0x2028, 0x2029, 0x202F, 0x205F, 0x3000] ∨
    0x9 ≤ char.toNat ∧ char.toNat ≤ 0xD ∨ 0x1C ≤ char.toNat ∧ char.toNat ≤ 0x1F ∨
    0x2000 ≤ char.toNat ∧ char.toNat ≤ 0x200A

def rstrip (text : String) : String := String.ofList (text.toList.rdropWhile isSpace)

def formatText (event : String) (fields : List (String × Value)) : String :=
  let ts := clean ((fields.lookup "ts").getD (.text ""))
  let rest := " ".intercalate
    ((fields.filter fun field => field.1 ≠ "ts").map fun field => s!"{field.1}={clean field.2}")
  rstrip s!"{ts} audit {event} {rest}"

/-- The events, by the wrappers that emit them. -/
inductive AuditEvent
  | authOk (username jid ip : String)
  | authDenied (username : Option String) (ip reason : String)
  | sessionOpen (username jid ip : String) (tabs : Int)
  | sessionClose (username jid ip : String) (tabs : Int)
  | xmppConnect (jid : String)
  | xmppDisconnect (jid reason : String)

namespace AuditEvent

def event : AuditEvent → String
  | authOk .. => "auth_ok"
  | authDenied .. => "auth_denied"
  | sessionOpen .. => "session_open"
  | sessionClose .. => "session_close"
  | xmppConnect .. => "xmpp_connect"
  | xmppDisconnect .. => "xmpp_disconnect"

def fields : AuditEvent → List (String × Value)
  | authOk username jid ip => [("username", .text username), ("jid", .text jid), ("ip", .text ip)]
  | authDenied username ip reason =>
      [("username", username.elim .none .text), ("ip", .text ip), ("reason", .text reason)]
  | sessionOpen username jid ip tabs =>
      [("username", .text username), ("jid", .text jid), ("ip", .text ip), ("tabs", .count tabs)]
  | sessionClose username jid ip tabs =>
      [("username", .text username), ("jid", .text jid), ("ip", .text ip), ("tabs", .count tabs)]
  | xmppConnect jid => [("jid", .text jid)]
  | xmppDisconnect jid reason => [("jid", .text jid), ("reason", .text reason)]

def line (ts : String) (record : AuditEvent) : String :=
  formatText record.event (("ts", .text ts) :: ("event", .text record.event) :: record.fields)

/-- The values, control characters replaced by spaces. -/
def cleaned (record : AuditEvent) : List String :=
  record.fields.map fun field => clean field.2

/-- The values without whitespace at the end of the last one. -/
def settled (record : AuditEvent) : List String :=
  record.cleaned.dropLast ++ (record.cleaned.getLast?.map rstrip).toList

def count : AuditEvent → Option Int
  | sessionOpen _ _ _ tabs => some tabs
  | sessionClose _ _ _ tabs => some tabs
  | _ => none

def texts (record : AuditEvent) : List (String × String) :=
  (record.fields.take (record.fields.length - record.count.toList.length)).map fun field =>
    (field.1, clean field.2)

end AuditEvent

/-- The first text, and the later ones behind the names written before them. -/
def reading : List (String × String) → List Char × List (List Char × List Char)
  | [] => ([], [])
  | field :: later =>
      (field.2.toList, later.map fun field => (field.1.toList ++ ['='], field.2.toList))

/-- No field's name, written as on the line, stands in the text before it or in its own. -/
def Separate (record : AuditEvent) : Prop :=
  Apart ' ' (reading record.texts).1 (reading record.texts).2

/-- A line without line breaks that no other record of the event has. -/
def Unforgeable (ts : String) (record : AuditEvent) : Prop :=
  (∀ char ∈ (record.line ts).toList, char ≠ '\n' ∧ char ≠ '\r') ∧
    ∀ other : AuditEvent, other.event = record.event → other.cleaned ≠ record.cleaned →
      other.line ts ≠ record.line ts

theorem clean_printable {value : Value} {char : Char} (member : char ∈ (clean value).toList) :
    0x20 ≤ char.toNat := by
  simp only [clean, String.toList_ofList, List.mem_map] at member
  obtain ⟨original, -, rfl⟩ := member
  split
  · decide
  · omega

theorem clean_of_printable {text : String} (printable : ∀ char ∈ text.toList, 0x20 ≤ char.toNat) :
    clean (.text text) = text := by
  have same : (text.toList.map fun char => if char.toNat < 0x20 then ' ' else char) =
      text.toList := by
    have unchanged : ∀ char ∈ text.toList,
        (if char.toNat < 0x20 then ' ' else char) = id char :=
      fun char member => if_neg (Nat.not_lt.mpr (printable char member))
    rw [List.map_congr_left unchanged, List.map_id]
  rw [clean, Value.str, same, String.ofList_toList]

theorem count_spaceless {number : Int} {char : Char}
    (member : char ∈ (clean (.count number)).toList) : isSpace char = false := by
  have shown : char ∈ number.repr.toList.map fun char => if char.toNat < 0x20 then ' ' else char := by
    simpa [clean, Value.str] using member
  obtain ⟨original, written, rfl⟩ := List.mem_map.mp shown
  have digits : original = '-' ∨ original.isDigit = true := by
    rw [Int.repr_eq_if] at written
    split at written
    · rw [Nat.toList_repr] at written
      exact Or.inr (Nat.isDigit_of_mem_toDigits (by decide) (by decide) written)
    · rw [String.toList_append, List.mem_append, Nat.toList_repr] at written
      rcases written with sign | digit
      · exact Or.inl (by simpa using sign)
      · exact Or.inr (Nat.isDigit_of_mem_toDigits (by decide) (by decide) digit)
  rcases digits with rfl | digit
  · decide
  · rw [Char.isDigit_iff_toNat] at digit
    have low : 0x30 ≤ original.toNat := digit.1
    have high : original.toNat ≤ 0x39 := digit.2
    rw [if_neg (by omega)]
    simp [isSpace]
    omega

theorem to_string_text (text : String) : toString text = text := rfl

theorem intercalate_fields (field : String × Value) (later : List (String × Value)) :
    (" ".intercalate ((field :: later).map fun field => s!"{field.1}={clean field.2}")).toList =
      field.1.toList ++ '=' :: joined ' ' (clean field.2).toList
        (later.map fun field => (field.1.toList ++ ['='], (clean field.2).toList)) := by
  induction later generalizing field with
  | nil => simp [joined, to_string_text]
  | cons next later induction =>
      have further := induction next
      rw [List.map_cons] at further
      rw [List.map_cons, List.map_cons, String.intercalate_cons_cons, String.toList_append,
        String.toList_append, further, List.map_cons, joined]
      simp [to_string_text]

section Lines

variable {ts : String} {record other : AuditEvent}

def opening (ts event : String) (texts : List (String × String)) : List Char :=
  (s!"{clean (.text ts)} audit {event} event={clean (.text event)} ").toList ++
    ((texts.head?.map Prod.fst).getD "").toList ++ ['=']

def written (texts : List (String × String)) : List Char :=
  joined ' ' (reading texts).1 (reading texts).2

def ending (count : Option Int) : List Char :=
  count.elim [] fun number => ' ' :: ("tabs".toList ++ ['=']) ++ (clean (.count number)).toList

theorem format_text_eq (ts : String) (event : String) (field : String × Value)
    (later : List (String × Value)) (noTime : ∀ other ∈ field :: later, other.1 ≠ "ts") :
    (formatText event (("ts", .text ts) :: ("event", .text event) :: field :: later)).toList =
      (((s!"{clean (.text ts)} audit {event} event={clean (.text event)} ").toList ++
        field.1.toList ++ ['=']) ++ joined ' ' (clean field.2).toList
          (later.map fun field => (field.1.toList ++ ['='], (clean field.2).toList))).rdropWhile
        isSpace := by
  have kept : (("ts", Value.text ts) :: ("event", .text event) :: field :: later).filter
      (fun field => field.1 ≠ "ts") = ("event", .text event) :: field :: later := by
    rw [List.filter_cons_of_neg (by simp), List.filter_cons_of_pos (by simp),
      List.filter_eq_self.mpr (by simpa using noTime)]
  have rest := intercalate_fields ("event", .text event) (field :: later)
  rw [formatText, kept]
  change (String.ofList ((clean (.text ts) ++ " audit " ++ event ++ " " ++
    " ".intercalate _).toList.rdropWhile isSpace)).toList = _
  rw [String.toList_ofList, String.toList_append, rest]
  simp [joined, to_string_text]

theorem line_eq (ts : String) (record : AuditEvent) :
    (record.line ts).toList =
      (opening ts record.event record.texts ++ written record.texts ++
        ending record.count).rdropWhile isSpace := by
  cases record with
  | authOk | authDenied | xmppConnect | xmppDisconnect =>
      rw [AuditEvent.line, AuditEvent.fields, format_text_eq _ _ _ _ (by simp)]
      simp only [ending, AuditEvent.count, Option.elim_none, List.append_nil]
      rfl
  | sessionOpen username jid ip tabs | sessionClose username jid ip tabs =>
      rw [AuditEvent.line, AuditEvent.fields, format_text_eq _ _ _ _ (by simp)]
      have behind := @joined_append _ ' ' (clean (.text username)).toList
        ("tabs".toList ++ ['=']) (clean (.count tabs)).toList
        [("jid".toList ++ ['='], (clean (.text jid)).toList),
          ("ip".toList ++ ['='], (clean (.text ip)).toList)]
      rw [List.append_assoc] at behind
      rw [List.cons_append, List.cons_append, List.nil_append] at behind
      simp only [List.map_cons, List.map_nil]
      rw [behind, ← List.append_assoc]
      rfl

theorem cleaned_eq (record : AuditEvent) :
    record.cleaned = record.texts.map Prod.snd ++
      (record.count.map fun number => clean (.count number)).toList := by
  cases record with
  | authOk | authDenied | sessionOpen | sessionClose | xmppConnect | xmppDisconnect => rfl

/-- The names of the texts of an event, and whether a count follows them. -/
def shape (event : String) : List String × Bool :=
  if event = "auth_ok" then (["username", "jid", "ip"], false)
  else if event = "auth_denied" then (["username", "ip", "reason"], false)
  else if event = "xmpp_connect" then (["jid"], false)
  else if event = "xmpp_disconnect" then (["jid", "reason"], false)
  else (["username", "jid", "ip"], true)

theorem shape_eq (record : AuditEvent) :
    record.texts.map Prod.fst = (shape record.event).1 ∧
      record.count.isSome = (shape record.event).2 := by
  cases record with
  | authOk | authDenied | sessionOpen | sessionClose | xmppConnect | xmppDisconnect =>
      exact ⟨rfl, rfl⟩

theorem names_of_event (same : other.event = record.event) :
    other.texts.map Prod.fst = record.texts.map Prod.fst ∧
      other.count.isSome = record.count.isSome := by
  rw [(shape_eq other).1, (shape_eq other).2, same, (shape_eq record).1, (shape_eq record).2]
  exact ⟨rfl, rfl⟩

theorem names_good (record : AuditEvent) :
    Names ' ' ((reading record.texts).2.map Prod.fst) := by
  have user : Names ' ' ["jid".toList ++ ['='], "ip".toList ++ ['=']] := ⟨by decide, by decide⟩
  have denied : Names ' ' ["ip".toList ++ ['='], "reason".toList ++ ['=']] :=
    ⟨by decide, by decide⟩
  have reason : Names ' ' ["reason".toList ++ ['=']] := ⟨by decide, by decide⟩
  have alone : Names ' ' [] := ⟨by decide, by decide⟩
  cases record with
  | authOk | sessionOpen | sessionClose => exact user
  | authDenied => exact denied
  | xmppConnect => exact alone
  | xmppDisconnect => exact reason

end Lines

theorem written_cons (field next : String × String) (later : List (String × String)) :
    written (field :: next :: later) =
      field.2.toList ++ ' ' :: (next.1.toList ++ ['=']) ++ written (next :: later) := rfl

theorem written_longer (before : List (String × String)) (name value more : String) :
    written (before ++ [(name, value ++ more)]) =
      written (before ++ [(name, value)]) ++ more.toList := by
  induction before with
  | nil => exact String.toList_append
  | cons field later induction =>
      cases later with
      | nil => simp [written, reading, joined]
      | cons next later =>
          rw [List.cons_append, List.cons_append, List.cons_append, List.cons_append,
            written_cons, written_cons]
          rw [List.cons_append, List.cons_append] at induction
          rw [induction, ← List.append_assoc]

theorem reading_names {texts texts' : List (String × String)}
    (names : texts'.map Prod.fst = texts.map Prod.fst) :
    (reading texts').2.map Prod.fst = (reading texts).2.map Prod.fst := by
  have labels : ∀ texts : List (String × String), (reading texts).2.map Prod.fst =
      (texts.map Prod.fst).tail.map fun name => name.toList ++ ['='] := by
    intro texts
    cases texts with
    | nil => rfl
    | cons field later => simp [reading, Function.comp_def]
  rw [labels, labels, names]

theorem texts_of_written {texts texts' : List (String × String)}
    (names : texts'.map Prod.fst = texts.map Prod.fst)
    (good : Names ' ' ((reading texts).2.map Prod.fst))
    (separate : Apart ' ' (reading texts).1 (reading texts).2)
    (same : written texts' = written texts) : texts' = texts := by
  cases texts with
  | nil => exact List.map_eq_nil_iff.mp names
  | cons field later =>
      cases texts' with
      | nil => cases names
      | cons field' later' =>
          obtain ⟨first, rest⟩ :=
            Labelled.joined_unique good (reading_names names) separate same
          rw [List.map_cons, List.map_cons, List.cons.injEq] at names
          have values : later'.map Prod.snd = later.map Prod.snd := by
            have texts := congrArg (List.map fun entry => String.ofList entry.2) rest
            simpa [reading, Function.comp_def] using texts
          have heads : field' = field := Prod.ext names.1 (String.toList_injective first)
          have tails : later' = later := by
            calc
              later' = (later'.map Prod.fst).zip (later'.map Prod.snd) := List.zip_of_prod rfl rfl
              _ = (later.map Prod.fst).zip (later.map Prod.snd) := by rw [names.2, values]
              _ = later := (List.zip_of_prod rfl rfl).symm
          rw [heads, tails]

/-- What stands behind a character that is no space keeps it at the end. -/
theorem rdrop_behind {stop : Char} (stays : isSpace stop = false) (before later : List Char) :
    (before ++ stop :: later).rdropWhile isSpace =
      before ++ stop :: later.rdropWhile isSpace := by
  induction later using List.reverseRecOn with
  | nil => exact List.rdropWhile_concat_neg _ _ _ (by simp [stays])
  | append_singleton later last induction =>
      rw [← List.cons_append, ← List.append_assoc]
      by_cases space : isSpace last = true
      · rw [List.rdropWhile_concat_pos _ _ _ space, List.rdropWhile_concat_pos _ _ _ space, induction]
      · rw [List.rdropWhile_concat_neg _ _ _ space, List.rdropWhile_concat_neg _ _ _ space,
          List.append_assoc, List.cons_append]

/-- The last text without the whitespace at its end. -/
def settleLast : List (String × String) → List (String × String)
  | [] => []
  | [field] => [(field.1, rstrip field.2)]
  | field :: next :: later => field :: settleLast (next :: later)

theorem settle_last_names (texts : List (String × String)) :
    (settleLast texts).map Prod.fst = texts.map Prod.fst := by
  fun_induction settleLast texts with
  | case1 => rfl
  | case2 => rfl
  | case3 field next later induction => rw [List.map_cons, induction, ← List.map_cons]

theorem settle_last_cons (field : String × String) (later : List (String × String)) :
    ∃ value settled, settleLast (field :: later) = (field.1, value) :: settled ∧
      value.toList <+: field.2.toList := by
  cases later with
  | nil =>
      refine ⟨_, _, rfl, ?_⟩
      rw [rstrip, String.toList_ofList]
      exact List.rdropWhile_prefix isSpace _
  | cons next later => exact ⟨_, _, rfl, List.prefix_refl _⟩

theorem settle_last_values (texts : List (String × String)) :
    (settleLast texts).map Prod.snd =
      (texts.map Prod.snd).dropLast ++ ((texts.map Prod.snd).getLast?.map rstrip).toList := by
  fun_induction settleLast texts with
  | case1 => rfl
  | case2 => rfl
  | case3 field next later induction => simpa using induction

theorem written_settle_last (texts : List (String × String)) :
    written (settleLast texts) = (written texts).rdropWhile isSpace := by
  fun_induction settleLast texts with
  | case1 => rfl
  | case2 field => simp [written, reading, joined, rstrip]
  | case3 field next later induction =>
      obtain ⟨value, settled, shape, -⟩ := settle_last_cons next later
      have label : ' ' :: (next.1.toList ++ ['=']) ++ written (next :: later) =
          (' ' :: next.1.toList) ++ '=' :: written (next :: later) := by simp
      rw [written_cons, List.append_assoc, label, ← List.append_assoc, rdrop_behind (by decide),
        ← induction, shape, written_cons]
      simp

theorem apart_settle_last {texts : List (String × String)}
    (separate : Apart ' ' (reading texts).1 (reading texts).2) :
    Apart ' ' (reading (settleLast texts)).1 (reading (settleLast texts)).2 := by
  fun_induction settleLast texts with
  | case1 => exact separate
  | case2 field => trivial
  | case3 field next later induction =>
      obtain ⟨absent, beyond, further⟩ := separate
      obtain ⟨value, settled, shape, start⟩ := settle_last_cons next later
      have rest := induction further
      rw [shape] at rest ⊢
      exact ⟨absent, fun inside => beyond (inside.trans start.isInfix), rest⟩

theorem opening_names {ts event : String} {texts texts' : List (String × String)}
    (names : texts'.map Prod.fst = texts.map Prod.fst) :
    opening ts event texts' = opening ts event texts := by
  have first := congrArg List.head? names
  rw [List.head?_map, List.head?_map] at first
  rw [opening, opening, first]

section Readings

variable {ts : String} {record other : AuditEvent}

theorem settled_of_cleaned (same : other.cleaned = record.cleaned) :
    other.settled = record.settled := by
  rw [AuditEvent.settled, same, AuditEvent.settled]

theorem settled_of_texts (uncounted : record.count = none) :
    record.settled = (settleLast record.texts).map Prod.snd := by
  rw [settle_last_values, AuditEvent.settled, cleaned_eq, uncounted, Option.map_none,
    Option.toList_none, List.append_nil]

theorem settled_dropLast (record : AuditEvent) : record.settled.dropLast = record.cleaned.dropLast := by
  rw [AuditEvent.settled]
  cases value : record.cleaned.getLast? with
  | none =>
      rw [List.getLast?_eq_none_iff] at value
      rw [value]
      rfl
  | some last => exact List.dropLast_concat

theorem counted_line {number : Int} (counted : record.count = some number) :
    (record.line ts).toList =
      opening ts record.event record.texts ++ written record.texts ++
        ' ' :: ("tabs".toList ++ ['=']) ++ (clean (.count number)).toList := by
  have digits : (clean (.count number)).toList.rdropWhile isSpace = (clean (.count number)).toList := by
    rw [List.rdropWhile_eq_self_iff]
    intro some
    rw [count_spaceless (List.getLast_mem some)]
    simp
  rw [line_eq, counted, ending, Option.elim_some]
  have label : ∀ later : List Char, ' ' :: ("tabs".toList ++ ['=']) ++ later =
      ' ' :: "tabs".toList ++ '=' :: later := by simp
  rw [label, ← List.append_assoc, rdrop_behind (by decide), digits, List.append_assoc, ← label,
    ← List.append_assoc]

theorem uncounted_line (uncounted : record.count = none) :
    (record.line ts).toList =
      opening ts record.event record.texts ++ written (settleLast record.texts) := by
  have stops : ∀ later : List Char, opening ts record.event record.texts ++ later =
      ((s!"{clean (.text ts)} audit {record.event} event={clean (.text record.event)} ").toList ++
        ((record.texts.head?.map Prod.fst).getD "").toList) ++ '=' :: later := by
    simp [opening]
  rw [line_eq, uncounted, ending, Option.elim_none, List.append_nil, stops,
    rdrop_behind (by decide), stops, written_settle_last]

/-- Separate texts are told from those of every other record of the event. -/
theorem settled_of_line (separate : Separate record) (event : other.event = record.event)
    (same : other.line ts = record.line ts) : other.settled = record.settled := by
  obtain ⟨names, counts⟩ := names_of_event event
  have lines := congrArg String.toList same
  cases counted : record.count with
  | none =>
      have uncounted : other.count = none := by
        rw [counted] at counts
        exact Option.not_isSome_iff_eq_none.mp (by rw [counts]; decide)
      rw [uncounted_line uncounted, uncounted_line counted, opening_names names, event,
        List.append_cancel_left_eq] at lines
      have still : (settleLast other.texts).map Prod.fst = (settleLast record.texts).map Prod.fst := by
        rw [settle_last_names, settle_last_names, names]
      have good : Names ' ' ((reading (settleLast record.texts)).2.map Prod.fst) := by
        rw [reading_names (settle_last_names _)]
        exact names_good record
      have texts := texts_of_written still good (apart_settle_last separate) lines
      rw [settled_of_texts uncounted, settled_of_texts counted, texts]
  | some number =>
      obtain ⟨number', counted'⟩ : ∃ number', other.count = some number' := by
        rw [counted] at counts
        exact Option.isSome_iff_exists.mp counts
      rw [counted_line counted', counted_line counted, opening_names names, event] at lines
      have spaceless : ∀ number, ' ' ∉ (clean (.count number)).toList := by
        intro number member
        exact absurd (count_spaceless member) (by decide)
      rcases Labelled.labels_compare (by decide) (by decide) lines with
        ⟨before, digits⟩ | ⟨between, -, digits⟩ | ⟨between, -, digits⟩
      · rw [List.append_cancel_left_eq] at before digits
        have texts := texts_of_written names (names_good record) separate before
        apply settled_of_cleaned
        rw [cleaned_eq, cleaned_eq, texts, counted, counted', Option.map_some, Option.map_some,
          String.toList_injective digits]
      · have space : ' ' ∈ (clean (.count number')).toList := by
          rw [digits]
          simp
        exact absurd space (spaceless number')
      · have space : ' ' ∈ (clean (.count number)).toList := by
          rw [digits]
          simp
        exact absurd space (spaceless number)

theorem names_printable (record : AuditEvent) :
    ∀ name ∈ record.texts.map Prod.fst, ∀ char ∈ name.toList, 0x20 ≤ char.toNat := by
  have user : ∀ name ∈ ["username", "jid", "ip"], ∀ char ∈ name.toList, 0x20 ≤ char.toNat := by
    decide
  have denied : ∀ name ∈ ["username", "ip", "reason"], ∀ char ∈ name.toList,
      0x20 ≤ char.toNat := by
    decide
  have reason : ∀ name ∈ ["jid", "reason"], ∀ char ∈ name.toList, 0x20 ≤ char.toNat := by
    decide
  have alone : ∀ name ∈ ["jid"], ∀ char ∈ name.toList, 0x20 ≤ char.toNat := by
    decide
  cases record with
  | authOk | sessionOpen | sessionClose => exact user
  | authDenied => exact denied
  | xmppConnect => exact alone
  | xmppDisconnect => exact reason

theorem text_printable {field : String × String} (member : field ∈ record.texts) :
    ∀ char ∈ field.2.toList, 0x20 ≤ char.toNat := by
  obtain ⟨original, -, rfl⟩ := List.mem_map.mp member
  intro char inside
  exact clean_printable inside

theorem written_printable {texts : List (String × String)} {char : Char}
    (names : ∀ name ∈ texts.map Prod.fst, ∀ char ∈ name.toList, 0x20 ≤ char.toNat)
    (values : ∀ field ∈ texts, ∀ char ∈ field.2.toList, 0x20 ≤ char.toNat)
    (member : char ∈ written texts) : 0x20 ≤ char.toNat := by
  induction texts with
  | nil => cases member
  | cons field later induction =>
      cases later with
      | nil => exact values field (List.mem_cons_self ..) char (by simpa [written, reading, joined] using member)
      | cons next later =>
          rw [written_cons, List.mem_append, List.mem_append] at member
          rcases member with (first | label) | rest
          · exact values field (List.mem_cons_self ..) char first
          · simp only [List.mem_cons, List.mem_append, List.not_mem_nil, or_false] at label
            rcases label with rfl | inName | rfl
            · decide
            · exact names next.1 (by simp) char inName
            · decide
          · apply induction _ _ rest
            · intro name among
              exact names name (List.mem_cons_of_mem _ among)
            · intro other among
              exact values other (List.mem_cons_of_mem _ among)

theorem record_printable {char : Char} (member : char ∈ written record.texts) :
    0x20 ≤ char.toNat := by
  apply written_printable (names_printable record) _ member
  intro field
  exact text_printable

theorem ending_printable {count : Option Int} {char : Char} (member : char ∈ ending count) :
    0x20 ≤ char.toNat := by
  cases count with
  | none => cases member
  | some number =>
      have label : ∀ char ∈ ' ' :: ("tabs".toList ++ ['=']), 0x20 ≤ char.toNat := by decide
      rcases List.mem_append.mp member with inLabel | digit
      · exact label char inLabel
      · exact clean_printable digit

theorem opening_printable {char : Char}
    (member : char ∈ opening ts record.event record.texts) : 0x20 ≤ char.toNat := by
  have events : ∀ event ∈ ["auth_ok", "auth_denied", "session_open", "session_close",
      "xmpp_connect", "xmpp_disconnect"], ∀ char ∈ event.toList, 0x20 ≤ char.toNat := by
    decide
  have event : ∀ char ∈ record.event.toList, 0x20 ≤ char.toNat := by
    apply events
    cases record with
    | authOk | authDenied | sessionOpen | sessionClose | xmppConnect | xmppDisconnect =>
        simp [AuditEvent.event]
  have first : ∀ char ∈ ((record.texts.head?.map Prod.fst).getD "").toList, 0x20 ≤ char.toNat := by
    cases texts : record.texts with
    | nil => decide
    | cons field later =>
        apply names_printable record
        rw [texts]
        exact List.mem_cons_self ..
  have audit : ∀ char ∈ " audit ".toList, 0x20 ≤ char.toNat := by decide
  have label : ∀ char ∈ " event=".toList, 0x20 ≤ char.toNat := by decide
  have blank : ∀ char ∈ " ".toList, 0x20 ≤ char.toNat := by decide
  have sign : ∀ char ∈ ['='], 0x20 ≤ char.toNat := by decide
  simp only [opening, String.toList_append, to_string_text, List.mem_append] at member
  rcases member with (((((((time | inAudit) | name) | inLabel) | again) | space) | field) | last)
  · exact clean_printable time
  · exact audit char inAudit
  · exact event char name
  · exact label char inLabel
  · exact clean_printable again
  · exact blank char space
  · exact first char field
  · exact sign char last

theorem record_of_texts {texts : List (String × String)}
    (names : texts.map Prod.fst = record.texts.map Prod.fst)
    (printable : ∀ field ∈ texts, ∀ char ∈ field.2.toList, 0x20 ≤ char.toNat) :
    ∃ other : AuditEvent, other.event = record.event ∧ other.texts = texts ∧
      other.count = record.count := by
  obtain ⟨values, shape, kept⟩ : ∃ values : List String,
      texts = (record.texts.map Prod.fst).zip values ∧ values = texts.map Prod.snd :=
    ⟨_, List.zip_of_prod names rfl, rfl⟩
  have count : values.length = record.texts.length := by
    have lengths := congrArg List.length names
    rw [List.length_map, List.length_map] at lengths
    rw [kept, List.length_map, lengths]
  have stays : ∀ value ∈ values, clean (.text value) = value := by
    intro value member
    rw [kept, List.mem_map] at member
    obtain ⟨field, among, rfl⟩ := member
    exact clean_of_printable (printable field among)
  have three : ∀ (first second third : String) (one two last : String),
      values = [one, two, last] →
      [(first, clean (.text one)), (second, clean (.text two)), (third, clean (.text last))] =
        [first, second, third].zip values := by
    rintro first second third one two last rfl
    simp [stays]
  rw [shape]
  cases record with
  | authOk =>
      obtain ⟨username, jid, ip, same⟩ := List.length_eq_three.mp count
      exact ⟨.authOk username jid ip, rfl, three _ _ _ username jid ip same, rfl⟩
  | authDenied =>
      obtain ⟨username, ip, reason, same⟩ := List.length_eq_three.mp count
      exact ⟨.authDenied username ip reason, rfl, three _ _ _ username ip reason same, rfl⟩
  | sessionOpen _ _ _ tabs =>
      obtain ⟨username, jid, ip, same⟩ := List.length_eq_three.mp count
      exact ⟨.sessionOpen username jid ip tabs, rfl, three _ _ _ username jid ip same, rfl⟩
  | sessionClose _ _ _ tabs =>
      obtain ⟨username, jid, ip, same⟩ := List.length_eq_three.mp count
      exact ⟨.sessionClose username jid ip tabs, rfl, three _ _ _ username jid ip same, rfl⟩
  | xmppConnect =>
      obtain ⟨jid, rfl⟩ := List.length_eq_one_iff.mp count
      refine ⟨.xmppConnect jid, rfl, ?_, rfl⟩
      change [("jid", clean (.text jid))] = [("jid", jid)]
      rw [stays jid (List.mem_cons_self ..)]
  | xmppDisconnect =>
      obtain ⟨jid, reason, rfl⟩ := List.length_eq_two.mp count
      refine ⟨.xmppDisconnect jid reason, rfl, ?_, rfl⟩
      change [("jid", clean (.text jid)), ("reason", clean (.text reason))] =
        [("jid", jid), ("reason", reason)]
      rw [stays jid (by simp), stays reason (by simp)]

theorem texts_of_reading {names : List String} {rest : List (List Char × List Char)}
    (labels : rest.map Prod.fst = names.map fun name => name.toList ++ ['=']) :
    ∃ later : List (String × String), later.map Prod.fst = names ∧
      (later.map fun field => (field.1.toList ++ ['='], field.2.toList)) = rest := by
  induction names generalizing rest with
  | nil =>
      rw [List.map_nil, List.map_eq_nil_iff] at labels
      exact ⟨[], rfl, labels.symm⟩
  | cons name names induction =>
      cases rest with
      | nil => cases labels
      | cons entry rest =>
          obtain ⟨label, text⟩ := entry
          rw [List.map_cons, List.map_cons, List.cons.injEq] at labels
          obtain ⟨later, kept, same⟩ := induction labels.2
          refine ⟨(name, String.ofList text) :: later, by rw [List.map_cons, kept], ?_⟩
          rw [List.map_cons, same, String.toList_ofList, ← labels.1]

/-- Texts that are not separate are imitated by another record of the event. -/
theorem imitated (together : ¬ Separate record) :
    ∃ other : AuditEvent, other.event = record.event ∧ other.line ts = record.line ts ∧
      other.settled ≠ record.settled := by
  obtain ⟨text, rest, names, same, differs⟩ := Labelled.joined_otherwise together
  cases texts : record.texts with
  | nil =>
      rw [Separate, texts] at together
      exact absurd trivial together
  | cons field later =>
      rw [texts] at names same differs
      have labels : rest.map Prod.fst =
          (later.map Prod.fst).map fun name => name.toList ++ ['='] := by
        rw [names]
        simp [reading, Function.comp_def]
      obtain ⟨later', laterNames, reads⟩ := texts_of_reading labels
      let texts' := (field.1, String.ofList text) :: later'
      have read : reading texts' = (text, rest) := by
        rw [reading, reads, String.toList_ofList]
      have keepsNames : texts'.map Prod.fst = record.texts.map Prod.fst := by
        rw [texts, List.map_cons, laterNames, List.map_cons]
      have keepsText : written texts' = written record.texts := by
        rw [written, read, texts, written, ← same]
      have values : texts'.map (fun field => field.2.toList) = text :: rest.map Prod.snd := by
        rw [← reads]
        simp [texts', Function.comp_def]
      have printable : ∀ field ∈ texts', ∀ char ∈ field.2.toList, 0x20 ≤ char.toNat := by
        intro entry among char inside
        have part : entry.2.toList ∈ text :: rest.map Prod.snd := by
          rw [← values]
          exact List.mem_map_of_mem among
        have anywhere : char ∈ written texts' := by
          rw [written, read]
          exact Labelled.mem_joined ⟨_, part, inside⟩
        rw [keepsText] at anywhere
        exact record_printable anywhere
      obtain ⟨other, event, otherTexts, count⟩ := record_of_texts keepsNames printable
      refine ⟨other, event, ?_, ?_⟩
      · apply String.toList_injective
        rw [line_eq, line_eq, otherTexts, opening_names keepsNames, keepsText, event, count]
      · intro settled
        have shorter : other.cleaned.dropLast = record.cleaned.dropLast := by
          rw [← settled_dropLast, settled, settled_dropLast]
        have before : (texts'.map Prod.snd).dropLast = (record.texts.map Prod.snd).dropLast := by
          rw [cleaned_eq, cleaned_eq, otherTexts, count] at shorter
          cases counted : record.count with
          | none => simpa [counted] using shorter
          | some number =>
              rw [counted, Option.map_some, Option.toList_some, List.dropLast_concat,
                List.dropLast_concat] at shorter
              rw [shorter]
        have letters := congrArg (List.map String.toList) before
        rw [List.map_dropLast, List.map_dropLast, List.map_map, List.map_map, texts] at letters
        apply differs
        rw [← values]
        exact letters.trans (by simp [reading, Function.comp_def])

theorem no_line_break (char : Char) (member : char ∈ (record.line ts).toList) :
    char ≠ '\n' ∧ char ≠ '\r' := by
  have printable : 0x20 ≤ char.toNat := by
    rw [line_eq] at member
    have kept := (List.rdropWhile_prefix _ _).subset member
    rw [List.mem_append, List.mem_append] at kept
    rcases kept with (first | inTexts) | last
    · exact opening_printable first
    · exact record_printable inTexts
    · exact ending_printable last
  constructor
  · rintro rfl
    exact absurd printable (by decide)
  · rintro rfl
    exact absurd printable (by decide)

theorem told_apart_iff (ts : String) (record : AuditEvent) :
    (∀ other : AuditEvent, other.event = record.event → other.settled ≠ record.settled →
      other.line ts ≠ record.line ts) ↔ Separate record := by
  constructor
  · intro told
    by_contra together
    obtain ⟨other, event, same, differs⟩ := imitated together
    exact told other event differs same
  · intro separate other event differs same
    exact differs (settled_of_line separate event same)

theorem settled_of_counted {number : Int} (counted : record.count = some number) :
    record.settled = record.cleaned := by
  have digits : rstrip (clean (.count number)) = clean (.count number) := by
    rw [rstrip, List.rdropWhile_eq_self_iff.mpr, String.ofList_toList]
    intro some
    rw [count_spaceless (List.getLast_mem some)]
    simp
  rw [AuditEvent.settled, cleaned_eq, counted, Option.map_some, Option.toList_some,
    List.dropLast_concat, List.getLast?_concat, Option.map_some, digits]
  rfl

theorem trailing_space (uncounted : record.count = none) :
    ∃ other : AuditEvent, other.event = record.event ∧ other.cleaned ≠ record.cleaned ∧
      other.line ts = record.line ts := by
  rcases List.eq_nil_or_concat record.texts with none | ⟨before, ⟨name, value⟩, texts⟩
  · cases record with
    | authOk | authDenied | sessionOpen | sessionClose | xmppConnect | xmppDisconnect =>
        exact absurd none (List.cons_ne_nil _ _)
  · rw [List.concat_eq_append] at texts
    have names : (before ++ [(name, value ++ " ")]).map Prod.fst = record.texts.map Prod.fst := by
      rw [texts, List.map_append, List.map_append]
      rfl
    have printable : ∀ field ∈ before ++ [(name, value ++ " ")], ∀ char ∈ field.2.toList,
        0x20 ≤ char.toNat := by
      have old : ∀ field ∈ record.texts, ∀ char ∈ field.2.toList, 0x20 ≤ char.toNat :=
        fun field => text_printable
      rw [texts, List.forall_mem_append, List.forall_mem_singleton] at old
      rw [List.forall_mem_append, List.forall_mem_singleton]
      refine ⟨old.1, ?_⟩
      intro char inside
      rw [String.toList_append, List.mem_append] at inside
      rcases inside with kept | added
      · exact old.2 char kept
      · have blank : ∀ char ∈ " ".toList, 0x20 ≤ char.toNat := by decide
        exact blank char added
    obtain ⟨other, event, otherTexts, count⟩ := record_of_texts names printable
    refine ⟨other, event, ?_, ?_⟩
    · intro same
      rw [cleaned_eq, cleaned_eq, otherTexts, count, texts, List.append_cancel_right_eq,
        List.map_append, List.map_append, List.append_cancel_left_eq] at same
      have lengths := congrArg String.length (List.cons.inj same).1
      simp at lengths
    · apply String.toList_injective
      rw [line_eq, line_eq, otherTexts, opening_names names, event, count, uncounted, texts,
        written_longer]
      have blank : " ".toList = [' '] := rfl
      rw [ending, Option.elim_none, List.append_nil, List.append_nil, blank, ← List.append_assoc,
        List.rdropWhile_concat_pos _ _ _ (by decide)]

end Readings

/-- No other record has the line of a record just when the record ends in a count and
its texts are separate. But for whitespace at the end of the line, separate texts
are what it takes. -/
theorem unforgeable_iff (ts : String) (record : AuditEvent) :
    (Unforgeable ts record ↔ record.count.isSome ∧ Separate record) ∧
      ((∀ other : AuditEvent, other.event = record.event → other.settled ≠ record.settled →
        other.line ts ≠ record.line ts) ↔ Separate record) := by
  refine ⟨⟨?_, ?_⟩, told_apart_iff ts record⟩
  · intro unforgeable
    constructor
    · by_contra uncounted
      obtain ⟨other, event, differs, same⟩ :=
        trailing_space (Option.not_isSome_iff_eq_none.mp uncounted)
      exact unforgeable.2 other event differs same
    · apply (told_apart_iff ts record).mp
      intro other event differs
      apply unforgeable.2 other event
      intro same
      exact differs (settled_of_cleaned same)
  · rintro ⟨counted, separate⟩
    refine ⟨fun char => no_line_break char, ?_⟩
    intro other event differs same
    have counted' := counted
    rw [← (names_of_event event).2] at counted'
    obtain ⟨number, some⟩ := Option.isSome_iff_exists.mp counted
    obtain ⟨number', some'⟩ := Option.isSome_iff_exists.mp counted'
    have settled := settled_of_line separate event same
    rw [settled_of_counted some, settled_of_counted some'] at settled
    exact differs settled

/-- A name with an address behind it, and the address the proxy reports with another
before it. -/
theorem name_imitates_address :
    let record := AuditEvent.authDenied (some "bob") "203.0.113.7 ip=10.0.0.1" "r"
    let other := AuditEvent.authDenied (some "bob ip=203.0.113.7") "10.0.0.1" "r"
    other.event = record.event ∧ other.cleaned ≠ record.cleaned ∧
      ∀ ts, other.line ts = record.line ts := by
  refine ⟨rfl, by decide, ?_⟩
  intro ts
  apply String.toList_injective
  rw [line_eq, line_eq]
  rfl

end PyConduit.Audit
