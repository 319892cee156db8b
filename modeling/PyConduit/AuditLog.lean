import PyConduit.Audit
import PyConduit.JsonText

/-!
# The sinks of the audit log

`AuditLog` opens one sink for each configured destination and writes every event to
each of them, in text or JSON; a write that raises is passed over. Two destinations may
lead to one file or both to stdout, so what is kept is the content of each target.
-/

namespace PyConduit.AuditLog

open Audit JsonText

set_option autoImplicit false

inductive AuditFormat
  | text
  | json
  deriving DecidableEq

structure AuditDestination where
  type : String := "stdout"
  path : Option String := none
  format : AuditFormat := .text

/-- What a stream writes to; a file is known by more than one path. -/
inductive Target
  | stdout
  | file (name : String)
  deriving DecidableEq

structure Sink where
  stream : Target
  fmt : AuditFormat

/-- `openFile` makes the directory of a path and opens it for appending: the file it
leads to, or the text of an OSError. -/
structure Env where
  openFile : String → Except String String
  repr : String → String

inductive InitError
  | valueError (text : String)
  | osError (text : String)

def openSink (env : Env) (dest : AuditDestination) : Except InitError Sink :=
  if dest.type = "stdout" then .ok ⟨.stdout, dest.format⟩
  else if dest.type = "file" then
    match dest.path with
    | none => .error (.valueError "audit file destination requires 'path'")
    | some path =>
        match env.openFile path with
        | .ok name => .ok ⟨.file name, dest.format⟩
        | .error text => .error (.osError text)
  else .error (.valueError s!"unknown audit destination type: {env.repr dest.type}")

def init (env : Env) (destinations : List AuditDestination) : Except InitError (List Sink) :=
  destinations.mapM (openSink env)

def scalar : Value → Scalar
  | .none => .null
  | .text given => .text given
  | .count number => .number number

def record (ts : String) (event : AuditEvent) : List (String × Value) :=
  ("ts", .text ts) :: ("event", .text event.event) :: event.fields

def jsonRecord (ts : String) (event : AuditEvent) : List (String × Scalar) :=
  (record ts event).map fun field => (field.1, scalar field.2)

def lineOf (ts : String) (event : AuditEvent) : AuditFormat → List Char
  | .text => (formatText event.event (record ts event)).toList ++ ['\n']
  | .json => dumps (jsonRecord ts event) ++ ['\n']

/-- A write and its flush return, or raise when the target has taken this many
characters. -/
inductive Outcome
  | written
  | raised (taken : Nat)
  deriving DecidableEq

def Outcome.kept (line : List Char) : Outcome → List Char
  | .written => line
  | .raised taken => line.take taken

/-- A call of `emit` at a time, with what becomes of the write to the sink of each
position. -/
structure Emission where
  ts : String
  event : AuditEvent
  outcomes : Nat → Outcome

abbrev Contents := Target → List Char

def writeTo (emission : Emission) (contents : Contents) (entry : Sink × Nat) : Contents :=
  Function.update contents entry.1.stream
    (contents entry.1.stream ++
      (emission.outcomes entry.2).kept (lineOf emission.ts emission.event entry.1.fmt))

def emit (sinks : List Sink) (contents : Contents) (emission : Emission) : Contents :=
  sinks.zipIdx.foldl (writeTo emission) contents

def run (sinks : List Sink) (contents : Contents) (emissions : List Emission) : Contents :=
  emissions.foldl (emit sinks) contents

def share (target : Target) (emission : Emission) (entries : List (Sink × Nat)) : List Char :=
  entries.flatMap fun entry =>
    if entry.1.stream = target then
      (emission.outcomes entry.2).kept (lineOf emission.ts emission.event entry.1.fmt)
    else []

theorem write_to_target (emission : Emission) (contents : Contents) (entry : Sink × Nat)
    (target : Target) :
    writeTo emission contents entry target = contents target ++ share target emission [entry] := by
  unfold writeTo share
  by_cases same : entry.1.stream = target
  · subst same
    simp
  · rw [Function.update_of_ne (Ne.symm same)]
    simp [same]

theorem writes_to_target (emission : Emission) (entries : List (Sink × Nat)) (contents : Contents)
    (target : Target) :
    entries.foldl (writeTo emission) contents target =
      contents target ++ share target emission entries := by
  induction entries generalizing contents with
  | nil => simp [share]
  | cons entry later induction =>
      have split : share target emission (entry :: later) =
          share target emission [entry] ++ share target emission later := by
        simp [share]
      rw [List.foldl_cons, induction, write_to_target, split, List.append_assoc]

/-- What a target holds after a run is what each emission in its turn brings to it. -/
theorem run_contents (sinks : List Sink) (emissions : List Emission) (contents : Contents)
    (target : Target) :
    run sinks contents emissions target =
      contents target ++ emissions.flatMap fun emission => share target emission sinks.zipIdx := by
  induction emissions generalizing contents with
  | nil => simp [run]
  | cons emission later induction =>
      have first : emit sinks contents emission target =
          contents target ++ share target emission sinks.zipIdx := writes_to_target ..
      have behind := induction (emit sinks contents emission)
      rw [first, List.append_assoc] at behind
      exact behind

section Reading

def textAt (fields : List (String × Scalar)) (name : String) : Option String :=
  match fields.lookup name with
  | some (.text given) => some given
  | _ => none

def numberAt (fields : List (String × Scalar)) (name : String) : Option Int :=
  match fields.lookup name with
  | some (.number value) => some value
  | _ => none

/-- The event a record tells of, by the names of its fields. -/
def eventOf (fields : List (String × Scalar)) : Option AuditEvent := do
  let event ← textAt fields "event"
  if event = "auth_ok" then
    return .authOk (← textAt fields "username") (← textAt fields "jid") (← textAt fields "ip")
  else if event = "auth_denied" then
    return .authDenied (textAt fields "username") (← textAt fields "ip") (← textAt fields "reason")
  else if event = "session_open" then
    return .sessionOpen (← textAt fields "username") (← textAt fields "jid") (← textAt fields "ip")
      (← numberAt fields "tabs")
  else if event = "session_close" then
    return .sessionClose (← textAt fields "username") (← textAt fields "jid") (← textAt fields "ip")
      (← numberAt fields "tabs")
  else if event = "xmpp_connect" then
    return .xmppConnect (← textAt fields "jid")
  else if event = "xmpp_disconnect" then
    return .xmppDisconnect (← textAt fields "jid") (← textAt fields "reason")
  else none

def entryOf (fields : List (String × Scalar)) : Option (String × AuditEvent) := do
  return (← textAt fields "ts", ← eventOf fields)

def readLines : Nat → List Char → Option (List (String × AuditEvent))
  | _, [] => some []
  | 0, _ :: _ => none
  | fuel + 1, input => do
      let (fields, rest) ← loads input
      match rest with
      | '\n' :: rest =>
          let entry ← entryOf fields
          let later ← readLines fuel rest
          some (entry :: later)
      | _ => none

def readLog (content : List Char) : Option (List (String × AuditEvent)) :=
  readLines content.length content

def logText (entries : List (String × AuditEvent)) : List Char :=
  entries.flatMap fun entry => lineOf entry.1 entry.2 .json

theorem entry_of_record (ts : String) (event : AuditEvent) :
    entryOf (jsonRecord ts event) = some (ts, event) := by
  cases event with
  | authDenied username ip reason =>
      cases username with
      | none => rfl
      | some username => rfl
  | _ => rfl

theorem log_text_cons (entry : String × AuditEvent) (later : List (String × AuditEvent)) :
    logText (entry :: later) =
      dumps (jsonRecord entry.1 entry.2) ++ '\n' :: logText later := by
  simp [logText, lineOf]

theorem log_text_append (first second : List (String × AuditEvent)) :
    logText (first ++ second) = logText first ++ logText second :=
  List.flatMap_append ..

theorem read_lines_text (entries : List (String × AuditEvent)) {fuel : Nat}
    (enough : entries.length ≤ fuel) : readLines fuel (logText entries) = some entries := by
  induction entries generalizing fuel with
  | nil =>
      cases fuel with
      | zero => rfl
      | succ fuel => rfl
  | cons entry later induction =>
      cases fuel with
      | zero => cases enough
      | succ fuel =>
          have read := loads_dumps (jsonRecord entry.1 entry.2) ('\n' :: logText later)
          have behind := induction (Nat.le_of_succ_le_succ enough)
          have opens : ∃ char rest, logText (entry :: later) = char :: rest := by
            rw [log_text_cons]
            exact ⟨_, _, rfl⟩
          obtain ⟨char, rest, shape⟩ := opens
          rw [log_text_cons] at shape ⊢
          rw [shape, readLines, ← shape, read]
          · simp only [Option.bind_eq_bind, Option.bind_some, entry_of_record, behind]
          · intro empty
            cases empty

theorem entries_fit (entries : List (String × AuditEvent)) :
    entries.length ≤ (logText entries).length := by
  induction entries with
  | nil => exact Nat.le_refl 0
  | cons entry later induction =>
      rw [log_text_cons]
      simp only [List.length_append, List.length_cons]
      omega

theorem read_log_text (entries : List (String × AuditEvent)) :
    readLog (logText entries) = some entries :=
  read_lines_text entries (entries_fit entries)

end Reading

section Opening

variable {env : Env} {dest : AuditDestination} {sink : Sink}

def leadsTo (env : Env) (dest : AuditDestination) : Option Target :=
  match openSink env dest with
  | .ok sink => some sink.stream
  | .error _ => none

theorem opened_sink (opened : openSink env dest = .ok sink) :
    leadsTo env dest = some sink.stream ∧ sink.fmt = dest.format := by
  constructor
  · simp only [leadsTo, opened]
  · unfold openSink at opened
    split_ifs at opened
    · cases opened
      rfl
    · split at opened
      · cases opened
      · split at opened
        · cases opened
          rfl
        · cases opened

/-- The sinks stand in the order of the destinations. -/
theorem opened_sinks {destinations : List AuditDestination} {sinks : List Sink}
    (opened : init env destinations = .ok sinks) :
    List.Forall₂ (fun dest sink => openSink env dest = .ok sink) destinations sinks := by
  induction destinations generalizing sinks with
  | nil =>
      cases opened
      exact .nil
  | cons dest later induction =>
      simp only [init, List.mapM_cons] at opened
      cases first : openSink env dest with
      | error error =>
          rw [first] at opened
          cases opened
      | ok sink =>
          rw [first] at opened
          cases others : later.mapM (openSink env) with
          | error error =>
              simp only [bind, Except.bind, others] at opened
              cases opened
          | ok rest =>
              simp only [bind, Except.bind, others] at opened
              cases opened
              exact .cons first (induction others)

theorem opened_from {destinations : List AuditDestination} {sinks : List Sink}
    (matched : List.Forall₂ (fun dest sink => openSink env dest = .ok sink) destinations sinks)
    (member : sink ∈ sinks) : ∃ dest ∈ destinations, openSink env dest = .ok sink := by
  induction matched with
  | nil => cases member
  | @cons dest first _ _ found _ induction =>
      rcases List.mem_cons.mp member with same | later
      · exact ⟨dest, List.mem_cons_self, same ▸ found⟩
      · obtain ⟨other, among, known⟩ := induction later
        exact ⟨other, List.mem_cons_of_mem _ among, known⟩

end Opening

section Trail

variable {sinks : List Sink} {target : Target}

def copies (sinks : List Sink) (target : Target) : Nat :=
  sinks.countP fun sink => sink.stream = target

def Undisturbed (sinks : List Sink) (target : Target) (emission : Emission) : Prop :=
  ∀ entry ∈ sinks.zipIdx, entry.1.stream = target → emission.outcomes entry.2 = .written

theorem share_of_undisturbed (json : ∀ sink ∈ sinks, sink.stream = target → sink.fmt = .json)
    {emission : Emission} (undisturbed : Undisturbed sinks target emission) :
    share target emission sinks.zipIdx =
      logText (List.replicate (copies sinks target) (emission.ts, emission.event)) := by
  have counted : copies sinks target =
      sinks.zipIdx.countP fun entry => entry.1.stream = target := by
    have mapped : sinks = sinks.zipIdx.map Prod.fst := (List.zipIdx_map_fst 0 sinks).symm
    rw [copies]
    conv_lhs => rw [mapped]
    rw [List.countP_map]
    rfl
  have each : ∀ entry ∈ sinks.zipIdx, entry.1.stream = target →
      (emission.outcomes entry.2).kept (lineOf emission.ts emission.event entry.1.fmt) =
        lineOf emission.ts emission.event .json := by
    intro entry member leads
    have among : entry.1 ∈ sinks := by
      have mapped : entry.1 ∈ sinks.zipIdx.map Prod.fst := List.mem_map_of_mem member
      rwa [List.zipIdx_map_fst] at mapped
    rw [undisturbed entry member leads, json entry.1 among leads]
    rfl
  rw [counted]
  clear counted undisturbed
  generalize sinks.zipIdx = entries at each
  induction entries with
  | nil => rfl
  | cons entry later induction =>
      have behind := induction fun other member => each other (List.mem_cons_of_mem _ member)
      rw [share, List.flatMap_cons, ← share, behind]
      by_cases leads : entry.1.stream = target
      · rw [if_pos leads, each entry List.mem_cons_self leads,
          List.countP_cons_of_pos (by simpa using leads), List.replicate_succ]
        rfl
      · rw [if_neg leads, List.countP_cons_of_neg (by simpa using leads), List.nil_append]

/-- Whatever becomes of the writes to all other targets, a target that only JSON
destinations lead to, and whose own writes succeed, holds every event once for each of
them, in order, behind what earlier runs left there, and each entry is read back. -/
theorem json_log_reads_back (env : Env) (destinations : List AuditDestination)
    (opened : init env destinations = .ok sinks)
    (json : ∀ dest ∈ destinations, leadsTo env dest = some target → dest.format = .json)
    (contents : Contents) (earlier : List (String × AuditEvent))
    (before : contents target = logText earlier) (emissions : List Emission)
    (undisturbed : ∀ emission ∈ emissions, Undisturbed sinks target emission) :
    readLog (run sinks contents emissions target) =
      some (earlier ++ emissions.flatMap fun emission =>
        List.replicate (destinations.countP fun dest => leadsTo env dest = some target)
          (emission.ts, emission.event)) := by
  have matched := opened_sinks opened
  have allJson : ∀ sink ∈ sinks, sink.stream = target → sink.fmt = .json := by
    intro sink member leads
    obtain ⟨dest, among, found⟩ := opened_from matched member
    obtain ⟨known, format⟩ := opened_sink found
    rw [format]
    exact json dest among (leads ▸ known)
  have counted : (destinations.countP fun dest => leadsTo env dest = some target) =
      copies sinks target := by
    clear opened json undisturbed allJson
    induction matched with
    | nil => rfl
    | @cons dest sink _ _ found _ induction =>
        simp only [copies, List.countP_cons, (opened_sink found).1, Option.some.injEq] at induction ⊢
        rw [induction]
  have shares : (emissions.flatMap fun emission => share target emission sinks.zipIdx) =
      logText (emissions.flatMap fun emission =>
        List.replicate (copies sinks target) (emission.ts, emission.event)) := by
    induction emissions with
    | nil => rfl
    | cons emission later induction =>
        have behind := induction fun other member => undisturbed other (List.mem_cons_of_mem _ member)
        rw [List.flatMap_cons, List.flatMap_cons, log_text_append, behind,
          share_of_undisturbed allJson (undisturbed emission List.mem_cons_self)]
  rw [counted, run_contents, before, shares, ← log_text_append, read_log_text]

def plainEnv : Env := ⟨fun path => .ok path, fun text => s!"'{text}'"⟩

def closedStdout : List Emission :=
  [⟨"t0", .authOk "mallory\nx" "a@b" "10.0.0.1", fun index => if index = 0 then .raised 3 else .written⟩,
    ⟨"t1", .sessionOpen "mallory\nx" "a@b" "10.0.0.1" 2,
      fun index => if index = 0 then .raised 3 else .written⟩]

theorem json_file_beside_closed_stdout :
    readLog (run [⟨.stdout, .text⟩, ⟨.file "audit.log", .json⟩] (fun _ => []) closedStdout
        (.file "audit.log")) =
      some [("t0", .authOk "mallory\nx" "a@b" "10.0.0.1"),
        ("t1", .sessionOpen "mallory\nx" "a@b" "10.0.0.1" 2)] := by
  have undisturbed : ∀ emission ∈ closedStdout, Undisturbed
      [⟨.stdout, .text⟩, ⟨.file "audit.log", .json⟩] (.file "audit.log") emission := by
    simp [closedStdout, Undisturbed]
  have json : ∀ dest ∈ [({} : AuditDestination), ⟨"file", some "audit.log", .json⟩],
      leadsTo plainEnv dest = some (.file "audit.log") → dest.format = .json := by decide
  exact json_log_reads_back plainEnv [{}, ⟨"file", some "audit.log", .json⟩] rfl json
    (fun _ => []) [] rfl closedStdout undisturbed

end Trail

end PyConduit.AuditLog
