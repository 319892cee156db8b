import PyConduit.Activity

/-!
# What a snapshot sends when it is left alone

`_send_snapshot` sends the first frame, the roster if there is one, the cached
presence frames and, for each joined room, its frame and that of its occupants.
The machine of the suspensions sends exactly these when nothing else happens
meanwhile.
-/

namespace PyConduit.SnapshotFrames

open Protocol Replay Activity GuardedRun
open Lifecycle (Tab)

set_option autoImplicit false

def occupantFrames (caches : Caches) (room : Key) : List Frame :=
  match occupantsOf caches room with
  | [] => []
  | occupants => [.mucOccupants room.json occupants]

def roomFrames (caches : Caches) (rooms : List (Key × Json)) : List Frame :=
  rooms.flatMap fun room => .mucJoined room.1.json room.2 none :: occupantFrames caches room.1

/-- The frames of `_send_snapshot` when nothing happens meanwhile. -/
def snapshotFrames (env : Activity.Env) (tab : Tab) (caches : Caches) : List Frame :=
  readyFrame env tab ::
    ((if caches.roster = [] then [] else [.roster caches.roster]) ++ caches.presence.values ++
      roomFrames caches caches.joinedRooms.entries)

/-- What is left of an undisturbed snapshot from a place on. -/
def remaining (caches : Caches) : Snapshot → List Frame
  | .idle => []
  | .ready =>
      (if caches.roster = [] then [] else [.roster caches.roster]) ++ caches.presence.values ++
        roomFrames caches caches.joinedRooms.entries
  | .roster => caches.presence.values ++ roomFrames caches caches.joinedRooms.entries
  | .presence cursor =>
      caches.presence.values.drop cursor.index ++ roomFrames caches caches.joinedRooms.entries
  | .room cursor room =>
      occupantFrames caches room ++ roomFrames caches (caches.joinedRooms.entries.drop cursor.index)
  | .occupants cursor => roomFrames caches (caches.joinedRooms.entries.drop cursor.index)

def InStep (session : Session) : Snapshot → Prop
  | .presence cursor =>
      cursor.size = session.caches.presence.size ∧ cursor.changes = session.presenceChanges
  | .room cursor _ | .occupants cursor =>
      cursor.size = session.caches.joinedRooms.size ∧ cursor.changes = session.roomChanges
  | _ => True

def Continues (session : Session) (frames : List Frame) : Progress → Prop
  | .send frame place =>
      place ≠ .idle ∧ InStep session place ∧ frames = frame :: remaining session.caches place
  | .ends => frames = []
  | .raises => False

section Loops

theorem room_loop_continues (session : Session) (cursor : Cursor)
    (size : cursor.size = session.caches.joinedRooms.size)
    (changes : cursor.changes = session.roomChanges) :
    Continues session
      (roomFrames session.caches (session.caches.joinedRooms.entries.drop cursor.index))
      (roomLoop session cursor none) := by
  have next : cursor.next session.caches.joinedRooms.size session.roomChanges none =
      some cursor.index := by
    simp [Cursor.next, size, changes]
  simp only [roomLoop, next]
  cases found : session.caches.joinedRooms.entries[cursor.index]? with
  | none =>
      have passed := List.drop_eq_nil_of_le (List.getElem?_eq_none_iff.mp found)
      rw [passed]
      rfl
  | some entry =>
      obtain ⟨bound, rfl⟩ := List.getElem?_eq_some_iff.mp found
      rw [List.drop_eq_getElem_cons bound]
      refine ⟨by simp, ⟨size, changes⟩, ?_⟩
      rfl

theorem start_rooms_continues (session : Session) :
    Continues session (roomFrames session.caches session.caches.joinedRooms.entries)
      (startRooms session none) :=
  room_loop_continues session ⟨session.caches.joinedRooms.size, session.roomChanges, 0⟩ rfl rfl

theorem presence_loop_continues (session : Session) (cursor : Cursor)
    (size : cursor.size = session.caches.presence.size)
    (changes : cursor.changes = session.presenceChanges) :
    Continues session (remaining session.caches (.presence cursor))
      (presenceLoop session cursor none) := by
  have next : cursor.next session.caches.presence.size session.presenceChanges none =
      some cursor.index := by
    simp [Cursor.next, size, changes]
  simp only [presenceLoop, next, remaining, Dict.values]
  cases found : session.caches.presence.entries[cursor.index]? with
  | none =>
      have passed := List.drop_eq_nil_of_le (List.getElem?_eq_none_iff.mp found)
      rw [← List.map_drop, passed]
      exact start_rooms_continues session
  | some entry =>
      obtain ⟨bound, rfl⟩ := List.getElem?_eq_some_iff.mp found
      rw [← List.map_drop, List.drop_eq_getElem_cons bound]
      refine ⟨by simp, ⟨size, changes⟩, ?_⟩
      rw [remaining, Dict.values, ← List.map_drop]
      rfl

theorem send_snapshot_continues {session : Session} {place : Snapshot} (busy : place ≠ .idle)
    (inStep : InStep session place) :
    ∃ progress, sendSnapshot session none place = some progress ∧
      Continues session (remaining session.caches place) progress := by
  have presences := presence_loop_continues session
    ⟨session.caches.presence.size, session.presenceChanges, 0⟩ rfl rfl
  cases place with
  | idle => exact absurd rfl busy
  | ready =>
      by_cases noRoster : session.caches.roster = []
      · refine ⟨_, if_pos noRoster, ?_⟩
        simp only [remaining, if_pos noRoster]
        exact presences
      · refine ⟨_, if_neg noRoster, by simp, trivial, ?_⟩
        simp only [remaining, if_neg noRoster]
        rfl
  | roster => exact ⟨_, rfl, presences⟩
  | presence cursor => exact ⟨_, rfl, presence_loop_continues session cursor inStep.1 inStep.2⟩
  | room cursor room =>
      refine ⟨_, rfl, ?_⟩
      simp only [afterRoom, remaining, occupantFrames]
      cases occupantsOf session.caches room with
      | nil => exact room_loop_continues session cursor inStep.1 inStep.2
      | cons first others => exact ⟨by simp, inStep, rfl⟩
  | occupants cursor => exact ⟨_, rfl, room_loop_continues session cursor inStep.1 inStep.2⟩

end Loops

/-- Left alone, `_send_snapshot` sends the frames that remain, one by one, and ends. -/
theorem undisturbed_snapshot (env : Activity.Env) (session : Session) (tab : Tab)
    (inside : session.account.handlers tab = .snapshot)
    (busy : session.snapshots tab ≠ .idle) (inStep : InStep session (session.snapshots tab)) :
    ∃ final,
      replay (step env) session
          (List.replicate ((remaining session.caches (session.snapshots tab)).length + 1)
            (.sent tab none)) = some final ∧
        final.account.sent = session.account.sent ++
          (remaining session.caches (session.snapshots tab)).map (tab, ·) ∧
        final.snapshots tab = .idle := by
  generalize left : remaining session.caches (session.snapshots tab) = frames
  induction frames generalizing session with
  | nil =>
      obtain ⟨progress, goesOn, continues⟩ := send_snapshot_continues busy inStep
      rw [left] at continues
      cases progress with
      | send frame place => cases continues.2.2
      | raises => exact continues.elim
      | ends =>
          simp [replay, step, goesOn, advance, lifecycle, Lifecycle.step, inside, setSnapshot,
            Lifecycle.Account.setHandler]
  | cons first rest induction =>
      obtain ⟨progress, goesOn, continues⟩ := send_snapshot_continues busy inStep
      rw [left] at continues
      cases progress with
      | ends => cases continues
      | raises => exact continues.elim
      | send frame place =>
          obtain ⟨placed, stays, more⟩ := continues
          cases more
          let next : Session :=
            { session with
              account := session.account.send tab first
              snapshots := Function.update session.snapshots tab place }
          have fired : step env session (.sent tab none) = some next := by
            simp only [step, goesOn, Option.bind_some, advance, lifecycle, Lifecycle.step, inside,
              Option.map_some, setSnapshot, next]
            congr
            funext other
            simp [Lifecycle.Account.send]
          have placedNext : next.snapshots tab = place := Function.update_self ..
          rw [← placedNext] at placed stays
          obtain ⟨final, run, sent, ends⟩ :=
            induction next inside placed stays (by rw [placedNext])
          refine ⟨final, ?_, ?_, ends⟩
          · rw [List.length_cons, List.replicate_succ]
            simp only [replay, fired]
            exact run
          · rw [sent, List.map_cons]
            exact List.append_assoc ..

end PyConduit.SnapshotFrames
