import PyConduit.Rooms

/-!
# Room commands during which the client raises

Both sides change their tables before the operation that can fail, and nothing
undoes the change. It goes unnoticed where the tables already held what the
command wrote, or nothing that it removed.
-/

namespace PyConduit.FailedRoomCommands

open Protocol Replay Commands Rooms

set_option autoImplicit false

structure SameRooms (before after : State) : Prop where
  joinedRooms : after.caches.joinedRooms = before.caches.joinedRooms
  mucOccupants : after.caches.mucOccupants = before.caches.mucOccupants
  joined : after.joined = before.joined

/-- A room to join is in the account's table with the same nick, and in the
client's if it is a JID; a room to leave is no JID and is in neither table of the
account. -/
def NothingToUndo (bare : Json → Except String String) (env : Env) (state : State)
    (message : ClientMessage) : Prop :=
  let room := message.get "room"
  match message.type with
  | .joinRoom =>
      (∀ key, room.key = some key →
        state.caches.joinedRooms.lookup (storedKey state.caches.joinedRooms key) =
          some (roomNick env message)) ∧
        ∀ jid, bare room = .ok jid → state.joined.lookup jid = some (roomNick env message)
  | .leaveRoom =>
      (∃ text, bare room = .error text) ∧
        ∀ key, room.key = some key →
          storedKey state.caches.joinedRooms key ∉ state.caches.joinedRooms.keys ∧
            storedKey state.caches.mucOccupants key ∉ state.caches.mucOccupants.keys
  | _ => True

/-- The removal from both tables finds nothing there. -/
theorem pop_room_same_iff {caches after : Caches} {room : Json}
    (popped : popRoom caches room = .ok after) :
    (after.joinedRooms = caches.joinedRooms ∧ after.mucOccupants = caches.mucOccupants) ↔
      ∀ key, room.key = some key →
        storedKey caches.joinedRooms key ∉ caches.joinedRooms.keys ∧
          storedKey caches.mucOccupants key ∉ caches.mucOccupants.keys := by
  unfold popRoom at popped
  cases hashed : room.key with
  | some key =>
      rw [hashed] at popped
      cases popped
      simp [leaveRoom, Dict.pop_eq_self_iff]
  | none =>
      rw [hashed] at popped
      dsimp only at popped
      split at popped
      · cases popped
        simp
      · cases popped

/-- A room command during which the client raises changes no table exactly when
there is nothing to undo. -/
theorem failed_room_command_iff (bare : Json → Except String String) (env : Env)
    (state after : State) (message : ClientMessage) (answer : Answer) (text : String)
    (failed : perform bare env state message answer = some (after, .error text)) :
    SameRooms state after ↔ NothingToUndo bare env state message := by
  unfold NothingToUndo
  cases performs_of_perform failed with
  | @joinFails key room _ type hashed parsed =>
      simp only [type, hashed, parsed, Option.some.injEq, Except.ok.injEq, forall_eq']
      constructor
      · intro same
        constructor
        · exact (Dict.set_item_eq_self_iff ..).mp same.joinedRooms
        · exact (Dict.set_item_eq_self_iff ..).mp same.joined
      · rintro ⟨account, client⟩
        constructor
        · exact (Dict.set_item_eq_self_iff ..).mpr account
        · rfl
        · exact (Dict.set_item_eq_self_iff ..).mpr client
  | @joinInvalid key _ _ type hashed parsed =>
      simp only [type, hashed, parsed, Option.some.injEq, forall_eq', reduceCtorEq,
        false_implies, implies_true, and_true]
      constructor
      · intro same
        exact (Dict.set_item_eq_self_iff ..).mp same.joinedRooms
      · intro account
        constructor
        · exact (Dict.set_item_eq_self_iff ..).mpr account
        · rfl
        · rfl
  | @leaveFails caches room _ nick type popped parsed inside =>
      simp only [type, parsed, reduceCtorEq, exists_false, false_and, iff_false]
      intro same
      have gone : room ∉ state.joined.keys := (Dict.pop_eq_self_iff ..).mp same.joined
      rw [← Dict.lookup_none_iff, inside] at gone
      cases gone
  | @leaveInvalid caches _ _ type popped parsed =>
      simp only [type, parsed, Except.error.injEq, exists_eq', true_and]
      rw [← pop_room_same_iff popped]
      constructor
      · intro same
        exact ⟨same.joinedRooms, same.mucOccupants⟩
      · rintro ⟨joinedRooms, mucOccupants⟩
        exact ⟨joinedRooms, mucOccupants, rfl⟩

theorem joined_room_survives_a_timeout :
    let state : State :=
      { fresh with
        caches := joinRoom empty (.text "team@conference.example.com") (.str "alice")
        joined := Dict.empty.setItem "team@conference.example.com" (.str "alice") }
    ∃ after, perform bareOf Pump.alice state joinTeam (.error "timeout") =
        some (after, .error "timeout") ∧ SameRooms state after := by
  intro state
  refine ⟨_, rfl, ?_⟩
  apply (failed_room_command_iff bareOf Pump.alice state _ joinTeam (.error "timeout") "timeout"
    rfl).mpr
  constructor
  · intro key hashed
    cases hashed
    rfl
  · intro jid parsed
    cases parsed
    rfl

theorem timed_out_join_is_remembered :
    ∃ after, perform bareOf Pump.alice fresh joinTeam (.error "timeout") =
        some (after, .error "timeout") ∧
      after.caches.joinedRooms.keys = [.text "team@conference.example.com"] ∧
        ¬SameRooms fresh after := by
  refine ⟨_, rfl, rfl, ?_⟩
  intro same
  have keys := congrArg Dict.keys same.joinedRooms
  cases keys

end PyConduit.FailedRoomCommands
