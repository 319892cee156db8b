import Mathlib.Data.String.Basic
import PyConduit.Commands
import PyConduit.Gather
import PyConduit.StableSort

/-!
# Room discovery

`_cmd_disco_servers` queries the configured servers concurrently, pairs the results
with the servers by position and sorts twice, by lowered names that need not differ.
-/

namespace PyConduit.Discovery

open Protocol Commands Replay GuardedRun

set_option autoImplicit false

/-- An item a server lists: `jid, _node, name`. -/
structure Item where
  jid : String
  node : String
  name : String

def Item.room (item : Item) : Room :=
  ⟨item.jid, if item.name = "" then item.jid else item.name⟩

inductive Answer
  | items (items : List Item)
  | iqError
  | iqTimeout
  | raises (text : String)

def discoRooms (server : String) : Answer → Except String ServerRooms
  | .items items => .ok ⟨server, true, items.map Item.room⟩
  | .iqError => .ok ⟨server, false, []⟩
  | .iqTimeout => .ok ⟨server, false, []⟩
  | .raises text => .error text

structure Carries (env : Env) (outcome : Except String ServerRooms) (entry : ServerRooms) :
    Prop where
  found : ∀ rooms, outcome = .ok rooms →
    entry.online = rooms.online ∧ entry.rooms.Perm rooms.rooms
  failed : ∀ text, outcome = .error text → entry.online = false ∧ entry.rooms = []
  sorted : entry.rooms.Pairwise fun first second => env.lower first.name ≤ env.lower second.name

/-- One entry for each configured server, with its position in the configuration:
sorted by lowered name and then by position, and each with its own outcome. -/
def Discovered (env : Env) (outcome : Nat → Except String ServerRooms)
    (entries : List ServerRooms) : Prop :=
  ∃ placed : List (ServerRooms × Nat), entries = placed.map Prod.fst ∧
    (placed.map Prod.snd).Perm (List.range env.config.discoveryServers.length) ∧
    (∀ entry position, (entry, position) ∈ placed →
      env.config.discoveryServers[position]? = some entry.server ∧
        Carries env (outcome position) entry) ∧
    placed.Pairwise fun first second =>
      env.lower first.1.server < env.lower second.1.server ∨
        env.lower first.1.server = env.lower second.1.server ∧ first.2 < second.2

/-- An entry is online when the server listed its items, and has a room for each item. -/
theorem carries_answer {env : Env} {server : String} {answer : Answer} {entry : ServerRooms}
    (carries : Carries env (discoRooms server answer) entry) :
    (∃ items, answer = .items items ∧ entry.online = true ∧
      entry.rooms.Perm (items.map Item.room)) ∨ entry.online = false ∧ entry.rooms = [] := by
  cases answer with
  | items items => exact Or.inl ⟨items, rfl, carries.found _ rfl⟩
  | iqError | iqTimeout =>
      obtain ⟨offline, none⟩ := carries.found _ rfl
      exact Or.inr ⟨offline, none.eq_nil⟩
  | raises text => exact Or.inr (carries.failed text rfl)

theorem server_entry_server (env : Env) (server : String) (outcome : Except String ServerRooms) :
    (serverEntry env server outcome).server = server := by
  cases outcome with
  | ok found => rfl
  | error text => rfl

theorem server_entry_carries (env : Env) (server : String)
    (outcome : Except String ServerRooms) :
    Carries env outcome (serverEntry env server outcome) := by
  cases outcome with
  | error text =>
      refine ⟨?_, ?_, List.Pairwise.nil⟩
      · intro rooms found
        cases found
      · intro text failed
        exact ⟨rfl, rfl⟩
  | ok found =>
      refine ⟨?_, ?_, ?_⟩
      · intro rooms same
        cases same
        exact ⟨rfl, List.mergeSort_perm _ _⟩
      · intro text failed
        cases failed
      · obtain ⟨placed, sorted, -, -, ordered⟩ :=
          stably_sorted_merge_sort (fun room : Room => env.lower room.name) found.rooms
        change (found.rooms.mergeSort _).Pairwise _
        rw [sorted, List.pairwise_map]
        apply ordered.imp
        intro first second before
        rcases before with below | ⟨same, -⟩
        · exact le_of_lt below
        · exact le_of_eq same

theorem entry_at (env : Env) (servers : List String) (outcome : Nat → Except String ServerRooms)
    (position : Nat) :
    (List.zipWith (serverEntry env) servers ((List.range servers.length).map outcome))[position]? =
      servers[position]?.map fun server => serverEntry env server (outcome position) := by
  rw [List.getElem?_zipWith, List.getElem?_map]
  by_cases inside : position < servers.length
  · rw [List.getElem?_range inside, List.getElem?_eq_getElem inside]
    rfl
  · rw [List.getElem?_eq_none (Nat.le_of_not_lt inside)]
    rfl

theorem discovered_entries (env : Env) (outcome : Nat → Except String ServerRooms) :
    Discovered env outcome
      ((List.zipWith (serverEntry env) env.config.discoveryServers
        ((List.range env.config.discoveryServers.length).map outcome)).mergeSort
          fun first second => env.lower first.server ≤ env.lower second.server) := by
  obtain ⟨placed, sorted, positions, own, ordered⟩ :=
    stably_sorted_merge_sort (fun entry : ServerRooms => env.lower entry.server)
      (List.zipWith (serverEntry env) env.config.discoveryServers
        ((List.range env.config.discoveryServers.length).map outcome))
  refine ⟨placed, sorted, ?_, ?_, ordered⟩
  · rwa [List.length_zipWith, List.length_map, List.length_range, Nat.min_self] at positions
  · intro entry position member
    have here := own entry position member
    rw [entry_at, Option.map_eq_some_iff] at here
    obtain ⟨server, configured, rfl⟩ := here
    rw [server_entry_server]
    exact ⟨configured, server_entry_carries env server (outcome position)⟩

/-- Whichever command queries servers, it queries the configured ones. -/
theorem queried_servers {env : Env} {caches after : Caches} {message : ClientMessage}
    {servers : List String}
    {resume : Except String (Operation.discoRooms servers).Value → String → Finish}
    (handled : handleCommand env caches message = .ok (after, .call (.discoRooms servers) resume)) :
    servers = env.config.discoveryServers := by
  cases ran_of_command handled with
  | discoServers type => rfl

/-- Whatever the frame holds and in whatever order the queries end, each configured
server has one entry, with its own outcome; no other server is queried. -/
theorem discovery_loses_nothing (env : Env) (caches : Caches) (data : List (String × Json))
    (outcome : Nat → Except String ServerRooms) (order : List Nat)
    (complete : order.Perm (List.range env.config.discoveryServers.length)) :
    (∃ resume, handleCommand env caches ⟨.discoServers, data⟩ =
        .ok (caches, .call (.discoRooms env.config.discoveryServers) resume) ∧
      ∃ gather results, replay Gather.step (Gather.start env.config.discoveryServers.length)
          (order.map fun position => (position, outcome position)) = some gather ∧
        gather.returned = some results ∧
        ∀ now, ∃ entries, resume (.ok results) now = .reply (.discoServers entries) ∧
          Discovered env outcome entries) ∧
    ∀ (before after : Caches) (message : ClientMessage) (servers : List String)
      (resume : Except String (Operation.discoRooms servers).Value → String → Finish),
      handleCommand env before message = .ok (after, .call (.discoRooms servers) resume) →
        servers = env.config.discoveryServers := by
  obtain ⟨gather, run, returned⟩ := Gather.gathered_by_position outcome complete
  refine ⟨⟨_, rfl, gather, _, run, returned, ?_⟩, ?_⟩
  · intro now
    exact ⟨_, rfl, discovered_entries env outcome⟩
  · intro before after message servers resume
    exact queried_servers

theorem spellings_and_a_failure :
    let env : Env := ⟨"me@host", { discoveryServers := ["b.host", "a.host", "A.host"] },
      String.toLower, fun text => "'" ++ text ++ "'"⟩
    let outcome : Nat → Except String ServerRooms := fun position =>
      discoRooms (env.config.discoveryServers[position]?.getD "")
        (if position = 1 then .raises "reset" else .items [⟨"lobby@host", "", "Lobby"⟩])
    ∃ resume, handleCommand env Replay.empty ⟨.discoServers, []⟩ =
        .ok (Replay.empty, .call (.discoRooms env.config.discoveryServers) resume) ∧
      ∃ gather results, replay Gather.step (Gather.start 3)
          ([2, 0, 1].map fun position => (position, outcome position)) = some gather ∧
        gather.returned = some results ∧
        ∀ now, ∃ entries, resume (.ok results) now = .reply (.discoServers entries) ∧
          Discovered env outcome entries :=
  (discovery_loses_nothing _ _ _ _ [2, 0, 1] (by decide)).1

end PyConduit.Discovery
