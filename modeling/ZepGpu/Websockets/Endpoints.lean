import ZepGpu.Foundation.Runs
import ZepGpu.Websockets.ConnectionManager

namespace ZepGpu
namespace Websockets

open Foundation Dict List

/-!
# The endpoints of a worker

An endpoint accepts its socket, serves messages and disconnects at the end.
Between its steps other endpoints and senders run: a send takes the sockets of
a list under the lock and drops those that failed later, when their endpoints
may have gone on or ended.
-/

/-- For whom a socket was accepted. -/
inductive Session where
  | user (userId : String)
  | provider (peerId : String)
  deriving DecidableEq

/-- One worker with the sockets that it serves. -/
structure Worker (Socket : Type) [DecidableEq Socket] where
  manager : ConnectionManager Socket := {}
  /-- The sockets that were accepted so far. -/
  sessions : Socket -> Option Session := fun _ => none
  /-- The sockets whose endpoint has ended. -/
  ended : Finset Socket := ∅
  /-- The sockets that were dropped or disconnected: a record of the run. -/
  gone : Finset Socket := ∅

/-- A step of the event loop that concerns the connections. -/
inductive Call (Socket : Type) where
  | connect (websocket : Socket) (userId : String)
  | connectProvider (websocket : Socket) (peerId : String)
  | subscribeRoom (websocket : Socket) (roomId : String)
  | unsubscribeRoom (websocket : Socket) (roomId : String)
  | unsubscribeAll (websocket : Socket)
  | unsubscribeUserFromRoom (userId roomId : String)
  /-- The turn of a socket for which a send has failed. -/
  | sendFailed (websocket : Socket)
  /-- The end of the endpoint. -/
  | disconnect (websocket : Socket)

namespace Worker

variable {Socket : Type} [DecidableEq Socket] (worker : Worker Socket)

/-- The user of a socket whose endpoint is running. -/
def servedUser (websocket : Socket) : Option String :=
  match worker.sessions websocket with
  | some (.user userId) => if websocket ∈ worker.ended then none else some userId
  | _ => none

def closed (websocket : Socket) : Session -> ConnectionManager Socket
  | .user userId => worker.manager.disconnect websocket userId
  | .provider peerId => worker.manager.disconnectProvider websocket peerId

def accept (websocket : Socket) (session : Session) (manager : ConnectionManager Socket) :
    Worker Socket where
  __ := worker
  manager := manager
  sessions := Function.update worker.sessions websocket (some session)

theorem accept_sessions {websocket : Socket} {session : Session} {manager : ConnectionManager Socket} :
    (worker.accept websocket session manager).sessions =
      Function.update worker.sessions websocket (some session) :=
  rfl

/-- One step.  A step that cannot be taken changes nothing. -/
def step : Call Socket -> Worker Socket
  | .connect websocket userId =>
    match worker.sessions websocket with
    | some _ => worker
    | none => worker.accept websocket (.user userId) (worker.manager.connect websocket userId)
  | .connectProvider websocket peerId =>
    match worker.sessions websocket with
    | some _ => worker
    | none =>
      worker.accept websocket (.provider peerId)
        (worker.manager.connectProvider websocket peerId)
  | .subscribeRoom websocket roomId =>
    match worker.servedUser websocket with
    | none => worker
    | some _ => { worker with manager := worker.manager.subscribeRoom websocket roomId }
  | .unsubscribeRoom websocket roomId =>
    { worker with manager := worker.manager.unsubscribeRoom websocket roomId }
  | .unsubscribeAll websocket =>
    { worker with manager := worker.manager.unsubscribeAll websocket }
  | .unsubscribeUserFromRoom userId roomId =>
    { worker with manager := worker.manager.unsubscribeUserFromRoom userId roomId }
  | .sendFailed websocket =>
    match worker.sessions websocket with
    | none => worker
    | some (.user _) =>
      { worker with
        manager := worker.manager.dropDeadSocket websocket
        gone := insert websocket worker.gone }
    | some (.provider peerId) =>
      { worker with
        manager := worker.manager.disconnectProvider websocket peerId
        gone := insert websocket worker.gone }
  | .disconnect websocket =>
    match worker.sessions websocket with
    | none => worker
    | some session =>
      if websocket ∈ worker.ended then worker
      else { worker with
        manager := worker.closed websocket session
        ended := insert websocket worker.ended
        gone := insert websocket worker.gone }

end Worker

/-! ## Lists of sockets and their owners -/

namespace ConnectionManager

variable {Socket : Type} [DecidableEq Socket] {connections : Dict String (List Socket)}
  {owners : Dict Socket String} {key other : String} {websocket member : Socket}

omit [DecidableEq Socket] in
theorem socketsOf_congr {later : Dict String (List Socket)}
    (same : later.get? other = connections.get? key) :
    socketsOf later other = socketsOf connections key := by
  unfold socketsOf
  rw [same]

omit [DecidableEq Socket] in
theorem socketsOf_set_self {sockets : List Socket} :
    socketsOf (connections.set key sockets) key = sockets := by
  unfold socketsOf
  rw [get?_set_self]
  rfl

omit [DecidableEq Socket] in
theorem socketsOf_set_of_ne {sockets : List Socket} (different : other ≠ key) :
    socketsOf (connections.set key sockets) other = socketsOf connections other :=
  socketsOf_congr (get?_set_of_ne different)

omit [DecidableEq Socket] in
theorem socketsOf_erase_self : socketsOf (connections.erase key) key = [] := by
  unfold socketsOf
  rw [get?_erase_self]
  rfl

theorem socketsOf_removeSocket_self :
    socketsOf (removeSocket connections key websocket) key =
      (socketsOf connections key).erase websocket := by
  unfold removeSocket
  split_ifs with listed last
  · rw [socketsOf_erase_self, last]
  · exact socketsOf_set_self
  · exact (erase_of_not_mem listed).symm

theorem socketsOf_removeSocket_of_ne (different : other ≠ key) :
    socketsOf (removeSocket connections key websocket) other = socketsOf connections other := by
  unfold removeSocket
  split_ifs
  · exact socketsOf_congr (get?_erase_of_ne different)
  · exact socketsOf_set_of_ne different
  · rfl

/-- Every listed socket is listed once, under its owner. -/
structure Registered (connections : Dict String (List Socket)) (owners : Dict Socket String) : Prop where
  listed : ∀ key websocket, websocket ∈ socketsOf connections key ↔ owners.get? websocket = some key
  nodup : ∀ key, (socketsOf connections key).Nodup

theorem Registered.append (registered : Registered connections owners)
    (fresh : owners.get? websocket = none) :
    Registered (appendSocket connections key websocket) (owners.set websocket key) where
  listed := by
    intro candidate member
    unfold appendSocket
    rcases eq_or_ne candidate key with rfl | different
    · rw [socketsOf_set_self, mem_append, mem_singleton, registered.listed]
      rcases eq_or_ne member websocket with rfl | other
      · rw [get?_set_self]
        simp
      · rw [get?_set_of_ne other]
        simp [other]
    · rw [socketsOf_set_of_ne different, registered.listed]
      rcases eq_or_ne member websocket with rfl | other
      · rw [get?_set_self, fresh]
        simp [different.symm]
      · rw [get?_set_of_ne other]
  nodup := by
    intro candidate
    unfold appendSocket
    rcases eq_or_ne candidate key with rfl | different
    · rw [socketsOf_set_self, nodup_append]
      refine ⟨registered.nodup candidate, nodup_singleton _, ?_⟩
      intro old listed new appended same
      rw [mem_singleton.mp appended] at same
      rw [same, registered.listed, fresh] at listed
      cases listed
    · rw [socketsOf_set_of_ne different]
      exact registered.nodup candidate

theorem Registered.remove (registered : Registered connections owners)
    (owned : ∀ owner, owners.get? websocket = some owner -> owner = key) :
    Registered (removeSocket connections key websocket) (owners.erase websocket) where
  listed := by
    intro candidate member
    rcases eq_or_ne candidate key with rfl | different
    · rw [socketsOf_removeSocket_self, (registered.nodup candidate).mem_erase_iff, registered.listed]
      rcases eq_or_ne member websocket with rfl | other
      · rw [get?_erase_self]
        simp
      · rw [get?_erase_of_ne other]
        simp [other]
    · rw [socketsOf_removeSocket_of_ne different, registered.listed]
      rcases eq_or_ne member websocket with rfl | other
      · rw [get?_erase_self]
        constructor
        · intro found
          exact absurd (owned candidate found) different
        · intro found
          cases found
      · rw [get?_erase_of_ne other]
  nodup := by
    intro candidate
    rcases eq_or_ne candidate key with rfl | different
    · rw [socketsOf_removeSocket_self]
      exact (registered.nodup candidate).erase websocket
    · rw [socketsOf_removeSocket_of_ne different]
      exact registered.nodup candidate

/-! ## Who is subscribed to what -/

variable {manager : ConnectionManager Socket} {room roomId userId : String}

/-- The socket is subscribed to the room. -/
def Subscribed (manager : ConnectionManager Socket) (websocket : Socket) (room : String) : Prop :=
  room ∈ manager.socketRooms.members websocket

theorem subscribed_subscribeRoom :
    (manager.subscribeRoom websocket roomId).Subscribed member room ↔
      (member = websocket ∧ room = roomId) ∨ manager.Subscribed member room :=
  mem_members_addTo

theorem subscribed_unsubscribeRoom :
    (manager.unsubscribeRoom websocket roomId).Subscribed member room ↔
      ¬ (member = websocket ∧ room = roomId) ∧ manager.Subscribed member room :=
  mem_members_discardFrom

theorem subscribed_removeSocket :
    (manager.removeSocketFromRoomsLocked websocket).Subscribed member room ↔
      member ≠ websocket ∧ manager.Subscribed member room :=
  mem_members_erase

theorem subscribed_disconnect :
    (manager.disconnect websocket userId).Subscribed member room ↔
      member ≠ websocket ∧ manager.Subscribed member room :=
  subscribed_removeSocket

theorem dropDeadSocket_eq (manager : ConnectionManager Socket) (websocket : Socket) :
    ∃ before : ConnectionManager Socket,
      manager.dropDeadSocket websocket = before.removeSocketFromRoomsLocked websocket ∧
      before.roomSubscriptions = manager.roomSubscriptions ∧
      before.socketRooms = manager.socketRooms := by
  unfold dropDeadSocket
  dsimp only
  refine ⟨_, rfl, ?_⟩
  split
  · split
    · exact ⟨rfl, rfl⟩
    · exact ⟨rfl, rfl⟩
  · split
    · exact ⟨rfl, rfl⟩
    · exact ⟨rfl, rfl⟩

theorem subscribed_dropDeadSocket :
    (manager.dropDeadSocket websocket).Subscribed member room ↔
      member ≠ websocket ∧ manager.Subscribed member room := by
  rcases dropDeadSocket_eq manager websocket with ⟨before, same, -, rooms⟩
  rw [same, subscribed_removeSocket]
  unfold Subscribed
  rw [rooms]

theorem subscribed_foldl_unsubscribeRoom {sockets : List Socket} :
    (sockets.foldl (fun manager websocket => manager.unsubscribeRoom websocket roomId)
        manager).Subscribed member room ↔
      ¬ (member ∈ sockets ∧ room = roomId) ∧ manager.Subscribed member room := by
  induction sockets generalizing manager with
  | nil => simp
  | cons websocket rest ih =>
    rw [foldl_cons, ih, subscribed_unsubscribeRoom, mem_cons]
    tauto

theorem subscribed_unsubscribeUserFromRoom :
    (manager.unsubscribeUserFromRoom userId roomId).Subscribed member room ↔
      ¬ (member ∈ socketsOf manager.connections userId ∧ room = roomId) ∧
        manager.Subscribed member room :=
  subscribed_foldl_unsubscribeRoom

/-- Both maps of the subscriptions say the same. -/
structure RoomsMirrored (manager : ConnectionManager Socket) : Prop where
  mirrored : Dict.Mirrored manager.roomSubscriptions manager.socketRooms
  inhabited : manager.socketRooms.Inhabited

section

variable (rooms : manager.RoomsMirrored)

include rooms

theorem RoomsMirrored.mem_recipients :
    websocket ∈ manager.recipients room ↔ manager.Subscribed websocket room :=
  rooms.mirrored room websocket

theorem RoomsMirrored.subscribeRoom :
    (manager.subscribeRoom websocket roomId).RoomsMirrored where
  mirrored := rooms.mirrored.add
  inhabited := rooms.inhabited.addTo

theorem RoomsMirrored.unsubscribeRoom :
    (manager.unsubscribeRoom websocket roomId).RoomsMirrored where
  mirrored := rooms.mirrored.discard
  inhabited := rooms.inhabited.discardFrom

theorem RoomsMirrored.removeSocket :
    (manager.removeSocketFromRoomsLocked websocket).RoomsMirrored where
  mirrored := rooms.mirrored.eraseElement (fun _ member => (Finset.mem_sort _).mpr member)
  inhabited := rooms.inhabited.erase

theorem RoomsMirrored.foldl_unsubscribeRoom {sockets : List Socket} :
    (sockets.foldl (fun manager websocket => manager.unsubscribeRoom websocket roomId)
      manager).RoomsMirrored := by
  induction sockets generalizing manager with
  | nil => exact rooms
  | cons websocket rest ih => exact ih rooms.unsubscribeRoom

theorem RoomsMirrored.unsubscribeUserFromRoom :
    (manager.unsubscribeUserFromRoom userId roomId).RoomsMirrored :=
  ⟨rooms.foldl_unsubscribeRoom.mirrored, rooms.foldl_unsubscribeRoom.inhabited⟩

theorem RoomsMirrored.dropDeadSocket : (manager.dropDeadSocket websocket).RoomsMirrored := by
  rcases dropDeadSocket_eq manager websocket with ⟨before, same, subscriptions, socketRooms⟩
  have kept : before.RoomsMirrored := by
    refine ⟨?_, ?_⟩
    · rw [subscriptions, socketRooms]
      exact rooms.mirrored
    · rw [socketRooms]
      exact rooms.inhabited
  rw [same]
  exact kept.removeSocket

end

end ConnectionManager

end Websockets
end ZepGpu
