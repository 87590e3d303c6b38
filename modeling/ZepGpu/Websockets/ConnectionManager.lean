import Mathlib.Algebra.GroupWithZero.Nat
import Mathlib.Data.Finset.Sort
import Mathlib.Data.String.Basic
import ZepGpu.Foundation.SetIndex
import ZepGpu.Websockets.MembershipCache

namespace ZepGpu
namespace Websockets

open Foundation

/-!
# The connection manager

What `ConnectionManager` does to its maps while it holds its lock.  Nothing is
awaited under the lock, so that each of these definitions is one step of the
event loop.
-/

/-- The maps of one worker process. -/
structure ConnectionManager (Socket : Type) [DecidableEq Socket] where
  connections : Dict String (List Socket) := .empty
  socketToUserId : Dict Socket String := .empty
  roomSubscriptions : Dict String (Finset Socket) := .empty
  socketRooms : Dict Socket (Finset String) := .empty
  userRoomMemberships : Dict String (Finset String) := .empty
  providerConnections : Dict String (List Socket) := .empty
  socketToPeerId : Dict Socket String := .empty

namespace ConnectionManager

variable {Socket : Type} [DecidableEq Socket] (manager : ConnectionManager Socket)

/-- `connections.get(key, [])` -/
def socketsOf (connections : Dict String (List Socket)) (key : String) : List Socket :=
  (connections.get? key).getD []

/-- `connections[key].append(websocket)` -/
def appendSocket (connections : Dict String (List Socket)) (key : String) (websocket : Socket) :
    Dict String (List Socket) :=
  connections.set key (socketsOf connections key ++ [websocket])

def removeSocket (connections : Dict String (List Socket)) (key : String) (websocket : Socket) :
    Dict String (List Socket) :=
  if websocket ∈ socketsOf connections key then
    if (socketsOf connections key).erase websocket = [] then connections.erase key
    else connections.set key ((socketsOf connections key).erase websocket)
  else connections

def connect (websocket : Socket) (userId : String) : ConnectionManager Socket where
  __ := manager
  connections := appendSocket manager.connections userId websocket
  socketToUserId := manager.socketToUserId.set websocket userId

def connectProvider (websocket : Socket) (peerId : String) : ConnectionManager Socket where
  __ := manager
  providerConnections := appendSocket manager.providerConnections peerId websocket
  socketToPeerId := manager.socketToPeerId.set websocket peerId

def disconnectProvider (websocket : Socket) (peerId : String) : ConnectionManager Socket where
  __ := manager
  providerConnections := removeSocket manager.providerConnections peerId websocket
  socketToPeerId := manager.socketToPeerId.erase websocket

/-- `_remove_socket_from_rooms_locked`, in the order of the names of the rooms:
the order of a set is left open, and the maps do not depend on it. -/
def removeSocketFromRoomsLocked (websocket : Socket) : ConnectionManager Socket where
  __ := manager
  roomSubscriptions := manager.roomSubscriptions.discardFromAll
    ((manager.socketRooms.members websocket).sort (· ≤ ·)) websocket
  socketRooms := manager.socketRooms.erase websocket

def removeConnection (websocket : Socket) (userId : String) : ConnectionManager Socket where
  __ := manager
  connections := removeSocket manager.connections userId websocket
  userRoomMemberships :=
    if websocket ∈ socketsOf manager.connections userId ∧
        (socketsOf manager.connections userId).erase websocket = [] then
      manager.userRoomMemberships.erase userId
    else manager.userRoomMemberships

/-- `self._connections[user_id]` makes an empty list for a missing user. -/
def lookUp (userId : String) : ConnectionManager Socket where
  __ := manager
  connections := manager.connections.set userId (socketsOf manager.connections userId)

def disconnect (websocket : Socket) (userId : String) : ConnectionManager Socket :=
  let removed := (manager.lookUp userId).removeConnection websocket userId
  { removed with socketToUserId := removed.socketToUserId.erase websocket
    }.removeSocketFromRoomsLocked websocket

def dropDeadSocket (websocket : Socket) : ConnectionManager Socket :=
  let forUser := match manager.socketToUserId.get? websocket with
    | none => manager
    | some userId => { manager.removeConnection websocket userId with
        socketToUserId := manager.socketToUserId.erase websocket }
  let forPeer := match forUser.socketToPeerId.get? websocket with
    | none => forUser
    | some peerId => forUser.disconnectProvider websocket peerId
  forPeer.removeSocketFromRoomsLocked websocket

def subscribeRoom (websocket : Socket) (roomId : String) : ConnectionManager Socket where
  __ := manager
  roomSubscriptions := manager.roomSubscriptions.addTo roomId websocket
  socketRooms := manager.socketRooms.addTo websocket roomId

def unsubscribeRoom (websocket : Socket) (roomId : String) : ConnectionManager Socket where
  __ := manager
  roomSubscriptions := manager.roomSubscriptions.discardFrom roomId websocket
  socketRooms := manager.socketRooms.discardFrom websocket roomId

def unsubscribeAll (websocket : Socket) : ConnectionManager Socket :=
  manager.removeSocketFromRoomsLocked websocket

/-- The sockets that `broadcast_to_room` sends to. -/
def recipients (roomId : String) : Finset Socket :=
  manager.roomSubscriptions.members roomId

/-- The part of `unsubscribe_user_from_room` under the lock. -/
def unsubscribeUserFromRoom (userId roomId : String) : ConnectionManager Socket :=
  let unsubscribed := (socketsOf manager.connections userId).foldl
    (fun manager websocket => manager.unsubscribeRoom websocket roomId) manager
  { unsubscribed with
    userRoomMemberships := match unsubscribed.userRoomMemberships.get? userId with
      | none => unsubscribed.userRoomMemberships
      | some rooms => unsubscribed.userRoomMemberships.set userId (rooms.erase roomId) }

/-- The part of `set_user_room_memberships` under the lock. -/
def setUserRoomMemberships (userId : String) (roomIds : Finset String) : ConnectionManager Socket where
  __ := manager
  userRoomMemberships := manager.userRoomMemberships.set userId roomIds

/-- The part of `grant_room_membership` under the lock. -/
def grantRoomMembership (userId roomId : String) : ConnectionManager Socket :=
  if manager.connections.get? userId = none ∧ manager.userRoomMemberships.get? userId = none then
    manager
  else { manager with userRoomMemberships := manager.userRoomMemberships.addTo userId roomId }

def userIsRoomMember (cache : RoomMembershipCache) (userId roomId : String) : Bool :=
  decide (roomId ∈ manager.userRoomMemberships.members userId) || cache.contains userId roomId

variable {manager} in
theorem userIsRoomMember_iff {cache : RoomMembershipCache} {userId roomId : String} :
    manager.userIsRoomMember cache userId roomId = true ↔
      roomId ∈ manager.userRoomMemberships.members userId ∨ roomId ∈ cache.sets userId := by
  unfold userIsRoomMember
  rw [Bool.or_eq_true, decide_eq_true_eq, RoomMembershipCache.contains_iff]

/-- What a call of `user_is_room_member` leaves behind. -/
def warmed (cache : RoomMembershipCache) (userId roomId : String) : ConnectionManager Socket :=
  if roomId ∉ manager.userRoomMemberships.members userId ∧ cache.contains userId roomId = true then
    { manager with userRoomMemberships := manager.userRoomMemberships.addTo userId roomId }
  else manager

def getUserCount : Nat :=
  manager.connections.keys.length

end ConnectionManager

end Websockets
end ZepGpu
