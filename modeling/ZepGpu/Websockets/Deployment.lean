import ZepGpu.Websockets.Indexes

namespace ZepGpu
namespace Websockets

open Foundation ConnectionManager

/-!
# API workers with one cache

Every API worker has a connection manager of its own.  The workers share the
database and the Redis sets of the membership cache.  A request or a message is
handled by one of them, and each step completes before the next.
-/

/-- The worker processes with the database and the cache that they share. -/
structure Deployment (Id Socket : Type) [DecidableEq Id] [DecidableEq Socket] where
  /-- The rooms of every user in the database. -/
  rooms : String -> Finset String := fun _ => ∅
  cache : RoomMembershipCache := .empty
  workers : Id -> Worker Socket := fun _ => {}

/-- A request to one of the workers, or an event of the cache. -/
inductive Event (Id Socket : Type) where
  /-- A connection to `/ws/rooms`. -/
  | connect (id : Id) (websocket : Socket) (userId : String)
  | disconnect (id : Id) (websocket : Socket)
  | sendFailed (id : Id) (websocket : Socket)
  /-- A message `subscribe_room`. -/
  | subscribe (id : Id) (websocket : Socket) (roomId : String)
  /-- A message `unsubscribe_room`. -/
  | unsubscribe (id : Id) (websocket : Socket) (roomId : String)
  /-- A call of `user_is_room_member`. -/
  | check (id : Id) (userId roomId : String)
  /-- The user becomes a member, and the membership is granted. -/
  | join (id : Id) (userId : String) (room : RoomId)
  /-- The user leaves or is removed, and the membership is revoked. -/
  | leave (id : Id) (userId : String) (room : RoomId)
  /-- The Redis key of a user expires. -/
  | expire (userId : String)

namespace Event

variable {Id Socket : Type}

def worker? : Event Id Socket -> Option Id
  | .connect id _ _ => some id
  | .disconnect id _ => some id
  | .sendFailed id _ => some id
  | .subscribe id _ _ => some id
  | .unsubscribe id _ _ => some id
  | .check id _ _ => some id
  | .join id _ _ => some id
  | .leave id _ _ => some id
  | .expire _ => none

end Event

namespace Worker

variable {Socket : Type} [DecidableEq Socket] (worker : Worker Socket)

def withManager (manager : ConnectionManager Socket) : Worker Socket where
  __ := worker
  manager := manager

/-- The worker after `user_is_room_member`. -/
def checked (cache : RoomMembershipCache) (userId roomId : String) : Worker Socket :=
  worker.withManager (worker.manager.warmed cache userId roomId)

/-- `_handle_room_client_message` for `subscribe_room` -/
def handleSubscribe (cache : RoomMembershipCache) (websocket : Socket) (roomId : String) :
    Worker Socket :=
  match worker.servedUser websocket with
  | none => worker
  | some userId =>
    if worker.manager.userIsRoomMember cache userId roomId = true then
      (worker.checked cache userId roomId).step (.subscribeRoom websocket roomId)
    else worker

def connectRooms (websocket : Socket) (userId : String) (roomIds : Finset String) : Worker Socket :=
  let connected := worker.step (.connect websocket userId)
  connected.withManager (connected.manager.setUserRoomMemberships userId roomIds)

end Worker

namespace Deployment

variable {Id Socket : Type} [DecidableEq Id] [DecidableEq Socket] (deployment : Deployment Id Socket)

def resolveUserRoomIds (userId : String) : Finset String :=
  (deployment.cache.getRooms userId).getD (deployment.rooms userId)

def updated (id : Id) (worker : Worker Socket) : Id -> Worker Socket :=
  Function.update deployment.workers id worker

/-- One event.  An event that cannot happen changes nothing. -/
def step : Event Id Socket -> Deployment Id Socket
  | .connect id websocket userId =>
    match (deployment.workers id).sessions websocket with
    | some _ => deployment
    | none =>
      let roomIds := deployment.resolveUserRoomIds userId
      { deployment with
        cache := deployment.cache.replace userId roomIds
        workers := deployment.updated id
          ((deployment.workers id).connectRooms websocket userId roomIds) }
  | .disconnect id websocket =>
    { deployment with
      workers := deployment.updated id ((deployment.workers id).step (.disconnect websocket)) }
  | .sendFailed id websocket =>
    { deployment with
      workers := deployment.updated id ((deployment.workers id).step (.sendFailed websocket)) }
  | .subscribe id websocket roomId =>
    { deployment with
      workers := deployment.updated id
        ((deployment.workers id).handleSubscribe deployment.cache websocket roomId) }
  | .unsubscribe id websocket roomId =>
    { deployment with
      workers := deployment.updated id
        ((deployment.workers id).step (.unsubscribeRoom websocket roomId)) }
  | .check id userId roomId =>
    { deployment with
      workers := deployment.updated id
        ((deployment.workers id).checked deployment.cache userId roomId) }
  | .join id userId room =>
    { deployment with
      rooms := Function.update deployment.rooms userId (insert room.text (deployment.rooms userId))
      cache := deployment.cache.add userId room.text
      workers := deployment.updated id ((deployment.workers id).withManager
        ((deployment.workers id).manager.grantRoomMembership userId room.text)) }
  | .leave id userId room =>
    { deployment with
      rooms := Function.update deployment.rooms userId ((deployment.rooms userId).erase room.text)
      cache := deployment.cache.remove userId room.text
      workers := deployment.updated id
        ((deployment.workers id).step (.unsubscribeUserFromRoom userId room.text)) }
  | .expire userId => { deployment with cache := deployment.cache.expire userId }

def run (events : List (Event Id Socket)) : Deployment Id Socket :=
  events.foldl step {}

end Deployment

end Websockets
end ZepGpu
