import Mathlib.Data.Set.Card
import ZepGpu.Websockets.Endpoints

namespace ZepGpu
namespace Websockets

open Function Foundation ConnectionManager Dict List

/-!
# The indexes of connections

Whatever the endpoints and senders do, the two sides of the room index mirror
each other, and every registered socket is listed once under its user or peer.
An empty list is left behind, though, when an endpoint disconnects after its
user has lost the last socket to a failed send: the lookup in a map with
defaults makes it.  And a dropped socket whose endpoint still runs is put back
into the rooms that it subscribes to.
-/

namespace ConnectionManager

variable {Socket : Type} [DecidableEq Socket] {connections : Dict String (List Socket)}
  {manager : ConnectionManager Socket} {key userId roomId : String} {websocket : Socket}

/-- Every key has a socket. -/
def NoEmptyList (connections : Dict String (List Socket)) : Prop :=
  ∀ key, connections.get? key ≠ some []

omit [DecidableEq Socket] in
theorem NoEmptyList.set {sockets : List Socket} (full : NoEmptyList connections)
    (some : sockets ≠ []) : NoEmptyList (connections.set key sockets) := by
  intro candidate
  rcases eq_or_ne candidate key with rfl | different
  · rw [get?_set_self, ne_eq, Option.some.injEq]
    exact some
  · rw [get?_set_of_ne different]
    exact full candidate

omit [DecidableEq Socket] in
theorem NoEmptyList.append (full : NoEmptyList connections) :
    NoEmptyList (appendSocket connections key websocket) :=
  full.set (append_ne_nil_of_right_ne_nil _ (cons_ne_nil _ _))

theorem NoEmptyList.remove (full : NoEmptyList connections) :
    NoEmptyList (removeSocket connections key websocket) := by
  unfold removeSocket
  split_ifs with listed last
  · intro candidate found
    exact full candidate (get?_erase_eq_some found).2
  · exact full.set last
  · exact full

theorem noEmptyList_lookUp_iff (full : NoEmptyList connections) :
    NoEmptyList (removeSocket (connections.set key (socketsOf connections key)) key websocket) ↔
      key ∈ connections.keys := by
  constructor
  · intro kept
    by_contra missing
    rw [← get?_eq_none_iff] at missing
    have none : socketsOf connections key = [] := by
      unfold socketsOf
      rw [missing]
      rfl
    refine kept key ?_
    unfold removeSocket
    rw [none, socketsOf_set_self, if_neg (not_mem_nil), get?_set_self]
  · intro there
    rcases exists_get?_of_mem there with ⟨sockets, found⟩
    refine NoEmptyList.remove (full.set ?_)
    unfold socketsOf
    rw [found]
    rintro none
    exact full key (none ▸ found)

theorem dropDeadSocket_connections :
    (manager.dropDeadSocket websocket).connections =
      match manager.socketToUserId.get? websocket with
      | none => manager.connections
      | some userId => removeSocket manager.connections userId websocket := by
  unfold dropDeadSocket
  cases manager.socketToUserId.get? websocket with
  | none =>
    dsimp only
    split
    · rfl
    · rfl
  | some userId =>
    dsimp only
    split
    · rfl
    · rfl

theorem dropDeadSocket_socketToUserId :
    (manager.dropDeadSocket websocket).socketToUserId =
      match manager.socketToUserId.get? websocket with
      | none => manager.socketToUserId
      | some _ => manager.socketToUserId.erase websocket := by
  unfold dropDeadSocket
  cases manager.socketToUserId.get? websocket with
  | none =>
    dsimp only
    split
    · rfl
    · rfl
  | some userId =>
    dsimp only
    split
    · rfl
    · rfl

theorem dropDeadSocket_providers (missing : manager.socketToPeerId.get? websocket = none) :
    (manager.dropDeadSocket websocket).providerConnections = manager.providerConnections ∧
    (manager.dropDeadSocket websocket).socketToPeerId = manager.socketToPeerId := by
  unfold dropDeadSocket
  cases manager.socketToUserId.get? websocket with
  | none =>
    dsimp only
    rw [missing]
    exact ⟨rfl, rfl⟩
  | some userId =>
    dsimp only
    rw [show (manager.removeConnection websocket userId).socketToPeerId.get? websocket = none
      from missing]
    exact ⟨rfl, rfl⟩

theorem foldl_unsubscribeRoom_eq {sockets : List Socket} :
    let later := sockets.foldl (fun manager websocket => manager.unsubscribeRoom websocket roomId) manager
    later.connections = manager.connections ∧ later.socketToUserId = manager.socketToUserId ∧
      later.providerConnections = manager.providerConnections ∧
      later.socketToPeerId = manager.socketToPeerId ∧
      later.userRoomMemberships = manager.userRoomMemberships := by
  induction sockets generalizing manager with
  | nil => exact ⟨rfl, rfl, rfl, rfl, rfl⟩
  | cons websocket rest ih => exact @ih (manager.unsubscribeRoom websocket roomId)

end ConnectionManager

namespace Worker

variable {Socket : Type} [DecidableEq Socket] {worker : Worker Socket} {call : Call Socket}
  {websocket : Socket} {userId : String}

/-- A map lists the open sockets of one kind with their owners. -/
def Owned (owners : Dict Socket String) (kind : String -> Session)
    (sessions : Socket -> Option Session) (gone : Finset Socket) : Prop :=
  ∀ websocket owner, owners.get? websocket = some owner ↔
    sessions websocket = some (kind owner) ∧ websocket ∉ gone

variable {owners : Dict Socket String} {kind : String -> Session}
  {sessions : Socket -> Option Session} {gone : Finset Socket} {owner : String} {session : Session}

omit [DecidableEq Socket] in
theorem Owned.missing (owned : Owned owners kind sessions gone)
    (other : ∀ owner, sessions websocket ≠ some (kind owner)) :
    owners.get? websocket = none := by
  rw [Option.eq_none_iff_forall_ne_some]
  intro owner found
  exact other owner ((owned websocket owner).mp found).1

theorem Owned.accept (owned : Owned owners kind sessions gone) (fresh : websocket ∉ gone)
    (injective : Function.Injective kind) :
    Owned (owners.set websocket owner) kind
      (update sessions websocket (some (kind owner))) gone := by
  intro candidate other
  rcases eq_or_ne candidate websocket with rfl | different
  · rw [get?_set_self, update_self, Option.some.injEq, Option.some.injEq,
      injective.eq_iff]
    exact ⟨fun same => ⟨same, fresh⟩, And.left⟩
  · rw [get?_set_of_ne different, update_of_ne different]
    exact owned candidate other

theorem Owned.acceptOther (owned : Owned owners kind sessions gone)
    (fresh : sessions websocket = none) (other : ∀ owner, session ≠ kind owner) :
    Owned owners kind (update sessions websocket (some session)) gone := by
  intro candidate owner
  rcases eq_or_ne candidate websocket with rfl | different
  · rw [update_self, owned, fresh]
    simp [other owner]
  · rw [update_of_ne different]
    exact owned candidate owner

theorem Owned.erase (owned : Owned owners kind sessions gone) :
    Owned (owners.erase websocket) kind sessions (insert websocket gone) := by
  intro candidate owner
  rw [Finset.mem_insert]
  rcases eq_or_ne candidate websocket with rfl | different
  · rw [get?_erase_self]
    simp
  · rw [get?_erase_of_ne different, owned candidate owner]
    simp [different]

theorem Owned.insert (owned : Owned owners kind sessions gone)
    (missing : owners.get? websocket = none) :
    Owned owners kind sessions (insert websocket gone) := by
  intro candidate owner
  rw [Finset.mem_insert]
  rcases eq_or_ne candidate websocket with rfl | different
  · rw [missing]
    simp
  · rw [owned candidate owner]
    simp [different]

/-- The registered sockets of users and providers are those that were accepted
and not yet dropped or disconnected. -/
structure Sound (worker : Worker Socket) : Prop where
  users : Registered worker.manager.connections worker.manager.socketToUserId
  providers : Registered worker.manager.providerConnections worker.manager.socketToPeerId
  userOwner : Owned worker.manager.socketToUserId .user worker.sessions worker.gone
  peerOwner : Owned worker.manager.socketToPeerId .provider worker.sessions worker.gone
  rooms : worker.manager.RoomsMirrored
  accepted : ∀ websocket room, worker.manager.Subscribed websocket room ->
    ∃ userId, worker.sessions websocket = some (.user userId)
  ended : worker.ended ⊆ worker.gone
  known : ∀ websocket, websocket ∈ worker.gone -> worker.sessions websocket ≠ none

theorem sound_empty : ({} : Worker Socket).Sound where
  users := ⟨fun _ _ => by simp [socketsOf, Dict.empty], fun _ => nodup_nil⟩
  providers := ⟨fun _ _ => by simp [socketsOf, Dict.empty], fun _ => nodup_nil⟩
  userOwner := fun _ _ => by simp [Dict.empty]
  peerOwner := fun _ _ => by simp [Dict.empty]
  rooms := ⟨fun _ _ => by simp [Dict.members, Dict.empty], fun _ => by simp [Dict.empty]⟩
  accepted := fun _ _ subscribed => by simp [Subscribed, Dict.members, Dict.empty] at subscribed
  ended := Finset.Subset.refl _
  known := fun _ member => absurd member (Finset.notMem_empty _)

theorem servedUser_eq_some (served : worker.servedUser websocket = some userId) :
    worker.sessions websocket = some (.user userId) ∧ websocket ∉ worker.ended := by
  unfold servedUser at served
  split at served
  · rename_i other session
    split_ifs at served with past
    cases served
    exact ⟨session, past⟩
  · cases served

section

variable (sound : worker.Sound)

include sound

theorem Sound.withRooms {manager : ConnectionManager Socket}
    (connections : manager.connections = worker.manager.connections)
    (socketToUserId : manager.socketToUserId = worker.manager.socketToUserId)
    (providerConnections : manager.providerConnections = worker.manager.providerConnections)
    (socketToPeerId : manager.socketToPeerId = worker.manager.socketToPeerId)
    (rooms : manager.RoomsMirrored)
    (accepted : ∀ websocket room, manager.Subscribed websocket room ->
      ∃ userId, worker.sessions websocket = some (.user userId)) :
    Sound { worker with manager := manager } where
  users := by
    dsimp only
    rw [connections, socketToUserId]
    exact sound.users
  providers := by
    dsimp only
    rw [providerConnections, socketToPeerId]
    exact sound.providers
  userOwner := by
    dsimp only
    rw [socketToUserId]
    exact sound.userOwner
  peerOwner := by
    dsimp only
    rw [socketToPeerId]
    exact sound.peerOwner
  rooms := rooms
  accepted := accepted
  ended := sound.ended
  known := sound.known

theorem Sound.not_gone (fresh : worker.sessions websocket = none) : websocket ∉ worker.gone :=
  fun member => sound.known websocket member fresh

theorem Sound.not_user (fresh : worker.sessions websocket = none) :
    worker.manager.socketToUserId.get? websocket = none :=
  sound.userOwner.missing (fun owner same => by rw [fresh] at same; cases same)

theorem Sound.not_peer (fresh : worker.sessions websocket = none) :
    worker.manager.socketToPeerId.get? websocket = none :=
  sound.peerOwner.missing (fun owner same => by rw [fresh] at same; cases same)

theorem Sound.user_not_peer (session : worker.sessions websocket = some (.user userId)) :
    worker.manager.socketToPeerId.get? websocket = none :=
  sound.peerOwner.missing (fun owner same => by rw [session] at same; cases same)

theorem Sound.peer_not_user {peerId : String}
    (session : worker.sessions websocket = some (.provider peerId)) :
    worker.manager.socketToUserId.get? websocket = none :=
  sound.userOwner.missing (fun owner same => by rw [session] at same; cases same)

theorem Sound.peer_not_subscribed {peerId room : String}
    (session : worker.sessions websocket = some (.provider peerId)) :
    ¬ worker.manager.Subscribed websocket room := by
  intro subscribed
  rcases sound.accepted websocket room subscribed with ⟨userId, same⟩
  rw [session] at same
  cases same

theorem Sound.accept_accepted (fresh : worker.sessions websocket = none) {session : Session}
    {other : Socket} {room : String} (subscribed : worker.manager.Subscribed other room) :
    ∃ userId, update worker.sessions websocket (some session) other =
      some (.user userId) := by
  rcases sound.accepted other room subscribed with ⟨userId, same⟩
  refine ⟨userId, ?_⟩
  rw [update_of_ne, same]
  rintro rfl
  rw [fresh] at same
  cases same

theorem Sound.accept_known {session : Session} {other : Socket} (member : other ∈ worker.gone) :
    update worker.sessions websocket (some session) other ≠ none := by
  rcases eq_or_ne other websocket with rfl | different
  · rw [update_self]
    exact Option.some_ne_none _
  · rw [update_of_ne different]
    exact sound.known other member

theorem Sound.insert_known (session : worker.sessions websocket ≠ none) {other : Socket}
    (member : other ∈ insert websocket worker.gone) :
    worker.sessions other ≠ none := by
  rcases Finset.mem_insert.mp member with rfl | member
  · exact session
  · exact sound.known other member

theorem Sound.connect (fresh : worker.sessions websocket = none) :
    (worker.accept websocket (.user userId) (worker.manager.connect websocket userId)).Sound where
  users := sound.users.append (sound.not_user fresh)
  providers := sound.providers
  userOwner := sound.userOwner.accept (sound.not_gone fresh) (fun _ _ same => Session.user.inj same)
  peerOwner := sound.peerOwner.acceptOther fresh (fun _ same => Session.noConfusion same)
  rooms := ⟨sound.rooms.mirrored, sound.rooms.inhabited⟩
  accepted := fun _ _ subscribed => sound.accept_accepted fresh subscribed
  ended := sound.ended
  known := fun _ member => sound.accept_known member

theorem Sound.connectProvider {peerId : String} (fresh : worker.sessions websocket = none) :
    (worker.accept websocket (.provider peerId)
      (worker.manager.connectProvider websocket peerId)).Sound where
  users := sound.users
  providers := sound.providers.append (sound.not_peer fresh)
  userOwner := sound.userOwner.acceptOther fresh (fun _ same => Session.noConfusion same)
  peerOwner := sound.peerOwner.accept (sound.not_gone fresh)
    (fun _ _ same => Session.provider.inj same)
  rooms := ⟨sound.rooms.mirrored, sound.rooms.inhabited⟩
  accepted := fun _ _ subscribed => sound.accept_accepted fresh subscribed
  ended := sound.ended
  known := fun _ member => sound.accept_known member

theorem Sound.sendFailed (session : worker.sessions websocket = some (.user userId)) :
    Sound { worker with
      manager := worker.manager.dropDeadSocket websocket
      gone := insert websocket worker.gone } := by
  have noPeer := sound.user_not_peer session
  rcases dropDeadSocket_providers noPeer with ⟨providerConnections, socketToPeerId⟩
  have users : Registered (worker.manager.dropDeadSocket websocket).connections
      (worker.manager.dropDeadSocket websocket).socketToUserId := by
    rw [dropDeadSocket_connections, dropDeadSocket_socketToUserId]
    cases owner : worker.manager.socketToUserId.get? websocket with
    | none => exact sound.users
    | some userId =>
      refine sound.users.remove (fun other found => ?_)
      rw [owner] at found
      exact (Option.some.inj found).symm
  have userOwner : Owned (worker.manager.dropDeadSocket websocket).socketToUserId .user
      worker.sessions (insert websocket worker.gone) := by
    rw [dropDeadSocket_socketToUserId]
    cases owner : worker.manager.socketToUserId.get? websocket with
    | none => exact sound.userOwner.insert owner
    | some userId => exact sound.userOwner.erase
  exact {
    users := users
    providers := by
      dsimp only
      rw [providerConnections, socketToPeerId]
      exact sound.providers
    userOwner := userOwner
    peerOwner := by
      dsimp only
      rw [socketToPeerId]
      exact sound.peerOwner.insert noPeer
    rooms := sound.rooms.dropDeadSocket
    accepted := fun other room subscribed =>
      sound.accepted other room (subscribed_dropDeadSocket.mp subscribed).2
    ended := sound.ended.trans (Finset.subset_insert _ _)
    known := fun _ member => sound.insert_known (by rw [session]; exact Option.some_ne_none _) member }

theorem Sound.disconnect {ended : Finset Socket}
    (session : worker.sessions websocket = some (.user userId))
    (past : ended ⊆ insert websocket worker.gone) :
    Sound { worker with
      manager := worker.manager.disconnect websocket userId
      ended := ended
      gone := insert websocket worker.gone } where
  users := by
    have lookedUp : Registered
        (worker.manager.connections.set userId (socketsOf worker.manager.connections userId))
        worker.manager.socketToUserId := by
      have same : ∀ key, socketsOf
          (worker.manager.connections.set userId (socketsOf worker.manager.connections userId)) key =
            socketsOf worker.manager.connections key := by
        intro key
        rcases eq_or_ne key userId with rfl | different
        · exact socketsOf_set_self
        · exact socketsOf_set_of_ne different
      refine ⟨fun key other => ?_, fun key => ?_⟩
      · rw [same]
        exact sound.users.listed key other
      · rw [same]
        exact sound.users.nodup key
    refine lookedUp.remove (fun owner found => ?_)
    rw [sound.userOwner, session] at found
    cases found.1
    rfl
  providers := sound.providers
  userOwner := sound.userOwner.erase
  peerOwner := sound.peerOwner.insert (sound.user_not_peer session)
  rooms := RoomsMirrored.removeSocket ⟨sound.rooms.mirrored, sound.rooms.inhabited⟩
  accepted := fun other room subscribed =>
    sound.accepted other room (subscribed_disconnect.mp subscribed).2
  ended := past
  known := fun _ member => sound.insert_known (by rw [session]; exact Option.some_ne_none _) member

theorem Sound.disconnectProvider {peerId : String} {ended : Finset Socket}
    (session : worker.sessions websocket = some (.provider peerId))
    (past : ended ⊆ insert websocket worker.gone) :
    Sound { worker with
      manager := worker.manager.disconnectProvider websocket peerId
      ended := ended
      gone := insert websocket worker.gone } where
  users := sound.users
  providers := by
    refine sound.providers.remove (fun owner found => ?_)
    rw [sound.peerOwner, session] at found
    cases found.1
    rfl
  userOwner := sound.userOwner.insert (sound.peer_not_user session)
  peerOwner := sound.peerOwner.erase
  rooms := ⟨sound.rooms.mirrored, sound.rooms.inhabited⟩
  accepted := sound.accepted
  ended := past
  known := fun _ member => sound.insert_known (by rw [session]; exact Option.some_ne_none _) member

theorem sound_step (call : Call Socket) : (worker.step call).Sound := by
  cases call with
  | connect websocket userId =>
    unfold step
    dsimp only
    split
    · exact sound
    · rename_i fresh
      exact sound.connect fresh
  | connectProvider websocket peerId =>
    unfold step
    dsimp only
    split
    · exact sound
    · rename_i fresh
      exact sound.connectProvider fresh
  | subscribeRoom websocket roomId =>
    unfold step
    dsimp only
    split
    · exact sound
    · rename_i userId served
      refine sound.withRooms rfl rfl rfl rfl sound.rooms.subscribeRoom ?_
      intro other room subscribed
      rcases subscribed_subscribeRoom.mp subscribed with ⟨rfl, -⟩ | before
      · exact ⟨userId, (servedUser_eq_some served).1⟩
      · exact sound.accepted other room before
  | unsubscribeRoom websocket roomId =>
    exact sound.withRooms rfl rfl rfl rfl sound.rooms.unsubscribeRoom
      (fun other room subscribed =>
        sound.accepted other room (subscribed_unsubscribeRoom.mp subscribed).2)
  | unsubscribeAll websocket =>
    exact sound.withRooms rfl rfl rfl rfl sound.rooms.removeSocket
      (fun other room subscribed =>
        sound.accepted other room (subscribed_removeSocket.mp subscribed).2)
  | unsubscribeUserFromRoom userId roomId =>
    rcases @foldl_unsubscribeRoom_eq Socket _ worker.manager roomId
      (socketsOf worker.manager.connections userId) with
      ⟨connections, users, providers, peers, -⟩
    exact sound.withRooms connections users providers peers sound.rooms.unsubscribeUserFromRoom
      (fun other room subscribed =>
        sound.accepted other room (subscribed_unsubscribeUserFromRoom.mp subscribed).2)
  | sendFailed websocket =>
    unfold step
    dsimp only
    split
    · exact sound
    · rename_i userId session
      exact sound.sendFailed session
    · rename_i peerId session
      exact sound.disconnectProvider session (sound.ended.trans (Finset.subset_insert _ _))
  | disconnect websocket =>
    unfold step
    dsimp only
    split
    · exact sound
    · rename_i session accepted
      split_ifs
      · exact sound
      · have past := Finset.insert_subset_insert websocket sound.ended
        cases session with
        | user userId => exact sound.disconnect accepted past
        | provider peerId => exact sound.disconnectProvider accepted past

end

/-- The user has a socket that was neither dropped nor disconnected. -/
def Live (worker : Worker Socket) (userId : String) : Prop :=
  ∃ websocket, worker.sessions websocket = some (.user userId) ∧ websocket ∉ worker.gone

/-- No map of the manager mentions the socket. -/
structure Absent (manager : ConnectionManager Socket) (websocket : Socket) : Prop where
  connections : ∀ userId, websocket ∉ socketsOf manager.connections userId
  socketToUserId : manager.socketToUserId.get? websocket = none
  roomSubscriptions : ∀ room, websocket ∉ manager.roomSubscriptions.members room
  socketRooms : manager.socketRooms.get? websocket = none
  providerConnections : ∀ peerId, websocket ∉ socketsOf manager.providerConnections peerId
  socketToPeerId : manager.socketToPeerId.get? websocket = none

/-- The maps agree with each other and with the open sockets. -/
structure Consistent (worker : Worker Socket) : Prop where
  mirrored : ∀ websocket room, websocket ∈ worker.manager.roomSubscriptions.members room ↔
    room ∈ worker.manager.socketRooms.members websocket
  users : ∀ userId, userId ∈ worker.manager.connections.keys ->
    socketsOf worker.manager.connections userId ≠ []
  count : worker.manager.getUserCount = Set.ncard { userId | worker.Live userId }
  gone : ∀ websocket, websocket ∈ worker.gone -> Absent worker.manager websocket

/-- What consistency adds to what always holds. -/
structure Tidy (worker : Worker Socket) : Prop where
  full : NoEmptyList worker.manager.connections
  unsubscribed : ∀ websocket, websocket ∈ worker.gone -> ∀ room,
    ¬ worker.manager.Subscribed websocket room

theorem Sound.mem_keys (sound : worker.Sound) (full : NoEmptyList worker.manager.connections) :
    userId ∈ worker.manager.connections.keys ↔ worker.Live userId := by
  constructor
  · intro there
    rcases exists_get?_of_mem there with ⟨sockets, found⟩
    have listed : socketsOf worker.manager.connections userId = sockets := by
      unfold socketsOf
      rw [found]
      rfl
    have some : sockets ≠ [] := fun none => full userId (none ▸ found)
    rcases exists_mem_of_ne_nil sockets some with ⟨websocket, member⟩
    rw [← listed, sound.users.listed, sound.userOwner] at member
    exact ⟨websocket, member⟩
  · rintro ⟨websocket, live⟩
    have listed := (sound.users.listed userId websocket).mpr ((sound.userOwner _ _).mpr live)
    by_contra missing
    rw [← get?_eq_none_iff] at missing
    unfold socketsOf at listed
    rw [missing] at listed
    exact absurd listed (not_mem_nil)

theorem Sound.absent (sound : worker.Sound) (gone : websocket ∈ worker.gone)
    (unsubscribed : ∀ room, ¬ worker.manager.Subscribed websocket room) :
    Absent worker.manager websocket := by
  have noUser : worker.manager.socketToUserId.get? websocket = none := by
    rw [Option.eq_none_iff_forall_ne_some]
    intro owner found
    exact ((sound.userOwner _ _).mp found).2 gone
  have noPeer : worker.manager.socketToPeerId.get? websocket = none := by
    rw [Option.eq_none_iff_forall_ne_some]
    intro owner found
    exact ((sound.peerOwner _ _).mp found).2 gone
  refine ⟨fun userId listed => ?_, noUser, fun room member => ?_, ?_, fun peerId listed => ?_, noPeer⟩
  · rw [sound.users.listed, noUser] at listed
    cases listed
  · exact unsubscribed room (sound.rooms.mem_recipients.mp member)
  · exact sound.rooms.inhabited.get?_eq_none (Finset.eq_empty_of_forall_notMem unsubscribed)
  · rw [sound.providers.listed, noPeer] at listed
    cases listed

theorem Sound.consistent_iff (sound : worker.Sound) : worker.Consistent ↔ worker.Tidy := by
  constructor
  · intro consistent
    refine ⟨fun key found => ?_, fun websocket gone room subscribed => ?_⟩
    · refine consistent.users key (mem_keys_of_get? found) ?_
      unfold socketsOf
      rw [found]
      rfl
    · exact (consistent.gone websocket gone).roomSubscriptions room
        (sound.rooms.mem_recipients.mpr subscribed)
  · intro tidy
    refine ⟨fun websocket room => sound.rooms.mem_recipients, fun userId there => ?_, ?_,
      fun websocket gone => sound.absent gone (tidy.unsubscribed websocket gone)⟩
    · rcases (sound.mem_keys tidy.full).mp there with ⟨websocket, live⟩
      exact ne_nil_of_mem
        ((sound.users.listed userId websocket).mpr ((sound.userOwner _ _).mpr live))
    · have same : { userId | worker.Live userId } =
          (worker.manager.connections.keys.toFinset : Set String) := by
        ext userId
        rw [Set.mem_ofPred_eq, Finset.mem_coe, mem_toFinset, sound.mem_keys tidy.full]
      rw [same, Set.ncard_coe_finset, toFinset_card_of_nodup worker.manager.connections.nodup]
      rfl

/-- The step does not subscribe a socket that was dropped, and it does not look
up a user that has lost its last socket. -/
def Fine (worker : Worker Socket) : Call Socket -> Prop
  | .subscribeRoom websocket _ =>
    worker.servedUser websocket ≠ none -> websocket ∉ worker.gone
  | .disconnect websocket => ∀ userId, worker.servedUser websocket = some userId ->
      userId ∈ worker.manager.connections.keys
  | _ => True

theorem Tidy.withRooms {manager : ConnectionManager Socket} (tidy : worker.Tidy)
    (connections : manager.connections = worker.manager.connections)
    (fewer : ∀ websocket room, manager.Subscribed websocket room ->
      worker.manager.Subscribed websocket room) :
    Tidy { worker with manager := manager } where
  full := by
    dsimp only
    rw [connections]
    exact tidy.full
  unsubscribed := fun websocket gone room subscribed =>
    tidy.unsubscribed websocket gone room (fewer websocket room subscribed)

theorem Tidy.insert {manager : ConnectionManager Socket} {ended : Finset Socket} (tidy : worker.Tidy)
    (full : NoEmptyList manager.connections)
    (fewer : ∀ other room, manager.Subscribed other room ->
      other ≠ websocket ∧ worker.manager.Subscribed other room) :
    Tidy { worker with
      manager := manager
      ended := ended
      gone := insert websocket worker.gone } where
  full := full
  unsubscribed := by
    intro other gone room subscribed
    rcases fewer other room subscribed with ⟨different, before⟩
    rcases Finset.mem_insert.mp gone with same | gone
    · exact different same
    · exact tidy.unsubscribed other gone room before

theorem Sound.provider_fewer {peerId : String} (sound : worker.Sound)
    (session : worker.sessions websocket = some (.provider peerId)) (other : Socket) (room : String)
    (subscribed : worker.manager.Subscribed other room) :
    other ≠ websocket ∧ worker.manager.Subscribed other room := by
  refine ⟨?_, subscribed⟩
  rintro rfl
  exact sound.peer_not_subscribed session subscribed

theorem tidy_subscribeRoom_iff {roomId : String} (tidy : worker.Tidy)
    (served : worker.servedUser websocket = some userId) :
    Tidy { worker with manager := worker.manager.subscribeRoom websocket roomId } ↔
      Fine worker (.subscribeRoom websocket roomId) := by
  constructor
  · intro later _ gone
    exact later.unsubscribed websocket gone roomId (subscribed_subscribeRoom.mpr (Or.inl ⟨rfl, rfl⟩))
  · intro fine
    refine ⟨tidy.full, fun other gone room subscribed => ?_⟩
    rcases subscribed_subscribeRoom.mp subscribed with ⟨rfl, -⟩ | before
    · exact fine (by rw [served]; exact Option.some_ne_none _) gone
    · exact tidy.unsubscribed other gone room before

theorem tidy_disconnect_iff (tidy : worker.Tidy)
    (session : worker.sessions websocket = some (.user userId)) (running : websocket ∉ worker.ended) :
    Tidy { worker with
      manager := worker.manager.disconnect websocket userId
      ended := insert websocket worker.ended
      gone := insert websocket worker.gone } ↔ Fine worker (.disconnect websocket) := by
  have served : worker.servedUser websocket = some userId := by
    unfold servedUser
    rw [session]
    exact if_neg running
  have looked : NoEmptyList (worker.manager.disconnect websocket userId).connections ↔
      userId ∈ worker.manager.connections.keys := noEmptyList_lookUp_iff tidy.full
  constructor
  · intro later other found
    rw [served] at found
    cases found
    exact looked.mp later.full
  · intro fine
    exact tidy.insert (looked.mpr (fine userId served))
      (fun _ _ subscribed => subscribed_disconnect.mp subscribed)

theorem tidy_step_iff (sound : worker.Sound) (tidy : worker.Tidy) (call : Call Socket) :
    (worker.step call).Tidy ↔ Fine worker call := by
  cases call with
  | connect websocket userId =>
    refine (iff_true_right trivial).mpr ?_
    unfold step
    dsimp only
    split
    · exact tidy
    · exact ⟨tidy.full.append, tidy.unsubscribed⟩
  | connectProvider websocket peerId =>
    refine (iff_true_right trivial).mpr ?_
    unfold step
    dsimp only
    split
    · exact tidy
    · exact ⟨tidy.full, tidy.unsubscribed⟩
  | subscribeRoom websocket roomId =>
    cases served : worker.servedUser websocket with
    | none =>
      have idle : worker.step (.subscribeRoom websocket roomId) = worker := by
        unfold step
        dsimp only
        rw [served]
      rw [idle]
      exact iff_of_true tidy (fun running => absurd served running)
    | some userId =>
      have subscribed : worker.step (.subscribeRoom websocket roomId) =
          { worker with manager := worker.manager.subscribeRoom websocket roomId } := by
        unfold step
        dsimp only
        rw [served]
      rw [subscribed]
      exact tidy_subscribeRoom_iff tidy served
  | unsubscribeRoom websocket roomId =>
    exact (iff_true_right trivial).mpr (tidy.withRooms rfl
      (fun _ _ subscribed => (subscribed_unsubscribeRoom.mp subscribed).2))
  | unsubscribeAll websocket =>
    exact (iff_true_right trivial).mpr (tidy.withRooms rfl
      (fun _ _ subscribed => (subscribed_removeSocket.mp subscribed).2))
  | unsubscribeUserFromRoom userId roomId =>
    exact (iff_true_right trivial).mpr (tidy.withRooms foldl_unsubscribeRoom_eq.1
      (fun _ _ subscribed => (subscribed_unsubscribeUserFromRoom.mp subscribed).2))
  | sendFailed websocket =>
    refine (iff_true_right trivial).mpr ?_
    unfold step
    dsimp only
    split
    · exact tidy
    · refine tidy.insert ?_ (fun _ _ subscribed => subscribed_dropDeadSocket.mp subscribed)
      rw [dropDeadSocket_connections]
      split
      · exact tidy.full
      · exact tidy.full.remove
    · rename_i peerId session
      exact tidy.insert tidy.full (sound.provider_fewer session)
  | disconnect websocket =>
    cases session : worker.sessions websocket with
    | none =>
      have idle : worker.step (.disconnect websocket) = worker := by
        unfold step
        dsimp only
        rw [session]
      rw [idle]
      refine iff_of_true tidy (fun userId served => ?_)
      rw [(servedUser_eq_some served).1] at session
      cases session
    | some session' =>
      by_cases past : websocket ∈ worker.ended
      · have idle : worker.step (.disconnect websocket) = worker := by
          unfold step
          dsimp only
          rw [session]
          exact if_pos past
        rw [idle]
        exact iff_of_true tidy (fun userId served => absurd past (servedUser_eq_some served).2)
      · have ends : worker.step (.disconnect websocket) = { worker with
            manager := worker.closed websocket session'
            ended := insert websocket worker.ended
            gone := insert websocket worker.gone } := by
          unfold step
          dsimp only
          rw [session]
          exact if_neg past
        rw [ends]
        cases session' with
        | user userId => exact tidy_disconnect_iff tidy session past
        | provider peerId =>
          refine iff_of_true (tidy.insert tidy.full (sound.provider_fewer session))
            (fun userId served => ?_)
          rw [(servedUser_eq_some served).1] at session
          cases session

theorem tidy_empty : ({} : Worker Socket).Tidy where
  full := fun _ => by simp [Dict.empty]
  unsubscribed := fun _ member => absurd member (Finset.notMem_empty _)

/-- The indexes are consistent after every part of a run exactly when every step
of the run is fine. -/
theorem indexes_consistent_iff (calls : List (Call Socket)) :
    (∀ front back, calls = front ++ back -> (front.foldl step {}).Consistent) ↔
      Meets step Fine {} calls := by
  refine @meets_iff_throughout (Worker Socket) (Call Socket) step Fine {} calls Sound Consistent
    (fun _ => True) (fun worker call sound _ => sound_step sound call) ?_ sound_empty
    (sound_empty.consistent_iff.mpr tidy_empty) (fun _ _ => trivial)
  intro worker call sound consistent _
  rw [(sound_step sound call).consistent_iff]
  exact tidy_step_iff sound (sound.consistent_iff.mp consistent) call

/-- A user's only socket fails and is dropped.  When its endpoint ends, the user
is listed without a socket. -/
theorem dropped_user_counted :
    let worker := [.connect 1 "user", .sendFailed 1, .disconnect 1].foldl step ({} : Worker Nat)
    worker.manager.getUserCount = 1 ∧ socketsOf worker.manager.connections "user" = [] ∧
      ¬ worker.Consistent := by
  refine ⟨rfl, rfl, fun consistent => ?_⟩
  exact consistent.users "user" (by decide) rfl

end Worker

end Websockets
end ZepGpu
