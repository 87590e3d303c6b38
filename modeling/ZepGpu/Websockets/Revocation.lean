import ZepGpu.Websockets.Deployment

namespace ZepGpu
namespace Websockets

open Function Foundation ConnectionManager Dict RoomMembershipCache

/-!
# Revoked memberships

A membership is revoked in the database, in the cache and on the worker that
handles the request.  Another worker that has the room in its own map goes on
to admit the user, and its subscriptions stay.  Once a revocation has reached
every worker, nothing but a grant brings the membership back.
-/

variable {Id Socket : Type} [DecidableEq Id] [DecidableEq Socket]

namespace ConnectionManager

variable {manager : ConnectionManager Socket} {cache : RoomMembershipCache}
  {userId other roomId room : String} {websocket : Socket}

/-! ## What is in the map of a worker -/

/-- The worker remembers the membership. -/
def Remembers (manager : ConnectionManager Socket) (userId room : String) : Prop :=
  room ∈ manager.userRoomMemberships.members userId

theorem remembers_removeConnection (remembers : (manager.removeConnection websocket userId).Remembers
    other room) : manager.Remembers other room := by
  unfold Remembers removeConnection at remembers
  dsimp only at remembers
  split_ifs at remembers
  · exact (mem_members_erase.mp remembers).2
  · exact remembers

theorem remembers_disconnect (remembers : (manager.disconnect websocket userId).Remembers other room) :
    manager.Remembers other room :=
  @remembers_removeConnection _ _ (manager.lookUp userId) _ _ _ _ remembers

theorem remembers_dropDeadSocket (remembers : (manager.dropDeadSocket websocket).Remembers other room) :
    manager.Remembers other room := by
  unfold dropDeadSocket at remembers
  cases owner : manager.socketToUserId.get? websocket with
  | none =>
    rw [owner] at remembers
    dsimp only at remembers
    split at remembers
    · exact remembers
    · exact remembers
  | some userId =>
    rw [owner] at remembers
    dsimp only at remembers
    split at remembers
    · exact remembers_removeConnection remembers
    · exact remembers_removeConnection remembers

theorem remembers_unsubscribeUserFromRoom :
    (manager.unsubscribeUserFromRoom userId roomId).Remembers other room ↔
      ¬ (other = userId ∧ room = roomId) ∧ manager.Remembers other room := by
  rcases @foldl_unsubscribeRoom_eq Socket _ manager roomId (socketsOf manager.connections userId) with
    ⟨-, -, -, -, memberships⟩
  unfold Remembers unsubscribeUserFromRoom
  dsimp only at memberships ⊢
  rw [memberships]
  cases found : manager.userRoomMemberships.get? userId with
  | none =>
    rw [iff_and_self]
    rintro member ⟨rfl, -⟩
    rw [members_of_get?_none found] at member
    exact Finset.notMem_empty _ member
  | some listed =>
    rcases eq_or_ne other userId with rfl | different
    · rw [members_of_get? get?_set_self, members_of_get? found, Finset.mem_erase]
      simp
    · rw [members_congr (get?_set_of_ne different)]
      simp [different]

theorem remembers_warmed (remembers : (manager.warmed cache userId roomId).Remembers other room) :
    manager.Remembers other room ∨ (other = userId ∧ room = roomId ∧ room ∈ cache.sets userId) := by
  unfold warmed at remembers
  split_ifs at remembers with missed
  · rcases mem_members_addTo.mp remembers with ⟨user, same⟩ | before
    · exact Or.inr ⟨user, same, same ▸ contains_iff.mp missed.2⟩
    · exact Or.inl before
  · exact Or.inl remembers

theorem remembers_grant (remembers : (manager.grantRoomMembership userId roomId).Remembers other room) :
    manager.Remembers other room ∨ (other = userId ∧ room = roomId) := by
  unfold grantRoomMembership at remembers
  split_ifs at remembers
  · exact Or.inl remembers
  · exact (mem_members_addTo.mp remembers).symm

theorem remembers_set {roomIds : Finset String}
    (remembers : (manager.setUserRoomMemberships userId roomIds).Remembers other room) :
    manager.Remembers other room ∨ (other = userId ∧ room ∈ roomIds) := by
  unfold Remembers setUserRoomMemberships at remembers
  rcases eq_or_ne other userId with rfl | different
  · rw [members_of_get? get?_set_self] at remembers
    exact Or.inr ⟨rfl, remembers⟩
  · rw [members_congr (get?_set_of_ne different)] at remembers
    exact Or.inl remembers

end ConnectionManager

namespace Worker

variable {worker : Worker Socket} {manager : ConnectionManager Socket} {cache : RoomMembershipCache}
  {userId roomId room : String} {websocket other : Socket} {call : Call Socket}

/-! ## What a step of a worker can bring about -/

theorem remembers_step (remembers : (worker.step call).manager.Remembers userId room) :
    worker.manager.Remembers userId room := by
  unfold step at remembers
  cases call with
  | connect websocket owner =>
    dsimp only at remembers
    split at remembers
    · exact remembers
    · exact remembers
  | connectProvider websocket peerId =>
    dsimp only at remembers
    split at remembers
    · exact remembers
    · exact remembers
  | subscribeRoom websocket roomId =>
    dsimp only at remembers
    split at remembers
    · exact remembers
    · exact remembers
  | unsubscribeRoom websocket roomId => exact remembers
  | unsubscribeAll websocket => exact remembers
  | unsubscribeUserFromRoom owner roomId =>
    exact (remembers_unsubscribeUserFromRoom.mp remembers).2
  | sendFailed websocket =>
    dsimp only at remembers
    split at remembers
    · exact remembers
    · exact remembers_dropDeadSocket remembers
    · exact remembers
  | disconnect websocket =>
    dsimp only at remembers
    split at remembers
    · exact remembers
    · rename_i session _
      split_ifs at remembers
      · exact remembers
      · cases session with
        | user owner => exact remembers_disconnect remembers
        | provider peerId => exact remembers

theorem subscribed_step (subscribed : (worker.step call).manager.Subscribed websocket room) :
    worker.manager.Subscribed websocket room ∨ call = .subscribeRoom websocket room := by
  unfold step at subscribed
  cases call with
  | connect websocket owner =>
    dsimp only at subscribed
    split at subscribed
    · exact Or.inl subscribed
    · exact Or.inl subscribed
  | connectProvider websocket peerId =>
    dsimp only at subscribed
    split at subscribed
    · exact Or.inl subscribed
    · exact Or.inl subscribed
  | subscribeRoom websocket roomId =>
    dsimp only at subscribed
    split at subscribed
    · exact Or.inl subscribed
    · rcases subscribed_subscribeRoom.mp subscribed with ⟨rfl, rfl⟩ | before
      · exact Or.inr rfl
      · exact Or.inl before
  | unsubscribeRoom websocket roomId =>
    exact Or.inl (subscribed_unsubscribeRoom.mp subscribed).2
  | unsubscribeAll websocket => exact Or.inl (subscribed_removeSocket.mp subscribed).2
  | unsubscribeUserFromRoom owner roomId =>
    exact Or.inl (subscribed_unsubscribeUserFromRoom.mp subscribed).2
  | sendFailed websocket =>
    dsimp only at subscribed
    split at subscribed
    · exact Or.inl subscribed
    · exact Or.inl (subscribed_dropDeadSocket.mp subscribed).2
    · exact Or.inl subscribed
  | disconnect websocket =>
    dsimp only at subscribed
    split at subscribed
    · exact Or.inl subscribed
    · rename_i session _
      split_ifs at subscribed
      · exact Or.inl subscribed
      · cases session with
        | user owner => exact Or.inl (subscribed_disconnect.mp subscribed).2
        | provider peerId => exact Or.inl subscribed

theorem sessions_step (session : (worker.step call).sessions websocket = some (.user userId)) :
    worker.sessions websocket = some (.user userId) ∨
      (worker.sessions websocket = none ∧ call = .connect websocket userId) := by
  unfold step at session
  cases call with
  | connect accepted owner =>
    dsimp only at session
    split at session
    · exact Or.inl session
    · rename_i fresh
      rcases eq_or_ne websocket accepted with rfl | different
      · rw [accept_sessions, update_self] at session
        cases session
        exact Or.inr ⟨fresh, rfl⟩
      · rw [accept_sessions, update_of_ne different] at session
        exact Or.inl session
  | connectProvider accepted peerId =>
    dsimp only at session
    split at session
    · exact Or.inl session
    · rcases eq_or_ne websocket accepted with rfl | different
      · rw [accept_sessions, update_self] at session
        cases session
      · rw [accept_sessions, update_of_ne different] at session
        exact Or.inl session
  | subscribeRoom websocket roomId =>
    dsimp only at session
    split at session
    · exact Or.inl session
    · exact Or.inl session
  | sendFailed websocket =>
    dsimp only at session
    split at session
    · exact Or.inl session
    · exact Or.inl session
    · exact Or.inl session
  | disconnect websocket =>
    dsimp only at session
    split at session
    · exact Or.inl session
    · split_ifs at session
      · exact Or.inl session
      · exact Or.inl session
  | _ => exact Or.inl session

theorem Sound.checked (sound : worker.Sound) : (worker.checked cache userId roomId).Sound := by
  have kept : ∀ manager : ConnectionManager Socket,
      manager = worker.manager.warmed cache userId roomId ->
      (worker.withManager manager).Sound := by
    intro manager same
    unfold warmed at same
    split_ifs at same
    · rw [same]
      exact sound.withRooms rfl rfl rfl rfl ⟨sound.rooms.mirrored, sound.rooms.inhabited⟩
        sound.accepted
    · rw [same]
      exact sound
  exact kept _ rfl

theorem Sound.grant (sound : worker.Sound) :
    (worker.withManager (worker.manager.grantRoomMembership userId roomId)).Sound := by
  unfold grantRoomMembership
  split_ifs
  · exact sound
  · exact sound.withRooms rfl rfl rfl rfl ⟨sound.rooms.mirrored, sound.rooms.inhabited⟩
      sound.accepted

theorem Sound.connectRooms {roomIds : Finset String} (sound : worker.Sound) :
    (worker.connectRooms websocket userId roomIds).Sound := by
  have connected := sound_step sound (.connect websocket userId)
  exact connected.withRooms rfl rfl rfl rfl ⟨connected.rooms.mirrored, connected.rooms.inhabited⟩
    connected.accepted

theorem Sound.handleSubscribe (sound : worker.Sound) :
    (worker.handleSubscribe cache websocket roomId).Sound := by
  unfold Worker.handleSubscribe
  split
  · exact sound
  · split_ifs
    · exact sound_step sound.checked _
    · exact sound

/-! ## Workers that a revocation has reached -/

/-- A worker neither remembers the member nor delivers to its sockets. -/
structure Clean (worker : Worker Socket) (userId room : String) : Prop where
  forgotten : ¬ worker.manager.Remembers userId room
  unsubscribed : ∀ websocket, worker.sessions websocket = some (.user userId) ->
    ¬ worker.manager.Subscribed websocket room

theorem Clean.step (clean : worker.Clean userId room) (sound : worker.Sound)
    (others : ∀ websocket, call = .subscribeRoom websocket room ->
      worker.sessions websocket ≠ some (.user userId)) : (worker.step call).Clean userId room where
  forgotten := fun remembers => clean.forgotten (remembers_step remembers)
  unsubscribed := by
    intro websocket session subscribed
    rcases subscribed_step subscribed with before | rfl
    · rcases sessions_step session with old | ⟨fresh, -⟩
      · exact clean.unsubscribed websocket old before
      · rcases sound.accepted websocket room before with ⟨owner, accepted⟩
        rw [fresh] at accepted
        cases accepted
    · rcases sessions_step session with old | ⟨-, same⟩
      · exact others websocket rfl old
      · cases same

theorem warmed_socketRooms :
    (manager.warmed cache userId roomId).socketRooms = manager.socketRooms := by
  unfold warmed
  split_ifs
  · rfl
  · rfl

theorem grantRoomMembership_socketRooms :
    (manager.grantRoomMembership userId roomId).socketRooms = manager.socketRooms := by
  unfold grantRoomMembership
  split_ifs
  · rfl
  · rfl

theorem Clean.withManager (clean : worker.Clean userId room)
    (socketRooms : manager.socketRooms = worker.manager.socketRooms)
    (forgotten : ¬ manager.Remembers userId room) : (worker.withManager manager).Clean userId room where
  forgotten := forgotten
  unsubscribed := by
    intro websocket session subscribed
    refine clean.unsubscribed websocket session ?_
    unfold Subscribed
    rw [← socketRooms]
    exact subscribed

theorem Clean.checked {asker : String} (clean : worker.Clean userId room)
    (revoked : room ∉ cache.sets userId) : (worker.checked cache asker roomId).Clean userId room := by
  refine clean.withManager warmed_socketRooms (fun remembers => ?_)
  rcases remembers_warmed remembers with before | ⟨rfl, -, contained⟩
  · exact clean.forgotten before
  · exact revoked contained

theorem Clean.grant {owner : String} (clean : worker.Clean userId room)
    (other : ¬ (userId = owner ∧ room = roomId)) :
    (worker.withManager (worker.manager.grantRoomMembership owner roomId)).Clean userId room := by
  refine clean.withManager grantRoomMembership_socketRooms (fun remembers => ?_)
  rcases remembers_grant remembers with before | same
  · exact clean.forgotten before
  · exact other same

theorem Clean.connectRooms {owner : String} {roomIds : Finset String} (clean : worker.Clean userId room)
    (sound : worker.Sound) (outside : userId = owner -> room ∉ roomIds) :
    (worker.connectRooms websocket owner roomIds).Clean userId room := by
  have connected : (worker.step (.connect websocket owner)).Clean userId room :=
    clean.step sound (fun _ same => by cases same)
  refine connected.withManager rfl (fun remembers => ?_)
  rcases remembers_set remembers with before | ⟨same, member⟩
  · exact connected.forgotten before
  · exact outside same member

theorem Clean.handleSubscribe (clean : worker.Clean userId room) (sound : worker.Sound)
    (revoked : room ∉ cache.sets userId) :
    (worker.handleSubscribe cache websocket roomId).Clean userId room := by
  unfold Worker.handleSubscribe
  split
  · exact clean
  · rename_i owner served
    split_ifs with member
    · refine (clean.checked revoked).step sound.checked ?_
      rintro other same session
      cases same
      have owned : worker.sessions websocket = some (.user userId) := session
      rw [(servedUser_eq_some served).1] at owned
      cases owned
      rcases ConnectionManager.userIsRoomMember_iff.mp member with remembered | contained
      · exact clean.forgotten remembered
      · exact revoked contained
    · exact clean

end Worker

namespace Deployment

variable {deployment : Deployment Id Socket} {event : Event Id Socket} {id other : Id}
  {userId room : String} {websocket : Socket}

/-! ## Revocations -/

/-- No worker takes the user for a member, and no socket of the user is sent
what is broadcast to the room. -/
structure Revoked (deployment : Deployment Id Socket) (userId room : String) : Prop where
  refused : ∀ id,
    (deployment.workers id).manager.userIsRoomMember deployment.cache userId room = false
  silent : ∀ id websocket, (deployment.workers id).sessions websocket = some (.user userId) ->
    websocket ∉ (deployment.workers id).manager.recipients room

/-- When a membership is revoked by a worker, no other worker remembers it or
has a subscription that rests on it, and the worker itself still lists every
socket of the user that it has subscribed to the room. -/
def Reaches (deployment : Deployment Id Socket) : Event Id Socket -> Prop
  | .leave id userId room =>
    (∀ other, other ≠ id ->
      room.text ∉ (deployment.workers other).manager.userRoomMemberships.members userId) ∧
    (∀ other, other ≠ id -> ∀ websocket,
      (deployment.workers other).sessions websocket = some (.user userId) ->
      websocket ∉ (deployment.workers other).manager.recipients room.text) ∧
    (∀ websocket, (deployment.workers id).sessions websocket = some (.user userId) ->
      websocket ∈ (deployment.workers id).manager.recipients room.text ->
      websocket ∈ socketsOf (deployment.workers id).manager.connections userId)
  | _ => True

def AllSound (deployment : Deployment Id Socket) : Prop :=
  ∀ id, (deployment.workers id).Sound

/-- The membership is gone from the database, the cache and every worker. -/
structure Forgotten (deployment : Deployment Id Socket) (userId room : String) : Prop where
  rooms : room ∉ deployment.rooms userId
  cache : room ∉ deployment.cache.sets userId
  workers : ∀ id, (deployment.workers id).Clean userId room

theorem updated_forall {holds : Worker Socket -> Prop} {worker : Worker Socket}
    (here : holds worker) (elsewhere : ∀ other, holds (deployment.workers other)) (other : Id) :
    holds (deployment.updated id worker other) := by
  unfold updated
  rcases eq_or_ne other id with rfl | different
  · rw [update_self]
    exact here
  · rw [update_of_ne different]
    exact elsewhere other

theorem allSound_step (sound : deployment.AllSound) (event : Event Id Socket) :
    (deployment.step event).AllSound := by
  cases event with
  | connect id websocket userId =>
    unfold step
    dsimp only
    split
    · exact sound
    · exact updated_forall (sound id).connectRooms sound
  | disconnect id websocket => exact updated_forall (Worker.sound_step (sound id) _) sound
  | sendFailed id websocket => exact updated_forall (Worker.sound_step (sound id) _) sound
  | subscribe id websocket roomId => exact updated_forall (sound id).handleSubscribe sound
  | unsubscribe id websocket roomId => exact updated_forall (Worker.sound_step (sound id) _) sound
  | check id userId roomId => exact updated_forall (sound id).checked sound
  | join id userId room => exact updated_forall (sound id).grant sound
  | leave id userId room => exact updated_forall (Worker.sound_step (sound id) _) sound
  | expire userId => exact sound

theorem Forgotten.revoked (forgotten : deployment.Forgotten userId room) (sound : deployment.AllSound) :
    deployment.Revoked userId room where
  refused := by
    intro id
    rw [Bool.eq_false_iff]
    intro member
    rcases ConnectionManager.userIsRoomMember_iff.mp member with remembered | contained
    · exact (forgotten.workers id).forgotten remembered
    · exact forgotten.cache contained
  silent := by
    intro id websocket session received
    exact (forgotten.workers id).unsubscribed websocket session
      ((sound id).rooms.mem_recipients.mp received)

theorem Revoked.forgotten (revoked : deployment.Revoked userId room) (sound : deployment.AllSound)
    (rooms : room ∉ deployment.rooms userId) (cache : room ∉ deployment.cache.sets userId) :
    deployment.Forgotten userId room where
  rooms := rooms
  cache := cache
  workers := by
    intro id
    refine ⟨fun remembered => ?_, fun websocket session subscribed => ?_⟩
    · have member : (deployment.workers id).manager.userIsRoomMember deployment.cache userId room =
          true := ConnectionManager.userIsRoomMember_iff.mpr (Or.inl remembered)
      rw [revoked.refused id] at member
      cases member
    · exact revoked.silent id websocket session ((sound id).rooms.mem_recipients.mpr subscribed)

theorem Forgotten.updated {worker : Worker Socket} (forgotten : deployment.Forgotten userId room)
    (clean : worker.Clean userId room) (other : Id) :
    (deployment.updated id worker other).Clean userId room :=
  @updated_forall _ _ _ _ deployment id (fun worker => worker.Clean userId room) worker clean
    forgotten.workers other

theorem Forgotten.resolve (forgotten : deployment.Forgotten userId room) :
    room ∉ deployment.resolveUserRoomIds userId := by
  unfold resolveUserRoomIds RoomMembershipCache.getRooms
  split_ifs
  · exact fun member => forgotten.cache (Finset.mem_of_mem_erase member)
  · exact forgotten.rooms

theorem forgotten_step (forgotten : deployment.Forgotten userId room) (sound : deployment.AllSound)
    (proper : room ≠ emptyMarker)
    (others : ∀ id granted, event = .join id userId granted -> granted.text ≠ room) :
    (deployment.step event).Forgotten userId room := by
  cases event with
  | connect id websocket owner =>
    unfold step
    dsimp only
    split
    · exact forgotten
    · refine ⟨forgotten.rooms, ?_, forgotten.updated
        ((forgotten.workers id).connectRooms (sound id) ?_)⟩
      · dsimp only
        unfold RoomMembershipCache.replace
        rcases eq_or_ne userId owner with rfl | different
        · rw [write_self]
          split_ifs
          · exact fun member => proper (Finset.mem_singleton.mp member)
          · exact forgotten.resolve
        · rw [write_of_ne different]
          exact forgotten.cache
      · rintro rfl
        exact forgotten.resolve
  | disconnect id websocket =>
    exact ⟨forgotten.rooms, forgotten.cache, forgotten.updated
      ((forgotten.workers id).step (sound id) (fun _ same => by cases same))⟩
  | sendFailed id websocket =>
    exact ⟨forgotten.rooms, forgotten.cache, forgotten.updated
      ((forgotten.workers id).step (sound id) (fun _ same => by cases same))⟩
  | subscribe id websocket roomId =>
    exact ⟨forgotten.rooms, forgotten.cache, forgotten.updated
      ((forgotten.workers id).handleSubscribe (sound id) forgotten.cache)⟩
  | unsubscribe id websocket roomId =>
    exact ⟨forgotten.rooms, forgotten.cache, forgotten.updated
      ((forgotten.workers id).step (sound id) (fun _ same => by cases same))⟩
  | check id asker roomId =>
    exact ⟨forgotten.rooms, forgotten.cache, forgotten.updated
      ((forgotten.workers id).checked forgotten.cache)⟩
  | join id owner granted =>
    have other : ¬ (userId = owner ∧ room = granted.text) := by
      rintro ⟨rfl, same⟩
      exact others id granted rfl same.symm
    refine ⟨?_, ?_, forgotten.updated ((forgotten.workers id).grant other)⟩
    · unfold step
      dsimp only
      rcases eq_or_ne userId owner with rfl | different
      · rw [update_self, Finset.mem_insert]
        rintro (same | member)
        · exact other ⟨rfl, same⟩
        · exact forgotten.rooms member
      · rw [update_of_ne different]
        exact forgotten.rooms
    · unfold step RoomMembershipCache.add
      dsimp only
      rcases eq_or_ne userId owner with rfl | different
      · rw [write_self]
        intro member
        rcases Finset.mem_insert.mp (Finset.mem_of_mem_erase member) with same | member
        · exact other ⟨rfl, same⟩
        · exact forgotten.cache member
      · rw [write_of_ne different]
        exact forgotten.cache
  | leave id owner left =>
    refine ⟨?_, ?_, forgotten.updated ((forgotten.workers id).step (sound id)
      (fun _ same => by cases same))⟩
    · unfold step
      dsimp only
      rcases eq_or_ne userId owner with rfl | different
      · rw [update_self]
        exact fun member => forgotten.rooms (Finset.mem_of_mem_erase member)
      · rw [update_of_ne different]
        exact forgotten.rooms
    · unfold step RoomMembershipCache.remove
      dsimp only
      rcases eq_or_ne userId owner with rfl | different
      · rw [write_self]
        exact fun member => forgotten.cache (Finset.mem_of_mem_erase member)
      · rw [write_of_ne different]
        exact forgotten.cache
  | expire owner =>
    refine ⟨forgotten.rooms, ?_, forgotten.workers⟩
    unfold step RoomMembershipCache.expire
    dsimp only
    rcases eq_or_ne userId owner with rfl | different
    · rw [write_self]
      exact Finset.notMem_empty _
    · rw [write_of_ne different]
      exact forgotten.cache

/-! ## Runs -/

theorem step_leave_rooms {left : RoomId} :
    left.text ∉ (deployment.step (.leave id userId left)).rooms userId := by
  unfold step
  dsimp only
  rw [update_self]
  exact Finset.notMem_erase _ _

theorem step_leave_cache {left : RoomId} :
    left.text ∉ (deployment.step (.leave id userId left)).cache.sets userId := by
  unfold step RoomMembershipCache.remove
  dsimp only
  rw [write_self]
  exact Finset.notMem_erase _ _

theorem step_leave_workers {left : RoomId} :
    (deployment.step (.leave id userId left)).workers =
      deployment.updated id
        ((deployment.workers id).step (.unsubscribeUserFromRoom userId left.text)) :=
  rfl

theorem revoked_step_iff {left : RoomId} (sound : deployment.AllSound) :
    (deployment.step (.leave id userId left)).Revoked userId left.text ↔
      Reaches deployment (.leave id userId left) := by
  have later := allSound_step sound (.leave id userId left)
  have here : (deployment.step (.leave id userId left)).workers id =
      (deployment.workers id).step (.unsubscribeUserFromRoom userId left.text) := by
    rw [step_leave_workers]
    exact update_self _ _ _
  have elsewhere : ∀ other, other ≠ id ->
      (deployment.step (.leave id userId left)).workers other = deployment.workers other := by
    intro other different
    rw [step_leave_workers]
    exact update_of_ne different _ _
  constructor
  · intro revoked
    have forgotten := revoked.forgotten later step_leave_rooms step_leave_cache
    refine ⟨fun other different remembered => ?_, fun other different websocket session received => ?_,
      fun websocket session received => ?_⟩
    · have clean := forgotten.workers other
      rw [elsewhere other different] at clean
      exact clean.forgotten remembered
    · have clean := forgotten.workers other
      rw [elsewhere other different] at clean
      exact clean.unsubscribed websocket session ((sound other).rooms.mem_recipients.mp received)
    · have clean := forgotten.workers id
      rw [here] at clean
      by_contra unlisted
      refine clean.unsubscribed websocket session (subscribed_unsubscribeUserFromRoom.mpr ⟨?_, ?_⟩)
      · exact fun listed => unlisted listed.1
      · exact (sound id).rooms.mem_recipients.mp received
  · rintro ⟨remembered, received, listed⟩
    refine Forgotten.revoked ⟨step_leave_rooms, step_leave_cache, fun other => ?_⟩ later
    rcases eq_or_ne other id with rfl | different
    · rw [here]
      refine ⟨fun remembers => ?_, fun websocket session subscribed => ?_⟩
      · exact (remembers_unsubscribeUserFromRoom.mp remembers).1 ⟨rfl, rfl⟩
      · rcases subscribed_unsubscribeUserFromRoom.mp subscribed with ⟨unlisted, before⟩
        exact unlisted ⟨listed websocket session ((sound other).rooms.mem_recipients.mpr before), rfl⟩
    · rw [elsewhere other different]
      refine ⟨remembered other different, fun websocket session subscribed => ?_⟩
      exact received other different websocket session
        ((sound other).rooms.mem_recipients.mpr subscribed)

theorem allSound_run (events : List (Event Id Socket)) : (run events).AllSound :=
  foldl_invariant (fun _ => Worker.sound_empty) (fun _ event sound => allSound_step sound event)

theorem run_append {front back : List (Event Id Socket)} :
    run (front ++ back) = back.foldl step (run front) :=
  List.foldl_append ..

theorem forgotten_foldl {events : List (Event Id Socket)} (forgotten : deployment.Forgotten userId room)
    (sound : deployment.AllSound) (proper : room ≠ emptyMarker)
    (others : ∀ id granted, .join id userId granted ∈ events -> granted.text ≠ room) :
    (events.foldl step deployment).Forgotten userId room := by
  induction events generalizing deployment with
  | nil => exact forgotten
  | cons event rest ih =>
    refine ih (forgotten_step forgotten sound proper ?_) (allSound_step sound event) ?_
    · rintro id granted rfl
      exact others id granted (List.mem_cons_self ..)
    · intro id granted member
      exact others id granted (List.mem_cons_of_mem _ member)

/-- After every removal of a run, and until the next grant, the membership is
revoked on every worker. -/
def RevokedThroughout (events : List (Event Id Socket)) : Prop :=
  ∀ front id userId (left : RoomId) middle back,
    events = front ++ .leave id userId left :: (middle ++ back) ->
    (∀ granter granted, .join granter userId granted ∈ middle -> granted.text ≠ left.text) ->
    (run (front ++ .leave id userId left :: middle)).Revoked userId left.text

/-- Revocations hold throughout a run exactly when each removal of the run
reaches every worker. -/
theorem revokedThroughout_iff (events : List (Event Id Socket)) :
    RevokedThroughout events ↔ Meets step Reaches {} events := by
  constructor
  · intro throughout
    by_contra fails
    rcases exists_of_not_meets fails with ⟨front, event, back, split, broken⟩
    cases event with
    | leave id userId left =>
      refine broken ((revoked_step_iff (allSound_run front)).mp ?_)
      have revoked := throughout front id userId left [] back split
        (fun _ _ member => absurd member (List.not_mem_nil))
      rw [run_append] at revoked
      exact revoked
    | _ => exact broken trivial
  · intro meets front id userId left middle back split others
    rw [split] at meets
    have sound := allSound_run front
    have revoked := (revoked_step_iff sound).mpr meets.at
    have later := allSound_step sound (.leave id userId left)
    have forgotten := revoked.forgotten later step_leave_rooms step_leave_cache
    rw [run_append]
    exact (forgotten_foldl forgotten later left.proper others).revoked
      (foldl_invariant later (fun _ event sound => allSound_step sound event))

/-- A user is connected to one worker and subscribed to a room there, and leaves
the room by a request to another worker.  The first worker goes on to admit the
user and to send it what is broadcast to the room. -/
theorem other_worker_not_reached :
    let room : RoomId := ⟨"room", by decide⟩
    let events : List (Event Bool Nat) := [.join true "user" room, .connect false 1 "user",
      .subscribe false 1 "room", .leave true "user" room]
    let deployment := run events
    (deployment.workers false).manager.userIsRoomMember deployment.cache "user" "room" = true ∧
      1 ∈ (deployment.workers false).manager.recipients "room" ∧
      (deployment.workers false).sessions 1 = some (.user "user") ∧
      "room" ∉ deployment.rooms "user" := by
  decide

end Deployment

end Websockets
end ZepGpu
