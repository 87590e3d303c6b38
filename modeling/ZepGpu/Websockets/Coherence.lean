import ZepGpu.Websockets.Deployment

namespace ZepGpu
namespace Websockets

open Function Foundation ConnectionManager Dict RoomMembershipCache

/-!
# What the membership cache lists

A connection that finds the key of its user trusts it to list all rooms of the
user.  Replacing a key and taking rooms out of it keep it complete.  A grant
adds its room to whatever is there, so that it makes an incomplete key when the
key had expired or was never made and the user belongs to other rooms.
-/

variable {Id Socket : Type} [DecidableEq Id] [DecidableEq Socket]

namespace ConnectionManager

variable {manager : ConnectionManager Socket} {rooms : String -> Finset String}
  {cache : RoomMembershipCache} {userId other roomId : String} {websocket : Socket}

/-! ## Memberships of connected users -/

/-- The rooms of every connected user are remembered as the database has them. -/
def Warm (manager : ConnectionManager Socket) (rooms : String -> Finset String) : Prop :=
  ∀ userId, socketsOf manager.connections userId ≠ [] ->
    ∃ listed, manager.userRoomMemberships.get? userId = some listed ∧
      listed.erase emptyMarker = rooms userId

section

variable (warm : manager.Warm rooms)

include warm

theorem Warm.removeConnection : (manager.removeConnection websocket userId).Warm rooms := by
  intro other connected
  unfold ConnectionManager.removeConnection at connected ⊢
  dsimp only at connected ⊢
  rcases eq_or_ne other userId with rfl | different
  · rw [socketsOf_removeSocket_self] at connected
    rw [if_neg (fun last => connected last.2)]
    refine warm other (fun none => connected ?_)
    rw [none]
    rfl
  · rw [socketsOf_removeSocket_of_ne different] at connected
    split_ifs
    · rw [get?_erase_of_ne different]
      exact warm other connected
    · exact warm other connected

theorem Warm.lookUp : (manager.lookUp userId).Warm rooms := by
  intro other connected
  unfold ConnectionManager.lookUp at connected
  rcases eq_or_ne other userId with rfl | different
  · rw [socketsOf_set_self] at connected
    exact warm other connected
  · rw [socketsOf_set_of_ne different] at connected
    exact warm other connected

theorem Warm.disconnect : (manager.disconnect websocket userId).Warm rooms :=
  warm.lookUp.removeConnection

theorem Warm.dropDeadSocket : (manager.dropDeadSocket websocket).Warm rooms := by
  unfold ConnectionManager.dropDeadSocket
  cases manager.socketToUserId.get? websocket with
  | none =>
    dsimp only
    split
    · exact warm
    · exact warm
  | some userId =>
    dsimp only
    split
    · exact warm.removeConnection
    · exact warm.removeConnection

theorem Warm.warmed (agrees : ∀ userId, cache.Agrees userId (rooms userId)) :
    (manager.warmed cache userId roomId).Warm rooms := by
  unfold ConnectionManager.warmed
  split_ifs with missed
  · intro other connected
    rcases warm other connected with ⟨listed, found, lists⟩
    rcases eq_or_ne other userId with rfl | different
    · refine ⟨_, get?_set_self, ?_⟩
      rw [members_of_get? found]
      rcases eq_or_ne roomId emptyMarker with rfl | proper
      · rw [Finset.erase_insert_eq_erase, lists]
      · have room := (agrees other).mem proper (contains_iff.mp missed.2)
        rw [Finset.erase_insert_of_ne proper, lists]
        exact Finset.insert_eq_of_mem room
    · exact ⟨listed, (get?_set_of_ne different).trans found, lists⟩
  · exact warm

theorem Warm.connect (proper : emptyMarker ∉ rooms userId) :
    ((manager.connect websocket userId).setUserRoomMemberships userId (rooms userId)).Warm rooms := by
  intro other connected
  rcases eq_or_ne other userId with rfl | different
  · exact ⟨rooms other, get?_set_self, Finset.erase_eq_of_notMem proper⟩
  · have before : socketsOf manager.connections other ≠ [] := by
      intro none
      refine connected ?_
      rw [← none]
      exact socketsOf_set_of_ne different
    rcases warm other before with ⟨listed, found, lists⟩
    exact ⟨listed, (get?_set_of_ne different).trans found, lists⟩

theorem Warm.grant (proper : roomId ≠ emptyMarker) :
    (manager.grantRoomMembership userId roomId).Warm
      (update rooms userId (insert roomId (rooms userId))) := by
  unfold grantRoomMembership
  intro other connected
  split_ifs at connected ⊢ with absent
  · have different : other ≠ userId := by
      rintro rfl
      refine connected ?_
      unfold socketsOf
      rw [absent.1]
      rfl
    rw [update_of_ne different]
    exact warm other connected
  · rcases warm other connected with ⟨listed, found, lists⟩
    rcases eq_or_ne other userId with rfl | different
    · refine ⟨_, get?_set_self, ?_⟩
      rw [members_of_get? found, Finset.erase_insert_of_ne proper, lists, update_self]
    · rw [update_of_ne different]
      exact ⟨listed, (get?_set_of_ne different).trans found, lists⟩

theorem Warm.unsubscribeUserFromRoom :
    (manager.unsubscribeUserFromRoom userId roomId).Warm
      (update rooms userId ((rooms userId).erase roomId)) := by
  rcases @foldl_unsubscribeRoom_eq Socket _ manager roomId (socketsOf manager.connections userId) with
    ⟨connections, -, -, -, memberships⟩
  intro other connected
  unfold ConnectionManager.unsubscribeUserFromRoom at connected ⊢
  dsimp only at connected ⊢ connections memberships
  rw [connections] at connected
  rw [memberships]
  rcases warm other connected with ⟨listed, found, lists⟩
  rcases eq_or_ne other userId with rfl | different
  · rw [found]
    refine ⟨_, get?_set_self, ?_⟩
    rw [Finset.erase_right_comm, lists, update_self]
  · rw [update_of_ne different]
    refine ⟨listed, ?_, lists⟩
    cases manager.userRoomMemberships.get? userId with
    | none => exact found
    | some _ => exact (get?_set_of_ne different).trans found

theorem Warm.userIsRoomMember_iff (agrees : cache.Agrees userId (rooms userId))
    (proper : roomId ≠ emptyMarker) (connected : socketsOf manager.connections userId ≠ []) :
    manager.userIsRoomMember cache userId roomId = true ↔ roomId ∈ rooms userId := by
  rcases warm userId connected with ⟨listed, found, lists⟩
  rw [ConnectionManager.userIsRoomMember_iff, members_of_get? found]
  constructor
  · rintro (here | contained)
    · rw [← lists]
      exact Finset.mem_erase.mpr ⟨proper, here⟩
    · exact agrees.mem proper contained
  · intro room
    rw [← lists] at room
    exact Or.inl (Finset.mem_of_mem_erase room)

end

end ConnectionManager

namespace Deployment

variable {deployment : Deployment Id Socket} {event : Event Id Socket} {id other : Id}
  {userId roomId : String} {websocket : Socket}

/-! ## Keys -/

/-- The marker is no room. -/
def Proper (deployment : Deployment Id Socket) : Prop :=
  ∀ userId, emptyMarker ∉ deployment.rooms userId

theorem proper_step (proper : deployment.Proper) (event : Event Id Socket) :
    (deployment.step event).Proper := by
  intro userId
  cases event with
  | connect id websocket owner =>
    unfold step
    dsimp only
    split
    · exact proper userId
    · exact proper userId
  | join id owner room =>
    unfold step
    dsimp only
    rcases eq_or_ne userId owner with rfl | different
    · rw [update_self, Finset.mem_insert]
      rintro (same | member)
      · exact room.proper same.symm
      · exact proper userId member
    · rw [update_of_ne different]
      exact proper userId
  | leave id owner room =>
    unfold step
    dsimp only
    rcases eq_or_ne userId owner with rfl | different
    · rw [update_self]
      exact fun member => proper userId (Finset.mem_of_mem_erase member)
    · rw [update_of_ne different]
      exact proper userId
  | _ => exact proper userId

/-- Every key that exists lists exactly the rooms of its user. -/
def Coherent (deployment : Deployment Id Socket) : Prop :=
  ∀ userId, deployment.cache.Agrees userId (deployment.rooms userId)

theorem Coherent.resolve (coherent : deployment.Coherent) :
    deployment.resolveUserRoomIds userId = deployment.rooms userId := by
  unfold resolveUserRoomIds
  cases found : deployment.cache.getRooms userId with
  | none => rfl
  | some listed => exact coherent userId listed found

/-- A grant finds a key, or the user belongs to no other room. -/
def Complete (deployment : Deployment Id Socket) : Event Id Socket -> Prop
  | .join _ userId room =>
    deployment.cache.Known userId ∨ deployment.rooms userId ⊆ {room.text}
  | _ => True

theorem coherent_step_iff (proper : deployment.Proper) (coherent : deployment.Coherent)
    (event : Event Id Socket) :
    (deployment.step event).Coherent ↔ Complete deployment event := by
  cases event with
  | connect id websocket userId =>
    refine (iff_true_right trivial).mpr ?_
    unfold step
    dsimp only
    split
    · exact coherent
    · intro candidate
      dsimp only
      rw [coherent.resolve]
      rcases eq_or_ne candidate userId with rfl | different
      · exact agrees_replace (proper candidate)
      · exact (agrees_congr (write_of_ne different)).mpr
          (coherent candidate)
  | join id userId room =>
    have granted : (deployment.cache.add userId room.text).Agrees userId
        (insert room.text (deployment.rooms userId)) ↔ Complete deployment (.join id userId room) :=
      agrees_add_iff (coherent userId) room.proper
    rw [← granted]
    unfold Coherent step
    dsimp only
    constructor
    · intro all
      have here := all userId
      rw [update_self] at here
      exact here
    · intro here candidate
      rcases eq_or_ne candidate userId with rfl | different
      · rw [update_self]
        exact here
      · rw [update_of_ne different]
        exact (agrees_congr (write_of_ne different)).mpr (coherent candidate)
  | leave id userId room =>
    refine (iff_true_right trivial).mpr (fun candidate => ?_)
    unfold step
    dsimp only
    rcases eq_or_ne candidate userId with rfl | different
    · rw [update_self]
      exact (coherent candidate).remove
    · rw [update_of_ne different]
      exact (agrees_congr (write_of_ne different)).mpr (coherent candidate)
  | expire userId =>
    refine (iff_true_right trivial).mpr (fun candidate => ?_)
    rcases eq_or_ne candidate userId with rfl | different
    · exact agrees_expire
    · exact (agrees_congr (write_of_ne different)).mpr
        (coherent candidate)
  | _ => exact (iff_true_right trivial).mpr coherent

/-! ## One worker alone -/

/-- The worker knows the rooms of the users that are connected to it. -/
def WarmAt (deployment : Deployment Id Socket) (id : Id) : Prop :=
  (deployment.workers id).manager.Warm deployment.rooms

variable {worker : Worker Socket}

theorem updated_self : deployment.updated id worker id = worker :=
  update_self _ _ _

theorem warm_handleSubscribe {rooms : String -> Finset String} {cache : RoomMembershipCache}
    (warm : worker.manager.Warm rooms) (agrees : ∀ userId, cache.Agrees userId (rooms userId)) :
    (worker.handleSubscribe cache websocket roomId).manager.Warm rooms := by
  unfold Worker.handleSubscribe
  split
  · exact warm
  · rename_i userId served
    split_ifs
    · have asked : ((worker.checked cache userId roomId).manager).Warm rooms := warm.warmed agrees
      unfold Worker.step
      dsimp only
      split
      · exact asked
      · exact asked
    · exact warm

theorem warm_disconnect {rooms : String -> Finset String} (warm : worker.manager.Warm rooms) :
    (worker.step (.disconnect websocket)).manager.Warm rooms := by
  unfold Worker.step
  dsimp only
  split
  · exact warm
  · rename_i session _
    split_ifs
    · exact warm
    · cases session with
      | user userId => exact warm.disconnect
      | provider peerId => exact warm

theorem warm_sendFailed {rooms : String -> Finset String} (warm : worker.manager.Warm rooms) :
    (worker.step (.sendFailed websocket)).manager.Warm rooms := by
  unfold Worker.step
  dsimp only
  split
  · exact warm
  · exact warm.dropDeadSocket
  · exact warm

theorem warmAt_step (proper : deployment.Proper) (coherent : deployment.Coherent)
    (warm : deployment.WarmAt id) (handled : ∀ other, event.worker? = some other -> other = id) :
    (deployment.step event).WarmAt id := by
  cases event with
  | connect handler websocket userId =>
    cases handled handler rfl
    unfold WarmAt step
    dsimp only
    split
    · exact warm
    · rename_i fresh
      dsimp only
      rw [updated_self, coherent.resolve]
      unfold Worker.connectRooms Worker.step
      dsimp only
      rw [fresh]
      exact warm.connect (proper userId)
  | disconnect handler websocket =>
    cases handled handler rfl
    unfold WarmAt step
    dsimp only
    rw [updated_self]
    exact warm_disconnect warm
  | sendFailed handler websocket =>
    cases handled handler rfl
    unfold WarmAt step
    dsimp only
    rw [updated_self]
    exact warm_sendFailed warm
  | subscribe handler websocket roomId =>
    cases handled handler rfl
    unfold WarmAt step
    dsimp only
    rw [updated_self]
    exact warm_handleSubscribe warm coherent
  | unsubscribe handler websocket roomId =>
    cases handled handler rfl
    unfold WarmAt step
    dsimp only
    rw [updated_self]
    exact warm
  | check handler userId roomId =>
    cases handled handler rfl
    unfold WarmAt step
    dsimp only
    rw [updated_self]
    exact warm.warmed coherent
  | join handler userId room =>
    cases handled handler rfl
    unfold WarmAt step
    dsimp only
    rw [updated_self]
    exact warm.grant room.proper
  | leave handler userId room =>
    cases handled handler rfl
    unfold WarmAt step
    dsimp only
    rw [updated_self]
    exact warm.unsubscribeUserFromRoom
  | expire userId => exact warm

/-! ## Runs -/

theorem step_connect (fresh : (deployment.workers id).sessions websocket = none) :
    deployment.step (.connect id websocket userId) =
      { deployment with
        cache := deployment.cache.replace userId (deployment.resolveUserRoomIds userId)
        workers := deployment.updated id ((deployment.workers id).connectRooms websocket userId
          (deployment.resolveUserRoomIds userId)) } := by
  unfold step
  dsimp only
  rw [fresh]

theorem connect_member (fresh : (deployment.workers id).sessions websocket = none)
    (room : roomId ∈ deployment.resolveUserRoomIds userId) :
    ((deployment.step (.connect id websocket userId)).workers id).manager.userIsRoomMember
      (deployment.step (.connect id websocket userId)).cache userId roomId = true := by
  rw [step_connect fresh, ConnectionManager.userIsRoomMember_iff]
  left
  dsimp only
  rw [updated_self]
  unfold Worker.connectRooms Worker.withManager ConnectionManager.setUserRoomMemberships
  dsimp only
  rw [members_of_get? get?_set_self]
  exact room

theorem coherent_empty : ({} : Deployment Id Socket).Coherent :=
  fun _ listed found => by simp [RoomMembershipCache.getRooms, RoomMembershipCache.Known,
    RoomMembershipCache.empty] at found

theorem warmAt_empty : ({} : Deployment Id Socket).WarmAt id :=
  fun userId connected => by simp [socketsOf, Dict.empty] at connected

/-- The cache can be trusted throughout a run.  While one worker handles all
events, this also goes for users that stay connected. -/
structure Trusted (events : List (Event Id Socket)) : Prop where
  keys : ∀ front back, events = front ++ back -> ∀ userId listed,
    (run front).cache.getRooms userId = some listed -> listed = (run front).rooms userId
  admitted : ∀ front id websocket userId back,
    events = front ++ .connect id websocket userId :: back ->
    ((run front).workers id).sessions websocket = none ->
    ∀ room, room ∈ (run front).rooms userId ->
      ((run (front ++ [.connect id websocket userId])).workers id).manager.userIsRoomMember
        (run (front ++ [.connect id websocket userId])).cache userId room = true
  outsiders : ∀ front back, events = front ++ back -> ∀ userId room, room ≠ emptyMarker ->
    room ∉ (run front).rooms userId -> (run front).cache.contains userId room = false
  alone : ∀ id, (∀ event, event ∈ events -> ∀ other,
      event.worker? = some other -> other = id) ->
    ∀ front back, events = front ++ back -> ∀ userId room, room ≠ emptyMarker ->
      socketsOf ((run front).workers id).manager.connections userId ≠ [] ->
      (((run front).workers id).manager.userIsRoomMember (run front).cache userId room = true ↔
        room ∈ (run front).rooms userId)

/-- The cache can be trusted throughout a run exactly when every grant of the
run finds a key or a user without other rooms. -/
theorem trusted_iff (events : List (Event Id Socket)) :
    Trusted events ↔ Meets step Complete {} events := by
  have coherent : (∀ front back, events = front ++ back -> (run front).Coherent) ↔
      Meets step Complete {} events :=
    @meets_iff_throughout (Deployment Id Socket) (Event Id Socket) step Complete {} events Proper
      Coherent (fun _ => True) (fun _ event proper _ => proper_step proper event)
      (fun _ event proper coherent _ => coherent_step_iff proper coherent event)
      (fun _ => Finset.notMem_empty _) coherent_empty (fun _ _ => trivial)
  rw [← coherent]
  constructor
  · intro trusted front back split userId
    exact trusted.keys front back split userId
  · intro throughout
    refine ⟨throughout, ?_, ?_, ?_⟩
    · intro front id websocket userId back split fresh room member
      have before := throughout front (.connect id websocket userId :: back) split
      have later : run (front ++ [.connect id websocket userId]) =
          (run front).step (.connect id websocket userId) := List.foldl_append ..
      rw [later]
      refine connect_member fresh ?_
      rw [before.resolve]
      exact member
    · intro front back split userId room proper outside
      rw [Bool.eq_false_iff]
      intro contained
      exact outside ((throughout front back split userId).mem proper (contains_iff.mp contained))
    · intro id handled front back split userId room proper connected
      have meets : Meets step (fun deployment event => Complete deployment event ∧
          ∀ other, event.worker? = some other -> other = id) ({} : Deployment Id Socket) front := by
        have all := coherent.mp throughout
        rw [split] at all
        refine (meets_append.mp all).1.and_of_forall (fun event member => ?_)
        exact handled event (split ▸ List.mem_append_left _ member)
      have kept : (run front).Proper ∧ (run front).Coherent ∧ (run front).WarmAt id := by
        have first : Proper ({} : Deployment Id Socket) ∧ Coherent ({} : Deployment Id Socket) ∧
            WarmAt ({} : Deployment Id Socket) id :=
          ⟨fun _ => Finset.notMem_empty _, coherent_empty, warmAt_empty⟩
        refine @Meets.invariant _ _ _ _ _ _ (fun deployment => deployment.Proper ∧
          deployment.Coherent ∧ deployment.WarmAt id) meets first ?_
        rintro deployment event ⟨proper, coherent, warm⟩ ⟨complete, handled⟩
        exact ⟨proper_step proper event, (coherent_step_iff proper coherent event).mpr complete,
          warmAt_step proper coherent warm handled⟩
      exact kept.2.2.userIsRoomMember_iff (kept.2.1 userId) proper connected

/-- The key of a user expires between two grants.  The second one makes a key
without the first room, and the user is refused that room once it connects. -/
theorem member_refused :
    let first : RoomId := ⟨"room-a", by decide⟩
    let second : RoomId := ⟨"room-b", by decide⟩
    let events : List (Event Unit Nat) := [.join () "user" first, .expire "user",
      .join () "user" second, .connect () 1 "user"]
    let deployment := run events
    deployment.cache.getRooms "user" = some {"room-b"} ∧
      deployment.rooms "user" = {"room-a", "room-b"} ∧
      (deployment.workers ()).manager.userIsRoomMember deployment.cache "user" "room-a" = false := by
  decide

end Deployment

end Websockets
end ZepGpu
