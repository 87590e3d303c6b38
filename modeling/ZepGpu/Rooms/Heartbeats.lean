import ZepGpu.Rooms.Reservations

namespace ZepGpu
namespace Rooms

open Foundation

/-!
# Heartbeats of providers

A provider reports its GPUs with every heartbeat, each with a state.  The
report is copied into the row of the share, or becomes a new row, and each GPU
is committed on its own.  The room route stores the reported text of the state
as it is, which the column accepts when it is a member's value or name; the
network route replaces an unknown text by the idle state.
-/

/-- `gpu.model_dump()` of the room route, or the dictionary that the network
route builds.  The last three keys are each in one of them only. -/
structure GpuData where
  deviceIndex : Int
  name : Option String := none
  totalMemoryMb : Int
  availableMemoryMb : Int
  computeCapability : Option String := none
  gpuType : String := "nvidia"
  state : String := "idle"
  utilizationPercent : Option Rat := none
  temperatureCelsius : Option (Option Rat) := none
  powerWatts : Option (Option Rat) := none
  isActive : Option Bool := none

/-- What the state column makes of a text: the value of a member, or its name,
which is the label of the database type. -/
def stateOfText (text : String) : Option GpuShareState :=
  if text = "idle" ∨ text = "IDLE" then some .idle
  else if text = "allocated" ∨ text = "ALLOCATED" then some .allocated
  else if text = "unavailable" ∨ text = "UNAVAILABLE" then some .unavailable
  else none

/-- `setattr(share, key, value)` for every key of the data -/
def GpuShare.reported (share : GpuShare) (data : GpuData) (state : GpuShareState) : GpuShare :=
  { share with
    deviceIndex := data.deviceIndex
    name := data.name
    totalMemoryMb := data.totalMemoryMb
    availableMemoryMb := data.availableMemoryMb
    computeCapability := data.computeCapability
    gpuType := data.gpuType
    state := state
    utilizationPercent := data.utilizationPercent
    temperatureCelsius := data.temperatureCelsius.getD share.temperatureCelsius
    powerWatts := data.powerWatts.getD share.powerWatts
    isActive := data.isActive.getD share.isActive }

/-- `GpuShare(peer_id=..., vpn_network_id=..., **gpu_data)` -/
def GpuData.share (data : GpuData) (peerId vpnNetworkId : Uuid) (state : GpuShareState) :
    GpuShare where
  peerId := peerId
  vpnNetworkId := vpnNetworkId
  deviceIndex := data.deviceIndex
  name := data.name
  totalMemoryMb := data.totalMemoryMb
  availableMemoryMb := data.availableMemoryMb
  computeCapability := data.computeCapability
  gpuType := data.gpuType
  state := state
  utilizationPercent := data.utilizationPercent
  temperatureCelsius := data.temperatureCelsius.getD none
  powerWatts := data.powerWatts.getD none
  isActive := data.isActive.getD true

def GpuData.ofNetworkPayload (data : GpuData) : GpuData :=
  { data with
    state := if data.state ∈ ["idle", "allocated", "unavailable"] then data.state else "idle"
    temperatureCelsius := none
    powerWatts := none
    isActive := some true }

def GpuData.ofRoomPayload (data : GpuData) : GpuData :=
  { data with
    temperatureCelsius := some (data.temperatureCelsius.getD none)
    powerWatts := some (data.powerWatts.getD none)
    isActive := none }

namespace Database

variable (db : Database)

def sharesOfDevice (peerId : Uuid) (deviceIndex : Int) : List Uuid :=
  select db.shares (fun share => share.peerId = peerId ∧ share.deviceIndex = deviceIndex)

/-- `GpuShareRepository.upsert` -/
def upsertBody (peerId vpnNetworkId newId : Uuid) (data : GpuData) :
    Except RoomError (Uuid × Database) :=
  match db.sharesOfDevice peerId data.deviceIndex, stateOfText data.state with
  | _ :: _ :: _, _ => .error .multipleResultsFound
  | _, none => .error (.dataError "gpu_shares.state")
  | [shareId], some state =>
    match db.shares.get? shareId with
    | none => .error .multipleResultsFound
    | some share => .ok (shareId, db.setShare shareId (share.reported data state))
  | [], some state =>
    if newId ∈ db.shares.keys then .error (.dataError "gpu_shares.id")
    else .ok (newId, db.setShare newId (data.share peerId vpnNetworkId state))

/-- The loop over the reported GPUs, each with the identifier that its row gets
when it is new. -/
def upsertAll (peerId vpnNetworkId : Uuid) :
    List (Uuid × GpuData) -> Database -> Outcome Database RoomError Unit
  | [], db => ⟨.ok (), db⟩
  | (newId, data) :: rest, db =>
    (transaction (fun db => db.upsertBody peerId vpnNetworkId newId data) db).andThen
      (fun _ db => upsertAll peerId vpnNetworkId rest db)

/-- `PeerRepository.heartbeat` -/
def peerHeartbeat (peerId : Uuid) (isOnline : Bool) (markGpuHost : Option Bool) :
    Option Peer × Database :=
  match db.peers.get? peerId with
  | none => (none, db)
  | some peer =>
    let seen := { peer with
      onlineStatus := if isOnline then .online else .offline
      isGpuHost := markGpuHost.getD peer.isGpuHost }
    (some seen, { db with peers := db.peers.set peerId seen })

/-- The heartbeat route of a room, for a provider that has been verified. -/
def roomNodeHeartbeat (roomId peerId : Uuid) (isOnline : Bool) (gpuStatus : List (Uuid × GpuData)) :
    Outcome Database RoomError Unit :=
  match db.peerHeartbeat peerId isOnline (some (gpuStatus ≠ [])) with
  | (none, db) => ⟨.error (.httpException 404 "Node not found"), db⟩
  | (some _, db) => upsertAll peerId roomId
      (gpuStatus.map (fun gpu => (gpu.1, gpu.2.ofRoomPayload))) db

def networkPeerHeartbeat (peerId : Uuid) (isOnline : Bool) (gpuStatus : List (Uuid × GpuData)) :
    Outcome Database RoomError Unit :=
  match db.peers.get? peerId with
  | none => ⟨.error (.httpException 404 "Peer not found"), db⟩
  | some peer =>
    upsertAll peerId peer.vpnNetworkId (gpuStatus.map (fun gpu => (gpu.1, gpu.2.ofNetworkPayload)))
      (db.peerHeartbeat peerId isOnline (if gpuStatus = [] then none else some true)).2

end Database

end Rooms
end ZepGpu
