import ZepGpu.Rooms.Tables

namespace ZepGpu
namespace Vpn

open Foundation Rooms

/-!
# Joining and leaving a network

A request reads and commits several times and holds no lock.  Between two of
its database operations others run, and what it has read stays as it was read:
the sessions do not expire their objects at a commit.

A state is the tables together with the requests under way, each at some point
of its code.  An event lets one request perform its next operation.  A commit
that has nothing to wait for is one operation with the statements before it.
-/

inductive IpVersion where
  | v4
  | v6
  deriving DecidableEq, Repr

def IpVersion.maxPrefixlen : IpVersion -> Nat
  | .v4 => 32
  | .v6 => 128

/-- What `ipaddress.ip_network` reads from a text.  An address stands for its
text. -/
structure IpNetwork where
  version : IpVersion
  networkAddress : Nat
  prefixlen : Nat
  fits : prefixlen ≤ version.maxPrefixlen
  aligned : 2 ^ (version.maxPrefixlen - prefixlen) ∣ networkAddress
  deriving DecidableEq

namespace IpNetwork

def numAddresses (net : IpNetwork) : Nat :=
  2 ^ (net.version.maxPrefixlen - net.prefixlen)

def broadcastAddress (net : IpNetwork) : Nat :=
  net.networkAddress + net.numAddresses - 1

/-- `hosts()`: networks of one or two addresses have them all as hosts. -/
def hosts (net : IpNetwork) : List Nat :=
  if net.prefixlen + 1 < net.version.maxPrefixlen then
    match net.version with
    | .v4 => List.range' (net.networkAddress + 1) (net.numAddresses - 2)
    | .v6 => List.range' (net.networkAddress + 1) (net.numAddresses - 1)
  else List.range' net.networkAddress net.numAddresses

end IpNetwork

/-- The errors of the routes, and exceptions that no route answers. -/
inductive JoinError where
  | http (statusCode : Nat) (detail : String)
  | valueError (message : String)
  | runtimeError (message : String)
  | lookupError (message : String)
  | providerRevoked (message : String)
  /-- What the database layer raises for a taken key, for a row that is gone at
  an update, and for a row that is gone at a refresh. -/
  | integrityError
  | staleDataError
  | invalidRequestError
  deriving DecidableEq, Repr

/-- `allocate_vpn_ip`; a text that is not a network is none. -/
def allocateVpnIp (cidr : Option IpNetwork) (used : List Nat) : Except JoinError Nat :=
  match cidr with
  | none => .error (.valueError "does not appear to be an IPv4 or IPv6 network")
  | some net =>
    match net.hosts.find? (fun ip => ip ∉ used ∧ ip ∉ [net.networkAddress, net.broadcastAddress]) with
    | none => .error (.runtimeError "No available IPs")
    | some ip => .ok ip

theorem allocateVpnIp_eq_ok {cidr : Option IpNetwork} {used : List Nat} {ip : Nat}
    (allocated : allocateVpnIp cidr used = .ok ip) :
    ∃ net, cidr = some net ∧ ip ∈ net.hosts ∧ ip ∉ used := by
  unfold allocateVpnIp at allocated
  cases cidr with
  | none => cases allocated
  | some net =>
    dsimp only at allocated
    split at allocated
    next => cases allocated
    next found isFound =>
      cases allocated
      have passed := List.find?_some isFound
      rw [decide_eq_true_eq] at passed
      exact ⟨net, rfl, List.mem_of_find?_eq_some isFound, passed.1⟩

/-- The row of a network. -/
structure VpnNetwork where
  id : Uuid
  cidr : Option IpNetwork
  hostId : Option Uuid
  deriving DecidableEq

/-- The row of a peer. -/
structure VpnPeer where
  id : Uuid
  userId : Uuid
  vpnNetworkId : Uuid
  wireguardPublicKey : String
  vpnIp : Nat
  isGpuHost : Bool := false
  isRelay : Bool := false
  nodeName : Option String := none
  providerMode : Option String := none
  authToken : Option String := none
  tokenExpiresAt : Option Time := none
  tokenRevokedAt : Option Time := none
  revokedAt : Option Time := none
  deriving DecidableEq

/-- The row of an invite. -/
structure VpnInvite where
  code : String
  vpnNetworkId : Uuid
  maxUses : Int := 1
  usedCount : Int := 0
  expiresAt : Option Time := none
  isRevoked : Bool := false
  deriving DecidableEq

/-- The rows that joining and leaving read and write. -/
structure Tables where
  networks : Dict Uuid VpnNetwork := Dict.empty
  invites : Dict String VpnInvite := Dict.empty
  peers : List VpnPeer := []

def VpnInvite.isValid (invite : VpnInvite) (now : Time) : Bool :=
  !invite.isRevoked && decide (invite.usedCount < invite.maxUses) &&
    invite.expiresAt.all (fun expiresAt => decide (now ≤ expiresAt))

namespace Tables

variable (tables : Tables)

/-- `PeerRepository.get_by_network` -/
def peersOf (networkId : Uuid) : List VpnPeer :=
  tables.peers.filter (fun peer => peer.vpnNetworkId = networkId)

/-- `_get_current_user_peer` -/
def currentUserPeer (userId networkId : Uuid) : Option VpnPeer :=
  (tables.peersOf networkId).find? (fun peer => peer.userId = userId)

def peer? (id : Uuid) : Option VpnPeer :=
  tables.peers.find? (fun peer => peer.id = id)

def updatePeer (id : Uuid) (change : VpnPeer -> VpnPeer) : Tables :=
  { tables with peers := tables.peers.map (fun peer => if peer.id = id then change peer else peer) }

/-- The commit of an inserted peer; identifiers and public keys are unique. -/
def insertPeer (peer : VpnPeer) : Option Tables :=
  if tables.peers.any (fun other => other.id = peer.id ||
      other.wireguardPublicKey = peer.wireguardPublicKey) then none
  else some { tables with peers := tables.peers ++ [peer] }

/-- `PeerRepository.delete` -/
def deletePeer (id : Uuid) : Tables :=
  { tables with peers := tables.peers.filter (fun peer => peer.id ≠ id) }

end Tables

/-- Rooms are networks; each has routes of its own. -/
inductive Route where
  | room
  | network
  deriving DecidableEq, Repr

/-- A request to join, by one of the two routes. -/
structure JoinRequest where
  route : Route
  userId : Uuid
  inviteCode : String
  wireguardPublicKey : Option String := none
  isGpuHost : Bool := false
  nodeName : Option String := none
  providerMode : Option String := none
  deriving DecidableEq

/-- A request to leave, by one of the two routes. -/
structure LeaveRequest where
  route : Route
  userId : Uuid
  networkId : Uuid
  deriving DecidableEq

inductive Request where
  | join (request : JoinRequest)
  | leave (request : LeaveRequest)
  deriving DecidableEq

/-- The operations of a join that follow the commit of the peer. -/
inductive Provision where
  | refresh
  | setMode
  | setAuthToken
  | reload
  | setExpiry
  | findPeer
  | useInvite
  deriving DecidableEq, Repr

/-- What is left to do once the peer is committed. -/
def Route.provisions : Route -> List Provision
  | .room => [.refresh, .setMode, .refresh, .setAuthToken, .reload, .setExpiry, .refresh, .findPeer,
      .useInvite]
  | .network => [.refresh, .useInvite, .setAuthToken, .reload, .setExpiry, .refresh]

/-- Where a request is in its code, with what it has read. -/
inductive Phase where
  | waiting
  | refused (error : JoinError)
  | invited (invite : VpnInvite)
  | located (invite : VpnInvite) (network : VpnNetwork)
  | screened (invite : VpnInvite) (network : VpnNetwork)
  | surveyed (invite : VpnInvite) (network : VpnNetwork) (used : List Nat)
  | placed (invite : VpnInvite) (network : VpnNetwork) (vpnIp : Nat)
  | joined (invite : VpnInvite) (peerId : Uuid) (rest : List Provision)
  /-- The peer is committed and the request has raised. -/
  | failed (invite : VpnInvite) (peerId : Uuid) (error : JoinError)
  | departing (network : VpnNetwork)
  | departingMember (network : VpnNetwork)
  | leaving (peerId : Uuid)
  | left
  deriving DecidableEq

/-- A request in progress, with what it has read so far. -/
structure Session where
  request : Request
  phase : Phase := .waiting
  deriving DecidableEq

/-- The committed tables and the requests in progress. -/
structure State where
  tables : Tables
  sessions : List Session

/-- The request at a place performs its next operation: when, and what is drawn
at random there. -/
structure Event where
  index : Nat
  now : Time
  peerId : Uuid := 0
  publicKey : String := ""
  token : String := ""

structure Settings where
  defaultProviderMode : String
  providerTokenTtl : Time

/-- A text that is present and not empty. -/
def truthy (text : Option String) : Option String :=
  text.filter (fun text => text ≠ "")

def Phase.ofExcept : Except JoinError Phase -> Phase
  | .error error => .refused error
  | .ok phase => phase

section Operations

variable (settings : Settings) (tables : Tables) (request : JoinRequest) (event : Event)

def readInvite : Except JoinError Phase :=
  match request.route, tables.invites.get? request.inviteCode with
  | .room, none => .error (.http 404 "Invite not found")
  | .network, none => .error (.http 404 "Invalid invite code")
  | .room, some invite => do
      raiseIf invite.isRevoked (.http 410 "Invite has been revoked")
      raiseIf (invite.maxUses ≤ invite.usedCount) (.http 410 "Invite usage limit reached")
      raiseIf (invite.expiresAt.any (fun expiresAt => decide (expiresAt < event.now)))
        (.http 410 "Invite has expired")
      .ok (.invited invite)
  | .network, some invite => do
      raiseIf (!invite.isValid event.now) (.http 400 "Invite is expired or fully used")
      .ok (.invited invite)

def readNetwork (invite : VpnInvite) : Except JoinError Phase :=
  match request.route, tables.networks.get? invite.vpnNetworkId with
  | .room, none => .error (.http 404 "Room not found")
  | .network, none => .error (.http 404 "Network not found")
  | _, some network => .ok (.located invite network)

/-- The search for a peer of the user.  The route of networks keeps the
addresses of the peers that it has read. -/
def readMembers (invite : VpnInvite) (network : VpnNetwork) : Except JoinError Phase :=
  match request.route with
  | .room => do
      raiseIf (tables.currentUserPeer request.userId network.id).isSome
        (.http 409 "User has already joined this room")
      .ok (.screened invite network)
  | .network => do
      raiseIf (tables.currentUserPeer request.userId network.id).isSome
        (.http 400 "Already a member of this network")
      .ok (.surveyed invite network ((tables.peersOf network.id).map VpnPeer.vpnIp))

def place (invite : VpnInvite) (network : VpnNetwork) (used : List Nat) : Except JoinError Phase := do
  let vpnIp ← allocateVpnIp network.cidr used
  .ok (.placed invite network vpnIp)

/-- The search for the public key of the request, which is not the key that the
peer gets. -/
def readKey (invite : VpnInvite) (network : VpnNetwork) (used : List Nat) : Except JoinError Phase := do
  raiseIf ((truthy request.wireguardPublicKey).any (fun key =>
      tables.peers.any (fun peer => peer.wireguardPublicKey = key)))
    (.http 400 "This public key is already registered")
  place invite network used

def newPeer (network : VpnNetwork) (vpnIp : Nat) : VpnPeer where
  id := event.peerId
  userId := request.userId
  vpnNetworkId := network.id
  wireguardPublicKey := event.publicKey
  vpnIp := vpnIp
  isGpuHost := match request.route with
    | .room => false
    | .network => request.isGpuHost

def requestedMode : Option String :=
  match request.route with
  | .room => some ((truthy request.providerMode).getD settings.defaultProviderMode)
  | .network => none

/-- What an operation makes of the row of the peer, or the error without it. -/
def provisionPeer : Provision -> Option VpnPeer -> Except JoinError VpnPeer
  | .refresh, none => .error .invalidRequestError
  | .refresh, some peer => .ok peer
  | .setMode, none => .error .staleDataError
  | .setMode, some peer => .ok { peer with
      nodeName := (truthy request.nodeName).or peer.nodeName
      providerMode := some ((truthy request.providerMode).getD settings.defaultProviderMode) }
  | .setAuthToken, none => .error .staleDataError
  | .setAuthToken, some peer =>
    if peer.revokedAt.isSome || peer.tokenRevokedAt.isSome then
      .error (.providerRevoked "Cannot issue credentials for a revoked provider")
    else .ok { peer with authToken := some event.token }
  | .reload, none => .error (.lookupError "Peer not found after token issue")
  | .reload, some peer => .ok peer
  | .setExpiry, none => .error .staleDataError
  | .setExpiry, some peer => .ok { peer with
      tokenExpiresAt := some (event.now + settings.providerTokenTtl)
      tokenRevokedAt := none
      providerMode := (truthy (requestedMode settings request)).or
        (peer.providerMode.or (some settings.defaultProviderMode)) }
  | .findPeer, none => .error (.http 500 "Failed to provision provider credentials")
  | .findPeer, some peer => .ok peer
  | .useInvite, none => .error .invalidRequestError
  | .useInvite, some peer => .ok peer

/-- `VpnInviteRepository.use` with the invite as it was read; its answer is not
looked at. -/
def useInvite (invite : VpnInvite) (peerId : Uuid) (rest : List Provision) : Tables × Phase :=
  if invite.isValid event.now then
    match tables.invites.get? invite.code with
    | none => (tables, .failed invite peerId .staleDataError)
    | some row =>
      ({ tables with
          invites := tables.invites.set invite.code { row with usedCount := invite.usedCount + 1 } },
        .joined { invite with usedCount := invite.usedCount + 1 } peerId rest)
  else (tables, .joined invite peerId rest)

def provision (invite : VpnInvite) (peerId : Uuid) (operation : Provision) (rest : List Provision) :
    Tables × Phase :=
  if operation = .useInvite then useInvite tables event invite peerId rest
  else
    match provisionPeer settings request event operation (tables.peer? peerId) with
    | .error error => (tables, .failed invite peerId error)
    | .ok peer => (tables.updatePeer peerId (fun _ => peer), .joined invite peerId rest)

/-- The next operation of `join_room` or `join_network`. -/
def performJoin : Phase -> Tables × Phase
  | .waiting => (tables, Phase.ofExcept (readInvite tables request event))
  | .invited invite => (tables, Phase.ofExcept (readNetwork tables request invite))
  | .located invite network => (tables, Phase.ofExcept (readMembers tables request invite network))
  | .screened invite network =>
    (tables, Phase.ofExcept (place invite network ((tables.peersOf network.id).map VpnPeer.vpnIp)))
  | .surveyed invite network used =>
    (tables, Phase.ofExcept (readKey tables request invite network used))
  | .placed invite network vpnIp =>
    match tables.insertPeer (newPeer request event network vpnIp) with
    | none => (tables, .refused .integrityError)
    | some tables => (tables, .joined invite event.peerId request.route.provisions)
  | .joined invite peerId (operation :: rest) =>
    provision settings tables request event invite peerId operation rest
  | phase => (tables, phase)

end Operations

/-- The next operation of `leave_room` or `leave_vpn_network`.  What leaving does
to the GPUs of the peer is not here. -/
def performLeave (tables : Tables) (request : LeaveRequest) : Phase -> Tables × Phase
  | .waiting =>
    (tables, match request.route, tables.networks.get? request.networkId with
      | .room, none => .refused (.http 404 "Room not found")
      | .network, none => .refused (.http 404 "Network not found")
      | _, some network => .departing network)
  | .departing network =>
    (tables,
      if (tables.currentUserPeer request.userId request.networkId).isSome then
        .departingMember network
      else match request.route with
        | .room => .refused (.http 403 "You do not have access to this room")
        | .network => .refused (.http 403 "Not a member of this VPN network"))
  | .departingMember network =>
    (tables, match request.route, tables.currentUserPeer request.userId request.networkId with
      | .room, none => .refused (.http 404 "Room membership not found")
      | .network, none => .refused (.http 404 "Peer not found for user")
      | .room, some peer =>
        if network.hostId = some request.userId then
          .refused (.http 409 "The room host cannot leave; archive the room instead")
        else .leaving peer.id
      | .network, some peer => .leaving peer.id)
  | .leaving peerId =>
    match request.route, tables.peer? peerId with
    | .room, none => (tables, .refused (.http 404 "Room membership not found"))
    | _, _ => (tables.deletePeer peerId, .left)
  | phase => (tables, phase)

def perform (settings : Settings) (tables : Tables) (event : Event) (session : Session) :
    Tables × Phase :=
  match session.request with
  | .join request => performJoin settings tables request event session.phase
  | .leave request => performLeave tables request session.phase

/-- One event: the request that it names performs its next operation. -/
def State.step (settings : Settings) (state : State) (event : Event) : State :=
  match state.sessions[event.index]? with
  | none => state
  | some session =>
    let (tables, phase) := perform settings state.tables event session
    { tables := tables, sessions := state.sessions.set event.index { session with phase := phase } }

def State.start (tables : Tables) (requests : List Request) : State where
  tables := tables
  sessions := requests.map (fun request => { request := request })

end Vpn
end ZepGpu
